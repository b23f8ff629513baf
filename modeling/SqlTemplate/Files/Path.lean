import SqlTemplate.Text.Fields
import SqlTemplate.Text.Quoted

/-!
# Paths

A path is where it starts and the names it goes along. Reading one drops what makes no difference to
where it leads: doubled and final slashes, and the name `.`, which stays where it is. The name `..`
is kept, because where it leads depends on what the names before it are. So a path is shown in the
form in which it was understood, not as it was typed.

A template is addressed by its base path, with or without the ending of its file (`of`). The file
itself and the file of a dialect's overrides then stand side by side, and **both names are made from
the last name of the base path**. A path that has no last name has no such neighbours, and neither
does a dialect whose name would leave the directory.
-/

set_option autoImplicit false

namespace SqlTemplate

structure Path where
  /-- What an absolute path starts with: a slash, or two of them; empty for a relative path. -/
  root : String
  /-- The names, in order. -/
  parts : List String
  deriving DecidableEq

inductive NameFault where
  | noName (path : Path)
  | notAName (text : String)
  deriving DecidableEq

namespace Path

/-- The start of a path that begins with so many slashes. -/
def rootOf : (slashes : Nat) → String
  | 0 => ""
  | 2 => "//"
  | _ => "/"

def isName (field : List Char) : Bool := !field.isEmpty && field != ['.']

def ofText (text : String) : Path where
  root := rootOf (text.toList.takeWhile (· = '/')).length
  parts := ((Text.fields '/' text.toList).filter isName).map String.ofList

def joinNames (names : List String) : String := "/".intercalate names

def text (path : Path) : String :=
  if path.root.isEmpty && path.parts.isEmpty then "." else path.root ++ joinNames path.parts

def isAbsolute (path : Path) : Bool := !path.root.isEmpty

def absolute (names : List String) : Path := ⟨"/", names⟩

def ending : List Char := ['.', 'e', 'l', 's', 'q', 'l']

def hasEnding (name : String) : Bool := ending.isSuffixOf name.toList

/-- A name without the ending of template files, if something comes before it. -/
def stem (name : String) : String :=
  if hasEnding name && ending.length < name.toList.length then
    String.ofList (name.toList.take (name.toList.length - ending.length))
  else name

/-- The file with another last name in the directory of a path. -/
def sibling (path : Path) (name : String) : Except NameFault Path :=
  if name.toList.contains '/' then .error (.notAName name)
  else .ok { path with parts := path.parts.dropLast ++ [name] }

/-- The last name of a base path, without the ending of template files. -/
def baseName (base : Path) : Except NameFault String :=
  match base.parts.getLast? with
  | none => .error (.noName base)
  | some name => .ok (stem name)

def templateFile (base : Path) : Except NameFault Path := do
  base.sibling ((← base.baseName) ++ String.ofList ending)

/-- The file of a dialect's overrides beside the template file of a base path. -/
def overrideFile (base : Path) (dialect : String) : Except NameFault Path := do
  base.sibling ((← base.baseName) ++ "-" ++ dialect ++ String.ofList ending)

example : (ofText "a//./b/").parts = ["a", "b"] := by decide +kernel
example : (ofText "").text = "." := by decide +kernel
example : stem "Users.v2.elsql" = "Users.v2" := by decide +kernel
example : stem ".elsql" = ".elsql" := by decide +kernel

end Path

def NameFault.message : NameFault → String
  | .noName path => s!"PosixPath({Text.quoted path.text}) has an empty name"
  | .notAName text => s!"Invalid name {Text.quoted text}"

end SqlTemplate
