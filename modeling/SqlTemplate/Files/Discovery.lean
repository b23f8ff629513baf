import SqlTemplate.Files.Disk
import SqlTemplate.Library
import SqlTemplate.Line
import SqlTemplate.Order

/-!
# Finding template files

An input is a file, which is taken as it is whatever its name, or a directory, which stands for the
template files below it at any depth (`resolve_inputs`, `discover_files`). What an ignore pattern
matches is passed over: a file by its path from the searched directory, a directory by that path
with a slash after it, and **with a directory everything below it**, so that nothing in it can be
taken back. What patterns mean is for the library to say (`build_exclude_spec`).

The files of a directory come in the order of their paths, as text and not name by name. The order
in which the entries of a directory happen to be listed cannot be seen. A search goes by names
alone: a special entry that has the ending of template files is found as well, and only turns out
to be no file when it is to be read.
-/

set_option autoImplicit false

namespace SqlTemplate

inductive LoadError where
  /-- No template file at a path. -/
  | notFound (path : Path)
  /-- A template file that is not text. -/
  | unreadable (path : Path)
  /-- An input that is neither a file nor a directory. -/
  | noInput (path : Path)
  | pattern (fault : LibraryFault)
  | name (fault : NameFault)
  | format (error : FormatError)

def LoadError.message : LoadError → String
  | .notFound path => s!"Template file not found: {path.text}"
  | .unreadable path => s!"Cannot read template file {path.text}"
  | .noInput path => s!"Input not found: {path.text}"
  | .pattern fault => fault.message
  | .name fault => fault.message
  | .format error => error.message

def LoadError.kind : LoadError → ErrorKind
  | .pattern fault => fault.kind
  | .name _ => .value
  | .format _ => .format
  | _ => .load

/-- The lines of ignore patterns: without the white space around them, and without blank ones. -/
def strippedLines (patterns : List String) : List (List Char) :=
  (patterns.map fun pattern => Text.trim pattern.toList).filter fun line => !line.isEmpty

/-- Which paths patterns match. Without a line the library is not asked. -/
def Library.matcher (library : Library) (patterns : List String) :
    Except LibraryFault (List Char → Bool) :=
  match strippedLines patterns with
  | [] => .ok fun _ => false
  | lines => library.readPatterns lines

namespace Entry

/-- The path of a template file, unless it is passed over. -/
def templateAt (ignored : List Char → Bool) (above : List String) (name : String) :
    List (List String) :=
  let path := above ++ [name]
  if Path.hasEnding name && !ignored (Path.joinNames path).toList then [path] else []

mutual

/-- The template files at an entry that are not passed over, as names from the searched directory,
to which `above` leads down. -/
def templates (ignored : List Char → Bool) (above : List String) : Entry → List (List String)
  | .file name _ => templateAt ignored above name
  | .special name => templateAt ignored above name
  | .directory name entries =>
    let path := above ++ [name]
    if ignored ((Path.joinNames path).toList ++ ['/']) then []
    else templatesIn ignored path entries

def templatesIn (ignored : List Char → Bool) (above : List String) :
    List Entry → List (List String)
  | [] => []
  | e :: rest => templates ignored above e ++ templatesIn ignored above rest

end

end Entry

def pathLe (a b : List String) : Bool := Order.textLe (Path.joinNames a) (Path.joinNames b)

/-- The template files below a directory that are not passed over, in order. -/
def Position.templates (p : Position) (ignored : List Char → Bool) : List (List String) :=
  Order.sortBy pathLe (Entry.templatesIn ignored [] p.entries)

/-- The template files below a directory, as absolute paths, without those that match ignore
patterns. -/
def Position.discover (p : Position) (library : Library) (patterns : List String) :
    Except LoadError (List Path) := do
  let ignored ← (library.matcher patterns).mapError .pattern
  return (p.templates ignored).map fun names => Path.absolute (p.names ++ names)

namespace Disk

/-- The template files below the directory at a path; where no directory is, there are none. -/
def discover (disk : Disk) (library : Library) (root : Path) (patterns : List String) :
    Except LoadError (List Path) :=
  ((disk.directory? root).getD ⟨[], []⟩).discover library patterns

def expand (disk : Disk) (library : Library) (patterns : List String) (input : Path) :
    Except LoadError (List Path) :=
  match disk.directory? input with
  | some place => place.discover library patterns
  | none => if (disk.file? input).isSome then .ok [input] else .error (.noInput input)

/-- The files that inputs stand for, or what is wrong with the first input that stands for none. -/
def resolve (disk : Disk) (library : Library) (patterns : List String) :
    (inputs : List Path) → Except LoadError (List Path)
  | [] => .ok []
  | input :: rest => do
    let found ← disk.expand library patterns input
    let others ← disk.resolve library patterns rest
    return found ++ others

def templateLines (disk : Disk) (path : Path) : Except LoadError (List (List Char)) :=
  match disk.file? path with
  | none => .error (.notFound path)
  | some data =>
    match rawLines? data with
    | none => .error (.unreadable path)
    | some lines => .ok lines

end Disk
end SqlTemplate
