import SqlTemplate.Template.Content
import SqlTemplate.Template.Header

/-!
# Layout

The body of a block (`_parse_block`) is what stands below its tag and deeper than it: **the longest
run of following lines that are indented more than the tag's line**. So a block needs no closing
tag, and a tag's body can be cut out before anything in it is read; the lines after it are the tag's
siblings, whatever their own depth. How far a line is indented matters only against the tag above
it, and the children of one block need not line up.

At the root only definitions stand (`ElSqlParser.parse`). They are read one after the other, and
what stops the reading is the first fault of the file; the definitions before it have been read by
then. A `Reading` keeps both, because whoever asks for names to be unique is told about a name that
was taken before being told about a fault further down.
-/

set_option autoImplicit false

namespace SqlTemplate

/-- The body of a tag: the deeper lines that follow it directly. -/
def Line.body (line : Line) (rest : List Line) : List Line := rest.takeWhile line.deeper

/-- The lines that follow the body of a tag. -/
def Line.afterBody (line : Line) (rest : List Line) : List Line := rest.dropWhile line.deeper

theorem Line.length_body_le (line : Line) (rest : List Line) :
    (line.body rest).length ≤ rest.length :=
  (List.takeWhile_prefix _).length_le

theorem Line.length_afterBody_le (line : Line) (rest : List Line) :
    (line.afterBody rest).length ≤ rest.length :=
  (List.dropWhile_suffix _).length_le

/-- A tag's body and the lines after it are the lines that follow the tag. -/
theorem Line.body_append_afterBody (line : Line) (rest : List Line) :
    line.body rest ++ line.afterBody rest = rest :=
  List.takeWhile_append_dropWhile

def BlockTag.readHead (tag : BlockTag) (line : Line) : Except FormatError Head :=
  match tag.readHead? line.trimmed with
  | none => .error ⟨.malformed tag.keyword, line⟩
  | some head => .ok head

/-- The children of a block, which must not be missing. -/
def BlockTag.requireBody (tag : BlockTag) (line : Line) (children : List Fragment) :
    Except FormatError (List Fragment) :=
  if children.isEmpty then .error ⟨.emptyBlock tag.keyword, line⟩ else .ok children

def readBody : List Line → Except FormatError (List Fragment)
  | [] => .ok []
  | line :: rest =>
    match BlockTag.ofStart? line.trimmed with
    | some .naming => .error ⟨.nestedName, line⟩
    | some tag => do
      let head ← tag.readHead line
      let children ← readBody (line.body rest)
      let children ← tag.requireBody line children
      let siblings ← readBody (line.afterBody rest)
      return .block head children :: siblings
    | none => do
      let fragments ← line.content
      let siblings ← readBody rest
      return fragments ++ siblings
termination_by lines => lines.length
decreasing_by
  · have := line.length_body_le rest
    simp only [List.length_cons]; omega
  · have := line.length_afterBody_le rest
    simp only [List.length_cons]; omega
  · simp only [List.length_cons]; omega

/-- A definition: the line of its tag, its name, and the tree that the name stands for. -/
structure Definition where
  line : Line
  name : String
  children : List Fragment

def Definition.tree (d : Definition) : Fragment := .block (.named d.name) d.children

/-- What reading a template came to: the definitions up to the first fault, and that fault. -/
structure Reading where
  definitions : List Definition := []
  fault : Option FormatError := none

def Reading.cons (d : Definition) (r : Reading) : Reading :=
  { r with definitions := d :: r.definitions }

def readDefinition (line : Line) (body : List Line) : Except FormatError Definition :=
  match BlockTag.ofStart? line.trimmed with
  | some .naming => do
    let head ← BlockTag.readHead .naming line
    let children ← readBody body
    let children ← BlockTag.requireBody .naming line children
    match head with
    | .named name => return ⟨line, name, children⟩
    | _ => throw ⟨.malformed (BlockTag.keyword .naming), line⟩
  | _ => .error ⟨.strayAtRoot, line⟩

def readDefinitions : List Line → Reading
  | [] => ⟨[], none⟩
  | line :: rest =>
    match readDefinition line (line.body rest) with
    | .error e => ⟨[], some e⟩
    | .ok d => (readDefinitions (line.afterBody rest)).cons d
termination_by lines => lines.length
decreasing_by
  have := line.length_afterBody_le rest
  simp only [List.length_cons]; omega

end SqlTemplate
