import SqlTemplate.Text.Blank
import SqlTemplate.Text.Quoted

/-!
# Lines, and what can be wrong with them

A template is read line by line. A line keeps the number it had in the file, from one, because the
number is what an error is reported by; the lines that say nothing, blank ones and comments, are
left out before reading begins, and leaving them out does not renumber the others (`read_lines`).

Depth is a count of leading **spaces**. A tab would make that count a matter of opinion, so a tab
anywhere, in a comment too, is refused before anything else is looked at.
-/

set_option autoImplicit false

namespace SqlTemplate

structure Line where
  /-- The line's number, from one. -/
  number : Nat
  chars : List Char
  deriving DecidableEq

namespace Line

def text (line : Line) : String := String.ofList line.chars

def trimmed (line : Line) : List Char := Text.trim line.chars

/-- How deep the line is indented: its leading spaces. -/
def indent (line : Line) : Nat := (line.chars.takeWhile (· = ' ')).length

/-- Whether the line says nothing: it is blank, or its text starts with two dashes. -/
def isComment (line : Line) : Bool :=
  match line.trimmed with
  | [] => true
  | '-' :: '-' :: _ => true
  | _ => false

def hasTab (line : Line) : Bool := line.chars.contains '\t'

/-- Whether a line belongs to the body of a tag on `line`. -/
def deeper (line other : Line) : Bool := line.indent < other.indent

/-- The same line with another text, for what is left of it after a tag. -/
def withChars (line : Line) (chars : List Char) : Line := { line with chars := chars }

def describe (line : Line) : String :=
  s!"Line({line.number}: {Text.quoted line.text})"

/-- Numbers raw lines, the first one with `number`, without touching them. -/
def enumerate (number : Nat) : List (List Char) → List Line
  | [] => []
  | raw :: rest => ⟨number, raw⟩ :: enumerate (number + 1) rest

/-- Numbers raw lines from one and takes the carriage returns and line feeds off their ends. -/
def numbered (raw : List (List Char)) : List Line :=
  enumerate 1 (raw.map (Text.dropTrailing fun c => c = '\r' || c = '\n'))

def significant (lines : List Line) : List Line := lines.filter fun line => !line.isComment

/-- A trimmed line is never longer than the line. -/
theorem length_trimmed_le (line : Line) : line.trimmed.length ≤ line.chars.length :=
  Text.length_trim_le _

end Line

inductive FormatProblem where
  | tab
  /-- A `@NAME` below the root. -/
  | nestedName
  /-- Something else than a `@NAME` at the root. -/
  | strayAtRoot
  /-- A tag that is not written in its form. -/
  | malformed (keyword : List Char)
  /-- A block tag without a body. -/
  | emptyBlock (keyword : List Char)
  /-- A line that starts with an `@` and has no tag in it. -/
  | unknownTag
  /-- A name that an earlier definition of the same file has taken. -/
  | duplicateName (name : String)
  deriving DecidableEq

def FormatProblem.detail : FormatProblem → String
  | .tab => "Tab character not permitted"
  | .nestedName => "@NAME is only permitted at root level"
  | .strayAtRoot => "Invalid fragment found at root level, only @NAME is permitted"
  | .malformed keyword => String.ofList keyword ++ " found with invalid format"
  | .emptyBlock keyword => String.ofList keyword ++ " found with no subsequent indented lines"
  | .unknownTag => "Unknown tag at start of line"
  | .duplicateName name => s!"Duplicate @NAME({name})"

/-- A fault and its place: the line, or for a fault in a later tag of a line, the rest of the line
that begins with the white space before that tag. -/
structure FormatError where
  problem : FormatProblem
  line : Line
  deriving DecidableEq

/-- A fault with its place: the line's number and, unless it is empty, its quoted text. -/
def atLine (detail : String) (number : Int) (text : String) : String :=
  let place := s!"{detail} at line {number}"
  if text.isEmpty then place else s!"{place}: {Text.quoted text}"

def FormatError.message (e : FormatError) : String :=
  atLine e.problem.detail e.line.number e.line.text

namespace Line

/-- The significant lines of a template, or the first tab in it. -/
def read (raw : List (List Char)) : Except FormatError (List Line) :=
  let lines := numbered raw
  match lines.find? hasTab with
  | some line => .error ⟨.tab, line⟩
  | none => .ok (significant lines)

end Line
end SqlTemplate
