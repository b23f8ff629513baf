import SqlTemplate.Dialect
import SqlTemplate.Line
import SqlTemplate.Number.Numeral
import SqlTemplate.Parameters

/-!
# Numbers of pages, and what can go wrong while rendering

The two numbers of a page come from parameters (`_paging_value`), and a parameter may be of any
sort. An integer is taken as it is, a text or bytes as the numeral they write, a double with its
fraction cut off. A truth value is refused although it could count as a number, because it was
surely meant for a condition. What is infinite has no integer part at all and is **a fault of its
own**: it is not the caller's spelling of a number that is wrong but the number.
-/

set_option autoImplicit false

namespace SqlTemplate

inductive RenderError where
  /-- A name that the table does not have. -/
  | unknownFragment (name : String)
  /-- A variable that is to be inserted and is not given. -/
  | unknownVariable (name : String)
  /-- A fragment that includes itself; the chain of names that leads back to it. -/
  | recursion (chain : List String)
  /-- A value of a page that is no integer. -/
  | notAnInteger (name : String) (value : Value)
  /-- A value of a page that is infinite. -/
  | infiniteNumber
  /-- A variable that is to be inserted where that is not allowed. -/
  | rawForbidden (name : String)
  | dialect (e : DialectError)
  /-- A node that stands for no SQL. -/
  | bareNode

def RenderError.message : RenderError → String
  | .unknownFragment name => s!"Unknown fragment name: {name}"
  | .unknownVariable name => s!"Variable not found: {name}"
  | .recursion chain => "Recursive @INCLUDE: " ++ " -> ".intercalate chain
  | .notAnInteger name value => s!"Variable '{name}' must be an integer, got {value.quoted}"
  | .infiniteNumber => "cannot convert float infinity to integer"
  | .rawForbidden name => s!"Raw include of variable '{name}' is not allowed"
  | .dialect e => e.message
  | .bareNode => "Unsupported fragment type: Fragment"

def RenderError.kind : RenderError → ErrorKind
  | .unknownFragment _ => .fragmentNotFound
  | .unknownVariable _ => .variableNotFound
  | .recursion _ => .render
  | .notAnInteger _ _ => .invalidParameter
  | .infiniteNumber => .overflow
  | .rawForbidden _ => .rawIncludeForbidden
  | .dialect e => e.kind
  | .bareNode => .type

/-- What an error of a kind says that a caller makes from the given arguments. Most kinds say
nothing of their own and show what they are given. -/
def ErrorKind.text : ErrorKind → (arguments : List Value) → String
  | .format, [detail, .int line] => atLine detail.text line ""
  | .format, [detail, .int line, .str text] => atLine detail.text line text
  | .fragmentNotFound, [name] => (RenderError.unknownFragment name.text).message
  | .variableNotFound, [name] => (RenderError.unknownVariable name.text).message
  | .invalidParameter, [name, v] => (RenderError.notAnInteger name.text v).message
  | .rawIncludeForbidden, [name] => (RenderError.rawForbidden name.text).message
  | .dialectNotFound, [name, .list available] =>
    (DialectError.unknown name.text (available.map Value.text)).message
  | .dialectNotFound, name :: _ => (DialectError.unknown name.text []).message
  | _, [] => ""
  | _, [v] => v.text
  | _, vs => "(" ++ ", ".intercalate (vs.map Value.quoted) ++ ")"

/-- The integer that a value of a page stands for. -/
def Value.pageNumber (name : String) : Value → Except RenderError Int
  | .int n => .ok n
  | .float (.finite negative m e) => .ok (Binary64.truncate negative m e)
  | .float (.infinite _) => .error .infiniteNumber
  | .str s =>
    match Numeral.read? s.toList with
    | some n => .ok n
    | none => .error (.notAnInteger name (.str s))
  | .bytes b =>
    match Numeral.readBytes? b with
    | some n => .ok n
    | none => .error (.notAnInteger name (.bytes b))
  | v => .error (.notAnInteger name v)

/-- The number that a paging variable stands for: none when there is no variable, when it is not
given, and when it is given without a value. -/
def Parameters.pageNumber? (p : Parameters) (name : Option String) :
    Except RenderError (Option Int) :=
  match name with
  | none => .ok none
  | some name =>
    if name.isEmpty then .ok none
    else
      match p.find? name with
      | none => .ok none
      | some .null => .ok none
      | some v => (v.pageNumber name).map some

end SqlTemplate
