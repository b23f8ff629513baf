import SqlTemplate.Entries
import SqlTemplate.Number.Notation
import SqlTemplate.Text.Quoted

/-!
# Values

A parameter is handed over by the calling program or read from a document, so it may be any plain
value: nothing, a truth value, a number, a text, bytes, a list, a mapping. The notation looks at a
value in few ways, and each is a function here: its text, in which a string stands bare; its quoted
form, which messages show and which is also how the members of a list or mapping are written; and
the text that is compared with a match value, in which truth values are in small letters and nothing
is empty (`to_sql_string`).

Keys of a mapping are compared **as values and not as texts**: `1`, `1.0` and `true` are one key.
-/

set_option autoImplicit false

namespace SqlTemplate

inductive Value where
  | null
  | bool (b : Bool)
  | int (n : Int)
  | float (x : Binary64)
  | str (s : String)
  | bytes (b : List UInt8)
  | list (items : List Value)
  | mapping (entries : List (Value × Value))
  deriving Inhabited

namespace Value

mutual

def quoted : Value → String
  | .null => "None"
  | .bool b => if b then "True" else "False"
  | .int n => toString n
  | .float x => x.text
  | .str s => Text.quoted s
  | .bytes b => Text.quotedBytes b
  | .list items => "[" ++ ", ".intercalate (quotedItems items) ++ "]"
  | .mapping entries => "\x7b" ++ ", ".intercalate (quotedEntries entries) ++ "\x7d"

def quotedItems : List Value → List String
  | [] => []
  | v :: rest => quoted v :: quotedItems rest

def quotedEntries : List (Value × Value) → List String
  | [] => []
  | e :: rest => quotedEntry e :: quotedEntries rest

def quotedEntry : Value × Value → String
  | (k, v) => quoted k ++ ": " ++ quoted v

end

/-- The text of a value: a string as it is, anything else quoted. -/
def text : Value → String
  | .str s => s
  | v => quoted v

/-- The text of a value as a template sees it. -/
def sqlText : Value → String
  | .null => ""
  | .bool b => if b then "true" else "false"
  | v => text v

def sort : Value → String
  | .null => "NoneType"
  | .bool _ => "bool"
  | .int _ => "int"
  | .float _ => "float"
  | .str _ => "str"
  | .bytes _ => "bytes"
  | .list _ => "list"
  | .mapping _ => "dict"

/-- Whether a value holds nothing: no value, false, zero, or no characters, bytes, members or
entries. A document that holds nothing counts as an empty mapping. -/
def holdsNothing : Value → Bool
  | .null => true
  | .bool b => !b
  | .int n => n == 0
  | .float x => x.isZero
  | .str s => s.isEmpty
  | .bytes b => b.isEmpty
  | .list items => items.isEmpty
  | .mapping entries => entries.isEmpty

/-- Whether a value can be a key: lists and mappings cannot. -/
def isKey : Value → Bool
  | .list _ => false
  | .mapping _ => false
  | _ => true

/-- The number that a value counts as, if it counts as one: the truth values are one and zero. -/
def number? : Value → Option Binary64
  | .bool b => some (.finite false (if b then 1 else 0) 0)
  | .int n => some (.finite (n < 0) n.natAbs 0)
  | .float x => some x
  | _ => none

def sameKey (a b : Value) : Bool :=
  match a, b with
  | .null, .null => true
  | .str s, .str t => s == t
  | .bytes s, .bytes t => s == t
  | a, b =>
    match number? a, number? b with
    | some x, some y => x.sameNumber y
    | _, _ => false

/-- Values are compared as keys. -/
instance : BEq Value := ⟨sameKey⟩

example : ((.int 1 : Value) == .bool true) = true := by decide

end Value
end SqlTemplate
