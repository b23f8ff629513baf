import SqlTemplate.Value

/-!
# Documents in JSON

JSON is the part of the notation of documents that the program reads where it has no library.
Reading takes two steps that are both a walk over a list. The first cuts the text into tokens, with
a state for what the walk is inside of: nothing, a word, a string, an escape in a string. The second
goes over the tokens with **a stack of what is still open** and the value that has just been
completed; a comma, a colon or a closing bracket says where that value belongs. So neither step
needs to call itself for what is nested.

A text without a token is a document without a value. An integer may have any size; a number with
a point or an exponent is a double. A key that stands twice in an object is a fault of the document.
-/

set_option autoImplicit false

namespace SqlTemplate
namespace Json

inductive Token where
  | scalar (value : Value)
  | openList
  | closeList
  | openObject
  | closeObject
  | colon
  | comma

/-- What the walk over the characters is inside of, with the characters read so far, the last one
first. -/
inductive Scan where
  | between
  | word (read : List Char)
  | string (read : List Char)
  | escape (read : List Char)
  /-- A character given by its number, of which so many digits are still to come. -/
  | code (read : List Char) (number digits : Nat)

def wordValue? (word : List Char) : Option Value :=
  match String.ofList word with
  | "null" => some .null
  | "true" => some (.bool true)
  | "false" => some (.bool false)
  | text =>
    let (negative, size) := match word with
      | '-' :: rest => (true, rest)
      | rest => (false, rest)
    match size with
    | [] => none
    | first :: _ =>
      if !first.isDigit then none
      else if size.all Char.isDigit then
        let n : Int := Binary64.digitsValue size
        some (.int (if negative then -n else n))
      else (Binary64.ofText? text).map .float

/-- The character that a letter after a backslash stands for. -/
def escaped? : Char → Option Char
  | '"' => some '"'
  | '\\' => some '\\'
  | '/' => some '/'
  | 'b' => some '\x08'
  | 'f' => some '\x0c'
  | 'n' => some '\n'
  | 'r' => some '\r'
  | 't' => some '\t'
  | _ => none

def hexValue? (c : Char) : Option Nat :=
  if c.isDigit then some (c.toNat - '0'.toNat)
  else if 'a' ≤ c.toLower && c.toLower ≤ 'f' then some (c.toLower.toNat - 'a'.toNat + 10)
  else none

/-- The token of a character that is one by itself. -/
def mark? : Char → Option Token
  | '[' => some .openList
  | ']' => some .closeList
  | '\x7b' => some .openObject
  | '\x7d' => some .closeObject
  | ':' => some .colon
  | ',' => some .comma
  | _ => none

def isSpace (c : Char) : Bool := c = ' ' || c = '\n' || c = '\r' || c = '\t'

/-- The tokens of a text whose walk is inside of something. -/
def tokens? : Scan → List Char → Option (List Token)
  | .between, [] => some []
  | .word read, [] => (wordValue? read.reverse).map fun v => [.scalar v]
  | _, [] => none
  | .between, c :: rest =>
    if isSpace c then tokens? .between rest
    else if c = '"' then tokens? (.string []) rest
    else
      match mark? c with
      | some token => (tokens? .between rest).map (token :: ·)
      | none => tokens? (.word [c]) rest
  | .word read, c :: rest =>
    if isSpace c then do
      let v ← wordValue? read.reverse
      let others ← tokens? .between rest
      return .scalar v :: others
    else
      match mark? c with
      | some token => do
        let v ← wordValue? read.reverse
        let others ← tokens? .between rest
        return .scalar v :: token :: others
      | none => tokens? (.word (c :: read)) rest
  | .string read, c :: rest =>
    if c = '"' then
      (tokens? .between rest).map (.scalar (.str (String.ofList read.reverse)) :: ·)
    else if c = '\\' then tokens? (.escape read) rest
    else tokens? (.string (c :: read)) rest
  | .escape read, c :: rest =>
    if c = 'u' then tokens? (.code read 0 4) rest
    else
      match escaped? c with
      | some c => tokens? (.string (c :: read)) rest
      | none => none
  | .code read number digits, c :: rest =>
    match hexValue? c with
    | none => none
    | some d =>
      let number := 16 * number + d
      if 1 < digits then tokens? (.code read number (digits - 1)) rest
      else if number.isValidChar then tokens? (.string (Char.ofNat number :: read)) rest
      else none

/-- A list or an object that is still open, with what is in it so far, the last one first. -/
inductive Frame where
  | list (items : List Value)
  | object (fields : List (Value × Value))
  /-- An object after a key and its colon. -/
  | field (fields : List (Value × Value)) (key : Value)

/-- What is still open, the innermost first, and the value that has been completed last, if it has
not been put where it belongs. -/
structure Reader where
  stack : List Frame := []
  value? : Option Value := none

namespace Reader

def complete (stack : List Frame) (v : Value) : Option Reader := some ⟨stack, some v⟩

/-- Completes an object of fields, the last one first, if no key stands twice. -/
def completeObject (stack : List Frame) (fields : List (Value × Value)) : Option Reader :=
  if (Entries.putAll fields []).length = fields.length then
    complete stack (.mapping fields.reverse)
  else none

def step? (r : Reader) (t : Token) : Option Reader :=
  match t, r.stack, r.value? with
  | .scalar v, stack, none => complete stack v
  | .openList, stack, none => some ⟨.list [] :: stack, none⟩
  | .openObject, stack, none => some ⟨.object [] :: stack, none⟩
  | .closeList, .list [] :: stack, none => complete stack (.list [])
  | .closeList, .list items :: stack, some v => complete stack (.list (v :: items).reverse)
  | .closeObject, .object [] :: stack, none => completeObject stack []
  | .closeObject, .field fields k :: stack, some v => completeObject stack ((k, v) :: fields)
  | .colon, .object fields :: stack, some (.str k) => some ⟨.field fields (.str k) :: stack, none⟩
  | .comma, .list items :: stack, some v => some ⟨.list (v :: items) :: stack, none⟩
  | .comma, .field fields k :: stack, some v => some ⟨.object ((k, v) :: fields) :: stack, none⟩
  | _, _, _ => none

def run? (r : Reader) : List Token → Option Reader
  | [] => some r
  | t :: rest => (r.step? t).bind fun next => next.run? rest

end Reader

/-- The value that a text writes; no value when it writes nothing. -/
def read? (text : List Char) : Option Value := do
  match ← tokens? .between text with
  | [] => some .null
  | tokens =>
    match ← Reader.run? {} tokens with
    | ⟨[], some v⟩ => some v
    | _ => none

end Json
end SqlTemplate
