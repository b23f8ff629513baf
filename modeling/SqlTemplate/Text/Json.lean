import SqlTemplate.Text.Quoted

/-!
# JSON reports

Lists of names and of dialects are given in JSON (`dumps`) on one line, with one space after each
colon and comma. A string is written as it is; only the quote, the backslash and the control
characters below the space need an escape, and **characters beyond ASCII do not**.
-/

set_option autoImplicit false

namespace SqlTemplate
namespace Json

def escapeChar (c : Char) : List Char :=
  if c = '"' || c = '\\' then ['\\', c]
  else if c = '\n' then ['\\', 'n']
  else if c = '\r' then ['\\', 'r']
  else if c = '\t' then ['\\', 't']
  else if c = '\x08' then ['\\', 'b']
  else if c = '\x0c' then ['\\', 'f']
  else if c < ' ' then '\\' :: 'u' :: Text.hexDigits 4 c.toNat
  else [c]

def string (s : String) : String := String.ofList ('"' :: s.toList.flatMap escapeChar ++ ['"'])

def list (items : List String) : String := "[" ++ ", ".intercalate items ++ "]"

def object (fields : List (String × String)) : String :=
  "\x7b" ++ ", ".intercalate (fields.map fun (k, v) => string k ++ ": " ++ v) ++ "\x7d"

end Json
end SqlTemplate
