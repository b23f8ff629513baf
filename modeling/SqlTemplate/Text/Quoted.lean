import SqlTemplate.Text.Printable

/-!
# Quoted text

A message that shows a text shows it quoted, so that its ends and its invisible characters can be
seen. The quote is the apostrophe, unless the text holds an apostrophe and no double quote. The
chosen quote and the backslash are escaped with a backslash; line feed, carriage return and tab
have short escapes; every other character that is not printable is written by its number, in two,
four or eight hexadecimal digits, whichever is the shortest that can hold it.

A string of bytes is quoted by the same rule, with the printable ASCII characters as they are.
-/

set_option autoImplicit false

namespace SqlTemplate
namespace Text

/-- The hexadecimal digit of a number below sixteen, in small letters. -/
def hexDigit (n : Nat) : Char := Nat.digitChar n

/-- The last `width` hexadecimal digits of a number. -/
def hexDigits : (width n : Nat) → List Char
  | 0, _ => []
  | width + 1, n => hexDigits width (n / 16) ++ [hexDigit (n % 16)]

/-- The quote for a text: the apostrophe, unless that would need an escape and the double quote
would not. -/
def quoteFor (cs : List Char) : Char :=
  if cs.contains '\'' && !cs.contains '"' then '"' else '\''

def escapeCode (n : Nat) : List Char :=
  if n < 0x100 then '\\' :: 'x' :: hexDigits 2 n
  else if n < 0x10000 then '\\' :: 'u' :: hexDigits 4 n
  else '\\' :: 'U' :: hexDigits 8 n

/-- One character inside a text quoted with `quote`, where `shown` says which characters stand as
they are. -/
def escapeChar (shown : Char → Bool) (quote c : Char) : List Char :=
  if c = quote || c = '\\' then ['\\', c]
  else if c = '\n' then ['\\', 'n']
  else if c = '\r' then ['\\', 'r']
  else if c = '\t' then ['\\', 't']
  else if shown c then [c]
  else escapeCode c.toNat

def quoteWith (shown : Char → Bool) (cs : List Char) : List Char :=
  let quote := quoteFor cs
  quote :: cs.flatMap (escapeChar shown quote) ++ [quote]

def quoted (s : String) : String := String.ofList (quoteWith isPrintable s.toList)

/-- A quoted string of bytes, marked as such by a leading `b`. -/
def quotedBytes (bytes : List UInt8) : String :=
  let shown := fun c : Char => 0x20 ≤ c.toNat && c.toNat < 0x7F
  String.ofList ('b' :: quoteWith shown (bytes.map fun b => Char.ofNat b.toNat))

example : quoteWith isPrintable ['a', '\''] = ['"', 'a', '\'', '"'] := by decide
example : quoteWith isPrintable ['\x00', '\\'] =
    ['\'', '\\', 'x', '0', '0', '\\', '\\', '\''] := by decide

end Text
end SqlTemplate
