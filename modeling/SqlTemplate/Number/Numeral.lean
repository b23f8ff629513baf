import SqlTemplate.Text.Blank
import SqlTemplate.Text.DecimalDigit

/-!
# Integers written in text

A parameter that is a text may still be the number of a page. The accepted numerals are decimal,
with digits of any script, an optional sign directly before them, single underscores between
digits, and white space around the whole. A zero may lead.

The white space of a numeral is narrower than that of a template line: among the control
characters only the five that also count in ASCII, so the separators `U+001C … U+001F` make a
numeral invalid. Beyond ASCII every blank counts. A string of bytes is read by the ASCII half of
the same rule.
-/

set_option autoImplicit false

namespace SqlTemplate
namespace Numeral

/-- The white space that may surround a numeral. -/
def isPadding (c : Char) : Bool :=
  if c.toNat < 0x7F then (0x09 ≤ c.toNat && c.toNat ≤ 0x0D) || c = ' ' else Text.isBlank c

/-- Digits with single underscores between them, read onto the value so far. -/
def readMore : (soFar : Nat) → List Char → Option Nat
  | soFar, [] => some soFar
  | soFar, '_' :: c :: rest =>
    match Text.digitValue? c with
    | some d => readMore (10 * soFar + d) rest
    | none => none
  | soFar, c :: rest =>
    match Text.digitValue? c with
    | some d => readMore (10 * soFar + d) rest
    | none => none

/-- A numeral without padding and sign, which begins with a digit. -/
def readDigits? : List Char → Option Nat
  | [] => none
  | c :: rest =>
    match Text.digitValue? c with
    | some d => readMore d rest
    | none => none

/-- A numeral without padding. -/
def readSigned? : List Char → Option Int
  | '-' :: rest => (readDigits? rest).map fun n => -(n : Int)
  | '+' :: rest => (readDigits? rest).map fun n => (n : Int)
  | cs => (readDigits? cs).map fun n => (n : Int)

/-- The integer that a text writes, if it writes one. -/
def read? (cs : List Char) : Option Int :=
  readSigned? (Text.dropTrailing isPadding (cs.dropWhile isPadding))

/-- The integer that a string of bytes writes, if it writes one in ASCII. -/
def readBytes? (bytes : List UInt8) : Option Int :=
  if bytes.all (· < 0x7F) then read? (bytes.map fun b => Char.ofNat b.toNat) else none

example : read? [' ', '-', '1', '_', '0', '\n'] = some (-10) := by decide
example : read? ['1', '_', '_', '0'] = none := by decide

end Numeral
end SqlTemplate
