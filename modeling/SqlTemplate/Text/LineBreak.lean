/-!
# Line breaks

A text is cut into lines (`split_text`) at every character that Unicode, or the control set before
it, uses to end a line, and at the pair carriage return, line feed, which is **one** break. The
break itself belongs to no line, and a break at the very end opens no empty line after it: `"a\n"`
is one line.

A file is read with its breaks made uniform first: each carriage return, with the line feed that may
follow it, becomes a line feed.
-/

set_option autoImplicit false

namespace SqlTemplate
namespace Text

/-- The characters that end a line. -/
def isLineBreak (c : Char) : Bool :=
  let n := c.toNat
  (0x0A ≤ n && n ≤ 0x0D) || (0x1C ≤ n && n ≤ 0x1E) || n == 0x85 || n == 0x2028 || n == 0x2029

/-- The lines of a text, without their breaks. -/
def splitLines : List Char → List (List Char)
  | [] => []
  | '\r' :: '\n' :: rest => [] :: splitLines rest
  | c :: rest =>
    if isLineBreak c then
      [] :: splitLines rest
    else
      match splitLines rest with
      | [] => [[c]]
      | line :: lines => (c :: line) :: lines

/-- Makes every carriage return, alone or before a line feed, a single line feed. -/
def unifyBreaks : List Char → List Char
  | [] => []
  | '\r' :: '\n' :: rest => '\n' :: unifyBreaks rest
  | '\r' :: rest => '\n' :: unifyBreaks rest
  | c :: rest => c :: unifyBreaks rest

def linesOf (text : String) : List String :=
  (splitLines text.toList).map String.ofList

example : linesOf "" = [] := by cbv
example : linesOf "a\r\nb\n\n\rc\n" = ["a", "b", "", "", "c"] := by cbv

end Text
end SqlTemplate
