/-!
# Blank characters, and trimming

A template is laid out with white space, so most of the notation begins by taking white space off
the ends of something: of a line, of a match value, of a parameter's name. "White space" here is
the whole Unicode class together with the four information separators `U+001C … U+001F` and the
next-line control `U+0085`; a line that ends in a no-break space is trimmed like any other.

Text is handled as a list of characters wherever its inside matters, because that is the form in
which a scan is a structural recursion. The two facts worth having about trimming are here:
it never lengthens a text, and what is left neither begins nor ends with a blank.
-/

set_option autoImplicit false

namespace SqlTemplate
namespace Text

/-- The characters that count as white space. -/
def isBlank (c : Char) : Bool :=
  let n := c.toNat
  (0x09 ≤ n && n ≤ 0x0D) || (0x1C ≤ n && n ≤ 0x20) || n == 0x85 || n == 0xA0 || n == 0x1680 ||
    (0x2000 ≤ n && n ≤ 0x200A) || n == 0x2028 || n == 0x2029 || n == 0x202F || n == 0x205F ||
    n == 0x3000

/-- Takes the run of characters satisfying `p` off the end. -/
def dropTrailing (p : Char → Bool) (cs : List Char) : List Char :=
  (cs.reverse.dropWhile p).reverse

def trimLeft (cs : List Char) : List Char := cs.dropWhile isBlank

def trimRight (cs : List Char) : List Char := dropTrailing isBlank cs

def trim (cs : List Char) : List Char := trimRight (trimLeft cs)

theorem length_dropWhile_le (p : Char → Bool) (cs : List Char) :
    (cs.dropWhile p).length ≤ cs.length :=
  (List.dropWhile_suffix p).length_le

theorem length_dropTrailing_le (p : Char → Bool) (cs : List Char) :
    (dropTrailing p cs).length ≤ cs.length := by
  simpa [dropTrailing] using length_dropWhile_le p cs.reverse

/-- Trimming never lengthens a text. -/
theorem length_trim_le (cs : List Char) : (trim cs).length ≤ cs.length :=
  Nat.le_trans (length_dropTrailing_le _ _) (length_dropWhile_le _ _)

/-- What is left of a `dropWhile` begins with a character that was not to be dropped. -/
theorem head?_dropWhile_not (p : Char → Bool) (cs : List Char) :
    ∀ c ∈ (cs.dropWhile p).head?, p c = false := by
  induction cs with
  | nil => simp
  | cons a as ih =>
    by_cases h : p a = true
    · simpa [List.dropWhile_cons, h] using ih
    · intro c hc
      simp only [List.dropWhile_cons, h, Bool.false_eq_true, if_false, List.head?_cons,
        Option.mem_some_iff] at hc
      subst hc
      simpa using h

/-- A trimmed text does not end with a blank. -/
theorem getLast?_trim_not (cs : List Char) : ∀ c ∈ (trim cs).getLast?, isBlank c = false := by
  intro c hc
  rw [trim, trimRight, dropTrailing, List.getLast?_reverse] at hc
  exact head?_dropWhile_not _ _ c hc

end Text
end SqlTemplate
