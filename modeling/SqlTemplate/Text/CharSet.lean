/-!
# Sets of characters, as data

Some character classes are not a rule but a standard's list: which characters a terminal can show,
which have case. Such a list is kept in one shape, **the code points at which membership changes**:
the set holds from the first point up to the second, not from there up to the third, and so on.
Half of the points open a stretch and half close one, so a character belongs exactly when an odd
number of points lies at or below it.
-/

set_option autoImplicit false

namespace SqlTemplate
namespace Text

/-- A set of characters, given by the increasing list of code points where membership changes. -/
structure CharSet where
  changes : List Nat

namespace CharSet

/-- Membership: an odd number of changes lies at or below the character. -/
def contains (s : CharSet) (c : Char) : Bool :=
  (s.changes.takeWhile (· ≤ c.toNat)).length % 2 == 1

end CharSet
end Text
end SqlTemplate
