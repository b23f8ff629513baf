import SqlTemplate.Order
import SqlTemplate.Value

/-!
# Keys in order

A report that lists keys lists them in order. Keys of one sort have an order: numbers by size, with
the truth values as one and zero, texts and bytes from the front. Keys of different sorts have
none, and then there is no report but a fault, which names the sorts of the two keys that could not
be compared. A single key needs no order.
-/

set_option autoImplicit false

namespace SqlTemplate

/-- Whether one double is smaller than another; what is not a number is neither smaller nor larger
than anything. -/
def Binary64.less : Binary64 → Binary64 → Bool
  | .nan, _ => false
  | _, .nan => false
  | .infinite s, .infinite t => s && !t
  | .infinite s, .finite _ _ _ => s
  | .finite _ _ _, .infinite t => !t
  | .finite s m e, .finite t n f =>
    let (p, q) := quotient m e
    let (u, v) := quotient n f
    let left : Int := if s then -((p * v : Nat) : Int) else (p * v : Nat)
    let right : Int := if t then -((u * q : Nat) : Int) else (u * q : Nat)
    left < right

namespace Value

/-- Whether one key comes before another, if they can be compared. -/
def less? (a b : Value) : Option Bool :=
  match a, b with
  | .str s, .str t => some (decide (s < t))
  | .bytes s, .bytes t => some (decide (s.map UInt8.toNat < t.map UInt8.toNat))
  | a, b =>
    match number? a, number? b with
    | some x, some y => some (x.less y)
    | _, _ => none

/-- The sorts of the first two neighbours that cannot be compared, the later one first. -/
def incomparable? : List Value → Option (String × String)
  | a :: b :: rest =>
    match less? b a with
    | none => some (b.sort, a.sort)
    | some _ => incomparable? (b :: rest)
  | _ => none

/-- Keys in order, or the sorts of two that have none. -/
def inOrder (keys : List Value) : Except (String × String) (List Value) :=
  match incomparable? keys with
  | some sorts => .error sorts
  | none => .ok (Order.sortBy (fun a b => less? b a != some true) keys)

end Value
end SqlTemplate
