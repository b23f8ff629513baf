import SqlTemplate.Number.Binary64

/-!
# The shortest decimal that reads back

A double is printed with **the fewest digits that read back as the same double**, and of several
decimals with that many digits the nearest to it. A decimal reads back exactly when it lies in the
interval of numbers that round to the double: half a step to either side, only a quarter step
below a power of two, where the steps grow smaller, and the ends themselves included when the
significand is even.

If a grid of decimals has a point in that interval, one of the double's two neighbours on the grid
is in it. So it is enough to test the two neighbours on the grids of one, two, … seventeen digits,
and the seventeenth always has one.
-/

set_option autoImplicit false

namespace SqlTemplate
namespace Binary64

/-- A decimal, `digits · 10 ^ power`. -/
structure Decimal where
  digits : Nat
  power : Int
  deriving DecidableEq

/-- The number of decimal digits of a natural; none for zero. -/
def decimalLength (n : Nat) : Nat := if n = 0 then 0 else (Nat.toDigits 10 n).length

/-- The size of a nonzero `num / den`: the least `k` with `num / den < 10 ^ k`. A double is larger
than `10 ^ (-400)`, so the digits of its product with `10 ^ 400` are enough to tell. -/
def decimalPoint (num den : Nat) : Int := (decimalLength (num * tenPow 400 / den) : Int) - 400

/-- `c · 10 ^ power` against `num / den`, by cross multiplication. -/
def compareGrid (c : Nat) (power : Int) (num den : Nat) : Ordering :=
  match power with
  | .ofNat k => compare (c * tenPow k * den) num
  | .negSucc k => compare (c * den) (num * tenPow (k + 1))

/-- Whether `c · 10 ^ power` lies between two quotients of one denominator. -/
def within (c : Nat) (power : Int) (low high den : Nat) (closed : Bool) : Bool :=
  match compareGrid c power low den, compareGrid c power high den with
  | .gt, .lt => true
  | .eq, _ => closed
  | _, .eq => closed
  | _, _ => false

/-- The lower neighbour of `num / den` on the grid of multiples of `10 ^ power`. -/
def lowerNeighbour (num den : Nat) (power : Int) : Nat :=
  match power with
  | .ofNat k => num / (den * tenPow k)
  | .negSucc k => num * tenPow (k + 1) / den

/-- The nearer to `num / den` of the grid points `c` and `c + 1`; a tie goes to the even one. -/
def nearer (c : Nat) (num den : Nat) (power : Int) : Nat :=
  -- the middle between the two is `(2 c + 1) / 2` steps of the grid
  match compareGrid (2 * c + 1) power (2 * num) den with
  | .gt => c
  | .lt => c + 1
  | .eq => if c % 2 = 0 then c else c + 1

/-- The first hit on the grids of `digits`, `digits + 1`, … digits, `fuel` of them. -/
def firstHit (significand : Nat) (exponent : Int) (point : Int) :
    (fuel digits : Nat) → Option Decimal
  | 0, _ => none
  | fuel + 1, digits =>
    let (num, den) := quotient significand exponent
    let step := num / significand
    -- all in quarters of a step: the double is `4 · num`, its neighbours are `4 · step` away
    let low := 4 * num - (if significand = twoPow 52 && exponent > -1074 then step else 2 * step)
    let high := 4 * num + 2 * step
    let power := point - (digits : Int)
    let inside := fun c => within c power low high (4 * den) (significand % 2 == 0)
    let c := lowerNeighbour num den power
    match inside c, inside (c + 1) with
    | true, true => some ⟨nearer c num den power, power⟩
    | true, false => some ⟨c, power⟩
    | false, true => some ⟨c + 1, power⟩
    | false, false => firstHit significand exponent point fuel (digits + 1)

/-- The shortest decimal that reads back as `significand · 2 ^ exponent`, for a nonzero one. -/
def shortest (significand : Nat) (exponent : Int) : Decimal :=
  let (num, den) := quotient significand exponent
  (firstHit significand exponent (decimalPoint num den) 17 1).getD ⟨num / den, 0⟩

end Binary64
end SqlTemplate
