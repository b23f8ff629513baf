/-!
# Binary floating-point numbers, exactly

A parameter may be a double-precision number. Nothing in the notation calculates with one, but it
is printed, compared with integers and cut down to an integer, and each of these must be exact. So
a double is kept as what it is, **a whole number of steps of a power of two**, and every operation
is on natural numbers and integers.

A finite double is `significand · 2 ^ exponent` with its sign; `Binary64.round` makes the nearest
one to a quotient of natural numbers, a tie going to the even significand, in the form that the
format stores: at most 53 bits, the exponent no smaller than -1074, and 53 bits in full unless the
exponent is at that floor. The format ends below `2 ^ 1024`; what rounds to more is infinite.
-/

set_option autoImplicit false

namespace SqlTemplate

inductive Binary64 where
  | nan
  | infinite (negative : Bool)
  | finite (negative : Bool) (significand : Nat) (exponent : Int)
  deriving DecidableEq

namespace Binary64

def twoPow (k : Nat) : Nat := Nat.pow 2 k

def tenPow (k : Nat) : Nat := Nat.pow 10 k

/-- The quotient of two naturals to the nearest natural, a tie going to the even one. -/
def divToEven (num den : Nat) : Nat :=
  let q := num / den
  let r := num % den
  if 2 * r < den then q
  else if den < 2 * r then q + 1
  else if q % 2 = 0 then q else q + 1

/-- A natural as a numerator and denominator scaled by a power of two: `num / den · 2 ^ (-e)`. -/
def scaled (num den : Nat) (e : Int) : Nat × Nat :=
  match e with
  | .ofNat k => (num, den * twoPow k)
  | .negSucc k => (num * twoPow (k + 1), den)

/-- The double nearest to `num / den`, with the given sign. -/
def round (negative : Bool) (num den : Nat) : Binary64 :=
  if num = 0 then .finite negative 0 (-1074)
  else
    -- in units of `2 ^ guess` the quotient has 53 or 54 bits, and one unit up it has 53
    let guess : Int := (num.log2 : Int) - (den.log2 : Int) - 53
    let (n, d) := scaled num den guess
    let e := if n / d < twoPow 53 then guess else guess + 1
    let e := if e < -1074 then -1074 else e
    let (n, d) := scaled num den e
    let m := divToEven n d
    let (m, e) := if m = twoPow 53 then (twoPow 52, e + 1) else (m, e)
    if e > 971 then .infinite negative else .finite negative m e

/-- The double nearest to `digits · 10 ^ power`. A power that is far out of range decides at once,
without the power being calculated. -/
def ofDecimal (negative : Bool) (digits : Nat) (power : Int) : Binary64 :=
  if digits = 0 then .finite negative 0 (-1074)
  else
    match power with
    | .ofNat k => if 400 < k then .infinite negative else round negative (digits * tenPow k) 1
    | .negSucc k =>
      if 400 + digits.log2 < k then .finite negative 0 (-1074)
      else round negative digits (tenPow (k + 1))

/-- A finite double's size as a quotient of naturals. -/
def quotient (significand : Nat) (exponent : Int) : Nat × Nat :=
  match exponent with
  | .ofNat k => (significand * twoPow k, 1)
  | .negSucc k => (significand, twoPow (k + 1))

/-- The integer part of a finite double: what is left when its fraction is cut off. -/
def truncate (negative : Bool) (significand : Nat) (exponent : Int) : Int :=
  let (num, den) := quotient significand exponent
  let whole : Nat := num / den
  if negative then -(whole : Int) else whole

/-- Equality as numbers: a zero has no sign, and what is not a number equals nothing. -/
def sameNumber : Binary64 → Binary64 → Bool
  | .nan, _ => false
  | _, .nan => false
  | .infinite s, .infinite t => s == t
  | .finite s m e, .finite t n f =>
    let (p, q) := quotient m e
    let (u, v) := quotient n f
    p * v == u * q && (s == t || p == 0)
  | _, _ => false

def isZero : Binary64 → Bool
  | .finite _ 0 _ => true
  | _ => false

example : ofDecimal false 15 (-1) = .finite false (3 * twoPow 51) (-52) := by decide +kernel
example : truncate true 5 (-1) = -2 := by decide

end Binary64
end SqlTemplate
