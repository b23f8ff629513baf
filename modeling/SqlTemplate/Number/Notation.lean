import SqlTemplate.Number.Shortest

/-!
# Decimal notation of doubles

The written form of a double is its shortest decimal, positional when the point falls from four
places before the digits to sixteen after their start, and with an exponent of at least two digits
otherwise. A positional number always shows a point, so that `1.0` is not taken for an integer.

Reading accepts what writing produces and the other usual spellings: a missing whole or fractional
part, an exponent with or without its sign, and the names of infinity and of what is not a number.
-/

set_option autoImplicit false

namespace SqlTemplate
namespace Binary64

/-- The digits of a decimal without the zeros at their end. -/
def Decimal.significant (d : Decimal) : List Char :=
  ((Nat.toDigits 10 d.digits).reverse.dropWhile (· = '0')).reverse

/-- Where the point falls, counted from the start of the digits. -/
def Decimal.point (d : Decimal) : Int := (decimalLength d.digits : Int) + d.power

/-- The exponent of scientific notation: a sign and at least two digits. -/
def exponentText (e : Int) : List Char :=
  let digits := Nat.toDigits 10 e.natAbs
  'e' :: (if e < 0 then '-' else '+') :: (List.replicate (2 - digits.length) '0' ++ digits)

/-- Digits with the point where it belongs. -/
def placePoint (digits : List Char) (point : Int) : List Char :=
  if -4 < point && point ≤ 16 then
    match point with
    | .ofNat k =>
      if k = 0 then '0' :: '.' :: digits
      else if digits.length ≤ k then
        digits ++ List.replicate (k - digits.length) '0' ++ ['.', '0']
      else digits.take k ++ '.' :: digits.drop k
    | .negSucc k => '0' :: '.' :: (List.replicate (k + 1) '0' ++ digits)
  else
    match digits with
    | [] => []
    | [d] => d :: exponentText (point - 1)
    | d :: more => d :: '.' :: more ++ exponentText (point - 1)

def text : Binary64 → String
  | .nan => "nan"
  | .infinite negative => if negative then "-inf" else "inf"
  | .finite negative m e =>
    let size :=
      if m = 0 then ['0', '.', '0']
      else
        let d := shortest m e
        placePoint d.significant d.point
    String.ofList (if negative then '-' :: size else size)

/-- The run of ASCII digits at the start of a text, and what follows. -/
def readDigits (cs : List Char) : List Char × List Char := cs.span Char.isDigit

/-- The number that a run of ASCII digits writes. -/
def digitsValue (cs : List Char) : Nat :=
  cs.foldl (fun n c => 10 * n + (c.toNat - '0'.toNat)) 0

/-- An exponent: the letter, an optional sign, and digits up to the end. -/
def readExponent? : List Char → Option Int
  | [] => some 0
  | mark :: rest =>
    if mark = 'e' || mark = 'E' then
      let (negative, rest) := match rest with
        | '-' :: r => (true, r)
        | '+' :: r => (false, r)
        | r => (false, r)
      let (digits, after) := readDigits rest
      if digits.isEmpty || !after.isEmpty then none
      else some (if negative then -(digitsValue digits : Int) else digitsValue digits)
    else none

/-- A decimal without its sign: whole part, fraction, exponent. -/
def readSize? (negative : Bool) (cs : List Char) : Option Binary64 :=
  let (whole, rest) := readDigits cs
  let (fraction, rest) := match rest with
    | '.' :: r => readDigits r
    | r => ([], r)
  if whole.isEmpty && fraction.isEmpty then none
  else
    (readExponent? rest).map fun e =>
      ofDecimal negative (digitsValue (whole ++ fraction)) (e - fraction.length)

def ofText? (s : String) : Option Binary64 :=
  let (negative, cs) := match s.toList with
    | '-' :: r => (true, r)
    | '+' :: r => (false, r)
    | r => (false, r)
  match String.ofList (cs.map Char.toLower) with
  | "nan" => some .nan
  | "inf" => some (.infinite negative)
  | "infinity" => some (.infinite negative)
  | _ => readSize? negative cs

end Binary64
end SqlTemplate
