/-!
Numbers in binary floating point with 53 significant bits. A decimal is rounded to the nearest
such number, a tie going to the even significand, and a number is written with the fewest digits
that read back as the same number; of these the ones nearest to it.
-/
namespace EndpointDocs

/-- A binary floating-point number; a finite one is ± `significand` · 2 ^ `exponent`. -/
inductive Binary64 where
  | nan
  | infinite (negative : Bool)
  | finite (negative : Bool) (significand : Nat) (exponent : Int)
  deriving DecidableEq, Repr

namespace Binary64

def minExponent : Int :=
  -1074

def maxExponent : Int :=
  971

/-- The significand of a normal number lies below this bound and at or above its half. -/
def significandBound : Nat :=
  Nat.pow 2 53

/-- The numerator and denominator of `num / den · base ^ e`. -/
def scale (base num den : Nat) (e : Int) : Nat × Nat :=
  if 0 ≤ e then (num * Nat.pow base e.toNat, den)
  else (num, den * Nat.pow base (-e).toNat)

/-- The quotient rounded to the nearest integer, a tie going to the even one. -/
def roundDiv (num den : Nat) : Nat :=
  let quotient := num / den
  let rest := 2 * (num % den)
  if rest > den || (rest == den && quotient % 2 == 1) then quotient + 1 else quotient

/-- The number nearest to `num / den`, with its sign given apart. -/
def ofRatio (negative : Bool) (num den : Nat) : Binary64 :=
  if num = 0 then .finite negative 0 minExponent
  else
    let guess : Int := max ((Nat.log2 num : Int) - (Nat.log2 den : Int) - 52) minExponent
    let (num₀, den₀) := scale 2 num den (-guess)
    let exponent :=
      if num₀ / den₀ < significandBound / 2 then max (guess - 1) minExponent else guess
    let (num₁, den₁) := scale 2 num den (-exponent)
    let rounded := roundDiv num₁ den₁
    let (significand, exponent) :=
      if rounded = significandBound then (significandBound / 2, exponent + 1)
      else (rounded, exponent)
    if maxExponent < exponent then .infinite negative else .finite negative significand exponent

/-- The number nearest to `digits · 10 ^ exponent`. Decimals far outside the range of finite numbers
are recognised by their length alone. -/
def ofDecimal (negative : Bool) (digits : Nat) (exponent : Int) : Binary64 :=
  if digits = 0 then .finite negative 0 minExponent
  else
    let places : Int := (Nat.toDigits 10 digits).length + exponent
    if 400 < places then .infinite negative
    else if places < -400 then .finite negative 0 minExponent
    else
      let (num, den) := scale 10 digits 1 exponent
      ofRatio negative num den

/-- The least `p` with `num / den < 10 ^ p`, looked for from `p` upwards in `steps` steps. -/
def decimalPoint (num den : Nat) : Nat → Int → Int
  | 0, p => p
  | steps + 1, p =>
    let (bound, unit) := scale 10 1 1 p
    if num * unit < bound * den then p else decimalPoint num den steps (p + 1)

/-- The digits of the number, and the place of the decimal point before the first of them, when
`count` digits suffice to tell it from all others, else with more of them. The bounds `low` and
`high` of the numbers that read back the same, and the number itself, have the denominator `den`. -/
def shortestFrom (low value high den : Nat) (closed : Bool) (point : Int) :
    Nat → Nat → List Char × Int
  | 0, count => (Nat.toDigits 10 (scaledFloor count), point)
  | steps + 1, count =>
    let (gridNum, gridDen) := scale 10 1 1 (point - count)
    let inside (candidate : Nat) : Bool :=
      let here := candidate * gridNum * den
      if closed then low * gridDen ≤ here && here ≤ high * gridDen
      else low * gridDen < here && here < high * gridDen
    let floor := value * gridDen / (gridNum * den)
    let ceiling := floor + 1
    let nearFloor :=
      2 * value * gridDen < (floor + ceiling) * gridNum * den ||
        (2 * value * gridDen == (floor + ceiling) * gridNum * den && floor % 2 == 0)
    let pick (digits : Nat) : List Char × Int :=
      let text := Nat.toDigits 10 digits
      (text, point + ((text.length : Int) - count))
    if inside floor && (nearFloor || !inside ceiling) then pick floor
    else if inside ceiling then pick ceiling
    else shortestFrom low value high den closed point steps (count + 1)
where
  scaledFloor (count : Nat) : Nat :=
    let (gridNum, gridDen) := scale 10 1 1 (point - count)
    value * gridDen / (gridNum * den)

/-- The fewest digits that read back as `significand · 2 ^ exponent`, and the place of the decimal
point before the first of them. -/
def shortest (significand : Nat) (exponent : Int) : List Char × Int :=
  let atEdge := significand = significandBound / 2 && minExponent < exponent
  let (value, den) := scale 2 (4 * significand) 4 exponent
  let (high, _) := scale 2 (4 * significand + 2) 4 exponent
  let (low, _) := scale 2 (if atEdge then 4 * significand - 1 else 4 * significand - 2) 4 exponent
  let point := decimalPoint value den 700 (-330)
  let (digits, point) := shortestFrom low value high den (significand % 2 == 0) point 17 1
  let kept := (digits.reverse.dropWhile (· == '0')).reverse
  (kept, point)

/-- How a number is written: positionally, with at least one digit on either side of the point, when
the point stands from 3 places before the first digit to 16 places after it, and else with an
exponent of two digits or more. -/
def text : Binary64 → String
  | .nan => "nan"
  | .infinite negative => if negative then "-inf" else "inf"
  | .finite negative significand exponent =>
    let sign := if negative then "-" else ""
    if significand = 0 then sign ++ "0.0"
    else
      let (digits, point) := shortest significand exponent
      let body :=
        if -4 < point && point ≤ 16 then
          if point ≤ 0 then
            ['0', '.'] ++ List.replicate (-point).toNat '0' ++ digits
          else
            let whole := digits.take point.toNat
            let zeros := List.replicate (point.toNat - digits.length) '0'
            let part := digits.drop point.toNat
            whole ++ zeros ++ ['.'] ++ (if part.isEmpty then ['0'] else part)
        else
          let power := point - 1
          let shown := Nat.toDigits 10 power.natAbs
          let padded := List.replicate (2 - shown.length) '0' ++ shown
          digits.take 1 ++ (if digits.length ≤ 1 then [] else '.' :: digits.drop 1) ++
            ['e', if power < 0 then '-' else '+'] ++ padded
      sign ++ String.ofList body

def negated : Binary64 → Binary64
  | .nan => .nan
  | .infinite negative => .infinite (!negative)
  | .finite negative significand exponent => .finite (!negative) significand exponent

def ratio? : Binary64 → Option (Int × Nat)
  | .finite negative significand exponent =>
    let (num, den) := scale 2 significand 1 exponent
    some (if negative then -(num : Int) else num, den)
  | _ => none

/-- The sum, rounded; of what is not finite the first counts. -/
def add (a b : Binary64) : Binary64 :=
  match a.ratio?, b.ratio? with
  | some (num, den), some (num', den') =>
    let sum := num * den' + num' * den
    ofRatio (decide (sum < 0)) sum.natAbs (den * den')
  | none, _ => a
  | _, none => b

/-- The product with a natural number, rounded. -/
def times (a : Binary64) (n : Nat) : Binary64 :=
  match a.ratio? with
  | some (num, den) => ofRatio (decide (num < 0)) (num.natAbs * n) den
  | none => a

end Binary64

end EndpointDocs
