/-!
# Decimal numbers and double precision

Numbers written in decimal, what a double precision float makes of them, and the shortest text that reads
back as the same float.
-/

namespace EngineClient

/-- The number `digits * 10 ^ exponent`. -/
structure Decimal where
  digits : Nat
  exponent : Int
deriving Repr, DecidableEq

/-- A finite float without its sign: `mantissa * 2 ^ exponent`. -/
structure Double where
  mantissa : Nat
  exponent : Int
deriving Repr, DecidableEq

namespace Double

/-- Bits of a mantissa. -/
def precision : Nat := 53
/-- The exponent of the smallest floats. -/
def minExponent : Int := -1074
/-- The exponent of the largest floats. -/
def maxExponent : Int := 971

/-- The number of bits of a number. -/
def bits (n : Nat) : Nat := if n = 0 then 0 else Nat.log2 n + 1

/-- The whole number nearest to `a / b`; halves go to the even one. -/
def nearest (a b : Nat) : Nat :=
  let quotient := a / b
  let rest := a % b
  if 2 * rest < b then quotient
  else if b < 2 * rest then quotient + 1
  else if quotient % 2 = 0 then quotient else quotient + 1

/-- The float nearest to `a / b`; none if that is beyond the largest one. -/
def ofRatio (a b : Nat) : Option Double :=
  if a = 0 then some ⟨0, minExponent⟩
  else
    let guess : Int := (bits a : Int) - (bits b : Int) - (precision : Int)
    let scaled (e : Int) : Nat :=
      if 0 ≤ e then nearest a (b * Nat.pow 2 e.toNat) else nearest (a * Nat.pow 2 (-e).toNat) b
    let first := max guess minExponent
    let exponent :=
      if Nat.pow 2 precision ≤ scaled first ∧ Nat.pow 2 precision ≤
          (if 0 ≤ first then a / (b * Nat.pow 2 first.toNat) else a * Nat.pow 2 (-first).toNat / b)
      then first + 1 else first
    let mantissa := scaled exponent
    let (mantissa, exponent) :=
      if mantissa = Nat.pow 2 precision then (Nat.pow 2 (precision - 1), exponent + 1) else (mantissa, exponent)
    if maxExponent < exponent then none else some ⟨mantissa, exponent⟩

/-- The value of a float as a fraction. -/
def ratio (d : Double) : Nat × Nat :=
  if 0 ≤ d.exponent then (d.mantissa * Nat.pow 2 d.exponent.toNat, 1)
  else (d.mantissa, Nat.pow 2 (-d.exponent).toNat)

end Double

namespace Decimal

/-- The largest power of ten that a float can have, with room. -/
def maxPower : Int := 400

/-- The power of ten below which every number is zero to a float. -/
def minPower : Int := -400

/-- The number of decimal digits. -/
def width (n : Nat) : Nat := if n = 0 then 0 else (toString n).length

/-- The float nearest to a decimal number; none if it is beyond the largest one. -/
def toDouble (d : Decimal) : Option Double :=
  let top := (width d.digits : Int) + d.exponent
  if d.digits = 0 || top < minPower then some ⟨0, Double.minExponent⟩
  else if maxPower < top then none
  else if 0 ≤ d.exponent then Double.ofRatio (d.digits * Nat.pow 10 d.exponent.toNat) 1
  else Double.ofRatio d.digits (Nat.pow 10 (-d.exponent).toNat)

/-- The decimal number of `count` digits nearest to a fraction whose first digit stands for
`10 ^ (point - 1)`. -/
def rounded (a b count : Nat) (point : Int) : Decimal :=
  let exponent := point - (count : Int)
  let digits :=
    if 0 ≤ exponent then Double.nearest a (b * Nat.pow 10 exponent.toNat)
    else Double.nearest (a * Nat.pow 10 (-exponent).toNat) b
  ⟨digits, exponent⟩

/-- The place of the decimal point after the first digit of `a / b`, searched from a bound down. -/
def pointFrom (a b : Nat) (point : Int) : (steps : Nat) → Int
  | 0 => point
  | steps + 1 =>
    let below := point - 1
    let reached :=
      if 0 ≤ below then decide (b * Nat.pow 10 below.toNat ≤ a) else decide (b ≤ a * Nat.pow 10 (-below).toNat)
    if reached then point else pointFrom a b below steps

/-- The shortest decimal number, from `count` digits on, that reads back as the float. -/
def shortestFrom (d : Double) (a b : Nat) (point : Int) : (more count : Nat) → Decimal
  | 0, count => rounded a b count point
  | more + 1, count =>
    let near := rounded a b count point
    let candidates := [near, { near with digits := near.digits + 1 }, { near with digits := near.digits - 1 }]
    match candidates.find? fun candidate => candidate.toDouble == some d with
    | some candidate => candidate
    | none => shortestFrom d a b point more (count + 1)

/-- Digits without the zeros at their end. -/
def stripZeros (d : Decimal) : (steps : Nat) → Decimal
  | 0 => d
  | steps + 1 =>
    if d.digits ≠ 0 ∧ d.digits % 10 = 0 then stripZeros ⟨d.digits / 10, d.exponent + 1⟩ steps else d

/-- The shortest decimal number that reads back as a float that is not zero. -/
def shortest (d : Double) : Decimal :=
  let (a, b) := d.ratio
  let bound := (width a : Int) - (width b : Int) + 1
  let point := pointFrom a b bound 3
  stripZeros (shortestFrom d a b point 17 1) 20

/-- The text of a float: a plain decimal fraction while that is short, with an exponent otherwise. -/
def doubleText (negative : Bool) (d : Double) : String :=
  let sign := if negative then "-" else ""
  if d.mantissa = 0 then sign ++ "0.0"
  else
    let short := shortest d
    let shown := (toString short.digits).toList
    let size : Int := shown.length
    let point := size + short.exponent
    let zeros (n : Int) := List.replicate n.toNat '0'
    let body :=
      if 0 ≤ short.exponent ∧ point ≤ 16 then
        String.ofList (shown ++ zeros short.exponent) ++ ".0"
      else if 0 < point ∧ point ≤ 16 then
        String.ofList (shown.take point.toNat) ++ "." ++ String.ofList (shown.drop point.toNat)
      else if -5 < point ∧ point ≤ 0 then "0." ++ String.ofList (zeros (-point) ++ shown)
      else
        let fraction := if shown.length = 1 then "" else "." ++ String.ofList (shown.drop 1)
        String.ofList (shown.take 1) ++ fraction ++ "e" ++ toString (point - 1)
    sign ++ body

end Decimal

end EngineClient
