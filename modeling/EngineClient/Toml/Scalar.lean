import EngineClient.Number.Decimal
import EngineClient.Text.Blank
import EngineClient.Text.Numeral
import EngineClient.Toml.Value
/-!
# TOML scalars

Numbers, truth values and dates, each written as one word.
-/

namespace EngineClient.Toml

/-- The values of digits between which single underscores may stand. -/
def underscored (digit : Char → Option Nat) : List Char → Option (List Nat)
  | [] => none
  | [c] => (digit c).map fun d => [d]
  | c :: '_' :: rest =>
    match digit c, underscored digit rest with
    | some d, some more => some (d :: more)
    | _, _ => none
  | c :: rest =>
    match digit c, underscored digit rest with
    | some d, some more => some (d :: more)
    | _, _ => none

/-- The number that digits of a base write. -/
def ofDigits (base : Nat) (digits : List Nat) : Nat := digits.foldl (fun n d => n * base + d) 0

/-- A digit below `base`. -/
def digitBelow (base : Nat) (c : Char) : Option Nat := (Text.hexDigit c).filter (· < base)

/-- Decimal digits without a leading zero. -/
def wholeDigits (chars : List Char) : Option (List Nat) :=
  match chars with
  | '0' :: _ :: _ => none
  | _ => underscored Text.decimalDigit chars

/-- A sign, and what follows it. -/
def splitSign : List Char → Bool × List Char
  | '+' :: rest => (false, rest)
  | '-' :: rest => (true, rest)
  | rest => (false, rest)

/-- The least number of 128 bits with a sign. -/
def leastInteger : Int := -170141183460469231731687303715884105728

/-- One more than the greatest number of 128 bits without a sign. -/
def integerLimit : Int := 340282366920938463463374607431768211456

/-- The integers that are kept: those of 128 bits, with a sign or without. -/
def keptInteger (n : Int) : Option Int := if leastInteger ≤ n ∧ n < integerLimit then some n else none

/-- An integer. -/
def integer : List Char → Option Int
  | '0' :: 'x' :: rest => (underscored (digitBelow 16) rest).bind fun ds => keptInteger (ofDigits 16 ds)
  | '0' :: 'o' :: rest => (underscored (digitBelow 8) rest).bind fun ds => keptInteger (ofDigits 8 ds)
  | '0' :: 'b' :: rest => (underscored (digitBelow 2) rest).bind fun ds => keptInteger (ofDigits 2 ds)
  | chars =>
    let (negative, rest) := splitSign chars
    (wholeDigits rest).bind fun ds =>
      keptInteger (if negative then -(ofDigits 10 ds : Int) else ofDigits 10 ds)

/-- The exponent of a float, zero when there is none. -/
def exponentPart : Option (List Char) → Option Int
  | none => some 0
  | some chars =>
    let (negative, rest) := splitSign chars
    (underscored Text.decimalDigit rest).map fun ds =>
      if negative then -(ofDigits 10 ds : Int) else ofDigits 10 ds

/-- Whether the characters write a float that is not too large. -/
def isFloat (chars : List Char) : Bool :=
  let (_, rest) := splitSign chars
  if rest = "inf".toList ∨ rest = "nan".toList then true
  else
    let (number, exponent) := Text.cutAt 'e' (rest.map Text.lowerAscii)
    let (whole, fraction) := Text.cutAt '.' number
    match wholeDigits whole, exponentPart exponent with
    | some ds, some power =>
      match fraction with
      | some places =>
        match underscored Text.decimalDigit places with
        | some fs =>
          (Decimal.toDouble ⟨ofDigits 10 (ds ++ fs), power - (fs.length : Int)⟩).isSome
        | none => false
      | none => exponent.isSome && (Decimal.toDouble ⟨ofDigits 10 ds, power⟩).isSome
    | _, _ => false

/-! ## Dates -/

/-- The number that exactly `count` digits write, and what follows them. -/
def fixedDigits (count : Nat) (chars : List Char) : Option (Nat × List Char) :=
  let digits := chars.take count
  if digits.length = count then
    (Text.digits 10 Text.decimalDigit digits).map fun n => (n, chars.drop count)
  else none

/-- Whether a year has a 29th of February. -/
def isLeap (year : Nat) : Bool := year % 4 == 0 && (year % 100 != 0 || year % 400 == 0)

/-- The number of days of a month. -/
def daysIn (year month : Nat) : Nat :=
  if month = 2 then (if isLeap year then 29 else 28)
  else if [4, 6, 9, 11].contains month then 30 else 31

/-- A date, and what follows it. -/
def afterDate (chars : List Char) : Option (List Char) := do
  let (year, rest) ← fixedDigits 4 chars
  let rest ← "-".toList.isPrefixOf? rest
  let (month, rest) ← fixedDigits 2 rest
  let rest ← "-".toList.isPrefixOf? rest
  let (day, rest) ← fixedDigits 2 rest
  if 1 ≤ month ∧ month ≤ 12 ∧ 1 ≤ day ∧ day ≤ daysIn year month then some rest else none

/-- What follows a fraction of a second that may be there. -/
def afterFraction : List Char → Option (List Char)
  | '.' :: rest =>
    if (rest.head?.bind Text.decimalDigit).isSome then
      some (rest.dropWhile fun c => (Text.decimalDigit c).isSome)
    else none
  | rest => some rest

/-- A time of day, and what follows it. -/
def afterTime (chars : List Char) : Option (List Char) := do
  let (hour, rest) ← fixedDigits 2 chars
  let rest ← ":".toList.isPrefixOf? rest
  let (minute, rest) ← fixedDigits 2 rest
  let rest ← ":".toList.isPrefixOf? rest
  let (second, rest) ← fixedDigits 2 rest
  if hour ≤ 23 ∧ minute ≤ 59 ∧ second ≤ 60 then afterFraction rest else none

/-- Whether the characters are an offset from universal time, or nothing. -/
def isOffset (chars : List Char) : Bool :=
  match chars with
  | [] => true
  | ['Z'] => true
  | ['z'] => true
  | sign :: rest =>
    (sign == '+' || sign == '-') &&
      match fixedDigits 2 rest with
      | some (hour, ':' :: rest) =>
        match fixedDigits 2 rest with
        | some (minute, []) => hour ≤ 23 && minute ≤ 59
        | _ => false
      | _ => false

/-- Whether the characters are a date, a time, or both. -/
def isDateTime (chars : List Char) : Bool :=
  match afterDate chars with
  | some [] => true
  | some (mark :: rest) =>
    (mark == 'T' || mark == 't' || mark == ' ') &&
      match afterTime rest with
      | some offset => isOffset offset
      | none => false
  | none => afterTime chars == some []

/-- The value that one word writes. -/
def scalar (chars : List Char) : Option Value :=
  if chars = "true".toList then some (.boolean true)
  else if chars = "false".toList then some (.boolean false)
  else
    match integer chars with
    | some n => some (.integer n)
    | none =>
      if isFloat chars then some .float
      else if isDateTime chars then some .dateTime
      else none

end EngineClient.Toml
