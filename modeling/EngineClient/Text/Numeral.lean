/-!
# Numerals

Unsigned numbers written in decimal or hexadecimal, with the bounds of machine words.
-/

namespace EngineClient.Text

/-- One more than the largest 32-bit number. -/
def limit32 : Nat := 4294967296
/-- One more than the largest 64-bit number. -/
def limit64 : Nat := 18446744073709551616

/-- The value of a decimal digit. -/
def decimalDigit (c : Char) : Option Nat :=
  if '0' ≤ c ∧ c ≤ '9' then some (c.toNat - '0'.toNat) else none

/-- The value of a hexadecimal digit in either case. -/
def hexDigit (c : Char) : Option Nat :=
  if '0' ≤ c ∧ c ≤ '9' then some (c.toNat - '0'.toNat)
  else if 'a' ≤ c ∧ c ≤ 'f' then some (c.toNat - 'a'.toNat + 10)
  else if 'A' ≤ c ∧ c ≤ 'F' then some (c.toNat - 'A'.toNat + 10)
  else none

/-- The number that digits of the given base continue from `value`; none if one is no digit. -/
def digitsFrom (base : Nat) (digit : Char → Option Nat) (value : Nat) : List Char → Option Nat
  | [] => some value
  | c :: rest =>
    match digit c with
    | some d => digitsFrom base digit (value * base + d) rest
    | none => none

/-- The number written by one or more digits. -/
def digits (base : Nat) (digit : Char → Option Nat) : List Char → Option Nat
  | [] => none
  | chars => digitsFrom base digit 0 chars

/-- The number below `limit` written by an optional plus sign and one or more digits. -/
def numeral (base : Nat) (digit : Char → Option Nat) (limit : Nat) (chars : List Char) : Option Nat :=
  let unsigned := match chars with
    | '+' :: rest => rest
    | all => all
  (digits base digit unsigned).filter (· < limit)

/-- A decimal number below `limit`. -/
def decimal (limit : Nat) (text : String) : Option Nat := numeral 10 decimalDigit limit text.toList

/-- A hexadecimal number below `limit`. -/
def hexadecimal (limit : Nat) (text : String) : Option Nat := numeral 16 hexDigit limit text.toList

/-- A decimal number with leading zeros up to `width` digits. -/
def padded (width n : Nat) : String :=
  let shown := (toString n).toList
  String.ofList (List.replicate (width - shown.length) '0' ++ shown)

end EngineClient.Text
