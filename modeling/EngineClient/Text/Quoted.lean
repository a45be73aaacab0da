import EngineClient.Text.Printable
import EngineClient.Text.Utf8
/-!
# Quoted texts

Texts between double quotes, every character that could not be told apart written as an escape.
-/

namespace EngineClient.Text

/-- A number in lower-case hexadecimal, without leading zeros. -/
def hex (n : Nat) : String := String.ofList (Nat.toDigits 16 n)

/-- The escape of a character inside quotes, or the character. -/
def escapeChar (apostrophes : Bool) (c : Char) : String :=
  if c = '"' then "\\\""
  else if c = '\\' then "\\\\"
  else if c = '\'' then (if apostrophes then "\\'" else "'")
  else if c = '\t' then "\\t"
  else if c = '\r' then "\\r"
  else if c = '\n' then "\\n"
  else if c = '\x00' then "\\0"
  else if isPrintable c then c.toString
  else "\\u\x7b" ++ hex c.toNat ++ "\x7d"

/-- A text in quotes. -/
def quote (text : String) : String :=
  "\"" ++ String.join (text.toList.map (escapeChar false)) ++ "\""

/-- A file path in quotes, where the apostrophe is escaped too. -/
def quotePath (path : String) : String :=
  "\"" ++ String.join (path.toList.map (escapeChar true)) ++ "\""

/-- A byte of a quoted header value: printable ASCII and the tab as they are. -/
def escapeByte (b : UInt8) : String :=
  if b = 0x22 then "\\\""
  else if (0x20 ≤ b ∧ b ≤ 0x7E) ∨ b = 9 then (Char.ofNat b.toNat).toString
  else "\\x" ++ hex b.toNat

/-- The bytes of a header value in quotes. -/
def quoteBytes (bytes : Bytes) : String :=
  "\"" ++ String.join (bytes.map escapeByte) ++ "\""

end EngineClient.Text
