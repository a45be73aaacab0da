import EngineClient.Text.Numeral
/-!
# Durations

Spans of time counted in nanoseconds, and the way messages show them.
-/

namespace EngineClient

/-- A span of time. -/
structure Duration where
  nanoseconds : Nat
deriving Repr, DecidableEq, Inhabited

namespace Duration

/-- So many seconds. -/
def ofSeconds (n : Nat) : Duration := ⟨n * 1000000000⟩
/-- So many milliseconds. -/
def ofMilliseconds (n : Nat) : Duration := ⟨n * 1000000⟩

/-- The whole milliseconds of a span. -/
def milliseconds (d : Duration) : Nat := d.nanoseconds / 1000000
/-- The whole seconds of a span. -/
def seconds (d : Duration) : Nat := d.nanoseconds / 1000000000

/-- Whether the span is empty. -/
def isZero (d : Duration) : Bool := d.nanoseconds == 0

/-- The span as a number of units of `10 ^ places` nanoseconds, all decimals kept but trailing zeros. -/
def inUnit (places : Nat) (unit : String) (d : Duration) : String :=
  let whole := d.nanoseconds / Nat.pow 10 places
  let fraction := d.nanoseconds % Nat.pow 10 places
  let decimals := ((Text.padded places fraction).toList.reverse.dropWhile (· == '0')).reverse
  toString whole ++ (if fraction = 0 then "" else "." ++ String.ofList decimals) ++ unit

/-- The span in the largest unit of which it holds at least one. -/
def shown (d : Duration) : String :=
  if 1000000000 ≤ d.nanoseconds then d.inUnit 9 "s"
  else if 1000000 ≤ d.nanoseconds then d.inUnit 6 "ms"
  else if 1000 ≤ d.nanoseconds then d.inUnit 3 "µs"
  else toString d.nanoseconds ++ "ns"

end Duration

end EngineClient
