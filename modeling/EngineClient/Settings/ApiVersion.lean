import EngineClient.Text.Blank
import EngineClient.Text.Numeral
/-!
# API versions

Version numbers of the daemon's interface, compared as numbers and not as texts: 1.9 is before 1.24.
-/

namespace EngineClient

/-- A version `major.minor`; both numbers have 32 bits. -/
structure ApiVersion where
  major : Nat
  minor : Nat
deriving Repr, DecidableEq, Inhabited

namespace ApiVersion

/-- The version asked for when nothing else is configured. -/
def standard : ApiVersion := ⟨1, 45⟩

/-- The oldest version that is spoken. -/
def oldest : ApiVersion := ⟨1, 24⟩

/-- The text of a version. -/
def text (v : ApiVersion) : String := toString v.major ++ "." ++ toString v.minor

/-- What the paths of versioned requests start with. -/
def pathPrefix (v : ApiVersion) : String := "/v" ++ v.text

/-- Order by the major number, and by the minor one where those are equal. -/
def order (a b : ApiVersion) : Ordering := (compare a.major b.major).then (compare a.minor b.minor)

/-- Whether `a` comes before `b`. -/
def isBefore (a b : ApiVersion) : Bool := a.order b == .lt

/-- The later of two versions. -/
def later (a b : ApiVersion) : ApiVersion := if b.isBefore a then a else b

/-- The version a text writes: blanks around it and one leading `v` do not count, the first point ends
the major number. -/
def parse (source : String) : Option ApiVersion :=
  let chars := Text.strip source.toList
  let bare := match chars with
    | 'v' :: rest => rest
    | all => all
  match Text.cutAt '.' bare with
  | (_, none) => none
  | (major, some minor) =>
    match Text.numeral 10 Text.decimalDigit Text.limit32 major,
        Text.numeral 10 Text.decimalDigit Text.limit32 minor with
    | some a, some b => some ⟨a, b⟩
    | _, _ => none

end ApiVersion

end EngineClient
