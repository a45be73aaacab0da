/-!
# UTF-8

Bytes of texts, texts from bytes, and where exactly a byte string stops being UTF-8.
-/

namespace EngineClient

/-- A string of bytes. -/
abbrev Bytes := List UInt8

namespace Text

/-- The UTF-8 bytes of a text. -/
def encode (text : String) : Bytes := text.toUTF8.toList

/-- Bytes above 0x7F never stand alone: this is what the bytes at one position can be. -/
inductive Sequence where
  /-- A character, written with this many bytes after the first. -/
  | scalar (c : Char) (more : Nat)
  /-- No character starts here: the longest part that could have been one has this many bytes. -/
  | malformed (length : Nat)
  /-- The bytes end inside a character. -/
  | truncated
deriving Repr, DecidableEq

/-- Bytes 0x80 to 0xBF, which continue a character. -/
def isContinuation (b : UInt8) : Bool := 0x80 ≤ b && b ≤ 0xBF

/-- The six bits a continuation byte carries. -/
def payload (b : UInt8) : Nat := b.toNat % 64

/-- The second bytes that may follow a first byte of a sequence of three or four: overlong forms,
surrogates and numbers past the last character have none. -/
def secondAllowed (first second : UInt8) : Bool :=
  if first == 0xE0 then 0xA0 ≤ second && second ≤ 0xBF
  else if first == 0xED then 0x80 ≤ second && second ≤ 0x9F
  else if first == 0xF0 then 0x90 ≤ second && second ≤ 0xBF
  else if first == 0xF4 then 0x80 ≤ second && second ≤ 0x8F
  else isContinuation second

/-- What starts with `first` when the bytes after it are `rest`. -/
def sequenceAt (first : UInt8) (rest : Bytes) : Sequence :=
  if first < 0x80 then .scalar (Char.ofNat first.toNat) 0
  else if 0xC2 ≤ first && first ≤ 0xDF then
    match rest with
    | [] => .truncated
    | b :: _ =>
      if isContinuation b then .scalar (Char.ofNat (first.toNat % 32 * 64 + payload b)) 1
      else .malformed 1
  else if 0xE0 ≤ first && first ≤ 0xEF then
    match rest with
    | [] => .truncated
    | [b] => if secondAllowed first b then .truncated else .malformed 1
    | b :: c :: _ =>
      if !secondAllowed first b then .malformed 1
      else if !isContinuation c then .malformed 2
      else .scalar (Char.ofNat ((first.toNat % 16 * 64 + payload b) * 64 + payload c)) 2
  else if 0xF0 ≤ first && first ≤ 0xF4 then
    match rest with
    | [] => .truncated
    | [b] => if secondAllowed first b then .truncated else .malformed 1
    | [b, c] =>
      if !secondAllowed first b then .malformed 1
      else if isContinuation c then .truncated else .malformed 2
    | b :: c :: d :: _ =>
      if !secondAllowed first b then .malformed 1
      else if !isContinuation c then .malformed 2
      else if !isContinuation d then .malformed 3
      else .scalar
        (Char.ofNat (((first.toNat % 8 * 64 + payload b) * 64 + payload c) * 64 + payload d)) 3
  else .malformed 1

/-- Where bytes stop being UTF-8: after `validBytes` good ones, by a part of `length` bytes that is no
character, or by their end inside a character. -/
structure Utf8Fault where
  validBytes : Nat
  length : Option Nat
deriving Repr, DecidableEq

/-- The wording of a fault. -/
def Utf8Fault.message (fault : Utf8Fault) : String :=
  match fault.length with
  | some n => s!"invalid utf-8 sequence of {n} bytes from index {fault.validBytes}"
  | none => s!"incomplete utf-8 byte sequence from index {fault.validBytes}"

/-- Decoding from `position` on, with the characters before it in reverse. -/
def decodeFrom (position : Nat) (before : List Char) : Bytes → Except Utf8Fault (List Char)
  | [] => .ok before.reverse
  | first :: rest =>
    match sequenceAt first rest with
    | .scalar c more => decodeFrom (position + 1 + more) (c :: before) (rest.drop more)
    | .malformed length => .error ⟨position, some length⟩
    | .truncated => .error ⟨position, none⟩
termination_by bytes => bytes.length
decreasing_by simp only [List.length_cons, List.length_drop]; omega

/-- The characters of a byte string that is UTF-8 throughout. -/
def decodeChars (bytes : Bytes) : Except Utf8Fault (List Char) := decodeFrom 0 [] bytes

/-- The text of a byte string that is UTF-8 throughout. -/
def decode (bytes : Bytes) : Except Utf8Fault String := (decodeChars bytes).map String.ofList

/-- Decoding that puts U+FFFD for every part that is no character. -/
def decodeLossyFrom (before : List Char) : Bytes → List Char
  | [] => before.reverse
  | first :: rest =>
    match sequenceAt first rest with
    | .scalar c more => decodeLossyFrom (c :: before) (rest.drop more)
    | .malformed length => decodeLossyFrom ('\uFFFD' :: before) (rest.drop (length - 1))
    | .truncated => ('\uFFFD' :: before).reverse
termination_by bytes => bytes.length
decreasing_by all_goals simp only [List.length_cons, List.length_drop]; omega

/-- The text of any byte string, with U+FFFD for the parts that are no characters. -/
def decodeLossy (bytes : Bytes) : String := String.ofList (decodeLossyFrom [] bytes)

end Text

end EngineClient
