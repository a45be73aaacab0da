import EngineClient.Json.Fault
import EngineClient.Json.Value
import EngineClient.Text.Numeral
/-!
# Reading JSON

Documents of an expected shape. The first problem met from left to right decides what kind of fault is told,
so that the shape is checked while reading and not afterwards.
-/

namespace EngineClient.Json

/-- What a document is expected to be. -/
inductive Shape where
  /-- Any value. -/
  | any
  | text
  /-- The value `null`, or one of that shape. -/
  | optional (inner : Shape)
  | list (element : Shape)
  /-- An object with any names, all values of one shape. -/
  | map (element : Shape)
  /-- An object with these names; others are passed over, and all may be missing. It may also be a list of the
  values in this order. -/
  | record (fields : List (String × Shape))
deriving Repr

/-- What a step of reading answers: a result and the bytes after it, or the fault. -/
abbrev Reading (α : Type) := Except Fault (α × Bytes)

/-- How deep containers may be nested, plus one. -/
def depthLimit : Nat := 128

/-! ## Bytes -/

/-- The bytes that may stand between the parts of a document. -/
def isSpace (b : UInt8) : Bool := b == 0x20 || b == 0x0A || b == 0x09 || b == 0x0D

/-- The bytes after the blanks. -/
def skipSpace (bytes : Bytes) : Bytes := bytes.dropWhile isSpace

/-- Bytes of decimal digits. -/
def isDigit (b : UInt8) : Bool := 0x30 ≤ b && b ≤ 0x39

/-- The rest of a word whose first letter has been read. -/
def restOfWord : (expected : Bytes) → Bytes → Except Fault Bytes
  | [], bytes => .ok bytes
  | _ :: _, [] => .error .ending
  | e :: expected, b :: bytes => if e = b then restOfWord expected bytes else .error .syntaxError

/-- What follows the first letter of `null`. -/
def restOfNull : Bytes := [0x75, 0x6C, 0x6C]
/-- What follows the first letter of `true`. -/
def restOfTrue : Bytes := [0x72, 0x75, 0x65]
/-- What follows the first letter of `false`. -/
def restOfFalse : Bytes := [0x61, 0x6C, 0x73, 0x65]

/-! ## Numbers -/

/-- The largest exponent that is worked with. -/
def exponentLimit : Nat := 2147483648

/-- The product of two floats, rounded; none if it is too large. -/
def product (x y : Double) : Option Double :=
  Double.ofRatio (x.ratio.1 * y.ratio.1) (x.ratio.2 * y.ratio.2)

/-- The quotient of two floats, rounded. -/
def quotient (x y : Double) : Double :=
  (Double.ofRatio (x.ratio.1 * y.ratio.2) (x.ratio.2 * y.ratio.1)).getD x

/-- A power of ten as a float. -/
def powerOfTen (n : Nat) : Double := (Decimal.toDouble ⟨1, n⟩).getD ⟨0, Double.minExponent⟩

/-- The largest power of ten that is a float. -/
def maxPowerOfTen : Nat := 308

/-- A float divided by a power of ten, at most `maxPowerOfTen` places at a time. -/
def shiftDown (x : Double) (places : Nat) : (steps : Nat) → Double
  | 0 => x
  | steps + 1 =>
    if places ≤ maxPowerOfTen then quotient x (powerOfTen places)
    else if x.mantissa = 0 then x
    else shiftDown (quotient x (powerOfTen maxPowerOfTen)) (places - maxPowerOfTen) steps

/-- The float that a significand and an exponent make: both are floats before they are multiplied or
divided, so that the result is not always the nearest one. -/
def floatOf (significand : Nat) (exponent : Int) : Except Fault Double :=
  let x := (Double.ofRatio significand 1).getD ⟨0, Double.minExponent⟩
  if 0 ≤ exponent then
    if exponent.toNat ≤ maxPowerOfTen then
      match product x (powerOfTen exponent.toNat) with
      | some y => .ok y
      | none => .error .syntaxError
    else if x.mantissa = 0 then .ok x
    else .error .syntaxError
  else .ok (shiftDown x (-exponent).toNat 4)

/-- The part of a significand that digits continue while it has 64 bits, the number of digits used, and
whether digits are left. -/
def significandFrom (value used : Nat) : Bytes → Nat × Nat × Bool
  | [] => (value, used, false)
  | b :: rest =>
    let next := value * 10 + (b.toNat - 0x30)
    if next < Text.limit64 then significandFrom next (used + 1) rest else (value, used, true)

/-- The float after its exponent mark. -/
def exponentAfter (negative : Bool) (significand : Nat) (exponent : Int) (bytes : Bytes) :
    Reading Number :=
  let (down, bytes) := match bytes with
    | 0x2B :: rest => (false, rest)
    | 0x2D :: rest => (true, rest)
    | rest => (false, rest)
  match bytes with
  | [] => .error .ending
  | b :: _ =>
    if !isDigit b then .error .syntaxError
    else
      let digits := bytes.takeWhile isDigit
      let rest := bytes.dropWhile isDigit
      let size := digits.foldl (fun n d => n * 10 + (d.toNat - 0x30)) 0
      if exponentLimit ≤ size then
        if significand ≠ 0 ∧ !down then .error .syntaxError
        else .ok (.float negative ⟨0, Double.minExponent⟩, rest)
      else
        match floatOf significand (if down then exponent - size else exponent + size) with
        | .ok x => .ok (.float negative x, rest)
        | .error fault => .error fault

/-- The float after the digits of its number, with or without an exponent. -/
def afterDigits (negative : Bool) (significand : Nat) (exponent : Int) (bytes : Bytes) :
    Reading Number :=
  match bytes with
  | 0x65 :: rest => exponentAfter negative significand exponent rest
  | 0x45 :: rest => exponentAfter negative significand exponent rest
  | rest =>
    match floatOf significand exponent with
    | .ok x => .ok (.float negative x, rest)
    | .error fault => .error fault

/-- The float after its decimal point. -/
def fractionAfter (negative : Bool) (significand : Nat) (exponent : Int) (bytes : Bytes) :
    Reading Number :=
  match bytes.takeWhile isDigit, bytes.dropWhile isDigit with
  | [], [] => .error .ending
  | [], _ :: _ => .error .syntaxError
  | digits, rest =>
    let (significand, used, _) := significandFrom significand 0 digits
    afterDigits negative significand (exponent - used) rest

/-- A whole number of 64 bits, or the float that it is too large for that. -/
def wholeNumber (negative : Bool) (value : Nat) : Number :=
  if !negative then .whole value
  else if value ≠ 0 ∧ value ≤ 9223372036854775808 then .whole (-(value : Int))
  else .float true ((Double.ofRatio value 1).getD ⟨0, Double.minExponent⟩)

/-- The number after its sign. -/
def numberAfter (negative : Bool) (bytes : Bytes) : Reading Number :=
  match bytes with
  | [] => .error .ending
  | first :: more =>
    if !isDigit first then .error .syntaxError
    else if first = 0x30 ∧ (more.head?.any isDigit) then .error .syntaxError
    else
      let digits := bytes.takeWhile isDigit
      let rest := bytes.dropWhile isDigit
      let (significand, used, long) := significandFrom 0 0 digits
      let exponent : Int := (digits.length - used : Nat)
      match rest with
      | 0x2E :: rest => fractionAfter negative significand exponent rest
      | rest =>
        if long || rest.head? = some 0x65 || rest.head? = some 0x45 then
          afterDigits negative significand exponent rest
        else .ok (wholeNumber negative significand, rest)

/-! ## Texts -/

/-- The number that four hexadecimal digits write. -/
def fourHex : Bytes → Reading Nat
  | a :: b :: c :: d :: rest =>
    match Text.digits 16 Text.hexDigit ([a, b, c, d].map fun x => Char.ofNat x.toNat) with
    | some n => .ok (n, rest)
    | none => .error .syntaxError
  | _ => .error .ending

/-- One byte that must come here. -/
def expect (byte : UInt8) : Bytes → Except Fault Bytes
  | [] => .error .ending
  | b :: rest => if b = byte then .ok rest else .error .syntaxError

/-- The character of an escape by number, from after its `u`. One that does not fit into four digits is
written as two escapes. -/
def escapedNumber (bytes : Bytes) : Reading Char :=
  match fourHex bytes with
  | .error fault => .error fault
  | .ok (high, rest) =>
    if 0xDC00 ≤ high ∧ high ≤ 0xDFFF then .error .syntaxError
    else if 0xD800 ≤ high ∧ high ≤ 0xDBFF then
      match (expect 0x5C rest).bind (expect 0x75) with
      | .error fault => .error fault
      | .ok rest =>
        match fourHex rest with
        | .error fault => .error fault
        | .ok (low, rest) =>
          if 0xDC00 ≤ low ∧ low ≤ 0xDFFF then
            .ok (Char.ofNat (0x10000 + (high - 0xD800) * 0x400 + (low - 0xDC00)), rest)
          else .error .syntaxError
    else .ok (Char.ofNat high, rest)

/-- The byte that an escape by letter stands for. -/
def escapedByte (b : UInt8) : Option UInt8 :=
  if b = 0x22 ∨ b = 0x5C ∨ b = 0x2F then some b
  else if b = 0x62 then some 0x08
  else if b = 0x66 then some 0x0C
  else if b = 0x6E then some 0x0A
  else if b = 0x72 then some 0x0D
  else if b = 0x74 then some 0x09
  else none

/-- The bytes of a text from after its quote; `before` has those so far, in reverse. -/
def textBytes (before : Bytes) : (steps : Nat) → Bytes → Reading Bytes
  | 0, _ => .error .ending
  | _ + 1, [] => .error .ending
  | steps + 1, b :: rest =>
    if b = 0x22 then .ok (before.reverse, rest)
    else if b = 0x5C then
      match rest with
      | [] => .error .ending
      | 0x75 :: rest =>
        match escapedNumber rest with
        | .ok (c, rest) => textBytes ((Text.encode c.toString).reverse ++ before) steps rest
        | .error fault => .error fault
      | e :: rest =>
        match escapedByte e with
        | some byte => textBytes (byte :: before) steps rest
        | none => .error .syntaxError
    else if b < 0x20 then .error .syntaxError
    else textBytes (b :: before) steps rest

/-- A text from after its quote. -/
def textAfter (bytes : Bytes) : Reading String :=
  match textBytes [] (bytes.length + 1) bytes with
  | .error fault => .error fault
  | .ok (content, rest) =>
    match Text.decode content with
    | .ok text => .ok (text, rest)
    | .error _ => .error .syntaxError

/-! ## Values passed over -/

/-- The bytes after a text that is passed over, from after its quote. Its characters are not looked at. -/
def skipText : (steps : Nat) → Bytes → Except Fault Bytes
  | 0, _ => .error .ending
  | _ + 1, [] => .error .ending
  | steps + 1, b :: rest =>
    if b = 0x22 then .ok rest
    else if b = 0x5C then
      match rest with
      | [] => .error .ending
      | 0x75 :: rest =>
        match fourHex rest with
        | .ok (_, rest) => skipText steps rest
        | .error fault => .error fault
      | e :: rest => if (escapedByte e).isSome then skipText steps rest else .error .syntaxError
    else if b < 0x20 then .error .syntaxError
    else skipText steps rest

/-- The bytes after one or more digits. -/
def skipDigits (bytes : Bytes) : Except Fault Bytes :=
  if bytes.head?.any isDigit then .ok (bytes.dropWhile isDigit) else .error .syntaxError

/-- The bytes after an exponent that may be there. -/
def skipExponent (bytes : Bytes) : Except Fault Bytes :=
  match bytes with
  | e :: rest =>
    if e = 0x65 ∨ e = 0x45 then
      match rest with
      | 0x2B :: rest => skipDigits rest
      | 0x2D :: rest => skipDigits rest
      | rest => skipDigits rest
    else .ok bytes
  | [] => .ok []

/-- The bytes after a number that is passed over, from after its sign. -/
def skipNumber (bytes : Bytes) : Except Fault Bytes :=
  match bytes with
  | 0x30 :: more => if more.head?.any isDigit then .error .syntaxError else skipTail more
  | _ =>
    match skipDigits bytes with
    | .ok rest => skipTail rest
    | .error fault => .error fault
where
  /-- The bytes after the fraction and exponent that may be there. -/
  skipTail : Bytes → Except Fault Bytes
    | 0x2E :: rest =>
      match skipDigits rest with
      | .ok rest => skipExponent rest
      | .error fault => .error fault
    | rest => skipExponent rest

/-- What a list or object that is open can be. -/
inductive Frame where
  | list
  | object
deriving Repr, DecidableEq

/-- The bytes after a name and its colon, both passed over. -/
def skipName (bytes : Bytes) : Except Fault Bytes :=
  match skipSpace bytes with
  | [] => .error .ending
  | b :: rest =>
    if b ≠ 0x22 then .error .syntaxError
    else
      match skipText (rest.length + 1) rest with
      | .error fault => .error fault
      | .ok rest => expect 0x3A (skipSpace rest)

/-- Passing over the ends of frames: the frames still open and the bytes of the next value, or none when the
value that is passed over is complete. `more` tells whether a value has just ended. -/
def closeFrames (more : Bool) : List Frame → Bytes → Except Fault (Option (List Frame) × Bytes)
  | [], bytes => .ok (none, bytes)
  | frame :: frames, bytes =>
    match skipSpace bytes with
    | [] => .error .ending
    | b :: rest =>
      if (b = 0x5D ∧ frame = .list) ∨ (b = 0x7D ∧ frame = .object) then closeFrames true frames rest
      else if b = 0x2C ∧ more then next frame frames rest
      else if more then .error .syntaxError
      else next frame frames (b :: rest)
where
  /-- What comes before the next value in a frame. -/
  next (frame : Frame) (frames : List Frame) (bytes : Bytes) :
      Except Fault (Option (List Frame) × Bytes) :=
    match frame with
    | .list => .ok (some (frame :: frames), bytes)
    | .object => (skipName bytes).map fun rest => (some (frame :: frames), rest)

/-- The bytes after a value that is passed over, inside of these frames. -/
def skipValue : (steps : Nat) → List Frame → Bytes → Except Fault Bytes
  | 0, _, _ => .error .ending
  | steps + 1, frames, bytes =>
    let after (more : Bool) (frames : List Frame) (rest : Bytes) : Except Fault Bytes :=
      match closeFrames more frames rest with
      | .error fault => .error fault
      | .ok (none, rest) => .ok rest
      | .ok (some frames, rest) => skipValue steps frames rest
    let afterScalar (result : Except Fault Bytes) : Except Fault Bytes :=
      match result with
      | .ok rest => after true frames rest
      | .error fault => .error fault
    match skipSpace bytes with
    | [] => .error .ending
    | b :: rest =>
      if b = 0x6E then afterScalar (restOfWord restOfNull rest)
      else if b = 0x74 then afterScalar (restOfWord restOfTrue rest)
      else if b = 0x66 then afterScalar (restOfWord restOfFalse rest)
      else if b = 0x2D then afterScalar (skipNumber rest)
      else if isDigit b then afterScalar (skipNumber (b :: rest))
      else if b = 0x22 then afterScalar (skipText (rest.length + 1) rest)
      else if b = 0x5B then after false (.list :: frames) rest
      else if b = 0x7B then after false (.object :: frames) rest
      else .error .syntaxError

/-! ## Values kept -/

/-- The fault of a value that is not of the expected shape. A simple value is read first, and its own fault
counts. -/
def wrongShape (bytes : Bytes) : Fault :=
  let orMismatch {α : Type} (result : Except Fault α) : Fault :=
    match result with
    | .ok _ => .mismatch
    | .error fault => fault
  match bytes with
  | [] => .ending
  | b :: rest =>
    if b = 0x6E then orMismatch (restOfWord restOfNull rest)
    else if b = 0x74 then orMismatch (restOfWord restOfTrue rest)
    else if b = 0x66 then orMismatch (restOfWord restOfFalse rest)
    else if b = 0x2D then orMismatch (numberAfter true rest)
    else if isDigit b then orMismatch (numberAfter false bytes)
    else if b = 0x22 then orMismatch (textAfter rest)
    else if b = 0x5B ∨ b = 0x7B then .mismatch
    else .syntaxError

/-- Whether another element follows in a list, and the bytes where it starts; `first` tells that none has been
read yet. -/
def nextElement (first : Bool) (bytes : Bytes) : Reading Bool :=
  match skipSpace bytes with
  | [] => .error .ending
  | b :: rest =>
    if b = 0x5D then .ok (false, b :: rest)
    else if first then .ok (true, b :: rest)
    else if b = 0x2C then
      match skipSpace rest with
      | [] => .error .ending
      | 0x5D :: _ => .error .syntaxError
      | more => .ok (true, more)
    else .error .syntaxError

/-- The name of the next member of an object, none at its end; the bytes start after the quote or at the
closing brace. -/
def nextName (first : Bool) (bytes : Bytes) : Reading (Option String) :=
  let named (bytes : Bytes) : Reading (Option String) :=
    match textAfter bytes with
    | .ok (name, rest) => .ok (some name, rest)
    | .error fault => .error fault
  match skipSpace bytes with
  | [] => .error .ending
  | b :: rest =>
    if b = 0x7D then .ok (none, b :: rest)
    else if first then (if b = 0x22 then named rest else .error .syntaxError)
    else if b = 0x2C then
      match skipSpace rest with
      | [] => .error .ending
      | 0x22 :: rest => named rest
      | _ => .error .syntaxError
    else .error .syntaxError

mutual

/-- A value of a shape, when containers may be nested less deep than `depth`; `steps` bounds the number of
steps. -/
def readValue : (steps : Nat) → Shape → (depth : Nat) → Bytes → Reading Value
  | 0, _, _, _ => .error .ending
  | steps + 1, shape, depth, bytes =>
    match skipSpace bytes with
    | [] => .error .ending
    | b :: rest =>
      match shape with
      | .optional inner =>
        if b = 0x6E then (restOfWord restOfNull rest).map fun rest => (.null, rest)
        else readValue steps inner depth (b :: rest)
      | .text =>
        if b = 0x22 then
          match textAfter rest with
          | .ok (content, rest) => .ok (.text content, rest)
          | .error fault => .error fault
        else .error (wrongShape (b :: rest))
      | .list element =>
        if b = 0x5B then readList steps element depth rest else .error (wrongShape (b :: rest))
      | .map element =>
        if b = 0x7B then readObject steps element depth rest else .error (wrongShape (b :: rest))
      | .record fields =>
        if b = 0x5B then
          if depth ≤ 1 then .error .syntaxError
          else
            match readFields steps fields (depth - 1) true [] rest with
            | .error fault => .error fault
            | .ok (members, rest) =>
              (expect 0x5D (skipSpace rest)).map fun rest => (.ofMembers members, rest)
        else if b = 0x7B then
          if depth ≤ 1 then .error .syntaxError
          else readMembers steps fields (depth - 1) true [] rest
        else .error (wrongShape (b :: rest))
      | .any =>
        if b = 0x6E then (restOfWord restOfNull rest).map fun rest => (.null, rest)
        else if b = 0x74 then (restOfWord restOfTrue rest).map fun rest => (.boolean true, rest)
        else if b = 0x66 then (restOfWord restOfFalse rest).map fun rest => (.boolean false, rest)
        else if b = 0x2D then (numberAfter true rest).map fun (n, rest) => (.number n, rest)
        else if isDigit b then (numberAfter false (b :: rest)).map fun (n, rest) => (.number n, rest)
        else if b = 0x22 then (textAfter rest).map fun (content, rest) => (.text content, rest)
        else if b = 0x5B then readList steps .any depth rest
        else if b = 0x7B then readObject steps .any depth rest
        else .error .syntaxError

/-- A list whose elements have one shape, from after its bracket. -/
def readList : (steps : Nat) → Shape → (depth : Nat) → Bytes → Reading Value
  | 0, _, _, _ => .error .ending
  | steps + 1, element, depth, bytes =>
    if depth ≤ 1 then .error .syntaxError
    else
      match readElements steps element (depth - 1) true [] bytes with
      | .ok (values, rest) => .ok (.array values, rest)
      | .error fault => .error fault

/-- The elements up to the closing bracket; `before` has those so far, in reverse. -/
def readElements : (steps : Nat) → Shape → (depth : Nat) → (first : Bool) → List Value → Bytes →
    Reading (List Value)
  | 0, _, _, _, _, _ => .error .ending
  | steps + 1, element, depth, first, before, bytes =>
    match nextElement first bytes with
    | .error fault => .error fault
    | .ok (false, rest) => .ok (before.reverse, rest.drop 1)
    | .ok (true, rest) =>
      match readValue steps element depth rest with
      | .error fault => .error fault
      | .ok (value, rest) => readElements steps element depth false (value :: before) rest

/-- An object whose values have one shape, from after its brace. -/
def readObject : (steps : Nat) → Shape → (depth : Nat) → Bytes → Reading Value
  | 0, _, _, _ => .error .ending
  | steps + 1, element, depth, bytes =>
    if depth ≤ 1 then .error .syntaxError
    else
      match readPairs steps element (depth - 1) true [] bytes with
      | .ok (members, rest) => .ok (.ofMembers members, rest)
      | .error fault => .error fault

/-- The members up to the closing brace; `before` has those so far, in reverse. -/
def readPairs : (steps : Nat) → Shape → (depth : Nat) → (first : Bool) → List (String × Value) → Bytes →
    Reading (List (String × Value))
  | 0, _, _, _, _, _ => .error .ending
  | steps + 1, element, depth, first, before, bytes =>
    match nextName first bytes with
    | .error fault => .error fault
    | .ok (none, rest) => .ok (before.reverse, rest.drop 1)
    | .ok (some name, rest) =>
      match expect 0x3A (skipSpace rest) with
      | .error fault => .error fault
      | .ok rest =>
        match readValue steps element depth rest with
        | .error fault => .error fault
        | .ok (value, rest) => readPairs steps element depth false ((name, value) :: before) rest

/-- The fields of a record that is written as a list, as many as there are. -/
def readFields : (steps : Nat) → List (String × Shape) → (depth : Nat) → (first : Bool) →
    List (String × Value) → Bytes → Reading (List (String × Value))
  | 0, _, _, _, _, _ => .error .ending
  | _ + 1, [], _, _, before, bytes => .ok (before.reverse, bytes)
  | steps + 1, (name, shape) :: fields, depth, first, before, bytes =>
    match nextElement first bytes with
    | .error fault => .error fault
    | .ok (false, rest) => .ok (before.reverse, rest)
    | .ok (true, rest) =>
      match readValue steps shape depth rest with
      | .error fault => .error fault
      | .ok (value, rest) => readFields steps fields depth false ((name, value) :: before) rest

/-- The members of a record up to the closing brace. A name of a field may come only once. -/
def readMembers : (steps : Nat) → List (String × Shape) → (depth : Nat) → (first : Bool) →
    List (String × Value) → Bytes → Reading Value
  | 0, _, _, _, _, _ => .error .ending
  | steps + 1, fields, depth, first, before, bytes =>
    match nextName first bytes with
    | .error fault => .error fault
    | .ok (none, rest) => .ok (.ofMembers before.reverse, rest.drop 1)
    | .ok (some name, rest) =>
      match fields.lookup name with
      | some shape =>
        if (before.lookup name).isSome then .error .mismatch
        else
          match expect 0x3A (skipSpace rest) with
          | .error fault => .error fault
          | .ok rest =>
            match readValue steps shape depth rest with
            | .error fault => .error fault
            | .ok (value, rest) => readMembers steps fields depth false ((name, value) :: before) rest
      | none =>
        match expect 0x3A (skipSpace rest) with
        | .error fault => .error fault
        | .ok rest =>
          match skipValue (rest.length + 1) [] rest with
          | .error fault => .error fault
          | .ok rest => readMembers steps fields depth false before rest

end

/-- The document of a shape that the bytes write, with nothing but blanks after it. -/
def read (shape : Shape) (bytes : Bytes) : Except Fault Value :=
  match readValue (2 * bytes.length + 3) shape depthLimit bytes with
  | .error fault => .error fault
  | .ok (value, rest) => if (skipSpace rest).isEmpty then .ok value else .error .syntaxError

end EngineClient.Json
