/-!
# Blank characters

The characters that count as white space, and texts without them at either end.
-/

namespace EngineClient.Text

/-- The characters with the Unicode `White_Space` property. -/
def isBlank (c : Char) : Bool :=
  let n := c.toNat
  (9 ≤ n && n ≤ 13) || n == 0x20 || n == 0x85 || n == 0xA0 || n == 0x1680 ||
    (0x2000 ≤ n && n ≤ 0x200A) || n == 0x2028 || n == 0x2029 || n == 0x202F ||
    n == 0x205F || n == 0x3000

/-- The characters left when the blank ones in front are taken away. -/
def dropBlank (chars : List Char) : List Char := chars.dropWhile isBlank

/-- The characters left when the blank ones at the end are taken away. -/
def dropBlankEnd (chars : List Char) : List Char := (chars.reverse.dropWhile isBlank).reverse

/-- The characters between the blank ones at both ends. -/
def strip (chars : List Char) : List Char := dropBlankEnd (dropBlank chars)

/-- A text without the blank characters at its ends. -/
def trim (text : String) : String := String.ofList (strip text.toList)

/-- Whether a text has nothing but blank characters. -/
def isBlankText (text : String) : Bool := text.toList.all isBlank

/-! ## Cutting texts -/

/-- The characters before the first `mark`, and those after it when there is one. -/
def cutAt (mark : Char) : List Char → List Char × Option (List Char)
  | [] => ([], none)
  | c :: rest =>
    if c = mark then ([], some rest)
    else
      let (before, after) := cutAt mark rest
      (c :: before, after)

/-- The pieces of a list of characters between the `mark`s; one more piece than marks. -/
def splitAt (mark : Char) (chars : List Char) : List (List Char) :=
  chars.foldr
    (fun c pieces =>
      if c = mark then [] :: pieces
      else match pieces with
        | [] => [[c]]
        | piece :: more => (c :: piece) :: more)
    [[]]

/-- Whether `part` stands somewhere in the characters. -/
def holds (part : List Char) : List Char → Bool
  | [] => part.isEmpty
  | c :: rest => part.isPrefixOf (c :: rest) || holds part rest

/-- What follows `lead` in a text that starts with it. -/
def afterLead (lead text : String) : Option String :=
  (lead.toList.isPrefixOf? text.toList).map String.ofList

/-- The lower-case form of an ASCII letter; every other character stays. -/
def lowerAscii (c : Char) : Char :=
  if 'A' ≤ c ∧ c ≤ 'Z' then Char.ofNat (c.toNat + 32) else c

/-- A text with its ASCII letters in lower case. -/
def lower (text : String) : String := String.ofList (text.toList.map lowerAscii)

end EngineClient.Text
