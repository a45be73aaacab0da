import EngineClient.Toml.Scalar
/-!
# Reading TOML

Documents of version 1.0 of the format. Only whether a text is a document, and its values, matter: there is one
answer for everything that is none.
-/

namespace EngineClient.Toml

/-- What a step of reading answers: a result and the characters after it. -/
abbrev Reading (α : Type) := Option (α × List Char)

/-- How deep values may be nested. -/
def maxDepth : Nat := 80

/-! ## Characters -/

/-- Space and tab. -/
def isPad (c : Char) : Bool := c == ' ' || c == '\t'

/-- Characters that may stand in a comment. -/
def isCommentChar (c : Char) : Bool := c == '\t' || (' ' ≤ c && c != '\x7f')

/-- The characters after the blanks. -/
def skipPad (chars : List Char) : List Char := chars.dropWhile isPad

/-- The characters after a line end. -/
def afterNewline : List Char → Option (List Char)
  | '\n' :: rest => some rest
  | '\r' :: '\n' :: rest => some rest
  | _ => none

/-- The characters after blanks and a comment that may be there. -/
def skipComment (chars : List Char) : List Char :=
  match skipPad chars with
  | '#' :: rest => rest.dropWhile isCommentChar
  | rest => rest

/-- The characters after the end of a line, which may be the end of the text. -/
def endLine (chars : List Char) : Option (List Char) :=
  match skipComment chars with
  | [] => some []
  | rest => afterNewline rest

/-- The characters after blanks, comments and line ends; `lines` bounds the number of lines. -/
def skipLines : (lines : Nat) → List Char → List Char
  | 0, chars => chars
  | lines + 1, chars =>
    let rest := skipComment chars
    match afterNewline rest with
    | some rest => skipLines lines rest
    | none => rest

/-! ## Texts -/

/-- The character that so many hexadecimal digits write. -/
def escapedNumber (count : Nat) (chars : List Char) : Reading Char :=
  let digits := chars.take count
  if digits.length = count then
    match Text.digits 16 Text.hexDigit digits with
    | some n => if n.isValidChar then some (Char.ofNat n, chars.drop count) else none
    | none => none
  else none

/-- The character an escape stands for; the characters start after the backslash. -/
def escaped : List Char → Reading Char
  | 'b' :: rest => some ('\x08', rest)
  | 't' :: rest => some ('\t', rest)
  | 'n' :: rest => some ('\n', rest)
  | 'f' :: rest => some ('\x0c', rest)
  | 'r' :: rest => some ('\r', rest)
  | '"' :: rest => some ('"', rest)
  | '\\' :: rest => some ('\\', rest)
  | 'u' :: rest => escapedNumber 4 rest
  | 'U' :: rest => escapedNumber 8 rest
  | _ => none

/-- A text in double quotes, from after the first; `before` has its characters so far, in reverse. -/
def basicText (before : List Char) : (steps : Nat) → List Char → Reading String
  | 0, _ => none
  | _ + 1, [] => none
  | _ + 1, '"' :: rest => some (String.ofList before.reverse, rest)
  | steps + 1, '\\' :: rest =>
    match escaped rest with
    | some (c, rest) => basicText (c :: before) steps rest
    | none => none
  | steps + 1, c :: rest => if isCommentChar c then basicText (c :: before) steps rest else none

/-- A text in single quotes, from after the first. -/
def literalText (before : List Char) : List Char → Reading String
  | [] => none
  | '\'' :: rest => some (String.ofList before.reverse, rest)
  | c :: rest => if isCommentChar c then literalText (c :: before) rest else none

/-- The number of quotes at the start, five at most. -/
def quotesAt (quote : Char) (chars : List Char) : Nat := ((chars.take 5).takeWhile (· == quote)).length

/-- The characters after blanks and line ends; `lines` bounds the number of lines. -/
def skipBlankLines : (lines : Nat) → List Char → List Char
  | 0, chars => chars
  | lines + 1, chars =>
    let rest := skipPad chars
    match afterNewline rest with
    | some rest => skipBlankLines lines rest
    | none => rest

/-- What follows a backslash at the end of a line: the blanks and line ends up to the next character. -/
def skipBreak (chars : List Char) : Option (List Char) :=
  (afterNewline (skipPad chars)).map fun rest => skipBlankLines (rest.length + 1) rest

/-- A text of several lines, from after its opening quotes and the line end after them. A line end stays as
it is written. -/
def longText (quote : Char) (before : List Char) : (steps : Nat) → List Char → Reading String
  | 0, _ => none
  | steps + 1, chars =>
    let quotes := quotesAt quote chars
    if 3 ≤ quotes then
      some (String.ofList ((List.replicate (quotes - 3) quote ++ before).reverse), chars.drop quotes)
    else
      match chars with
      | [] => none
      | c :: rest =>
        if c = '\\' ∧ quote = '"' then
          match skipBreak rest with
          | some rest => longText quote before steps rest
          | none =>
            match escaped rest with
            | some (c, rest) => longText quote (c :: before) steps rest
            | none => none
        else
          match afterNewline chars with
          | some rest =>
            longText quote ((chars.take (chars.length - rest.length)).reverse ++ before) steps rest
          | none => if isCommentChar c then longText quote (c :: before) steps rest else none

/-- A text of several lines, from after its opening quotes. -/
def longTextAt (quote : Char) (chars : List Char) : Reading String :=
  longText quote [] (chars.length + 1) ((afterNewline chars).getD chars)

/-! ## Keys -/

/-- Characters of keys without quotes. -/
def isBareKeyChar (c : Char) : Bool :=
  ('a' ≤ c && c ≤ 'z') || ('A' ≤ c && c ≤ 'Z') || ('0' ≤ c && c ≤ '9') || c == '_' || c == '-'

/-- One part of a key. -/
def keyPart : List Char → Reading String
  | '"' :: rest => basicText [] (rest.length + 1) rest
  | '\'' :: rest => literalText [] rest
  | chars =>
    match chars.takeWhile isBareKeyChar with
    | [] => none
    | name => some (String.ofList name, chars.dropWhile isBareKeyChar)

/-- The parts of a key, with points between them; the blanks after it are passed over. -/
def keyParts (before : List String) : (parts : Nat) → List Char → Reading (List String)
  | 0, _ => none
  | parts + 1, chars =>
    match keyPart (skipPad chars) with
    | none => none
    | some (name, rest) =>
      match skipPad rest with
      | '.' :: rest => keyParts (name :: before) parts rest
      | rest => some ((name :: before).reverse, rest)

/-- A key: the parts before the last one, and the last. -/
def key (chars : List Char) : Reading (List String × String) :=
  match keyParts [] (chars.length + 1) chars with
  | some (parts, rest) => parts.getLast?.map fun last => ((parts.dropLast, last), rest)
  | none => none

/-! ## Values -/

/-- Characters of words. -/
def isWordChar (c : Char) : Bool := isBareKeyChar c || c == '+' || c == '.' || c == ':'

/-- A number, truth value or date. A blank may stand between a date and a time. -/
def word (chars : List Char) : Reading Value :=
  let first := chars.takeWhile isWordChar
  let rest := chars.drop first.length
  let joined := match rest with
    | ' ' :: more =>
      let second := more.takeWhile isWordChar
      if afterDate first = some [] ∧ ((second.head?).bind Text.decimalDigit).isSome then
        some (first ++ ' ' :: second, more.drop second.length)
      else none
    | _ => none
  match joined with
  | some (both, rest) => (scalar both).map fun value => (value, rest)
  | none => (scalar first).map fun value => (value, rest)

mutual

/-- A value at a depth; `steps` bounds the number of steps. -/
def value : (steps depth : Nat) → List Char → Reading Value
  | 0, _, _ => none
  | _ + 1, _, '"' :: '"' :: '"' :: rest => (longTextAt '"' rest).map fun (s, rest) => (.text s, rest)
  | _ + 1, _, '\'' :: '\'' :: '\'' :: rest =>
    (longTextAt '\'' rest).map fun (s, rest) => (.text s, rest)
  | _ + 1, _, '"' :: rest => (basicText [] (rest.length + 1) rest).map fun (s, rest) => (.text s, rest)
  | _ + 1, _, '\'' :: rest => (literalText [] rest).map fun (s, rest) => (.text s, rest)
  | steps + 1, depth, '[' :: rest =>
    if maxDepth ≤ depth then none
    else (elements steps (depth + 1) [] rest).map fun (es, rest) => (.array es false, rest)
  | steps + 1, depth, '{' :: rest =>
    if maxDepth ≤ depth then none
    else
      match skipPad rest with
      | '}' :: rest => some (.table .braces [], rest)
      | rest => (pairs steps (depth + 1) [] rest).map fun (es, rest) => (.table .braces es, rest)
  | _ + 1, _, chars => word chars

/-- The elements of a list up to its closing bracket; `before` has those so far, in reverse. -/
def elements : (steps depth : Nat) → List Value → List Char → Reading (List Value)
  | 0, _, _, _ => none
  | steps + 1, depth, before, chars =>
    match skipLines chars.length chars with
    | ']' :: rest => some (before.reverse, rest)
    | chars =>
      match value steps depth chars with
      | none => none
      | some (element, rest) =>
        match skipLines rest.length rest with
        | ',' :: rest => elements steps depth (element :: before) rest
        | ']' :: rest => some ((element :: before).reverse, rest)
        | _ => none

/-- The pairs of a table in braces up to the closing one. -/
def pairs : (steps depth : Nat) → Entries → List Char → Reading Entries
  | 0, _, _, _ => none
  | steps + 1, depth, before, chars =>
    match key chars with
    | some ((path, name), '=' :: rest) =>
      match value steps depth (skipPad rest) with
      | none => none
      | some (content, rest) =>
        match Entries.insert path name content .headed before with
        | none => none
        | some (_, entries) =>
          match skipPad rest with
          | ',' :: rest => pairs steps depth entries rest
          | '}' :: rest => some (entries, rest)
          | _ => none
    | _ => none

end

/-! ## Documents -/

/-- The line that starts here. -/
def line (chars : List Char) : Reading Line :=
  match skipPad chars with
  | '[' :: '[' :: rest =>
    match key rest with
    | some ((path, name), ']' :: ']' :: rest) => (endLine rest).map fun rest => (.listHeader path name, rest)
    | _ => none
  | '[' :: rest =>
    match key rest with
    | some ((path, name), ']' :: rest) => (endLine rest).map fun rest => (.header path name, rest)
    | _ => none
  | chars =>
    match endLine chars with
    | some rest => some (.blank, rest)
    | none =>
      match key chars with
      | some ((path, name), '=' :: rest) =>
        match value (2 * rest.length + 1) 0 (skipPad rest) with
        | some (content, rest) => (endLine rest).map fun rest => (.pair path name content, rest)
        | none => none
      | _ => none

/-- The document that the lines complete; `lines` bounds their number. -/
def document (draft : Draft) : (lines : Nat) → List Char → Option Entries
  | 0, _ => none
  | _ + 1, [] => some draft.root
  | lines + 1, chars =>
    match line chars with
    | none => none
    | some (read, rest) =>
      match draft.add read with
      | none => none
      | some next => document next lines rest

/-- The document a text writes; a byte order mark in front is passed over. -/
def parse (text : String) : Option Entries :=
  let chars := match text.toList with
    | '\uFEFF' :: rest => rest
    | all => all
  document .empty (chars.length + 1) chars

end EngineClient.Toml
