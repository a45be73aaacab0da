import EngineClient.Number.Decimal
import EngineClient.Text.Quoted
/-!
# JSON values

Documents as trees of values, and their texts.
-/

namespace EngineClient.Json

/-- A number: a whole one as long as it fits into 64 bits, a float otherwise. -/
inductive Number where
  | whole (value : Int)
  | float (negative : Bool) (value : Double)
deriving Repr, DecidableEq

/-- The text of a number. -/
def Number.text : Number → String
  | .whole value => toString value
  | .float negative value => Decimal.doubleText negative value

/-- A value. The members of an object stand in the order of their names, each name once. -/
inductive Value where
  | null
  | boolean (value : Bool)
  | number (value : Number)
  | text (content : String)
  | array (elements : List Value)
  | object (members : List (String × Value))
deriving Repr, Inhabited

/-- The members with one put in its place; one of the same name is replaced. -/
def putMember (name : String) (value : Value) : List (String × Value) → List (String × Value)
  | [] => [(name, value)]
  | (other, old) :: rest =>
    if name < other then (name, value) :: (other, old) :: rest
    else if name = other then (name, value) :: rest
    else (other, old) :: putMember name value rest

namespace Value

/-- The object of these members; the last one of a name counts. -/
def ofMembers (members : List (String × Value)) : Value :=
  .object (members.foldl (fun before (name, value) => putMember name value before) [])

/-- The member of that name, when the value is an object that has it. -/
def member (name : String) : Value → Option Value
  | .object members => members.lookup name
  | _ => none

/-- The content of a text. -/
def asText : Value → Option String
  | .text content => some content
  | _ => none

end Value

/-! ## Texts -/

/-- A character inside the quotes of a document. -/
def escapeChar (c : Char) : String :=
  if c = '"' then "\\\""
  else if c = '\\' then "\\\\"
  else if c = '\x08' then "\\b"
  else if c = '\x0c' then "\\f"
  else if c = '\n' then "\\n"
  else if c = '\r' then "\\r"
  else if c = '\t' then "\\t"
  else if c < ' ' then "\\u00" ++ (if c.toNat < 16 then "0" else "") ++ Text.hex c.toNat
  else c.toString

/-- A text in the quotes of a document. -/
def quote (text : String) : String := "\"" ++ String.join (text.toList.map escapeChar) ++ "\""

mutual

/-- The text of a value without blanks. -/
def compact : Value → String
  | .null => "null"
  | .boolean true => "true"
  | .boolean false => "false"
  | .number value => value.text
  | .text content => quote content
  | .array elements => "[" ++ compactElements elements ++ "]"
  | .object members => "\x7b" ++ compactMembers members ++ "\x7d"

/-- The texts of elements with commas between them. -/
def compactElements : List Value → String
  | [] => ""
  | [value] => compact value
  | value :: rest => compact value ++ "," ++ compactElements rest

/-- The texts of members with commas between them. -/
def compactMembers : List (String × Value) → String
  | [] => ""
  | [(name, value)] => quote name ++ ":" ++ compact value
  | (name, value) :: rest => quote name ++ ":" ++ compact value ++ "," ++ compactMembers rest

end

/-- A line end and the blanks in front of a line at a depth. -/
def newLine (depth : Nat) : String := "\n" ++ String.ofList (List.replicate (2 * depth) ' ')

mutual

/-- The text of a value at a depth, every element and member on a line of its own. -/
def indented (depth : Nat) : Value → String
  | .null => "null"
  | .boolean true => "true"
  | .boolean false => "false"
  | .number value => value.text
  | .text content => quote content
  | .array [] => "[]"
  | .array (first :: rest) =>
    "[" ++ newLine (depth + 1) ++ indented (depth + 1) first ++ indentedElements (depth + 1) rest ++
      newLine depth ++ "]"
  | .object [] => "\x7b\x7d"
  | .object ((name, first) :: rest) =>
    "\x7b" ++ newLine (depth + 1) ++ quote name ++ ": " ++ indented (depth + 1) first ++
      indentedMembers (depth + 1) rest ++ newLine depth ++ "\x7d"

/-- The texts of the elements after the first. -/
def indentedElements (depth : Nat) : List Value → String
  | [] => ""
  | value :: rest => "," ++ newLine depth ++ indented depth value ++ indentedElements depth rest

/-- The texts of the members after the first. -/
def indentedMembers (depth : Nat) : List (String × Value) → String
  | [] => ""
  | (name, value) :: rest =>
    "," ++ newLine depth ++ quote name ++ ": " ++ indented depth value ++ indentedMembers depth rest

end

/-- The text of a document, indented by two blanks. -/
def pretty (value : Value) : String := indented 0 value

end EngineClient.Json
