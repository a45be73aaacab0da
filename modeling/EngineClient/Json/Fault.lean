/-!
# Faults of JSON documents

The three ways in which a document can fail to be what is expected.
-/

namespace EngineClient.Json

/-- The kind of the first problem met reading a document from left to right. -/
inductive Fault where
  /-- The text ends inside the document. -/
  | ending
  /-- The text is no document. -/
  | syntaxError
  /-- The document is not of the expected form. -/
  | mismatch
deriving Repr, DecidableEq

/-- The name of a kind. -/
def Fault.name : Fault → String
  | .ending => "eof"
  | .syntaxError => "syntax"
  | .mismatch => "data"

/-- What stands for the wording of a fault, which is not modelled. -/
def faultDetail : String := "*"

end EngineClient.Json
