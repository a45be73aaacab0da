/-!
# Status codes

The three digits a response starts with, and the phrases registered for them.
-/

namespace EngineClient.Http

/-- A status code. -/
structure Status where
  code : Nat
deriving Repr, DecidableEq, Inhabited

/-- The registered phrases. -/
def statusPhrases : List (Nat × String) := [
  (100, "Continue"), (101, "Switching Protocols"), (102, "Processing"), (103, "Early Hints"),
  (200, "OK"), (201, "Created"), (202, "Accepted"), (203, "Non Authoritative Information"),
  (204, "No Content"), (205, "Reset Content"), (206, "Partial Content"), (207, "Multi-Status"),
  (208, "Already Reported"), (226, "IM Used"),
  (300, "Multiple Choices"), (301, "Moved Permanently"), (302, "Found"), (303, "See Other"),
  (304, "Not Modified"), (305, "Use Proxy"), (307, "Temporary Redirect"), (308, "Permanent Redirect"),
  (400, "Bad Request"), (401, "Unauthorized"), (402, "Payment Required"), (403, "Forbidden"),
  (404, "Not Found"), (405, "Method Not Allowed"), (406, "Not Acceptable"),
  (407, "Proxy Authentication Required"), (408, "Request Timeout"), (409, "Conflict"), (410, "Gone"),
  (411, "Length Required"), (412, "Precondition Failed"), (413, "Payload Too Large"),
  (414, "URI Too Long"), (415, "Unsupported Media Type"), (416, "Range Not Satisfiable"),
  (417, "Expectation Failed"), (418, "I'm a teapot"), (421, "Misdirected Request"),
  (422, "Unprocessable Entity"), (423, "Locked"), (424, "Failed Dependency"), (425, "Too Early"),
  (426, "Upgrade Required"), (428, "Precondition Required"), (429, "Too Many Requests"),
  (431, "Request Header Fields Too Large"), (451, "Unavailable For Legal Reasons"),
  (500, "Internal Server Error"), (501, "Not Implemented"), (502, "Bad Gateway"),
  (503, "Service Unavailable"), (504, "Gateway Timeout"), (505, "HTTP Version Not Supported"),
  (506, "Variant Also Negotiates"), (507, "Insufficient Storage"), (508, "Loop Detected"),
  (510, "Not Extended"), (511, "Network Authentication Required")]

namespace Status

/-- A status code of a number from 100 to 999. -/
def ofNat (n : Nat) : Option Status := if 100 ≤ n ∧ n < 1000 then some ⟨n⟩ else none

/-- The code and its phrase. -/
def text (s : Status) : String :=
  toString s.code ++ " " ++ (statusPhrases.lookup s.code).getD "<unknown status code>"

/-- Codes 100 to 199: another response follows. -/
def isInformational (s : Status) : Bool := 100 ≤ s.code && s.code < 200

/-- Codes 200 to 299. -/
def isSuccess (s : Status) : Bool := 200 ≤ s.code && s.code < 300

/-- Codes of responses that never have a body. -/
def isBodiless (s : Status) : Bool := s.isInformational || s.code == 204 || s.code == 304

end Status

end EngineClient.Http
