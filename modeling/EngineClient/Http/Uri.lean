import EngineClient.Http.Fault
import EngineClient.Text.Blank
/-!
# URIs

The four forms a request can name its goal in, and the parts they are split into.
-/

namespace EngineClient.Http

/-- The parts of a URI. An absolute one has a scheme, an authority and what follows; the origin form and
`*` have only what follows, the authority form only the authority. -/
structure Uri where
  scheme : Option String
  authority : Option String
  /-- Path and query as written, without a fragment. -/
  pathAndQuery : Option String
deriving Repr, DecidableEq

namespace Uri

/-- The longest URI in bytes. -/
def maxLength : Nat := 65534

/-- The longest scheme. -/
def maxSchemeLength : Nat := 64

/-- The most colons an authority is searched through. -/
def maxColons : Nat := 8

/-! ## Characters -/

/-- Letters and digits of ASCII. -/
def isAlphanumeric (c : Char) : Bool :=
  ('a' ≤ c && c ≤ 'z') || ('A' ≤ c && c ≤ 'Z') || ('0' ≤ c && c ≤ '9')

/-- Characters of a scheme. -/
def isSchemeChar (c : Char) : Bool := isAlphanumeric c || "+-.~".toList.contains c

/-- Characters an authority can hold besides brackets, colons and the at sign. -/
def isAuthorityChar (c : Char) : Bool := isAlphanumeric c || "!$&'()*+,-.;=_~".toList.contains c

/-- Characters of a path; those outside ASCII are left to the receiver. -/
def isPathChar (c : Char) : Bool :=
  let n := c.toNat
  n == 0x21 || n == 0x22 || (0x24 ≤ n && n ≤ 0x3B) || n == 0x3D || (0x40 ≤ n && n ≤ 0x5F) ||
    (0x61 ≤ n && n ≤ 0x7E) || 0x80 ≤ n

/-- Characters of a query. -/
def isQueryChar (c : Char) : Bool :=
  let n := c.toNat
  n == 0x21 || (0x24 ≤ n && n ≤ 0x3B) || n == 0x3D || (0x3F ≤ n && n ≤ 0x7E) || 0x80 ≤ n

/-! ## Parts -/

/-- What has been seen of an authority. -/
structure AuthorityScan where
  /-- Colons since the last at sign or closing bracket. -/
  colons : Nat
  opened : Bool
  closed : Bool
  /-- A percent sign since the last at sign or closing bracket. -/
  percent : Bool
  /-- The last character was an at sign. -/
  endsInAt : Bool
deriving Repr, DecidableEq

/-- The scan before the first character. -/
def AuthorityScan.start : AuthorityScan := ⟨0, false, false, false, false⟩

/-- The scan after one more character. -/
def AuthorityScan.step (s : AuthorityScan) (c : Char) : Except UriFault AuthorityScan :=
  if c = ':' then
    if maxColons ≤ s.colons then .error .authority
    else .ok { s with colons := s.colons + 1, endsInAt := false }
  else if c = '[' then
    if s.percent || s.opened then .error .authority
    else .ok { s with opened := true, endsInAt := false }
  else if c = ']' then
    if !s.opened || s.closed then .error .authority
    else .ok { s with closed := true, colons := 0, percent := false, endsInAt := false }
  else if c = '@' then .ok { s with colons := 0, percent := false, endsInAt := true }
  else if c = '%' then .ok { s with percent := true, endsInAt := false }
  else if isAuthorityChar c then .ok { s with endsInAt := false }
  else .error .character

/-- Whether an authority may end here: brackets in pairs, one colon at most after the host, a host after the
at sign, no percent sign in the host. -/
def AuthorityScan.complete (s : AuthorityScan) : Bool :=
  s.opened == s.closed && s.colons ≤ 1 && !s.endsInAt && !s.percent

/-- The characters that end an authority. -/
def endsAuthority (c : Char) : Bool := c == '/' || c == '?' || c == '#'

/-- The authority at the start of the characters and what follows it; `taken` has the characters before,
in reverse. -/
def authorityFrom (s : AuthorityScan) (taken : List Char) :
    List Char → Except UriFault (List Char × List Char)
  | [] => if s.complete then .ok (taken.reverse, []) else .error .authority
  | c :: rest =>
    if endsAuthority c then
      if s.complete then .ok (taken.reverse, c :: rest) else .error .authority
    else
      match s.step c with
      | .ok next => authorityFrom next (c :: taken) rest
      | .error fault => .error fault

/-- The authority at the start of a text that is not empty. -/
def splitAuthority (chars : List Char) : Except UriFault (List Char × List Char) :=
  if chars.isEmpty then .error .empty else authorityFrom .start [] chars

/-- The query from its first character on, up to a fragment. -/
def queryFrom (taken : List Char) : List Char → Except UriFault (List Char)
  | [] => .ok taken.reverse
  | c :: rest =>
    if c = '#' then .ok taken.reverse
    else if isQueryChar c then queryFrom (c :: taken) rest
    else .error .character

/-- Path and query from their first character on, up to a fragment. -/
def pathFrom (taken : List Char) : List Char → Except UriFault (List Char)
  | [] => .ok taken.reverse
  | c :: rest =>
    if c = '?' then queryFrom (c :: taken) rest
    else if c = '#' then .ok taken.reverse
    else if isPathChar c then pathFrom (c :: taken) rest
    else .error .character

/-- The path and query of a text; where there is nothing it is `/`. -/
def pathOf (chars : List Char) : Except UriFault String :=
  match pathFrom [] chars with
  | .ok [] => .ok "/"
  | .ok path => .ok (String.ofList path)
  | .error fault => .error fault

/-- What follows a known scheme, whose letters may have either case. -/
def afterKnownScheme (known : String) (chars : List Char) : Option (List Char) :=
  known.toList.isPrefixOf? (chars.take known.length |>.map Text.lowerAscii) |>.map
    fun _ => chars.drop known.length

/-- The scheme before `://` and what follows it. -/
def splitScheme (chars : List Char) : Except UriFault (Option (String × List Char)) :=
  match afterKnownScheme "http://" chars with
  | some rest => .ok (some ("http", rest))
  | none =>
    match afterKnownScheme "https://" chars with
    | some rest => .ok (some ("https", rest))
    | none =>
      let scheme := chars.takeWhile isSchemeChar
      match chars.dropWhile isSchemeChar with
      | ':' :: '/' :: '/' :: rest =>
        if chars.length ≤ 3 then .ok none
        else if maxSchemeLength < scheme.length then .error .schemeTooLong
        else .ok (some (String.ofList scheme, rest))
      | _ => .ok none

/-- The URI whose authority and path follow a scheme. -/
def parseAbsolute (scheme : String) (rest : List Char) : Except UriFault Uri :=
  match splitAuthority rest with
  | .error fault => .error fault
  | .ok ([], _) => .error .format
  | .ok (authority, rest) =>
    match pathOf rest with
    | .ok path => .ok ⟨some scheme, some (String.ofList authority), some path⟩
    | .error fault => .error fault

/-- The URI that is nothing but an authority; `surplus` is the fault when more follows. -/
def parseAuthority (surplus : UriFault) (chars : List Char) : Except UriFault Uri :=
  match splitAuthority chars with
  | .error fault => .error fault
  | .ok (authority, []) => .ok ⟨none, some (String.ofList authority), none⟩
  | .ok (_, _ :: _) => .error surplus

/-- The URI a text writes. -/
def parse (text : String) : Except UriFault Uri :=
  if maxLength < text.utf8ByteSize then .error .tooLong
  else
    match text.toList with
    | [] => .error .empty
    | ['*'] => .ok ⟨none, none, some "*"⟩
    | '/' :: rest => (pathOf ('/' :: rest)).map fun path => ⟨none, none, some path⟩
    | [c] => parseAuthority .character [c]
    | chars =>
      match splitScheme chars with
      | .error fault => .error fault
      | .ok (some (scheme, rest)) => parseAbsolute scheme rest
      | .ok none => parseAuthority .format chars

/-! ## Use -/

/-- The host inside an authority, without what stands before the at sign and after the colon; brackets
stay. -/
def hostOf (authority : String) : String :=
  let address := (authority.toList.reverse.takeWhile (· != '@')).reverse
  match address with
  | '[' :: _ => String.ofList (address.takeWhile (· != ']') ++ [']'])
  | _ => String.ofList (address.takeWhile (· != ':'))

/-- The host a URI names. -/
def host (uri : Uri) : Option String := uri.authority.map hostOf

end Uri

end EngineClient.Http
