import LinkTap.Text.Numbers

/-!
# Request targets

The target a web-socket client connects to: a URL, an authority, a path or `*`, read rule by rule;
the first rule broken gives the error.
-/

set_option autoImplicit false

namespace LinkTap.Net

inductive UriError where
  | empty
  | tooLong
  | invalidUriChar
  | invalidAuthority
  | invalidFormat
  | schemeTooLong
deriving DecidableEq, Repr

def UriError.message : UriError → String
  | .empty => "empty string"
  | .tooLong => "uri too long"
  | .invalidUriChar => "invalid uri character"
  | .invalidAuthority => "invalid authority"
  | .invalidFormat => "invalid format"
  | .schemeTooLong => "scheme too long"

/-- A request target: its scheme, its authority (empty when it has none) and its path with
the query. -/
structure Uri where
  scheme : Option String
  authority : String
  path : String
deriving DecidableEq, Repr

namespace Uri

def maxLength : Nat := 65534

def maxSchemeLength : Nat := 64

def isAuthorityChar (c : Char) : Bool :=
  c.isAlphanum || "!#$&\x27()*+,-./:;=?@[]_~".contains c

def isSchemeChar (c : Char) : Bool :=
  c.isAlphanum || c = '+' || c = '-' || c = '.' || c = '~'

/-- Characters that may stand in a path as they are; every non-ASCII character may. -/
def isPathChar (c : Char) : Bool :=
  let n := c.toNat
  n = 0x21 || (0x24 ≤ n && n ≤ 0x3B) || n = 0x3D || (0x40 ≤ n && n ≤ 0x5F) ||
    (0x61 ≤ n && n ≤ 0x7A) || n = 0x7C || n = 0x7E || 0x80 ≤ n || c = '"' || c = '{' || c = '}'

/-- Characters that may stand in a query as they are; every non-ASCII character may. -/
def isQueryChar (c : Char) : Bool :=
  let n := c.toNat
  n = 0x21 || (0x24 ≤ n && n ≤ 0x3B) || n = 0x3D || (0x3F ≤ n && n ≤ 0x7E) || 0x80 ≤ n

structure AuthorityScan where
  colons : Nat := 0
  opened : Bool := false
  closed : Bool := false
  percent : Bool := false
  lastAt : Option Nat := none
deriving Repr

/-- Scans an authority that starts at position `index`; gives what it saw and where it ends. -/
def scanAuthority (seen : AuthorityScan) (index : Nat) :
    List Char → Except UriError (AuthorityScan × Nat)
  | [] => .ok (seen, index)
  | c :: rest =>
    if c = '/' || c = '?' || c = '#' then .ok (seen, index)
    else if c = ':' then
      if 8 ≤ seen.colons then .error .invalidAuthority
      else scanAuthority { seen with colons := seen.colons + 1 } (index + 1) rest
    else if c = '[' then
      if seen.percent || seen.opened then .error .invalidAuthority
      else scanAuthority { seen with opened := true } (index + 1) rest
    else if c = ']' then
      if !seen.opened || seen.closed then .error .invalidAuthority
      else scanAuthority { seen with closed := true, colons := 0, percent := false } (index + 1) rest
    else if c = '@' then
      scanAuthority { seen with lastAt := some index, colons := 0, percent := false } (index + 1) rest
    else if c = '%' then scanAuthority { seen with percent := true } (index + 1) rest
    else if isAuthorityChar c then scanAuthority seen (index + 1) rest
    else .error .invalidUriChar

def authorityEnd (chars : List Char) : Except UriError Nat := do
  let (seen, stop) ← scanAuthority {} 0 chars
  if seen.opened != seen.closed then throw .invalidAuthority
  if 1 < seen.colons then throw .invalidAuthority
  if 0 < stop && seen.lastAt == some (stop - 1) then throw .invalidAuthority
  if seen.percent then throw .invalidAuthority
  pure stop

def readQuery : List Char → Except UriError (List Char)
  | [] => .ok []
  | c :: rest =>
    if c = '#' then .ok []
    else if isQueryChar c then (readQuery rest).map (c :: ·)
    else .error .invalidUriChar

def readPath : List Char → Except UriError (List Char)
  | [] => .ok []
  | c :: rest =>
    if c = '#' then .ok []
    else if c = '?' then (readQuery rest).map (c :: ·)
    else if isPathChar c then (readPath rest).map (c :: ·)
    else .error .invalidUriChar

/-- Whether a text starts with `pattern`, letters compared without case. -/
def startsWithCaseless (chars : List Char) (pattern : String) : Bool :=
  (chars.take pattern.length).map Char.toLower == pattern.toList

def schemeName (chars : List Char) : Except UriError (Option Nat) :=
  match chars.findIdx? (fun c => !isSchemeChar c) with
  | none => .ok none
  | some colon =>
    if chars[colon]? == some ':' && (chars.drop (colon + 1)).take 2 == ['/', '/'] then
      if maxSchemeLength < colon then .error .schemeTooLong else .ok (some colon)
    else .ok none

/-- Reads a scheme at the start of a text, with the rest after its `://`. -/
def readScheme (text : String) (chars : List Char) :
    Except UriError (Option String × List Char) :=
  if startsWithCaseless chars "http://" then .ok (some "http", chars.drop 7)
  else if startsWithCaseless chars "https://" then .ok (some "https", chars.drop 8)
  else if 3 < text.utf8ByteSize then
    (schemeName chars).map fun
      | some colon => (some (String.ofList (chars.take colon)), chars.drop (colon + 3))
      | none => (none, chars)
  else .ok (none, chars)

/-- Reads a target that is not a path alone: an optional scheme, then an authority. -/
def readFull (text : String) (chars : List Char) : Except UriError Uri := do
  let (scheme, rest) ← readScheme text chars
  if rest.isEmpty then throw .empty
  let stop ← authorityEnd rest
  match scheme with
  | none =>
    if stop != rest.length then throw .invalidFormat
    pure ⟨none, String.ofList rest, ""⟩
  | some name =>
    if stop = 0 then throw .invalidFormat
    let path ← readPath (rest.drop stop)
    pure ⟨some name, String.ofList (rest.take stop), String.ofList path⟩

def parse (text : String) : Except UriError Uri :=
  let chars := text.toList
  if maxLength < text.utf8ByteSize then .error .tooLong
  else match chars with
    | [] => .error .empty
    | [c] =>
      if text.utf8ByteSize != 1 then readFull text chars
      else if c = '/' || c = '*' then .ok ⟨none, "", text⟩
      else do
        let stop ← authorityEnd chars
        if stop != 1 then throw .invalidUriChar
        pure ⟨none, text, ""⟩
    | c :: _ =>
      if c = '/' then (readPath chars).map fun path => ⟨none, "", String.ofList path⟩
      else readFull text chars

def authority? (u : Uri) : Option String :=
  if u.authority.isEmpty then none else some u.authority

/-- The host of the authority: after the last `@`, a bracketed address with its brackets, or
the text up to the first colon. -/
def host? (u : Uri) : Option String :=
  u.authority?.map fun authority =>
    let hostPort := (authority.toList.splitOn '@').getLast?.getD []
    match hostPort with
    | '[' :: _ => String.ofList (hostPort.takeWhile (· ≠ ']') ++ [']'])
    | _ => String.ofList (hostPort.takeWhile (· ≠ ':'))

/-- The port of the authority: the number after its last colon, when that is a 16-bit number. -/
def port? (u : Uri) : Option Nat :=
  u.authority?.bind fun authority =>
    let chars := authority.toList
    match chars.reverse.findIdx? (· = ':') with
    | none => none
    | some fromEnd =>
      match Text.parseUnsigned 16 (String.ofList (chars.drop (chars.length - fromEnd))) with
      | .ok n => some n
      | .error _ => none

end Uri

end LinkTap.Net
