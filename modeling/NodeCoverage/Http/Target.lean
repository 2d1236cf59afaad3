/-!
# Request targets

What a request is addressed to: a path on this server, perhaps with a query, or a whole URI, or an
authority alone, or an asterisk for the server as such. A fragment ends the text and is dropped.
Only the path decides where a request leads.
-/

namespace NodeCoverage.Http

/-- Why a text is no target. -/
inductive TargetError where
  | empty
  | tooLong
  | schemeTooLong
  | badCharacter
  | badAuthority
  | badForm
  deriving DecidableEq, Repr

/-- The text of the error. -/
def TargetError.message : TargetError → String
  | .empty => "empty string"
  | .tooLong => "uri too long"
  | .schemeTooLong => "scheme too long"
  | .badCharacter => "invalid uri character"
  | .badAuthority => "invalid authority"
  | .badForm => "invalid format"

/-- A path and what follows it. -/
structure Location where
  path : String
  query : Option String := none
  deriving DecidableEq, Repr

/-- What a request is addressed to. -/
inductive Target where
  /-- A place on the server that gets the request. -/
  | origin (location : Location)
  /-- A place on a server that is named. -/
  | absolute (scheme authority : String) (location : Location)
  /-- A server that is named, and no place on it. -/
  | authority (text : String)
  /-- The server that gets the request as a whole. -/
  | asterisk
  deriving DecidableEq, Repr

namespace Location

/-- Whether a character may stand in a path. -/
def isPathChar (c : Char) : Bool :=
  0x20 < c.toNat && !"#<>?`".contains c

/-- Whether a character may stand in a query. -/
def isQueryChar (c : Char) : Bool :=
  0x20 < c.toNat && !"\"#<>".contains c

/-- The query after a path, and nothing if the text goes on in another way. -/
def queryOf : List Char → Except TargetError (Option String)
  | [] => .ok none
  | '#' :: _ => .ok none
  | '?' :: rest =>
    match rest.dropWhile isQueryChar with
    | [] => .ok (some (String.ofList rest))
    | '#' :: _ => .ok (some (String.ofList (rest.takeWhile isQueryChar)))
    | _ => .error .badCharacter
  | _ => .error .badCharacter

/-- Reads a path and a query. -/
def ofChars (s : List Char) : Except TargetError Location := do
  let query ← queryOf (s.dropWhile isPathChar)
  return { path := String.ofList (s.takeWhile isPathChar), query := query }

end Location

/-! ## Authorities -/

/-- What is known of an authority while it is read. Colons and percent signs count from the last
end of a user name or of an address in brackets. -/
structure AuthorityScan where
  colons : Nat := 0
  percent : Bool := false
  opened : Bool := false
  closed : Bool := false
  /-- Whether the last character ended a user name. -/
  afterUser : Bool := false
  deriving DecidableEq, Repr

namespace AuthorityScan

/-- The most colons in a row of parts, those of an address and one before a port. -/
def colonLimit : Nat := 8

/-- Whether a character has no meaning of its own in an authority. -/
def isPlain (c : Char) : Bool :=
  c.isAlphanum || "!$&'()*+,-.;=_~".contains c

/-- Takes one more character. -/
def step (a : AuthorityScan) (c : Char) : Except TargetError AuthorityScan :=
  let a := { a with afterUser := false }
  if c = ':' then
    if colonLimit ≤ a.colons then .error .badAuthority else .ok { a with colons := a.colons + 1 }
  else if c = '[' then
    if a.percent || a.opened then .error .badAuthority else .ok { a with opened := true }
  else if c = ']' then
    if !a.opened || a.closed then .error .badAuthority
    else .ok { a with closed := true, colons := 0, percent := false }
  else if c = '@' then .ok { a with afterUser := true, colons := 0, percent := false }
  else if c = '%' then .ok { a with percent := true }
  else if isPlain c then .ok a
  else .error .badCharacter

/-- Whether an authority may end here: brackets are closed, there is at most a port after a colon,
something follows the user name, and only in that name percent signs stand. -/
def sound (a : AuthorityScan) : Bool :=
  a.opened == a.closed && a.colons ≤ 1 && !a.afterUser && !a.percent

end AuthorityScan

namespace Target

/-- Whether a character goes on with an authority. -/
def continuesAuthority (c : Char) : Bool :=
  !"/?#".contains c

/-- The authority at the front, and what follows it. -/
def splitAuthority (s : List Char) : Except TargetError (List Char × List Char) := do
  let text := s.takeWhile continuesAuthority
  let scan ← text.foldlM AuthorityScan.step ({} : AuthorityScan)
  if scan.sound then return (text, s.dropWhile continuesAuthority) else throw .badAuthority

/-- The most characters that a scheme may have. -/
def schemeLimit : Nat := 64

/-- Whether a character may stand in a scheme. -/
def isSchemeChar (c : Char) : Bool :=
  c.isAlphanum || "+-.~".contains c

/-- The scheme at the front with what follows its two slashes, if there is one. -/
def splitScheme (s : List Char) : Except TargetError (Option (List Char × List Char)) :=
  let scheme := s.takeWhile isSchemeChar
  match s.dropWhile isSchemeChar with
  | ':' :: '/' :: '/' :: rest =>
    if schemeLimit < scheme.length then .error .schemeTooLong else .ok (some (scheme, rest))
  | _ => .ok none

/-- Reads a target of which the length is right. -/
def ofChars (s : List Char) : Except TargetError Target := do
  match s with
  | ['*'] => return .asterisk
  | '/' :: _ => return .origin (← Location.ofChars s)
  | s =>
    match ← splitScheme s with
    | none =>
      match ← splitAuthority s with
      | (text, []) => return .authority (String.ofList text)
      | _ => throw .badForm
    | some (scheme, rest) =>
      let (text, rest) ← splitAuthority rest
      if text.isEmpty then throw .badForm
      let location ← Location.ofChars rest
      return .absolute (String.ofList scheme) (String.ofList text) location

/-- Targets have no more bytes than this. -/
def sizeLimit : Nat := 65534

/-- Reads a target. -/
def parse (text : String) : Except TargetError Target :=
  if text.isEmpty then .error .empty
  else if sizeLimit < text.utf8ByteSize then .error .tooLong
  else ofChars text.toList

/-- The path that decides where a request leads. A URI that ends with its authority has the path
of the root. -/
def path : Target → String
  | .origin location => location.path
  | .absolute _ _ location => if location.path.isEmpty then "/" else location.path
  | .authority _ => ""
  | .asterisk => "*"

end Target

end NodeCoverage.Http
