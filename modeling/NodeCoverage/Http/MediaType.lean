/-!
# Media types

The value of a content-type header: a type, a subtype, a structured suffix and parameters. All
that matters of the parameters is that they are well formed. Letters count without case.
-/

namespace NodeCoverage.Http

/-- Whether a character may stand in a token. -/
def isTokenChar (c : Char) : Bool :=
  c.isAlphanum || "!#$%&'*+-.^_`|~".contains c

/-- A media type without its parameters, in lower case. -/
structure MediaType where
  type : String
  subtype : String
  suffix : Option String
  deriving DecidableEq, Repr

namespace MediaType

/-- Whether a character may stand in a quoted parameter value. -/
def isQuotedChar (c : Char) : Bool :=
  0x20 ≤ c.toNat && c.toNat ≠ 0x7F

/-- What of a list of parameters has been read. -/
inductive Place where
  /-- Before the name of a parameter, where spaces may stand. -/
  | beforeName
  /-- Inside a name. -/
  | name
  /-- Right after the equals sign. -/
  | beforeValue
  /-- Inside a value without quotes. -/
  | value
  /-- Right after the opening quote; a quote here is part of the value. -/
  | quoteOpened
  /-- Inside a quoted value. -/
  | quoted
  /-- After the closing quote, where spaces may stand. -/
  | quoteClosed
  deriving DecidableEq, Repr

/-- The place after one more character, or nothing if it may not stand there. -/
def Place.step : Place → Char → Option Place
  | .beforeName, c =>
    if c = ' ' then some .beforeName else if isTokenChar c then some .name else none
  | .name, c => if c = '=' then some .beforeValue else if isTokenChar c then some .name else none
  | .beforeValue, c =>
    if c = '"' then some .quoteOpened else if isTokenChar c then some .value else none
  | .value, c => if c = ';' then some .beforeName else if isTokenChar c then some .value else none
  | .quoteOpened, c => if isQuotedChar c then some .quoted else none
  | .quoted, c =>
    if c = '"' then some .quoteClosed else if isQuotedChar c then some .quoted else none
  | .quoteClosed, c =>
    if c = ';' then some .beforeName else if c = ' ' then some .quoteClosed else none

/-- Whether parameters may end at a place. -/
def Place.final : Place → Bool
  | .beforeName | .beforeValue | .value | .quoteClosed => true
  | .name | .quoteOpened | .quoted => false

/-- Whether the text after the first semicolon is a list of parameters. It may be empty, and so
may be what follows a further semicolon. -/
def areParameters (s : List Char) : Bool :=
  (s.foldlM Place.step Place.beforeName).any Place.final

/-- The subtype and the suffix, which follows the last plus sign that is not the first character. -/
def splitSuffix (s : List Char) : List Char × Option (List Char) :=
  match s with
  | [] => ([], none)
  | first :: rest =>
    if '+' ∈ rest then
      let suffix := (rest.reverse.takeWhile (· ≠ '+')).reverse
      (first :: rest.take (rest.length - suffix.length - 1), some suffix)
    else (s, none)

/-- Reads a media type. -/
def ofChars? (s : List Char) : Option MediaType :=
  let type := s.takeWhile isTokenChar
  match s.dropWhile isTokenChar with
  | '/' :: rest =>
    let subtype := rest.takeWhile isTokenChar
    let sound :=
      match rest.dropWhile isTokenChar with
      | [] => true
      | ';' :: parameters => !subtype.isEmpty && areParameters parameters
      | _ => false
    if !type.isEmpty && sound then
      let (main, suffix) := splitSuffix (subtype.map Char.toLower)
      some ⟨String.ofList (type.map Char.toLower), String.ofList main, suffix.map String.ofList⟩
    else none
  | _ => none

/-- Whether bodies of the type are JSON. -/
def isJson (m : MediaType) : Bool :=
  m.type == "application" && (m.subtype == "json" || m.suffix == some "json")

end MediaType

/-- Whether a header value announces JSON: it is plain ASCII and a media type of that kind. -/
def announcesJson (value : String) : Bool :=
  value.toList.all (fun c => c = '\t' || (0x20 ≤ c.toNat && c.toNat < 0x7F)) &&
    (MediaType.ofChars? value.toList).any MediaType.isJson

end NodeCoverage.Http
