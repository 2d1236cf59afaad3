import NodeCoverage.Http.MediaType
import NodeCoverage.Http.Target
import NodeCoverage.Json.Reader

/-!
# Requests and responses

The parts of HTTP messages that the service looks at and answers with, and how the body of a
request becomes a value: its header must announce JSON, it must not be too long, and it must be the
JSON of the type that is asked for. The first check that fails is the reason to reject it.
-/

namespace NodeCoverage.Http

/-- A request. -/
structure Request where
  method : String
  target : Target
  headers : List (String × String)
  body : List UInt8

/-- A request as a client writes it, of which nothing has been checked. -/
structure RawRequest where
  method : String
  target : String
  headers : List (String × String)
  body : List UInt8

/-- Why something is no request. -/
inductive RequestError where
  | badMethod
  | badTarget (e : TargetError)
  | badHeaderName
  | badHeaderValue
  deriving DecidableEq, Repr

/-- The text of the error. -/
def RequestError.message : RequestError → String
  | .badMethod => "invalid HTTP method"
  | .badTarget e => e.message
  | .badHeaderName => "invalid HTTP header name"
  | .badHeaderValue => "failed to parse header value"

/-- Whether a text is a token: letters, digits and some signs, at least one. -/
def isToken (s : String) : Bool :=
  !s.isEmpty && s.toList.all fun c => c.isAlphanum || "!#$%&'*+-.^_`|~".contains c

/-- The longest name of a header, in bytes. -/
def headerNameLimit : Nat := 65535

/-- Whether a text may be the name of a header. -/
def isHeaderName (s : String) : Bool :=
  isToken s && s.utf8ByteSize ≤ headerNameLimit

/-- Whether a text may be the value of a header: it holds no control characters but tabs. -/
def isHeaderValue (s : String) : Bool :=
  s.toList.all fun c => c = '\t' || (0x20 ≤ c.toNat && c.toNat ≠ 0x7f)

/-- Reads a request: its method, its target and then each header. -/
def RawRequest.read (r : RawRequest) : Except RequestError Request := do
  if !isToken r.method then throw .badMethod
  let target ← (Target.parse r.target).mapError .badTarget
  for (name, value) in r.headers do
    if !isHeaderName name then throw .badHeaderName
    if !isHeaderValue value then throw .badHeaderValue
  return { method := r.method, target := target, headers := r.headers, body := r.body }

/-- A response, with those of its headers that say what it is or what could have been asked. -/
structure Response where
  status : Nat
  contentType : Option String := none
  allow : Option String := none
  body : String := ""
  deriving DecidableEq, Repr

namespace Request

/-- The value of the first header of a name, which is given in lower case. -/
def header? (r : Request) (name : String) : Option String :=
  (r.headers.find? fun (key, _) => key.toLower == name).map (·.2)

end Request

/-- The most bytes that a body may have. -/
def bodyLimit : Nat := 2097152

/-- Why a body was rejected. -/
inductive Rejection where
  | notJson
  | tooLong
  | unreadable (f : Json.Failure)
  deriving DecidableEq, Repr

/-- The text of a rejection. That of an unreadable body stops before the line and the column, and
names a number that is no integer without its value. -/
def Rejection.message : Rejection → String
  | .notJson => "Expected request with `Content-Type: application/json`"
  | .tooLong => "Failed to buffer the request body: length limit exceeded"
  | .unreadable f =>
    let opening :=
      match f.cause.kind with
      | .mismatched => "Failed to deserialize the JSON body into the target type: "
      | .malformed | .ended => "Failed to parse the request body as JSON: "
    opening ++ f.located

/-- The value of a request's body. -/
def Request.decode {α : Type} (r : Request) (reader : Json.Reader α) : Except Rejection α :=
  if !(r.header? "content-type").any announcesJson then .error .notJson
  else if bodyLimit < r.body.length then .error .tooLong
  else (reader.decode r.body).mapError .unreadable

end NodeCoverage.Http
