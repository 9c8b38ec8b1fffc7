import JoinTrust.Command
import JoinTrust.Text.Case
import JoinTrust.Tls
import JoinTrust.Url.Parser

set_option autoImplicit false

/-!
One request over the wire. The wire delivers events in any order; the first that ends the exchange
decides its outcome, and nothing after it changes anything. The deadline covers the whole round trip. A
request that is refused when it is opened fails at once, and nothing is delivered for it.
-/

namespace JoinTrust

/-- A header as it arrives: one value, several, or a name without any. -/
inductive HeaderValue where
  | single (value : String)
  | several (values : List String)
  | missing
deriving DecidableEq, Repr

namespace HeaderValue

def text? : HeaderValue → Option String
  | .single value => some value
  | .several values => some (", ".intercalate values)
  | .missing => none

/-- The one name that headers cannot have. -/
def reservedName : String := "__proto__"

/-- Headers under lower-case names. Of several spellings of one name the last with a value counts. -/
def normalize (headers : List (String × HeaderValue)) : Headers :=
  (Assoc.ofList headers).foldl
    (fun normal header =>
      match header.2.text? with
      | some value =>
        let name := Text.lower header.1
        if name = reservedName then normal else normal.insert name value
      | none => normal)
    []

end HeaderValue

inductive WireEvent where
  | head (status : Option Int) (statusText : Option String) (headers : List (String × HeaderValue))
  | chunk (data : Bytes)
  | finish
  | replyError (thrown : Thrown)
  | requestError (thrown : Thrown)
  | deadline

/-- A reply that is arriving: its head, and the body so far. -/
structure Arriving where
  status : Option Int
  statusText : Option String
  headers : List (String × HeaderValue)
  body : Bytes

def Arriving.reply (arriving : Arriving) : Reply where
  status := arriving.status.getD 0
  statusText := arriving.statusText.getD ""
  headers := HeaderValue.normalize arriving.headers
  body := arriving.body

/-- What opening a request throws instead of sending it, if it does. -/
abbrev Opening : Type := Url → Headers → Option Thrown

namespace Opening

/-- Every request is sent. -/
def accepting : Opening := fun _ _ => none

/-- Whether every percent sign begins an escape. -/
def escapesWhole : List Char → Bool
  | [] => true
  | '%' :: high :: low :: rest =>
    (Text.Hex.value? high).isSome && (Text.Hex.value? low).isSome && escapesWhole rest
  | '%' :: _ => false
  | _ :: rest => escapesWhole rest

/-- Whether the escapes of a user name or a password can be read. -/
def readable (text : List Char) : Bool :=
  let octets := Url.percentDecode text
  escapesWhole text && Text.Utf8.encodeChars (Text.Utf8.decodeChars octets) == octets

def inHeaderName (character : Char) : Bool :=
  character.isAlphanum || "^_\x60-!#$%&'*+.|~".toList.contains character

def inHeaderValue (character : Char) : Bool :=
  character == '\t' || (0x20 ≤ character.toNat && character.toNat ≤ 0xFF && character.toNat ≠ 0x7F)

def refusedHeader (header : String × String) : Option Thrown :=
  if header.1.isEmpty || !header.1.toList.all inHeaderName then
    some (.error "TypeError" ("Header name must be a valid HTTP token [\"" ++ header.1 ++ "\"]"))
  else if !header.2.toList.all inHeaderValue then
    some (.error "TypeError" ("Invalid character in header content [\"" ++ header.1 ++ "\"]"))
  else none

/-- What a real wire refuses: a user name or a password that cannot be read, a scheme that it does not
speak, and headers that cannot be written. -/
def real : Opening := fun url headers =>
  if !(readable url.username && readable url.password) then some (.error "URIError" "URI malformed")
  else if url.scheme ≠ "http".toList ∧ url.scheme ≠ "https".toList then
    some (.error "TypeError"
      ("Protocol \"" ++ String.ofList url.scheme ++ ":\" not supported. Expected \"http:\""))
  else headers.findSome? refusedHeader

end Opening

structure Exchange where
  options : ClientOptions
  url : Url
  headers : Headers
  arriving : Option Arriving := none
  destroyed : Option String := none
  armed : Bool := true
  settled : Option (Except Thrown Reply) := none

namespace Exchange

def isSecure (exchange : Exchange) : Bool :=
  exchange.url.scheme == "https".toList

/-- The message of a deadline that has passed. It names neither credentials nor a query. -/
def timeoutMessage (exchange : Exchange) : String :=
  s!"GET {exchange.url.origin}{exchange.url.pathText} timed out after {exchange.options.timeout}ms"

/-- An outcome for the exchange, which counts unless there is one already. The deadline is over. -/
def settle (exchange : Exchange) (outcome : Except Thrown Reply) : Exchange :=
  { exchange with armed := false, settled := exchange.settled <|> some outcome }

/-- A request that has just been sent, or that was refused; none if its URL is no URL. -/
def start? (options : ClientOptions) (request : Request) (opening : Opening := .accepting) :
    Option Exchange :=
  (Url.parse? request.url).map fun url =>
    let sent : Exchange := { options, url, headers := request.headers }
    match opening url request.headers with
    | none => sent
    | some thrown => sent.settle (.error thrown)

def step (exchange : Exchange) : WireEvent → Exchange
  | .head status statusText headers =>
    { exchange with arriving := some ⟨status, statusText, headers, []⟩ }
  | .chunk data =>
    { exchange with
      arriving := exchange.arriving.map fun arriving =>
        { arriving with body := arriving.body ++ data } }
  | .finish =>
    match exchange.arriving with
    | some arriving => exchange.settle (.ok arriving.reply)
    | none => exchange
  | .replyError thrown =>
    match exchange.arriving with
    | some _ => exchange.settle (.error thrown)
    | none => exchange
  | .requestError thrown => exchange.settle (.error thrown)
  | .deadline =>
    if exchange.armed then
      let message := exchange.timeoutMessage
      { exchange with destroyed := some message }.settle (.error (.error "Error" message))
    else exchange

def run (exchange : Exchange) (events : List WireEvent) : Exchange :=
  events.foldl step exchange

end Exchange

end JoinTrust
