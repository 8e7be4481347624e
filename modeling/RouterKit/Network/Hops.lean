import RouterKit.Lib.Effects
import RouterKit.Network.HttpsUrl

/-!
What the two download loops share: the world they run in, the bounded parts of a
response, and one request over the accepted addresses of a hop. The session
keeps a record of every hop for the statements about whole runs.
-/

namespace RouterKit.Network

open RouterKit.Lib RouterKit.Lib.Checked RouterKit.Lib.PyText RouterKit.Lib.IpText RouterKit.Lib.Url
open RouterKit.Lib.Effects RouterKit.Lib.Effects.Effect

def maxLocationBytes : Nat := 8192
def dnsTimeout : Int := 5
def connectTimeout : Int := 10

/-- A response before its body is read; header bytes are Latin-1. -/
structure Response where
  status : Int
  headers : List (List UInt8 × List UInt8)
deriving DecidableEq

def latin1 (bytes : List UInt8) : List Char := bytes.map fun byte => Char.ofNat byte.toNat

/-- `headers.get_all(name, [])`. -/
def Response.getAll (response : Response) (name : String) : List (List Char) :=
  (response.headers.filter fun header =>
    (latin1 header.1).map asciiLower = name.toList.map asciiLower).map fun header => latin1 header.2

/-- `_header`: the values of one name, joined. -/
def Response.header (response : Response) (name : String) : Option (List Char) :=
  match response.getAll name with
  | [] => none
  | values => some ([',', ' '].intercalate values)

def responseError (message : String) : Raised := .profileNetwork .responsePolicyError message
def redirectError (message : String) : Raised := .profileNetwork .redirectPolicyError message

def singleLocation (response : Response) : Except Raised (List Char) :=
  match response.getAll "Location" with
  | [location] =>
      if location = [] ∨ utf8Length location > maxLocationBytes then
        .error (redirectError "HTTPS redirect is not allowed by policy.")
      else .ok location
  | _ => .error (redirectError "HTTPS redirect is not allowed by policy.")

/-- `str.isdigit` on Latin-1: the superscripts one, two and three count too. -/
def isDigit (c : Char) : Bool :=
  isAsciiDigit c || c.toNat = 0xb2 || c.toNat = 0xb3 || c.toNat = 0xb9

/-- `int(value, 10)` on digits: a superscript is none of base ten. -/
def decimalValue (digits : List Char) : Except Raised Nat :=
  if digits.all isAsciiDigit then .ok (fromDigits 10 (digits.map hexValue)) else .error .valueError

def contentLength (response : Response) : Except Raised (Option Nat) :=
  match response.header "Content-Length" with
  | none => .ok none
  | some value =>
      if value = [] ∨ value.length > 20 ∨ ¬value.all isDigit then
        .error (responseError "HTTPS response length is not allowed by policy.")
      else (decimalValue value).map some

def isMediaTypeChar (c : Char) : Bool := isAsciiAlnum c || "!#$%&'*+.^_`|~-".toList.contains c

/-- `_MEDIA_TYPE_RE`. -/
def isMediaType (text : List Char) : Bool :=
  match partition '/' text with
  | (kind, some subtype) => kind ≠ [] && kind.all isMediaTypeChar && subtype ≠ [] &&
      subtype.all isMediaTypeChar
  | (_, none) => false

def sanitizedContentType (platform : Platform) (response : Response) : Option (List Char) :=
  match response.header "Content-Type" with
  | none => none
  | some value =>
      if value.length > 255 then none
      else
        let mediaType := lower platform.unicode (strip (partition ';' value).1)
        if isMediaType mediaType then some mediaType else none

/-- What one hop did: the URL asked for, the reply of the resolver, the addresses
connected to, the newest first, and the response that was examined. -/
structure Hop where
  url : ValidatedUrl
  resolved : Option (List (List Char)) := none
  connections : List (List Char) := []
  response : Option Response := none

/-- The world outside, the hops so far, the newest first, and the content of the
file an archive is stored in. -/
structure Session (σ : Type) where
  world : σ
  hops : List Hop := []
  destination : Option (List UInt8) := none

/-- The collaborators of the loops; each may do anything to the world. -/
structure Environment (σ : Type) where
  clock : σ → Int × σ
  resolver : List Char → Nat → Int → σ → Except Raised (List (List Char)) × σ
  connectionFactory : ValidatedUrl → List Char → Int → σ → Except Raised Unit × σ
  deadlineGuard : Int → σ → Except Raised Unit × σ
  request : List Char → List (String × List Char) → σ → Except Raised Unit × σ
  getResponse : σ → Except Raised Response × σ
  hasSocket : σ → Bool
  read : Nat → σ → Except Raised (Option (List UInt8)) × σ
  cleanup : σ → σ

/-- A computation of the loops. -/
abbrev Net (σ α : Type) := Effect (Session σ) Raised α

section Steps

variable {σ : Type} (env : Environment σ)

/-- A call of a collaborator. -/
def ask {α : Type} (call : σ → Except Raised α × σ) : Net σ α := fun session =>
  ((call session.world).1, { session with world := (call session.world).2 })

/-- Changing the record of the current hop. -/
def recordHop (change : Hop → Hop) : Net σ Unit :=
  update fun session => { session with hops := session.hops.modifyHead change }

def beginHop (url : ValidatedUrl) : Net σ Unit :=
  update fun session => { session with hops := { url } :: session.hops }

def now : Net σ Int := ask fun world => (.ok (env.clock world).1, (env.clock world).2)

def timedOut : Raised := responseError "HTTPS source resolution timed out."

def remaining (deadline : Int) : Net σ Int := do
  let time ← now env
  raiseIf (deadline - time ≤ 0) timedOut
  return deadline - time

def requestHeaders (url : ValidatedUrl) : List (String × List Char) :=
  [("Host", url.authority), ("User-Agent", "RouterKit-profile-source/1".toList),
    ("Accept", "*/*".toList), ("Accept-Encoding", "identity".toList),
    ("Connection", "close".toList)]

def cleanupHop (session : Session σ) : Session σ :=
    { session with world := env.cleanup session.world }

/-- One address of `_request_one_hop`. -/
def attemptAddress (url : ValidatedUrl) (deadline : Int) (address : List Char) :
    Net σ Response := do
  let timeout := min connectTimeout (← remaining env deadline)
  recordHop fun hop => { hop with connections := address :: hop.connections }
  ask (env.connectionFactory url address timeout)
  let delay ← remaining env deadline
  ask (env.deadlineGuard delay)
  ask (env.request url.requestTarget (requestHeaders url))
  let response ← ask env.getResponse
  let hasSocket ← read fun session => env.hasSocket session.world
  if hasSocket then
    let _ ← remaining env deadline
    return response
  else return response

/-- The subclass of a raised profile network error. -/
def isResponsePolicyError : Raised → Bool
  | .profileNetwork .responsePolicyError _ => true
  | _ => false

def requestOneHop (url : ValidatedUrl) (deadline : Int) : List (List Char) → Net σ Response
  | [] => do
      let time ← now env
      raiseIf (deadline - time ≤ 0) timedOut
      raise (.profileNetwork .tlsConnectionError "Secure HTTPS connection failed.")
  | address :: rest =>
      handle (attemptAddress env url deadline address) fun e => do
        update (cleanupHop env)
        if isResponsePolicyError e then raise e else requestOneHop url deadline rest

end Steps

end RouterKit.Network
