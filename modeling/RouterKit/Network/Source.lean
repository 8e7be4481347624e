import RouterKit.Network.Hops

/-!
The acquisition of a profile source: redirects are followed by hand, each target
validated, and the body is read up to a bound.
-/

namespace RouterKit.Network

open RouterKit.Lib RouterKit.Lib.Checked RouterKit.Lib.PyText RouterKit.Lib.Url
open RouterKit.Lib.Effects RouterKit.Lib.Effects.Effect

structure ResolvedPayload where
  payload : List Char
  byteCount : Nat
  redirectCount : Nat
  contentType : Option (List Char)
deriving DecidableEq

/-- The limits of `resolve_https_source`. -/
structure SourceLimits where
  overallTimeout : Int := 30
  maxRedirects : Int := 5
  maxResponseBytes : Int := 1024 * 1024

def isRedirectStatus (status : Int) : Bool := [301, 302, 303, 307, 308].contains status

/-- `bytes.decode("utf-8")`. -/
def decodeUtf8 (bytes : List UInt8) : Option (List Char) :=
  (String.fromUTF8? ⟨bytes.toArray⟩).map String.toList

/-- `bytes.decode("utf-8-sig")`. -/
def decodeUtf8Sig (bytes : List UInt8) : Option (List Char) :=
  match bytes with
  | 0xef :: 0xbb :: 0xbf :: rest => decodeUtf8 rest
  | _ => decodeUtf8 bytes

/-- An optional header that must have one value, read without blanks and case. -/
def headerIs (platform : Platform) (response : Response) (name value : String) : Bool :=
  (response.header name).all fun text => lower platform.unicode (strip text) = value.toList

/-- The checks on the headers of a body, and its declared length. -/
def checkFraming (platform : Platform) (response : Response) (maximum : Nat)
    (compressed framing tooLarge : Raised) : Except Raised (Option Nat) := do
  raiseIf (!headerIs platform response "Content-Encoding" "identity") compressed
  let length ← contentLength response
  raiseIf ((response.header "Transfer-Encoding").isSome ∧
    (!headerIs platform response "Transfer-Encoding" "chunked" ∨ length.isSome)) framing
  raiseIf (length.any fun length => length > maximum) tooLarge
  return length

section Loop

variable {σ : Type} (env : Environment σ) (platform : Platform)

def bodyTooLarge : Raised := responseError "HTTPS response body is too large."

/-- The rounds of `_read_body_bounded` from `room` bytes below the bound on. -/
def readRounds (deadline : Int) : (room : Nat) → List UInt8 → Net σ (List UInt8)
  | 0, body => return body
  | room + 1, body => do
      let _ ← remaining env deadline
      let amount := min 65536 (room + 1)
      let chunk ← handle (ask (env.read amount)) fun _ => do
        let time ← now env
        raiseIf (deadline - time ≤ 0) timedOut
        raise (responseError "HTTPS response body could not be read safely.")
      let _ ← remaining env deadline
      match chunk with
      | none => raise (responseError "HTTPS response body is not binary data.")
      | some [] => return body
      | some (byte :: more) => do
          raiseIf ((byte :: more).length > amount) bodyTooLarge
          readRounds deadline (room - more.length) (body ++ byte :: more)

def readBodyBounded (maximum : Nat) (deadline : Int) : Net σ (List UInt8) := do
  let body ← readRounds env deadline (maximum + 1) []
  raiseIf (body.length > maximum) bodyTooLarge
  return body

/-- The addresses of a hop: the validated literal, or what the resolver answers
when every answer is acceptable. -/
def hopAddresses (url : ValidatedUrl) (deadline : Int) : Net σ (List (List Char)) := do
  match url.literalAddress with
  | some literal => return [literal]
  | none => do
      let timeout := min dnsTimeout (← remaining env deadline)
      let resolved ← handle (ask (env.resolver url.hostname 443 timeout)) fun e =>
        match e with
        | .profileNetwork kind message => raise (.profileNetwork kind message)
        | _ => raise (.profileNetwork .dnsResolutionError "DNS resolution failed.")
      recordHop fun hop => { hop with resolved := some resolved }
      lift (validateAddressSet platform.classes resolved)

/-- The answer to a response that is no redirect. -/
def finishSource (limits : SourceLimits) (deadline : Int) (redirectCount : Nat)
    (response : Response) : Net σ ResolvedPayload := do
  raiseIf (response.status ≠ 200) (responseError "HTTPS response status is not allowed by policy.")
  let length ← lift (checkFraming platform response limits.maxResponseBytes.toNat
    (responseError "Compressed HTTPS responses are not supported.")
    (responseError "HTTPS response framing is not allowed by policy.") bodyTooLarge)
  let body ← readBodyBounded env limits.maxResponseBytes.toNat deadline
  raiseIf (length.any (· ≠ body.length)) (responseError "HTTPS response body is incomplete.")
  match decodeUtf8Sig body with
  | none => raise (responseError "HTTPS response body is not valid UTF-8 text.")
  | some payload => return ⟨payload, body.length, redirectCount,
      sanitizedContentType platform response⟩

/-- The URL a redirect leads to. -/
def nextSource (current : ValidatedUrl) (response : Response) : Except Raised ValidatedUrl := do
  let location ← singleLocation response
  let joined : Except Raised ValidatedUrl :=
    match urljoin platform.unicode current.normalizedUrl location with
    | none => .error .valueError
    | some combined => validateHttpsUrl platform combined
  joined.mapError fun _ => redirectError "HTTPS redirect is not allowed by policy."

/-- The body of the loop of `resolve_https_source` with `left` redirects to go:
the payload, or the next URL. -/
def sourceHop (limits : SourceLimits) (deadline : Int) (left redirectCount : Nat)
    (current : ValidatedUrl) : Net σ (ResolvedPayload ⊕ ValidatedUrl) := do
  let addresses ← hopAddresses env platform current deadline
  andFinally (do
    let response ← requestOneHop env current deadline addresses
    recordHop fun hop => { hop with response := some response }
    raiseIf (¬(100 ≤ response.status ∧ response.status ≤ 599))
      (responseError "HTTPS response status is not allowed by policy.")
    if isRedirectStatus response.status then do
      raiseIf (left = 0) (redirectError "HTTPS redirect limit exceeded.")
      return .inr (← lift (nextSource platform current response))
    else
      return .inl (← finishSource env platform limits deadline redirectCount response))
    (cleanupHop env)

def sourceLoop (limits : SourceLimits) (deadline : Int) :
    (left : Nat) → Nat → List (List Char × List Char × List Char × List Char) → ValidatedUrl →
      Net σ ResolvedPayload
  | left, redirectCount, visited, current => do
      let _ ← remaining env deadline
      raiseIf (visited.contains current.canonicalIdentity)
        (redirectError "HTTPS redirect loop is not allowed.")
      beginHop current
      match ← sourceHop env platform limits deadline left redirectCount current with
      | .inl payload => return payload
      | .inr next =>
          match left with
          | 0 => raise (redirectError "HTTPS redirect limit exceeded.")
          | left + 1 =>
              sourceLoop limits deadline left (redirectCount + 1)
                (current.canonicalIdentity :: visited) next

def resolveHttpsSource (limits : SourceLimits) (source : List Char) : Net σ ResolvedPayload := do
  raiseIf (limits.overallTimeout ≤ 0 ∨ limits.maxRedirects < 0 ∨ limits.maxResponseBytes ≤ 0)
    (.profileNetwork .profileNetworkError "HTTPS resolver limits are invalid.")
  let value ← lift (normalizeHttpsSourceValue source)
  let current ← lift (validateHttpsUrl platform value)
  let deadline := (← now env) + limits.overallTimeout
  sourceLoop env platform limits deadline limits.maxRedirects.toNat 0 [] current

end Loop

end RouterKit.Network
