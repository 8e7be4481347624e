import RouterKit.Network.Source

/-!
The download of the pinned archive: the same hops under a host policy, streamed
to a new private file.
-/

namespace RouterKit.Network

open RouterKit.Lib RouterKit.Lib.Checked RouterKit.Lib.PyText RouterKit.Lib.Url
open RouterKit.Lib.Effects RouterKit.Lib.Effects.Effect

structure ArtifactDownload (δ : Type) where
  byteCount : Nat
  sha256 : δ
  redirectCount : Nat
deriving DecidableEq

/-- The limits of `download_pinned_archive`. -/
structure ArchiveLimits where
  overallTimeout : Int := 180
  maxRedirects : Int := 5
  maxArchiveBytes : Int := 128 * 1024 * 1024

/-- What opening the destination comes to: a new file, an `OSError` before one
exists, or an `OSError` from setting the mode of the new file. -/
inductive OpenOutcome where
  | opened
  | refused
  | modeRefused
deriving DecidableEq

/-- The file system calls on the destination. `write` answers how many of the
given bytes were stored, `none` stands for an `OSError`. -/
structure Storage (σ : Type) where
  openFile : σ → OpenOutcome × σ
  write : List UInt8 → σ → Option Int × σ
  fsync : σ → Bool × σ
  unlink : σ → Bool × σ

def artifactError (message : String) : Raised := .artifactNetwork message

def allowedHost (hostname : List Char) (isInitial : Bool) : Bool :=
  if isInitial then hostname = "github.com".toList
  else hostname = "github.com".toList || (hostname ≠ "githubusercontent.com".toList &&
    ".githubusercontent.com".toList.isSuffixOf hostname)

def urlNotAllowed : Raised := artifactError "Pinned artifact URL is not allowed by policy."

/-- `except ProfileNetworkError: raise ArtifactNetworkError(…)`. -/
def wrapProfileNetwork (error : Raised) : Raised → Raised
  | .profileNetwork _ _ => error
  | e => e

def validateHop (platform : Platform) (url : List Char) (isInitial : Bool) :
    Except Raised ValidatedUrl := do
  let validated ← (validateHttpsUrl platform url).mapError (wrapProfileNetwork urlNotAllowed)
  raiseIf (validated.literalAddress.isSome ∨
      ¬allowedHost validated.hostname isInitial) urlNotAllowed
  return validated

section Loop

variable {σ δ : Type} (env : Environment σ) (storage : Storage σ) (platform : Platform)
variable (sha256 : List UInt8 → δ)

/-- An `OSError` of a file call. -/
def privateStorageError : Raised := artifactError "Pinned artifact could not be stored privately."

def openDestination : Net σ Unit := fun session =>
  match session.destination with
  | some _ => (.error privateStorageError, session)
  | none =>
      match storage.openFile session.world with
      | (.opened, world) => (.ok (), { session with world, destination := some [] })
      | (.refused, world) => (.error privateStorageError, { session with world })
      | (.modeRefused, world) =>
          (.error privateStorageError, { session with world, destination := some [] })

/-- One `os.write`: the stored bytes, or an `OSError`. -/
def writeOnce (chunk : List UInt8) : Net σ Nat := fun session =>
  match storage.write chunk session.world with
  | (some written, world) =>
      if written ≤ 0 then (.error privateStorageError, { session with world })
      else
        let stored := min written.toNat chunk.length
        (.ok stored, { session with
          world, destination := session.destination.map (· ++ chunk.take stored) })
  | (none, world) => (.error privateStorageError, { session with world })

/-- `_write_all`, for at most `fuel` calls. -/
def writeAll : (fuel : Nat) → List UInt8 → Net σ Unit
  | 0, _ => return ()
  | fuel + 1, chunk =>
      if chunk = [] then return ()
      else do
        let stored ← writeOnce storage chunk
        writeAll fuel (chunk.drop stored)

def fsyncDestination : Net σ Unit := fun session =>
  let (succeeds, world) := storage.fsync session.world
  (if succeeds then .ok () else .error privateStorageError, { session with world })

/-- `destination.unlink()`; an `OSError` is passed over. -/
def unlinkDestination (session : Session σ) : Session σ :=
  let (succeeds, world) := storage.unlink session.world
  { session with world, destination := if succeeds then none else session.destination }

def archiveTimedOut : Raised := artifactError "Pinned artifact acquisition timed out."

def archiveRemaining (deadline : Int) : Net σ Int :=
  handle (remaining env deadline) fun e => raise (wrapProfileNetwork archiveTimedOut e)

/-- The rounds of the body loop from `room` bytes below the bound on; the bytes
so far are what the digest has seen. -/
def streamRounds (deadline : Int) : (room : Nat) → List UInt8 → Net σ (List UInt8)
  | 0, body => return body
  | room + 1, body => do
      let _ ← archiveRemaining env deadline
      let amount := min 65536 (room + 1)
      let chunk ← handle (ask (env.read amount)) fun _ =>
        raise (artifactError "Pinned artifact body could not be read safely.")
      match chunk with
      | none => raise (artifactError "Pinned artifact body is invalid.")
      | some [] => return body
      | some (byte :: more) => do
          raiseIf ((byte :: more).length > amount)
              (artifactError "Pinned artifact body is invalid.")
          raiseIf (room - more.length = 0) (artifactError "Pinned artifact response is too large.")
          writeAll storage (byte :: more).length (byte :: more)
          streamRounds deadline (room - more.length) (body ++ byte :: more)

/-- The answer to a response that is no redirect: the body goes to the file. -/
def finishArchive (limits : ArchiveLimits) (deadline : Int) (redirects : Nat)
    (response : Response) : Net σ (ArtifactDownload δ) := do
  raiseIf (response.status ≠ 200) (artifactError "Pinned artifact response was not accepted.")
  let length ← lift (checkFraming platform response limits.maxArchiveBytes.toNat
    (artifactError "Compressed HTTP responses are not accepted.")
    (artifactError "Pinned artifact response framing is invalid.")
    (artifactError "Pinned artifact response is too large."))
  openDestination storage
  let body ← streamRounds env storage deadline (limits.maxArchiveBytes.toNat + 1) []
  raiseIf (length.any (· ≠ body.length)) (artifactError "Pinned artifact response is incomplete.")
  fsyncDestination storage
  return ⟨body.length, sha256 body, redirects⟩

/-- The URL a redirect leads to; only the two hierarchies are caught here. -/
def nextArchiveHop (current : ValidatedUrl) (response : Response) : Except Raised ValidatedUrl :=
  let next : Except Raised ValidatedUrl := do
    let location ← singleLocation response
    match urljoin platform.unicode current.normalizedUrl location with
    | none => .error .valueError
    | some combined => validateHop platform combined false
  next.mapError fun e =>
    match e with
    | .profileNetwork _ _ | .artifactNetwork _ =>
        artifactError "Pinned artifact redirect is not allowed by policy."
    | e => e

/-- The addresses of a hop. -/
def archiveAddresses (url : ValidatedUrl) (deadline : Int) : Net σ (List (List Char)) :=
  handle (do
    let timeout := min dnsTimeout (← remaining env deadline)
    let resolved ← ask (env.resolver url.hostname 443 timeout)
    recordHop fun hop => { hop with resolved := some resolved }
    lift (validateAddressSet platform.classes resolved)) fun e =>
      match e with
      | .profileNetwork _ _ => raise (artifactError "Pinned artifact destination is not allowed.")
      | _ => raise (artifactError "Pinned artifact destination could not be resolved.")

/-- The guarded part of a hop with `left` redirects to go. -/
def archiveExchange (limits : ArchiveLimits) (deadline : Int) (left redirects : Nat)
    (current : ValidatedUrl) (addresses : List (List Char)) :
    Net σ (ArtifactDownload δ ⊕ ValidatedUrl) := do
  let response ← requestOneHop env current deadline addresses
  recordHop fun hop => { hop with response := some response }
  if isRedirectStatus response.status then do
    raiseIf (left = 0) (artifactError "Pinned artifact redirect limit exceeded.")
    return .inr (← lift (nextArchiveHop platform current response))
  else
    return .inl (← finishArchive env storage platform sha256 limits deadline redirects response)

/-- The handlers around a hop: what is safe to display removes the destination,
anything else passes. -/
def discardDestination {α : Type} (e : Raised) : Net σ α :=
  match e with
  | .artifactNetwork message => do
      update (unlinkDestination storage)
      raise (.artifactNetwork message)
  | .profileNetwork _ _ => do
      update (unlinkDestination storage)
      raise (artifactError "Pinned artifact acquisition failed safely.")
  | e => raise e

def archiveHop (limits : ArchiveLimits) (deadline : Int) (left redirects : Nat)
    (current : ValidatedUrl) : Net σ (ArtifactDownload δ ⊕ ValidatedUrl) := do
  let addresses ← archiveAddresses env platform current deadline
  andFinally
    (handle (archiveExchange env storage platform sha256 limits deadline left redirects current
      addresses) (discardDestination storage))
    (cleanupHop env)

def archiveLoop (limits : ArchiveLimits) (deadline : Int) :
    (left : Nat) → Nat → List (List Char × List Char × List Char × List Char) → ValidatedUrl →
      Net σ (ArtifactDownload δ)
  | left, redirects, visited, current => do
      let _ ← archiveRemaining env deadline
      raiseIf (visited.contains current.canonicalIdentity)
        (artifactError "Pinned artifact redirect is not allowed by policy.")
      beginHop current
      match ← archiveHop env storage platform sha256 limits deadline left redirects current with
      | .inl download => return download
      | .inr next =>
          match left with
          | 0 => raise (artifactError "Pinned artifact redirect limit exceeded.")
          | left + 1 =>
              archiveLoop limits deadline left (redirects + 1)
                (current.canonicalIdentity :: visited) next

def downloadPinnedArchive (limits : ArchiveLimits) (sourceUrl expectedUrl : List Char) :
    Net σ (ArtifactDownload δ) := do
  raiseIf (sourceUrl ≠ expectedUrl ∨ limits.overallTimeout ≤ 0 ∨ limits.maxRedirects < 0 ∨
    limits.maxArchiveBytes ≤ 0) (artifactError "Pinned artifact request is invalid.")
  let current ← lift (validateHop platform sourceUrl true)
  let deadline := (← now env) + limits.overallTimeout
  archiveLoop env storage platform sha256 limits deadline limits.maxRedirects.toNat 0 [] current

end Loop

end RouterKit.Network
