import RouterKit.Lib.Effects
import RouterKit.Profiles.Generator

/-!
A run of the profile generator on its output directory. Three fragments are
written in place, the endpoint manifest is retired before the first and
published after the last. Every call of the operating system may fail, and the
run may be interrupted or killed at any of them.
-/

namespace RouterKit.Profiles

open RouterKit.Lib RouterKit.Lib.Checked
open RouterKit.Lib.Effects RouterKit.Lib.Effects.Effect

/-- `03_inbounds.json`, `04_outbounds.json` and `05_routing.json`. -/
inductive Fragment where
  | inbounds
  | outbounds
  | routing
deriving DecidableEq, Repr

/-- What `_validate_private_metadata` looks at. -/
structure Metadata where
  regular : Bool
  links : Nat
  owned : Bool
  mode : Nat
deriving DecidableEq, Repr

/-- A file, and the run that wrote it. -/
structure Entry (β : Type) where
  bytes : List β
  metadata : Metadata
  writer : Nat
deriving DecidableEq

/-- The output directory. The newest temporary file is the first. -/
structure Directory (β : Type) where
  fragments : Fragment → Option (Entry β)
  manifest : Option (Entry β)
  temporaries : List (Entry β)

/-- A file that the running user has just made. -/
def freshMetadata (mode : Nat) : Metadata := ⟨true, 1, true, mode⟩

/-- The fragment holds `bytes`. A file that was there keeps its metadata. -/
def Directory.storeFragment {β : Type} (which : Fragment) (writer mode : Nat) (bytes : List β)
    (directory : Directory β) : Directory β :=
  let metadata := ((directory.fragments which).map (·.metadata)).getD (freshMetadata mode)
  { directory with fragments := fun other =>
      if other = which then some ⟨bytes, metadata, writer⟩ else directory.fragments other }

def Directory.chmodFragment {β : Type} (which : Fragment) (mode : Nat)
    (directory : Directory β) : Directory β :=
  { directory with fragments := fun other =>
      if other = which then (directory.fragments which).map fun entry =>
        { entry with metadata := { entry.metadata with mode } }
      else directory.fragments other }

/-- The profiles and nodes a run builds its documents from. -/
structure Generation where
  profiles : List Profile
  nodes : List (String × NodeRecord)

/-- The disk, and the generations begun so far. -/
structure Disk (β : Type) where
  directory : Directory β
  generations : List Generation

inductive Call where
  | prepareDirectory
  | openDirectory
  | statManifest
  | readManifest
  | restatManifest
  | unlinkManifest
  | syncDirectory
  | createTemporary
  | chmodTemporary
  | writeTemporary
  | syncTemporary
  | replaceManifest
  | unlinkTemporary
  | openFragment (which : Fragment)
  | writeFragment (which : Fragment)
  | chmodFragment (which : Fragment)
deriving DecidableEq, Repr

inductive Fate where
  | done
  | failed
  | interrupted
  | killed
deriving DecidableEq, Repr

/-- The operating system: the fate of a call, how much of a write takes effect,
and the mode a new fragment gets. -/
structure Os (σ : Type) where
  fate : Call → σ → Fate × σ
  amount : σ → Nat
  newMode : σ → Nat

/-- Texts and files. `encode` and `decode` are UTF-8, `dumps` the indented spelling
with a line feed at its end. -/
structure Codec (Text β : Type) where
  dumps : Json String → Text
  loads : Text → Option (Json String)
  encode : Text → Option (List β)
  decode : List β → Option Text
  floatEq : String → Int → Bool
  toInt : Json String → Option Int

structure Session (σ β : Type) where
  world : σ
  disk : Disk β

abbrev Run (σ β α : Type) := Effect (Session σ β) Raised α

def maxLocalEndpointManifestBytes : Nat := 32 * 1024

section Calls

variable {σ β α : Type} (os : Os σ)

def stop : Fate → Raised
  | .interrupted => .interrupt
  | .killed => .killed
  | _ => .osError

/-- One call, which takes effect when it is done. -/
def perform (call : Call) (effect : Directory β → Directory β) : Run σ β Unit := fun session =>
  match os.fate call session.world with
  | (.done, world) =>
      (.ok (), ⟨world, { session.disk with directory := effect session.disk.directory }⟩)
  | (fate, world) => (.error (stop fate), { session with world })

def readDirectory (f : Directory β → α) : Run σ β α := Effect.read fun session =>
  f session.disk.directory

def changeDirectory (effect : Directory β → Directory β) : Run σ β Unit :=
  Effect.update fun session =>
    ⟨session.world, { session.disk with directory := effect session.disk.directory }⟩

/-- `except OSError: raise error`. -/
def wrapOsError (error : Raised) (m : Run σ β α) : Run σ β α :=
  handle m fun e => raise (if e = .osError then error else e)

/-- `except PrivateFileError as exc: raise SystemExit(str(exc))`. -/
def exitOnPrivateFile (m : Run σ β α) : Run σ β α :=
  handle m fun e => raise (match e with
    | .privateFile message => .systemExit message
    | .durability message => .systemExit message
    | e => e)

end Calls

section PrivateFiles

variable {σ β Text : Type} [DecidableEq β] (os : Os σ) (codec : Codec Text β)

def description : String := "Local endpoint manifest"

def privateFile (message : String) : Raised := .privateFile (description ++ message)

def validatePrivateMetadata (metadata : Metadata) : Except Raised Unit := do
  raiseIf (metadata.regular = false) (privateFile " must be a regular, non-symlink file.")
  raiseIf (metadata.links ≠ 1) (privateFile " must not have hard links.")
  raiseIf (metadata.owned = false) (privateFile " must be owned by the current user on POSIX.")
  raiseIf (metadata.mode &&& 0o077 ≠ 0)
    (privateFile " permissions must be owner-only on POSIX.")

def recognize (text : Text) : Except Raised Unit :=
  (validateLocalEndpointManifestText codec.loads codec.floatEq text).mapError fun e =>
    .privateFile e.message

/-- The part of `_read_validated_entry` that judges an entry that is there. -/
def validateEntry (existing : Entry β) : Except Raised Unit := do
  validatePrivateMetadata existing.metadata
  raiseIf (existing.bytes.length > maxLocalEndpointManifestBytes) (privateFile " is too large.")
  match codec.decode existing.bytes with
  | none => .error (privateFile " must contain UTF-8 text.")
  | some text => recognize codec text

/-- `_read_validated_entry`. -/
def readValidatedEntry : Run σ β (Option (Entry β)) := do
  perform os .statManifest id
  let existing ← readDirectory Directory.manifest
  match existing with
  | none => pure none
  | some entry => do
      perform os .readManifest id
      lift (validateEntry codec entry)
      pure (some entry)

/-- `remove_private_file_if_valid`. -/
def removePrivateFileIfValid : Run σ β Bool := do
  let removed ← wrapOsError
    (.privateFile "Could not retire the prior local endpoint manifest safely.") (do
      perform os .openDirectory id
      let existing ← readValidatedEntry os codec
      match existing with
      | none => pure false
      | some entry => do
          perform os .restatManifest id
          let current ← readDirectory Directory.manifest
          Effect.raiseIf (current ≠ some entry) (privateFile " destination changed before removal.")
          perform os .unlinkManifest fun directory => { directory with manifest := none }
          pure true)
  if removed then do
    wrapOsError (.durability (description ++
      " was removed, but its directory could not be synchronized.")) (perform os .syncDirectory id)
    pure true
  else pure false

def appendTemporary (bytes : List β) (directory : Directory β) : Directory β :=
  { directory with temporaries :=
      directory.temporaries.modifyHead fun entry => { entry with bytes := entry.bytes ++ bytes } }

/-- The loop of `os.write`: every round stores a part of what is left. -/
def writeRounds : Nat → List β → Run σ β Unit
  | _, [] => pure ()
  | 0, _ :: _ => raise .osError
  | rounds + 1, data => do
      let amount ← Effect.read fun session => min (os.amount session.world) data.length
      perform os .writeTemporary (appendTemporary (data.take amount))
      Effect.raiseIf (amount = 0) .osError
      writeRounds rounds (data.drop amount)

/-- The `finally` of `write_private_bytes_atomic`: a temporary file that is left is
unlinked, unless the process is killed. -/
def dropTemporary (e : Raised) : Run σ β α := fun session =>
  if e = .killed then (.error e, session)
  else match perform os .unlinkTemporary (fun directory =>
      { directory with temporaries := directory.temporaries.tail }) session with
    | (.error .interrupt, session) => (.error .interrupt, session)
    | (.error .killed, session) => (.error .killed, session)
    | (_, session) => (.error e, session)

/-- The new manifest in its temporary file. -/
def fillTemporary (data : List β) : Run σ β Unit := do
  perform os .chmodTemporary id
  writeRounds os data.length data
  perform os .syncTemporary id
  let length ← readDirectory fun directory => directory.temporaries.head?.map (·.bytes.length)
  Effect.raiseIf (length ≠ some data.length) .osError

def publishTemporary (directory : Directory β) : Directory β :=
  { directory with
    manifest := directory.temporaries.head?
    temporaries := directory.temporaries.tail }

/-- `write_private_bytes_atomic`. -/
def writePrivateBytesAtomic (writer : Nat) (data : List β) : Run σ β Unit := do
  Effect.raiseIf (data.length > maxLocalEndpointManifestBytes)
    (privateFile " exceeds its safety bound.")
  wrapOsError (.privateFile "Could not publish the local endpoint manifest safely.") (do
    perform os .openDirectory id
    let existing ← readValidatedEntry os codec
    perform os .createTemporary fun directory =>
      { directory with temporaries := ⟨[], freshMetadata 0o600, writer⟩ :: directory.temporaries }
    handle (do
      fillTemporary os data
      perform os .restatManifest id
      let current ← readDirectory Directory.manifest
      Effect.raiseIf (current ≠ existing) (privateFile " destination changed before publication.")
      perform os .replaceManifest publishTemporary) (dropTemporary os))
  wrapOsError (.durability (description ++
    " may already be visible, but its directory could not be synchronized."))
    (perform os .syncDirectory id)

end PrivateFiles

section Main

variable {σ β Text : Type} [DecidableEq β] (os : Os σ) (codec : Codec Text β)

/-- `write_private_json_atomic`. -/
def writePrivateJsonAtomic (writer : Nat) (value : Json String) : Run σ β Unit :=
  match codec.encode (codec.dumps value) with
  | none => raise .traceback
  | some encoded => exitOnPrivateFile (do
      match codec.decode encoded with
      | none => raise .traceback
      | some text => do
          lift (recognize codec text)
          writePrivateBytesAtomic os codec writer encoded)

/-- `retire_stale_local_endpoint_manifest`. -/
def retireStaleLocalEndpointManifest : Run σ β Unit := exitOnPrivateFile (do
  let _ ← removePrivateFileIfValid os codec
  pure ())

/-- `Path.write_text` and `os.chmod`: the file is emptied, then filled, and a write
that is cut off leaves a part. -/
def writeFragment (writer : Nat) (which : Fragment) (text : Text) : Run σ β Unit := do
  let mode ← Effect.read fun session => os.newMode session.world
  perform os (.openFragment which) (Directory.storeFragment which writer mode [])
  match codec.encode text with
  | none => raise .traceback
  | some bytes => do
      let amount ← Effect.read fun session => os.amount session.world
      changeDirectory (Directory.storeFragment which writer mode (bytes.take amount))
      perform os (.writeFragment which) (Directory.storeFragment which writer mode bytes)
      perform os (.chmodFragment which) (Directory.chmodFragment which 0o600)

/-- The documents of a generation, in the order in which they are written. -/
def files (generation : Generation) : Except Raised (List (Fragment × Json String)) := do
  let inbounds ← buildInbounds codec.toInt generation.profiles
  let outbounds ← buildOutbounds generation.profiles generation.nodes
  pure [(.inbounds, inbounds), (.outbounds, outbounds),
    (.routing, buildRouting generation.profiles)]

def writeFragments (writer : Nat) : List (Fragment × Json String) → Run σ β Unit
  | [] => pure ()
  | (which, document) :: rest => do
      writeFragment os codec writer which (codec.dumps document)
      writeFragments writer rest

-- Acquisition and selection for one profile, up to the checks that follow them.
variable (acquire : Profile → σ → Except Raised NodeRecord × σ)

def unsupportedNode (profile : Profile) (node : NodeRecord) : Raised :=
  .systemExit ("Profile " ++ profileName profile ++ " selected unsupported node: security=" ++
    node.security ++ " network=" ++ node.network)

def acquireNodes : List Profile → Run σ β (List (String × NodeRecord))
  | [] => pure []
  | profile :: rest => do
      let node ← (fun session =>
        let (outcome, world) := acquire profile session.world
        (outcome, { session with world }) : Run σ β NodeRecord)
      Effect.raiseIf (node.security ≠ "reality" ∨ ¬ (node.network = "tcp" ∨ node.network = ""))
        (unsupportedNode profile node)
      let nodes ← acquireNodes rest
      pure ((profileName profile, node) :: nodes)

/-- `cfg.get("profiles", [])`, up to where a value of another kind raises. An empty
object and an empty text have nothing to go through either. -/
def profilesOf (cfg : Json String) : Except Raised (List Profile) :=
  match cfg with
  | .obj fields =>
      match Json.get? fields "profiles" with
      | none => pure []
      | some (.arr profiles) => mapEach (fun profile => match profile with
          | .obj fields => .ok fields
          | _ => .error .traceback) profiles
      | some (.obj []) => pure []
      | some (.str "") => pure []
      | some _ => .error .traceback
  | _ => .error .traceback

/-- The run is counted when its documents are built. -/
def begin (generation : Generation) : Run σ β Nat := fun session =>
  (.ok session.disk.generations.length, ⟨session.world,
    { session.disk with generations := session.disk.generations ++ [generation] }⟩)

/-- `main()`, after the arguments are parsed; `cfg` is the outcome of `load_json`. -/
def main (cfg : Except Raised (Json String)) : Run σ β Unit := do
  let cfg ← lift cfg
  let profiles ← lift (profilesOf cfg)
  lift (validateProfileNames codec.floatEq [] profiles)
  exitOnPrivateFile (wrapOsError
    (.privateFile "Could not prepare the generated output directory.")
    (perform os .prepareDirectory id))
  retireStaleLocalEndpointManifest os codec
  let nodes ← acquireNodes acquire profiles
  let documents ← lift (files codec ⟨profiles, nodes⟩)
  let writer ← begin ⟨profiles, nodes⟩
  writeFragments os codec writer documents
  match buildLocalEndpointManifest profiles with
  | .error message => raise (.systemExit message)
  | .ok manifest => writePrivateJsonAtomic os codec writer manifest

end Main

end RouterKit.Profiles
