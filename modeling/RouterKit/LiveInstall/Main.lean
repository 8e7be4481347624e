import RouterKit.LiveInstall.Coordinator

/-!
The program around the coordinator: the command line is checked, the receipt is
created or loaded, and the stages run until one of them ends the invocation. A
run is one invocation after the other, over what stays on disk between them.
-/

namespace RouterKit.LiveInstall

open RouterKit.Lib.Checked
open RouterKit.Devices

/-- `_resolve_runtime_mode`; a receipt is consulted where the command line named
it. -/
def resolveRuntimeMode {Digest : Type} (args : Args) (receipt : Option (Receipt Digest)) :
    RuntimeMode :=
  match args.runtimeMode, receipt with
  | some runtimeMode, _ => runtimeMode
  | none, some receipt => receipt.runtimeMode
  | none, none => if args.transport = .external then .externalEvidence else .localRouter

def pathIsUnderLocalOpt (resolve : String → Option String) (path : String) :
    Except LiveInstallError Bool :=
  match resolve path with
  | some resolved => pure (resolved = "/opt" || "/opt/".toList.isPrefixOf resolved.toList)
  | none => .error ⟨"Live-install local path could not be resolved safely.", 2⟩

/-- `validate_env_name`. -/
def validEnvName (name : String) : Bool :=
  match name.toList with
  | [] => false
  | first :: rest =>
      (first.isAlpha || first = '_') && rest.all (fun c => c.isAlphanum || c = '_')

def dedicatedEnvName (name : String) : Bool :=
  validEnvName name && "ROUTERKIT_".toList.isPrefixOf name.toList && name ≠ "ROUTERKIT_"

def refuseUnderLocalOpt (resolve : String → Option String) (error : LiveInstallError) :
    Option String → Except LiveInstallError Unit
  | none => pure ()
  | some path => do
      let under ← pathIsUnderLocalOpt resolve path
      raiseIf under error

def validateExternalPaths (resolve : String → Option String) (args : Args) :
    Except LiveInstallError Unit := do
  let writes : LiveInstallError :=
    ⟨"external-evidence mode refuses local receipt/transaction writes under /opt.", 2⟩
  refuseUnderLocalOpt resolve writes (some args.receiptFile)
  refuseUnderLocalOpt resolve writes args.transactionFile
  refuseUnderLocalOpt resolve
    ⟨"external-evidence mode requires an exported endpoint manifest outside local /opt.", 2⟩
    args.endpointManifestFile

def validateSources (args : Args) : Except LiveInstallError Unit := do
  raiseIf (args.sourceEnv.any (fun name => !dedicatedEnvName name))
    ⟨"--source-env must be a valid dedicated ROUTERKIT_* name.", 2⟩
  let sources := [args.sourceEnv, args.sourceFile, args.reuseProfiles].filter Option.isSome
  raiseIf (sources.length > 1) ⟨"Profile source options are mutually exclusive.", 2⟩
  raiseIf (args.adoptExistingRuntime ∧ sources ≠ [])
    ⟨"Runtime adoption does not accept or read a profile source.", 2⟩
  raiseIf (args.adoptExistingRuntime ∧ args.endpointManifestFile = none)
    ⟨"Runtime adoption requires --endpoint-manifest-file.", 2⟩
  raiseIf (args.fallbackIndex ≠ [] ∧ args.primaryIndex = none)
    ⟨"--fallback-index requires --primary-index.", 2⟩
  raiseIf (args.fallbackIndex.length > 2 ∨
      ¬ (args.primaryIndex.toList ++ args.fallbackIndex).Nodup)
    ⟨"Profile selection indexes are invalid.", 2⟩

/-- `_validate_args`, for an apply or a resume. -/
def validateArgs (resolve : String → Option String) (args : Args) (runtimeMode : RuntimeMode)
    (runtimeModeExplicit : Bool) : Except LiveInstallError Unit := do
  raiseIf (args.targetRoot ≠ "/opt")
    ⟨"live-install apply/resume supports only literal /opt.", 2⟩
  raiseIf (args.selectedDeviceMac = none ∨ args.profileSlot = none)
    ⟨"live-install requires an explicit --selected-device-mac and --profile-slot.", 2⟩
  raiseIf (args.transport = .localNdmc ∧ runtimeMode ≠ .localRouter)
    ⟨"local-ndmc requires runtime execution on the local router.", 2⟩
  raiseIf (runtimeMode = .localRouter ∧ args.mode = .apply ∧ ¬ runtimeModeExplicit)
    ⟨"Mutable local-router execution requires explicit --runtime-mode local-router.", 2⟩
  raiseIf (args.adoptExistingRuntime ∧ runtimeMode ≠ .externalEvidence)
    ⟨"Existing runtime adoption requires external-evidence mode.", 2⟩
  raiseIf (runtimeMode = .localRouter ∧ args.endpointManifestFile ≠ none)
    ⟨"local-router runtime uses only the manifest generated by its existing setup stage.", 2⟩
  if runtimeMode = .externalEvidence then validateExternalPaths resolve args else pure ()
  validateSources args

section Running

variable {Digest : Type} [DecidableEq Digest] (host : Fingerprints Digest)

def selectedDeviceFingerprint (mac : String) : Except LiveInstallError Digest :=
  match normalizeTrustedDeviceMac mac with
  | .ok normalized => pure (host.device normalized)
  | .error _ => .error ⟨"Selected device MAC is invalid or unsafe.", 2⟩

def buildIntent (args : Args) (runtimeMode : RuntimeMode) (artifact : Artifact Digest) :
    Except LiveInstallError (Intent Digest) := do
  raiseIf (args.hardwareContract ≠ defaultHardwareContract)
    ⟨"Unsupported live-install hardware contract.", 2⟩
  raiseIf (args.profileSlot.getD 0 ∉ [1, 2, 3])
    ⟨"Selected profile slot must be 1, 2, or 3.", 2⟩
  let selectedDeviceFingerprint ← selectedDeviceFingerprint host (args.selectedDeviceMac.getD "")
  pure {
    hardwareContract := args.hardwareContract
    transportMode := args.transport
    runtimeMode
    adoptExistingRuntime := args.adoptExistingRuntime
    artifact
    selectedDeviceFingerprint
    selectedProfileSlot := args.profileSlot.getD 0
    moveDeviceAuthorized := args.moveDevice
    controlledRebootAuthorized := args.authorizeReboot }

variable (invocation : Invocation Digest)

/-- The intent of an invocation whose command line passes. -/
def checkedIntent (args : Args) (runtimeMode : RuntimeMode) :
    Except (ReadError LiveInstallError) (Intent Digest) := do
  (validateArgs invocation.resolve args runtimeMode
    invocation.args.runtimeMode.isSome).mapError .refused
  let artifact ← invocation.artifact
  (buildIntent host args runtimeMode artifact).mapError .refused

/-- What the stages start from: the receipt in memory, whether it is to be written
first, and the command line with the authority it already has. -/
structure Started (Digest : Type) where
  memory : Recorded Digest
  write : Bool
  args : Args
  runtimeMode : RuntimeMode

def startApply (world : World Digest) : Except Failure (Started Digest) := do
  let args := invocation.args
  let runtimeMode := resolveRuntimeMode args (none : Option (Receipt Digest))
  let intent ← (checkedIntent host invocation args runtimeMode).mapError
    (ReadError.failure .liveInstall)
  if world.disk.isSome then
    .error (.liveInstall ⟨"Receipt already exists; use live-install resume.", 2⟩)
  else if ¬ args.yes ∧ ¬ invocation.confirmed then .error .cancelled
  else pure ⟨⟨initialReceipt host.intent intent, []⟩, true, args, runtimeMode⟩

/-- Authority and adoption once granted stay. -/
def resumedArgs (args : Args) (receipt : Receipt Digest) : Args :=
  { args with
    moveDevice := args.moveDevice || receipt.moveDeviceAuthorized
    authorizeReboot := args.authorizeReboot || receipt.controlledRebootAuthorized
    adoptExistingRuntime := args.adoptExistingRuntime || receipt.adoptExistingRuntime }

def loadReceipt (world : World Digest) : Except LiveInstallError (Recorded Digest) :=
  match world.disk with
  | none => .error ⟨"Could not read the live-install receipt.", 2⟩
  | some recorded => do
      validateReceipt host.intent recorded.receipt
      pure recorded

def startResume (world : World Digest) : Except Failure (Started Digest) := do
  let recorded ← (loadReceipt host world).mapError .liveInstall
  let runtimeMode := resolveRuntimeMode invocation.args
    (if invocation.args.receiptFileGiven then some recorded.receipt else none)
  let args := resumedArgs invocation.args recorded.receipt
  let intent ← (checkedIntent host invocation args runtimeMode).mapError
    (ReadError.failure .liveInstall)
  let (receipt, write) ←
    (validateIntentCompatible host.intent recorded.receipt intent).mapError .liveInstall
  pure ⟨{ recorded with receipt }, write, args, runtimeMode⟩

def start (world : World Digest) : Except Failure (Started Digest) := do
  invocation.paths.mapError .unhandled
  match invocation.args.mode with
  | .apply => startApply host invocation world
  | .resume => startResume host invocation world

/-- From the receipt in memory to the component stage: the installation stages are
behind, and the evidence is at hand. -/
def prepare (started : Started Digest) : Coord Digest (Option (Evidence Digest)) := do
  if started.write then writeReceipt host else pure ()
  let evidence ← liftRead .liveInstall (loadEvidence invocation.evidenceFile)
  runInstallationStages host invocation started.args evidence started.runtimeMode
  pure evidence

def proceed (started : Started Digest) : Coord Digest Unit := do
  let evidence ← prepare host invocation started
  componentAndReboot host started.args evidence
  nativeDnsClientStages host invocation started.args evidence

/-- Where the stages of an invocation start from. -/
def Invocation.session (invocation : Invocation Digest) (world : World Digest)
    (memory : Recorded Digest) : Session Digest :=
  { world with memory, steps := invocation.steps, writes := invocation.writes }

/-- One invocation: how it ended, and what it leaves. -/
def invoke (world : World Digest) : Except Failure Unit × World Digest :=
  let world := { world with files := invocation.changeFiles world.files }
  match start host invocation world with
  | .error failure => (.error failure, world)
  | .ok started =>
      match proceed host invocation started (invocation.session world started.memory) with
      | .ok _ session => (.ok (), session.toWorld)
      | .error failure session => (.error failure, session.toWorld)

/-- A run: before it no receipt exists; every invocation of it is allowed in the
world it finds. -/
inductive Run (allowed : World Digest → Invocation Digest → Prop) : World Digest → Prop where
  | start (files : TransactionFiles Digest) : Run allowed ⟨none, files, []⟩
  | invoke {world : World Digest} {invocation : Invocation Digest} (h : Run allowed world)
      (hallowed : allowed world invocation) : Run allowed (invoke host invocation world).2

/-- The worlds of all runs. -/
def Reachable (world : World Digest) : Prop := Run host (fun _ _ => True) world

end Running

end RouterKit.LiveInstall
