import RouterKit.LiveInstall.Evidence
import RouterKit.Lib.Programs
import RouterKit.Netcraze.External

/-!
The live-install coordinator. It holds the receipt in memory, launches the
existing tools stage by stage, and writes the receipt to disk between them; a
later invocation goes on from the receipt on disk. The process may be stopped
before any of its effects: a launch, a written receipt, each step of publishing
the transaction file.

What a delegate does, which files can be read, what they hold, and what becomes of
each write of the receipt are inputs of an invocation. The transaction directory
accepts the coordinator's writes.
-/

namespace RouterKit.LiveInstall

open RouterKit.Lib.Checked
open RouterKit.Netcraze (LiveState LiveError LocalEndpointManifest NetcrazePlanError)
open RouterKit.Netcraze.External (Packet Payload Phase)
open Stage

inductive Delegate where
  | preflight
  | bootstrap
  | setup
  | backup
  | install
  | healthcheck
  | autostart
  | nativePlan
  | nativeApply
deriving DecidableEq, Repr

/-- The first stage the delegate's success completes. -/
def Delegate.firstStage : Delegate → Stage
  | .preflight => networkPreflight
  | .bootstrap => pinnedXrayBootstrap
  | .setup => protectedProfileSource
  | .backup => Stage.backup
  | .install => Stage.install
  | .healthcheck => Stage.healthcheck
  | .autostart => Stage.autostart
  | .nativePlan | .nativeApply => nativeProxyPolicyTransaction

/-- `capture=True`. -/
def Delegate.captured : Delegate → Bool
  | .autostart | .nativePlan | .nativeApply => true
  | _ => false

/-- The keys the coordinator reads of a delegate's JSON object, as truth values. -/
structure DelegatePayload where
  runtimeVerified : Bool := false
  verified : Bool := false
  writeRequired : Bool := false
deriving DecidableEq, Repr

/-- A captured output: not text, not JSON, JSON nested deeper than `json.loads` goes,
JSON of another kind, an object. -/
inductive Stdout where
  | undecodable
  | notJson
  | tooNested
  | notObject
  | object (payload : DelegatePayload)
deriving DecidableEq, Repr

inductive DelegateResult where
  | notStarted
  | exited (returncode : Int) (stdout : Stdout)
deriving DecidableEq, Repr

inductive Mode where
  | apply
  | resume
deriving DecidableEq, Repr

/-- The command line. An option given the empty text counts as absent;
`receiptFile` is the receipt's path as resolved. -/
structure Args where
  mode : Mode
  transport : Transport
  runtimeMode : Option RuntimeMode
  adoptExistingRuntime : Bool
  receiptFile : String
  receiptFileGiven : Bool
  targetRoot : String
  hardwareContract : String
  sourceEnv : Option String
  sourceFile : Option String
  reuseProfiles : Option String
  primaryIndex : Option Int
  fallbackIndex : List Int
  selectedDeviceMac : Option String
  profileSlot : Option Nat
  moveDevice : Bool
  authorizeReboot : Bool
  endpointManifestFile : Option String
  externalPreSnapshotFile : Option String
  externalPostSnapshotFile : Option String
  externalSavedSnapshotFile : Option String
  transactionFile : Option String
  yes : Bool
deriving DecidableEq, Repr

/-- A snapshot read: its file is refused, it holds a number of more digits than
`int` takes, or it parses to a state. -/
inductive SnapshotRead where
  | refused (message : String)
  | overlongNumber
  | state (state : LiveState)

inductive ManifestSite where
  | installation
  | freshRuntime
  | nativeStage
deriving DecidableEq, Repr

/-- A transaction file: a packet, a text that is none, or JSON nested deeper than
`json` goes. -/
inductive TransactionFile (Digest : Type) where
  | packet (packet : Packet Digest)
  | malformed
  | tooNested

abbrev TransactionFiles (Digest : Type) := String → Option (TransactionFile Digest)

/-- What becomes of a write of the receipt: it is stored, it is refused before the
old file is replaced, or it replaces the old file and its directory cannot be
synchronized. -/
inductive ReceiptWrite where
  | stored
  | refused (message : String)
  | unsynced (message : String)
deriving DecidableEq, Repr

/-- One run of the program. `paths` is what finding the repository root and the
working directory raises; `resolve` is `Path.resolve`, which raises on a loop of
links; `steps` is how many effects happen before the process is stopped, and
`writes steps` what becomes of the receipt written with so many left; `nativeWrites`
says that the native apply delegate changes the router, whatever it reports. -/
structure Invocation (Digest : Type) where
  args : Args
  paths : Except Unhandled Unit
  artifact : Except (ReadError LiveInstallError) (Artifact Digest)
  confirmed : Bool
  evidenceFile : EvidenceFile Digest
  manifest : ManifestSite →
    Except (ReadError NetcrazePlanError) { m : LocalEndpointManifest // m.Valid }
  snapshot : Phase → SnapshotRead
  resolve : String → Option String
  delegate : Delegate → DelegateResult
  nativeWrites : Bool
  changeFiles : TransactionFiles Digest → TransactionFiles Digest
  steps : Nat
  writes : Nat → ReceiptWrite

/-- The fingerprints of the coordinator. -/
structure Fingerprints (Digest : Type) where
  intent : Intent Digest → Digest
  evidence : Evidence Digest → Digest
  path : String → Digest
  device : String → Digest
  payload : Payload Digest → Digest

/-- What has happened to the native stage: a write of the router, in the epoch of
the receipt, and a successful verification. -/
inductive NativeEvent (Digest : Type) where
  | wrote (epoch : Nat)
  | verified (phase : Phase) (fingerprint : Digest) (path : String)
deriving DecidableEq

/-- A receipt, with what has happened since its native stage was last reset. The
second part is not stored; it is there to be talked about. -/
structure Recorded (Digest : Type) where
  receipt : Receipt Digest
  history : List (NativeEvent Digest)

inductive Event (Digest : Type) where
  | accepting (receipt : Receipt Digest)
  | handed (receipt : Receipt Digest)
  | launched (delegate : Delegate) (receipt : Receipt Digest)
  | dnsPassed (epoch : Nat) (history : List (NativeEvent Digest))

/-- What lasts between invocations, with the events so far, newest first. -/
structure World (Digest : Type) where
  disk : Option (Recorded Digest)
  files : TransactionFiles Digest
  trace : List (Event Digest)

structure Session (Digest : Type) extends World Digest where
  memory : Recorded Digest
  steps : Nat
  writes : Nat → ReceiptWrite

/-- How a run ends early. `main` handles the first five. -/
inductive Failure where
  | cancelled
  | handoff (action : String) (expectations : List String)
  | liveInstall (error : LiveInstallError)
  | liveAdapter (message : String) (exitCode : Nat)
  | netcrazePlan (error : NetcrazePlanError)
  | unhandled (error : Unhandled)
  | stopped
deriving DecidableEq, Repr

/-- The failure that an error in reading an input ends the run in. -/
def ReadError.failure {Refusal : Type} (refusal : Refusal → Failure) :
    ReadError Refusal → Failure
  | .refused error => refusal error
  | .raises error => .unhandled error

abbrev Coord (Digest : Type) := EStateM Failure (Session Digest)

section Effects

variable {Digest : Type} {α : Type}

/-- The process may be stopped here. -/
def tick : Coord Digest Unit := fun session =>
  match session.steps with
  | 0 => .error .stopped session
  | steps + 1 => .ok () { session with steps }

def emit (event : Event Digest) : Coord Digest Unit :=
  modify (fun session => { session with trace := event :: session.trace })

def current : Coord Digest (Receipt Digest) := do
  let session ← get
  pure session.memory.receipt

def update (f : Receipt Digest → Receipt Digest) : Coord Digest Unit :=
  modify (fun session =>
    { session with memory := { session.memory with receipt := f session.memory.receipt } })

def updateNative (f : NativeTransaction Digest → NativeTransaction Digest) : Coord Digest Unit :=
  update (fun receipt => { receipt with nativeTransaction := f receipt.nativeTransaction })

def updateFinal (f : FinalVerification → FinalVerification) : Coord Digest Unit :=
  update (fun receipt => { receipt with finalVerification := f receipt.finalVerification })

def mark (stage : Stage) (status : StageStatus) : Coord Digest Unit :=
  update (fun receipt => markStage receipt stage status)

def Recorded.note (event : NativeEvent Digest) (recorded : Recorded Digest) : Recorded Digest :=
  { recorded with history := recorded.history ++ [event] }

/-- Something happened to the router or was found out about it, whether or not a
receipt will say so. -/
def note (event : NativeEvent Digest) : Coord Digest Unit :=
  modify (fun session =>
    { session with
      memory := session.memory.note event
      disk := session.disk.map (Recorded.note event) })

def lift (x : Except LiveInstallError α) : Coord Digest α :=
  match x with
  | .ok a => pure a
  | .error error => throw (.liveInstall error)

def liftRead {Refusal : Type} (refusal : Refusal → Failure) (x : Except (ReadError Refusal) α) :
    Coord Digest α :=
  match x with
  | .ok a => pure a
  | .error error => throw (error.failure refusal)

/-- `LiveAdapterError` is handled; the other classes are not. -/
def liftLive (x : Except LiveError α) : Coord Digest α :=
  match x with
  | .ok a => pure a
  | .error (.adapter message exitCode) => throw (.liveAdapter message exitCode)
  | .error (.deviceDiscovery _) => throw (.unhandled .deviceDiscoveryError)
  | .error .keyError => throw (.unhandled .keyError)
  | .error .valueError => throw (.unhandled .valueError)

def raiseWhen (condition : Prop) [Decidable condition] (error : LiveInstallError) :
    Coord Digest Unit :=
  lift (raiseIf condition error)

end Effects

section Coordinator

variable {Digest : Type} [DecidableEq Digest] (host : Fingerprints Digest)

def checkExisting : Option (Recorded Digest) → Except LiveInstallError Unit
  | none => pure ()
  | some existing => (validateReceipt host.intent existing.receipt).mapError
      (fun _ => ⟨"Live-install receipt is not a recognized RouterKit file.", 2⟩)

def store : Coord Digest Unit :=
  modify (fun session => { session with disk := some session.memory })

/-- `write_private_bytes_atomic`: the file changes in one step or not at all, and a
write that is refused or cannot be synchronized is an error either way. -/
def publish : Coord Digest Unit := do
  let session ← get
  match session.writes session.steps with
  | .stored => store
  | .refused message => throw (.liveInstall ⟨message, 2⟩)
  | .unsynced message => do
      store
      throw (.liveInstall ⟨message, 2⟩)

/-- `write_receipt`: the new receipt and the one it replaces are both validated. -/
def writeReceipt : Coord Digest Unit := do
  let session ← get
  emit (.handed session.memory.receipt)
  lift (validateReceipt host.intent session.memory.receipt)
  lift (checkExisting host session.disk)
  tick
  publish

/-- `_persist`. -/
def persist : Coord Digest Unit := writeReceipt host

def handoff {α : Type} (action : String) (expectations : List String) : Coord Digest α := do
  persist host
  throw (.handoff action expectations)

def runtimeExecutionHandoff {α : Type} (extraExpectations : List String) : Coord Digest α :=
  handoff host "ROUTERKIT_RUNTIME_EXECUTION_REQUIRED" ([
    "Use a shell-capable transport on the target router itself.",
    "Run the existing RouterKit runtime commands there; do not translate them into raw MCP " ++
      "or browser/Web UI steps.",
    "Do not execute RouterKit runtime stages against the orchestrator host's /opt."] ++
      extraExpectations)

/-- Accepting evidence in place: a reset of the receipt also forgets what happened
to its native stage. -/
def accept (evidence : Evidence Digest) : Coord Digest Unit := do
  let receipt ← current
  emit (.accepting receipt)
  let accepted ← lift (acceptDiscoveryEvidence host.evidence receipt evidence)
  modify (fun session =>
    { session with
      memory := {
        receipt := accepted
        history :=
          if accepted.stateEpoch ≠ receipt.stateEpoch ∧
              (discoveryReset receipt evidence).isSome then []
          else session.memory.history } })

def requireSuccess (returncode : Int) (stage : String) : Except LiveInstallError Unit := do
  raiseIf (returncode = rollbackUnproven)
    ⟨stage ++ " failed and its existing rollback boundary could not be proven.",
      rollbackUnproven⟩
  raiseIf (returncode ≠ 0)
    ⟨stage ++ " failed with exit code " ++ toString returncode ++
      "; later mutable stages were not started.", returncode⟩

def requireStageSuccess (returncode : Int) (label : String) (stage : Stage) :
    Coord Digest Unit :=
  match requireSuccess returncode label with
  | .ok () => pure ()
  | .error error => do
      mark stage .fail
      persist host
      throw (.liveInstall error)

variable (invocation : Invocation Digest)

/-- What the delegate did to the router by the time it ended. -/
def noteWrite (delegate : Delegate) : Coord Digest Unit := do
  let receipt ← current
  if delegate = .nativeApply ∧ invocation.nativeWrites then note (.wrote receipt.stateEpoch)
  else pure ()

/-- `_run`: the exit code and what was captured. -/
def run (delegate : Delegate) : Coord Digest (Int × Stdout) := do
  tick
  let receipt ← current
  emit (.launched delegate receipt)
  match invocation.delegate delegate with
  | .notStarted => throw (.liveInstall ⟨"Could not execute delegated RouterKit stage.", 127⟩)
  | .exited returncode stdout => do
      noteWrite invocation delegate
      if delegate.captured ∧ stdout = .undecodable then throw (.unhandled .unicodeDecodeError)
      else pure (returncode, stdout)

/-- `_endpoint_manifest`, and its fingerprint. -/
def endpointManifest (site : ManifestSite) :
    Coord Digest { m : LocalEndpointManifest // m.Valid } :=
  liftRead .netcrazePlan (invocation.manifest site)

def manifestFingerprint (manifest : { m : LocalEndpointManifest // m.Valid }) : Digest :=
  Netcraze.External.manifestFingerprint host.payload manifest.val

def loadSnapshot (phase : Phase) : Coord Digest LiveState :=
  match invocation.snapshot phase with
  | .refused message => throw (.liveAdapter message 1)
  | .overlongNumber => throw (.unhandled .valueError)
  | .state state => pure state

/-- `_path_fingerprint`, with the resolved path. -/
def pathFingerprint (path : String) : Coord Digest (String × Digest) :=
  match invocation.resolve path with
  | some resolved => pure (resolved, host.path resolved)
  | none => throw (.unhandled .runtimeError)

variable (args : Args) (evidence : Option (Evidence Digest))

/-- The statuses of an accepted runtime that the coordinator did not install. -/
def acceptedStatuses : List (Stage × StageStatus) :=
  if args.adoptExistingRuntime then expectedAdopted
  else installationStages.map (fun stage => (stage, .pass))

/-- The loop over the statuses. -/
def markAll (statuses : List (Stage × StageStatus)) (receipt : Receipt Digest) : Receipt Digest :=
  statuses.foldl (fun receipt entry => markStage receipt entry.1 entry.2) receipt

def recordRuntime (manifestFingerprint : Digest) (evidence : Evidence Digest) :
    Coord Digest Unit := do
  accept host evidence
  update (fun receipt => { receipt with
    endpointManifestFingerprint := some manifestFingerprint
    runtimeEvidenceFingerprint := some (host.evidence evidence)
    runtimeDisposition := if args.adoptExistingRuntime then .adopted else .externalExecuted })
  update (markAll (acceptedStatuses args))
  update syncFinalVerification
  persist host

/-- `_accept_external_runtime`, where no earlier acceptance stands. -/
def acceptFreshRuntime : Coord Digest Unit :=
  if ¬ args.adoptExistingRuntime ∧ args.mode = .apply then
    runtimeExecutionHandoff host [
      "Resume only after the target-router runtime flow completes and fresh evidence plus its " ++
        "endpoint manifest are available."]
  else if args.endpointManifestFile = none then
    runtimeExecutionHandoff host [
      "Supply the fresh target-generated --endpoint-manifest-file before resuming."]
  else do
    let manifest ← endpointManifest invocation .freshRuntime
    let fingerprint := manifestFingerprint host manifest
    raiseWhen (¬ manifest.val.profiles.any (fun profile =>
        some profile.slot = args.profileSlot && profile.enabled))
      ⟨"Selected profile slot is not an enabled endpoint in the manifest.", 2⟩
    let receipt ← current
    if runtimeEvidenceIsSufficient evidence receipt.artifact fingerprint
        args.adoptExistingRuntime = false then
      runtimeExecutionHandoff host [
        "Return fresh strict runtime evidence for the target hardware contract and exact " ++
          "endpoint manifest."]
    else match evidence with
      | none => throw (.unhandled .typeError)
      | some evidence => recordRuntime host args fingerprint evidence

def acceptExternalRuntime : Coord Digest Unit := do
  let receipt ← current
  let disposition := receipt.runtimeDisposition
  if disposition = .adopted ∨ disposition = .externalExecuted then do
    let manifest ← endpointManifest invocation .installation
    raiseWhen (some (manifestFingerprint host manifest) ≠ receipt.endpointManifestFingerprint)
      ⟨"Endpoint manifest does not match the accepted runtime receipt.", 2⟩
    match evidence with
    | none => pure ()
    | some document => do
        accept host document
        let receipt ← current
        if receipt.runtimeDisposition = disposition then pure ()
        else acceptFreshRuntime host invocation args evidence
  else acceptFreshRuntime host invocation args evidence

/-- `evidence is None or evidence["epoch"] <= failed_epoch`. -/
def notFresh (failedEpoch : Option Nat) : Coord Digest Bool :=
  match evidence, failedEpoch with
  | none, _ => pure true
  | some document, some epoch => pure (document.epoch ≤ epoch)
  | some _, none => throw (.unhandled .typeError)

def readinessRequired : List CheckName :=
  [.management, .wanPppoe, .lan, .wifi, .usbExt4Opt, .entware]

/-- The readiness check, once its stage may be tried with the evidence. -/
def checkReadiness (readinessStage : Stage) (evidence : Evidence Digest) : Coord Digest Unit := do
  accept host evidence
  if ¬ ∀ name ∈ readinessRequired, evidence.checks name = .pass then
    handoff host "NETWORK_OR_STORAGE_READINESS_REQUIRED" [
      "Management, WAN/PPPoE, LAN, Wi-Fi, external EXT4 /opt, and Entware must pass.",
      "Do not start bootstrap while a required readiness invariant is unknown or failed."]
  else do
    let (returncode, _) ← run invocation .preflight
    requireStageSuccess host returncode "network/preflight and USB/EXT4/Entware readiness"
      readinessStage
    mark networkPreflight .pass
    mark usbExt4EntwareReadiness .pass
    persist host

/-- One attempt at a readiness stage; `stale` evidence is not tried again. -/
def attemptReadiness (readinessStage : Stage) (stale : Bool) : Coord Digest Unit :=
  if stale then
    handoff host "FAILED_PREFLIGHT_STATE_CHANGE_REQUIRED" [
      "Do not repeat discovery in the failed state epoch.",
      "Resume only with fresh evidence after an allowed state change."]
  else match evidence with
    | none =>
        handoff host "NETWORK_PREFLIGHT_EVIDENCE_REQUIRED" [
          "Use bounded typed/read-only checks for management, WAN/PPPoE, LAN, and Wi-Fi.",
          "Return owner-only routerkit.live-install.evidence.v1 evidence for epoch 0."]
    | some document => checkReadiness host invocation readinessStage document

def readinessStages : Coord Digest Unit := do
  let receipt ← current
  if stageDone receipt networkPreflight ∧ stageDone receipt usbExt4EntwareReadiness then pure ()
  else do
    let stage := if stageDone receipt networkPreflight then usbExt4EntwareReadiness
      else networkPreflight
    let stale ← if receipt.status stage = .fail then notFresh evidence (receipt.stages stage).epoch
      else pure false
    attemptReadiness host invocation evidence stage stale

/-- A stage that one delegate completes: bootstrap, backup, install, healthcheck. -/
def delegatedStage (delegate : Delegate) (label : String) (done : Coord Digest Unit) :
    Coord Digest Unit := do
  let receipt ← current
  if stageDone receipt delegate.firstStage then pure ()
  else do
    let (returncode, _) ← run invocation delegate
    requireStageSuccess host returncode label delegate.firstStage
    mark delegate.firstStage .pass
    done
    persist host

def bootstrapStage : Coord Digest Unit :=
  delegatedStage host invocation .bootstrap "pinned Xray bootstrap" (pure ())

def backupStage : Coord Digest Unit :=
  delegatedStage host invocation .backup "backup" (pure ())

def installStage : Coord Digest Unit :=
  delegatedStage host invocation .install "install" (pure ())

def healthcheckStage : Coord Digest Unit :=
  delegatedStage host invocation .healthcheck "healthcheck"
    (updateFinal (fun final => { final with xray := .pass }))

/-- The three stages of the setup delegate, or the check of what they left. -/
def setupStages : Coord Digest Unit := do
  let receipt ← current
  if stageDone receipt strictPlan then do
    let manifest ← endpointManifest invocation .installation
    raiseWhen (some (manifestFingerprint host manifest) ≠ receipt.endpointManifestFingerprint)
      ⟨"Generated endpoint manifest does not match the receipt.", 2⟩
  else do
    let (returncode, _) ← run invocation .setup
    requireStageSuccess host returncode "protected profile source/generate/strict plan"
      protectedProfileSource
    let manifest ← endpointManifest invocation .installation
    update (fun receipt => { receipt with
      endpointManifestFingerprint := some (manifestFingerprint host manifest) })
    mark protectedProfileSource .pass
    mark generate .pass
    mark strictPlan .pass
    persist host

def failAutostart (message : String) : Coord Digest Unit := do
  mark Stage.autostart .fail
  persist host
  throw (.liveInstall ⟨message, 1⟩)

def autostartStage : Coord Digest Unit := do
  let receipt ← current
  if stageDone receipt Stage.autostart then pure ()
  else do
    let (returncode, stdout) ← run invocation .autostart
    requireStageSuccess host returncode "autostart" Stage.autostart
    match stdout with
    | .undecodable | .notJson =>
        failAutostart host "Autostart returned an invalid machine-readable result."
    | .tooNested => throw (.unhandled .recursionError)
    | .notObject => throw (.unhandled .attributeError)
    | .object payload =>
        if ¬ payload.runtimeVerified then
          failAutostart host "Autostart did not return verified state."
        else do
          mark Stage.autostart .pass
          update (fun receipt => { receipt with runtimeDisposition := .executed })
          updateFinal (fun final => { final with installation := .pass, autostart := .pass })
          persist host

def runInstallationStages (runtimeMode : RuntimeMode) : Coord Digest Unit :=
  match runtimeMode with
  | .externalEvidence => acceptExternalRuntime host invocation args evidence
  | .localRouter => do
      readinessStages host invocation evidence
      bootstrapStage host invocation
      setupStages host invocation
      backupStage host invocation
      installStage host invocation
      healthcheckStage host invocation
      autostartStage host invocation

def acceptBeforeComponent : Coord Digest Unit :=
  match evidence with
  | none => pure ()
  | some document => do
      accept host document
      persist host

def componentStage : Coord Digest Unit := do
  let receipt ← current
  if stageDone receipt nativeProxyComponent then pure ()
  else match evidence with
    | none =>
        handoff host "PROXY_COMPONENT_INSPECTION_REQUIRED" [
          "Use a typed vendor operation to inspect the native Proxy client component.",
          "Return fresh owner-only routerkit.live-install.evidence.v1 evidence."]
    | some document =>
        if ¬ document.component.present then
          handoff host "PROXY_COMPONENT_INSTALL_REQUIRED" [
            "Install only the native Proxy client component through a typed vendor operation.",
            "Do not invent an ndmc component-install command or use the Web UI fallback.",
            "Resume with fresh component-change evidence in the next state epoch."]
        else do
          raiseWhen (document.checks .proxyComponent ≠ .pass)
            ⟨"Proxy component evidence did not prove readiness.", 1⟩
          update (fun receipt =>
            { receipt with rebootRequired := some document.component.rebootRequired })
          mark nativeProxyComponent .pass
          persist host

/-- The reboot has been carried out, says the evidence. -/
def proveReboot (evidence : Evidence Digest) : Coord Digest Unit := do
  raiseWhen (evidence.stateChange ≠ .reboot ∨ evidence.epoch < 1)
    ⟨"Reboot completion requires a fresh reboot state epoch.", 2⟩
  mark controlledReboot .pass
  update (fun receipt => { receipt with completedRebootEpoch := some receipt.stateEpoch })
  raiseWhen (¬ ∀ name ∈ postRebootChecks, evidence.checks name = .pass)
    ⟨"Post-reboot proof is incomplete; native mutation was not started.", 1⟩
  mark postRebootProof .pass
  persist host

/-- The last branch of the reboot stage, with what it reads of the evidence. -/
def requireReboot : Coord Digest Unit :=
  match evidence with
  | none => throw (.unhandled .typeError)
  | some document =>
      if document.rebootCompleted then pure ()
      else handoff host "CONTROLLED_REBOOT_REQUIRED" [
        "Use the typed vendor reboot operation exactly once.",
        "Resume with fresh reboot evidence in the next state epoch."]

def rebootCompleted : Option (Evidence Digest) → Option (Evidence Digest)
  | none => none
  | some document => if document.rebootCompleted then some document else none

def rebootStage : Coord Digest Unit := do
  let receipt ← current
  if stageDone receipt controlledReboot then pure ()
  else if receipt.rebootRequired ≠ some true then do
    mark controlledReboot .skipped
    mark postRebootProof .skipped
    persist host
  else match rebootCompleted evidence with
    | some document => proveReboot host document
    | none =>
        if ¬ args.authorizeReboot then
          handoff host "CONTROLLED_REBOOT_AUTHORIZATION_REQUIRED" [
            "Authorize the single controlled reboot in the installation scope."]
        else requireReboot host evidence

def componentAndReboot : Coord Digest Unit := do
  acceptBeforeComponent host evidence
  componentStage host evidence
  rebootStage host args evidence

/-- What `_local_native_stage` notes in the receipt of a verified apply. -/
def noteLocalNative (payload : DelegatePayload) : Coord Digest Unit := do
  let receipt ← current
  updateNative (fun native => { native with
    status := .pass
    writeRequired := some payload.writeRequired
    saveRequired := some payload.writeRequired
    preEpoch := some receipt.stateEpoch
    dnsRefreshRequired := payload.writeRequired })
  mark nativeProxyPolicyTransaction .pass
  updateFinal (fun final => { final with nativeRouting := .pass })

/-- `_local_native_stage` up to its `_persist`. -/
def localNativeWork : Coord Digest Unit := do
  let (planned, _) ← run invocation .nativePlan
  lift (requireSuccess planned "local ndmc native plan")
  let (applied, stdout) ← run invocation .nativeApply
  lift (requireSuccess applied "local ndmc native apply")
  match stdout with
  | .undecodable | .notJson =>
      throw (.liveInstall ⟨"Local native adapter returned invalid JSON.", 1⟩)
  | .tooNested => throw (.unhandled .recursionError)
  | .notObject => throw (.unhandled .attributeError)
  | .object payload => do
      raiseWhen (¬ payload.verified) ⟨"Local native adapter did not verify applied state.", 1⟩
      noteLocalNative payload

def localNativeStage : Coord Digest Unit := do
  localNativeWork invocation
  persist host

/-- `receipt_path.parent / "netcraze-transaction.json"`. -/
def defaultTransactionFile (receiptFile : String) : String :=
  String.ofList (receiptFile.toList.reverse.dropWhile (· ≠ '/')).reverse ++
    "netcraze-transaction.json"

def transactionPath : String :=
  args.transactionFile.getD (defaultTransactionFile args.receiptFile)

def putFile (path : String) (file : TransactionFile Digest) : Coord Digest Unit :=
  modify (fun session => { session with files := Function.update session.files path (some file) })

/-- `write_external_transaction`: the file is created exclusively, and only then
filled. -/
def writeExternalTransaction (path : String) (packet : Packet Digest) : Coord Digest Unit := do
  let session ← get
  if (session.files path).isSome then throw (.liveAdapter "Could not create the private file." 1)
  else do
    tick
    putFile path .malformed
    tick
    putFile path (.packet packet)

def loadExternalTransaction (path : String) : Coord Digest (Packet Digest) := do
  let session ← get
  match session.files path with
  | some (.packet packet) => pure packet
  | some .malformed =>
      throw (.liveAdapter "External transaction packet is not valid JSON." 1)
  | some .tooNested => throw (.unhandled .recursionError)
  | none => throw (.liveAdapter "Could not read the external transaction packet." 1)

/-- `verify_external_transaction`, of the snapshot read from the path. -/
def verifyExternal (packet : Packet Digest) (manifest : LocalEndpointManifest) (state : LiveState)
    (phase : Phase) (path : String) :
    Coord Digest (Netcraze.External.Verification Digest) := do
  let verification ← liftLive
    (Netcraze.External.verifyExternalTransaction host.payload packet manifest state phase)
  note (.verified phase packet.transactionFingerprint path)
  pure verification

/-- The path of the snapshot, as the verification saw it. -/
def resolved (path : String) : String := (invocation.resolve path).getD path

/-- From PENDING to PLANNED. -/
def planExternal (manifest : LocalEndpointManifest) : Coord Digest Unit :=
  match args.externalPreSnapshotFile with
  | none =>
      handoff host "EXTERNAL_NATIVE_PRE_STATE_REQUIRED" [
        "Retrieve one fresh running configuration through the official transport.",
        "Store it only in an owner-only protected file."]
  | some preSnapshot => do
      let state ← loadSnapshot invocation .pre
      let packet ← liftLive (Netcraze.External.buildExternalTransaction host.payload manifest state
        args.selectedDeviceMac args.profileSlot args.moveDevice args.hardwareContract)
      writeExternalTransaction (transactionPath args) packet
      let verification ←
        verifyExternal host packet manifest state .pre (resolved invocation preSnapshot)
      raiseWhen (¬ verification.verified) ⟨"External native pre-state was not verified.", 1⟩
      let receipt ← current
      updateNative (fun native => { native with
        fingerprint := some packet.transactionFingerprint
        status := .planned
        writeRequired := some packet.writeRequired
        saveRequired := some packet.saveRequired
        preEpoch := some receipt.stateEpoch
        dnsRefreshRequired := packet.writeRequired })
      let (_, fingerprint) ← pathFingerprint host invocation preSnapshot
      updateNative (fun native => { native with preSnapshotPathFingerprint := some fingerprint })
      persist host

/-- From PLANNED to RUNNING_VERIFIED. -/
def verifyRunning (manifest : LocalEndpointManifest) (packet : Packet Digest) :
    Coord Digest Unit := do
  let receipt ← current
  let native := receipt.nativeTransaction
  match args.externalPostSnapshotFile with
  | none =>
      if native.writeRequired = some true then
        handoff host "EXTERNAL_NATIVE_TRANSACTION_DELIVERY_REQUIRED" [
          "Execute only the packet commands in order.",
          "Retrieve a fresh running-state snapshot; transport success is not verification.",
          "Resume with --external-post-snapshot-file."]
      else
        handoff host "EXTERNAL_NATIVE_NOOP_READBACK_REQUIRED" [
          "Execute no commands and do not save.",
          "Retrieve a fresh running-state snapshot; transport success is not verification.",
          "Resume with --external-post-snapshot-file."]
  | some postSnapshot => do
      let (path, fingerprint) ← pathFingerprint host invocation postSnapshot
      raiseWhen (some fingerprint = native.preSnapshotPathFingerprint)
        ⟨"External running-state verification requires a fresh snapshot file, not the " ++
          "pre-state path.", 2⟩
      let state ← loadSnapshot invocation .running
      let verification ← verifyExternal host packet manifest state .running path
      raiseWhen (¬ verification.verified) ⟨"External native running state was not verified.", 1⟩
      updateNative (fun native => { native with
        status := .runningVerified
        runningSnapshotPathFingerprint := some fingerprint })
      persist host

def verifySaved (manifest : LocalEndpointManifest) (packet : Packet Digest) :
    Coord Digest Unit := do
  let receipt ← current
  let native := receipt.nativeTransaction
  match args.externalSavedSnapshotFile with
  | none =>
      handoff host "EXTERNAL_NATIVE_SAVE_REQUIRED" [
        "Execute only the packet save_command authorized by running-state verification.",
        "Retrieve fresh saved/startup state when available.",
        "Resume with --external-saved-snapshot-file."]
  | some savedSnapshot => do
      let (path, fingerprint) ← pathFingerprint host invocation savedSnapshot
      raiseWhen (some fingerprint = native.preSnapshotPathFingerprint ∨
          some fingerprint = native.runningSnapshotPathFingerprint)
        ⟨"External saved-state verification requires a fresh snapshot file.", 2⟩
      let saved ← loadSnapshot invocation .saved
      let verification ← verifyExternal host packet manifest saved .saved path
      raiseWhen (¬ verification.savedStateVerified)
        ⟨"External native saved state was not verified.", 1⟩

/-- The status of the native transaction decides which step is due. -/
def whenNative (due : NativeTransaction Digest → Bool) (step : Coord Digest Unit) :
    Coord Digest Unit := do
  let receipt ← current
  if due receipt.nativeTransaction then step else pure ()

def completeExternal : Coord Digest Unit := do
  updateNative (fun native => { native with status := .pass })
  mark nativeProxyPolicyTransaction .pass
  updateFinal (fun final => { final with nativeRouting := .pass })

/-- `_external_native_stage` up to its last `_persist`. -/
def externalNativeWork : Coord Digest Unit := do
  let manifest ← endpointManifest invocation .nativeStage
  whenNative (fun native => native.status = .pending)
    (planExternal host invocation args manifest.val)
  let packet ← loadExternalTransaction (transactionPath args)
  let _ ← liftLive
    (Netcraze.External.validateExternalTransaction host.payload packet manifest.val)
  let receipt ← current
  raiseWhen (some packet.transactionFingerprint ≠ receipt.nativeTransaction.fingerprint)
    ⟨"External transaction does not match the live-install receipt.", 2⟩
  whenNative (fun native => native.status = .planned)
    (verifyRunning host invocation args manifest.val packet)
  whenNative (fun native => native.status = .runningVerified && native.saveRequired = some true)
    (verifySaved host invocation args manifest.val packet)
  completeExternal

def externalNativeStage : Coord Digest Unit := do
  externalNativeWork host invocation args
  persist host

/-- The errors the native stage records before it raises them again. -/
def Failure.recordable : Failure → Bool
  | .liveInstall _ | .liveAdapter _ _ | .netcrazePlan _ => true
  | _ => false

def recordFailure (failure : Failure) : Coord Digest Unit :=
  if failure.recordable then do
    mark nativeProxyPolicyTransaction .fail
    persist host
    throw failure
  else throw failure

def transportStage : Coord Digest Unit :=
  match args.transport with
  | .localNdmc => localNativeStage host invocation
  | .external => externalNativeStage host invocation args

def nativeStage : Coord Digest Unit := do
  let receipt ← current
  if stageDone receipt nativeProxyPolicyTransaction then pure ()
  else tryCatchThe Failure (transportStage host invocation args) (recordFailure host)

/-- `native["dns_refresh_required"] and evidence["epoch"] <= native["pre_epoch"]`. -/
def refreshMissing (native : NativeTransaction Digest) (evidence : Evidence Digest) :
    Coord Digest Bool :=
  if native.dnsRefreshRequired then
    match native.preEpoch with
    | some preEpoch => pure (evidence.epoch ≤ preEpoch)
    | none => throw (.unhandled .typeError)
  else pure false

def passDnsGate (evidence : Evidence Digest) : Coord Digest Unit := do
  let session ← get
  emit (.dnsPassed evidence.epoch session.memory.history)
  mark protectedDnsGate .pass
  update (fun receipt => { receipt with dnsGateStatus := .pass })
  updateFinal (fun final => { final with dns := .pass })
  persist host

def dnsStage : Coord Digest Unit := do
  let receipt ← current
  if stageDone receipt protectedDnsGate then pure ()
  else match evidence with
    | none =>
        handoff host "PROTECTED_DNS_EVIDENCE_REQUIRED" [
          "Return fresh policy-aware protected DNS evidence."]
    | some document => do
        let missing ← refreshMissing receipt.nativeTransaction document
        if missing then
          handoff host "PROTECTED_DNS_POST_NATIVE_EVIDENCE_REQUIRED" [
            "Return fresh DNS evidence after the native policy state change."]
        else
          let (accepted, reason) := dnsGate document
          if ¬ accepted then
            handoff host "PROTECTED_DNS_DELTA_REQUIRED" [
              reason ++ ".",
              "Reuse an existing protected path when possible.",
              "A PPPoE-only binding absent from the Proxy policy is insufficient.",
              "Any/unbound is the known NC-3812/5.1.5 compatible form; ip global is not a DNS fix."]
          else passDnsGate host document

def clientStage : Coord Digest Unit := do
  let receipt ← current
  if stageDone receipt selectedClientAcceptance then pure ()
  else if ¬ evidence.any clientAcceptanceGate then
    handoff host "CLIENT_FUNCTIONAL_VERIFICATION_REQUIRED" [
      "Prove the explicitly selected client is assigned to the intended RouterKit policy.",
      "Prove real domain DNS resolution through that policy.",
      "Prove real domain HTTPS through that policy.",
      "Return bounded owner-only evidence; IP-only curl is insufficient."]
  else do
    mark selectedClientAcceptance .pass
    updateFinal (fun final => { final with clientDomainHttps := .pass })
    persist host

def finalStage : Coord Digest Unit := do
  mark finalResult .pass
  persist host

def nativeDnsClientStages : Coord Digest Unit := do
  nativeStage host invocation args
  dnsStage host evidence
  clientStage host evidence
  finalStage host

end Coordinator

end RouterKit.LiveInstall
