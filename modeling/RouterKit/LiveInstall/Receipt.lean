import Mathlib.Data.List.Basic
import Mathlib.Logic.Function.Basic
import RouterKit.Lib.Checked
import RouterKit.Netcraze.LiveState

/-!
The receipt of a live install: the state machine's record of its stages, its
epoch and what the stages have established. A receipt is read here after its
JSON shape, the spelling of its hashes and the names of its statuses have been
checked, so a field has the type those checks leave.
-/

namespace RouterKit.LiveInstall

open RouterKit.Lib.Checked

def receiptSchema : String := "routerkit.live-install.v1"
def defaultHardwareContract : String := Netcraze.supportedContract
def rollbackUnproven : Int := 3

/-- `LiveInstallError` without its handoffs. -/
structure LiveInstallError where
  message : String
  exitCode : Int := 1
deriving DecidableEq, Repr

inductive Transport where
  | localNdmc
  | external
deriving DecidableEq, Repr

inductive RuntimeMode where
  | localRouter
  | externalEvidence
deriving DecidableEq, Repr

inductive RuntimeDisposition where
  | pending
  | executed
  | adopted
  | externalExecuted
deriving DecidableEq, Repr

inductive StageStatus where
  | pending
  | pass
  | fail
  | skipped
deriving DecidableEq, Repr

inductive NativeStatus where
  | pending
  | planned
  | runningVerified
  | pass
deriving DecidableEq, Repr

inductive GateStatus where
  | pending
  | pass
deriving DecidableEq, Repr

/-- `STAGE_ORDER`, in order. -/
inductive Stage where
  | networkPreflight
  | usbExt4EntwareReadiness
  | pinnedXrayBootstrap
  | protectedProfileSource
  | generate
  | strictPlan
  | backup
  | install
  | healthcheck
  | autostart
  | nativeProxyComponent
  | controlledReboot
  | postRebootProof
  | nativeProxyPolicyTransaction
  | protectedDnsGate
  | selectedClientAcceptance
  | finalResult
deriving DecidableEq, Repr

open Stage

def installationStages : List Stage :=
  [networkPreflight, usbExt4EntwareReadiness, pinnedXrayBootstrap, protectedProfileSource,
    generate, strictPlan, backup, install, healthcheck, autostart]

def stageOrder : List Stage :=
  installationStages ++ [nativeProxyComponent, controlledReboot, postRebootProof,
    nativeProxyPolicyTransaction, protectedDnsGate, selectedClientAcceptance, finalResult]

/-- `STAGE_ORDER.index`. -/
def Stage.rank : Stage → Nat
  | networkPreflight => 0
  | usbExt4EntwareReadiness => 1
  | pinnedXrayBootstrap => 2
  | protectedProfileSource => 3
  | generate => 4
  | strictPlan => 5
  | backup => 6
  | install => 7
  | healthcheck => 8
  | autostart => 9
  | nativeProxyComponent => 10
  | controlledReboot => 11
  | postRebootProof => 12
  | nativeProxyPolicyTransaction => 13
  | protectedDnsGate => 14
  | selectedClientAcceptance => 15
  | finalResult => 16

/-- What the bootstrap manifest's validator hands on: neither name is empty. -/
structure Artifact (Digest : Type) where
  artifactKey : String
  release : String
  archiveSha256 : Digest
  key_ne : artifactKey ≠ ""
  release_ne : release ≠ ""
deriving DecidableEq

structure Intent (Digest : Type) where
  hardwareContract : String
  transportMode : Transport
  runtimeMode : RuntimeMode
  adoptExistingRuntime : Bool
  artifact : Artifact Digest
  selectedDeviceFingerprint : Digest
  selectedProfileSlot : Nat
  moveDeviceAuthorized : Bool
  controlledRebootAuthorized : Bool
deriving DecidableEq

structure StageRecord where
  status : StageStatus := .pending
  epoch : Option Nat := none
deriving DecidableEq, Repr

structure Discovery (Digest : Type) where
  epoch : Option Nat := none
  evidenceFingerprint : Option Digest := none
deriving DecidableEq, Repr

structure NativeTransaction (Digest : Type) where
  fingerprint : Option Digest := none
  status : NativeStatus := .pending
  writeRequired : Option Bool := none
  saveRequired : Option Bool := none
  preEpoch : Option Nat := none
  dnsRefreshRequired : Bool := false
  preSnapshotPathFingerprint : Option Digest := none
  runningSnapshotPathFingerprint : Option Digest := none
deriving DecidableEq, Repr

structure FinalVerification where
  installation : GateStatus := .pending
  xray : GateStatus := .pending
  autostart : GateStatus := .pending
  nativeRouting : GateStatus := .pending
  dns : GateStatus := .pending
  clientDomainHttps : GateStatus := .pending
deriving DecidableEq, Repr

def FinalVerification.allPass (final : FinalVerification) : Prop :=
  final.installation = .pass ∧ final.xray = .pass ∧ final.autostart = .pass ∧
    final.nativeRouting = .pass ∧ final.dns = .pass ∧ final.clientDomainHttps = .pass

instance (final : FinalVerification) : Decidable final.allPass := by
  unfold FinalVerification.allPass
  infer_instance

structure Receipt (Digest : Type) where
  schema : String
  intentFingerprint : Digest
  hardwareContract : String
  transportMode : Transport
  runtimeMode : RuntimeMode
  adoptExistingRuntime : Bool
  runtimeDisposition : RuntimeDisposition
  runtimeEvidenceFingerprint : Option Digest
  artifact : Artifact Digest
  selectedDeviceFingerprint : Digest
  selectedProfileSlot : Nat
  moveDeviceAuthorized : Bool
  controlledRebootAuthorized : Bool
  endpointManifestFingerprint : Option Digest
  stateEpoch : Nat
  discovery : Discovery Digest
  rebootRequired : Option Bool
  completedRebootEpoch : Option Nat
  nativeTransaction : NativeTransaction Digest
  dnsGateStatus : GateStatus
  finalVerification : FinalVerification
  stages : Stage → StageRecord

namespace Receipt

variable {Digest : Type} (receipt : Receipt Digest)

def status (stage : Stage) : StageStatus := (receipt.stages stage).status

/-- `receipt_intent`, and `upgraded_intent`. -/
def intent : Intent Digest where
  hardwareContract := receipt.hardwareContract
  transportMode := receipt.transportMode
  runtimeMode := receipt.runtimeMode
  adoptExistingRuntime := receipt.adoptExistingRuntime
  artifact := receipt.artifact
  selectedDeviceFingerprint := receipt.selectedDeviceFingerprint
  selectedProfileSlot := receipt.selectedProfileSlot
  moveDeviceAuthorized := receipt.moveDeviceAuthorized
  controlledRebootAuthorized := receipt.controlledRebootAuthorized

end Receipt

section Operations

variable {Digest : Type}

def markStage (receipt : Receipt Digest) (stage : Stage) (status : StageStatus) :
    Receipt Digest :=
  { receipt with
    stages := Function.update receipt.stages stage ⟨status, some receipt.stateEpoch⟩ }

def stageDone (receipt : Receipt Digest) (stage : Stage) : Bool :=
  receipt.status stage = .pass || receipt.status stage = .skipped

def emptyNativeTransaction : NativeTransaction Digest := {}

/-- `PASS if condition else PENDING`. -/
def gate (condition : Bool) : GateStatus := if condition then .pass else .pending

def syncFinalVerification (receipt : Receipt Digest) : Receipt Digest :=
  { receipt with
    finalVerification := {
      installation := gate (installationStages.all (stageDone receipt))
      xray := gate (stageDone receipt healthcheck)
      autostart := gate (stageDone receipt Stage.autostart)
      nativeRouting := gate (stageDone receipt nativeProxyPolicyTransaction)
      dns := gate (stageDone receipt protectedDnsGate)
      clientDomainHttps := gate (stageDone receipt selectedClientAcceptance) } }

/-- `_reset_from_stage` up to its last call. -/
def forgetFromStage (receipt : Receipt Digest) (firstStage : Stage) : Receipt Digest :=
  let start := firstStage.rank
  { receipt with
    stages := fun stage => if start ≤ stage.rank then {} else receipt.stages stage
    endpointManifestFingerprint :=
      if start ≤ generate.rank then none else receipt.endpointManifestFingerprint
    runtimeDisposition :=
      if start ≤ Stage.autostart.rank then .pending else receipt.runtimeDisposition
    runtimeEvidenceFingerprint :=
      if start ≤ Stage.autostart.rank then none else receipt.runtimeEvidenceFingerprint
    rebootRequired := if start ≤ nativeProxyComponent.rank then none else receipt.rebootRequired
    completedRebootEpoch :=
      if start ≤ controlledReboot.rank then none else receipt.completedRebootEpoch
    nativeTransaction :=
      if start ≤ nativeProxyPolicyTransaction.rank then emptyNativeTransaction
      else receipt.nativeTransaction
    dnsGateStatus :=
      if start ≤ protectedDnsGate.rank then .pending else receipt.dnsGateStatus }

def resetFromStage (receipt : Receipt Digest) (firstStage : Stage) : Receipt Digest :=
  syncFinalVerification (forgetFromStage receipt firstStage)

end Operations

section Validation

variable {Digest : Type} [DecidableEq Digest] (intentFingerprint : Intent Digest → Digest)

def initialReceipt (intent : Intent Digest) : Receipt Digest where
  schema := receiptSchema
  intentFingerprint := intentFingerprint intent
  hardwareContract := intent.hardwareContract
  transportMode := intent.transportMode
  runtimeMode := intent.runtimeMode
  adoptExistingRuntime := intent.adoptExistingRuntime
  runtimeDisposition := .pending
  runtimeEvidenceFingerprint := none
  artifact := intent.artifact
  selectedDeviceFingerprint := intent.selectedDeviceFingerprint
  selectedProfileSlot := intent.selectedProfileSlot
  moveDeviceAuthorized := intent.moveDeviceAuthorized
  controlledRebootAuthorized := intent.controlledRebootAuthorized
  endpointManifestFingerprint := none
  stateEpoch := 0
  discovery := {}
  rebootRequired := none
  completedRebootEpoch := none
  nativeTransaction := emptyNativeTransaction
  dnsGateStatus := .pending
  finalVerification := {}
  stages := fun _ => {}

/-- The stage-order loop; the flag is `incomplete_seen`. -/
def checkStageOrder (receipt : Receipt Digest) : Bool → List Stage → Except LiveInstallError Unit
  | _, [] => pure ()
  | incompleteSeen, stage :: rest =>
      if stageDone receipt stage then do
        raiseIf incompleteSeen
          ⟨"Live-install receipt stage order is inconsistent.", 2⟩
        checkStageOrder receipt incompleteSeen rest
      else checkStageOrder receipt true rest

/-- `expected_adopted`. -/
def expectedAdopted : List (Stage × StageStatus) :=
  [(networkPreflight, .pass), (usbExt4EntwareReadiness, .pass), (pinnedXrayBootstrap, .skipped),
    (protectedProfileSource, .skipped), (generate, .skipped), (strictPlan, .skipped),
    (backup, .skipped), (install, .skipped), (healthcheck, .pass), (Stage.autostart, .pass)]

/-- `expected_final`. -/
def expectedFinal (receipt : Receipt Digest) : FinalVerification where
  installation := gate (installationStages.all (stageDone receipt))
  xray := gate (stageDone receipt healthcheck)
  autostart := gate (stageDone receipt Stage.autostart)
  nativeRouting := gate (receipt.status nativeProxyPolicyTransaction = .pass)
  dns := gate (receipt.status protectedDnsGate = .pass)
  clientDomainHttps := gate (receipt.status selectedClientAcceptance = .pass)

def validateRuntimeDisposition (receipt : Receipt Digest) : Except LiveInstallError Unit := do
  let evidence := receipt.runtimeEvidenceFingerprint
  raiseIf (receipt.runtimeDisposition = .executed ∧
      (receipt.runtimeMode ≠ .localRouter ∨ evidence ≠ none))
    ⟨"Executed runtime receipt state is inconsistent.", 2⟩
  raiseIf (receipt.runtimeDisposition = .adopted ∧
      (receipt.runtimeMode ≠ .externalEvidence ∨ ¬ receipt.adoptExistingRuntime ∨
        evidence = none))
    ⟨"Adopted runtime receipt state is inconsistent.", 2⟩
  raiseIf (receipt.runtimeDisposition = .externalExecuted ∧
      (receipt.runtimeMode ≠ .externalEvidence ∨ receipt.adoptExistingRuntime ∨
        evidence = none))
    ⟨"External runtime receipt state is inconsistent.", 2⟩

/-- The rules tying the runtime disposition to the installation stages. -/
def validateRuntimeStages (receipt : Receipt Digest) : Except LiveInstallError Unit := do
  raiseIf (receipt.runtimeDisposition = .pending ∧ installationStages.all (stageDone receipt))
    ⟨"Live-install receipt runtime disposition is incomplete.", 2⟩
  raiseIf (receipt.runtimeDisposition = .executed ∧
      ¬ ∀ stage ∈ installationStages, receipt.status stage = .pass)
    ⟨"Executed runtime stage semantics are inconsistent.", 2⟩
  raiseIf (receipt.runtimeDisposition = .externalExecuted ∧
      ¬ ∀ stage ∈ installationStages, receipt.status stage = .pass)
    ⟨"External runtime stage semantics are inconsistent.", 2⟩
  raiseIf (receipt.runtimeDisposition = .adopted ∧
      ¬ ∀ entry ∈ expectedAdopted, receipt.status entry.1 = entry.2)
    ⟨"Adopted runtime stage semantics are inconsistent.", 2⟩

/-- The rules on the stages after the installation. -/
def validateLaterStages (receipt : Receipt Digest) : Except LiveInstallError Unit := do
  raiseIf (receipt.status nativeProxyComponent = .pass ∧ receipt.rebootRequired = none)
    ⟨"Live-install receipt is missing the component reboot decision.", 2⟩
  raiseIf (receipt.status controlledReboot = .skipped ∧
      receipt.status postRebootProof ≠ .pending ∧ receipt.status postRebootProof ≠ .skipped)
    ⟨"Live-install skipped-reboot state is inconsistent.", 2⟩
  raiseIf (receipt.status controlledReboot = .pass ∧ receipt.completedRebootEpoch = none)
    ⟨"Live-install receipt is missing its completed reboot epoch.", 2⟩
  raiseIf (¬ (receipt.status nativeProxyPolicyTransaction = .pass ↔
      receipt.nativeTransaction.status = .pass))
    ⟨"Live-install native transaction state is inconsistent.", 2⟩
  raiseIf (¬ (receipt.status protectedDnsGate = .pass ↔ receipt.dnsGateStatus = .pass))
    ⟨"Live-install DNS state is inconsistent.", 2⟩
  raiseIf (receipt.finalVerification ≠ expectedFinal receipt)
    ⟨"Live-install final verification state is inconsistent.", 2⟩
  raiseIf (receipt.status finalResult = .pass ∧ ¬ receipt.finalVerification.allPass)
    ⟨"Live-install final PASS is inconsistent.", 2⟩

def validateReceipt (receipt : Receipt Digest) : Except LiveInstallError Unit := do
  raiseIf (receipt.schema ≠ receiptSchema) ⟨"Live-install receipt schema is unsupported.", 2⟩
  raiseIf (receipt.hardwareContract ≠ defaultHardwareContract)
    ⟨"Live-install receipt hardware contract is unsupported.", 2⟩
  validateRuntimeDisposition receipt
  raiseIf (receipt.selectedProfileSlot ∉ [1, 2, 3])
    ⟨"Live-install receipt profile slot is invalid.", 2⟩
  raiseIf (¬ (receipt.discovery.epoch = none ↔ receipt.discovery.evidenceFingerprint = none))
    ⟨"Live-install receipt discovery state is inconsistent.", 2⟩
  raiseIf (receipt.completedRebootEpoch = some 0) ⟨"Completed reboot epoch is invalid.", 2⟩
  checkStageOrder receipt false stageOrder
  raiseIf (stageDone receipt strictPlan ∧ receipt.endpointManifestFingerprint = none)
    ⟨"Live-install receipt is missing endpoint-manifest identity.", 2⟩
  validateRuntimeStages receipt
  validateLaterStages receipt
  raiseIf (receipt.intentFingerprint ≠ intentFingerprint receipt.intent)
    ⟨"Live-install receipt intent integrity check failed.", 2⟩

/-- The fields a resume may not change. -/
def sameImmutable (receipt : Receipt Digest) (intent : Intent Digest) : Prop :=
  receipt.hardwareContract = intent.hardwareContract ∧
    receipt.transportMode = intent.transportMode ∧ receipt.runtimeMode = intent.runtimeMode ∧
    receipt.adoptExistingRuntime = intent.adoptExistingRuntime ∧
    receipt.artifact = intent.artifact ∧
    receipt.selectedDeviceFingerprint = intent.selectedDeviceFingerprint ∧
    receipt.selectedProfileSlot = intent.selectedProfileSlot

instance (receipt : Receipt Digest) (intent : Intent Digest) :
    Decidable (sameImmutable receipt intent) := by
  unfold sameImmutable
  infer_instance

/-- The receipt to go on with, and whether it has to be written again. -/
def validateIntentCompatible (receipt : Receipt Digest) (intent : Intent Digest) :
    Except LiveInstallError (Receipt Digest × Bool) :=
  let stale : LiveInstallError := ⟨"Stale or incompatible live-install receipt was rejected.", 2⟩
  let dropped : LiveInstallError :=
    ⟨"Live-install resume cannot silently drop prior authority.", 2⟩
  if receipt.intentFingerprint = intentFingerprint intent then pure (receipt, false)
  else do
    raiseIf (¬ sameImmutable receipt intent) stale
    raiseIf (receipt.moveDeviceAuthorized ∧ ¬ intent.moveDeviceAuthorized) dropped
    raiseIf (receipt.controlledRebootAuthorized ∧ ¬ intent.controlledRebootAuthorized) dropped
    raiseIf (receipt.moveDeviceAuthorized = intent.moveDeviceAuthorized ∧
      receipt.controlledRebootAuthorized = intent.controlledRebootAuthorized) stale
    let widened : Receipt Digest := { receipt with
      moveDeviceAuthorized := intent.moveDeviceAuthorized
      controlledRebootAuthorized := intent.controlledRebootAuthorized }
    let upgraded : Receipt Digest :=
      { widened with intentFingerprint := intentFingerprint widened.intent }
    validateReceipt intentFingerprint upgraded
    pure (upgraded, true)

end Validation

end RouterKit.LiveInstall
