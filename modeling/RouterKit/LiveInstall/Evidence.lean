import RouterKit.LiveInstall.Receipt
import Mathlib.Data.List.Infix

/-!
The evidence documents an operator returns, and what accepting one does to the
receipt: evidence of the next state epoch may put stages back to pending.
-/

namespace RouterKit.LiveInstall

open RouterKit.Lib.Checked
open Stage

def evidenceSchema : String := "routerkit.live-install.evidence.v1"

inductive StateChange where
  | none
  | component
  | reboot
  | native
  | opt
  | routerkitXray
  | contradictory
deriving DecidableEq, Repr

inductive CheckName where
  | management
  | wanPppoe
  | lan
  | wifi
  | usbExt4Opt
  | entware
  | xray
  | loopbackListeners
  | proxyComponent
deriving DecidableEq, Repr

def postRebootChecks : List CheckName :=
  [.management, .wanPppoe, .lan, .wifi, .usbExt4Opt, .entware, .xray, .loopbackListeners]

inductive CheckStatus where
  | pass
  | fail
  | unknown
deriving DecidableEq, Repr

inductive RuntimeTarget where
  | router
  | unknown
deriving DecidableEq, Repr

structure RuntimeEvidence (Digest : Type) where
  target : RuntimeTarget
  optReady : Bool
  entwareReady : Bool
  xrayRelease : Option String
  xrayRunning : Bool
  loopbackListenersVerified : Bool
  autostartVerified : Bool
  rebootRecoveryProven : Bool
  endpointManifestVerified : Bool
  endpointManifestFingerprint : Option Digest
deriving DecidableEq

structure ComponentEvidence where
  present : Bool
  installRequired : Bool
  rebootRequired : Bool
deriving DecidableEq, Repr

inductive DnsAvailability where
  | any
  | unbound
  | interfaces
  | unknown
deriving DecidableEq, Repr

structure DnsEvidence where
  isProtected : Bool
  availability : DnsAvailability
  boundInterfaces : List String
  policyInterfaces : List String
  verified : Bool
deriving DecidableEq, Repr

inductive ProbeTransport where
  | none
  | localProbe
  | externalAgent
deriving DecidableEq, Repr

structure ClientEvidence where
  selectedAssignment : Bool
  domainDns : Bool
  domainHttps : Bool
  probeTransport : ProbeTransport
deriving DecidableEq, Repr

structure Evidence (Digest : Type) where
  schema : String
  hardwareContract : String
  epoch : Nat
  stateChange : StateChange
  checks : CheckName → CheckStatus
  runtime : RuntimeEvidence Digest
  component : ComponentEvidence
  rebootCompleted : Bool
  dns : DnsEvidence
  client : ClientEvidence

def prohibitedTextMarkers : List String :=
  ["vless://", "private_key", "publickey", "shortid", "subscription", "password",
    "running-config", "startup-config"]

/-- `SAFE_INTERFACE_RE`. -/
def safeInterface (name : String) : Bool :=
  match name.toList with
  | [] => false
  | first :: rest =>
      first.isAlpha && rest.length ≤ 63 &&
        rest.all (fun c => c.isAlphanum || c ∈ ['_', '.', ':', '-'])

/-- `RELEASE_RE`: three decimal numbers. -/
def safeRelease (release : String) : Bool :=
  let parts := release.toList.splitOn '.'
  parts.length = 3 && parts.all (fun part => !part.isEmpty && part.all Char.isDigit)

/-- A marker within the text. In a document whose names and words are fixed, only
the interface names can hold one. -/
def prohibited (text : String) : Bool :=
  prohibitedTextMarkers.any (fun marker => marker.toList <:+: text.toList.map Char.toLower)

def checkInterfaces (interfaces : List String) : Except LiveInstallError Unit := do
  raiseIf (interfaces.length > 32) ⟨"Live-install DNS interface evidence is malformed.", 2⟩
  raiseIf (¬ interfaces.all safeInterface)
    ⟨"Live-install DNS interface evidence is unsafe.", 2⟩
  raiseIf (¬ interfaces.Nodup) ⟨"Live-install DNS interface evidence contains duplicates.", 2⟩

/-- Errors of classes that `main` does not handle. -/
inductive Unhandled where
  | typeError
  | attributeError
  | unicodeDecodeError
  | valueError
  | recursionError
  | runtimeError
  | keyError
  | fileNotFoundError
  | deviceDiscoveryError
deriving DecidableEq, Repr

/-- What reading an input raises: an error of the reader's own, or one it lets out. -/
inductive ReadError (Refusal : Type) where
  | refused (error : Refusal)
  | raises (error : Unhandled)
deriving DecidableEq, Repr

section Acceptance

variable {Digest : Type}

def validateEvidence (evidence : Evidence Digest) : Except LiveInstallError Unit := do
  raiseIf (evidence.schema ≠ evidenceSchema)
    ⟨"Live-install evidence schema is unsupported.", 2⟩
  raiseIf (evidence.hardwareContract ≠ defaultHardwareContract)
    ⟨"Live-install evidence hardware contract is unsupported.", 2⟩
  raiseIf (evidence.runtime.xrayRelease.any (fun release => !safeRelease release))
    ⟨"Live-install runtime Xray release evidence is invalid.", 2⟩
  raiseIf (evidence.component.present ∧ evidence.component.installRequired)
    ⟨"Live-install component evidence is inconsistent.", 2⟩
  checkInterfaces evidence.dns.boundInterfaces
  checkInterfaces evidence.dns.policyInterfaces
  raiseIf ((evidence.dns.boundInterfaces ++ evidence.dns.policyInterfaces).any prohibited)
    ⟨"Live-install evidence contains a prohibited secret/config marker.", 2⟩

/-- What `--evidence-file` names: no file at all, one that cannot be read, one
that is not JSON, nested deeper than `json.loads` goes or not of the schema's shape,
or a document. -/
inductive EvidenceFile (Digest : Type) where
  | absent
  | unreadable (message : String)
  | notJson
  | tooNested
  | malformed (message : String)
  | document (evidence : Evidence Digest)

def loadEvidence :
    EvidenceFile Digest → Except (ReadError LiveInstallError) (Option (Evidence Digest))
  | .absent => pure none
  | .unreadable message => .error (.refused ⟨message, 2⟩)
  | .notJson => .error (.refused ⟨"Live-install evidence is not valid JSON.", 2⟩)
  | .tooNested => .error (.raises .recursionError)
  | .malformed message => .error (.refused ⟨message, 2⟩)
  | .document evidence => do
      (validateEvidence evidence).mapError .refused
      pure (some evidence)

/-- Where evidence of the next epoch resets the receipt from, if it does. A
native change the receipt itself announced is no reason to reset. -/
def discoveryReset (receipt : Receipt Digest) (evidence : Evidence Digest) : Option Stage :=
  let native := receipt.nativeTransaction
  let expectedRefresh := native.status = .pass && native.dnsRefreshRequired &&
    native.preEpoch.any (fun preEpoch => evidence.epoch = preEpoch + 1)
  match evidence.stateChange with
  | .none => none
  | .component => if stageDone receipt nativeProxyComponent then some nativeProxyComponent else none
  | .reboot => if stageDone receipt controlledReboot then some controlledReboot else none
  | .opt => some usbExt4EntwareReadiness
  | .routerkitXray => some pinnedXrayBootstrap
  | .contradictory => some networkPreflight
  | .native =>
      if !expectedRefresh && stageDone receipt nativeProxyPolicyTransaction then
        some nativeProxyPolicyTransaction
      else none

/-- The receipt in the epoch of the evidence. -/
def enterEpoch (receipt : Receipt Digest) (evidence : Evidence Digest) : Receipt Digest :=
  let entered := { receipt with stateEpoch := evidence.epoch }
  match discoveryReset receipt evidence with
  | none => entered
  | some first =>
      let reset := resetFromStage entered first
      if evidence.stateChange = .reboot then { reset with rebootRequired := some true }
      else reset

variable [DecidableEq Digest] (evidenceFingerprint : Evidence Digest → Digest)

def acceptDiscoveryEvidence (receipt : Receipt Digest) (evidence : Evidence Digest) :
    Except LiveInstallError (Receipt Digest) :=
  let fingerprint := evidenceFingerprint evidence
  let discovery : Discovery Digest := ⟨some evidence.epoch, some fingerprint⟩
  if receipt.discovery.epoch = some evidence.epoch then do
    raiseIf (receipt.discovery.evidenceFingerprint ≠ some fingerprint)
      ⟨"Contradictory discovery evidence was supplied in one state epoch.", 2⟩
    pure receipt
  else if evidence.epoch = receipt.stateEpoch then do
    raiseIf (evidence.stateChange ≠ .none)
      ⟨"Same-epoch evidence cannot claim a state change.", 2⟩
    pure { receipt with discovery }
  else if evidence.epoch = receipt.stateEpoch + 1 then do
    raiseIf (evidence.stateChange = .none)
      ⟨"A new state epoch requires an allowed state-change reason.", 2⟩
    pure { enterEpoch receipt evidence with discovery }
  else .error ⟨"Live-install evidence epoch is stale or skips an epoch.", 2⟩

end Acceptance

section Gates

variable {Digest : Type}

/-- Whether the DNS path is accepted, and what to say. -/
def dnsGate (evidence : Evidence Digest) : Bool × String :=
  let dns := evidence.dns
  if !dns.isProtected || !dns.verified then
    (false, "no verified protected DNS path is available to the selected policy")
  else match dns.availability with
    | .any | .unbound => (true, "existing protected DNS path is reusable as Any/unbound")
    | .interfaces =>
        if dns.boundInterfaces.any (fun bound => bound ∈ dns.policyInterfaces) then
          (true, "existing protected DNS path is reachable through the selected policy")
        else
          (false, "protected DNS is bound only to interfaces absent from the selected policy")
    | .unknown => (false, "protected DNS availability is unknown")

def clientAcceptanceGate (evidence : Evidence Digest) : Bool :=
  let client := evidence.client
  client.selectedAssignment && client.domainDns && client.domainHttps &&
    client.probeTransport ≠ .none

def semanticRelease (artifact : Artifact Digest) : String :=
  match artifact.release.toList with
  | 'v' :: rest => String.ofList rest
  | _ => artifact.release

def runtimeEvidenceIsSufficient [DecidableEq Digest] (evidence : Option (Evidence Digest))
    (artifact : Artifact Digest) (manifestFingerprint : Digest) (requireRebootRecovery : Bool) :
    Bool :=
  match evidence with
  | none => false
  | some evidence =>
      let runtime := evidence.runtime
      postRebootChecks.all (fun name => evidence.checks name = .pass) &&
        (runtime.target = .router && runtime.optReady && runtime.entwareReady &&
          runtime.xrayRelease = some (semanticRelease artifact) && runtime.xrayRunning &&
          runtime.loopbackListenersVerified && runtime.autostartVerified &&
          (runtime.rebootRecoveryProven || !requireRebootRecovery) &&
          runtime.endpointManifestVerified &&
          runtime.endpointManifestFingerprint = some manifestFingerprint)

end Gates

end RouterKit.LiveInstall
