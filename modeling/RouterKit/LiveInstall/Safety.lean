import RouterKit.LiveInstall.Runs

/-!
What every run guarantees: which receipts are handed over, in which order
delegates are launched, on which evidence the DNS gate passes, and what a
completed external transaction stands for.
-/

namespace RouterKit.LiveInstall

open RouterKit.Lib.Checked RouterKit.Lib.Programs
open RouterKit.Netcraze (LiveState LocalProxyProfile emptyState sampleManifest
  sampleManifest_valid sampleMac samplePlan)
open RouterKit.Netcraze.External (Payload Phase StatePayload)
open Stage

/-- Fingerprints that tell what they are taken of apart. -/
inductive SampleDigest where
  | text (text : String)
  | intent (contract : String) (transport : Transport) (runtimeMode : RuntimeMode) (adopt : Bool)
      (key release : String) (archive device : SampleDigest) (slot : Nat) (move reboot : Bool)
  | evidence (epoch : Nat) (component : Bool)
  | state (payload : StatePayload)
  | guard (lines : List String)
  | manifest (schema : String) (profiles : List LocalProxyProfile)
  | transaction (before after : SampleDigest) (commands : List String)
deriving DecidableEq

def SampleDigest.ofIntent (intent : Intent SampleDigest) : SampleDigest :=
  .intent intent.hardwareContract intent.transportMode intent.runtimeMode
    intent.adoptExistingRuntime intent.artifact.artifactKey intent.artifact.release
    intent.artifact.archiveSha256 intent.selectedDeviceFingerprint intent.selectedProfileSlot
    intent.moveDeviceAuthorized intent.controlledRebootAuthorized

theorem SampleDigest.ofIntent_injective : Function.Injective SampleDigest.ofIntent := by
  rintro ⟨_, _, _, _, ⟨_, _, _, _, _⟩, _, _, _, _⟩ ⟨_, _, _, _, ⟨_, _, _, _, _⟩, _, _, _, _⟩ h
  simp only [ofIntent, SampleDigest.intent.injEq] at h
  obtain ⟨rfl, rfl, rfl, rfl, rfl, rfl, rfl, rfl, rfl, rfl, rfl⟩ := h
  rfl

def SampleDigest.ofPayload : Payload SampleDigest → SampleDigest
  | .state payload => .state payload
  | .defaultGuard lines => .guard lines
  | .manifest schema profiles => .manifest schema profiles
  | .transaction unsigned => .transaction unsigned.preStateFingerprint
      unsigned.expectedPostStateFingerprint unsigned.commands

def sampleHost : Fingerprints SampleDigest where
  intent := .ofIntent
  evidence := fun evidence => .evidence evidence.epoch evidence.component.present
  path := .text
  device := .text
  payload := .ofPayload

def sampleArgs (mode : Mode) : Args where
  mode := mode
  transport := .localNdmc
  runtimeMode := some .localRouter
  adoptExistingRuntime := false
  receiptFile := "/opt/var/lib/routerkit/receipt.json"
  receiptFileGiven := true
  targetRoot := "/opt"
  hardwareContract := defaultHardwareContract
  sourceEnv := none
  sourceFile := none
  reuseProfiles := none
  primaryIndex := none
  fallbackIndex := []
  selectedDeviceMac := some sampleMac
  profileSlot := some 1
  moveDevice := false
  authorizeReboot := false
  endpointManifestFile := none
  externalPreSnapshotFile := none
  externalPostSnapshotFile := none
  externalSavedSnapshotFile := none
  transactionFile := none
  yes := true

/-- All checks pass; the component is there or not. -/
def sampleEvidence (epoch : Nat) (change : StateChange) (component : Bool) :
    Evidence SampleDigest where
  schema := evidenceSchema
  hardwareContract := defaultHardwareContract
  epoch := epoch
  stateChange := change
  checks := fun _ => .pass
  runtime := ⟨.router, true, true, none, true, true, true, true, true, none⟩
  component := ⟨component, false, false⟩
  rebootCompleted := false
  dns := ⟨true, .any, [], [], true⟩
  client := ⟨true, true, true, .localProbe⟩

/-- Every delegate succeeds, and the native apply has nothing to write. -/
def sampleDelegate : Delegate → DelegateResult
  | .nativeApply => .exited 0 (.object ⟨true, true, false⟩)
  | _ => .exited 0 (.object ⟨true, true, true⟩)

def sampleInvocation (mode : Mode) (evidence : Evidence SampleDigest) :
    Invocation SampleDigest where
  args := sampleArgs mode
  paths := .ok ()
  artifact := .ok ⟨"linux-arm64", "v1.8.24", .text "archive", by decide, by decide⟩
  confirmed := false
  evidenceFile := .document evidence
  manifest := fun _ => .ok ⟨sampleManifest true, sampleManifest_valid true⟩
  snapshot := fun _ => .refused "Could not read the private file."
  resolve := some
  delegate := sampleDelegate
  nativeWrites := false
  changeFiles := id
  steps := 100
  writes := fun _ => .stored

def emptyWorld : World SampleDigest := ⟨none, fun _ => none, []⟩

/-- The installation is complete, and the component is still missing. -/
def installedWorld : World SampleDigest :=
  (invoke sampleHost (sampleInvocation .apply (sampleEvidence 0 .none false)) emptyWorld).2

theorem installedWorld_run : Run sampleHost (KeepsOrder sampleHost) installedWorld := by
  refine .invoke (.start _) ⟨fun started evidence session hstart hundone => ?_,
    fun started evidence session hstart => ?_⟩
  · obtain ⟨-, document, hsome, -, -, hpresent, -⟩ := hundone
    have hmissing : (componentStart sampleHost emptyWorld
        (sampleInvocation .apply (sampleEvidence 0 .none false))).all (fun reached =>
          reached.2.1.all (fun document => !document.component.present)) = true := by decide +kernel
    rw [hstart] at hmissing
    simp [hsome, hpresent] at hmissing
  · have hearlier : (nativeStart sampleHost emptyWorld
        (sampleInvocation .apply (sampleEvidence 0 .none false))).isNone = true := by decide +kernel
    rw [hstart] at hearlier
    cases hearlier

section Runs

variable {Digest : Type} [DecidableEq Digest] {host : Fingerprints Digest} {world : World Digest}

/-- A reachable world is in good order, whatever defects its run has met. -/
theorem Reachable.good (hinjective : Function.Injective host.intent) (h : Reachable host world) :
    Good host True True world :=
  Run.good hinjective h (.inl trivial) (.inl trivial)

/-- In a run that never meets late evidence that undoes the installation, and never
fails to write the receipt of a finished native stage, the coordinator hands over
valid receipts only. -/
theorem handed_receipts_valid (hinjective : Function.Injective host.intent)
    (h : Run host (KeepsOrder host) world) {receipt : Receipt Digest}
    (hhanded : .handed receipt ∈ world.trace) : validateReceipt host.intent receipt = .ok () := by
  have hgood : Good host False True world :=
    h.good hinjective (.inr fun _ _ hkeeps => hkeeps) (.inl trivial)
  exact (hgood.trace _ hhanded).resolve_left id

end Runs

def Event.hands (p : Receipt SampleDigest → Bool) : Event SampleDigest → Bool
  | .handed receipt => p receipt
  | _ => false

def Event.launches (delegate : Delegate) : Event SampleDigest → Bool
  | .launched other _ => other = delegate
  | _ => false

/-- Evidence that the disk has changed undoes the installation, and the component
stage passes all the same. -/
def undoneWorld : World SampleDigest :=
  (invoke sampleHost (sampleInvocation .resume (sampleEvidence 1 .opt true)) installedWorld).2

/-- What the two runs come to. -/
theorem installedWorld_evaluated :
    (installedWorld.trace.any (Event.hands fun receipt => stageDone receipt Stage.autostart) =
        true ∧
      installedWorld.trace.any (Event.launches .autostart) = true ∧
      installedWorld.disk.any (fun recorded => stageDone recorded.receipt Stage.autostart) =
        true) ∧
    undoneWorld.trace.any (Event.hands fun receipt =>
      stageDone receipt nativeProxyComponent && !stageDone receipt Stage.autostart &&
        !(validateReceipt sampleHost.intent receipt).isOk) = true := by
  decide +kernel

theorem exists_handed {trace : List (Event SampleDigest)} {p : Receipt SampleDigest → Bool}
    (h : trace.any (Event.hands p) = true) : ∃ receipt, .handed receipt ∈ trace ∧ p receipt := by
  obtain ⟨event, hmem, hhands⟩ := List.any_eq_true.mp h
  cases event with
  | handed receipt => exact ⟨receipt, hmem, hhands⟩
  | _ => simp [Event.hands] at hhands

theorem handed_receipts_valid_sample : ∃ receipt, .handed receipt ∈ installedWorld.trace ∧
    stageDone receipt Stage.autostart = true ∧
    validateReceipt sampleHost.intent receipt = .ok () := by
  obtain ⟨receipt, hhanded, hdone⟩ : ∃ receipt, .handed receipt ∈ installedWorld.trace ∧
      stageDone receipt Stage.autostart = true :=
    exists_handed installedWorld_evaluated.1.1
  exact ⟨receipt, hhanded, hdone,
    handed_receipts_valid SampleDigest.ofIntent_injective installedWorld_run hhanded⟩

theorem undoneWorld_hands_invalid : Reachable sampleHost undoneWorld ∧
    ∃ receipt, .handed receipt ∈ undoneWorld.trace ∧
      stageDone receipt nativeProxyComponent = true ∧
      stageDone receipt Stage.autostart = false ∧
      validateReceipt sampleHost.intent receipt ≠ .ok () := by
  refine ⟨.invoke (.invoke (.start _) trivial) trivial, ?_⟩
  obtain ⟨receipt, hhanded, hbad⟩ : ∃ receipt, .handed receipt ∈ undoneWorld.trace ∧
      (stageDone receipt nativeProxyComponent && !stageDone receipt Stage.autostart &&
        !(validateReceipt sampleHost.intent receipt).isOk) = true :=
    exists_handed installedWorld_evaluated.2
  simp only [Bool.and_eq_true, Bool.not_eq_true'] at hbad
  obtain ⟨⟨hcomponent, hautostart⟩, hrejected⟩ := hbad
  refine ⟨receipt, hhanded, hcomponent, hautostart, fun hvalid => ?_⟩
  rw [hvalid] at hrejected
  cases hrejected

section Runs

variable {Digest : Type} [DecidableEq Digest] {host : Fingerprints Digest} {world : World Digest}

/-- A delegate is launched only once every stage before its own is behind. -/
theorem delegates_launched_in_order (hinjective : Function.Injective host.intent)
    (h : Reachable host world) {delegate : Delegate} {receipt : Receipt Digest}
    (hlaunched : .launched delegate receipt ∈ world.trace) {stage : Stage}
    (hbefore : stage.rank < delegate.firstStage.rank) :
    receipt.status stage = .pass ∨ receipt.status stage = .skipped := by
  have hdone := (h.good hinjective).trace _ hlaunched stage hbefore
  simpa only [stageDone, Bool.or_eq_true, decide_eq_true_eq] using hdone

end Runs

theorem delegates_launched_in_order_sample : ∃ receipt,
    .launched .autostart receipt ∈ installedWorld.trace ∧
      (receipt.status Stage.healthcheck = .pass ∨ receipt.status Stage.healthcheck = .skipped) := by
  obtain ⟨event, hmem, hlaunches⟩ := List.any_eq_true.mp installedWorld_evaluated.1.2.1
  have hreach : Reachable sampleHost installedWorld := .invoke (.start _) trivial
  cases event with
  | launched delegate receipt =>
      obtain rfl : delegate = .autostart := by simpa [Event.launches] using hlaunches
      exact ⟨receipt, hmem,
        delegates_launched_in_order SampleDigest.ofIntent_injective hreach hmem (by decide)⟩
  | _ => simp [Event.launches] at hlaunches

section Runs

variable {Digest : Type} [DecidableEq Digest] {host : Fingerprints Digest} {world : World Digest}

/-- In a run that never loses a native write, the DNS gate passes only on evidence
that is newer than every write of the router. -/
theorem dns_evidence_newer_than_writes (hinjective : Function.Injective host.intent)
    (h : Run host (KeepsWrites host) world) {epoch : Nat} {history : List (NativeEvent Digest)}
    (hpassed : .dnsPassed epoch history ∈ world.trace) {written : Nat}
    (hwritten : .wrote written ∈ history) : written < epoch := by
  have hgood : Good host True False world :=
    Run.good hinjective h (.inl trivial) (.inr fun _ _ hkeeps => hkeeps)
  exact (hgood.trace _ hpassed).resolve_left id written hwritten

end Runs

def Event.passesDns (epoch : Nat) (history : List (NativeEvent SampleDigest)) :
    Event SampleDigest → Bool
  | .dnsPassed passed found => passed = epoch ∧ found = history
  | _ => false

theorem mem_of_passesDns {trace : List (Event SampleDigest)} {epoch : Nat}
    {history : List (NativeEvent SampleDigest)}
    (h : trace.any (Event.passesDns epoch history) = true) : .dnsPassed epoch history ∈ trace := by
  obtain ⟨event, hmem, hpasses⟩ := List.any_eq_true.mp h
  cases event with
  | dnsPassed passed found =>
      obtain ⟨rfl, rfl⟩ : passed = epoch ∧ found = history := by
        simpa [Event.passesDns] using hpasses
      exact hmem
  | _ => simp [Event.passesDns] at hpasses

/-- The native apply writes and says so. -/
def writingInvocation : Invocation SampleDigest :=
  { sampleInvocation .apply (sampleEvidence 0 .none true) with
    nativeWrites := true
    delegate := fun _ => .exited 0 (.object ⟨true, true, true⟩) }

def writtenWorld : World SampleDigest := (invoke sampleHost writingInvocation emptyWorld).2

/-- Evidence of the next epoch, after the write. -/
def refreshedWorld : World SampleDigest :=
  (invoke sampleHost (sampleInvocation .resume (sampleEvidence 1 .native true)) writtenWorld).2

theorem refreshedWorld_evaluated :
    (nativeStart sampleHost emptyWorld writingInvocation).all
        (fun reached => 3 ≤ reached.2.2.steps &&
          reached.2.2.writes (reached.2.2.steps - 3) = .stored) = true ∧
      refreshedWorld.trace.any (Event.passesDns 1 [.wrote 0]) = true := by
  decide +kernel

theorem refreshedWorld_run : Run sampleHost (KeepsWrites sampleHost) refreshedWorld := by
  refine .invoke (.invoke (.start _) ?_) ?_
  · intro started evidence session hstart _ _ hloses
    have hwritten := refreshedWorld_evaluated.1
    rw [hstart] at hwritten
    simp only [Option.all_some, Bool.and_eq_true, decide_eq_true_eq] at hwritten
    refine hloses.2.2.2.2 ⟨⟨session.steps - 3, by omega, fun message => ?_⟩, _, rfl, rfl, rfl⟩
    rw [hwritten.2]
    exact ReceiptWrite.noConfusion
  · rintro - - - - - - ⟨hwrites, -⟩
    cases hwrites

theorem dns_evidence_newer_than_writes_sample :
    .dnsPassed 1 [.wrote 0] ∈ refreshedWorld.trace ∧ 0 < 1 := by
  have hpassed : .dnsPassed 1 [.wrote 0] ∈ refreshedWorld.trace :=
    mem_of_passesDns refreshedWorld_evaluated.2
  exact ⟨hpassed, dns_evidence_newer_than_writes SampleDigest.ofIntent_injective
    refreshedWorld_run hpassed (List.mem_singleton.mpr rfl)⟩

/-- The native apply writes and fails. -/
def failingInvocation : Invocation SampleDigest :=
  { sampleInvocation .apply (sampleEvidence 0 .none true) with
    nativeWrites := true
    delegate := fun delegate =>
      if delegate = .nativeApply then .exited 1 .notJson else sampleDelegate delegate }

/-- Tried again, the native apply finds nothing left to write. -/
def staleWorld : World SampleDigest :=
  (invoke sampleHost (sampleInvocation .resume (sampleEvidence 0 .none true))
    (invoke sampleHost failingInvocation emptyWorld).2).2

theorem staleWorld_passes_dns_on_old_evidence :
    Reachable sampleHost staleWorld ∧ .dnsPassed 0 [.wrote 0] ∈ staleWorld.trace ∧ ¬ 0 < 0 :=
  ⟨.invoke (.invoke (.start _) trivial) trivial, mem_of_passesDns (by decide +kernel), by decide⟩

section Runs

variable {Digest : Type} [DecidableEq Digest] {host : Fingerprints Digest} {world : World Digest}

/-- An external transaction that has passed was verified in every phase it needs
since its last reset, in order, under the recorded fingerprint and of different
files. -/
theorem completed_transaction_verified (hinjective : Function.Injective host.intent)
    (h : Reachable host world) {recorded : Recorded Digest} (hdisk : world.disk = some recorded)
    (htransport : recorded.receipt.transportMode = .external)
    (hpass : recorded.receipt.nativeTransaction.status = .pass) :
    ∃ fingerprint pre running write,
      recorded.receipt.nativeTransaction.fingerprint = some fingerprint ∧
      recorded.receipt.nativeTransaction.writeRequired = some write ∧ running ≠ pre ∧
      [NativeEvent.verified .pre fingerprint pre,
        NativeEvent.verified .running fingerprint running].Sublist recorded.history ∧
      (write = true → ∃ saved, saved ≠ pre ∧ saved ≠ running ∧
        [NativeEvent.verified .pre fingerprint pre,
          NativeEvent.verified .running fingerprint running,
          NativeEvent.verified .saved fingerprint saved].Sublist recorded.history) := by
  have hverified := ((h.good hinjective).history recorded hdisk).verified htransport
  unfold NativeVerified at hverified
  rw [hpass] at hverified
  obtain ⟨fingerprint, pre, running, write, hrunning, hsaved⟩ := hverified
  refine ⟨fingerprint, pre, running, write, hrunning.recorded, hrunning.writeRequired,
    fun hsame => hrunning.fresh (congrArg host.path hsame), hrunning.verified, fun hwrite => ?_⟩
  obtain ⟨saved, hpre, hrun, hsublist⟩ := hsaved hwrite
  exact ⟨saved, fun hsame => hpre (congrArg host.path hsame),
    fun hsame => hrun (congrArg host.path hsame), hsublist⟩

end Runs

/-- The state the commands for the sample device lead to. -/
def commandedState : LiveState where
  proxies := [{
    objectId := "Proxy0", description := "RouterKit-SOCKS-1082", protocol := "socks5"
    host := "127.0.0.1", port := 1082, enabled := true, authenticationConfigured := false }]
  policies := [{
    objectId := "Policy0", description := "RouterKit-Policy-1082"
    globalInterfaces := ["Proxy0"] }]
  assignments := [(sampleMac, "Policy0")]
  defaultGuard := []
  proxyIds_nodup := List.nodup_singleton _
  policyIds_nodup := List.nodup_singleton _
  deviceMacs_nodup := List.nodup_singleton _

/-- A runtime that stands on the router already is adopted, and the transaction is
delivered from outside. -/
def adoptingInvocation : Invocation SampleDigest :=
  { sampleInvocation .apply { sampleEvidence 0 .none true with
      runtime := ⟨.router, true, true, some "1.8.24", true, true, true, true, true,
        some (Netcraze.External.manifestFingerprint sampleHost.payload
        (sampleManifest true))⟩ } with
    args := { sampleArgs .apply with
      transport := .external
      runtimeMode := some .externalEvidence
      adoptExistingRuntime := true
      receiptFile := "/home/operator/receipt.json"
      endpointManifestFile := some "/home/operator/endpoints.json"
      externalPreSnapshotFile := some "/home/operator/before.txt"
      externalPostSnapshotFile := some "/home/operator/running.txt"
      externalSavedSnapshotFile := some "/home/operator/saved.txt" }
    snapshot := fun phase => .state (if phase = .pre then emptyState else commandedState) }

def deliveredWorld : World SampleDigest := (invoke sampleHost adoptingInvocation emptyWorld).2

theorem completed_transaction_verified_sample : ∃ recorded fingerprint pre running saved,
    deliveredWorld.disk = some recorded ∧
    recorded.receipt.nativeTransaction.fingerprint = some fingerprint ∧
    running ≠ pre ∧ saved ≠ pre ∧ saved ≠ running ∧
    [NativeEvent.verified .pre fingerprint pre,
      NativeEvent.verified .running fingerprint running,
      NativeEvent.verified .saved fingerprint saved].Sublist recorded.history := by
  have hdelivered : deliveredWorld.disk.any (fun recorded =>
      recorded.receipt.transportMode = .external &&
        recorded.receipt.nativeTransaction.status = .pass &&
        recorded.receipt.nativeTransaction.writeRequired = some true) = true := by decide +kernel
  obtain ⟨recorded, hdisk, hrecorded⟩ := (Option.any_eq_true _ _).mp hdelivered
  simp only [Bool.and_eq_true, decide_eq_true_eq] at hrecorded
  obtain ⟨⟨htransport, hpass⟩, hrequired⟩ := hrecorded
  have hreach : Reachable sampleHost deliveredWorld := .invoke (.start _) trivial
  obtain ⟨fingerprint, pre, running, write, hfingerprint, hwrite, hfresh, -, hsaved⟩ :=
    completed_transaction_verified SampleDigest.ofIntent_injective hreach hdisk htransport hpass
  obtain ⟨saved, hpre, hrunning, hsublist⟩ :=
    hsaved (Option.some.inj (hwrite.symm.trans hrequired))
  exact ⟨recorded, fingerprint, pre, running, saved, hdisk, hfingerprint, hfresh, hpre, hrunning,
    hsublist⟩

section Runs

variable {Digest : Type} [DecidableEq Digest] {host : Fingerprints Digest} {world : World Digest}

/-- The receipt is on disk, or evidence is accepted into it. -/
def Occurs (world : World Digest) (receipt : Receipt Digest) : Prop :=
  (∃ recorded, world.disk = some recorded ∧ recorded.receipt = receipt) ∨
    .accepting receipt ∈ world.trace

theorem Good.occurs (h : Good host True True world) {receipt : Receipt Digest}
    (hoccurs : Occurs world receipt) : Sound host.intent receipt := by
  rcases hoccurs with ⟨recorded, hdisk, rfl⟩ | hmem
  · exact h.sound recorded hdisk
  · exact h.trace _ hmem

/-- Evidence that is refused changes nothing. Evidence that is accepted leaves a
valid receipt of the evidence's epoch, at most one above the old one and above it
only for a state change; accepting it again changes nothing. -/
theorem evidence_accepted_or_refused (hinjective : Function.Injective host.intent)
    (h : Reachable host world) (evidence : Evidence Digest) {session : Session Digest}
    (hoccurs : Occurs world session.memory.receipt) :
    wp (accept host evidence)
      (fun _ after =>
        validateReceipt host.intent after.memory.receipt = .ok () ∧
        after.memory.receipt.discovery.epoch = some after.memory.receipt.stateEpoch ∧
        (after.memory.receipt.stateEpoch = session.memory.receipt.stateEpoch ∨
          after.memory.receipt.stateEpoch = session.memory.receipt.stateEpoch + 1 ∧
            evidence.stateChange ≠ .none) ∧
        wp (accept host evidence) (fun _ again => again.memory = after.memory)
          (fun _ _ => False) after)
      (fun _ after => after.memory = session.memory) session := by
  obtain ⟨k, hsound⟩ := (h.good hinjective).occurs hoccurs
  unfold accept
  simp only [wp_bind, wp_current, wp_emit, wp_lift, wp_modify]
  refine ⟨fun accepted hok => ?_, fun _ _ => trivial⟩
  obtain ⟨hseen, hepoch, -, k', -, hsound', -⟩ := hsound.accepted hok
  refine ⟨hsound'.valid, ?_, ?_, ?_, ?_⟩
  · rw [hseen, hepoch]
    rfl
  · rcases acceptDiscoveryEvidence_cases hok with ⟨-, rfl⟩ | ⟨-, rfl⟩ | ⟨hnext, hchange, -⟩
    · exact .inl rfl
    · exact .inl rfl
    · exact .inr ⟨hepoch.trans hnext, hchange⟩
  · rw [acceptDiscoveryEvidence_again hseen]
    rintro _ ⟨⟩
    simp
  · rw [acceptDiscoveryEvidence_again hseen]
    rintro _ ⟨⟩

end Runs

theorem evidence_accepted_or_refused_sample : ∃ session : Session SampleDigest,
    stageDone session.memory.receipt Stage.autostart = true ∧
    wp (accept sampleHost (sampleEvidence 1 .opt true))
      (fun _ after => validateReceipt sampleHost.intent after.memory.receipt = .ok ())
      (fun _ after => after.memory = session.memory) session := by
  obtain ⟨recorded, hdisk, hdone⟩ := (Option.any_eq_true _ _).mp installedWorld_evaluated.1.2.2
  have hreach : Reachable sampleHost installedWorld := .invoke (.start _) trivial
  exact ⟨(sampleInvocation .resume (sampleEvidence 1 .opt true)).session installedWorld recorded,
    hdone,
    wp_mono (evidence_accepted_or_refused SampleDigest.ofIntent_injective hreach _
      (.inl ⟨recorded, hdisk, rfl⟩)) (fun _ _ haccepted => haccepted.1)
          (fun _ _ hrefused => hrefused)⟩

end RouterKit.LiveInstall
