import RouterKit.LiveInstall.Safety
import RouterKit.Netcraze.ExternalVerify

/-!
From a pending external transaction to a planned one. The packet is published in a
file that must not exist yet, and before the receipt that refers to it; a file
that is there stops the planning whoever wrote it.
-/

namespace RouterKit.LiveInstall

open RouterKit.Lib.Checked RouterKit.Lib.Programs
open RouterKit.Netcraze (LiveState LocalEndpointManifest emptyState sampleMac sampleManifest
  supportedContract)
open RouterKit.Netcraze.External (Packet Phase)
open Stage

section Planning

variable {Digest : Type} [DecidableEq Digest] {host : Fingerprints Digest} {world : World Digest}
  {reset lost : Prop} {intent : Intent Digest} {s : Session Digest}
  {invocation : Invocation Digest} {args : Args}

/-- The native stage takes its planning step, and that ends with the transaction
PLANNED for this packet in the written receipt and the packet in its file. -/
def ReachesPlanned (host : Fingerprints Digest) (invocation : Invocation Digest) (args : Args)
    (packet : Packet Digest) (session : Session Digest) : Prop :=
  args.transport = .external ∧ session.memory.receipt.nativeTransaction.status = .pending ∧
    ∃ manifest after, invocation.manifest .nativeStage = .ok manifest ∧
      planExternal host invocation args manifest.val session = .ok () after ∧
      after.disk = some after.memory ∧
      after.memory.receipt.nativeTransaction.status = .planned ∧
      after.memory.receipt.nativeTransaction.fingerprint = some packet.transactionFingerprint ∧
      after.files (transactionPath args) = some (.packet packet)

variable {manifest : LocalEndpointManifest} {state : LiveState} {packet : Packet Digest}
  {preSnapshot found : String}

/-- What the planner accepts, its verifier accepts at once. -/
theorem verify_pre_of_build (valid : manifest.Valid)
    (hbuild : Netcraze.External.buildExternalTransaction host.payload manifest state
      args.selectedDeviceMac args.profileSlot args.moveDevice args.hardwareContract = .ok packet) :
    Netcraze.External.verifyExternalTransaction host.payload packet manifest state .pre =
      .ok (Netcraze.External.verificationOf packet .pre false) := by
  have hcontract : args.hardwareContract = supportedContract := by
    simp only [Netcraze.External.buildExternalTransaction, bind_eq_ok, raiseIf_eq_ok,
        not_not] at hbuild
    exact hbuild.choose_spec.1
  rw [hcontract] at hbuild
  obtain ⟨mac, plan, profileOf, assignment, built⟩ := Netcraze.External.build_eq_ok valid hbuild
  exact built.verify_pre

/-- A file at the path ends the planning before anything is verified. -/
theorem planExternal_blocked (hgiven : args.externalPreSnapshotFile = some preSnapshot)
    (hfile : s.files (transactionPath args) ≠ none) :
    wp (planExternal host invocation args manifest) (fun _ _ => False) (fun _ _ => True) s := by
  unfold planExternal
  simp only [hgiven]
  rw [wp_bind]
  have hload : wp (loadSnapshot invocation .pre) (fun _ s' => s' = s) (fun _ _ => True) s := by
    unfold loadSnapshot
    split <;> simp
  refine wp_mono hload (fun state s₁ hsame => ?_) (fun _ _ _ => trivial)
  subst hsame
  rw [wp_bind]
  have hlift : ∀ x : Except Netcraze.LiveError (Packet Digest),
      wp (liftLive x) (fun _ s' => s' = s₁) (fun _ _ => True) s₁ := by
    intro x
    unfold liftLive
    split <;> simp
  refine wp_mono (hlift _) (fun packet s₂ hsame => ?_) (fun _ _ _ => trivial)
  subst hsame
  rw [wp_bind]
  unfold writeExternalTransaction
  simp only [wp_bind, wp_get, Option.isSome_iff_ne_none.mpr hfile, if_true, wp_throw]

theorem planExternal_planned (h : Holds host reset lost intent s 13) (valid : manifest.Valid)
    (hgiven : args.externalPreSnapshotFile = some preSnapshot)
    (hresolves : invocation.resolve preSnapshot = some found)
    (hsnapshot : invocation.snapshot .pre = .state state)
    (hbuild : Netcraze.External.buildExternalTransaction host.payload manifest state
      args.selectedDeviceMac args.profileSlot args.moveDevice args.hardwareContract = .ok packet)
    (hsteps : 3 ≤ s.steps) (hstored : s.writes (s.steps - 3) = .stored)
    (hfree : s.files (transactionPath args) = none) :
    wp (planExternal host invocation args manifest)
      (fun _ after => after.disk = some after.memory ∧
        after.memory.receipt.nativeTransaction.status = .planned ∧
        after.memory.receipt.nativeTransaction.fingerprint = some packet.transactionFingerprint ∧
        after.files (transactionPath args) = some (.packet packet))
      (fun _ _ => False) s := by
  obtain ⟨more, hmore⟩ : ∃ more, s.steps = more + 3 := ⟨s.steps - 3, by omega⟩
  have hverify : Netcraze.External.verifyExternalTransaction host.payload packet manifest state
      .pre = .ok _ := verify_pre_of_build valid hbuild
  unfold planExternal
  simp only [hgiven, wp_bind, loadSnapshot, hsnapshot, wp_pure, hbuild, liftLive,
    writeExternalTransaction, wp_get, hfree, Option.isSome_none, Bool.false_eq_true, if_false,
    wp_tick, hmore, putFile, wp_modify, verifyExternal, hverify, wp_note, wp_raiseWhen, wp_current,
    wp_updateNative, pathFingerprint, hresolves, withReceipt_receipt, withReceipt_withReceipt]
  refine ⟨by omega, fun steps hsteps₁ => ⟨by omega, fun steps' hsteps₂ => ⟨fun _ => ?_, ?_⟩⟩⟩
  · rw [wp_persist]
    · refine ⟨fun hzero : steps' = 0 => by omega, fun last (hlast : steps' = last + 1) => ?_⟩
      obtain rfl : last = s.steps - 3 := by omega
      have hwrite : ∀ {other : ReceiptWrite}, s.writes (s.steps - 3) = other →
          other = .stored := fun hother => hother.symm.trans hstored
      exact ⟨fun _ => ⟨rfl, rfl, rfl, Function.update_self _ _ _⟩,
        fun message hrefused => ReceiptWrite.noConfusion (hwrite hrefused),
        fun message hunsynced => ReceiptWrite.noConfusion (hwrite hunsynced)⟩
    · exact (h.sound.nativeStep le_rfl (by simp) (by simp)).valid
    · exact (h.noteVerified .pre packet.transactionFingerprint
        (resolved invocation preSnapshot)).good.checkExisting
  · intro hnot
    exact hnot rfl

/-- With a snapshot the planner accepts, and a receipt that can be stored, a pending
transaction is planned exactly when no file stands at its path. -/
theorem pending_reaches_planned_iff (hinjective : Function.Injective host.intent)
    (h : Reachable host world) {started : Started Digest} {evidence : Option (Evidence Digest)}
    {manifest : { m : LocalEndpointManifest // m.Valid }}
    (hnative : nativeStart host world invocation = some (started, evidence, s))
    (hexternal : started.args.transport = .external)
    (hpending : s.memory.receipt.nativeTransaction.status = .pending)
    (hmanifest : invocation.manifest .nativeStage = .ok manifest)
    (hgiven : started.args.externalPreSnapshotFile = some preSnapshot)
    (hresolves : invocation.resolve preSnapshot = some found)
    (hsnapshot : invocation.snapshot .pre = .state state)
    (hbuild : Netcraze.External.buildExternalTransaction host.payload manifest.val state
      started.args.selectedDeviceMac started.args.profileSlot started.args.moveDevice
      started.args.hardwareContract = .ok packet)
    (hsteps : 3 ≤ s.steps) (hstored : s.writes (s.steps - 3) = .stored) :
    ReachesPlanned host invocation started.args packet s ↔
      s.files (transactionPath started.args) = none := by
  constructor
  · rintro ⟨-, -, found, after, -, hplanned, -⟩
    by_contra hfile
    have hblocked : wp (planExternal host invocation started.args found.val) (fun _ _ => False)
        (fun _ _ => True) s := planExternal_blocked hgiven hfile
    exact wp_ok hblocked hplanned
  · intro hfree
    obtain ⟨k, hk, hholds, -⟩ := nativeStart_holds hinjective (h.good hinjective) hnative
    obtain rfl : k = 13 := by
      have hnative := hholds.sound.fields.native
      rw [hpending] at hnative
      simp only [reduceCtorEq, false_iff] at hnative
      omega
    have hplans :=
      planExternal_planned hholds manifest.property hgiven hresolves hsnapshot hbuild hsteps
        hstored hfree
    refine ⟨hexternal, hpending, manifest, ?_⟩
    cases hrun : planExternal host invocation started.args manifest.val s with
    | ok u after =>
        have hended := wp_ok hplans hrun
        exact ⟨after, hmanifest, rfl, hended⟩
    | error failure after => exact absurd (wp_error hplans hrun) id

end Planning

/-- Without a pre-snapshot the first invocation hands off, and the receipt it leaves
is PENDING. -/
def pendingWorld : World SampleDigest :=
  (invoke sampleHost { adoptingInvocation with
    args := { adoptingInvocation.args with externalPreSnapshotFile := none } } emptyWorld).2

def resumingInvocation : Invocation SampleDigest :=
  { adoptingInvocation with args := { adoptingInvocation.args with mode := .resume } }

theorem pending_reaches_planned_iff_sample : ∃ recorded packet session,
    pendingWorld.disk = some recorded ∧
    recorded.receipt.nativeTransaction.status = .pending ∧
    ReachesPlanned sampleHost resumingInvocation resumingInvocation.args packet session := by
  have hleft : pendingWorld.disk.any (fun recorded =>
      recorded.receipt.nativeTransaction.status = .pending) = true := by decide +kernel
  obtain ⟨recorded, hdisk, hleft⟩ := (Option.any_eq_true _ _).mp hleft
  have hstarts : (nativeStart sampleHost pendingWorld resumingInvocation).any (fun reached =>
      reached.1.args = resumingInvocation.args && 3 ≤ reached.2.2.steps &&
        reached.2.2.writes (reached.2.2.steps - 3) = .stored &&
        reached.2.2.memory.receipt.nativeTransaction.status = .pending &&
        (reached.2.2.files (transactionPath resumingInvocation.args)).isNone) = true := by
    decide +kernel
  obtain ⟨⟨started, evidence, session⟩, hnative, hreached⟩ := (Option.any_eq_true _ _).mp hstarts
  simp only [Bool.and_eq_true, decide_eq_true_eq, Option.isNone_iff_eq_none] at hreached
  obtain ⟨⟨⟨⟨hargs, hsteps⟩, hstored⟩, hpending⟩, hfree⟩ := hreached
  have hbuilds : (Netcraze.External.buildExternalTransaction sampleHost.payload
      (sampleManifest true) emptyState (some sampleMac) (some 1) false
      defaultHardwareContract).isOk = true := by decide +kernel
  obtain ⟨packet, hbuild⟩ : ∃ packet, Netcraze.External.buildExternalTransaction
      sampleHost.payload (sampleManifest true) emptyState (some sampleMac) (some 1) false
      defaultHardwareContract = .ok packet := by
    cases hbuild : Netcraze.External.buildExternalTransaction sampleHost.payload
        (sampleManifest true) emptyState (some sampleMac) (some 1) false
        defaultHardwareContract with
    | ok packet => exact ⟨packet, rfl⟩
    | error error =>
        rw [hbuild] at hbuilds
        cases hbuilds
  have hreach : Reachable sampleHost pendingWorld := .invoke (.start _) trivial
  refine ⟨recorded, packet, session, hdisk, by simpa using hleft, ?_⟩
  rw [← hargs] at hfree ⊢
  exact (pending_reaches_planned_iff SampleDigest.ofIntent_injective hreach hnative
    (by rw [hargs]; rfl) hpending rfl (by rw [hargs]; rfl) rfl rfl (by rw [hargs]; exact hbuild)
    hsteps hstored).mpr hfree

/-- Stopped after the packet is published and before the receipt says so. -/
def crashedWorld : World SampleDigest :=
  (invoke sampleHost { adoptingInvocation with steps := 7 } emptyWorld).2

theorem crashedWorld_never_planned : Reachable sampleHost crashedWorld ∧
    (crashedWorld.disk.any fun recorded =>
      recorded.receipt.nativeTransaction.status = .pending) = true ∧
    (Netcraze.External.buildExternalTransaction sampleHost.payload (sampleManifest true) emptyState
      (some sampleMac) (some 1) false defaultHardwareContract).isOk = true ∧
    (invoke sampleHost resumingInvocation crashedWorld).1 =
      .error (.liveAdapter "Could not create the private file." 1) ∧
    ((invoke sampleHost resumingInvocation crashedWorld).2.disk.any fun recorded =>
      recorded.receipt.nativeTransaction.status = .pending &&
        recorded.receipt.status nativeProxyPolicyTransaction = .fail) = true := by
  refine ⟨.invoke (.start _) trivial, ?_, ?_, ?_, ?_⟩ <;> decide +kernel

end RouterKit.LiveInstall
