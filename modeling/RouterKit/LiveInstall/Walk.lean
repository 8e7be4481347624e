import RouterKit.LiveInstall.Changes
import RouterKit.LiveInstall.Main

/-!
What every invocation keeps, from its first effect to wherever it ends. The
receipt on disk is always one the invariant describes, together with what is
known to have happened to its native stage; and every event says what it should:
receipts are valid when they are handed over, delegates are launched with their
predecessors done, the DNS gate passes on evidence newer than the writes.

Two of these hold only of runs that avoid a defect. `reset` stands for having met
the first, evidence that undoes the installation right before the component
stage; `lost` for the second, a native write that no receipt records.
-/

namespace RouterKit.LiveInstall

open RouterKit.Lib.Checked RouterKit.Lib.Programs
open RouterKit.Netcraze (LiveState LocalEndpointManifest)
open RouterKit.Netcraze.External (Packet Phase)
open Stage

section History

variable {Digest : Type} (host : Fingerprints Digest)

/-- The pre-state was verified for the recorded packet. -/
structure PreVerified (native : NativeTransaction Digest) (history : List (NativeEvent Digest))
    (fingerprint : Digest) (pre : String) (write : Bool) : Prop where
  recorded : native.fingerprint = some fingerprint
  prePath : native.preSnapshotPathFingerprint = some (host.path pre)
  writeRequired : native.writeRequired = some write
  saveRequired : native.saveRequired = some write
  verified : [NativeEvent.verified .pre fingerprint pre].Sublist history

/-- So was the running state, from another file. -/
structure RunningVerified (native : NativeTransaction Digest)
    (history : List (NativeEvent Digest)) (fingerprint : Digest) (pre running : String)
    (write : Bool) : Prop where
  recorded : native.fingerprint = some fingerprint
  prePath : native.preSnapshotPathFingerprint = some (host.path pre)
  runningPath : native.runningSnapshotPathFingerprint = some (host.path running)
  fresh : host.path running ≠ host.path pre
  writeRequired : native.writeRequired = some write
  saveRequired : native.saveRequired = some write
  verified : [NativeEvent.verified .pre fingerprint pre,
    NativeEvent.verified .running fingerprint running].Sublist history

/-- And the saved state, from a third one. -/
def SavedVerified (history : List (NativeEvent Digest)) (fingerprint : Digest)
    (pre running : String) : Prop :=
  ∃ saved, host.path saved ≠ host.path pre ∧ host.path saved ≠ host.path running ∧
    [NativeEvent.verified .pre fingerprint pre, NativeEvent.verified .running fingerprint running,
      NativeEvent.verified .saved fingerprint saved].Sublist history

/-- What the status of an external transaction stands for. -/
def NativeVerified (native : NativeTransaction Digest) (history : List (NativeEvent Digest)) :
    Prop :=
  match native.status with
  | .pending => True
  | .planned => ∃ fingerprint pre write, PreVerified host native history fingerprint pre write
  | .runningVerified => ∃ fingerprint pre running write,
      RunningVerified host native history fingerprint pre running write
  | .pass => ∃ fingerprint pre running write,
      RunningVerified host native history fingerprint pre running write ∧
        (write = true → SavedVerified host history fingerprint pre running)

variable {host} in
theorem NativeVerified.append {native : NativeTransaction Digest}
    {history : List (NativeEvent Digest)} (h : NativeVerified host native history)
    (event : NativeEvent Digest) : NativeVerified host native (history ++ [event]) := by
  have hmore : history.Sublist (history ++ [event]) := List.sublist_append_left _ _
  unfold NativeVerified at h ⊢
  cases hstatus : native.status <;> simp only [hstatus] at h ⊢
  · obtain ⟨fingerprint, pre, write, hpre⟩ := h
    exact ⟨fingerprint, pre, write, { hpre with verified := hpre.verified.trans hmore }⟩
  · obtain ⟨fingerprint, pre, running, write, hrunning⟩ := h
    exact ⟨fingerprint, pre, running, write,
      { hrunning with verified := hrunning.verified.trans hmore }⟩
  · obtain ⟨fingerprint, pre, running, write, hrunning, hsaved⟩ := h
    refine ⟨fingerprint, pre, running, write,
      { hrunning with verified := hrunning.verified.trans hmore }, fun hwrite => ?_⟩
    obtain ⟨saved, hpre, hrun, hsub⟩ := hsaved hwrite
    exact ⟨saved, hpre, hrun, hsub.trans hmore⟩

/-- Every write since the last reset is the one the receipt records. -/
def WritesRecorded (native : NativeTransaction Digest) (history : List (NativeEvent Digest)) :
    Prop :=
  ∀ epoch, NativeEvent.wrote epoch ∈ history →
    native.status = .pass ∧ native.dnsRefreshRequired = true ∧ native.preEpoch = some epoch

structure History (lost : Prop) (recorded : Recorded Digest) : Prop where
  writes : lost ∨ WritesRecorded recorded.receipt.nativeTransaction recorded.history
  verified : recorded.receipt.transportMode = .external →
    NativeVerified host recorded.receipt.nativeTransaction recorded.history

end History

section World

variable {Digest : Type} [DecidableEq Digest] (host : Fingerprints Digest) (reset lost : Prop)

def EventOk : Event Digest → Prop
  | .accepting receipt => Sound host.intent receipt
  | .handed receipt => reset ∨ validateReceipt host.intent receipt = .ok ()
  | .launched delegate receipt =>
      ∀ stage : Stage, stage.rank < delegate.firstStage.rank → stageDone receipt stage = true
  | .dnsPassed epoch history =>
      lost ∨ ∀ written, NativeEvent.wrote written ∈ history → written < epoch

structure Good (world : World Digest) : Prop where
  sound : ∀ recorded, world.disk = some recorded → Sound host.intent recorded.receipt
  history : ∀ recorded, world.disk = some recorded → History host lost recorded
  trace : ∀ event ∈ world.trace, EventOk host reset lost event

/-- A session in good order, with the first `k` stages done and the intent it was
started with. -/
structure Holds (intent : Intent Digest) (session : Session Digest) (k : Nat) : Prop where
  good : Good host reset lost session.toWorld
  sound : SoundAt host.intent session.memory.receipt k
  history : History host lost session.memory
  intent : session.memory.receipt.intent = intent

end World

section Effects

variable {Digest : Type} {α : Type} {E : Failure → Session Digest → Prop} {s : Session Digest}

def Session.withReceipt (session : Session Digest) (receipt : Receipt Digest) : Session Digest :=
  { session with memory := { session.memory with receipt } }

@[simp] theorem withReceipt_receipt (receipt : Receipt Digest) :
    (s.withReceipt receipt).memory.receipt = receipt := rfl

@[simp] theorem withReceipt_history (receipt : Receipt Digest) :
    (s.withReceipt receipt).memory.history = s.memory.history := rfl

@[simp] theorem withReceipt_world (receipt : Receipt Digest) :
    (s.withReceipt receipt).toWorld = s.toWorld := rfl

@[simp] theorem withReceipt_steps (receipt : Receipt Digest) :
    (s.withReceipt receipt).steps = s.steps := rfl

@[simp] theorem withReceipt_withReceipt (first second : Receipt Digest) :
    (s.withReceipt first).withReceipt second = s.withReceipt second := rfl

@[simp] theorem wp_current {Q : Receipt Digest → Session Digest → Prop} :
    wp current Q E s ↔ Q s.memory.receipt s := Iff.rfl

@[simp] theorem wp_update {Q : Unit → Session Digest → Prop} (f : Receipt Digest → Receipt Digest) :
    wp (update f) Q E s ↔ Q () (s.withReceipt (f s.memory.receipt)) := Iff.rfl

@[simp] theorem wp_updateNative {Q : Unit → Session Digest → Prop}
    (f : NativeTransaction Digest → NativeTransaction Digest) :
    wp (updateNative f) Q E s ↔ Q () (s.withReceipt
      { s.memory.receipt with nativeTransaction := f s.memory.receipt.nativeTransaction }) :=
  Iff.rfl

@[simp] theorem wp_updateFinal {Q : Unit → Session Digest → Prop}
    (f : FinalVerification → FinalVerification) :
    wp (updateFinal f) Q E s ↔ Q () (s.withReceipt
      { s.memory.receipt with finalVerification := f s.memory.receipt.finalVerification }) :=
  Iff.rfl

@[simp] theorem wp_mark {Q : Unit → Session Digest → Prop} (stage : Stage) (status : StageStatus) :
    wp (mark stage status) Q E s ↔
      Q () (s.withReceipt (markStage s.memory.receipt stage status)) := Iff.rfl

@[simp] theorem wp_emit {Q : Unit → Session Digest → Prop} (event : Event Digest) :
    wp (emit event) Q E s ↔ Q () { s with trace := event :: s.trace } := Iff.rfl

@[simp] theorem wp_note {Q : Unit → Session Digest → Prop} (event : NativeEvent Digest) :
    wp (note event) Q E s ↔ Q () { s with
      memory := s.memory.note event, disk := s.disk.map (Recorded.note event) } := Iff.rfl

theorem wp_lift {Q : α → Session Digest → Prop} (x : Except LiveInstallError α) :
    wp (lift x) Q E s ↔
      (∀ a, x = .ok a → Q a s) ∧ ∀ error, x = .error error → E (.liveInstall error) s := by
  cases x with
  | ok a => simp [lift]
  | error error => simp [lift]

@[simp] theorem wp_lift_ok {Q : α → Session Digest → Prop} (a : α) :
    wp (lift (.ok a)) Q E s ↔ Q a s := Iff.rfl

@[simp] theorem wp_lift_error {Q : α → Session Digest → Prop} (error : LiveInstallError) :
    wp (lift (.error error)) Q E s ↔ E (.liveInstall error) s := Iff.rfl

theorem wp_liftRead {Refusal : Type} (refusal : Refusal → Failure)
    {Q : α → Session Digest → Prop} (x : Except (ReadError Refusal) α) :
    wp (liftRead refusal x) Q E s ↔
      (∀ a, x = .ok a → Q a s) ∧ ∀ error, x = .error error → E (error.failure refusal) s := by
  cases x with
  | ok a => simp [liftRead]
  | error error => simp [liftRead]

@[simp] theorem wp_raiseWhen {Q : Unit → Session Digest → Prop} (condition : Prop)
    [Decidable condition] (error : LiveInstallError) :
    wp (raiseWhen condition error) Q E s ↔
      (¬ condition → Q () s) ∧ (condition → E (.liveInstall error) s) := by
  by_cases hcondition : condition <;> simp [raiseWhen, raiseIf, hcondition]

theorem wp_tick {Q : Unit → Session Digest → Prop} :
    wp tick Q E s ↔ (s.steps = 0 → E .stopped s) ∧
      ∀ steps, s.steps = steps + 1 → Q () { s with steps } := by
  unfold wp tick
  cases hsteps : s.steps with
  | zero => simp
  | succ steps => simp

/-- The receipt written next is stored. -/
def Session.Stores (session : Session Digest) : Prop :=
  ∃ steps, session.steps = steps + 1 ∧ session.writes steps = .stored

/-- The receipt written next replaces the one on disk, synchronized or not. -/
def Session.Replaces (session : Session Digest) : Prop :=
  ∃ steps, session.steps = steps + 1 ∧ ∀ message, session.writes steps ≠ .refused message

theorem wp_publish {Q : Unit → Session Digest → Prop} :
    wp publish Q E s ↔
      (s.writes s.steps = .stored → Q () { s with disk := some s.memory }) ∧
      (∀ message, s.writes s.steps = .refused message → E (.liveInstall ⟨message, 2⟩) s) ∧
      ∀ message, s.writes s.steps = .unsynced message →
        E (.liveInstall ⟨message, 2⟩) { s with disk := some s.memory } := by
  unfold publish
  rw [wp_bind, wp_get]
  cases hwrite : s.writes s.steps with
  | stored => simp [store]
  | refused message => simp
  | unsynced message => simp [store]

end Effects

section Walk

variable {Digest : Type} [DecidableEq Digest] {host : Fingerprints Digest} {reset lost : Prop}
  {intent : Intent Digest} {s : Session Digest} {k : Nat}

/-- Wherever a run ends early, it leaves the world in good order. -/
abbrev EndsGood (host : Fingerprints Digest) (reset lost : Prop) :
    Failure → Session Digest → Prop :=
  fun _ session => Good host reset lost session.toWorld

namespace Good

variable {world : World Digest}

theorem emit (h : Good host reset lost world) (event : Event Digest)
    (hevent : EventOk host reset lost event) :
    Good host reset lost { world with trace := event :: world.trace } := by
  refine ⟨h.sound, h.history, fun other hmem => ?_⟩
  rcases List.mem_cons.mp hmem with rfl | hmem
  · exact hevent
  · exact h.trace other hmem

theorem store (h : Good host reset lost world) {recorded : Recorded Digest}
    (hsound : Sound host.intent recorded.receipt) (hhistory : History host lost recorded) :
    Good host reset lost { world with disk := some recorded } :=
  ⟨fun _ hdisk => (Option.some.inj hdisk) ▸ hsound,
    fun _ hdisk => (Option.some.inj hdisk) ▸ hhistory, h.trace⟩

theorem files (h : Good host reset lost world) (files : TransactionFiles Digest) :
    Good host reset lost { world with files } := ⟨h.sound, h.history, h.trace⟩

theorem checkExisting (h : Good host reset lost world) :
    LiveInstall.checkExisting host world.disk = .ok () := by
  cases hdisk : world.disk with
  | none => rfl
  | some recorded => simp only [LiveInstall.checkExisting, (h.sound recorded hdisk).valid]; rfl

end Good

namespace Holds

/-- A change that leaves the native transaction alone. -/
theorem change (h : Holds host reset lost intent s k) {receipt : Receipt Digest} {k' : Nat}
    (hsound : SoundAt host.intent receipt k') (hintent : receipt.intent = s.memory.receipt.intent)
    (hnative : receipt.nativeTransaction = s.memory.receipt.nativeTransaction) :
    Holds host reset lost intent (s.withReceipt receipt) k' := by
  refine ⟨h.good, hsound, ⟨?_, fun htransport => ?_⟩, hintent.trans h.intent⟩
  · rw [withReceipt_receipt, withReceipt_history, hnative]
    exact h.history.writes
  · rw [withReceipt_receipt, withReceipt_history, hnative]
    have hsame : receipt.transportMode = s.memory.receipt.transportMode :=
      congrArg Intent.transportMode hintent
    exact h.history.verified (hsame ▸ htransport)

theorem emit (h : Holds host reset lost intent s k) (event : Event Digest)
    (hevent : EventOk host reset lost event) :
    Holds host reset lost intent { s with trace := event :: s.trace } k :=
  ⟨h.good.emit event hevent, h.sound, h.history, h.intent⟩

theorem steps (h : Holds host reset lost intent s k) (steps : Nat) :
    Holds host reset lost intent { s with steps } k := ⟨h.good, h.sound, h.history, h.intent⟩

end Holds

/-- Of a valid receipt over a valid one, only a stop or the write itself keeps
`_persist` from writing. -/
theorem wp_persist {Q : Unit → Session Digest → Prop} {E : Failure → Session Digest → Prop}
    (hvalid : validateReceipt host.intent s.memory.receipt = .ok ())
    (hexisting : checkExisting host s.disk = .ok ()) :
    wp (persist host) Q E s ↔
      (s.steps = 0 → E .stopped { s with trace := .handed s.memory.receipt :: s.trace }) ∧
        ∀ steps, s.steps = steps + 1 →
          (s.writes steps = .stored → Q () { s with
            steps, trace := .handed s.memory.receipt :: s.trace, disk := some s.memory }) ∧
          (∀ message, s.writes steps = .refused message → E (.liveInstall ⟨message, 2⟩) { s with
            steps, trace := .handed s.memory.receipt :: s.trace }) ∧
          ∀ message, s.writes steps = .unsynced message → E (.liveInstall ⟨message, 2⟩) { s with
            steps, trace := .handed s.memory.receipt :: s.trace, disk := some s.memory } := by
  unfold persist writeReceipt
  simp only [wp_bind, wp_get, wp_emit, hvalid, hexisting, wp_lift_ok, wp_tick, wp_publish]

namespace Holds

/-- `_persist` writes what the session holds, or leaves the session as good as it was. -/
theorem persist (h : Holds host reset lost intent s k) :
    wp (LiveInstall.persist host)
      (fun _ s' => Holds host reset lost intent s' k ∧ s'.memory = s.memory)
      (fun failure s' => Good host reset lost s'.toWorld ∧
        (failure.recordable = true → Holds host reset lost intent s' k)) s := by
  have hgood := h.good.emit (.handed s.memory.receipt) (.inr h.sound.valid)
  have hstored := hgood.store ⟨k, h.sound⟩ h.history
  rw [wp_persist h.sound.valid h.good.checkExisting]
  refine ⟨fun _ => ⟨hgood, fun hrecordable => by cases hrecordable⟩, fun steps _ => ⟨fun _ => ?_,
    fun message _ => ⟨hgood, fun _ => ?_⟩, fun message _ => ⟨hstored, fun _ => ?_⟩⟩⟩
  · exact ⟨⟨hstored, h.sound, h.history, h.intent⟩, rfl⟩
  · exact ⟨hgood, h.sound, h.history, h.intent⟩
  · exact ⟨hstored, h.sound, h.history, h.intent⟩

theorem handoff {α : Type} (h : Holds host reset lost intent s k) (action : String)
    (expectations : List String) (Q : α → Session Digest → Prop) :
    wp (LiveInstall.handoff host action expectations) Q
      (fun failure s' => Good host reset lost s'.toWorld ∧
        (failure.recordable = true → Holds host reset lost intent s' k)) s := by
  unfold LiveInstall.handoff
  rw [wp_bind]
  exact wp_mono h.persist
    (fun _ _ h' => ⟨h'.1.good, fun hrecordable => by cases hrecordable⟩) (fun _ _ h' => h')

/-- What `handoff` guarantees where only the world matters. -/
theorem handoffGood {α : Type} (h : Holds host reset lost intent s k) (action : String)
    (expectations : List String) (Q : α → Session Digest → Prop) :
    wp (LiveInstall.handoff host action expectations) Q (EndsGood host reset lost) s :=
  wp_mono (h.handoff action expectations Q) (fun _ _ h' => h') (fun _ _ h' => h'.1)

theorem persistGood (h : Holds host reset lost intent s k) :
    wp (LiveInstall.persist host)
      (fun _ s' => Holds host reset lost intent s' k ∧ s'.memory = s.memory)
      (EndsGood host reset lost) s :=
  wp_mono h.persist (fun _ _ h' => h') (fun _ _ h' => h'.1)

/-- A receipt that is not stored ends the run. -/
theorem persistFails (h : Holds host reset lost intent s k) (hfails : ¬ s.Stores)
    (Q : Unit → Session Digest → Prop) :
    wp (LiveInstall.persist host) Q (EndsGood host reset lost) s := by
  have hgood := h.good.emit (.handed s.memory.receipt) (.inr h.sound.valid)
  rw [wp_persist h.sound.valid h.good.checkExisting]
  refine ⟨fun _ => hgood, fun steps hsteps => ⟨fun hstored => ?_, fun _ _ => hgood,
    fun _ _ => hgood.store ⟨k, h.sound⟩ h.history⟩⟩
  exact absurd ⟨steps, hsteps, hstored⟩ hfails

/-- Evidence accepted in place. -/
theorem accept (h : Holds host reset lost intent s k) (evidence : Evidence Digest) :
    wp (LiveInstall.accept host evidence)
      (fun _ s' => ∃ k' ≤ k, Holds host reset lost intent s' k' ∧
        s'.memory.receipt.stateEpoch = evidence.epoch ∧
        (k' = k ∨ evidence.epoch = s.memory.receipt.stateEpoch + 1 ∧
          k' = resetRank s.memory.receipt evidence k) ∧
        (s'.Stores ↔ s.Stores))
      (EndsGood host reset lost) s := by
  have hgood := h.good.emit (.accepting s.memory.receipt) ⟨k, h.sound⟩
  unfold LiveInstall.accept
  simp only [wp_bind, wp_current, wp_emit, wp_lift, wp_modify]
  refine ⟨fun accepted hok => ?_, fun _ _ => hgood⟩
  obtain ⟨-, hepoch, hintent, k', hle, hsound, hreset⟩ := h.sound.accepted hok
  have hnative := acceptDiscoveryEvidence_native hok
  refine ⟨k', hle, ⟨hgood, hsound, ⟨?_, fun htransport => ?_⟩, hintent.trans h.intent⟩, hepoch,
    hreset, .rfl⟩
  · refine h.history.writes.imp id (fun hwrites => ?_)
    simp only [hnative]
    split
    · intro written hmem
      cases hmem
    · exact hwrites
  · have hverified := h.history.verified
      ((congrArg Intent.transportMode hintent).symm.trans htransport)
    simp only [hnative]
    split
    · trivial
    · exact hverified

end Holds

end Walk

end RouterKit.LiveInstall
