import RouterKit.LiveInstall.Native

/-!
From the native stage to the final result. A write of the local native stage is
recorded by the receipt only where the apply reports it, verified, and the receipt
gets to disk. A finished stage whose receipt cannot be written is marked as failed,
which makes a receipt that contradicts itself.
-/

namespace RouterKit.LiveInstall

open RouterKit.Lib.Checked RouterKit.Lib.Programs
open Stage

variable {Digest : Type} [DecidableEq Digest] {host : Fingerprints Digest} {reset lost : Prop}
  {intent : Intent Digest} {s : Session Digest} {k : Nat} {invocation : Invocation Digest}
  {args : Args} {evidence : Option (Evidence Digest)}

/-- The apply delegate reports a verified write, and the receipt that says so, the
third effect from here, replaces the one on disk. -/
def RecordsWrite (result : DelegateResult) (session : Session Digest) : Prop :=
  (∃ steps, session.steps = steps + 3 ∧ ∀ message, session.writes steps ≠ .refused message) ∧
    ∃ payload : DelegatePayload, result = .exited 0 (.object payload) ∧
    payload.verified = true ∧ payload.writeRequired = true

/-- The local native stage, from this session, changes the router with no receipt
to show for it: the apply is launched, it writes, and that is not recorded. -/
def LosesWrite (invocation : Invocation Digest) (session : Session Digest) : Prop :=
  invocation.nativeWrites = true ∧ 2 ≤ session.steps ∧
    (∃ stdout, invocation.delegate .nativePlan = .exited 0 stdout ∧ stdout ≠ .undecodable) ∧
    invocation.delegate .nativeApply ≠ .notStarted ∧
    ¬ RecordsWrite (invocation.delegate .nativeApply) session

theorem requireSuccess_eq_ok {returncode : Int} {label : String} {u : Unit} :
    requireSuccess returncode label = .ok u ↔ returncode = 0 := by
  simp only [requireSuccess, bind_eq_ok, raiseIf_eq_ok, exists_unit]
  constructor
  · rintro ⟨-, hzero⟩
    omega
  · rintro rfl
    exact ⟨by decide, by simp⟩

/-- The receipt that `_local_native_stage` writes. -/
def localRecorded (payload : DelegatePayload) (receipt : Receipt Digest) : Receipt Digest :=
  { markStage
      { receipt with
        nativeTransaction := { receipt.nativeTransaction with
          status := .pass
          writeRequired := some payload.writeRequired
          saveRequired := some payload.writeRequired
          preEpoch := some receipt.stateEpoch
          dnsRefreshRequired := payload.writeRequired } }
      nativeProxyPolicyTransaction .pass with
    finalVerification := { receipt.finalVerification with nativeRouting := .pass } }

omit [DecidableEq Digest] in
@[simp] theorem wp_noteLocalNative {Q : Unit → Session Digest → Prop}
    {E : Failure → Session Digest → Prop} (payload : DelegatePayload) :
    wp (noteLocalNative payload) Q E s ↔
      Q () (s.withReceipt (localRecorded payload s.memory.receipt)) := Iff.rfl

/-- What the native stage does of its transport before its last `_persist`. -/
def transportWork (host : Fingerprints Digest) (invocation : Invocation Digest) (args : Args) :
    Coord Digest Unit :=
  match args.transport with
  | .localNdmc => localNativeWork invocation
  | .external => externalNativeWork host invocation args

theorem transportStage_eq : transportStage host invocation args = (do
    transportWork host invocation args
    persist host) := by
  unfold transportStage transportWork
  cases args.transport <;> rfl

/-- The open native stage is finished in memory, and the write of that receipt
fails. -/
def CompletionUnwritten (host : Fingerprints Digest) (invocation : Invocation Digest)
    (args : Args) (session : Session Digest) : Prop :=
  stageDone session.memory.receipt nativeProxyPolicyTransaction = false ∧
    ∃ after, transportWork host invocation args session = .ok () after ∧ after.Unwritten

/-- Noting a verified apply finishes the stage, in a session that may already hold
its write. -/
theorem finished_local (payload : DelegatePayload)
    (hdisk : ∀ recorded, s.disk = some recorded → Sound host.intent recorded.receipt)
    (hkept : ¬ s.Replaces → ∀ recorded, s.disk = some recorded → History host lost recorded)
    (htrace : ∀ event ∈ s.trace, EventOk host reset lost event)
    (hsound : SoundAt host.intent s.memory.receipt 13)
    (hintent : s.memory.receipt.intent = intent) (hlocal : intent.transportMode = .localNdmc)
    (hwrites : lost ∨ ∀ epoch, NativeEvent.wrote epoch ∈ s.memory.history →
      payload.writeRequired = true ∧ epoch = s.memory.receipt.stateEpoch) :
    Finished host reset lost intent (s.withReceipt (localRecorded payload s.memory.receipt)) := by
  refine ⟨hdisk, hkept, htrace, hsound.native rfl (by simp), ⟨?_, fun hexternal => ?_⟩, hintent⟩
  · refine hwrites.imp id (fun hall epoch hmem => ?_)
    obtain ⟨hrequired, rfl⟩ := hall epoch hmem
    exact ⟨rfl, hrequired, rfl⟩
  · have htransport : intent.transportMode = .external := by
      rw [← hintent]
      exact hexternal
    rw [hlocal] at htransport
    cases htransport

namespace Holds

/-- What is left of the local work after the apply: its output, and what the receipt
makes of it. -/
theorem applied (h : Holds host reset lost intent s 13) (hlocal : intent.transportMode = .localNdmc)
    {returncode : Int} {stdout : Stdout}
    (hnone : lost ∨ ∀ epoch, NativeEvent.wrote epoch ∉ s.memory.history) :
    wp (do
      lift (requireSuccess returncode "local ndmc native apply")
      match stdout with
      | .undecodable | .notJson =>
          throw (.liveInstall ⟨"Local native adapter returned invalid JSON.", 1⟩)
      | .tooNested => throw (.unhandled .recursionError)
      | .notObject => throw (.unhandled .attributeError)
      | .object payload => do
          raiseWhen (¬ payload.verified) ⟨"Local native adapter did not verify applied state.", 1⟩
          noteLocalNative payload)
      (fun _ s' => Finished host reset lost intent s') (EndsOpen host reset lost intent) s := by
  rw [wp_bind, wp_lift]
  refine ⟨fun _ _ => ?_, fun _ _ => h.isOpen _⟩
  cases stdout with
  | undecodable => exact h.isOpen _
  | notJson => exact h.isOpen _
  | tooNested => exact h.isOpen _
  | notObject => exact h.isOpen _
  | object payload =>
      rw [wp_bind, wp_raiseWhen]
      refine ⟨fun _ => ?_, fun _ => h.isOpen _⟩
      exact finished_local payload h.good.sound (fun _ => h.good.history) h.good.trace h.sound
        h.intent hlocal (hnone.imp id (fun hnone epoch hmem => absurd hmem (hnone epoch)))

theorem localNativeWork (h : Holds host reset lost intent s 13)
    (hlocal : intent.transportMode = .localNdmc) (hlose : lost ∨ ¬ LosesWrite invocation s) :
    wp (LiveInstall.localNativeWork invocation)
      (fun _ s' => Finished host reset lost intent s') (EndsOpen host reset lost intent) s := by
  unfold LiveInstall.localNativeWork
  rw [wp_bind]
  refine wp_mono (h.run .nativePlan le_rfl (by simp)) (fun planned s₁ hplan => ?_)
    (fun _ _ h' => h')
  obtain ⟨h₁, hreceipt, hsteps, hsame, hplanned, hread, -⟩ := hplan
  rw [wp_bind, wp_lift]
  refine ⟨fun _ hzero => ?_, fun _ _ => h₁.isOpen _⟩
  rw [requireSuccess_eq_ok] at hzero
  rw [hzero] at hplanned
  rw [wp_bind]
  by_cases hquiet : lost ∨ invocation.nativeWrites = false
  · have hwrite : Delegate.nativeApply = .nativeApply → invocation.nativeWrites = true → lost :=
      fun _ hwrites => hquiet.resolve_right (by simp [hwrites])
    refine wp_mono (h₁.run .nativeApply le_rfl hwrite) (fun applied s₂ happly => ?_)
      (fun _ _ h' => h')
    exact happly.1.applied hlocal happly.1.no_writes
  -- the apply writes, so the receipt that says so replaces the one on disk
  obtain ⟨hnotLost, hwrites⟩ := not_or.mp hquiet
  rw [Bool.not_eq_false] at hwrites
  have hbefore : ∀ epoch, NativeEvent.wrote epoch ∉ s₁.memory.history :=
    h₁.no_writes.resolve_left hnotLost
  unfold LiveInstall.run
  simp only [wp_bind, wp_tick, wp_current, wp_emit]
  refine ⟨fun _ => ⟨h₁.good, by simp [Failure.recordable]⟩, fun steps hmore => ?_⟩
  have hlaunched : Holds host reset lost intent
      { s₁ with steps, trace := .launched .nativeApply s₁.memory.receipt :: s₁.trace } 13 := by
    refine (h₁.steps steps).emit (.launched .nativeApply s₁.memory.receipt) ?_
    intro stage hlt
    rw [h₁.done_iff]
    exact hlt
  have hrecords : invocation.delegate .nativeApply ≠ .notStarted →
      RecordsWrite (invocation.delegate .nativeApply) s := by
    intro hstarted
    by_contra hunrecorded
    exact hlose.resolve_left hnotLost
      ⟨hwrites, by omega, ⟨planned.2, hplanned, hread rfl⟩, hstarted,
        hunrecorded⟩
  cases hresult : invocation.delegate .nativeApply with
  | notStarted => exact ⟨hlaunched.good, fun _ => hlaunched⟩
  | exited returncode stdout =>
      obtain ⟨⟨left, henough, hreplaces⟩, payload, hreported, hverified, hrequired⟩ :=
        hrecords (by simp [hresult])
      rw [hresult] at hreported
      obtain ⟨rfl, rfl⟩ := DelegateResult.exited.inj hreported
      simp only [wp_bind, noteWrite, wp_current, wp_ite, wp_note, wp_pure, wp_throw, hwrites,
        and_self, not_true_eq_false, false_implies, and_true, forall_const, reduceCtorEq,
        and_false, not_false_eq_true, true_and]
      rw [show requireSuccess 0 "local ndmc native apply" = .ok () from rfl, wp_lift_ok,
        wp_raiseWhen]
      refine ⟨fun _ => ?_, fun hnot => absurd hverified hnot⟩
      rw [wp_noteLocalNative]
      refine finished_local payload ?_ (fun hkept => absurd ?_ hkept) hlaunched.good.trace
        h₁.sound h₁.intent hlocal (.inr fun epoch hmem => ?_)
      · intro recorded hdisk
        obtain ⟨old, hold, rfl⟩ := Option.map_eq_some_iff.mp hdisk
        exact h₁.good.sound old hold
      · refine ⟨left, by simp only; omega, fun message => ?_⟩
        simp only [hsame]
        exact hreplaces message
      · rcases List.mem_append.mp hmem with hold | hnew
        · exact absurd hold (hbefore epoch)
        · cases List.mem_singleton.mp hnew
          exact ⟨hrequired, rfl⟩

/-- The native stage marked as failed over a transaction that has passed: such a
receipt is handed over and refused. -/
private theorem persist_contradictory (hgood : Good host reset lost s.toWorld) (hreset : reset)
    (hsound : SoundAt host.intent s.memory.receipt 14) (Q : Unit → Session Digest → Prop) :
    wp (LiveInstall.persist host) Q (EndsGood host reset lost)
      (s.withReceipt (markStage s.memory.receipt nativeProxyPolicyTransaction .fail)) := by
  have hinvalid : ∀ u, validateReceipt host.intent
      (markStage s.memory.receipt nativeProxyPolicyTransaction .fail) ≠ .ok u := by
    intro u hvalid
    simp only [validateReceipt, bind_eq_ok, exists_unit] at hvalid
    obtain ⟨-, -, -, -, -, -, -, -, -, hlater, -⟩ := hvalid
    simp only [validateLaterStages, bind_eq_ok, exists_unit, raiseIf_eq_ok, not_not] at hlater
    obtain ⟨-, -, -, hnative, -⟩ := hlater
    have hpassed := hnative.mpr (hsound.fields.native.mpr (by decide))
    simp at hpassed
  unfold LiveInstall.persist writeReceipt
  simp only [wp_bind, wp_get, wp_emit, wp_lift, withReceipt_receipt]
  refine ⟨fun u hvalid => absurd hvalid (hinvalid u), fun error _ => ?_⟩
  exact hgood.emit (.handed _) (.inl hreset)

/-- A failure of the native stage is recorded over an open stage, or over a finished
one whose write has failed. -/
theorem recordFailure {failure : Failure} (hgood : Good host reset lost s.toWorld)
    (hend : failure.recordable = true → Holds host reset lost intent s 13 ∨
      reset ∧ SoundAt host.intent s.memory.receipt 14) (Q : Unit → Session Digest → Prop) :
    wp (LiveInstall.recordFailure host failure) Q (EndsGood host reset lost) s := by
  unfold LiveInstall.recordFailure
  simp only [wp_ite, wp_bind, wp_mark, wp_throw]
  refine ⟨fun hrecordable => ?_, fun _ => hgood⟩
  rcases hend hrecordable with h | ⟨hreset, hsound⟩
  · have hrank : 13 ≤ nativeProxyPolicyTransaction.rank := le_rfl
    have hfailed := h.change (h.sound.fail hrank (by simp)) rfl rfl
    exact wp_mono hfailed.persistGood (fun _ _ h' => h'.1.good) (fun _ _ h' => h')
  · exact persist_contradictory hgood hreset hsound _

theorem transportWork (h : Holds host reset lost intent s 13)
    (htransport : intent.transportMode = args.transport)
    (hlose : lost ∨ (args.transport = .localNdmc → ¬ LosesWrite invocation s)) :
    wp (LiveInstall.transportWork host invocation args)
      (fun _ s' => Finished host reset lost intent s') (EndsOpen host reset lost intent) s := by
  unfold LiveInstall.transportWork
  cases hargs : args.transport with
  | localNdmc =>
      exact h.localNativeWork (htransport.trans hargs) (hlose.imp id (fun hkept => hkept hargs))
  | external => exact h.externalNativeWork (htransport.trans hargs)

theorem nativeStage (h : Holds host reset lost intent s k) (hk : 13 ≤ k)
    (htransport : intent.transportMode = args.transport)
    (hwritten : reset ∨ ¬ CompletionUnwritten host invocation args s)
    (hlose : lost ∨ (args.transport = .localNdmc →
      stageDone s.memory.receipt nativeProxyPolicyTransaction = false →
      ¬ LosesWrite invocation s)) :
    Reaches host reset lost intent 14 (LiveInstall.nativeStage host invocation args) s := by
  unfold LiveInstall.nativeStage
  simp only [Reaches, wp_bind, wp_current, wp_ite, wp_pure, h.done_iff]
  refine ⟨fun hdone => ⟨k, hdone, h⟩, fun hnot => ?_⟩
  obtain rfl : k = 13 := by
    simp only [Stage.rank] at hnot
    omega
  have hopen : stageDone s.memory.receipt nativeProxyPolicyTransaction = false := by
    rw [← Bool.not_eq_true, h.done_iff]
    exact hnot
  have hstage : wp (transportStage host invocation args)
      (fun _ s' => Holds host reset lost intent s' 14)
      (fun failure s' => Good host reset lost s'.toWorld ∧ (failure.recordable = true →
        Holds host reset lost intent s' 13 ∨ reset ∧ SoundAt host.intent s'.memory.receipt 14))
      s := by
    have hkept : lost ∨ (args.transport = .localNdmc → ¬ LosesWrite invocation s) :=
      hlose.imp id (fun hkept hargs => hkept hargs hopen)
    have hwork := h.transportWork htransport hkept
    rw [transportStage_eq, wp_bind]
    refine wp_mono (wp_and hwork (wp_run _ _)) (fun _ s₁ hfinished => ?_)
      (fun _ _ h' => ⟨h'.1.1, fun hrecordable => .inl (h'.1.2 hrecordable)⟩)
    obtain ⟨hfinished, hrun⟩ := hfinished
    refine wp_mono hfinished.persist (fun _ _ h' => h') (fun failure s₂ h₂ => ⟨h₂.1, ?_⟩)
    intro hrecordable
    obtain ⟨hunwritten, hsound⟩ := h₂.2 hrecordable
    exact .inr ⟨hwritten.resolve_right (fun hnot => hnot ⟨hopen, s₁, hrun, hunwritten⟩), hsound⟩
  rw [wp_tryCatch]
  exact wp_mono hstage (fun _ s₁ h₁ => ⟨14, le_rfl, h₁⟩)
    (fun _ _ hend => recordFailure hend.1 hend.2 _)

theorem dnsStage (h : Holds host reset lost intent s k) (hk : 14 ≤ k) :
    Reaches host reset lost intent 15 (LiveInstall.dnsStage host evidence) s := by
  unfold LiveInstall.dnsStage
  simp only [Reaches, wp_bind, wp_current, wp_ite, wp_pure, h.done_iff]
  refine ⟨fun hdone => ⟨k, hdone, h⟩, fun hnot => ?_⟩
  obtain rfl : k = 14 := by
    simp only [Stage.rank] at hnot
    omega
  cases evidence with
  | none => exact h.handoffGood _ _ _
  | some document =>
      have hmissing : wp (refreshMissing s.memory.receipt.nativeTransaction document)
          (fun missing s' => s' = s ∧ (missing = false → lost ∨
            ∀ written, NativeEvent.wrote written ∈ s.memory.history → written < document.epoch))
          (EndsGood host reset lost) s := by
        unfold refreshMissing
        simp only [wp_ite, wp_pure]
        refine ⟨fun hrefresh => ?_, fun hrefresh => ⟨trivial, fun _ => ?_⟩⟩
        · cases hepoch : s.memory.receipt.nativeTransaction.preEpoch with
          | none => exact h.good
          | some preEpoch =>
              refine ⟨rfl, fun hlater => h.history.writes.imp id (fun hwrites written hmem => ?_)⟩
              obtain ⟨-, -, hwritten⟩ := hwrites written hmem
              rw [hepoch] at hwritten
              cases hwritten
              simpa using hlater
        · refine h.history.writes.imp id (fun hwrites written hmem => ?_)
          exact absurd (hwrites written hmem).2.1 hrefresh
      simp only [wp_bind, wp_ite]
      refine wp_mono hmissing (fun missing s₁ h₁ => ?_) (fun _ _ h' => h')
      obtain ⟨rfl, hfresh⟩ := h₁
      refine ⟨fun _ => h.handoffGood _ _ _, fun hpresent => ⟨fun _ => h.handoffGood _ _ _,
        fun _ => ?_⟩⟩
      unfold passDnsGate
      simp only [wp_bind, wp_get, wp_emit, wp_mark, wp_update, wp_updateFinal]
      have hpassed := (h.emit (.dnsPassed document.epoch s₁.memory.history)
        (hfresh (Bool.eq_false_iff.mpr hpresent))).change h.sound.dnsGate rfl rfl
      exact wp_mono hpassed.persistGood (fun _ _ h' => ⟨15, le_rfl, h'.1⟩) (fun _ _ h' => h')

theorem clientStage (h : Holds host reset lost intent s k) (hk : 15 ≤ k) :
    Reaches host reset lost intent 16 (LiveInstall.clientStage host evidence) s := by
  unfold LiveInstall.clientStage
  simp only [Reaches, wp_bind, wp_current, wp_ite, wp_pure, h.done_iff]
  refine ⟨fun hdone => ⟨k, hdone, h⟩, fun hnot => ⟨fun _ => h.handoffGood _ _ _, fun _ => ?_⟩⟩
  obtain rfl : k = 15 := by
    simp only [Stage.rank] at hnot
    omega
  simp only [wp_mark, wp_updateFinal]
  have haccepted := h.change h.sound.client rfl rfl
  exact wp_mono haccepted.persistGood (fun _ _ h' => ⟨16, le_rfl, h'.1⟩) (fun _ _ h' => h')

theorem finalStage (h : Holds host reset lost intent s k) (hk : 16 ≤ k) :
    Reaches host reset lost intent 17 (LiveInstall.finalStage host) s := by
  unfold LiveInstall.finalStage
  simp only [Reaches, wp_bind, wp_mark]
  have hfinal := h.change (h.sound.finish hk) rfl rfl
  exact wp_mono hfinal.persistGood (fun _ _ h' => ⟨17, le_rfl, h'.1⟩) (fun _ _ h' => h')

theorem nativeDnsClientStages (h : Holds host reset lost intent s k) (hk : 13 ≤ k)
    (htransport : intent.transportMode = args.transport)
    (hwritten : reset ∨ ¬ CompletionUnwritten host invocation args s)
    (hlose : lost ∨ (args.transport = .localNdmc →
      stageDone s.memory.receipt nativeProxyPolicyTransaction = false →
      ¬ LosesWrite invocation s)) :
    Reaches host reset lost intent 17
      (LiveInstall.nativeDnsClientStages host invocation args evidence) s := by
  unfold LiveInstall.nativeDnsClientStages
  simp only [Reaches, wp_bind]
  refine wp_mono (h.nativeStage hk htransport hwritten hlose) (fun _ s₁ h₁ => ?_) (fun _ _ h' => h')
  obtain ⟨k₁, hk₁, h₁⟩ := h₁
  refine wp_mono (h₁.dnsStage hk₁) (fun _ s₂ h₂ => ?_) (fun _ _ h' => h')
  obtain ⟨k₂, hk₂, h₂⟩ := h₂
  refine wp_mono (h₂.clientStage hk₂) (fun _ s₃ h₃ => ?_) (fun _ _ h' => h')
  obtain ⟨k₃, hk₃, h₃⟩ := h₃
  exact h₃.finalStage hk₃

end Holds

end RouterKit.LiveInstall
