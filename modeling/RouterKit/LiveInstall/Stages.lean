import RouterKit.LiveInstall.Walk

/-!
Every stage of the coordinator, one lemma each: entered in good order, it returns
in good order with its stages done, or ends the run and leaves the world so.
-/

namespace RouterKit.LiveInstall

open RouterKit.Lib.Checked RouterKit.Lib.Programs
open RouterKit.Netcraze (LiveState LocalEndpointManifest)
open RouterKit.Netcraze.External (Packet Phase)
open Stage

variable {Digest : Type} [DecidableEq Digest] {host : Fingerprints Digest} {reset lost : Prop}
  {intent : Intent Digest} {s : Session Digest} {k : Nat} {invocation : Invocation Digest}
  {args : Args} {evidence : Option (Evidence Digest)}

/-- The program ends in good order with at least `k` stages done. -/
abbrev Reaches (host : Fingerprints Digest) (reset lost : Prop) (intent : Intent Digest)
    (k : Nat) (x : Coord Digest Unit) (s : Session Digest) : Prop :=
  wp x (fun _ s' => ∃ k', k ≤ k' ∧ Holds host reset lost intent s' k')
    (EndsGood host reset lost) s

/-- Before the component stage comes evidence that undoes the installation while it
reports the component ready, and the receipt that accepts it is stored. -/
def UndoneBeforeComponent (session : Session Digest) (evidence : Option (Evidence Digest)) :
    Prop :=
  session.Stores ∧ ∃ document, evidence = some document ∧
    document.epoch = session.memory.receipt.stateEpoch + 1 ∧ undoesInstallation document ∧
    document.component.present = true ∧ document.checks .proxyComponent = .pass

namespace Holds

theorem done_iff (h : Holds host reset lost intent s k) (stage : Stage) :
    stageDone s.memory.receipt stage = true ↔ stage.rank < k := h.sound.progress.done_iff stage

theorem endpointManifest (h : Holds host reset lost intent s k) (site : ManifestSite) :
    wp (LiveInstall.endpointManifest invocation site) (fun _ s' => s' = s)
      (EndsGood host reset lost) s := by
  unfold LiveInstall.endpointManifest
  rw [wp_liftRead]
  exact ⟨fun _ _ => rfl, fun _ _ => h.good⟩

/-- A delegate other than one that writes unrecorded. -/
theorem run (h : Holds host reset lost intent s k) (delegate : Delegate)
    (hrank : delegate.firstStage.rank ≤ k)
    (hwrite : delegate = .nativeApply → invocation.nativeWrites = true → lost) :
    wp (LiveInstall.run invocation delegate)
      (fun result s' => Holds host reset lost intent s' k ∧
        s'.memory.receipt = s.memory.receipt ∧ s.steps = s'.steps + 1 ∧ s'.writes = s.writes ∧
        invocation.delegate delegate = .exited result.1 result.2 ∧
        (delegate.captured = true → result.2 ≠ .undecodable) ∧
        ((delegate = .nativeApply → invocation.nativeWrites = false) →
          s'.memory.history = s.memory.history))
      (fun failure s' => Good host reset lost s'.toWorld ∧
        (failure.recordable = true → Holds host reset lost intent s' k)) s := by
  unfold LiveInstall.run
  simp only [wp_bind, wp_tick, wp_current, wp_emit]
  refine ⟨fun _ => ⟨h.good, by simp [Failure.recordable]⟩, fun steps hsteps => ?_⟩
  have hlaunched : Holds host reset lost intent
      { s with steps, trace := .launched delegate s.memory.receipt :: s.trace } k := by
    refine (h.steps steps).emit (.launched delegate s.memory.receipt) ?_
    intro stage hlt
    rw [h.done_iff]
    omega
  cases hresult : invocation.delegate delegate with
  | notStarted => exact ⟨hlaunched.good, fun _ => hlaunched⟩
  | exited returncode stdout =>
      simp only [wp_bind, noteWrite, wp_current, wp_ite, wp_note, wp_pure, wp_throw]
      refine ⟨fun hnative => ?_, fun hquiet => ?_⟩
      · have hlost := hwrite hnative.1 hnative.2
        have hnoted : Holds host reset lost intent
            { s with
              steps
              trace := .launched delegate s.memory.receipt :: s.trace
              memory := s.memory.note (.wrote s.memory.receipt.stateEpoch)
              disk := s.disk.map (Recorded.note (.wrote s.memory.receipt.stateEpoch)) } k := by
          have hnote : ∀ recorded, History host lost recorded →
              History host lost (recorded.note (.wrote s.memory.receipt.stateEpoch)) :=
            fun recorded hhistory =>
              ⟨.inl hlost, fun htransport => (hhistory.verified htransport).append _⟩
          refine ⟨⟨fun recorded hdisk => ?_, fun recorded hdisk => ?_, hlaunched.good.trace⟩,
            h.sound, hnote _ h.history, h.intent⟩
          · obtain ⟨old, hold, rfl⟩ := Option.map_eq_some_iff.mp hdisk
            exact h.good.sound old hold
          · obtain ⟨old, hold, rfl⟩ := Option.map_eq_some_iff.mp hdisk
            exact hnote old (h.good.history old hold)
        refine ⟨fun _ => ⟨hnoted.good, by simp [Failure.recordable]⟩,
          fun hread => ⟨hnoted, rfl, hsteps, trivial, trivial, fun hcap hund => hread ⟨hcap, hund⟩,
            fun hno => ?_⟩⟩
        exact absurd hnative.2 (by rw [hno hnative.1]; exact Bool.false_ne_true)
      · exact ⟨fun _ => ⟨hlaunched.good, by simp [Failure.recordable]⟩,
          fun hread => ⟨hlaunched, trivial, hsteps, trivial, trivial,
            fun hcap hund => hread ⟨hcap, hund⟩, fun _ => trivial⟩⟩

/-- A delegate that does not write to the router. -/
theorem runGood (h : Holds host reset lost intent s k) (delegate : Delegate)
    (hrank : delegate.firstStage.rank ≤ k) (hnative : delegate ≠ .nativeApply) :
    wp (LiveInstall.run invocation delegate)
      (fun _ s' => Holds host reset lost intent s' k ∧ s'.memory.receipt = s.memory.receipt)
      (EndsGood host reset lost) s :=
  wp_mono (h.run delegate hrank (fun heq => absurd heq hnative))
    (fun _ _ h' => ⟨h'.1, h'.2.1⟩) (fun _ _ h' => h'.1)

theorem fail (h : Holds host reset lost intent s k) {stage : Stage} (hrank : k ≤ stage.rank)
    (hpost : postRebootProof ≠ stage) (error : LiveInstallError)
        (Q : Unit → Session Digest → Prop) :
    wp (do mark stage .fail; LiveInstall.persist host; throw (.liveInstall error)) Q
      (EndsGood host reset lost) s := by
  simp only [wp_bind, wp_mark, wp_throw]
  have hfailed := h.change (h.sound.fail hrank hpost) rfl rfl
  exact wp_mono hfailed.persistGood (fun _ _ h' => h'.1.good) (fun _ _ h' => h')

theorem requireStageSuccess (h : Holds host reset lost intent s k) {stage : Stage}
    (hrank : k ≤ stage.rank) (hpost : postRebootProof ≠ stage) (returncode : Int)
    (label : String) :
    wp (LiveInstall.requireStageSuccess host returncode label stage) (fun _ s' => s' = s)
      (EndsGood host reset lost) s := by
  unfold LiveInstall.requireStageSuccess
  split
  · exact rfl
  · exact h.fail hrank hpost _ _

theorem checkReadiness (h : Holds host reset lost intent s k) (hk : k ≤ 1) {stage : Stage}
    (hstage : stage = networkPreflight ∧ k = 0 ∨ stage = usbExt4EntwareReadiness)
    (document : Evidence Digest) :
    Reaches host reset lost intent 2
      (LiveInstall.checkReadiness host invocation stage document) s := by
  unfold LiveInstall.checkReadiness
  rw [Reaches, wp_bind]
  refine wp_mono (h.accept document) (fun _ s₁ haccepted => ?_) (fun _ _ h' => h')
  obtain ⟨k₁, hle, h₁, -, -⟩ := haccepted
  rw [wp_ite]
  refine ⟨fun _ => h₁.handoffGood _ _ _, fun _ => ?_⟩
  rw [wp_bind]
  refine wp_mono (h₁.runGood .preflight (Nat.zero_le _) (by simp)) (fun result s₂ hrun => ?_)
    (fun _ _ h' => h')
  obtain ⟨h₂, -⟩ := hrun
  have hpost : postRebootProof ≠ stage := by
    rcases hstage with ⟨rfl, -⟩ | rfl <;> simp
  have hrank : k₁ ≤ stage.rank := by
    rcases hstage with ⟨rfl, rfl⟩ | rfl <;> simp only [Stage.rank] <;> omega
  simp only [wp_bind, wp_mark]
  refine wp_mono (h₂.requireStageSuccess hrank hpost _ _) (fun _ s₃ hsame => ?_)
    (fun _ _ h' => h')
  subst hsame
  have hready := h₂.change (h₂.sound.readiness (hle.trans hk)) rfl rfl
  exact wp_mono hready.persistGood (fun _ _ h' => ⟨2, le_rfl, h'.1⟩) (fun _ _ h' => h')

theorem attemptReadiness (h : Holds host reset lost intent s k) (hk : k ≤ 1) {stage : Stage}
    (hstage : stage = networkPreflight ∧ k = 0 ∨ stage = usbExt4EntwareReadiness) (stale : Bool) :
    Reaches host reset lost intent 2
      (LiveInstall.attemptReadiness host invocation evidence stage stale) s := by
  unfold LiveInstall.attemptReadiness
  rw [Reaches, wp_ite]
  refine ⟨fun _ => h.handoffGood _ _ _, fun _ => ?_⟩
  cases evidence with
  | none => exact h.handoffGood _ _ _
  | some document => exact h.checkReadiness hk hstage document

theorem readinessStages (h : Holds host reset lost intent s k) :
    Reaches host reset lost intent 2 (LiveInstall.readinessStages host invocation evidence) s := by
  unfold LiveInstall.readinessStages
  simp only [Reaches, wp_bind, wp_current, wp_ite, wp_pure, h.done_iff]
  refine ⟨fun hdone => ⟨k, hdone.2, h⟩, fun hnot => ?_⟩
  have hk : k ≤ 1 := by
    simp only [Stage.rank] at hnot
    omega
  have hstage : (if networkPreflight.rank < k then usbExt4EntwareReadiness else networkPreflight) =
        networkPreflight ∧ k = 0 ∨
      (if networkPreflight.rank < k then usbExt4EntwareReadiness else networkPreflight) =
        usbExt4EntwareReadiness := by
    split
    · exact .inr rfl
    · rename_i hzero
      simp only [Stage.rank] at hzero
      exact .inl ⟨rfl, by omega⟩
  refine ⟨fun _ => ?_, fun _ => h.attemptReadiness hk hstage false⟩
  unfold notFresh
  split
  · exact h.attemptReadiness hk hstage true
  · exact h.attemptReadiness hk hstage _
  · exact h.good

theorem delegatedStage (h : Holds host reset lost intent s k) {delegate : Delegate}
    {label : String} {done : Coord Digest Unit} (hrank : delegate.firstStage.rank ≤ k)
    (hnative : delegate ≠ .nativeApply) (hpost : postRebootProof ≠ delegate.firstStage)
    (hdone : ∀ s₁, Holds host reset lost intent s₁ delegate.firstStage.rank →
      wp done (fun _ s' => Holds host reset lost intent s' (delegate.firstStage.rank + 1))
        (EndsGood host reset lost)
        (s₁.withReceipt (markStage s₁.memory.receipt delegate.firstStage .pass))) :
    Reaches host reset lost intent (delegate.firstStage.rank + 1)
      (LiveInstall.delegatedStage host invocation delegate label done) s := by
  unfold LiveInstall.delegatedStage
  simp only [Reaches, wp_bind, wp_current, wp_ite, wp_pure, h.done_iff]
  refine ⟨fun hless => ⟨k, hless, h⟩, fun hnot => ?_⟩
  obtain rfl : k = delegate.firstStage.rank := by omega
  refine wp_mono (h.runGood delegate le_rfl hnative) (fun result s₁ hrun => ?_)
    (fun _ _ h' => h')
  obtain ⟨h₁, -⟩ := hrun
  simp only [wp_mark]
  refine wp_mono (h₁.requireStageSuccess le_rfl hpost _ _) (fun _ s₂ hsame => ?_)
    (fun _ _ h' => h')
  subst hsame
  refine wp_mono (hdone _ h₁) (fun _ s₃ h₃ => ?_) (fun _ _ h' => h')
  exact wp_mono h₃.persistGood (fun _ _ h' => ⟨_, le_rfl, h'.1⟩) (fun _ _ h' => h')

theorem bootstrapStage (h : Holds host reset lost intent s k) (hk : 2 ≤ k) :
    Reaches host reset lost intent 3 (LiveInstall.bootstrapStage host invocation) s :=
  h.delegatedStage hk (by simp) (by simp [Delegate.firstStage])
    (fun _ h₁ => h₁.change (h₁.sound.plain rfl (.inl rfl)) rfl rfl)

theorem backupStage (h : Holds host reset lost intent s k) (hk : 6 ≤ k) :
    Reaches host reset lost intent 7 (LiveInstall.backupStage host invocation) s :=
  h.delegatedStage hk (by simp) (by simp [Delegate.firstStage])
    (fun _ h₁ => h₁.change (h₁.sound.plain rfl (.inr (.inl rfl))) rfl rfl)

theorem installStage (h : Holds host reset lost intent s k) (hk : 7 ≤ k) :
    Reaches host reset lost intent 8 (LiveInstall.installStage host invocation) s :=
  h.delegatedStage hk (by simp) (by simp [Delegate.firstStage])
    (fun _ h₁ => h₁.change (h₁.sound.plain rfl (.inr (.inr rfl))) rfl rfl)

theorem healthcheckStage (h : Holds host reset lost intent s k) (hk : 8 ≤ k) :
    Reaches host reset lost intent 9 (LiveInstall.healthcheckStage host invocation) s :=
  h.delegatedStage hk (by simp) (by simp [Delegate.firstStage])
    (fun _ h₁ => h₁.change h₁.sound.healthcheck rfl rfl)

theorem setupStages (h : Holds host reset lost intent s k) (hk : 3 ≤ k) :
    Reaches host reset lost intent 6 (LiveInstall.setupStages host invocation) s := by
  unfold LiveInstall.setupStages
  simp only [Reaches, wp_bind, wp_current, wp_ite, h.done_iff]
  refine ⟨fun hdone => ?_, fun hnot => ?_⟩
  · refine wp_mono (h.endpointManifest _) (fun manifest s₁ hsame => ?_) (fun _ _ h' => h')
    subst hsame
    rw [wp_raiseWhen]
    exact ⟨fun _ => ⟨k, hdone, h⟩, fun _ => h.good⟩
  · obtain rfl : k = 3 := by
      have htogether := h.sound.fields.together
      simp only [Stage.rank] at hnot
      omega
    refine wp_mono (h.runGood .setup le_rfl (by simp)) (fun result s₁ hrun => ?_)
      (fun _ _ h' => h')
    obtain ⟨h₁, -⟩ := hrun
    simp only [wp_mark, wp_update]
    refine wp_mono (h₁.requireStageSuccess le_rfl (by simp) _ _) (fun _ s₂ hsame => ?_)
      (fun _ _ h' => h')
    subst hsame
    refine wp_mono (h₁.endpointManifest _) (fun manifest s₃ hsame => ?_) (fun _ _ h' => h')
    subst hsame
    have hsetup := h₁.change (h₁.sound.setup (manifestFingerprint host manifest)) rfl rfl
    exact wp_mono hsetup.persistGood (fun _ _ h' => ⟨6, le_rfl, h'.1⟩) (fun _ _ h' => h')

theorem autostartStage (h : Holds host reset lost intent s k) (hk : 9 ≤ k)
    (hmode : intent.runtimeMode = .localRouter) :
    Reaches host reset lost intent 10 (LiveInstall.autostartStage host invocation) s := by
  unfold LiveInstall.autostartStage
  simp only [Reaches, wp_bind, wp_current, wp_ite, wp_pure, h.done_iff]
  refine ⟨fun hdone => ⟨k, hdone, h⟩, fun hnot => ?_⟩
  obtain rfl : k = 9 := by
    simp only [Stage.rank] at hnot
    omega
  refine wp_mono (h.runGood .autostart le_rfl (by simp)) (fun result s₁ hrun => ?_)
    (fun _ _ h' => h')
  obtain ⟨h₁, -⟩ := hrun
  obtain ⟨returncode, stdout⟩ := result
  refine wp_mono (h₁.requireStageSuccess le_rfl (by simp) _ _) (fun _ s₂ hsame => ?_)
    (fun _ _ h' => h')
  subst hsame
  cases stdout with
  | undecodable => exact h₁.fail le_rfl (by simp) _ _
  | notJson => exact h₁.fail le_rfl (by simp) _ _
  | tooNested => exact h₁.good
  | notObject => exact h₁.good
  | object payload =>
      simp only [wp_ite, wp_bind, wp_mark, wp_update, wp_updateFinal]
      refine ⟨fun _ => h₁.fail le_rfl (by simp) _ _, fun _ => ?_⟩
      have hlocal : s₂.memory.receipt.runtimeMode = .localRouter := by
        rw [← hmode, ← h₁.intent]
        rfl
      have hstarted := h₁.change (h₁.sound.autostart hlocal) rfl rfl
      exact wp_mono hstarted.persistGood (fun _ _ h' => ⟨10, le_rfl, h'.1⟩) (fun _ _ h' => h')

/-- In external-evidence mode the intent says how a runtime is accepted. -/
theorem disposition (h : Holds host reset lost intent s k)
    (hmode : intent.runtimeMode = .externalEvidence) :
    s.memory.receipt.runtimeDisposition = .pending ∨
      s.memory.receipt.runtimeDisposition =
        if intent.adoptExistingRuntime then .adopted else .externalExecuted := by
  have hmode' : s.memory.receipt.runtimeMode = .externalEvidence := by
    rw [← hmode, ← h.intent]
    rfl
  have hadopt : intent.adoptExistingRuntime = s.memory.receipt.adoptExistingRuntime := by
    rw [← h.intent]
    rfl
  rw [hadopt]
  have hruntime := h.sound.runtime
  cases hdisposition : s.memory.receipt.runtimeDisposition with
  | pending => exact .inl rfl
  | executed =>
      have hlocal := (hruntime.executed hdisposition).1
      rw [hmode'] at hlocal
      cases hlocal
  | adopted => simp [(hruntime.adopted hdisposition).2.1]
  | externalExecuted => simp [(hruntime.externalExecuted hdisposition).2.1]

theorem recordRuntime (h : Holds host reset lost intent s k) (hk : k < 10)
    (hmode : intent.runtimeMode = .externalEvidence)
    (hadopt : intent.adoptExistingRuntime = args.adoptExistingRuntime) (fingerprint : Digest)
    (document : Evidence Digest) :
    Reaches host reset lost intent 10
      (LiveInstall.recordRuntime host args fingerprint document) s := by
  unfold LiveInstall.recordRuntime
  simp only [Reaches, wp_bind, wp_update]
  refine wp_mono (h.accept document) (fun _ s₁ haccepted => ?_) (fun _ _ h' => h')
  obtain ⟨k₁, hle, h₁, -, -⟩ := haccepted
  have hmode₁ : s₁.memory.receipt.runtimeMode = .externalEvidence := by
    rw [← hmode, ← h₁.intent]
    rfl
  have hadopt₁ : s₁.memory.receipt.adoptExistingRuntime = args.adoptExistingRuntime := by
    rw [← hadopt, ← h₁.intent]
    rfl
  have hsound := h₁.sound.recordRuntime (by omega) hmode₁ hadopt₁ fingerprint
    (host.evidence document)
  obtain ⟨stages, hstages⟩ := markAll_eq (acceptedStatuses args) { s₁.memory.receipt with
    endpointManifestFingerprint := some fingerprint
    runtimeEvidenceFingerprint := some (host.evidence document)
    runtimeDisposition := if args.adoptExistingRuntime then .adopted else .externalExecuted }
  have hrecorded := h₁.change hsound (by rw [hstages]; rfl) (by rw [hstages]; rfl)
  exact wp_mono hrecorded.persistGood (fun _ _ h' => ⟨10, le_rfl, h'.1⟩) (fun _ _ h' => h')

theorem acceptFreshRuntime (h : Holds host reset lost intent s k) (hk : k < 10)
    (hmode : intent.runtimeMode = .externalEvidence)
    (hadopt : intent.adoptExistingRuntime = args.adoptExistingRuntime) :
    Reaches host reset lost intent 10
      (LiveInstall.acceptFreshRuntime host invocation args evidence) s := by
  unfold LiveInstall.acceptFreshRuntime runtimeExecutionHandoff
  simp only [Reaches, wp_ite]
  refine ⟨fun _ => h.handoffGood _ _ _, fun _ => ⟨fun _ => h.handoffGood _ _ _, fun _ => ?_⟩⟩
  rw [wp_bind]
  refine wp_mono (h.endpointManifest _) (fun manifest s₁ hsame => ?_) (fun _ _ h' => h')
  subst hsame
  simp only [wp_bind, wp_raiseWhen, wp_current, wp_ite]
  refine ⟨fun _ => ⟨fun _ => h.handoffGood _ _ _, fun _ => ?_⟩, fun _ => h.good⟩
  cases evidence with
  | none => exact h.good
  | some document => exact h.recordRuntime hk hmode hadopt _ document

theorem acceptExternalRuntime (h : Holds host reset lost intent s k)
    (hmode : intent.runtimeMode = .externalEvidence)
    (hadopt : intent.adoptExistingRuntime = args.adoptExistingRuntime) :
    Reaches host reset lost intent 10
      (LiveInstall.acceptExternalRuntime host invocation args evidence) s := by
  have hinstalled : ∀ {s : Session Digest} {k : Nat}, Holds host reset lost intent s k →
      s.memory.receipt.runtimeDisposition ≠ .pending → 10 ≤ k := by
    intro s k h hdisposition
    have hpending := h.sound.runtime.pending
    by_contra hless
    exact hdisposition (hpending.mpr (by omega))
  have hfresh : ∀ {s : Session Digest} {k : Nat}, Holds host reset lost intent s k →
      s.memory.receipt.runtimeDisposition = .pending →
      Reaches host reset lost intent 10
        (LiveInstall.acceptFreshRuntime host invocation args evidence) s :=
    fun h hpending => h.acceptFreshRuntime (h.sound.runtime.pending.mp hpending) hmode hadopt
  unfold LiveInstall.acceptExternalRuntime
  simp only [Reaches, wp_bind, wp_current, wp_ite]
  refine ⟨fun haccepted => ?_, fun hnot => ?_⟩
  · have hdisposition : s.memory.receipt.runtimeDisposition ≠ .pending := by
      rcases haccepted with h' | h' <;> simp [h']
    refine wp_mono (h.endpointManifest _) (fun manifest s₁ hsame => ?_) (fun _ _ h' => h')
    subst hsame
    rw [wp_raiseWhen]
    refine ⟨fun _ => ?_, fun _ => h.good⟩
    cases evidence with
    | none => exact ⟨k, hinstalled h hdisposition, h⟩
    | some document =>
        simp only [wp_bind, wp_current, wp_ite, wp_pure]
        refine wp_mono (h.accept document) (fun _ s₂ h₂ => ?_) (fun _ _ h' => h')
        obtain ⟨k₂, -, h₂, -, -⟩ := h₂
        refine ⟨fun hsame => ⟨k₂, hinstalled h₂ (hsame ▸ hdisposition), h₂⟩, fun hchanged => ?_⟩
        -- a disposition that is no longer the accepted one can only be pending
        refine hfresh h₂ ((h₂.disposition hmode).resolve_right (fun hother => hchanged ?_))
        rw [hother, (h.disposition hmode).resolve_left hdisposition]
  · refine hfresh h ((h.disposition hmode).resolve_right (fun hother => hnot ?_))
    rw [hother]
    split <;> simp

theorem runInstallationStages (h : Holds host reset lost intent s k) {runtimeMode : RuntimeMode}
    (hmode : intent.runtimeMode = runtimeMode)
    (hadopt : intent.adoptExistingRuntime = args.adoptExistingRuntime) :
    Reaches host reset lost intent 10
      (LiveInstall.runInstallationStages host invocation args evidence runtimeMode) s := by
  unfold LiveInstall.runInstallationStages
  cases runtimeMode with
  | externalEvidence => exact h.acceptExternalRuntime hmode hadopt
  | localRouter =>
      simp only [Reaches, wp_bind]
      refine wp_mono h.readinessStages (fun _ s₁ h₁ => ?_) (fun _ _ h' => h')
      obtain ⟨k₁, hk₁, h₁⟩ := h₁
      refine wp_mono (h₁.bootstrapStage hk₁) (fun _ s₂ h₂ => ?_) (fun _ _ h' => h')
      obtain ⟨k₂, hk₂, h₂⟩ := h₂
      refine wp_mono (h₂.setupStages hk₂) (fun _ s₃ h₃ => ?_) (fun _ _ h' => h')
      obtain ⟨k₃, hk₃, h₃⟩ := h₃
      refine wp_mono (h₃.backupStage hk₃) (fun _ s₄ h₄ => ?_) (fun _ _ h' => h')
      obtain ⟨k₄, hk₄, h₄⟩ := h₄
      refine wp_mono (h₄.installStage hk₄) (fun _ s₅ h₅ => ?_) (fun _ _ h' => h')
      obtain ⟨k₅, hk₅, h₅⟩ := h₅
      refine wp_mono (h₅.healthcheckStage hk₅) (fun _ s₆ h₆ => ?_) (fun _ _ h' => h')
      obtain ⟨k₆, hk₆, h₆⟩ := h₆
      exact h₆.autostartStage hk₆ hmode

theorem acceptBeforeComponent (h : Holds host reset lost intent s k) (hk : 10 ≤ k)
    (hreset : reset ∨ ¬ UndoneBeforeComponent s evidence) :
    wp (LiveInstall.acceptBeforeComponent host evidence)
      (fun _ s' => ∃ k', Holds host reset lost intent s' k' ∧
        (∀ document, evidence = some document →
          s'.memory.receipt.stateEpoch = document.epoch) ∧
        (10 ≤ k' ∨ ∃ document, evidence = some document ∧ (reset ∨
          document.component.present = false ∨ document.checks .proxyComponent ≠ .pass)))
      (EndsGood host reset lost) s := by
  unfold LiveInstall.acceptBeforeComponent
  cases evidence with
  | none => exact ⟨k, h, fun _ hnone => (by cases hnone), .inl hk⟩
  | some document =>
      rw [wp_bind]
      refine wp_mono (h.accept document) (fun _ s₁ h₁ => ?_) (fun _ _ h' => h')
      obtain ⟨k₁, -, h₁, hepoch, hnext, hstores⟩ := h₁
      by_cases hstored : s₁.Stores
      swap
      · exact h₁.persistFails hstored _
      refine wp_mono h₁.persistGood (fun _ s₂ h₂ => ?_) (fun _ _ h' => h')
      refine ⟨k₁, h₂.1, fun other hsome => ?_, ?_⟩
      · rw [h₂.2, hepoch, Option.some.inj hsome]
      · by_cases hlate : 10 ≤ k₁
        · exact .inl hlate
        refine .inr ⟨document, rfl, hreset.imp id (fun hnot => ?_)⟩
        have hnext' := hnext.resolve_left (by omega)
        have hundoes := undoes_of_resetRank (hnext'.2 ▸ not_le.mp hlate) hk
        by_contra hready
        simp only [not_or, Bool.not_eq_false, not_not] at hready
        exact hnot ⟨hstores.mp hstored, document, rfl, hnext'.1, hundoes, hready.1, hready.2⟩

/-- Handing over a receipt whose component stage passed before its installation. -/
private theorem persist_disordered (h : Holds host reset lost intent s k) (hk : k < 10)
    (hreset : reset) (rebootRequired : Bool) (Q : Unit → Session Digest → Prop) :
    wp (LiveInstall.persist host) Q (EndsGood host reset lost)
      (s.withReceipt (markStage { s.memory.receipt with rebootRequired := some rebootRequired }
        nativeProxyComponent .pass)) := by
  have hinvalid : ∀ u, validateReceipt host.intent
      (markStage { s.memory.receipt with rebootRequired := some rebootRequired }
        nativeProxyComponent .pass) ≠ .ok u := by
    intro u hvalid
    simp only [validateReceipt, bind_eq_ok, exists_unit] at hvalid
    obtain ⟨-, -, -, -, -, -, horder, -⟩ := hvalid
    rw [checkStageOrder_eq_ok, stageOrder, List.pairwise_append] at horder
    have hstarted := horder.2.2.2 Stage.autostart (by simp [installationStages])
      nativeProxyComponent (by simp)
    rw [stageDone_iff, status_markStage_self, stageDone_iff, status_markStage (by simp)] at hstarted
    have hdone := (h.done_iff Stage.autostart).mp (stageDone_iff.mpr (hstarted (.inl rfl)))
    simp only [Stage.rank] at hdone
    omega
  unfold LiveInstall.persist writeReceipt
  simp only [wp_bind, wp_get, wp_emit, wp_lift, withReceipt_receipt]
  refine ⟨fun u hvalid => absurd hvalid (hinvalid u), fun error _ => ?_⟩
  exact h.good.emit (.handed _) (.inl hreset)

theorem componentStage (h : Holds host reset lost intent s k)
    (hready : 10 ≤ k ∨ ∃ document, evidence = some document ∧ (reset ∨
      document.component.present = false ∨ document.checks .proxyComponent ≠ .pass)) :
    wp (LiveInstall.componentStage host evidence)
      (fun _ s' => ∃ k', 11 ≤ k' ∧ Holds host reset lost intent s' k' ∧
        s'.memory.receipt.stateEpoch = s.memory.receipt.stateEpoch)
      (EndsGood host reset lost) s := by
  unfold LiveInstall.componentStage
  simp only [wp_bind, wp_current, wp_ite, wp_pure, h.done_iff]
  refine ⟨fun hdone => ⟨k, hdone, h, trivial⟩, fun hnot => ?_⟩
  cases evidence with
  | none => exact h.handoffGood _ _ _
  | some document =>
      simp only [wp_ite, wp_bind, wp_raiseWhen, wp_update, wp_mark]
      refine ⟨fun _ => h.handoffGood _ _ _, fun hpresent => ⟨fun hcheck => ?_, fun _ => h.good⟩⟩
      simp only [Stage.rank] at hnot
      by_cases hlate : 10 ≤ k
      · obtain rfl : k = 10 := by omega
        have hcomponent := h.change (h.sound.component document.component.rebootRequired) rfl rfl
        refine wp_mono hcomponent.persistGood (fun _ s₁ h₁ => ⟨11, le_rfl, h₁.1, ?_⟩)
          (fun _ _ h' => h')
        rw [h₁.2]
        rfl
      · obtain ⟨other, hother, hbad⟩ := hready.resolve_left hlate
        obtain rfl := Option.some.inj hother
        have hmet : reset := by
          rcases hbad with hreset | hmissing | hunready
          · exact hreset
          · simp [hmissing] at hpresent
          · exact absurd hunready hcheck
        exact persist_disordered h (by omega) hmet _ _

theorem rebootStage (h : Holds host reset lost intent s k) (hk : 11 ≤ k)
    (hepoch : ∀ document, evidence = some document →
      s.memory.receipt.stateEpoch = document.epoch) :
    Reaches host reset lost intent 13 (LiveInstall.rebootStage host args evidence) s := by
  unfold LiveInstall.rebootStage
  simp only [Reaches, wp_bind, wp_current, wp_ite, wp_pure, h.done_iff]
  have htogether := h.sound.fields.together
  refine ⟨fun hdone => ⟨k, ?_, h⟩, fun hnot => ?_⟩
  · simp only [Stage.rank] at hdone
    omega
  obtain rfl : k = 11 := by
    simp only [Stage.rank] at hnot
    omega
  refine ⟨fun _ => ?_, fun _ => ?_⟩
  · simp only [wp_mark]
    have hskipped := h.change h.sound.rebootSkipped rfl rfl
    exact wp_mono hskipped.persistGood (fun _ _ h' => ⟨13, le_rfl, h'.1⟩) (fun _ _ h' => h')
  · cases evidence with
    | none =>
        simp only [rebootCompleted, wp_ite, requireReboot, wp_throw]
        exact ⟨fun _ => h.handoffGood _ _ _, fun _ => h.good⟩
    | some document =>
        by_cases hcompleted : document.rebootCompleted = true
        · simp only [rebootCompleted, hcompleted, if_true, proveReboot, wp_bind, wp_raiseWhen,
            wp_mark, wp_update]
          refine ⟨fun hfresh => ⟨fun _ => ?_, fun _ => h.good⟩, fun _ => h.good⟩
          have hproven := h.change (h.sound.rebootProven (by
            rw [hepoch document rfl]
            omega)) rfl rfl
          exact wp_mono hproven.persistGood (fun _ _ h' => ⟨13, le_rfl, h'.1⟩) (fun _ _ h' => h')
        · simp only [rebootCompleted, hcompleted, Bool.false_eq_true, if_false, wp_ite,
            requireReboot]
          exact ⟨fun _ => h.handoffGood _ _ _, fun _ => h.handoffGood _ _ _⟩

theorem componentAndReboot (h : Holds host reset lost intent s k) (hk : 10 ≤ k)
    (hreset : reset ∨ ¬ UndoneBeforeComponent s evidence) :
    Reaches host reset lost intent 13 (LiveInstall.componentAndReboot host args evidence) s := by
  unfold LiveInstall.componentAndReboot
  simp only [Reaches, wp_bind]
  refine wp_mono (h.acceptBeforeComponent hk hreset) (fun _ s₁ h₁ => ?_) (fun _ _ h' => h')
  obtain ⟨k₁, h₁, hepoch, hready⟩ := h₁
  refine wp_mono (h₁.componentStage hready) (fun _ s₂ h₂ => ?_) (fun _ _ h' => h')
  obtain ⟨k₂, hk₂, h₂, hsame⟩ := h₂
  exact h₂.rebootStage hk₂ (fun document hsome => hsame.trans (hepoch document hsome))

end Holds

end RouterKit.LiveInstall
