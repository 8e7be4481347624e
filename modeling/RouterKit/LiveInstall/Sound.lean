import RouterKit.LiveInstall.Evidence

/-!
The receipts the coordinator works on. The finished stages of such a receipt are
the first `k` of the order, and every other field is tied to `k`; the validator
accepts all of them. Each change the coordinator makes to a receipt has its lemma
here: what it does to `k`, and that the ties hold again after it.
-/

namespace RouterKit.LiveInstall

open RouterKit.Lib.Checked
open Stage

theorem Stage.rank_injective : Function.Injective Stage.rank := by
  intro left right h
  cases left <;> cases right <;> first | rfl | (simp [Stage.rank] at h)

theorem Stage.rank_lt (stage : Stage) : stage.rank < 17 := by
  cases stage <;> simp [Stage.rank]

theorem mem_installationStages {stage : Stage} :
    stage ∈ installationStages ↔ stage.rank < 10 := by
  cases stage <;> simp [installationStages, Stage.rank]

theorem pairwise_rank : stageOrder.Pairwise (fun first second => first.rank < second.rank) := by
  simp [stageOrder, installationStages, Stage.rank]

section Status

variable {Digest : Type} {r : Receipt Digest} {stage other : Stage} {status : StageStatus}

/-- PASS and SKIPPED. -/
def StageStatus.done (status : StageStatus) : Prop := status = .pass ∨ status = .skipped

theorem stageDone_iff : stageDone r stage = true ↔ (r.status stage).done := by
  simp [stageDone, StageStatus.done]

@[simp] theorem status_markStage_self : (markStage r stage status).status stage = status := by
  simp [markStage, Receipt.status]

theorem status_markStage (hne : other ≠ stage) :
    (markStage r stage status).status other = r.status other := by
  simp [markStage, Receipt.status, Function.update_of_ne hne]

theorem stages_markStage (hne : other ≠ stage) :
    (markStage r stage status).stages other = r.stages other := by
  simp [markStage, Function.update_of_ne hne]

theorem status_resetFromStage :
    (resetFromStage r stage).status other =
      if stage.rank ≤ other.rank then .pending else r.status other := by
  show (if stage.rank ≤ other.rank then ({} : StageRecord) else r.stages other).status = _
  split <;> rfl

end Status

section Invariant

variable {Digest : Type}

/-- The stages: the first `k` are done, and nothing else is. -/
structure Progress (r : Receipt Digest) (k : Nat) : Prop where
  done_iff : ∀ stage, stageDone r stage = true ↔ stage.rank < k
  bound : k ≤ 17
  not_skipped : ∀ stage, r.status stage = .skipped →
    stage.rank < 10 ∨ stage = controlledReboot ∨ stage = postRebootProof
  skipped_together : r.status controlledReboot = .skipped →
    r.status postRebootProof = .pending ∨ r.status postRebootProof = .skipped
  post_not_fail : r.status postRebootProof ≠ .fail
  fail_epoch : ∀ stage, r.status stage = .fail → (r.stages stage).epoch ≠ none

/-- How the installation was done, once it is. -/
structure Runtime (r : Receipt Digest) (k : Nat) : Prop where
  pending : r.runtimeDisposition = .pending ↔ k < 10
  executed : r.runtimeDisposition = .executed → r.runtimeMode = .localRouter ∧
    ∀ stage ∈ installationStages, r.status stage = .pass
  adopted : r.runtimeDisposition = .adopted → r.runtimeMode = .externalEvidence ∧
    r.adoptExistingRuntime = true ∧ r.runtimeEvidenceFingerprint ≠ none ∧
    ∀ entry ∈ expectedAdopted, r.status entry.1 = entry.2
  externalExecuted : r.runtimeDisposition = .externalExecuted →
    r.runtimeMode = .externalEvidence ∧ r.adoptExistingRuntime = false ∧
    r.runtimeEvidenceFingerprint ≠ none ∧ ∀ stage ∈ installationStages, r.status stage = .pass
  localRouter : r.runtimeMode = .localRouter → r.runtimeEvidenceFingerprint = none ∧
    ∀ stage ∈ installationStages, r.status stage ≠ .skipped

def finalAt (k : Nat) : FinalVerification where
  installation := gate (9 < k)
  xray := gate (8 < k)
  autostart := gate (9 < k)
  nativeRouting := gate (13 < k)
  dns := gate (14 < k)
  clientDomainHttps := gate (15 < k)

/-- The other fields. Some stages are only ever finished together, so `k` skips
the numbers between them. -/
structure Fields (r : Receipt Digest) (k : Nat) : Prop where
  together : k ≠ 4 ∧ k ≠ 5 ∧ k ≠ 12
  endpoint : 5 < k → r.endpointManifestFingerprint ≠ none
  rebootRequired : 10 < k → r.rebootRequired ≠ none
  completed : r.status controlledReboot = .pass → r.completedRebootEpoch ≠ none
  completed_pos : r.completedRebootEpoch ≠ some 0
  native : r.nativeTransaction.status = .pass ↔ 13 < k
  dns : r.dnsGateStatus = .pass ↔ 14 < k
  final : r.finalVerification = finalAt k
  refresh : r.nativeTransaction.dnsRefreshRequired = true → r.nativeTransaction.preEpoch ≠ none

/-- An intent that `build_intent` hands out. -/
structure Intent.Supported (intent : Intent Digest) : Prop where
  contract : intent.hardwareContract = defaultHardwareContract
  slot : intent.selectedProfileSlot ∈ [1, 2, 3]

structure Identified (intentFingerprint : Intent Digest → Digest) (r : Receipt Digest) : Prop where
  schema : r.schema = receiptSchema
  intent : r.intentFingerprint = intentFingerprint r.intent
  supported : r.intent.Supported

/-- Evidence is only ever accepted for the epoch the receipt is then in. -/
structure Discovered (r : Receipt Digest) : Prop where
  both : r.discovery.epoch = none ↔ r.discovery.evidenceFingerprint = none
  epoch : ∀ epoch, r.discovery.epoch = some epoch → epoch = r.stateEpoch

structure SoundAt (intentFingerprint : Intent Digest → Digest) (r : Receipt Digest) (k : Nat) :
    Prop where
  identified : Identified intentFingerprint r
  discovered : Discovered r
  progress : Progress r k
  runtime : Runtime r k
  fields : Fields r k

def Sound (intentFingerprint : Intent Digest → Digest) (r : Receipt Digest) : Prop :=
  ∃ k, SoundAt intentFingerprint r k

end Invariant

section Validator

variable {Digest : Type} {r : Receipt Digest} {k : Nat}

theorem checkStageOrder_eq_ok {seen : Bool} {stages : List Stage} :
    checkStageOrder r seen stages = .ok () ↔
      (seen = true → ∀ stage ∈ stages, stageDone r stage = false) ∧
        stages.Pairwise (fun first second => stageDone r second → stageDone r first) := by
  induction stages generalizing seen with
  | nil => simp [checkStageOrder]
  | cons stage rest ih =>
      by_cases hdone : stageDone r stage = true
      · simp only [checkStageOrder, hdone, if_true, bind_eq_ok, raiseIf_eq_ok, exists_unit, ih,
          List.forall_mem_cons, List.pairwise_cons]
        constructor
        · rintro ⟨hseen, -, hrest⟩
          exact ⟨fun h => absurd h hseen, fun _ _ _ => trivial, hrest⟩
        · rintro ⟨hseen, -, hrest⟩
          have hnot : seen ≠ true := fun h => by simpa using (hseen h).1
          exact ⟨hnot, fun h => absurd h hnot, hrest⟩
      · simp only [Bool.not_eq_true] at hdone
        simp only [checkStageOrder, hdone, Bool.false_eq_true, if_false, ih, true_implies,
          List.forall_mem_cons, List.pairwise_cons, imp_false, Bool.not_eq_true, true_and]
        constructor
        · rintro ⟨hnone, hrest⟩
          exact ⟨fun _ => hnone, hnone, hrest⟩
        · rintro ⟨-, hnone, hrest⟩
          exact ⟨hnone, hrest⟩

namespace Progress

variable (progress : Progress r k)
include progress

theorem stageDone_eq (stage : Stage) : stageDone r stage = decide (stage.rank < k) := by
  rw [Bool.eq_iff_iff, progress.done_iff, decide_eq_true_eq]

/-- Of the stages that are never skipped, the done ones are the passed ones. -/
theorem pass_iff {stage : Stage} (hrank : 10 ≤ stage.rank) (hreboot : stage ≠ controlledReboot)
    (hpost : stage ≠ postRebootProof) : r.status stage = .pass ↔ stage.rank < k := by
  rw [← progress.done_iff, stageDone_iff, StageStatus.done]
  have hskip : r.status stage ≠ .skipped := by
    intro hskip
    rcases progress.not_skipped stage hskip with h | h | h
    · omega
    · exact hreboot h
    · exact hpost h
  simp [hskip]

theorem installation_all : installationStages.all (stageDone r) = decide (9 < k) := by
  rw [Bool.eq_iff_iff, List.all_eq_true, decide_eq_true_eq]
  constructor
  · intro hall
    exact (progress.done_iff Stage.autostart).mp (hall _ (by simp [installationStages]))
  · intro hk stage hmem
    rw [mem_installationStages] at hmem
    exact (progress.done_iff stage).mpr (by omega)

theorem expectedFinal_eq : expectedFinal r = finalAt k := by
  have hpass : ∀ {stage : Stage}, 10 ≤ stage.rank → stage ≠ controlledReboot →
      stage ≠ postRebootProof → decide (r.status stage = .pass) = decide (stage.rank < k) :=
    fun hrank hreboot hpost => decide_eq_decide.mpr (progress.pass_iff hrank hreboot hpost)
  simp only [expectedFinal, finalAt, progress.installation_all, progress.stageDone_eq]
  rw [hpass (by simp [Stage.rank]) (by simp) (by simp),
    hpass (by simp [Stage.rank]) (by simp) (by simp),
    hpass (by simp [Stage.rank]) (by simp) (by simp)]
  rfl

theorem syncFinalVerification_final : (syncFinalVerification r).finalVerification = finalAt k := by
  simp only [syncFinalVerification, progress.installation_all, progress.stageDone_eq]
  rfl

theorem ordered : checkStageOrder r false stageOrder = .ok () := by
  rw [checkStageOrder_eq_ok]
  refine ⟨by simp, pairwise_rank.imp ?_⟩
  intro first second hlt hdone
  rw [progress.done_iff] at hdone ⊢
  omega

end Progress

private theorem runtime_accepted (runtime : Runtime r k) :
    validateRuntimeDisposition r = .ok () := by
  simp only [validateRuntimeDisposition, bind_eq_ok, raiseIf_eq_ok, exists_unit, not_and, not_or,
    not_not]
  refine ⟨fun h => ?_, fun h => ?_, fun h => ?_⟩
  · exact ⟨(runtime.executed h).1, (runtime.localRouter (runtime.executed h).1).1⟩
  · obtain ⟨hmode, hadopt, hevidence, -⟩ := runtime.adopted h
    exact ⟨hmode, hadopt, hevidence⟩
  · obtain ⟨hmode, hadopt, hevidence, -⟩ := runtime.externalExecuted h
    exact ⟨hmode, by simp [hadopt], hevidence⟩

private theorem runtimeStages_accepted (progress : Progress r k) (runtime : Runtime r k) :
    validateRuntimeStages r = .ok () := by
  simp only [validateRuntimeStages, bind_eq_ok, raiseIf_eq_ok, exists_unit, not_and, not_not,
    progress.installation_all, decide_eq_true_eq]
  refine ⟨fun h => ?_, fun h => (runtime.executed h).2,
    fun h => (runtime.externalExecuted h).2.2.2, fun h => (runtime.adopted h).2.2.2⟩
  have hk := runtime.pending.mp h
  omega

private theorem laterStages_accepted (progress : Progress r k) (fields : Fields r k) :
    validateLaterStages r = .ok () := by
  simp only [validateLaterStages, bind_eq_ok, raiseIf_eq_ok, exists_unit, not_and, not_not]
  refine ⟨fun h => ?_, fun h hpending => ?_, fields.completed, ?_, ?_, ?_, fun h => ?_⟩
  · rw [progress.pass_iff (by simp [Stage.rank]) (by simp) (by simp)] at h
    exact fields.rebootRequired h
  · exact (progress.skipped_together h).resolve_left hpending
  · rw [progress.pass_iff (by simp [Stage.rank]) (by simp) (by simp), fields.native]
    rfl
  · rw [progress.pass_iff (by simp [Stage.rank]) (by simp) (by simp), fields.dns]
    rfl
  · rw [fields.final, progress.expectedFinal_eq]
  · rw [progress.pass_iff (by simp [Stage.rank]) (by simp) (by simp)] at h
    have hk : 16 < k := h
    rw [fields.final]
    simp only [FinalVerification.allPass, finalAt, gate]
    refine ⟨?_, ?_, ?_, ?_, ?_, ?_⟩ <;> (rw [decide_eq_true (by omega)]; rfl)

variable [DecidableEq Digest] {intentFingerprint : Intent Digest → Digest}

/-- The validator accepts what the invariant describes. -/
theorem SoundAt.valid (h : SoundAt intentFingerprint r k) :
    validateReceipt intentFingerprint r = .ok () := by
  simp only [validateReceipt, bind_eq_ok, raiseIf_eq_ok, exists_unit, not_not,
    runtime_accepted h.runtime, h.progress.ordered, runtimeStages_accepted h.progress h.runtime,
    laterStages_accepted h.progress h.fields, true_and]
  refine ⟨h.identified.schema, h.identified.supported.contract, h.identified.supported.slot,
    h.discovered.both,
    h.fields.completed_pos, ?_, h.identified.intent⟩
  rintro ⟨hdone, hnone⟩
  exact h.fields.endpoint ((h.progress.done_iff strictPlan).mp hdone) hnone

theorem Sound.valid (h : Sound intentFingerprint r) :
    validateReceipt intentFingerprint r = .ok () := by
  obtain ⟨k, hk⟩ := h
  exact hk.valid

end Validator

section Changes

variable {Digest : Type} {r r' : Receipt Digest} {k k' : Nat} {stage : Stage}
  {status : StageStatus}

namespace Progress

theorem initial (hpending : ∀ stage, r.stages stage = {}) : Progress r 0 := by
  have hstatus : ∀ stage, r.status stage = .pending := fun stage => by
    rw [Receipt.status, hpending]
  refine ⟨fun stage => ?_, by omega, fun stage h => ?_, fun h => ?_, ?_, fun stage h => ?_⟩
  · rw [stageDone_iff, StageStatus.done, hstatus]
    simp
  · rw [hstatus] at h
    cases h
  · rw [hstatus] at h
    cases h
  · rw [hstatus]
    simp
  · rw [hstatus] at h
    cases h

theorem congr (progress : Progress r k) (hstages : r'.stages = r.stages) : Progress r' k := by
  have hstatus : r'.status = r.status := by
    unfold Receipt.status
    rw [hstages]
  refine ⟨fun stage => ?_, progress.bound, ?_, ?_, ?_, ?_⟩
  · rw [stageDone_iff, hstatus, ← stageDone_iff, progress.done_iff]
  · rw [hstatus]
    exact progress.not_skipped
  · rw [hstatus]
    exact progress.skipped_together
  · rw [hstatus]
    exact progress.post_not_fail
  · rw [hstatus, hstages]
    exact progress.fail_epoch

/-- Finishing a stage no later than the next one. -/
theorem mark (progress : Progress r k) (hrank : stage.rank ≤ k) (hdone : status.done)
    (hskip : status = .skipped →
      stage.rank < 10 ∨ stage = controlledReboot ∨ stage = postRebootProof)
    (hlink : (markStage r stage status).status controlledReboot = .skipped →
      (markStage r stage status).status postRebootProof = .pending ∨
        (markStage r stage status).status postRebootProof = .skipped) :
    Progress (markStage r stage status) (max k (stage.rank + 1)) := by
  have hlt := stage.rank_lt
  have hbound := progress.bound
  have hfail : status ≠ .fail := by
    rintro rfl
    rcases hdone with h | h <;> cases h
  refine ⟨fun other => ?_, by omega, fun other h => ?_, hlink, ?_, fun other h => ?_⟩
  · by_cases hother : other = stage
    · subst hother
      rw [stageDone_iff, status_markStage_self]
      simp [hdone]
    · have hne : other.rank ≠ stage.rank := fun h => hother (Stage.rank_injective h)
      rw [stageDone_iff, status_markStage hother, ← stageDone_iff, progress.done_iff]
      omega
  · by_cases hother : other = stage
    · subst hother
      rw [status_markStage_self] at h
      exact hskip h
    · rw [status_markStage hother] at h
      exact progress.not_skipped other h
  · by_cases hother : postRebootProof = stage
    · rw [← hother, status_markStage_self]
      exact hfail
    · rw [status_markStage hother]
      exact progress.post_not_fail
  · by_cases hother : other = stage
    · subst hother
      rw [status_markStage_self] at h
      exact absurd h hfail
    · rw [stages_markStage hother]
      rw [status_markStage hother] at h
      exact progress.fail_epoch other h

theorem pass (progress : Progress r k) (stage : Stage) (hrank : stage.rank ≤ k)
    (hreboot : controlledReboot ≠ stage)
    (hpost : postRebootProof ≠ stage) :
    Progress (markStage r stage .pass) (max k (stage.rank + 1)) := by
  refine progress.mark hrank (.inl rfl) (by simp) ?_
  rw [status_markStage hreboot, status_markStage hpost]
  exact progress.skipped_together

theorem skip (progress : Progress r k) (hrank : stage.rank ≤ k) (hearly : stage.rank < 10) :
    Progress (markStage r stage .skipped) (max k (stage.rank + 1)) := by
  have hne : ∀ other : Stage, 10 ≤ other.rank → other ≠ stage := by
    rintro other hother rfl
    omega
  refine progress.mark hrank (.inr rfl) (fun _ => .inl hearly) ?_
  rw [status_markStage (hne _ (by simp [Stage.rank])),
      status_markStage (hne _ (by simp [Stage.rank]))]
  exact progress.skipped_together

/-- A stage that is not done may fail. -/
theorem fail (progress : Progress r k) (hrank : k ≤ stage.rank) (hpost : postRebootProof ≠ stage) :
    Progress (markStage r stage .fail) k := by
  refine ⟨fun other => ?_, progress.bound, fun other h => ?_, fun h => ?_, ?_, fun other h => ?_⟩
  · by_cases hother : other = stage
    · subst hother
      rw [stageDone_iff, status_markStage_self]
      simp [StageStatus.done]
      omega
    · rw [stageDone_iff, status_markStage hother, ← stageDone_iff, progress.done_iff]
  · by_cases hother : other = stage
    · subst hother
      simp at h
    · rw [status_markStage hother] at h
      exact progress.not_skipped other h
  · rw [status_markStage hpost]
    by_cases hother : controlledReboot = stage
    · rw [← hother, status_markStage_self] at h
      cases h
    · rw [status_markStage hother] at h
      exact progress.skipped_together h
  · rw [status_markStage hpost]
    exact progress.post_not_fail
  · by_cases hother : other = stage
    · subst hother
      simp [markStage]
    · rw [stages_markStage hother]
      rw [status_markStage hother] at h
      exact progress.fail_epoch other h

theorem reset (progress : Progress r k) : Progress (resetFromStage r stage) (min k stage.rank) := by
  have hbound := progress.bound
  have hstages : ∀ other : Stage, other.rank < stage.rank →
      (resetFromStage r stage).stages other = r.stages other := by
    intro other hother
    show (if stage.rank ≤ other.rank then ({} : StageRecord) else r.stages other) = _
    rw [if_neg (by omega)]
  have hkept : ∀ {other : Stage} {status : StageStatus}, status ≠ .pending →
      (resetFromStage r stage).status other = status →
        other.rank < stage.rank ∧ r.status other = status := by
    intro other status hne h
    rw [status_resetFromStage] at h
    split at h
    · exact absurd h.symm hne
    · exact ⟨by omega, h⟩
  refine ⟨fun other => ?_, by omega, fun other h => ?_, fun h => ?_, fun h => ?_, fun other h => ?_⟩
  · rw [stageDone_iff, status_resetFromStage]
    split
    · simp [StageStatus.done]
      omega
    · rw [← stageDone_iff, progress.done_iff]
      omega
  · exact progress.not_skipped other (hkept (by simp) h).2
  · have htogether := progress.skipped_together (hkept (by simp) h).2
    rw [status_resetFromStage]
    split
    · exact .inl rfl
    · exact htogether
  · exact progress.post_not_fail (hkept (by simp) h).2
  · obtain ⟨hlt, hfail⟩ := hkept (by simp) h
    rw [hstages other hlt]
    exact progress.fail_epoch other hfail

end Progress

namespace Runtime

/-- Nothing of the installation is done yet, and nothing of it was skipped here. -/
theorem early (hpending : r.runtimeDisposition = .pending) (hk : k < 10)
    (hlocal : r.runtimeMode = .localRouter → r.runtimeEvidenceFingerprint = none ∧
      ∀ stage ∈ installationStages, r.status stage ≠ .skipped) : Runtime r k := by
  refine ⟨by simp [hpending, hk], fun h => ?_, fun h => ?_, fun h => ?_, hlocal⟩
  all_goals
    rw [hpending] at h
    cases h

theorem congr (runtime : Runtime r k) (hdisposition : r'.runtimeDisposition = r.runtimeDisposition)
    (hmode : r'.runtimeMode = r.runtimeMode)
    (hadopt : r'.adoptExistingRuntime = r.adoptExistingRuntime)
    (hevidence : r'.runtimeEvidenceFingerprint = r.runtimeEvidenceFingerprint)
    (hstatus : ∀ stage ∈ installationStages, r'.status stage = r.status stage)
    (hk : k' < 10 ↔ k < 10) : Runtime r' k' := by
  have hadopted : ∀ entry ∈ expectedAdopted, r'.status entry.1 = r.status entry.1 := by
    intro entry hmem
    apply hstatus
    have hmap : entry.1 ∈ expectedAdopted.map Prod.fst := List.mem_map_of_mem hmem
    exact hmap
  refine ⟨?_, fun h => ?_, fun h => ?_, fun h => ?_, fun h => ?_⟩
  · rw [hdisposition, runtime.pending, hk]
  · obtain ⟨hmode', hpass⟩ := runtime.executed (hdisposition ▸ h)
    exact ⟨hmode ▸ hmode', fun stage hmem => by rw [hstatus stage hmem, hpass stage hmem]⟩
  · obtain ⟨hmode', hadopt', hevidence', hpass⟩ := runtime.adopted (hdisposition ▸ h)
    refine ⟨hmode ▸ hmode', hadopt ▸ hadopt', hevidence ▸ hevidence', fun entry hmem => ?_⟩
    rw [hadopted entry hmem, hpass entry hmem]
  · obtain ⟨hmode', hadopt', hevidence', hpass⟩ := runtime.externalExecuted (hdisposition ▸ h)
    refine ⟨hmode ▸ hmode', hadopt ▸ hadopt', hevidence ▸ hevidence', fun stage hmem => ?_⟩
    rw [hstatus stage hmem, hpass stage hmem]
  · obtain ⟨hevidence', hskip⟩ := runtime.localRouter (hmode ▸ h)
    exact ⟨hevidence ▸ hevidence', fun stage hmem => by
      rw [hstatus stage hmem]
      exact hskip stage hmem⟩

/-- A stage after the installation changes. -/
theorem markLater (runtime : Runtime r k) (k' : Nat) (hrank : 10 ≤ stage.rank)
    (hk : k' < 10 ↔ k < 10) :
    Runtime (markStage r stage status) k' := by
  refine runtime.congr rfl rfl rfl rfl (fun other hmem => ?_) hk
  apply status_markStage
  rintro rfl
  rw [mem_installationStages] at hmem
  omega

/-- A stage changes while the installation is still incomplete after it. -/
theorem markEarly (runtime : Runtime r k) (k' : Nat) (hk : k < 10) (hk' : k' < 10)
    (hskip : status ≠ .skipped) :
    Runtime (markStage r stage status) k' := by
  refine early (runtime.pending.mpr hk) hk' (fun hmode => ?_)
  obtain ⟨hevidence, hnone⟩ := runtime.localRouter hmode
  refine ⟨hevidence, fun other hmem => ?_⟩
  by_cases hother : other = stage
  · subst hother
    rw [status_markStage_self]
    exact hskip
  · rw [status_markStage hother]
    exact hnone other hmem

theorem reset (runtime : Runtime r k) :
    Runtime (resetFromStage r stage) (min k stage.rank) := by
  by_cases hrank : stage.rank ≤ 9
  · have hpending : (resetFromStage r stage).runtimeDisposition = .pending := if_pos hrank
    have hevidence : (resetFromStage r stage).runtimeEvidenceFingerprint = none := if_pos hrank
    refine early hpending (by omega) (fun hmode => ⟨hevidence, fun other hmem => ?_⟩)
    rw [status_resetFromStage]
    split
    · simp
    · exact (runtime.localRouter hmode).2 other hmem
  · refine runtime.congr (if_neg hrank) rfl rfl (if_neg hrank) (fun other hmem => ?_) (by omega)
    rw [mem_installationStages] at hmem
    rw [status_resetFromStage, if_neg (by omega)]

end Runtime

namespace Fields

/-- A stage changes, and no field with it. -/
theorem mark (fields : Fields r k) (stage : Stage) (status : StageStatus)
    (hreboot : stage = controlledReboot → status ≠ .pass) :
    Fields (markStage r stage status) k := by
  refine ⟨fields.together, fields.endpoint, fields.rebootRequired, fun h => ?_,
    fields.completed_pos, fields.native, fields.dns, fields.final, fields.refresh⟩
  by_cases hother : controlledReboot = stage
  · rw [← hother, status_markStage_self] at h
    exact absurd h (hreboot hother.symm)
  · rw [status_markStage hother] at h
    exact fields.completed h

/-- `k` moves where no field is tied to it. -/
theorem move (fields : Fields r k) (htogether : k' ≠ 4 ∧ k' ≠ 5 ∧ k' ≠ 12)
    (hendpoint : 5 < k' → 5 < k) (hreboot : 10 < k' → 10 < k) (hnative : 13 < k ↔ 13 < k')
    (hdns : 14 < k ↔ 14 < k') (hfinal : finalAt k = finalAt k') : Fields r k' :=
  ⟨htogether, fun h => fields.endpoint (hendpoint h), fun h => fields.rebootRequired (hreboot h),
    fields.completed, fields.completed_pos, fields.native.trans hnative, fields.dns.trans hdns,
    fields.final.trans hfinal, fields.refresh⟩

theorem reset (progress : Progress r k) (fields : Fields r k)
    (hfirst : stage ≠ generate ∧ stage ≠ strictPlan ∧ stage ≠ postRebootProof) :
    Fields (resetFromStage r stage) (min k stage.rank) := by
  have hrank : stage.rank ≠ 4 ∧ stage.rank ≠ 5 ∧ stage.rank ≠ 12 := by
    refine ⟨fun h => hfirst.1 ?_, fun h => hfirst.2.1 ?_, fun h => hfirst.2.2 ?_⟩ <;>
      exact Stage.rank_injective h
  have htogether := fields.together
  have hreset : Progress (resetFromStage r stage) (min k stage.rank) := progress.reset
  refine ⟨by omega, fun h => ?_, fun h => ?_, fun h => ?_, ?_, ?_, ?_, ?_, ?_⟩
  · show (if stage.rank ≤ 4 then none else r.endpointManifestFingerprint) ≠ none
    rw [if_neg (by omega)]
    exact fields.endpoint (by omega)
  · show (if stage.rank ≤ 10 then none else r.rebootRequired) ≠ none
    rw [if_neg (by omega)]
    exact fields.rebootRequired (by omega)
  · rw [status_resetFromStage] at h
    split at h
    · cases h
    · rename_i hkept
      have hlt : 11 < stage.rank := not_le.mp hkept
      show (if stage.rank ≤ 11 then none else r.completedRebootEpoch) ≠ none
      rw [if_neg (by omega)]
      exact fields.completed h
  · show (if stage.rank ≤ 11 then none else r.completedRebootEpoch) ≠ some 0
    split
    · simp
    · exact fields.completed_pos
  · show (if stage.rank ≤ 13 then emptyNativeTransaction else
      r.nativeTransaction).status = .pass ↔ _
    split
    · simp [emptyNativeTransaction]
      omega
    · rw [fields.native]
      omega
  · show (if stage.rank ≤ 14 then GateStatus.pending else r.dnsGateStatus) = .pass ↔ _
    split
    · simp
      omega
    · rw [fields.dns]
      omega
  · exact hreset.syncFinalVerification_final
  · show (if stage.rank ≤ 13 then emptyNativeTransaction else
      r.nativeTransaction).dnsRefreshRequired
      = true → (if stage.rank ≤ 13 then emptyNativeTransaction else
          r.nativeTransaction).preEpoch ≠ none
    split
    · simp [emptyNativeTransaction]
    · exact fields.refresh

end Fields

end Changes

end RouterKit.LiveInstall
