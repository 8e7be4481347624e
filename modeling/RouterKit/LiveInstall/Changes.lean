import RouterKit.LiveInstall.Coordinator
import RouterKit.LiveInstall.Sound

/-!
The invariant across every change the coordinator makes to a receipt it holds:
a stage that fails, each stage that passes, the steps of the native transaction,
and evidence that is accepted.
-/

namespace RouterKit.LiveInstall

open RouterKit.Lib.Checked
open Stage

variable {Digest : Type} {intentFingerprint : Intent Digest → Digest} {r r' : Receipt Digest}
  {k k' : Nat} {stage : Stage}

/-- The fields no stage touches. -/
structure Kept (r r' : Receipt Digest) : Prop where
  schema : r'.schema = r.schema
  intentFingerprint : r'.intentFingerprint = r.intentFingerprint
  intent : r'.intent = r.intent
  discovery : r'.discovery = r.discovery
  stateEpoch : r'.stateEpoch = r.stateEpoch

theorem Identified.congr (identified : Identified intentFingerprint r)
    (hschema : r'.schema = r.schema) (hfingerprint : r'.intentFingerprint = r.intentFingerprint)
    (hintent : r'.intent = r.intent) : Identified intentFingerprint r' := by
  refine ⟨hschema.trans identified.schema, ?_, ?_⟩
  · rw [hfingerprint, hintent, identified.intent]
  · rw [hintent]
    exact identified.supported

section MarkAll

theorem markAll_eq (entries : List (Stage × StageStatus)) (r : Receipt Digest) :
    ∃ stages, markAll entries r = { r with stages } := by
  induction entries generalizing r with
  | nil => exact ⟨r.stages, rfl⟩
  | cons entry rest ih =>
      obtain ⟨stages, hstages⟩ := ih (markStage r entry.1 entry.2)
      exact ⟨stages, hstages⟩

theorem markAll_status_of_not_mem {entries : List (Stage × StageStatus)} {r : Receipt Digest}
    (h : ∀ entry ∈ entries, entry.1 ≠ stage) :
    (markAll entries r).status stage = r.status stage := by
  induction entries generalizing r with
  | nil => rfl
  | cons entry rest ih =>
      show (markAll rest (markStage r entry.1 entry.2)).status stage = _
      rw [ih (fun other hmem => h other (List.mem_cons_of_mem _ hmem)),
        status_markStage (h entry List.mem_cons_self).symm]

theorem markAll_status {entries : List (Stage × StageStatus)} {r : Receipt Digest}
    (hnodup : (entries.map Prod.fst).Nodup) {entry : Stage × StageStatus} (hmem : entry ∈ entries) :
    (markAll entries r).status entry.1 = entry.2 := by
  induction entries generalizing r with
  | nil => cases hmem
  | cons first rest ih =>
      rw [List.map_cons, List.nodup_cons] at hnodup
      show (markAll rest (markStage r first.1 first.2)).status entry.1 = _
      rcases List.mem_cons.mp hmem with rfl | hrest
      · rw [markAll_status_of_not_mem, status_markStage_self]
        intro other hother heq
        exact hnodup.1 (heq ▸ List.mem_map_of_mem hother)
      · exact ih hnodup.2 hrest

/-- Marking neighbouring stages of the installation, from one that is next. -/
theorem Progress.markAll {entries : List (Stage × StageStatus)} {start : Nat}
    (progress : Progress r k) (hdone : ∀ entry ∈ entries, entry.2.done)
    (hranks : entries.map (fun entry => entry.1.rank) = List.range' start entries.length)
    (hstart : start ≤ k) (hearly : start + entries.length ≤ 10) :
    Progress (LiveInstall.markAll entries r) (max k (start + entries.length)) := by
  induction entries generalizing r k start with
  | nil =>
      rw [List.length_nil, Nat.add_zero, max_eq_left hstart]
      exact progress
  | cons entry rest ih =>
      simp only [List.map_cons, List.length_cons, List.range'_succ, List.cons.injEq]
          at hranks hearly
      obtain ⟨hrank, hrest⟩ := hranks
      have hmarked : Progress (markStage r entry.1 entry.2) (max k (start + 1)) := by
        rw [← hrank]
        rcases hdone entry List.mem_cons_self with hpass | hskip
        · rw [hpass]
          refine progress.pass _ (by omega) (fun heq => ?_) (fun heq => ?_) <;>
            (rw [← heq] at hrank; simp only [Stage.rank] at hrank; omega)
        · rw [hskip]
          exact progress.skip (by omega) (by omega)
      have hall := ih hmarked (fun other hmem => hdone other (List.mem_cons_of_mem _ hmem)) hrest
        (by omega) (by omega)
      rwa [List.length_cons, show max k (start + (rest.length + 1)) =
        max (max k (start + 1)) (start + 1 + rest.length) by omega]

variable (args : Args)

theorem acceptedStatuses_ranks : (acceptedStatuses args).map (fun entry => entry.1.rank) =
    List.range' 0 (acceptedStatuses args).length := by
  unfold acceptedStatuses
  split <;> rfl

theorem acceptedStatuses_length : (acceptedStatuses args).length = 10 := by
  unfold acceptedStatuses
  split <;> rfl

theorem acceptedStatuses_nodup : ((acceptedStatuses args).map Prod.fst).Nodup := by
  unfold acceptedStatuses
  split <;> decide

theorem acceptedStatuses_done : ∀ entry ∈ acceptedStatuses args, entry.2.done := by
  unfold acceptedStatuses StageStatus.done
  split <;> simp [expectedAdopted]

theorem acceptedStatuses_early : ∀ entry ∈ acceptedStatuses args, entry.1.rank < 10 := by
  unfold acceptedStatuses
  split <;> simp [expectedAdopted, installationStages, Stage.rank]

end MarkAll

namespace SoundAt

theorem kept (h : SoundAt intentFingerprint r k) (hkept : Kept r r') (progress : Progress r' k')
    (runtime : Runtime r' k') (fields : Fields r' k') : SoundAt intentFingerprint r' k' := by
  refine ⟨h.identified.congr hkept.schema hkept.intentFingerprint hkept.intent, ?_, progress,
    runtime, fields⟩
  have hdiscovered := h.discovered
  refine ⟨?_, ?_⟩
  · rw [hkept.discovery]
    exact hdiscovered.both
  · rw [hkept.discovery, hkept.stateEpoch]
    exact hdiscovered.epoch

theorem fail (h : SoundAt intentFingerprint r k) (hrank : k ≤ stage.rank)
    (hpost : postRebootProof ≠ stage) : SoundAt intentFingerprint (markStage r stage .fail) k := by
  refine h.kept ⟨rfl, rfl, rfl, rfl, rfl⟩ (h.progress.fail hrank hpost) ?_
    (h.fields.mark _ _ (fun _ => by simp))
  by_cases hlater : 10 ≤ stage.rank
  · exact h.runtime.markLater _ hlater Iff.rfl
  · exact h.runtime.markEarly _ (by omega) (by omega) (by simp)

theorem readiness (h : SoundAt intentFingerprint r k) (hk : k ≤ 1) :
    SoundAt intentFingerprint
      (markStage (markStage r networkPreflight .pass) usbExt4EntwareReadiness .pass) 2 := by
  have hfirst : Progress (markStage r networkPreflight .pass) 1 := by
    have := h.progress.pass networkPreflight (by simp [Stage.rank]) (by simp) (by simp)
    rwa [show max k (networkPreflight.rank + 1) = 1 by simp only [Stage.rank]; omega] at this
  refine h.kept ⟨rfl, rfl, rfl, rfl, rfl⟩ ?_ ?_ ?_
  · exact hfirst.pass _ (by simp [Stage.rank]) (by simp) (by simp)
  · exact (h.runtime.markEarly 1 (by omega) (by omega) (by simp)).markEarly _ (by omega)
      (by omega) (by simp)
  · refine ((h.fields.mark _ _ (by simp)).mark _ _ (by simp)).move (by omega) (by omega) (by omega)
      (by omega) (by omega) ?_
    rcases Nat.le_one_iff_eq_zero_or_eq_one.mp hk with rfl | rfl <;> rfl

/-- Stages whose completion only shows in the order: the bootstrap, the backup and
the install. -/
theorem plain (h : SoundAt intentFingerprint r k) (hrank : stage.rank = k)
    (hk : k = 2 ∨ k = 6 ∨ k = 7) :
    SoundAt intentFingerprint (markStage r stage .pass) (k + 1) := by
  have hreboot : controlledReboot ≠ stage := by
    rintro rfl
    simp only [Stage.rank] at hrank
    omega
  have hpost : postRebootProof ≠ stage := by
    rintro rfl
    simp only [Stage.rank] at hrank
    omega
  have hprogress := h.progress.pass _ hrank.le hreboot hpost
  rw [hrank, show max k (k + 1) = k + 1 by omega] at hprogress
  refine h.kept ⟨rfl, rfl, rfl, rfl, rfl⟩ hprogress
    (h.runtime.markEarly _ (by omega) (by omega) (by simp)) ?_
  refine (h.fields.mark _ _ (fun hstage => absurd hstage.symm hreboot)).move (by omega) (by omega)
    (by omega) (by omega) (by omega) ?_
  rcases hk with rfl | rfl | rfl <;> rfl

theorem setup (h : SoundAt intentFingerprint r 3) (fingerprint : Digest) :
    SoundAt intentFingerprint (markStage (markStage (markStage
      { r with endpointManifestFingerprint := some fingerprint } protectedProfileSource .pass)
        generate .pass) strictPlan .pass) 6 := by
  have hfirst : Progress { r with endpointManifestFingerprint := some fingerprint } 3 :=
    h.progress.congr rfl
  refine h.kept ⟨rfl, rfl, rfl, rfl, rfl⟩ ?_ ?_ ?_
  · have hsource : Progress _ 4 :=
      hfirst.pass protectedProfileSource (by simp [Stage.rank]) (by simp) (by simp)
    have hgenerate : Progress _ 5 :=
      hsource.pass generate (by simp [Stage.rank]) (by simp) (by simp)
    exact hgenerate.pass _ (by simp [Stage.rank]) (by simp) (by simp)
  · have hruntime : Runtime { r with endpointManifestFingerprint := some fingerprint } 3 :=
      h.runtime.congr rfl rfl rfl rfl (fun _ _ => rfl) Iff.rfl
    exact ((hruntime.markEarly 4 (by omega) (by omega) (by simp)).markEarly 5
      (by omega) (by omega) (by simp)).markEarly _ (by omega) (by omega) (by simp)
  · have hfields := ((h.fields.mark protectedProfileSource .pass
      (by simp)).mark generate .pass (by simp)).mark strictPlan .pass (by simp)
    exact ⟨by omega, fun _ => by simp [markStage], by omega, hfields.completed,
      hfields.completed_pos, hfields.native.trans (by omega), hfields.dns.trans (by omega),
      hfields.final, hfields.refresh⟩

theorem healthcheck (h : SoundAt intentFingerprint r 8) :
    SoundAt intentFingerprint { markStage r Stage.healthcheck .pass with
      finalVerification := { r.finalVerification with xray := .pass } } 9 := by
  refine h.kept ⟨rfl, rfl, rfl, rfl, rfl⟩ ?_ ?_ ?_
  · exact (h.progress.pass Stage.healthcheck (by simp [Stage.rank]) (by simp)
      (by simp)).congr rfl
  · have hruntime : Runtime (markStage r Stage.healthcheck .pass) 9 :=
      h.runtime.markEarly _ (by omega) (by omega) (by simp)
    exact hruntime.congr rfl rfl rfl rfl (fun _ _ => rfl) Iff.rfl
  · have hfields := h.fields.mark Stage.healthcheck .pass (by simp)
    refine ⟨by omega, fun h => hfields.endpoint (by omega), by omega, hfields.completed,
      hfields.completed_pos, hfields.native.trans (by omega), hfields.dns.trans (by omega), ?_,
      hfields.refresh⟩
    show ({ r.finalVerification with xray := .pass } : FinalVerification) = finalAt 9
    rw [h.fields.final]
    rfl

theorem autostart (h : SoundAt intentFingerprint r 9) (hmode : r.runtimeMode = .localRouter) :
    SoundAt intentFingerprint { markStage r Stage.autostart .pass with
      runtimeDisposition := .executed
      finalVerification :=
        { r.finalVerification with installation := .pass, autostart := .pass } } 10 := by
  obtain ⟨hevidence, hskip⟩ := h.runtime.localRouter hmode
  have hprogress : Progress (markStage r Stage.autostart .pass) 10 :=
    h.progress.pass Stage.autostart (by simp [Stage.rank]) (by simp) (by simp)
  have hpass : ∀ stage ∈ installationStages,
      (markStage r Stage.autostart .pass).status stage = .pass := by
    intro stage hmem
    by_cases hstage : stage = Stage.autostart
    · rw [hstage, status_markStage_self]
    · have hdone := (hprogress.done_iff stage).mpr (mem_installationStages.mp hmem)
      rw [stageDone_iff, status_markStage hstage] at hdone
      rw [status_markStage hstage]
      exact hdone.resolve_right (hskip stage hmem)
  refine h.kept ⟨rfl, rfl, rfl, rfl, rfl⟩ (hprogress.congr rfl) ?_ ?_
  · refine ⟨by simp, fun _ => ⟨hmode, hpass⟩, (fun h => by cases h), (fun h => by cases h),
      fun _ => ⟨hevidence, fun stage hmem => ?_⟩⟩
    show (markStage r Stage.autostart .pass).status stage ≠ .skipped
    rw [hpass stage hmem]
    simp
  · have hfields := h.fields.mark Stage.autostart .pass (by simp)
    refine ⟨by omega, fun _ => hfields.endpoint (by omega), by omega, hfields.completed,
      hfields.completed_pos, hfields.native.trans (by omega), hfields.dns.trans (by omega), ?_,
      hfields.refresh⟩
    show ({ r.finalVerification with installation := .pass, autostart := .pass } :
      FinalVerification) = finalAt 10
    rw [h.fields.final]
    rfl

/-- An installation done elsewhere, as the evidence of it is recorded. -/
theorem recordRuntime (h : SoundAt intentFingerprint r k) (hk : k < 10)
    (hmode : r.runtimeMode = .externalEvidence) {args : Args}
    (hadopt : r.adoptExistingRuntime = args.adoptExistingRuntime)
    (manifestFingerprint evidenceFingerprint : Digest) :
    SoundAt intentFingerprint (syncFinalVerification (markAll (acceptedStatuses args) { r with
      endpointManifestFingerprint := some manifestFingerprint
      runtimeEvidenceFingerprint := some evidenceFingerprint
      runtimeDisposition :=
        if args.adoptExistingRuntime then .adopted else .externalExecuted })) 10 := by
  generalize hdisposition : (if args.adoptExistingRuntime = true then RuntimeDisposition.adopted
    else .externalExecuted) = disposition
  obtain ⟨before, hbefore⟩ : ∃ before : Receipt Digest, before = { r with
      endpointManifestFingerprint := some manifestFingerprint
      runtimeEvidenceFingerprint := some evidenceFingerprint
      runtimeDisposition := disposition } := ⟨_, rfl⟩
  rw [← hbefore]
  have hstart : Progress before k := h.progress.congr (by rw [hbefore])
  have hprogress := hstart.markAll (acceptedStatuses_done args) (acceptedStatuses_ranks args)
    (Nat.zero_le k) (by rw [acceptedStatuses_length])
  have hstatus : ∀ entry ∈ acceptedStatuses args,
      (markAll (acceptedStatuses args) before).status entry.1 = entry.2 :=
    fun entry hmem => markAll_status (acceptedStatuses_nodup args) hmem
  have hreboot : (markAll (acceptedStatuses args) before).status controlledReboot =
      before.status controlledReboot := by
    refine markAll_status_of_not_mem (fun entry hmem heq => ?_)
    have hrank := acceptedStatuses_early args entry hmem
    rw [heq] at hrank
    simp [Stage.rank] at hrank
  rw [acceptedStatuses_length, show max k (0 + 10) = 10 by omega] at hprogress
  obtain ⟨stages, hstages⟩ := markAll_eq (acceptedStatuses args) before
  rw [hstages] at hprogress hstatus hreboot ⊢
  have hsynced := hprogress.syncFinalVerification_final
  subst hbefore
  have hfields := h.fields
  refine h.kept ⟨rfl, rfl, rfl, rfl, rfl⟩ (hprogress.congr rfl) ?_
    ⟨by omega, fun _ => by simp [syncFinalVerification], by omega,
      fun hpass => hfields.completed (hreboot.symm.trans hpass), hfields.completed_pos,
      hfields.native.trans (by omega), hfields.dns.trans (by omega), hsynced, hfields.refresh⟩
  refine ⟨?_, fun hexecuted => ?_, fun hadopted => ?_, fun hexternal => ?_, fun hlocal => ?_⟩
  · show disposition = .pending ↔ 10 < 10
    rw [← hdisposition]
    split <;> simp
  · have hnot : disposition ≠ .executed := by
      rw [← hdisposition]
      split <;> simp
    exact absurd hexecuted hnot
  · have hargs : args.adoptExistingRuntime = true := by
      by_contra hnot
      rw [if_neg hnot] at hdisposition
      cases hdisposition.trans hadopted
    refine ⟨hmode, hadopt.trans hargs, by simp [syncFinalVerification], fun entry hmem => ?_⟩
    refine hstatus entry ?_
    rwa [acceptedStatuses, if_pos hargs]
  · have hargs : args.adoptExistingRuntime ≠ true := by
      intro hargs
      rw [if_pos hargs] at hdisposition
      cases hdisposition.trans hexternal
    refine ⟨hmode, hadopt.trans (by simpa using hargs), by simp [syncFinalVerification],
      fun stage hmem => ?_⟩
    refine hstatus (stage, .pass) ?_
    rw [acceptedStatuses, if_neg hargs]
    exact List.mem_map_of_mem hmem
  · cases hmode.symm.trans hlocal

theorem component (h : SoundAt intentFingerprint r 10) (rebootRequired : Bool) :
    SoundAt intentFingerprint (markStage { r with rebootRequired := some rebootRequired }
      nativeProxyComponent .pass) 11 := by
  refine h.kept ⟨rfl, rfl, rfl, rfl, rfl⟩ ?_ ?_ ?_
  · have hfirst : Progress { r with rebootRequired := some rebootRequired } 10 :=
      h.progress.congr rfl
    exact hfirst.pass _ (by simp [Stage.rank]) (by simp) (by simp)
  · have hruntime : Runtime { r with rebootRequired := some rebootRequired } 10 :=
      h.runtime.congr rfl rfl rfl rfl (fun _ _ => rfl) Iff.rfl
    exact hruntime.markLater _ (by simp [Stage.rank]) (by omega)
  · have hfields := h.fields.mark nativeProxyComponent .pass (by simp)
    exact ⟨by omega, fun _ => hfields.endpoint (by omega), fun _ => by simp [markStage],
      hfields.completed, hfields.completed_pos, hfields.native.trans (by omega),
      hfields.dns.trans (by omega), hfields.final, hfields.refresh⟩

private theorem afterReboot {status : StageStatus} (h : SoundAt intentFingerprint r 11)
    (hpost : status = .skipped ∨ status = .pass)
    (hreboot : (markStage (markStage r controlledReboot status) postRebootProof status).status
      controlledReboot = .skipped → status = .skipped) :
    Progress (markStage (markStage r controlledReboot status) postRebootProof status) 13 := by
  have hdone : status.done := by
    rcases hpost with rfl | rfl
    · exact .inr rfl
    · exact .inl rfl
  have hpending : r.status postRebootProof = .pending := by
    have hnot : ¬ (r.status postRebootProof).done := by
      rw [← stageDone_iff, h.progress.done_iff]
      simp [Stage.rank]
    have hfail := h.progress.post_not_fail
    unfold StageStatus.done at hnot
    cases hstatus : r.status postRebootProof <;> simp_all
  have hfirst : Progress (markStage r controlledReboot status) 12 := by
    refine h.progress.mark (by simp [Stage.rank]) hdone (fun _ => .inr (.inl rfl)) (fun _ => ?_)
    rw [status_markStage (by simp), hpending]
    exact .inl rfl
  refine hfirst.mark (by simp [Stage.rank]) hdone (fun _ => .inr (.inr rfl)) (fun hskip => ?_)
  rw [status_markStage_self]
  exact .inr (hreboot hskip)

theorem rebootSkipped (h : SoundAt intentFingerprint r 11) :
    SoundAt intentFingerprint
      (markStage (markStage r controlledReboot .skipped) postRebootProof .skipped) 13 := by
  refine h.kept ⟨rfl, rfl, rfl, rfl, rfl⟩ (afterReboot h (.inl rfl) (fun _ => rfl)) ?_ ?_
  · have hfirst : Runtime (markStage r controlledReboot .skipped) 12 :=
      h.runtime.markLater _ (by simp [Stage.rank]) (by omega)
    exact hfirst.markLater _ (by simp [Stage.rank]) (by omega)
  · refine ((h.fields.mark _ _ (by simp)).mark _ _ (by simp)).move (by omega) (by omega) (by omega)
      (by omega) (by omega) rfl

theorem rebootProven (h : SoundAt intentFingerprint r 11) (hepoch : 1 ≤ r.stateEpoch) :
    SoundAt intentFingerprint (markStage { markStage r controlledReboot .pass with
      completedRebootEpoch := some r.stateEpoch } postRebootProof .pass) 13 := by
  have hprogress : Progress
      (markStage (markStage r controlledReboot .pass) postRebootProof .pass) 13 := by
    refine afterReboot h (.inr rfl) (fun hskip => ?_)
    rw [status_markStage (by simp), status_markStage_self] at hskip
    cases hskip
  refine h.kept ⟨rfl, rfl, rfl, rfl, rfl⟩ (hprogress.congr rfl) ?_ ?_
  · have hfirst : Runtime (markStage r controlledReboot .pass) 12 :=
      h.runtime.markLater _ (by simp [Stage.rank]) (by omega)
    have hruntime : Runtime
        (markStage (markStage r controlledReboot .pass) postRebootProof .pass) 13 :=
      hfirst.markLater _ (by simp [Stage.rank]) (by omega)
    exact hruntime.congr rfl rfl rfl rfl (fun _ _ => rfl) Iff.rfl
  · have hfields := h.fields
    refine ⟨by omega, fun _ => hfields.endpoint (by omega),
      fun _ => hfields.rebootRequired (by omega), fun _ => by simp [markStage], ?_,
      hfields.native.trans (by omega), hfields.dns.trans (by omega), hfields.final,
      hfields.refresh⟩
    simp only [markStage, ne_eq, Option.some.injEq]
    omega

/-- The native transaction moves on, short of its completion. -/
theorem nativeStep (h : SoundAt intentFingerprint r k) {native : NativeTransaction Digest}
    (hk : k ≤ 13) (hstatus : native.status ≠ .pass)
    (hrefresh : native.dnsRefreshRequired = true → native.preEpoch ≠ none) :
    SoundAt intentFingerprint { r with nativeTransaction := native } k := by
  refine h.kept ⟨rfl, rfl, rfl, rfl, rfl⟩ (h.progress.congr rfl)
    (h.runtime.congr rfl rfl rfl rfl (fun _ _ => rfl) Iff.rfl) ?_
  have hfields := h.fields
  refine ⟨hfields.together, hfields.endpoint, hfields.rebootRequired, hfields.completed,
    hfields.completed_pos, ?_, hfields.dns, hfields.final, hrefresh⟩
  simp only [hstatus, false_iff]
  omega

theorem native (h : SoundAt intentFingerprint r 13) {native : NativeTransaction Digest}
    (hstatus : native.status = .pass)
    (hrefresh : native.dnsRefreshRequired = true → native.preEpoch ≠ none) :
    SoundAt intentFingerprint
      { markStage { r with nativeTransaction := native } nativeProxyPolicyTransaction .pass with
        finalVerification := { r.finalVerification with nativeRouting := .pass } } 14 := by
  have hprogress : Progress (markStage r nativeProxyPolicyTransaction .pass) 14 :=
    h.progress.pass nativeProxyPolicyTransaction (by simp [Stage.rank]) (by simp)
      (by simp)
  refine h.kept ⟨rfl, rfl, rfl, rfl, rfl⟩ (hprogress.congr rfl) ?_ ?_
  · have hruntime : Runtime (markStage r nativeProxyPolicyTransaction .pass) 14 :=
      h.runtime.markLater _ (by simp [Stage.rank]) (by omega)
    exact hruntime.congr rfl rfl rfl rfl (fun _ _ => rfl) Iff.rfl
  · have hfields := h.fields.mark nativeProxyPolicyTransaction .pass
      (by simp)
    refine ⟨by omega, fun _ => hfields.endpoint (by omega),
      fun _ => hfields.rebootRequired (by omega), hfields.completed, hfields.completed_pos, ?_,
      hfields.dns.trans (by omega), ?_, hrefresh⟩
    · exact ⟨fun _ => by omega, fun _ => hstatus⟩
    · show ({ r.finalVerification with nativeRouting := .pass } : FinalVerification) = finalAt 14
      rw [h.fields.final]
      rfl

theorem dnsGate (h : SoundAt intentFingerprint r 14) :
    SoundAt intentFingerprint { markStage r protectedDnsGate .pass with
      dnsGateStatus := .pass
      finalVerification := { r.finalVerification with dns := .pass } } 15 := by
  have hprogress : Progress (markStage r protectedDnsGate .pass) 15 :=
    h.progress.pass protectedDnsGate (by simp [Stage.rank]) (by simp) (by simp)
  refine h.kept ⟨rfl, rfl, rfl, rfl, rfl⟩ (hprogress.congr rfl) ?_ ?_
  · have hruntime : Runtime (markStage r protectedDnsGate .pass) 15 :=
      h.runtime.markLater _ (by simp [Stage.rank]) (by omega)
    exact hruntime.congr rfl rfl rfl rfl (fun _ _ => rfl) Iff.rfl
  · have hfields := h.fields.mark protectedDnsGate .pass (by simp)
    refine ⟨by omega, fun _ => hfields.endpoint (by omega),
      fun _ => hfields.rebootRequired (by omega), hfields.completed, hfields.completed_pos,
      hfields.native.trans (by omega), ?_, ?_, hfields.refresh⟩
    · exact ⟨fun _ => by omega, fun _ => rfl⟩
    · show ({ r.finalVerification with dns := .pass } : FinalVerification) = finalAt 15
      rw [h.fields.final]
      rfl

theorem client (h : SoundAt intentFingerprint r 15) :
    SoundAt intentFingerprint { markStage r selectedClientAcceptance .pass with
      finalVerification := { r.finalVerification with clientDomainHttps := .pass } } 16 := by
  have hprogress : Progress (markStage r selectedClientAcceptance .pass) 16 :=
    h.progress.pass selectedClientAcceptance (by simp [Stage.rank]) (by simp)
      (by simp)
  refine h.kept ⟨rfl, rfl, rfl, rfl, rfl⟩ (hprogress.congr rfl) ?_ ?_
  · have hruntime : Runtime (markStage r selectedClientAcceptance .pass) 16 :=
      h.runtime.markLater _ (by simp [Stage.rank]) (by omega)
    exact hruntime.congr rfl rfl rfl rfl (fun _ _ => rfl) Iff.rfl
  · have hfields := h.fields.mark selectedClientAcceptance .pass (by simp)
    refine ⟨by omega, fun _ => hfields.endpoint (by omega),
      fun _ => hfields.rebootRequired (by omega), hfields.completed, hfields.completed_pos,
      hfields.native.trans (by omega), hfields.dns.trans (by omega), ?_, hfields.refresh⟩
    show ({ r.finalVerification with clientDomainHttps := .pass } : FinalVerification) = finalAt 16
    rw [h.fields.final]
    rfl

theorem finish (h : SoundAt intentFingerprint r k) (hk : 16 ≤ k) :
    SoundAt intentFingerprint (markStage r finalResult .pass) 17 := by
  have hbound := h.progress.bound
  have hprogress := h.progress.pass finalResult (by simp only [Stage.rank]; omega)
    (by simp) (by simp)
  rw [show max k (finalResult.rank + 1) = 17 by simp only [Stage.rank]; omega] at hprogress
  refine h.kept ⟨rfl, rfl, rfl, rfl, rfl⟩ hprogress
    (h.runtime.markLater _ (by simp [Stage.rank]) (by omega)) ?_
  refine (h.fields.mark _ _ (by simp)).move (by omega) (by omega) (by omega)
      (by omega) (by omega) ?_
  obtain rfl | rfl : k = 16 ∨ k = 17 := by omega
  · rfl
  · rfl

end SoundAt

theorem initialReceipt_sound {intent : Intent Digest} (hsupported : intent.Supported) :
    SoundAt intentFingerprint (initialReceipt intentFingerprint intent) 0 := by
  refine ⟨⟨rfl, rfl, hsupported⟩, ⟨by simp [initialReceipt], by simp [initialReceipt]⟩,
    Progress.initial (fun _ => rfl), Runtime.early rfl (by omega) (fun _ => ⟨rfl, fun _ _ => ?_⟩),
    ⟨by omega, by omega, by omega, fun h => ?_, by simp [initialReceipt], ?_, ?_, rfl, ?_⟩⟩
  · show StageStatus.pending ≠ .skipped
    simp
  · cases h
  · simp [initialReceipt, emptyNativeTransaction]
  · simp [initialReceipt]
  · simp [initialReceipt, emptyNativeTransaction]

/-- Widened authority leaves the rest of the receipt as it is. -/
theorem SoundAt.widen (h : SoundAt intentFingerprint r k)
    (hschema : r'.schema = r.schema) (hintent : r'.intentFingerprint = intentFingerprint r'.intent)
    (hsupported : r'.intent.Supported) (hdiscovery : r'.discovery = r.discovery)
    (hepoch : r'.stateEpoch = r.stateEpoch) (hprogress : Progress r' k) (hruntime : Runtime r' k)
    (hfields : Fields r' k) : SoundAt intentFingerprint r' k := by
  refine ⟨⟨hschema.trans h.identified.schema, hintent, hsupported⟩, ⟨?_, ?_⟩, hprogress,
    hruntime, hfields⟩
  · rw [hdiscovery]
    exact h.discovered.both
  · rw [hdiscovery, hepoch]
    exact h.discovered.epoch

/-- The intent of the receipt a resume goes on with is the intent it was given. -/
theorem validateIntentCompatible_spec [DecidableEq Digest] {intent : Intent Digest} {write : Bool}
    (hinjective : Function.Injective intentFingerprint) (h : SoundAt intentFingerprint r k)
    (hok : validateIntentCompatible intentFingerprint r intent = .ok (r', write)) :
    SoundAt intentFingerprint r' k ∧ r'.intent = intent ∧
      r'.nativeTransaction = r.nativeTransaction ∧ r'.transportMode = r.transportMode := by
  unfold validateIntentCompatible at hok
  split at hok
  · rename_i hsame
    obtain ⟨rfl, rfl⟩ := Prod.mk.inj (pure_eq_ok.mp hok)
    exact ⟨h, hinjective (h.identified.intent.symm.trans hsame), rfl, rfl⟩
  · simp only [bind_eq_ok, raiseIf_eq_ok, exists_unit, pure_eq_ok, not_not] at hok
    obtain ⟨hsame, -, -, -, -, hresult⟩ := hok
    obtain ⟨rfl, rfl⟩ := Prod.mk.inj hresult
    obtain ⟨hcontract, htransport, hmode, hadopt, hartifact, hdevice, hslot⟩ := hsame
    refine ⟨?_, ?_, rfl, rfl⟩
    · refine h.widen rfl rfl ⟨h.identified.supported.contract, h.identified.supported.slot⟩ rfl
        rfl (h.progress.congr rfl) ?_ ?_
      · exact h.runtime.congr rfl rfl rfl rfl (fun _ _ => rfl) Iff.rfl
      · have hfields := h.fields
        exact ⟨hfields.together, hfields.endpoint, hfields.rebootRequired, hfields.completed,
          hfields.completed_pos, hfields.native, hfields.dns, hfields.final, hfields.refresh⟩
    · simp only [Receipt.intent, hcontract, htransport, hmode, hadopt, hartifact, hdevice, hslot]

section Acceptance

variable {evidenceFingerprint : Evidence Digest → Digest} {evidence : Evidence Digest}

/-- The discovery record of the evidence. -/
def discoveryOf (evidenceFingerprint : Evidence Digest → Digest) (evidence : Evidence Digest) :
    Discovery Digest :=
  ⟨some evidence.epoch, some (evidenceFingerprint evidence)⟩

/-- The ways evidence is accepted: the receipt has seen it, it is of the receipt's
epoch, or it opens the next epoch. -/
theorem acceptDiscoveryEvidence_cases [DecidableEq Digest]
    (hok : acceptDiscoveryEvidence evidenceFingerprint r evidence = .ok r') :
    (r.discovery = discoveryOf evidenceFingerprint evidence ∧ r' = r) ∨
    (evidence.epoch = r.stateEpoch ∧
      r' = { r with discovery := discoveryOf evidenceFingerprint evidence }) ∨
    (evidence.epoch = r.stateEpoch + 1 ∧ evidence.stateChange ≠ .none ∧
      r' = { enterEpoch r evidence with
        discovery := discoveryOf evidenceFingerprint evidence }) := by
  unfold acceptDiscoveryEvidence at hok
  split at hok
  · rename_i hepoch
    simp only [bind_eq_ok, raiseIf_eq_ok, exists_unit, pure_eq_ok, not_not] at hok
    obtain ⟨hfingerprint, rfl⟩ := hok
    refine .inl ⟨?_, rfl⟩
    unfold discoveryOf
    rw [← hepoch, ← hfingerprint]
  · split at hok
    · rename_i hepoch
      simp only [bind_eq_ok, raiseIf_eq_ok, exists_unit, pure_eq_ok] at hok
      exact .inr (.inl ⟨hepoch, hok.2.symm⟩)
    · split at hok
      · rename_i hepoch
        simp only [bind_eq_ok, raiseIf_eq_ok, exists_unit, pure_eq_ok] at hok
        exact .inr (.inr ⟨hepoch, hok.1, hok.2.symm⟩)
      · cases hok

/-- A receipt that has just seen the evidence accepts it again, unchanged. -/
theorem acceptDiscoveryEvidence_again [DecidableEq Digest]
    (hseen : r.discovery = discoveryOf evidenceFingerprint evidence) :
    acceptDiscoveryEvidence evidenceFingerprint r evidence = .ok r := by
  unfold acceptDiscoveryEvidence
  rw [if_pos (by rw [hseen]; rfl)]
  simp only [bind_eq_ok, raiseIf_eq_ok, exists_unit, pure_eq_ok, not_not, and_true]
  rw [hseen]
  rfl

theorem discoveryReset_first {first : Stage} (h : discoveryReset r evidence = some first) :
    first ∈ [networkPreflight, usbExt4EntwareReadiness, pinnedXrayBootstrap, nativeProxyComponent,
      controlledReboot, nativeProxyPolicyTransaction] := by
  unfold discoveryReset at h
  cases hchange : evidence.stateChange <;> simp only [hchange] at h
  · cases h
  · split at h <;> simp_all
  · split at h <;> simp_all
  · split at h <;> simp_all
  · simp_all
  · simp_all
  · simp_all

theorem SoundAt.discover (h : SoundAt intentFingerprint r k) (discovery : Discovery Digest)
    (epoch : Nat) (hboth : discovery.epoch = none ↔ discovery.evidenceFingerprint = none)
    (hepoch : ∀ found, discovery.epoch = some found → found = epoch) :
    SoundAt intentFingerprint { r with discovery, stateEpoch := epoch } k := by
  have hfields := h.fields
  exact ⟨h.identified.congr rfl rfl rfl, ⟨hboth, hepoch⟩, h.progress.congr rfl,
    h.runtime.congr rfl rfl rfl rfl (fun _ _ => rfl) Iff.rfl,
    ⟨hfields.together, hfields.endpoint, hfields.rebootRequired, hfields.completed,
      hfields.completed_pos, hfields.native, hfields.dns, hfields.final, hfields.refresh⟩⟩

theorem SoundAt.reset (h : SoundAt intentFingerprint r k)
    (hfirst : stage ≠ generate ∧ stage ≠ strictPlan ∧ stage ≠ postRebootProof) :
    SoundAt intentFingerprint (resetFromStage r stage) (min k stage.rank) :=
  h.kept ⟨rfl, rfl, rfl, rfl, rfl⟩ h.progress.reset h.runtime.reset
    (h.fields.reset h.progress hfirst)

theorem SoundAt.requireReboot (h : SoundAt intentFingerprint r k) :
    SoundAt intentFingerprint { r with rebootRequired := some true } k := by
  have hfields := h.fields
  exact h.kept ⟨rfl, rfl, rfl, rfl, rfl⟩ (h.progress.congr rfl)
    (h.runtime.congr rfl rfl rfl rfl (fun _ _ => rfl) Iff.rfl)
    ⟨hfields.together, hfields.endpoint, fun _ => by simp, hfields.completed,
      hfields.completed_pos, hfields.native, hfields.dns, hfields.final, hfields.refresh⟩

theorem enterEpoch_stateEpoch : (enterEpoch r evidence).stateEpoch = evidence.epoch := by
  unfold enterEpoch
  cases discoveryReset r evidence with
  | none => rfl
  | some first => by_cases hreboot : evidence.stateChange = .reboot <;> simp [hreboot] <;> rfl

theorem enterEpoch_intent : (enterEpoch r evidence).intent = r.intent := by
  unfold enterEpoch
  cases discoveryReset r evidence with
  | none => rfl
  | some first => by_cases hreboot : evidence.stateChange = .reboot <;> simp [hreboot] <;> rfl

/-- A reset, wherever it starts, empties the native transaction. -/
theorem enterEpoch_native : (enterEpoch r evidence).nativeTransaction =
    if (discoveryReset r evidence).isSome then emptyNativeTransaction
    else r.nativeTransaction := by
  unfold enterEpoch
  cases hreset : discoveryReset r evidence with
  | none => rfl
  | some first =>
      have hrank : first.rank ≤ nativeProxyPolicyTransaction.rank := by
        have hmem := discoveryReset_first hreset
        simp only [List.mem_cons, List.not_mem_nil, or_false] at hmem
        rcases hmem with rfl | rfl | rfl | rfl | rfl | rfl <;> simp [Stage.rank]
      have hempty : (resetFromStage { r with stateEpoch := evidence.epoch } first).nativeTransaction
          = emptyNativeTransaction := if_pos hrank
      by_cases hreboot : evidence.stateChange = .reboot <;> simp [hreboot, hempty]

/-- How far back the evidence puts the receipt. -/
def resetRank (r : Receipt Digest) (evidence : Evidence Digest) (k : Nat) : Nat :=
  match discoveryReset r evidence with
  | none => k
  | some first => min k first.rank

theorem resetRank_le : resetRank r evidence k ≤ k := by
  unfold resetRank
  split <;> omega

/-- The changes that undo part of the installation. -/
def undoesInstallation (evidence : Evidence Digest) : Prop :=
  evidence.stateChange = .opt ∨ evidence.stateChange = .routerkitXray ∨
    evidence.stateChange = .contradictory

theorem undoes_of_discoveryReset {first : Stage} (h : discoveryReset r evidence = some first)
    (hrank : first.rank < 10) : undoesInstallation evidence := by
  have hlate : ∀ {later : Stage} {c : Prop} [Decidable c], 10 ≤ later.rank →
      (if c then some later else none) ≠ some first := by
    intro later c _ hlater hsome
    split at hsome
    · obtain rfl := Option.some.inj hsome
      omega
    · cases hsome
  unfold discoveryReset at h
  unfold undoesInstallation
  cases hchange : evidence.stateChange <;> simp only [hchange] at h
  · cases h
  · exact absurd h (hlate (by simp [Stage.rank]))
  · exact absurd h (hlate (by simp [Stage.rank]))
  · exact absurd h (hlate (by simp [Stage.rank]))
  · exact .inl rfl
  · exact .inr (.inl rfl)
  · exact .inr (.inr rfl)

theorem undoes_of_resetRank (h : resetRank r evidence k < 10) (hk : 10 ≤ k) :
    undoesInstallation evidence := by
  unfold resetRank at h
  cases hreset : discoveryReset r evidence with
  | none =>
      simp only [hreset] at h
      omega
  | some first =>
      simp only [hreset] at h
      exact undoes_of_discoveryReset hreset (by omega)

theorem SoundAt.nextEpoch (h : SoundAt intentFingerprint r k) :
    SoundAt intentFingerprint
      { enterEpoch r evidence with discovery := discoveryOf evidenceFingerprint evidence }
      (resetRank r evidence k) := by
  have hboth : (discoveryOf evidenceFingerprint evidence).epoch = none ↔
      (discoveryOf evidenceFingerprint evidence).evidenceFingerprint = none := by
    simp [discoveryOf]
  have hepoch : ∀ found, (discoveryOf evidenceFingerprint evidence).epoch = some found →
      found = evidence.epoch := fun found hfound => (Option.some.inj hfound).symm
  have hentered := h.discover _ _ hboth hepoch
  unfold enterEpoch resetRank
  cases hreset : discoveryReset r evidence with
  | none => exact hentered
  | some first =>
      have hfirst : first ≠ generate ∧ first ≠ strictPlan ∧ first ≠ postRebootProof := by
        have hmem := discoveryReset_first hreset
        refine ⟨?_, ?_, ?_⟩ <;> (rintro rfl; simp at hmem)
      have hcleared := hentered.reset hfirst
      by_cases hreboot : evidence.stateChange = .reboot
      · simp only [hreboot, if_true]
        exact hcleared.requireReboot
      · simp only [hreboot, if_false]
        exact hcleared

/-- The native transaction is emptied by a reset, and by nothing else. -/
theorem acceptDiscoveryEvidence_native [DecidableEq Digest]
    (hok : acceptDiscoveryEvidence evidenceFingerprint r evidence = .ok r') :
    r'.nativeTransaction =
      if r'.stateEpoch ≠ r.stateEpoch ∧ (discoveryReset r evidence).isSome then
        emptyNativeTransaction
      else r.nativeTransaction := by
  rcases acceptDiscoveryEvidence_cases hok with ⟨-, rfl⟩ | ⟨-, rfl⟩ | ⟨hnext, -, rfl⟩
  · rw [if_neg (fun h => h.1 rfl)]
  · rw [if_neg (fun h => h.1 rfl)]
  · have hne : (enterEpoch r evidence).stateEpoch ≠ r.stateEpoch := by
      rw [enterEpoch_stateEpoch, hnext]
      omega
    show (enterEpoch r evidence).nativeTransaction = _
    rw [enterEpoch_native]
    simp only [ne_eq, hne, not_false_eq_true, true_and]

/-- What acceptance leaves. -/
theorem SoundAt.accepted [DecidableEq Digest] (h : SoundAt intentFingerprint r k)
    (hok : acceptDiscoveryEvidence evidenceFingerprint r evidence = .ok r') :
    r'.discovery = discoveryOf evidenceFingerprint evidence ∧ r'.stateEpoch = evidence.epoch ∧
      r'.intent = r.intent ∧ ∃ k' ≤ k, SoundAt intentFingerprint r' k' ∧
        (k' = k ∨ evidence.epoch = r.stateEpoch + 1 ∧ k' = resetRank r evidence k) := by
  rcases acceptDiscoveryEvidence_cases hok with ⟨hseen, rfl⟩ | ⟨hepoch, rfl⟩ | ⟨hnext, -, rfl⟩
  · refine ⟨hseen, ?_, rfl, k, le_rfl, h, .inl rfl⟩
    exact (h.discovered.epoch evidence.epoch (by rw [hseen]; rfl)).symm
  · refine ⟨rfl, hepoch.symm, rfl, k, le_rfl, ?_, .inl rfl⟩
    refine h.discover _ r.stateEpoch (by simp [discoveryOf]) ?_
    intro found hfound
    rw [← hepoch]
    exact (Option.some.inj hfound).symm
  · exact ⟨rfl, enterEpoch_stateEpoch, enterEpoch_intent, _, resetRank_le, h.nextEpoch,
      .inr ⟨hnext, rfl⟩⟩

end Acceptance

end RouterKit.LiveInstall
