import RouterKit.LiveInstall.Finish

/-!
Whole invocations and whole runs. What an invocation starts from is in good
order, its stages keep it so, and the runs follow by induction over their
invocations.
-/

namespace RouterKit.LiveInstall

open RouterKit.Lib.Checked RouterKit.Lib.Programs
open RouterKit.Devices
open Stage

variable {Digest : Type} [DecidableEq Digest] {host : Fingerprints Digest} {reset lost : Prop}
  {intent : Intent Digest} {world : World Digest} {invocation : Invocation Digest}
  {started : Started Digest}

/-- The receipt in memory is in good order, and its intent is that of the command
line the stages go by. -/
structure Ready (host : Fingerprints Digest) (lost : Prop) (started : Started Digest) (k : Nat) :
    Prop where
  sound : SoundAt host.intent started.memory.receipt k
  history : History host lost started.memory
  mode : started.memory.receipt.intent.runtimeMode = started.runtimeMode
  adopt : started.memory.receipt.intent.adoptExistingRuntime = started.args.adoptExistingRuntime
  transport : started.memory.receipt.intent.transportMode = started.args.transport

omit [DecidableEq Digest] in
theorem buildIntent_spec {args : Args} {runtimeMode : RuntimeMode} {artifact : Artifact Digest}
    (h : buildIntent host args runtimeMode artifact = .ok intent) :
    intent.Supported ∧ intent.runtimeMode = runtimeMode ∧
      intent.adoptExistingRuntime = args.adoptExistingRuntime ∧
      intent.transportMode = args.transport := by
  simp only [buildIntent, bind_eq_ok, raiseIf_eq_ok, exists_unit, pure_eq_ok, not_not] at h
  obtain ⟨hcontract, hslot, device, -, rfl⟩ := h
  exact ⟨⟨hcontract, hslot⟩, rfl, rfl, rfl⟩

omit [DecidableEq Digest] in
theorem checkedIntent_spec {args : Args} {runtimeMode : RuntimeMode}
    (h : checkedIntent host invocation args runtimeMode = .ok intent) :
    intent.Supported ∧ intent.runtimeMode = runtimeMode ∧
      intent.adoptExistingRuntime = args.adoptExistingRuntime ∧
      intent.transportMode = args.transport := by
  simp only [checkedIntent, bind_eq_ok, mapError_eq_ok, exists_unit] at h
  obtain ⟨-, artifact, -, hbuilt⟩ := h
  exact buildIntent_spec hbuilt

omit [DecidableEq Digest] in
theorem startApply_ready (h : startApply host invocation world = .ok started) :
    Ready host lost started 0 := by
  simp only [startApply, bind_eq_ok, mapError_eq_ok] at h
  obtain ⟨intent, hchecked, h⟩ := h
  obtain ⟨hsupported, hmode, hadopt, htransport⟩ := checkedIntent_spec hchecked
  split at h
  · cases h
  split at h
  · cases h
  rw [← pure_eq_ok.mp h]
  refine ⟨initialReceipt_sound hsupported, ⟨.inr fun epoch hmem => ?_, fun _ => ?_⟩, hmode, hadopt,
    htransport⟩
  · cases hmem
  · trivial

theorem loadReceipt_disk {recorded : Recorded Digest}
    (h : loadReceipt host world = .ok recorded) : world.disk = some recorded := by
  unfold loadReceipt at h
  split at h
  · cases h
  · rename_i found hfound
    simp only [bind_eq_ok, exists_unit, pure_eq_ok] at h
    rw [hfound, h.2]

theorem startResume_ready (hinjective : Function.Injective host.intent)
    (hgood : Good host reset lost world) (h : startResume host invocation world = .ok started) :
    ∃ k, Ready host lost started k := by
  simp only [startResume, bind_eq_ok, mapError_eq_ok] at h
  obtain ⟨recorded, hloaded, intent, hchecked, ⟨receipt, write⟩, hcompatible, h⟩ := h
  obtain ⟨-, hmode, hadopt, htransport⟩ := checkedIntent_spec hchecked
  have hdisk : world.disk = some recorded := loadReceipt_disk hloaded
  obtain ⟨k, hsound⟩ := hgood.sound recorded hdisk
  have hhistory := hgood.history recorded hdisk
  obtain ⟨hsound', hintent, hnative, hsame⟩ :=
    validateIntentCompatible_spec hinjective hsound hcompatible
  rw [← pure_eq_ok.mp h]
  refine ⟨k, hsound', ⟨?_, ?_⟩, ?_, ?_, ?_⟩
  · simp only [hnative]
    exact hhistory.writes
  · simp only [hnative, hsame]
    exact hhistory.verified
  · rw [hintent, hmode]
  · rw [hintent, hadopt]
  · rw [hintent, htransport]

theorem start_eq_ok (h : start host invocation world = .ok started) :
    startApply host invocation world = .ok started ∨
      startResume host invocation world = .ok started := by
  simp only [start, bind_eq_ok, exists_unit] at h
  obtain ⟨-, h⟩ := h
  split at h
  · exact .inl h
  · exact .inr h

theorem start_ready (hinjective : Function.Injective host.intent)
    (hgood : Good host reset lost world) (h : start host invocation world = .ok started) :
    ∃ k, Ready host lost started k := by
  rcases start_eq_ok h with happly | hresume
  · exact ⟨0, startApply_ready happly⟩
  · exact startResume_ready hinjective hgood hresume

theorem prepare_reaches {k : Nat} (hready : Ready host lost started k)
    (hgood : Good host reset lost world) :
    wp (prepare host invocation started)
      (fun _ s' => ∃ k', 10 ≤ k' ∧
        Holds host reset lost started.memory.receipt.intent s' k')
      (EndsGood host reset lost) (invocation.session world started.memory) := by
  have h : Holds host reset lost started.memory.receipt.intent
      (invocation.session world started.memory) k :=
    ⟨hgood, hready.sound, hready.history, rfl⟩
  have hrest : ∀ s', Holds host reset lost started.memory.receipt.intent s' k →
      wp (do
        let evidence ← liftRead .liveInstall (loadEvidence invocation.evidenceFile)
        runInstallationStages host invocation started.args evidence started.runtimeMode
        pure evidence)
        (fun _ s' => ∃ k', 10 ≤ k' ∧ Holds host reset lost started.memory.receipt.intent s' k')
        (EndsGood host reset lost) s' := by
    intro s' h'
    simp only [wp_bind, wp_pure, wp_liftRead]
    exact ⟨fun evidence _ => h'.runInstallationStages hready.mode hready.adopt, fun _ _ => h'.good⟩
  unfold prepare
  rw [wp_ite]
  refine ⟨fun _ => ?_, fun _ => hrest _ h⟩
  rw [wp_bind]
  exact wp_mono h.persistGood (fun _ _ h' => hrest _ h'.1) (fun _ _ h' => h')

/-- The world as an invocation finds it. -/
def Invocation.opened (invocation : Invocation Digest) (world : World Digest) : World Digest :=
  { world with files := invocation.changeFiles world.files }

/-- Where an invocation gets to its component stage: with what it started, the
evidence, and the session. -/
def componentStart (host : Fingerprints Digest) (world : World Digest)
    (invocation : Invocation Digest) :
    Option (Started Digest × Option (Evidence Digest) × Session Digest) :=
  match start host invocation (invocation.opened world) with
  | .error _ => none
  | .ok started =>
      match prepare host invocation started
          (invocation.session (invocation.opened world) started.memory) with
      | .ok evidence session => some (started, evidence, session)
      | .error _ _ => none

/-- Where it gets to its native stage. -/
def nativeStart (host : Fingerprints Digest) (world : World Digest)
    (invocation : Invocation Digest) :
    Option (Started Digest × Option (Evidence Digest) × Session Digest) :=
  match componentStart host world invocation with
  | none => none
  | some (started, evidence, session) =>
      match componentAndReboot host started.args evidence session with
      | .ok _ session => some (started, evidence, session)
      | .error _ _ => none

theorem componentStart_eq_some {evidence : Option (Evidence Digest)} {session : Session Digest}
    (h : componentStart host world invocation = some (started, evidence, session)) :
    start host invocation (invocation.opened world) = .ok started ∧
      prepare host invocation started
        (invocation.session (invocation.opened world) started.memory) =
          .ok evidence session := by
  unfold componentStart at h
  split at h
  · cases h
  rename_i found hstart
  split at h
  · rename_i hprepared
    obtain ⟨rfl, rfl, rfl⟩ : found = started ∧ _ = evidence ∧ _ = session := by
      simpa only [Option.some.injEq, Prod.mk.injEq] using h
    exact ⟨hstart, hprepared⟩
  · cases h

theorem nativeStart_eq_some {evidence : Option (Evidence Digest)} {session : Session Digest}
    (h : nativeStart host world invocation = some (started, evidence, session)) :
    ∃ before, componentStart host world invocation = some (started, evidence, before) ∧
      componentAndReboot host started.args evidence before = .ok () session := by
  unfold nativeStart at h
  split at h
  · cases h
  rename_i found document before hcomponent
  split at h
  · rename_i hrebooted
    obtain ⟨rfl, rfl, rfl⟩ : found = started ∧ document = evidence ∧ _ = session := by
      simpa only [Option.some.injEq, Prod.mk.injEq] using h
    exact ⟨before, hcomponent, hrebooted⟩
  · cases h

/-- Where an invocation gets to its component stage, the installation is behind. -/
theorem componentStart_holds (hinjective : Function.Injective host.intent)
    (hgood : Good host reset lost world) {evidence : Option (Evidence Digest)}
    {session : Session Digest}
    (h : componentStart host world invocation = some (started, evidence, session)) :
    ∃ k, 10 ≤ k ∧ Holds host reset lost started.memory.receipt.intent session k ∧
      started.memory.receipt.intent.transportMode = started.args.transport := by
  obtain ⟨hstart, hprepared⟩ := componentStart_eq_some h
  obtain ⟨k, hready⟩ := start_ready hinjective (hgood.files _) hstart
  obtain ⟨k', hk', hsession⟩ := wp_ok (prepare_reaches hready (hgood.files _)) hprepared
  exact ⟨k', hk', hsession, hready.transport⟩

/-- Where it gets to its native stage, the reboot is. -/
theorem nativeStart_holds (hinjective : Function.Injective host.intent)
    (hgood : Good host True lost world) {evidence : Option (Evidence Digest)}
    {session : Session Digest}
    (h : nativeStart host world invocation = some (started, evidence, session)) :
    ∃ k, 13 ≤ k ∧ Holds host True lost started.memory.receipt.intent session k ∧
      started.memory.receipt.intent.transportMode = started.args.transport := by
  obtain ⟨before, hcomponent, hrebooted⟩ := nativeStart_eq_some h
  obtain ⟨k, hk, hbefore, htransport⟩ := componentStart_holds hinjective hgood hcomponent
  obtain ⟨k', hk', hsession⟩ :=
    wp_ok (hbefore.componentAndReboot hk (.inl trivial)) hrebooted
  exact ⟨k', hk', hsession, htransport⟩

/-- No evidence undoes the installation right before the component stage. -/
def KeepsInstallation (host : Fingerprints Digest) (world : World Digest)
    (invocation : Invocation Digest) : Prop :=
  ∀ started evidence session,
    componentStart host world invocation = some (started, evidence, session) →
    ¬ UndoneBeforeComponent session evidence

/-- No receipt of a finished native stage fails to be written. -/
def KeepsCompletion (host : Fingerprints Digest) (world : World Digest)
    (invocation : Invocation Digest) : Prop :=
  ∀ started evidence session,
    nativeStart host world invocation = some (started, evidence, session) →
    ¬ CompletionUnwritten host invocation started.args session

/-- Neither of the two happens that make the coordinator build a receipt it refuses. -/
def KeepsOrder (host : Fingerprints Digest) (world : World Digest)
    (invocation : Invocation Digest) : Prop :=
  KeepsInstallation host world invocation ∧ KeepsCompletion host world invocation

/-- No write of the local native stage goes unrecorded. -/
def KeepsWrites (host : Fingerprints Digest) (world : World Digest)
    (invocation : Invocation Digest) : Prop :=
  ∀ started evidence session,
    nativeStart host world invocation = some (started, evidence, session) →
    started.args.transport = .localNdmc →
    stageDone session.memory.receipt nativeProxyPolicyTransaction = false →
    ¬ LosesWrite invocation session

theorem proceed_good {k : Nat} (hgood : Good host reset lost (invocation.opened world))
    (hstart : start host invocation (invocation.opened world) = .ok started)
    (hready : Ready host lost started k)
    (hreset : reset ∨ KeepsOrder host world invocation)
    (hlost : lost ∨ KeepsWrites host world invocation) :
    wp (proceed host invocation started) (fun _ s' => Good host reset lost s'.toWorld)
      (EndsGood host reset lost)
      (invocation.session (invocation.opened world) started.memory) := by
  unfold proceed
  simp only [wp_bind]
  refine wp_mono (wp_and (prepare_reaches hready hgood) (wp_run _ _))
    (fun evidence s₁ h₁ => ?_) (fun _ _ h' => h'.1)
  obtain ⟨⟨k₁, hk₁, h₁⟩, hprepared⟩ := h₁
  have hcomponent : componentStart host world invocation = some (started, evidence, s₁) := by
    simp only [componentStart, hstart, hprepared]
  have hkept : reset ∨ ¬ UndoneBeforeComponent s₁ evidence :=
    hreset.imp id (fun hkeeps => hkeeps.1 started evidence s₁ hcomponent)
  refine wp_mono (wp_and (h₁.componentAndReboot hk₁ hkept) (wp_run _ _))
    (fun _ s₂ h₂ => ?_) (fun _ _ h' => h'.1)
  obtain ⟨⟨k₂, hk₂, h₂⟩, hrebooted⟩ := h₂
  have hnative : nativeStart host world invocation = some (started, evidence, s₂) := by
    simp only [nativeStart, hcomponent, hrebooted]
  have hcompleted : reset ∨ ¬ CompletionUnwritten host invocation started.args s₂ :=
    hreset.imp id (fun hkeeps => hkeeps.2 started evidence s₂ hnative)
  refine wp_mono (h₂.nativeDnsClientStages hk₂ hready.transport hcompleted ?_)
    (fun _ _ h₃ => ?_) (fun _ _ h' => h')
  · exact hlost.imp id (fun hkeeps => hkeeps started evidence s₂ hnative)
  · obtain ⟨k₃, -, h₃⟩ := h₃
    exact h₃.good

theorem invoke_opened : invoke host invocation world =
    match start host invocation (invocation.opened world) with
    | .error failure => (.error failure, invocation.opened world)
    | .ok started =>
        match proceed host invocation started
            (invocation.session (invocation.opened world) started.memory) with
        | .ok _ session => (.ok (), session.toWorld)
        | .error failure session => (.error failure, session.toWorld) := rfl

/-- One invocation keeps the world in good order. -/
theorem invoke_good (hinjective : Function.Injective host.intent)
    (hgood : Good host reset lost world)
    (hreset : reset ∨ KeepsOrder host world invocation)
    (hlost : lost ∨ KeepsWrites host world invocation) :
    Good host reset lost (invoke host invocation world).2 := by
  have hopened : Good host reset lost (invocation.opened world) := hgood.files _
  rw [invoke_opened]
  cases hstart : start host invocation (invocation.opened world) with
  | error failure => exact hopened
  | ok started =>
      obtain ⟨k, hready⟩ := start_ready hinjective hopened hstart
      have hproceeds := proceed_good hopened hstart hready hreset hlost
      simp only
      cases hrun : proceed host invocation started
          (invocation.session (invocation.opened world) started.memory) with
      | ok u session =>
          have hended := wp_ok hproceeds hrun
          exact hended
      | error failure session =>
          have hended := wp_error hproceeds hrun
          exact hended

/-- So does every run. -/
theorem Run.good {allowed : World Digest → Invocation Digest → Prop}
    (hinjective : Function.Injective host.intent) (h : Run host allowed world)
    (hreset : reset ∨ ∀ world invocation, allowed world invocation →
      KeepsOrder host world invocation)
    (hlost : lost ∨ ∀ world invocation, allowed world invocation →
      KeepsWrites host world invocation) : Good host reset lost world := by
  induction h with
  | start files =>
      exact ⟨fun _ hnone => (by cases hnone), fun _ hnone => (by cases hnone), fun _ hmem =>
          (by cases hmem)⟩
  | invoke h hallowed ih =>
      exact invoke_good hinjective ih (hreset.imp id (fun hall => hall _ _ hallowed))
        (hlost.imp id (fun hall => hall _ _ hallowed))

end RouterKit.LiveInstall
