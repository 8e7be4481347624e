import RouterKit.LiveInstall.Safety

/-!
Runs in external-evidence mode. No local delegate is launched, and a runtime is
accepted only on evidence that suffices for the very endpoint manifest, artifact
and slot of the receipt; what the receipt then records stays tied together
through every reset.
-/

namespace RouterKit.LiveInstall

open RouterKit.Lib.Checked RouterKit.Lib.Programs
open RouterKit.Netcraze (LiveState LocalEndpointManifest)
open RouterKit.Netcraze.External (Packet Phase)
open Stage

section Provenance

variable {Digest : Type} [DecidableEq Digest]

/-- The invocation stays in external-evidence mode. -/
def RunsExternally (host : Fingerprints Digest) (world : World Digest)
    (invocation : Invocation Digest) : Prop :=
  ∀ started, start host invocation (invocation.opened world) = .ok started →
    started.runtimeMode = .externalEvidence

/-- One of the given invocations supplied the evidence and the manifest that the
receipt records, and they sufficed for it. -/
def RuntimeProven (host : Fingerprints Digest) (given : Invocation Digest → Prop)
    (receipt : Receipt Digest) : Prop :=
  ∃ invocation evidence manifest, given invocation ∧
    loadEvidence invocation.evidenceFile = .ok (some evidence) ∧
    invocation.manifest .freshRuntime = .ok manifest ∧
    receipt.runtimeEvidenceFingerprint = some (host.evidence evidence) ∧
    receipt.endpointManifestFingerprint = some (manifestFingerprint host manifest) ∧
    (∃ profile ∈ manifest.val.profiles,
      profile.slot = receipt.selectedProfileSlot ∧ profile.enabled = true) ∧
    runtimeEvidenceIsSufficient (some evidence) receipt.artifact
      (manifestFingerprint host manifest) receipt.adoptExistingRuntime = true

/-- A runtime, once there is one, was accepted and proven. -/
def RuntimeTraced (host : Fingerprints Digest) (given : Invocation Digest → Prop)
    (receipt : Receipt Digest) : Prop :=
  receipt.runtimeDisposition ≠ .pending →
    (receipt.runtimeDisposition = .adopted ∨ receipt.runtimeDisposition = .externalExecuted) ∧
      RuntimeProven host given receipt

structure Traced (host : Fingerprints Digest) (given : Invocation Digest → Prop)
    (world : World Digest) : Prop where
  disk : ∀ recorded, world.disk = some recorded → RuntimeTraced host given recorded.receipt
  quiet : ∀ delegate receipt, Event.launched delegate receipt ∉ world.trace

/-- The same of a session, of an invocation with this intent. -/
structure TracedSession (host : Fingerprints Digest) (given : Invocation Digest → Prop)
    (intent : Intent Digest) (session : Session Digest) : Prop where
  world : Traced host given session.toWorld
  memory : RuntimeTraced host given session.memory.receipt
  intent : session.memory.receipt.intent = intent

variable {host : Fingerprints Digest} {given : Invocation Digest → Prop} {intent : Intent Digest}
  {s : Session Digest} {invocation : Invocation Digest} {args : Args}
  {evidence : Option (Evidence Digest)}

theorem RuntimeTraced.congr {receipt receipt' : Receipt Digest}
    (h : RuntimeTraced host given receipt)
    (hdisposition : receipt'.runtimeDisposition = receipt.runtimeDisposition)
    (hevidence : receipt'.runtimeEvidenceFingerprint = receipt.runtimeEvidenceFingerprint)
    (hmanifest : receipt'.endpointManifestFingerprint = receipt.endpointManifestFingerprint)
    (hintent : receipt'.intent = receipt.intent) : RuntimeTraced host given receipt' := by
  intro haccepted
  rw [hdisposition] at haccepted ⊢
  have hslot : receipt'.selectedProfileSlot = receipt.selectedProfileSlot :=
    congrArg Intent.selectedProfileSlot hintent
  have hartifact : receipt'.artifact = receipt.artifact := congrArg Intent.artifact hintent
  have hadopt : receipt'.adoptExistingRuntime = receipt.adoptExistingRuntime :=
    congrArg Intent.adoptExistingRuntime hintent
  unfold RuntimeProven
  rw [hevidence, hmanifest, hslot, hartifact, hadopt]
  exact h haccepted

/-- A reset either forgets the runtime or leaves it alone. -/
theorem RuntimeTraced.reset {receipt : Receipt Digest} (h : RuntimeTraced host given receipt)
    (first : Stage) : RuntimeTraced host given (resetFromStage receipt first) := by
  by_cases hforgets : first.rank ≤ Stage.autostart.rank
  · have hpending : (resetFromStage receipt first).runtimeDisposition = .pending := if_pos hforgets
    intro haccepted
    exact absurd hpending haccepted
  · have hgenerate : ¬ first.rank ≤ generate.rank := by
      simp only [Stage.rank] at hforgets ⊢
      omega
    exact h.congr (if_neg hforgets) (if_neg hforgets) (if_neg hgenerate) rfl

theorem RuntimeTraced.accepted {receipt receipt' : Receipt Digest} {document : Evidence Digest}
    (h : RuntimeTraced host given receipt)
    (haccepted : acceptDiscoveryEvidence host.evidence receipt document = .ok receipt') :
    RuntimeTraced host given receipt' := by
  rcases acceptDiscoveryEvidence_cases haccepted with ⟨-, rfl⟩ | ⟨-, rfl⟩ | ⟨-, -, rfl⟩
  · exact h
  · exact h.congr rfl rfl rfl rfl
  have hentered : RuntimeTraced host given (enterEpoch receipt document) := by
    have hmoved : RuntimeTraced host given { receipt with stateEpoch := document.epoch } :=
      h.congr rfl rfl rfl rfl
    unfold enterEpoch
    cases discoveryReset receipt document with
    | none => exact hmoved
    | some first =>
        simp only
        split
        · exact (hmoved.reset first).congr rfl rfl rfl rfl
        · exact hmoved.reset first
  exact hentered.congr rfl rfl rfl rfl

theorem acceptDiscoveryEvidence_intent {receipt receipt' : Receipt Digest}
    {document : Evidence Digest}
    (haccepted : acceptDiscoveryEvidence host.evidence receipt document = .ok receipt') :
    receipt'.intent = receipt.intent := by
  rcases acceptDiscoveryEvidence_cases haccepted with ⟨-, rfl⟩ | ⟨-, rfl⟩ | ⟨-, -, rfl⟩
  · rfl
  · rfl
  · exact enterEpoch_intent

abbrev KeepsTraced {α : Type} (host : Fingerprints Digest) (given : Invocation Digest → Prop)
    (intent : Intent Digest) (x : Coord Digest α) : Prop :=
  Keeps (TracedSession host given intent) x

theorem TracedSession.withReceipt {receipt : Receipt Digest}
    (h : TracedSession host given intent s) (hmemory : RuntimeTraced host given receipt)
    (hintent : receipt.intent = intent) :
    TracedSession host given intent (s.withReceipt receipt) := ⟨h.world, hmemory, hintent⟩

theorem TracedSession.emit (h : TracedSession host given intent s) (event : Event Digest)
    (hevent : ∀ delegate receipt, event ≠ .launched delegate receipt) :
    TracedSession host given intent { s with trace := event :: s.trace } := by
  refine ⟨⟨h.world.disk, fun delegate receipt hmem => ?_⟩, h.memory, h.intent⟩
  rcases List.mem_cons.mp hmem with hsame | hmem
  · exact hevent delegate receipt hsame.symm
  · exact h.world.quiet delegate receipt hmem

theorem keepsTraced_emit {event : Event Digest}
    (hevent : ∀ delegate receipt, event ≠ .launched delegate receipt) :
    KeepsTraced host given intent (LiveInstall.emit event) :=
  fun _ h => h.emit event hevent

theorem keepsTraced_note (event : NativeEvent Digest) :
    KeepsTraced host given intent (note event) := by
  intro s h
  refine ⟨⟨fun recorded hdisk => ?_, h.world.quiet⟩, h.memory, h.intent⟩
  obtain ⟨old, hold, rfl⟩ := Option.map_eq_some_iff.mp hdisk
  exact h.world.disk old hold

theorem keepsTraced_tick : KeepsTraced host given intent (tick : Coord Digest Unit) := by
  intro s h
  rw [wp_tick]
  exact ⟨fun _ => h, fun _ _ => ⟨h.world, h.memory, h.intent⟩⟩

theorem keepsTraced_lift {α : Type} (x : Except LiveInstallError α) :
    KeepsTraced host given intent (lift x : Coord Digest α) := by
  intro s h
  rw [wp_lift]
  exact ⟨fun _ _ => h, fun _ _ => h⟩

theorem keepsTraced_liftRead {α Refusal : Type} (refusal : Refusal → Failure)
    (x : Except (ReadError Refusal) α) :
    KeepsTraced host given intent (liftRead refusal x : Coord Digest α) := by
  intro s h
  rw [wp_liftRead]
  exact ⟨fun _ _ => h, fun _ _ => h⟩

theorem keepsTraced_liftLive {α : Type} (x : Except Netcraze.LiveError α) :
    KeepsTraced host given intent (liftLive x : Coord Digest α) := by
  unfold liftLive
  split
  · exact keeps_pure _
  · exact keeps_throw _
  · exact keeps_throw _
  · exact keeps_throw _
  · exact keeps_throw _

theorem keepsTraced_raiseWhen (condition : Prop) [Decidable condition] (error : LiveInstallError) :
    KeepsTraced host given intent (raiseWhen condition error) := keepsTraced_lift _

theorem keepsTraced_current :
    KeepsTraced host given intent (current : Coord Digest (Receipt Digest)) := fun _ h => h

/-- An update that touches neither the runtime nor the intent. -/
theorem keepsTraced_update {f : Receipt Digest → Receipt Digest}
    (hdisposition : ∀ receipt, (f receipt).runtimeDisposition = receipt.runtimeDisposition)
    (hevidence : ∀ receipt,
      (f receipt).runtimeEvidenceFingerprint = receipt.runtimeEvidenceFingerprint)
    (hmanifest : ∀ receipt,
      (f receipt).endpointManifestFingerprint = receipt.endpointManifestFingerprint)
    (hintent : ∀ receipt, (f receipt).intent = receipt.intent) :
    KeepsTraced host given intent (update f) := by
  intro s h
  refine h.withReceipt ?_ ((hintent _).trans h.intent)
  exact h.memory.congr (hdisposition _) (hevidence _) (hmanifest _) (hintent _)

theorem keepsTraced_updateNative (f : NativeTransaction Digest → NativeTransaction Digest) :
    KeepsTraced host given intent (updateNative f) :=
  keepsTraced_update (fun _ => rfl) (fun _ => rfl) (fun _ => rfl) (fun _ => rfl)

theorem keepsTraced_updateFinal (f : FinalVerification → FinalVerification) :
    KeepsTraced host given intent (updateFinal f) :=
  keepsTraced_update (fun _ => rfl) (fun _ => rfl) (fun _ => rfl) (fun _ => rfl)

theorem keepsTraced_mark (stage : Stage) (status : StageStatus) :
    KeepsTraced host given intent (mark stage status) :=
  keepsTraced_update (fun _ => rfl) (fun _ => rfl) (fun _ => rfl) (fun _ => rfl)

theorem keepsTraced_store : KeepsTraced host given intent (store : Coord Digest Unit) := by
  refine keeps_modify (fun s h => ?_)
  refine ⟨⟨fun recorded hdisk => ?_, h.world.quiet⟩, h.memory, h.intent⟩
  rw [← Option.some.inj hdisk]
  exact h.memory

theorem keepsTraced_publish : KeepsTraced host given intent (publish : Coord Digest Unit) := by
  refine keeps_get.bind (fun session => ?_)
  split
  · exact keepsTraced_store
  · exact keeps_throw _
  · exact keepsTraced_store.bind (fun _ => keeps_throw _)

theorem keepsTraced_persist : KeepsTraced host given intent (persist host) := by
  refine keeps_get.bind (fun session => ?_)
  refine (keepsTraced_emit (by simp)).bind (fun _ => ?_)
  refine (keepsTraced_lift _).bind (fun _ => ?_)
  refine (keepsTraced_lift _).bind (fun _ => ?_)
  exact keepsTraced_tick.bind (fun _ => keepsTraced_publish)

theorem keepsTraced_handoff {α : Type} (action : String) (expectations : List String) :
    KeepsTraced host given intent (handoff host action expectations : Coord Digest α) :=
  keepsTraced_persist.bind (fun _ => keeps_throw _)

theorem keepsTraced_accept (document : Evidence Digest) :
    KeepsTraced host given intent (accept host document) := by
  intro s h
  unfold accept
  simp only [wp_bind, wp_current, wp_emit, wp_lift, wp_modify]
  have hemitted := h.emit (.accepting s.memory.receipt) (by simp)
  refine ⟨fun accepted haccepted => ?_, fun _ _ => hemitted⟩
  refine ⟨hemitted.world, h.memory.accepted haccepted, ?_⟩
  rw [← h.intent]
  exact acceptDiscoveryEvidence_intent haccepted

theorem keepsTraced_endpointManifest (site : ManifestSite) :
    KeepsTraced host given intent (endpointManifest invocation site) :=
  keepsTraced_liftRead _ _

theorem keepsTraced_loadSnapshot (phase : Phase) :
    KeepsTraced host given intent (loadSnapshot invocation phase) := by
  unfold loadSnapshot
  split
  · exact keeps_throw _
  · exact keeps_throw _
  · exact keeps_pure _

theorem keepsTraced_pathFingerprint (path : String) :
    KeepsTraced host given intent (pathFingerprint host invocation path) := by
  unfold pathFingerprint
  split
  · exact keeps_pure _
  · exact keeps_throw _

/-- What an invocation accepts a runtime on is proven by this very invocation. -/
theorem keepsTraced_recordRuntime {manifest : { m : LocalEndpointManifest // m.Valid }}
    {document : Evidence Digest} (hgiven : given invocation)
    (hdocument : loadEvidence invocation.evidenceFile = .ok (some document))
    (hmanifest : invocation.manifest .freshRuntime = .ok manifest)
    (hslot : ∃ profile ∈ manifest.val.profiles,
      profile.slot = intent.selectedProfileSlot ∧ profile.enabled = true)
    (hsufficient : runtimeEvidenceIsSufficient (some document) intent.artifact
      (manifestFingerprint host manifest) intent.adoptExistingRuntime = true) :
    KeepsTraced host given intent
      (recordRuntime host args (manifestFingerprint host manifest) document) := by
  refine (keepsTraced_accept document).bind (fun _ s h => ?_)
  simp only [wp_bind, wp_update, withReceipt_receipt, withReceipt_withReceipt]
  refine keepsTraced_persist _ ?_
  generalize hrecorded : ({ s.memory.receipt with
    endpointManifestFingerprint := some (manifestFingerprint host manifest)
    runtimeEvidenceFingerprint := some (host.evidence document)
    runtimeDisposition := if args.adoptExistingRuntime then .adopted else .externalExecuted } :
      Receipt Digest) = recorded
  have hintent : recorded.intent = intent := by
    rw [← h.intent, ← hrecorded]
    rfl
  have htraced : RuntimeTraced host given recorded := by
    intro _
    refine ⟨?_, invocation, document, manifest, hgiven, hdocument, hmanifest, ?_, ?_, ?_, ?_⟩
    · rw [← hrecorded]
      by_cases hadopts : args.adoptExistingRuntime = true
      · exact .inl (if_pos hadopts)
      · exact .inr (if_neg hadopts)
    · rw [← hrecorded]
    · rw [← hrecorded]
    · rw [← hintent] at hslot
      exact hslot
    · rw [← hintent] at hsufficient
      exact hsufficient
  obtain ⟨stages, hmarked⟩ := markAll_eq (acceptedStatuses args) recorded
  rw [hmarked]
  exact h.withReceipt (htraced.congr rfl rfl rfl rfl) hintent

theorem keepsTraced_acceptFreshRuntime (hgiven : given invocation)
    (hevidence : loadEvidence invocation.evidenceFile = .ok evidence)
    (hslot : args.profileSlot = some intent.selectedProfileSlot)
    (hadopt : intent.adoptExistingRuntime = args.adoptExistingRuntime) :
    KeepsTraced host given intent (acceptFreshRuntime host invocation args evidence) := by
  refine Keeps.ite (fun _ => keepsTraced_handoff _ _)
    (fun _ => Keeps.ite (fun _ => keepsTraced_handoff _ _) (fun _ s h => ?_))
  rw [wp_bind]
  unfold endpointManifest
  cases hmanifest : invocation.manifest .freshRuntime with
  | error error => exact h
  | ok manifest =>
      simp only [wp_bind, wp_raiseWhen, wp_current, wp_ite]
      refine ⟨fun hlisted => ⟨fun _ => keepsTraced_handoff _ _ s h, fun hsufficient => ?_⟩,
        fun _ => h⟩
      cases evidence with
      | none => exact h
      | some document =>
          have hartifact : s.memory.receipt.artifact = intent.artifact :=
            congrArg Intent.artifact h.intent
          refine keepsTraced_recordRuntime hgiven hevidence hmanifest ?_ ?_ s h
          · obtain ⟨profile, hmem, hprofile⟩ := List.any_eq_true.mp (not_not.mp hlisted)
            simp only [hslot, Option.some.injEq, Bool.and_eq_true, decide_eq_true_eq] at hprofile
            exact ⟨profile, hmem, hprofile⟩
          · rw [Bool.not_eq_false, hartifact, ← hadopt] at hsufficient
            exact hsufficient

theorem keepsTraced_acceptExternalRuntime (hgiven : given invocation)
    (hevidence : loadEvidence invocation.evidenceFile = .ok evidence)
    (hslot : args.profileSlot = some intent.selectedProfileSlot)
    (hadopt : intent.adoptExistingRuntime = args.adoptExistingRuntime) :
    KeepsTraced host given intent (acceptExternalRuntime host invocation args evidence) := by
  have hfresh : KeepsTraced host given intent (acceptFreshRuntime host invocation args evidence) :=
    keepsTraced_acceptFreshRuntime hgiven hevidence hslot hadopt
  refine keepsTraced_current.bind (fun receipt => Keeps.ite (fun _ => ?_) (fun _ => hfresh))
  refine (keepsTraced_endpointManifest _).bind (fun manifest => ?_)
  refine (keepsTraced_raiseWhen _ _).bind (fun _ => ?_)
  cases evidence with
  | none => exact keeps_pure _
  | some document =>
      refine (keepsTraced_accept document).bind (fun _ => keepsTraced_current.bind (fun _ => ?_))
      exact Keeps.ite (fun _ => keeps_pure _) (fun _ => hfresh)

theorem keepsTraced_acceptBeforeComponent :
    KeepsTraced host given intent (acceptBeforeComponent host evidence) := by
  cases evidence with
  | none => exact keeps_pure _
  | some document => exact (keepsTraced_accept _).bind (fun _ => keepsTraced_persist)

theorem keepsTraced_componentStage :
    KeepsTraced host given intent (componentStage host evidence) := by
  refine keepsTraced_current.bind (fun receipt => Keeps.ite (fun _ => keeps_pure _) (fun _ => ?_))
  cases evidence with
  | none => exact keepsTraced_handoff _ _
  | some document =>
      refine Keeps.ite (fun _ => keepsTraced_handoff _ _) (fun _ => ?_)
      refine (keepsTraced_raiseWhen _ _).bind (fun _ => ?_)
      refine Keeps.bind (keepsTraced_update (fun _ => rfl) (fun _ => rfl) (fun _ => rfl)
        (fun _ => rfl)) (fun _ => ?_)
      exact (keepsTraced_mark _ _).bind (fun _ => keepsTraced_persist)

theorem keepsTraced_proveReboot (document : Evidence Digest) :
    KeepsTraced host given intent (proveReboot host document) := by
  refine (keepsTraced_raiseWhen _ _).bind (fun _ => ?_)
  refine (keepsTraced_mark _ _).bind (fun _ => ?_)
  refine Keeps.bind (keepsTraced_update (fun _ => rfl) (fun _ => rfl) (fun _ => rfl)
    (fun _ => rfl)) (fun _ => ?_)
  refine (keepsTraced_raiseWhen _ _).bind (fun _ => ?_)
  exact (keepsTraced_mark _ _).bind (fun _ => keepsTraced_persist)

theorem keepsTraced_requireReboot :
    KeepsTraced host given intent (requireReboot host evidence) := by
  cases evidence with
  | none => exact keeps_throw _
  | some document => exact Keeps.ite (fun _ => keeps_pure _) (fun _ => keepsTraced_handoff _ _)

theorem keepsTraced_rebootStage :
    KeepsTraced host given intent (rebootStage host args evidence) := by
  refine keepsTraced_current.bind (fun receipt => Keeps.ite (fun _ => keeps_pure _) (fun _ => ?_))
  refine Keeps.ite (fun _ => ?_) (fun _ => ?_)
  · refine Keeps.bind (keepsTraced_mark _ _) (fun _ => ?_)
    exact Keeps.bind (keepsTraced_mark _ _) (fun _ => keepsTraced_persist)
  · split
    · exact keepsTraced_proveReboot _
    · exact Keeps.ite (fun _ => keepsTraced_handoff _ _) (fun _ => keepsTraced_requireReboot)

theorem keepsTraced_componentAndReboot :
    KeepsTraced host given intent (componentAndReboot host args evidence) := by
  refine Keeps.bind keepsTraced_acceptBeforeComponent (fun _ => ?_)
  exact Keeps.bind keepsTraced_componentStage (fun _ => keepsTraced_rebootStage)

theorem keepsTraced_putFile (path : String) (file : TransactionFile Digest) :
    KeepsTraced host given intent (putFile path file) :=
  keeps_modify (fun _ h => ⟨⟨h.world.disk, h.world.quiet⟩, h.memory, h.intent⟩)

theorem keepsTraced_writeExternalTransaction (path : String) (packet : Packet Digest) :
    KeepsTraced host given intent (writeExternalTransaction path packet) := by
  refine keeps_get.bind (fun session => Keeps.ite (fun _ => keeps_throw _) (fun _ => ?_))
  refine keepsTraced_tick.bind (fun _ => (keepsTraced_putFile _ _).bind (fun _ => ?_))
  exact keepsTraced_tick.bind (fun _ => keepsTraced_putFile _ _)

theorem keepsTraced_loadExternalTransaction (path : String) :
    KeepsTraced host given intent
      (loadExternalTransaction path : Coord Digest (Packet Digest)) := by
  refine keeps_get.bind (fun session => ?_)
  split
  · exact keeps_pure _
  · exact keeps_throw _
  · exact keeps_throw _
  · exact keeps_throw _

theorem keepsTraced_verifyExternal (packet : Packet Digest) (manifest : LocalEndpointManifest)
    (state : LiveState) (phase : Phase) (path : String) :
    KeepsTraced host given intent (verifyExternal host packet manifest state phase path) :=
  (keepsTraced_liftLive _).bind (fun _ => (keepsTraced_note _).bind (fun _ => keeps_pure _))

theorem keepsTraced_planExternal (manifest : LocalEndpointManifest) :
    KeepsTraced host given intent (planExternal host invocation args manifest) := by
  unfold planExternal
  split
  · exact keepsTraced_handoff _ _
  · refine (keepsTraced_loadSnapshot _).bind (fun state => ?_)
    refine (keepsTraced_liftLive _).bind (fun packet => ?_)
    refine (keepsTraced_writeExternalTransaction _ _).bind (fun _ => ?_)
    refine (keepsTraced_verifyExternal _ _ _ _ _).bind (fun verification => ?_)
    refine (keepsTraced_raiseWhen _ _).bind (fun _ => keepsTraced_current.bind (fun _ => ?_))
    refine (keepsTraced_updateNative _).bind (fun _ => ?_)
    refine (keepsTraced_pathFingerprint _).bind (fun found => ?_)
    exact (keepsTraced_updateNative _).bind (fun _ => keepsTraced_persist)

theorem keepsTraced_verifyRunning (manifest : LocalEndpointManifest) (packet : Packet Digest) :
    KeepsTraced host given intent (verifyRunning host invocation args manifest packet) := by
  refine keepsTraced_current.bind (fun receipt => ?_)
  simp only
  split
  · exact Keeps.ite (fun _ => keepsTraced_handoff _ _) (fun _ => keepsTraced_handoff _ _)
  · refine (keepsTraced_pathFingerprint _).bind (fun found => ?_)
    refine (keepsTraced_raiseWhen _ _).bind (fun _ => ?_)
    refine (keepsTraced_loadSnapshot _).bind (fun state => ?_)
    refine (keepsTraced_verifyExternal _ _ _ _ _).bind (fun verification => ?_)
    refine (keepsTraced_raiseWhen _ _).bind (fun _ => ?_)
    exact (keepsTraced_updateNative _).bind (fun _ => keepsTraced_persist)

theorem keepsTraced_verifySaved (manifest : LocalEndpointManifest) (packet : Packet Digest) :
    KeepsTraced host given intent (verifySaved host invocation args manifest packet) := by
  refine keepsTraced_current.bind (fun receipt => ?_)
  simp only
  split
  · exact keepsTraced_handoff _ _
  · refine (keepsTraced_pathFingerprint _).bind (fun found => ?_)
    refine (keepsTraced_raiseWhen _ _).bind (fun _ => ?_)
    refine (keepsTraced_loadSnapshot _).bind (fun state => ?_)
    refine (keepsTraced_verifyExternal _ _ _ _ _).bind (fun verification => ?_)
    exact keepsTraced_raiseWhen _ _

theorem keepsTraced_whenNative {due : NativeTransaction Digest → Bool} {step : Coord Digest Unit}
    (h : KeepsTraced host given intent step) :
    KeepsTraced host given intent (whenNative due step) :=
  keepsTraced_current.bind (fun _ => Keeps.ite (fun _ => h) (fun _ => keeps_pure _))

theorem keepsTraced_externalNativeStage :
    KeepsTraced host given intent (externalNativeStage host invocation args) := by
  refine Keeps.bind ?_ (fun _ => keepsTraced_persist)
  refine (keepsTraced_endpointManifest _).bind (fun manifest => ?_)
  refine (keepsTraced_whenNative (keepsTraced_planExternal _)).bind (fun _ => ?_)
  refine (keepsTraced_loadExternalTransaction _).bind (fun packet => ?_)
  refine (keepsTraced_liftLive _).bind (fun _ => keepsTraced_current.bind (fun _ => ?_))
  refine (keepsTraced_raiseWhen _ _).bind (fun _ => ?_)
  refine (keepsTraced_whenNative (keepsTraced_verifyRunning _ _)).bind (fun _ => ?_)
  refine (keepsTraced_whenNative (keepsTraced_verifySaved _ _)).bind (fun _ => ?_)
  refine (keepsTraced_updateNative _).bind (fun _ => (keepsTraced_mark _ _).bind (fun _ => ?_))
  exact keepsTraced_updateFinal _

theorem keepsTraced_recordFailure (failure : Failure) :
    KeepsTraced host given intent (recordFailure host failure) := by
  refine Keeps.ite (fun _ => ?_) (fun _ => keeps_throw _)
  exact (keepsTraced_mark _ _).bind (fun _ => keepsTraced_persist.bind (fun _ => keeps_throw _))

theorem keepsTraced_nativeStage (hexternal : args.transport = .external) :
    KeepsTraced host given intent (nativeStage host invocation args) := by
  refine keepsTraced_current.bind (fun receipt => Keeps.ite (fun _ => keeps_pure _) (fun _ => ?_))
  refine Keeps.tryCatch ?_ keepsTraced_recordFailure
  unfold transportStage
  rw [hexternal]
  exact keepsTraced_externalNativeStage

theorem keepsTraced_refreshMissing (native : NativeTransaction Digest)
    (document : Evidence Digest) :
    KeepsTraced host given intent (refreshMissing native document) := by
  refine Keeps.ite (fun _ => ?_) (fun _ => keeps_pure _)
  split
  · exact keeps_pure _
  · exact keeps_throw _

theorem keepsTraced_passDnsGate (document : Evidence Digest) :
    KeepsTraced host given intent (passDnsGate host document) := by
  refine keeps_get.bind (fun session => (keepsTraced_emit (by simp)).bind (fun _ => ?_))
  refine (keepsTraced_mark _ _).bind (fun _ => ?_)
  refine Keeps.bind (keepsTraced_update (fun _ => rfl) (fun _ => rfl) (fun _ => rfl)
    (fun _ => rfl)) (fun _ => ?_)
  exact (keepsTraced_updateFinal _).bind (fun _ => keepsTraced_persist)

theorem keepsTraced_dnsStage : KeepsTraced host given intent (dnsStage host evidence) := by
  refine keepsTraced_current.bind (fun receipt => Keeps.ite (fun _ => keeps_pure _) (fun _ => ?_))
  cases evidence with
  | none => exact keepsTraced_handoff _ _
  | some document =>
      refine (keepsTraced_refreshMissing _ _).bind (fun missing => ?_)
      refine Keeps.ite (fun _ => keepsTraced_handoff _ _) (fun _ => ?_)
      exact Keeps.ite (fun _ => keepsTraced_handoff _ _) (fun _ => keepsTraced_passDnsGate _)

theorem keepsTraced_clientStage : KeepsTraced host given intent (clientStage host evidence) := by
  refine keepsTraced_current.bind (fun receipt => Keeps.ite (fun _ => keeps_pure _) (fun _ => ?_))
  refine Keeps.ite (fun _ => keepsTraced_handoff _ _) (fun _ => ?_)
  refine (keepsTraced_mark _ _).bind (fun _ => ?_)
  exact (keepsTraced_updateFinal _).bind (fun _ => keepsTraced_persist)

theorem keepsTraced_nativeDnsClientStages (hexternal : args.transport = .external) :
    KeepsTraced host given intent (nativeDnsClientStages host invocation args evidence) := by
  refine Keeps.bind (keepsTraced_nativeStage hexternal) (fun _ => ?_)
  refine Keeps.bind keepsTraced_dnsStage (fun _ => ?_)
  refine Keeps.bind keepsTraced_clientStage (fun _ => ?_)
  exact Keeps.bind (keepsTraced_mark _ _) (fun _ => keepsTraced_persist)

variable {world : World Digest} {started : Started Digest}

omit [DecidableEq Digest] in
theorem checkedIntent_slot {runtimeMode : RuntimeMode}
    (h : checkedIntent host invocation args runtimeMode = .ok intent) :
    args.profileSlot = some intent.selectedProfileSlot ∧
      (args.transport = .localNdmc → runtimeMode = .localRouter) := by
  simp only [checkedIntent, bind_eq_ok, mapError_eq_ok, exists_unit] at h
  obtain ⟨hvalid, artifact, -, hbuilt⟩ := h
  simp only [validateArgs, bind_eq_ok, raiseIf_eq_ok, exists_unit] at hvalid
  obtain ⟨-, hgiven, htransport, -⟩ := hvalid
  simp only [buildIntent, bind_eq_ok, raiseIf_eq_ok, exists_unit, pure_eq_ok] at hbuilt
  obtain ⟨-, -, device, -, rfl⟩ := hbuilt
  refine ⟨?_, fun hlocal => ?_⟩
  · cases hslot : args.profileSlot with
    | none => exact absurd (.inr hslot) hgiven
    | some slot => rfl
  · by_contra hmode
    exact htransport ⟨hlocal, hmode⟩

/-- What an invocation starts with goes by the slot of its receipt, over the
transport that its runtime mode allows. -/
theorem start_slot (hinjective : Function.Injective host.intent) {reset lost : Prop}
    (hgood : Good host reset lost world) (h : start host invocation world = .ok started) :
    started.args.profileSlot = some started.memory.receipt.intent.selectedProfileSlot ∧
      (started.args.transport = .localNdmc → started.runtimeMode = .localRouter) := by
  rcases start_eq_ok h with h | h
  · simp only [startApply, bind_eq_ok, mapError_eq_ok] at h
    obtain ⟨intent, hchecked, h⟩ := h
    split at h
    · cases h
    split at h
    · cases h
    rw [← pure_eq_ok.mp h]
    exact checkedIntent_slot hchecked
  · simp only [startResume, bind_eq_ok, mapError_eq_ok] at h
    obtain ⟨recorded, hloaded, intent, hchecked, ⟨receipt, write⟩, hcompatible, h⟩ := h
    obtain ⟨k, hsound⟩ := hgood.sound recorded (loadReceipt_disk hloaded)
    obtain ⟨-, hintent, -, -⟩ := validateIntentCompatible_spec hinjective hsound hcompatible
    rw [← pure_eq_ok.mp h]
    simp only [hintent]
    exact checkedIntent_slot hchecked

theorem validateIntentCompatible_runtime {receipt receipt' : Receipt Digest} {write : Bool}
    (h : validateIntentCompatible host.intent receipt intent = .ok (receipt', write)) :
    receipt'.runtimeDisposition = receipt.runtimeDisposition ∧
      receipt'.runtimeEvidenceFingerprint = receipt.runtimeEvidenceFingerprint ∧
      receipt'.endpointManifestFingerprint = receipt.endpointManifestFingerprint ∧
      receipt'.selectedProfileSlot = receipt.selectedProfileSlot ∧
      receipt'.artifact = receipt.artifact ∧
      receipt'.adoptExistingRuntime = receipt.adoptExistingRuntime := by
  unfold validateIntentCompatible at h
  split at h
  · obtain ⟨rfl, rfl⟩ := Prod.mk.inj (pure_eq_ok.mp h)
    exact ⟨rfl, rfl, rfl, rfl, rfl, rfl⟩
  · simp only [bind_eq_ok, raiseIf_eq_ok, exists_unit, pure_eq_ok] at h
    obtain ⟨-, -, -, -, -, hresult⟩ := h
    obtain ⟨rfl, rfl⟩ := Prod.mk.inj hresult
    exact ⟨rfl, rfl, rfl, rfl, rfl, rfl⟩

theorem start_traced (h : Traced host given world)
    (hstart : start host invocation world = .ok started) :
    RuntimeTraced host given started.memory.receipt := by
  rcases start_eq_ok hstart with hstart | hstart
  · simp only [startApply, bind_eq_ok, mapError_eq_ok] at hstart
    obtain ⟨intent, -, hstart⟩ := hstart
    split at hstart
    · cases hstart
    split at hstart
    · cases hstart
    rw [← pure_eq_ok.mp hstart]
    intro haccepted
    exact absurd rfl haccepted
  · simp only [startResume, bind_eq_ok, mapError_eq_ok] at hstart
    obtain ⟨recorded, hloaded, intent, -, ⟨receipt, write⟩, hcompatible, hstart⟩ := hstart
    obtain ⟨hdisposition, hevidence, hmanifest, hslot, hartifact, hadopt⟩ :=
      validateIntentCompatible_runtime hcompatible
    have htraced := h.disk recorded (loadReceipt_disk hloaded)
    rw [← pure_eq_ok.mp hstart]
    intro haccepted
    unfold RuntimeProven
    simp only [hdisposition, hevidence, hmanifest, hslot, hartifact, hadopt] at haccepted ⊢
    exact htraced haccepted

theorem keepsTraced_proceed (hgiven : given invocation)
    (hmode : started.runtimeMode = .externalEvidence)
    (hslot : started.args.profileSlot = some intent.selectedProfileSlot)
    (hadopt : intent.adoptExistingRuntime = started.args.adoptExistingRuntime)
    (hexternal : started.args.transport = .external) :
    KeepsTraced host given intent (proceed host invocation started) := by
  have hwrites : KeepsTraced host given intent (writeReceipt host) := keepsTraced_persist
  have hrest : KeepsTraced host given intent (do
      let evidence ← liftRead .liveInstall (loadEvidence invocation.evidenceFile)
      runInstallationStages host invocation started.args evidence started.runtimeMode
      pure evidence) := by
    cases hevidence : loadEvidence invocation.evidenceFile with
    | error error => exact keeps_throw _
    | ok evidence =>
        rw [hmode]
        exact (keepsTraced_acceptExternalRuntime hgiven hevidence hslot hadopt).bind
          (fun _ => keeps_pure _)
  have hprepare : KeepsTraced host given intent (prepare host invocation started) := by
    unfold prepare
    refine Keeps.ite (fun _ => hwrites.bind (fun _ => hrest)) (fun _ => hrest)
  refine hprepare.bind (fun evidence => ?_)
  exact keepsTraced_componentAndReboot.bind (fun _ => keepsTraced_nativeDnsClientStages hexternal)

theorem invoke_traced (hinjective : Function.Injective host.intent)
    (hgood : Good host True True world) (h : Traced host given world) (hgiven : given invocation)
    (hexternal : RunsExternally host world invocation) :
    Traced host given (invoke host invocation world).2 := by
  have hopened : Traced host given (invocation.opened world) := ⟨h.disk, h.quiet⟩
  rw [invoke_opened]
  cases hstart : start host invocation (invocation.opened world) with
  | error failure => exact hopened
  | ok started =>
      have hmode := hexternal started hstart
      obtain ⟨k, hready⟩ := start_ready hinjective (hgood.files _) hstart
      obtain ⟨hslot, hlocal⟩ := start_slot hinjective (hgood.files _) hstart
      have htransport : started.args.transport = .external := by
        cases htransport : started.args.transport with
        | external => rfl
        | localNdmc =>
            rw [hlocal htransport] at hmode
            cases hmode
      have hbegun : TracedSession host given started.memory.receipt.intent
          (invocation.session (invocation.opened world) started.memory) :=
        ⟨hopened, start_traced hopened hstart, rfl⟩
      have hkept := keepsTraced_proceed hgiven hmode hslot hready.adopt htransport _ hbegun
      simp only
      cases hrun : proceed host invocation started
          (invocation.session (invocation.opened world) started.memory) with
      | ok u session =>
          have hended := wp_ok hkept hrun
          exact hended.world
      | error failure session =>
          have hended := wp_error hkept hrun
          exact hended.world

theorem Run.traced (hinjective : Function.Injective host.intent)
    (h : Run host (fun world invocation => RunsExternally host world invocation ∧ given invocation)
      world) : Traced host given world := by
  induction h with
  | start files => exact ⟨fun _ hnone => (by cases hnone), fun _ _ hmem => (by cases hmem)⟩
  | invoke h hallowed ih =>
      have hgood : Good host True True _ := h.good hinjective (.inl trivial) (.inl trivial)
      exact invoke_traced hinjective hgood ih hallowed.2 hallowed.1

/-- A run in external-evidence mode launches nothing, and the runtime its receipt
accepts was proven by one of its invocations, for the manifest, artifact and slot
of the receipt. -/
theorem external_runtime_proven (hinjective : Function.Injective host.intent)
    (h : Run host (fun world invocation => RunsExternally host world invocation ∧ given invocation)
      world) :
    (∀ delegate receipt, Event.launched delegate receipt ∉ world.trace) ∧
      ∀ recorded, world.disk = some recorded →
        (∀ stage ∈ installationStages, stageDone recorded.receipt stage = true) →
        (recorded.receipt.runtimeDisposition = .adopted ∨
          recorded.receipt.runtimeDisposition = .externalExecuted) ∧
          RuntimeProven host given recorded.receipt := by
  have htraced := h.traced hinjective
  refine ⟨htraced.quiet, fun recorded hdisk hdone => htraced.disk recorded hdisk ?_⟩
  have hgood : Good host True True world := h.good hinjective (.inl trivial) (.inl trivial)
  obtain ⟨k, hsound⟩ := hgood.sound recorded hdisk
  have hautostart := hdone Stage.autostart (by decide)
  rw [hsound.progress.done_iff] at hautostart
  intro hpending
  rw [hsound.runtime.pending] at hpending
  simp only [Stage.rank] at hautostart
  omega

end Provenance

theorem external_runtime_proven_sample : ∃ recorded, deliveredWorld.disk = some recorded ∧
    recorded.receipt.runtimeDisposition = .adopted ∧
    RuntimeProven sampleHost (fun invocation => invocation = adoptingInvocation)
      recorded.receipt := by
  have hmode : (start sampleHost adoptingInvocation
      (adoptingInvocation.opened emptyWorld)).toOption.all (fun started =>
        started.runtimeMode = .externalEvidence) = true := by decide +kernel
  have hrun : Run sampleHost (fun world invocation =>
      RunsExternally sampleHost world invocation ∧ invocation = adoptingInvocation)
      deliveredWorld := by
    refine .invoke (.start _) ⟨fun started hstart => ?_, rfl⟩
    rw [hstart] at hmode
    simpa [Except.toOption] using hmode
  have hadopted : deliveredWorld.disk.any (fun recorded =>
      recorded.receipt.runtimeDisposition = .adopted &&
        installationStages.all (stageDone recorded.receipt)) = true := by decide +kernel
  obtain ⟨recorded, hdisk, hrecorded⟩ := (Option.any_eq_true _ _).mp hadopted
  simp only [Bool.and_eq_true, decide_eq_true_eq] at hrecorded
  obtain ⟨hdisposition, hdone⟩ := hrecorded
  refine ⟨recorded, hdisk, hdisposition, ?_⟩
  exact ((external_runtime_proven SampleDigest.ofIntent_injective hrun).2 recorded hdisk
    (List.all_eq_true.mp hdone)).2

end RouterKit.LiveInstall
