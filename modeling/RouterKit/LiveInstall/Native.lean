import RouterKit.LiveInstall.Stages

/-!
The native stage and what follows it. A failure that the stage records leaves the
receipt as good as it was; the transaction advances only with what its new status
stands for.
-/

namespace RouterKit.LiveInstall

open RouterKit.Lib.Checked RouterKit.Lib.Programs
open RouterKit.Netcraze (LiveState LocalEndpointManifest)
open RouterKit.Netcraze.External (Packet Phase)
open Stage

variable {Digest : Type} [DecidableEq Digest] {host : Fingerprints Digest} {reset lost : Prop}
  {intent : Intent Digest} {s : Session Digest} {k : Nat} {invocation : Invocation Digest}
  {args : Args} {evidence : Option (Evidence Digest)}

/-- How a part of the native stage ends early: where the failure will be recorded,
the session is still in good order with the stage open. -/
abbrev EndsOpen (host : Fingerprints Digest) (reset lost : Prop) (intent : Intent Digest) :
    Failure → Session Digest → Prop :=
  fun failure session => Good host reset lost session.toWorld ∧
    (failure.recordable = true → Holds host reset lost intent session 13)

/-- The native stage is finished but for its last `_persist`: the receipt in memory
says so, and where that write leaves the receipt on disk, that one says no less. -/
structure Finished (host : Fingerprints Digest) (reset lost : Prop) (intent : Intent Digest)
    (session : Session Digest) : Prop where
  disk : ∀ recorded, session.disk = some recorded → Sound host.intent recorded.receipt
  kept : ¬ session.Replaces →
    ∀ recorded, session.disk = some recorded → History host lost recorded
  trace : ∀ event ∈ session.trace, EventOk host reset lost event
  sound : SoundAt host.intent session.memory.receipt 14
  history : History host lost session.memory
  intent : session.memory.receipt.intent = intent

/-- The last write of the native stage fails, though the process lives on. -/
def Session.Unwritten (session : Session Digest) : Prop :=
  ∃ steps, session.steps = steps + 1 ∧ session.writes steps ≠ .stored

theorem Finished.persist (h : Finished host reset lost intent s) :
    wp (LiveInstall.persist host) (fun _ s' => Holds host reset lost intent s' 14)
      (fun failure s' => Good host reset lost s'.toWorld ∧ (failure.recordable = true →
        s.Unwritten ∧ SoundAt host.intent s'.memory.receipt 14)) s := by
  have hexisting : checkExisting host s.disk = .ok () := by
    cases hdisk : s.disk with
    | none => rfl
    | some recorded => simp only [checkExisting, (h.disk recorded hdisk).valid]; rfl
  have hhanded : ∀ event ∈ Event.handed s.memory.receipt :: s.trace,
      EventOk host reset lost event := by
    intro event hmem
    rcases List.mem_cons.mp hmem with rfl | hmem
    · exact .inr h.sound.valid
    · exact h.trace event hmem
  have hstored : Good host reset lost { s.toWorld with
      disk := some s.memory, trace := .handed s.memory.receipt :: s.trace } := by
    refine ⟨fun recorded hdisk => ?_, fun recorded hdisk => ?_, hhanded⟩
    · exact Option.some.inj hdisk ▸ ⟨14, h.sound⟩
    · exact Option.some.inj hdisk ▸ h.history
  rw [wp_persist h.sound.valid hexisting]
  refine ⟨fun hsteps => ?_, fun steps hsteps => ⟨fun _ => ?_, fun message hrefused => ?_,
    fun message hunsynced => ?_⟩⟩
  · refine ⟨⟨h.disk, h.kept ?_, hhanded⟩, fun hrecordable => by cases hrecordable⟩
    rintro ⟨steps, hmore, -⟩
    omega
  · exact ⟨hstored, h.sound, h.history, h.intent⟩
  · refine ⟨⟨h.disk, h.kept ?_, hhanded⟩, fun _ => ⟨⟨steps, hsteps, ?_⟩, h.sound⟩⟩
    · rintro ⟨others, hothers, hreplaces⟩
      obtain rfl : others = steps := by omega
      exact hreplaces message hrefused
    · simp [hrefused]
  · refine ⟨hstored, fun _ => ⟨⟨steps, hsteps, ?_⟩, h.sound⟩⟩
    simp [hunsynced]

/-- The packet says whether it is to be saved by saying whether it writes. -/
theorem saveRequired_of_build {payload : Netcraze.External.Payload Digest → Digest}
    {manifest : LocalEndpointManifest} {state : LiveState} {deviceMac : Option String}
    {profileSlot : Option Nat} {allowMove : Bool} {contract : String} {packet : Packet Digest}
    (hbuild : Netcraze.External.buildExternalTransaction payload manifest state deviceMac
      profileSlot allowMove contract = .ok packet) :
          packet.saveRequired = packet.writeRequired := by
  simp only [Netcraze.External.buildExternalTransaction, bind_eq_ok, exists_unit] at hbuild
  obtain ⟨-, mac, -, plan, -, bindings, -, assignment, -, rendered, -, expected, -, u,
      -, hpacket⟩ :=
    hbuild
  rw [← pure_eq_ok.mp hpacket]
  rfl

namespace Holds

theorem isOpen (h : Holds host reset lost intent s 13) (failure : Failure) :
    EndsOpen host reset lost intent failure s := ⟨h.good, fun _ => h⟩

theorem native_open (h : Holds host reset lost intent s 13) :
    s.memory.receipt.nativeTransaction.status ≠ .pass := by
  intro hpass
  have hnative := h.sound.fields.native.mp hpass
  omega

/-- While the stage is open, every write so far is lost. -/
theorem no_writes (h : Holds host reset lost intent s 13) :
    lost ∨ ∀ epoch, NativeEvent.wrote epoch ∉ s.memory.history :=
  h.history.writes.imp id
    (fun hwrites epoch hmem => h.native_open (hwrites epoch hmem).1)

theorem liftLive {α : Type} (h : Holds host reset lost intent s 13)
    (x : Except Netcraze.LiveError α) :
    wp (LiveInstall.liftLive x) (fun a s' => x = .ok a ∧ s' = s) (EndsOpen host reset lost intent)
      s := by
  cases x with
  | ok a => exact ⟨rfl, rfl⟩
  | error error =>
      cases error with
      | adapter message exitCode => exact h.isOpen _
      | deviceDiscovery inner => exact h.isOpen _
      | keyError => exact h.isOpen _
      | valueError => exact h.isOpen _

/-- A verification is noted with the receipt, in memory and on disk. -/
theorem noteVerified (h : Holds host reset lost intent s k) (phase : Phase) (fingerprint : Digest)
    (path : String) :
    Holds host reset lost intent { s with
      memory := s.memory.note (.verified phase fingerprint path)
      disk := s.disk.map (Recorded.note (.verified phase fingerprint path)) } k := by
  have hnote : ∀ recorded, History host lost recorded →
      History host lost (recorded.note (.verified phase fingerprint path)) := by
    intro recorded hhistory
    refine ⟨hhistory.writes.imp id (fun hwrites epoch hmem => ?_),
      fun htransport => (hhistory.verified htransport).append _⟩
    refine hwrites epoch ?_
    rcases List.mem_append.mp hmem with hold | hnew
    · exact hold
    · cases List.mem_singleton.mp hnew
  refine ⟨⟨fun recorded hdisk => ?_, fun recorded hdisk => ?_, h.good.trace⟩, h.sound,
    hnote _ h.history, h.intent⟩
  · obtain ⟨old, hold, rfl⟩ := Option.map_eq_some_iff.mp hdisk
    exact h.good.sound old hold
  · obtain ⟨old, hold, rfl⟩ := Option.map_eq_some_iff.mp hdisk
    exact hnote old (h.good.history old hold)

theorem verifyExternal (h : Holds host reset lost intent s 13) (packet : Packet Digest)
    (manifest : LocalEndpointManifest) (state : LiveState) (phase : Phase) (path : String) :
    wp (LiveInstall.verifyExternal host packet manifest state phase path)
      (fun _ s' => Holds host reset lost intent s' 13 ∧
        s'.memory.receipt = s.memory.receipt ∧ s'.memory.history =
          s.memory.history ++ [.verified phase packet.transactionFingerprint path])
      (EndsOpen host reset lost intent) s := by
  unfold LiveInstall.verifyExternal
  simp only [wp_bind, wp_note, wp_pure]
  refine wp_mono (h.liftLive _) (fun verification s₁ h₁ => ?_) (fun _ _ h' => h')
  obtain ⟨-, rfl⟩ := h₁
  exact ⟨h.noteVerified _ _ _, rfl, rfl⟩

theorem loadSnapshot (h : Holds host reset lost intent s 13) (phase : Phase) :
    wp (LiveInstall.loadSnapshot invocation phase) (fun _ s' => s' = s)
      (EndsOpen host reset lost intent) s := by
  unfold LiveInstall.loadSnapshot
  split
  · exact h.isOpen _
  · exact h.isOpen _
  · exact rfl

theorem pathFingerprint (h : Holds host reset lost intent s 13) (path : String) :
    wp (LiveInstall.pathFingerprint host invocation path)
      (fun found s' => invocation.resolve path = some found.1 ∧
          found.2 = host.path found.1 ∧ s' = s)
      (EndsOpen host reset lost intent) s := by
  unfold LiveInstall.pathFingerprint
  cases hresolve : invocation.resolve path with
  | none => exact h.isOpen _
  | some resolved => exact ⟨rfl, rfl, rfl⟩

theorem endpointManifestOpen (h : Holds host reset lost intent s 13) (site : ManifestSite) :
    wp (LiveInstall.endpointManifest invocation site) (fun _ s' => s' = s)
      (EndsOpen host reset lost intent) s := by
  unfold LiveInstall.endpointManifest
  rw [wp_liftRead]
  exact ⟨fun _ _ => rfl, fun _ _ => h.isOpen _⟩

theorem writeExternalTransaction (h : Holds host reset lost intent s 13) (path : String)
    (packet : Packet Digest) :
    wp (LiveInstall.writeExternalTransaction path packet)
      (fun _ s' => Holds host reset lost intent s' 13 ∧ s'.memory = s.memory)
      (EndsOpen host reset lost intent) s := by
  unfold LiveInstall.writeExternalTransaction
  simp only [wp_bind, wp_get, wp_ite, wp_throw, wp_tick, putFile, wp_modify]
  refine ⟨fun _ => h.isOpen _, fun _ => ⟨fun _ => h.isOpen _, fun steps _ => ⟨fun _ => ?_,
    fun steps' _ => ?_⟩⟩⟩
  · exact ⟨h.good.files _, fun hrecordable => by cases hrecordable⟩
  · exact ⟨⟨(h.good.files _).files _, h.sound, h.history, h.intent⟩, trivial⟩

/-- The native transaction advances to a status its history bears out. -/
theorem advance (h : Holds host reset lost intent s 13) (native : NativeTransaction Digest)
    (hstatus : native.status ≠ .pass)
    (hrefresh : native.dnsRefreshRequired = true → native.preEpoch ≠ none)
    (hverified : NativeVerified host native s.memory.history) :
    Holds host reset lost intent
      (s.withReceipt { s.memory.receipt with nativeTransaction := native }) 13 := by
  refine ⟨h.good, h.sound.nativeStep le_rfl hstatus hrefresh, ⟨?_, fun _ => hverified⟩, h.intent⟩
  exact h.no_writes.imp id (fun hnone epoch hmem => absurd hmem (hnone epoch))

theorem planExternal (h : Holds host reset lost intent s 13) (manifest : LocalEndpointManifest) :
    wp (LiveInstall.planExternal host invocation args manifest)
      (fun _ s' => Holds host reset lost intent s' 13 ∧
        s'.memory.receipt.nativeTransaction.status = .planned)
      (EndsOpen host reset lost intent) s := by
  unfold LiveInstall.planExternal
  split
  · exact h.handoff _ _ _
  rename_i preSnapshot hgiven
  rw [wp_bind]
  refine wp_mono (h.loadSnapshot .pre) (fun state s₁ hsame => ?_) (fun _ _ h' => h')
  subst hsame
  rw [wp_bind]
  refine wp_mono (h.liftLive _) (fun packet s₂ hbuilt => ?_) (fun _ _ h' => h')
  obtain ⟨hbuild, rfl⟩ := hbuilt
  rw [wp_bind]
  refine wp_mono (h.writeExternalTransaction _ packet) (fun _ s₃ h₃ => ?_) (fun _ _ h' => h')
  obtain ⟨h₃, -⟩ := h₃
  rw [wp_bind]
  refine wp_mono (h₃.verifyExternal packet manifest state .pre _) (fun verification s₄ h₄ => ?_)
    (fun _ _ h' => h')
  obtain ⟨h₄, -, hhistory⟩ := h₄
  simp only [wp_bind, wp_raiseWhen, wp_current, wp_updateNative]
  refine ⟨fun _ => ?_, fun _ => h₄.isOpen _⟩
  unfold LiveInstall.pathFingerprint
  cases hresolve : invocation.resolve preSnapshot with
  | none => exact ⟨h₄.good, fun hrecordable => by cases hrecordable⟩
  | some found =>
      simp only [wp_pure, withReceipt_receipt, withReceipt_withReceipt]
      have hpath : resolved invocation preSnapshot = found := by
        unfold resolved
        rw [hresolve]
        rfl
      rw [hpath] at hhistory
      have hplanned := h₄.advance { s₄.memory.receipt.nativeTransaction with
          fingerprint := some packet.transactionFingerprint
          status := .planned
          writeRequired := some packet.writeRequired
          saveRequired := some packet.saveRequired
          preEpoch := some s₄.memory.receipt.stateEpoch
          dnsRefreshRequired := packet.writeRequired
          preSnapshotPathFingerprint := some (host.path found) } (by simp) (by simp)
        ⟨packet.transactionFingerprint, found, packet.writeRequired, rfl, rfl, rfl,
          congrArg some (saveRequired_of_build hbuild), by
            rw [hhistory]
            exact List.sublist_append_right _ _⟩
      refine wp_mono hplanned.persist (fun _ s₅ h₅ => ⟨h₅.1, ?_⟩) (fun _ _ h' => h')
      rw [h₅.2]
      rfl

theorem verifyRunning (h : Holds host reset lost intent s 13) (manifest : LocalEndpointManifest)
    {packet : Packet Digest} (htransport : intent.transportMode = .external)
    (hstatus : s.memory.receipt.nativeTransaction.status = .planned)
    (hpacket : some packet.transactionFingerprint =
      s.memory.receipt.nativeTransaction.fingerprint) :
    wp (LiveInstall.verifyRunning host invocation args manifest packet)
      (fun _ s' => Holds host reset lost intent s' 13 ∧
        s'.memory.receipt.nativeTransaction.status = .runningVerified ∧
        some packet.transactionFingerprint = s'.memory.receipt.nativeTransaction.fingerprint)
      (EndsOpen host reset lost intent) s := by
  unfold LiveInstall.verifyRunning
  rw [wp_bind, wp_current]
  split
  · rw [wp_ite]
    exact ⟨fun _ => h.handoff _ _ _, fun _ => h.handoff _ _ _⟩
  rename_i postSnapshot hgiven
  rw [wp_bind]
  refine wp_mono (h.pathFingerprint postSnapshot) (fun found s₁ hfound => ?_) (fun _ _ h' => h')
  obtain ⟨path, fingerprint⟩ := found
  obtain ⟨-, hfingerprint, rfl⟩ := hfound
  change fingerprint = host.path path at hfingerprint
  subst hfingerprint
  simp only [wp_bind, wp_raiseWhen]
  refine ⟨fun hfresh => ?_, fun _ => h.isOpen _⟩
  refine wp_mono (h.loadSnapshot .running) (fun state s₂ hsame => ?_) (fun _ _ h' => h')
  subst hsame
  refine wp_mono (h.verifyExternal packet manifest state .running path)
    (fun verification s₃ h₃ => ?_) (fun _ _ h' => h')
  obtain ⟨h₃, hreceipt, hhistory⟩ := h₃
  simp only [wp_updateNative]
  refine ⟨fun _ => ?_, fun _ => h₃.isOpen _⟩
  have hexternal : s₂.memory.receipt.transportMode = .external := by
    rw [← htransport, ← h.intent]
    rfl
  have hverified := h.history.verified hexternal
  unfold NativeVerified at hverified
  rw [hstatus] at hverified
  obtain ⟨recorded, pre, write, hpre⟩ := hverified
  obtain rfl : packet.transactionFingerprint = recorded :=
    Option.some.inj (hpacket.trans hpre.recorded)
  have hrunning := h₃.advance { s₃.memory.receipt.nativeTransaction with
      status := .runningVerified
      runningSnapshotPathFingerprint := some (host.path path) } (by simp)
    (by rw [hreceipt]; exact h.sound.fields.refresh)
    ⟨packet.transactionFingerprint, pre, path, write, by rw [hreceipt]; exact hpre.recorded,
      by rw [hreceipt]; exact hpre.prePath, rfl, fun heq => hfresh (by rw [heq, hpre.prePath]),
      by rw [hreceipt]; exact hpre.writeRequired, by rw [hreceipt]; exact hpre.saveRequired, by
        rw [hhistory]
        exact hpre.verified.append (List.Sublist.refl _)⟩
  refine wp_mono hrunning.persist (fun _ s₄ h₄ => ⟨h₄.1, ?_, ?_⟩) (fun _ _ h' => h')
  · rw [h₄.2]
    rfl
  · rw [h₄.2]
    show _ = s₃.memory.receipt.nativeTransaction.fingerprint
    rw [hreceipt, hpacket]

/-- What the status PASS will stand for holds of the session. -/
def Completes (host : Fingerprints Digest) (session : Session Digest) : Prop :=
  ∃ fingerprint pre running write,
    RunningVerified host session.memory.receipt.nativeTransaction session.memory.history
      fingerprint pre running write ∧
    (write = true → SavedVerified host session.memory.history fingerprint pre running)

theorem running (h : Holds host reset lost intent s 13)
    (htransport : intent.transportMode = .external)
    (hstatus : s.memory.receipt.nativeTransaction.status = .runningVerified) :
    ∃ fingerprint pre running write, RunningVerified host
      s.memory.receipt.nativeTransaction s.memory.history fingerprint pre running write := by
  have hexternal : s.memory.receipt.transportMode = .external := by
    rw [← htransport, ← h.intent]
    rfl
  have hverified := h.history.verified hexternal
  unfold NativeVerified at hverified
  rwa [hstatus] at hverified

theorem verifySaved (h : Holds host reset lost intent s 13) (manifest : LocalEndpointManifest)
    {packet : Packet Digest} (htransport : intent.transportMode = .external)
    (hstatus : s.memory.receipt.nativeTransaction.status = .runningVerified)
    (hpacket : some packet.transactionFingerprint =
      s.memory.receipt.nativeTransaction.fingerprint) :
    wp (LiveInstall.verifySaved host invocation args manifest packet)
      (fun _ s' => Holds host reset lost intent s' 13 ∧ Completes host s')
      (EndsOpen host reset lost intent) s := by
  unfold LiveInstall.verifySaved
  rw [wp_bind, wp_current]
  split
  · exact h.handoff _ _ _
  rename_i savedSnapshot hgiven
  rw [wp_bind]
  refine wp_mono (h.pathFingerprint savedSnapshot) (fun found s₁ hfound => ?_) (fun _ _ h' => h')
  obtain ⟨path, fingerprint⟩ := found
  obtain ⟨-, hfingerprint, rfl⟩ := hfound
  change fingerprint = host.path path at hfingerprint
  subst hfingerprint
  simp only [wp_bind, wp_raiseWhen, not_or]
  refine ⟨fun hfresh => ?_, fun _ => h.isOpen _⟩
  refine wp_mono (h.loadSnapshot .saved) (fun state s₂ hsame => ?_) (fun _ _ h' => h')
  subst hsame
  refine wp_mono (h.verifyExternal packet manifest state .saved path)
    (fun verification s₃ h₃ => ?_) (fun _ _ h' => h')
  obtain ⟨h₃, hreceipt, hhistory⟩ := h₃
  refine ⟨fun _ => ⟨h₃, ?_⟩, fun _ => h₃.isOpen _⟩
  obtain ⟨recorded, pre, running, write, hrunning⟩ := h.running htransport hstatus
  obtain rfl : packet.transactionFingerprint = recorded :=
    Option.some.inj (hpacket.trans hrunning.recorded)
  have hmore : s₂.memory.history.Sublist s₃.memory.history := by
    rw [hhistory]
    exact List.sublist_append_left _ _
  refine ⟨packet.transactionFingerprint, pre, running, write, ?_, fun _ => ⟨path, ?_, ?_, ?_⟩⟩
  · rw [hreceipt]
    exact { hrunning with verified := hrunning.verified.trans hmore }
  · exact fun heq => hfresh.1 (by rw [heq, hrunning.prePath])
  · exact fun heq => hfresh.2 (by rw [heq, hrunning.runningPath])
  · rw [hhistory]
    exact hrunning.verified.append (List.Sublist.refl _)

theorem completeExternal (h : Holds host reset lost intent s 13) (hcomplete : Completes host s)
    (E : Failure → Session Digest → Prop) :
    wp LiveInstall.completeExternal (fun _ s' => Finished host reset lost intent s') E s := by
  unfold LiveInstall.completeExternal
  simp only [wp_bind, wp_updateNative, wp_mark, wp_updateFinal]
  obtain ⟨fingerprint, pre, running, write, hrunning, hsaved⟩ := hcomplete
  refine ⟨h.good.sound, fun _ => h.good.history, h.good.trace,
    h.sound.native rfl h.sound.fields.refresh, ⟨?_, fun _ => ?_⟩, h.intent⟩
  · exact h.no_writes.imp id (fun hnone epoch hmem => absurd hmem (hnone epoch))
  · exact ⟨fingerprint, pre, running, write, { hrunning with }, hsaved⟩

theorem externalNativeWork (h : Holds host reset lost intent s 13)
    (htransport : intent.transportMode = .external) :
    wp (LiveInstall.externalNativeWork host invocation args)
      (fun _ s' => Finished host reset lost intent s') (EndsOpen host reset lost intent) s := by
  unfold LiveInstall.externalNativeWork whenNative
  rw [wp_bind]
  refine wp_mono (h.endpointManifestOpen _) (fun manifest s₁ hsame => ?_) (fun _ _ h' => h')
  subst hsame
  rw [wp_bind]
  have hplan : wp (do
      let receipt ← current
      if (decide (receipt.nativeTransaction.status = .pending)) = true then
        LiveInstall.planExternal host invocation args manifest.val
      else pure ())
      (fun _ s' => Holds host reset lost intent s' 13 ∧
        s'.memory.receipt.nativeTransaction.status ≠ .pending)
      (EndsOpen host reset lost intent) s₁ := by
    simp only [wp_bind, wp_current, wp_ite, wp_pure, decide_eq_true_eq]
    refine ⟨fun _ => ?_, fun hnot => ⟨h, hnot⟩⟩
    refine wp_mono (h.planExternal manifest.val) (fun _ s' h' => ⟨h'.1, ?_⟩) (fun _ _ h' => h')
    rw [h'.2]
    simp
  refine wp_mono hplan (fun _ s₂ h₂ => ?_) (fun _ _ h' => h')
  obtain ⟨h₂, hpending⟩ := h₂
  have hload : wp (loadExternalTransaction (transactionPath args)) (fun _ s' => s' = s₂)
      (EndsOpen host reset lost intent) s₂ := by
    unfold loadExternalTransaction
    rw [wp_bind, wp_get]
    split
    · exact rfl
    · exact h₂.isOpen _
    · exact h₂.isOpen _
    · exact h₂.isOpen _
  rw [wp_bind]
  refine wp_mono hload (fun packet s₃ hsame => ?_) (fun _ _ h' => h')
  subst hsame
  rw [wp_bind]
  refine wp_mono (h₂.liftLive _) (fun plan s₄ hvalid => ?_) (fun _ _ h' => h')
  obtain ⟨-, rfl⟩ := hvalid
  simp only [wp_bind, wp_current, wp_raiseWhen, not_not, wp_ite, wp_pure, decide_eq_true_eq]
  refine ⟨fun hpacket => ?_, fun _ => h₂.isOpen _⟩
  have hrest : ∀ s', Holds host reset lost intent s' 13 →
      s'.memory.receipt.nativeTransaction.status = .runningVerified →
      some packet.transactionFingerprint = s'.memory.receipt.nativeTransaction.fingerprint →
      (((decide (s'.memory.receipt.nativeTransaction.status = .runningVerified) &&
          decide (s'.memory.receipt.nativeTransaction.saveRequired = some true)) = true →
        wp (LiveInstall.verifySaved host invocation args manifest.val packet)
          (fun _ s'' => wp LiveInstall.completeExternal
            (fun _ s' => Finished host reset lost intent s')
            (EndsOpen host reset lost intent) s'')
          (EndsOpen host reset lost intent) s') ∧
        (¬ (decide (s'.memory.receipt.nativeTransaction.status = .runningVerified) &&
            decide (s'.memory.receipt.nativeTransaction.saveRequired = some true)) = true →
          wp LiveInstall.completeExternal
            (fun _ s' => Finished host reset lost intent s')
            (EndsOpen host reset lost intent) s')) := by
    intro s' h' hstatus hpacket'
    refine ⟨fun _ => ?_, fun hnot => ?_⟩
    · refine wp_mono (h'.verifySaved manifest.val htransport hstatus hpacket')
        (fun _ s'' h'' => ?_) (fun _ _ h'' => h'')
      exact h''.1.completeExternal h''.2 _
    · obtain ⟨fingerprint, pre, running, write, hrunning⟩ := h'.running htransport hstatus
      refine h'.completeExternal ⟨fingerprint, pre, running, write, hrunning, fun hwrite => ?_⟩ _
      simp [hstatus, hrunning.saveRequired, hwrite] at hnot
  refine ⟨fun hplanned => ?_, fun hnot => ?_⟩
  · refine wp_mono (h₂.verifyRunning manifest.val htransport hplanned hpacket)
      (fun _ s₅ h₅ => ?_) (fun _ _ h' => h')
    exact hrest s₅ h₅.1 h₅.2.1 h₅.2.2
  · have hstatus : s₄.memory.receipt.nativeTransaction.status = .runningVerified := by
      have hnotPass := h₂.native_open
      cases hcase : s₄.memory.receipt.nativeTransaction.status <;> simp_all
    exact hrest s₄ h₂ hstatus hpacket

end Holds

end RouterKit.LiveInstall
