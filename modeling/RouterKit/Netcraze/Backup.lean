import RouterKit.Netcraze.LiveRollback

/-!
The backup an apply makes before it writes. The configuration goes to a new file
in one call of `os.write`, whose count of stored bytes is not looked at. The
first command of an apply reads the configuration; every later one is sent
behind the backup.
-/

namespace RouterKit.Netcraze

open RouterKit.Lib RouterKit.Lib.Checked RouterKit.Devices

/-- The file system as `_backup_running_config` meets it. A write that raises
may have stored some bytes too. -/
structure BackupSystem where
  rootReady : Bool
  creates : Bool
  write : List UInt8 → Option Nat
  storedByFailure : List UInt8 → Nat
  synchronizes : Bool
  closes : Bool
  write_le : ∀ data count, write data = some count → count ≤ data.length

/-- What a backup leaves: the content of the file it created, and whether it returned. -/
structure BackupOutcome where
  file : Option (List UInt8)
  returned : Bool
deriving DecidableEq

def encoded (raw : String) : List UInt8 := raw.toUTF8.data.toList

/-- `_backup_running_config`. -/
def BackupSystem.backupRunningConfig (system : BackupSystem) (raw : String) : BackupOutcome :=
  if system.rootReady && system.creates then
    match system.write (encoded raw) with
    | some count =>
        { file := some ((encoded raw).take count)
          returned := system.synchronizes && system.closes }
    | none =>
        { file := some ((encoded raw).take (system.storedByFailure (encoded raw)))
          returned := false }
  else { file := none, returned := false }

/-- The transport, next to the file system the backup is written to. -/
def Transport.withBackup (transport : Transport) (outcome : BackupOutcome) : Transport :=
  { transport with backupWritten := outcome.returned }

namespace Live

/-- How a run of the adapter ends. -/
def finalRun {α : Type} : EStateM.Result LiveError ApplyRun α → ApplyRun
  | .ok _ run => run
  | .error _ run => run

/-- A command behind the reading of the configuration has been sent. -/
def SendsWrite {α : Type} (ran : EStateM.Result LiveError ApplyRun α) : Prop :=
  1 < (finalRun ran).router.sent

/-- The adapter comes to its write commands: the configuration is read, the plan
is fresh and asks for a write, and the backup returns. -/
structure WritesReached (rules : PlanRules) (transport : Transport)
    (manifest : LocalEndpointManifest) (plan : LivePlan) (deviceMac : Option String)
    (state : LiveState) : Prop where
  read : transport.outcome 0 = .applied
  fresh : rules.buildLivePlan manifest state.parsed deviceMac plan.selectedSlot
    (plan.assignmentAction = .move) = .ok plan
  required : writeRequired plan = true
  backedUp : transport.backupWritten = true

section Counting

variable {α β : Type} {transport : Transport}

/-- A program that takes back no command it or another has sent. -/
def Counts (x : ApplyM α) : Prop := ∀ run, run.router.sent ≤ (finalRun (x run)).router.sent

theorem counts_pure (a : α) : Counts (pure a : ApplyM α) := fun _ => Nat.le_refl _

theorem counts_get : Counts (get : ApplyM ApplyRun) := fun _ => Nat.le_refl _

theorem counts_raise (error : LiveError) : Counts (raise error : ApplyM α) :=
  fun _ => Nat.le_refl _

theorem counts_note (f : ApplyResult → ApplyResult) : Counts (note f) := fun _ => Nat.le_refl _

theorem counts_lift (x : Except LiveError α) : Counts (lift x) := by
  cases x with
  | ok a => exact counts_pure a
  | error e => exact counts_raise e

theorem counts_command (line : NdmCommand) : Counts (command transport line) := by
  intro run
  unfold command
  cases transport.outcome run.router.sent <;> exact Nat.le_succ _

theorem Counts.bind {x : ApplyM α} {f : α → ApplyM β} (hx : Counts x) (hf : ∀ a, Counts (f a)) :
    Counts (x >>= f) := by
  intro run
  have hfirst := hx run
  rw [bind_run]
  cases hrun : x run with
  | error error after =>
      rw [hrun] at hfirst
      exact hfirst
  | ok a middle =>
      rw [hrun] at hfirst
      exact Nat.le_trans hfirst (hf a middle)

theorem counts_succeeds {x : ApplyM Bool} (hx : Counts x) : Counts (succeeds x) := by
  intro run
  have hfirst := hx run
  unfold succeeds
  cases hrun : x run with
  | ok value after =>
      rw [hrun] at hfirst
      exact hfirst
  | error error after =>
      rw [hrun] at hfirst
      show run.router.sent ≤
        (finalRun (if isAdapterError error then EStateM.Result.ok false after
          else EStateM.Result.error error after)).router.sent
      split <;> exact hfirst

theorem counts_rollBackAll (lines : List NdmCommand) : Counts (rollBackAll transport lines) := by
  induction lines with
  | nil => exact counts_pure true
  | cons line rest ih =>
      apply Counts.bind (counts_succeeds ((counts_command line).bind fun _ => counts_pure true))
      intro executed
      cases executed with
      | true => exact ih
      | false => exact counts_pure false

variable (transport) in
theorem counts_readState : Counts (readState transport) :=
  (counts_command _).bind fun _ => counts_get.bind fun _ => counts_pure _

variable (transport) in
theorem counts_recover (stateBefore : LiveState) (error : LiveError) :
    Counts (recover transport stateBefore error : ApplyM α) := by
  apply (counts_note _).bind
  intro _
  apply counts_get.bind
  intro run
  apply (counts_rollBackAll _).bind
  intro executed
  have hconfirm : Counts (confirmGuard transport stateBefore) :=
    (counts_command _).bind fun _ => (counts_readState transport).bind fun _ => counts_pure _
  have hend : ∀ proven : Bool, Counts
      (note (fun result => { result with rollbackVerified := proven }) >>= fun _ =>
        if proven then (raise error : ApplyM α)
        else raise (.adapter "Netcraze live apply failed and rollback could not be proven."
          rollbackUnproven)) := by
    intro proven
    apply (counts_note _).bind
    intro _
    cases proven with
    | true => exact counts_raise _
    | false => exact counts_raise _
  cases executed with
  | true => exact (counts_succeeds hconfirm).bind hend
  | false => exact (counts_pure false).bind hend

variable (transport) in
theorem counts_verifyAndSave (rules : PlanRules) (manifest : LocalEndpointManifest)
    (plan : LivePlan) (stateBefore : LiveState) (mac : Option String) :
    Counts (verifyAndSave rules transport manifest plan stateBefore mac) := by
  have hread : ∀ changed, Counts (readBack rules transport manifest plan stateBefore mac changed) :=
    fun _ => (counts_readState transport).bind fun _ => (counts_lift _).bind fun _ => counts_lift _
  exact (hread _).bind fun _ => (counts_command _).bind fun _ => (counts_note _).bind fun _ =>
    (hread _).bind fun _ => (counts_note _).bind fun _ => counts_get.bind fun _ => counts_pure _

end Counting

section Reaching

variable {rules : PlanRules} {transport : Transport} {manifest : LocalEndpointManifest}
  {state : LiveState} {deviceMac : Option String} {plan : LivePlan}

theorem writeShape_ne_nil (h : writeRequired plan = true) : writeShape plan ≠ [] := by
  intro hnil
  simp only [writeShape, List.append_eq_nil_iff, List.flatMap_eq_nil_iff] at hnil
  obtain ⟨⟨hproxies, hpolicies⟩, hassignment⟩ := hnil
  simp only [writeRequired, Bool.or_eq_true, List.any_eq_true, decide_eq_true_eq] at h
  rcases h with ⟨binding, hmem, hcreate⟩ | hassign
  · rcases hcreate with hproxy | hpolicy
    · exact absurd (hproxies binding (List.mem_filter.mpr ⟨hmem, by simp [hproxy]⟩)) (by simp)
    · exact absurd (hpolicies binding (List.mem_filter.mpr ⟨hmem, by simp [hpolicy]⟩)) (by simp)
  · simp [hassign] at hassignment

/-- A plan that asks for a write sends a command. -/
theorem guardedWrites_sends {stateBefore : LiveState} {mac : Option String}
    {profileSlot : Option Nat} {allowMove : Bool} {profileOf : BindingPlan → LocalProxyProfile}
    (planned : Planned rules manifest stateBefore mac profileSlot allowMove plan profileOf)
    (hrequired : writeRequired plan = true) (run : ApplyRun) :
    run.router.sent < (finalRun (guardedWrites rules transport manifest plan stateBefore mac
      run)).router.sent := by
  have hsteps : 0 < (writeSteps plan profileOf stateBefore mac).length := by
    apply List.length_pos_iff.mpr
    intro hnil
    have hshape := writeSteps_shape planned
    rw [hnil] at hshape
    exact writeShape_ne_nil hrequired hshape.symm
  have hwrites : run.router.sent < (finalRun (applyWrites rules transport manifest plan
      stateBefore mac run)).router.sent := by
    have h := performs_writeObjects transport planned run
    rw [applyWrites, bind_run]
    cases hrun : writeObjects transport manifest plan stateBefore mac run with
    | error error after =>
        rw [hrun] at h
        obtain ⟨-, done, step, rest, -, hcut⟩ := h
        have hsent := hcut.sent
        show run.router.sent < after.router.sent
        omega
    | ok _ middle =>
        rw [hrun] at h
        have hmiddle : middle.router.sent =
            run.router.sent + (writeSteps plan profileOf stateBefore mac).length := by rw [h.router]
        have hrest := counts_verifyAndSave transport rules manifest plan stateBefore mac middle
        show run.router.sent < (finalRun (verifyAndSave rules transport manifest plan stateBefore
          mac middle)).router.sent
        omega
  unfold guardedWrites
  cases hrun : applyWrites rules transport manifest plan stateBefore mac run with
  | ok result after =>
      rw [hrun] at hwrites
      exact hwrites
  | error error after =>
      rw [hrun] at hwrites
      have hrecover := @counts_recover ApplyResult transport stateBefore error after
      show run.router.sent < (finalRun (if isHandled error then
        recover transport stateBefore error after
        else EStateM.Result.error error after)).router.sent
      split
      · exact Nat.lt_of_lt_of_le hwrites hrecover
      · exact hwrites

/-- A stale plan stops the run behind the reading of the configuration. -/
theorem stale_stops (hfirst : transport.outcome 0 = .applied)
    (hstale : rules.buildLivePlan manifest state.parsed deviceMac plan.selectedSlot
      (plan.assignmentAction = .move) ≠ .ok plan) :
    ¬ SendsWrite (applyLivePlan rules transport manifest plan deviceMac (.start state)) := by
  have hread : readState transport (.start state) =
      .ok state.parsed { (ApplyRun.start state) with router := ⟨state, 1⟩ } := by
    simp only [readState, bind_run, command, ApplyRun.start, hfirst, NdmCommand.exec, get_run,
      pure_run, Nat.zero_add]
  intro hsends
  rw [SendsWrite, applyLivePlan, bind_run, hread] at hsends
  cases hplan : rules.buildLivePlan manifest state.parsed deviceMac plan.selectedSlot
      (plan.assignmentAction = .move) with
  | error error =>
      simp only [hplan] at hsends
      exact absurd hsends (Nat.lt_irrefl 1)
  | ok fresh =>
      have hlift : (lift (.ok fresh) : ApplyM LivePlan) = pure fresh := rfl
      have hraise : raiseIf (fresh ≠ plan) (liveAdapterError
          "Live plan is stale or does not match the fresh running state.") = .error
              (liveAdapterError
          "Live plan is stale or does not match the fresh running state.") :=
        if_pos fun hsame : fresh = plan => hstale (hplan.trans (congrArg Except.ok hsame))
      simp only [hplan, hlift, pure_bind, hraise] at hsends
      exact absurd hsends (Nat.lt_irrefl 1)

variable (transport) in
/-- Whatever stops a run before its writes stops it before its second command. -/
theorem reached_of_sends (valid : manifest.Valid)
    (h : SendsWrite (applyLivePlan rules transport manifest plan deviceMac (.start state))) :
    WritesReached rules transport manifest plan deviceMac state := by
  by_cases hfirst : transport.outcome 0 = .applied
  · by_cases hfresh : rules.buildLivePlan manifest state.parsed deviceMac plan.selectedSlot
        (plan.assignmentAction = .move) = .ok plan
    · obtain ⟨mac, profileOf, hmac, -⟩ := PlanRules.buildLivePlan_planned valid hfresh
      rw [applyLivePlan_fresh transport hfresh hmac hfirst] at h
      cases hrequired : writeRequired plan with
      | false =>
          rw [hrequired] at h
          cases hverify : rules.verifyPlanApplied manifest plan state.parsed deviceMac with
          | error error =>
              rw [hverify] at h
              exact absurd h (Nat.lt_irrefl 1)
          | ok _ =>
              rw [hverify] at h
              exact absurd h (Nat.lt_irrefl 1)
      | true =>
          cases hbackup : transport.backupWritten with
          | true => exact ⟨hfirst, hfresh, hrequired, hbackup⟩
          | false =>
              simp only [hrequired, backupRunningConfig, hbackup] at h
              exact absurd h (Nat.lt_irrefl 1)
    · exact absurd h (stale_stops hfirst hfresh)
  · have hstopped : ∃ after, readState transport (.start state) = .error ndmFailure after ∧
        after.router.sent = 1 := by
      rw [readState, bind_run, command]
      cases houtcome : transport.outcome (ApplyRun.start state).router.sent with
      | applied => exact absurd houtcome hfirst
      | failedApplied => exact ⟨_, rfl, rfl⟩
      | failedUnapplied => exact ⟨_, rfl, rfl⟩
    obtain ⟨after, hread, hsent⟩ := hstopped
    rw [SendsWrite, applyLivePlan, bind_run, hread] at h
    exact absurd h (by simp [finalRun, hsent])

variable (transport) in
theorem sends_of_reached (valid : manifest.Valid)
    (reached : WritesReached rules transport manifest plan deviceMac state) :
    SendsWrite (applyLivePlan rules transport manifest plan deviceMac (.start state)) := by
  obtain ⟨hfirst, hfresh, hrequired, hbackup⟩ := reached
  obtain ⟨mac, profileOf, hmac, planned⟩ := PlanRules.buildLivePlan_planned valid hfresh
  have hrun := applyLivePlan_fresh transport hfresh hmac hfirst
  have hbackedUp : backupRunningConfig transport = pure () := by
    simp [backupRunningConfig, hbackup]
  simp only [hrequired, hbackedUp, pure_bind, Bool.not_true, Bool.false_eq_true, if_false] at hrun
  rw [SendsWrite, hrun]
  exact @guardedWrites_sends rules transport manifest plan state.parsed mac plan.selectedSlot
    (plan.assignmentAction = .move) profileOf planned hrequired
    { (ApplyRun.start state) with
      router := ⟨state, 1⟩
      result := { writeRequired := true, noop := false } }

end Reaching

end Live

section Backed

open Live

/-- A write command is sent only behind a backup file that holds the whole
configuration. -/
def WriteBacked {α : Type} (system : BackupSystem) (raw : String)
    (ran : EStateM.Result LiveError ApplyRun α) : Prop :=
  SendsWrite ran → (system.backupRunningConfig raw).file = some (encoded raw)

theorem BackupSystem.returned_iff {system : BackupSystem} {raw : String} :
    (system.backupRunningConfig raw).returned = true ↔
      (system.rootReady = true ∧ system.creates = true) ∧
        (∃ count, system.write (encoded raw) = some count) ∧
        system.synchronizes = true ∧ system.closes = true := by
  unfold backupRunningConfig
  cases hready : system.rootReady && system.creates with
  | false =>
      rw [Bool.and_eq_false_iff] at hready
      rcases hready with h | h <;> simp [h]
  | true =>
      rw [Bool.and_eq_true] at hready
      cases hwrite : system.write (encoded raw) <;> simp [hready]

/-- Once the backup has returned, its file is whole exactly when the one call has
stored every byte. -/
theorem BackupSystem.whole_iff {system : BackupSystem} {raw : String}
    (h : (system.backupRunningConfig raw).returned = true) :
    (system.backupRunningConfig raw).file = some (encoded raw) ↔
      system.write (encoded raw) = some (encoded raw).length := by
  obtain ⟨⟨hready, hcreates⟩, ⟨count, hwrite⟩, -⟩ := returned_iff.mp h
  have hle := system.write_le _ _ hwrite
  simp only [backupRunningConfig, hready, hcreates, hwrite, Bool.and_self, if_true,
    Option.some.injEq]
  constructor
  · intro hwhole
    have hlength := congrArg List.length hwhole
    rw [List.length_take] at hlength
    omega
  · intro hcount
    rw [hcount, List.take_length]

/-- When every write is backed up: whenever the run comes to its writes, the one
call of `os.write` has stored the whole configuration. -/
theorem write_backed_iff (rules : PlanRules) (transport : Transport) (system : BackupSystem)
    (manifest : LocalEndpointManifest) (state : LiveState) (raw : String)
    (deviceMac : Option String) (plan : LivePlan) (valid : manifest.Valid) :
    WriteBacked system raw (applyLivePlan rules
        (transport.withBackup (system.backupRunningConfig raw)) manifest plan deviceMac
        (.start state)) ↔
      (WritesReached rules (transport.withBackup (system.backupRunningConfig raw)) manifest plan
          deviceMac state →
        system.write (encoded raw) = some (encoded raw).length) := by
  constructor
  · intro hbacked reached
    have hreturned : (system.backupRunningConfig raw).returned = true := reached.backedUp
    exact (BackupSystem.whole_iff hreturned).mp (hbacked (sends_of_reached _ valid reached))
  · intro hwhole hsends
    have reached := reached_of_sends _ valid hsends
    have hreturned : (system.backupRunningConfig raw).returned = true := reached.backedUp
    exact (BackupSystem.whole_iff hreturned).mpr (hwhole reached)

/-- A file system whose write call stores at most the given number of bytes. -/
def storingAtMost (limit : Nat) : BackupSystem where
  rootReady := true
  creates := true
  write := fun data => some (min limit data.length)
  storedByFailure := fun _ => 0
  synchronizes := true
  closes := true
  write_le := by
    intro data count h
    cases h
    exact Nat.min_le_right _ _

private theorem sample_reached (limit : Nat) :
    WritesReached rules ((reportsFailure 1 .applied).withBackup
      ((storingAtMost limit).backupRunningConfig "!\n")) (sampleManifest true) samplePlan
      (some sampleMac) emptyState :=
  ⟨rfl, samplePlan_fresh, rfl, rfl⟩

theorem write_backed_iff_sample :
    WriteBacked (storingAtMost 1024) "!\n" (applyLivePlan rules
      ((reportsFailure 1 .applied).withBackup ((storingAtMost 1024).backupRunningConfig "!\n"))
      (sampleManifest true) samplePlan (some sampleMac) (.start emptyState)) :=
  (write_backed_iff rules _ (storingAtMost 1024) (sampleManifest true) emptyState "!\n"
    (some sampleMac) samplePlan (sampleManifest_valid true)).mpr fun _ => by decide +kernel

/-- A nearly full storage takes one byte of two, and the writes go ahead. -/
theorem short_backup_write :
    ¬ WriteBacked (storingAtMost 1) "!\n" (applyLivePlan rules
      ((reportsFailure 1 .applied).withBackup ((storingAtMost 1).backupRunningConfig "!\n"))
      (sampleManifest true) samplePlan (some sampleMac) (.start emptyState)) := by
  intro hbacked
  have hfile := hbacked (sends_of_reached _ (sampleManifest_valid true) (sample_reached 1))
  exact absurd hfile (by decide +kernel)

end Backed

end RouterKit.Netcraze
