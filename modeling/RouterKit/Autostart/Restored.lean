import RouterKit.Autostart.Rollback

/-!
When an enabling transaction that fails leaves the autostart as it was. It does
unless an exception it does not catch, a receipt that stays, a SIGINT behind its
signal handling or a failing teardown ends it with something changed, or unless a
restart that reports a failure has started Xray all the same: the rollback stops
only what it has recorded as started.
-/

namespace RouterKit.Autostart

open RouterKit.Lib.Checked RouterKit.Lib.Programs

section

variable (host : Host) (faults : Faults) (router : Router)

def Session.start : Session where
  router
  result := { action := "enable" }
  firstSignal := none

/-- The mode of S23xray-direct and the verdict on the runtime are as they were. -/
def GivenBack (final : Router) : Prop :=
  final.s23 = router.s23 ∧ (runtimeOf host final).ok = (runtimeOf host router).ok

/-- An error without the exit code of an unproven rollback leaves the mode of
S23xray-direct and the verdict on the runtime as they were. -/
def RestoresAutostart : Prop :=
  ∀ failure final, enableAutostart host faults (.start router) = .error failure final →
    failure.exitCode ≠ some rollbackUnproven → GivenBack host router final.router

/-- The call gets to its first change. -/
structure Enters : Prop where
  targetRoot : host.targetRoot = defaultTargetRoot
  sysname : host.sysname = "Linux"
  preflight : preflightChecks host router = .ok ()
  seen : faults.looks .before = false
  unverified : (inspectStatus host router).verifyOk = false

/-- The mode of S23xray-direct, which the preflight has found. -/
def modeBefore : Nat :=
  match router.s23 with
  | .found file => file.mode
  | _ => 0

/-- What the changes of mode up to this step have made to stand is another mode. -/
def ModeChanged (moment : Moment) : Prop :=
  match moment with
  | .disablingS24 => False
  | .disablingS23 | .disabled | .restarting | .restarted =>
      isExecutable (modeBefore router) = true ∧
        ∃ stood, (faults.modes .disableS23).stands (withoutExecution (modeBefore router)) =
          some stood ∧ stood ≠ modeBefore router
  | .enabling | .enabled =>
      match (faults.modes .enableS23).stands enabledMode with
      | some stood => stood ≠ modeBefore router
      | none => isExecutable (modeBefore router) = true

/-- The steps up to this one have changed what the rollback has to give back. -/
def Changed (moment : Moment) : Prop :=
  ModeChanged faults router moment ∨ RuntimeFlipped host faults router moment

/-- The mode has changed, and its restoring makes another one to stand, or none. -/
def ModeLost (moment : Moment) : Prop :=
  ModeChanged faults router moment ∧
    (faults.modes .restoreS23).stands (modeBefore router) ≠ some (modeBefore router)

def Lost (moment : Moment) : Prop :=
  ModeLost faults router moment ∨ RuntimeLost host faults router moment

/-- The kinds of answers under which the autostart is not given back. -/
inductive Torn : Prop where
  | stepRaises {moment : Moment} (hstop : stop host faults router = some (moment, .uncaught))
      (hchanged : Changed host faults router moment)
  | receiptStays {moment : Moment} {message : String} {code : Int}
      (hstop : stop host faults router = some (moment, .autostart message code))
      (hreceipt : receiptFailure (faults.receipts .back) router.receipt ≠ none)
      (hchanged : Changed host faults router moment)
  | rollbackCut {moment : Moment} {message : String} {code : Int}
      (hstop : stop host faults router = some (moment, .autostart message code))
      (hreceipt : receiptFailure (faults.receipts .back) router.receipt = none)
      (hcut : RollbackCut host faults router moment)
      (hlost : Lost host faults router moment)
  | leftRunning {message : String} {code : Int}
      (hstop : stop host faults router = some (.restarting, .autostart message code))
      (hcode : code ≠ rollbackUnproven)
      (hreceipt : receiptFailure (faults.receipts .back) router.receipt = none)
      (hdown : wasRunning host router = false)
      (hup : RunMakes host faults .restart true)
      (hmode : ¬ ModeLost faults router .restarting)
      (hlook : faults.looks .rollback = false)
  | interrupted {moment : Moment} {message : String} {code : Int}
      (hstop : stop host faults router = some (moment, .autostart message code))
      (hreceipt : receiptFailure (faults.receipts .back) router.receipt = none)
      (hinterrupted : faults.interrupted = true)
      (hlost : Lost host faults router moment)
  | tornDown (hstop : stop host faults router = none)
      (hends : faults.interrupted = true ∨ faults.teardown ≠ none)
      (hchanged : modeBefore router ≠ enabledMode ∨ wasRunning host router = false)

end

variable {host : Host} {faults : Faults} {router : Router}

/-- How an enabling transaction raises once it has entered. -/
inductive EnableOutcome (host : Host) (faults : Faults) (router : Router) (raised : Failure)
    (final : Router) : Prop where
  | stepRaises {moment : Moment} (hstop : stop host faults router = some (moment, .uncaught))
      (hraised : raised = .uncaught) (hfinal : final = routerAt faults router moment)
  | back {moment : Moment} {message : String} {code : Int} {cause : Failure}
      (hstop : stop host faults router = some (moment, .autostart message code))
      (hback : BackOutcome host faults router moment message code cause final)
      (hraised : raised = if faults.interrupted then .uncaught else cause)
  | tornDown (hstop : stop host faults router = none)
      (hends : faults.interrupted = true ∨ faults.teardown ≠ none)
      (hcode : raised.exitCode ≠ some rollbackUnproven)
      (hfinal : final = { routerAt faults router .enabled with receipt := .missing })

theorem preflight_s23 (h : preflightChecks host router = .ok ()) :
    ∃ file, router.s23 = .found file := by
  simp only [preflightChecks, bind_eq_ok, exists_unit] at h
  obtain ⟨file, hfile, -⟩ := h
  exact ⟨file, (requireRegularNonsymlink_ok.mp hfile).1⟩

theorem wp_preflightApply {session : Session} {Q : Unit → Session → Prop}
    {E : Failure → Session → Prop} :
    wp (preflightApply host) Q E session ↔
      (host.targetRoot = defaultTargetRoot →
        (host.sysname = "Linux" →
          match preflightChecks host session.router with
          | .ok _ => Q () session
          | .error message => E (.autostart message 1) session) ∧
        (host.sysname ≠ "Linux" →
          E (.autostart "autostart apply must run on Entware/Linux router." 1) session)) ∧
      (host.targetRoot ≠ defaultTargetRoot →
        E (.autostart "autostart apply supports only literal /opt." usageError) session) := by
  simp only [preflightApply, wp_bind, wp_require, wp_get, wp_checked, ne_eq]
  cases preflightChecks host session.router <;> rfl

/-- A call that gets to no change raises with nothing changed, or has found the
autostart enabled and verified. -/
theorem enableAutostart_outside (h : ¬ Enters host faults router) :
    wp (enableAutostart host faults)
      (fun result final => host.targetRoot = defaultTargetRoot ∧ host.sysname = "Linux" ∧
        preflightChecks host router = .ok () ∧ (inspectStatus host router).verifyOk = true ∧
        final.router = router ∧ result.noop = true ∧ result.restartPerformed = false)
      (fun _ final => final.router = router) (.start router) := by
  unfold enableAutostart
  rw [wp_bind, wp_preflightApply]
  refine ⟨fun htarget => ⟨fun hsysname => ?_, fun _ => rfl⟩, fun _ => rfl⟩
  have hstart : (Session.start router).router = router := rfl
  rw [hstart]
  cases hpreflight : preflightChecks host router with
  | error message => rfl
  | ok u =>
      obtain ⟨file, hfile⟩ := preflight_s23 hpreflight
      simp only [wp_bind, s23Mode, wp_get, hstart, hfile, wp_pure, wp_setResult, wp_inspect]
      cases hlook : faults.looks .before with
      | true => trivial
      | false =>
          have hverified : (inspectStatus host router).verifyOk = true := by
            by_contra hunverified
            exact h ⟨htarget, hsysname, hpreflight, hlook, Bool.eq_false_iff.mpr hunverified⟩
          simp only [hverified, if_true, wp_bind, wp_setResult, wp_get, wp_pure]
          refine ⟨htarget, hsysname, ?_⟩
          simp only [and_self]

private theorem exitCode_one_ne : (some 1 : Option Int) ≠ some rollbackUnproven := by decide

private theorem uncaught_exitCode_ne : Failure.uncaught.exitCode ≠ some rollbackUnproven :=
  Option.some_ne_none _ |>.symm

theorem enableAutostart_outcome (h : Enters host faults router) :
    wp (enableAutostart host faults)
      (fun _ final => Completed host faults router final ∧ faults.interrupted = false ∧
        faults.teardown = none)
      (fun raised final => EnableOutcome host faults router raised final.router)
      (.start router) := by
  obtain ⟨file, hfile⟩ := preflight_s23 h.preflight
  have hstart : (Session.start router).router = router := rfl
  unfold enableAutostart
  rw [wp_bind, wp_preflightApply]
  refine ⟨fun _ => ⟨fun _ => ?_, fun hother => absurd h.sysname hother⟩,
    fun hother => absurd h.targetRoot hother⟩
  rw [hstart]
  simp only [h.preflight, wp_bind, s23Mode, wp_get, hstart, hfile, wp_pure, wp_setResult,
    wp_inspect, h.seen, h.unverified, Bool.false_eq_true, if_false, wp_withSignals, wp_tryCatch,
    wp_recordSignal, wp_requireTornDown]
  refine wp_mono (enableSteps_stops h.preflight rfl) ?_ ?_
  · rintro completed final ⟨hstop, hrouter, hperformed⟩
    cases hinterrupted : faults.interrupted with
    | true => exact .tornDown hstop (.inl hinterrupted) uncaught_exitCode_ne hrouter
    | false =>
        cases hteardown : faults.teardown with
        | none => exact ⟨⟨hstop, hrouter, hperformed⟩, rfl, rfl⟩
        | some reason => exact .tornDown hstop (.inr (by simp [hteardown])) exitCode_one_ne hrouter
  · rintro failure final ⟨moment, hstop, hfinal, hperformed⟩
    cases failure with
    | uncaught => exact .stepRaises hstop (ite_self _) hfinal
    | autostart message code =>
        refine wp_mono (rollBack_outcome hfile hfinal rfl hperformed) (fun _ _ => False.elim) ?_
        exact fun cause final' hback => .back hstop hback rfl

/-- The receipt's own failure is never taken for an unproven rollback. -/
private theorem receiptFailure_exitCode {fault : ReceiptFault} {status : FileStatus}
    {failure : Failure} (h : receiptFailure fault status = some failure) :
    failure.exitCode ≠ some rollbackUnproven := by
  cases status with
  | missing => cases h
  | _ =>
      simp only [receiptFailure] at h
      split at h
      · cases h
        exact exitCode_one_ne
      · cases h
        exact uncaught_exitCode_ne
      · cases h

/-- A step that is reached has the steps before it behind it. -/
theorem returns_before {moment before : Moment} {failure : Failure}
    (hstop : stop host faults router = some (moment, failure))
    (hbefore : before ∈ Moment.all.takeWhile (· ≠ moment)) :
    before.failure host faults router = none := by
  obtain ⟨earlier, at_, later, hall, hfails, hreturn⟩ := List.findSome?_eq_some_iff.mp hstop
  obtain ⟨failed, -, hmoment⟩ := Option.map_eq_some_iff.mp hfails
  obtain ⟨rfl, -⟩ := Prod.mk.inj hmoment
  have hearlier : before ∈ earlier := by
    rw [hall, List.takeWhile_append] at hbefore
    split at hbefore
    · simpa using hbefore
    · exact (List.takeWhile_prefix _).subset hbefore
  simpa using hreturn before hearlier

theorem returns_of_stop_none (h : stop host faults router = none) (moment : Moment) :
    moment.failure host faults router = none := by
  rw [stop, List.findSome?_eq_none_iff] at h
  have hnone := h moment (by cases moment <;> decide)
  simpa using hnone

section Mode

variable {file : FileMeta}

private theorem preflight_found (hpreflight : preflightChecks host router = .ok ())
    (hfile : router.s23 = .found file) (description : String) :
    requireRegularNonsymlink description router.s23 = .ok file := by
  simp only [preflightChecks, bind_eq_ok, exists_unit] at hpreflight
  obtain ⟨found, hfound, -⟩ := hpreflight
  obtain ⟨hstatus, hkind, hlinks⟩ := requireRegularNonsymlink_ok.mp hfound
  obtain rfl : file = found := FileStatus.found.inj (hfile.symm.trans hstatus)
  exact requireRegularNonsymlink_ok.mpr ⟨hfile, hkind, hlinks⟩

/-- What a change of mode leaves of a file that passes its check. -/
private theorem modeLeft_accepted {script : Script} {newMode : Nat → Nat} (fault : ModeFault)
    (h : requireRegularNonsymlink script.description (.found file) = .ok file) :
    modeLeft script newMode fault (.found file) = .found { file with
      mode := if newMode file.mode = file.mode then file.mode
        else (fault.stands (newMode file.mode)).getD file.mode } := by
  cases fault with
  | uninspected reason =>
      simp [modeLeft, modeToSet, ModeFault.seen, requireRegularNonsymlink, Except.map,
        ModeFault.stands]
  | _ =>
      simp only [modeLeft, modeToSet, ModeFault.seen, h, Except.map]
      by_cases hsame : newMode file.mode = file.mode
      · simp [hsame]
      · simp only [if_neg hsame]
        rw [ModeFault.leaves_found]

private theorem found_ne {mode : Nat} (hfile : router.s23 = .found file) :
    FileStatus.found { file with mode } ≠ router.s23 ↔ mode ≠ file.mode := by
  rw [hfile, not_iff_not]
  constructor
  · intro h
    exact congrArg FileMeta.mode (FileStatus.found.inj h)
  · rintro rfl
    rfl

/-- The file is another one exactly where its mode has changed. -/
theorem s23At_ne_iff {moment : Moment} {failure : Failure}
    (hpreflight : preflightChecks host router = .ok ())
    (hstop : stop host faults router = some (moment, failure)) :
    s23At faults router moment ≠ router.s23 ↔ ModeChanged faults router moment := by
  obtain ⟨file, hfile⟩ := preflight_s23 hpreflight
  have hbefore : modeBefore router = file.mode := by rw [modeBefore, hfile]
  have haccepted := preflight_found hpreflight hfile Script.s23.description
  rw [hfile] at haccepted
  have hdisabled : s23Disabled faults router ≠ router.s23 ↔
      isExecutable file.mode = true ∧
        ∃ stood, (faults.modes .disableS23).stands (withoutExecution file.mode) = some stood ∧
          stood ≠ file.mode := by
    rw [s23Disabled, hfile, modeLeft_accepted _ haccepted, ← hfile, found_ne hfile]
    by_cases hsame : withoutExecution file.mode = file.mode
    · simp [hsame, withoutExecution_eq_self.mp hsame]
    · have hexecutable : isExecutable file.mode = true :=
        Bool.not_eq_false _ ▸ mt withoutExecution_eq_self.mpr hsame
      rw [if_neg hsame]
      cases (faults.modes .disableS23).stands (withoutExecution file.mode) <;> simp [hexecutable]
  have henabled : Moment.disablingS23 ∈ Moment.all.takeWhile (· ≠ moment) →
      (modeLeft .s23 (fun _ => enabledMode) (faults.modes .enableS23)
          (s23Disabled faults router) ≠ router.s23 ↔
        (match (faults.modes .enableS23).stands enabledMode with
          | some stood => stood ≠ file.mode
          | none => isExecutable file.mode = true)) := by
    intro hreached
    obtain ⟨found, hfound, hkind, hlinks, hleft⟩ := modeLeft_of_returns
      (returns_before hstop hreached)
    obtain rfl : file = found := FileStatus.found.inj (hfile.symm.trans hfound)
    have hdiffers : ¬ enabledMode = withoutExecution file.mode := by
      intro heq
      have hclear := isExecutable_withoutExecution file.mode
      rw [← heq, isExecutable_enabledMode] at hclear
      cases hclear
    have hnext : requireRegularNonsymlink Script.s23.description
        (.found { file with mode := withoutExecution file.mode }) =
          .ok { file with mode := withoutExecution file.mode } :=
      requireRegularNonsymlink_ok.mpr ⟨rfl, hkind, hlinks⟩
    rw [s23Disabled, hleft, modeLeft_accepted _ hnext]
    simp only [if_neg hdiffers]
    rw [found_ne hfile]
    cases (faults.modes .enableS23).stands enabledMode with
    | some stood => rfl
    | none =>
        rw [Option.getD_none, ne_eq, withoutExecution_eq_self, Bool.not_eq_false]
  unfold ModeChanged
  rw [hbefore]
  cases moment with
  | disablingS24 => simp [s23At]
  | enabling | enabled => exact henabled (by decide)
  | _ => exact hdisabled

/-- The mode stays another one exactly where its restoring makes no other to stand. -/
theorem s23Back_ne_iff {moment : Moment} {failure : Failure}
    (hpreflight : preflightChecks host router = .ok ())
    (hstop : stop host faults router = some (moment, failure)) :
    s23Back faults router moment ≠ router.s23 ↔ ModeLost faults router moment := by
  obtain ⟨file, hfile⟩ := preflight_s23 hpreflight
  have hbefore : modeBefore router = file.mode := by rw [modeBefore, hfile]
  obtain ⟨mode, hnow⟩ := @s23At_found faults router moment file hfile
  have hback : s23Back faults router moment =
      if s23At faults router moment = router.s23 then router.s23
      else (faults.modes .restoreS23).leaves file.mode (s23At faults router moment) := by
    rw [s23Back, hfile]
  unfold ModeLost
  rw [← s23At_ne_iff hpreflight hstop, hback, hbefore]
  by_cases hsame : s23At faults router moment = router.s23
  · simp [hsame]
  · have hmode : mode ≠ file.mode := by
      rw [hnow] at hsame
      exact (found_ne hfile).mp hsame
    rw [if_neg hsame, hnow, ModeFault.leaves_found]
    change FileStatus.found { file with mode := _ } ≠ router.s23 ↔ _
    rw [found_ne hfile, and_iff_right]
    · cases (faults.modes .restoreS23).stands file.mode <;> simp [hmode]
    · rw [← hnow]
      exact hsame

end Mode

section Iff

variable {moment : Moment} {failure : Failure} {final : Router}

private theorem givenBack_iff {s23 : FileStatus} {runtime : RuntimeReads} (hs23 : final.s23 = s23)
    (hruntime : final.runtime = runtime) :
    GivenBack host router final ↔
      ¬ (s23 ≠ router.s23 ∨ (verdict host runtime).ok ≠ wasRunning host router) := by
  have hverdict : runtimeOf host final = verdict host runtime := by
    rw [← hruntime]
    rfl
  rw [GivenBack, hs23, hverdict, not_or, not_not, not_not]
  rfl

private theorem givenBack_at (hpreflight : preflightChecks host router = .ok ())
    (hstop : stop host faults router = some (moment, failure))
    (hs23 : final.s23 = s23At faults router moment)
    (hruntime : final.runtime = runtimeAt faults router moment) :
    GivenBack host router final ↔ ¬ Changed host faults router moment := by
  rw [givenBack_iff hs23 hruntime, s23At_ne_iff hpreflight hstop, ← runtimeFlipped_iff]
  rfl

private theorem givenBack_behind (hpreflight : preflightChecks host router = .ok ())
    (hstop : stop host faults router = some (moment, failure))
    (hs23 : final.s23 = s23Back faults router moment)
    (hruntime : final.runtime = runtimeBack host faults router moment) :
    GivenBack host router final ↔ ¬ Lost host faults router moment := by
  rw [givenBack_iff hs23 hruntime, s23Back_ne_iff hpreflight hstop, runtimeBack_lost]
  rfl

/-- Where every step has returned, the mode is 0755 and the runtime verifies. -/
private theorem givenBack_enabled (hpreflight : preflightChecks host router = .ok ())
    (hstop : stop host faults router = none)
    (hfinal : final = { routerAt faults router .enabled with receipt := .missing }) :
    GivenBack host router final ↔
      ¬ (modeBefore router ≠ enabledMode ∨ wasRunning host router = false) := by
  obtain ⟨file, hfile⟩ := preflight_s23 hpreflight
  have hbefore : modeBefore router = file.mode := by rw [modeBefore, hfile]
  obtain ⟨mode, hdisabled⟩ := @modeLeft_found .s23 withoutExecution (faults.modes .disableS23) file
  obtain ⟨found, hfound, -, -, hleft⟩ := modeLeft_of_returns
    (returns_of_stop_none hstop .enabling)
  have hs23 : final.s23 = .found { file with mode := enabledMode } := by
    rw [s23Disabled, hfile, hdisabled] at hfound
    obtain rfl := FileStatus.found.inj hfound
    rw [hfinal]
    exact hleft
  have hverified := restarted_verified (returns_of_stop_none hstop .restarted)
  have hruntime : final.runtime = restartedRuntime faults router := by
    rw [hfinal]
    rfl
  rw [givenBack_iff hs23 hruntime, hverified, hfile, hbefore, not_iff_not]
  refine or_congr (not_congr ?_) (by simp)
  constructor
  · intro h
    exact (congrArg FileMeta.mode (FileStatus.found.inj h)).symm
  · intro h
    rw [← h]

/-- An unrecorded restart is the one thing the rollback does not look after. -/
private theorem runtimeLost_idle (hidle : moment.performed = false)
    (hdown : wasRunning host router = false) :
    RuntimeLost host faults router moment ↔
      moment = .restarting ∧ RunMakes host faults .restart true := by
  cases moment with
  | restarting => simp [RuntimeLost, RuntimeFlipped, RunMakes, hdown, Moment.performed]
  | restarted | enabling | enabled => cases hidle
  | _ => simp [RuntimeLost, RuntimeFlipped]

/-- Behind a rollback that is not cut off, an error without the exit code of an
unproven one leaves something changed exactly where SIGINT hides that code or where
an unrecorded restart has left Xray up. -/
private theorem torn_of_rollback {message : String} {code : Int}
    (hstop : stop host faults router = some (moment, .autostart message code))
    (hreceipt : receiptFailure (faults.receipts .back) router.receipt = none)
    (hquiet : ¬ RollbackCut host faults router moment) :
    Torn host faults router ↔
      (faults.interrupted = true ∧ Lost host faults router moment) ∨
      (moment = .restarting ∧ code ≠ rollbackUnproven ∧ wasRunning host router = false ∧
        RunMakes host faults .restart true ∧ ¬ ModeLost faults router .restarting ∧
        faults.looks .rollback = false) := by
  constructor
  · intro h
    cases h with
    | stepRaises hstop' | tornDown hstop' => cases hstop.symm.trans hstop'
    | receiptStays _ hreceipt' => exact absurd hreceipt hreceipt'
    | rollbackCut hstop' _ hcut =>
        obtain ⟨rfl, -⟩ := Prod.mk.inj (Option.some.inj (hstop.symm.trans hstop'))
        exact absurd hcut hquiet
    | leftRunning hstop' hcode _ hdown hup hmode hlook =>
        obtain ⟨rfl, hfailure⟩ := Prod.mk.inj (Option.some.inj (hstop.symm.trans hstop'))
        obtain ⟨-, rfl⟩ := Failure.autostart.inj hfailure
        exact .inr ⟨rfl, hcode, hdown, hup, hmode, hlook⟩
    | interrupted hstop' _ hinterrupted hlost =>
        obtain ⟨rfl, -⟩ := Prod.mk.inj (Option.some.inj (hstop.symm.trans hstop'))
        exact .inl ⟨hinterrupted, hlost⟩
  · rintro (⟨hinterrupted, hlost⟩ | ⟨rfl, hcode, hdown, hup, hmode, hlook⟩)
    · exact .interrupted hstop hreceipt hinterrupted hlost
    · exact .leftRunning hstop hcode hreceipt hdown hup hmode hlook

/-- The way back is torn exactly where the error does not say so. -/
private theorem torn_back_iff {message : String} {code : Int} {raised cause : Failure}
    (hpreflight : preflightChecks host router = .ok ())
    (hstop : stop host faults router = some (moment, .autostart message code))
    (hback : BackOutcome host faults router moment message code cause final)
    (hraised : raised = if faults.interrupted then .uncaught else cause) :
    Torn host faults router ↔
      raised.exitCode ≠ some rollbackUnproven ∧ ¬ GivenBack host router final := by
  have hsilent : cause.exitCode ≠ some rollbackUnproven →
      raised.exitCode ≠ some rollbackUnproven := by
    intro hcause
    rw [hraised]
    split
    · exact uncaught_exitCode_ne
    · exact hcause
  cases hback with
  | receiptStays hreceipt hs23 hruntime =>
      have hstays : receiptFailure (faults.receipts .back) router.receipt ≠ none := by
        rw [hreceipt]
        exact Option.some_ne_none cause
      rw [givenBack_at hpreflight hstop hs23 hruntime, not_not,
        and_iff_right (hsilent (receiptFailure_exitCode hreceipt))]
      refine ⟨fun h => ?_, .receiptStays hstop hstays⟩
      cases h with
      | stepRaises hstop' | tornDown hstop' => cases hstop.symm.trans hstop'
      | receiptStays hstop' _ hchanged =>
          obtain ⟨rfl, -⟩ := Prod.mk.inj (Option.some.inj (hstop.symm.trans hstop'))
          exact hchanged
      | rollbackCut _ hreceipt' | leftRunning _ _ hreceipt' | interrupted _ hreceipt' =>
          exact absurd hreceipt' hstays
  | cut hreceipt hcause hcut hs23 hruntime =>
      rw [givenBack_behind hpreflight hstop hs23 hruntime, not_not,
        and_iff_right (hsilent (by rw [hcause]; exact uncaught_exitCode_ne))]
      refine ⟨fun h => ?_, .rollbackCut hstop hreceipt hcut⟩
      cases h with
      | stepRaises hstop' | tornDown hstop' => cases hstop.symm.trans hstop'
      | receiptStays _ hreceipt' => exact absurd hreceipt hreceipt'
      | rollbackCut hstop' _ _ hlost | interrupted hstop' _ _ hlost =>
          obtain ⟨rfl, -⟩ := Prod.mk.inj (Option.some.inj (hstop.symm.trans hstop'))
          exact hlost
      | leftRunning hstop' _ _ hdown =>
          obtain ⟨rfl, -⟩ := Prod.mk.inj (Option.some.inj (hstop.symm.trans hstop'))
          exact absurd hcut (not_rollbackCut_idle rfl hdown)
  | unproven hreceipt hquiet hcode hs23 hruntime hreason =>
      rw [givenBack_behind hpreflight hstop hs23 hruntime, not_not,
        torn_of_rollback hstop hreceipt hquiet, hraised]
      have hnot : ¬ (moment = .restarting ∧ code ≠ rollbackUnproven ∧
          wasRunning host router = false ∧ RunMakes host faults .restart true ∧
          ¬ ModeLost faults router .restarting ∧ faults.looks .rollback = false) := by
        rintro ⟨rfl, -, hdown, -, hmode, hlook⟩
        rcases hreason rfl hdown with hdiffers | hunseen
        · exact hmode ((s23Back_ne_iff hpreflight hstop).mp hdiffers)
        · cases hlook.symm.trans hunseen
      cases faults.interrupted with
      | true => simp [hnot, Failure.exitCode]
      | false => simp [hnot, hcode]
  | proven hreceipt hquiet hcause hsame hlook hs23 hruntime hgiven =>
      have hkept : ¬ ModeLost faults router moment := by
        rw [← s23Back_ne_iff hpreflight hstop, not_not]
        exact hsame
      have hlost : Lost host faults router moment ↔ moment = .restarting ∧
          wasRunning host router = false ∧ RunMakes host faults .restart true := by
        rw [Lost, or_iff_right hkept]
        by_cases hdone : moment.performed = true ∨ wasRunning host router = true
        · have hback := hgiven hdone
          rw [hruntime] at hback
          rw [← runtimeBack_lost]
          refine iff_of_false (not_not.mpr hback) ?_
          rintro ⟨rfl, hdown, -⟩
          rcases hdone with hdone | hrunning
          · cases hdone
          · cases hdown.symm.trans hrunning
        · rw [not_or, Bool.not_eq_true, Bool.not_eq_true] at hdone
          rw [runtimeLost_idle hdone.1 hdone.2]
          simp [hdone.2]
      rw [givenBack_behind hpreflight hstop (hs23.trans hsame.symm) hruntime, not_not,
        torn_of_rollback hstop hreceipt hquiet, hraised, hcause, hlost]
      cases faults.interrupted with
      | true =>
          constructor
          · rintro (⟨-, hleft⟩ | ⟨hmoment, -, hdown, hup, -⟩)
            · exact ⟨uncaught_exitCode_ne, hleft⟩
            · exact ⟨uncaught_exitCode_ne, hmoment, hdown, hup⟩
          · exact fun h => .inl ⟨rfl, h.2⟩
      | false =>
          constructor
          · rintro (⟨hinterrupted, -⟩ | ⟨hmoment, hcode, hdown, hup, -⟩)
            · cases hinterrupted
            · exact ⟨fun h => hcode (Option.some.inj h), hmoment, hdown, hup⟩
          · rintro ⟨hcode, rfl, hdown, hup⟩
            refine .inr ⟨rfl, fun h => hcode ?_, hdown, hup, hkept, hlook⟩
            rw [h]
            rfl

/-- An entered transaction that raises is torn exactly where it has not given the
autostart back and does not say so. -/
private theorem torn_iff {raised : Failure} (hpreflight : preflightChecks host router = .ok ())
    (h : EnableOutcome host faults router raised final) :
    Torn host faults router ↔
      raised.exitCode ≠ some rollbackUnproven ∧ ¬ GivenBack host router final := by
  cases h with
  | stepRaises hstop hraised hfinal =>
      subst hraised hfinal
      rw [givenBack_at hpreflight hstop rfl rfl, not_not, and_iff_right uncaught_exitCode_ne]
      refine ⟨fun h => ?_, .stepRaises hstop⟩
      cases h with
      | stepRaises hstop' hchanged =>
          obtain ⟨rfl, -⟩ := Prod.mk.inj (Option.some.inj (hstop.symm.trans hstop'))
          exact hchanged
      | receiptStays hstop' | rollbackCut hstop' | leftRunning hstop' | interrupted hstop'
      | tornDown hstop' => cases hstop.symm.trans hstop'
  | back hstop hback hraised => exact torn_back_iff hpreflight hstop hback hraised
  | tornDown hstop hends hcode hfinal =>
      rw [givenBack_enabled hpreflight hstop hfinal, not_not, and_iff_right hcode]
      refine ⟨fun h => ?_, .tornDown hstop hends⟩
      cases h with
      | tornDown _ _ hchanged => exact hchanged
      | stepRaises hstop' | receiptStays hstop' | rollbackCut hstop' | leftRunning hstop'
      | interrupted hstop' => cases hstop.symm.trans hstop'

end Iff

/-- An enabling transaction that fails gives the autostart back, or says that it
could not, exactly outside these kinds of answers. -/
theorem enableAutostart_restores_iff :
    RestoresAutostart host faults router ↔
      ¬ (Enters host faults router ∧ Torn host faults router) := by
  constructor
  · rintro hrestores ⟨henters, htorn⟩
    cases hresult : enableAutostart host faults (.start router) with
    | error failure final =>
        have houtcome := wp_error (enableAutostart_outcome henters) hresult
        obtain ⟨hcode, hnot⟩ := (torn_iff henters.preflight houtcome).mp htorn
        exact hnot (hrestores failure final hresult hcode)
    | ok completed final =>
        obtain ⟨hcompleted, hinterrupted, hteardown⟩ :=
          wp_ok (enableAutostart_outcome henters) hresult
        cases htorn with
        | tornDown _ hends => simp [hinterrupted, hteardown] at hends
        | stepRaises hstop' | receiptStays hstop' | rollbackCut hstop' | leftRunning hstop'
        | interrupted hstop' => cases hcompleted.undisturbed.symm.trans hstop'
  · intro h failure final hresult hcode
    by_cases henters : Enters host faults router
    · have houtcome := wp_error (enableAutostart_outcome henters) hresult
      by_contra hnot
      exact h ⟨henters, (torn_iff henters.preflight houtcome).mpr ⟨hcode, hnot⟩⟩
    · have hsame := wp_error (enableAutostart_outside henters) hresult
      rw [hsame]
      exact ⟨rfl, rfl⟩

def samplePaths : XrayPaths := ⟨"/opt/sbin/xray", "/opt/etc/xray/configs"⟩

def listenerLine (port inode : String) : String :=
  "0: 0100007F:" ++ port ++ " 0:0 0A 0:0 0:0 0 0 0 " ++ inode ++ "\n"

def sampleProcess : ProcessReads where
  statBefore := some "71 (xray) S 1 1 1 0 0 0 0 0 0 0 0 0 0 0 20 0 1 0 900 0"
  expectedExe := some (1, 7)
  actualExe := some (1, 7)
  cmdline := some [some "/opt/sbin/xray", some "run", some "-confdir",
    some "/opt/etc/xray/configs"]
  statAfter := some "71 (xray) S 1 1 1 0 0 0 0 0 0 0 0 0 0 0 20 0 1 0 900 0"
  descriptors := some [some "/dev/null", some "socket:[11]", some "socket:[12]",
    some "socket:[13]"]
  statLater := some "71 (xray) S 1 1 1 0 0 0 0 0 0 0 0 0 0 0 20 0 1 0 900 0"

def sampleRunning : RuntimeReads where
  pidFile := { status := .found ⟨.regular, 0o644, 1⟩, opened := .ok ⟨true, 3, .ok "71\n"⟩ }
  process := fun _ => sampleProcess
  tcp := some ("sl\n" ++ listenerLine "043A" "11" ++ listenerLine "043B" "12" ++
    listenerLine "043C" "13")
  tcp6 := some "sl\n"

def sampleDown : RuntimeReads :=
  { sampleRunning with pidFile := ⟨.missing, .error "missing"⟩ }

def sampleHost : Host where
  targetRoot := "/opt"
  sysname := "Linux"
  paths := samplePaths
  maxEntries := 4096
  s23Matches := true
  xray := .found ⟨.regular, 0o755, 1⟩
  xrayExecutable := true
  confDir := .ok ⟨.directory, 0o755, 2⟩
  confDirSame := .ok true
  initDir := some []
  masks := true

/-- A fresh installation: S23xray-direct is not enabled, and Xray is down. -/
def freshRouter : Router where
  s23 := .found ⟨.regular, 0o644, 1⟩
  s24 := .missing
  receipt := .missing
  runtime := sampleDown

/-- Every step returns, and the init script does what it is asked to. -/
def quietFaults : Faults where
  modes := fun _ => .none
  runs := fun action => match action with
    | .stop => ⟨.exits 0, sampleDown⟩
    | _ => ⟨.exits 0, sampleRunning⟩
  looks := fun _ => false
  receipts := fun _ => .none
  signals := fun _ => none
  interrupted := false
  teardown := none

/-- The restart starts Xray, and its script then returns 1. -/
def startedAnywayFaults : Faults :=
  { quietFaults with runs := fun action => match action with
      | .restart => ⟨.exits 1, sampleRunning⟩
      | other => quietFaults.runs other }

/-- The error has the exit code of the script, and Xray stays up. -/
theorem started_anyway_stays_up :
    ¬ RestoresAutostart sampleHost startedAnywayFaults freshRouter := by
  intro hrestores
  have hrun : (match enableAutostart sampleHost startedAnywayFaults (.start freshRouter) with
      | .error failure final => failure.exitCode = some 1 &&
          (runtimeOf sampleHost final.router).ok
      | .ok _ _ => false) = true := by
    decide +kernel
  have hdown : (runtimeOf sampleHost freshRouter).ok = false := by decide +kernel
  cases hresult : enableAutostart sampleHost startedAnywayFaults (.start freshRouter) with
  | ok completed final =>
      rw [hresult] at hrun
      cases hrun
  | error failure final =>
      simp only [hresult, Bool.and_eq_true, decide_eq_true_eq] at hrun
      have hcode : failure.exitCode ≠ some rollbackUnproven := by
        rw [hrun.1]
        exact exitCode_one_ne
      have hsame := (hrestores failure final hresult hcode).2
      rw [hrun.2, hdown] at hsame
      cases hsame

end RouterKit.Autostart
