import RouterKit.Autostart.Restored

/-!
What the two transactions leave behind. An enabling one that returns is found
enabled by the next one; S24xray is disabled before anything else changes and
stays so; a disabling one leaves neither script to the boot and the runtime alone.
-/

namespace RouterKit.Autostart

open RouterKit.Lib.Checked RouterKit.Lib.Programs

variable {host : Host} {faults : Faults} {router : Router}

theorem preflightChecks_ok_iff :
    preflightChecks host router = .ok () ↔
      (∃ file, requireRegularNonsymlink "S23xray-direct" router.s23 = .ok file) ∧
      host.s23Matches = true ∧
      (∃ file, requireRegularNonsymlink "Xray executable" host.xray = .ok file) ∧
      host.xrayExecutable = true ∧
      requireDirectoryNonsymlink "Xray config directory" host.confDir host.confDirSame = .ok () ∧
      requireUnlessMissing "S24xray" router.s24 = .ok () ∧
      boundedInitConflicts host.initDir = [] := by
  simp only [preflightChecks, bind_eq_ok, exists_unit, raiseIf_eq_ok, Bool.not_eq_false, ne_eq,
    not_not]
  constructor
  · rintro ⟨s23, hs23, hmatches, xray, hxray, hexecutable, hconf, hs24, hconflicts⟩
    exact ⟨⟨s23, hs23⟩, hmatches, ⟨xray, hxray⟩, hexecutable, hconf, hs24, hconflicts⟩
  · rintro ⟨⟨s23, hs23⟩, hmatches, ⟨xray, hxray⟩, hexecutable, hconf, hs24, hconflicts⟩
    exact ⟨s23, hs23, hmatches, xray, hxray, hexecutable, hconf, hs24, hconflicts⟩

/-- A change of mode that returns leaves a file that the next check accepts. -/
private theorem accepted_of_returns {script : Script} {newMode : Nat → Nat} {fault : ModeFault}
    {status : FileStatus} (description : String)
    (h : modeFailure script newMode fault status = none) :
    ∃ file, requireRegularNonsymlink description (modeLeft script newMode fault status) =
      .ok file := by
  obtain ⟨file, -, hkind, hlinks, hleft⟩ := modeLeft_of_returns h
  rw [hleft]
  exact ⟨_, requireRegularNonsymlink_ok.mpr ⟨rfl, hkind, hlinks⟩⟩

/-- A router that has been enabled passes the preflight again. -/
private theorem preflight_enabled (h : preflightChecks host router = .ok ())
    (hstop : stop host faults router = none) {receipt : FileStatus} :
    preflightChecks host { routerAt faults router .enabled with receipt } = .ok () := by
  rw [preflightChecks_ok_iff] at h ⊢
  refine ⟨?_, h.2.1, h.2.2.1, h.2.2.2.1, h.2.2.2.2.1, ?_, h.2.2.2.2.2.2⟩
  · exact accepted_of_returns "S23xray-direct" (returns_of_stop_none hstop .enabling)
  · by_cases hmissing : router.s24 = .missing
    · change requireUnlessMissing "S24xray" (modeLeft .s24 withoutExecution _ router.s24) = _
      rw [hmissing, modeLeft_missing]
      rfl
    · have hreturns : modeFailure .s24 withoutExecution (faults.modes .disableS24) router.s24 =
          none := (if_neg hmissing).symm.trans (returns_of_stop_none hstop .disablingS24)
      obtain ⟨file, hfile⟩ := accepted_of_returns "S24xray" hreturns
      change requireUnlessMissing "S24xray"
        (modeLeft .s24 withoutExecution (faults.modes .disableS24) router.s24) = _
      obtain ⟨found, -, -, -, hleft⟩ := modeLeft_of_returns hreturns
      rw [hleft] at hfile ⊢
      simp only [requireUnlessMissing, hfile]
      rfl

private theorem enableAutostart_noop (htarget : host.targetRoot = defaultTargetRoot)
    (hsysname : host.sysname = "Linux") (hpreflight : preflightChecks host router = .ok ())
    (hseen : faults.looks .before = false)
    (hverified : (inspectStatus host router).verifyOk = true) :
    ∃ result final, enableAutostart host faults (.start router) = .ok result final ∧
      result.noop = true ∧ result.restartPerformed = false ∧ final.router = router := by
  have houtside : ¬ Enters host faults router := by
    intro henters
    cases hverified.symm.trans henters.unverified
  cases hrun : enableAutostart host faults (.start router) with
  | ok result final =>
      obtain ⟨-, -, -, -, hrouter, hnoop, hrestart⟩ := wp_ok (enableAutostart_outside houtside) hrun
      exact ⟨result, final, rfl, hnoop, hrestart, hrouter⟩
  | error failure final =>
      exfalso
      obtain ⟨file, -⟩ := (preflightChecks_ok_iff.mp hpreflight).1
      have hnever : wp (enableAutostart host faults) (fun _ _ => True) (fun _ _ => False)
          (.start router) := by
        unfold enableAutostart
        rw [wp_bind, wp_preflightApply]
        refine ⟨fun _ => ⟨fun _ => ?_, fun hother => absurd hsysname hother⟩,
          fun hother => absurd htarget hother⟩
        obtain ⟨found, hfound⟩ := preflight_s23 hpreflight
        have hstart : (Session.start router).router = router := rfl
        simp only [hstart, hpreflight, wp_bind, s23Mode, wp_get, hfound, wp_pure, wp_setResult,
          wp_inspect, hseen, hverified, if_true]
      exact wp_error hnever hrun

/-- Enabling an autostart that has been enabled, on a router that has stayed as it
was left, changes nothing and restarts nothing. -/
theorem enable_again_noop {result : TransactionResult} {final : Session} {later : Faults}
    (h : enableAutostart host faults (.start router) = .ok result final)
    (hseen : later.looks .before = false) :
    ∃ again finalAgain, enableAutostart host later (.start final.router) = .ok again finalAgain ∧
      again.noop = true ∧ again.restartPerformed = false ∧ finalAgain.router = final.router := by
  by_cases henters : Enters host faults router
  · obtain ⟨⟨hstop, hrouter, -⟩, -⟩ := wp_ok (enableAutostart_outcome henters) h
    have hverified : (inspectStatus host final.router).verifyOk = true := by
      rw [hrouter]
      exact enabled_verifyOk henters.preflight (fun moment _ => returns_of_stop_none hstop moment)
        (returns_of_stop_none hstop .enabling)
    have hpreflight : preflightChecks host final.router = .ok () := by
      rw [hrouter]
      exact preflight_enabled henters.preflight hstop
    exact enableAutostart_noop henters.targetRoot henters.sysname hpreflight hseen hverified
  · obtain ⟨htarget, hsysname, hpreflight, hverified, hrouter, -, -⟩ :=
      wp_ok (enableAutostart_outside henters) h
    rw [hrouter]
    exact enableAutostart_noop htarget hsysname hpreflight hseen hverified

/-- A fresh installation is enabled, and enabled again. -/
theorem enable_again_noop_fresh :
    ∃ result final, enableAutostart sampleHost quietFaults (.start freshRouter) =
        .ok result final ∧
      ∃ again finalAgain, enableAutostart sampleHost quietFaults (.start final.router) =
          .ok again finalAgain ∧
        again.noop = true ∧ again.restartPerformed = false ∧
        finalAgain.router = final.router := by
  have hreturns : (match enableAutostart sampleHost quietFaults (.start freshRouter) with
      | .ok _ _ => true
      | .error _ _ => false) = true := by
    decide +kernel
  cases hrun : enableAutostart sampleHost quietFaults (.start freshRouter) with
  | error failure final =>
      rw [hrun] at hreturns
      cases hreturns
  | ok result final => exact ⟨result, final, rfl, enable_again_noop hrun rfl⟩

/-- The S24xray script is as it is. -/
def KeepsS24 {α : Type} (status : FileStatus) (x : AutostartM α) : Prop :=
  Keeps (fun session => session.router.s24 = status) x

section Keeping

variable {α : Type} {status : FileStatus}

private theorem keepsS24_look {at_ : Look} : KeepsS24 status (look host faults at_) := by
  intro session h
  rw [wp_look]
  cases faults.looks at_ <;> exact h

private theorem keepsS24_inspect {at_ : Look} : KeepsS24 status (inspect host faults at_) := by
  intro session h
  rw [wp_inspect]
  cases faults.looks at_ <;> exact h

private theorem keepsS24_runInit {action : InitAction} {recovering : Bool} :
    KeepsS24 status (runInit faults action recovering) := by
  intro session h
  have hran : (session.ran faults action).router.s24 = status := by
    rw [Session.ran_router]
    exact h
  rw [wp_runInit]
  split
  · exact hran
  · split <;> exact hran

private theorem keepsS24_removeReceipt {step : ReceiptStep} :
    KeepsS24 status (removeReceipt faults step) := by
  intro session h
  rw [wp_removeReceipt]
  split <;> exact h

private theorem keepsS24_suppress {x : AutostartM Unit} {handler : Failure → AutostartM Unit}
    (h : KeepsS24 status x) (hhandler : ∀ failure, KeepsS24 status (handler failure)) :
    KeepsS24 status (tryCatchThe Failure x handler) :=
  Keeps.tryCatch h hhandler

private theorem keepsS24_s23Mode : KeepsS24 status s23Mode := by
  intro session h
  rw [s23Mode, wp_bind, wp_get]
  cases session.router.s23 <;> exact h

private theorem keepsS24_safeChmod {mode : Nat} {fault : ModeFault} :
    KeepsS24 status (safeChmod .s23 mode fault) := by
  intro session h
  rw [wp_safeChmod]
  split <;> exact h

private theorem keepsS24_restoreMode {mode : Nat} : KeepsS24 status (restoreMode faults mode) := by
  unfold restoreMode
  split
  · exact keeps_throw _
  · refine Keeps.bind keepsS24_s23Mode (fun now => ?_)
    exact Keeps.ite (fun _ => keepsS24_safeChmod) (fun _ => keeps_pure ())

private theorem keepsS24_removeRuntime : KeepsS24 status (removeRuntimeIfStarted host faults) := by
  refine Keeps.bind keepsS24_look (fun before => ?_)
  refine Keeps.ite (fun _ => ?_) (fun _ => keeps_pure true)
  refine Keeps.bind (Keeps.tryCatch ?_ ?_) (fun stopped => ?_)
  · exact Keeps.bind keepsS24_runInit (fun _ => keeps_pure true)
  · intro failure
    cases failure with
    | autostart message code => exact keeps_pure false
    | uncaught => exact keeps_throw _
  · exact Keeps.ite (fun _ => Keeps.bind keepsS24_look (fun _ => keeps_pure _))
      (fun _ => keeps_pure false)

private theorem keepsS24_rollBackRuntime {before : AutostartStatus} :
    KeepsS24 status (rollBackRuntime host faults before) := by
  refine Keeps.ite (fun _ => ?_) (fun _ => ?_)
  · refine Keeps.bind keepsS24_look (fun restored => ?_)
    refine Keeps.ite (fun _ => keeps_pure false) (fun _ => ?_)
    refine Keeps.bind (keepsS24_suppress keepsS24_runInit ?_)
      (fun _ => Keeps.bind keepsS24_look (fun _ => keeps_pure _))
    intro failure
    cases failure with
    | autostart message code => exact keeps_pure ()
    | uncaught => exact keeps_throw _
  · refine Keeps.bind keeps_get (fun session => ?_)
    exact Keeps.ite (fun _ => Keeps.bind keepsS24_removeRuntime (fun _ => keeps_pure _))
      (fun _ => keeps_pure false)

private theorem keepsS24_rollBack {before : AutostartStatus} {mode : Nat} {failure : Failure} :
    KeepsS24 status (rollBack host faults before mode failure) := by
  refine Keeps.bind keepsS24_removeReceipt (fun _ => ?_)
  refine Keeps.bind (keepsS24_suppress keepsS24_restoreMode (fun _ => keeps_pure ()))
    (fun _ => ?_)
  refine Keeps.bind keepsS24_rollBackRuntime (fun failed => ?_)
  refine Keeps.bind (Keeps.tryCatch ?_ (fun _ => keeps_pure true)) (fun unproven => ?_)
  · exact Keeps.bind keepsS24_inspect (fun _ => Keeps.bind keepsS24_s23Mode
      (fun _ => keeps_pure _))
  · exact Keeps.ite (fun _ => keeps_throw _) (fun _ => keeps_throw _)

end Keeping

/-- Nothing behind the disabling of S24xray touches it again. -/
private theorem enableAutostart_s24 (h : Enters host faults router) :
    wp (enableAutostart host faults)
      (fun _ final => final.router.s24 = (routerAt faults router .disablingS24).s24)
      (fun _ final => final.router.s24 = (routerAt faults router .disablingS24).s24)
      (.start router) := by
  obtain ⟨file, hfile⟩ := preflight_s23 h.preflight
  have hstart : (Session.start router).router = router := rfl
  unfold enableAutostart
  rw [wp_bind, wp_preflightApply]
  refine ⟨fun _ => ⟨fun _ => ?_, fun hother => absurd h.sysname hother⟩,
    fun hother => absurd h.targetRoot hother⟩
  rw [hstart]
  simp only [h.preflight, wp_bind, s23Mode, wp_get, hstart, hfile, wp_pure, wp_setResult,
    wp_inspect, h.seen, h.unverified, Bool.false_eq_true, if_false, wp_withSignals, wp_tryCatch,
    wp_recordSignal, wp_requireTornDown]
  refine wp_mono (enableSteps_stops h.preflight rfl) ?_ ?_
  · intro completed final hcompleted
    have hfinal : final.router.s24 = (routerAt faults router .disablingS24).s24 := by
      rw [hcompleted.router_eq]
      rfl
    split
    · exact hfinal
    · split <;> exact hfinal
  · rintro failure final ⟨moment, -, hrouter, -⟩
    have hfinal : final.router.s24 = (routerAt faults router .disablingS24).s24 := by
      rw [hrouter]
      rfl
    cases failure with
    | uncaught => exact hfinal
    | autostart message code =>
        refine wp_mono (keepsS24_rollBack final hfinal) (fun completed final' hkept => ?_)
          (fun _ _ => id)
        split
        · exact hkept
        · split <;> exact hkept

private theorem s24_disabled (h : Moment.disablingS24.failure host faults router = none) :
    (fileInfo (routerAt faults router .disablingS24).s24).enabled = false := by
  by_cases hmissing : router.s24 = .missing
  · rw [routerAt, hmissing, modeLeft_missing]
    rfl
  · obtain ⟨file, -, -, -, hleft⟩ := modeLeft_of_returns ((if_neg hmissing).symm.trans h)
    rw [routerAt, hleft]
    exact isExecutable_withoutExecution file.mode

/-- A transaction that stops at S24xray finds nothing to roll back. -/
private theorem untouched_of_back {message : String} {code : Int} {raised : Failure}
    {final : Router} (hpreflight : preflightChecks host router = .ok ())
    (h : BackOutcome host faults router .disablingS24 message code raised final) :
    final.s23 = router.s23 ∧ final.runtime = router.runtime := by
  have hback : s23Back faults router .disablingS24 = router.s23 := by
    obtain ⟨file, hfile⟩ := preflight_s23 hpreflight
    simp only [s23Back, hfile, s23At, if_true]
  have hsame : runtimeBack host faults router .disablingS24 = router.runtime :=
    runtimeBack_of_same rfl
  cases h with
  | receiptStays _ hs23 hruntime => exact ⟨hs23, hruntime⟩
  | proven _ _ _ _ _ hs23 hruntime => exact ⟨hs23, hruntime.trans hsame⟩
  | cut _ _ _ hs23 hruntime | unproven _ _ _ hs23 hruntime =>
      exact ⟨hs23.trans hback, hruntime.trans hsame⟩

/-- However an enabling transaction ends, S24xray is not left to the boot unless
nothing else has changed: it is disabled first, and no rollback enables it. -/
theorem enable_disables_s24_first {final : Session}
    (h : (∃ result, enableAutostart host faults (.start router) = .ok result final) ∨
      ∃ failure, enableAutostart host faults (.start router) = .error failure final) :
    (fileInfo final.router.s24).enabled = false ∨
      (final.router.s23 = router.s23 ∧ final.router.runtime = router.runtime) := by
  by_cases henters : Enters host faults router
  · rcases h with ⟨result, hrun⟩ | ⟨failure, hrun⟩
    · left
      have hs24 := wp_ok (enableAutostart_s24 henters) hrun
      have hcompleted := wp_ok (enableAutostart_outcome henters) hrun
      rw [hs24]
      exact s24_disabled (returns_of_stop_none hcompleted.1.undisturbed .disablingS24)
    · have hs24 := wp_error (enableAutostart_s24 henters) hrun
      have hstopped : ∀ {moment : Moment} {cause : Failure},
          stop host faults router = some (moment, cause) → moment ≠ .disablingS24 →
            (fileInfo final.router.s24).enabled = false := by
        intro moment cause hstop hmoment
        rw [hs24]
        refine s24_disabled (returns_before hstop ?_)
        revert hmoment
        cases moment <;> decide
      cases wp_error (enableAutostart_outcome henters) hrun with
      | @stepRaises moment hstop hraised hfinal =>
          by_cases hmoment : moment = .disablingS24
          · subst hmoment
            rw [hfinal]
            exact .inr ⟨rfl, rfl⟩
          · exact .inl (hstopped hstop hmoment)
      | @back moment message code cause hstop hback =>
          by_cases hmoment : moment = .disablingS24
          · subst hmoment
            exact .inr (untouched_of_back henters.preflight hback)
          · exact .inl (hstopped hstop hmoment)
      | tornDown hstop =>
          left
          rw [hs24]
          exact s24_disabled (returns_of_stop_none hstop .disablingS24)
  · right
    rcases h with ⟨result, hrun⟩ | ⟨failure, hrun⟩
    · obtain ⟨-, -, -, -, hrouter, -⟩ := wp_ok (enableAutostart_outside henters) hrun
      rw [hrouter]
      exact ⟨rfl, rfl⟩
    · have hrouter := wp_error (enableAutostart_outside henters) hrun
      rw [hrouter]
      exact ⟨rfl, rfl⟩

/-- S24xray is there and would start at boot. -/
def bothScripts : Router := { freshRouter with s24 := .found ⟨.regular, 0o755, 1⟩ }

/-- After a restart that reports a failure S24xray stays disabled. -/
theorem enable_disables_s24_first_failed :
    ∃ failure final,
      enableAutostart sampleHost startedAnywayFaults (.start bothScripts) =
        .error failure final ∧
      ((fileInfo final.router.s24).enabled = false ∨
        (final.router.s23 = bothScripts.s23 ∧ final.router.runtime = bothScripts.runtime)) := by
  have hraises : (match enableAutostart sampleHost startedAnywayFaults (.start bothScripts) with
      | .ok _ _ => false
      | .error _ _ => true) = true := by
    decide +kernel
  cases hrun : enableAutostart sampleHost startedAnywayFaults (.start bothScripts) with
  | ok result final =>
      rw [hrun] at hraises
      cases hraises
  | error failure final =>
      exact ⟨failure, final, rfl, enable_disables_s24_first (.inr ⟨failure, hrun⟩)⟩

/-- The script without its execution bits. -/
def disarmed : FileStatus → FileStatus
  | .found file => .found { file with mode := withoutExecution file.mode }
  | status => status

theorem disarmed_enabled (status : FileStatus) : (fileInfo (disarmed status)).enabled = false := by
  cases status with
  | found file => exact isExecutable_withoutExecution file.mode
  | _ => rfl

private theorem modeLeft_disarmed {script : Script} {fault : ModeFault} {status : FileStatus}
    (h : modeFailure script withoutExecution fault status = none) :
    modeLeft script withoutExecution fault status = disarmed status := by
  obtain ⟨file, hstatus, -, -, hleft⟩ := modeLeft_of_returns h
  rw [hleft, hstatus]
  rfl

/-- One of the two disabling steps, which differ in the script. -/
private theorem wp_disablePresent (script : Script) (fault : ModeFault)
    (note : Bool → TransactionResult → TransactionResult) {step : AutostartM Unit}
    {session : Session}
    (hstep : ∀ {Q : Unit → Session → Prop} {E : Failure → Session → Prop},
      wp step Q E session ↔
        (session.router.script script = .missing → Q () session) ∧
        (session.router.script script ≠ .missing →
          wp (do
            let done ← disableExecutable script fault
            setResult (note done)) Q E session)) :
    wp step
      (fun _ final => final.router =
        session.router.setScript script (disarmed (session.router.script script)))
      (fun _ final => final.router.runtime = session.router.runtime) session := by
  rw [hstep]
  constructor
  · intro hmissing
    have hdisarmed : disarmed (session.router.script script) = session.router.script script := by
      rw [hmissing]
      rfl
    rw [hdisarmed, Router.setScript_self]
  · intro _
    rw [wp_bind, disableExecutable, wp_changeMode]
    split
    · next hreturns =>
      rw [wp_setResult]
      change session.router.setScript script _ = _
      rw [modeLeft_disarmed hreturns]
    · change (session.router.setScript script _).runtime = _
      cases script <;> rfl

private theorem disableS24_disarms {session : Session} :
    wp (disableS24 faults)
      (fun _ final => final.router = { session.router with s24 := disarmed session.router.s24 })
      (fun _ final => final.router.runtime = session.router.runtime) session :=
  wp_disablePresent .s24 (faults.modes .disableS24)
    (fun disabled result => { result with disabledS24 := disabled }) (by
      intro Q E
      rw [disableS24, wp_bind, wp_get, wp_ite]
      rfl)

private theorem disableS23_disarms {session : Session} :
    wp (disableS23 faults)
      (fun _ final => final.router = { session.router with s23 := disarmed session.router.s23 })
      (fun _ final => final.router.runtime = session.router.runtime) session :=
  wp_disablePresent .s23 (faults.modes .disableS23)
    (fun changed result => { result with changedS23Mode := changed }) (by
      intro Q E
      rw [disableS23, wp_bind, wp_get, wp_ite]
      rfl)

/-- A disabling transaction that returns has taken the execution bits, and nothing
else, from both scripts; it never touches the runtime, however it ends. -/
theorem disable_disarms :
    (∀ result final, disableAutostart host faults (.start router) = .ok result final →
      final.router = {
        s23 := disarmed router.s23
        s24 := disarmed router.s24
        receipt := .missing
        runtime := router.runtime } ∧
      (fileInfo final.router.s23).enabled = false ∧
      (fileInfo final.router.s24).enabled = false) ∧
    ∀ failure final, disableAutostart host faults (.start router) = .error failure final →
      final.router.runtime = router.runtime := by
  have hsteps : wp (disableSteps faults)
      (fun _ final => final.router = {
        s23 := disarmed router.s23
        s24 := disarmed router.s24
        receipt := .missing
        runtime := router.runtime })
      (fun _ final => final.router.runtime = router.runtime)
      { Session.start router with result := { action := "disable" } } := by
    unfold disableSteps
    rw [wp_bind]
    refine wp_mono disableS24_disarms ?_ (fun _ _ => id)
    intro _ first hfirst
    rw [wp_bind]
    refine wp_mono disableS23_disarms ?_ ?_
    · intro _ second hsecond
      have hrouter : second.router = { router with
          s23 := disarmed router.s23
          s24 := disarmed router.s24 } := by
        rw [hsecond, hfirst]
        rfl
      have hruntime : second.router.runtime = router.runtime := by rw [hrouter]
      simp only [wp_bind, wp_get, wp_checked, wp_removeReceipt]
      split
      · split
        · split
          · exact hruntime
          · change { second.router with receipt := .missing } = _
            rw [hrouter]
        · exact hruntime
      · exact hruntime
    · intro _ final hfinal
      rw [hfinal, hfirst]
      rfl
  have hrun : wp (disableAutostart host faults)
      (fun _ final => final.router = {
        s23 := disarmed router.s23
        s24 := disarmed router.s24
        receipt := .missing
        runtime := router.runtime })
      (fun _ final => final.router.runtime = router.runtime) (.start router) := by
    unfold disableAutostart
    rw [wp_bind, wp_require]
    refine ⟨fun _ => ?_, fun _ => rfl⟩
    rw [wp_bind, wp_setResult, wp_bind, wp_withSignals, wp_bind]
    refine wp_mono hsteps ?_ (fun _ _ => id)
    intro _ final hfinal
    have hruntime : final.router.runtime = router.runtime := by rw [hfinal]
    simp only [wp_bind, wp_recordSignal, wp_get, wp_setResult, wp_requireTornDown]
    split
    · exact hruntime
    · split
      · exact hruntime
      · exact hfinal
  constructor
  · intro result final hresult
    have hrouter := wp_ok hrun hresult
    refine ⟨hrouter, ?_, ?_⟩
    · rw [hrouter]
      exact disarmed_enabled router.s23
    · rw [hrouter]
      exact disarmed_enabled router.s24
  · intro failure final hresult
    have hruntime := wp_error hrun hresult
    exact hruntime

/-- Both scripts are there and enabled, and Xray is up. -/
def armedRouter : Router where
  s23 := .found ⟨.regular, 0o755, 1⟩
  s24 := .found ⟨.regular, 0o755, 1⟩
  receipt := .found ⟨.regular, 0o600, 1⟩
  runtime := sampleRunning

/-- The mode of S23xray-direct cannot be changed. -/
def stuckFaults : Faults :=
  { quietFaults with modes := fun step => match step with
      | .disableS23 => .chmodFails
      | _ => .none }

/-- Both scripts lose their execution bits, and Xray stays up; it does so too where
the second script keeps them. -/
theorem disable_disarms_sample :
    (∃ result final,
      disableAutostart sampleHost quietFaults (.start armedRouter) = .ok result final ∧
        final.router.s23 = .found ⟨.regular, 0o644, 1⟩ ∧
        final.router.s24 = .found ⟨.regular, 0o644, 1⟩ ∧
        final.router.runtime = sampleRunning ∧
        (fileInfo final.router.s23).enabled = false ∧
        (fileInfo final.router.s24).enabled = false) ∧
      ∃ failure final,
        disableAutostart sampleHost stuckFaults (.start armedRouter) = .error failure final ∧
          final.router.s23 = armedRouter.s23 ∧ final.router.runtime = sampleRunning := by
  constructor
  · obtain ⟨hreturns, -⟩ := @disable_disarms sampleHost quietFaults armedRouter
    have hok : (match disableAutostart sampleHost quietFaults (.start armedRouter) with
        | .ok _ _ => true
        | .error _ _ => false) = true := by
      decide +kernel
    cases hrun : disableAutostart sampleHost quietFaults (.start armedRouter) with
    | error failure final =>
        rw [hrun] at hok
        cases hok
    | ok result final =>
        obtain ⟨hrouter, hs23, hs24⟩ := hreturns result final hrun
        refine ⟨result, final, rfl, ?_, ?_, ?_, hs23, hs24⟩
        · rw [hrouter]
          rfl
        · rw [hrouter]
          rfl
        · rw [hrouter]
          rfl
  · obtain ⟨-, hraises⟩ := @disable_disarms sampleHost stuckFaults armedRouter
    have herror : (match disableAutostart sampleHost stuckFaults (.start armedRouter) with
        | .ok _ _ => false
        | .error _ final => decide (final.router.s23 = armedRouter.s23)) = true := by
      decide +kernel
    cases hrun : disableAutostart sampleHost stuckFaults (.start armedRouter) with
    | ok result final =>
        rw [hrun] at herror
        cases herror
    | error failure final =>
        rw [hrun] at herror
        exact ⟨failure, final, rfl, of_decide_eq_true herror, hraises failure final hrun⟩

end RouterKit.Autostart
