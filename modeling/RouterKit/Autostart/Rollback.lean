import RouterKit.Autostart.Forward

/-!
What the rollback of an enabling transaction gives back: the mode of
S23xray-direct, and a runtime that verifies just where one did before. It can be
left through an exception it does not catch, and it can give up.
-/

namespace RouterKit.Autostart

open RouterKit.Lib.Checked RouterKit.Lib.Programs

section Back

variable (host : Host) (faults : Faults) (router : Router)

/-- Xray was verified before the transaction. -/
def wasRunning : Bool := (verdict host router.runtime).ok

/-- The S23xray-direct file behind the attempt to put its mode back. -/
def s23Back (moment : Moment) : FileStatus :=
  match router.s23 with
  | .found file =>
      if s23At faults router moment = router.s23 then router.s23
      else (faults.modes .restoreS23).leaves file.mode (s23At faults router moment)
  | _ => s23At faults router moment

/-- The restart has run and has left another verdict on the runtime. -/
def RuntimeFlipped : Moment → Prop
  | .disablingS24 | .disablingS23 | .disabled => False
  | .restarting | .restarted | .enabling | .enabled =>
      (faults.runs .restart).spawned = true ∧
        (verdict host (faults.runs .restart).runtime).ok ≠ wasRunning host router

/-- The rollback of the runtime is left through an exception that is no
`AutostartError`. -/
inductive RollbackCut (moment : Moment) : Prop where
  | restoredUnread (hrunning : wasRunning host router = true)
      (hlook : faults.looks .restored = true)
  | startRaises (hrunning : wasRunning host router = true)
      (hflipped : RuntimeFlipped host faults router moment)
      (hstart : (faults.runs .start).failure .start = some .uncaught)
  | startedUnread (hrunning : wasRunning host router = true)
      (hflipped : RuntimeFlipped host faults router moment)
      (hlook : faults.looks .started = true)
  | stopUnread (hdown : wasRunning host router = false) (hperformed : moment.performed = true)
      (hlook : faults.looks .beforeStop = true)
  | stopRaises (hdown : wasRunning host router = false) (hperformed : moment.performed = true)
      (hflipped : RuntimeFlipped host faults router moment)
      (hstop : (faults.runs .stop).failure .stop = some .uncaught)
  | stoppedUnread (hdown : wasRunning host router = false) (hperformed : moment.performed = true)
      (hflipped : RuntimeFlipped host faults router moment)
      (hstop : (faults.runs .stop).failure .stop = none)
      (hlook : faults.looks .stopped = true)

/-- The run of the script leaves a runtime with this verdict. -/
def RunMakes (action : InitAction) (up : Bool) : Prop :=
  (faults.runs action).spawned = true ∧ (verdict host (faults.runs action).runtime).ok = up

/-- The restart has left another verdict, and the rollback does not run the script
that would give the old one back, or its run does not. -/
def RuntimeLost (moment : Moment) : Prop :=
  RuntimeFlipped host faults router moment ∧
    if wasRunning host router = true then
      faults.looks .restored = true ∨ ¬ RunMakes host faults .start true
    else
      moment.performed = false ∨ faults.looks .beforeStop = true ∨
        ¬ RunMakes host faults .stop false

/-- The runtime behind the rollback, however it ends. -/
def runtimeBack (moment : Moment) : RuntimeReads :=
  let left := runtimeAt faults router moment
  if (verdict host left).ok = wasRunning host router then left
  else if wasRunning host router = true then
    if faults.looks .restored = true then left else (faults.runs .start).leaves left
  else if moment.performed = false ∨ faults.looks .beforeStop = true then left
  else (faults.runs .stop).leaves left

end Back

section Recovery

variable {host : Host} {faults : Faults} {router : Router} {moment : Moment}

theorem verdict_leaves {run : InitRun} {before : RuntimeReads} :
    (verdict host (run.leaves before)).ok =
      if run.spawned then (verdict host run.runtime).ok else (verdict host before).ok := by
  unfold InitRun.leaves
  split <;> rfl

theorem runtimeFlipped_iff :
    RuntimeFlipped host faults router moment ↔
      (verdict host (runtimeAt faults router moment)).ok ≠ wasRunning host router := by
  have hsame : (verdict host router.runtime).ok = wasRunning host router := rfl
  cases moment <;>
    simp only [RuntimeFlipped, runtimeAt, restartedRuntime, verdict_leaves, hsame, ne_eq,
      not_true_eq_false]
  all_goals cases (faults.runs .restart).spawned <;> simp

/-- The rollback gives the verdict back exactly where it is not lost. -/
theorem runtimeBack_lost :
    (verdict host (runtimeBack host faults router moment)).ok ≠ wasRunning host router ↔
      RuntimeLost host faults router moment := by
  unfold RuntimeLost RunMakes
  rw [runtimeFlipped_iff, runtimeBack]
  by_cases hsame : (verdict host (runtimeAt faults router moment)).ok = wasRunning host router
  · simp [hsame]
  · cases hrunning : wasRunning host router with
    | true =>
        rw [hrunning] at hsame
        cases faults.looks .restored <;> cases hspawned : (faults.runs .start).spawned <;>
          simp [hsame, verdict_leaves, hspawned]
    | false =>
        rw [hrunning] at hsame
        cases moment.performed <;> cases faults.looks .beforeStop <;>
          cases hspawned : (faults.runs .stop).spawned <;>
          simp [hsame, verdict_leaves, hspawned]

/-- A rollback with nothing to do about the runtime is left through no exception. -/
theorem not_rollbackCut_idle (hidle : moment.performed = false)
    (hdown : wasRunning host router = false) : ¬ RollbackCut host faults router moment := by
  intro h
  cases h <;> simp_all

/-- What the rollback of the runtime leaves where it returns. -/
structure RuntimeBack (host : Host) (faults : Faults) (router : Router) (moment : Moment)
    (failed : Bool) (runtime : RuntimeReads) : Prop where
  quiet : ¬ RollbackCut host faults router moment
  runtime_eq : runtime = runtimeBack host faults router moment
  given_back : failed = false → moment.performed = true ∨ wasRunning host router = true →
    (verdict host runtime).ok = wasRunning host router
  idle : moment.performed = false → wasRunning host router = false → failed = false

private theorem ran_s23 {session : Session} {action : InitAction} :
    (session.ran faults action).router.s23 = session.router.s23 := by
  rw [Session.ran_router]

private theorem verdict_ran {session : Session} {action : InitAction}
    (h : session.router.runtime = runtimeAt faults router moment) :
    runtimeOf host (session.ran faults action).router =
      verdict host ((faults.runs action).leaves (runtimeAt faults router moment)) := by
  rw [Session.ran_router, ← h]
  rfl

theorem runtimeBack_of_same
    (h : (verdict host (runtimeAt faults router moment)).ok = wasRunning host router) :
    runtimeBack host faults router moment = runtimeAt faults router moment := if_pos h

/-- The runtime that was verified before is started again. -/
private theorem startAgain_back {session : Session} {before : AutostartStatus}
    (hruntime : session.router.runtime = runtimeAt faults router moment)
    (hbefore : before.runtime.ok = wasRunning host router)
    (hrunning : wasRunning host router = true) :
    wp (rollBackRuntime host faults before)
      (fun failed final => RuntimeBack host faults router moment failed final.router.runtime ∧
        final.router.s23 = session.router.s23)
      (fun failure final => failure = .uncaught ∧ final.router.s23 = session.router.s23 ∧
        RollbackCut host faults router moment ∧
        final.router.runtime = runtimeBack host faults router moment) session := by
  have hverdict : runtimeOf host session.router = verdict host
      (runtimeAt faults router moment) := by
    rw [← hruntime]
    rfl
  have hok : before.runtime.ok = true := hbefore.trans hrunning
  unfold rollBackRuntime
  rw [if_pos hok, wp_bind, wp_look]
  cases hlook : faults.looks .restored with
  | true =>
      refine ⟨rfl, rfl, .restoredUnread hrunning hlook, ?_⟩
      simp [hruntime, runtimeBack, hrunning, hlook]
  | false =>
      simp only [hverdict]
      cases hup : (verdict host (runtimeAt faults router moment)).ok with
      | true =>
          have hsame : (verdict host (runtimeAt faults router moment)).ok =
              wasRunning host router := hup.trans hrunning.symm
          simp only [if_true, wp_pure]
          refine ⟨⟨?_, ?_, fun _ _ => ?_, fun _ _ => rfl⟩, trivial⟩
          · intro hcut
            have hkept := mt runtimeFlipped_iff.mp (not_not.mpr hsame)
            cases hcut <;> simp_all
          · rw [runtimeBack_of_same hsame, hruntime]
          · rw [hruntime, hsame]
      | false =>
          have hdiffers : (verdict host (runtimeAt faults router moment)).ok ≠
              wasRunning host router := by simp [hup, hrunning]
          have hflipped : RuntimeFlipped host faults router moment :=
            runtimeFlipped_iff.mpr hdiffers
          have hleft : (session.ran faults .start).router.runtime =
              runtimeBack host faults router moment := by
            simp [Session.ran_router, hruntime, runtimeBack, hup, hrunning, hlook]
          simp only [Bool.false_eq_true, if_false, wp_bind, wp_suppressAutostart, wp_runInit,
            cond_true]
          have hlooked : (faults.runs .start).failure .start ≠ some .uncaught →
              wp (do pure (!(← look host faults .started).ok))
                (fun failed final =>
                  RuntimeBack host faults router moment failed final.router.runtime ∧
                    final.router.s23 = session.router.s23)
                (fun failure final => failure = .uncaught ∧
                  final.router.s23 = session.router.s23 ∧
                    RollbackCut host faults router moment ∧
                    final.router.runtime = runtimeBack host faults router moment)
                (session.ran faults .start) := by
            intro hstart
            rw [wp_bind, wp_look]
            cases hstarted : faults.looks .started with
            | true => exact ⟨rfl, ran_s23, .startedUnread hrunning hflipped hstarted, hleft⟩
            | false =>
                rw [verdict_ran hruntime]
                refine ⟨⟨?_, hleft, ?_, fun _ hdown => ?_⟩, ran_s23⟩
                · intro hcut
                  cases hcut <;> simp_all
                · intro hproven _
                  rw [Session.ran_router, hruntime, hrunning]
                  simpa using hproven
                · cases hrunning.symm.trans hdown
          cases hstart : (faults.runs .start).failure .start with
          | none =>
              rw [hstart] at hlooked
              exact (wp_bind _ _).mp (hlooked (by simp))
          | some failure =>
              cases failure with
              | autostart message code =>
                  rw [hstart] at hlooked
                  exact (wp_bind _ _).mp (hlooked (by simp))
              | uncaught =>
                  exact ⟨trivial, ran_s23, .startRaises hrunning hflipped hstart, hleft⟩

/-- What the transaction started is stopped again. -/
private theorem removeRuntime_back {session : Session} {before : AutostartStatus}
    (hruntime : session.router.runtime = runtimeAt faults router moment)
    (hbefore : before.runtime.ok = wasRunning host router)
    (hdown : wasRunning host router = false)
    (hperformed : session.result.restartPerformed = moment.performed) :
    wp (rollBackRuntime host faults before)
      (fun failed final => RuntimeBack host faults router moment failed final.router.runtime ∧
        final.router.s23 = session.router.s23)
      (fun failure final => failure = .uncaught ∧ final.router.s23 = session.router.s23 ∧
        RollbackCut host faults router moment ∧
        final.router.runtime = runtimeBack host faults router moment) session := by
  have hverdict : runtimeOf host session.router = verdict host
      (runtimeAt faults router moment) := by
    rw [← hruntime]
    rfl
  have hok : ¬ before.runtime.ok = true := by
    rw [hbefore, hdown]
    exact Bool.false_ne_true
  unfold rollBackRuntime
  rw [if_neg hok, wp_bind, wp_get, wp_ite]
  constructor
  · intro hdone
    have hmoment : moment.performed = true := hperformed.symm.trans hdone
    rw [wp_bind, removeRuntimeIfStarted, wp_bind, wp_look]
    cases hlook : faults.looks .beforeStop with
    | true =>
        refine ⟨rfl, rfl, .stopUnread hdown hmoment hlook, ?_⟩
        simp [hruntime, runtimeBack, hdown, hlook]
    | false =>
        simp only [hverdict]
        cases hup : (verdict host (runtimeAt faults router moment)).ok with
        | false =>
            have hsame : (verdict host (runtimeAt faults router moment)).ok =
                wasRunning host router := hup.trans hdown.symm
            simp only [Bool.false_eq_true, if_false, wp_pure]
            refine ⟨⟨?_, ?_, fun _ _ => ?_, fun hidle =>
              absurd (hidle.symm.trans hmoment) Bool.false_ne_true⟩, trivial⟩
            · intro hcut
              have hkept := mt runtimeFlipped_iff.mp (not_not.mpr hsame)
              cases hcut <;> simp_all
            · rw [runtimeBack_of_same hsame, hruntime]
            · rw [hruntime, hsame]
        | true =>
            have hdiffers : (verdict host (runtimeAt faults router moment)).ok ≠
                wasRunning host router := by simp [hup, hdown]
            have hflipped : RuntimeFlipped host faults router moment :=
              runtimeFlipped_iff.mpr hdiffers
            have hleft : (session.ran faults .stop).router.runtime =
                runtimeBack host faults router moment := by
              simp [Session.ran_router, hruntime, runtimeBack, hup, hdown, hlook, hmoment]
            simp only [if_true, wp_bind, wp_tryCatch, wp_runInit, cond_true]
            cases hstop : (faults.runs .stop).failure .stop with
            | some failure =>
                cases failure with
                | uncaught =>
                    exact ⟨rfl, ran_s23, .stopRaises hdown hmoment hflipped hstop, hleft⟩
                | autostart message code =>
                    simp only [wp_pure, Bool.false_eq_true, if_false]
                    refine ⟨⟨?_, hleft, ?_, fun hidle =>
                      absurd (hidle.symm.trans hmoment) Bool.false_ne_true⟩, ran_s23⟩
                    · intro hcut
                      cases hcut <;> simp_all
                    · simp
            | none =>
                simp only [wp_pure, if_true, wp_bind, wp_look]
                cases hstopped : faults.looks .stopped with
                | true =>
                    exact ⟨trivial, ran_s23,
                      .stoppedUnread hdown hmoment hflipped hstop hstopped, hleft⟩
                | false =>
                    simp only [verdict_ran hruntime]
                    refine ⟨⟨?_, hleft, ?_, fun hidle =>
                      absurd (hidle.symm.trans hmoment) Bool.false_ne_true⟩, ran_s23⟩
                    · intro hcut
                      cases hcut <;> simp_all
                    · intro hproven _
                      rw [Session.ran_router, hruntime, hdown]
                      simpa using hproven
  · intro hdone
    have hmoment : moment.performed = false :=
      hperformed.symm.trans (Bool.eq_false_iff.mpr hdone)
    refine ⟨⟨not_rollbackCut_idle hmoment hdown, ?_, ?_, fun _ _ => rfl⟩, rfl⟩
    · simp [hruntime, runtimeBack, hdown, hmoment]
    · rintro - (hdone' | hrunning)
      · cases hdone'.symm.trans hmoment
      · cases hrunning.symm.trans hdown

theorem rollBackRuntime_back {session : Session} {before : AutostartStatus}
    (hruntime : session.router.runtime = runtimeAt faults router moment)
    (hbefore : before.runtime.ok = wasRunning host router)
    (hperformed : session.result.restartPerformed = moment.performed) :
    wp (rollBackRuntime host faults before)
      (fun failed final => RuntimeBack host faults router moment failed final.router.runtime ∧
        final.router.s23 = session.router.s23)
      (fun failure final => failure = .uncaught ∧ final.router.s23 = session.router.s23 ∧
        RollbackCut host faults router moment ∧
        final.router.runtime = runtimeBack host faults router moment) session := by
  cases hrunning : wasRunning host router with
  | true => exact startAgain_back hruntime hbefore hrunning
  | false => exact removeRuntime_back hruntime hbefore hrunning hperformed

theorem modeLeft_found {script : Script} {newMode : Nat → Nat} {fault : ModeFault}
    (file : FileMeta) :
    ∃ mode, modeLeft script newMode fault (.found file) = .found { file with mode } := by
  unfold modeLeft
  split
  · cases fault <;> exact ⟨_, rfl⟩
  · exact ⟨file.mode, rfl⟩

/-- The transaction changes nothing of S23xray-direct but its mode. -/
theorem s23At_found {file : FileMeta} (hfile : router.s23 = .found file) :
    ∃ mode, s23At faults router moment = .found { file with mode } := by
  obtain ⟨mode, hdisabled⟩ : ∃ mode, s23Disabled faults router = .found { file with mode } := by
    rw [s23Disabled, hfile]
    exact modeLeft_found file
  cases moment with
  | disablingS24 => exact ⟨file.mode, hfile⟩
  | enabling | enabled =>
      simp only [s23At, hdisabled]
      exact modeLeft_found { file with mode }
  | _ => exact ⟨mode, hdisabled⟩

theorem wp_restoreMode {session : Session} {file : FileMeta} {Q : Unit → Session → Prop}
    {E : Failure → Session → Prop} (hfile : router.s23 = .found file)
    (hs23 : session.router.s23 = s23At faults router moment) :
    wp (suppressAll (restoreMode faults file.mode)) Q E session ↔
      Q () (session.withRouter { session.router with s23 := s23Back faults router moment }) := by
  obtain ⟨mode, hnow⟩ := @s23At_found faults router moment file hfile
  have hkept : session.withRouter { session.router with s23 := s23At faults router moment } =
      session := by
    rw [← hs23]
    rfl
  have hread : ∀ (Q : Nat → Session → Prop) (E : Failure → Session → Prop),
      wp s23Mode Q E session ↔ Q mode session := by
    intro Q E
    rw [s23Mode, wp_bind, wp_get, hs23, hnow]
    rfl
  have hscript : session.router.script .s23 = s23At faults router moment := hs23
  have hback : s23Back faults router moment =
      if s23At faults router moment = router.s23 then router.s23
      else (faults.modes .restoreS23).leaves file.mode (s23At faults router moment) := by
    rw [s23Back, hfile]
  rw [wp_suppressAll, restoreMode]
  by_cases hmode : mode = file.mode
  · have hsame : s23At faults router moment = router.s23 := by rw [hnow, hfile, hmode]
    rw [hback, if_pos hsame, ← hsame, hkept]
    split
    · rfl
    · simp only [wp_bind, hread, hmode, ne_eq, not_true_eq_false, if_false, wp_pure]
  · have hdiffers : s23At faults router moment ≠ router.s23 := by
      rw [hnow, hfile]
      intro heq
      exact hmode (congrArg FileMeta.mode (FileStatus.found.inj heq))
    rw [hback, if_neg hdiffers]
    split
    · next reason hfault =>
      rw [hfault]
      simp only [ModeFault.leaves, hkept]
      rfl
    · simp only [wp_bind, hread, ne_eq, hmode, not_false_eq_true, if_true, wp_safeChmod, hscript]
      split <;> rfl

def Failure.exitCode : Failure → Option Int
  | .autostart _ code => some code
  | .uncaught => none

/-- How the rollback ends, and with what in place. -/
inductive BackOutcome (host : Host) (faults : Faults) (router : Router) (moment : Moment)
    (message : String) (code : Int) (raised : Failure) (final : Router) : Prop where
  | receiptStays (hreceipt : receiptFailure (faults.receipts .back) router.receipt = some raised)
      (hs23 : final.s23 = s23At faults router moment)
      (hruntime : final.runtime = runtimeAt faults router moment)
  | cut (hreceipt : receiptFailure (faults.receipts .back) router.receipt = none)
      (hraised : raised = .uncaught) (hcut : RollbackCut host faults router moment)
      (hs23 : final.s23 = s23Back faults router moment)
      (hruntime : final.runtime = runtimeBack host faults router moment)
  | unproven (hreceipt : receiptFailure (faults.receipts .back) router.receipt = none)
      (hquiet : ¬ RollbackCut host faults router moment)
      (hcode : raised.exitCode = some rollbackUnproven)
      (hs23 : final.s23 = s23Back faults router moment)
      (hruntime : final.runtime = runtimeBack host faults router moment)
      (hreason : moment.performed = false → wasRunning host router = false →
        s23Back faults router moment ≠ router.s23 ∨ faults.looks .rollback = true)
  | proven (hreceipt : receiptFailure (faults.receipts .back) router.receipt = none)
      (hquiet : ¬ RollbackCut host faults router moment)
      (hraised : raised = .autostart message code)
      (hback : s23Back faults router moment = router.s23)
      (hlook : faults.looks .rollback = false)
      (hs23 : final.s23 = router.s23)
      (hruntime : final.runtime = runtimeBack host faults router moment)
      (hgiven : moment.performed = true ∨ wasRunning host router = true →
        (verdict host final.runtime).ok = wasRunning host router)

/-- The last check passes just where the mode is back and so is a runtime that was
verified. -/
private theorem rollbackUnprovenBy_run {session : Session} {before : AutostartStatus}
    {file : FileMeta} {mode : Nat} {Q : Bool → Session → Prop} {E : Failure → Session → Prop}
    (hs23 : session.router.s23 = .found { file with mode })
    (h : ∀ unproven, (unproven = false ↔ faults.looks .rollback = false ∧ mode = file.mode ∧
        (before.runtime.ok = true → (runtimeOf host session.router).ok = true)) →
      Q unproven session) :
    wp (rollbackUnprovenBy host faults before file.mode) Q E session := by
  unfold rollbackUnprovenBy
  rw [wp_tryCatch, wp_bind, wp_inspect]
  cases hlook : faults.looks .rollback with
  | true =>
      apply h
      simp [hlook]
  | false =>
      simp only [wp_bind, s23Mode, wp_get, hs23]
      apply h
      have hseen : (inspectStatus host session.router).runtime =
          runtimeOf host session.router := rfl
      rw [hseen]
      cases before.runtime.ok <;> simp [hlook]

theorem rollBack_outcome {session : Session} {before : AutostartStatus} {file : FileMeta}
    {message : String} {code : Int} (hfile : router.s23 = .found file)
    (hrouter : session.router = routerAt faults router moment)
    (hbefore : before.runtime.ok = wasRunning host router)
    (hperformed : session.result.restartPerformed = moment.performed) :
    wp (rollBack host faults before file.mode (.autostart message code)) (fun _ _ => False)
      (fun raised final => BackOutcome host faults router moment message code raised final.router)
      session := by
  have hreceipt : session.router.receipt = router.receipt := by rw [hrouter]; rfl
  have hs23 : session.router.s23 = s23At faults router moment := by rw [hrouter]; rfl
  have hruntime : session.router.runtime = runtimeAt faults router moment := by rw [hrouter]; rfl
  unfold rollBack
  rw [wp_bind, wp_removeReceipt, hreceipt]
  cases hremoved : receiptFailure (faults.receipts .back) router.receipt with
  | some raised => exact .receiptStays hremoved hs23 hruntime
  | none =>
      have hs23' : (session.withRouter { session.router with receipt := .missing }).router.s23 =
          s23At faults router moment := hs23
      simp only []
      rw [wp_bind, wp_restoreMode hfile hs23', wp_bind]
      refine wp_mono (rollBackRuntime_back hruntime hbefore hperformed) ?_ ?_
      · rintro failed final ⟨hback, hfinal⟩
        have hfinal' : final.router.s23 = s23Back faults router moment := hfinal
        obtain ⟨mode, hmode⟩ : ∃ mode, s23Back faults router moment =
            .found { file with mode } := by
          obtain ⟨mode, hnow⟩ := @s23At_found faults router moment file hfile
          unfold s23Back
          rw [hfile, hnow]
          dsimp only
          split
          · exact ⟨file.mode, rfl⟩
          · cases faults.modes .restoreS23 <;> exact ⟨_, rfl⟩
        have hrestored : mode = file.mode ↔ s23Back faults router moment = router.s23 := by
          rw [hmode, hfile]
          constructor
          · rintro rfl
            rfl
          · intro heq
            exact congrArg FileMeta.mode (FileStatus.found.inj heq)
        rw [wp_bind]
        apply rollbackUnprovenBy_run (hfinal'.trans hmode)
        intro unproven hunproven
        rw [wp_ite]
        constructor
        · intro hfails
          refine .unproven hremoved hback.quiet rfl hfinal' hback.runtime_eq ?_
          intro hidle hdown
          have hreturned := hback.idle hidle hdown
          subst hreturned
          have hnot : ¬ unproven = false := by simpa using hfails
          rw [hunproven, hrestored, hbefore, hdown] at hnot
          by_contra hneither
          rw [not_or, not_not] at hneither
          exact hnot ⟨by simpa using hneither.2, hneither.1, by simp⟩
        · intro hpasses
          obtain ⟨hfailed, hproven⟩ : failed = false ∧ unproven = false := by simpa using hpasses
          obtain ⟨hlook, hmodeback, -⟩ := hunproven.mp hproven
          have hsame := hrestored.mp hmodeback
          exact .proven hremoved hback.quiet rfl hsame hlook (hfinal'.trans hsame)
            hback.runtime_eq (hback.given_back hfailed)
      · rintro failure final ⟨hraised, hfinal, hcut, hleft⟩
        exact .cut hremoved hraised hcut hfinal hleft

end Recovery

end RouterKit.Autostart
