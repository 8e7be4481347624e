import RouterKit.Autostart.Steps

/-!
Where an enabling transaction stops. The steps are taken in a fixed order, so the
first of them that fails is known from what the operating system answers, and so
is the router it leaves.
-/

namespace RouterKit.Autostart

open RouterKit.Lib.Checked RouterKit.Lib.Programs

/-- The steps of the transaction, in their order. -/
inductive Moment where
  | disablingS24
  | disablingS23
  | disabled
  | restarting
  | restarted
  | enabling
  | enabled
  deriving DecidableEq

def Moment.all : List Moment :=
  [.disablingS24, .disablingS23, .disabled, .restarting, .restarted, .enabling, .enabled]

/-- The restart has been recorded as performed. -/
def Moment.performed : Moment → Bool
  | .restarted | .enabling | .enabled => true
  | _ => false

section

variable (host : Host) (faults : Faults) (router : Router)

/-- The S23xray-direct file behind its disabling. -/
def s23Disabled : FileStatus :=
  modeLeft .s23 withoutExecution (faults.modes .disableS23) router.s23

/-- The runtime behind the restart. -/
def restartedRuntime : RuntimeReads := (faults.runs .restart).leaves router.runtime

def s23At : Moment → FileStatus
  | .disablingS24 => router.s23
  | .disablingS23 | .disabled | .restarting | .restarted => s23Disabled faults router
  | .enabling | .enabled =>
      modeLeft .s23 (fun _ => enabledMode) (faults.modes .enableS23) (s23Disabled faults router)

def runtimeAt : Moment → RuntimeReads
  | .disablingS24 | .disablingS23 | .disabled => router.runtime
  | .restarting | .restarted | .enabling | .enabled => restartedRuntime faults router

/-- The router at a step that stops the transaction. -/
def routerAt (moment : Moment) : Router where
  s23 := s23At faults router moment
  s24 := modeLeft .s24 withoutExecution (faults.modes .disableS24) router.s24
  receipt := router.receipt
  runtime := runtimeAt faults router moment

def lookFailure (at_ : Look) : Option Failure :=
  if faults.looks at_ then some .uncaught else none

def verdict (runtime : RuntimeReads) : RuntimeVerification :=
  verifyRuntime host.paths host.maxEntries runtime

/-- How a step fails, if it does. -/
def Moment.failure : Moment → Option Failure
  | .disablingS24 =>
      if router.s24 = .missing then none
      else modeFailure .s24 withoutExecution (faults.modes .disableS24) router.s24
  | .disablingS23 => modeFailure .s23 withoutExecution (faults.modes .disableS23) router.s23
  | .disabled => if host.masks then none else signalFailure (faults.signals .disabled)
  | .restarting =>
      (faults.runs .restart).failure .restart <|>
        signalFailure (faults.signals .disabled <|> faults.signals (.running .restart))
  | .restarted =>
      signalFailure (faults.signals .restarted) <|> lookFailure faults .restarted <|>
        autostartFailure (requireNewEpoch (verdict host router.runtime)
          (verdict host (restartedRuntime faults router)))
  | .enabling => modeFailure .s23 (fun _ => enabledMode) (faults.modes .enableS23)
      (s23Disabled faults router)
  | .enabled =>
      signalFailure (faults.signals .enabled) <|> lookFailure faults .final <|>
        receiptFailure (faults.receipts .forward) router.receipt

/-- The first step that fails. -/
def stop : Option (Moment × Failure) :=
  Moment.all.findSome? fun moment => (moment.failure host faults router).map (moment, ·)

end

theorem modeLeft_missing {script : Script} {newMode : Nat → Nat} {fault : ModeFault} :
    modeLeft script newMode fault .missing = .missing := by
  cases fault <;> rfl

/-- A change of mode that returns has found a regular file and has set its mode. -/
theorem modeLeft_of_returns {script : Script} {newMode : Nat → Nat} {fault : ModeFault}
    {status : FileStatus} (h : modeFailure script newMode fault status = none) :
    ∃ file, status = .found file ∧ file.kind = .regular ∧ file.links ≤ 1 ∧
      modeLeft script newMode fault status = .found { file with mode := newMode file.mode } := by
  unfold modeFailure at h
  unfold modeLeft
  cases hmode : modeToSet script newMode fault status with
  | error message => simp [hmode] at h
  | ok target =>
      have hset := hmode
      unfold modeToSet at hset
      obtain ⟨file, hfile, htarget⟩ : ∃ file,
          requireRegularNonsymlink script.description (fault.seen status) = .ok file ∧
            (if newMode file.mode = file.mode then none else some (newMode file.mode))
            = target := by
        cases hread : requireRegularNonsymlink script.description (fault.seen status) with
        | error message => simp [hread, Except.map] at hset
        | ok file => exact ⟨file, rfl, by simpa [hread, Except.map] using hset⟩
      obtain ⟨hseen, hkind, hlinks⟩ := requireRegularNonsymlink_ok.mp hfile
      have hstatus : status = .found file := by
        cases fault <;> first | exact hseen | cases hseen
      refine ⟨file, hstatus, hkind, hlinks, ?_⟩
      by_cases hsame : newMode file.mode = file.mode
      · rw [if_pos hsame] at htarget
        subst htarget
        rw [hstatus, hsame]
      · rw [if_neg hsame] at htarget
        subst htarget
        simp only [hmode] at h
        have hleaves : fault.leaves (newMode file.mode) status =
            status.withMode (newMode file.mode) := by
          cases fault with
          | otherMode found =>
              have hfound : found = newMode file.mode := by
                by_contra hne
                simp [ModeFault.failure, hne] at h
              rw [hfound]
              rfl
          | _ => first | rfl | simp [ModeFault.failure] at h
        simp only [hleaves]
        rw [hstatus]
        rfl

theorem preflight_conflicts {host : Host} {router : Router}
    (h : preflightChecks host router = .ok ()) :
    host.s23Matches = true ∧ boundedInitConflicts host.initDir = [] := by
  simp only [preflightChecks, bind_eq_ok, exists_unit, raiseIf_eq_ok] at h
  obtain ⟨_, -, hmatches, _, -, -, -, -, hconflicts⟩ := h
  exact ⟨by simpa using hmatches, not_not.mp hconflicts⟩

section Forward

variable {host : Host} {faults : Faults} {router : Router}

/-- The transaction has stopped at the step, with what the steps before it have
done. -/
def StoppedAt (host : Host) (faults : Faults) (router : Router) (failure : Failure)
    (session : Session) : Prop :=
  ∃ moment, stop host faults router = some (moment, failure) ∧
    session.router = routerAt faults router moment ∧
    session.result.restartPerformed = moment.performed

/-- The steps before the one that fails return. -/
private theorem stop_of (earlier : List Moment) {later : List Moment} {moment : Moment}
    {failure : Failure}
    (hsplit : Moment.all = earlier ++ moment :: later)
    (hearlier : ∀ before ∈ earlier, before.failure host faults router = none)
    (h : moment.failure host faults router = some failure) :
    stop host faults router = some (moment, failure) := by
  have hnone : earlier.findSome? (fun before =>
      (before.failure host faults router).map (before, ·)) = none := by
    rw [List.findSome?_eq_none_iff]
    intro before hmem
    rw [hearlier before hmem]
    rfl
  rw [stop, hsplit, List.findSome?_append, hnone, List.findSome?_cons, h]
  rfl

/-- Both scripts have been disabled, and nothing has been met on the way. -/
structure Disabled (host : Host) (faults : Faults) (router : Router) (session : Session) :
    Prop where
  s24 : Moment.disablingS24.failure host faults router = none
  s23 : Moment.disablingS23.failure host faults router = none
  unsignalled : Moment.disabled.failure host faults router = none
  router_eq : session.router = routerAt faults router .disabled
  unperformed : session.result.restartPerformed = false
  firstSignal : session.firstSignal = none

private theorem disableS24_stops {result : TransactionResult}
    (hresult : result.restartPerformed = false) :
    wp (disableS24 faults)
      (fun _ final =>
        Moment.disablingS24.failure host faults router = none ∧
          final.router = routerAt faults router .disablingS24 ∧
          final.result.restartPerformed = false ∧ final.firstSignal = none)
      (StoppedAt host faults router) { router, result, firstSignal := none } := by
  unfold disableS24
  rw [wp_bind, wp_get, wp_ite]
  constructor
  · intro hmissing
    refine ⟨if_pos hmissing, ?_, hresult, rfl⟩
    change router = _
    rw [routerAt, hmissing, modeLeft_missing, ← hmissing]
    rfl
  · intro hpresent
    have hfailure : Moment.disablingS24.failure host faults router =
        modeFailure .s24 withoutExecution (faults.modes .disableS24) router.s24 := if_neg hpresent
    rw [wp_bind, disableExecutable, wp_changeMode]
    split
    · next hreturns =>
      exact ⟨hfailure.trans hreturns, rfl, hresult, rfl⟩
    · next failure hfails =>
      exact ⟨.disablingS24, stop_of [] rfl (by simp) (hfailure.trans hfails), rfl,
        hresult⟩

/-- Up to the first check for a signal. -/
theorem disableScripts_stops {result : TransactionResult}
    (hresult : result.restartPerformed = false) :
    wp (disableScripts host faults) (fun _ => Disabled host faults router)
      (StoppedAt host faults router) { router, result, firstSignal := none } := by
  unfold disableScripts
  rw [wp_bind]
  refine wp_mono (disableS24_stops hresult) ?_ (fun _ _ => id)
  rintro - session ⟨hs24, hrouter, hperformed, hsignal⟩
  rw [wp_bind, disableExecutable, wp_changeMode]
  have hs23 : session.router.script .s23 = router.s23 := by rw [hrouter]; rfl
  have hleft : (session.changed .s23 withoutExecution (faults.modes .disableS23)).router =
      routerAt faults router .disabled := by
    rw [Session.changed, hs23, hrouter]
    rfl
  rw [hs23]
  split
  · next hreturns =>
    rw [wp_bind, recordUnmasked, wp_ite]
    constructor
    · intro hmasks
      rw [wp_pure, wp_raiseIfRequested]
      have hunsignalled : Moment.disabled.failure host faults router = none := if_pos hmasks
      have hnone : (session.changed .s23 withoutExecution (faults.modes .disableS23)).firstSignal =
          none := hsignal
      rw [hnone]
      exact ⟨hs24, hreturns, hunsignalled, hleft, hperformed, hnone⟩
    · intro hmasks
      have hunsignalled : Moment.disabled.failure host faults router =
          signalFailure (faults.signals .disabled) := if_neg hmasks
      rw [wp_recordSignal, wp_raiseIfRequested]
      have hrecorded : ((session.changed .s23 withoutExecution
          (faults.modes .disableS23)).firstSignal <|> faults.signals .disabled) =
            faults.signals .disabled := by
        change (session.firstSignal <|> faults.signals .disabled) = _
        rw [hsignal]
        rfl
      simp only [hrecorded]
      split
      · next hquiet =>
        refine ⟨hs24, hreturns, hunsignalled.trans hquiet, hleft, hperformed, ?_⟩
        cases hsignals : faults.signals .disabled with
        | none => rw [← hsignals]
        | some signum => simp [hsignals, signalFailure] at hquiet
      · next failure hraised =>
        refine ⟨.disabled, stop_of [.disablingS24, .disablingS23] rfl ?_
          (hunsignalled.trans hraised), hleft, hperformed⟩
        simpa using ⟨hs24, hreturns⟩
  · next failure hfails =>
    refine ⟨.disablingS23, stop_of [.disablingS24] rfl ?_ hfails, ?_, hperformed⟩
    · simpa using hs24
    · exact hleft

/-- The runtime has been restarted and verified. -/
structure Restarted (host : Host) (faults : Faults) (router : Router) (session : Session) :
    Prop where
  earlier : ∀ moment ∈ [Moment.disablingS24, .disablingS23, .disabled, .restarting, .restarted],
    moment.failure host faults router = none
  router_eq : session.router = routerAt faults router .restarted
  performed : session.result.restartPerformed = true
  firstSignal : session.firstSignal = none

private theorem failure_of_or {first second : Option Failure} (h : first = none) :
    (first <|> second) = second := by
  rw [h]
  rfl

private theorem signal_none {signal : Option Nat} (h : signalFailure signal = none) :
    signal = none := by
  cases signal with
  | none => rfl
  | some signum => cases h

theorem restartVerified_stops {session : Session} (h : Disabled host faults router session) :
    wp (restartVerified host faults (inspectStatus host router))
      (fun _ => Restarted host faults router) (StoppedAt host faults router) session := by
  have hearlier : ∀ moment ∈ [Moment.disablingS24, .disablingS23, .disabled],
      moment.failure host faults router = none := by
    simpa using ⟨h.s24, h.s23, h.unsignalled⟩
  have hran : (session.ran faults .restart).router = routerAt faults router .restarting := by
    rw [Session.ran_router, h.router_eq]
    rfl
  have hperformed : (session.ran faults .restart).result.restartPerformed = false := by
    unfold Session.ran
    split <;> exact h.unperformed
  unfold restartVerified
  rw [wp_bind, wp_runInit]
  split
  · next failure hfails =>
    refine ⟨.restarting, stop_of [.disablingS24, .disablingS23, .disabled] rfl hearlier ?_,
      hran, hperformed⟩
    simp only [Moment.failure, hfails]
    rfl
  · next hexits =>
    have hspawned : (faults.runs .restart).spawned = true := by
      unfold InitRun.failure at hexits
      unfold InitRun.spawned
      split at hexits <;> simp_all
    have hsignal : (session.ran faults .restart).firstSignal =
        (faults.signals .disabled <|> faults.signals (.running .restart)) := by
      rw [Session.ran, if_pos hspawned, h.firstSignal]
      rfl
    have hrestarting : Moment.restarting.failure host faults router =
        signalFailure (session.ran faults .restart).firstSignal := by
      rw [hsignal]
      exact failure_of_or hexits
    rw [cond_false]
    split
    · next failure hraised =>
      exact ⟨.restarting, stop_of [.disablingS24, .disablingS23, .disabled] rfl
        hearlier (hrestarting.trans hraised), hran, hperformed⟩
    · next hquiet =>
      have hnone : (session.ran faults .restart).firstSignal = none := signal_none hquiet
      have hstarted : ∀ moment ∈ [Moment.disablingS24, .disablingS23, .disabled, .restarting],
          moment.failure host faults router = none := by
        simpa using ⟨h.s24, h.s23, h.unsignalled, hrestarting.trans hquiet⟩
      have hstops : ∀ {failure : Failure} {final : Session},
          Moment.restarted.failure host faults router = some failure →
          final.router = routerAt faults router .restarted →
          final.result.restartPerformed = true → StoppedAt host faults router failure final :=
        fun hfails hrouter hdone => ⟨.restarted, stop_of _ rfl hstarted hfails, hrouter, hdone⟩
      have hrecorded : ((session.ran faults .restart).firstSignal <|> faults.signals .restarted) =
          faults.signals .restarted := by
        rw [hnone]
        rfl
      have hverdict : runtimeOf host (session.ran faults .restart).router =
          verdict host (restartedRuntime faults router) := by
        rw [hran]
        rfl
      simp only [wp_bind, wp_setResult, wp_recordSignal, wp_raiseIfRequested, hrecorded, wp_look,
        wp_checked, hverdict]
      have hfailure : Moment.restarted.failure host faults router =
          (signalFailure (faults.signals .restarted) <|> lookFailure faults .restarted <|>
            autostartFailure (requireNewEpoch (verdict host router.runtime)
              (verdict host (restartedRuntime faults router)))) := rfl
      split
      · next hunsignalled =>
        rw [failure_of_or hunsignalled, lookFailure] at hfailure
        split
        · next hlook =>
          rw [hlook] at hfailure
          exact hstops hfailure hran rfl
        · next hlook =>
          rw [hlook] at hfailure
          have hepoch : Moment.restarted.failure host faults router =
              autostartFailure (requireNewEpoch (verdict host router.runtime)
                (verdict host (restartedRuntime faults router))) := hfailure
          split
          · next haccepted =>
            have hbefore : (inspectStatus host router).runtime = verdict host router.runtime := rfl
            rw [hbefore] at haccepted
            rw [haccepted] at hepoch
            refine ⟨?_, hran, rfl, signal_none hunsignalled⟩
            simpa using ⟨h.s24, h.s23, h.unsignalled, hrestarting.trans hquiet, hepoch⟩
          · next message hrejected =>
            have hbefore : (inspectStatus host router).runtime = verdict host router.runtime := rfl
            rw [hbefore] at hrejected
            rw [hrejected] at hepoch
            exact hstops hepoch hran rfl
      · next failure hraised =>
        rw [hraised] at hfailure
        exact hstops hfailure hran rfl

/-- A restart without a complaint leaves a runtime that is verified. -/
theorem restarted_verified (h : Moment.restarted.failure host faults router = none) :
    (verdict host (restartedRuntime faults router)).ok = true := by
  unfold Moment.failure at h
  cases hsignal : signalFailure (faults.signals .restarted) with
  | some failure => simp [hsignal] at h
  | none =>
      cases hlook : lookFailure faults .restarted with
      | some failure => simp [hsignal, hlook] at h
      | none =>
          simp only [hsignal, hlook] at h
          cases hepoch : requireNewEpoch (verdict host router.runtime)
              (verdict host (restartedRuntime faults router)) with
          | error message => simp [hepoch, autostartFailure] at h
          | ok u =>
              simp only [requireNewEpoch, bind_eq_ok, exists_unit, raiseIf_eq_ok] at hepoch
              simpa using hepoch.1

/-- Behind the steps the final status cannot fail to verify. -/
theorem enabled_verifyOk (hpreflight : preflightChecks host router = .ok ())
    (h : ∀ moment ∈ [Moment.disablingS24, .disablingS23, .disabled, .restarting, .restarted],
      moment.failure host faults router = none)
    (henabling : Moment.enabling.failure host faults router = none) :
    (inspectStatus host (routerAt faults router .enabled)).verifyOk = true := by
  obtain ⟨hmatches, hconflicts⟩ := preflight_conflicts hpreflight
  obtain ⟨file, -, hkind, -, hs23⟩ := modeLeft_of_returns henabling
  have hruntime := restarted_verified (h .restarted (by simp))
  have hs24 : (fileInfo (routerAt faults router .enabled).s24).present = false ∨
      ((fileInfo (routerAt faults router .enabled).s24).regular = true ∧
        (fileInfo (routerAt faults router .enabled).s24).enabled = false ∧
        (fileInfo (routerAt faults router .enabled).s24).symlink = false) := by
    by_cases hmissing : router.s24 = .missing
    · rw [routerAt, hmissing, modeLeft_missing]
      exact .inl rfl
    · have hreturns : modeFailure .s24 withoutExecution (faults.modes .disableS24) router.s24 =
          none := (if_neg hmissing).symm.trans (h .disablingS24 (by simp))
      obtain ⟨other, -, hregular, -, hleft⟩ := modeLeft_of_returns hreturns
      rw [routerAt, hleft]
      refine .inr ⟨?_, isExecutable_withoutExecution other.mode, ?_⟩
      · simp [fileInfo, hregular]
      · simp [fileInfo, hregular]
  have hfile : (routerAt faults router .enabled).s23 = .found { file with mode := enabledMode } :=
    hs23
  have hverdict : (runtimeOf host (routerAt faults router .enabled)).ok = true := hruntime
  simp only [AutostartStatus.verifyOk, inspectStatus, hfile, hverdict, hconflicts, hmatches]
  simp only [fileInfo, hkind, isExecutable_enabledMode]
  rcases hs24 with habsent | ⟨hregular, hdisabled, hlink⟩
  · simp only [fileInfo] at habsent
    simp [habsent]
  · simp only [fileInfo] at hregular hdisabled hlink
    simp [hregular, hdisabled, hlink]

/-- The transaction has enabled S23xray-direct, behind every check. -/
structure Completed (host : Host) (faults : Faults) (router : Router) (session : Session) :
    Prop where
  undisturbed : stop host faults router = none
  router_eq : session.router = { routerAt faults router .enabled with receipt := .missing }
  performed : session.result.restartPerformed = true

theorem enableVerified_stops {session : Session} (h : Restarted host faults router session)
    (hpreflight : preflightChecks host router = .ok ()) :
    wp (enableVerified host faults) (fun _ => Completed host faults router)
      (StoppedAt host faults router) session := by
  have hs23 : session.router.script .s23 = s23Disabled faults router := by
    rw [h.router_eq]
    rfl
  have hleft : (session.changed .s23 (fun _ => enabledMode) (faults.modes .enableS23)).router =
      routerAt faults router .enabled := by
    rw [Session.changed, hs23, h.router_eq]
    rfl
  unfold enableVerified
  rw [wp_bind, enableExecutable, wp_changeMode, hs23]
  split
  · next hreturns =>
    have hstops : ∀ {failure : Failure} {final : Session},
        Moment.enabled.failure host faults router = some failure →
        final.router = routerAt faults router .enabled →
        final.result.restartPerformed = true → StoppedAt host faults router failure final := by
      intro failure final hfails hrouter hdone
      refine ⟨.enabled, stop_of Moment.all.dropLast rfl ?_ hfails, hrouter, hdone⟩
      intro moment hmem
      have hsplit : moment ∈ [Moment.disablingS24, .disablingS23, .disabled, .restarting,
          .restarted] ∨ moment = .enabling := by
        revert hmem
        cases moment <;> decide
      rcases hsplit with hearlier | rfl
      · exact h.earlier moment hearlier
      · exact hreturns
    have hrecorded : ((session.changed .s23 (fun _ => enabledMode)
        (faults.modes .enableS23)).firstSignal <|> faults.signals .enabled) =
          faults.signals .enabled := by
      change (session.firstSignal <|> faults.signals .enabled) = _
      rw [h.firstSignal]
      rfl
    have hfailure : Moment.enabled.failure host faults router =
        (signalFailure (faults.signals .enabled) <|> lookFailure faults .final <|>
          receiptFailure (faults.receipts .forward) router.receipt) := rfl
    simp only [wp_bind, wp_setResult, wp_recordSignal, wp_raiseIfRequested, hrecorded, wp_inspect,
      wp_require, wp_removeReceipt, hleft]
    split
    · next hunsignalled =>
      rw [failure_of_or hunsignalled, lookFailure] at hfailure
      split
      · next hlook =>
        rw [hlook] at hfailure
        exact hstops hfailure rfl h.performed
      · next hlook =>
        rw [hlook] at hfailure
        have hreceipt : Moment.enabled.failure host faults router =
            receiptFailure (faults.receipts .forward) router.receipt := hfailure
        refine ⟨fun _ => ?_, fun hunverified =>
          absurd (enabled_verifyOk hpreflight h.earlier hreturns) hunverified⟩
        have hfound : (routerAt faults router .enabled).receipt = router.receipt := rfl
        rw [hfound]
        split
        · next failure hfails =>
          exact hstops (hreceipt.trans hfails) rfl h.performed
        · next hremoved =>
          refine ⟨?_, ?_, h.performed⟩
          · rw [stop, List.findSome?_eq_none_iff]
            intro moment _
            have hnone : moment.failure host faults router = none := by
              cases moment with
              | enabling => exact hreturns
              | enabled => exact hreceipt.trans hremoved
              | _ => exact h.earlier _ (by simp)
            rw [hnone]
            rfl
          · rfl
    · next failure hraised =>
      rw [hraised] at hfailure
      exact hstops hfailure rfl h.performed
  · next failure hfails =>
    exact ⟨.enabling, stop_of _ rfl h.earlier hfails, hleft, h.performed⟩

theorem enableSteps_stops (hpreflight : preflightChecks host router = .ok ())
    {result : TransactionResult} (hresult : result.restartPerformed = false) :
    wp (enableSteps host faults (inspectStatus host router))
      (fun _ => Completed host faults router) (StoppedAt host faults router)
      { router, result, firstSignal := none } := by
  unfold enableSteps
  rw [wp_bind]
  refine wp_mono (disableScripts_stops hresult) ?_ (fun _ _ => id)
  intro _ session hdisabled
  rw [wp_bind]
  refine wp_mono (restartVerified_stops hdisabled) ?_ (fun _ _ => id)
  intro _ session' hrestarted
  exact enableVerified_stops hrestarted hpreflight

end Forward

end RouterKit.Autostart
