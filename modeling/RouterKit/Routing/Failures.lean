import RouterKit.Routing.Publication

/-!
An apply with one failing step. The way back puts the old document in place, but
it starts only behind a publication that returned, and nothing takes back the
selection. So a publication that fails behind its own effect stays.
-/

namespace RouterKit.Routing

open RouterKit.Lib RouterKit.Lib.Checked RouterKit.Lib.Programs

section Failures

variable {Text : Type} {format : JsonFormat Text} {tables : TextTables}
  {installation : Installation Text} {planned : PlannedRouting} {failing : ApplyStep}
  {tookEffect : Bool} {error raised : RoutingError}

/-- Every step returns but one. -/
def faultAt (failing : ApplyStep) (tookEffect : Bool) (error : RoutingError) (step : ApplyStep) :
    StepOutcome :=
  if step = failing then .fails tookEffect error else .done

theorem faultAt_eq_fails {step : ApplyStep} :
    faultAt failing tookEffect error step = .fails true raised ↔
      step = failing ∧ tookEffect = true ∧ error = raised := by
  unfold faultAt
  split
  · next hstep => simp [hstep]
  · next hstep => simp [hstep]

private theorem firstStop_faultAt {row : List ApplyStep} (h : failing ∉ row) :
    firstStop (faultAt failing tookEffect error) row = .done := by
  apply firstStop_done
  intro step hmem
  apply if_neg
  rintro rfl
  exact h hmem

/-- The apply gets to publish its document. -/
def PublishesRoute (format : JsonFormat Text) (installation : Installation Text)
    (planned : PlannedRouting) : Prop :=
  (readableRoute installation).isSome ∧ planned.plan.routingChangeRequired = true ∧
    format.size (format.dumps planned.updated) ≤ maxConfigBytes

/-- The apply gets to write its selection. -/
def WritesState (format : JsonFormat Text) (tables : TextTables) (installation : Installation Text)
    (planned : PlannedRouting) : Prop :=
  (readableRoute installation).isSome ∧ planned.plan.stateChangeRequired = true ∧
    (planned.plan.routingChangeRequired = true →
      format.size (format.dumps planned.updated) ≤ maxConfigBytes) ∧
    stateWritable format tables installation.state planned.plan.desired = true

private theorem publishesRoute_of_leaves {steps : ApplyStep → StepOutcome}
    (hleaves : (applyLeaves format tables steps installation planned).route = true) :
    (readableRoute installation).isSome ∧ planned.plan.routingChangeRequired = true := by
  unfold applyLeaves at hleaves
  cases hread : readableRoute installation with
  | none => simp [hread] at hleaves
  | some previousRoute =>
      cases hchange : planned.plan.routingChangeRequired with
      | true => exact ⟨rfl, rfl⟩
      | false =>
          simp only [hread, hchange] at hleaves
          split at hleaves <;> simp at hleaves

/-- The selection is written only behind a publication that returned. -/
private theorem publishes_state {steps : ApplyStep → StepOutcome} {previousRoute : Text}
    (h : (publishes format tables steps installation previousRoute planned).state = true) :
    routeOutcome format steps .forward (format.dumps planned.updated) = .done ∧
      planned.plan.stateChangeRequired = true ∧
      (stateOutcome format tables steps installation.state planned.plan.desired).takes = true := by
  unfold publishes at h
  split at h
  · cases h
  · cases h
  · next hroute =>
    refine ⟨hroute, ?_⟩
    split at h
    · cases h
    · cases h
    · split at h
      · next hchange =>
        refine ⟨hchange, ?_⟩
        split at h
        · next tookState _ hstate =>
          rw [hstate]
          exact h
        · next tookState hstate =>
          rw [hstate]
          exact h
        · next hstate =>
          rw [hstate]
          rfl
      · cases h

private theorem writesState_of_leaves {steps : ApplyStep → StepOutcome}
    (hleaves : (applyLeaves format tables steps installation planned).state = true) :
    WritesState format tables installation planned := by
  have hwritable : (stateOutcome format tables steps installation.state
      planned.plan.desired).takes = true →
        stateWritable format tables installation.state planned.plan.desired = true := by
    unfold stateOutcome
    split <;> simp [StepOutcome.takes, *]
  unfold applyLeaves at hleaves
  cases hread : readableRoute installation with
  | none => simp [hread] at hleaves
  | some previousRoute =>
      simp only [hread] at hleaves
      split at hleaves
      · cases hleaves
      · split at hleaves
        · split at hleaves
          · cases hleaves
          · obtain ⟨hroute, hchange, htakes⟩ := publishes_state hleaves
            refine ⟨by rw [hread]; rfl, hchange, ?_, hwritable htakes⟩
            intro _
            unfold routeOutcome at hroute
            split at hroute
            · cases hroute
            · omega
        · next hsame =>
          simp only [Bool.and_eq_true] at hleaves
          exact ⟨by rw [hread]; rfl, hleaves.1, fun hchange => absurd hchange hsame,
            hwritable hleaves.2⟩

/-- Where the document's publication fails behind its effect, the new document
stays. -/
private theorem route_left (hroute : PublishesRoute format installation planned) :
    (applyLeaves format tables (faultAt (.publishRoute .forward) true error) installation
      planned).route = true := by
  obtain ⟨hread, hchange, hsize⟩ := hroute
  obtain ⟨previousRoute, hread⟩ := Option.isSome_iff_exists.mp hread
  have hreads : firstStop (faultAt (.publishRoute .forward) true error)
      [.readRoute, .readState] = .done := firstStop_faultAt (by decide)
  have hprepared : firstStop (faultAt (.publishRoute .forward) true error)
      [.backup, .stage] = .done := firstStop_faultAt (by decide)
  have houtcome : routeOutcome format (faultAt (.publishRoute .forward) true error) .forward
      (format.dumps planned.updated) = .fails true error := by
    rw [routeOutcome, if_neg (by omega)]
    exact if_pos rfl
  simp [applyLeaves, hread, hreads, hchange, hprepared, publishes, houtcome]

/-- Where the writing of the selection fails behind its effect, the new selection
stays. -/
private theorem state_left (hstate : WritesState format tables installation planned) :
    (applyLeaves format tables (faultAt .writeState true error) installation planned).state =
      true := by
  obtain ⟨hread, hchange, hsize, hwritable⟩ := hstate
  obtain ⟨previousRoute, hread⟩ := Option.isSome_iff_exists.mp hread
  have hreads : firstStop (faultAt .writeState true error) [.readRoute, .readState] = .done :=
    firstStop_faultAt (by decide)
  have hprepared : firstStop (faultAt .writeState true error) [.backup, .stage] = .done :=
    firstStop_faultAt (by decide)
  have hactive : firstStop (faultAt .writeState true error)
      (activation .forward planned.ports) = .done := by
    apply firstStop_faultAt
    simp [activation]
  have houtcome : stateOutcome format tables (faultAt .writeState true error) installation.state
      planned.plan.desired = .fails true error := by
    rw [stateOutcome, if_pos hwritable]
    exact if_pos rfl
  cases hroute : planned.plan.routingChangeRequired with
  | false => simp [applyLeaves, hread, hreads, hroute, hchange, houtcome, StepOutcome.takes]
  | true =>
      have hpublish : routeOutcome format (faultAt .writeState true error) .forward
          (format.dumps planned.updated) = .done := by
        have hbound := hsize hroute
        rw [routeOutcome, if_neg (by omega)]
        exact if_neg (by decide)
      simp [applyLeaves, hread, hreads, hroute, hprepared, publishes, hpublish, hactive, hchange,
        houtcome]

private theorem route_left_iff (hraised : raised ≠ rollbackNotProven)
    (hends : Ends format tables (faultAt failing tookEffect error) installation planned
      (applyLeaves format tables (faultAt failing tookEffect error) installation planned)
      (.error (.raised raised) : Except Stop Bool)) :
    (applyLeaves format tables (faultAt failing tookEffect error) installation planned).route =
        true ↔
      tookEffect = true ∧ failing = .publishRoute .forward ∧
        PublishesRoute format installation planned := by
  constructor
  · intro hleaves
    have houtcome := (hends.resolve_left hraised).1 hleaves
    obtain ⟨hread, hchange⟩ := publishesRoute_of_leaves hleaves
    unfold routeOutcome at houtcome
    split at houtcome
    · cases houtcome
    · next hsize =>
      obtain ⟨hfailing, htook, -⟩ := faultAt_eq_fails.mp houtcome
      exact ⟨htook, hfailing.symm, hread, hchange, by omega⟩
  · rintro ⟨rfl, rfl, hpublishes⟩
    exact route_left hpublishes

private theorem state_left_iff (hraised : raised ≠ rollbackNotProven)
    (hends : Ends format tables (faultAt failing tookEffect error) installation planned
      (applyLeaves format tables (faultAt failing tookEffect error) installation planned)
      (.error (.raised raised) : Except Stop Bool)) :
    (applyLeaves format tables (faultAt failing tookEffect error) installation planned).state =
        true ↔
      tookEffect = true ∧ failing = .writeState ∧
        WritesState format tables installation planned := by
  constructor
  · intro hleaves
    have houtcome := (hends.resolve_left hraised).2 hleaves
    have hwrites := writesState_of_leaves hleaves
    rw [stateOutcome, if_pos hwrites.2.2.2] at houtcome
    obtain ⟨hfailing, htook, -⟩ := faultAt_eq_fails.mp houtcome
    exact ⟨htook, hfailing.symm, hwrites⟩
  · rintro ⟨rfl, rfl, hwrites⟩
    exact state_left hwrites

/-- An apply in which one step fails, and which does not report the way back as
unproven, leaves both files as they were, except exactly where the failing step
is a publication that is reached, has its effect and changes its file. -/
theorem failed_apply_keeps_files_iff (format : JsonFormat Text) (tables : TextTables)
    (installation after : Installation Text) (planned : PlannedRouting) (failing : ApplyStep)
    (tookEffect : Bool) (error raised : RoutingError)
    (hran : runCommand (applyPlan format tables (faultAt failing tookEffect error) planned)
      installation = (.error (.raised raised), after)) (hraised : raised ≠ rollbackNotProven) :
    (after.routing = installation.routing ∧ after.state = installation.state) ↔
      ¬ (tookEffect = true ∧
        ((failing = .publishRoute .forward ∧ PublishesRoute format installation planned ∧
            installation.routing ≠ .text (format.dumps planned.updated)) ∨
          (failing = .writeState ∧ WritesState format tables installation planned ∧
            installation.state ≠ .text (format.dumps planned.plan.desired.toDict)))) := by
  have hrun := @applyPlan_run Text format tables (faultAt failing tookEffect error) installation
    planned
  simp only [hran] at hrun
  obtain ⟨hafter, hends⟩ := hrun
  have hroute := route_left_iff hraised hends
  have hstate := state_left_iff hraised hends
  have hrouting : after.routing = installation.routing ↔
      ¬ (tookEffect = true ∧ failing = .publishRoute .forward ∧
        PublishesRoute format installation planned ∧
        installation.routing ≠ .text (format.dumps planned.updated)) := by
    rw [hafter]
    simp only [Installation.leave]
    split
    · next hleaves =>
      obtain ⟨htook, hfailing, hpublishes⟩ := hroute.mp hleaves
      simp only [htook, hfailing, hpublishes, true_and, not_not, eq_comm, ne_eq]
    · next hleaves =>
      refine iff_of_true rfl ?_
      rintro ⟨htook, hfailing, hpublishes, -⟩
      exact hleaves (hroute.mpr ⟨htook, hfailing, hpublishes⟩)
  have hselection : after.state = installation.state ↔
      ¬ (tookEffect = true ∧ failing = .writeState ∧
        WritesState format tables installation planned ∧
        installation.state ≠ .text (format.dumps planned.plan.desired.toDict)) := by
    rw [hafter]
    simp only [Installation.leave]
    split
    · next hleaves =>
      obtain ⟨htook, hfailing, hwrites⟩ := hstate.mp hleaves
      simp only [htook, hfailing, hwrites, true_and, not_not, eq_comm, ne_eq]
    · next hleaves =>
      refine iff_of_true rfl ?_
      rintro ⟨htook, hfailing, hwrites, -⟩
      exact hleaves (hstate.mpr ⟨htook, hfailing, hwrites⟩)
  rw [hrouting, hselection, ← not_or, ← and_or_left]

end Failures

/-- The plan that adds one domain to an installation without overrides. -/
def addedPlan : PlannedRouting where
  plan := {
    current := {}
    desired := { directDomains := ["example.org"] }
    directDomains := ["example.org"]
    inferredExistingState := false
    routingChangeRequired := true
    stateChangeRequired := true }
  updated := .obj [("routing", .obj [("rules", .arr [
    directRuleJson ["socks-home"] ["example.org"], homeRule])])]
  ports := [1080]

/-- The published document is taken back when the restart behind it fails. -/
theorem failed_restart_keeps_files :
    let start := homeInstallation [homeRule] .absent
    let restartFailed := routingError "Xray restart failed after the routing change."
    let ran := runCommand (applyPlan valueFormat plainTables
      (faultAt (.restart .forward) true restartFailed) addedPlan) start
    ran.1 = .error (.raised restartFailed) ∧ ran.2.routing = start.routing ∧
      ran.2.state = start.state := by
  intro start restartFailed ran
  have hraised : ran.1 = .error (.raised restartFailed) := by decide +kernel
  refine ⟨hraised, ?_⟩
  refine (failed_apply_keeps_files_iff valueFormat plainTables start ran.2 addedPlan
    (.restart .forward) true restartFailed restartFailed (Prod.ext hraised rfl) (by decide)).mpr ?_
  rintro ⟨-, ⟨hstep, -⟩ | ⟨hstep, -⟩⟩
  · cases hstep
  · cases hstep

/-- A directory that cannot be synchronized behind the rename: first that of the
document, then that of the selection. -/
theorem late_failures_leave_new_files :
    let start := homeInstallation [homeRule] .absent
    let routeError := routingError
      "Active Xray routing configuration could not be published safely."
    let ranRoute := runCommand (applyPlan valueFormat plainTables
      (faultAt (.publishRoute .forward) true routeError) addedPlan) start
    let ranState := runCommand (applyPlan valueFormat plainTables
      (faultAt .writeState true stateNotPublished) addedPlan) start
    buildPlan valueFormat plainTables ⟨[]⟩ start { addDomains := ["example.org"] } =
        .ok addedPlan ∧
      ranRoute.1 = .error (.raised routeError) ∧ ranRoute.2.routing ≠ start.routing ∧
      ranState.1 = .error (.raised stateNotPublished) ∧ ranState.2.state ≠ start.state := by
  decide +kernel

end RouterKit.Routing
