import RouterKit.Routing.Apply
import RouterKit.Routing.Planning

/-!
What an apply leaves on disk. It publishes two files, the document and then the
selection, and takes back only the document; so how far it gets is told by which
of the two holds its new content.
-/

namespace RouterKit.Routing

open RouterKit.Lib RouterKit.Lib.Checked RouterKit.Lib.Programs

section Runs

variable {Text α : Type} {installation after : Installation Text}

theorem runCommand_ok {command : ApplyM Text α} {a : α} :
    runCommand command installation = (.ok a, after) ↔ command installation = .ok a after := by
  unfold runCommand
  cases command installation <;> simp

theorem runCommand_error {command : ApplyM Text α} {stop : Stop} :
    runCommand command installation = (.error stop, after) ↔
      command installation = .error stop after := by
  unfold runCommand
  cases command installation <;> simp

theorem runCommand_bind {β : Type} {command : ApplyM Text β} {next : β → ApplyM Text α} {b : β}
    (h : runCommand command installation = (.ok b, after)) :
    runCommand (command >>= next) installation = runCommand (next b) after := by
  have hrun := runCommand_ok.mp h
  have hbind : (command >>= next) installation = next b after := by
    show EStateM.bind command next installation = _
    rw [EStateM.bind, hrun]
  rw [runCommand, hbind, runCommand]

theorem runCommand_bind_stop {β : Type} {command : ApplyM Text β} {next : β → ApplyM Text α}
    {stop : Stop} (h : runCommand command installation = (.error stop, after)) :
    runCommand (command >>= next) installation = (.error stop, after) := by
  have hrun := runCommand_error.mp h
  have hbind : (command >>= next) installation = .error stop after := by
    show EStateM.bind command next installation = _
    rw [EStateM.bind, hrun]
  exact runCommand_error.mpr hbind

theorem runCommand_tryCatch {command : ApplyM Text α} {handler : Stop → ApplyM Text α} {a : α}
    (h : runCommand command installation = (.ok a, after)) :
    runCommand (tryCatchThe Stop command handler) installation = (.ok a, after) := by
  have hrun := runCommand_ok.mp h
  have hcaught : (tryCatchThe Stop command handler) installation = .ok a after := by
    show EStateM.tryCatch command handler installation = _
    rw [EStateM.tryCatch, hrun]
  exact runCommand_ok.mpr hcaught

theorem runCommand_tryCatch_stop {command : ApplyM Text α} {handler : Stop → ApplyM Text α}
    {stop : Stop} (h : runCommand command installation = (.error stop, after)) :
    runCommand (tryCatchThe Stop command handler) installation =
      runCommand (handler stop) after := by
  have hrun := runCommand_error.mp h
  have hcaught : (tryCatchThe Stop command handler) installation = handler stop after := by
    show EStateM.tryCatch command handler installation = _
    rw [EStateM.tryCatch, hrun]
    rfl
  rw [runCommand, hcaught, runCommand]

end Runs

section Activation

variable {Text : Type} {steps : ApplyStep → StepOutcome}

/-- The outcome of steps in a row: that of the first one that does not return. -/
def firstStop (steps : ApplyStep → StepOutcome) : List ApplyStep → StepOutcome
  | [] => .done
  | step :: rest => if steps step = .done then firstStop steps rest else steps step

/-- The steps that bring a published document into effect. -/
def activation (phase : Phase) (ports : List Int) : List ApplyStep :=
  .testActive phase :: .restart phase :: .verify phase :: ports.map (.probe phase)

theorem firstStop_singleton (step : ApplyStep) : firstStop steps [step] = steps step := by
  rw [firstStop]
  split
  · next hdone => rw [hdone, firstStop]
  · rfl

private theorem checkStep_bind (step : ApplyStep) (rest : List ApplyStep) :
    (do checkStep (steps step); checkStep (firstStop steps rest) : ApplyM Text Unit) =
      checkStep (firstStop steps (step :: rest)) := by
  funext installation
  rw [firstStop]
  cases houtcome : steps step <;> rfl

private theorem probeAll_eq (phase : Phase) (ports : List Int) :
    (probeAll steps phase ports : ApplyM Text Unit) =
      checkStep (firstStop steps (ports.map (.probe phase))) := by
  induction ports with
  | nil => rfl
  | cons port rest ih =>
      rw [List.map_cons, ← checkStep_bind, probeAll, ih]

theorem activate_eq (phase : Phase) (ports : List Int) :
    (activate steps phase ports : ApplyM Text Unit) =
      checkStep (firstStop steps (activation phase ports)) := by
  rw [activation, ← checkStep_bind, ← checkStep_bind, ← checkStep_bind, activate, probeAll_eq]

theorem firstStop_done {row : List ApplyStep} (h : ∀ step ∈ row, steps step = .done) :
    firstStop steps row = .done := by
  induction row with
  | nil => rfl
  | cons step rest ih =>
      rw [firstStop, if_pos (h step List.mem_cons_self)]
      exact ih (fun other hmem => h other (List.mem_cons_of_mem _ hmem))

end Activation

/-- Whether the document and the selection hold what the apply writes. -/
structure Leaves where
  route : Bool
  state : Bool
deriving DecidableEq, Repr

/-- Whether a step has its effect. -/
def StepOutcome.takes : StepOutcome → Bool
  | .done => true
  | .fails tookEffect _ => tookEffect
  | .killed tookEffect => tookEffect

section Leaves

variable {Text : Type} (format : JsonFormat Text) (tables : TextTables)
  (steps : ApplyStep → StepOutcome)

/-- The outcome of publishing a document, its size regarded. -/
def routeOutcome (phase : Phase) (content : Text) : StepOutcome :=
  if maxConfigBytes < format.size content then .fails false configTooLarge
  else steps (.publishRoute phase)

/-- The outcome of writing a selection, the file it replaces regarded. -/
def stateOutcome (file : FileState Text) (desired : RoutingOverrides) : StepOutcome :=
  if stateWritable format tables file desired then steps .writeState
  else .fails false stateNotPublished

/-- The document an apply would take back to, when it can read both files. -/
def readableRoute (installation : Installation Text) : Option Text :=
  match installation.routing, installation.state with
  | .text content, .absent => some content
  | .text content, .text _ => some content
  | _, _ => none

/-- Whether the way back reaches the document. -/
def undone (previousRoute : Text) : Bool :=
  (routeOutcome format steps .backward previousRoute).takes

/-- How far an apply with a new document gets, its preparations done. -/
def publishes (installation : Installation Text) (previousRoute : Text) (planned : PlannedRouting) :
    Leaves :=
  match routeOutcome format steps .forward (format.dumps planned.updated) with
  | .fails tookEffect _ => ⟨tookEffect, false⟩
  | .killed tookEffect => ⟨tookEffect, false⟩
  | .done =>
      match firstStop steps (activation .forward planned.ports) with
      | .fails _ _ => ⟨! undone format steps previousRoute, false⟩
      | .killed _ => ⟨true, false⟩
      | .done =>
          if planned.plan.stateChangeRequired then
            match stateOutcome format tables steps installation.state planned.plan.desired with
            | .fails tookEffect _ => ⟨! undone format steps previousRoute, tookEffect⟩
            | .killed tookEffect => ⟨true, tookEffect⟩
            | .done => ⟨true, true⟩
          else ⟨true, false⟩

def applyLeaves (installation : Installation Text) (planned : PlannedRouting) : Leaves :=
  match readableRoute installation with
  | none => ⟨false, false⟩
  | some previousRoute =>
      if firstStop steps [.readRoute, .readState] ≠ .done then ⟨false, false⟩
      else if planned.plan.routingChangeRequired then
        if firstStop steps [.backup, .stage] ≠ .done then ⟨false, false⟩
        else publishes format tables steps installation previousRoute planned
      else
        ⟨false, planned.plan.stateChangeRequired &&
          (stateOutcome format tables steps installation.state planned.plan.desired).takes⟩

/-- An installation with new contents where the label says so. -/
def Installation.leave (installation : Installation Text) (planned : PlannedRouting)
    (leaves : Leaves) : Installation Text :=
  { installation with
    routing := if leaves.route then .text (format.dumps planned.updated) else installation.routing
    state := if leaves.state then .text (format.dumps planned.plan.desired.toDict)
      else installation.state }

end Leaves

section Leaving

variable {Text : Type} {format : JsonFormat Text} {tables : TextTables}
  {steps : ApplyStep → StepOutcome}

theorem publishRoute_eq (phase : Phase) (content : Text) :
    publishRoute format steps phase content =
      ioStep (routeOutcome format steps phase content) (·.withRouting content) := by
  unfold publishRoute routeOutcome
  split <;> rfl

theorem writeOverrides_run (desired : RoutingOverrides) (installation : Installation Text) :
    runCommand (writeOverrides format tables steps desired) installation =
      runCommand (ioStep (stateOutcome format tables steps installation.state desired)
        (·.withState (format.dumps desired.toDict))) installation := by
  have hbody : runCommand (writeOverrides format tables steps desired) installation =
      runCommand (if stateWritable format tables installation.state desired then
          ioStep (steps .writeState) (·.withState (format.dumps desired.toDict))
        else raise stateNotPublished) installation := rfl
  rw [hbody]
  unfold stateOutcome
  split <;> rfl

private theorem checkStep_fails (tookEffect : Bool) (error : RoutingError) :
    (checkStep (.fails tookEffect error) : ApplyM Text Unit) = raise error := by
  funext installation
  cases tookEffect <;> rfl

private theorem checkStep_killed (tookEffect : Bool) :
    (checkStep (.killed tookEffect) : ApplyM Text Unit) = throw .killed := by
  funext installation
  cases tookEffect <;> rfl

theorem checkStep_stops {outcome : StepOutcome} (h : outcome ≠ .done)
    (installation : Installation Text) :
    ∃ stop, runCommand (checkStep outcome) installation = (.error stop, installation) := by
  cases outcome with
  | done => exact absurd rfl h
  | fails tookEffect error => exact ⟨_, by rw [checkStep_fails]; rfl⟩
  | killed tookEffect => exact ⟨_, by rw [checkStep_killed]; rfl⟩

/-- The way back leaves the old document, or what it found. It returns only with
the old document in effect, and reports any failure as one error. -/
theorem rollBack_run (previousRoute : Text) (ports : List Int) (installation : Installation Text) :
    (runCommand (rollBack format steps previousRoute ports) installation).2 =
        (if undone format steps previousRoute then installation.withRouting previousRoute
          else installation) ∧
      ∀ ending, (runCommand (rollBack format steps previousRoute ports) installation).1 = ending →
        (ending = .ok () ∧ undone format steps previousRoute = true) ∨
          ending = .error (.raised rollbackNotProven) ∨ ending = .error .killed := by
  unfold rollBack undone
  rw [activate_eq, publishRoute_eq]
  cases houtcome : routeOutcome format steps .backward previousRoute with
  | done =>
      cases hactive : firstStop steps (activation .backward ports) with
      | done => exact ⟨rfl, fun _ h => .inl ⟨h.symm, rfl⟩⟩
      | fails tookEffect error =>
          rw [checkStep_fails]
          exact ⟨rfl, fun _ h => .inr (.inl h.symm)⟩
      | killed tookEffect =>
          rw [checkStep_killed]
          exact ⟨rfl, fun _ h => .inr (.inr h.symm)⟩
  | fails tookEffect error => exact ⟨rfl, fun _ h => .inr (.inl h.symm)⟩
  | killed tookEffect => exact ⟨rfl, fun _ h => .inr (.inr h.symm)⟩

/-- How an apply may end that leaves what the label says: it returns with all it
wants published; it raises with the old document in place unless the publication
itself failed, and with the old selection unless its writing failed; or it gives
no such promise. -/
def Ends {α : Type} (format : JsonFormat Text) (tables : TextTables)
    (steps : ApplyStep → StepOutcome) (installation : Installation Text) (planned : PlannedRouting)
    (leaves : Leaves) : Except Stop α → Prop
  | .ok _ => leaves = ⟨planned.plan.routingChangeRequired, planned.plan.stateChangeRequired⟩
  | .error (.raised error) =>
      error = rollbackNotProven ∨
        ((leaves.route = true → routeOutcome format steps .forward (format.dumps planned.updated) =
            .fails true error) ∧
          (leaves.state = true → stateOutcome format tables steps installation.state
            planned.plan.desired = .fails true error))
  | .error .killed => True

/-- What a failure behind the publication is answered with. -/
private def onFailure (format : JsonFormat Text) (steps : ApplyStep → StepOutcome)
    (planned : PlannedRouting) (previousRoute : Text) : Stop → ApplyM Text Unit
  | .raised error => do
      rollBack format steps previousRoute planned.ports
      raise error
  | .killed => throw .killed

/-- A failure behind the publication: the way back, then the same error. -/
private theorem handled_run {planned : PlannedRouting} {installation between : Installation Text}
    {previousRoute : Text} {tookState : Bool} (error : RoutingError)
    (hroute : installation.routing = .text previousRoute)
    (hbetween : between = installation.leave format planned ⟨true, tookState⟩)
    (hstate : tookState = true → stateOutcome format tables steps installation.state
      planned.plan.desired = .fails true error) :
    let ran := runCommand (onFailure format steps planned previousRoute (.raised error)) between
    let leaves := Leaves.mk (! undone format steps previousRoute) tookState
    ran.2 = installation.leave format planned leaves ∧
      Ends format tables steps installation planned leaves ran.1 := by
  intro ran leaves
  obtain ⟨hafter, hends⟩ := @rollBack_run Text format steps previousRoute
    planned.ports between
  have hback : (runCommand (rollBack format steps previousRoute planned.ports) between).2 =
      installation.leave format planned leaves := by
    rw [hafter, hbetween]
    cases hundone : undone format steps previousRoute with
    | true => simp [leaves, hundone, Installation.leave, Installation.withRouting, hroute]
    | false => simp [leaves, hundone]
  cases hrun : runCommand (rollBack format steps previousRoute planned.ports) between with
  | mk ending after =>
      rw [hrun] at hback hends
      obtain rfl : after = installation.leave format planned leaves := hback
      cases ending with
      | ok u =>
          have hraised : ran = (.error (.raised error), installation.leave format planned leaves) :=
            (runCommand_bind hrun).trans rfl
          have hundone : undone format steps previousRoute = true := by
            rcases hends _ rfl with ⟨-, hundone⟩ | h | h
            · exact hundone
            · cases h
            · cases h
          rw [hraised]
          refine ⟨rfl, .inr ⟨?_, hstate⟩⟩
          intro hleft
          simp [leaves, hundone] at hleft
      | error stop =>
          have hstopped : ran = (.error stop, installation.leave format planned leaves) :=
            runCommand_bind_stop hrun
          rw [hstopped]
          refine ⟨rfl, ?_⟩
          rcases hends _ rfl with ⟨h, -⟩ | h | h
          · cases h
          · obtain rfl := Except.error.inj h
            exact .inl rfl
          · obtain rfl := Except.error.inj h
            exact trivial

private theorem finish_run {planned : PlannedRouting} {installation : Installation Text}
    {previousRoute : Text} (hroute : installation.routing = .text previousRoute)
    (hchange : planned.plan.routingChangeRequired = true)
    (hpublish : routeOutcome format steps .forward (format.dumps planned.updated) = .done) :
    let ran := runCommand (tryCatchThe Stop (finishUpdate format tables steps planned)
      (onFailure format steps planned previousRoute))
      (installation.leave format planned ⟨true, false⟩)
    let leaves := publishes format tables steps installation previousRoute planned
    ran.2 = installation.leave format planned leaves ∧
      Ends format tables steps installation planned leaves ran.1 := by
  intro ran leaves
  have hfinish : finishUpdate format tables steps planned = (do
      checkStep (firstStop steps (activation .forward planned.ports))
      if planned.plan.stateChangeRequired then
        writeOverrides format tables steps planned.plan.desired : ApplyM Text Unit) := by
    rw [finishUpdate, activate_eq]
  cases hactive : firstStop steps (activation .forward planned.ports) with
  | fails tookEffect error =>
      have hstopped : runCommand (finishUpdate format tables steps planned)
          (installation.leave format planned ⟨true, false⟩) =
            (.error (.raised error), installation.leave format planned ⟨true, false⟩) := by
        rw [hfinish, hactive, checkStep_fails]
        rfl
      have hleaves : leaves = ⟨! undone format steps previousRoute, false⟩ := by
        simp only [leaves, publishes, hpublish, hactive]
      simp only [ran, hleaves, runCommand_tryCatch_stop hstopped]
      exact handled_run error hroute rfl (by intro h; cases h)
  | killed tookEffect =>
      have hstopped : runCommand (finishUpdate format tables steps planned)
          (installation.leave format planned ⟨true, false⟩) =
            (.error .killed, installation.leave format planned ⟨true, false⟩) := by
        rw [hfinish, hactive, checkStep_killed]
        rfl
      have hleaves : leaves = ⟨true, false⟩ := by
        simp only [leaves, publishes, hpublish, hactive]
      simp only [ran, hleaves, runCommand_tryCatch_stop hstopped]
      exact ⟨rfl, trivial⟩
  | done =>
      rw [hactive] at hfinish
      cases hchanged : planned.plan.stateChangeRequired with
      | false =>
          have hreturned : runCommand (finishUpdate format tables steps planned)
              (installation.leave format planned ⟨true, false⟩) =
                (.ok (), installation.leave format planned ⟨true, false⟩) := by
            rw [hfinish, hchanged]
            rfl
          have hleaves : leaves = ⟨true, false⟩ := by
            simp [leaves, publishes, hpublish, hactive, hchanged]
          simp only [ran, hleaves, runCommand_tryCatch hreturned]
          exact ⟨trivial, by simp [Ends, hchange, hchanged]⟩
      | true =>
          have hwrite : runCommand (finishUpdate format tables steps planned)
              (installation.leave format planned ⟨true, false⟩) =
                runCommand (ioStep (stateOutcome format tables steps installation.state
                  planned.plan.desired) (·.withState (format.dumps planned.plan.desired.toDict)))
                  (installation.leave format planned ⟨true, false⟩) := by
            rw [hfinish, hchanged, if_pos rfl]
            exact (runCommand_bind rfl).trans (writeOverrides_run _ _)
          cases hstate : stateOutcome format tables steps installation.state
              planned.plan.desired with
          | done =>
              have hreturned : runCommand (finishUpdate format tables steps planned)
                  (installation.leave format planned ⟨true, false⟩) =
                    (.ok (), installation.leave format planned ⟨true, true⟩) := by
                rw [hwrite, hstate]
                rfl
              have hleaves : leaves = ⟨true, true⟩ := by
                simp [leaves, publishes, hpublish, hactive, hchanged, hstate]
              simp only [ran, hleaves, runCommand_tryCatch hreturned]
              exact ⟨trivial, by simp [Ends, hchange, hchanged]⟩
          | fails tookEffect error =>
              have hstopped : runCommand (finishUpdate format tables steps planned)
                  (installation.leave format planned ⟨true, false⟩) =
                    (.error (.raised error),
                      installation.leave format planned ⟨true, tookEffect⟩) := by
                rw [hwrite, hstate]
                cases tookEffect <;> rfl
              have hleaves : leaves = ⟨! undone format steps previousRoute, tookEffect⟩ := by
                simp [leaves, publishes, hpublish, hactive, hchanged, hstate]
              simp only [ran, hleaves, runCommand_tryCatch_stop hstopped]
              refine handled_run error hroute rfl ?_
              rintro rfl
              exact hstate
          | killed tookEffect =>
              have hstopped : runCommand (finishUpdate format tables steps planned)
                  (installation.leave format planned ⟨true, false⟩) =
                    (.error .killed, installation.leave format planned ⟨true, tookEffect⟩) := by
                rw [hwrite, hstate]
                cases tookEffect <;> rfl
              have hleaves : leaves = ⟨true, tookEffect⟩ := by
                simp [leaves, publishes, hpublish, hactive, hchanged, hstate]
              simp only [ran, hleaves, runCommand_tryCatch_stop hstopped]
              exact ⟨rfl, trivial⟩

/-- What follows the preparations of an apply with a new document. -/
private def update (format : JsonFormat Text) (tables : TextTables)
    (steps : ApplyStep → StepOutcome)
    (planned : PlannedRouting) (previousRoute : Text) : ApplyM Text Unit := do
  publishRoute format steps .forward (format.dumps planned.updated)
  tryCatchThe Stop (finishUpdate format tables steps planned)
    (onFailure format steps planned previousRoute)

private theorem update_run {planned : PlannedRouting} {installation : Installation Text}
    {previousRoute : Text} (hroute : installation.routing = .text previousRoute)
    (hchange : planned.plan.routingChangeRequired = true) :
    let ran := runCommand (update format tables steps planned previousRoute) installation
    let leaves := publishes format tables steps installation previousRoute planned
    ran.2 = installation.leave format planned leaves ∧
      Ends format tables steps installation planned leaves ran.1 := by
  intro ran leaves
  cases hpublish : routeOutcome format steps .forward (format.dumps planned.updated) with
  | fails tookEffect error =>
      have hran : ran = (.error (.raised error),
          installation.leave format planned ⟨tookEffect, false⟩) := by
        refine runCommand_bind_stop ?_
        rw [publishRoute_eq, hpublish]
        cases tookEffect <;> rfl
      have hleaves : leaves = ⟨tookEffect, false⟩ := by
        simp only [leaves, publishes, hpublish]
      rw [hran, hleaves]
      refine ⟨rfl, .inr ⟨?_, ?_⟩⟩
      · rintro rfl
        exact hpublish
      · intro hstate
        cases hstate
  | killed tookEffect =>
      have hran : ran = (.error .killed,
          installation.leave format planned ⟨tookEffect, false⟩) := by
        refine runCommand_bind_stop ?_
        rw [publishRoute_eq, hpublish]
        cases tookEffect <;> rfl
      have hleaves : leaves = ⟨tookEffect, false⟩ := by
        simp only [leaves, publishes, hpublish]
      rw [hran, hleaves]
      exact ⟨rfl, trivial⟩
  | done =>
      have hforward : runCommand (publishRoute format steps .forward
          (format.dumps planned.updated)) installation =
            (.ok (), installation.leave format planned ⟨true, false⟩) := by
        rw [publishRoute_eq, hpublish]
        rfl
      have hran : ran = runCommand (tryCatchThe Stop (finishUpdate format tables steps planned)
          (onFailure format steps planned previousRoute))
          (installation.leave format planned ⟨true, false⟩) := runCommand_bind hforward
      rw [hran]
      exact finish_run hroute hchange hpublish

private theorem reads_run {α : Type} (next : Text → ApplyM Text α)
    (installation : Installation Text) :
    let ran := runCommand (do
      let previousRoute ← readRoute steps
      readState steps
      next previousRoute) installation
    (∃ previousRoute, readableRoute installation = some previousRoute ∧
        firstStop steps [.readRoute, .readState] = .done ∧
        ran = runCommand (next previousRoute) installation) ∨
      ((readableRoute installation = none ∨ firstStop steps [.readRoute, .readState] ≠ .done) ∧
        ∃ stop, ran = (.error stop, installation)) := by
  intro ran
  obtain ⟨inbounds, outbounds, routing, state⟩ := installation
  by_cases hroute : steps .readRoute = .done
  · cases routing with
    | absent => exact .inr ⟨.inl rfl, _, by simp only [ran, readRoute, hroute]; rfl⟩
    | refused reason => exact .inr ⟨.inl rfl, _, by simp only [ran, readRoute, hroute]; rfl⟩
    | text content =>
        by_cases hstate : steps .readState = .done
        · have hdone : firstStop steps [.readRoute, .readState] = .done := by
            simp [firstStop, hroute, hstate]
          cases state with
          | refused reason =>
              exact .inr ⟨.inl rfl, _, by
                  simp only [ran, readRoute, readState, hroute, hstate]; rfl⟩
          | absent =>
              exact .inl ⟨content, rfl, hdone, by
                simp only [ran, readRoute, readState, hroute, hstate]; rfl⟩
          | text selection =>
              exact .inl ⟨content, rfl, hdone, by
                simp only [ran, readRoute, readState, hroute, hstate]; rfl⟩
        · obtain ⟨stop, hstop⟩ := checkStep_stops hstate ⟨inbounds, outbounds, .text content, state⟩
          refine .inr ⟨.inr (by simp [firstStop, hroute, hstate]), stop, ?_⟩
          have hread : runCommand (readRoute steps) ⟨inbounds, outbounds, .text content, state⟩ =
              (.ok content, ⟨inbounds, outbounds, .text content, state⟩) := by
            simp only [readRoute, hroute]
            rfl
          exact (runCommand_bind hread).trans
            (runCommand_bind_stop (runCommand_bind_stop hstop))
  · obtain ⟨stop, hstop⟩ := checkStep_stops hroute ⟨inbounds, outbounds, routing, state⟩
    refine .inr ⟨.inr (by simp [firstStop, hroute]), stop, ?_⟩
    exact runCommand_bind_stop (runCommand_bind_stop hstop)

/-- What follows the reads of an apply. -/
private def write (format : JsonFormat Text) (tables : TextTables) (steps : ApplyStep → StepOutcome)
    (planned : PlannedRouting) (previousRoute : Text) : ApplyM Text Bool :=
  if planned.plan.routingChangeRequired then do
    checkStep (firstStop steps [.backup, .stage])
    update format tables steps planned previousRoute
    pure true
  else do
    if planned.plan.stateChangeRequired then
      writeOverrides format tables steps planned.plan.desired
    pure false

private theorem applyPlan_eq (planned : PlannedRouting) :
    applyPlan format tables steps planned = (do
      let previousRoute ← readRoute steps
      readState steps
      write format tables steps planned previousRoute) := by
  have hpreparations : (do checkStep (steps .backup); checkStep (steps .stage) : ApplyM Text Unit) =
      checkStep (firstStop steps [.backup, .stage]) := by
    rw [← checkStep_bind, firstStop_singleton]
  have hwrite : ∀ previousRoute, write format tables steps planned previousRoute =
      (if planned.plan.routingChangeRequired then (do
        checkStep (steps .backup)
        checkStep (steps .stage)
        publishRoute format steps .forward (format.dumps planned.updated)
        tryCatchThe Stop (finishUpdate format tables steps planned)
          (onFailure format steps planned previousRoute)
        pure true)
      else (do
        if planned.plan.stateChangeRequired then
          writeOverrides format tables steps planned.plan.desired
        pure false)) := by
    intro previousRoute
    simp only [write, ← hpreparations, update, bind_assoc]
  simp only [hwrite]
  rfl

private theorem ends_of_stop {α : Type} {planned : PlannedRouting}
    {installation : Installation Text} (stop : Stop) :
    Ends format tables steps installation planned ⟨false, false⟩
      (.error stop : Except Stop α) := by
  cases stop with
  | killed => trivial
  | raised error => exact .inr ⟨by simp, by simp⟩

private theorem write_run {planned : PlannedRouting} {installation : Installation Text}
    {previousRoute : Text} (hread : readableRoute installation = some previousRoute)
    (hdone : firstStop steps [.readRoute, .readState] = .done) :
    let ran := runCommand (write format tables steps planned previousRoute) installation
    let leaves := applyLeaves format tables steps installation planned
    ran.2 = installation.leave format planned leaves ∧
      Ends format tables steps installation planned leaves ran.1 := by
  intro ran leaves
  have hroute : installation.routing = .text previousRoute := by
    unfold readableRoute at hread
    split at hread <;> simp_all
  cases hchange : planned.plan.routingChangeRequired with
  | true =>
      by_cases hprepared : firstStop steps [.backup, .stage] = .done
      · have hleaves : leaves = publishes format tables steps installation
          previousRoute planned := by
          simp [leaves, applyLeaves, hread, hdone, hchange, hprepared]
        have hbody : ran = runCommand (do
            update format tables steps planned previousRoute
            pure true) installation := by
          simp only [ran, write, hchange, if_true, hprepared]
          exact runCommand_bind rfl
        obtain ⟨hafter, hends⟩ := @update_run Text format tables steps planned installation
          previousRoute hroute hchange
        cases hrun : runCommand (update format tables steps planned previousRoute) installation with
        | mk ending after =>
            rw [hrun] at hafter hends
            cases ending with
            | ok u =>
                rw [hbody, hleaves, runCommand_bind hrun]
                exact ⟨hafter, hends⟩
            | error stop =>
                rw [hbody, hleaves, runCommand_bind_stop hrun]
                refine ⟨hafter, ?_⟩
                cases stop with
                | raised error => exact hends
                | killed => trivial
      · obtain ⟨stop, hstop⟩ := checkStep_stops hprepared installation
        have hleaves : leaves = ⟨false, false⟩ := by
          simp [leaves, applyLeaves, hread, hdone, hchange, hprepared]
        have hran : ran = (.error stop, installation) := by
          simp only [ran, write, hchange, if_true]
          exact runCommand_bind_stop hstop
        rw [hran, hleaves]
        exact ⟨rfl, ends_of_stop stop⟩
  | false =>
      cases hstate : planned.plan.stateChangeRequired with
      | false =>
          have hleaves : leaves = ⟨false, false⟩ := by
            simp [leaves, applyLeaves, hread, hdone, hchange, hstate]
          have hran : ran = (.ok false, installation) := by
            simp only [ran, write, hchange, hstate]
            rfl
          rw [hran, hleaves]
          exact ⟨rfl, by simp [Ends, hchange, hstate]⟩
      | true =>
          have hleaves : leaves = ⟨false, (stateOutcome format tables steps installation.state
              planned.plan.desired).takes⟩ := by
            simp [leaves, applyLeaves, hread, hdone, hchange, hstate]
          have hbody : ran = runCommand (do
              writeOverrides format tables steps planned.plan.desired
              pure false) installation := by
            simp only [ran, write, hchange, hstate, if_true, Bool.false_eq_true, if_false]
          have hwrite := @writeOverrides_run Text format tables steps
            planned.plan.desired installation
          rw [hleaves, hbody]
          cases houtcome : stateOutcome format tables steps installation.state
              planned.plan.desired with
          | done =>
              rw [houtcome] at hwrite
              rw [runCommand_bind (hwrite.trans rfl)]
              have hboth : Leaves.mk false true =
                  ⟨planned.plan.routingChangeRequired, planned.plan.stateChangeRequired⟩ := by
                rw [hchange, hstate]
              exact ⟨rfl, hboth⟩
          | fails tookEffect error =>
              rw [houtcome] at hwrite
              rw [runCommand_bind_stop (hwrite.trans rfl)]
              refine ⟨by cases tookEffect <;> rfl, .inr ⟨by simp, ?_⟩⟩
              rintro rfl
              exact houtcome
          | killed tookEffect =>
              rw [houtcome] at hwrite
              rw [runCommand_bind_stop (hwrite.trans rfl)]
              exact ⟨by cases tookEffect <;> rfl, trivial⟩

/-- An apply leaves what its label says, and ends as the label allows. -/
theorem applyPlan_run (installation : Installation Text) (planned : PlannedRouting) :
    let ran := runCommand (applyPlan format tables steps planned) installation
    let leaves := applyLeaves format tables steps installation planned
    ran.2 = installation.leave format planned leaves ∧
      Ends format tables steps installation planned leaves ran.1 := by
  intro ran leaves
  have hran : ran = runCommand (do
      let previousRoute ← readRoute steps
      readState steps
      write format tables steps planned previousRoute) installation := by
    simp only [ran, applyPlan_eq]
  rcases @reads_run Text steps Bool (write format tables steps planned) installation with
    ⟨previousRoute, hread, hdone, hnext⟩ | ⟨hnone, stop, hstop⟩
  · rw [hran, hnext]
    exact write_run hread hdone
  · have hleaves : leaves = ⟨false, false⟩ := by
      simp only [leaves, applyLeaves]
      rcases hnone with hnone | hnotDone
      · rw [hnone]
      · cases readableRoute installation with
        | none => rfl
        | some content => exact if_pos hnotDone
    rw [hran, hstop, hleaves]
    exact ⟨rfl, ends_of_stop stop⟩

/-- The command applies the plan of the files it finds. -/
theorem applyCommand_run (repo : Repository) (request : Mutations)
    (installation : Installation Text) :
    let ran := runCommand (applyCommand format tables repo steps request) installation
    (ran.2 = installation ∧ ∃ error, ran.1 = .error (.raised error)) ∨
      ∃ planned, buildPlan format tables repo installation request = .ok planned ∧
        ran = runCommand (applyPlan format tables steps planned) installation := by
  intro ran
  have hget : runCommand (get : ApplyM Text (Installation Text)) installation =
      (.ok installation, installation) := rfl
  have hran : ran = runCommand (applyCommand format tables repo steps request) installation := rfl
  rw [applyCommand, runCommand_bind hget] at hran
  cases hplan : buildPlan format tables repo installation request with
  | error error =>
      rw [hplan] at hran
      rw [hran]
      exact .inl ⟨rfl, error, rfl⟩
  | ok planned =>
      rw [hplan] at hran
      exact .inr ⟨planned, rfl, hran⟩

/-- What is read of an installation that an apply has left. -/
theorem PlanReading.leaves {repo : Repository} {request : Mutations}
    {installation : Installation Text}
    {planned : PlannedRouting}
    (reading : PlanReading format tables repo installation request planned) (leaves : Leaves) :
    ∃ documents, loadActiveDocuments format (installation.leave format planned leaves) =
        .ok documents ∧
      documents.inbounds = reading.documents.inbounds ∧
      documents.outbounds = reading.documents.outbounds ∧
      routingRules documents.routing = .ok (if leaves.route then
        (reading.managed ++ reading.rest).map Json.canonical else reading.rules) := by
  obtain ⟨hinbounds, houtbounds, hrouting⟩ := loadActiveDocuments_eq_ok.mp reading.loaded
  cases hroute : leaves.route with
  | true =>
      refine ⟨{ reading.documents with routing := planned.updated.canonical }, ?_, rfl, rfl, ?_⟩
      · refine loadActiveDocuments_eq_ok.mpr ⟨hinbounds, houtbounds, ?_⟩
        simp only [Installation.leave, hroute, if_true]
        exact readJsonPrivate_dumps _ _
      · rw [reading.updated]
        exact routingRules_canonical (routingRules_withRules reading.listed _)
  | false =>
      refine ⟨reading.documents, ?_, rfl, rfl, reading.listed⟩
      refine loadActiveDocuments_eq_ok.mpr ⟨hinbounds, houtbounds, ?_⟩
      simpa [Installation.leave, hroute] using hrouting

end Leaving

end RouterKit.Routing
