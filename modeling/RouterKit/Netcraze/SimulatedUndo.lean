import RouterKit.Netcraze.Convergence

/-!
Stopping a simulation anywhere. Every action only adds objects of its own, the
rollback stack goes back to the snapshot the run began with, and none of the
states in between touches the default policy; so whatever stops a run, taking
the stack back restores the snapshot.
-/

namespace RouterKit.Netcraze

open RouterKit.Lib RouterKit.Lib.Checked RouterKit.Devices

section Undo

variable {Digest : Type} {foldNonAscii : Char → List Char} {plan : ChangePlan Digest}
  {initialDefault : DefaultPolicyProjection}

/-- Objects that only the simulation can have made. -/
structure SimulationOwned (plan : ChangePlan Digest) (connections : List ExistingProxyConnection)
    (policies : List ExistingPolicy) (assignments : List ExistingDeviceAssignment) : Prop where
  connections : ∀ connection ∈ connections,
    ∃ slot, connection.objectId = simulationConnectionId slot
  policies : ∀ policy ∈ policies, ∃ slot, policy.objectId = simulationPolicyId slot
  assignments : ∀ assignment ∈ assignments,
    plan.selectedDevice.map (·.mac) = some assignment.deviceMac

/-- One state has all objects of another, in their order, and more behind them. -/
def GrownFrom (plan : ChangePlan Digest) (snapshot current : RouterStateSnapshot) : Prop :=
  ∃ connections policies assignments, current = snapshot.grow connections policies assignments ∧
    SimulationOwned plan connections policies assignments

theorem GrownFrom.refl (plan : ChangePlan Digest) (snapshot : RouterStateSnapshot) :
    GrownFrom plan snapshot snapshot :=
  ⟨[], [], [], by simp [RouterStateSnapshot.grow], ⟨by simp, by simp, by simp⟩⟩

theorem GrownFrom.trans {snapshot middle current : RouterStateSnapshot}
    (first : GrownFrom plan snapshot middle) (later : GrownFrom plan middle current) :
    GrownFrom plan snapshot current := by
  obtain ⟨connections, policies, assignments, rfl, howned⟩ := first
  obtain ⟨connections', policies', assignments', rfl, howned'⟩ := later
  refine ⟨connections ++ connections', policies ++ policies', assignments ++ assignments',
    by simp [RouterStateSnapshot.grow], ?_, ?_, ?_⟩
  · exact fun c hc => (List.mem_append.mp hc).elim (howned.connections c) (howned'.connections c)
  · exact fun p hp => (List.mem_append.mp hp).elim (howned.policies p) (howned'.policies p)
  · exact fun a ha => (List.mem_append.mp ha).elim (howned.assignments a) (howned'.assignments a)

/-- An action adds at most one object, of its own. -/
theorem applySimulatedAction_grows {before after : RouterStateSnapshot} {action : PlanAction}
    (h : applySimulatedAction before action plan = .ok after) : GrownFrom plan before after := by
  unfold applySimulatedAction at h
  split at h
  · next profile _ _ =>
    obtain rfl := Except.ok.inj h
    exact ⟨[simulatedConnection action.targetName profile], [], [],
      by simp [RouterStateSnapshot.grow], ⟨by simp [simulatedConnection], by simp, by simp⟩⟩
  · next profile _ _ =>
    simp only [bind_eq_ok, pure_eq_ok] at h
    obtain ⟨connectionRef, -, rfl⟩ := h
    exact ⟨[], [simulatedPolicy action.targetName connectionRef profile], [],
      by simp [RouterStateSnapshot.grow], ⟨by simp, by simp [simulatedPolicy], by simp⟩⟩
  · next device _ hdevice =>
    simp only [bind_eq_ok, pure_eq_ok] at h
    obtain ⟨policyRef, -, rfl⟩ := h
    exact ⟨[], [], [⟨device.mac, policyRef⟩], by simp [RouterStateSnapshot.grow],
      ⟨by simp, by simp, by simp [hdevice]⟩⟩
  · obtain rfl := Except.ok.inj h
    exact .refl plan before

/-- An action without a rollback changes nothing. -/
theorem applySimulatedAction_of_no_rollback {before after : RouterStateSnapshot}
    {action : PlanAction} (h : applySimulatedAction before action plan = .ok after)
    (hrollback : rollbackFor action = none) : after = before := by
  unfold applySimulatedAction at h
  split at h
  · next hoperation _ => simp [rollbackFor, hoperation] at hrollback
  · next hoperation _ => simp [rollbackFor, hoperation] at hrollback
  · next hoperation _ => simp [rollbackFor, hoperation] at hrollback
  · exact (Except.ok.inj h).symm

/-- What every stage of a run keeps: where it came from, the default policy, and
a stack whose oldest entry is the snapshot. -/
structure Undoable (foldNonAscii : Char → List Char) (plan : ChangePlan Digest)
    (initialDefault : DefaultPolicyProjection) (snapshot : RouterStateSnapshot)
    (run : SimulationRun) : Prop where
  grown : GrownFrom plan snapshot run.current
  projection : defaultPolicyProjection foldNonAscii run.current = .ok initialDefault
  oldest : (run.rollbackStack.head?.map (·.2)).getD run.current = snapshot
  stacked : ∀ entry ∈ run.rollbackStack,
    defaultPolicyProjection foldNonAscii entry.2 = .ok initialDefault

theorem actionFailure_projection {action : PlanAction} {current : RouterStateSnapshot}
    (h : actionFailure foldNonAscii plan initialDefault action current = none) :
    defaultPolicyProjection foldNonAscii current = .ok initialDefault := by
  unfold actionFailure at h
  split at h
  · cases h
  · next projection hprojection =>
    split at h
    · cases h
    · next hsame => rw [hprojection, not_not.mp hsame]

/-- What one accepted action does to a run, whether a failure is injected after
it or not. -/
theorem simulateAction_of_steps {run : SimulationRun} {action : PlanAction}
    {after : RouterStateSnapshot}
    (h : Steps foldNonAscii plan initialDefault run.current action after)
    (failAfter : Option ActionId) :
    let stepped := simulateAction foldNonAscii plan initialDefault failAfter run action
    stepped.current = after ∧
      stepped.rollbackStack = pushRollback action run.current after run.rollbackStack := by
  simp only [simulateAction, h.applies, h.accepted]
  split <;> exact ⟨rfl, rfl⟩

theorem Undoable.step {snapshot after : RouterStateSnapshot} {run : SimulationRun}
    {action : PlanAction} (hrun : Undoable foldNonAscii plan initialDefault snapshot run)
    (h : Steps foldNonAscii plan initialDefault run.current action after)
    (failAfter : Option ActionId) :
    Undoable foldNonAscii plan initialDefault snapshot
      (simulateAction foldNonAscii plan initialDefault failAfter run action) := by
  obtain ⟨hcurrent, hstack⟩ := simulateAction_of_steps h failAfter
  have hprojection := actionFailure_projection h.accepted
  refine ⟨?_, hcurrent ▸ hprojection, ?_, ?_⟩
  · rw [hcurrent]
    exact hrun.grown.trans (applySimulatedAction_grows h.applies)
  · -- the stack stays empty only while nothing has changed
    rw [hcurrent, hstack]
    have holdest := hrun.oldest
    unfold pushRollback
    cases hstacked : run.rollbackStack with
    | nil =>
        rw [hstacked] at holdest
        split
        · split
          · exact holdest
          · next hunchanged => exact (not_not.mp hunchanged).trans holdest
        · next hnone =>
          exact (applySimulatedAction_of_no_rollback h.applies hnone).trans holdest
    | cons entry rest =>
        rw [hstacked] at holdest
        split
        · split
          · exact holdest
          · exact holdest
        · exact holdest
  · rw [hstack]
    unfold pushRollback
    intro entry hentry
    split at hentry
    · split at hentry
      · rcases List.mem_append.mp hentry with hold | hnew
        · exact hrun.stacked entry hold
        · rw [List.mem_singleton.mp hnew]
          exact hrun.projection
      · exact hrun.stacked entry hentry
    · exact hrun.stacked entry hentry

/-- Wherever a run without failures of its own is stopped, it can be undone. -/
theorem Undoable.run {snapshot before after : RouterStateSnapshot} {actions : List PlanAction}
    (h : Executes foldNonAscii plan initialDefault before actions after) {run : SimulationRun}
    (hrun : Undoable foldNonAscii plan initialDefault snapshot run)
    (hcurrent : run.current = before) (failAfter : Option ActionId) :
    Undoable foldNonAscii plan initialDefault snapshot
      (simulateActions foldNonAscii plan initialDefault failAfter actions run) := by
  induction h generalizing run with
  | nil state => exact hrun
  | cons first _ ih =>
      subst hcurrent
      have hstepped := hrun.step first failAfter
      have hreached := (simulateAction_of_steps first failAfter).1
      simp only [simulateActions]
      split
      · exact hstepped
      · exact ih hstepped hreached

/-- Taking back snapshots that all show the initial default policy ends in the
last of them. -/
theorem rollBackSnapshots_restores {entries : List (RollbackAction × RouterStateSnapshot)}
    (hentries : ∀ entry ∈ entries,
      defaultPolicyProjection foldNonAscii entry.2 = .ok initialDefault)
    (state : SimulatedRollback) :
    let rolled := rollBackSnapshots foldNonAscii initialDefault false entries state
    rolled.current = (entries.getLast?.map (·.2)).getD state.current ∧
      rolled.succeeded = state.succeeded := by
  induction entries generalizing state with
  | nil => exact ⟨rfl, rfl⟩
  | cons entry rest ih =>
      have hentry := hentries entry List.mem_cons_self
      simp only [rollBackSnapshots, hentry, if_true, Bool.false_eq_true, if_false]
      obtain ⟨hcurrent, hsucceeded⟩ := ih
        (fun other hother => hentries other (List.mem_cons_of_mem _ hother))
        { state with performed := state.performed ++ [entry.1], current := entry.2 }
      refine ⟨hcurrent.trans ?_, hsucceeded⟩
      cases rest with
      | nil => rfl
      | cons next more => simp [List.getLast?_cons]

/-- A failing rollback leaves the state as it is. -/
theorem rollBackSnapshots_failing (entries : List (RollbackAction × RouterStateSnapshot))
    (state : SimulatedRollback) :
    (rollBackSnapshots foldNonAscii initialDefault true entries state).current =
      state.current := by
  cases entries <;> rfl

end Undo

section Simulation

variable {Digest : Type} {foldNonAscii : Char → List Char} {plan : ChangePlan Digest}
  {snapshot : RouterStateSnapshot}

/-- What the caller of a simulation can rely on, however the run ends. -/
structure SimulationSafe (foldNonAscii : Char → List Char) (plan : ChangePlan Digest)
    (snapshot : RouterStateSnapshot) (rollbackFailure : Bool) (result : SimulationResult) :
    Prop where
  grown : GrownFrom plan snapshot result.finalState
  projection : ∃ projection, defaultPolicyProjection foldNonAscii snapshot = .ok projection ∧
    defaultPolicyProjection foldNonAscii result.finalState = .ok projection
  restored : result.success = false → rollbackFailure = false →
    result.finalState = snapshot ∧ result.rollbackSucceeded = true

theorem unchangedSimulation_safe (hcons : snapshot.Consistent foldNonAscii)
    (rollbackFailure : Bool) (category : String) :
    SimulationSafe foldNonAscii plan snapshot rollbackFailure
      (unchangedSimulationFailure snapshot category) :=
  ⟨.refl plan snapshot, ⟨_, hcons.projection, hcons.projection⟩, fun _ _ => ⟨rfl, rfl⟩⟩

variable [DecidableEq Digest] {sha256Json : PlanPayload Digest → Digest}

theorem ReadyPlan.simulateAccepted_safe {manifest : LocalEndpointManifest}
    {selectedDevice : Option SelectedDeviceRef}
    (h : ReadyPlan foldNonAscii sha256Json manifest snapshot selectedDevice plan)
    (failAfter : Option ActionId) (rollbackFailure : Bool) :
    SimulationSafe foldNonAscii plan snapshot rollbackFailure
      (simulateAccepted foldNonAscii sha256Json plan snapshot (projectionOf snapshot) failAfter
        rollbackFailure) := by
  have hinitial := h.consistent.projection
  have hstart : Undoable foldNonAscii plan (projectionOf snapshot) snapshot
      { current := snapshot } :=
    ⟨.refl plan snapshot, hinitial, rfl, by simp⟩
  have hrun := hstart.run h.executes rfl failAfter
  unfold simulateAccepted
  generalize simulateActions foldNonAscii plan (projectionOf snapshot) failAfter plan.actions
    { current := snapshot } = run at hrun
  extract_lets _ failure rolled defaultUnchanged
  -- how the run failed does not matter, only whether it did
  clear_value failure
  cases failure with
  | none =>
      have hunchanged : defaultUnchanged = true := decide_eq_true hrun.projection
      refine ⟨hrun.grown, ⟨_, hinitial, hrun.projection⟩, fun hfailed => ?_⟩
      simp [hunchanged] at hfailed
  | some failure =>
      cases rollbackFailure with
      | true =>
          have hcurrent : rolled.current = run.current := rollBackSnapshots_failing _ _
          exact ⟨hcurrent ▸ hrun.grown, ⟨_, hinitial, hcurrent ▸ hrun.projection⟩, by simp⟩
      | false =>
          obtain ⟨hcurrent, hsucceeded⟩ := rollBackSnapshots_restores
            (fun entry hentry => hrun.stacked entry (List.mem_reverse.mp hentry))
            { current := run.current, errorCategory := failure.2 }
          rw [List.getLast?_reverse, hrun.oldest] at hcurrent
          have hrestored : rolled.current = snapshot := hcurrent
          exact ⟨hrestored ▸ .refl plan _, ⟨_, hinitial, hrestored ▸ hinitial⟩,
            fun _ _ => ⟨hrestored, hsucceeded⟩⟩

/-- Whatever plan is simulated and wherever it is stopped: the objects of the
snapshot stay, in their order, the default policy stays, and a run that fails is
undone completely unless the rollback itself is made to fail. -/
theorem simulation_safe {failAfter : Option ActionId} {rollbackFailure : Bool}
    {result : SimulationResult}
    (h : simulateChangePlan foldNonAscii sha256Json plan snapshot failAfter rollbackFailure =
      .ok result) :
    SimulationSafe foldNonAscii plan snapshot rollbackFailure result := by
  have hsimulated := h
  unfold simulateChangePlan at h
  obtain ⟨consistency, hvalidated, h⟩ := bind_eq_ok.mp h
  have hcons := ((validateSnapshotConsistency_eq_ok foldNonAscii).mp hvalidated).1
  split at h
  · obtain rfl := Except.ok.inj h
    exact unchangedSimulation_safe hcons rollbackFailure _
  · obtain ⟨fingerprint, -, h⟩ := bind_eq_ok.mp h
    obtain ⟨initialDefault, -, h⟩ := bind_eq_ok.mp h
    split at h
    · obtain rfl := Except.ok.inj h
      exact unchangedSimulation_safe hcons rollbackFailure _
    · obtain ⟨expectedPlan, hbuild, h⟩ := bind_eq_ok.mp h
      split at h
      · obtain rfl := Except.ok.inj h
        exact unchangedSimulation_safe hcons rollbackFailure _
      · next hexpected =>
        split at h
        · obtain rfl := Except.ok.inj h
          exact unchangedSimulation_safe hcons rollbackFailure _
        · next hblocked =>
          rw [not_not.mp hexpected] at hbuild
          obtain ⟨normalized, selected, -, -, hready⟩ :=
            buildChangePlan_ready hbuild (by simpa using hblocked)
          rw [hready.simulate failAfter rollbackFailure] at hsimulated
          obtain rfl := Except.ok.inj hsimulated
          exact hready.simulateAccepted_safe failAfter rollbackFailure

/-- A failure injected after the policy is created, and undone. -/
theorem simulation_safe_synthetic :
    ∃ result, simulateChangePlan (fun c => [c]) (fun _ => 0) syntheticPlan syntheticSnapshot
        (some (.policy 1)) false = .ok result ∧
      SimulationSafe (fun c => [c]) syntheticPlan syntheticSnapshot false result := by
  obtain ⟨normalized, selected, -, -, hready⟩ :=
    buildChangePlan_ready syntheticPlan_built syntheticPlan_ready
  have hsimulated := hready.simulate (some (.policy 1)) false
  exact ⟨_, hsimulated, simulation_safe hsimulated⟩

end Simulation

end RouterKit.Netcraze
