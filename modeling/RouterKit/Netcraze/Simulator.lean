import RouterKit.Netcraze.ChangePlan

/-!
The simulation of a change plan on its snapshot. Each action is applied, then
the whole snapshot is checked again, the default policy compared with the
initial one, and the action's own effect verified; a finished run is planned
again. A run that stops takes its snapshots back from the rollback stack.
-/

namespace RouterKit.Netcraze

open RouterKit.Lib RouterKit.Lib.Checked RouterKit.Devices

def simulationSchema : String := "routerkit.netcraze.simulation.v1"

structure SimulationResult where
  success : Bool
  stoppedAfter : Option ActionId
  completedActions : List ActionId
  rollbackActions : List RollbackAction
  rollbackSucceeded : Bool
  restoredInitialState : Bool
  defaultPolicyUnchanged : Bool
  unrelatedObjectsUnchanged : Bool
  finalState : RouterStateSnapshot
  errorCategory : Option String := none
  schema : String := simulationSchema
deriving DecidableEq, Repr

/-- `_resolve_simulation_reference`; of the object found only its id is used. -/
def resolveSimulationReference (snapshot : RouterStateSnapshot) (reference : ObjectReference) :
    Except NetcrazePlanError String :=
  let found : Option String :=
    match reference.kind with
    | .existingConnection =>
        reference.value.bind (fun id => (connectionById snapshot id).map (·.objectId))
    | .plannedConnection =>
        (connectionById snapshot (simulationConnectionId (reference.profileSlot.getD 0))).map
          (·.objectId)
    | .existingPolicy =>
        reference.value.bind (fun id => (policyById snapshot id).map (·.objectId))
    | .plannedPolicy =>
        (policyById snapshot (simulationPolicyId (reference.profileSlot.getD 0))).map (·.objectId)
  match found with
  | some objectId => .ok objectId
  | none => .error (netcrazePlanError "Synthetic simulation dependency could not be resolved.")

def simulatedConnection (targetName : String) (profile : LocalProxyProfile) :
    ExistingProxyConnection where
  objectId := simulationConnectionId profile.slot
  name := targetName
  protocol := profile.protocol
  host := profile.host
  port := profile.port
  authMode := profile.authMode
  enabled := profile.enabled

def simulatedPolicy (targetName connectionRef : String) (profile : LocalProxyProfile) :
    ExistingPolicy where
  objectId := simulationPolicyId profile.slot
  name := targetName
  connectionRef
  mode := "proxy_only"

/-- The object id behind an action's only dependency. -/
def resolveDependency (snapshot : RouterStateSnapshot) (action : PlanAction) (failure : String) :
    Except NetcrazePlanError String :=
  match action.dependencies with
  | [reference] => resolveSimulationReference snapshot reference
  | _ => .error (netcrazePlanError failure)

section Actions

variable {Digest : Type} (foldNonAscii : Char → List Char)

/-- `profiles.get(action.profile_slot)`. -/
def profileOf (plan : ChangePlan Digest) (action : PlanAction) : Option LocalProxyProfile :=
  action.profileSlot.bind (fun slot => Keyed.lookup (·.slot) slot plan.desiredProfiles)

def applySimulatedAction (snapshot : RouterStateSnapshot) (action : PlanAction)
    (plan : ChangePlan Digest) : Except NetcrazePlanError RouterStateSnapshot :=
  match action.operation, profileOf plan action, plan.selectedDevice with
  | .createConnection, some profile, _ =>
      .ok { snapshot with
        connections := snapshot.connections ++ [simulatedConnection action.targetName profile] }
  | .createPolicy, some profile, _ => do
      let connectionRef ←
        resolveDependency snapshot action "Synthetic policy dependency is invalid."
      pure { snapshot with
        policies := snapshot.policies ++
          [simulatedPolicy action.targetName connectionRef profile] }
  | .assignDevice, _, some device => do
      let policyRef ←
        resolveDependency snapshot action "Synthetic assignment dependency is invalid."
      pure { snapshot with
        assignments := snapshot.assignments ++ [⟨device.mac, policyRef⟩] }
  | _, _, _ => .ok snapshot

def verifyConnectionAction (snapshot : RouterStateSnapshot) (action : PlanAction)
    (profile : LocalProxyProfile) : Except NetcrazePlanError Unit :=
  let failure := netcrazePlanError "Synthetic connection verification failed."
  let creating := action.operation = .createConnection
  let objectId :=
    if creating then some (simulationConnectionId profile.slot) else action.observedId
  let expectedName := if creating then some action.targetName else action.observedName
  match objectId.bind (connectionById snapshot) with
  | none => .error failure
  | some connection =>
      raiseIf (some connection.name ≠ expectedName ∨ connection.protocol ≠ profile.protocol ∨
        connection.host ≠ profile.host ∨ connection.port ≠ profile.port ∨
        connection.authMode ≠ profile.authMode ∨ connection.enabled ≠ profile.enabled ∨
        connection.semanticComplete = false) failure

def verifyPolicyAction (snapshot : RouterStateSnapshot) (action : PlanAction)
    (profile : LocalProxyProfile) : Except NetcrazePlanError Unit := do
  let failure := netcrazePlanError "Synthetic policy verification failed."
  let connectionRef ← resolveDependency snapshot action failure.message
  let creating := action.operation = .createPolicy
  let objectId := if creating then some (simulationPolicyId profile.slot) else action.observedId
  let expectedName := if creating then some action.targetName else action.observedName
  match objectId.bind (policyById snapshot) with
  | none => .error failure
  | some policy =>
      raiseIf (some policy.name ≠ expectedName ∨ policy.connectionRef ≠ connectionRef ∨
        policy.mode ≠ "proxy_only" ∨ policy.isDefaultObserved = true ∨
        policy.semanticComplete = false ∨ policy.unrelatedRules = true) failure

def verifyAssignmentAction (snapshot : RouterStateSnapshot) (action : PlanAction)
    (plan : ChangePlan Digest) : Except NetcrazePlanError Unit := do
  let failure := netcrazePlanError "Synthetic assignment verification failed."
  match ← normalizeSelected plan.selectedDevice with
  | none => .error failure
  | some device => do
      let policyRef ← resolveDependency snapshot action failure.message
      raiseIf ((snapshot.assignments.filter (fun item => item.deviceMac = device.mac)).map
        (·.policyRef) ≠ [policyRef]) failure

/-- `profiles[action.profile_slot or 0]`; a checked plan has the slot. -/
def withProfile (plan : ChangePlan Digest) (action : PlanAction)
    (check : LocalProxyProfile → Except NetcrazePlanError Unit) : Except NetcrazePlanError Unit :=
  match Keyed.lookup (·.slot) (action.profileSlot.getD 0) plan.desiredProfiles with
  | some profile => check profile
  | none => .error (netcrazePlanError "Synthetic action verification failed.")

def verifyConnections (snapshot : RouterStateSnapshot) (plan : ChangePlan Digest) :
    Except NetcrazePlanError Unit :=
  checkEach (fun planned => withProfile plan planned (verifyConnectionAction snapshot planned))
    (plan.actions.filter
      (fun planned => planned.operation ∈ [.createConnection, .reuseConnection]))

def verifyPolicies (snapshot : RouterStateSnapshot) (plan : ChangePlan Digest) :
    Except NetcrazePlanError Unit :=
  checkEach (fun planned => withProfile plan planned (verifyPolicyAction snapshot planned))
    (plan.actions.filter (fun planned => planned.operation ∈ [.createPolicy, .reusePolicy]))

def verifySimulatedAction (snapshot : RouterStateSnapshot) (action : PlanAction)
    (plan : ChangePlan Digest) : Except NetcrazePlanError Unit :=
  match action.operation with
  | .createConnection | .reuseConnection =>
      withProfile plan action (verifyConnectionAction snapshot action)
  | .createPolicy | .reusePolicy => withProfile plan action (verifyPolicyAction snapshot action)
  | .assignDevice | .reuseAssignment => verifyAssignmentAction snapshot action plan
  | _ =>
      match action.actionId with
      | .verifyConnections => verifyConnections snapshot plan
      | .verifyPolicies => verifyPolicies snapshot plan
      | .verifyAssignment =>
          match plan.actions.find? (fun item => item.actionId = .assignment) with
          | some assignment => verifyAssignmentAction snapshot assignment plan
          | none => .error (netcrazePlanError "Synthetic action verification failed.")
      | .verifyDefault => do
          let projection ← defaultPolicyProjection foldNonAscii snapshot
          raiseIf (projection ≠ plan.sourceDefaultPolicyProjection)
            (netcrazePlanError "Synthetic default-policy verification failed.")
      | _ => .error (netcrazePlanError "Synthetic action verification failed.")

end Actions

structure SimulationRun where
  current : RouterStateSnapshot
  completed : List ActionId := []
  rollbackStack : List (RollbackAction × RouterStateSnapshot) := []
  stoppedAfter : Option ActionId := none
  errorCategory : Option String := none

section Running

variable {Digest : Type} (foldNonAscii : Char → List Char) (plan : ChangePlan Digest)
  (initialDefault : DefaultPolicyProjection) (failAfter : Option ActionId)

/-- `except SnapshotSchemaError: ... except NetcrazePlanError: ...`. -/
def errorCategoryOf (error : NetcrazePlanError) (otherwise : String) : String :=
  if error.kind = .snapshotSchema then "snapshot_consistency" else otherwise

/-- What the checks after an action object to. -/
def actionFailure (action : PlanAction) (current : RouterStateSnapshot) : Option String :=
  match defaultPolicyProjection foldNonAscii current with
  | .error error => some (errorCategoryOf error "simulation_verification")
  | .ok projection =>
      if projection ≠ initialDefault then some "default_policy_invariant"
      else
        match verifySimulatedAction foldNonAscii current action plan with
        | .error error => some (errorCategoryOf error "simulation_verification")
        | .ok _ => none

def pushRollback (action : PlanAction) (before current : RouterStateSnapshot)
    (stack : List (RollbackAction × RouterStateSnapshot)) :
    List (RollbackAction × RouterStateSnapshot) :=
  match rollbackFor action with
  | some rollback => if current ≠ before then stack ++ [(rollback, before)] else stack
  | none => stack

/-- One round of the loop. -/
def simulateAction (run : SimulationRun) (action : PlanAction) : SimulationRun :=
  match applySimulatedAction run.current action plan with
  | .error _ =>
      { run with stoppedAfter := action.actionId, errorCategory := "simulation_dependency" }
  | .ok current =>
      let run := { run with
        current
        rollbackStack := pushRollback action run.current current run.rollbackStack }
      match actionFailure foldNonAscii plan initialDefault action current with
      | some category => { run with stoppedAfter := action.actionId, errorCategory := category }
      | none =>
          let run := { run with completed := run.completed ++ [action.actionId] }
          if failAfter = some action.actionId then
            { run with stoppedAfter := action.actionId, errorCategory := "injected_failure" }
          else run

def simulateActions : List PlanAction → SimulationRun → SimulationRun
  | [], run => run
  | action :: rest, run =>
      let run := simulateAction foldNonAscii plan initialDefault failAfter run action
      if run.stoppedAfter.isSome then run else simulateActions rest run

end Running

structure SimulatedRollback where
  current : RouterStateSnapshot
  performed : List RollbackAction := []
  succeeded : Bool := true
  errorCategory : Option String

/-- Take the snapshots back, newest first. -/
def rollBackSnapshots (foldNonAscii : Char → List Char) (initialDefault : DefaultPolicyProjection)
    (rollbackFailure : Bool) :
    List (RollbackAction × RouterStateSnapshot) → SimulatedRollback → SimulatedRollback
  | [], state => state
  | (rollback, before) :: rest, state =>
      let state := { state with performed := state.performed ++ [rollback] }
      if rollbackFailure then
        { state with succeeded := false, errorCategory := "rollback_failure" }
      else
        let state := { state with current := before }
        if defaultPolicyProjection foldNonAscii before = .ok initialDefault then
          rollBackSnapshots foldNonAscii initialDefault rollbackFailure rest state
        else { state with succeeded := false, errorCategory := "rollback_validation_failure" }

section Simulating

variable {Digest : Type} [DecidableEq Digest] (foldNonAscii : Char → List Char)
  (sha256Json : PlanPayload Digest → Digest)

def forbiddenOnRerun (operation : PlanOperation) : Bool :=
  operation ∈ [.createConnection, .createPolicy, .assignDevice, .conflict, .blocked]

/-- What the checks after the last action object to. -/
def finalFailure (plan : ChangePlan Digest) (initialDefault : DefaultPolicyProjection)
    (current : RouterStateSnapshot) : Option String :=
  match defaultPolicyProjection foldNonAscii current with
  | .error error => some (errorCategoryOf error "idempotency_verification")
  | .ok projection =>
      if projection ≠ initialDefault then some "default_policy_invariant"
      else
        match buildChangePlan foldNonAscii sha256Json { profiles := plan.desiredProfiles } current
            plan.selectedDevice with
        | .error error => some (errorCategoryOf error "idempotency_verification")
        | .ok rerun =>
            if rerun.isBlocked || rerun.actions.any (fun item => forbiddenOnRerun item.operation)
            then some "idempotency_verification"
            else none

def unrelatedIdentity (snapshot : RouterStateSnapshot) (plan : ChangePlan Digest) :
    List ExistingProxyConnection × List ExistingPolicy × List ExistingDeviceAssignment :=
  let touchedNames := plan.actions.map (·.targetName)
  (snapshot.connections.filter (fun item => item.name ∉ touchedNames),
    snapshot.policies.filter (fun item => item.name ∉ touchedNames),
    snapshot.assignments.filter
      (fun item => some item.deviceMac ≠ plan.selectedDevice.map (·.mac)))

def unchangedSimulationFailure (snapshot : RouterStateSnapshot) (category : String) :
    SimulationResult where
  success := false
  stoppedAfter := none
  completedActions := []
  rollbackActions := []
  rollbackSucceeded := true
  restoredInitialState := true
  defaultPolicyUnchanged := true
  unrelatedObjectsUnchanged := true
  finalState := snapshot
  errorCategory := category

/-- The run of an accepted plan, its final checks and its rollback. -/
def simulateAccepted (plan : ChangePlan Digest) (snapshot : RouterStateSnapshot)
    (initialDefault : DefaultPolicyProjection) (failAfter : Option ActionId)
    (rollbackFailure : Bool) : SimulationResult :=
  let run := simulateActions foldNonAscii plan initialDefault failAfter plan.actions
    { current := snapshot }
  let failure : Option (Option ActionId × Option String) :=
    match run.stoppedAfter with
    | some stopped => some (some stopped, run.errorCategory)
    | none =>
        (finalFailure foldNonAscii sha256Json plan initialDefault run.current).map
          (fun category => (run.completed.getLast?, some category))
  let rolled : SimulatedRollback :=
    match failure with
    | none => { current := run.current, errorCategory := none }
    | some (_, category) =>
        rollBackSnapshots foldNonAscii initialDefault rollbackFailure run.rollbackStack.reverse
          { current := run.current, errorCategory := category }
  let defaultUnchanged :=
    decide (defaultPolicyProjection foldNonAscii rolled.current = .ok initialDefault)
  { success := failure.isNone && defaultUnchanged
    stoppedAfter := failure.bind (·.1)
    completedActions := run.completed
    rollbackActions := rolled.performed
    rollbackSucceeded := rolled.succeeded
    restoredInitialState := decide (rolled.current = snapshot)
    defaultPolicyUnchanged := defaultUnchanged
    unrelatedObjectsUnchanged :=
      decide (unrelatedIdentity rolled.current plan = unrelatedIdentity snapshot plan)
    finalState := rolled.current
    errorCategory := rolled.errorCategory }

def simulateChangePlan (plan : ChangePlan Digest) (snapshot : RouterStateSnapshot)
    (failAfter : Option ActionId) (rollbackFailure : Bool) :
    Except NetcrazePlanError SimulationResult := do
  let _ ← validateSnapshotConsistency foldNonAscii snapshot
  match validateChangePlanIntegrity sha256Json plan with
  | .error _ => pure (unchangedSimulationFailure snapshot "plan_integrity")
  | .ok _ => do
      let fingerprint ← snapshotSemanticFingerprint sha256Json foldNonAscii snapshot
      let initialDefault ← defaultPolicyProjection foldNonAscii snapshot
      if fingerprint ≠ plan.sourceSnapshotFingerprint ∨
          initialDefault ≠ plan.sourceDefaultPolicyProjection then
        pure (unchangedSimulationFailure snapshot "plan_snapshot_mismatch")
      else do
        let expectedPlan ← buildChangePlan foldNonAscii sha256Json
          { profiles := plan.desiredProfiles } snapshot plan.selectedDevice
        if expectedPlan ≠ plan then pure (unchangedSimulationFailure snapshot "plan_integrity")
        else if plan.isBlocked then pure (unchangedSimulationFailure snapshot "plan_blocked")
        else
          pure (simulateAccepted foldNonAscii sha256Json plan snapshot initialDefault failAfter
            rollbackFailure)

end Simulating

end RouterKit.Netcraze
