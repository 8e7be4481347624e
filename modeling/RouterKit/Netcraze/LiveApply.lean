import RouterKit.Netcraze.PostState

/-!
Applying a plan through the local transport. Each command the transport is sent
either takes effect and is reported so, or is reported as failed, with or without
having taken effect; which of the three is a property of the transport and of
how many commands it has been sent. The adapter logs a compensation for an
object after its first command has been reported, and on an error executes the
log backwards, saves, and compares the default-policy guard.
-/

namespace RouterKit.Netcraze

open RouterKit.Lib.Checked
open RouterKit.Devices RouterKit.Lib

inductive Outcome where
  | applied
  | failedApplied
  | failedUnapplied
deriving DecidableEq, Repr

/-- What becomes of the n-th command sent. -/
structure Transport where
  outcome : Nat → Outcome
  backupWritten : Bool

structure Router where
  state : LiveState
  sent : Nat

structure ApplyResult where
  createdProxies : List String := []
  createdPolicies : List String := []
  assignmentChanged : Bool := false
  writeRequired : Bool
  saved : Bool := false
  verified : Bool := false
  noop : Bool
  rollbackAttempted : Bool := false
  rollbackVerified : Bool := false
deriving DecidableEq, Repr

/-- The router, and the locals of `apply_live_plan` that its error handler reads. -/
structure ApplyRun where
  router : Router
  rollback : List NdmCommand
  result : ApplyResult

abbrev ApplyM := EStateM LiveError ApplyRun

namespace Live

def ndmFailure : LiveError := liveAdapterError "NDM command returned a failure status."

def command (transport : Transport) (line : NdmCommand) : ApplyM Unit := fun run =>
  let sent := run.router.sent + 1
  match transport.outcome run.router.sent with
  | .applied => .ok () { run with router := ⟨line.exec run.router.state, sent⟩ }
  | .failedApplied => .error ndmFailure { run with router := ⟨line.exec run.router.state, sent⟩ }
  | .failedUnapplied => .error ndmFailure { run with router := ⟨run.router.state, sent⟩ }

def raise {α : Type} (error : LiveError) : ApplyM α := fun run => .error error run

def lift {α : Type} (x : Except LiveError α) : ApplyM α :=
  match x with
  | .ok a => pure a
  | .error e => raise e

def readState (transport : Transport) : ApplyM LiveState := do
  command transport .showRunningConfig
  return (← get).router.state.parsed

def logUndo (undo : NdmCommand) : ApplyM Unit :=
  modify (fun run => { run with rollback := run.rollback ++ [undo] })

def note (f : ApplyResult → ApplyResult) : ApplyM Unit :=
  modify (fun run => { run with result := f run.result })

def sendAll (transport : Transport) : List NdmCommand → ApplyM Unit
  | [] => pure ()
  | line :: rest => do
      command transport line
      sendAll transport rest

/-- `commands[0]`, the log entry, then `commands[1:]`. -/
def sendCreation (transport : Transport) (lines : List NdmCommand) (undo : NdmCommand) :
    ApplyM Unit :=
  match lines with
  | [] => pure ()
  | first :: rest => do
      command transport first
      logUndo undo
      sendAll transport rest

def createProxies (transport : Transport) (manifest : LocalEndpointManifest) :
    List BindingPlan → ApplyM Unit
  | [] => pure ()
  | binding :: rest => do
      let profile ← lift (profileBySlot manifest binding.slot)
      if binding.proxyAction = .create then
        sendCreation transport (proxyCreateCommands binding profile) (.noInterface binding.proxyId)
        note (fun result =>
          { result with createdProxies := result.createdProxies ++ [binding.proxyId] })
      createProxies transport manifest rest

def createPolicies (transport : Transport) (manifest : LocalEndpointManifest) :
    List BindingPlan → ApplyM Unit
  | [] => pure ()
  | binding :: rest => do
      let profile ← lift (profileBySlot manifest binding.slot)
      if binding.policyAction = .create then
        sendCreation transport (policyCreateCommands binding profile) (.noPolicy binding.policyId)
        note (fun result =>
          { result with createdPolicies := result.createdPolicies ++ [binding.policyId] })
      createPolicies transport manifest rest

/-- The command that restores the assignment read before the first write. -/
def undoAssignment (stateBefore : LiveState) (mac : String) : NdmCommand :=
  match stateBefore.assignmentOf mac with
  | none => .noHotspotHostPolicy mac
  | some oldAssignment => .hotspotHostPolicy mac oldAssignment

def assignDevice (transport : Transport) (plan : LivePlan) (stateBefore : LiveState)
    (mac : Option String) : ApplyM Unit :=
  match mac, plan.selectedSlot with
  | some mac, some slot => do
      if plan.assignmentAction ∈ [.assign, .move] then
        let target ← lift (targetPolicy plan.bindings slot)
        command transport (.hotspotHostPolicy mac target)
        logUndo (undoAssignment stateBefore mac)
        note (fun result => { result with assignmentChanged := true })
  | _, _ => pure ()

/-- One read-back: the guard, then the planned objects. -/
def readBack (rules : PlanRules) (transport : Transport) (manifest : LocalEndpointManifest)
    (plan : LivePlan) (stateBefore : LiveState) (mac : Option String) (changed : String) :
    ApplyM Unit := do
  let state ← readState transport
  lift (raiseIf (state.defaultGuard ≠ stateBefore.defaultGuard) (liveAdapterError changed))
  lift (rules.verifyPlanApplied manifest plan state mac)

def writeObjects (transport : Transport) (manifest : LocalEndpointManifest) (plan : LivePlan)
    (stateBefore : LiveState) (mac : Option String) : ApplyM Unit := do
  createProxies transport manifest plan.bindings
  createPolicies transport manifest plan.bindings
  assignDevice transport plan stateBefore mac

def verifyAndSave (rules : PlanRules) (transport : Transport) (manifest : LocalEndpointManifest)
    (plan : LivePlan) (stateBefore : LiveState) (mac : Option String) : ApplyM ApplyResult := do
  readBack rules transport manifest plan stateBefore mac
    "Default-policy guard changed during RouterKit live apply."
  command transport .configurationSave
  note (fun result => { result with saved := true })
  readBack rules transport manifest plan stateBefore mac
    "Default-policy guard changed after RouterKit configuration save."
  note (fun result => { result with verified := true })
  return (← get).result

/-- The body of the `try`. -/
def applyWrites (rules : PlanRules) (transport : Transport) (manifest : LocalEndpointManifest)
    (plan : LivePlan) (stateBefore : LiveState) (mac : Option String) : ApplyM ApplyResult := do
  writeObjects transport manifest plan stateBefore mac
  verifyAndSave rules transport manifest plan stateBefore mac

/-- Whether an exception is a `LiveAdapterError`. -/
def isAdapterError : LiveError → Bool
  | .adapter .. => true
  | _ => false

/-- `try: ...; True except LiveAdapterError: False`. -/
def succeeds (action : ApplyM Bool) : ApplyM Bool := fun run =>
  match action run with
  | .ok value run' => .ok value run'
  | .error error run' => if isAdapterError error then .ok false run' else .error error run'

def rollBackAll (transport : Transport) : List NdmCommand → ApplyM Bool
  | [] => pure true
  | line :: rest => do
      if ← succeeds (do command transport line; return true) then rollBackAll transport rest
      else return false

/-- Save, and read whether the guard is what it was. -/
def confirmGuard (transport : Transport) (stateBefore : LiveState) : ApplyM Bool := do
  command transport .configurationSave
  let state ← readState transport
  return decide (state.defaultGuard = stateBefore.defaultGuard)

/-- The handler: execute the log backwards, save, and read the guard. -/
def recover {α : Type} (transport : Transport) (stateBefore : LiveState) (error : LiveError) :
    ApplyM α := do
  note (fun result => { result with rollbackAttempted := true })
  let executed ← rollBackAll transport (← get).rollback.reverse
  let proven ← if executed then succeeds (confirmGuard transport stateBefore) else pure false
  note (fun result => { result with rollbackVerified := proven })
  if proven then raise error
  else raise (.adapter "Netcraze live apply failed and rollback could not be proven."
    rollbackUnproven)

/-- `except (LiveAdapterError, DeviceDiscoveryError)`. -/
def isHandled : LiveError → Bool
  | .adapter .. => true
  | .deviceDiscovery _ => true
  | .keyError | .valueError => false

def backupRunningConfig (transport : Transport) : ApplyM Unit :=
  if transport.backupWritten then pure ()
  else raise (liveAdapterError "Private running-config backup could not be created.")

def writeRequired (plan : LivePlan) : Bool :=
  plan.bindings.any (fun item => item.proxyAction = .create || item.policyAction = .create) ||
    plan.assignmentAction ∈ [.assign, .move]

def normalizedMac : Option String → Except LiveError (Option String)
  | none => .ok none
  | some deviceMac =>
      ((normalizeTrustedDeviceMac deviceMac).mapError LiveError.deviceDiscovery).map some

def applyLivePlan (rules : PlanRules) (transport : Transport) (manifest : LocalEndpointManifest)
    (plan : LivePlan) (deviceMac : Option String) : ApplyM ApplyResult := do
  let stateBefore ← readState transport
  let freshPlan ← lift (rules.buildLivePlan manifest stateBefore deviceMac plan.selectedSlot
    (plan.assignmentAction = .move))
  lift (raiseIf (freshPlan ≠ plan)
    (liveAdapterError "Live plan is stale or does not match the fresh running state."))
  note (fun _ => { writeRequired := writeRequired plan, noop := !writeRequired plan })
  if !writeRequired plan then
    lift (rules.verifyPlanApplied manifest plan stateBefore deviceMac)
    note (fun result => { result with verified := true })
    return (← get).result
  backupRunningConfig transport
  let mac ← lift (normalizedMac deviceMac)
  fun run =>
    match applyWrites rules transport manifest plan stateBefore mac run with
    | .ok result run' => .ok result run'
    | .error error run' =>
        if isHandled error then recover transport stateBefore error run' else .error error run'

end Live

def ApplyRun.start (state : LiveState) : ApplyRun where
  router := ⟨state, 0⟩
  rollback := []
  result := { writeRequired := false, noop := false }

end RouterKit.Netcraze
