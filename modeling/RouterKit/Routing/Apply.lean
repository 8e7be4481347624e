import RouterKit.Lib.Programs
import RouterKit.Routing.Installation

/-!
The two commands that write. Every input or output of a command is a step that
takes effect or not, and returns, raises or is the last thing the process does;
what the steps do is a parameter. Only a raise is caught.
-/

namespace RouterKit.Routing

open RouterKit.Lib RouterKit.Lib.Checked

/-- Forward to the new document, or backward to the old one. -/
inductive Phase where
  | forward
  | backward
deriving DecidableEq, Repr

inductive ApplyStep where
  | readRoute
  | readState
  | backup
  | stage
  | publishRoute (phase : Phase)
  | testActive (phase : Phase)
  | restart (phase : Phase)
  | verify (phase : Phase)
  | probe (phase : Phase) (port : Int)
  | writeState
deriving DecidableEq, Repr

inductive StepOutcome where
  | done
  | fails (tookEffect : Bool) (error : RoutingError)
  | killed (tookEffect : Bool)
deriving DecidableEq, Repr

/-- How a command ends when it does not return. -/
inductive Stop where
  | raised (error : RoutingError)
  | killed
deriving DecidableEq, Repr

abbrev ApplyM (Text : Type) := EStateM Stop (Installation Text)

section Steps

variable {Text : Type}

def ioStep (outcome : StepOutcome) (effect : Installation Text → Installation Text) :
    ApplyM Text Unit :=
  fun installation =>
    match outcome with
    | .done => .ok () (effect installation)
    | .fails tookEffect error =>
        .error (.raised error) (if tookEffect then effect installation else installation)
    | .killed tookEffect =>
        .error .killed (if tookEffect then effect installation else installation)

/-- A step without an effect on the installation. -/
def checkStep (outcome : StepOutcome) : ApplyM Text Unit := ioStep outcome id

def raise {α : Type} (error : RoutingError) : ApplyM Text α := throw (.raised error)

/-- How a command ends and what it leaves. -/
def runCommand {α : Type} (command : ApplyM Text α) (installation : Installation Text) :
    Except Stop α × Installation Text :=
  match command installation with
  | .ok a after => (.ok a, after)
  | .error stop after => (.error stop, after)

def Installation.withRouting (installation : Installation Text) (content : Text) :
    Installation Text :=
  { installation with routing := .text content }

def Installation.withState (installation : Installation Text) (content : Text) :
    Installation Text :=
  { installation with state := .text content }

end Steps

section Applying

variable {Text : Type} (format : JsonFormat Text) (tables : TextTables) (repo : Repository)
  (steps : ApplyStep → StepOutcome)

def stateNotPublished : RoutingError :=
  routingError "Routing overrides state could not be published safely."

def configTooLarge : RoutingError :=
  routingError "Generated Xray routing configuration exceeds the supported bound."

def rollbackNotProven : RoutingError := routingError
  ("Routing update failed and automatic rollback could not be proven; use the routing " ++
    "rollback backup.")

/-- What `write_overrides` may replace, and with what. -/
def stateWritable (file : FileState Text) (desired : RoutingOverrides) : Bool :=
  decide (format.size (format.dumps desired.toDict) ≤ maxStateBytes) &&
    match file with
    | .absent => true
    | .refused _ => false
    | .text content =>
        match format.loads content with
        | some value => (validateOverridesValue tables value).isOk
        | none => false

def writeOverrides (desired : RoutingOverrides) : ApplyM Text Unit := do
  let installation ← get
  if stateWritable format tables installation.state desired then
    ioStep (steps .writeState) (·.withState (format.dumps desired.toDict))
  else raise stateNotPublished

/-- `_safe_atomic_replace` on the routing document. -/
def publishRoute (phase : Phase) (content : Text) : ApplyM Text Unit :=
  if maxConfigBytes < format.size content then raise configTooLarge
  else ioStep (steps (.publishRoute phase)) (·.withRouting content)

def probeAll (phase : Phase) : List Int → ApplyM Text Unit
  | [] => pure ()
  | port :: rest => do
      checkStep (steps (.probe phase port))
      probeAll phase rest

/-- `_xray_test` on the active directory and `_restart_and_verify`. -/
def activate (phase : Phase) (ports : List Int) : ApplyM Text Unit := do
  checkStep (steps (.testActive phase))
  checkStep (steps (.restart phase))
  checkStep (steps (.verify phase))
  probeAll steps phase ports

/-- The document as it is before the update, kept for the way back. -/
def readRoute : ApplyM Text Text := do
  checkStep (steps .readRoute)
  match (← get).routing with
  | .text content => pure content
  | .refused reason => raise (.privateFile reason)
  | .absent => raise (.privateFile "Could not read the xray routing configuration.")

def readState : ApplyM Text Unit := do
  checkStep (steps .readState)
  match (← get).state with
  | .refused _ => raise (routingError "Existing routing overrides state is unsafe.")
  | _ => pure ()

/-- The way back; any failure of it is reported as one error. -/
def rollBack (previousRoute : Text) (ports : List Int) : ApplyM Text Unit :=
  tryCatchThe Stop
    (do
      publishRoute format steps .backward previousRoute
      activate steps .backward ports)
    (fun stop =>
      match stop with
      | .raised _ => raise rollbackNotProven
      | .killed => throw .killed)

/-- What follows the publication of the new document. -/
def finishUpdate (planned : PlannedRouting) : ApplyM Text Unit := do
  activate steps .forward planned.ports
  if planned.plan.stateChangeRequired then
    writeOverrides format tables steps planned.plan.desired

/-- `apply_plan`; whether a rollback backup was made. -/
def applyPlan (planned : PlannedRouting) : ApplyM Text Bool := do
  let previousRoute ← readRoute steps
  readState steps
  if planned.plan.routingChangeRequired then
    checkStep (steps .backup)
    checkStep (steps .stage)
    -- a failure up to here, the publication included, is not rolled back
    publishRoute format steps .forward (format.dumps planned.updated)
    tryCatchThe Stop (finishUpdate format tables steps planned)
      (fun stop =>
        match stop with
        | .raised error => do
            rollBack format steps previousRoute planned.ports
            raise error
        | .killed => throw .killed)
    pure true
  else
    if planned.plan.stateChangeRequired then
      writeOverrides format tables steps planned.plan.desired
    pure false

/-- The `apply` command: plan from the files, then apply the plan. -/
def applyCommand (request : Mutations) : ApplyM Text Bool := do
  match buildPlan format tables repo (← get) request with
  | .ok planned => applyPlan format tables steps planned
  | .error error => raise error

/-- The document the hook wants: that of the persisted selection, taking no rule
of the active document for its own. -/
def reconcilePlan (installation : Installation Text) (persisted : RoutingOverrides) :
    Except RoutingError (Json String × Bool) := do
  let documents ← loadActiveDocuments format installation
  let inboundTags ← extractRouterkitInbounds documents.inbounds
  validateDirectOutbound documents.outbounds
  let desiredDomains ← expandDirectDomains tables repo persisted
  reconcileRoutingDocument tables documents.routing inboundTags [] desiredDomains

/-- `reconcile_persisted_state`; whether the document was changed. -/
def reconcilePersistedState : ApplyM Text Bool := do
  let installation ← get
  match loadOverrides format tables installation.state with
  | .error error => raise error
  | .ok none => pure false
  | .ok (some persisted) =>
      match reconcilePlan format tables repo installation persisted with
      | .error error => raise error
      | .ok (updated, changed) =>
          if changed then do
            checkStep (steps .stage)
            publishRoute format steps .forward (format.dumps updated)
            checkStep (steps (.testActive .forward))
            pure true
          else pure false

end Applying

end RouterKit.Routing
