import RouterKit.Netcraze.Snapshot

/-!
The offline change plan: one connection and one policy for each profile, at most
one device assignment, then the verifications. An object is reused when exactly
one observed object is equivalent, created when nothing stands in its way, and
otherwise blocks the plan. A plan carries a fingerprint of what it was built
from and is checked against its own shape before it is returned.
-/

namespace RouterKit.Netcraze

open RouterKit.Lib RouterKit.Lib.Checked RouterKit.Devices

def softwareVerdict : String := "SOFTWARE_PLAN_CORE_READY_HARDWARE_WRITE_CONTRACT_PENDING"
def planSchema : String := "routerkit.netcraze.change-plan.v1"
def publicEvidenceSchema : String := "routerkit.netcraze.public-evidence.v1"

inductive Readiness where
  | planReady
  | hardwareContractPending
  | blocked
deriving DecidableEq, Repr

inductive Sensitivity where
  | localSensitive
  | publicEvidenceRedacted
deriving DecidableEq, Repr

/-- In the order of their texts. -/
inductive PlanOperation where
  | assignDevice
  | blocked
  | conflict
  | createConnection
  | createPolicy
  | reuseAssignment
  | reuseConnection
  | reusePolicy
  | verify
deriving DecidableEq, Repr

inductive ObjectType where
  | connection
  | policy
  | assignment
  | defaultPolicy
deriving DecidableEq, Repr

inductive ActionId where
  | connection (slot : Nat)
  | policy (slot : Nat)
  | assignment
  | verifyConnections
  | verifyPolicies
  | verifyAssignment
  | verifyDefault
deriving DecidableEq, Repr

/-- `"%02d"`. -/
def twoDigits (n : Nat) : String := if n < 10 then "0" ++ toString n else toString n

def ActionId.text : ActionId → String
  | connection slot => twoDigits slot ++ ":connection"
  | policy slot => twoDigits slot ++ ":policy"
  | assignment => "80:assignment"
  | verifyConnections => "90:verify-connections"
  | verifyPolicies => "91:verify-policies"
  | verifyAssignment => "92:verify-assignment"
  | verifyDefault => "99:verify-default"

inductive ReferenceKind where
  | existingConnection
  | plannedConnection
  | existingPolicy
  | plannedPolicy
deriving DecidableEq, Repr

structure ObjectReference where
  kind : ReferenceKind
  value : Option String := none
  profileSlot : Option Nat := none
deriving DecidableEq, Repr

structure ObjectEquivalence where
  equivalent : Bool
  complete : Bool
  reason : String
deriving DecidableEq, Repr

structure PlanPrecondition where
  name : String
  required : Bool
  satisfied : Bool
  evidence : String
deriving DecidableEq, Repr

structure VerificationCheck where
  name : String
  expected : String
deriving DecidableEq, Repr

inductive RollbackOperation where
  | removeCreatedConnection
  | removeCreatedPolicy
  | removeCreatedAssignment
deriving DecidableEq, Repr

structure RollbackAction where
  actionId : String
  operation : RollbackOperation
  objectType : ObjectType
  target : String
  intent : String
deriving DecidableEq, Repr

/-- The defaults are those of `_action`. -/
structure PlanAction where
  actionId : ActionId
  operation : PlanOperation
  objectType : ObjectType
  targetName : String
  profileSlot : Option Nat
  endpoint : Option String
  observedId : Option String := none
  observedName : Option String := none
  proposed : List (String × String) := []
  dependencies : List ObjectReference := []
  preconditions : List PlanPrecondition := []
  futureAdapterRequirement : String := "none"
  backupRequired : Bool := true
  verificationChecks : List VerificationCheck := []
  rollbackIntent : String := "none"
  readiness : Readiness := .hardwareContractPending
  sensitivity : Sensitivity := .localSensitive
  reason : Option String := none
deriving DecidableEq, Repr

structure ChangePlan (Digest : Type) where
  desiredProfiles : List LocalProxyProfile
  sourceSnapshotFingerprint : Digest
  sourceDefaultPolicyProjection : DefaultPolicyProjection
  actions : List PlanAction
  rollback : List RollbackAction
  localIntegrityFingerprint : Digest
  publicPlanFingerprint : Digest
  planStatus : Readiness
  writeReadiness : Readiness
  defaultPolicyNotTargeted : Bool
  selectedDevice : Option SelectedDeviceRef
  softwareVerdict : String := softwareVerdict
  schema : String := planSchema
deriving DecidableEq, Repr

structure SnapshotSemantics where
  schema : String
  state : SnapshotState
  stale : Bool
  defaultPolicy : DefaultPolicyProjection
  connections : List ExistingProxyConnection
  policies : List ExistingPolicy
  assignments : List ExistingDeviceAssignment
  capabilities : List (String × String)

structure LocalPlanIdentity (Digest : Type) where
  schema : String
  softwareVerdict : String
  desiredProfiles : List LocalProxyProfile
  sourceSnapshotFingerprint : Digest
  sourceDefaultPolicyProjection : DefaultPolicyProjection
  actions : List PlanAction
  rollback : List RollbackAction
  planStatus : Readiness
  writeReadiness : Readiness
  defaultPolicyNotTargeted : Bool
  selectedDevice : Option SelectedDeviceRef

structure PublicAction where
  actionId : ActionId
  operation : PlanOperation
  objectType : ObjectType
  profileSlot : Option Nat
  readiness : Readiness
  backupRequired : Bool
  reasonCategory : Bool
  dependencyCategories : List ReferenceKind

structure PublicPlanIdentity (Digest : Type) where
  schema : String
  planSchema : String
  softwareVerdict : String
  planStatus : Readiness
  writeReadiness : Readiness
  profileSlots : List Nat
  selectedDevicePresent : Bool
  defaultPolicyNotTargeted : Bool
  defaultPolicyProjectionDigest : Digest
  counts : List (PlanOperation × Nat)
  actions : List PublicAction

inductive PlanPayload (Digest : Type) where
  | snapshot (semantics : SnapshotSemantics)
  | defaultPolicy (projection : DefaultPolicyProjection)
  | localPlan (identity : LocalPlanIdentity Digest)
  | publicPlan (identity : PublicPlanIdentity Digest)

/-- `_canonical_snapshot_semantics` of a validated snapshot. -/
def snapshotSemantics (snapshot : RouterStateSnapshot) : SnapshotSemantics where
  schema := snapshot.schema
  state := snapshot.state
  stale := snapshot.stale
  defaultPolicy := projectionOf snapshot
  connections := Keyed.sortByKey (·.objectId) snapshot.connections
  policies := Keyed.sortByKey (·.objectId) snapshot.policies
  assignments := Keyed.sortByKey (fun a => toLex (a.deviceMac, a.policyRef)) snapshot.assignments
  capabilities := Keyed.sortByKey (fun entry => toLex entry) snapshot.capabilities

def localPlanIdentity {Digest : Type} (plan : ChangePlan Digest) : LocalPlanIdentity Digest where
  schema := plan.schema
  softwareVerdict := plan.softwareVerdict
  desiredProfiles := plan.desiredProfiles
  sourceSnapshotFingerprint := plan.sourceSnapshotFingerprint
  sourceDefaultPolicyProjection := plan.sourceDefaultPolicyProjection
  actions := plan.actions
  rollback := plan.rollback
  planStatus := plan.planStatus
  writeReadiness := plan.writeReadiness
  defaultPolicyNotTargeted := plan.defaultPolicyNotTargeted
  selectedDevice := plan.selectedDevice

def publicAction (action : PlanAction) : PublicAction where
  actionId := action.actionId
  operation := action.operation
  objectType := action.objectType
  profileSlot := action.profileSlot
  readiness := action.readiness
  backupRequired := action.backupRequired
  reasonCategory := action.reason.any (· ≠ "")
  dependencyCategories := action.dependencies.map (·.kind)

/-- How often each operation occurs, in the order of the operations' texts. -/
def operationCounts (actions : List PlanAction) : List (PlanOperation × Nat) :=
  ([.assignDevice, .blocked, .conflict, .createConnection, .createPolicy, .reuseAssignment,
      .reuseConnection, .reusePolicy, .verify].map
    (fun operation => (operation, (actions.map (·.operation)).count operation))).filter
      (fun entry => entry.2 ≠ 0)

section Fingerprints

variable {Digest : Type} (sha256Json : PlanPayload Digest → Digest)

def publicPlanIdentity (plan : ChangePlan Digest) : PublicPlanIdentity Digest where
  schema := publicEvidenceSchema
  planSchema := plan.schema
  softwareVerdict := plan.softwareVerdict
  planStatus := plan.planStatus
  writeReadiness := plan.writeReadiness
  profileSlots := plan.desiredProfiles.map (·.slot)
  selectedDevicePresent := plan.selectedDevice.isSome
  defaultPolicyNotTargeted := plan.defaultPolicyNotTargeted
  defaultPolicyProjectionDigest := sha256Json (.defaultPolicy plan.sourceDefaultPolicyProjection)
  counts := operationCounts plan.actions
  actions := plan.actions.map publicAction

def snapshotSemanticFingerprint (foldNonAscii : Char → List Char)
    (snapshot : RouterStateSnapshot) : Except NetcrazePlanError Digest := do
  let _ ← defaultPolicyProjection foldNonAscii snapshot
  pure (sha256Json (.snapshot (snapshotSemantics snapshot)))

def localIntegrity (plan : ChangePlan Digest) : Digest :=
  sha256Json (.localPlan (localPlanIdentity plan))

def publicFingerprint (plan : ChangePlan Digest) : Digest :=
  sha256Json (.publicPlan (publicPlanIdentity sha256Json plan))

end Fingerprints

def ChangePlan.isBlocked {Digest : Type} (plan : ChangePlan Digest) : Bool :=
  decide (plan.planStatus = .blocked)

def connectionEquivalence (existing : ExistingProxyConnection) (desired : LocalProxyProfile) :
    ObjectEquivalence :=
  if ¬ existing.semanticComplete then
    { equivalent := false, complete := false, reason := "required connection fields are unknown" }
  else
    let equivalent := existing.protocol = desired.protocol && existing.host = desired.host &&
      existing.port = desired.port && existing.authMode = desired.authMode &&
      existing.enabled = desired.enabled
    { equivalent, complete := true,
      reason := if equivalent then "exact semantic match" else "semantic mismatch" }

def policyEquivalence (existing : ExistingPolicy) (connectionRef : String) : ObjectEquivalence :=
  if ¬ existing.semanticComplete then
    { equivalent := false, complete := false, reason := "required policy fields are unknown" }
  else
    let equivalent := existing.connectionRef = connectionRef && existing.mode = "proxy_only" &&
      !existing.isDefaultObserved && !existing.unrelatedRules
    { equivalent, complete := true,
      reason := if equivalent then "exact semantic match" else "semantic mismatch" }

/-- `_preconditions`. -/
def basePreconditions (snapshot : RouterStateSnapshot) : List PlanPrecondition :=
  [⟨"fresh_snapshot", true, !snapshot.stale, "synthetic fixture observation"⟩,
    ⟨"backup_export", true, false, "future adapter contract pending"⟩,
    ⟨"exact_revision", true, false, "fixture input cannot grant revision trust"⟩]

def profileEndpoint (profile : LocalProxyProfile) : String :=
  profile.host ++ ":" ++ toString profile.port

/-- `_action` with its keyword arguments left at their defaults. -/
def planAction (actionId : ActionId) (operation : PlanOperation) (objectType : ObjectType)
    (targetName : String) (profile : Option LocalProxyProfile) : PlanAction where
  actionId
  operation
  objectType
  targetName
  profileSlot := profile.map (·.slot)
  endpoint := profile.map profileEndpoint

def simulationConnectionId (slot : Nat) : String := "simulation:connection:slot-" ++ toString slot
def simulationPolicyId (slot : Nat) : String := "simulation:policy:slot-" ++ toString slot

def existingConnectionReference (objectId : String) : ObjectReference :=
  { kind := .existingConnection, value := some objectId }

def plannedConnectionReference (slot : Nat) : ObjectReference :=
  { kind := .plannedConnection, profileSlot := some slot }

def existingPolicyReference (objectId : String) : ObjectReference :=
  { kind := .existingPolicy, value := some objectId }

def plannedPolicyReference (slot : Nat) : ObjectReference :=
  { kind := .plannedPolicy, profileSlot := some slot }

/-- `str` of a boolean. -/
def boolText (b : Bool) : String := if b then "True" else "False"

/-- One action, the reference later actions use for its object, and whether it
blocks the plan. -/
structure PlannedObject where
  action : PlanAction
  reference : Option ObjectReference
  blocks : Bool

def allObjectIds (snapshot : RouterStateSnapshot) : List String :=
  snapshot.connections.map (·.objectId) ++ snapshot.policies.map (·.objectId)

section Objects

variable (foldNonAscii : Char → List Char) (snapshot : RouterStateSnapshot)

def exactConnections (profile : LocalProxyProfile) : List ExistingProxyConnection :=
  Keyed.sortByKey (·.objectId)
    (snapshot.connections.filter (fun item => (connectionEquivalence item profile).equivalent))

def exactPolicies (connectionRef : String) : List ExistingPolicy :=
  Keyed.sortByKey (·.objectId)
    (snapshot.policies.filter (fun item => (policyEquivalence item connectionRef).equivalent))

def sameNameConnection (target : String) : Option ExistingProxyConnection :=
  snapshot.connections.find?
    (fun item => casefold foldNonAscii item.name = casefold foldNonAscii target)

def sameNamePolicy (target : String) : Option ExistingPolicy :=
  snapshot.policies.find?
    (fun item => casefold foldNonAscii item.name = casefold foldNonAscii target)

/-- The proposed fields of a new connection, in the order of their names. -/
def connectionFields (profile : LocalProxyProfile) : List (String × String) :=
  [("auth_mode", profile.authMode), ("enabled", boolText profile.enabled),
    ("host", profile.host), ("port", toString profile.port), ("protocol", profile.protocol)]

def connectionAction (operation : PlanOperation) (profile : LocalProxyProfile) : PlanAction :=
  planAction (.connection profile.slot) operation .connection (connectionName profile) profile

/-- One round of the first loop of `build_change_plan`. -/
def planConnection (profile : LocalProxyProfile) : PlannedObject :=
  match exactConnections snapshot profile,
      sameNameConnection foldNonAscii snapshot (connectionName profile) with
  | _ :: _ :: _, _ =>
      { action := { connectionAction .conflict profile with
          proposed := [("semantic_match", "ambiguous")]
          preconditions := basePreconditions snapshot
          futureAdapterRequirement := "hardware_object_identity_contract"
          readiness := .blocked
          reason := "multiple equivalent connections are ambiguous" }
        reference := none
        blocks := true }
  | [existing], _ =>
      { action := { connectionAction .reuseConnection profile with
          observedId := existing.objectId
          observedName := existing.name
          proposed := [("semantic_match", "exact")]
          backupRequired := false
          verificationChecks := [⟨"connection_equivalent", "true"⟩]
          readiness := .planReady }
        reference := existingConnectionReference existing.objectId
        blocks := false }
  | [], some sameName =>
      { action := { connectionAction .conflict profile with
          observedId := sameName.objectId
          observedName := sameName.name
          proposed := [("semantic_match", "false")]
          preconditions := basePreconditions snapshot
          futureAdapterRequirement := "hardware_update_contract"
          readiness := .blocked
          reason :=
            if ¬ sameName.semanticComplete then "same-name connection is semantically incomplete"
            else "same-name connection is not exactly equivalent" }
        reference := none
        blocks := true }
  | [], none =>
      if simulationConnectionId profile.slot ∈ allObjectIds snapshot then
        { action := { connectionAction .conflict profile with
            preconditions := basePreconditions snapshot
            futureAdapterRequirement := "collision_free_object_identity"
            readiness := .blocked
            reason := "generated connection identity collides with observed state" }
          reference := none
          blocks := true }
      else
        { action := { connectionAction .createConnection profile with
            proposed := connectionFields profile
            preconditions := basePreconditions snapshot
            verificationChecks := [⟨"connection_exists", "true"⟩, ⟨"connection_equivalent", "true"⟩]
            rollbackIntent := "remove only the transaction-created connection" }
          reference := plannedConnectionReference profile.slot
          blocks := false }

def policyAction (operation : PlanOperation) (profile : LocalProxyProfile) : PlanAction :=
  planAction (.policy profile.slot) operation .policy (policyName profile) profile

/-- The policies equivalent for a connection that is already there. -/
def exactPoliciesFor (desiredRef : ObjectReference) : List ExistingPolicy :=
  if desiredRef.kind = .existingConnection then
    exactPolicies snapshot (desiredRef.value.getD "")
  else []

/-- One round of the second loop of `build_change_plan`. -/
def planPolicy (desiredRef : Option ObjectReference) (profile : LocalProxyProfile) :
    PlannedObject :=
  match desiredRef with
  | none =>
      { action := { policyAction .blocked profile with
          preconditions := basePreconditions snapshot
          futureAdapterRequirement := "resolved_connection_dependency"
          readiness := .blocked
          reason := "policy connection dependency is unavailable" }
        reference := none
        blocks := true }
  | some desiredRef =>
      match exactPoliciesFor snapshot desiredRef,
          sameNamePolicy foldNonAscii snapshot (policyName profile) with
      | _ :: _ :: _, _ =>
          { action := { policyAction .conflict profile with
              dependencies := [desiredRef]
              preconditions := basePreconditions snapshot
              futureAdapterRequirement := "hardware_object_identity_contract"
              readiness := .blocked
              reason := "multiple equivalent policies are ambiguous" }
            reference := none
            blocks := true }
      | [existing], _ =>
          { action := { policyAction .reusePolicy profile with
              observedId := existing.objectId
              observedName := existing.name
              proposed := [("semantic_match", "exact")]
              dependencies := [desiredRef]
              backupRequired := false
              verificationChecks := [⟨"policy_equivalent", "true"⟩]
              readiness := .planReady }
            reference := existingPolicyReference existing.objectId
            blocks := false }
      | [], some sameName =>
          { action := { policyAction .conflict profile with
              observedId := sameName.objectId
              observedName := sameName.name
              proposed := [("semantic_match", "false")]
              dependencies := [desiredRef]
              preconditions := basePreconditions snapshot
              futureAdapterRequirement := "hardware_update_contract"
              readiness := .blocked
              reason :=
                if some sameName.objectId = snapshot.defaultPolicyRef ∨
                    sameName.isDefaultObserved then
                  "default policy is immutable"
                else if ¬ sameName.semanticComplete then
                  "same-name policy is semantically incomplete"
                else "same-name policy is not exactly equivalent" }
            reference := none
            blocks := true }
      | [], none =>
          if simulationPolicyId profile.slot ∈ allObjectIds snapshot then
            { action := { policyAction .conflict profile with
                dependencies := [desiredRef]
                preconditions := basePreconditions snapshot
                futureAdapterRequirement := "collision_free_object_identity"
                readiness := .blocked
                reason := "generated policy identity collides with observed state" }
              reference := none
              blocks := true }
          else
            { action := { policyAction .createPolicy profile with
                proposed := [("default", boolText false), ("mode", "proxy_only")]
                dependencies := [desiredRef]
                preconditions := basePreconditions snapshot
                verificationChecks := [⟨"policy_exists", "true"⟩, ⟨"policy_equivalent", "true"⟩]
                rollbackIntent := "remove only the transaction-created policy" }
              reference := plannedPolicyReference profile.slot
              blocks := false }

def assignmentAction (operation : PlanOperation) (primary : LocalProxyProfile) : PlanAction :=
  planAction .assignment operation .assignment "selected-device" primary

/-- The assignment of a selected device to the policy of the first profile. -/
def planDevice (device : SelectedDeviceRef) (desiredPolicyRef : Option ObjectReference)
    (primary : LocalProxyProfile) : PlannedObject :=
  match desiredPolicyRef,
      snapshot.assignments.find? (fun item => item.deviceMac = device.mac) with
  | none, _ =>
      { action := { assignmentAction .blocked primary with
          preconditions := basePreconditions snapshot
          futureAdapterRequirement := "resolved_policy_dependency"
          readiness := .blocked
          reason := "assignment policy dependency is unavailable" }
        reference := none
        blocks := true }
  | some policyRef, none =>
      { action := { assignmentAction .assignDevice primary with
          dependencies := [policyRef]
          preconditions := basePreconditions snapshot
          verificationChecks := [⟨"assignment_matches", "true"⟩]
          rollbackIntent := "remove only the transaction-created assignment" }
        reference := none
        blocks := false }
  | some policyRef, some existing =>
      if policyRef.kind = .existingPolicy ∧ some existing.policyRef = policyRef.value then
        { action := { assignmentAction .reuseAssignment primary with
            observedId := device.mac
            dependencies := [policyRef]
            backupRequired := false
            verificationChecks := [⟨"assignment_matches", "true"⟩]
            readiness := .planReady }
          reference := none
          blocks := false }
      else
        { action := { assignmentAction .blocked primary with
            observedId := device.mac
            dependencies := [policyRef]
            preconditions := basePreconditions snapshot
            futureAdapterRequirement := "hardware_assignment_move_contract"
            readiness := .blocked
            reason :=
              if some existing.policyRef = snapshot.defaultPolicyRef then
                "existing assignment on default policy cannot be moved"
              else "existing assignment move is outside the fixture-first contract" }
          reference := none
          blocks := true }

end Objects

def isMutating (operation : PlanOperation) : Bool :=
  operation ∈ [.createConnection, .createPolicy, .assignDevice]

/-- Whether an action names the default policy or its connection. -/
def targetsDefault (foldNonAscii : Char → List Char) (defaultPolicy : ExistingPolicy)
    (defaultConnection : ExistingProxyConnection) (action : PlanAction) : Prop :=
  action.observedId = some defaultPolicy.objectId ∨
    action.observedId = some defaultConnection.objectId ∨
    (action.objectType = .policy ∧
      casefold foldNonAscii action.targetName = casefold foldNonAscii defaultPolicy.name) ∨
    (action.objectType = .connection ∧
      casefold foldNonAscii action.targetName = casefold foldNonAscii defaultConnection.name) ∨
    ∃ dependency ∈ action.dependencies, dependency.value = some defaultPolicy.objectId ∨
      dependency.value = some defaultConnection.objectId

instance (foldNonAscii : Char → List Char) (defaultPolicy : ExistingPolicy)
    (defaultConnection : ExistingProxyConnection) (action : PlanAction) :
    Decidable (targetsDefault foldNonAscii defaultPolicy defaultConnection action) := by
  unfold targetsDefault
  infer_instance

/-- `_prove_default_policy_not_targeted` on a validated snapshot. -/
def proveDefaultPolicyNotTargeted (foldNonAscii : Char → List Char)
    (snapshot : RouterStateSnapshot) (actions : List PlanAction) : Bool :=
  let projection := projectionOf snapshot
  match projection.policy, projection.connection with
  | some defaultPolicy, some defaultConnection =>
      actions.all (fun action => !isMutating action.operation ||
        !decide (targetsDefault foldNonAscii defaultPolicy defaultConnection action))
  | _, _ => false

def rollbackFor (action : PlanAction) : Option RollbackAction :=
  let operation : Option RollbackOperation :=
    match action.operation with
    | .createConnection => some .removeCreatedConnection
    | .createPolicy => some .removeCreatedPolicy
    | .assignDevice => some .removeCreatedAssignment
    | _ => none
  operation.map (fun operation =>
    { actionId := "rollback:" ++ action.actionId.text
      operation
      objectType := action.objectType
      target := action.targetName
      intent := action.rollbackIntent })

def verifyAction (actionId : ActionId) (objectType : ObjectType) (targetName check : String) :
    PlanAction :=
  { planAction actionId .verify objectType targetName none with
    backupRequired := false
    verificationChecks := [⟨check, "true"⟩] }

/-- The closing actions. -/
def verifyActions (snapshot : RouterStateSnapshot) (selectedDevice : Option SelectedDeviceRef)
    (defaultPolicyNotTargeted : Bool) : List PlanAction :=
  [verifyAction .verifyConnections .connection "all-planned-connections"
      "all_connections_equivalent",
    verifyAction .verifyPolicies .policy "all-planned-policies" "all_policies_equivalent"] ++
  (if selectedDevice.isSome then
    [verifyAction .verifyAssignment .assignment "selected-device" "selected_assignment_verified"]
  else []) ++
  [{ verifyAction .verifyDefault .defaultPolicy "observed-default-policy"
        "default_policy_not_targeted" with
      observedId := snapshot.defaultPolicyRef
      readiness := if defaultPolicyNotTargeted then .hardwareContractPending else .blocked
      reason :=
        if defaultPolicyNotTargeted then none else some "default policy identity is not proven" }]

section Planning

variable (foldNonAscii : Char → List Char) (snapshot : RouterStateSnapshot)

def planConnections (profiles : List LocalProxyProfile) : List PlannedObject :=
  profiles.map (planConnection foldNonAscii snapshot)

/-- `connection_refs`, by profile slot. -/
def connectionRef (profile : LocalProxyProfile) : Option ObjectReference :=
  (planConnection foldNonAscii snapshot profile).reference

def planPolicies (profiles : List LocalProxyProfile) : List PlannedObject :=
  profiles.map (fun profile =>
    planPolicy foldNonAscii snapshot (connectionRef foldNonAscii snapshot profile) profile)

/-- `policy_refs`, by profile slot. -/
def policyRef (profile : LocalProxyProfile) : Option ObjectReference :=
  (planPolicy foldNonAscii snapshot (connectionRef foldNonAscii snapshot profile)
    profile).reference

def planAssignments (profiles : List LocalProxyProfile)
    (selectedDevice : Option SelectedDeviceRef) : List PlannedObject :=
  match selectedDevice, profiles with
  | some device, primary :: _ =>
      [planDevice snapshot device (policyRef foldNonAscii snapshot primary) primary]
  | _, _ => []

/-- The objects in the order of their actions. -/
def plannedObjects (profiles : List LocalProxyProfile)
    (selectedDevice : Option SelectedDeviceRef) : List PlannedObject :=
  planConnections foldNonAscii snapshot profiles ++ planPolicies foldNonAscii snapshot profiles ++
    planAssignments foldNonAscii snapshot profiles selectedDevice

end Planning

section Assembling

variable {Digest : Type} (foldNonAscii : Char → List Char)
  (sha256Json : PlanPayload Digest → Digest)

def objectActions (snapshot : RouterStateSnapshot) (profiles : List LocalProxyProfile)
    (selectedDevice : Option SelectedDeviceRef) : List PlanAction :=
  (plannedObjects foldNonAscii snapshot profiles selectedDevice).map (·.action)

def notTargeted (snapshot : RouterStateSnapshot) (profiles : List LocalProxyProfile)
    (selectedDevice : Option SelectedDeviceRef) : Bool :=
  proveDefaultPolicyNotTargeted foldNonAscii snapshot
    (objectActions foldNonAscii snapshot profiles selectedDevice)

def planBlocked (snapshot : RouterStateSnapshot) (profiles : List LocalProxyProfile)
    (selectedDevice : Option SelectedDeviceRef) : Bool :=
  decide (snapshot.state ≠ .supported) || snapshot.stale ||
    decide (snapshot.defaultPolicyStatus ≠ .known) ||
    (plannedObjects foldNonAscii snapshot profiles selectedDevice).any (·.blocks) ||
    !notTargeted foldNonAscii snapshot profiles selectedDevice

def draftActions (snapshot : RouterStateSnapshot) (profiles : List LocalProxyProfile)
    (selectedDevice : Option SelectedDeviceRef) : List PlanAction :=
  let drafted := objectActions foldNonAscii snapshot profiles selectedDevice ++
    verifyActions snapshot selectedDevice
    (notTargeted foldNonAscii snapshot profiles selectedDevice)
  if planBlocked foldNonAscii snapshot profiles selectedDevice then
    drafted.map (fun action => { action with readiness := .blocked })
  else drafted

/-- The plan before it is signed; what stands in the place of its two
fingerprints is not part of what they digest. -/
def draftPlan (snapshot : RouterStateSnapshot) (profiles : List LocalProxyProfile)
    (selectedDevice : Option SelectedDeviceRef) (sourceFingerprint : Digest) :
    ChangePlan Digest :=
  let actions := draftActions foldNonAscii snapshot profiles selectedDevice
  let blocked := planBlocked foldNonAscii snapshot profiles selectedDevice
  { desiredProfiles := profiles
    sourceSnapshotFingerprint := sourceFingerprint
    sourceDefaultPolicyProjection := projectionOf snapshot
    actions
    rollback := actions.reverse.filterMap rollbackFor
    localIntegrityFingerprint := sourceFingerprint
    publicPlanFingerprint := sourceFingerprint
    planStatus := if blocked then .blocked else .hardwareContractPending
    writeReadiness := .blocked
    defaultPolicyNotTargeted := notTargeted foldNonAscii snapshot profiles selectedDevice
    selectedDevice }

def signPlan (plan : ChangePlan Digest) : ChangePlan Digest :=
  { plan with
    localIntegrityFingerprint := localIntegrity sha256Json plan
    publicPlanFingerprint := publicFingerprint sha256Json plan }

end Assembling

def integrityFailure : NetcrazePlanError :=
  netcrazePlanError "Change plan integrity validation failed."

def validateReference (reference : ObjectReference) : Except NetcrazePlanError Unit :=
  match reference.kind with
  | .existingConnection | .existingPolicy =>
      raiseIf (reference.value.getD "" = "" ∨ reference.profileSlot ≠ none) integrityFailure
  | .plannedConnection | .plannedPolicy =>
      raiseIf (reference.value ≠ none ∨ ¬ reference.profileSlot.any (· ∈ [1, 2, 3]))
        integrityFailure

def normalizeSelected : Option SelectedDeviceRef →
    Except NetcrazePlanError (Option SelectedDeviceRef)
  | none => .ok none
  | some device => (normalizeSelectedDeviceRef device).map some

def expectedActionIds (profiles : List LocalProxyProfile)
    (selectedDevice : Option SelectedDeviceRef) : List ActionId :=
  profiles.map (fun profile => .connection profile.slot) ++
    profiles.map (fun profile => .policy profile.slot) ++
    (if selectedDevice.isSome then [.assignment] else []) ++
    [.verifyConnections, .verifyPolicies] ++
    (if selectedDevice.isSome then [.verifyAssignment] else []) ++ [.verifyDefault]

/-- `dict(pairs) == dict(expected)`. -/
def sameDict (pairs expected : List (String × String)) : Prop :=
  ∀ key ∈ pairs.map Prod.fst ++ expected.map Prod.fst,
    (Keyed.lookup Prod.fst key pairs.reverse).map Prod.snd =
      (Keyed.lookup Prod.fst key expected.reverse).map Prod.snd

instance (pairs expected : List (String × String)) : Decidable (sameDict pairs expected) := by
  unfold sameDict
  infer_instance

def profileOfAction (profiles : List LocalProxyProfile) (action : PlanAction) :
    Except NetcrazePlanError LocalProxyProfile :=
  match Keyed.lookup (·.slot) (action.profileSlot.getD 0) profiles with
  | some profile => .ok profile
  | none => .error integrityFailure

/-- What a reuse or a conflict may propose. -/
def validateProposed (action : PlanAction) : Except NetcrazePlanError Unit :=
  match action.operation with
  | .reuseConnection | .reusePolicy =>
      raiseIf (¬ sameDict action.proposed [("semantic_match", "exact")]) integrityFailure
  | .blocked => raiseIf (action.proposed ≠ []) integrityFailure
  | _ =>
      raiseIf (¬ (sameDict action.proposed [] ∨
        sameDict action.proposed [("semantic_match", "ambiguous")] ∨
        sameDict action.proposed [("semantic_match", "false")])) integrityFailure

def validateConnectionAction (profiles : List LocalProxyProfile) (action : PlanAction) :
    Except NetcrazePlanError Unit := do
  let profile ← profileOfAction profiles action
  raiseIf (action.objectType ≠ .connection ∨ action.targetName ≠ connectionName profile ∨
    action.endpoint ≠ some (profileEndpoint profile) ∨ action.dependencies ≠ [] ∨
    action.operation ∉ [.createConnection, .reuseConnection, .conflict]) integrityFailure
  if action.operation = .createConnection then
    raiseIf (¬ sameDict action.proposed (connectionFields profile)) integrityFailure
  else validateProposed action

/-- The only dependency of a policy or an assignment: an object of the kind it
rests on, and if planned, of its own profile. A blocked action may have none. -/
def validateDependency (action : PlanAction) (profile : LocalProxyProfile)
    (existing planned : ReferenceKind) : Except NetcrazePlanError Unit :=
  match action.dependencies with
  | [] => raiseIf (action.operation ≠ .blocked) integrityFailure
  | [reference] =>
      raiseIf ((reference.kind ≠ existing ∧ reference.kind ≠ planned) ∨
        (reference.kind = planned ∧ reference.profileSlot ≠ some profile.slot)) integrityFailure
  | _ => .error integrityFailure

def validatePolicyAction (profiles : List LocalProxyProfile) (action : PlanAction) :
    Except NetcrazePlanError Unit := do
  let profile ← profileOfAction profiles action
  raiseIf (action.objectType ≠ .policy ∨ action.targetName ≠ policyName profile ∨
    action.endpoint ≠ some (profileEndpoint profile) ∨
    action.operation ∉ [.createPolicy, .reusePolicy, .conflict, .blocked]) integrityFailure
  validateDependency action profile .existingConnection .plannedConnection
  if action.operation = .createPolicy then
    raiseIf (¬ sameDict action.proposed [("default", "False"), ("mode", "proxy_only")])
      integrityFailure
  else validateProposed action

def validateAssignmentAction (profiles : List LocalProxyProfile)
    (selectedDevice : Option SelectedDeviceRef) (action : PlanAction) :
    Except NetcrazePlanError Unit :=
  match selectedDevice, profiles with
  | some device, primary :: _ => do
      raiseIf (action.objectType ≠ .assignment ∨ action.targetName ≠ "selected-device" ∨
        action.profileSlot ≠ some primary.slot ∨
        action.endpoint ≠ some (profileEndpoint primary) ∨
        action.operation ∉ [.assignDevice, .reuseAssignment, .blocked] ∨
        action.proposed ≠ []) integrityFailure
      validateDependency action primary .existingPolicy .plannedPolicy
      raiseIf (action.operation = .reuseAssignment ∧ action.observedId ≠ some device.mac)
        integrityFailure
  | _, _ => .error integrityFailure

def validateVerifyAction (objectType : ObjectType) (action : PlanAction) :
    Except NetcrazePlanError Unit :=
  raiseIf (action.operation ≠ .verify ∨ action.objectType ≠ objectType ∨
    action.profileSlot ≠ none ∨ action.endpoint ≠ none ∨ action.dependencies ≠ [] ∨
    action.proposed ≠ []) integrityFailure

/-- One round of the loop over the actions. -/
def validateAction (profiles : List LocalProxyProfile)
    (selectedDevice : Option SelectedDeviceRef) (action : PlanAction) :
    Except NetcrazePlanError Unit := do
  raiseIf (¬ action.proposed.Pairwise (fun a b => toLex a ≤ toLex b) ∨
    action.sensitivity ≠ .localSensitive) integrityFailure
  checkEach validateReference action.dependencies
  match action.actionId with
  | .connection _ => validateConnectionAction profiles action
  | .policy _ => validatePolicyAction profiles action
  | .assignment => validateAssignmentAction profiles selectedDevice action
  | .verifyConnections => validateVerifyAction .connection action
  | .verifyPolicies => validateVerifyAction .policy action
  | .verifyAssignment => validateVerifyAction .assignment action
  | .verifyDefault => validateVerifyAction .defaultPolicy action

section Validating

variable {Digest : Type} [DecidableEq Digest]

def validateDefaultAction (plan : ChangePlan Digest) : Except NetcrazePlanError Unit :=
  match plan.actions.getLast? with
  | none => .error integrityFailure
  | some defaultAction =>
      raiseIf (defaultAction.actionId ≠ .verifyDefault ∨
        defaultAction.observedId ≠ plan.sourceDefaultPolicyProjection.defaultPolicyRef ∨
        (plan.defaultPolicyNotTargeted ∧ defaultAction.reason ≠ none) ∨
        (¬ plan.defaultPolicyNotTargeted ∧
          (defaultAction.readiness ≠ .blocked ∨ defaultAction.reason = none))) integrityFailure

def validateChangePlanIntegrity (sha256Json : PlanPayload Digest → Digest)
    (plan : ChangePlan Digest) : Except NetcrazePlanError Unit := do
  raiseIf (plan.schema ≠ planSchema ∨ plan.softwareVerdict ≠ softwareVerdict ∨
    plan.writeReadiness ≠ .blocked ∨
    plan.planStatus ∉ [.hardwareContractPending, .blocked]) integrityFailure
  let desiredProfiles ← (normalizeDesiredProfiles plan.desiredProfiles).mapError
    (fun _ => integrityFailure)
  raiseIf (desiredProfiles ≠ plan.desiredProfiles) integrityFailure
  let selectedDevice ← (normalizeSelected plan.selectedDevice).mapError
    (fun _ => integrityFailure)
  raiseIf (selectedDevice ≠ plan.selectedDevice) integrityFailure
  raiseIf (plan.actions.map (·.actionId) ≠ expectedActionIds desiredProfiles selectedDevice)
    integrityFailure
  checkEach (validateAction desiredProfiles selectedDevice) plan.actions
  validateDefaultAction plan
  raiseIf (if plan.planStatus = .blocked then
      ∃ action ∈ plan.actions, action.readiness ≠ .blocked
    else plan.defaultPolicyNotTargeted = false ∨
      ∃ action ∈ plan.actions, action.readiness = .blocked) integrityFailure
  raiseIf (plan.rollback ≠ plan.actions.reverse.filterMap rollbackFor) integrityFailure
  raiseIf (plan.localIntegrityFingerprint ≠ localIntegrity sha256Json plan ∨
    plan.publicPlanFingerprint ≠ publicFingerprint sha256Json plan) integrityFailure

/-- `build_change_plan`. -/
def buildChangePlan (foldNonAscii : Char → List Char)
    (sha256Json : PlanPayload Digest → Digest) (manifest : LocalEndpointManifest)
    (snapshot : RouterStateSnapshot) (selectedDevice : Option SelectedDeviceRef) :
    Except NetcrazePlanError (ChangePlan Digest) := do
  let manifest ← normalizeLocalEndpointManifest manifest
  let selectedDevice ← normalizeSelected selectedDevice
  let _ ← validateSnapshotConsistency foldNonAscii snapshot
  let sourceFingerprint ← snapshotSemanticFingerprint sha256Json foldNonAscii snapshot
  let plan := signPlan sha256Json
    (draftPlan foldNonAscii snapshot manifest.profiles selectedDevice sourceFingerprint)
  validateChangePlanIntegrity sha256Json plan
  pure plan

end Validating

end RouterKit.Netcraze
