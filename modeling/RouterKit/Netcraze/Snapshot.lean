import Mathlib.Data.Prod.Lex
import Mathlib.Data.String.Basic
import RouterKit.Lib.Keyed
import RouterKit.Lib.PyText
import RouterKit.Devices.TrustedMac
import RouterKit.Netcraze.Manifest

/-!
The observed router state the offline planner works on, and the checks across
its objects. Names are compared case-folded; the folding of characters outside
ASCII is a parameter.
-/

namespace RouterKit.Netcraze

open RouterKit.Lib RouterKit.Lib.Checked RouterKit.Devices

def snapshotSchemaError (message : String) : NetcrazePlanError := ⟨.snapshotSchema, message⟩
def netcrazePlanError (message : String) : NetcrazePlanError := ⟨.plan, message⟩

def snapshotSchema : String := "routerkit.netcraze.state.fixture.v1"
def maxText : Nat := 128

structure ExistingProxyConnection where
  objectId : String
  name : String
  protocol : String
  host : String
  port : Nat
  authMode : String
  enabled : Bool
  semanticComplete : Bool := true
deriving DecidableEq, Repr

structure ExistingPolicy where
  objectId : String
  name : String
  connectionRef : String
  mode : String
  isDefaultObserved : Bool := false
  semanticComplete : Bool := true
  unrelatedRules : Bool := false
deriving DecidableEq, Repr

structure ExistingDeviceAssignment where
  deviceMac : String
  policyRef : String
deriving DecidableEq, Repr

/-- The parser admits the three named states. -/
inductive SnapshotState where
  | supported
  | degraded
  | contractUnverified
  | other (text : String)
deriving DecidableEq, Repr

inductive DefaultPolicyStatus where
  | known
  | unknown
  | ambiguous
  | other (text : String)
deriving DecidableEq, Repr

structure RouterStateSnapshot where
  snapshotId : String
  state : SnapshotState
  stale : Bool
  defaultPolicyStatus : DefaultPolicyStatus
  defaultPolicyRef : Option String
  connections : List ExistingProxyConnection
  policies : List ExistingPolicy
  assignments : List ExistingDeviceAssignment
  capabilities : List (String × String) := []
  schema : String := snapshotSchema
deriving DecidableEq, Repr

structure SelectedDeviceRef where
  displayName : String
  mac : String
deriving DecidableEq, Repr

structure SnapshotConsistency where
  valid : Bool
  defaultIdentityProven : Bool
  diagnosticCategory : String
deriving DecidableEq, Repr

/-- The default policy and its connection with all their fields, when one is known. -/
structure DefaultPolicyProjection where
  status : DefaultPolicyStatus
  defaultPolicyRef : Option String
  policy : Option ExistingPolicy
  connection : Option ExistingProxyConnection
deriving DecidableEq, Repr

def cleanText (value description : String) : Except NetcrazePlanError String := do
  raiseIf (value.toList.any PyText.isControl)
    (snapshotSchemaError (description ++ " contains control characters."))
  let cleaned := PyText.strip value.toList
  raiseIf (cleaned = [] ∨ maxText < cleaned.length)
    (snapshotSchemaError (description ++ " is invalid."))
  pure (String.ofList cleaned)

/-- `_normalize_mac`. -/
def normalizeMac (value : String) : Except NetcrazePlanError String :=
  (normalizeTrustedDeviceMac value).mapError
    (fun _ => snapshotSchemaError "Device assignment requires a unicast MAC identity.")

/-- Both errors a name or MAC can raise end in one message. -/
def normalizeSelectedDeviceRef (value : SelectedDeviceRef) :
    Except NetcrazePlanError SelectedDeviceRef :=
  match cleanText value.displayName "Selected device name",
      normalizeTrustedDeviceMac value.mac with
  | .ok displayName, .ok mac => .ok { displayName, mac }
  | _, _ => .error (netcrazePlanError "Selected device reference is invalid.")

/-- A cleaned text is clean. -/
theorem cleanText_idem {value description cleaned : String}
    (h : cleanText value description = .ok cleaned) :
    cleanText cleaned description = .ok cleaned := by
  simp only [cleanText, bind_eq_ok, exists_unit, raiseIf_eq_ok, pure_eq_ok] at h
  obtain ⟨hcontrol, hlength, rfl⟩ := h
  have hcontrol' : ¬ (String.ofList (PyText.strip value.toList)).toList.any PyText.isControl := by
    rw [String.toList_ofList, List.any_eq_true]
    rintro ⟨c, hc, hcontrolled⟩
    exact hcontrol (List.any_eq_true.mpr ⟨c, PyText.strip_subset hc, hcontrolled⟩)
  simp only [cleanText, bind_eq_ok, exists_unit, raiseIf_eq_ok, pure_eq_ok]
  refine ⟨hcontrol', ?_, ?_⟩
  · rw [String.toList_ofList, PyText.strip_strip]
    exact hlength
  · rw [String.toList_ofList, PyText.strip_strip]

theorem normalizeSelectedDeviceRef_eq_ok {value selected : SelectedDeviceRef} :
    normalizeSelectedDeviceRef value = .ok selected ↔
      cleanText value.displayName "Selected device name" = .ok selected.displayName ∧
        normalizeTrustedDeviceMac value.mac = .ok selected.mac := by
  unfold normalizeSelectedDeviceRef
  split
  · next displayName mac hname hmac =>
    obtain ⟨name, address⟩ := selected
    simp [hname, hmac]
  · next hnone =>
    simp only [reduceCtorEq, false_iff, not_and]
    exact fun hname hmac => hnone _ _ hname hmac

theorem normalizeSelectedDeviceRef_idem {value selected : SelectedDeviceRef}
    (h : normalizeSelectedDeviceRef value = .ok selected) :
    normalizeSelectedDeviceRef selected = .ok selected := by
  obtain ⟨hname, hmac⟩ := normalizeSelectedDeviceRef_eq_ok.mp h
  exact normalizeSelectedDeviceRef_eq_ok.mpr
    ⟨cleanText_idem hname, normalizeTrustedDeviceMac_idem hmac⟩

section Consistency

variable (foldNonAscii : Char → List Char)

/-- `name.casefold()`. -/
def casefold (name : String) : List Char := PyText.casefold foldNonAscii name.toList

def checkDistinct {α : Type} (label : String) (objectId name : α → String) (items : List α) :
    Except NetcrazePlanError Unit :=
  raiseIf (¬ (items.map objectId).Nodup ∨ ¬ (items.map (casefold foldNonAscii ∘ name)).Nodup)
    (snapshotSchemaError ("Router snapshot contains duplicate " ++ label ++ " IDs or names."))

def checkAssignment (snapshot : RouterStateSnapshot) (assignment : ExistingDeviceAssignment) :
    Except NetcrazePlanError Unit := do
  let normalized ← normalizeMac assignment.deviceMac
  raiseIf (assignment.deviceMac ≠ normalized)
    (snapshotSchemaError "Router assignment MAC identity is not normalized.")
  raiseIf (assignment.policyRef ∉ snapshot.policies.map (·.objectId))
    (snapshotSchemaError "Router assignment references an unknown policy.")

def observedDefaults (snapshot : RouterStateSnapshot) : List ExistingPolicy :=
  snapshot.policies.filter (·.isDefaultObserved)

def policyById (snapshot : RouterStateSnapshot) (objectId : String) : Option ExistingPolicy :=
  Keyed.lookup (·.objectId) objectId snapshot.policies

def connectionById (snapshot : RouterStateSnapshot) (objectId : String) :
    Option ExistingProxyConnection :=
  Keyed.lookup (·.objectId) objectId snapshot.connections

/-- The evidence for the default policy, by its status; whether it is proven. A
policy's connection is known to exist by now. -/
def checkDefault (snapshot : RouterStateSnapshot) : Except NetcrazePlanError Bool :=
  match snapshot.defaultPolicyStatus with
  | .known =>
      match policyById snapshot (snapshot.defaultPolicyRef.getD "") with
      | none => .error (snapshotSchemaError "Known default-policy evidence is inconsistent.")
      | some defaultPolicy => do
          raiseIf (observedDefaults snapshot ≠ [defaultPolicy])
            (snapshotSchemaError "Known default-policy evidence is inconsistent.")
          raiseIf (¬ (defaultPolicy.semanticComplete ∧
              (connectionById snapshot defaultPolicy.connectionRef).any (·.semanticComplete)))
            (snapshotSchemaError "Known default-policy semantics are incomplete.")
          pure true
  | .unknown => do
      raiseIf (snapshot.defaultPolicyRef ≠ none ∨ observedDefaults snapshot ≠ [])
        (snapshotSchemaError "Unknown default-policy evidence is inconsistent.")
      pure false
  | .ambiguous => do
      raiseIf (snapshot.defaultPolicyRef ≠ none ∨ (observedDefaults snapshot).length < 2)
        (snapshotSchemaError "Ambiguous default-policy evidence is inconsistent.")
      pure false
  | .other _ => .error (snapshotSchemaError "Default-policy status is unsupported.")

/-- `dict(snapshot.capabilities).get(name)`: the last entry of a name counts. -/
def capabilityOf (snapshot : RouterStateSnapshot) (name : String) : Option String :=
  (Keyed.lookup Prod.fst name snapshot.capabilities.reverse).map Prod.snd

def allowedDefaultCapabilities : DefaultPolicyStatus → List (Option String)
  | .known => [none, some "documented", some "inferred"]
  | .unknown | .ambiguous => [none, some "unknown", some "hardware_confirmation_required"]
  | .other _ => []

def checkCapabilities (snapshot : RouterStateSnapshot) : Except NetcrazePlanError Unit := do
  raiseIf (capabilityOf snapshot "default_policy_identity" ∉
      allowedDefaultCapabilities snapshot.defaultPolicyStatus)
    (snapshotSchemaError "Default-policy capability contradicts the observation.")
  raiseIf (snapshot.state = .supported ∧
      ["connection_inventory", "policy_inventory"].any
        (fun name => capabilityOf snapshot name = some "unknown"))
    (snapshotSchemaError "Supported snapshot capabilities are internally inconsistent.")
  raiseIf (capabilityOf snapshot "write_contract" = some "documented")
    (snapshotSchemaError "Fixture snapshot cannot claim a completed write contract.")

def validateSnapshotConsistency (snapshot : RouterStateSnapshot) :
    Except NetcrazePlanError SnapshotConsistency := do
  checkDistinct foldNonAscii "connection" (·.objectId) (·.name) snapshot.connections
  checkDistinct foldNonAscii "policy" (·.objectId) (·.name) snapshot.policies
  raiseIf (∃ policy ∈ snapshot.policies,
      policy.connectionRef ∉ snapshot.connections.map (·.objectId))
    (snapshotSchemaError "Router policy references an unknown connection.")
  raiseIf (¬ snapshot.assignments.Nodup)
    (snapshotSchemaError "Router snapshot contains a duplicate assignment.")
  raiseIf (¬ (snapshot.assignments.map (·.deviceMac)).Nodup)
    (snapshotSchemaError "One device cannot be assigned to multiple policies.")
  checkEach (checkAssignment snapshot) snapshot.assignments
  let defaultIdentityProven ← checkDefault snapshot
  checkCapabilities snapshot
  pure {
    valid := true
    defaultIdentityProven
    diagnosticCategory :=
      if defaultIdentityProven then "consistent_known_default"
      else "consistent_diagnostic_default" }

/-- The default-policy semantics of a validated snapshot. -/
def projectionOf (snapshot : RouterStateSnapshot) : DefaultPolicyProjection :=
  match snapshot.defaultPolicyStatus, snapshot.defaultPolicyRef with
  | .known, some ref =>
      let policy := policyById snapshot ref
      { status := .known
        defaultPolicyRef := some ref
        policy
        connection := policy.bind (fun policy => connectionById snapshot policy.connectionRef) }
  | status, ref => { status, defaultPolicyRef := ref, policy := none, connection := none }

def defaultPolicyProjection (snapshot : RouterStateSnapshot) :
    Except NetcrazePlanError DefaultPolicyProjection := do
  let _ ← validateSnapshotConsistency foldNonAscii snapshot
  pure (projectionOf snapshot)

end Consistency

section Consistent

variable (foldNonAscii : Char → List Char)

/-- What the validator establishes. -/
structure RouterStateSnapshot.Consistent (snapshot : RouterStateSnapshot) : Prop where
  connectionIds_nodup : (snapshot.connections.map (·.objectId)).Nodup
  connectionNames_nodup :
    (snapshot.connections.map (fun c => casefold foldNonAscii c.name)).Nodup
  policyIds_nodup : (snapshot.policies.map (·.objectId)).Nodup
  policyNames_nodup : (snapshot.policies.map (fun p => casefold foldNonAscii p.name)).Nodup
  connectionRefs : ∀ policy ∈ snapshot.policies,
    policy.connectionRef ∈ snapshot.connections.map (·.objectId)
  deviceMacs_nodup : (snapshot.assignments.map (·.deviceMac)).Nodup
  assignments : ∀ assignment ∈ snapshot.assignments,
    normalizeTrustedDeviceMac assignment.deviceMac = .ok assignment.deviceMac ∧
      assignment.policyRef ∈ snapshot.policies.map (·.objectId)
  default : (checkDefault snapshot).isOk
  capabilities : checkCapabilities snapshot = .ok ()

private theorem checkAssignment_eq_ok {snapshot : RouterStateSnapshot}
    {assignment : ExistingDeviceAssignment} :
    checkAssignment snapshot assignment = .ok () ↔
      normalizeTrustedDeviceMac assignment.deviceMac = .ok assignment.deviceMac ∧
        assignment.policyRef ∈ snapshot.policies.map (·.objectId) := by
  simp only [checkAssignment, bind_eq_ok, exists_unit, raiseIf_eq_ok, not_not, ne_eq]
  cases h : normalizeTrustedDeviceMac assignment.deviceMac with
  | error e => simp [normalizeMac, h, Except.mapError]
  | ok mac => simp [normalizeMac, h, Except.mapError]

/-- The default policy is proven exactly when its status says it is known. -/
theorem checkDefault_eq_ok {snapshot : RouterStateSnapshot} {proven : Bool}
    (h : checkDefault snapshot = .ok proven) :
    proven = decide (snapshot.defaultPolicyStatus = .known) := by
  unfold checkDefault at h
  split at h
  · next hstatus =>
    split at h
    · cases h
    · simp only [bind_eq_ok, pure_eq_ok] at h
      obtain ⟨-, -, -, -, rfl⟩ := h
      simp [hstatus]
  · next hstatus =>
    simp only [bind_eq_ok, pure_eq_ok] at h
    obtain ⟨-, -, rfl⟩ := h
    simp [hstatus]
  · next hstatus =>
    simp only [bind_eq_ok, pure_eq_ok] at h
    obtain ⟨-, -, rfl⟩ := h
    simp [hstatus]
  · cases h

def consistencyOf (snapshot : RouterStateSnapshot) : SnapshotConsistency :=
  let proven := decide (snapshot.defaultPolicyStatus = .known)
  { valid := true
    defaultIdentityProven := proven
    diagnosticCategory :=
      if proven then "consistent_known_default" else "consistent_diagnostic_default" }

theorem validateSnapshotConsistency_eq_ok {snapshot : RouterStateSnapshot}
    {consistency : SnapshotConsistency} :
    validateSnapshotConsistency foldNonAscii snapshot = .ok consistency ↔
      snapshot.Consistent foldNonAscii ∧ consistency = consistencyOf snapshot := by
  have hmacs : (snapshot.assignments.map (·.deviceMac)).Nodup → snapshot.assignments.Nodup :=
    List.Nodup.of_map _
  simp only [validateSnapshotConsistency, checkDistinct, bind_eq_ok, exists_unit, raiseIf_eq_ok,
    checkEach_eq_ok, checkAssignment_eq_ok, not_or, not_not, not_exists, not_and, pure_eq_ok]
  constructor
  · rintro ⟨⟨h1, h2⟩, ⟨h3, h4⟩, h5, -, h6, h7, proven, hdefault, h8, rfl⟩
    refine ⟨⟨h1, h2, h3, h4, h5, h6, h7, by simp [hdefault, Except.isOk, Except.toBool], h8⟩, ?_⟩
    rw [checkDefault_eq_ok hdefault, consistencyOf]
  · rintro ⟨⟨h1, h2, h3, h4, h5, h6, h7, hdefault, h8⟩, rfl⟩
    cases hproven : checkDefault snapshot with
    | error e => simp [hproven, Except.isOk, Except.toBool] at hdefault
    | ok proven =>
        refine ⟨⟨h1, h2⟩, ⟨h3, h4⟩, h5, hmacs h6, h6, h7, proven, rfl, h8, ?_⟩
        rw [checkDefault_eq_ok hproven, consistencyOf]

end Consistent

section Growing

variable {foldNonAscii : Char → List Char} {snapshot : RouterStateSnapshot}

theorem RouterStateSnapshot.Consistent.projection (h : snapshot.Consistent foldNonAscii) :
    defaultPolicyProjection foldNonAscii snapshot = .ok (projectionOf snapshot) := by
  have hvalid := (validateSnapshotConsistency_eq_ok foldNonAscii).mpr ⟨h, rfl⟩
  rw [defaultPolicyProjection, hvalid]
  rfl

/-- The objects of a known default policy. -/
theorem RouterStateSnapshot.Consistent.knownDefault (h : snapshot.Consistent foldNonAscii)
    (hknown : snapshot.defaultPolicyStatus = .known) :
    ∃ policy connection, policyById snapshot (snapshot.defaultPolicyRef.getD "") = some policy ∧
      connectionById snapshot policy.connectionRef = some connection ∧
      observedDefaults snapshot = [policy] ∧ policy.semanticComplete = true ∧
      connection.semanticComplete = true := by
  have hdefault := h.default
  unfold checkDefault at hdefault
  rw [hknown] at hdefault
  simp only at hdefault
  cases hpolicy : policyById snapshot (snapshot.defaultPolicyRef.getD "") with
  | none => simp [hpolicy, Except.isOk, Except.toBool] at hdefault
  | some policy =>
      rw [hpolicy] at hdefault
      simp only [raiseIf] at hdefault
      split at hdefault
      · cases hdefault
      · next hobserved =>
        simp only [bind_ok_left] at hdefault
        split at hdefault
        · cases hdefault
        · next hcomplete =>
          rw [not_not, Option.any_eq_true] at hcomplete
          obtain ⟨hpolicyComplete, connection, hconnection, hconnectionComplete⟩ := hcomplete
          exact ⟨policy, connection, rfl, hconnection, not_not.mp hobserved, hpolicyComplete,
            hconnectionComplete⟩

/-- Objects added behind those of a snapshot. -/
def RouterStateSnapshot.grow (snapshot : RouterStateSnapshot)
    (connections : List ExistingProxyConnection) (policies : List ExistingPolicy)
    (assignments : List ExistingDeviceAssignment) : RouterStateSnapshot :=
  { snapshot with
    connections := snapshot.connections ++ connections
    policies := snapshot.policies ++ policies
    assignments := snapshot.assignments ++ assignments }

variable {connections : List ExistingProxyConnection} {policies : List ExistingPolicy}
  {assignments : List ExistingDeviceAssignment}

theorem connectionById_grow {objectId : String} {connection : ExistingProxyConnection}
    (h : connectionById snapshot objectId = some connection) :
    connectionById (snapshot.grow connections policies assignments) objectId =
      some connection := by
  obtain ⟨hmem, hid⟩ := Keyed.lookup_some _ h
  have hkey : objectId ∈ snapshot.connections.map (·.objectId) :=
    List.mem_map.mpr ⟨connection, hmem, hid⟩
  exact (Keyed.lookup_append_of_mem _ hkey).trans h

theorem policyById_grow {objectId : String} {policy : ExistingPolicy}
    (h : policyById snapshot objectId = some policy) :
    policyById (snapshot.grow connections policies assignments) objectId = some policy := by
  obtain ⟨hmem, hid⟩ := Keyed.lookup_some _ h
  have hkey : objectId ∈ snapshot.policies.map (·.objectId) :=
    List.mem_map.mpr ⟨policy, hmem, hid⟩
  exact (Keyed.lookup_append_of_mem _ hkey).trans h

variable (snapshot connections assignments) in
theorem observedDefaults_grow (hdefault : ∀ policy ∈ policies, policy.isDefaultObserved = false) :
    observedDefaults (snapshot.grow connections policies assignments) =
      observedDefaults snapshot := by
  have hnone : policies.filter (·.isDefaultObserved) = [] :=
    List.filter_eq_nil_iff.mpr (fun policy hpolicy => by simp [hdefault policy hpolicy])
  simp [observedDefaults, RouterStateSnapshot.grow, hnone]

variable (connections assignments) in
/-- Adding no default policy leaves the evidence for it as it was. -/
theorem checkDefault_grow (h : snapshot.Consistent foldNonAscii)
    (hdefault : ∀ policy ∈ policies, policy.isDefaultObserved = false) :
    checkDefault (snapshot.grow connections policies assignments) = checkDefault snapshot := by
  have hobserved := observedDefaults_grow snapshot connections assignments hdefault
  have hstatus' : (snapshot.grow connections policies assignments).defaultPolicyStatus =
      snapshot.defaultPolicyStatus := rfl
  have href : (snapshot.grow connections policies assignments).defaultPolicyRef =
      snapshot.defaultPolicyRef := rfl
  simp only [checkDefault, hstatus', href, hobserved]
  cases hstatus : snapshot.defaultPolicyStatus with
  | known =>
      obtain ⟨policy, connection, hpolicy, hconnection, -⟩ := h.knownDefault hstatus
      simp only [hpolicy, policyById_grow hpolicy, hconnection, connectionById_grow hconnection]
  | unknown => rfl
  | ambiguous => rfl
  | other text => rfl

variable (connections assignments) in
theorem projectionOf_grow (h : snapshot.Consistent foldNonAscii) :
    projectionOf (snapshot.grow connections policies assignments) = projectionOf snapshot := by
  have hstatus' : (snapshot.grow connections policies assignments).defaultPolicyStatus =
      snapshot.defaultPolicyStatus := rfl
  have href' : (snapshot.grow connections policies assignments).defaultPolicyRef =
      snapshot.defaultPolicyRef := rfl
  simp only [projectionOf, hstatus', href']
  cases hstatus : snapshot.defaultPolicyStatus with
  | known =>
      cases href : snapshot.defaultPolicyRef with
      | none => rfl
      | some ref =>
          obtain ⟨policy, connection, hpolicy, hconnection, -⟩ := h.knownDefault hstatus
          rw [href, Option.getD_some] at hpolicy
          simp only [hpolicy, policyById_grow hpolicy, Option.bind_some, hconnection,
            connectionById_grow hconnection]
  | unknown => rfl
  | ambiguous => rfl
  | other text => rfl

/-- Growing keeps a snapshot consistent when the new ids, names and devices are
new, what is referred to exists, and no new policy is the default. -/
theorem RouterStateSnapshot.Consistent.grow (h : snapshot.Consistent foldNonAscii)
    (hconnectionIds : ((snapshot.connections ++ connections).map (·.objectId)).Nodup)
    (hconnectionNames : ((snapshot.connections ++ connections).map
      (fun c => casefold foldNonAscii c.name)).Nodup)
    (hpolicyIds : ((snapshot.policies ++ policies).map (·.objectId)).Nodup)
    (hpolicyNames : ((snapshot.policies ++ policies).map
      (fun p => casefold foldNonAscii p.name)).Nodup)
    (hconnectionRefs : ∀ policy ∈ policies,
      policy.connectionRef ∈ (snapshot.connections ++ connections).map (·.objectId))
    (hdeviceMacs : ((snapshot.assignments ++ assignments).map (·.deviceMac)).Nodup)
    (hassignments : ∀ assignment ∈ assignments,
      normalizeTrustedDeviceMac assignment.deviceMac = .ok assignment.deviceMac ∧
        assignment.policyRef ∈ (snapshot.policies ++ policies).map (·.objectId))
    (hdefault : ∀ policy ∈ policies, policy.isDefaultObserved = false) :
    (snapshot.grow connections policies assignments).Consistent foldNonAscii where
  connectionIds_nodup := hconnectionIds
  connectionNames_nodup := hconnectionNames
  policyIds_nodup := hpolicyIds
  policyNames_nodup := hpolicyNames
  connectionRefs := by
    intro policy hpolicy
    rcases List.mem_append.mp hpolicy with hold | hnew
    · have hmem := h.connectionRefs policy hold
      rw [RouterStateSnapshot.grow, List.map_append]
      exact List.mem_append_left _ hmem
    · exact hconnectionRefs policy hnew
  deviceMacs_nodup := hdeviceMacs
  assignments := by
    intro assignment hassignment
    rcases List.mem_append.mp hassignment with hold | hnew
    · obtain ⟨hmac, hmem⟩ := h.assignments assignment hold
      rw [RouterStateSnapshot.grow, List.map_append]
      exact ⟨hmac, List.mem_append_left _ hmem⟩
    · exact hassignments assignment hnew
  default := by
    rw [checkDefault_grow connections assignments h hdefault]
    exact h.default
  capabilities := h.capabilities

end Growing

end RouterKit.Netcraze
