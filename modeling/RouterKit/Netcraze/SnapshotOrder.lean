import RouterKit.Netcraze.PlanIntegrity

/-!
A router lists its objects in no particular order. Two snapshots that agree up
to that order have one semantic fingerprint, snapshots with one fingerprint
agree up to that order, and the planner makes the same of both.
-/

namespace RouterKit.Netcraze

open RouterKit.Lib RouterKit.Lib.Checked RouterKit.Devices

/-- The same observation, listed in whatever order under whatever id. -/
structure RouterStateSnapshot.SameObjects (snapshot other : RouterStateSnapshot) : Prop where
  schema : snapshot.schema = other.schema
  state : snapshot.state = other.state
  stale : snapshot.stale = other.stale
  defaultPolicyStatus : snapshot.defaultPolicyStatus = other.defaultPolicyStatus
  defaultPolicyRef : snapshot.defaultPolicyRef = other.defaultPolicyRef
  connections : snapshot.connections.Perm other.connections
  policies : snapshot.policies.Perm other.policies
  assignments : snapshot.assignments.Perm other.assignments
  capabilities : snapshot.capabilities.Perm other.capabilities

theorem assignmentKey_inj {a b : ExistingDeviceAssignment}
    (h : toLex (a.deviceMac, a.policyRef) = toLex (b.deviceMac, b.policyRef)) : a = b := by
  have hpair := Prod.mk.inj (toLex.injective h)
  cases a
  cases b
  simp_all

section Lookups

variable {foldNonAscii : Char → List Char} {snapshot other : RouterStateSnapshot}
  (hconsistent : snapshot.Consistent foldNonAscii) (hsame : snapshot.SameObjects other)
include hconsistent hsame

theorem connectionById_congr (objectId : String) :
    connectionById snapshot objectId = connectionById other objectId :=
  Keyed.lookup_perm _ hconsistent.connectionIds_nodup hsame.connections

theorem policyById_congr (objectId : String) :
    policyById snapshot objectId = policyById other objectId :=
  Keyed.lookup_perm _ hconsistent.policyIds_nodup hsame.policies

theorem projectionOf_congr : projectionOf snapshot = projectionOf other := by
  simp only [projectionOf, hsame.defaultPolicyStatus, hsame.defaultPolicyRef,
    connectionById_congr hconsistent hsame, policyById_congr hconsistent hsame]

theorem sameNameConnection_congr (target : String) :
    sameNameConnection foldNonAscii snapshot target =
      sameNameConnection foldNonAscii other target := by
  have hlookup : Keyed.lookup (fun c : ExistingProxyConnection => casefold foldNonAscii c.name)
      (casefold foldNonAscii target) snapshot.connections = Keyed.lookup
        (fun c => casefold foldNonAscii c.name) (casefold foldNonAscii target) other.connections :=
    Keyed.lookup_perm _ hconsistent.connectionNames_nodup hsame.connections
  exact hlookup

theorem sameNamePolicy_congr (target : String) :
    sameNamePolicy foldNonAscii snapshot target = sameNamePolicy foldNonAscii other target := by
  have hlookup : Keyed.lookup (fun p : ExistingPolicy => casefold foldNonAscii p.name)
      (casefold foldNonAscii target) snapshot.policies = Keyed.lookup
        (fun p => casefold foldNonAscii p.name) (casefold foldNonAscii target) other.policies :=
    Keyed.lookup_perm _ hconsistent.policyNames_nodup hsame.policies
  exact hlookup

theorem exactConnections_congr (profile : LocalProxyProfile) :
    exactConnections snapshot profile = exactConnections other profile := by
  apply (Keyed.sortByKey_eq_iff_perm _ _ _ _).mpr (hsame.connections.filter _)
  intro a ha b hb hid
  exact List.inj_on_of_nodup_map hconsistent.connectionIds_nodup (List.mem_filter.mp ha).1
    (List.mem_filter.mp hb).1 hid

theorem exactPolicies_congr (connectionRef : String) :
    exactPolicies snapshot connectionRef = exactPolicies other connectionRef := by
  apply (Keyed.sortByKey_eq_iff_perm _ _ _ _).mpr (hsame.policies.filter _)
  intro a ha b hb hid
  exact List.inj_on_of_nodup_map hconsistent.policyIds_nodup (List.mem_filter.mp ha).1
    (List.mem_filter.mp hb).1 hid

theorem assignmentOf_congr (mac : String) :
    snapshot.assignments.find? (fun item => item.deviceMac = mac) =
      other.assignments.find? (fun item => item.deviceMac = mac) := by
  have hlookup : Keyed.lookup (fun a : ExistingDeviceAssignment => a.deviceMac) mac
      snapshot.assignments = Keyed.lookup (fun a => a.deviceMac) mac other.assignments :=
    Keyed.lookup_perm _ hconsistent.deviceMacs_nodup hsame.assignments
  exact hlookup

omit hconsistent in
theorem mem_allObjectIds_congr (objectId : String) :
    objectId ∈ allObjectIds snapshot ↔ objectId ∈ allObjectIds other :=
  ((hsame.connections.map _).append (hsame.policies.map _)).mem_iff

theorem planConnection_congr (profile : LocalProxyProfile) :
    planConnection foldNonAscii snapshot profile = planConnection foldNonAscii other profile := by
  simp only [planConnection, exactConnections_congr hconsistent hsame,
    sameNameConnection_congr hconsistent hsame, mem_allObjectIds_congr hsame, basePreconditions,
    hsame.stale]

theorem planPolicy_congr (desiredRef : Option ObjectReference) (profile : LocalProxyProfile) :
    planPolicy foldNonAscii snapshot desiredRef profile =
      planPolicy foldNonAscii other desiredRef profile := by
  simp only [planPolicy, exactPoliciesFor, exactPolicies_congr hconsistent hsame,
    sameNamePolicy_congr hconsistent hsame, mem_allObjectIds_congr hsame, basePreconditions,
    hsame.stale, hsame.defaultPolicyRef]

theorem planDevice_congr (device : SelectedDeviceRef) (desiredPolicyRef : Option ObjectReference)
    (primary : LocalProxyProfile) :
    planDevice snapshot device desiredPolicyRef primary =
      planDevice other device desiredPolicyRef primary := by
  simp only [planDevice, assignmentOf_congr hconsistent hsame, basePreconditions, hsame.stale,
    hsame.defaultPolicyRef]

theorem plannedObjects_congr (profiles : List LocalProxyProfile)
    (selectedDevice : Option SelectedDeviceRef) :
    plannedObjects foldNonAscii snapshot profiles selectedDevice =
      plannedObjects foldNonAscii other profiles selectedDevice := by
  have hconnection : planConnection foldNonAscii snapshot = planConnection foldNonAscii other :=
    funext (planConnection_congr hconsistent hsame)
  simp only [plannedObjects, planConnections, planPolicies, planAssignments, connectionRef,
    policyRef, hconnection, planPolicy_congr hconsistent hsame, planDevice_congr hconsistent hsame]

theorem notTargeted_congr (profiles : List LocalProxyProfile)
    (selectedDevice : Option SelectedDeviceRef) :
    notTargeted foldNonAscii snapshot profiles selectedDevice =
      notTargeted foldNonAscii other profiles selectedDevice := by
  simp only [notTargeted, objectActions, plannedObjects_congr hconsistent hsame,
    proveDefaultPolicyNotTargeted, projectionOf_congr hconsistent hsame]

theorem planBlocked_congr (profiles : List LocalProxyProfile)
    (selectedDevice : Option SelectedDeviceRef) :
    planBlocked foldNonAscii snapshot profiles selectedDevice =
      planBlocked foldNonAscii other profiles selectedDevice := by
  simp only [planBlocked, plannedObjects_congr hconsistent hsame,
    notTargeted_congr hconsistent hsame, hsame.state, hsame.stale, hsame.defaultPolicyStatus]

/-- One draft for both listings. -/
theorem draftPlan_congr {Digest : Type} (profiles : List LocalProxyProfile)
    (selectedDevice : Option SelectedDeviceRef) (fingerprint : Digest) :
    draftPlan foldNonAscii snapshot profiles selectedDevice fingerprint =
      draftPlan foldNonAscii other profiles selectedDevice fingerprint := by
  have hactions : draftActions foldNonAscii snapshot profiles selectedDevice =
      draftActions foldNonAscii other profiles selectedDevice := by
    simp only [draftActions, objectActions, plannedObjects_congr hconsistent hsame,
      notTargeted_congr hconsistent hsame, planBlocked_congr hconsistent hsame, verifyActions,
      hsame.defaultPolicyRef]
  simp only [draftPlan, hactions, planBlocked_congr hconsistent hsame,
    notTargeted_congr hconsistent hsame, projectionOf_congr hconsistent hsame]

/-- The canonical semantics forgets the order, and nothing else. -/
theorem snapshotSemantics_congr : snapshotSemantics snapshot = snapshotSemantics other := by
  have hconnections : Keyed.sortByKey (·.objectId) snapshot.connections =
      Keyed.sortByKey (·.objectId) other.connections := by
    apply (Keyed.sortByKey_eq_iff_perm _ _ _ _).mpr hsame.connections
    exact fun _ ha _ hb => List.inj_on_of_nodup_map hconsistent.connectionIds_nodup ha hb
  have hpolicies : Keyed.sortByKey (·.objectId) snapshot.policies =
      Keyed.sortByKey (·.objectId) other.policies := by
    apply (Keyed.sortByKey_eq_iff_perm _ _ _ _).mpr hsame.policies
    exact fun _ ha _ hb => List.inj_on_of_nodup_map hconsistent.policyIds_nodup ha hb
  have hassignments := (Keyed.sortByKey_eq_iff_perm
    (fun a : ExistingDeviceAssignment => toLex (a.deviceMac, a.policyRef)) _ _
      (fun a _ b _ => assignmentKey_inj)).mpr hsame.assignments
  have hcapabilities := (Keyed.sortByKey_eq_iff_perm
    (fun entry : String × String => toLex entry) _ _
      (fun a _ b _ => toLex.injective.eq_iff.mp)).mpr hsame.capabilities
  simp only [snapshotSemantics, hsame.schema, hsame.state, hsame.stale,
    projectionOf_congr hconsistent hsame, hconnections, hpolicies, hassignments, hcapabilities]

end Lookups

theorem projectionOf_observation (snapshot : RouterStateSnapshot) :
    (projectionOf snapshot).status = snapshot.defaultPolicyStatus ∧
      (projectionOf snapshot).defaultPolicyRef = snapshot.defaultPolicyRef := by
  unfold projectionOf
  split
  · next hstatus href => exact ⟨hstatus.symm, href.symm⟩
  · exact ⟨rfl, rfl⟩

theorem sameObjects_of_semantics {snapshot other : RouterStateSnapshot}
    (h : snapshotSemantics snapshot = snapshotSemantics other) : snapshot.SameObjects other := by
  simp only [snapshotSemantics, SnapshotSemantics.mk.injEq] at h
  obtain ⟨hschema, hstate, hstale, hprojection, hconnections, hpolicies, hassignments,
    hcapabilities⟩ := h
  obtain ⟨hstatus, href⟩ := projectionOf_observation snapshot
  obtain ⟨hstatus', href'⟩ := projectionOf_observation other
  refine ⟨hschema, hstate, hstale, ?_, ?_, Keyed.perm_of_sortByKey_eq _ hconnections,
    Keyed.perm_of_sortByKey_eq _ hpolicies, Keyed.perm_of_sortByKey_eq _ hassignments,
    Keyed.perm_of_sortByKey_eq _ hcapabilities⟩
  · rw [← hstatus, hprojection, hstatus']
  · rw [← href, hprojection, href']

section Results

variable {Digest : Type} {sha256Json : PlanPayload Digest → Digest}
  {foldNonAscii : Char → List Char} {snapshot other : RouterStateSnapshot}

theorem RouterStateSnapshot.Consistent.fingerprint (h : snapshot.Consistent foldNonAscii) :
    snapshotSemanticFingerprint sha256Json foldNonAscii snapshot =
      .ok (sha256Json (.snapshot (snapshotSemantics snapshot))) := by
  rw [snapshotSemanticFingerprint, h.projection]
  rfl

/-- Equal fingerprints mean the same objects. -/
theorem fingerprint_eq_iff_sameObjects (hconsistent : snapshot.Consistent foldNonAscii)
    (hconsistent' : other.Consistent foldNonAscii)
    (hinjective : ∀ a b, sha256Json (.snapshot a) = sha256Json (.snapshot b) → a = b) :
    snapshotSemanticFingerprint sha256Json foldNonAscii snapshot =
        snapshotSemanticFingerprint sha256Json foldNonAscii other ↔
      snapshot.SameObjects other := by
  rw [hconsistent.fingerprint, hconsistent'.fingerprint, Except.ok.injEq]
  constructor
  · intro h
    exact sameObjects_of_semantics (hinjective _ _ h)
  · intro hsame
    rw [snapshotSemantics_congr hconsistent hsame]

/-- One plan, or one error, for both listings. -/
theorem buildChangePlan_congr [DecidableEq Digest] (hconsistent : snapshot.Consistent foldNonAscii)
    (hconsistent' : other.Consistent foldNonAscii) (hsame : snapshot.SameObjects other)
    (manifest : LocalEndpointManifest) (selectedDevice : Option SelectedDeviceRef) :
    buildChangePlan foldNonAscii sha256Json manifest snapshot selectedDevice =
      buildChangePlan foldNonAscii sha256Json manifest other selectedDevice := by
  have hvalid := (validateSnapshotConsistency_eq_ok foldNonAscii).mpr ⟨hconsistent, rfl⟩
  have hvalid' := (validateSnapshotConsistency_eq_ok foldNonAscii).mpr ⟨hconsistent', rfl⟩
  simp only [buildChangePlan, hvalid, hvalid', hconsistent.fingerprint, hconsistent'.fingerprint,
    snapshotSemantics_congr hconsistent hsame, bind_ok_left, draftPlan_congr hconsistent hsame]

def IsManifestError (e : NetcrazePlanError) : Prop := e.kind = .manifestSchema

private theorem manifest_check_raises (condition : Prop) [Decidable condition] (message : String) :
    RaisesOnly IsManifestError (raiseIf condition (manifestSchemaError message)) :=
  raisesOnly_raiseIf.mpr (fun _ => rfl)

private theorem checkHost_raises (host : String) : RaisesOnly IsManifestError (checkHost host) := by
  unfold checkHost
  split
  · exact raisesOnly_error.mpr rfl
  · exact manifest_check_raises _ _

theorem checkDesiredProfiles_raises (seenPorts : List Nat) (profiles : List LocalProxyProfile) :
    RaisesOnly IsManifestError (checkDesiredProfiles seenPorts profiles) := by
  induction profiles generalizing seenPorts with
  | nil => exact raisesOnly_ok
  | cons profile rest ih =>
      have hprofile : RaisesOnly IsManifestError (checkDesiredProfile seenPorts profile) := by
        unfold checkDesiredProfile
        apply RaisesOnly.bind (manifest_check_raises _ _)
        intro _ _
        apply RaisesOnly.bind (manifest_check_raises _ _)
        intro _ _
        apply RaisesOnly.bind (checkHost_raises _)
        intro _ _
        apply RaisesOnly.bind (manifest_check_raises _ _)
        intro _ _
        exact manifest_check_raises _ _
      apply hprofile.bind
      intro _ _
      exact ih (profile.port :: seenPorts)

/-- Whatever is wrong with a manifest, the error is of one class. -/
theorem normalizeLocalEndpointManifest_raises (manifest : LocalEndpointManifest) :
    RaisesOnly IsManifestError (normalizeLocalEndpointManifest manifest) := by
  have hprofiles : RaisesOnly IsManifestError (normalizeDesiredProfiles manifest.profiles) := by
    apply RaisesOnly.bind (manifest_check_raises _ _)
    intro _ _
    apply (checkDesiredProfiles_raises [] manifest.profiles).bind
    intro _ _
    apply RaisesOnly.bind (manifest_check_raises _ _)
    intro _ _
    exact raisesOnly_pure
  apply RaisesOnly.bind (manifest_check_raises _ _)
  intro _ _
  apply hprofiles.bind
  intro _ _
  exact raisesOnly_pure

/-- The order in which a manifest lists its profiles does not matter. -/
theorem normalizeLocalEndpointManifest_reordered
    {manifest reordered normalized : LocalEndpointManifest}
    (hschema : manifest.schema = reordered.schema)
    (hprofiles : manifest.profiles.Perm reordered.profiles)
    (h : normalizeLocalEndpointManifest manifest = .ok normalized) :
    normalizeLocalEndpointManifest reordered = .ok normalized := by
  rw [normalizeLocalEndpointManifest_eq_ok, normalizeDesiredProfiles_eq_ok] at h ⊢
  obtain ⟨hname, ⟨hlength, ⟨hall, hnodup⟩, hsort, hslots⟩, hnormalized⟩ := h
  have hslotsNodup : (manifest.profiles.map (·.slot)).Nodup := by
    have hperm : (normalized.profiles.map (·.slot)).Perm (manifest.profiles.map (·.slot)) :=
      (hsort ▸ List.mergeSort_perm _ _ : normalized.profiles.Perm manifest.profiles).map _
    apply hperm.nodup_iff.mp
    rw [hslots]
    exact List.nodup_range'
  have hresorted : Keyed.sortByKey (·.slot) manifest.profiles =
      Keyed.sortByKey (·.slot) reordered.profiles := by
    apply (Keyed.sortByKey_eq_iff_perm _ _ _ _).mpr hprofiles
    exact fun _ ha _ hb => List.inj_on_of_nodup_map hslotsNodup ha hb
  refine ⟨hschema ▸ hname, ⟨hprofiles.length_eq ▸ hlength, ⟨?_, ?_⟩, ?_, hslots⟩, hnormalized⟩
  · exact fun profile hprofile => hall profile (hprofiles.mem_iff.mpr hprofile)
  · exact (hprofiles.map _).nodup_iff.mp hnodup
  · exact hresorted.symm.trans hsort

/-- The same result, or two refusals of the manifest. -/
def SameOutcome {α : Type} (result result' : Except NetcrazePlanError α) : Prop :=
  result = result' ∨
    ∃ e e', result = .error e ∧ result' = .error e' ∧ IsManifestError e ∧ IsManifestError e'

theorem buildChangePlan_reordered [DecidableEq Digest] (snapshot : RouterStateSnapshot)
    {manifest reordered : LocalEndpointManifest} (hschema : manifest.schema = reordered.schema)
    (hprofiles : manifest.profiles.Perm reordered.profiles)
    (selectedDevice : Option SelectedDeviceRef) :
    SameOutcome (buildChangePlan foldNonAscii sha256Json manifest snapshot selectedDevice)
      (buildChangePlan foldNonAscii sha256Json reordered snapshot selectedDevice) := by
  cases hmanifest : normalizeLocalEndpointManifest manifest with
  | ok normalized =>
      have hreordered := normalizeLocalEndpointManifest_reordered hschema hprofiles hmanifest
      left
      simp only [buildChangePlan, hmanifest, hreordered]
  | error e =>
      cases hreordered : normalizeLocalEndpointManifest reordered with
      | ok normalized =>
          have hback := normalizeLocalEndpointManifest_reordered hschema.symm hprofiles.symm
            hreordered
          rw [hmanifest] at hback
          cases hback
      | error e' =>
          right
          refine ⟨e, e', ?_, ?_, normalizeLocalEndpointManifest_raises _ e hmanifest,
            normalizeLocalEndpointManifest_raises _ e' hreordered⟩
          · simp only [buildChangePlan, hmanifest, bind_error_left]
          · simp only [buildChangePlan, hreordered, bind_error_left]

/-- One fingerprint means the same objects, and then the planner answers alike:
the very same for one manifest, and for a reordered manifest the same plan or a
refusal of the manifest for both. -/
theorem fingerprint_determines_plan [DecidableEq Digest]
    {consistency consistency' : SnapshotConsistency}
    (hvalid : validateSnapshotConsistency foldNonAscii snapshot = .ok consistency)
    (hvalid' : validateSnapshotConsistency foldNonAscii other = .ok consistency')
    (hinjective : ∀ a b, sha256Json (.snapshot a) = sha256Json (.snapshot b) → a = b) :
    (snapshotSemanticFingerprint sha256Json foldNonAscii snapshot =
        snapshotSemanticFingerprint sha256Json foldNonAscii other ↔ snapshot.SameObjects other) ∧
      (snapshot.SameObjects other → ∀ selectedDevice,
        (∀ manifest,
          buildChangePlan foldNonAscii sha256Json manifest snapshot selectedDevice =
            buildChangePlan foldNonAscii sha256Json manifest other selectedDevice) ∧
        ∀ manifest reordered : LocalEndpointManifest, manifest.schema = reordered.schema →
          manifest.profiles.Perm reordered.profiles →
          SameOutcome (buildChangePlan foldNonAscii sha256Json manifest snapshot selectedDevice)
            (buildChangePlan foldNonAscii sha256Json reordered other selectedDevice)) := by
  have hconsistent := ((validateSnapshotConsistency_eq_ok foldNonAscii).mp hvalid).1
  have hconsistent' := ((validateSnapshotConsistency_eq_ok foldNonAscii).mp hvalid').1
  refine ⟨fingerprint_eq_iff_sameObjects hconsistent hconsistent' hinjective, ?_⟩
  intro hsame selectedDevice
  have hone : ∀ manifest, buildChangePlan foldNonAscii sha256Json manifest snapshot selectedDevice =
      buildChangePlan foldNonAscii sha256Json manifest other selectedDevice := fun manifest =>
    buildChangePlan_congr hconsistent hconsistent' hsame manifest selectedDevice
  refine ⟨hone, ?_⟩
  intro manifest reordered hschema hprofiles
  rw [hone manifest]
  exact buildChangePlan_reordered other hschema hprofiles selectedDevice

end Results

deriving instance DecidableEq for SnapshotSemantics

def emptySemantics : SnapshotSemantics where
  schema := ""
  state := .degraded
  stale := true
  defaultPolicy := ⟨.unknown, none, none, none⟩
  connections := []
  policies := []
  assignments := []
  capabilities := []

def semanticsDigest : PlanPayload SnapshotSemantics → SnapshotSemantics
  | .snapshot semantics => semantics
  | _ => emptySemantics

def hallConnection : ExistingProxyConnection where
  objectId := "Proxy0"
  name := "hall"
  protocol := "socks5"
  host := "127.0.0.1"
  port := 1082
  authMode := "none"
  enabled := true

def atticConnection : ExistingProxyConnection :=
  { hallConnection with objectId := "Proxy1", name := "attic", port := 1083 }

def listedSnapshot (snapshotId : String) (connections : List ExistingProxyConnection) :
    RouterStateSnapshot where
  snapshotId
  state := .supported
  stale := false
  defaultPolicyStatus := .unknown
  defaultPolicyRef := none
  connections
  policies := []
  assignments := []

theorem listedSnapshot_sameObjects :
    (listedSnapshot "a" [hallConnection, atticConnection]).SameObjects
      (listedSnapshot "b" [atticConnection, hallConnection]) :=
  ⟨rfl, rfl, rfl, rfl, rfl, List.Perm.swap _ _ _, List.Perm.nil, List.Perm.nil, List.Perm.nil⟩

theorem fingerprint_determines_plan_sample :
    snapshotSemanticFingerprint semanticsDigest (fun c => [c])
        (listedSnapshot "a" [hallConnection, atticConnection]) =
      snapshotSemanticFingerprint semanticsDigest (fun c => [c])
        (listedSnapshot "b" [atticConnection, hallConnection]) ∧
    ∀ manifest, buildChangePlan (fun c => [c]) semanticsDigest manifest
        (listedSnapshot "a" [hallConnection, atticConnection]) none =
      buildChangePlan (fun c => [c]) semanticsDigest manifest
        (listedSnapshot "b" [atticConnection, hallConnection]) none := by
  have hvalid : validateSnapshotConsistency (fun c => [c])
      (listedSnapshot "a" [hallConnection, atticConnection]) =
        .ok ⟨true, false, "consistent_diagnostic_default"⟩ := by decide +kernel
  have hvalid' : validateSnapshotConsistency (fun c => [c])
      (listedSnapshot "b" [atticConnection, hallConnection]) =
        .ok ⟨true, false, "consistent_diagnostic_default"⟩ := by decide +kernel
  have hinjective : ∀ a b, semanticsDigest (.snapshot a) = semanticsDigest (.snapshot b) → a = b :=
    fun _ _ h => h
  obtain ⟨hfingerprint, hplan⟩ := fingerprint_determines_plan hvalid hvalid' hinjective
  exact ⟨hfingerprint.mpr listedSnapshot_sameObjects, (hplan listedSnapshot_sameObjects none).1⟩

def unknownSlot : LocalProxyProfile := ⟨4, "primary", "127.0.0.1", 1082, true, "socks5", "none"⟩
def unknownLabel : LocalProxyProfile := ⟨1, "first", "127.0.0.1", 1083, true, "socks5", "none"⟩

/-- The error is about the first faulty profile, so it depends on their order. -/
theorem reordered_manifest_other_error :
    [unknownSlot, unknownLabel].Perm [unknownLabel, unknownSlot] ∧
      buildChangePlan (fun c => [c]) semanticsDigest { profiles := [unknownSlot, unknownLabel] }
          (listedSnapshot "a" []) none =
        .error (manifestSchemaError "Local endpoint profile slot is invalid.") ∧
      buildChangePlan (fun c => [c]) semanticsDigest { profiles := [unknownLabel, unknownSlot] }
          (listedSnapshot "a" []) none =
        .error (manifestSchemaError "Local endpoint profile label is not code-owned.") := by
  refine ⟨List.Perm.swap _ _ _, ?_, ?_⟩
  · decide +kernel
  · decide +kernel

end RouterKit.Netcraze
