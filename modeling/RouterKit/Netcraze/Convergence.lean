import RouterKit.Netcraze.PlanRun

/-!
An unblocked plan converges in one run: on the state its simulation ends in,
every profile finds exactly the connection and the policy that were settled on,
so that the next plan reuses all of them.
-/

namespace RouterKit.Netcraze

open RouterKit.Lib RouterKit.Lib.Checked RouterKit.Devices

section Converged

variable {Digest : Type} [DecidableEq Digest] {foldNonAscii : Char → List Char}
  {sha256Json : PlanPayload Digest → Digest} {manifest : LocalEndpointManifest}
  {snapshot : RouterStateSnapshot} {selectedDevice : Option SelectedDeviceRef}
  {plan : ChangePlan Digest}

namespace ReadyPlan

variable (h : ReadyPlan foldNonAscii sha256Json manifest snapshot selectedDevice plan)
include h

/-- The settled connection is the only equivalent one of the converged state. -/
theorem exactConnections_converged {profile : LocalProxyProfile}
    (hprofile : profile ∈ manifest.profiles) :
    exactConnections (convergedState snapshot manifest.profiles selectedDevice) profile =
      [servingConnection snapshot profile] := by
  have hnodup : (convergedState snapshot manifest.profiles selectedDevice).connections.Nodup :=
    h.converged_consistent.connectionIds_nodup.of_map _
  have hperm := Keyed.sortByKey_perm (fun c : ExistingProxyConnection => c.objectId)
    ((convergedState snapshot manifest.profiles selectedDevice).connections.filter
      (fun item => (connectionEquivalence item profile).equivalent))
  apply eq_singleton_of_nodup (hperm.nodup_iff.mpr (hnodup.filter _))
  · exact mem_exactConnections.mpr
      ⟨servingConnection_mem hprofile, servingConnection_equivalent snapshot profile⟩
  · intro connection hconnection
    obtain ⟨hmem, hequivalent⟩ := mem_exactConnections.mp hconnection
    rcases List.mem_append.mp hmem with hobserved | hcreated
    · have hexact := mem_exactConnections.mpr ⟨hobserved, hequivalent⟩
      cases (h.settled hprofile).connection with
      | reuse honly => simpa [honly] using hexact
      | create hnone => simp [hnone] at hexact
    · obtain ⟨other, hother, hnew⟩ := List.mem_flatMap.mp hcreated
      obtain ⟨hnone, rfl⟩ := mem_newConnection.mp hnew
      have hport : other.port = profile.port := (connectionEquivalence_iff.mp hequivalent).2.2.2.1
      obtain rfl := h.valid.port_inj hother hprofile hport
      simp [servingConnection, hnone]

theorem servingConnection_converged {profile : LocalProxyProfile}
    (hprofile : profile ∈ manifest.profiles) :
    servingConnection (convergedState snapshot manifest.profiles selectedDevice) profile =
      servingConnection snapshot profile := by
  simp [servingConnection, h.exactConnections_converged hprofile]

/-- Profiles are told apart by the connections that serve them. -/
theorem servingConnection_inj {left right : LocalProxyProfile} (hleft : left ∈ manifest.profiles)
    (hright : right ∈ manifest.profiles)
    (heq : (servingConnection snapshot left).objectId =
      (servingConnection snapshot right).objectId) : left = right := by
  have hsame : servingConnection snapshot left = servingConnection snapshot right :=
    List.inj_on_of_nodup_map h.converged_consistent.connectionIds_nodup
      (servingConnection_mem hleft) (servingConnection_mem hright) heq
  have hport := (connectionEquivalence_iff.mp (servingConnection_equivalent snapshot left)).2.2.2.1
  have hport' :=
    (connectionEquivalence_iff.mp (servingConnection_equivalent snapshot right)).2.2.2.1
  exact h.valid.port_inj hleft hright (by rw [← hport, ← hport', hsame])

/-- The settled policy is the only equivalent one for the settled connection. -/
theorem servingPolicies_converged {profile : LocalProxyProfile}
    (hprofile : profile ∈ manifest.profiles) :
    servingPolicies (convergedState snapshot manifest.profiles selectedDevice) profile =
      [servingPolicy snapshot profile] := by
  have hnodup : (convergedState snapshot manifest.profiles selectedDevice).policies.Nodup :=
    h.converged_consistent.policyIds_nodup.of_map _
  rw [servingPolicies, h.servingConnection_converged hprofile]
  have hperm := Keyed.sortByKey_perm (fun p : ExistingPolicy => p.objectId)
    ((convergedState snapshot manifest.profiles selectedDevice).policies.filter
      (fun item => (policyEquivalence item
        (servingConnection snapshot profile).objectId).equivalent))
  apply eq_singleton_of_nodup (hperm.nodup_iff.mpr (hnodup.filter _))
  · exact mem_exactPolicies.mpr
      ⟨servingPolicy_mem hprofile, servingPolicy_equivalent snapshot profile⟩
  · intro policy hpolicy
    obtain ⟨hmem, hequivalent⟩ := mem_exactPolicies.mp hpolicy
    rcases List.mem_append.mp hmem with hobserved | hcreated
    · have hexact : policy ∈ servingPolicies snapshot profile :=
        mem_exactPolicies.mpr ⟨hobserved, hequivalent⟩
      cases (h.settled hprofile).policy with
      | reuse honly => simpa [honly] using hexact
      | create hnone => simp [hnone] at hexact
    · obtain ⟨other, hother, hnew⟩ := List.mem_flatMap.mp hcreated
      obtain ⟨hnone, rfl⟩ := mem_newPolicy.mp hnew
      have hconnection := (policyEquivalence_iff.mp hequivalent).2.1
      obtain rfl := h.servingConnection_inj hother hprofile hconnection
      simp [servingPolicy, hnone]

theorem normalizedManifest :
    ({ profiles := manifest.profiles } : LocalEndpointManifest) = manifest := by
  have hschema := h.valid.schema
  cases manifest
  simp_all

theorem planConnection_converged {profile : LocalProxyProfile}
    (hprofile : profile ∈ manifest.profiles) :
    let planned := planConnection foldNonAscii
      (convergedState snapshot manifest.profiles selectedDevice) profile
    planned.blocks = false ∧ planned.action.operation = .reuseConnection ∧
      planned.action.dependencies = [] ∧ planned.reference =
        some (existingConnectionReference (servingConnection snapshot profile).objectId) := by
  have hexact := h.exactConnections_converged hprofile
  unfold planConnection
  rw [hexact]
  exact ⟨rfl, rfl, rfl, rfl⟩

theorem planPolicy_converged {profile : LocalProxyProfile}
    (hprofile : profile ∈ manifest.profiles) :
    let planned := planPolicy foldNonAscii
      (convergedState snapshot manifest.profiles selectedDevice)
      (connectionRef foldNonAscii (convergedState snapshot manifest.profiles selectedDevice)
        profile) profile
    planned.blocks = false ∧ planned.action.operation = .reusePolicy ∧
      planned.action.dependencies =
        [existingConnectionReference (servingConnection snapshot profile).objectId] ∧
      planned.reference =
        some (existingPolicyReference (servingPolicy snapshot profile).objectId) := by
  obtain ⟨-, -, -, hreference⟩ := h.planConnection_converged hprofile
  have hexact : exactPoliciesFor (convergedState snapshot manifest.profiles selectedDevice)
      (existingConnectionReference (servingConnection snapshot profile).objectId) =
        [servingPolicy snapshot profile] := by
    have hserving := h.servingPolicies_converged hprofile
    rw [servingPolicies, h.servingConnection_converged hprofile] at hserving
    simp [exactPoliciesFor, existingConnectionReference, hserving]
  simp only [connectionRef, hreference, planPolicy]
  rw [hexact]
  exact ⟨rfl, rfl, rfl, rfl⟩

theorem planDevice_converged {device : SelectedDeviceRef} {primary : LocalProxyProfile}
    {rest : List LocalProxyProfile} (hselected : selectedDevice = some device)
    (hprofiles : manifest.profiles = primary :: rest) :
    let planned := Netcraze.planDevice (convergedState snapshot manifest.profiles selectedDevice)
      device (policyRef foldNonAscii (convergedState snapshot manifest.profiles selectedDevice)
        primary) primary
    planned.blocks = false ∧ planned.action.operation = .reuseAssignment ∧
      planned.action.dependencies =
        [existingPolicyReference (servingPolicy snapshot primary).objectId] := by
  have hprimary : primary ∈ manifest.profiles := by simp [hprofiles]
  have hreference : policyRef foldNonAscii
      (convergedState snapshot manifest.profiles selectedDevice) primary =
        some (existingPolicyReference (servingPolicy snapshot primary).objectId) :=
    (h.planPolicy_converged hprimary).2.2.2
  have hmem : (⟨device.mac, (servingPolicy snapshot primary).objectId⟩ :
      ExistingDeviceAssignment) ∈
        (convergedState snapshot manifest.profiles selectedDevice).assignments := by
    simpa [convergedState, withCreated, RouterStateSnapshot.grow, addedAssignments, hselected,
      hprofiles] using assignment_mem (h.settledAssignment hselected hprofiles)
  have hfind : (convergedState snapshot manifest.profiles selectedDevice).assignments.find?
      (fun item => item.deviceMac = device.mac) =
        some ⟨device.mac, (servingPolicy snapshot primary).objectId⟩ :=
    Keyed.lookup_of_mem (fun a : ExistingDeviceAssignment => a.deviceMac)
      h.converged_consistent.deviceMacs_nodup hmem
  rw [hreference]
  simp only [Netcraze.planDevice, hfind]
  rw [if_pos ⟨rfl, rfl⟩]
  exact ⟨rfl, rfl, rfl⟩

/-- The ids that the next plan refers to are not empty. -/
theorem servingConnection_id_ne {profile : LocalProxyProfile}
    (hprofile : profile ∈ manifest.profiles) :
    (servingConnection snapshot profile).objectId ≠ "" := by
  have hreferences := references_of_integrity h.integrity
  cases (h.settled hprofile).connection with
  | reuse hexact _ _ _ hreference =>
      have haction : (planPolicy foldNonAscii snapshot (connectionRef foldNonAscii snapshot
          profile) profile).action ∈ plan.actions := by
        rw [h.actions]
        exact List.mem_append_left _ (List.mem_map_of_mem (List.mem_append_left _
          (List.mem_append_right _ (List.mem_map_of_mem hprofile))))
      rw [connectionRef, hreference] at haction
      apply validateReference_existingConnection.mp
      apply hreferences _ haction
      simp [planPolicy_dependencies]
  | create hexact =>
      have hslots : ∀ slot ∈ [1, 2, 3], simulationConnectionId slot ≠ "" := by decide
      have hid : (servingConnection snapshot profile).objectId =
          simulationConnectionId profile.slot := by
        simp [servingConnection, hexact, simulatedConnection]
      rw [hid]
      exact hslots _ (h.valid.slot_mem hprofile)

theorem servingPolicy_id_ne {device : SelectedDeviceRef} {primary : LocalProxyProfile}
    {rest : List LocalProxyProfile} (hselected : selectedDevice = some device)
    (hprofiles : manifest.profiles = primary :: rest) :
    (servingPolicy snapshot primary).objectId ≠ "" := by
  have hprimary : primary ∈ manifest.profiles := by simp [hprofiles]
  have hreferences := references_of_integrity h.integrity
  cases (h.settled hprimary).policy with
  | reuse hexact _ _ _ hreference =>
      have haction : (Netcraze.planDevice snapshot device (policyRef foldNonAscii snapshot primary)
          primary).action ∈ plan.actions := by
        rw [h.actions]
        apply List.mem_append_left _ (List.mem_map_of_mem (List.mem_append_right _ _))
        simp [planAssignments, hselected, hprofiles]
      rw [policyRef, hreference] at haction
      apply validateReference_existingPolicy.mp
      apply hreferences _ haction
      simp [planDevice_dependencies]
  | create hexact =>
      have hslots : ∀ slot ∈ [1, 2, 3], simulationPolicyId slot ≠ "" := by decide
      have hid : (servingPolicy snapshot primary).objectId = simulationPolicyId primary.slot := by
        simp [servingPolicy, hexact, simulatedPolicy]
      rw [hid]
      exact hslots _ (h.valid.slot_mem hprimary)

/-- The next plan reuses every object. -/
theorem nextObjects :
    ∀ object ∈ plannedObjects foldNonAscii
        (convergedState snapshot manifest.profiles selectedDevice) manifest.profiles selectedDevice,
      object.blocks = false ∧
        object.action.operation ∈ [.reuseConnection, .reusePolicy, .reuseAssignment] ∧
        ∀ reference ∈ object.action.dependencies, validateReference reference = .ok () := by
  intro object hobject
  rcases List.mem_append.mp hobject with hnamed | hassignment
  · rcases List.mem_append.mp hnamed with hconnection | hpolicy
    · obtain ⟨profile, hprofile, rfl⟩ := List.mem_map.mp hconnection
      obtain ⟨hblocks, hoperation, hdependencies, -⟩ := h.planConnection_converged hprofile
      exact ⟨hblocks, by simp [hoperation], by simp [hdependencies]⟩
    · obtain ⟨profile, hprofile, rfl⟩ := List.mem_map.mp hpolicy
      obtain ⟨hblocks, hoperation, hdependencies, -⟩ := h.planPolicy_converged hprofile
      refine ⟨hblocks, by simp [hoperation], ?_⟩
      rw [hdependencies, List.forall_mem_singleton]
      exact validateReference_existingConnection.mpr (h.servingConnection_id_ne hprofile)
  · obtain ⟨primary, rest, hprofiles⟩ := h.valid.primary
    cases hselected : selectedDevice with
    | none => simp [planAssignments, hselected] at hassignment
    | some device =>
        obtain ⟨hblocks, hoperation, hdependencies⟩ := h.planDevice_converged hselected hprofiles
        simp only [planAssignments, hselected, hprofiles, List.mem_singleton] at hassignment
        rw [hselected, hprofiles] at hblocks hoperation hdependencies
        subst hassignment
        refine ⟨hblocks, by simp [hoperation], ?_⟩
        rw [hdependencies, List.forall_mem_singleton]
        exact validateReference_existingPolicy.mpr (h.servingPolicy_id_ne hselected hprofiles)

theorem nextPlan_unblocked :
    planBlocked foldNonAscii (convergedState snapshot manifest.profiles selectedDevice)
      manifest.profiles selectedDevice = false := by
  obtain ⟨hstate, hstale, hstatus, -, -⟩ := planBlocked_eq_false.mp h.unblocked
  refine planBlocked_eq_false.mpr
    ⟨hstate, hstale, hstatus, fun object hobject => (h.nextObjects object hobject).1, ?_⟩
  have hsame : projectionOf (convergedState snapshot manifest.profiles selectedDevice) =
      projectionOf snapshot := projectionOf_grow _ _ h.consistent
  have hproven := (planBlocked_eq_false.mp h.unblocked).2.2.2.2
  simp only [notTargeted, proveDefaultPolicyNotTargeted, hsame] at hproven ⊢
  split at hproven
  · rw [List.all_eq_true]
    intro action haction
    obtain ⟨object, hobject, rfl⟩ := List.mem_map.mp haction
    have hoperation := (h.nextObjects object hobject).2.1
    simp only [List.mem_cons, List.not_mem_nil, or_false] at hoperation
    rcases hoperation with hoperation | hoperation | hoperation <;> simp [isMutating, hoperation]
  · cases hproven

/-- Planning again on the converged state finds nothing to do. -/
theorem rebuild {original : LocalEndpointManifest} {selected : Option SelectedDeviceRef}
    (hnormalized : normalizeLocalEndpointManifest original = .ok manifest)
    (hselected : normalizeSelected selected = .ok selectedDevice) :
    ∃ rerun, buildChangePlan foldNonAscii sha256Json original
        (convergedState snapshot manifest.profiles selectedDevice) selected = .ok rerun ∧
      rerun.isBlocked = false ∧ ∀ action ∈ rerun.actions, action.operation ∈
        [.reuseConnection, .reusePolicy, .reuseAssignment, .verify] := by
  have hvalidated := (validateSnapshotConsistency_eq_ok foldNonAscii).mpr
    ⟨h.converged_consistent, rfl⟩
  have hfingerprint : snapshotSemanticFingerprint sha256Json foldNonAscii
      (convergedState snapshot manifest.profiles selectedDevice) =
        .ok (sha256Json (.snapshot (snapshotSemantics
          (convergedState snapshot manifest.profiles selectedDevice)))) := by
    rw [snapshotSemanticFingerprint, h.converged_projection]
    rfl
  have hreferences : ∀ action ∈ objectActions foldNonAscii
      (convergedState snapshot manifest.profiles selectedDevice) manifest.profiles selectedDevice,
      ∀ reference ∈ action.dependencies, validateReference reference = .ok () := by
    intro action haction
    obtain ⟨object, hobject, rfl⟩ := List.mem_map.mp haction
    exact (h.nextObjects object hobject).2.2
  have hunblocked := h.nextPlan_unblocked
  refine ⟨signPlan sha256Json (draftPlan foldNonAscii
    (convergedState snapshot manifest.profiles selectedDevice) manifest.profiles selectedDevice
    (sha256Json (.snapshot (snapshotSemantics
      (convergedState snapshot manifest.profiles selectedDevice))))), ?_, ?_, ?_⟩
  · simp only [buildChangePlan, bind_eq_ok, exists_unit, pure_eq_ok]
    exact ⟨manifest, hnormalized, selectedDevice, hselected, _, hvalidated, _, hfingerprint,
      integrity_of_references h.valid h.device hreferences _, rfl⟩
  · simp [ChangePlan.isBlocked, signPlan, draftPlan, hunblocked]
  · intro action haction
    have hproven := (planBlocked_eq_false.mp hunblocked).2.2.2.2
    have hdrafted : action ∈ objectActions foldNonAscii
        (convergedState snapshot manifest.profiles selectedDevice) manifest.profiles
          selectedDevice ++
        verifyActions (convergedState snapshot manifest.profiles selectedDevice) selectedDevice
          true := by
      simpa [signPlan, draftPlan, draftActions, hunblocked, hproven] using haction
    rcases List.mem_append.mp hdrafted with hobject | hverify
    · obtain ⟨object, hplanned, rfl⟩ := List.mem_map.mp hobject
      exact List.mem_append_left [.verify] (h.nextObjects object hplanned).2.1
    · simp [verifyActions_operation action hverify]

/-- The planner rebuilds the plan from what the plan carries. -/
theorem rebuildSame :
    buildChangePlan foldNonAscii sha256Json { profiles := plan.desiredProfiles } snapshot
      plan.selectedDevice = .ok plan := by
  have hvalidated := (validateSnapshotConsistency_eq_ok foldNonAscii).mpr ⟨h.consistent, rfl⟩
  have hfingerprint : snapshotSemanticFingerprint sha256Json foldNonAscii snapshot =
      .ok (sha256Json (.snapshot (snapshotSemantics snapshot))) := by
    rw [snapshotSemanticFingerprint, h.consistent.projection]
    rfl
  have hintegrity := h.integrity
  rw [h.signed] at hintegrity
  rw [h.desiredProfiles, h.planDevice, h.normalizedManifest]
  simp only [buildChangePlan, bind_eq_ok, exists_unit, pure_eq_ok]
  exact ⟨manifest, LocalEndpointManifest.valid_iff_normalized.mp h.valid, selectedDevice, h.device,
    _, hvalidated, _, hfingerprint, hintegrity, h.signed.symm⟩

/-- An unblocked plan passes every check before its first action. -/
theorem simulate (failAfter : Option ActionId) (rollbackFailure : Bool) :
    simulateChangePlan foldNonAscii sha256Json plan snapshot failAfter rollbackFailure =
      .ok (simulateAccepted foldNonAscii sha256Json plan snapshot (projectionOf snapshot) failAfter
        rollbackFailure) := by
  have hvalidated := (validateSnapshotConsistency_eq_ok foldNonAscii).mpr ⟨h.consistent, rfl⟩
  have hfingerprint : snapshotSemanticFingerprint sha256Json foldNonAscii snapshot =
      .ok (sha256Json (.snapshot (snapshotSemantics snapshot))) := by
    rw [snapshotSemanticFingerprint, h.consistent.projection]
    rfl
  have hsource : plan.sourceSnapshotFingerprint = sha256Json
      (.snapshot (snapshotSemantics snapshot)) ∧
      plan.sourceDefaultPolicyProjection = projectionOf snapshot := by
    rw [h.signed]
    exact ⟨rfl, rfl⟩
  have hblocked : plan.isBlocked = false := by
    rw [h.signed]
    simp [ChangePlan.isBlocked, signPlan, draftPlan, h.unblocked]
  simp [simulateChangePlan, hvalidated, h.integrity, hfingerprint, h.consistent.projection,
    hsource.1, hsource.2, h.rebuildSame, hblocked, pure, Except.pure]

theorem finalFailure_converged :
    finalFailure foldNonAscii sha256Json plan (projectionOf snapshot)
      (convergedState snapshot manifest.profiles selectedDevice) = none := by
  have hnormalized : normalizeLocalEndpointManifest { profiles := plan.desiredProfiles } =
      .ok manifest := by
    rw [h.desiredProfiles, h.normalizedManifest]
    exact LocalEndpointManifest.valid_iff_normalized.mp h.valid
  have hselected : normalizeSelected plan.selectedDevice = .ok selectedDevice := by
    rw [h.planDevice, h.device]
  obtain ⟨rerun, hrerun, hunblocked, hoperations⟩ := h.rebuild hnormalized hselected
  have hallowed : rerun.actions.any (fun item => forbiddenOnRerun item.operation) = false := by
    rw [List.any_eq_false]
    intro action haction
    have hoperation := hoperations action haction
    simp only [List.mem_cons, List.not_mem_nil, or_false] at hoperation
    rcases hoperation with hoperation | hoperation | hoperation | hoperation <;>
      simp [forbiddenOnRerun, hoperation]
  simp only [finalFailure, h.converged_projection, hrerun, hunblocked, hallowed]
  simp

end ReadyPlan

/-- An unblocked plan always executes, and in one run: its simulation succeeds,
completes every action in order, and ends where the planner has nothing left to
do. -/
theorem change_plan_converges
    (hbuild : buildChangePlan foldNonAscii sha256Json manifest snapshot selectedDevice = .ok plan)
    (hready : plan.isBlocked = false) (rollbackFailure : Bool) :
    ∃ result, simulateChangePlan foldNonAscii sha256Json plan snapshot none rollbackFailure =
        .ok result ∧
      result.success = true ∧ result.completedActions = plan.actions.map (·.actionId) ∧
      ∃ rerun, buildChangePlan foldNonAscii sha256Json manifest result.finalState selectedDevice =
          .ok rerun ∧
        rerun.isBlocked = false ∧ ∀ action ∈ rerun.actions, action.operation ∈
          [.reuseConnection, .reusePolicy, .reuseAssignment, .verify] := by
  obtain ⟨normalized, selected, hnormalized, hselected, h⟩ := buildChangePlan_ready hbuild hready
  obtain ⟨hfinal, hstopped, hcompleted⟩ :=
    simulateActions_of_executes h.executes { current := snapshot } rfl rfl
  refine ⟨_, h.simulate none rollbackFailure, ?_, ?_, ?_⟩
  · simp [simulateAccepted, hstopped, hfinal, h.finalFailure_converged, h.converged_projection]
  · simpa [simulateAccepted] using hcompleted
  · have hstate : (simulateAccepted foldNonAscii sha256Json plan snapshot (projectionOf snapshot)
        none rollbackFailure).finalState =
          convergedState snapshot normalized.profiles selected := by
      simp [simulateAccepted, hstopped, hfinal, h.finalFailure_converged]
    rw [hstate]
    exact h.rebuild hnormalized hselected

end Converged

section Synthetic

def syntheticManifest : LocalEndpointManifest :=
  { profiles :=
      [{ slot := 1, label := "primary", host := "127.0.0.1", port := 1082, enabled := true }] }

/-- A router with its default policy and nothing of the planner's. -/
def syntheticSnapshot : RouterStateSnapshot where
  snapshotId := "synthetic"
  state := .supported
  stale := false
  defaultPolicyStatus := .known
  defaultPolicyRef := some "policy0"
  connections := [⟨"connection0", "Internet", "http", "127.0.0.1", 1080, "none", true, true⟩]
  policies := [⟨"policy0", "Default", "connection0", "direct", true, true, false⟩]
  assignments := []

def syntheticDevice : SelectedDeviceRef := ⟨"Laptop", "02:aa:bb:0c:dd:ee"⟩

def syntheticPlan : ChangePlan Nat :=
  signPlan (fun _ => 0) (draftPlan (fun c => [c]) syntheticSnapshot syntheticManifest.profiles
    (some syntheticDevice) 0)

theorem syntheticPlan_built :
    buildChangePlan (fun c => [c]) (fun _ => 0) syntheticManifest syntheticSnapshot
      (some syntheticDevice) = .ok syntheticPlan := by
  decide +kernel

theorem syntheticPlan_ready : syntheticPlan.isBlocked = false := by
  decide +kernel

theorem change_plan_converges_synthetic :
    ∃ result, simulateChangePlan (fun c => [c]) (fun _ => 0) syntheticPlan syntheticSnapshot none
        true = .ok result ∧
      result.success = true ∧ result.completedActions = syntheticPlan.actions.map (·.actionId) ∧
      ∃ rerun, buildChangePlan (fun c => [c]) (fun _ => 0) syntheticManifest result.finalState
          (some syntheticDevice) = .ok rerun ∧
        rerun.isBlocked = false ∧ ∀ action ∈ rerun.actions, action.operation ∈
          [.reuseConnection, .reusePolicy, .reuseAssignment, .verify] :=
  change_plan_converges syntheticPlan_built syntheticPlan_ready true

end Synthetic

end RouterKit.Netcraze
