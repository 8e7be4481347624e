import RouterKit.Netcraze.PlanChoice

/-!
The simulation of an unblocked plan, action by action. After the actions of
some profiles the state is the snapshot with the objects of these profiles
created; every action applies there and its checks accept the result.
-/

namespace RouterKit.Netcraze

open RouterKit.Lib RouterKit.Lib.Checked RouterKit.Devices

section Executes

variable {Digest : Type} (foldNonAscii : Char → List Char) (plan : ChangePlan Digest)
  (initialDefault : DefaultPolicyProjection)

/-- One action applies, and the checks after it accept the result. -/
structure Steps (before : RouterStateSnapshot) (action : PlanAction)
    (after : RouterStateSnapshot) : Prop where
  applies : applySimulatedAction before action plan = .ok after
  accepted : actionFailure foldNonAscii plan initialDefault action after = none

inductive Executes : RouterStateSnapshot → List PlanAction → RouterStateSnapshot → Prop where
  | nil (state : RouterStateSnapshot) : Executes state [] state
  | cons {before middle after : RouterStateSnapshot} {action : PlanAction}
      {rest : List PlanAction} (first : Steps foldNonAscii plan initialDefault before action middle)
      (later : Executes middle rest after) : Executes before (action :: rest) after

variable {foldNonAscii plan initialDefault}

theorem Executes.append {before middle after : RouterStateSnapshot}
    {actions more : List PlanAction}
    (first : Executes foldNonAscii plan initialDefault before actions middle)
    (later : Executes foldNonAscii plan initialDefault middle more after) :
    Executes foldNonAscii plan initialDefault before (actions ++ more) after := by
  induction first with
  | nil state => exact later
  | cons step _ ih => exact .cons step (ih later)

/-- One action for each profile: a state for each list of finished profiles, and
a step from one to the next, make a run. -/
theorem executes_map {actionOf : LocalProxyProfile → PlanAction}
    {stateAt : List LocalProxyProfile → RouterStateSnapshot} {profiles : List LocalProxyProfile}
    (hstep : ∀ done profile rest, profiles = done ++ profile :: rest →
      Steps foldNonAscii plan initialDefault (stateAt done) (actionOf profile)
        (stateAt (done ++ [profile]))) :
    Executes foldNonAscii plan initialDefault (stateAt []) (profiles.map actionOf)
      (stateAt profiles) := by
  have hrun : ∀ rest done, profiles = done ++ rest →
      Executes foldNonAscii plan initialDefault (stateAt done) (rest.map actionOf)
        (stateAt profiles) := by
    intro rest
    induction rest with
    | nil =>
        intro done hprofiles
        rw [List.append_nil] at hprofiles
        rw [hprofiles]
        exact .nil _
    | cons profile rest ih =>
        intro done hprofiles
        have hlater := ih (done ++ [profile]) (by simpa using hprofiles)
        exact .cons (hstep done profile rest hprofiles) hlater
  exact hrun profiles [] rfl

/-- A run without failures, in which no failure is injected, finishes. -/
theorem simulateActions_of_executes {before after : RouterStateSnapshot}
    {actions : List PlanAction}
    (h : Executes foldNonAscii plan initialDefault before actions after) (run : SimulationRun)
    (hcurrent : run.current = before) (hrunning : run.stoppedAfter = none) :
    let finished := simulateActions foldNonAscii plan initialDefault none actions run
    finished.current = after ∧ finished.stoppedAfter = none ∧
      finished.completed = run.completed ++ actions.map (·.actionId) := by
  induction h generalizing run with
  | nil state => exact ⟨hcurrent, hrunning, by simp [simulateActions]⟩
  | @cons before middle after action rest step _ ih =>
      subst hcurrent
      have hstep : simulateAction foldNonAscii plan initialDefault none run action =
          { run with
            current := middle
            rollbackStack := pushRollback action run.current middle run.rollbackStack
            completed := run.completed ++ [action.actionId] } := by
        simp [simulateAction, step.applies, step.accepted]
      simp only [simulateActions, hstep, hrunning, Option.isSome_none, Bool.false_eq_true, if_false]
      obtain ⟨hfinal, hstopped, hcompleted⟩ := ih
        { run with
          current := middle
          rollbackStack := pushRollback action run.current middle run.rollbackStack
          completed := run.completed ++ [action.actionId] } rfl hrunning
      rw [hrunning] at hfinal hstopped hcompleted
      refine ⟨hfinal, hstopped, ?_⟩
      rw [hcompleted, List.map_cons, List.append_assoc, List.singleton_append]

theorem actionFailure_eq_none {action : PlanAction} {current : RouterStateSnapshot}
    (hprojection : defaultPolicyProjection foldNonAscii current = .ok initialDefault)
    (hverify : verifySimulatedAction foldNonAscii current action plan = .ok ()) :
    actionFailure foldNonAscii plan initialDefault action current = none := by
  simp [actionFailure, hprojection, hverify]

end Executes

section Objects

variable {Digest : Type} {foldNonAscii : Char → List Char} {plan : ChangePlan Digest}
  {snapshot current : RouterStateSnapshot} {profile : LocalProxyProfile} {planned : PlannedObject}
  (hfound : Keyed.lookup (·.slot) profile.slot plan.desiredProfiles = some profile)

include hfound in
theorem profileOf_about {action : PlanAction} {actionId : ActionId} {objectType : ObjectType}
    {targetName : String} (habout : action.About actionId objectType targetName profile) :
    profileOf plan action = some profile := by
  simp [profileOf, habout.profileSlot, hfound]

include hfound in
theorem withProfile_about {action : PlanAction} {actionId : ActionId} {objectType : ObjectType}
    {targetName : String} (habout : action.About actionId objectType targetName profile)
    (check : LocalProxyProfile → Except NetcrazePlanError Unit) :
    withProfile plan action check = check profile := by
  simp [withProfile, habout.profileSlot, hfound]

include hfound in
theorem applySimulatedAction_connection
    (hsettled : SettledConnection foldNonAscii snapshot profile planned)
    (habout : planned.action.About (.connection profile.slot) .connection (connectionName profile)
      profile) :
    applySimulatedAction current planned.action plan =
      .ok { current with
        connections := current.connections ++ newConnection snapshot profile } := by
  have hprofile := profileOf_about hfound habout
  cases hsettled with
  | reuse hexact hoperation =>
      have hnone : newConnection snapshot profile = [] := by simp [newConnection, hexact]
      simp [applySimulatedAction, hoperation, hnone]
  | create hexact _ _ hoperation =>
      have hone : newConnection snapshot profile =
          [simulatedConnection (connectionName profile) profile] := by
        simp [newConnection, servingConnection, hexact]
      simp [applySimulatedAction, hoperation, hprofile, habout.targetName, hone]

/-- The settled connection is found under its id. -/
theorem connectionById_serving (hcons : current.Consistent foldNonAscii)
    (hmem : servingConnection snapshot profile ∈ current.connections) :
    connectionById current (servingConnection snapshot profile).objectId =
      some (servingConnection snapshot profile) :=
  Keyed.lookup_of_mem (fun c : ExistingProxyConnection => c.objectId) hcons.connectionIds_nodup
    hmem

theorem policyById_serving (hcons : current.Consistent foldNonAscii)
    (hmem : servingPolicy snapshot profile ∈ current.policies) :
    policyById current (servingPolicy snapshot profile).objectId =
      some (servingPolicy snapshot profile) :=
  Keyed.lookup_of_mem (fun p : ExistingPolicy => p.objectId) hcons.policyIds_nodup hmem

theorem verifyConnectionAction_settled (hcons : current.Consistent foldNonAscii)
    (hmem : servingConnection snapshot profile ∈ current.connections)
    (hsettled : SettledConnection foldNonAscii snapshot profile planned)
    (htarget : planned.action.targetName = connectionName profile) :
    verifyConnectionAction current planned.action profile = .ok () := by
  have hserves := connectionById_serving hcons hmem
  obtain ⟨hcomplete, hprotocol, hhost, hport, hauth, henabled⟩ :=
    connectionEquivalence_iff.mp (servingConnection_equivalent snapshot profile)
  cases hsettled with
  | reuse _ hoperation hid hname =>
      simp [verifyConnectionAction, hoperation, hid, hname, hserves, hcomplete, hprotocol, hhost,
        hport, hauth, henabled]
  | create hexact _ _ hoperation =>
      have hserving : servingConnection snapshot profile =
          simulatedConnection (connectionName profile) profile := by
        simp [servingConnection, hexact]
      rw [hserving] at hserves
      have hid : (simulatedConnection (connectionName profile) profile).objectId =
          simulationConnectionId profile.slot := rfl
      rw [hid] at hserves
      simp [verifyConnectionAction, hoperation, hserves, simulatedConnection, htarget]

/-- A settled connection is what its reference resolves to. -/
theorem resolveSimulationReference_connection (hcons : current.Consistent foldNonAscii)
    (hmem : servingConnection snapshot profile ∈ current.connections)
    (hsettled : SettledConnection foldNonAscii snapshot profile planned)
    {reference : ObjectReference} (hreference : planned.reference = some reference) :
    resolveSimulationReference current reference =
      .ok (servingConnection snapshot profile).objectId := by
  have hserves := connectionById_serving hcons hmem
  cases hsettled with
  | reuse _ _ _ _ hsettled =>
      obtain rfl := Option.some.inj (hreference.symm.trans hsettled)
      simp [resolveSimulationReference, existingConnectionReference, hserves]
  | create hexact _ _ _ hsettled =>
      obtain rfl := Option.some.inj (hreference.symm.trans hsettled)
      have hid : (servingConnection snapshot profile).objectId =
          simulationConnectionId profile.slot := by
        simp [servingConnection, hexact, simulatedConnection]
      rw [hid] at hserves
      simp [resolveSimulationReference, plannedConnectionReference, hserves, hid]

theorem resolveSimulationReference_policy (hcons : current.Consistent foldNonAscii)
    (hmem : servingPolicy snapshot profile ∈ current.policies)
    (hsettled : SettledPolicy foldNonAscii snapshot profile planned)
    {reference : ObjectReference} (hreference : planned.reference = some reference) :
    resolveSimulationReference current reference =
      .ok (servingPolicy snapshot profile).objectId := by
  have hserves := policyById_serving hcons hmem
  cases hsettled with
  | reuse _ _ _ _ hsettled =>
      obtain rfl := Option.some.inj (hreference.symm.trans hsettled)
      simp [resolveSimulationReference, existingPolicyReference, hserves]
  | create hexact _ _ _ hsettled =>
      obtain rfl := Option.some.inj (hreference.symm.trans hsettled)
      have hid : (servingPolicy snapshot profile).objectId = simulationPolicyId profile.slot := by
        simp [servingPolicy, hexact, simulatedPolicy]
      rw [hid] at hserves
      simp [resolveSimulationReference, plannedPolicyReference, hserves, hid]

include hfound in
theorem applySimulatedAction_policy
    (hsettled : SettledPolicy foldNonAscii snapshot profile planned)
    (habout : planned.action.About (.policy profile.slot) .policy (policyName profile) profile)
    (hresolves : ∀ failure, resolveDependency current planned.action failure =
      .ok (servingConnection snapshot profile).objectId) :
    applySimulatedAction current planned.action plan =
      .ok { current with policies := current.policies ++ newPolicy snapshot profile } := by
  have hprofile := profileOf_about hfound habout
  cases hsettled with
  | reuse hexact hoperation =>
      have hnone : newPolicy snapshot profile = [] := by simp [newPolicy, hexact]
      simp [applySimulatedAction, hoperation, hnone]
  | create hexact _ _ hoperation =>
      have hone : newPolicy snapshot profile = [simulatedPolicy (policyName profile)
          (servingConnection snapshot profile).objectId profile] := by
        simp [newPolicy, servingPolicy, hexact]
      simp [applySimulatedAction, hoperation, hprofile, habout.targetName, hone, hresolves,
        pure, Except.pure]

theorem verifyPolicyAction_settled (hcons : current.Consistent foldNonAscii)
    (hmem : servingPolicy snapshot profile ∈ current.policies)
    (hsettled : SettledPolicy foldNonAscii snapshot profile planned)
    (htarget : planned.action.targetName = policyName profile)
    (hresolves : ∀ failure, resolveDependency current planned.action failure =
      .ok (servingConnection snapshot profile).objectId) :
    verifyPolicyAction current planned.action profile = .ok () := by
  have hserves := policyById_serving hcons hmem
  obtain ⟨hcomplete, hconnection, hmode, hdefault, hrules⟩ :=
    policyEquivalence_iff.mp (servingPolicy_equivalent snapshot profile)
  cases hsettled with
  | reuse _ hoperation hid hname =>
      simp [verifyPolicyAction, hresolves, hoperation, hid, hname, hserves, hcomplete,
        hconnection, hmode, hdefault, hrules]
  | create hexact _ _ hoperation =>
      have hserving : servingPolicy snapshot profile = simulatedPolicy (policyName profile)
          (servingConnection snapshot profile).objectId profile := by
        simp [servingPolicy, hexact]
      rw [hserving] at hserves
      have hid : (simulatedPolicy (policyName profile)
          (servingConnection snapshot profile).objectId profile).objectId =
            simulationPolicyId profile.slot := rfl
      rw [hid] at hserves
      simp [verifyPolicyAction, hresolves, hoperation, hserves, simulatedPolicy, htarget]

section Device

variable {device : SelectedDeviceRef}

theorem applySimulatedAction_assignment (hdevice : plan.selectedDevice = some device)
    (hsettled : SettledAssignment snapshot device profile planned)
    (hresolves : ∀ failure, resolveDependency current planned.action failure =
      .ok (servingPolicy snapshot profile).objectId) :
    applySimulatedAction current planned.action plan =
      .ok { current with
        assignments := current.assignments ++ newAssignment snapshot device profile } := by
  cases hsettled with
  | reuse existing hexisting _ hoperation =>
      simp [applySimulatedAction, hoperation, newAssignment, hexisting]
  | create hnone hoperation =>
      simp [applySimulatedAction, hoperation, newAssignment, hnone, hdevice, hresolves,
        pure, Except.pure]

/-- The settled assignment, observed or created. -/
theorem assignment_mem (hsettled : SettledAssignment snapshot device profile planned) :
    (⟨device.mac, (servingPolicy snapshot profile).objectId⟩ : ExistingDeviceAssignment) ∈
      snapshot.assignments ++ newAssignment snapshot device profile := by
  apply List.mem_append.mpr
  cases hsettled with
  | reuse existing hexisting hpolicy _ =>
      have hmem := List.mem_of_find?_eq_some hexisting
      have hmac : existing.deviceMac = device.mac := by simpa using List.find?_some hexisting
      rw [← hmac, ← hpolicy]
      exact .inl hmem
  | create hnone _ => exact .inr (by simp [newAssignment, hnone])

theorem verifyAssignmentAction_settled (hcons : current.Consistent foldNonAscii)
    (hdevice : normalizeSelected plan.selectedDevice = .ok (some device))
    (hmem : (⟨device.mac, (servingPolicy snapshot profile).objectId⟩ : ExistingDeviceAssignment) ∈
      current.assignments)
    (hresolves : ∀ failure, resolveDependency current planned.action failure =
      .ok (servingPolicy snapshot profile).objectId) :
    verifyAssignmentAction current planned.action plan = .ok () := by
  have honly : current.assignments.filter (fun item => item.deviceMac = device.mac) =
      [⟨device.mac, (servingPolicy snapshot profile).objectId⟩] := by
    apply eq_singleton_of_nodup ((hcons.deviceMacs_nodup.of_map _).filter _)
    · exact List.mem_filter.mpr ⟨hmem, by simp⟩
    · intro other hother
      obtain ⟨hother, hmac⟩ := List.mem_filter.mp hother
      exact List.inj_on_of_nodup_map hcons.deviceMacs_nodup hother hmem (by simpa using hmac)
  simp [verifyAssignmentAction, hdevice, hresolves, honly]

end Device

end Objects

theorem verifyActions_operation {snapshot : RouterStateSnapshot}
    {selectedDevice : Option SelectedDeviceRef} {proven : Bool} :
    ∀ action ∈ verifyActions snapshot selectedDevice proven, action.operation = .verify := by
  cases selectedDevice <;> simp [verifyActions, verifyAction, planAction]

section Ready

variable {Digest : Type} [DecidableEq Digest] (foldNonAscii : Char → List Char)
  (sha256Json : PlanPayload Digest → Digest)

/-- What the building of an unblocked plan establishes. -/
structure ReadyPlan (manifest : LocalEndpointManifest) (snapshot : RouterStateSnapshot)
    (selectedDevice : Option SelectedDeviceRef) (plan : ChangePlan Digest) : Prop where
  consistent : snapshot.Consistent foldNonAscii
  valid : manifest.Valid
  device : normalizeSelected selectedDevice = .ok selectedDevice
  signed : plan = signPlan sha256Json (draftPlan foldNonAscii snapshot manifest.profiles
    selectedDevice (sha256Json (.snapshot (snapshotSemantics snapshot))))
  integrity : validateChangePlanIntegrity sha256Json plan = .ok ()
  unblocked : planBlocked foldNonAscii snapshot manifest.profiles selectedDevice = false

/-- The assignments an unblocked plan adds. -/
def addedAssignments (snapshot : RouterStateSnapshot) (profiles : List LocalProxyProfile)
    (selectedDevice : Option SelectedDeviceRef) : List ExistingDeviceAssignment :=
  match selectedDevice, profiles with
  | some device, primary :: _ => newAssignment snapshot device primary
  | _, _ => []

/-- The snapshot with everything created that an unblocked plan asks for. -/
def convergedState (snapshot : RouterStateSnapshot) (profiles : List LocalProxyProfile)
    (selectedDevice : Option SelectedDeviceRef) : RouterStateSnapshot :=
  withCreated snapshot profiles profiles (addedAssignments snapshot profiles selectedDevice)

variable {foldNonAscii sha256Json} {manifest : LocalEndpointManifest}
  {snapshot : RouterStateSnapshot} {selectedDevice : Option SelectedDeviceRef}
  {plan : ChangePlan Digest}

/-- How a plan is built, and when it is not blocked. -/
theorem buildChangePlan_ready
    (hbuild : buildChangePlan foldNonAscii sha256Json manifest snapshot selectedDevice = .ok plan)
    (hready : plan.isBlocked = false) :
    ∃ normalized selected, normalizeLocalEndpointManifest manifest = .ok normalized ∧
      normalizeSelected selectedDevice = .ok selected ∧
      ReadyPlan foldNonAscii sha256Json normalized snapshot selected plan := by
  simp only [buildChangePlan, bind_eq_ok, exists_unit, pure_eq_ok] at hbuild
  obtain ⟨normalized, hnormalized, selected, hselected, consistency, hconsistent, fingerprint,
    hfingerprint, hintegrity, rfl⟩ := hbuild
  have hcons := ((validateSnapshotConsistency_eq_ok foldNonAscii).mp hconsistent).1
  rw [snapshotSemanticFingerprint, hcons.projection] at hfingerprint
  obtain rfl := Except.ok.inj hfingerprint
  refine ⟨normalized, selected, hnormalized, hselected, hcons,
    LocalEndpointManifest.valid_of_normalized hnormalized, normalizeSelected_idem hselected, rfl,
    hintegrity, ?_⟩
  cases hblocked : planBlocked foldNonAscii snapshot normalized.profiles selected with
  | false => rfl
  | true => simp [ChangePlan.isBlocked, signPlan, draftPlan, hblocked] at hready

namespace ReadyPlan

variable (h : ReadyPlan foldNonAscii sha256Json manifest snapshot selectedDevice plan)
include h

theorem desiredProfiles : plan.desiredProfiles = manifest.profiles := by
  rw [h.signed]
  rfl

theorem planDevice : plan.selectedDevice = selectedDevice := by
  rw [h.signed]
  rfl

theorem notBlocked {object : PlannedObject} (hobject : object ∈ plannedObjects foldNonAscii snapshot
    manifest.profiles selectedDevice) : object.blocks = false :=
  (planBlocked_eq_false.mp h.unblocked).2.2.2.1 object hobject

theorem settled {profile : LocalProxyProfile} (hprofile : profile ∈ manifest.profiles) :
    SettledProfile foldNonAscii snapshot profile := by
  have hconnection := planConnection_settles (h.notBlocked (List.mem_append_left _
    (List.mem_append_left _ (List.mem_map_of_mem hprofile))))
  have hpolicy := h.notBlocked (List.mem_append_left _
    (List.mem_append_right _ (List.mem_map_of_mem hprofile)))
  exact ⟨hconnection, planPolicy_settles h.consistent hconnection hpolicy⟩

/-- The actions of an unblocked plan are those it drafted. -/
theorem actions : plan.actions =
    objectActions foldNonAscii snapshot manifest.profiles selectedDevice ++
      verifyActions snapshot selectedDevice true := by
  have hproven := (planBlocked_eq_false.mp h.unblocked).2.2.2.2
  have hactions : plan.actions =
      draftActions foldNonAscii snapshot manifest.profiles selectedDevice := by
    rw [h.signed]
    rfl
  rw [hactions, draftActions, h.unblocked, hproven]
  rfl

theorem lookup {profile : LocalProxyProfile} (hprofile : profile ∈ manifest.profiles) :
    Keyed.lookup (·.slot) profile.slot plan.desiredProfiles = some profile :=
  h.desiredProfiles ▸ h.valid.lookup hprofile

theorem withCreated_consistent {connected governed : List LocalProxyProfile}
    {assignments : List ExistingDeviceAssignment} (hconnected : connected.Sublist manifest.profiles)
    (hgoverned : governed.Sublist connected)
    (hassignments : AddedAssignments snapshot governed assignments) :
    (withCreated snapshot connected governed assignments).Consistent foldNonAscii :=
  Netcraze.withCreated_consistent h.consistent h.valid (fun _ hprofile => h.settled hprofile)
    hconnected hgoverned hassignments

theorem withCreated_projection {connected governed : List LocalProxyProfile}
    {assignments : List ExistingDeviceAssignment}
    (hcons : (withCreated snapshot connected governed assignments).Consistent foldNonAscii) :
    defaultPolicyProjection foldNonAscii (withCreated snapshot connected governed assignments) =
      .ok (projectionOf snapshot) := by
  rw [hcons.projection, withCreated, projectionOf_grow _ _ h.consistent]

section Object

variable {profile : LocalProxyProfile} (hprofile : profile ∈ manifest.profiles)
  {current : RouterStateSnapshot} (hcons : current.Consistent foldNonAscii)
include hprofile hcons

theorem verifyConnection (hmem : servingConnection snapshot profile ∈ current.connections) :
    withProfile plan (planConnection foldNonAscii snapshot profile).action
      (verifyConnectionAction current (planConnection foldNonAscii snapshot profile).action) =
        .ok () := by
  have habout : (planConnection foldNonAscii snapshot profile).action.About _ _ _ profile :=
    planConnection_about _ _
  rw [withProfile_about (h.lookup hprofile) habout]
  exact verifyConnectionAction_settled hcons hmem (h.settled hprofile).connection habout.targetName

/-- The connection a policy depends on resolves where it is present. -/
theorem resolvePolicyDependency (hmem : servingConnection snapshot profile ∈ current.connections)
    (failure : String) :
    resolveDependency current (planPolicy foldNonAscii snapshot
      (connectionRef foldNonAscii snapshot profile) profile).action failure =
        .ok (servingConnection snapshot profile).objectId := by
  have hsettled := (h.settled hprofile).connection
  obtain ⟨reference, hreference⟩ := hsettled.hasReference
  rw [connectionRef, hreference, resolveDependency, planPolicy_dependencies]
  exact resolveSimulationReference_connection hcons hmem hsettled hreference

theorem verifyPolicy (hmem : servingConnection snapshot profile ∈ current.connections)
    (hmem' : servingPolicy snapshot profile ∈ current.policies) :
    withProfile plan (planPolicy foldNonAscii snapshot (connectionRef foldNonAscii snapshot profile)
        profile).action
      (verifyPolicyAction current (planPolicy foldNonAscii snapshot
        (connectionRef foldNonAscii snapshot profile) profile).action) = .ok () := by
  have habout : (planPolicy foldNonAscii snapshot (connectionRef foldNonAscii snapshot profile)
      profile).action.About _ _ _ profile := planPolicy_about _ _ _
  rw [withProfile_about (h.lookup hprofile) habout]
  exact verifyPolicyAction_settled hcons hmem' (h.settled hprofile).policy habout.targetName
    (h.resolvePolicyDependency hprofile hcons hmem)

theorem resolveAssignmentDependency (device : SelectedDeviceRef)
    (hmem : servingPolicy snapshot profile ∈ current.policies) (failure : String) :
    resolveDependency current (Netcraze.planDevice snapshot device
      (policyRef foldNonAscii snapshot profile) profile).action failure =
        .ok (servingPolicy snapshot profile).objectId := by
  have hsettled := (h.settled hprofile).policy
  obtain ⟨reference, hreference⟩ := hsettled.hasReference
  rw [policyRef, hreference, resolveDependency, planDevice_dependencies]
  exact resolveSimulationReference_policy hcons hmem hsettled hreference

end Object

theorem stepConnection (done : List LocalProxyProfile) (profile : LocalProxyProfile)
    (rest : List LocalProxyProfile) (hprofiles : manifest.profiles = done ++ profile :: rest) :
    Steps foldNonAscii plan (projectionOf snapshot) (withCreated snapshot done [] [])
      (planConnection foldNonAscii snapshot profile).action
      (withCreated snapshot (done ++ [profile]) [] []) := by
  have hprofile : profile ∈ manifest.profiles := by simp [hprofiles]
  have hsub : (done ++ [profile]).Sublist manifest.profiles := by
    rw [hprofiles, List.append_cons done profile rest]
    exact List.sublist_append_left _ _
  have hcons := h.withCreated_consistent hsub (List.nil_sublist _) (.inl rfl)
  have hsettled := (h.settled hprofile).connection
  constructor
  · rw [applySimulatedAction_connection (h.lookup hprofile) hsettled (planConnection_about _ _)]
    simp [withCreated, RouterStateSnapshot.grow]
  · apply actionFailure_eq_none (h.withCreated_projection hcons)
    have hverify := h.verifyConnection hprofile hcons (servingConnection_mem (by simp))
    cases hsettled with
    | reuse _ hoperation => simpa only [verifySimulatedAction, hoperation] using hverify
    | create _ _ _ hoperation => simpa only [verifySimulatedAction, hoperation] using hverify

theorem stepPolicy (done : List LocalProxyProfile) (profile : LocalProxyProfile)
    (rest : List LocalProxyProfile) (hprofiles : manifest.profiles = done ++ profile :: rest) :
    Steps foldNonAscii plan (projectionOf snapshot)
      (withCreated snapshot manifest.profiles done [])
      (planPolicy foldNonAscii snapshot (connectionRef foldNonAscii snapshot profile)
        profile).action
      (withCreated snapshot manifest.profiles (done ++ [profile]) []) := by
  have hprofile : profile ∈ manifest.profiles := by simp [hprofiles]
  have hsub : (done ++ [profile]).Sublist manifest.profiles := by
    rw [hprofiles, List.append_cons done profile rest]
    exact List.sublist_append_left _ _
  have hbefore := h.withCreated_consistent (List.Sublist.refl _)
    ((List.sublist_append_left done [profile]).trans hsub) (.inl rfl)
  have hcons := h.withCreated_consistent (List.Sublist.refl _) hsub (.inl rfl)
  have hsettled := (h.settled hprofile).policy
  constructor
  · rw [applySimulatedAction_policy (h.lookup hprofile) hsettled (planPolicy_about _ _ _)
      (h.resolvePolicyDependency hprofile hbefore (servingConnection_mem hprofile))]
    simp [withCreated, RouterStateSnapshot.grow]
  · apply actionFailure_eq_none (h.withCreated_projection hcons)
    have hverify := h.verifyPolicy hprofile hcons (servingConnection_mem hprofile)
      (servingPolicy_mem (by simp))
    cases hsettled with
    | reuse _ hoperation => simpa only [verifySimulatedAction, hoperation] using hverify
    | create _ _ _ hoperation => simpa only [verifySimulatedAction, hoperation] using hverify

theorem settledAssignment {device : SelectedDeviceRef} {primary : LocalProxyProfile}
    {rest : List LocalProxyProfile} (hselected : selectedDevice = some device)
    (hprofiles : manifest.profiles = primary :: rest) :
    SettledAssignment snapshot device primary
      (Netcraze.planDevice snapshot device (policyRef foldNonAscii snapshot primary) primary) := by
  apply planDevice_settles (h.settled (by simp [hprofiles])).policy
  apply h.notBlocked
  apply List.mem_append_right
  simp [planAssignments, hselected, hprofiles]

theorem normalizedDevice {device : SelectedDeviceRef} (hselected : selectedDevice = some device) :
    normalizeTrustedDeviceMac device.mac = .ok device.mac := by
  have hdevice := h.device
  rw [hselected] at hdevice
  cases hnormal : normalizeSelectedDeviceRef device with
  | error e => simp [normalizeSelected, hnormal, Except.map] at hdevice
  | ok normalized =>
      simp only [normalizeSelected, hnormal, Except.map, Except.ok.injEq,
        Option.some.injEq] at hdevice
      rw [hdevice] at hnormal
      exact (normalizeSelectedDeviceRef_eq_ok.mp hnormal).2

theorem addedAssignments_sound :
    AddedAssignments snapshot manifest.profiles
      (addedAssignments snapshot manifest.profiles selectedDevice) := by
  obtain ⟨primary, rest, hprofiles⟩ := h.valid.primary
  cases hselected : selectedDevice with
  | none => exact .inl (by simp [addedAssignments])
  | some device =>
      refine .inr ⟨device, primary, by simp [hprofiles], h.normalizedDevice hselected, ?_⟩
      simp [addedAssignments, hprofiles]

theorem converged_consistent :
    (convergedState snapshot manifest.profiles selectedDevice).Consistent foldNonAscii :=
  h.withCreated_consistent (List.Sublist.refl _) (List.Sublist.refl _) h.addedAssignments_sound

theorem converged_projection :
    defaultPolicyProjection foldNonAscii (convergedState snapshot manifest.profiles
      selectedDevice) = .ok (projectionOf snapshot) :=
  h.withCreated_projection h.converged_consistent

theorem verifyAssignment {device : SelectedDeviceRef} {primary : LocalProxyProfile}
    {rest : List LocalProxyProfile} (hselected : selectedDevice = some device)
    (hprofiles : manifest.profiles = primary :: rest) :
    verifyAssignmentAction (convergedState snapshot manifest.profiles selectedDevice)
      (Netcraze.planDevice snapshot device (policyRef foldNonAscii snapshot primary)
        primary).action plan = .ok () := by
  have hprimary : primary ∈ manifest.profiles := by simp [hprofiles]
  have hdevice : normalizeSelected plan.selectedDevice = .ok (some device) := by
    rw [h.planDevice, h.device, hselected]
  apply verifyAssignmentAction_settled h.converged_consistent hdevice
  · have hmem := assignment_mem (h.settledAssignment hselected hprofiles)
    simpa [convergedState, withCreated, RouterStateSnapshot.grow, addedAssignments, hselected,
      hprofiles] using hmem
  · exact h.resolveAssignmentDependency hprimary h.converged_consistent device
      (servingPolicy_mem hprimary)

theorem executesAssignment :
    Executes foldNonAscii plan (projectionOf snapshot)
      (withCreated snapshot manifest.profiles manifest.profiles [])
      ((planAssignments foldNonAscii snapshot manifest.profiles selectedDevice).map (·.action))
      (convergedState snapshot manifest.profiles selectedDevice) := by
  obtain ⟨primary, rest, hprofiles⟩ := h.valid.primary
  have hprimary : primary ∈ manifest.profiles := by simp [hprofiles]
  cases hselected : selectedDevice with
  | none => exact .nil _
  | some device =>
      have hverify := h.verifyAssignment hselected hprofiles
      have hprojection := h.converged_projection
      have hsettled := h.settledAssignment hselected hprofiles
      have hbefore : (withCreated snapshot manifest.profiles manifest.profiles []).Consistent
          foldNonAscii :=
        h.withCreated_consistent (List.Sublist.refl _) (List.Sublist.refl _) (.inl rfl)
      have hplan : plan.selectedDevice = some device := h.planDevice.trans hselected
      have happlies := applySimulatedAction_assignment hplan hsettled
        (h.resolveAssignmentDependency hprimary hbefore device (servingPolicy_mem hprimary))
      rw [hselected] at hverify hprojection
      have hactions : (planAssignments foldNonAscii snapshot manifest.profiles
          (some device)).map (·.action) = [(Netcraze.planDevice snapshot device
            (policyRef foldNonAscii snapshot primary) primary).action] := by
        simp [planAssignments, hprofiles]
      rw [hactions]
      refine .cons ⟨happlies.trans ?_, actionFailure_eq_none hprojection ?_⟩ (.nil _)
      · simp [convergedState, withCreated, RouterStateSnapshot.grow, addedAssignments, hprofiles]
      · cases hsettled with
        | reuse _ _ _ hoperation => simpa only [verifySimulatedAction, hoperation] using hverify
        | create _ hoperation => simpa only [verifySimulatedAction, hoperation] using hverify

/-- Every action of an unblocked plan is settled, or only verifies. -/
theorem mem_actions {action : PlanAction} (haction : action ∈ plan.actions) :
    (∃ profile ∈ manifest.profiles,
        action = (planConnection foldNonAscii snapshot profile).action) ∨
      (∃ profile ∈ manifest.profiles, action = (planPolicy foldNonAscii snapshot
        (connectionRef foldNonAscii snapshot profile) profile).action) ∨
      action.operation ∈ [.assignDevice, .reuseAssignment, .verify] := by
  rw [h.actions] at haction
  rcases List.mem_append.mp haction with hobject | hverify
  · obtain ⟨object, hplanned, rfl⟩ := List.mem_map.mp hobject
    rcases List.mem_append.mp hplanned with hnamed | hassignment
    · rcases List.mem_append.mp hnamed with hconnection | hpolicy
      · obtain ⟨profile, hprofile, rfl⟩ := List.mem_map.mp hconnection
        exact .inl ⟨profile, hprofile, rfl⟩
      · obtain ⟨profile, hprofile, rfl⟩ := List.mem_map.mp hpolicy
        exact .inr (.inl ⟨profile, hprofile, rfl⟩)
    · obtain ⟨primary, rest, hprofiles⟩ := h.valid.primary
      cases hselected : selectedDevice with
      | none => simp [planAssignments, hselected] at hassignment
      | some device =>
          rw [hselected, hprofiles, planAssignments, List.mem_singleton] at hassignment
          have hoperation := (h.settledAssignment hselected hprofiles).operation
          rw [← hassignment] at hoperation
          have hsub : [PlanOperation.assignDevice, .reuseAssignment] ⊆
              [.assignDevice, .reuseAssignment, .verify] := by simp
          exact .inr (.inr (hsub hoperation))
  · exact .inr (.inr (by simp [verifyActions_operation action hverify]))

theorem verifyConnections_converged :
    verifyConnections (convergedState snapshot manifest.profiles selectedDevice) plan = .ok () := by
  apply checkEach_eq_ok.mpr
  intro action haction
  obtain ⟨hmem, hoperation⟩ := List.mem_filter.mp haction
  rw [decide_eq_true_eq] at hoperation
  rcases h.mem_actions hmem with ⟨profile, hprofile, rfl⟩ | ⟨profile, hprofile, rfl⟩ | hother
  · exact h.verifyConnection hprofile h.converged_consistent (servingConnection_mem hprofile)
  · have hpolicy := (h.settled hprofile).policy.operation
    simp only [List.mem_cons, List.not_mem_nil, or_false] at hoperation hpolicy
    rcases hpolicy with hpolicy | hpolicy <;> simp [hpolicy] at hoperation
  · simp only [List.mem_cons, List.not_mem_nil, or_false] at hoperation hother
    rcases hother with hother | hother | hother <;> simp [hother] at hoperation

theorem verifyPolicies_converged :
    verifyPolicies (convergedState snapshot manifest.profiles selectedDevice) plan = .ok () := by
  apply checkEach_eq_ok.mpr
  intro action haction
  obtain ⟨hmem, hoperation⟩ := List.mem_filter.mp haction
  rw [decide_eq_true_eq] at hoperation
  rcases h.mem_actions hmem with ⟨profile, hprofile, rfl⟩ | ⟨profile, hprofile, rfl⟩ | hother
  · have hconnection := (h.settled hprofile).connection.operation
    simp only [List.mem_cons, List.not_mem_nil, or_false] at hoperation hconnection
    rcases hconnection with hconnection | hconnection <;> simp [hconnection] at hoperation
  · exact h.verifyPolicy hprofile h.converged_consistent (servingConnection_mem hprofile)
      (servingPolicy_mem hprofile)
  · simp only [List.mem_cons, List.not_mem_nil, or_false] at hoperation hother
    rcases hother with hother | hother | hother <;> simp [hother] at hoperation

/-- The assignment's action is found among all actions. -/
theorem find_assignment {device : SelectedDeviceRef} {primary : LocalProxyProfile}
    {rest : List LocalProxyProfile} (hselected : selectedDevice = some device)
    (hprofiles : manifest.profiles = primary :: rest) :
    plan.actions.find? (fun item => item.actionId = .assignment) =
      some (Netcraze.planDevice snapshot device (policyRef foldNonAscii snapshot primary)
        primary).action := by
  have hconnections : ((planConnections foldNonAscii snapshot manifest.profiles).map
      (·.action)).find? (fun item => item.actionId = .assignment) = none := by
    apply List.find?_eq_none.mpr
    intro action haction
    obtain ⟨object, hobject, rfl⟩ := List.mem_map.mp haction
    obtain ⟨profile, -, rfl⟩ := List.mem_map.mp hobject
    have habout : (planConnection foldNonAscii snapshot profile).action.About _ _ _ profile :=
      planConnection_about _ _
    simp [habout.actionId]
  have hpolicies : ((planPolicies foldNonAscii snapshot manifest.profiles).map
      (·.action)).find? (fun item => item.actionId = .assignment) = none := by
    apply List.find?_eq_none.mpr
    intro action haction
    obtain ⟨object, hobject, rfl⟩ := List.mem_map.mp haction
    obtain ⟨profile, -, rfl⟩ := List.mem_map.mp hobject
    have habout : (planPolicy foldNonAscii snapshot (connectionRef foldNonAscii snapshot profile)
        profile).action.About _ _ _ profile := planPolicy_about _ _ _
    simp [habout.actionId]
  have habout : (Netcraze.planDevice snapshot device (policyRef foldNonAscii snapshot primary)
      primary).action.About _ _ _ primary := planDevice_about _ _ _
  rw [h.actions, objectActions, plannedObjects, List.map_append, List.map_append,
    List.find?_append, List.find?_append, List.find?_append, hconnections, hpolicies, hselected,
    hprofiles, planAssignments]
  simp [habout.actionId]

/-- A verification leaves the converged state as it is and accepts it. -/
theorem stepVerify {action : PlanAction}
    (haction : action ∈ verifyActions snapshot selectedDevice true) :
    Steps foldNonAscii plan (projectionOf snapshot)
      (convergedState snapshot manifest.profiles selectedDevice) action
      (convergedState snapshot manifest.profiles selectedDevice) := by
  have hoperation := verifyActions_operation action haction
  have hprojection := h.converged_projection
  have hsource : plan.sourceDefaultPolicyProjection = projectionOf snapshot := by
    rw [h.signed]
    rfl
  refine ⟨by simp [applySimulatedAction, hoperation], ?_⟩
  apply actionFailure_eq_none hprojection
  simp only [verifySimulatedAction, hoperation]
  rcases List.mem_append.mp haction with haction | hdefault
  · rcases List.mem_append.mp haction with hobjects | hassignment
    · rcases List.mem_cons.mp hobjects with rfl | hpolicies
      · exact h.verifyConnections_converged
      · obtain rfl := List.mem_singleton.mp hpolicies
        exact h.verifyPolicies_converged
    · obtain ⟨primary, rest, hprofiles⟩ := h.valid.primary
      cases hselected : selectedDevice with
      | none => simp [hselected] at hassignment
      | some device =>
          simp only [hselected, Option.isSome_some, if_true, List.mem_singleton] at hassignment
          subst hassignment
          have hverify := h.verifyAssignment hselected hprofiles
          rw [hselected] at hverify
          simpa [verifyAction, planAction, h.find_assignment hselected hprofiles] using hverify
  · obtain rfl := List.mem_singleton.mp hdefault
    simp [verifyAction, planAction, hprojection, hsource]

theorem executesVerify (actions : List PlanAction)
    (hactions : ∀ action ∈ actions, action ∈ verifyActions snapshot selectedDevice true) :
    Executes foldNonAscii plan (projectionOf snapshot)
      (convergedState snapshot manifest.profiles selectedDevice) actions
      (convergedState snapshot manifest.profiles selectedDevice) := by
  induction actions with
  | nil => exact .nil _
  | cons action rest ih =>
      exact .cons (h.stepVerify (hactions action List.mem_cons_self))
        (ih (fun other hother => hactions other (List.mem_cons_of_mem _ hother)))

/-- An unblocked plan executes from its snapshot to the converged state. -/
theorem executes :
    Executes foldNonAscii plan (projectionOf snapshot) snapshot plan.actions
      (convergedState snapshot manifest.profiles selectedDevice) := by
  have hstart : withCreated snapshot [] [] [] = snapshot := by
    simp [withCreated, RouterStateSnapshot.grow]
  have hconnections := executes_map h.stepConnection
  have hpolicies := executes_map h.stepPolicy
  rw [hstart] at hconnections
  have hverify := h.executesVerify (verifyActions snapshot selectedDevice true) (fun _ ha => ha)
  have hrun := ((hconnections.append hpolicies).append h.executesAssignment).append hverify
  rw [h.actions, objectActions, plannedObjects, planConnections, planPolicies, List.map_append,
    List.map_append, List.map_map, List.map_map]
  exact hrun

end ReadyPlan

end Ready

end RouterKit.Netcraze
