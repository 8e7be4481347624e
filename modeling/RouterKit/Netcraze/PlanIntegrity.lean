import RouterKit.Netcraze.ChangePlan

/-!
What the planner emits is what the integrity checker accepts. The two were
written independently; they can differ only about the ids an action refers to,
which the checker wants to be non-empty.
-/

namespace RouterKit.Netcraze

open RouterKit.Lib RouterKit.Lib.Checked RouterKit.Devices

theorem validateReference_existingConnection {objectId : String} :
    validateReference (existingConnectionReference objectId) = .ok () ↔ objectId ≠ "" := by
  simp [validateReference, existingConnectionReference]

theorem validateReference_existingPolicy {objectId : String} :
    validateReference (existingPolicyReference objectId) = .ok () ↔ objectId ≠ "" := by
  simp [validateReference, existingPolicyReference]

theorem validateReference_planned {kind : ReferenceKind} {slot : Nat} (h : slot ∈ [1, 2, 3])
    (hkind : kind = .plannedConnection ∨ kind = .plannedPolicy) :
    validateReference { kind, profileSlot := some slot } = .ok () := by
  have hslot : (some slot).any (· ∈ [1, 2, 3]) = true := by simpa using h
  rcases hkind with rfl | rfl <;> simp only [validateReference, hslot] <;> rfl

theorem sameDict_refl (pairs : List (String × String)) : sameDict pairs pairs := fun _ _ => rfl

theorem connectionFields_sorted (profile : LocalProxyProfile) :
    (connectionFields profile).Pairwise (fun a b => toLex a ≤ toLex b) := by
  have hnames : ["auth_mode", "enabled", "host", "port", "protocol"].Pairwise (· < ·) := by decide
  have hmap : ((connectionFields profile).map Prod.fst).Pairwise (· < ·) := hnames
  rw [List.pairwise_map] at hmap
  exact hmap.imp (fun h => Prod.Lex.le_iff.mpr (.inl h))

/-- The fields `_action` derives from its positional arguments. -/
structure PlanAction.About (action : PlanAction) (actionId : ActionId) (objectType : ObjectType)
    (targetName : String) (profile : LocalProxyProfile) : Prop where
  actionId : action.actionId = actionId
  objectType : action.objectType = objectType
  targetName : action.targetName = targetName
  profileSlot : action.profileSlot = some profile.slot
  endpoint : action.endpoint = some (profileEndpoint profile)
  sensitivity : action.sensitivity = .localSensitive

section Kinds

variable {profiles : List LocalProxyProfile} {profile : LocalProxyProfile}
  {selectedDevice : Option SelectedDeviceRef} {action : PlanAction}

theorem PlanAction.About.profileOf {actionId : ActionId} {objectType : ObjectType}
    {targetName : String} (h : action.About actionId objectType targetName profile)
    (hfound : Keyed.lookup (·.slot) profile.slot profiles = some profile) :
    profileOfAction profiles action = .ok profile := by
  simp [profileOfAction, h.profileSlot, hfound]

theorem validateAction_connection
    (h : action.About (.connection profile.slot) .connection (connectionName profile) profile)
    (hfound : Keyed.lookup (·.slot) profile.slot profiles = some profile)
    (hsorted : action.proposed.Pairwise (fun a b => toLex a ≤ toLex b))
    (hdependencies : action.dependencies = [])
    (hproposal : (action.operation = .createConnection ∧
        action.proposed = connectionFields profile) ∨
      (action.operation ∈ [.reuseConnection, .conflict] ∧ validateProposed action = .ok ())) :
    validateAction profiles selectedDevice action = .ok () := by
  simp only [validateAction, h.sensitivity, hsorted, hdependencies, checkEach, h.actionId]
  simp only [validateConnectionAction, h.profileOf hfound, h.objectType, h.targetName, h.endpoint,
    hdependencies]
  rcases hproposal with ⟨hcreate, hfields⟩ | ⟨hoperation, hproposed⟩
  · simp [hcreate, hfields, sameDict_refl]
  · rcases List.mem_cons.mp hoperation with hreuse | hconflict
    · simp [hreuse, hproposed]
    · simp [List.mem_singleton.mp hconflict, hproposed]

theorem validateAction_policy
    (h : action.About (.policy profile.slot) .policy (policyName profile) profile)
    (hfound : Keyed.lookup (·.slot) profile.slot profiles = some profile)
    (hsorted : action.proposed.Pairwise (fun a b => toLex a ≤ toLex b))
    (hreferences : ∀ reference ∈ action.dependencies, validateReference reference = .ok ())
    (hdependency :
      validateDependency action profile .existingConnection .plannedConnection = .ok ())
    (hproposal : (action.operation = .createPolicy ∧
        sameDict action.proposed [("default", "False"), ("mode", "proxy_only")]) ∨
      (action.operation ∈ [.reusePolicy, .conflict, .blocked] ∧
        validateProposed action = .ok ())) :
    validateAction profiles selectedDevice action = .ok () := by
  have hchecked : checkEach validateReference action.dependencies = .ok () :=
    checkEach_eq_ok.mpr hreferences
  simp only [validateAction, h.sensitivity, hsorted, hchecked, h.actionId]
  simp only [validatePolicyAction, h.profileOf hfound, h.objectType, h.targetName, h.endpoint,
    bind_ok_left]
  rcases hproposal with ⟨hcreate, hfields⟩ | ⟨hoperation, hproposed⟩
  · simp [hcreate, hfields, hdependency]
  · simp only [List.mem_cons, List.not_mem_nil, or_false] at hoperation
    rcases hoperation with hoperation | hoperation | hoperation <;>
      simp [hoperation, hproposed, hdependency]

theorem validateAction_assignment {device : SelectedDeviceRef} {rest : List LocalProxyProfile}
    (h : action.About .assignment .assignment "selected-device" profile)
    (hproposed : action.proposed = [])
    (hreferences : ∀ reference ∈ action.dependencies, validateReference reference = .ok ())
    (hdependency : validateDependency action profile .existingPolicy .plannedPolicy = .ok ())
    (hoperation : action.operation ∈ [.assignDevice, .blocked] ∨
      (action.operation = .reuseAssignment ∧ action.observedId = some device.mac)) :
    validateAction (profile :: rest) (some device) action = .ok () := by
  have hchecked : checkEach validateReference action.dependencies = .ok () :=
    checkEach_eq_ok.mpr hreferences
  simp only [validateAction, h.sensitivity, hproposed, hchecked, h.actionId]
  simp only [validateAssignmentAction, h.objectType, h.targetName, h.endpoint, h.profileSlot,
    hproposed, hdependency]
  rcases hoperation with hoperation | ⟨hreuse, hobserved⟩
  · simp only [List.mem_cons, List.not_mem_nil, or_false] at hoperation
    rcases hoperation with hoperation | hoperation <;> simp [hoperation]
  · simp [hreuse, hobserved]

end Kinds

section Objects

variable (foldNonAscii : Char → List Char) (snapshot : RouterStateSnapshot)
  {profiles : List LocalProxyProfile} {profile : LocalProxyProfile}
  {selectedDevice : Option SelectedDeviceRef}

theorem planConnection_about :
    (planConnection foldNonAscii snapshot profile).action.About (.connection profile.slot)
      .connection (connectionName profile) profile := by
  unfold planConnection
  split
  · exact ⟨rfl, rfl, rfl, rfl, rfl, rfl⟩
  · exact ⟨rfl, rfl, rfl, rfl, rfl, rfl⟩
  · exact ⟨rfl, rfl, rfl, rfl, rfl, rfl⟩
  · split <;> exact ⟨rfl, rfl, rfl, rfl, rfl, rfl⟩

theorem planPolicy_about (desiredRef : Option ObjectReference) :
    (planPolicy foldNonAscii snapshot desiredRef profile).action.About (.policy profile.slot)
      .policy (policyName profile) profile := by
  unfold planPolicy
  split
  · exact ⟨rfl, rfl, rfl, rfl, rfl, rfl⟩
  · split
    · exact ⟨rfl, rfl, rfl, rfl, rfl, rfl⟩
    · exact ⟨rfl, rfl, rfl, rfl, rfl, rfl⟩
    · exact ⟨rfl, rfl, rfl, rfl, rfl, rfl⟩
    · split <;> exact ⟨rfl, rfl, rfl, rfl, rfl, rfl⟩

theorem planDevice_about (device : SelectedDeviceRef) (desiredPolicyRef : Option ObjectReference) :
    (planDevice snapshot device desiredPolicyRef profile).action.About .assignment .assignment
      "selected-device" profile := by
  unfold planDevice
  split
  · exact ⟨rfl, rfl, rfl, rfl, rfl, rfl⟩
  · exact ⟨rfl, rfl, rfl, rfl, rfl, rfl⟩
  · split <;> exact ⟨rfl, rfl, rfl, rfl, rfl, rfl⟩

theorem planConnection_dependencies :
    (planConnection foldNonAscii snapshot profile).action.dependencies = [] := by
  unfold planConnection
  split
  · rfl
  · rfl
  · rfl
  · split <;> rfl

theorem planPolicy_dependencies (desiredRef : Option ObjectReference) :
    (planPolicy foldNonAscii snapshot desiredRef profile).action.dependencies =
      desiredRef.toList := by
  unfold planPolicy
  split
  · rfl
  · split
    · rfl
    · rfl
    · rfl
    · split <;> rfl

theorem planDevice_dependencies (device : SelectedDeviceRef)
    (desiredPolicyRef : Option ObjectReference) :
    (planDevice snapshot device desiredPolicyRef profile).action.dependencies =
      desiredPolicyRef.toList := by
  unfold planDevice
  split
  · rfl
  · rfl
  · split <;> rfl

/-- What one planned object owes the checker. -/
structure PlannedObject.Accepted (object : PlannedObject) (actionId : ActionId)
    (profiles : List LocalProxyProfile) (selectedDevice : Option SelectedDeviceRef) : Prop where
  actionId : object.action.actionId = actionId
  accepted : (∀ reference ∈ object.action.dependencies, validateReference reference = .ok ()) →
    validateAction profiles selectedDevice object.action = .ok ()
  readiness : object.blocks = false → object.action.readiness ≠ .blocked

theorem planConnection_accepted
    (hfound : Keyed.lookup (·.slot) profile.slot profiles = some profile) :
    (planConnection foldNonAscii snapshot profile).Accepted (.connection profile.slot) profiles
      selectedDevice := by
  unfold planConnection
  split
  · refine ⟨rfl, fun _ => ?_, by simp⟩
    refine validateAction_connection ⟨rfl, rfl, rfl, rfl, rfl, rfl⟩ hfound
      (List.pairwise_singleton _ _) rfl (.inr ⟨by simp [connectionAction, planAction], ?_⟩)
    simp [validateProposed, connectionAction, planAction, sameDict_refl]
  · refine ⟨rfl, fun _ => ?_, by simp⟩
    refine validateAction_connection ⟨rfl, rfl, rfl, rfl, rfl, rfl⟩ hfound
      (List.pairwise_singleton _ _) rfl (.inr ⟨by simp [connectionAction, planAction], ?_⟩)
    simp [validateProposed, connectionAction, planAction, sameDict_refl]
  · refine ⟨rfl, fun _ => ?_, by simp⟩
    refine validateAction_connection ⟨rfl, rfl, rfl, rfl, rfl, rfl⟩ hfound
      (List.pairwise_singleton _ _) rfl (.inr ⟨by simp [connectionAction, planAction], ?_⟩)
    simp [validateProposed, connectionAction, planAction, sameDict_refl]
  · split
    · refine ⟨rfl, fun _ => ?_, by simp⟩
      refine validateAction_connection ⟨rfl, rfl, rfl, rfl, rfl, rfl⟩ hfound
        List.Pairwise.nil rfl (.inr ⟨by simp [connectionAction, planAction], ?_⟩)
      simp [validateProposed, connectionAction, planAction, sameDict_refl]
    · refine ⟨rfl, fun _ => ?_, by simp [connectionAction, planAction]⟩
      exact validateAction_connection ⟨rfl, rfl, rfl, rfl, rfl, rfl⟩ hfound
        (connectionFields_sorted profile) rfl (.inl ⟨rfl, rfl⟩)

/-- The reference to a connection is to an existing one, or to the one planned
for the same profile. -/
theorem planConnection_reference {reference : ObjectReference}
    (h : (planConnection foldNonAscii snapshot profile).reference = some reference) :
    (∃ objectId, reference = existingConnectionReference objectId) ∨
      reference = plannedConnectionReference profile.slot := by
  unfold planConnection at h
  split at h
  · cases h
  · exact .inl ⟨_, (Option.some.inj h).symm⟩
  · cases h
  · split at h
    · cases h
    · exact .inr (Option.some.inj h).symm

theorem planPolicy_accepted (desiredRef : Option ObjectReference)
    (hfound : Keyed.lookup (·.slot) profile.slot profiles = some profile)
    (hdesired : ∀ reference, desiredRef = some reference →
      (∃ objectId, reference = existingConnectionReference objectId) ∨
        reference = plannedConnectionReference profile.slot) :
    (planPolicy foldNonAscii snapshot desiredRef profile).Accepted (.policy profile.slot) profiles
      selectedDevice := by
  have hdependency : ∀ (action : PlanAction) (reference : ObjectReference),
      desiredRef = some reference → action.dependencies = [reference] →
      validateDependency action profile .existingConnection .plannedConnection = .ok () := by
    intro action reference hreference hdependencies
    rcases hdesired reference hreference with ⟨objectId, rfl⟩ | rfl
    · simp [validateDependency, hdependencies, existingConnectionReference]
    · simp [validateDependency, hdependencies, plannedConnectionReference]
  unfold planPolicy
  split
  · refine ⟨rfl, fun hreferences => ?_, by simp⟩
    refine validateAction_policy ⟨rfl, rfl, rfl, rfl, rfl, rfl⟩ hfound List.Pairwise.nil
      hreferences ?_ (.inr ⟨by simp [policyAction, planAction], ?_⟩)
    · simp [validateDependency, policyAction, planAction]
    · simp [validateProposed, policyAction, planAction]
  · next reference =>
    split
    · refine ⟨rfl, fun hreferences => ?_, by simp⟩
      refine validateAction_policy ⟨rfl, rfl, rfl, rfl, rfl, rfl⟩ hfound
        List.Pairwise.nil hreferences (hdependency _ reference rfl rfl)
        (.inr ⟨by simp [policyAction, planAction], ?_⟩)
      simp [validateProposed, policyAction, planAction, sameDict_refl]
    · refine ⟨rfl, fun hreferences => ?_, by simp⟩
      refine validateAction_policy ⟨rfl, rfl, rfl, rfl, rfl, rfl⟩ hfound
        (List.pairwise_singleton _ _) hreferences (hdependency _ reference rfl rfl)
        (.inr ⟨by simp [policyAction, planAction], ?_⟩)
      simp [validateProposed, policyAction, planAction, sameDict_refl]
    · refine ⟨rfl, fun hreferences => ?_, by simp⟩
      refine validateAction_policy ⟨rfl, rfl, rfl, rfl, rfl, rfl⟩ hfound
        (List.pairwise_singleton _ _) hreferences (hdependency _ reference rfl rfl)
        (.inr ⟨by simp [policyAction, planAction], ?_⟩)
      simp [validateProposed, policyAction, planAction, sameDict_refl]
    · split
      · refine ⟨rfl, fun hreferences => ?_, by simp⟩
        refine validateAction_policy ⟨rfl, rfl, rfl, rfl, rfl, rfl⟩ hfound
          List.Pairwise.nil hreferences (hdependency _ reference rfl rfl)
          (.inr ⟨by simp [policyAction, planAction], ?_⟩)
        simp [validateProposed, policyAction, planAction, sameDict_refl]
      · refine ⟨rfl, fun hreferences => ?_, by simp [policyAction, planAction]⟩
        refine validateAction_policy ⟨rfl, rfl, rfl, rfl, rfl, rfl⟩ hfound ?_ hreferences
          (hdependency _ reference rfl rfl) (.inl ⟨rfl, sameDict_refl _⟩)
        exact (List.pairwise_pair).mpr (Prod.Lex.le_iff.mpr (.inl (by decide)))

theorem planPolicy_reference {desiredRef : Option ObjectReference} {reference : ObjectReference}
    (h : (planPolicy foldNonAscii snapshot desiredRef profile).reference = some reference) :
    (∃ objectId, reference = existingPolicyReference objectId) ∨
      reference = plannedPolicyReference profile.slot := by
  unfold planPolicy at h
  split at h
  · cases h
  · split at h
    · cases h
    · exact .inl ⟨_, (Option.some.inj h).symm⟩
    · cases h
    · split at h
      · cases h
      · exact .inr (Option.some.inj h).symm

theorem planDevice_accepted {device : SelectedDeviceRef} {rest : List LocalProxyProfile}
    (desiredPolicyRef : Option ObjectReference)
    (hdesired : ∀ reference, desiredPolicyRef = some reference →
      (∃ objectId, reference = existingPolicyReference objectId) ∨
        reference = plannedPolicyReference profile.slot) :
    (planDevice snapshot device desiredPolicyRef profile).Accepted .assignment (profile :: rest)
      (some device) := by
  have hdependency : ∀ (action : PlanAction) (reference : ObjectReference),
      desiredPolicyRef = some reference → action.dependencies = [reference] →
      validateDependency action profile .existingPolicy .plannedPolicy = .ok () := by
    intro action reference hreference hdependencies
    rcases hdesired reference hreference with ⟨objectId, rfl⟩ | rfl
    · simp [validateDependency, hdependencies, existingPolicyReference]
    · simp [validateDependency, hdependencies, plannedPolicyReference]
  unfold planDevice
  split
  · refine ⟨rfl, fun hreferences => ?_, by simp⟩
    refine validateAction_assignment ⟨rfl, rfl, rfl, rfl, rfl, rfl⟩ rfl hreferences ?_
      (.inl (by simp [assignmentAction, planAction]))
    simp [validateDependency, assignmentAction, planAction]
  · next reference _ =>
    refine ⟨rfl, fun hreferences => ?_, by simp [assignmentAction, planAction]⟩
    exact validateAction_assignment ⟨rfl, rfl, rfl, rfl, rfl, rfl⟩ rfl hreferences
      (hdependency _ reference rfl rfl) (.inl (by simp [assignmentAction, planAction]))
  · next reference _ _ =>
    split
    · refine ⟨rfl, fun hreferences => ?_, by simp⟩
      exact validateAction_assignment ⟨rfl, rfl, rfl, rfl, rfl, rfl⟩ rfl hreferences
        (hdependency _ reference rfl rfl) (.inr ⟨rfl, rfl⟩)
    · refine ⟨rfl, fun hreferences => ?_, by simp⟩
      exact validateAction_assignment ⟨rfl, rfl, rfl, rfl, rfl, rfl⟩ rfl hreferences
        (hdependency _ reference rfl rfl) (.inl (by simp [assignmentAction, planAction]))

end Objects

section Plan

variable {Digest : Type} {sha256Json : PlanPayload Digest → Digest}
  {foldNonAscii : Char → List Char} {snapshot : RouterStateSnapshot}
  {manifest : LocalEndpointManifest} {selectedDevice : Option SelectedDeviceRef}

theorem LocalEndpointManifest.Valid.lookup (valid : manifest.Valid) {profile : LocalProxyProfile}
    (h : profile ∈ manifest.profiles) :
    Keyed.lookup (·.slot) profile.slot manifest.profiles = some profile :=
  Keyed.lookup_of_mem (·.slot) valid.slots_nodup h

/-- The first profile of a valid manifest. -/
theorem LocalEndpointManifest.Valid.primary (valid : manifest.Valid) :
    ∃ primary rest, manifest.profiles = primary :: rest := by
  cases hprofiles : manifest.profiles with
  | nil =>
      have hnonempty := valid.nonempty
      simp [hprofiles] at hnonempty
  | cons primary rest => exact ⟨primary, rest, rfl⟩

variable (foldNonAscii snapshot selectedDevice) in
/-- Every planned object owes the checker nothing but its references. -/
theorem plannedObjects_accepted (valid : manifest.Valid) :
    ∀ object ∈ plannedObjects foldNonAscii snapshot manifest.profiles selectedDevice,
      ∃ actionId, object.Accepted actionId manifest.profiles selectedDevice := by
  intro object hobject
  rcases List.mem_append.mp hobject with hobject | hassignment
  · rcases List.mem_append.mp hobject with hconnection | hpolicy
    · obtain ⟨profile, hprofile, rfl⟩ := List.mem_map.mp hconnection
      exact ⟨_, planConnection_accepted _ _ (valid.lookup hprofile)⟩
    · obtain ⟨profile, hprofile, rfl⟩ := List.mem_map.mp hpolicy
      exact ⟨_, planPolicy_accepted _ _ _ (valid.lookup hprofile)
        (fun reference hreference => planConnection_reference _ _ hreference)⟩
  · obtain ⟨primary, rest, hprofiles⟩ := valid.primary
    cases selectedDevice with
    | none => simp [planAssignments] at hassignment
    | some device =>
        rw [hprofiles, planAssignments, List.mem_singleton] at hassignment
        subst hassignment
        rw [hprofiles]
        exact ⟨_, planDevice_accepted _ _
          (fun reference hreference => planPolicy_reference _ _ hreference)⟩

variable (foldNonAscii snapshot selectedDevice) in
theorem objectActions_ids (valid : manifest.Valid) :
    (objectActions foldNonAscii snapshot manifest.profiles selectedDevice).map (·.actionId) =
      manifest.profiles.map (fun profile => .connection profile.slot) ++
        manifest.profiles.map (fun profile => .policy profile.slot) ++
        (if selectedDevice.isSome then [.assignment] else []) := by
  have hconnections : ∀ profile ∈ manifest.profiles,
      (planConnection foldNonAscii snapshot profile).action.actionId =
        .connection profile.slot := fun profile hprofile =>
    have haccepted : (planConnection foldNonAscii snapshot profile).Accepted _
        manifest.profiles none := planConnection_accepted _ _ (valid.lookup hprofile)
    haccepted.actionId
  have hpolicies : ∀ profile ∈ manifest.profiles,
      (planPolicy foldNonAscii snapshot (connectionRef foldNonAscii snapshot profile)
        profile).action.actionId = .policy profile.slot := fun profile hprofile =>
    have haccepted : (planPolicy foldNonAscii snapshot
        (connectionRef foldNonAscii snapshot profile) profile).Accepted _
          manifest.profiles none :=
      planPolicy_accepted _ _ _ (valid.lookup hprofile)
        (fun reference hreference => planConnection_reference _ _ hreference)
    haccepted.actionId
  have hassignment : (planAssignments foldNonAscii snapshot manifest.profiles
      selectedDevice).map (fun object => object.action.actionId) =
        if selectedDevice.isSome then [.assignment] else [] := by
    obtain ⟨primary, rest, hprofiles⟩ := valid.primary
    rw [hprofiles]
    cases selectedDevice with
    | none => rfl
    | some device =>
        have haccepted : (planDevice snapshot device (policyRef foldNonAscii snapshot primary)
            primary).Accepted .assignment (primary :: rest) (some device) :=
          planDevice_accepted _ _ (fun reference hreference => planPolicy_reference _ _ hreference)
        simp [planAssignments, haccepted.actionId]
  simp only [objectActions, plannedObjects, planConnections, planPolicies, List.map_append,
    List.map_map]
  exact congrArg₂ (· ++ ·) (congrArg₂ (· ++ ·) (List.map_congr_left hconnections)
    (List.map_congr_left hpolicies)) hassignment

theorem verifyAction_accepted {profiles : List LocalProxyProfile} {action : PlanAction}
    (objectType : ObjectType) (hproposed : action.proposed = [])
    (hsensitivity : action.sensitivity = .localSensitive) (hdependencies : action.dependencies = [])
    (hverify : validateVerifyAction objectType action = .ok ())
    (hid : (action.actionId, objectType) ∈
      [(.verifyConnections, .connection), (.verifyPolicies, .policy),
        (.verifyAssignment, .assignment), (.verifyDefault, .defaultPolicy)]) :
    validateAction profiles selectedDevice action = .ok () := by
  simp only [List.mem_cons, Prod.mk.injEq, List.not_mem_nil, or_false] at hid
  rcases hid with ⟨hid, rfl⟩ | ⟨hid, rfl⟩ | ⟨hid, rfl⟩ | ⟨hid, rfl⟩ <;>
    simp [validateAction, hproposed, hsensitivity, hdependencies, checkEach, hid, hverify]

theorem verifyActions_accepted {profiles : List LocalProxyProfile} {proven : Bool} :
    ∀ action ∈ verifyActions snapshot selectedDevice proven,
      validateAction profiles selectedDevice action = .ok () := by
  have hclosing : ∀ actionId objectType targetName check,
      (actionId, objectType) ∈ [(ActionId.verifyConnections, ObjectType.connection),
        (.verifyPolicies, .policy), (.verifyAssignment, .assignment),
        (.verifyDefault, .defaultPolicy)] →
      validateAction profiles selectedDevice
        (verifyAction actionId objectType targetName check) = .ok () := by
    intro actionId objectType targetName check hid
    exact verifyAction_accepted objectType rfl rfl rfl
      (by simp [validateVerifyAction, verifyAction, planAction]) hid
  intro action haction
  rcases List.mem_append.mp haction with haction | hdefault
  · rcases List.mem_append.mp haction with hobjects | hassignment
    · rcases List.mem_cons.mp hobjects with rfl | hpolicies
      · exact hclosing _ _ _ _ (by simp)
      · obtain rfl := List.mem_singleton.mp hpolicies
        exact hclosing _ _ _ _ (by simp)
    · split at hassignment
      · obtain rfl := List.mem_singleton.mp hassignment
        exact hclosing _ _ _ _ (by simp)
      · simp at hassignment
  · obtain rfl := List.mem_singleton.mp hdefault
    exact verifyAction_accepted .defaultPolicy rfl rfl rfl
      (by simp [validateVerifyAction, verifyAction, planAction])
          (by simp [verifyAction, planAction])

/-- The actions of a plan, blocked or not, differ from the drafted ones only in
their readiness. -/
theorem mem_draftActions {profiles : List LocalProxyProfile} {action : PlanAction}
    (h : action ∈ draftActions foldNonAscii snapshot profiles selectedDevice) :
    ∃ drafted readiness, action = { drafted with readiness } ∧
      (drafted ∈ objectActions foldNonAscii snapshot profiles selectedDevice ∨
        drafted ∈ verifyActions snapshot selectedDevice
          (notTargeted foldNonAscii snapshot profiles selectedDevice)) := by
  simp only [draftActions] at h
  split at h
  · obtain ⟨drafted, hdrafted, rfl⟩ := List.mem_map.mp h
    exact ⟨drafted, _, rfl, List.mem_append.mp hdrafted⟩
  · exact ⟨action, action.readiness, rfl, List.mem_append.mp h⟩

theorem draftActions_ids (valid : manifest.Valid) :
    (draftActions foldNonAscii snapshot manifest.profiles selectedDevice).map (·.actionId) =
      expectedActionIds manifest.profiles selectedDevice := by
  have hverify : ∀ proven, (verifyActions snapshot selectedDevice proven).map (·.actionId) =
      [.verifyConnections, .verifyPolicies] ++
        (if selectedDevice.isSome then [.verifyAssignment] else []) ++ [.verifyDefault] := by
    intro proven
    cases selectedDevice <;> rfl
  have hdrafted : (draftActions foldNonAscii snapshot manifest.profiles selectedDevice).map
      (·.actionId) = (objectActions foldNonAscii snapshot manifest.profiles selectedDevice ++
        verifyActions snapshot selectedDevice
          (notTargeted foldNonAscii snapshot manifest.profiles selectedDevice)).map
            (·.actionId) := by
    simp only [draftActions]
    split
    · rw [List.map_map]
      rfl
    · rfl
  rw [hdrafted, List.map_append, objectActions_ids _ _ _ valid, hverify, expectedActionIds]
  simp only [List.append_assoc]

/-- What an unblocked plan has proven. -/
theorem planBlocked_eq_false {profiles : List LocalProxyProfile} :
    planBlocked foldNonAscii snapshot profiles selectedDevice = false ↔
      snapshot.state = .supported ∧ snapshot.stale = false ∧
        snapshot.defaultPolicyStatus = .known ∧
        (∀ object ∈ plannedObjects foldNonAscii snapshot profiles selectedDevice,
          object.blocks = false) ∧
        notTargeted foldNonAscii snapshot profiles selectedDevice = true := by
  simp [planBlocked, and_assoc]

variable (foldNonAscii snapshot selectedDevice sha256Json) in
theorem validateDefaultAction_draft (profiles : List LocalProxyProfile) (fingerprint : Digest) :
    validateDefaultAction (signPlan sha256Json
      (draftPlan foldNonAscii snapshot profiles selectedDevice fingerprint)) = .ok () := by
  have hlast : (draftActions foldNonAscii snapshot profiles selectedDevice).getLast? =
      some { verifyAction .verifyDefault .defaultPolicy "observed-default-policy"
          "default_policy_not_targeted" with
        observedId := snapshot.defaultPolicyRef
        readiness := if planBlocked foldNonAscii snapshot profiles selectedDevice then .blocked
          else .hardwareContractPending
        reason := if notTargeted foldNonAscii snapshot profiles selectedDevice then none
          else some "default policy identity is not proven" } := by
    simp only [draftActions, verifyActions, ← List.append_assoc]
    cases hblocked : planBlocked foldNonAscii snapshot profiles selectedDevice with
    | true =>
        simp only [if_true, List.map_append, List.map_singleton, List.getLast?_concat]
    | false =>
        have hproven := (planBlocked_eq_false.mp hblocked).2.2.2.2
        simp only [Bool.false_eq_true, if_false, List.getLast?_concat, hproven, if_true]
  have href : (projectionOf snapshot).defaultPolicyRef = snapshot.defaultPolicyRef := by
    unfold projectionOf
    split <;> simp_all
  have hactions : (signPlan sha256Json (draftPlan foldNonAscii snapshot profiles selectedDevice
      fingerprint)).actions = draftActions foldNonAscii snapshot profiles selectedDevice := rfl
  simp only [validateDefaultAction, hactions, hlast, raiseIf_eq_ok]
  cases hproven : notTargeted foldNonAscii snapshot profiles selectedDevice with
  | true => simp [verifyAction, planAction, signPlan, draftPlan, href, hproven]
  | false =>
      have hblocked : planBlocked foldNonAscii snapshot profiles selectedDevice = true := by
        simp [planBlocked, hproven]
      simp [verifyAction, planAction, signPlan, draftPlan, href, hproven, hblocked]

variable (foldNonAscii snapshot selectedDevice) in
/-- The actions of a plan are blocked all together or not at all. -/
theorem draft_readiness (valid : manifest.Valid) :
    ∀ action ∈ draftActions foldNonAscii snapshot manifest.profiles selectedDevice,
      (action.readiness = .blocked ↔
        planBlocked foldNonAscii snapshot manifest.profiles selectedDevice = true) := by
  intro action haction
  cases hblocked : planBlocked foldNonAscii snapshot manifest.profiles selectedDevice with
  | true =>
      simp only [draftActions, hblocked, if_true] at haction
      obtain ⟨drafted, -, rfl⟩ := List.mem_map.mp haction
      simp
  | false =>
      obtain ⟨-, -, -, hobjects, hproven⟩ := planBlocked_eq_false.mp hblocked
      simp only [draftActions, hblocked, Bool.false_eq_true, if_false, hproven] at haction
      have hverify : ∀ action ∈ verifyActions snapshot selectedDevice true,
          action.readiness = .hardwareContractPending := by
        cases selectedDevice <;> simp [verifyActions, verifyAction, planAction]
      rcases List.mem_append.mp haction with hobject | hclosing
      · obtain ⟨object, hobject', rfl⟩ := List.mem_map.mp hobject
        obtain ⟨actionId, haccepted⟩ := plannedObjects_accepted _ _ _ valid object hobject'
        simp [haccepted.readiness (hobjects object hobject')]
      · simp [hverify action hclosing]

/-- A valid selected device stays what it is. -/
theorem normalizeSelected_idem {selectedDevice selected : Option SelectedDeviceRef}
    (h : normalizeSelected selectedDevice = .ok selected) :
    normalizeSelected selected = .ok selected := by
  cases selectedDevice with
  | none =>
      obtain rfl := Except.ok.inj h
      rfl
  | some device =>
      cases hdevice : normalizeSelectedDeviceRef device with
      | error e => simp [normalizeSelected, hdevice, Except.map] at h
      | ok normalized =>
          simp only [normalizeSelected, hdevice, Except.map, Except.ok.injEq] at h
          subst h
          simp only [normalizeSelected, normalizeSelectedDeviceRef_idem hdevice, Except.map]

/-- A drafted plan passes the integrity check as soon as its references do. -/
theorem integrity_of_references [DecidableEq Digest] (valid : manifest.Valid)
    (hdevice : normalizeSelected selectedDevice = .ok selectedDevice)
    (hreferences : ∀ action ∈ objectActions foldNonAscii snapshot manifest.profiles
      selectedDevice, ∀ reference ∈ action.dependencies, validateReference reference = .ok ())
    (fingerprint : Digest) :
    validateChangePlanIntegrity sha256Json (signPlan sha256Json
      (draftPlan foldNonAscii snapshot manifest.profiles selectedDevice fingerprint)) =
        .ok () := by
  have hactions : ∀ action ∈ draftActions foldNonAscii snapshot manifest.profiles selectedDevice,
      validateAction manifest.profiles selectedDevice action = .ok () := by
    intro action haction
    obtain ⟨drafted, readiness, rfl, hobject | hverify⟩ := mem_draftActions haction
    · obtain ⟨object, hobject', rfl⟩ := List.mem_map.mp hobject
      obtain ⟨actionId, haccepted⟩ := plannedObjects_accepted _ _ _ valid object hobject'
      exact haccepted.accepted (hreferences _ hobject)
    · exact verifyActions_accepted drafted hverify
  have hdefault := validateDefaultAction_draft sha256Json foldNonAscii snapshot selectedDevice
    manifest.profiles fingerprint
  simp only [validateChangePlanIntegrity, bind_eq_ok, exists_unit, raiseIf_eq_ok]
  refine ⟨?_, manifest.profiles, ?_, by simp [signPlan, draftPlan], selectedDevice, ?_,
    by simp [signPlan, draftPlan], ?_, ?_, hdefault, ?_, by simp [signPlan, draftPlan], ?_⟩
  · cases hblocked : planBlocked foldNonAscii snapshot manifest.profiles selectedDevice <;>
      simp [signPlan, draftPlan, hblocked]
  · simp [signPlan, draftPlan, valid.normalizeDesired, Except.mapError]
  · simp [signPlan, draftPlan, hdevice, Except.mapError]
  · rw [not_not]
    exact draftActions_ids valid
  · exact checkEach_eq_ok.mpr hactions
  · have hreadiness := draft_readiness foldNonAscii snapshot selectedDevice valid
    cases hblocked : planBlocked foldNonAscii snapshot manifest.profiles selectedDevice with
    | true => simpa [signPlan, draftPlan, hblocked] using hreadiness
    | false =>
        have hproven := (planBlocked_eq_false.mp hblocked).2.2.2.2
        simpa [signPlan, draftPlan, hblocked, hproven] using hreadiness
  · simp [signPlan, draftPlan, localIntegrity, localPlanIdentity, publicFingerprint,
      publicPlanIdentity]

/-- An accepted plan's references are all sound. -/
theorem references_of_integrity [DecidableEq Digest] {plan : ChangePlan Digest}
    (h : validateChangePlanIntegrity sha256Json plan = .ok ()) :
    ∀ action ∈ plan.actions, ∀ reference ∈ action.dependencies,
      validateReference reference = .ok () := by
  simp only [validateChangePlanIntegrity, bind_eq_ok, exists_unit] at h
  obtain ⟨-, profiles, -, -, device, -, -, -, hactions, -⟩ := h
  intro action haction
  have hchecked := checkEach_eq_ok.mp hactions action haction
  simp only [validateAction, bind_eq_ok, exists_unit] at hchecked
  exact checkEach_eq_ok.mp hchecked.2.1

end Plan

end RouterKit.Netcraze
