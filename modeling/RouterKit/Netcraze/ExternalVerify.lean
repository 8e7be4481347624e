import RouterKit.Netcraze.PostState

/-!
What the external verifier accepts of the planner's own packets. A packet the
planner builds encodes its plan; the state the plan expects, in whatever order
it is listed, is verified and offers every binding for reuse, and planning it
again changes nothing. Executing the packet's commands reaches that state
exactly when no proxy is created for a disabled profile.
-/

namespace RouterKit.Netcraze

open RouterKit.Lib.Checked
open RouterKit.Devices RouterKit.Lib

namespace External

section WellFormed

theorem expectedPorts_words : ∀ port ∈ expectedPorts,
    NdmCommand.IsWord ("RouterKit-SOCKS-" ++ toString port) ∧
      NdmCommand.IsWord ("RouterKit-Policy-" ++ toString port) ∧
      NdmCommand.IsWord (toString port) ∧
      nativeNumber "" (toString port) = some port := by
  decide +kernel

theorem loopbackHosts_words : ∀ host ∈ loopbackHosts, NdmCommand.IsWord host := by decide

variable {binding : BindingPlan} {profile : LocalProxyProfile}

theorem proxyCreateCommands_wellFormed (hprofile : profile.Acceptable)
    (hproxy : NdmCommand.IsWord binding.proxyId) :
    ∀ command ∈ proxyCreateCommands binding profile, command.WellFormed := by
  obtain ⟨hname, -, hport, hread⟩ := expectedPorts_words profile.port hprofile.port
  have hhost := loopbackHosts_words profile.host hprofile.host
  simp only [proxyCreateCommands, List.forall_mem_cons, List.not_mem_nil, false_implies,
    implies_true, and_true, NdmCommand.WellFormed, NdmCommand.words]
  exact ⟨⟨by decide, hproxy, by decide, hname⟩, ⟨by decide, hproxy, by decide, by decide⟩,
    ⟨by decide, hproxy, by decide, by decide, by decide⟩,
    ⟨⟨by decide, hproxy, by decide, by decide, hhost, hport⟩, hread⟩, by decide, hproxy,
    by decide⟩

theorem policyCreateCommands_wellFormed (hprofile : profile.Acceptable)
    (hproxy : NdmCommand.IsWord binding.proxyId) (hpolicy : NdmCommand.IsWord binding.policyId) :
    ∀ command ∈ policyCreateCommands binding profile, command.WellFormed := by
  obtain ⟨-, hname, -, -⟩ := expectedPorts_words profile.port hprofile.port
  simp only [policyCreateCommands, List.forall_mem_cons, List.not_mem_nil, false_implies,
    implies_true, and_true, NdmCommand.WellFormed, NdmCommand.words]
  exact ⟨⟨by decide, by decide, hpolicy, by decide, hname⟩, by decide, by decide, hpolicy,
    by decide, by decide, hproxy⟩

theorem hotspotHostPolicy_wellFormed {deviceMac policyId : String}
    (hmac : NdmCommand.IsWord deviceMac) (hpolicy : NdmCommand.IsWord policyId) :
    (NdmCommand.hotspotHostPolicy deviceMac policyId).WellFormed := by
  simp only [List.forall_mem_cons, List.not_mem_nil, false_implies, implies_true, and_true,
    NdmCommand.WellFormed, NdmCommand.words]
  exact ⟨by decide, by decide, by decide, hmac, by decide, hpolicy⟩

end WellFormed

/-- The ids a packet may name, and the device's policy before it. -/
structure Admissible (plan : LivePlan) (state : LiveState) (mac : Option String) : Prop where
  ids : ∀ binding ∈ plan.bindings,
    (∃ number, numericId binding.proxyId "Proxy" maxProxyIndex = .ok number) ∧
      ∃ number, numericId binding.policyId "Policy" maxPolicyIndex = .ok number
  proxyIds_nodup : (plan.bindings.map (·.proxyId)).Nodup
  policyIds_nodup : (plan.bindings.map (·.policyId)).Nodup
  previous : ∀ deviceMac previous, mac = some deviceMac →
    state.assignmentOf deviceMac = some previous →
      ∃ number, numericId previous "Policy" maxPolicyIndex = .ok number

section Validation

variable {Digest : Type} {fingerprint : Payload Digest → Digest} {rules : PlanRules}
    {manifest : LocalEndpointManifest} {state : LiveState}
  {mac : Option String} {profileSlot : Option Nat} {allowMove : Bool} {plan : LivePlan}
  {profileOf : BindingPlan → LocalProxyProfile}

/-- The binding a packet shows for a planned one. -/
def payloadOf (profileOf : BindingPlan → LocalProxyProfile) (binding : BindingPlan) : Binding where
  slot := binding.slot
  profileLabel := (profileOf binding).label
  endpoint := endpointOf (profileOf binding)
  proxyId := binding.proxyId
  policyId := binding.policyId
  proxyAction := binding.proxyAction
  policyAction := binding.policyAction

variable (planned : Planned rules manifest state mac profileSlot allowMove plan profileOf)
include planned

theorem plannedCommands_wellFormed (admissible : Admissible plan state mac)
    (hmac : ∀ deviceMac, mac = some deviceMac → NdmCommand.IsWord deviceMac) :
    ∀ command ∈ plannedCommands plan profileOf mac, command.WellFormed := by
  have hwords : ∀ binding ∈ plan.bindings, NdmCommand.IsWord binding.proxyId ∧
      NdmCommand.IsWord binding.policyId := by
    intro binding hbinding
    obtain ⟨⟨_, hproxy⟩, _, hpolicy⟩ := admissible.ids binding hbinding
    exact ⟨NdmCommand.isWord_of_numericId hproxy (by decide),
      NdmCommand.isWord_of_numericId hpolicy (by decide)⟩
  intro command hcommand
  simp only [plannedCommands, List.mem_append, List.mem_flatMap] at hcommand
  rcases hcommand with (⟨binding, hbinding, hcommand⟩ | ⟨binding, hbinding, hcommand⟩) | hcommand
  · have hmem := (creatingProxies_mem.mp hbinding).1
    exact proxyCreateCommands_wellFormed
      (planned.valid.acceptable _ (planned.resolved.profile_mem hmem)) (hwords _ hmem).1 _ hcommand
  · have hmem := (creatingPolicies_mem.mp hbinding).1
    exact policyCreateCommands_wellFormed
      (planned.valid.acceptable _ (planned.resolved.profile_mem hmem)) (hwords _ hmem).1
      (hwords _ hmem).2 _ hcommand
  · split at hcommand
    · next deviceMac policyId hwritten =>
      rw [List.mem_singleton] at hcommand
      subst hcommand
      obtain ⟨hm, ⟨binding, hmem, rfl⟩, -⟩ := writtenAssignment_eq_some planned hwritten
      exact hotspotHostPolicy_wellFormed (hmac _ hm) (hwords _ hmem).2
    · simp at hcommand

theorem mapEach_bindingPayload :
    mapEach (bindingPayload manifest) plan.bindings = .ok
        (plan.bindings.map (payloadOf profileOf)) := by
  apply mapEach_eq_map
  intro binding hbinding
  simp only [bindingPayload, planned.resolved.found binding hbinding, bind_ok_left]
  rfl

private theorem checkEach_validateBinding :
    checkEach validateBinding ((plan.bindings.map (payloadOf profileOf)).zip manifest.profiles) =
        .ok () ↔
      ∀ binding ∈ plan.bindings,
        (∃ number, numericId binding.proxyId "Proxy" maxProxyIndex = .ok number) ∧
          ∃ number, numericId binding.policyId "Policy" maxPolicyIndex = .ok number := by
  rw [checkEach_eq_ok, ← planned.resolved.covers, List.zip_map']
  simp only [List.forall_mem_map]
  apply forall₂_congr
  intro binding hbinding
  have hslot := (planned.resolved.planned binding hbinding).slot
  simp only [validateBinding, payloadOf, hslot, bind_eq_ok, raiseIf_eq_ok, exists_unit, not_true,
    ne_eq, not_false_eq_true, true_and, pure_eq_ok, and_true, exists_and_left, exists_and_right]

omit planned in
theorem validateIdentity_selected {deviceMac : String} {binding : BindingPlan}
    (hmac : normalizeTrustedDeviceMac deviceMac = .ok deviceMac) :
    validateIdentity (selectedAssignment plan state deviceMac binding) = .ok () := by
  simp [validateIdentity, selectedAssignment, hmac, raiseIf]

theorem validateTarget_selected {deviceMac : String} {binding : BindingPlan}
    (hmem : binding ∈ plan.bindings) :
    validateTarget (plan.bindings.map (payloadOf profileOf))
      (selectedAssignment plan state deviceMac binding) = .ok () := by
  have hnodup : ((plan.bindings.map (payloadOf profileOf)).map Binding.slot).Nodup := by
    rw [List.map_map]
    exact planned.resolved.slots ▸ planned.valid.slots_nodup
  have hlookup : Keyed.lookup Binding.slot binding.slot
      (plan.bindings.map (payloadOf profileOf)) = some (payloadOf profileOf binding) :=
    Keyed.lookup_of_mem Binding.slot hnodup (List.mem_map_of_mem hmem)
  simp [validateTarget, selectedAssignment, hlookup, payloadOf, raiseIf]

private theorem validateAssignment_payload {assignment : Assignment}
    (hmac : ∀ deviceMac, mac = some deviceMac → normalizeTrustedDeviceMac deviceMac = .ok deviceMac)
    (h : assignmentPayload plan state mac = .ok assignment) :
    validateAssignment (plan.bindings.map (payloadOf profileOf)) assignment = .ok () ↔
      ∀ deviceMac previous, mac = some deviceMac →
        state.assignmentOf deviceMac = some previous →
          ∃ number, numericId previous "Policy" maxPolicyIndex = .ok number := by
  rcases assignmentPayload_eq planned with ⟨rfl, -, -, hpayload⟩ |
    ⟨deviceMac, binding, hmem, rfl, rfl, htarget, haction, hpayload⟩
  · cases hpayload.symm.trans h
    simp [validateAssignment, noAssignment]
  · cases hpayload.symm.trans h
    have hprevious : validatePrevious (selectedAssignment plan state deviceMac binding) =
        .ok () ↔ ∀ previous, state.assignmentOf deviceMac = some previous →
          ∃ number, numericId previous "Policy" maxPolicyIndex = .ok number := by
      simp only [validatePrevious, selectedAssignment]
      cases state.assignmentOf deviceMac with
      | none => simp
      | some previous =>
          simp only [bind_eq_ok, pure_eq_ok, and_true, Option.some.injEq, forall_eq']
    have hpreState : validatePreState (selectedAssignment plan state deviceMac binding) =
        .ok () := by
      have hassignment := planned.assignment
      simp only [validatePreState, bind_eq_ok, raiseIf_eq_ok, exists_unit]
      simp only [selectedAssignment]
      generalize plan.assignmentAction = action at hassignment
      cases hassignment <;> simp_all
    have hnone : (selectedAssignment plan state deviceMac binding).action ≠ .none := haction
    simp only [validateAssignment, if_neg hnone, validateIdentity_selected (hmac deviceMac rfl),
      validateTarget_selected planned hmem, bind_ok_left, bind_eq_ok, exists_unit, hprevious,
      hpreState, and_true, Option.some.injEq]
    constructor
    · rintro hall _ previous rfl
      exact hall previous
    · exact fun hall previous => hall deviceMac previous rfl

variable (fingerprint)

omit planned in
/-- The packet of a plan. -/
def plannedPacket (manifest : LocalEndpointManifest) (state expectedState : LiveState)
    (plan : LivePlan) (profileOf : BindingPlan → LocalProxyProfile) (mac : Option String)
    (assignment : Assignment) : Packet Digest :=
  sign fingerprint (unsignedOf fingerprint manifest state expectedState
    (plan.bindings.map (payloadOf profileOf)) assignment (plannedCommands plan profileOf mac)
    (plannedRollbacks plan state mac) supportedContract)

variable {fingerprint} {expectedState : LiveState} {assignment : Assignment}

/-- The packet of a plan encodes the plan. -/
theorem planFromPacket_plannedPacket (h : assignmentPayload plan state mac = .ok assignment) :
    planFromPacket (plannedPacket fingerprint manifest state expectedState plan profileOf mac
      assignment) = plan := by
  have hbindings : (plan.bindings.map (payloadOf profileOf)).map (fun item => ({
      slot := item.slot
      port := item.endpoint.port
      proxyId := item.proxyId
      policyId := item.policyId
      proxyAction := item.proxyAction
      policyAction := item.policyAction } : BindingPlan)) = plan.bindings := by
    rw [List.map_map]
    conv_rhs => rw [← List.map_id plan.bindings]
    apply List.map_congr_left
    intro binding hbinding
    have hport := (planned.resolved.planned binding hbinding).port
    simp [payloadOf, endpointOf, ← hport]
  have hselected := planned.selectedSlot
  have hpresent := planned.selectedDevicePresent
  obtain ⟨htargeted, hschema⟩ := planned.constants
  obtain ⟨haction, hslot, hmac⟩ : assignment.action = plan.assignmentAction ∧
      assignment.selectedSlot = plan.selectedSlot ∧
      assignment.deviceMac.isSome = plan.selectedDevicePresent := by
    rcases assignmentPayload_eq planned with ⟨rfl, rfl, haction, hpayload⟩ |
      ⟨deviceMac, binding, -, rfl, hslot, -, -, hpayload⟩
    · cases hpayload.symm.trans h
      exact ⟨haction.symm, hselected.symm, hpresent.symm⟩
    · cases hpayload.symm.trans h
      exact ⟨rfl, (hselected.trans hslot).symm, hpresent.symm⟩
  obtain ⟨bindings, present, selectedSlot, action, targeted, schema⟩ := plan
  simp only at *
  simp only [planFromPacket, plannedPacket, sign, unsignedOf, LivePlan.mk.injEq]
  exact ⟨hbindings, hmac, hslot, haction, htargeted.symm, hschema.symm⟩

variable [DecidableEq Digest]

variable (fingerprint expectedState) in
private theorem validateCommands_plannedPacket
    (h : assignmentPayload plan state mac = .ok assignment) :
    validateCommands manifest (plannedPacket fingerprint manifest state expectedState plan
        profileOf mac assignment) = .ok () ↔
      (plannedCommands plan profileOf mac = [] →
        stateFingerprint fingerprint state = stateFingerprint fingerprint expectedState) := by
  have hrender := renderCommands_eq planned h
  simp only [validateCommands, planFromPacket_plannedPacket planned h]
  have hassignment : (plannedPacket fingerprint manifest state expectedState plan profileOf mac
      assignment).assignment = assignment := rfl
  simp only [hassignment, hrender, bind_ok_left, bind_eq_ok, raiseIf_eq_ok, exists_unit]
  simp [plannedPacket, sign, unsignedOf]

variable (fingerprint expectedState) in
/-- What the validator adds to a planned packet's own construction: the ranges
and distinctness of its ids, and that an empty packet expects no change. -/
theorem validate_plannedPacket
    (hmac : ∀ deviceMac, mac = some deviceMac → normalizeTrustedDeviceMac deviceMac = .ok deviceMac)
    (h : assignmentPayload plan state mac = .ok assignment) (plan' : LivePlan) :
    validateExternalTransaction fingerprint (plannedPacket fingerprint manifest state
        expectedState plan profileOf mac assignment) manifest = .ok plan' ↔
      plan' = plan ∧ Admissible plan state mac ∧
        (plannedCommands plan profileOf mac = [] →
          stateFingerprint fingerprint state = stateFingerprint fingerprint expectedState) := by
  have hcommands := validateCommands_plannedPacket fingerprint planned expectedState h
  have hbindings : (plannedPacket fingerprint manifest state expectedState plan profileOf mac
      assignment).bindings = plan.bindings.map (payloadOf profileOf) := rfl
  have hassignment : (plannedPacket fingerprint manifest state expectedState plan profileOf mac
      assignment).assignment = assignment := rfl
  have hlength : plan.bindings.length = manifest.profiles.length := by
    rw [← planned.resolved.covers, List.length_map]
  have hids : ((plan.bindings.map (payloadOf profileOf)).map (·.proxyId)) =
      plan.bindings.map (·.proxyId) ∧
      ((plan.bindings.map (payloadOf profileOf)).map (·.policyId)) =
        plan.bindings.map (·.policyId) := by
    simp [Function.comp_def, payloadOf]
  simp only [validateExternalTransaction, bind_eq_ok, raiseIf_eq_ok, exists_unit, pure_eq_ok,
    planFromPacket_plannedPacket planned h, hcommands, hbindings, hassignment,
    checkEach_validateBinding planned, validateAssignment_payload planned hmac h, hids,
    List.length_map]
  simp only [plannedPacket, sign, unsignedOf, manifestFingerprint, hlength, ne_eq, not_true,
    not_false_eq_true, true_and, not_or, not_not, Bool.false_eq_true]
  constructor
  · rintro ⟨hrange, ⟨hproxies, hpolicies⟩, hprevious, hnoop, rfl⟩
    exact ⟨rfl, ⟨hrange, hproxies, hpolicies, hprevious⟩, hnoop⟩
  · rintro ⟨rfl, ⟨hrange, hproxies, hpolicies, hprevious⟩, hnoop⟩
    exact ⟨hrange, ⟨hproxies, hpolicies⟩, hprevious, hnoop, rfl⟩

end Validation

theorem statePayload_eq_iff {left right : LiveState} :
    statePayload left = statePayload right ↔ left.Same right := by
  simp [statePayload, LiveState.same_iff_sorted]

theorem stateFingerprint_congr {Digest : Type} (fingerprint : Payload Digest → Digest)
    {left right : LiveState} (h : left.Same right) :
    stateFingerprint fingerprint left = stateFingerprint fingerprint right := by
  rw [stateFingerprint, stateFingerprint, statePayload_eq_iff.mpr h]

theorem stateFingerprint_eq_iff {Digest : Type} {fingerprint : Payload Digest → Digest}
    (hinjective : Function.Injective fingerprint) {left right : LiveState} :
    stateFingerprint fingerprint left = stateFingerprint fingerprint right ↔ left.Same right := by
  constructor
  · intro h
    exact statePayload_eq_iff.mp (Payload.state.inj (hinjective h))
  · exact stateFingerprint_congr fingerprint

theorem defaultGuardFingerprint_congr {Digest : Type} (fingerprint : Payload Digest → Digest)
    {left right : LiveState} (h : left.Same right) :
    defaultGuardFingerprint fingerprint left = defaultGuardFingerprint fingerprint right := by
  rw [defaultGuardFingerprint, defaultGuardFingerprint, (LiveState.same_iff_sorted.mp h).2.2.2]

/-- A plan without commands writes nothing. -/
theorem plannedCommands_eq_nil {plan : LivePlan} {profileOf : BindingPlan → LocalProxyProfile}
    {mac : Option String} :
    plannedCommands plan profileOf mac = [] ↔
      creatingProxies plan.bindings = [] ∧ creatingPolicies plan.bindings = [] ∧
        writtenAssignment plan mac = none := by
  have hproxy : (creatingProxies plan.bindings).flatMap
      (fun b => proxyCreateCommands b (profileOf b)) = [] ↔ creatingProxies plan.bindings = [] := by
    cases creatingProxies plan.bindings <;> simp [proxyCreateCommands]
  have hpolicy : (creatingPolicies plan.bindings).flatMap
      (fun b => policyCreateCommands b (profileOf b)) = [] ↔
        creatingPolicies plan.bindings = [] := by
    cases creatingPolicies plan.bindings <;> simp [policyCreateCommands]
  rw [plannedCommands, List.append_eq_nil_iff, List.append_eq_nil_iff, hproxy, hpolicy, and_assoc]
  cases writtenAssignment plan mac <;> simp

theorem plannedPost_of_nil {state : LiveState} {plan : LivePlan}
    {profileOf : BindingPlan → LocalProxyProfile} {mac : Option String}
    (h : plannedCommands plan profileOf mac = []) :
    plannedPost state plan profileOf mac = state := by
  obtain ⟨hproxies, hpolicies, hwritten⟩ := plannedCommands_eq_nil.mp h
  simp [plannedPost, expectedProxies, expectedPolicies, hproxies, hpolicies, hwritten, installed]

/-- Everything behind a packet the planner returned. -/
structure Built {Digest : Type} (fingerprint : Payload Digest → Digest)
    (manifest : LocalEndpointManifest) (state : LiveState) (deviceMac : Option String)
    (profileSlot : Option Nat) (allowMove : Bool) (packet : Packet Digest)
    (mac : Option String) (plan : LivePlan) (profileOf : BindingPlan → LocalProxyProfile)
    (assignment : Assignment) : Prop where
  normalized : normalizeSelectedMac deviceMac = .ok mac
  plan_ok : LiveCompat.buildLivePlan manifest state mac profileSlot allowMove = .ok plan
  planned : Planned LiveCompat.rules manifest state mac profileSlot allowMove plan profileOf
  payload : assignmentPayload plan state mac = .ok assignment
  admissible : Admissible plan state mac
  packet_eq : packet = plannedPacket fingerprint manifest state
    (plannedPost state plan profileOf mac).sorted plan profileOf mac assignment

section Building

variable {Digest : Type} {fingerprint : Payload Digest → Digest}
  {manifest : LocalEndpointManifest} {state : LiveState} {deviceMac : Option String}
  {profileSlot : Option Nat} {allowMove : Bool} {packet : Packet Digest}
  {mac : Option String} {plan : LivePlan} {profileOf : BindingPlan → LocalProxyProfile}
  {assignment : Assignment}

theorem noop_keeps_fingerprint (plan : LivePlan) (profileOf : BindingPlan → LocalProxyProfile)
    (mac : Option String) (h : plannedCommands plan profileOf mac = []) :
    stateFingerprint fingerprint state =
      stateFingerprint fingerprint (plannedPost state plan profileOf mac).sorted := by
  rw [plannedPost_of_nil h]
  exact (stateFingerprint_congr fingerprint state.sorted_same).symm

namespace Built

variable (built : Built fingerprint manifest state deviceMac profileSlot allowMove packet mac plan
  profileOf assignment)
include built

theorem normalized_mac : ∀ m, mac = some m → normalizeTrustedDeviceMac m = .ok m :=
  fun _ hm => normalizeSelectedMac_some (hm ▸ built.normalized)

/-- The planned packet carries its plan's device and slot. -/
theorem packet_assignment : packet.assignment.deviceMac = mac ∧
    packet.assignment.selectedSlot = profileSlot ∧
    packet.assignment.action = plan.assignmentAction := by
  have hassignment : packet.assignment = assignment := by rw [built.packet_eq]; rfl
  rw [hassignment]
  rcases assignmentPayload_eq built.planned with ⟨hmac, hslot, haction, hpayload⟩ |
    ⟨m, binding, -, hmac, hslot, -, -, hpayload⟩
  · cases hpayload.symm.trans built.payload
    exact ⟨hmac.symm, hslot.symm, haction.symm⟩
  · cases hpayload.symm.trans built.payload
    exact ⟨hmac.symm, hslot.symm, rfl⟩

theorem packet_expected : packet.expectedPostStateFingerprint =
    stateFingerprint fingerprint (plannedPost state plan profileOf mac).sorted := by
  rw [built.packet_eq]
  rfl

theorem packet_guard :
    packet.defaultGuardFingerprint = defaultGuardFingerprint fingerprint state := by
  rw [built.packet_eq]
  rfl

theorem packet_bindings : packet.bindings = plan.bindings.map (payloadOf profileOf) := by
  rw [built.packet_eq]
  rfl

end Built

variable [DecidableEq Digest]

/-- Given an admissible plan, building comes down to the packet of the plan. -/
theorem build_of_planned (hmac : normalizeSelectedMac deviceMac = .ok mac)
    (hplan : LiveCompat.buildLivePlan manifest state mac profileSlot allowMove = .ok plan)
    (planned : Planned LiveCompat.rules manifest state mac profileSlot allowMove plan profileOf)
    (hassignment : assignmentPayload plan state mac = .ok assignment) :
    buildExternalTransaction fingerprint manifest state deviceMac profileSlot allowMove =
        .ok packet ↔
      Admissible plan state mac ∧ packet = plannedPacket fingerprint manifest state
        (plannedPost state plan profileOf mac).sorted plan profileOf mac assignment := by
  have hvalidate := fun plan' => validate_plannedPacket fingerprint
    planned (plannedPost state plan profileOf mac).sorted
    (fun m hm => normalizeSelectedMac_some (hm ▸ hmac)) hassignment plan'
  simp only [buildExternalTransaction, bind_eq_ok, raiseIf_eq_ok, exists_unit, ne_eq, not_true,
    not_false_eq_true, true_and, hmac, hplan, mapEach_bindingPayload planned, hassignment,
    renderCommands_eq planned hassignment, expectedPostState_eq planned, Except.ok.injEq,
    exists_eq_left', pure_eq_ok]
  constructor
  · rintro ⟨plan', hok, rfl⟩
    exact ⟨((hvalidate plan').mp hok).2.1, rfl⟩
  · rintro ⟨hadmissible, rfl⟩
    exact ⟨plan, (hvalidate plan).mpr ⟨rfl, hadmissible, noop_keeps_fingerprint plan profileOf mac⟩,
      rfl⟩

theorem build_eq_ok (valid : manifest.Valid)
    (h : buildExternalTransaction fingerprint manifest state deviceMac profileSlot allowMove =
      .ok packet) :
    ∃ mac plan profileOf assignment, Built fingerprint manifest state deviceMac profileSlot
      allowMove packet mac plan profileOf assignment := by
  have hbuild := h
  simp only [buildExternalTransaction, bind_eq_ok] at h
  obtain ⟨_, -, mac, hmac, plan, hplan, bindings, -, assignment, hassignment, -⟩ := h
  obtain ⟨mac', profileOf, hmac', planned⟩ := PlanRules.buildLivePlan_planned valid hplan
  cases hmac'.symm.trans (normalizeSelectedMac_idem hmac)
  obtain ⟨hadmissible, rfl⟩ := (build_of_planned hmac hplan planned hassignment).mp hbuild
  exact ⟨mac, plan, profileOf, assignment, hmac, hplan, planned, hassignment, hadmissible, rfl⟩

/-- Every object a plan names is in its post-state as the plan wants it. -/
theorem verifyPlanApplied_post {post : LiveState} (hmac : normalizeSelectedMac mac = .ok mac)
    (planned : Planned LiveCompat.rules manifest state mac profileSlot allowMove plan profileOf)
    (hdistinct : (plan.bindings.map (·.proxyId)).Nodup)
    (hpost : post.Same (plannedPost state plan profileOf mac)) :
    LiveCompat.verifyPlanApplied manifest plan post mac = .ok () := by
  have hbindings : checkEach (LiveCompat.rules.verifyBindingApplied manifest post)
      plan.bindings = .ok () := by
    rw [checkEach_eq_ok]
    intro binding hbinding
    obtain ⟨proxy, hproxy, hproxyId, hcreateProxy⟩ := post_reuseProxy planned hpost hbinding
    obtain ⟨policy, hpolicy, hpolicyId, hcreatePolicy⟩ :=
      post_reusePolicy planned hpost hdistinct hbinding
    obtain ⟨hproxyMem, hproxySemantic, -⟩ := LiveCompat.reuseProxy_eq_some.mp hproxy
    obtain ⟨hpolicyMem, hpolicySemantic, -⟩ := LiveCompat.reusePolicy_eq_some.mp hpolicy
    have hproxyApplied : LiveCompat.rules.proxyApplied binding
        (profileOf binding) proxy = true := by
      cases haction : binding.proxyAction with
      | reuse => simpa [LiveCompat.rules, haction] using hproxySemantic
      | create =>
          obtain rfl := hcreateProxy haction
          have hname : (expectedProxy binding (profileOf binding)).description =
              connectionName (profileOf binding) := rfl
          simp [LiveCompat.rules, haction, LiveCompat.proxyOwnedExact, hname,
            hproxySemantic]
    have hpolicyApplied : LiveCompat.rules.policyApplied binding (profileOf binding) policy =
        true := by
      cases haction : binding.policyAction with
      | reuse => simpa [LiveCompat.rules, haction] using hpolicySemantic
      | create =>
          obtain rfl := hcreatePolicy haction
          have hname : (expectedPolicy binding (profileOf binding)).description =
              policyName (profileOf binding) := rfl
          simp [LiveCompat.rules, haction, LiveCompat.policyOwnedExact, hname,
            hpolicySemantic]
    have hproxyLookup := Keyed.lookup_of_mem ProxyState.objectId post.proxyIds_nodup hproxyMem
    have hpolicyLookup :=
      Keyed.lookup_of_mem PolicyState.objectId post.policyIds_nodup hpolicyMem
    rw [hproxyId] at hproxyLookup
    rw [hpolicyId] at hpolicyLookup
    simp [PlanRules.verifyBindingApplied, planned.resolved.found binding hbinding, hproxyLookup,
      hpolicyLookup, hproxyApplied, hpolicyApplied, raiseIf]
  simp only [LiveCompat.verifyPlanApplied, PlanRules.verifyPlanApplied, hbindings, bind_ok_left]
  cases hm : mac with
  | none => rfl
  | some deviceMac =>
      cases hs : plan.selectedSlot with
      | none => rfl
      | some slot =>
          obtain ⟨target, htarget, hcurrent⟩ :=
            post_assignmentOf planned hpost hm (planned.selectedSlot.symm.trans hs)
          have hnormalized := normalizeSelectedMac_some (hm ▸ hmac)
          simp [hnormalized, Except.mapError, htarget, hcurrent, raiseIf]

namespace Built

variable (built : Built fingerprint manifest state deviceMac profileSlot allowMove packet mac plan
  profileOf assignment)
include built

theorem validated : validateExternalTransaction fingerprint packet manifest = .ok plan := by
  rw [built.packet_eq]
  exact (validate_plannedPacket _ built.planned _ built.normalized_mac built.payload _).mpr
    ⟨rfl, built.admissible, noop_keeps_fingerprint plan profileOf mac⟩

/-- The state the packet was planned for is accepted before the commands run. -/
theorem verify_pre : verifyExternalTransaction fingerprint packet manifest state .pre =
    .ok (verificationOf packet .pre false) := by
  have hguard := built.packet_guard
  have hpre : packet.preStateFingerprint = stateFingerprint fingerprint state := by
    rw [built.packet_eq]
    rfl
  simp [verifyExternalTransaction, built.validated, hguard, hpre, raiseIf, pure, Except.pure]

/-- The expected state is accepted after them, in any order of listing. -/
theorem verify_post {post : LiveState} (hpost : post.Same (plannedPost state plan profileOf mac))
    {phase : Phase} (hphase : phase ≠ .pre) :
    verifyExternalTransaction fingerprint packet manifest post phase =
      .ok (verificationOf packet phase true) := by
  have hguard : packet.defaultGuardFingerprint = defaultGuardFingerprint fingerprint post := by
    rw [built.packet_guard, defaultGuardFingerprint_congr fingerprint hpost]
    exact (congrArg (fun lines => fingerprint (.defaultGuard (Keyed.sortByKey id lines)))
      (plannedPost_fields built.planned).2.2.2).symm
  have hstate : packet.expectedPostStateFingerprint = stateFingerprint fingerprint post := by
    rw [built.packet_expected]
    exact stateFingerprint_congr fingerprint ((LiveState.sorted_same _).trans hpost.symm)
  have hidem := normalizeSelectedMac_idem built.normalized
  have happlied := verifyPlanApplied_post hidem built.planned built.admissible.proxyIds_nodup hpost
  have hplan := post_buildLivePlan built.planned hpost built.admissible.proxyIds_nodup hidem false
  obtain ⟨hdevice, hslot, haction⟩ := built.packet_assignment
  have hsemantic : ∃ postPlan, semanticPostPlan manifest packet post = .ok postPlan := by
    simp only [semanticPostPlan, hdevice, hslot, hplan, bind_ok_left, bind_eq_ok, raiseIf_eq_ok,
      exists_unit, pure_eq_ok, not_not]
    refine ⟨_, ?_, ?_, rfl⟩
    · rw [built.packet_bindings, List.zip_map']
      simp [payloadOf]
    · rintro ⟨hnone, hreuse⟩
      rcases assignmentPayload_eq built.planned with ⟨rfl, -, hplanNone, -⟩ | ⟨m, _, -, rfl, -⟩
      · exact hnone (haction.trans hplanNone)
      · exact hreuse rfl
  obtain ⟨postPlan, hsemantic⟩ := hsemantic
  cases phase with
  | pre => exact absurd rfl hphase
  | running =>
      simp [verifyExternalTransaction, built.validated, hguard, hstate, raiseIf, hdevice, happlied,
        hsemantic, pure, Except.pure]
  | saved =>
      simp [verifyExternalTransaction, built.validated, hguard, hstate, raiseIf, hdevice, happlied,
        hsemantic, pure, Except.pure]

/-- A state with another fingerprint is refused. -/
theorem verify_stale {post : LiveState} (hguard : post.defaultGuard = state.defaultGuard)
    (hstale : stateFingerprint fingerprint post ≠ packet.expectedPostStateFingerprint) :
    verifyExternalTransaction fingerprint packet manifest post .running =
      .error (liveAdapterError "External transaction post-state does not match the plan.") := by
  have hguard : defaultGuardFingerprint fingerprint post = packet.defaultGuardFingerprint := by
    rw [built.packet_guard]
    simp only [defaultGuardFingerprint, LiveState.sortedGuard, hguard]
  simp [verifyExternalTransaction, built.validated, hguard, hstale, raiseIf]

/-- Planning the expected state again with the same arguments: the packet is
admissible, empty, and names the same objects. -/
theorem rebuild {post : LiveState} (hpost : post.Same (plannedPost state plan profileOf mac)) :
    ∃ packet', buildExternalTransaction fingerprint manifest post deviceMac profileSlot allowMove =
        .ok packet' ∧
      packet'.commands = [] ∧ packet'.writeRequired = false ∧
      packet'.preStateFingerprint = packet'.expectedPostStateFingerprint ∧
      packet'.bindings.map (fun b => (b.slot, b.proxyId, b.policyId)) =
        packet.bindings.map (fun b => (b.slot, b.proxyId, b.policyId)) := by
  have planned := built.planned
  have hidem := normalizeSelectedMac_idem built.normalized
  have hplan := post_buildLivePlan planned hpost built.admissible.proxyIds_nodup hidem allowMove
  obtain ⟨mac', profileOf', hmac', planned'⟩ := PlanRules.buildLivePlan_planned planned.valid hplan
  cases hmac'.symm.trans hidem
  set plan' : LivePlan := {
    bindings := plan.bindings.map (fun binding =>
      { binding with proxyAction := .reuse, policyAction := .reuse })
    selectedDevicePresent := mac.isSome
    selectedSlot := profileSlot
    assignmentAction := if mac.isSome then .reuse else .none } with hplan'
  have hnil : plannedCommands plan' profileOf' mac = [] := by
    refine plannedCommands_eq_nil.mpr ⟨?_, ?_, ?_⟩
    · simp [hplan', creatingProxies]
    · simp [hplan', creatingPolicies]
    · cases mac <;> cases profileSlot <;> simp [hplan', writtenAssignment]
  have hadmissible : Admissible plan' post mac := by
    refine ⟨?_, ?_, ?_, ?_⟩
    · intro binding hbinding
      obtain ⟨original, horiginal, rfl⟩ := List.mem_map.mp hbinding
      exact built.admissible.ids original horiginal
    · simpa [hplan', Function.comp_def] using built.admissible.proxyIds_nodup
    · simpa [hplan', Function.comp_def] using built.admissible.policyIds_nodup
    · intro m previous hm hprevious
      obtain ⟨slot, hslot⟩ : ∃ slot, profileSlot = some slot := by
        apply Option.isSome_iff_exists.mp
        have hpaired := planned.paired
        cases profileSlot <;> simp_all
      obtain ⟨target, htarget, hcurrent⟩ := post_assignmentOf planned hpost hm hslot
      obtain ⟨binding, hbinding, -, htarget'⟩ := target_exists planned hslot
      cases htarget.symm.trans htarget'
      cases hcurrent.symm.trans hprevious
      exact (built.admissible.ids binding hbinding).2
  obtain ⟨assignment', hassignment'⟩ : ∃ assignment',
      assignmentPayload plan' post mac = .ok assignment' := by
    rcases assignmentPayload_eq planned' with ⟨-, -, -, hpayload⟩ | ⟨_, _, -, -, -, -, -, hpayload⟩
    · exact ⟨_, hpayload⟩
    · exact ⟨_, hpayload⟩
  refine ⟨_, (build_of_planned built.normalized hplan planned' hassignment').mpr
    ⟨hadmissible, rfl⟩, ?_, ?_, ?_, ?_⟩
  · simp [plannedPacket, sign, unsignedOf, hnil]
  · simp [plannedPacket, sign, unsignedOf, hnil]
  · exact noop_keeps_fingerprint plan' profileOf' mac hnil
  · rw [built.packet_bindings]
    simp [plannedPacket, sign, unsignedOf, hplan', payloadOf, Function.comp_def]

end Built

namespace Built

variable (built : Built fingerprint manifest state deviceMac profileSlot allowMove packet mac plan
  profileOf assignment)
include built

omit [DecidableEq Digest] in
/-- The packet's lines are read back as the planned commands. -/
theorem execLines_commands : execLines packet.commands state =
    installed state (commandedProxies plan profileOf) (expectedPolicies plan profileOf)
      (writtenAssignment plan mac) := by
  have hcommands : packet.commands =
      (plannedCommands plan profileOf mac).map NdmCommand.text := by
    rw [built.packet_eq]
    rfl
  rw [hcommands, execLines_text, execAll_plannedCommands built.planned]
  exact plannedCommands_wellFormed built.planned built.admissible
    (fun m hm => normalizeTrustedDeviceMac_no_space (built.normalized_mac m hm))

omit [DecidableEq Digest] in
theorem execLines_guard : (execLines packet.commands state).defaultGuard = state.defaultGuard := by
  rw [built.execLines_commands]
  exact (commandedPost_fields built.planned).2.2.2

omit [DecidableEq Digest] in
theorem commanded_eq_expected_iff :
    (execLines packet.commands state).Same (plannedPost state plan profileOf mac) ↔
      ∀ binding ∈ creatingProxies plan.bindings, (profileOf binding).enabled = true := by
  have planned := built.planned
  rw [built.execLines_commands]
  constructor
  · intro hsame binding hbinding
    have hperm := hsame.proxies
    rw [(commandedPost_fields planned).1, (plannedPost_fields planned).1,
        List.perm_append_left_iff] at hperm
    have hmem : commandedProxy binding (profileOf binding) ∈ expectedProxies plan profileOf :=
      hperm.mem_iff.mp (List.mem_map.mpr ⟨binding, hbinding, rfl⟩)
    obtain ⟨other, hother, heq⟩ := List.mem_map.mp hmem
    have hid : other.proxyId = binding.proxyId := congrArg ProxyState.objectId heq
    obtain rfl := List.inj_on_of_nodup_map planned.proxies_nodup hother hbinding hid
    exact congrArg ProxyState.enabled heq
  · intro henabled
    have hlists : commandedProxies plan profileOf = expectedProxies plan profileOf := by
      apply List.map_congr_left
      intro binding hbinding
      simp [commandedProxy, expectedProxy, henabled binding hbinding]
    rw [hlists]
    exact .refl _

omit [DecidableEq Digest] in
/-- Whether a created proxy is for a disabled profile shows in the input: such a
profile is one no existing proxy serves. -/
theorem created_enabled_iff :
    (∀ binding ∈ creatingProxies plan.bindings, (profileOf binding).enabled = true) ↔
      ∀ profile ∈ manifest.profiles, profile.enabled = false →
        ∃ proxy ∈ state.proxies, LiveCompat.proxySemanticExact proxy profile = true := by
  have planned := built.planned
  constructor
  · intro henabled profile hprofile hdisabled
    obtain ⟨binding, hbinding, rfl⟩ := planned.resolved.exists_binding hprofile
    rcases (planned.resolved.planned binding hbinding).proxy with
      ⟨-, proxy, hproxy, -⟩ | ⟨hcreate, -⟩
    · obtain ⟨hmem, hsemantic, -⟩ := LiveCompat.reuseProxy_eq_some.mp hproxy
      exact ⟨proxy, hmem, hsemantic⟩
    · have hcontra := henabled binding (creatingProxies_mem.mpr ⟨hbinding, hcreate⟩)
      rw [hdisabled] at hcontra
      cases hcontra
  · intro hserved binding hbinding
    obtain ⟨hmem, hcreate⟩ := creatingProxies_mem.mp hbinding
    by_contra hdisabled
    obtain ⟨proxy, hproxy, hsemantic⟩ := hserved (profileOf binding)
      (planned.resolved.profile_mem hmem) (by simpa using hdisabled)
    rcases (planned.resolved.planned binding hmem).proxy with ⟨hreuse, -⟩ | ⟨-, hnone, -⟩
    · exact absurd (hreuse.symm.trans hcreate) (by decide)
    · exact absurd hsemantic (by simp [(LiveCompat.reuseProxy_eq_none.mp hnone proxy hproxy).2])

end Built

/-- The commands of a packet lead to the state it expects: the same objects, the
expected fingerprint, and the verifier's acceptance. -/
structure CommandsReachExpected (fingerprint : Payload Digest → Digest)
    (manifest : LocalEndpointManifest) (state post : LiveState) (packet : Packet Digest) :
    Prop where
  same : (execLines packet.commands state).Same post
  fingerprint_eq : stateFingerprint fingerprint (execLines packet.commands state) =
    packet.expectedPostStateFingerprint
  verified : (verifyExternalTransaction fingerprint packet manifest
    (execLines packet.commands state) .running).isOk

theorem Built.commandsReachExpected_iff
    (built : Built fingerprint manifest state deviceMac profileSlot allowMove packet mac plan
      profileOf assignment) :
    CommandsReachExpected fingerprint manifest state (plannedPost state plan profileOf mac).sorted
        packet ↔
      ∀ profile ∈ manifest.profiles, profile.enabled = false →
        ∃ proxy ∈ state.proxies, LiveCompat.proxySemanticExact proxy profile = true := by
  rw [← built.created_enabled_iff, ← built.commanded_eq_expected_iff]
  have hsorted := (plannedPost state plan profileOf mac).sorted_same
  constructor
  · exact fun h => h.same.trans hsorted
  · intro hsame
    refine ⟨hsame.trans hsorted.symm, ?_, ?_⟩
    · rw [stateFingerprint_congr fingerprint (hsame.trans hsorted.symm), built.packet_expected]
    · rw [built.verify_post hsame (show Phase.running ≠ .pre by decide)]
      rfl

end Building

/-- A fingerprint that is its own payload. -/
inductive CanonicalDigest where
  | of (payload : Payload CanonicalDigest)

noncomputable instance : DecidableEq CanonicalDigest := Classical.decEq _

theorem CanonicalDigest.of_injective : Function.Injective CanonicalDigest.of :=
  fun _ _ h => CanonicalDigest.of.inj h

theorem sample_built (enabled : Bool) : ∃ packet profileOf assignment,
    buildExternalTransaction CanonicalDigest.of (sampleManifest enabled) emptyState
        (some sampleMac) (some 1) false = .ok packet ∧
      Built CanonicalDigest.of (sampleManifest enabled) emptyState (some sampleMac) (some 1) false
        packet (some sampleMac) samplePlan profileOf assignment := by
  have hmac : normalizeSelectedMac (some sampleMac) = .ok (some sampleMac) := rfl
  obtain ⟨mac, profileOf, hmac', planned⟩ :=
    PlanRules.buildLivePlan_planned (sampleManifest_valid enabled)
        (LiveCompat.samplePlan_ok enabled)
  cases hmac'.symm.trans hmac
  have hadmissible : Admissible samplePlan emptyState (some sampleMac) := by
    refine ⟨?_, by decide, by decide, ?_⟩
    · intro binding hbinding
      obtain rfl := List.mem_singleton.mp hbinding
      exact ⟨⟨0, rfl⟩, 0, rfl⟩
    · intro m previous _ hprevious
      cases hprevious
  have hpayload : assignmentPayload samplePlan emptyState (some sampleMac) =
      .ok (selectedAssignment samplePlan emptyState sampleMac sampleBinding) := rfl
  exact ⟨_, profileOf, _, (build_of_planned hmac
      (LiveCompat.samplePlan_ok enabled) planned hpayload).mpr
    ⟨hadmissible, rfl⟩, hmac, LiveCompat.samplePlan_ok enabled, planned, hpayload, hadmissible, rfl⟩

section Results

variable {Digest : Type} [DecidableEq Digest] {fingerprint : Payload Digest → Digest}
  {manifest : LocalEndpointManifest} {state : LiveState} {deviceMac : Option String}
  {profileSlot : Option Nat} {allowMove : Bool} {packet : Packet Digest}

/-- A packet the planner returns is accepted on the state it was planned for
before the commands, and on the state it expects after them; planning that state
again with the same arguments finds nothing left to do and names the same
objects. -/
theorem external_transaction_converges (valid : manifest.Valid)
    (h : buildExternalTransaction fingerprint manifest state deviceMac profileSlot allowMove =
      .ok packet) :
    ∃ mac plan post, normalizeSelectedMac deviceMac = .ok mac ∧
      LiveCompat.buildLivePlan manifest state mac profileSlot allowMove = .ok plan ∧
      expectedPostState manifest plan state mac = .ok post ∧
      packet.expectedPostStateFingerprint = stateFingerprint fingerprint post ∧
      (verifyExternalTransaction fingerprint packet manifest state .pre).isOk ∧
      (∀ phase ∈ [Phase.running, Phase.saved],
        (verifyExternalTransaction fingerprint packet manifest post phase).isOk) ∧
      ∃ packet', buildExternalTransaction fingerprint manifest post deviceMac profileSlot
          allowMove = .ok packet' ∧
        packet'.commands = [] ∧ packet'.writeRequired = false ∧
        packet'.preStateFingerprint = packet'.expectedPostStateFingerprint ∧
        packet'.bindings.map (fun b => (b.slot, b.proxyId, b.policyId)) =
          packet.bindings.map (fun b => (b.slot, b.proxyId, b.policyId)) := by
  obtain ⟨mac, plan, profileOf, assignment, built⟩ := build_eq_ok valid h
  have hpost := (plannedPost state plan profileOf mac).sorted_same
  refine ⟨mac, plan, _, built.normalized, built.plan_ok, expectedPostState_eq built.planned,
    built.packet_expected, ?_, ?_, built.rebuild hpost⟩
  · rw [built.verify_pre]
    rfl
  · intro phase hphase
    have hpre : phase ≠ .pre := by
      rintro rfl
      simp at hphase
    rw [built.verify_post hpost hpre]
    rfl

theorem external_transaction_converges_sample : ∃ packet packet' post,
    buildExternalTransaction CanonicalDigest.of (sampleManifest true) emptyState (some sampleMac)
        (some 1) false = .ok packet ∧
      (verifyExternalTransaction CanonicalDigest.of packet (sampleManifest true) post
        .running).isOk ∧
      buildExternalTransaction CanonicalDigest.of (sampleManifest true) post (some sampleMac)
        (some 1) false = .ok packet' ∧ packet'.commands = [] := by
  obtain ⟨packet, -, -, hpacket, -⟩ := sample_built true
  obtain ⟨-, -, post, -, -, -, -, -, hverify, packet', hpacket', hcommands, -⟩ :=
    external_transaction_converges (sampleManifest_valid true) hpacket
  exact ⟨packet, packet', post, hpacket, hverify .running (by simp), hpacket', hcommands⟩

/-- The commands of a packet lead to the state it expects exactly when every
disabled profile is served by a proxy that exists already: the renderer brings
each proxy it creates up, whatever its profile says. -/
theorem commands_reach_expected_iff (valid : manifest.Valid)
    (h : buildExternalTransaction fingerprint manifest state deviceMac profileSlot allowMove =
      .ok packet) :
    ∃ mac plan post, normalizeSelectedMac deviceMac = .ok mac ∧
      LiveCompat.buildLivePlan manifest state mac profileSlot allowMove = .ok plan ∧
      expectedPostState manifest plan state mac = .ok post ∧
      (CommandsReachExpected fingerprint manifest state post packet ↔
        ∀ profile ∈ manifest.profiles, profile.enabled = false →
          ∃ proxy ∈ state.proxies, LiveCompat.proxySemanticExact proxy profile = true) := by
  obtain ⟨mac, plan, profileOf, assignment, built⟩ := build_eq_ok valid h
  exact ⟨mac, plan, _, built.normalized, built.plan_ok, expectedPostState_eq built.planned,
    built.commandsReachExpected_iff⟩

theorem commands_reach_expected_iff_sample : ∃ packet post,
    buildExternalTransaction CanonicalDigest.of (sampleManifest true) emptyState (some sampleMac)
        (some 1) false = .ok packet ∧
      CommandsReachExpected CanonicalDigest.of (sampleManifest true) emptyState post packet := by
  obtain ⟨packet, -, -, hpacket, -⟩ := sample_built true
  obtain ⟨-, -, post, -, -, -, hiff⟩ :=
    commands_reach_expected_iff (sampleManifest_valid true) hpacket
  refine ⟨packet, post, hpacket, hiff.mpr ?_⟩
  intro profile hprofile hdisabled
  obtain rfl := List.mem_singleton.mp hprofile
  cases hdisabled

/-- A disabled profile on an empty router: the executed commands bring the new
proxy up, the expected state has it down, and the verifier refuses. -/
theorem commands_miss_expected_disabled : ∃ packet post,
    buildExternalTransaction CanonicalDigest.of (sampleManifest false) emptyState (some sampleMac)
        (some 1) false = .ok packet ∧
      expectedPostState (sampleManifest false) samplePlan emptyState (some sampleMac) = .ok post ∧
      ¬ (execLines packet.commands emptyState).Same post ∧
      stateFingerprint CanonicalDigest.of (execLines packet.commands emptyState) ≠
        packet.expectedPostStateFingerprint ∧
      verifyExternalTransaction CanonicalDigest.of packet (sampleManifest false)
        (execLines packet.commands emptyState) .running =
          .error (liveAdapterError "External transaction post-state does not match the plan.") := by
  obtain ⟨packet, profileOf, assignment, hpacket, built⟩ := sample_built false
  have hsorted := (plannedPost emptyState samplePlan profileOf (some sampleMac)).sorted_same
  have hdiffer : ¬ (execLines packet.commands emptyState).Same
      (plannedPost emptyState samplePlan profileOf (some sampleMac)) := by
    rw [built.commanded_eq_expected_iff, built.created_enabled_iff]
    intro hserved
    obtain ⟨proxy, hproxy, -⟩ := hserved (sampleProfile false) (by simp [sampleManifest]) rfl
    exact List.not_mem_nil hproxy
  have hfingerprint : stateFingerprint CanonicalDigest.of (execLines packet.commands emptyState) ≠
      packet.expectedPostStateFingerprint := by
    rw [built.packet_expected, ne_eq, stateFingerprint_eq_iff CanonicalDigest.of_injective]
    exact fun hsame => hdiffer (hsame.trans hsorted)
  refine ⟨packet, _, hpacket, expectedPostState_eq built.planned,
    fun hsame => hdiffer (hsame.trans hsorted), hfingerprint, ?_⟩
  exact built.verify_stale (built.execLines_guard) hfingerprint

end Results

end External

end RouterKit.Netcraze
