import RouterKit.Netcraze.External

/-!
The state a plan leads to. The renderer and the expected-state builder are two
readings of one plan; both are brought here to the same form, the state before
with the created objects appended and the selected assignment set. Any state of
that form, however listed, offers every binding of the plan for reuse.
-/

namespace RouterKit.Netcraze

open RouterKit.Lib.Checked
open RouterKit.Devices RouterKit.Lib

namespace External

/-- The state with objects added and, for a write, one assignment set. -/
def installed (state : LiveState) (proxies : List ProxyState) (policies : List PolicyState)
    (assignment : Option (String × String)) : LiveState :=
  let withObjects := policies.foldl putPolicy (proxies.foldl putProxy state)
  match assignment with
  | some (deviceMac, policyId) => withObjects.assign deviceMac policyId
  | none => withObjects

section Installing

theorem putProxy_of_absent {state : LiveState} {proxy : ProxyState}
    (h : proxy.objectId ∉ state.proxies.map (·.objectId)) :
    (putProxy state proxy).proxies = state.proxies ++ [proxy] :=
  LiveState.touchProxy_of_absent _ h

theorem putPolicy_of_absent {state : LiveState} {policy : PolicyState}
    (h : policy.objectId ∉ state.policies.map (·.objectId)) :
    (putPolicy state policy).policies = state.policies ++ [policy] :=
  LiveState.touchPolicy_of_absent _ h

theorem fresh_after_putProxy {state : LiveState} (proxy : ProxyState) {proxyId : String}
    (h : proxy.objectId ∉ state.proxies.map (·.objectId))
    (hold : proxyId ∉ state.proxies.map (·.objectId)) (hne : proxyId ≠ proxy.objectId) :
    proxyId ∉ (putProxy state proxy).proxies.map (·.objectId) := by
  rw [putProxy_of_absent h, List.map_append, List.mem_append]
  rintro (hmem | hnew)
  · exact hold hmem
  · exact hne (List.mem_singleton.mp hnew)

theorem fresh_after_putPolicy {state : LiveState} (policy : PolicyState) {policyId : String}
    (h : policy.objectId ∉ state.policies.map (·.objectId))
    (hold : policyId ∉ state.policies.map (·.objectId)) (hne : policyId ≠ policy.objectId) :
    policyId ∉ (putPolicy state policy).policies.map (·.objectId) := by
  rw [putPolicy_of_absent h, List.map_append, List.mem_append]
  rintro (hmem | hnew)
  · exact hold hmem
  · exact hne (List.mem_singleton.mp hnew)

/-- Adding proxies under new, different ids appends them and touches nothing
else. -/
theorem foldl_putProxy (state : LiveState) (proxies : List ProxyState)
    (hfresh : ∀ proxy ∈ proxies, proxy.objectId ∉ state.proxies.map (·.objectId))
    (hnodup : (proxies.map (·.objectId)).Nodup) :
    (proxies.foldl putProxy state).proxies = state.proxies ++ proxies ∧
      (proxies.foldl putProxy state).policies = state.policies ∧
      (proxies.foldl putProxy state).assignments = state.assignments ∧
      (proxies.foldl putProxy state).defaultGuard = state.defaultGuard := by
  induction proxies generalizing state with
  | nil => simp
  | cons proxy rest ih =>
      have habsent := hfresh proxy List.mem_cons_self
      have hput := putProxy_of_absent habsent
      rw [List.map_cons, List.nodup_cons] at hnodup
      have hrest := ih (putProxy state proxy)
        (fun other hother => fresh_after_putProxy proxy habsent
          (hfresh other (List.mem_cons_of_mem _ hother))
          (fun heq => hnodup.1 (List.mem_map.mpr ⟨other, hother, heq⟩))) hnodup.2
      rw [List.foldl_cons]
      refine ⟨by rw [hrest.1, hput, List.append_assoc]; rfl, hrest.2⟩

theorem foldl_putPolicy (state : LiveState) (policies : List PolicyState)
    (hfresh : ∀ policy ∈ policies, policy.objectId ∉ state.policies.map (·.objectId))
    (hnodup : (policies.map (·.objectId)).Nodup) :
    (policies.foldl putPolicy state).policies = state.policies ++ policies ∧
      (policies.foldl putPolicy state).proxies = state.proxies ∧
      (policies.foldl putPolicy state).assignments = state.assignments ∧
      (policies.foldl putPolicy state).defaultGuard = state.defaultGuard := by
  induction policies generalizing state with
  | nil => simp
  | cons policy rest ih =>
      have habsent := hfresh policy List.mem_cons_self
      have hput := putPolicy_of_absent habsent
      rw [List.map_cons, List.nodup_cons] at hnodup
      have hrest := ih (putPolicy state policy)
        (fun other hother => fresh_after_putPolicy policy habsent
          (hfresh other (List.mem_cons_of_mem _ hother))
          (fun heq => hnodup.1 (List.mem_map.mpr ⟨other, hother, heq⟩))) hnodup.2
      rw [List.foldl_cons]
      refine ⟨by rw [hrest.1, hput, List.append_assoc]; rfl, hrest.2⟩

/-- The fields of an installed state. -/
theorem installed_fields {state : LiveState} {proxies : List ProxyState}
    {policies : List PolicyState} {assignment : Option (String × String)}
    (hproxies : ∀ proxy ∈ proxies, proxy.objectId ∉ state.proxies.map (·.objectId))
    (hproxyIds : (proxies.map (·.objectId)).Nodup)
    (hpolicies : ∀ policy ∈ policies, policy.objectId ∉ state.policies.map (·.objectId))
    (hpolicyIds : (policies.map (·.objectId)).Nodup) :
    (installed state proxies policies assignment).proxies = state.proxies ++ proxies ∧
      (installed state proxies policies assignment).policies = state.policies ++ policies ∧
      (installed state proxies policies assignment).assignments =
        (match assignment with
          | some (deviceMac, policyId) => (state.assign deviceMac policyId).assignments
          | none => state.assignments) ∧
      (installed state proxies policies assignment).defaultGuard = state.defaultGuard := by
  obtain ⟨h1, h2, h3, h4⟩ := foldl_putProxy state proxies hproxies hproxyIds
  obtain ⟨k1, k2, k3, k4⟩ := foldl_putPolicy (proxies.foldl putProxy state) policies
    (by rwa [h2]) hpolicyIds
  cases assignment with
  | none => exact ⟨k2.trans h1, by simp only [installed, k1, h2], k3.trans h3, k4.trans h4⟩
  | some entry =>
      refine ⟨k2.trans h1, ?_, ?_, k4.trans h4⟩
      · simp only [installed, LiveState.assign, k1, h2]
      · simp only [installed, LiveState.assign, k3, h3]

end Installing

/-- What the commands of a created binding leave behind: the proxy is up. -/
def commandedProxy (binding : BindingPlan) (profile : LocalProxyProfile) : ProxyState :=
  { expectedProxy binding profile with enabled := true }

theorem execAll_proxyCreateCommands {state : LiveState} {binding : BindingPlan}
    {profile : LocalProxyProfile}
    (h : binding.proxyId ∉ state.proxies.map (·.objectId)) :
    execAll (proxyCreateCommands binding profile) state =
      putProxy state (commandedProxy binding profile) := by
  apply LiveState.ext
  · rw [putProxy_of_absent h]
    -- The first command creates the object, the other four modify it.
    have hdescription := LiveState.touchProxy_of_absent
      (f := fun proxy => { proxy with description := connectionName profile })
      (fun _ => rfl) h
    have hsecurity := LiveState.touchProxy_last (f := id) (fun _ => rfl) hdescription h
    have hprotocol := LiveState.touchProxy_last
      (f := fun proxy => { proxy with protocol := "socks5" }) (fun _ => rfl) hsecurity h
    have hupstream := LiveState.touchProxy_last
      (f := fun proxy => { proxy with host := profile.host, port := profile.port })
      (fun _ => rfl) hprotocol h
    exact LiveState.touchProxy_last (f := fun proxy => { proxy with enabled := true })
      (fun _ => rfl) hupstream h
  all_goals rfl

theorem execAll_policyCreateCommands {state : LiveState} {binding : BindingPlan}
    {profile : LocalProxyProfile}
    (h : binding.policyId ∉ state.policies.map (·.objectId)) :
    execAll (policyCreateCommands binding profile) state =
      putPolicy state (expectedPolicy binding profile) := by
  apply LiveState.ext
  rotate_left
  · rw [putPolicy_of_absent h]
    have hdescription := LiveState.touchPolicy_of_absent
      (f := fun policy => { policy with description := policyName profile })
      (fun _ => rfl) h
    exact LiveState.touchPolicy_last
      (f := fun policy => { policy with globalInterfaces := [binding.proxyId] })
      (fun _ => rfl) hdescription h
  all_goals rfl

section Readings

variable {manifest : LocalEndpointManifest} {profileOf : BindingPlan → LocalProxyProfile}

theorem renderProxies_eq {bindings : List BindingPlan}
    (hfound : ∀ binding ∈ bindings,
      profileBySlot manifest binding.slot = .ok (profileOf binding)) :
    renderProxies manifest bindings =
      .ok ((creatingProxies bindings).flatMap (fun b => proxyCreateCommands b (profileOf b)),
        (creatingProxies bindings).map (fun b => .noInterface b.proxyId)) := by
  induction bindings with
  | nil => rfl
  | cons binding rest ih =>
      have hrest := ih (fun b hb => hfound b (List.mem_cons_of_mem _ hb))
      by_cases hcreate : binding.proxyAction = .create
      · simp [renderProxies, creatingProxies, hcreate, hfound binding List.mem_cons_self, hrest,
          pure, Except.pure]
      · simp [renderProxies, creatingProxies, hcreate, hrest]

theorem renderPolicies_eq {bindings : List BindingPlan}
    (hfound : ∀ binding ∈ bindings,
      profileBySlot manifest binding.slot = .ok (profileOf binding)) :
    renderPolicies manifest bindings =
      .ok ((creatingPolicies bindings).flatMap (fun b => policyCreateCommands b (profileOf b)),
        (creatingPolicies bindings).map (fun b => .noPolicy b.policyId)) := by
  induction bindings with
  | nil => rfl
  | cons binding rest ih =>
      have hrest := ih (fun b hb => hfound b (List.mem_cons_of_mem _ hb))
      by_cases hcreate : binding.policyAction = .create
      · simp [renderPolicies, creatingPolicies, hcreate, hfound binding List.mem_cons_self, hrest,
          pure, Except.pure]
      · simp [renderPolicies, creatingPolicies, hcreate, hrest]

/-- Executing the creation commands of new ids, one binding after the other,
adds the commanded proxies. -/
theorem execAll_creatingProxies {creating : List BindingPlan} {state : LiveState}
    (hfresh : ∀ binding ∈ creating, binding.proxyId ∉ state.proxies.map (·.objectId))
    (hnodup : (creating.map (·.proxyId)).Nodup) :
    execAll (creating.flatMap (fun b => proxyCreateCommands b (profileOf b))) state =
      (creating.map (fun b => commandedProxy b (profileOf b))).foldl putProxy state := by
  induction creating generalizing state with
  | nil => rfl
  | cons binding rest ih =>
      have hbinding := hfresh binding List.mem_cons_self
      rw [List.map_cons, List.nodup_cons] at hnodup
      rw [List.flatMap_cons, execAll_append, execAll_proxyCreateCommands hbinding]
      exact ih (fun other hother => fresh_after_putProxy
        (commandedProxy binding (profileOf binding)) hbinding
        (hfresh other (List.mem_cons_of_mem _ hother))
        (fun heq => hnodup.1 (List.mem_map.mpr ⟨other, hother, heq⟩))) hnodup.2

theorem execAll_creatingPolicies {creating : List BindingPlan} {state : LiveState}
    (hfresh : ∀ binding ∈ creating, binding.policyId ∉ state.policies.map (·.objectId))
    (hnodup : (creating.map (·.policyId)).Nodup) :
    execAll (creating.flatMap (fun b => policyCreateCommands b (profileOf b))) state =
      (creating.map (fun b => expectedPolicy b (profileOf b))).foldl putPolicy state := by
  induction creating generalizing state with
  | nil => rfl
  | cons binding rest ih =>
      have hbinding := hfresh binding List.mem_cons_self
      rw [List.map_cons, List.nodup_cons] at hnodup
      rw [List.flatMap_cons, execAll_append, execAll_policyCreateCommands hbinding]
      exact ih (fun other hother => fresh_after_putPolicy
        (expectedPolicy binding (profileOf binding)) hbinding
        (hfresh other (List.mem_cons_of_mem _ hother))
        (fun heq => hnodup.1 (List.mem_map.mpr ⟨other, hother, heq⟩))) hnodup.2

theorem expectProxies_eq {bindings : List BindingPlan} {state : LiveState}
    (hfound : ∀ binding ∈ bindings,
      profileBySlot manifest binding.slot = .ok (profileOf binding))
    (hfresh : ∀ binding ∈ creatingProxies bindings,
      binding.proxyId ∉ state.proxies.map (·.objectId))
    (hnodup : ((creatingProxies bindings).map (·.proxyId)).Nodup) :
    expectProxies manifest bindings state =
      .ok (((creatingProxies bindings).map
        (fun b => expectedProxy b (profileOf b))).foldl putProxy state) := by
  induction bindings generalizing state with
  | nil => rfl
  | cons binding rest ih =>
      have hrest := fun b hb => hfound b (List.mem_cons_of_mem _ hb)
      by_cases hcreate : binding.proxyAction = .create
      · have hcons : creatingProxies (binding :: rest) = binding :: creatingProxies rest := by
          simp [creatingProxies, hcreate]
        rw [hcons] at hfresh hnodup ⊢
        have hbinding := hfresh binding List.mem_cons_self
        rw [List.map_cons, List.nodup_cons] at hnodup
        simp only [expectProxies, hfound binding List.mem_cons_self, bind_ok_left, if_pos hcreate,
          raiseIf, if_neg hbinding, List.map_cons, List.foldl_cons]
        exact ih hrest (fun other hother => fresh_after_putProxy
          (expectedProxy binding (profileOf binding)) hbinding
          (hfresh other (List.mem_cons_of_mem _ hother))
          (fun heq => hnodup.1 (List.mem_map.mpr ⟨other, hother, heq⟩))) hnodup.2
      · have hskip : creatingProxies (binding :: rest) = creatingProxies rest := by
          simp [creatingProxies, hcreate]
        rw [hskip] at hfresh hnodup ⊢
        simp only [expectProxies, hfound binding List.mem_cons_self, bind_ok_left,
          if_neg hcreate]
        exact ih hrest hfresh hnodup

theorem expectPolicies_eq {bindings : List BindingPlan} (state : LiveState)
    (hfound : ∀ binding ∈ bindings,
      profileBySlot manifest binding.slot = .ok (profileOf binding))
    (hfresh : ∀ binding ∈ creatingPolicies bindings,
      binding.policyId ∉ state.policies.map (·.objectId))
    (hnodup : ((creatingPolicies bindings).map (·.policyId)).Nodup) :
    expectPolicies manifest bindings state =
      .ok (((creatingPolicies bindings).map
        (fun b => expectedPolicy b (profileOf b))).foldl putPolicy state) := by
  induction bindings generalizing state with
  | nil => rfl
  | cons binding rest ih =>
      have hrest := fun b hb => hfound b (List.mem_cons_of_mem _ hb)
      by_cases hcreate : binding.policyAction = .create
      · have hcons : creatingPolicies (binding :: rest) = binding :: creatingPolicies rest := by
          simp [creatingPolicies, hcreate]
        rw [hcons] at hfresh hnodup ⊢
        have hbinding := hfresh binding List.mem_cons_self
        rw [List.map_cons, List.nodup_cons] at hnodup
        simp only [expectPolicies, hfound binding List.mem_cons_self, bind_ok_left,
          if_pos hcreate, raiseIf, if_neg hbinding, List.map_cons, List.foldl_cons]
        exact ih _ hrest (fun other hother => fresh_after_putPolicy
          (expectedPolicy binding (profileOf binding)) hbinding
          (hfresh other (List.mem_cons_of_mem _ hother))
          (fun heq => hnodup.1 (List.mem_map.mpr ⟨other, hother, heq⟩))) hnodup.2
      · have hskip : creatingPolicies (binding :: rest) = creatingPolicies rest := by
          simp [creatingPolicies, hcreate]
        rw [hskip] at hfresh hnodup ⊢
        simp only [expectPolicies, hfound binding List.mem_cons_self, bind_ok_left,
          if_neg hcreate]
        exact ih _ hrest hfresh hnodup

end Readings

/-- The assignment a plan writes. -/
def writtenAssignment (plan : LivePlan) (mac : Option String) : Option (String × String) :=
  match mac, plan.selectedSlot with
  | some mac, some slot =>
      if plan.assignmentAction ∈ [.assign, .move] then
        (targetPolicy plan.bindings slot).toOption.map (fun target => (mac, target))
      else none
  | _, _ => none

section Planned

variable {rules : PlanRules} {manifest : LocalEndpointManifest} {state : LiveState}
  {mac : Option String} {profileSlot : Option Nat} {allowMove : Bool} {plan : LivePlan}
  {profileOf : BindingPlan → LocalProxyProfile}

def expectedProxies (plan : LivePlan) (profileOf : BindingPlan → LocalProxyProfile) :
    List ProxyState :=
  (creatingProxies plan.bindings).map (fun b => expectedProxy b (profileOf b))

def commandedProxies (plan : LivePlan) (profileOf : BindingPlan → LocalProxyProfile) :
    List ProxyState :=
  (creatingProxies plan.bindings).map (fun b => commandedProxy b (profileOf b))

def expectedPolicies (plan : LivePlan) (profileOf : BindingPlan → LocalProxyProfile) :
    List PolicyState :=
  (creatingPolicies plan.bindings).map (fun b => expectedPolicy b (profileOf b))

/-- The state a plan is expected to lead to, before the objects are sorted. -/
def plannedPost (state : LiveState) (plan : LivePlan)
    (profileOf : BindingPlan → LocalProxyProfile) (mac : Option String) : LiveState :=
  installed state (expectedProxies plan profileOf) (expectedPolicies plan profileOf)
    (writtenAssignment plan mac)

theorem creatingProxies_mem {bindings : List BindingPlan} {binding : BindingPlan} :
    binding ∈ creatingProxies bindings ↔ binding ∈ bindings ∧ binding.proxyAction = .create := by
  simp [creatingProxies]

theorem creatingPolicies_mem {bindings : List BindingPlan} {binding : BindingPlan} :
    binding ∈ creatingPolicies bindings ↔
      binding ∈ bindings ∧ binding.policyAction = .create := by
  simp [creatingPolicies]

variable (planned : Planned rules manifest state mac profileSlot allowMove plan profileOf)
include planned

theorem target_exists {slot : Nat} (h : profileSlot = some slot) :
    ∃ binding ∈ plan.bindings, binding.slot = slot ∧
      targetPolicy plan.bindings slot = .ok binding.policyId := by
  obtain ⟨binding, hmem, rfl⟩ := planned.resolved.exists_binding_of_slot (planned.listed slot h)
  exact ⟨binding, hmem, rfl, planned.resolved.targetPolicy_of_mem planned.valid hmem⟩

/-- A written assignment goes to the selected binding's policy, which is not the
device's already. -/
theorem writtenAssignment_eq_some {deviceMac policyId : String}
    (h : writtenAssignment plan mac = some (deviceMac, policyId)) :
    mac = some deviceMac ∧
      (∃ binding ∈ plan.bindings, binding.policyId = policyId) ∧
      state.assignmentOf deviceMac ≠ some policyId := by
  have hassignment := planned.assignment
  unfold writtenAssignment at h
  rw [planned.selectedSlot] at h
  split at h
  · next mac slot =>
    split at h
    · next hwrite =>
      obtain ⟨binding, hmem, -, htarget⟩ := target_exists planned rfl
      simp only [htarget, Except.toOption, Option.map_some, Option.some.injEq,
        Prod.mk.injEq] at h
      obtain ⟨rfl, rfl⟩ := h
      refine ⟨rfl, ⟨binding, hmem, rfl⟩, ?_⟩
      generalize plan.assignmentAction = action at hassignment hwrite
      cases hassignment with
      | none => simp at hwrite
      | reuse => simp at hwrite
      | assign _ hcurrent => simp [hcurrent]
      | move hmove hcurrent hne =>
          cases hmove.symm.trans htarget
          simpa [hcurrent] using hne
    · cases h
  · cases h

theorem expectedPostState_eq :
    expectedPostState manifest plan state mac =
      .ok (plannedPost state plan profileOf mac).sorted := by
  have hproxies := expectProxies_eq planned.resolved.found planned.proxies_fresh
    planned.proxies_nodup
  have hput : ((expectedProxies plan profileOf).foldl putProxy state).policies =
      state.policies := (foldl_putProxy _ _
    (by simpa [expectedProxies, expectedProxy] using planned.proxies_fresh)
    (by simpa [expectedProxies, expectedProxy, Function.comp_def] using
      planned.proxies_nodup)).2.1
  have hpolicies := expectPolicies_eq ((expectedProxies plan profileOf).foldl putProxy
    state) planned.resolved.found (hput ▸ planned.policies_fresh) planned.policies_nodup
  simp only [expectedPostState, hproxies, bind_ok_left]
  rw [show (creatingProxies plan.bindings).map (fun b => expectedProxy b (profileOf b)) =
    expectedProxies plan profileOf from rfl, hpolicies]
  simp only [bind_ok_left, expectAssignment, plannedPost, installed, writtenAssignment]
  rw [planned.selectedSlot]
  cases mac with
  | none => rfl
  | some mac =>
      cases hslot : profileSlot with
      | none => rfl
      | some slot =>
          obtain ⟨binding, -, -, htarget⟩ := target_exists planned hslot
          simp only [htarget, bind_ok_left]
          split <;> rfl

omit planned in
/-- The lists of a rendered plan. -/
def plannedCommands (plan : LivePlan) (profileOf : BindingPlan → LocalProxyProfile)
    (mac : Option String) : List NdmCommand :=
  (creatingProxies plan.bindings).flatMap (fun b => proxyCreateCommands b (profileOf b)) ++
    (creatingPolicies plan.bindings).flatMap (fun b => policyCreateCommands b (profileOf b)) ++
    match writtenAssignment plan mac with
    | some (deviceMac, policyId) => [.hotspotHostPolicy deviceMac policyId]
    | none => []

omit planned in
def plannedRollbacks (plan : LivePlan) (state : LiveState) (mac : Option String) :
    List NdmCommand :=
  (match writtenAssignment plan mac with
    | some (deviceMac, _) =>
        match state.assignmentOf deviceMac with
        | none => [.noHotspotHostPolicy deviceMac]
        | some previous => [.hotspotHostPolicy deviceMac previous]
    | none => []) ++
    ((creatingPolicies plan.bindings).map (fun b => .noPolicy b.policyId)).reverse ++
    ((creatingProxies plan.bindings).map (fun b => .noInterface b.proxyId)).reverse

omit planned in
/-- The assignment of a packet that selects a device. -/
def selectedAssignment (plan : LivePlan) (state : LiveState) (deviceMac : String)
    (binding : BindingPlan) : Assignment where
  action := plan.assignmentAction
  deviceMac := some deviceMac
  selectedSlot := some binding.slot
  targetPolicy := some binding.policyId
  previousPolicy := state.assignmentOf deviceMac

/-- The assignment of a packet: empty without a device, and otherwise the device
with the policy of the selected binding. -/
theorem assignmentPayload_eq :
    (mac = none ∧ profileSlot = none ∧ plan.assignmentAction = .none ∧
      assignmentPayload plan state mac = .ok noAssignment) ∨
    ∃ deviceMac, ∃ binding ∈ plan.bindings, mac = some deviceMac ∧
      profileSlot = some binding.slot ∧
      targetPolicy plan.bindings binding.slot = .ok binding.policyId ∧
      plan.assignmentAction ≠ .none ∧
      assignmentPayload plan state mac =
        .ok (selectedAssignment plan state deviceMac binding) := by
  have hpaired := planned.paired
  have hassignment := planned.assignment
  cases hmac : mac with
  | none =>
      have hslot : profileSlot = none := by simpa [hmac] using hpaired
      subst hmac hslot
      refine .inl ⟨rfl, rfl, ?_, rfl⟩
      generalize plan.assignmentAction = action at hassignment
      cases hassignment
      rfl
  | some deviceMac =>
      obtain ⟨slot, hslot⟩ : ∃ slot, profileSlot = some slot := by
        apply Option.isSome_iff_exists.mp
        simpa [hmac] using hpaired.symm
      subst hmac
      obtain ⟨binding, hmem, rfl, htarget⟩ := target_exists planned hslot
      refine .inr ⟨deviceMac, binding, hmem, rfl, hslot, htarget, ?_, ?_⟩
      · subst hslot
        intro hnone
        rw [hnone] at hassignment
        cases hassignment
        next h => simp at h
      · have hselected : plan.selectedSlot = some binding.slot := planned.selectedSlot.trans hslot
        simp only [assignmentPayload, hselected, htarget, bind_ok_left]
        rfl

theorem assignmentPayload_exists :
    ∃ assignment, assignmentPayload plan state mac = .ok assignment := by
  rcases assignmentPayload_eq planned with ⟨-, -, -, hpayload⟩ | ⟨_, _, -, -, -, -, -, hpayload⟩
  · exact ⟨_, hpayload⟩
  · exact ⟨_, hpayload⟩

theorem renderCommands_eq {assignment : Assignment}
    (h : assignmentPayload plan state mac = .ok assignment) :
    renderCommands manifest plan assignment =
      .ok (plannedCommands plan profileOf mac, plannedRollbacks plan state mac) := by
  have hassignment : renderAssignment assignment =
      (match writtenAssignment plan mac with
        | some (deviceMac, policyId) => [.hotspotHostPolicy deviceMac policyId]
        | none => [],
      match writtenAssignment plan mac with
        | some (deviceMac, _) =>
            match state.assignmentOf deviceMac with
            | none => [.noHotspotHostPolicy deviceMac]
            | some previous => [.hotspotHostPolicy deviceMac previous]
        | none => []) := by
    rcases assignmentPayload_eq planned with ⟨hmac, -, -, hpayload⟩ |
      ⟨deviceMac, binding, -, hmac, hslot, htarget, -, hpayload⟩
    · cases hpayload.symm.trans h
      simp [writtenAssignment, renderAssignment, noAssignment, hmac]
    · cases hpayload.symm.trans h
      have hselected : plan.selectedSlot = some binding.slot := planned.selectedSlot.trans hslot
      by_cases hwrite : plan.assignmentAction ∈ [.assign, .move]
      · have hwritten : writtenAssignment plan mac = some (deviceMac, binding.policyId) := by
          simp only [writtenAssignment, hmac, hselected, if_pos hwrite, htarget, Except.toOption,
            Option.map_some]
        rw [hwritten]
        exact if_pos hwrite
      · have hwritten : writtenAssignment plan mac = none := by
          simp only [writtenAssignment, hmac, hselected, if_neg hwrite]
        rw [hwritten]
        exact if_neg hwrite
  simp only [renderCommands, renderProxies_eq planned.resolved.found,
    renderPolicies_eq planned.resolved.found, bind_ok_left, hassignment]
  simp only [plannedCommands, plannedRollbacks, List.append_assoc]
  rfl

/-- Executing the commands of a plan installs its commanded proxies, its
policies and its assignment. -/
theorem execAll_plannedCommands :
    execAll (plannedCommands plan profileOf mac) state =
      installed state (commandedProxies plan profileOf) (expectedPolicies plan profileOf)
        (writtenAssignment plan mac) := by
  have hput : ((commandedProxies plan profileOf).foldl putProxy state).policies =
      state.policies := (foldl_putProxy _ _
    (by simpa [commandedProxies, commandedProxy, expectedProxy] using planned.proxies_fresh)
    (by simpa [commandedProxies, commandedProxy, expectedProxy, Function.comp_def] using
      planned.proxies_nodup)).2.1
  rw [plannedCommands, execAll_append, execAll_append,
    execAll_creatingProxies planned.proxies_fresh planned.proxies_nodup]
  rw [show (creatingProxies plan.bindings).map (fun b => commandedProxy b (profileOf b)) =
    commandedProxies plan profileOf from rfl]
  rw [execAll_creatingPolicies (hput ▸ planned.policies_fresh) planned.policies_nodup]
  unfold installed
  split <;> rfl

end Planned

/-- Rewriting the actions of bindings leaves their policies where they are. -/
theorem targetPolicy_map_reuse (bindings : List BindingPlan) (slot : Nat) :
    targetPolicy (bindings.map (fun binding =>
      { binding with proxyAction := .reuse, policyAction := .reuse })) slot =
      targetPolicy bindings slot := by
  induction bindings with
  | nil => rfl
  | cons binding rest ih =>
      simp only [targetPolicy, Keyed.lookup, List.map_cons, List.find?_cons] at *
      by_cases hslot : binding.slot = slot
      · simp [hslot]
      · simpa [hslot] using ih

section PostState

variable {manifest : LocalEndpointManifest} {state post : LiveState}
  {mac : Option String} {profileSlot : Option Nat} {allowMove : Bool} {plan : LivePlan}
  {profileOf : BindingPlan → LocalProxyProfile}
  (planned : Planned LiveCompat.rules manifest state mac profileSlot allowMove plan profileOf)
  (hpost : post.Same (plannedPost state plan profileOf mac))
include planned

theorem plannedPost_fields :
    (plannedPost state plan profileOf mac).proxies =
        state.proxies ++ expectedProxies plan profileOf ∧
      (plannedPost state plan profileOf mac).policies =
        state.policies ++ expectedPolicies plan profileOf ∧
      (plannedPost state plan profileOf mac).assignments =
        (match writtenAssignment plan mac with
          | some (deviceMac, policyId) => (state.assign deviceMac policyId).assignments
          | none => state.assignments) ∧
      (plannedPost state plan profileOf mac).defaultGuard = state.defaultGuard := by
  apply installed_fields
  · simpa [expectedProxies, expectedProxy] using planned.proxies_fresh
  · simpa [expectedProxies, expectedProxy, Function.comp_def] using planned.proxies_nodup
  · simpa [expectedPolicies, expectedPolicy] using planned.policies_fresh
  · simpa [expectedPolicies, expectedPolicy, Function.comp_def] using planned.policies_nodup

theorem commandedPost_fields :
    (installed state (commandedProxies plan profileOf) (expectedPolicies plan profileOf)
        (writtenAssignment plan mac)).proxies =
        state.proxies ++ commandedProxies plan profileOf ∧
      (installed state (commandedProxies plan profileOf) (expectedPolicies plan profileOf)
        (writtenAssignment plan mac)).policies =
        state.policies ++ expectedPolicies plan profileOf ∧
      (installed state (commandedProxies plan profileOf) (expectedPolicies plan profileOf)
        (writtenAssignment plan mac)).assignments =
        (match writtenAssignment plan mac with
          | some (deviceMac, policyId) => (state.assign deviceMac policyId).assignments
          | none => state.assignments) ∧
      (installed state (commandedProxies plan profileOf) (expectedPolicies plan profileOf)
        (writtenAssignment plan mac)).defaultGuard = state.defaultGuard := by
  apply installed_fields
  · simpa [commandedProxies, commandedProxy, expectedProxy] using planned.proxies_fresh
  · simpa [commandedProxies, commandedProxy, expectedProxy, Function.comp_def] using
      planned.proxies_nodup
  · simpa [expectedPolicies, expectedPolicy] using planned.policies_fresh
  · simpa [expectedPolicies, expectedPolicy, Function.comp_def] using planned.policies_nodup

include hpost

theorem post_proxies_mem {proxy : ProxyState} :
    proxy ∈ post.proxies ↔ proxy ∈ state.proxies ∨ ∃ binding ∈ plan.bindings,
      binding.proxyAction = .create ∧ proxy = expectedProxy binding (profileOf binding) := by
  rw [hpost.proxies.mem_iff, (plannedPost_fields planned).1, List.mem_append]
  simp only [expectedProxies, List.mem_map, creatingProxies_mem, and_assoc,
    eq_comm (b := proxy)]

theorem post_policies_mem {policy : PolicyState} :
    policy ∈ post.policies ↔ policy ∈ state.policies ∨ ∃ binding ∈ plan.bindings,
      binding.policyAction = .create ∧ policy = expectedPolicy binding (profileOf binding) := by
  rw [hpost.policies.mem_iff, (plannedPost_fields planned).2.1, List.mem_append]
  simp only [expectedPolicies, List.mem_map, creatingPolicies_mem, and_assoc,
    eq_comm (b := policy)]

/-- The proxy of a binding in the post-state: its own if it creates one, and the
one it reuses if not. No proxy of another binding has its name or its port. -/
theorem post_reuseProxy {binding : BindingPlan} (hbinding : binding ∈ plan.bindings) :
    ∃ proxy, LiveCompat.rules.reuseProxy post (profileOf binding) = .ok (some proxy) ∧
      proxy.objectId = binding.proxyId ∧
      (binding.proxyAction = .create → proxy = expectedProxy binding (profileOf binding)) := by
  have hother : ∀ other ∈ plan.bindings,
      (expectedProxy other (profileOf other)).description = connectionName (profileOf binding) ∨
        LiveCompat.proxySemanticExact (expectedProxy other (profileOf other))
          (profileOf binding) = true → other = binding := by
    intro other hmem hor
    apply planned.resolved.binding_inj planned.valid hmem hbinding
    rcases hor with hname | hsemantic
    · exact connectionName_inj
        (planned.valid.acceptable _ (planned.resolved.profile_mem hmem)).port
        (planned.valid.acceptable _ (planned.resolved.profile_mem hbinding)).port hname
    · simp only [LiveCompat.proxySemanticExact, expectedProxy, Bool.and_eq_true] at hsemantic
      exact of_decide_eq_true hsemantic.1.1.2
  rcases (planned.resolved.planned binding hbinding).proxy with
    ⟨hreuse, proxy, hproxy, hid⟩ | ⟨hcreate, hnone, -⟩
  · obtain ⟨hmem, hsemantic, honly⟩ := LiveCompat.reuseProxy_eq_some.mp hproxy
    refine ⟨proxy, LiveCompat.reuseProxy_eq_some.mpr ⟨?_, hsemantic, ?_⟩, hid, ?_⟩
    · exact (post_proxies_mem planned hpost).mpr (.inl hmem)
    · intro candidate hcandidate hor
      rcases (post_proxies_mem planned hpost).mp hcandidate with
        hold | ⟨other, hmemOther, hcreate, rfl⟩
      · exact honly candidate hold hor
      · obtain rfl := hother other hmemOther hor
        exact absurd (hreuse.symm.trans hcreate) (by decide)
    · exact fun hcreate => absurd (hreuse.symm.trans hcreate) (by decide)
  · have hfree := LiveCompat.reuseProxy_eq_none.mp hnone
    refine ⟨_, LiveCompat.reuseProxy_eq_some.mpr ⟨?_, ?_, ?_⟩, rfl, fun _ => rfl⟩
    · exact (post_proxies_mem planned hpost).mpr (.inr ⟨binding, hbinding, hcreate, rfl⟩)
    · simp [LiveCompat.proxySemanticExact, expectedProxy]
    · intro candidate hcandidate hor
      rcases (post_proxies_mem planned hpost).mp hcandidate with
        hold | ⟨other, hmemOther, -, rfl⟩
      · obtain ⟨hname, hsemantic⟩ := hfree candidate hold
        rcases hor with h | h
        · exact absurd h hname
        · exact absurd h (by simp [hsemantic])
      · rw [hother other hmemOther hor]

/-- Likewise for policies, which the proxy ids of the bindings tell apart. -/
theorem post_reusePolicy (hdistinct : (plan.bindings.map (·.proxyId)).Nodup)
    {binding : BindingPlan} (hbinding : binding ∈ plan.bindings) :
    ∃ policy, LiveCompat.rules.reusePolicy post (profileOf binding) binding.proxyId =
        .ok (some policy) ∧
      policy.objectId = binding.policyId ∧
      (binding.policyAction = .create → policy = expectedPolicy binding (profileOf binding)) := by
  have hother : ∀ other ∈ plan.bindings,
      (expectedPolicy other (profileOf other)).description = policyName (profileOf binding) ∨
        LiveCompat.policySemanticExact (expectedPolicy other (profileOf other))
          binding.proxyId = true → other = binding := by
    intro other hmem hor
    rcases hor with hname | hsemantic
    · exact planned.resolved.binding_inj planned.valid hmem hbinding (policyName_inj
        (planned.valid.acceptable _ (planned.resolved.profile_mem hmem)).port
        (planned.valid.acceptable _ (planned.resolved.profile_mem hbinding)).port hname)
    · simp only [LiveCompat.policySemanticExact, expectedPolicy, decide_eq_true_eq,
        List.cons.injEq, and_true] at hsemantic
      exact List.inj_on_of_nodup_map hdistinct hmem hbinding hsemantic
  rcases (planned.resolved.planned binding hbinding).policy with
    ⟨hreuse, policy, hpolicy, hid⟩ | ⟨hcreate, hnone, -⟩
  · obtain ⟨hmem, hsemantic, honly⟩ := LiveCompat.reusePolicy_eq_some.mp hpolicy
    refine ⟨policy, LiveCompat.reusePolicy_eq_some.mpr ⟨?_, hsemantic, ?_⟩, hid, ?_⟩
    · exact (post_policies_mem planned hpost).mpr (.inl hmem)
    · intro candidate hcandidate hor
      rcases (post_policies_mem planned hpost).mp hcandidate with
        hold | ⟨other, hmemOther, hcreate, rfl⟩
      · exact honly candidate hold hor
      · obtain rfl := hother other hmemOther hor
        exact absurd (hreuse.symm.trans hcreate) (by decide)
    · exact fun hcreate => absurd (hreuse.symm.trans hcreate) (by decide)
  · have hfree := LiveCompat.reusePolicy_eq_none.mp hnone
    refine ⟨_, LiveCompat.reusePolicy_eq_some.mpr ⟨?_, ?_, ?_⟩, rfl, fun _ => rfl⟩
    · exact (post_policies_mem planned hpost).mpr (.inr ⟨binding, hbinding, hcreate, rfl⟩)
    · simp [LiveCompat.policySemanticExact, expectedPolicy]
    · intro candidate hcandidate hor
      rcases (post_policies_mem planned hpost).mp hcandidate with
        hold | ⟨other, hmemOther, -, rfl⟩
      · obtain ⟨hname, hsemantic⟩ := hfree candidate hold
        rcases hor with h | h
        · exact absurd h hname
        · exact absurd h (by simp [hsemantic])
      · rw [hother other hmemOther hor]

/-- The selected device has the policy of its binding. -/
theorem post_assignmentOf {deviceMac : String} {slot : Nat} (hmac : mac = some deviceMac)
    (hslot : profileSlot = some slot) :
    ∃ target, targetPolicy plan.bindings slot = .ok target ∧
      post.assignmentOf deviceMac = some target := by
  obtain ⟨binding, -, -, htarget⟩ := target_exists planned hslot
  refine ⟨binding.policyId, htarget, ?_⟩
  have hselected : plan.selectedSlot = some slot := planned.selectedSlot.trans hslot
  have hassignment := planned.assignment
  rw [hpost.assignmentOf deviceMac, LiveState.assignmentOf, (plannedPost_fields planned).2.2.1]
  subst hmac hslot
  simp only [writtenAssignment, hselected]
  generalize plan.assignmentAction = action at hassignment
  cases hassignment with
  | none h => simp at h
  | reuse hreuse hcurrent =>
      cases hreuse.symm.trans htarget
      exact hcurrent
  | assign hassign hcurrent =>
      cases hassign.symm.trans htarget
      rw [if_pos (by decide), htarget]
      exact LiveState.assignmentOf_assign state deviceMac binding.policyId
  | move hmove hcurrent hne hallow =>
      cases hmove.symm.trans htarget
      rw [if_pos (by decide), htarget]
      exact LiveState.assignmentOf_assign state deviceMac binding.policyId

/-- The plan of the post-state: the same bindings, all of them reused. -/
theorem post_buildLivePlan (hdistinct : (plan.bindings.map (·.proxyId)).Nodup)
    (hmac : normalizeSelectedMac mac = .ok mac) (allowMove' : Bool) :
    LiveCompat.buildLivePlan manifest post mac profileSlot allowMove' = .ok {
      bindings := plan.bindings.map (fun binding =>
        { binding with proxyAction := .reuse, policyAction := .reuse })
      selectedDevicePresent := mac.isSome
      selectedSlot := profileSlot
      assignmentAction := if mac.isSome then .reuse else .none } := by
  apply PlanRules.buildLivePlan_eq_ok.mpr
  refine ⟨planned.paired, mac, hmac, ?_, _, ?_, _, planAssignment_eq_ok.mpr ?_, rfl⟩
  · intro hsome
    have hslot : profileSlot.isSome = true := by
      have hpaired := planned.paired
      cases profileSlot <;> simp_all
    obtain ⟨slot, hslot⟩ := Option.isSome_iff_exists.mp hslot
    simpa [hslot] using planned.listed slot hslot
  · rw [← planned.resolved.covers]
    apply planBindings_of_reuse
    intro binding hbinding
    have hplanned := planned.resolved.planned binding hbinding
    obtain ⟨proxy, hproxy, hproxyId, -⟩ := post_reuseProxy planned hpost hbinding
    obtain ⟨policy, hpolicy, hpolicyId, -⟩ := post_reusePolicy planned hpost hdistinct hbinding
    exact ⟨hplanned.slot, hplanned.port, ⟨proxy, hproxy, hproxyId⟩, policy, hpolicy, hpolicyId⟩
  · have hpaired := planned.paired
    cases hm : mac with
    | none => exact .none (.inl rfl)
    | some deviceMac =>
        cases hs : profileSlot with
        | none => simp [hm, hs] at hpaired
        | some slot =>
            obtain ⟨target, htarget, hcurrent⟩ := post_assignmentOf planned hpost hm hs
            refine PlannedAssignment.reuse ?_ hcurrent
            rw [← htarget]
            exact targetPolicy_map_reuse plan.bindings slot

end PostState

end External

end RouterKit.Netcraze
