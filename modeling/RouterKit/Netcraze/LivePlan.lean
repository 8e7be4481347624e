import RouterKit.Netcraze.Ndm

/-!
Planning the native objects of a manifest against one state, and verifying a
plan against a later one. The adapter and its compatibility layer plan by the
same procedure and differ in which existing object they reuse and in what they
ask of an object afterwards, so the procedure takes these four rules.
-/

namespace RouterKit.Netcraze

open RouterKit.Lib.Checked
open RouterKit.Devices RouterKit.Lib

inductive ObjectAction where
  | reuse
  | create
deriving DecidableEq, Repr

inductive AssignmentAction where
  | none
  | reuse
  | assign
  | move
deriving DecidableEq, Repr

structure BindingPlan where
  slot : Nat
  port : Nat
  proxyId : String
  policyId : String
  proxyAction : ObjectAction
  policyAction : ObjectAction
deriving DecidableEq, Repr

structure LivePlan where
  bindings : List BindingPlan
  selectedDevicePresent : Bool
  selectedSlot : Option Nat
  assignmentAction : AssignmentAction
  defaultPolicyTargeted : Bool := false
  schema : String := liveSchema
deriving DecidableEq, Repr

/-- Where the two planners differ. -/
structure PlanRules where
  reuseProxy : LiveState → LocalProxyProfile → Except LiveError (Option ProxyState)
  reusePolicy : LiveState → LocalProxyProfile → String → Except LiveError (Option PolicyState)
  proxyApplied : BindingPlan → LocalProxyProfile → ProxyState → Bool
  policyApplied : BindingPlan → LocalProxyProfile → PolicyState → Bool

/-- `profiles[slot]` of the dictionary keyed by slot. -/
def profileBySlot (manifest : LocalEndpointManifest) (slot : Nat) :
    Except LiveError LocalProxyProfile :=
  match Keyed.lookup (·.slot) slot manifest.profiles with
  | some profile => .ok profile
  | none => .error .keyError

/-- `next(item.policy_id for item in bindings if item.slot == slot)`. -/
def targetPolicy (bindings : List BindingPlan) (slot : Nat) : Except LiveError String :=
  match Keyed.lookup (·.slot) slot bindings with
  | some binding => .ok binding.policyId
  | none => .error .keyError

def normalizeSelectedMac : Option String → Except LiveError (Option String)
  | none => .ok none
  | some deviceMac =>
      match normalizeTrustedDeviceMac deviceMac with
      | .ok normalized => .ok (some normalized)
      | .error _ => .error (liveAdapterError "Selected device MAC is invalid or unsafe.")

/-- The object an action names: an existing one, or the next free id. -/
def chooseObject (existing : Option String) (reserved : List String) (prefixText : String)
    (maximum : Nat) : Except LiveError (String × ObjectAction) :=
  match existing with
  | some objectId => .ok (objectId, .reuse)
  | none => do
      let objectId ← nextFree reserved prefixText maximum
      pure (objectId, .create)

def planBinding (rules : PlanRules) (state : LiveState)
    (reservedProxyIds reservedPolicyIds : List String) (profile : LocalProxyProfile) :
    Except LiveError BindingPlan := do
  let existingProxy ← rules.reuseProxy state profile
  let (proxyId, proxyAction) ←
    chooseObject (existingProxy.map (·.objectId)) reservedProxyIds "Proxy" maxProxyIndex
  let existingPolicy ← rules.reusePolicy state profile proxyId
  let (policyId, policyAction) ←
    chooseObject (existingPolicy.map (·.objectId)) reservedPolicyIds "Policy" maxPolicyIndex
  pure {
    slot := profile.slot
    port := profile.port
    proxyId, policyId, proxyAction, policyAction }

/-- The loop over the profiles. A created id is reserved for the rounds that
follow. -/
def planBindings (rules : PlanRules) (state : LiveState) :
    List String → List String → List LocalProxyProfile → Except LiveError (List BindingPlan)
  | _, _, [] => pure []
  | reservedProxyIds, reservedPolicyIds, profile :: rest => do
      let binding ← planBinding rules state reservedProxyIds reservedPolicyIds profile
      let more ← planBindings rules state
        (if binding.proxyAction = .create then binding.proxyId :: reservedProxyIds
          else reservedProxyIds)
        (if binding.policyAction = .create then binding.policyId :: reservedPolicyIds
          else reservedPolicyIds)
        rest
      pure (binding :: more)

def planAssignment (bindings : List BindingPlan) (state : LiveState) (mac : Option String)
    (profileSlot : Option Nat) (allowMove : Bool) : Except LiveError AssignmentAction :=
  match mac, profileSlot with
  | some mac, some slot => do
      let target ← targetPolicy bindings slot
      match state.assignmentOf mac with
      | some current =>
          if current = target then pure .reuse
          else if allowMove then pure .move
          else throw (liveAdapterError ("Selected device already has another policy; " ++
            "explicit move authorization is required."))
      | none => pure .assign
  | _, _ => pure .none

def PlanRules.buildLivePlan (rules : PlanRules) (manifest : LocalEndpointManifest)
    (state : LiveState) (deviceMac : Option String) (profileSlot : Option Nat)
    (allowMove : Bool) : Except LiveError LivePlan := do
  raiseIf (deviceMac.isNone ≠ profileSlot.isNone)
    (liveAdapterError "Device assignment requires both a MAC and a profile slot.")
  let mac ← normalizeSelectedMac deviceMac
  raiseIf (deviceMac.isSome ∧ profileSlot ∉ manifest.profiles.map (fun item => some item.slot))
    (liveAdapterError "Selected profile slot is not present in the endpoint manifest.")
  let bindings ← planBindings rules state (state.proxies.map (·.objectId))
    (state.policies.map (·.objectId)) manifest.profiles
  let assignmentAction ← planAssignment bindings state mac profileSlot allowMove
  pure {
    bindings
    selectedDevicePresent := mac.isSome
    selectedSlot := profileSlot
    assignmentAction }

def PlanRules.verifyBindingApplied (rules : PlanRules) (manifest : LocalEndpointManifest)
    (state : LiveState) (binding : BindingPlan) : Except LiveError Unit := do
  let profile ← profileBySlot manifest binding.slot
  raiseIf (¬ (Keyed.lookup (·.objectId) binding.proxyId state.proxies).any
      (rules.proxyApplied binding profile))
    (liveAdapterError "Post-apply proxy verification failed.")
  raiseIf (¬ (Keyed.lookup (·.objectId) binding.policyId state.policies).any
      (rules.policyApplied binding profile))
    (liveAdapterError "Post-apply policy verification failed.")

def PlanRules.verifyPlanApplied (rules : PlanRules) (manifest : LocalEndpointManifest)
    (plan : LivePlan) (state : LiveState) (deviceMac : Option String) :
    Except LiveError Unit := do
  checkEach (rules.verifyBindingApplied manifest state) plan.bindings
  match deviceMac, plan.selectedSlot with
  | some deviceMac, some slot => do
      let mac ← (normalizeTrustedDeviceMac deviceMac).mapError LiveError.deviceDiscovery
      let target ← targetPolicy plan.bindings slot
      raiseIf (state.assignmentOf mac ≠ some target)
        (liveAdapterError "Post-apply device assignment verification failed.")
  | _, _ => pure ()

/-- `_unique_by_description`. -/
def uniqueByDescription {α : Type} (describe : α → String) (items : List α)
    (description : String) : Except LiveError (Option α) :=
  onlyMatch (fun item => describe item = description)
    (liveAdapterError "Duplicate RouterKit-owned native object descriptions were found.") items

namespace Live

def proxyExact (proxy : ProxyState) (profile : LocalProxyProfile) : Bool :=
  proxy.description = connectionName profile && proxy.protocol = "socks5" &&
    proxy.host = profile.host && proxy.port = profile.port &&
    proxy.enabled = profile.enabled && !proxy.authenticationConfigured

def policyExact (policy : PolicyState) (profile : LocalProxyProfile) (proxyId : String) : Bool :=
  policy.description = policyName profile && policy.globalInterfaces = [proxyId]

/-- The adapter reuses an object that carries the code-owned name. -/
def rules : PlanRules where
  reuseProxy state profile := do
    let existing ← uniqueByDescription (·.description) state.proxies (connectionName profile)
    raiseIf (existing.any (fun proxy => !proxyExact proxy profile))
      (liveAdapterError "A RouterKit proxy name exists with conflicting semantics.")
    pure existing
  reusePolicy state profile proxyId := do
    let existing ← uniqueByDescription (·.description) state.policies (policyName profile)
    raiseIf (existing.any (fun policy => !policyExact policy profile proxyId))
      (liveAdapterError "A RouterKit policy name exists with conflicting semantics.")
    pure existing
  proxyApplied _ profile proxy := proxyExact proxy profile
  policyApplied binding profile policy := policyExact policy profile binding.proxyId

def buildLivePlan := rules.buildLivePlan
def verifyPlanApplied := rules.verifyPlanApplied

end Live

namespace LiveCompat

def proxySemanticExact (proxy : ProxyState) (profile : LocalProxyProfile) : Bool :=
  proxy.protocol = "socks5" && proxy.host = profile.host && proxy.port = profile.port &&
    proxy.enabled = profile.enabled && !proxy.authenticationConfigured

def proxyOwnedExact (proxy : ProxyState) (profile : LocalProxyProfile) : Bool :=
  proxy.description = connectionName profile && proxySemanticExact proxy profile

def policySemanticExact (policy : PolicyState) (proxyId : String) : Bool :=
  policy.globalInterfaces = [proxyId]

def policyOwnedExact (policy : PolicyState) (profile : LocalProxyProfile) (proxyId : String) :
    Bool :=
  policy.description = policyName profile && policySemanticExact policy proxyId

def oneSemanticMatch {α : Type} (items : List α) (predicate : α → Bool) (kind : String) :
    Except LiveError (Option α) :=
  onlyMatch predicate (liveAdapterError
    ("Multiple semantically equivalent native " ++ kind ++ " objects are ambiguous.")) items

/-- The compatibility layer reuses an object with the wanted semantics whatever
its name, once the code-owned name is known not to stand for another one. -/
def rules : PlanRules where
  reuseProxy state profile := do
    let owned ← uniqueByDescription (·.description) state.proxies (connectionName profile)
    raiseIf (owned.any (fun proxy => !proxySemanticExact proxy profile))
      (liveAdapterError "A RouterKit proxy name exists with conflicting semantics.")
    oneSemanticMatch state.proxies (fun item => proxySemanticExact item profile) "proxy"
  reusePolicy state profile proxyId := do
    let owned ← uniqueByDescription (·.description) state.policies (policyName profile)
    raiseIf (owned.any (fun policy => !policySemanticExact policy proxyId))
      (liveAdapterError "A RouterKit policy name exists with conflicting semantics.")
    oneSemanticMatch state.policies (fun item => policySemanticExact item proxyId) "policy"
  proxyApplied binding profile proxy :=
    match binding.proxyAction with
    | .create => proxyOwnedExact proxy profile
    | .reuse => proxySemanticExact proxy profile
  policyApplied binding profile policy :=
    match binding.policyAction with
    | .create => policyOwnedExact policy profile binding.proxyId
    | .reuse => policySemanticExact policy binding.proxyId

def buildLivePlan := rules.buildLivePlan
def verifyPlanApplied := rules.verifyPlanApplied

end LiveCompat

def proxyCreateCommands (binding : BindingPlan) (profile : LocalProxyProfile) :
    List NdmCommand :=
  [.interfaceDescription binding.proxyId (connectionName profile),
    .interfaceSecurityLevelPublic binding.proxyId,
    .interfaceProxyProtocol binding.proxyId "socks5",
    .interfaceProxyUpstream binding.proxyId profile.host profile.port,
    .interfaceUp binding.proxyId]

def policyCreateCommands (binding : BindingPlan) (profile : LocalProxyProfile) :
    List NdmCommand :=
  [.policyDescription binding.policyId (policyName profile),
    .policyPermitGlobal binding.policyId binding.proxyId]

def creatingProxies (bindings : List BindingPlan) : List BindingPlan :=
  bindings.filter (·.proxyAction = .create)

def creatingPolicies (bindings : List BindingPlan) : List BindingPlan :=
  bindings.filter (·.policyAction = .create)

/-- A binding either names an object the rules found or a new id of its kind. -/
structure PlannedBinding (rules : PlanRules) (state : LiveState) (profile : LocalProxyProfile)
    (binding : BindingPlan) : Prop where
  slot : binding.slot = profile.slot
  port : binding.port = profile.port
  proxy :
    (binding.proxyAction = .reuse ∧ ∃ proxy, rules.reuseProxy state profile = .ok (some proxy) ∧
      proxy.objectId = binding.proxyId) ∨
    (binding.proxyAction = .create ∧ rules.reuseProxy state profile = .ok none ∧
      ∃ number, numericId binding.proxyId "Proxy" maxProxyIndex = .ok number)
  policy :
    (binding.policyAction = .reuse ∧ ∃ policy,
      rules.reusePolicy state profile binding.proxyId = .ok (some policy) ∧
        policy.objectId = binding.policyId) ∨
    (binding.policyAction = .create ∧
      rules.reusePolicy state profile binding.proxyId = .ok none ∧
        ∃ number, numericId binding.policyId "Policy" maxPolicyIndex = .ok number)

/-- What planning the profiles leaves true of all bindings together. -/
structure PlannedBindings (rules : PlanRules) (state : LiveState)
    (reservedProxyIds reservedPolicyIds : List String) (profiles : List LocalProxyProfile)
    (bindings : List BindingPlan) : Prop where
  each : List.Forall₂ (PlannedBinding rules state) profiles bindings
  proxies_fresh : ∀ binding ∈ creatingProxies bindings, binding.proxyId ∉ reservedProxyIds
  proxies_nodup : ((creatingProxies bindings).map (·.proxyId)).Nodup
  policies_fresh : ∀ binding ∈ creatingPolicies bindings, binding.policyId ∉ reservedPolicyIds
  policies_nodup : ((creatingPolicies bindings).map (·.policyId)).Nodup

private theorem chooseObject_eq_ok {existing : Option String} {reserved : List String}
    {prefixText : String} {maximum : Nat} {chosen : String × ObjectAction} :
    chooseObject existing reserved prefixText maximum = .ok chosen ↔
      (∃ objectId, existing = some objectId ∧ chosen = (objectId, .reuse)) ∨
        (existing = none ∧ nextFree reserved prefixText maximum = .ok chosen.1 ∧
          chosen.2 = .create) := by
  obtain ⟨objectId, action⟩ := chosen
  cases existing with
  | some found => simp [chooseObject, eq_comm]
  | none =>
      simp only [chooseObject, bind_eq_ok, pure_eq_ok, reduceCtorEq, false_and, exists_false,
        false_or, true_and, Prod.mk.injEq]
      constructor
      · rintro ⟨fresh, hfresh, rfl, rfl⟩
        exact ⟨hfresh, rfl⟩
      · rintro ⟨hfresh, rfl⟩
        exact ⟨_, hfresh, rfl, rfl⟩

theorem planBinding_eq_ok {rules : PlanRules} {state : LiveState}
    {reservedProxyIds reservedPolicyIds : List String} {profile : LocalProxyProfile}
    {binding : BindingPlan}
    (h : planBinding rules state reservedProxyIds reservedPolicyIds profile = .ok binding) :
    PlannedBinding rules state profile binding ∧
      (binding.proxyAction = .create → binding.proxyId ∉ reservedProxyIds) ∧
      (binding.policyAction = .create → binding.policyId ∉ reservedPolicyIds) := by
  obtain ⟨existingProxy, hproxy, h⟩ := bind_eq_ok.mp h
  obtain ⟨⟨proxyId, proxyAction⟩, hproxyId, h⟩ := bind_eq_ok.mp h
  obtain ⟨existingPolicy, hpolicy, h⟩ := bind_eq_ok.mp h
  obtain ⟨⟨policyId, policyAction⟩, hpolicyId, h⟩ := bind_eq_ok.mp h
  obtain rfl := pure_eq_ok.mp h
  rw [chooseObject_eq_ok] at hproxyId hpolicyId
  have hproxySide : (proxyAction = .reuse ∧ ∃ proxy,
      rules.reuseProxy state profile = .ok (some proxy) ∧ proxy.objectId = proxyId) ∨
      (proxyAction = .create ∧ rules.reuseProxy state profile = .ok none ∧
        nextFree reservedProxyIds "Proxy" maxProxyIndex = .ok proxyId) := by
    rcases hproxyId with ⟨objectId, hfound, hchosen⟩ | ⟨hnone, hfree, rfl⟩
    · obtain ⟨proxy, rfl, rfl⟩ := Option.map_eq_some_iff.mp hfound
      cases hchosen
      exact .inl ⟨rfl, proxy, hproxy, rfl⟩
    · cases Option.map_eq_none_iff.mp hnone
      exact .inr ⟨rfl, hproxy, hfree⟩
  have hpolicySide : (policyAction = .reuse ∧ ∃ policy,
      rules.reusePolicy state profile proxyId = .ok (some policy) ∧
        policy.objectId = policyId) ∨
      (policyAction = .create ∧ rules.reusePolicy state profile proxyId = .ok none ∧
        nextFree reservedPolicyIds "Policy" maxPolicyIndex = .ok policyId) := by
    rcases hpolicyId with ⟨objectId, hfound, hchosen⟩ | ⟨hnone, hfree, rfl⟩
    · obtain ⟨policy, rfl, rfl⟩ := Option.map_eq_some_iff.mp hfound
      cases hchosen
      exact .inl ⟨rfl, policy, hpolicy, rfl⟩
    · cases Option.map_eq_none_iff.mp hnone
      exact .inr ⟨rfl, hpolicy, hfree⟩
  refine ⟨⟨rfl, rfl, ?_, ?_⟩, ?_, ?_⟩
  · exact hproxySide.imp id (fun ⟨haction, hnone, hfree⟩ =>
      ⟨haction, hnone, (nextFree_proxy hfree).2⟩)
  · exact hpolicySide.imp id (fun ⟨haction, hnone, hfree⟩ =>
      ⟨haction, hnone, (nextFree_policy hfree).2⟩)
  · rintro rfl
    rcases hproxySide with ⟨hreuse, -⟩ | ⟨-, -, hfree⟩
    · exact absurd hreuse (by decide)
    · exact (nextFree_proxy hfree).1
  · rintro rfl
    rcases hpolicySide with ⟨hreuse, -⟩ | ⟨-, -, hfree⟩
    · exact absurd hreuse (by decide)
    · exact (nextFree_policy hfree).1

/-- A created proxy's id is the next free one. -/
theorem planBinding_created {rules : PlanRules} {state : LiveState}
    {reservedProxyIds reservedPolicyIds : List String} {profile : LocalProxyProfile}
    {binding : BindingPlan}
    (h : planBinding rules state reservedProxyIds reservedPolicyIds profile = .ok binding)
    (hcreate : binding.proxyAction = .create) :
    nextFree reservedProxyIds "Proxy" maxProxyIndex = .ok binding.proxyId := by
  obtain ⟨existingProxy, hproxy, h⟩ := bind_eq_ok.mp h
  obtain ⟨⟨proxyId, proxyAction⟩, hproxyId, h⟩ := bind_eq_ok.mp h
  obtain ⟨existingPolicy, hpolicy, h⟩ := bind_eq_ok.mp h
  obtain ⟨⟨policyId, policyAction⟩, hpolicyId, h⟩ := bind_eq_ok.mp h
  obtain rfl := pure_eq_ok.mp h
  rcases chooseObject_eq_ok.mp hproxyId with ⟨objectId, -, hchosen⟩ | ⟨-, hfree, -⟩
  · cases hchosen
    cases hcreate
  · exact hfree

/-- Reserving the id a binding creates keeps what the later ones create apart
from it. -/
private theorem creating_cons {action : BindingPlan → ObjectAction}
    {objectId : BindingPlan → String} {binding : BindingPlan} {rest : List BindingPlan}
    {reserved : List String} (hbinding : action binding = .create → objectId binding ∉ reserved)
    (hrest : ∀ other ∈ rest.filter (action · = .create), objectId other ∉
      if action binding = .create then objectId binding :: reserved else reserved)
    (hnodup : ((rest.filter (action · = .create)).map objectId).Nodup) :
    (∀ other ∈ (binding :: rest).filter (action · = .create), objectId other ∉ reserved) ∧
      (((binding :: rest).filter (action · = .create)).map objectId).Nodup := by
  by_cases hcreate : action binding = .create
  · simp only [if_pos hcreate, List.mem_cons, not_or] at hrest
    rw [List.filter_cons_of_pos (by simpa using hcreate), List.map_cons, List.nodup_cons]
    refine ⟨?_, fun hmem => ?_, hnodup⟩
    · intro other hother
      rcases List.mem_cons.mp hother with rfl | hmem
      · exact hbinding hcreate
      · exact (hrest other hmem).2
    · obtain ⟨other, hother, heq⟩ := List.mem_map.mp hmem
      exact (hrest other hother).1 heq
  · rw [if_neg hcreate] at hrest
    rw [List.filter_cons_of_neg (by simpa using hcreate)]
    exact ⟨hrest, hnodup⟩

/-- The created ids are new and pairwise different: each round reserves the ids
it hands out before the next one. -/
theorem planBindings_eq_ok {rules : PlanRules} {state : LiveState}
    {reservedProxyIds reservedPolicyIds : List String} {profiles : List LocalProxyProfile}
    {bindings : List BindingPlan}
    (h : planBindings rules state reservedProxyIds reservedPolicyIds profiles = .ok bindings) :
    PlannedBindings rules state reservedProxyIds reservedPolicyIds profiles bindings := by
  induction profiles generalizing reservedProxyIds reservedPolicyIds bindings with
  | nil =>
      obtain rfl := pure_eq_ok.mp h
      exact ⟨.nil, by simp [creatingProxies], by simp [creatingProxies],
        by simp [creatingPolicies], by simp [creatingPolicies]⟩
  | cons profile rest ih =>
      simp only [planBindings, bind_eq_ok, pure_eq_ok] at h
      obtain ⟨binding, hbinding, more, hmore, rfl⟩ := h
      obtain ⟨hplanned, hproxyFresh, hpolicyFresh⟩ := planBinding_eq_ok hbinding
      have hrest := ih hmore
      have hproxies := creating_cons hproxyFresh hrest.proxies_fresh hrest.proxies_nodup
      have hpolicies := creating_cons hpolicyFresh hrest.policies_fresh hrest.policies_nodup
      exact ⟨.cons hplanned hrest.each, hproxies.1, hproxies.2, hpolicies.1, hpolicies.2⟩

/-- The bindings of a plan beside the profiles they are for. -/
structure ResolvedBindings (rules : PlanRules) (manifest : LocalEndpointManifest)
    (state : LiveState) (bindings : List BindingPlan)
    (profileOf : BindingPlan → LocalProxyProfile) : Prop where
  covers : bindings.map profileOf = manifest.profiles
  planned : ∀ binding ∈ bindings, PlannedBinding rules state (profileOf binding) binding
  found : ∀ binding ∈ bindings, profileBySlot manifest binding.slot = .ok (profileOf binding)

theorem profileBySlot_of_mem {manifest : LocalEndpointManifest} (valid : manifest.Valid)
    {profile : LocalProxyProfile} (h : profile ∈ manifest.profiles) :
    profileBySlot manifest profile.slot = .ok profile := by
  rw [profileBySlot, Keyed.lookup_of_mem (·.slot) valid.slots_nodup h]

private theorem forall₂_profileOf {rules : PlanRules} {manifest : LocalEndpointManifest}
    {state : LiveState} (profileOf : BindingPlan → LocalProxyProfile) (valid : manifest.Valid)
    {profiles : List LocalProxyProfile} {bindings : List BindingPlan}
    (hprofiles : ∀ profile ∈ profiles, profile ∈ manifest.profiles)
    (h : List.Forall₂ (PlannedBinding rules state) profiles bindings)
    (hprofileOf : ∀ binding profile, profileBySlot manifest binding.slot = .ok profile →
      profileOf binding = profile) :
    bindings.map profileOf = profiles ∧
      ∀ binding ∈ bindings, PlannedBinding rules state (profileOf binding) binding ∧
        profileBySlot manifest binding.slot = .ok (profileOf binding) := by
  induction h with
  | nil => simp
  | @cons profile binding rest more hplanned _ ih =>
      obtain ⟨hmap, hall⟩ := ih (fun p hp => hprofiles p (List.mem_cons_of_mem _ hp))
      have hfound : profileBySlot manifest binding.slot = .ok profile := by
        rw [hplanned.slot]
        exact profileBySlot_of_mem valid (hprofiles profile List.mem_cons_self)
      have heq := hprofileOf binding profile hfound
      refine ⟨by rw [List.map_cons, heq, hmap], ?_⟩
      intro other hother
      rcases List.mem_cons.mp hother with rfl | hmem
      · exact heq ▸ ⟨hplanned, hfound⟩
      · exact hall other hmem

/-- Over a valid manifest a planned binding finds its own profile by its slot. -/
theorem resolvedBindings_of_planned {rules : PlanRules} {manifest : LocalEndpointManifest}
    {state : LiveState} (valid : manifest.Valid) {bindings : List BindingPlan}
    (h : List.Forall₂ (PlannedBinding rules state) manifest.profiles bindings) :
    ∃ profileOf, ResolvedBindings rules manifest state bindings profileOf := by
  obtain ⟨fallback, hfallback⟩ := List.exists_mem_of_length_pos valid.nonempty
  let profileOf (binding : BindingPlan) : LocalProxyProfile :=
    (profileBySlot manifest binding.slot).toOption.getD fallback
  have hresolved := forall₂_profileOf profileOf valid (fun _ hp => hp) h
    (fun binding profile hfound => by simp [profileOf, hfound, Except.toOption])
  exact ⟨profileOf, hresolved.1, fun b hb => (hresolved.2 b hb).1,
    fun b hb => (hresolved.2 b hb).2⟩

namespace ResolvedBindings

variable {rules : PlanRules} {manifest : LocalEndpointManifest} {state : LiveState}
  {bindings : List BindingPlan} {profileOf : BindingPlan → LocalProxyProfile}
  (resolved : ResolvedBindings rules manifest state bindings profileOf)
include resolved

theorem profile_mem {binding : BindingPlan} (h : binding ∈ bindings) :
    profileOf binding ∈ manifest.profiles :=
  resolved.covers ▸ List.mem_map_of_mem h

theorem exists_binding {profile : LocalProxyProfile} (h : profile ∈ manifest.profiles) :
    ∃ binding ∈ bindings, profileOf binding = profile :=
  List.mem_map.mp (resolved.covers ▸ h)

theorem slots : bindings.map (·.slot) = manifest.profiles.map (·.slot) := by
  rw [← resolved.covers, List.map_map]
  exact List.map_congr_left (fun binding h => (resolved.planned binding h).slot)

/-- Two bindings of one profile are the same binding. -/
theorem binding_inj (valid : manifest.Valid) {left right : BindingPlan} (hleft : left ∈ bindings)
    (hright : right ∈ bindings) (h : (profileOf left).port = (profileOf right).port) :
    left = right := by
  have hprofile := valid.port_inj (resolved.profile_mem hleft) (resolved.profile_mem hright) h
  have hnodup : (bindings.map (·.slot)).Nodup := resolved.slots ▸ valid.slots_nodup
  apply List.inj_on_of_nodup_map hnodup hleft hright
  rw [(resolved.planned left hleft).slot, (resolved.planned right hright).slot, hprofile]

theorem targetPolicy_of_mem (valid : manifest.Valid) {binding : BindingPlan}
    (h : binding ∈ bindings) : targetPolicy bindings binding.slot = .ok binding.policyId := by
  have hnodup : (bindings.map (·.slot)).Nodup := resolved.slots ▸ valid.slots_nodup
  rw [targetPolicy, Keyed.lookup_of_mem (·.slot) hnodup h]

theorem exists_binding_of_slot {slot : Nat} (h : slot ∈ manifest.profiles.map (·.slot)) :
    ∃ binding ∈ bindings, binding.slot = slot :=
  List.mem_map.mp (resolved.slots ▸ h)

end ResolvedBindings

/-- What planning the assignment finds out. -/
inductive PlannedAssignment (bindings : List BindingPlan) (state : LiveState)
    (allowMove : Bool) : Option String → Option Nat → AssignmentAction → Prop where
  | none {mac profileSlot} (h : mac.isNone = true ∨ profileSlot.isNone = true) :
      PlannedAssignment bindings state allowMove mac profileSlot .none
  | reuse {mac slot target} (htarget : targetPolicy bindings slot = .ok target)
      (hcurrent : state.assignmentOf mac = some target) :
      PlannedAssignment bindings state allowMove (some mac) (some slot) .reuse
  | assign {mac slot target} (htarget : targetPolicy bindings slot = .ok target)
      (hcurrent : state.assignmentOf mac = .none) :
      PlannedAssignment bindings state allowMove (some mac) (some slot) .assign
  | move {mac slot target current} (htarget : targetPolicy bindings slot = .ok target)
      (hcurrent : state.assignmentOf mac = some current) (hne : current ≠ target)
      (hallow : allowMove = true) :
      PlannedAssignment bindings state allowMove (some mac) (some slot) .move

theorem planAssignment_eq_ok {bindings : List BindingPlan} {state : LiveState}
    {mac : Option String} {profileSlot : Option Nat} {allowMove : Bool}
    {action : AssignmentAction} :
    planAssignment bindings state mac profileSlot allowMove = .ok action ↔
      PlannedAssignment bindings state allowMove mac profileSlot action := by
  constructor
  · intro h
    unfold planAssignment at h
    split at h
    · next mac slot =>
      obtain ⟨target, htarget, h⟩ := bind_eq_ok.mp h
      split at h
      · next current hcurrent =>
        split at h
        · next heq => exact pure_eq_ok.mp h ▸ .reuse htarget (heq ▸ hcurrent)
        · next hne =>
          split at h
          · next hallow => exact pure_eq_ok.mp h ▸ .move htarget hcurrent hne hallow
          · exact absurd h throw_ne_ok
      · next hcurrent => exact pure_eq_ok.mp h ▸ .assign htarget hcurrent
    · next hmissing =>
      refine pure_eq_ok.mp h ▸ .none ?_
      cases mac with
      | none => exact .inl rfl
      | some mac =>
          cases profileSlot with
          | none => exact .inr rfl
          | some slot => exact absurd rfl (hmissing mac slot rfl)
  · intro h
    cases h with
    | none h => rcases h with h | h <;> simp_all [planAssignment, pure, Except.pure]
    | reuse htarget hcurrent => simp [planAssignment, htarget, hcurrent, pure, Except.pure]
    | assign htarget hcurrent => simp [planAssignment, htarget, hcurrent, pure, Except.pure]
    | move htarget hcurrent hne hallow =>
        simp [planAssignment, htarget, hcurrent, hne, hallow, pure, Except.pure]

theorem PlanRules.buildLivePlan_eq_ok {rules : PlanRules} {manifest : LocalEndpointManifest}
    {state : LiveState} {deviceMac : Option String} {profileSlot : Option Nat}
    {allowMove : Bool} {plan : LivePlan} :
    rules.buildLivePlan manifest state deviceMac profileSlot allowMove = .ok plan ↔
      deviceMac.isNone = profileSlot.isNone ∧
      ∃ mac, normalizeSelectedMac deviceMac = .ok mac ∧
        (deviceMac.isSome → profileSlot ∈ manifest.profiles.map (fun item => some item.slot)) ∧
        ∃ bindings, planBindings rules state (state.proxies.map (·.objectId))
          (state.policies.map (·.objectId)) manifest.profiles = .ok bindings ∧
        ∃ action, planAssignment bindings state mac profileSlot allowMove = .ok action ∧
          plan = {
            bindings
            selectedDevicePresent := mac.isSome
            selectedSlot := profileSlot
            assignmentAction := action } := by
  simp only [PlanRules.buildLivePlan, bind_eq_ok, raiseIf_eq_ok, exists_unit, pure_eq_ok,
    not_not, not_and, ne_eq, eq_comm (b := plan)]

/-- A plan over a valid manifest, beside the profiles of its bindings. -/
structure Planned (rules : PlanRules) (manifest : LocalEndpointManifest) (state : LiveState)
    (mac : Option String) (profileSlot : Option Nat) (allowMove : Bool) (plan : LivePlan)
    (profileOf : BindingPlan → LocalProxyProfile) : Prop where
  valid : manifest.Valid
  resolved : ResolvedBindings rules manifest state plan.bindings profileOf
  proxies_fresh : ∀ binding ∈ creatingProxies plan.bindings,
    binding.proxyId ∉ state.proxies.map (·.objectId)
  proxies_nodup : ((creatingProxies plan.bindings).map (·.proxyId)).Nodup
  policies_fresh : ∀ binding ∈ creatingPolicies plan.bindings,
    binding.policyId ∉ state.policies.map (·.objectId)
  policies_nodup : ((creatingPolicies plan.bindings).map (·.policyId)).Nodup
  assignment : PlannedAssignment plan.bindings state allowMove mac profileSlot
    plan.assignmentAction
  selectedSlot : plan.selectedSlot = profileSlot
  selectedDevicePresent : plan.selectedDevicePresent = mac.isSome
  paired : mac.isNone = profileSlot.isNone
  listed : ∀ slot, profileSlot = some slot → slot ∈ manifest.profiles.map (·.slot)
  constants : plan.defaultPolicyTargeted = false ∧ plan.schema = liveSchema

theorem normalizeSelectedMac_isNone {deviceMac mac : Option String}
    (h : normalizeSelectedMac deviceMac = .ok mac) : mac.isNone = deviceMac.isNone := by
  cases deviceMac with
  | none => cases h; rfl
  | some deviceMac =>
      simp only [normalizeSelectedMac] at h
      split at h <;> cases h
      rfl

theorem normalizeSelectedMac_some {deviceMac : Option String} {mac : String}
    (h : normalizeSelectedMac deviceMac = .ok (some mac)) :
    normalizeTrustedDeviceMac mac = .ok mac := by
  cases deviceMac with
  | none => cases h
  | some deviceMac =>
      simp only [normalizeSelectedMac] at h
      split at h <;> cases h
      next hnormalized => exact normalizeTrustedDeviceMac_idem hnormalized

theorem normalizeSelectedMac_idem {deviceMac mac : Option String}
    (h : normalizeSelectedMac deviceMac = .ok mac) : normalizeSelectedMac mac = .ok mac := by
  cases mac with
  | none => rfl
  | some mac => simp [normalizeSelectedMac, normalizeSelectedMac_some h]

theorem PlanRules.buildLivePlan_planned {rules : PlanRules} {manifest : LocalEndpointManifest}
    {state : LiveState} {deviceMac : Option String} {profileSlot : Option Nat}
    {allowMove : Bool} {plan : LivePlan} (valid : manifest.Valid)
    (h : rules.buildLivePlan manifest state deviceMac profileSlot allowMove = .ok plan) :
    ∃ mac profileOf, normalizeSelectedMac deviceMac = .ok mac ∧
      Planned rules manifest state mac profileSlot allowMove plan profileOf := by
  obtain ⟨hpaired, mac, hmac, hlisted, bindings, hbindings, action, haction, rfl⟩ :=
    PlanRules.buildLivePlan_eq_ok.mp h
  have hplanned := planBindings_eq_ok hbindings
  obtain ⟨profileOf, hresolved⟩ := resolvedBindings_of_planned valid hplanned.each
  refine ⟨mac, profileOf, hmac, {
    valid
    resolved := hresolved
    proxies_fresh := hplanned.proxies_fresh
    proxies_nodup := hplanned.proxies_nodup
    policies_fresh := hplanned.policies_fresh
    policies_nodup := hplanned.policies_nodup
    assignment := planAssignment_eq_ok.mp haction
    selectedSlot := rfl
    selectedDevicePresent := rfl
    paired := (normalizeSelectedMac_isNone hmac).trans hpaired
    listed := ?_
    constants := ⟨rfl, rfl⟩ }⟩
  rintro slot rfl
  have hmem := hlisted (by simpa using hpaired)
  simpa using hmem

/-- A plan without creations: every profile finds its objects. -/
theorem planBindings_of_reuse {rules : PlanRules} {state : LiveState}
    {reservedProxyIds reservedPolicyIds : List String} {bindings : List BindingPlan}
    {profileOf : BindingPlan → LocalProxyProfile}
    (h : ∀ binding ∈ bindings, binding.slot = (profileOf binding).slot ∧
      binding.port = (profileOf binding).port ∧
      (∃ proxy, rules.reuseProxy state (profileOf binding) = .ok (some proxy) ∧
        proxy.objectId = binding.proxyId) ∧
      ∃ policy, rules.reusePolicy state (profileOf binding) binding.proxyId = .ok (some policy) ∧
        policy.objectId = binding.policyId) :
    planBindings rules state reservedProxyIds reservedPolicyIds (bindings.map profileOf) =
      .ok (bindings.map (fun binding =>
        { binding with proxyAction := .reuse, policyAction := .reuse })) := by
  induction bindings with
  | nil => rfl
  | cons binding rest ih =>
      obtain ⟨hslot, hport, ⟨proxy, hproxy, hproxyId⟩, policy, hpolicy, hpolicyId⟩ :=
        h binding List.mem_cons_self
      have hrest := ih (fun b hb => h b (List.mem_cons_of_mem _ hb))
      simp [planBindings, planBinding, chooseObject, hproxy, hproxyId, hpolicy, hpolicyId, hrest,
        hslot, hport, pure, Except.pure]

private theorem ownedThenWanted_eq_none {α : Type} {owned wanted : α → Bool}
    {ownedError conflict wantedError : LiveError} {items : List α} :
    (do let found ← onlyMatch owned ownedError items
        raiseIf (found.any (fun item => !wanted item)) conflict
        onlyMatch wanted wantedError items) = Except.ok none ↔
      ∀ item ∈ items, owned item = false ∧ wanted item = false := by
  simp only [bind_eq_ok, raiseIf_eq_ok, exists_unit, onlyMatch_eq_none]
  constructor
  · rintro ⟨found, hfound, hconflict, hnone⟩ item hitem
    cases found with
    | none => exact ⟨onlyMatch_eq_none.mp hfound item hitem, hnone item hitem⟩
    | some other =>
        have hother := (onlyMatch_some_mem hfound).1
        simp [hnone other hother] at hconflict
  · intro h
    exact ⟨none, onlyMatch_eq_none.mpr (fun item hitem => (h item hitem).1), by simp,
      fun item hitem => (h item hitem).2⟩

private theorem ownedThenWanted_eq_some {α : Type} {owned wanted : α → Bool}
    {ownedError conflict wantedError : LiveError} {items : List α} (hnodup : items.Nodup)
    {chosen : α} :
    (do let found ← onlyMatch owned ownedError items
        raiseIf (found.any (fun item => !wanted item)) conflict
        onlyMatch wanted wantedError items) = Except.ok (some chosen) ↔
      chosen ∈ items ∧ wanted chosen = true ∧
        ∀ item ∈ items, owned item = true ∨ wanted item = true → item = chosen := by
  simp only [bind_eq_ok, raiseIf_eq_ok, exists_unit, onlyMatch_eq_some hnodup]
  constructor
  · rintro ⟨found, hfound, hconflict, hmem, hwanted, honly⟩
    refine ⟨hmem, hwanted, fun item hitem hor => ?_⟩
    rcases hor with howned | hitemWanted
    · cases found with
      | none =>
          have hnot := onlyMatch_eq_none.mp hfound item hitem
          simp [howned] at hnot
      | some other =>
          obtain ⟨hother, -, hall⟩ := (onlyMatch_eq_some hnodup).mp hfound
          have hotherWanted : wanted other = true := by simpa using hconflict
          rw [hall item hitem howned]
          exact honly other hother hotherWanted
    · exact honly item hitem hitemWanted
  · rintro ⟨hmem, hwanted, hall⟩
    by_cases howned : owned chosen = true
    · exact ⟨some chosen, (onlyMatch_eq_some hnodup).mpr
        ⟨hmem, howned, fun item hitem h => hall item hitem (.inl h)⟩, by simp [hwanted], hmem,
        hwanted, fun item hitem h => hall item hitem (.inr h)⟩
    · refine ⟨none, onlyMatch_eq_none.mpr (fun item hitem => ?_), by simp, hmem, hwanted,
        fun item hitem h => hall item hitem (.inr h)⟩
      by_contra hitemOwned
      have heq := hall item hitem (.inl (by simpa using hitemOwned))
      exact howned (heq ▸ by simpa using hitemOwned)

namespace LiveCompat

variable {state : LiveState} {profile : LocalProxyProfile}

theorem reuseProxy_eq_none :
    rules.reuseProxy state profile = .ok none ↔
      ∀ proxy ∈ state.proxies, proxy.description ≠ connectionName profile ∧
        proxySemanticExact proxy profile = false := by
  simp only [rules, uniqueByDescription, oneSemanticMatch, ownedThenWanted_eq_none,
    decide_eq_false_iff_not, ne_eq]

theorem reuseProxy_eq_some {chosen : ProxyState} :
    rules.reuseProxy state profile = .ok (some chosen) ↔
      chosen ∈ state.proxies ∧ proxySemanticExact chosen profile = true ∧
        ∀ proxy ∈ state.proxies, proxy.description = connectionName profile ∨
          proxySemanticExact proxy profile = true → proxy = chosen := by
  have hnodup : state.proxies.Nodup := state.proxyIds_nodup.of_map
  simp only [rules, uniqueByDescription, oneSemanticMatch, ownedThenWanted_eq_some hnodup,
    decide_eq_true_eq]

theorem reusePolicy_eq_none {proxyId : String} :
    rules.reusePolicy state profile proxyId = .ok none ↔
      ∀ policy ∈ state.policies, policy.description ≠ policyName profile ∧
        policySemanticExact policy proxyId = false := by
  simp only [rules, uniqueByDescription, oneSemanticMatch, ownedThenWanted_eq_none,
    decide_eq_false_iff_not, ne_eq]

theorem reusePolicy_eq_some {proxyId : String} {chosen : PolicyState} :
    rules.reusePolicy state profile proxyId = .ok (some chosen) ↔
      chosen ∈ state.policies ∧ policySemanticExact chosen proxyId = true ∧
        ∀ policy ∈ state.policies, policy.description = policyName profile ∨
          policySemanticExact policy proxyId = true → policy = chosen := by
  have hnodup : state.policies.Nodup := state.policyIds_nodup.of_map
  simp only [rules, uniqueByDescription, oneSemanticMatch, ownedThenWanted_eq_some hnodup,
    decide_eq_true_eq]

end LiveCompat

def sampleProfile (enabled : Bool) : LocalProxyProfile :=
  { slot := 1, label := "primary", host := "127.0.0.1", port := 1082, enabled }

def sampleManifest (enabled : Bool) : LocalEndpointManifest :=
  { profiles := [sampleProfile enabled] }

def emptyState : LiveState where
  proxies := []
  policies := []
  assignments := []
  defaultGuard := []
  proxyIds_nodup := List.nodup_nil
  policyIds_nodup := List.nodup_nil
  deviceMacs_nodup := List.nodup_nil

def sampleMac : String := "02:aa:bb:0c:dd:ee"

def sampleBinding : BindingPlan where
  slot := 1
  port := 1082
  proxyId := "Proxy0"
  policyId := "Policy0"
  proxyAction := .create
  policyAction := .create

def samplePlan : LivePlan where
  bindings := [sampleBinding]
  selectedDevicePresent := true
  selectedSlot := some 1
  assignmentAction := .assign

theorem sampleManifest_valid (enabled : Bool) : (sampleManifest enabled).Valid where
  schema := rfl
  slots := rfl
  nonempty := by decide +revert
  atMost := by decide +revert
  ports_nodup := by decide +revert
  acceptable := by
    intro profile hprofile
    obtain rfl := List.mem_singleton.mp hprofile
    exact ⟨rfl, by decide +revert, by decide +revert, rfl, rfl⟩

theorem Live.samplePlan_ok (enabled : Bool) :
    Live.buildLivePlan (sampleManifest enabled) emptyState (some sampleMac) (some 1) false =
      .ok samplePlan := by
  cases enabled <;> rfl

theorem LiveCompat.samplePlan_ok (enabled : Bool) :
    LiveCompat.buildLivePlan (sampleManifest enabled) emptyState (some sampleMac) (some 1) false =
      .ok samplePlan := by
  cases enabled <;> rfl

end RouterKit.Netcraze
