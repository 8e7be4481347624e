import RouterKit.Netcraze.LivePlan

/-!
Policies that permit a proxy the router does not have. The planner takes the
lowest free number for a new proxy without looking at the permit lists, so such
a policy takes effect, or is even reused, as soon as the proxy is created.
-/

namespace RouterKit.Netcraze

open RouterKit.Lib RouterKit.Lib.Checked

/-- The numbers that none of the ids has, in ascending order. -/
def freeProxyNumbers (existing : List String) : List Nat :=
  (List.range (maxProxyIndex + 1)).filter
    (fun number => number ∉ existing.filterMap (nativeNumber "Proxy"))

def proxyIdOf (number : Nat) : String := "Proxy" ++ toString number

private theorem nativeNumber_proxyIdOf {number : Nat} (h : number ≤ maxProxyIndex) :
    nativeNumber "Proxy" (proxyIdOf number) = some number := by
  have hall : ∀ number < maxProxyIndex + 1,
      nativeNumber "Proxy" ("Proxy" ++ toString number) = some number := by decide
  exact hall number (Nat.lt_succ_iff.mpr h)

private theorem mem_usedNumbers {existing : List String} {used : List Nat}
    (h : usedNumbers "Proxy" maxProxyIndex existing = .ok used) {number : Nat} :
    number ∈ used ↔ number ∈ existing.filterMap (nativeNumber "Proxy") := by
  induction existing generalizing used with
  | nil =>
      obtain rfl := pure_eq_ok.mp h
      simp
  | cons value rest ih =>
      simp only [usedNumbers, bind_eq_ok, pure_eq_ok] at h
      obtain ⟨first, hfirst, more, hmore, rfl⟩ := h
      have hnumber : nativeNumber "Proxy" value = some first := (numericId_eq_ok.mp hfirst).1
      rw [List.mem_cons, ih hmore, List.filterMap_cons_some hnumber, List.mem_cons]

/-- A new proxy takes the first free number and leaves the others free. -/
theorem nextFree_freeProxyNumbers {existing : List String} {value : String}
    (h : nextFree existing "Proxy" maxProxyIndex = .ok value) :
    ∃ number, value = proxyIdOf number ∧
      freeProxyNumbers existing = number :: freeProxyNumbers (value :: existing) := by
  simp only [nextFree, bind_eq_ok] at h
  obtain ⟨used, hused, h⟩ := h
  split at h
  · next number hfind =>
    obtain rfl := pure_eq_ok.mp h
    refine ⟨number, rfl, ?_⟩
    have hle : number ≤ maxProxyIndex :=
      Nat.lt_succ_iff.mp (List.mem_range.mp (List.mem_of_find?_eq_some hfind))
    have hsame : (fun n => decide (n ∉ used)) =
        fun n => decide (n ∉ existing.filterMap (nativeNumber "Proxy")) := by
      funext n
      simp only [mem_usedNumbers hused]
    have hhead : (freeProxyNumbers existing).head? = some number := by
      rw [freeProxyNumbers, List.head?_filter, ← hsame]
      exact hfind
    obtain ⟨rest, hrest⟩ : ∃ rest, freeProxyNumbers existing = number :: rest := by
      cases hfree : freeProxyNumbers existing with
      | nil => simp [hfree] at hhead
      | cons first rest =>
          rw [hfree, List.head?_cons, Option.some.injEq] at hhead
          exact ⟨rest, by rw [hhead]⟩
    have hlater : freeProxyNumbers (("Proxy" ++ toString number) :: existing) =
        (freeProxyNumbers existing).filter (· ≠ number) := by
      simp only [freeProxyNumbers, List.filter_filter]
      apply List.filter_congr
      intro n _
      have hnative : nativeNumber "Proxy" ("Proxy" ++ toString number) = some number :=
        nativeNumber_proxyIdOf hle
      rw [List.filterMap_cons_some hnative]
      simp
    have hnodup : (freeProxyNumbers existing).Nodup := List.nodup_range.filter _
    rw [hrest, List.nodup_cons] at hnodup
    rw [hlater, hrest, List.filter_cons_of_neg (by simp), List.filter_eq_self.mpr]
    intro n hn
    have hne : n ≠ number := fun heq => hnodup.1 (heq ▸ hn)
    simpa using hne
  · simp at h

namespace LiveCompat

/-- The profiles no existing proxy serves. -/
def unserved (profiles : List LocalProxyProfile) (state : LiveState) : List LocalProxyProfile :=
  profiles.filter
    (fun profile => !state.proxies.any (fun proxy => proxySemanticExact proxy profile))

/-- A proxy is created for a profile exactly when no existing one serves it. -/
theorem create_iff_unserved {state : LiveState} {profile : LocalProxyProfile}
    {binding : BindingPlan} (h : PlannedBinding rules state profile binding) :
    binding.proxyAction = .create ↔
      state.proxies.any (fun proxy => proxySemanticExact proxy profile) = false := by
  rcases h.proxy with ⟨hreuse, proxy, hproxy, -⟩ | ⟨hcreate, hnone, -⟩
  · obtain ⟨hmem, hexact, -⟩ := reuseProxy_eq_some.mp hproxy
    have hany : state.proxies.any (fun proxy => proxySemanticExact proxy profile) = true :=
      List.any_eq_true.mpr ⟨proxy, hmem, hexact⟩
    simp [hreuse, hany]
  · have hany : state.proxies.any (fun proxy => proxySemanticExact proxy profile) = false :=
      List.any_eq_false.mpr
        (fun proxy hproxy => by simp [(reuseProxy_eq_none.mp hnone proxy hproxy).2])
    simp [hcreate, hany]

/-- The created ids are spelled by the lowest free numbers, one for each profile
without a proxy. -/
theorem created_proxyIds {state : LiveState} {reservedProxyIds reservedPolicyIds : List String}
    {profiles : List LocalProxyProfile} {bindings : List BindingPlan}
    (h : planBindings rules state reservedProxyIds reservedPolicyIds profiles = .ok bindings) :
    (creatingProxies bindings).map (·.proxyId) =
      ((freeProxyNumbers reservedProxyIds).take (unserved profiles state).length).map
        proxyIdOf := by
  induction profiles generalizing reservedProxyIds reservedPolicyIds bindings with
  | nil =>
      obtain rfl := pure_eq_ok.mp h
      simp [creatingProxies, unserved]
  | cons profile rest ih =>
      simp only [planBindings, bind_eq_ok, pure_eq_ok] at h
      obtain ⟨binding, hbinding, more, hmore, rfl⟩ := h
      have hplanned := (planBinding_eq_ok hbinding).1
      have hlater := ih hmore
      by_cases hcreate : binding.proxyAction = .create
      · have hunserved := (create_iff_unserved hplanned).mp hcreate
        obtain ⟨number, hvalue, hfree⟩ :=
          nextFree_freeProxyNumbers (planBinding_created hbinding hcreate)
        rw [if_pos hcreate] at hlater
        rw [creatingProxies, List.filter_cons_of_pos (by simpa using hcreate), List.map_cons,
          unserved, List.filter_cons_of_pos (by simp [hunserved]), List.length_cons, hfree,
          List.take_succ_cons, List.map_cons, ← hvalue]
        exact congrArg _ hlater
      · have hserved : state.proxies.any (fun proxy => proxySemanticExact proxy profile) = true :=
          by simpa [create_iff_unserved hplanned] using hcreate
        rw [if_neg hcreate] at hlater
        rw [creatingProxies, List.filter_cons_of_neg (by simpa using hcreate), unserved,
          List.filter_cons_of_neg (by simp [hserved])]
        exact hlater

private theorem exists_profile {state : LiveState} {profiles : List LocalProxyProfile}
    {bindings : List BindingPlan}
    (h : List.Forall₂ (PlannedBinding rules state) profiles bindings) :
    ∀ binding ∈ bindings, ∃ profile, PlannedBinding rules state profile binding := by
  induction h with
  | nil => simp
  | cons hplanned _ ih =>
      intro binding hbinding
      rcases List.mem_cons.mp hbinding with rfl | hmore
      · exact ⟨_, hplanned⟩
      · exact ih binding hmore

/-- The condition: none of the ids the plan will hand out stands in a permit
list already. -/
def NoDanglingPermit (profiles : List LocalProxyProfile) (state : LiveState) : Prop :=
  ∀ number ∈ (freeProxyNumbers (state.proxies.map (·.objectId))).take
      (unserved profiles state).length,
    ∀ policy ∈ state.policies, proxyIdOf number ∉ policy.globalInterfaces

/-- Creating the proxies of a plan changes no policy that is there already, and
none of these policies is taken for a new proxy. -/
structure LeavesPolicies (state : LiveState) (plan : LivePlan) : Prop where
  unlisted : ∀ binding ∈ creatingProxies plan.bindings, ∀ policy ∈ state.policies,
    binding.proxyId ∉ policy.globalInterfaces
  created : ∀ binding ∈ creatingProxies plan.bindings, binding.policyAction = .create

variable {manifest : LocalEndpointManifest} {state : LiveState} {deviceMac : Option String}
  {profileSlot : Option Nat} {allowMove : Bool} {plan : LivePlan}

/-- A plan leaves the existing policies alone if and only if no permit list of
the state dangles at an id it hands out. -/
theorem plan_leaves_policies_iff
    (h : buildLivePlan manifest state deviceMac profileSlot allowMove = .ok plan) :
    LeavesPolicies state plan ↔ NoDanglingPermit manifest.profiles state := by
  obtain ⟨-, mac, -, -, bindings, hbindings, action, -, rfl⟩ := PlanRules.buildLivePlan_eq_ok.mp h
  have hids := created_proxyIds hbindings
  have hplanned := (planBindings_eq_ok hbindings).each
  constructor
  · intro hleaves number hnumber policy hpolicy
    have hid : proxyIdOf number ∈ (creatingProxies bindings).map (·.proxyId) :=
      hids ▸ List.mem_map_of_mem hnumber
    obtain ⟨binding, hbinding, heq⟩ := List.mem_map.mp hid
    exact heq ▸ hleaves.unlisted binding hbinding policy hpolicy
  · intro hnone
    have hunlisted : ∀ binding ∈ creatingProxies bindings, ∀ policy ∈ state.policies,
        binding.proxyId ∉ policy.globalInterfaces := by
      intro binding hbinding policy hpolicy
      have hid : binding.proxyId ∈ (creatingProxies bindings).map (·.proxyId) :=
        List.mem_map_of_mem hbinding
      rw [hids] at hid
      obtain ⟨number, hnumber, heq⟩ := List.mem_map.mp hid
      exact heq ▸ hnone number hnumber policy hpolicy
    refine ⟨hunlisted, fun binding hbinding => ?_⟩
    obtain ⟨profile, hprofile⟩ := exists_profile hplanned binding (List.mem_filter.mp hbinding).1
    rcases hprofile.policy with ⟨-, policy, hpolicy, -⟩ | ⟨hcreate, -⟩
    · obtain ⟨hmem, hexact, -⟩ := reusePolicy_eq_some.mp hpolicy
      have hlisted : binding.proxyId ∈ policy.globalInterfaces := by
        simp only [policySemanticExact, decide_eq_true_eq] at hexact
        simp [hexact]
      exact absurd hlisted (hunlisted binding hbinding policy hmem)
    · exact hcreate

/-- One policy permits the proxy that is there, another one a proxy that is not, of a
number the plan has no use for. -/
def guestState : LiveState where
  proxies := [⟨"Proxy0", "guests", "socks5", "127.0.0.1", 2080, true, false⟩]
  policies := [{ objectId := "Policy0", description := "Guests", globalInterfaces := ["Proxy0"] },
    { objectId := "Policy1", description := "Family", globalInterfaces := ["Proxy5"] }]
  assignments := []
  defaultGuard := []
  proxyIds_nodup := List.nodup_singleton _
  policyIds_nodup := by decide
  deviceMacs_nodup := List.nodup_nil

theorem plan_leaves_policies_iff_sample :
    ∃ plan, buildLivePlan (sampleManifest true) guestState none none false = .ok plan ∧
      plan.bindings.map (fun b => (b.proxyId, b.proxyAction, b.policyId, b.policyAction)) =
        [("Proxy1", .create, "Policy2", .create)] ∧
      LeavesPolicies guestState plan := by
  have hplan : buildLivePlan (sampleManifest true) guestState none none false = .ok _ := rfl
  refine ⟨_, hplan, rfl, (plan_leaves_policies_iff hplan).mpr ?_⟩
  unfold NoDanglingPermit
  decide

/-- A policy that permits `Proxy0`, which the router does not have. -/
def danglingState : LiveState where
  proxies := []
  policies := [{ objectId := "Policy0", description := "Guests", globalInterfaces := ["Proxy0"] }]
  assignments := []
  defaultGuard := []
  proxyIds_nodup := List.nodup_nil
  policyIds_nodup := List.nodup_singleton _
  deviceMacs_nodup := List.nodup_nil

/-- The plan creates `Proxy0` and takes the foreign policy for it. -/
theorem plan_takes_dangling_policy :
    ∃ plan, buildLivePlan (sampleManifest true) danglingState none none false = .ok plan ∧
      plan.bindings.map (fun b => (b.proxyId, b.proxyAction, b.policyId, b.policyAction)) =
        [("Proxy0", .create, "Policy0", .reuse)] ∧
      ¬ LeavesPolicies danglingState plan := by
  refine ⟨_, rfl, rfl, fun hleaves => ?_⟩
  have hcreated := hleaves.created _ List.mem_cons_self
  cases hcreated

end LiveCompat

end RouterKit.Netcraze
