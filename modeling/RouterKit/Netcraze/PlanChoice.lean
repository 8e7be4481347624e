import RouterKit.Netcraze.PlanIntegrity
import RouterKit.Netcraze.Simulator

/-!
The objects an unblocked plan settles on: for each profile one connection and
one policy, observed or simulated, and the state that has all of them. An
observed object is chosen because it is the only equivalent one; a simulated
one because nothing has its id or its name.
-/

namespace RouterKit.Netcraze

open RouterKit.Lib RouterKit.Lib.Checked RouterKit.Devices

section Names

variable (foldNonAscii : Char → List Char)

private theorem casefold_ascii_inj {left right : String}
    (hleft : left.toList.all (·.toNat < 128) = true)
    (hright : right.toList.all (·.toNat < 128) = true)
    (h : casefold foldNonAscii left = casefold foldNonAscii right) :
    left.toList.map PyText.asciiLower = right.toList.map PyText.asciiLower := by
  rw [List.all_eq_true] at hleft hright
  rwa [casefold, casefold,
    PyText.casefold_of_ascii foldNonAscii (fun c hc => of_decide_eq_true (hleft c hc)),
    PyText.casefold_of_ascii foldNonAscii (fun c hc => of_decide_eq_true (hright c hc))] at h

theorem casefold_connectionName_inj {left right : LocalProxyProfile}
    (hleft : left.port ∈ expectedPorts) (hright : right.port ∈ expectedPorts)
    (h : casefold foldNonAscii (connectionName left) =
      casefold foldNonAscii (connectionName right)) : left.port = right.port := by
  have hascii : ∀ p ∈ expectedPorts,
      ("RouterKit-SOCKS-" ++ toString p).toList.all (·.toNat < 128) = true := by decide
  have hall : ∀ p ∈ expectedPorts, ∀ q ∈ expectedPorts,
      ("RouterKit-SOCKS-" ++ toString p).toList.map PyText.asciiLower =
        ("RouterKit-SOCKS-" ++ toString q).toList.map PyText.asciiLower → p = q := by decide
  exact hall _ hleft _ hright
    (casefold_ascii_inj foldNonAscii (hascii _ hleft) (hascii _ hright) h)

theorem casefold_policyName_inj {left right : LocalProxyProfile}
    (hleft : left.port ∈ expectedPorts) (hright : right.port ∈ expectedPorts)
    (h : casefold foldNonAscii (policyName left) = casefold foldNonAscii (policyName right)) :
    left.port = right.port := by
  have hascii : ∀ p ∈ expectedPorts,
      ("RouterKit-Policy-" ++ toString p).toList.all (·.toNat < 128) = true := by decide
  have hall : ∀ p ∈ expectedPorts, ∀ q ∈ expectedPorts,
      ("RouterKit-Policy-" ++ toString p).toList.map PyText.asciiLower =
        ("RouterKit-Policy-" ++ toString q).toList.map PyText.asciiLower → p = q := by decide
  exact hall _ hleft _ hright
    (casefold_ascii_inj foldNonAscii (hascii _ hleft) (hascii _ hright) h)

theorem simulationConnectionId_inj {left right : Nat} (hleft : left ∈ [1, 2, 3])
    (hright : right ∈ [1, 2, 3]) (h : simulationConnectionId left = simulationConnectionId right) :
    left = right := by
  have hall : ∀ p ∈ [1, 2, 3], ∀ q ∈ [1, 2, 3],
      simulationConnectionId p = simulationConnectionId q → p = q := by decide
  exact hall _ hleft _ hright h

theorem simulationPolicyId_inj {left right : Nat} (hleft : left ∈ [1, 2, 3])
    (hright : right ∈ [1, 2, 3]) (h : simulationPolicyId left = simulationPolicyId right) :
    left = right := by
  have hall : ∀ p ∈ [1, 2, 3], ∀ q ∈ [1, 2, 3],
      simulationPolicyId p = simulationPolicyId q → p = q := by decide
  exact hall _ hleft _ hright h

end Names

section Serving

variable (foldNonAscii : Char → List Char) (snapshot : RouterStateSnapshot)

/-- The connection that ends up serving a profile. -/
def servingConnection (profile : LocalProxyProfile) : ExistingProxyConnection :=
  (exactConnections snapshot profile).headD (simulatedConnection (connectionName profile) profile)

def servingPolicies (profile : LocalProxyProfile) : List ExistingPolicy :=
  exactPolicies snapshot (servingConnection snapshot profile).objectId

/-- The policy that ends up serving a profile. -/
def servingPolicy (profile : LocalProxyProfile) : ExistingPolicy :=
  (servingPolicies snapshot profile).headD
    (simulatedPolicy (policyName profile) (servingConnection snapshot profile).objectId profile)

def newConnection (profile : LocalProxyProfile) : List ExistingProxyConnection :=
  if exactConnections snapshot profile = [] then [servingConnection snapshot profile] else []

def newPolicy (profile : LocalProxyProfile) : List ExistingPolicy :=
  if servingPolicies snapshot profile = [] then [servingPolicy snapshot profile] else []

def newAssignment (device : SelectedDeviceRef) (primary : LocalProxyProfile) :
    List ExistingDeviceAssignment :=
  match snapshot.assignments.find? (fun item => item.deviceMac = device.mac) with
  | none => [⟨device.mac, (servingPolicy snapshot primary).objectId⟩]
  | some _ => []

/-- The snapshot with the connections of some profiles, the policies of others
and some assignments added. -/
def withCreated (connected governed : List LocalProxyProfile)
    (assignments : List ExistingDeviceAssignment) : RouterStateSnapshot :=
  snapshot.grow (connected.flatMap (newConnection snapshot))
    (governed.flatMap (newPolicy snapshot)) assignments

/-- How an unblocked plan treats the connection of a profile. -/
inductive SettledConnection (profile : LocalProxyProfile) (planned : PlannedObject) : Prop where
  | reuse (hexact : exactConnections snapshot profile = [servingConnection snapshot profile])
      (hoperation : planned.action.operation = .reuseConnection)
      (hid : planned.action.observedId = some (servingConnection snapshot profile).objectId)
      (hname : planned.action.observedName = some (servingConnection snapshot profile).name)
      (hreference : planned.reference =
        some (existingConnectionReference (servingConnection snapshot profile).objectId))
  | create (hexact : exactConnections snapshot profile = [])
      (hname : sameNameConnection foldNonAscii snapshot (connectionName profile) = none)
      (hid : simulationConnectionId profile.slot ∉ allObjectIds snapshot)
      (hoperation : planned.action.operation = .createConnection)
      (hreference : planned.reference = some (plannedConnectionReference profile.slot))

/-- How an unblocked plan treats the policy of a profile. -/
inductive SettledPolicy (profile : LocalProxyProfile) (planned : PlannedObject) : Prop where
  | reuse (hexact : servingPolicies snapshot profile = [servingPolicy snapshot profile])
      (hoperation : planned.action.operation = .reusePolicy)
      (hid : planned.action.observedId = some (servingPolicy snapshot profile).objectId)
      (hname : planned.action.observedName = some (servingPolicy snapshot profile).name)
      (hreference : planned.reference =
        some (existingPolicyReference (servingPolicy snapshot profile).objectId))
  | create (hexact : servingPolicies snapshot profile = [])
      (hname : sameNamePolicy foldNonAscii snapshot (policyName profile) = none)
      (hid : simulationPolicyId profile.slot ∉ allObjectIds snapshot)
      (hoperation : planned.action.operation = .createPolicy)
      (hreference : planned.reference = some (plannedPolicyReference profile.slot))

/-- How an unblocked plan treats the assignment of the selected device. -/
inductive SettledAssignment (device : SelectedDeviceRef) (primary : LocalProxyProfile)
    (planned : PlannedObject) : Prop where
  | reuse (existing : ExistingDeviceAssignment)
      (hexisting : snapshot.assignments.find? (fun item => item.deviceMac = device.mac) =
        some existing)
      (hpolicy : existing.policyRef = (servingPolicy snapshot primary).objectId)
      (hoperation : planned.action.operation = .reuseAssignment)
  | create (hnone : snapshot.assignments.find? (fun item => item.deviceMac = device.mac) = none)
      (hoperation : planned.action.operation = .assignDevice)

/-- What an unblocked plan says about one profile. -/
structure SettledProfile (profile : LocalProxyProfile) : Prop where
  connection : SettledConnection foldNonAscii snapshot profile
    (planConnection foldNonAscii snapshot profile)
  policy : SettledPolicy foldNonAscii snapshot profile
    (planPolicy foldNonAscii snapshot (connectionRef foldNonAscii snapshot profile) profile)

variable {foldNonAscii snapshot} {profile : LocalProxyProfile}

theorem planConnection_settles
    (h : (planConnection foldNonAscii snapshot profile).blocks = false) :
    SettledConnection foldNonAscii snapshot profile
      (planConnection foldNonAscii snapshot profile) := by
  unfold planConnection at h ⊢
  split at h
  · cases h
  · next existing hexact =>
    have hserving : servingConnection snapshot profile = existing := by
      simp [servingConnection, hexact]
    rw [← hserving] at hexact ⊢
    exact .reuse hexact rfl rfl rfl rfl
  · cases h
  · next hexact hname =>
    split at h
    · cases h
    · next hid =>
      rw [if_neg hid]
      exact .create hexact hname hid rfl rfl

theorem SettledConnection.hasReference {planned : PlannedObject}
    (h : SettledConnection foldNonAscii snapshot profile planned) :
    ∃ reference, planned.reference = some reference := by
  cases h with
  | reuse _ _ _ _ hreference => exact ⟨_, hreference⟩
  | create _ _ _ _ hreference => exact ⟨_, hreference⟩

/-- No policy of a consistent snapshot uses a connection that is not there. -/
private theorem exactPolicies_absent (hcons : snapshot.Consistent foldNonAscii) {objectId : String}
    (habsent : objectId ∉ snapshot.connections.map (·.objectId)) :
    exactPolicies snapshot objectId = [] := by
  have hnone : snapshot.policies.filter
      (fun item => (policyEquivalence item objectId).equivalent) = [] := by
    apply List.filter_eq_nil_iff.mpr
    intro policy hpolicy hequivalent
    have hne : policy.connectionRef ≠ objectId := fun heq =>
      habsent (heq ▸ hcons.connectionRefs policy hpolicy)
    unfold policyEquivalence at hequivalent
    split at hequivalent
    · simp at hequivalent
    · simp [hne] at hequivalent
  rw [exactPolicies, hnone]
  exact List.perm_nil.mp (Keyed.sortByKey_perm _ _)

/-- The planner looks for the policies of the serving connection. -/
theorem exactPoliciesFor_settled (hcons : snapshot.Consistent foldNonAscii)
    {planned : PlannedObject} (h : SettledConnection foldNonAscii snapshot profile planned)
    {reference : ObjectReference} (hreference : planned.reference = some reference) :
    exactPoliciesFor snapshot reference = servingPolicies snapshot profile := by
  cases h with
  | reuse hexact _ _ _ hsettled =>
      obtain rfl := Option.some.inj (hreference.symm.trans hsettled)
      simp [exactPoliciesFor, existingConnectionReference, servingPolicies]
  | create hexact _ hid _ hsettled =>
      obtain rfl := Option.some.inj (hreference.symm.trans hsettled)
      have habsent : simulationConnectionId profile.slot ∉ snapshot.connections.map (·.objectId) :=
        fun hmem => hid (List.mem_append_left _ hmem)
      have hserving : (servingConnection snapshot profile).objectId =
          simulationConnectionId profile.slot := by
        simp [servingConnection, hexact, simulatedConnection]
      rw [servingPolicies, hserving, exactPolicies_absent hcons habsent]
      simp [exactPoliciesFor, plannedConnectionReference]

theorem planPolicy_settles (hcons : snapshot.Consistent foldNonAscii)
    (hconnection : SettledConnection foldNonAscii snapshot profile
      (planConnection foldNonAscii snapshot profile))
    (h : (planPolicy foldNonAscii snapshot (connectionRef foldNonAscii snapshot profile)
      profile).blocks = false) :
    SettledPolicy foldNonAscii snapshot profile
      (planPolicy foldNonAscii snapshot (connectionRef foldNonAscii snapshot profile) profile) := by
  obtain ⟨reference, hreference⟩ := hconnection.hasReference
  have hserving := exactPoliciesFor_settled hcons hconnection hreference
  rw [connectionRef, hreference] at h ⊢
  simp only [planPolicy] at h ⊢
  rw [hserving] at h ⊢
  split at h
  · cases h
  · next existing hexact =>
    have hpolicy : servingPolicy snapshot profile = existing := by
      simp [servingPolicy, hexact]
    rw [← hpolicy] at hexact ⊢
    exact .reuse hexact rfl rfl rfl rfl
  · cases h
  · next hexact hname =>
    split at h
    · cases h
    · next hid =>
      rw [if_neg hid]
      exact .create hexact hname hid rfl rfl

theorem SettledPolicy.hasReference {planned : PlannedObject}
    (h : SettledPolicy foldNonAscii snapshot profile planned) :
    ∃ reference, planned.reference = some reference := by
  cases h with
  | reuse _ _ _ _ hreference => exact ⟨_, hreference⟩
  | create _ _ _ _ hreference => exact ⟨_, hreference⟩

theorem SettledConnection.operation {planned : PlannedObject}
    (h : SettledConnection foldNonAscii snapshot profile planned) :
    planned.action.operation ∈ [.createConnection, .reuseConnection] := by
  cases h with
  | reuse _ hoperation => simp [hoperation]
  | create _ _ _ hoperation => simp [hoperation]

theorem SettledPolicy.operation {planned : PlannedObject}
    (h : SettledPolicy foldNonAscii snapshot profile planned) :
    planned.action.operation ∈ [.createPolicy, .reusePolicy] := by
  cases h with
  | reuse _ hoperation => simp [hoperation]
  | create _ _ _ hoperation => simp [hoperation]

theorem SettledAssignment.operation {device : SelectedDeviceRef} {planned : PlannedObject}
    (h : SettledAssignment snapshot device profile planned) :
    planned.action.operation ∈ [.assignDevice, .reuseAssignment] := by
  cases h with
  | reuse _ _ _ hoperation => simp [hoperation]
  | create _ hoperation => simp [hoperation]

/-- An assignment is reused when it leads to the serving policy already. -/
theorem planDevice_settles {device : SelectedDeviceRef}
    (hpolicy : SettledPolicy foldNonAscii snapshot profile
      (planPolicy foldNonAscii snapshot (connectionRef foldNonAscii snapshot profile) profile))
    (h : (planDevice snapshot device (policyRef foldNonAscii snapshot profile) profile).blocks =
      false) :
    SettledAssignment snapshot device profile
      (planDevice snapshot device (policyRef foldNonAscii snapshot profile) profile) := by
  obtain ⟨reference, hreference⟩ := hpolicy.hasReference
  have href : policyRef foldNonAscii snapshot profile = some reference := hreference
  rw [href] at h ⊢
  unfold planDevice at h ⊢
  split at h
  · cases h
  · next hnone => exact .create hnone rfl
  · next existing hreference' hexisting =>
    obtain rfl := Option.some.inj hreference'
    split at h
    · next hreuse =>
      rw [if_pos hreuse]
      refine .reuse existing hexisting ?_ rfl
      cases hpolicy with
      | reuse _ _ _ _ hsettled =>
          obtain rfl := Option.some.inj (hreference.symm.trans hsettled)
          exact Option.some.inj hreuse.2
      | create _ _ _ _ hsettled =>
          obtain rfl := Option.some.inj (hreference.symm.trans hsettled)
          simp [plannedPolicyReference] at hreuse
    · cases h

theorem connectionEquivalence_iff {existing : ExistingProxyConnection} :
    (connectionEquivalence existing profile).equivalent = true ↔
      existing.semanticComplete = true ∧ existing.protocol = profile.protocol ∧
        existing.host = profile.host ∧ existing.port = profile.port ∧
        existing.authMode = profile.authMode ∧ existing.enabled = profile.enabled := by
  unfold connectionEquivalence
  cases existing.semanticComplete <;> simp [and_assoc]

theorem policyEquivalence_iff {existing : ExistingPolicy} {connectionRef : String} :
    (policyEquivalence existing connectionRef).equivalent = true ↔
      existing.semanticComplete = true ∧ existing.connectionRef = connectionRef ∧
        existing.mode = "proxy_only" ∧ existing.isDefaultObserved = false ∧
        existing.unrelatedRules = false := by
  unfold policyEquivalence
  cases existing.semanticComplete <;> simp [and_assoc]

theorem mem_exactConnections {connection : ExistingProxyConnection} :
    connection ∈ exactConnections snapshot profile ↔ connection ∈ snapshot.connections ∧
      (connectionEquivalence connection profile).equivalent = true := by
  rw [exactConnections, (Keyed.sortByKey_perm _ _).mem_iff, List.mem_filter]

theorem mem_exactPolicies {policy : ExistingPolicy} {connectionRef : String} :
    policy ∈ exactPolicies snapshot connectionRef ↔ policy ∈ snapshot.policies ∧
      (policyEquivalence policy connectionRef).equivalent = true := by
  rw [exactPolicies, (Keyed.sortByKey_perm _ _).mem_iff, List.mem_filter]

/-- The serving connection is observed, or simulated because none is. -/
theorem servingConnection_cases :
    servingConnection snapshot profile ∈ exactConnections snapshot profile ∨
      (exactConnections snapshot profile = [] ∧ servingConnection snapshot profile =
        simulatedConnection (connectionName profile) profile) := by
  unfold servingConnection
  cases exactConnections snapshot profile with
  | nil => exact .inr ⟨rfl, rfl⟩
  | cons existing rest => exact .inl List.mem_cons_self

theorem servingPolicy_cases :
    servingPolicy snapshot profile ∈ servingPolicies snapshot profile ∨
      (servingPolicies snapshot profile = [] ∧ servingPolicy snapshot profile =
        simulatedPolicy (policyName profile) (servingConnection snapshot profile).objectId
          profile) := by
  unfold servingPolicy
  cases servingPolicies snapshot profile with
  | nil => exact .inr ⟨rfl, rfl⟩
  | cons existing rest => exact .inl List.mem_cons_self

variable (snapshot profile) in
theorem servingConnection_equivalent :
    (connectionEquivalence (servingConnection snapshot profile) profile).equivalent = true := by
  rcases servingConnection_cases with hobserved | ⟨-, hsimulated⟩
  · exact (mem_exactConnections.mp hobserved).2
  · rw [hsimulated, connectionEquivalence_iff]
    exact ⟨rfl, rfl, rfl, rfl, rfl, rfl⟩

variable (snapshot profile) in
theorem servingPolicy_equivalent :
    (policyEquivalence (servingPolicy snapshot profile)
      (servingConnection snapshot profile).objectId).equivalent = true := by
  rcases servingPolicy_cases with hobserved | ⟨-, hsimulated⟩
  · exact (mem_exactPolicies.mp hobserved).2
  · rw [hsimulated, policyEquivalence_iff]
    exact ⟨rfl, rfl, rfl, rfl, rfl⟩

theorem mem_newConnection {connection : ExistingProxyConnection} :
    connection ∈ newConnection snapshot profile ↔ exactConnections snapshot profile = [] ∧
      connection = simulatedConnection (connectionName profile) profile := by
  unfold newConnection
  split
  · next hexact => simp [hexact, servingConnection]
  · next hexact => simp [hexact]

theorem mem_newPolicy {policy : ExistingPolicy} :
    policy ∈ newPolicy snapshot profile ↔ servingPolicies snapshot profile = [] ∧
      policy = simulatedPolicy (policyName profile) (servingConnection snapshot profile).objectId
        profile := by
  unfold newPolicy
  split
  · next hexact => simp [hexact, servingPolicy]
  · next hexact => simp [hexact]

section Created

variable {connected governed : List LocalProxyProfile}
  {assignments : List ExistingDeviceAssignment}

theorem servingConnection_mem (h : profile ∈ connected) :
    servingConnection snapshot profile ∈
      (withCreated snapshot connected governed assignments).connections := by
  apply List.mem_append.mpr
  rcases servingConnection_cases with hobserved | ⟨hexact, hsimulated⟩
  · exact .inl (mem_exactConnections.mp hobserved).1
  · exact .inr (List.mem_flatMap.mpr ⟨profile, h, mem_newConnection.mpr ⟨hexact, hsimulated⟩⟩)

theorem servingPolicy_mem (h : profile ∈ governed) :
    servingPolicy snapshot profile ∈
      (withCreated snapshot connected governed assignments).policies := by
  apply List.mem_append.mpr
  rcases servingPolicy_cases with hobserved | ⟨hexact, hsimulated⟩
  · exact .inl (mem_exactPolicies.mp hobserved).1
  · exact .inr (List.mem_flatMap.mpr ⟨profile, h, mem_newPolicy.mpr ⟨hexact, hsimulated⟩⟩)

end Created

end Serving

section Growing

variable {foldNonAscii : Char → List Char} {snapshot : RouterStateSnapshot}
  {manifest : LocalEndpointManifest} (hcons : snapshot.Consistent foldNonAscii)
  (valid : manifest.Valid)
  (hsettled : ∀ profile ∈ manifest.profiles, SettledProfile foldNonAscii snapshot profile)

private theorem mem_expectedPorts {profile : LocalProxyProfile} (valid : manifest.Valid)
    (h : profile ∈ manifest.profiles) : profile.port ∈ expectedPorts :=
  (valid.acceptable profile h).port

include hsettled in
/-- A created connection has an id and a name no observed object has. -/
theorem newConnection_fresh {profile : LocalProxyProfile} (hprofile : profile ∈ manifest.profiles)
    {connection : ExistingProxyConnection} (h : connection ∈ newConnection snapshot profile) :
    connection.objectId ∉ snapshot.connections.map (·.objectId) ∧
      casefold foldNonAscii connection.name ∉
        snapshot.connections.map (fun c => casefold foldNonAscii c.name) := by
  obtain ⟨hnone, rfl⟩ := mem_newConnection.mp h
  cases (hsettled profile hprofile).connection with
  | reuse hexact => rw [hnone] at hexact; cases hexact
  | create _ hname hid =>
      refine ⟨fun hmem => hid (List.mem_append_left _ hmem), fun hmem => ?_⟩
      obtain ⟨observed, hobserved, heq⟩ := List.mem_map.mp hmem
      have hne := List.find?_eq_none.mp hname observed hobserved
      exact hne (decide_eq_true heq)

include hsettled in
theorem newPolicy_fresh {profile : LocalProxyProfile} (hprofile : profile ∈ manifest.profiles)
    {policy : ExistingPolicy} (h : policy ∈ newPolicy snapshot profile) :
    policy.objectId ∉ snapshot.policies.map (·.objectId) ∧
      casefold foldNonAscii policy.name ∉
        snapshot.policies.map (fun p => casefold foldNonAscii p.name) := by
  obtain ⟨hnone, rfl⟩ := mem_newPolicy.mp h
  cases (hsettled profile hprofile).policy with
  | reuse hexact => rw [hnone] at hexact; cases hexact
  | create _ hname hid =>
      refine ⟨fun hmem => hid (List.mem_append_right _ hmem), fun hmem => ?_⟩
      obtain ⟨observed, hobserved, heq⟩ := List.mem_map.mp hmem
      have hne := List.find?_eq_none.mp hname observed hobserved
      exact hne (decide_eq_true heq)

include valid hsettled hcons in
theorem withCreated_connections_nodup {connected : List LocalProxyProfile}
    (hsub : connected ⊆ manifest.profiles) (hnodup : connected.Nodup) :
    ((snapshot.connections ++ connected.flatMap (newConnection snapshot)).map
        (·.objectId)).Nodup ∧
      ((snapshot.connections ++ connected.flatMap (newConnection snapshot)).map
        (fun c => casefold foldNonAscii c.name)).Nodup := by
  have hone : ∀ {κ : Type} (key : ExistingProxyConnection → κ), ∀ profile ∈ connected,
      ((newConnection snapshot profile).map key).Nodup := by
    intro κ key profile _
    unfold newConnection
    split <;> simp
  constructor
  · apply Keyed.nodup_append_flatMap _ _ hcons.connectionIds_nodup hnodup (hone _)
      (fun profile hprofile c hc => (newConnection_fresh hsettled (hsub hprofile) hc).1)
    intro left hleft right hright c hc d hd heq
    obtain ⟨-, rfl⟩ := mem_newConnection.mp hc
    obtain ⟨-, rfl⟩ := mem_newConnection.mp hd
    exact valid.slot_inj (hsub hleft) (hsub hright) (simulationConnectionId_inj
      (valid.slot_mem (hsub hleft)) (valid.slot_mem (hsub hright)) heq)
  · apply Keyed.nodup_append_flatMap _ _ hcons.connectionNames_nodup hnodup (hone _)
      (fun profile hprofile c hc => (newConnection_fresh hsettled (hsub hprofile) hc).2)
    intro left hleft right hright c hc d hd heq
    obtain ⟨-, rfl⟩ := mem_newConnection.mp hc
    obtain ⟨-, rfl⟩ := mem_newConnection.mp hd
    exact valid.port_inj (hsub hleft) (hsub hright) (casefold_connectionName_inj foldNonAscii
      (mem_expectedPorts valid (hsub hleft)) (mem_expectedPorts valid (hsub hright)) heq)

include valid hsettled hcons in
theorem withCreated_policies_nodup {governed : List LocalProxyProfile}
    (hsub : governed ⊆ manifest.profiles) (hnodup : governed.Nodup) :
    ((snapshot.policies ++ governed.flatMap (newPolicy snapshot)).map (·.objectId)).Nodup ∧
      ((snapshot.policies ++ governed.flatMap (newPolicy snapshot)).map
        (fun p => casefold foldNonAscii p.name)).Nodup := by
  have hone : ∀ {κ : Type} (key : ExistingPolicy → κ), ∀ profile ∈ governed,
      ((newPolicy snapshot profile).map key).Nodup := by
    intro κ key profile _
    unfold newPolicy
    split <;> simp
  constructor
  · apply Keyed.nodup_append_flatMap _ _ hcons.policyIds_nodup hnodup (hone _)
      (fun profile hprofile p hp => (newPolicy_fresh hsettled (hsub hprofile) hp).1)
    intro left hleft right hright p hp q hq heq
    obtain ⟨-, rfl⟩ := mem_newPolicy.mp hp
    obtain ⟨-, rfl⟩ := mem_newPolicy.mp hq
    exact valid.slot_inj (hsub hleft) (hsub hright) (simulationPolicyId_inj
      (valid.slot_mem (hsub hleft)) (valid.slot_mem (hsub hright)) heq)
  · apply Keyed.nodup_append_flatMap _ _ hcons.policyNames_nodup hnodup (hone _)
      (fun profile hprofile p hp => (newPolicy_fresh hsettled (hsub hprofile) hp).2)
    intro left hleft right hright p hp q hq heq
    obtain ⟨-, rfl⟩ := mem_newPolicy.mp hp
    obtain ⟨-, rfl⟩ := mem_newPolicy.mp hq
    exact valid.port_inj (hsub hleft) (hsub hright) (casefold_policyName_inj foldNonAscii
      (mem_expectedPorts valid (hsub hleft)) (mem_expectedPorts valid (hsub hright)) heq)

/-- The assignments a run may have added so far. -/
def AddedAssignments (snapshot : RouterStateSnapshot) (governed : List LocalProxyProfile)
    (assignments : List ExistingDeviceAssignment) : Prop :=
  assignments = [] ∨ ∃ device, ∃ primary ∈ governed,
    normalizeTrustedDeviceMac device.mac = .ok device.mac ∧
      assignments = newAssignment snapshot device primary

include valid hsettled hcons in
/-- Connections are created before the policies that use them, and policies
before the assignments to them. -/
theorem withCreated_consistent {connected governed : List LocalProxyProfile}
    {assignments : List ExistingDeviceAssignment} (hconnected : connected.Sublist manifest.profiles)
    (hgoverned : governed.Sublist connected)
    (hassignments : AddedAssignments snapshot governed assignments) :
    (withCreated snapshot connected governed assignments).Consistent foldNonAscii := by
  have hprofiles : manifest.profiles.Nodup := valid.slots_nodup.of_map _
  have hgoverned' := hgoverned.trans hconnected
  obtain ⟨hconnectionIds, hconnectionNames⟩ := withCreated_connections_nodup hcons valid hsettled
    hconnected.subset (hprofiles.sublist hconnected)
  obtain ⟨hpolicyIds, hpolicyNames⟩ := withCreated_policies_nodup hcons valid hsettled
    hgoverned'.subset (hprofiles.sublist hgoverned')
  have hnew : ∀ policy ∈ governed.flatMap (newPolicy snapshot), ∃ profile ∈ governed,
      policy = servingPolicy snapshot profile := by
    intro policy hpolicy
    obtain ⟨profile, hprofile, hmem⟩ := List.mem_flatMap.mp hpolicy
    obtain ⟨hnone, rfl⟩ := mem_newPolicy.mp hmem
    exact ⟨profile, hprofile, by simp [servingPolicy, hnone]⟩
  apply hcons.grow hconnectionIds hconnectionNames hpolicyIds hpolicyNames
  · intro policy hpolicy
    obtain ⟨profile, hprofile, rfl⟩ := hnew policy hpolicy
    have hserves := (policyEquivalence_iff.mp (servingPolicy_equivalent snapshot profile)).2.1
    rw [hserves]
    have hmem : servingConnection snapshot profile ∈
        (withCreated snapshot connected governed []).connections :=
      servingConnection_mem (hgoverned.subset hprofile)
    exact List.mem_map_of_mem hmem
  · rcases hassignments with rfl | ⟨device, primary, -, -, rfl⟩
    · simpa using hcons.deviceMacs_nodup
    · unfold newAssignment
      split
      · next hnone =>
        rw [List.map_append]
        apply List.nodup_append'.mpr
        refine ⟨hcons.deviceMacs_nodup, by simp, fun mac hmac hnew => ?_⟩
        obtain ⟨observed, hobserved, rfl⟩ := List.mem_map.mp hmac
        have hne := List.find?_eq_none.mp hnone observed hobserved
        exact hne (by simpa using hnew)
      · simpa using hcons.deviceMacs_nodup
  · intro assignment hassignment
    rcases hassignments with rfl | ⟨device, primary, hprimary, hmac, rfl⟩
    · simp at hassignment
    · unfold newAssignment at hassignment
      split at hassignment
      · obtain rfl := List.mem_singleton.mp hassignment
        have hmem : servingPolicy snapshot primary ∈
            (withCreated snapshot connected governed []).policies :=
          servingPolicy_mem hprimary
        exact ⟨hmac, List.mem_map_of_mem hmem⟩
      · simp at hassignment
  · intro policy hpolicy
    obtain ⟨profile, -, rfl⟩ := hnew policy hpolicy
    exact (policyEquivalence_iff.mp (servingPolicy_equivalent snapshot profile)).2.2.2.1

end Growing

end RouterKit.Netcraze
