import RouterKit.Netcraze.ExternalRollback

/-!
What the pre-phase authorizes. A packet is bound to a state by fingerprints
alone, and its own fingerprint needs no key: re-stated for another state it is
accepted there, whatever objects that state has. A packet the planner returned
is accepted only where it was planned, and there its bindings, its former
assignment and its rollback agree with the router.
-/

namespace RouterKit.Netcraze

open RouterKit.Lib.Checked
open RouterKit.Devices RouterKit.Lib

section Keeps

variable {state : LiveState} {command : NdmCommand}

theorem NdmCommand.EntersProxy.keeps_proxy {proxyId : String} (h : command.EntersProxy proxyId)
    {proxy : ProxyState} (hmem : proxy ∈ state.proxies) (hne : proxy.objectId ≠ proxyId) :
    proxy ∈ (command.exec state).proxies := by
  obtain ⟨f, hf, hexec⟩ := h
  rw [hexec]
  exact Keyed.mem_touch_of_ne ProxyState.objectId (.fresh proxyId) hmem hne

theorem NdmCommand.EntersPolicy.keeps_policy {policyId : String} (h : command.EntersPolicy policyId)
    {policy : PolicyState} (hmem : policy ∈ state.policies) (hne : policy.objectId ≠ policyId) :
    policy ∈ (command.exec state).policies := by
  obtain ⟨f, hf, hexec⟩ := h
  rw [hexec]
  exact Keyed.mem_touch_of_ne PolicyState.objectId (.fresh policyId) hmem hne

theorem NdmCommand.EntersProxy.keeps_rest {proxyId : String} (h : command.EntersProxy proxyId) :
    (command.exec state).policies = state.policies ∧
      (command.exec state).assignments = state.assignments := by
  obtain ⟨f, hf, hexec⟩ := h
  rw [hexec]
  exact ⟨rfl, rfl⟩

theorem NdmCommand.EntersPolicy.keeps_rest {policyId : String} (h : command.EntersPolicy policyId) :
    (command.exec state).proxies = state.proxies ∧
      (command.exec state).assignments = state.assignments := by
  obtain ⟨f, hf, hexec⟩ := h
  rw [hexec]
  exact ⟨rfl, rfl⟩

end Keeps

namespace External

/-- What every command of a packet may do: create one of its new objects, or
assign its device. -/
inductive PlannedStep (plan : LivePlan) (mac : Option String) (command : NdmCommand) : Prop
  | proxy (binding : BindingPlan) (hbinding : binding ∈ creatingProxies plan.bindings)
      (henters : command.EntersProxy binding.proxyId)
  | policy (binding : BindingPlan) (hbinding : binding ∈ creatingPolicies plan.bindings)
      (henters : command.EntersPolicy binding.policyId)
  | assign (deviceMac policyId : String) (hmac : mac = some deviceMac)
      (hcommand : command = .hotspotHostPolicy deviceMac policyId)

section Planned

variable {rules : PlanRules} {manifest : LocalEndpointManifest} {state : LiveState}
  {mac : Option String} {profileSlot : Option Nat} {allowMove : Bool} {plan : LivePlan}
  {profileOf : BindingPlan → LocalProxyProfile}

theorem plannedCommands_step
    (planned : Planned rules manifest state mac profileSlot allowMove plan profileOf) :
    ∀ command ∈ plannedCommands plan profileOf mac, PlannedStep plan mac command := by
  intro command hcommand
  simp only [plannedCommands, List.mem_append, List.mem_flatMap] at hcommand
  rcases hcommand with (⟨binding, hbinding, hcommand⟩ | ⟨binding, hbinding, hcommand⟩) | hcommand
  · exact .proxy binding hbinding (proxyCreateCommands_enter hcommand)
  · exact .policy binding hbinding (policyCreateCommands_enter hcommand)
  · split at hcommand
    · next deviceMac policyId hwritten =>
      exact .assign deviceMac policyId (writtenAssignment_eq_some planned hwritten).1
        (List.mem_singleton.mp hcommand)
    · exact absurd hcommand List.not_mem_nil

variable {command : NdmCommand} (hstep : PlannedStep plan mac command) {current : LiveState}
include hstep

theorem step_keeps_proxy {proxy : ProxyState}
    (hkept : ∀ binding ∈ creatingProxies plan.bindings, proxy.objectId ≠ binding.proxyId)
    (hmem : proxy ∈ current.proxies) : proxy ∈ (command.exec current).proxies := by
  cases hstep with
  | proxy binding hbinding henters => exact henters.keeps_proxy hmem (hkept binding hbinding)
  | policy binding hbinding henters => exact henters.keeps_rest.1.symm ▸ hmem
  | assign deviceMac policyId hmac hcommand => exact hcommand ▸ hmem

theorem step_keeps_policy {policy : PolicyState}
    (hkept : ∀ binding ∈ creatingPolicies plan.bindings, policy.objectId ≠ binding.policyId)
    (hmem : policy ∈ current.policies) : policy ∈ (command.exec current).policies := by
  cases hstep with
  | proxy binding hbinding henters => exact henters.keeps_rest.1.symm ▸ hmem
  | policy binding hbinding henters => exact henters.keeps_policy hmem (hkept binding hbinding)
  | assign deviceMac policyId hmac hcommand => exact hcommand ▸ hmem

theorem step_keeps_assignment {entry : String × String} (hkept : mac ≠ some entry.1)
    (hmem : entry ∈ current.assignments) : entry ∈ (command.exec current).assignments := by
  cases hstep with
  | proxy binding hbinding henters => exact henters.keeps_rest.2.symm ▸ hmem
  | policy binding hbinding henters => exact henters.keeps_rest.2.symm ▸ hmem
  | assign deviceMac policyId hmac hcommand =>
      subst hcommand
      have hne : entry.1 ≠ deviceMac := fun heq => hkept (hmac.trans (congrArg some heq.symm))
      exact Keyed.mem_touch_of_ne (f := fun entry => (entry.1, policyId)) Prod.fst (deviceMac, "")
        hmem hne

end Planned

/-- The packet's bindings and former assignment are those of the router, its
commands overwrite nothing that exists, and its rollback leads back. -/
structure AgreesWith {Digest : Type} (packet : Packet Digest) (manifest : LocalEndpointManifest)
    (state : LiveState) : Prop where
  createdProxy : ∀ binding ∈ packet.bindings, binding.proxyAction = .create →
    binding.proxyId ∉ state.proxies.map (·.objectId)
  createdPolicy : ∀ binding ∈ packet.bindings, binding.policyAction = .create →
    binding.policyId ∉ state.policies.map (·.objectId)
  reusedProxy : ∀ binding ∈ packet.bindings, binding.proxyAction = .reuse →
    ∃ profile ∈ manifest.profiles, profile.slot = binding.slot ∧
      ∃ proxy ∈ state.proxies, proxy.objectId = binding.proxyId ∧
        LiveCompat.proxySemanticExact proxy profile = true
  reusedPolicy : ∀ binding ∈ packet.bindings, binding.policyAction = .reuse →
    ∃ policy ∈ state.policies, policy.objectId = binding.policyId ∧
      LiveCompat.policySemanticExact policy binding.proxyId = true
  previous : packet.assignment.previousPolicy =
    packet.assignment.deviceMac.bind state.assignmentOf
  keepsProxies : ∀ proxy ∈ state.proxies, proxy ∈ (execLines packet.commands state).proxies
  keepsPolicies : ∀ policy ∈ state.policies, policy ∈ (execLines packet.commands state).policies
  keepsAssignments : ∀ entry ∈ state.assignments, packet.assignment.deviceMac ≠ some entry.1 →
    entry ∈ (execLines packet.commands state).assignments
  restored : execLines packet.rollbackCommands (execLines packet.commands state) = state

section Building

variable {Digest : Type} {fingerprint : Payload Digest → Digest}
  {manifest : LocalEndpointManifest} {state current : LiveState} {deviceMac : Option String}
  {profileSlot : Option Nat} {allowMove : Bool} {packet : Packet Digest}

namespace Built

variable {mac : Option String} {plan : LivePlan} {profileOf : BindingPlan → LocalProxyProfile}
  {assignment : Assignment}
  (built : Built fingerprint manifest state deviceMac profileSlot allowMove packet mac plan
    profileOf assignment)
include built

theorem mem_bindings {binding : Binding} (h : binding ∈ packet.bindings) :
    ∃ planned ∈ plan.bindings, payloadOf profileOf planned = binding := by
  rw [built.packet_bindings] at h
  exact List.mem_map.mp h

theorem packet_previous (hsame : current.Same state) :
    packet.assignment.previousPolicy = packet.assignment.deviceMac.bind current.assignmentOf := by
  have hassignment : packet.assignment = assignment := by
    rw [built.packet_eq]
    rfl
  rw [hassignment]
  rcases assignmentPayload_eq built.planned with ⟨-, -, -, hpayload⟩ |
    ⟨m, binding, -, -, -, -, -, hpayload⟩
  · cases hpayload.symm.trans built.payload
    rfl
  · cases hpayload.symm.trans built.payload
    exact (hsame.assignmentOf m).symm

/-- Executing a packet's commands step by step. -/
theorem execLines_keeps {p : LiveState → Prop}
    (hstep : ∀ command, PlannedStep plan mac command → ∀ s, p s → p (command.exec s))
    (h : p current) : p (execLines packet.commands current) := by
  rw [built.commands_eq, execLines_text
    (plannedCommands_wellFormed built.planned built.admissible built.words)]
  apply execAll_keeps _ _ h
  intro command hcommand
  exact hstep command (plannedCommands_step built.planned command hcommand)

/-- A built packet agrees with every state listing the objects it was planned for. -/
theorem agreesWith (hsame : current.Same state) : AgreesWith packet manifest current := by
  have planned := built.planned
  obtain ⟨hproxies, hpolicies⟩ := built.created_fresh hsame
  have hmac := built.packet_assignment.1
  refine ⟨?_, ?_, ?_, ?_, built.packet_previous hsame, ?_, ?_, ?_, ?_⟩
  · intro binding hbinding hcreate
    obtain ⟨chosen, hchosen, rfl⟩ := built.mem_bindings hbinding
    exact hproxies chosen (creatingProxies_mem.mpr ⟨hchosen, hcreate⟩)
  · intro binding hbinding hcreate
    obtain ⟨chosen, hchosen, rfl⟩ := built.mem_bindings hbinding
    exact hpolicies chosen (creatingPolicies_mem.mpr ⟨hchosen, hcreate⟩)
  · intro binding hbinding hreuse
    obtain ⟨chosen, hchosen, rfl⟩ := built.mem_bindings hbinding
    have hplanned := planned.resolved.planned chosen hchosen
    refine ⟨profileOf chosen, planned.resolved.profile_mem hchosen, hplanned.slot.symm, ?_⟩
    rcases hplanned.proxy with ⟨-, proxy, hproxy, hid⟩ | ⟨hcreate, -⟩
    · obtain ⟨hmem, hsemantic, -⟩ := LiveCompat.reuseProxy_eq_some.mp hproxy
      exact ⟨proxy, hsame.proxies.mem_iff.mpr hmem, hid, hsemantic⟩
    · exact absurd (hreuse.symm.trans hcreate) (by decide)
  · intro binding hbinding hreuse
    obtain ⟨chosen, hchosen, rfl⟩ := built.mem_bindings hbinding
    rcases (planned.resolved.planned chosen hchosen).policy with
      ⟨-, policy, hpolicy, hid⟩ | ⟨hcreate, -⟩
    · obtain ⟨hmem, hsemantic, -⟩ := LiveCompat.reusePolicy_eq_some.mp hpolicy
      exact ⟨policy, hsame.policies.mem_iff.mpr hmem, hid, hsemantic⟩
    · exact absurd (hreuse.symm.trans hcreate) (by decide)
  · intro proxy hproxy
    apply built.execLines_keeps (p := fun s => proxy ∈ s.proxies) _ hproxy
    intro command hstep s hmem
    exact step_keeps_proxy hstep
      (fun binding hbinding heq => hproxies binding hbinding
          (heq ▸ List.mem_map_of_mem hproxy)) hmem
  · intro policy hpolicy
    apply built.execLines_keeps (p := fun s => policy ∈ s.policies) _ hpolicy
    intro command hstep s hmem
    exact step_keeps_policy hstep
      (fun binding hbinding heq => hpolicies binding hbinding (heq ▸ List.mem_map_of_mem hpolicy))
      hmem
  · intro entry hentry hdevice
    apply built.execLines_keeps (p := fun s => entry ∈ s.assignments) _ hentry
    intro command hstep s hmem
    exact step_keeps_assignment hstep (hmac ▸ hdevice) hmem
  · exact built.rollback_restores hsame (List.append_nil packet.commands).symm

end Built

variable [DecidableEq Digest]

/-- What the pre-phase accepts is bound to the manifest and to the state. -/
theorem verify_pre_bound {verification : Verification Digest}
    (h : verifyExternalTransaction fingerprint packet manifest current .pre = .ok verification) :
    packet.manifestFingerprint = manifestFingerprint fingerprint manifest ∧
      stateFingerprint fingerprint current = packet.preStateFingerprint := by
  simp only [verifyExternalTransaction, validateExternalTransaction, bind_eq_ok, exists_unit,
    raiseIf_eq_ok, not_not, ne_eq] at h
  obtain ⟨_, ⟨-, -, -, hmanifest, -⟩, -, hstate, -⟩ := h
  exact ⟨hmanifest, hstate⟩

/-- A packet the planner returned, for whatever manifest and state, agrees with
every state the pre-phase accepts it for. -/
theorem built_packet_agrees (hinjective : Function.Injective fingerprint)
    {planManifest : LocalEndpointManifest} (valid : planManifest.Valid) {planState : LiveState}
    {hardwareContract : String}
    (hbuild : buildExternalTransaction fingerprint planManifest planState deviceMac profileSlot
      allowMove hardwareContract = .ok packet)
    {verification : Verification Digest}
    (hverify : verifyExternalTransaction fingerprint packet manifest current .pre =
      .ok verification) :
    AgreesWith packet manifest current := by
  rw [hardwareContract_of_build hbuild] at hbuild
  obtain ⟨mac, plan, profileOf, assignment, built⟩ := build_eq_ok valid hbuild
  obtain ⟨hmanifest, hstate⟩ := verify_pre_bound hverify
  have hsameManifest : planManifest = manifest := by
    have hbound : packet.manifestFingerprint = manifestFingerprint fingerprint planManifest := by
      rw [built.packet_eq]
      rfl
    have hpayload := hinjective (hbound.symm.trans hmanifest)
    obtain ⟨hschema, hprofiles⟩ := Payload.manifest.inj hpayload
    cases planManifest
    cases manifest
    cases hschema
    cases hprofiles
    rfl
  have hsame : current.Same planState := by
    have hbound : packet.preStateFingerprint = stateFingerprint fingerprint planState := by
      rw [built.packet_eq]
      rfl
    exact (stateFingerprint_eq_iff hinjective).mp (hstate.trans hbound)
  exact hsameManifest ▸ built.agreesWith hsame

/-- The same packet, signed again for another state before it. -/
def restate (fingerprint : Payload Digest → Digest) (packet : Packet Digest)
    (state : LiveState) : Packet Digest :=
  sign fingerprint { packet.toUnsigned with
    preStateFingerprint := stateFingerprint fingerprint state
    defaultGuardFingerprint := defaultGuardFingerprint fingerprint state
    verificationExpectations := expectationsOf packet.expectedPostStateFingerprint
      (defaultGuardFingerprint fingerprint state) }

/-- No check of the pre-phase looks at the objects of the state: a packet with
commands, signed again, is accepted on any state. -/
theorem verify_pre_restate (hvalid : (validateExternalTransaction fingerprint packet manifest).isOk)
    (hwrites : packet.commands ≠ []) (state : LiveState) :
    verifyExternalTransaction fingerprint (restate fingerprint packet state) manifest state .pre =
      .ok (verificationOf (restate fingerprint packet state) .pre false) := by
  obtain ⟨plan, hplan⟩ : ∃ plan, validateExternalTransaction fingerprint packet manifest =
      .ok plan := by
    cases h : validateExternalTransaction fingerprint packet manifest with
    | error e => simp [h, Except.isOk, Except.toBool] at hvalid
    | ok plan => exact ⟨plan, rfl⟩
  have hrestated : validateExternalTransaction fingerprint (restate fingerprint packet state)
      manifest = .ok plan := by
    simp only [validateExternalTransaction, bind_eq_ok, exists_unit, raiseIf_eq_ok, pure_eq_ok,
      validateCommands] at hplan ⊢
    obtain ⟨hschema, hcontract, hmode, hmanifest, -, htargeted, hraw, hlength, hbindings, hids,
      hassignment, ⟨rendered, hrender, hcommands, hrollbacks, hgates, hsave, -⟩, -,
      hpacket⟩ := hplan
    refine ⟨hschema, hcontract, hmode, hmanifest, by simp [restate, sign], htargeted, hraw, hlength,
      hbindings, hids, hassignment, ⟨rendered, hrender, hcommands, hrollbacks, hgates, hsave, ?_⟩,
      by simp [restate, sign], hpacket⟩
    rintro ⟨hnone, -⟩
    have hempty : rendered.1 = [] := by simpa using hnone
    exact hwrites (by simpa [hempty] using hcommands)
  have hguard : defaultGuardFingerprint fingerprint state =
      (restate fingerprint packet state).defaultGuardFingerprint := rfl
  have hpre : stateFingerprint fingerprint state =
      (restate fingerprint packet state).preStateFingerprint := rfl
  simp [verifyExternalTransaction, hrestated, ← hguard, ← hpre, raiseIf, pure, Except.pure]

theorem built_packet_agrees_sample : ∃ packet verification,
    verifyExternalTransaction CanonicalDigest.of packet (sampleManifest true) emptyState .pre =
        .ok verification ∧
      AgreesWith packet (sampleManifest true) emptyState := by
  obtain ⟨packet, profileOf, assignment, hpacket, built⟩ := sample_built true
  exact ⟨packet, _, built.verify_pre, built_packet_agrees CanonicalDigest.of_injective
    (sampleManifest_valid true) hpacket built.verify_pre⟩

/-- A router whose first proxy slot is taken by an object of somebody else. -/
def occupiedState : LiveState where
  proxies := [{ ProxyState.fresh "Proxy0" with description := "Uplink", protocol := "http" }]
  policies := []
  assignments := []
  defaultGuard := []
  proxyIds_nodup := by decide
  policyIds_nodup := List.nodup_nil
  deviceMacs_nodup := List.nodup_nil

/-- A packet made for an empty router and re-stated for an occupied one is
authorized there: it creates a proxy in the occupied slot, and its rollback
removes what was there before. -/
theorem restated_packet_overwrites : ∃ packet,
    verifyExternalTransaction CanonicalDigest.of packet (sampleManifest true) occupiedState .pre =
        .ok (verificationOf packet .pre false) ∧
      (verificationOf packet .pre false).commandsAuthorized = true ∧
      (∃ binding ∈ packet.bindings, binding.proxyAction = .create ∧
        binding.proxyId ∈ occupiedState.proxies.map (·.objectId)) ∧
      execLines packet.rollbackCommands (execLines packet.commands occupiedState) ≠
        occupiedState := by
  obtain ⟨packet, profileOf, assignment, hpacket, built⟩ := sample_built true
  have hvalid : (validateExternalTransaction CanonicalDigest.of packet
      (sampleManifest true)).isOk := by
    rw [built.validated]
    rfl
  have hbindings : packet.bindings = [payloadOf profileOf sampleBinding] := built.packet_bindings
  have hwrite : packet.writeRequired = true := by
    rw [built.packet_eq]
    rfl
  have hrollbacks : packet.rollbackCommands =
      ["no ip hotspot host 02:aa:bb:0c:dd:ee policy", "no ip policy Policy0",
        "no interface Proxy0"] := by
    rw [built.packet_eq]
    rfl
  refine ⟨restate CanonicalDigest.of packet occupiedState,
    verify_pre_restate hvalid ?_ occupiedState, ?_,
    ⟨payloadOf profileOf sampleBinding, ?_, rfl, ?_⟩, ?_⟩
  · rw [built.commands_eq]
    simp [plannedCommands, creatingProxies, samplePlan, sampleBinding, proxyCreateCommands]
  · have hkept : (restate CanonicalDigest.of packet occupiedState).writeRequired = true := hwrite
    simp [verificationOf, hkept]
  · have hkept : (restate CanonicalDigest.of packet occupiedState).bindings = packet.bindings := rfl
    rw [hkept, hbindings]
    exact List.mem_singleton_self _
  · exact List.mem_singleton_self _
  · have hread : NdmCommand.ofText "no interface Proxy0" = some (.noInterface "Proxy0") :=
      NdmCommand.ofText_text (⟨by decide, trivial⟩ : (NdmCommand.noInterface "Proxy0").WellFormed)
    have hkept : (restate CanonicalDigest.of packet occupiedState).rollbackCommands =
        packet.rollbackCommands := rfl
    intro hrestored
    rw [hkept, hrollbacks, execLines, List.foldl_cons, List.foldl_cons, List.foldl_cons,
      List.foldl_nil, execLine, hread] at hrestored
    have hproxies := congrArg (fun state => state.proxies.map (·.objectId)) hrestored
    have htaken : "Proxy0" ∈ occupiedState.proxies.map (·.objectId) := List.mem_singleton_self _
    rw [← hproxies] at htaken
    obtain ⟨proxy, hproxy, hid⟩ := List.mem_map.mp htaken
    have hremoved := (List.mem_filter.mp hproxy).2
    exact absurd hid (by simpa using hremoved)

end Building

end External

end RouterKit.Netcraze
