import RouterKit.Netcraze.ExternalVerify

/-!
The rollback of a packet. Its commands are absorbed one by one by the rollback
commands: each of those removes an object or sets an assignment whatever the
transaction made of it. Running the rollback after any part of the commands
therefore comes to running it on the state before them, where it changes nothing.
-/

namespace RouterKit.Netcraze

open RouterKit.Lib.Checked
open RouterKit.Devices RouterKit.Lib
open RouterKit.Lib.Compensation (Absorbed absorbed_of_mem rollback_cut)

/-- What one creation command of a proxy does to the state. -/
def NdmCommand.EntersProxy (command : NdmCommand) (proxyId : String) : Prop :=
  ∃ f, ∃ hf : ∀ proxy : ProxyState, (f proxy).objectId = proxy.objectId,
    ∀ state : LiveState, command.exec state = state.touchProxy proxyId f hf

def NdmCommand.EntersPolicy (command : NdmCommand) (policyId : String) : Prop :=
  ∃ f, ∃ hf : ∀ policy : PolicyState, (f policy).objectId = policy.objectId,
    ∀ state : LiveState, command.exec state = state.touchPolicy policyId f hf

theorem proxyCreateCommands_enter {binding : BindingPlan} {profile : LocalProxyProfile}
    {command : NdmCommand} (h : command ∈ proxyCreateCommands binding profile) :
    command.EntersProxy binding.proxyId := by
  simp only [proxyCreateCommands, List.mem_cons, List.not_mem_nil, or_false] at h
  rcases h with rfl | rfl | rfl | rfl | rfl <;>
    exact ⟨_, by intro; rfl, fun _ => rfl⟩

theorem policyCreateCommands_enter {binding : BindingPlan} {profile : LocalProxyProfile}
    {command : NdmCommand} (h : command ∈ policyCreateCommands binding profile) :
    command.EntersPolicy binding.policyId := by
  simp only [policyCreateCommands, List.mem_cons, List.not_mem_nil, or_false] at h
  rcases h with rfl | rfl <;>
    exact ⟨_, by intro; rfl, fun _ => rfl⟩

/-- The commands a rollback consists of. -/
inductive NdmCommand.TakesBack : NdmCommand → Prop
  | proxy (proxyId : String) : TakesBack (.noInterface proxyId)
  | policy (policyId : String) : TakesBack (.noPolicy policyId)
  | assigned (deviceMac policyId : String) : TakesBack (.hotspotHostPolicy deviceMac policyId)
  | unassigned (deviceMac : String) : TakesBack (.noHotspotHostPolicy deviceMac)

namespace LiveState

theorem removeProxy_touchProxy_of_ne (state : LiveState) {proxyId other : String}
    {f : ProxyState → ProxyState} (hf : ∀ proxy, (f proxy).objectId = proxy.objectId)
    (hne : proxyId ≠ other) :
    (state.touchProxy proxyId f hf).removeProxy other =
      (state.removeProxy other).touchProxy proxyId f hf :=
  LiveState.ext
    (Keyed.remove_touch_of_ne ProxyState.objectId (.fresh proxyId) hf hne state.proxies) rfl rfl rfl

theorem removePolicy_touchPolicy_of_ne (state : LiveState) {policyId other : String}
    {f : PolicyState → PolicyState} (hf : ∀ policy, (f policy).objectId = policy.objectId)
    (hne : policyId ≠ other) :
    (state.touchPolicy policyId f hf).removePolicy other =
      (state.removePolicy other).touchPolicy policyId f hf :=
  LiveState.ext rfl
    (Keyed.remove_touch_of_ne PolicyState.objectId (.fresh policyId) hf hne state.policies) rfl rfl

theorem assign_overwrite (state : LiveState) (deviceMac policyId former : String) :
    (state.assign deviceMac policyId).assign deviceMac former = state.assign deviceMac former := by
  have htouch := Keyed.touch_overwrite Prod.fst (deviceMac, "")
    (f := fun entry => (entry.1, policyId)) (g := fun entry => (entry.1, former))
    (fun _ => rfl) (fun _ => rfl) state.assignments
  exact LiveState.ext rfl rfl htouch rfl

theorem unassign_overwrite (state : LiveState) (deviceMac policyId : String) :
    (state.assign deviceMac policyId).unassign deviceMac = state.unassign deviceMac := by
  have htouch := Keyed.remove_touch Prod.fst (deviceMac, "")
    (f := fun entry => (entry.1, policyId)) (fun _ => rfl) state.assignments
  exact LiveState.ext rfl rfl htouch rfl

/-- Assigning a device the policy it has. -/
theorem assign_current {state : LiveState} {deviceMac former : String}
    (h : state.assignmentOf deviceMac = some former) : state.assign deviceMac former = state := by
  have hrestored : (state.assign deviceMac former).assign deviceMac former = state :=
    assign_assign h
  rwa [assign_overwrite] at hrestored

theorem unassign_absent {state : LiveState} {deviceMac : String}
    (h : state.assignmentOf deviceMac = none) : state.unassign deviceMac = state := by
  have hrestored : (state.assign deviceMac "").unassign deviceMac = state := unassign_assign h
  rwa [unassign_overwrite] at hrestored

end LiveState

section Absorbing

variable {undo : List NdmCommand} (htakes : ∀ command ∈ undo, command.TakesBack)
include htakes

/-- Whatever is done to a proxy is gone once the rollback has removed it. -/
theorem absorbed_entersProxy {command : NdmCommand} {proxyId : String}
    (henters : command.EntersProxy proxyId) (hmem : .noInterface proxyId ∈ undo) :
    Absorbed NdmCommand.exec undo command := by
  obtain ⟨f, hf, hexec⟩ := henters
  apply absorbed_of_mem hmem
  · intro state
    rw [hexec]
    exact state.removeProxy_touchProxy proxyId f hf
  · intro other hother hne state
    rw [hexec, hexec]
    cases htakes other hother with
    | proxy otherId =>
        have hids : proxyId ≠ otherId := fun heq => hne (heq ▸ rfl)
        exact state.removeProxy_touchProxy_of_ne hf hids
    | policy | assigned | unassigned => rfl

theorem absorbed_entersPolicy {command : NdmCommand} {policyId : String}
    (henters : command.EntersPolicy policyId) (hmem : .noPolicy policyId ∈ undo) :
    Absorbed NdmCommand.exec undo command := by
  obtain ⟨f, hf, hexec⟩ := henters
  apply absorbed_of_mem hmem
  · intro state
    rw [hexec]
    exact state.removePolicy_touchPolicy policyId f hf
  · intro other hother hne state
    rw [hexec, hexec]
    cases htakes other hother with
    | policy otherId =>
        have hids : policyId ≠ otherId := fun heq => hne (heq ▸ rfl)
        exact state.removePolicy_touchPolicy_of_ne hf hids
    | proxy | assigned | unassigned => rfl

end Absorbing

namespace External

section Planned

variable {rules : PlanRules} {manifest : LocalEndpointManifest} {state : LiveState}
  {mac : Option String} {profileSlot : Option Nat} {allowMove : Bool} {plan : LivePlan}
  {profileOf : BindingPlan → LocalProxyProfile}

/-- What sets the device's assignment back. -/
def assignmentRollback (state : LiveState) (deviceMac : String) : NdmCommand :=
  match state.assignmentOf deviceMac with
  | none => .noHotspotHostPolicy deviceMac
  | some previous => .hotspotHostPolicy deviceMac previous

theorem mem_plannedRollbacks {command : NdmCommand} :
    command ∈ plannedRollbacks plan state mac ↔
      (∃ deviceMac policyId, writtenAssignment plan mac = some (deviceMac, policyId) ∧
        command = assignmentRollback state deviceMac) ∨
      (∃ binding ∈ creatingPolicies plan.bindings, command = .noPolicy binding.policyId) ∨
      ∃ binding ∈ creatingProxies plan.bindings, command = .noInterface binding.proxyId := by
  unfold plannedRollbacks assignmentRollback
  cases hwritten : writtenAssignment plan mac with
  | none => simp [eq_comm]
  | some written =>
      obtain ⟨deviceMac, policyId⟩ := written
      cases hcurrent : state.assignmentOf deviceMac <;> simp [eq_comm, hcurrent]

theorem assignmentRollback_takesBack (state : LiveState) (deviceMac : String) :
    (assignmentRollback state deviceMac).TakesBack := by
  unfold assignmentRollback
  cases state.assignmentOf deviceMac with
  | none => exact .unassigned deviceMac
  | some previous => exact .assigned deviceMac previous

theorem plannedRollbacks_takesBack :
    ∀ command ∈ plannedRollbacks plan state mac, command.TakesBack := by
  intro command hcommand
  rcases mem_plannedRollbacks.mp hcommand with ⟨deviceMac, policyId, -, rfl⟩ | ⟨binding, -, rfl⟩ |
    ⟨binding, -, rfl⟩
  · exact assignmentRollback_takesBack state deviceMac
  · exact .policy _
  · exact .proxy _

/-- Whatever was assigned to the device is overwritten when its assignment is
set back. -/
theorem absorbed_hotspotHostPolicy {deviceMac policyId : String}
    (hmem : assignmentRollback state deviceMac ∈ plannedRollbacks plan state mac)
    (hwritten : writtenAssignment plan mac = some (deviceMac, policyId)) :
    Absorbed NdmCommand.exec (plannedRollbacks plan state mac)
      (.hotspotHostPolicy deviceMac policyId) := by
  apply absorbed_of_mem hmem
  · intro s
    unfold assignmentRollback
    cases state.assignmentOf deviceMac with
    | none => exact s.unassign_overwrite deviceMac policyId
    | some previous => exact s.assign_overwrite deviceMac policyId previous
  · intro other hother hne s
    rcases mem_plannedRollbacks.mp hother with ⟨device, policy, hsame, rfl⟩ | ⟨binding, -, rfl⟩ |
      ⟨binding, -, rfl⟩
    · cases hwritten.symm.trans hsame
      exact absurd rfl hne
    · rfl
    · rfl

/-- Every command of a plan is absorbed by the plan's rollback. -/
theorem plannedCommands_absorbed :
    ∀ command ∈ plannedCommands plan profileOf mac,
      Absorbed NdmCommand.exec (plannedRollbacks plan state mac) command := by
  intro command hcommand
  have htakes : ∀ other ∈ plannedRollbacks plan state mac, other.TakesBack :=
    plannedRollbacks_takesBack
  simp only [plannedCommands, List.mem_append, List.mem_flatMap] at hcommand
  rcases hcommand with (⟨binding, hbinding, hcommand⟩ | ⟨binding, hbinding, hcommand⟩) | hcommand
  · apply absorbed_entersProxy htakes (proxyCreateCommands_enter hcommand)
    exact mem_plannedRollbacks.mpr (.inr (.inr ⟨binding, hbinding, rfl⟩))
  · apply absorbed_entersPolicy htakes (policyCreateCommands_enter hcommand)
    exact mem_plannedRollbacks.mpr (.inr (.inl ⟨binding, hbinding, rfl⟩))
  · split at hcommand
    · next deviceMac policyId hwritten =>
      obtain rfl := List.mem_singleton.mp hcommand
      apply absorbed_hotspotHostPolicy _ hwritten
      exact mem_plannedRollbacks.mpr (.inl ⟨deviceMac, policyId, hwritten, rfl⟩)
    · exact absurd hcommand List.not_mem_nil

/-- A list of commands none of which changes the state. -/
theorem execAll_idle {commands : List NdmCommand} {state : LiveState}
    (h : ∀ command ∈ commands, command.exec state = state) : execAll commands state = state := by
  induction commands with
  | nil => rfl
  | cons command rest ih =>
      have hfirst := h command List.mem_cons_self
      have hrest := ih (fun c hc => h c (List.mem_cons_of_mem _ hc))
      rw [execAll, Compensation.execAll_cons, hfirst]
      exact hrest

/-- Before the transaction there is nothing to take back: the ids it creates are
free and the device has the policy it is set back to. -/
theorem plannedRollbacks_idle
    (hproxies : ∀ binding ∈ creatingProxies plan.bindings,
      binding.proxyId ∉ state.proxies.map (·.objectId))
    (hpolicies : ∀ binding ∈ creatingPolicies plan.bindings,
      binding.policyId ∉ state.policies.map (·.objectId)) :
    execAll (plannedRollbacks plan state mac) state = state := by
  apply execAll_idle
  intro command hcommand
  rcases mem_plannedRollbacks.mp hcommand with ⟨deviceMac, policyId, -, rfl⟩ |
    ⟨binding, hbinding, rfl⟩ | ⟨binding, hbinding, rfl⟩
  · unfold assignmentRollback
    cases hcurrent : state.assignmentOf deviceMac with
    | none => exact LiveState.unassign_absent hcurrent
    | some previous => exact LiveState.assign_current hcurrent
  · exact LiveState.removePolicy_of_absent (hpolicies binding hbinding)
  · exact LiveState.removeProxy_of_absent (hproxies binding hbinding)

variable (planned : Planned rules manifest state mac profileSlot allowMove plan profileOf)
include planned

theorem plannedRollbacks_wellFormed (admissible : Admissible plan state mac)
    (hmac : ∀ deviceMac, mac = some deviceMac → NdmCommand.IsWord deviceMac) :
    ∀ command ∈ plannedRollbacks plan state mac, command.WellFormed := by
  intro command hcommand
  rcases mem_plannedRollbacks.mp hcommand with ⟨deviceMac, policyId, hwritten, rfl⟩ |
    ⟨binding, hbinding, rfl⟩ | ⟨binding, hbinding, rfl⟩
  · have hdevice := (writtenAssignment_eq_some planned hwritten).1
    have hword := hmac deviceMac hdevice
    unfold assignmentRollback
    cases hcurrent : state.assignmentOf deviceMac with
    | none =>
        simp only [NdmCommand.WellFormed, NdmCommand.words, List.forall_mem_cons,
          List.not_mem_nil, false_implies, implies_true, and_true]
        exact ⟨by decide, by decide, by decide, by decide, hword, by decide⟩
    | some previous =>
        obtain ⟨_, hprevious⟩ := admissible.previous deviceMac previous hdevice hcurrent
        exact hotspotHostPolicy_wellFormed hword
          (NdmCommand.isWord_of_numericId hprevious (by decide))
  · obtain ⟨-, _, hpolicy⟩ := admissible.ids binding (creatingPolicies_mem.mp hbinding).1
    have hword := NdmCommand.isWord_of_numericId hpolicy (by decide)
    simp only [NdmCommand.WellFormed, NdmCommand.words, List.forall_mem_cons,
      List.not_mem_nil, false_implies, implies_true, and_true]
    exact ⟨by decide, by decide, by decide, hword⟩
  · obtain ⟨⟨_, hproxy⟩, -⟩ := admissible.ids binding (creatingProxies_mem.mp hbinding).1
    have hword := NdmCommand.isWord_of_numericId hproxy (by decide)
    simp only [NdmCommand.WellFormed, NdmCommand.words, List.forall_mem_cons,
      List.not_mem_nil, false_implies, implies_true, and_true]
    exact ⟨by decide, by decide, hword⟩

end Planned

section Results

variable {Digest : Type} {fingerprint : Payload Digest → Digest}
  {manifest : LocalEndpointManifest} {state : LiveState} {deviceMac : Option String}
  {profileSlot : Option Nat} {allowMove : Bool} {packet : Packet Digest}

namespace Built

variable {mac : Option String} {plan : LivePlan} {profileOf : BindingPlan → LocalProxyProfile}
  {assignment : Assignment}
  (built : Built fingerprint manifest state deviceMac profileSlot allowMove packet mac plan
    profileOf assignment)
include built

theorem commands_eq :
    packet.commands = (plannedCommands plan profileOf mac).map NdmCommand.text := by
  rw [built.packet_eq]
  rfl

theorem words : ∀ m, mac = some m → NdmCommand.IsWord m :=
  fun m hm => normalizeTrustedDeviceMac_no_space (built.normalized_mac m hm)

/-- The created ids are free in every state that lists the planned one's objects. -/
theorem created_fresh {current : LiveState} (hsame : current.Same state) :
    (∀ binding ∈ creatingProxies plan.bindings,
      binding.proxyId ∉ current.proxies.map (·.objectId)) ∧
    ∀ binding ∈ creatingPolicies plan.bindings,
      binding.policyId ∉ current.policies.map (·.objectId) := by
  constructor
  · intro binding hbinding hmem
    have hlisted := (hsame.proxies.map (·.objectId)).mem_iff.mp hmem
    exact built.planned.proxies_fresh binding hbinding hlisted
  · intro binding hbinding hmem
    have hlisted := (hsame.policies.map (·.objectId)).mem_iff.mp hmem
    exact built.planned.policies_fresh binding hbinding hlisted

/-- A built packet's commands, cut off anywhere on the state it was planned for,
in whatever order that is listed, are taken back by its rollback commands. -/
theorem rollback_restores {current : LiveState} (hsame : current.Same state)
    {done rest : List String} (hcut : packet.commands = done ++ rest) :
    execLines packet.rollbackCommands (execLines done current) = current := by
  have hcommands := plannedCommands_wellFormed built.planned built.admissible built.words
  have hrollbacks := plannedRollbacks_wellFormed built.planned built.admissible built.words
  have hundo : packet.rollbackCommands = (plannedRollbacks plan state mac).map NdmCommand.text := by
    rw [built.packet_eq]
    rfl
  have hcurrent : plannedRollbacks plan state mac = plannedRollbacks plan current mac := by
    simp only [plannedRollbacks, hsame.assignmentOf]
  obtain ⟨first, last, hsplit, rfl, rfl⟩ :=
    List.map_eq_append_iff.mp (built.commands_eq.symm.trans hcut)
  have hfirst : ∀ command ∈ first, command.WellFormed := by
    intro command hcommand
    exact hcommands command (hsplit ▸ List.mem_append_left last hcommand)
  obtain ⟨hproxies, hpolicies⟩ := built.created_fresh hsame
  rw [hundo, execLines_text hfirst, execLines_text hrollbacks, hcurrent]
  exact rollback_cut hsplit plannedCommands_absorbed (plannedRollbacks_idle hproxies hpolicies)

end Built

variable [DecidableEq Digest]

theorem hardwareContract_of_build {hardwareContract : String}
    (h : buildExternalTransaction fingerprint manifest state deviceMac profileSlot allowMove
      hardwareContract = .ok packet) : hardwareContract = supportedContract := by
  simp only [buildExternalTransaction, bind_eq_ok, raiseIf_eq_ok, not_not] at h
  exact h.choose_spec.1

/-- A built packet's commands, cut off anywhere, are taken back by its rollback
commands: the router is in the state the packet was planned for. -/
theorem external_rollback_restores (valid : manifest.Valid) {hardwareContract : String}
    (hbuild : buildExternalTransaction fingerprint manifest state deviceMac profileSlot allowMove
      hardwareContract = .ok packet) {done rest : List String}
    (hcut : packet.commands = done ++ rest) :
    execLines packet.rollbackCommands (execLines done state) = state := by
  rw [hardwareContract_of_build hbuild] at hbuild
  obtain ⟨mac, plan, profileOf, assignment, built⟩ := build_eq_ok valid hbuild
  exact built.rollback_restores (.refl state) hcut

theorem external_rollback_restores_sample : ∃ packet,
    buildExternalTransaction CanonicalDigest.of (sampleManifest true) emptyState (some sampleMac)
        (some 1) false = .ok packet ∧
      execLines packet.rollbackCommands (execLines (packet.commands.take 3) emptyState) =
        emptyState := by
  obtain ⟨packet, -, -, hpacket, -⟩ := sample_built true
  exact ⟨packet, hpacket, external_rollback_restores (sampleManifest_valid true) hpacket
    (List.take_append_drop 3 packet.commands).symm⟩

end Results

end External

end RouterKit.Netcraze
