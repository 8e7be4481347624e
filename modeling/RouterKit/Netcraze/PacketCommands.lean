import RouterKit.Devices.MacLanguage
import RouterKit.Netcraze.PacketRoundTrip

/-!
What an accepted packet can make a router do. Whoever wrote the packet, its
lines are the fixed commands of its own bindings: they name native ids in range,
names and endpoints of the manifest and one trusted address, and take back only
what the packet itself creates.
-/

namespace RouterKit.Netcraze

open RouterKit.Lib RouterKit.Lib.Checked RouterKit.Lib.PyText RouterKit.Devices

/-- One line of printable ASCII characters. -/
def Printable (text : String) : Prop :=
  ∀ c ∈ text.toList, 0x20 ≤ c.toNat ∧ c.toNat < 0x7f

instance (text : String) : Decidable (Printable text) :=
  inferInstanceAs (Decidable (∀ c ∈ text.toList, _))

theorem IsNative.printable {prefixText objectId : String} {maximum : Nat}
    (hprefixText : Printable prefixText) (h : IsNative prefixText maximum objectId) :
    Printable objectId := by
  obtain ⟨number, hnumber, -⟩ := h
  unfold nativeNumber at hnumber
  dsimp only at hnumber
  split at hnumber
  · next hspelled =>
    obtain ⟨htake, -, hdigits⟩ := hspelled
    intro c hc
    rw [← List.take_append_drop prefixText.length objectId.toList, htake, List.mem_append] at hc
    rcases hc with hleft | hright
    · exact hprefixText c hleft
    · have hdigit := List.all_eq_true.mp hdigits c hright
      simp only [isAsciiDigit, Bool.and_eq_true, decide_eq_true_eq] at hdigit
      omega
  · cases hnumber

private theorem colonPairs_printable {digits : List Char} (h : ∀ c ∈ digits, isHexDigit c = true) :
    ∀ c ∈ colonPairs digits, 0x20 ≤ c.toNat ∧ c.toNat < 0x7f := by
  have hlower : ∀ c, isHexDigit c = true →
      0x20 ≤ (asciiLower c).toNat ∧ (asciiLower c).toNat < 0x7f := by
    intro c hc
    have hhex := (isHexDigit_asciiLower hc).1
    simp only [isHexDigit, isAsciiDigit, Bool.or_eq_true, Bool.and_eq_true,
      decide_eq_true_eq] at hhex
    omega
  fun_induction colonPairs digits with
  | case1 hi lo =>
      simp only [List.forall_mem_cons] at h ⊢
      exact ⟨hlower hi h.1, hlower lo h.2.1, by simp⟩
  | case2 hi lo rest _ ih =>
      simp only [List.forall_mem_cons] at h ⊢
      exact ⟨hlower hi h.1, hlower lo h.2.1, by decide, ih h.2.2⟩
  | case3 => simp

theorem normalizedMac_printable {mac : String} (h : normalizeTrustedDeviceMac mac = .ok mac) :
    Printable mac := by
  unfold normalizeTrustedDeviceMac at h
  split at h
  · cases h
  · split at h
    · cases h
    · next compact hcompact =>
      split at h
      · cases h
      · have heq := Except.ok.inj h
        intro c hc
        rw [← heq, String.toList_ofList] at hc
        exact colonPairs_printable (compactMac_digits hcompact).2 c hc

namespace External

/-- A binding of the plan, of native ids, with the profile of the manifest it serves. -/
structure Serves (manifest : LocalEndpointManifest) (plan : LivePlan) (binding : BindingPlan)
    (profile : LocalProxyProfile) : Prop where
  planned : binding ∈ plan.bindings
  listed : profile ∈ manifest.profiles
  slot : profile.slot = binding.slot
  acceptable : profile.Acceptable
  proxyId : IsNative "Proxy" maxProxyIndex binding.proxyId
  policyId : IsNative "Policy" maxPolicyIndex binding.policyId

/-- The commands that a packet of this plan sends. -/
inductive Sent (manifest : LocalEndpointManifest) (plan : LivePlan) (mac : Option String) :
    NdmCommand → Prop where
  | proxy {binding : BindingPlan} {profile : LocalProxyProfile} {command : NdmCommand} :
      Serves manifest plan binding profile → binding.proxyAction = .create →
      command ∈ proxyCreateCommands binding profile → Sent manifest plan mac command
  | policy {binding : BindingPlan} {profile : LocalProxyProfile} {command : NdmCommand} :
      Serves manifest plan binding profile → binding.policyAction = .create →
      command ∈ policyCreateCommands binding profile → Sent manifest plan mac command
  | assignment {binding : BindingPlan} {profile : LocalProxyProfile} {deviceMac : String} :
      Serves manifest plan binding profile → plan.selectedSlot = some binding.slot →
      plan.assignmentAction ∈ [.assign, .move] → mac = some deviceMac →
      Sent manifest plan mac (.hotspotHostPolicy deviceMac binding.policyId)

/-- The commands that take back what some commands do: a deletion for an object
they create, and the device's former policy, or none. -/
inductive Undoing (manifest : LocalEndpointManifest) (plan : LivePlan) (mac : Option String)
    (commands : List NdmCommand) : NdmCommand → Prop where
  | proxy {binding : BindingPlan} {profile : LocalProxyProfile} :
      Serves manifest plan binding profile →
      (∀ command ∈ proxyCreateCommands binding profile, command ∈ commands) →
      Undoing manifest plan mac commands (.noInterface binding.proxyId)
  | policy {binding : BindingPlan} {profile : LocalProxyProfile} :
      Serves manifest plan binding profile →
      (∀ command ∈ policyCreateCommands binding profile, command ∈ commands) →
      Undoing manifest plan mac commands (.noPolicy binding.policyId)
  | unassign {deviceMac policyId : String} : mac = some deviceMac →
      plan.assignmentAction = .assign → .hotspotHostPolicy deviceMac policyId ∈ commands →
      Undoing manifest plan mac commands (.noHotspotHostPolicy deviceMac)
  | restore {deviceMac policyId previous : String} : mac = some deviceMac →
      plan.assignmentAction = .move → .hotspotHostPolicy deviceMac policyId ∈ commands →
      IsNative "Policy" maxPolicyIndex previous →
      Undoing manifest plan mac commands (.hotspotHostPolicy deviceMac previous)

section Lines

variable {manifest : LocalEndpointManifest} {plan : LivePlan} {mac : Option String}

private theorem printable_text {command : NdmCommand}
    (h : ∀ word ∈ command.words, Printable word) : Printable command.text := by
  intro c hc
  rw [NdmCommand.text, String.toList_intercalate] at hc
  have hwords : ∀ words : List (List Char), (∀ word ∈ words, ∀ c ∈ word, 0x20 ≤ c.toNat ∧
      c.toNat < 0x7f) → c ∈ [' '].intercalate words → 0x20 ≤ c.toNat ∧ c.toNat < 0x7f := by
    intro words
    induction words with
    | nil =>
        intro _ hmem
        cases hmem
    | cons word rest ih =>
        intro hall hmem
        obtain ⟨hword, hrest⟩ := List.forall_mem_cons.mp hall
        cases rest with
        | nil => exact hword c (by simpa [List.intercalate] using hmem)
        | cons next more =>
            rw [List.intercalate_cons_cons, List.mem_append, List.mem_append] at hmem
            rcases hmem with (hmem | hmem) | hmem
            · exact hword c hmem
            · rw [List.mem_singleton.mp hmem]
              decide
            · exact ih hrest hmem
  apply hwords _ _ hc
  intro word hword
  obtain ⟨value, hvalue, rfl⟩ := List.mem_map.mp hword
  exact h value hvalue

private theorem expectedPorts_printable : ∀ port ∈ expectedPorts,
    Printable ("RouterKit-SOCKS-" ++ toString port) ∧
      Printable ("RouterKit-Policy-" ++ toString port) ∧ Printable (toString port) := by
  decide +kernel

private theorem loopbackHosts_printable : ∀ host ∈ loopbackHosts, Printable host := by decide

theorem proxyCreateCommands_printable {binding : BindingPlan} {profile : LocalProxyProfile}
    (hserves : Serves manifest plan binding profile) :
    ∀ command ∈ proxyCreateCommands binding profile, Printable command.text := by
  have hproxy := hserves.proxyId.printable (by decide)
  obtain ⟨hname, -, hport⟩ := expectedPorts_printable _ hserves.acceptable.port
  have hhost := loopbackHosts_printable _ hserves.acceptable.host
  intro command hcommand
  apply printable_text
  simp only [proxyCreateCommands, List.mem_cons, List.not_mem_nil, or_false] at hcommand
  rcases hcommand with rfl | rfl | rfl | rfl | rfl <;>
    simp only [NdmCommand.words, List.forall_mem_cons, List.not_mem_nil, false_implies,
      implies_true, and_true]
  · exact ⟨by decide, hproxy, by decide, hname⟩
  · exact ⟨by decide, hproxy, by decide, by decide⟩
  · exact ⟨by decide, hproxy, by decide, by decide, by decide⟩
  · exact ⟨by decide, hproxy, by decide, by decide, hhost, hport⟩
  · exact ⟨by decide, hproxy, by decide⟩

theorem policyCreateCommands_printable {binding : BindingPlan} {profile : LocalProxyProfile}
    (hserves : Serves manifest plan binding profile) :
    ∀ command ∈ policyCreateCommands binding profile, Printable command.text := by
  have hproxy := hserves.proxyId.printable (by decide)
  have hpolicy := hserves.policyId.printable (by decide)
  obtain ⟨-, hname, -⟩ := expectedPorts_printable _ hserves.acceptable.port
  intro command hcommand
  apply printable_text
  simp only [policyCreateCommands, List.mem_cons, List.not_mem_nil, or_false] at hcommand
  rcases hcommand with rfl | rfl <;>
    simp only [NdmCommand.words, List.forall_mem_cons, List.not_mem_nil, false_implies,
      implies_true, and_true]
  · exact ⟨by decide, by decide, hpolicy, by decide, hname⟩
  · exact ⟨by decide, by decide, hpolicy, by decide, by decide, hproxy⟩

private theorem hotspotHostPolicy_printable {deviceMac policyId : String}
    (hmac : Printable deviceMac) (hpolicy : Printable policyId) :
    Printable (NdmCommand.hotspotHostPolicy deviceMac policyId).text := by
  apply printable_text
  simp only [NdmCommand.words, List.forall_mem_cons, List.not_mem_nil, false_implies,
    implies_true, and_true]
  exact ⟨by decide, by decide, by decide, hmac, by decide, hpolicy⟩

theorem Sent.printable (hmac : ∀ deviceMac ∈ mac,
    normalizeTrustedDeviceMac deviceMac = .ok deviceMac)
    {command : NdmCommand} (h : Sent manifest plan mac command) : Printable command.text := by
  cases h with
  | proxy hserves _ hcommand => exact proxyCreateCommands_printable hserves _ hcommand
  | policy hserves _ hcommand => exact policyCreateCommands_printable hserves _ hcommand
  | assignment hserves _ _ hdevice =>
      exact hotspotHostPolicy_printable (normalizedMac_printable (hmac _ hdevice))
        (hserves.policyId.printable (by decide))

theorem Undoing.printable
    (hmac : ∀ deviceMac ∈ mac, normalizeTrustedDeviceMac deviceMac = .ok deviceMac)
    {commands : List NdmCommand} {command : NdmCommand}
    (h : Undoing manifest plan mac commands command) : Printable command.text := by
  cases h with
  | proxy hserves _ =>
      apply printable_text
      simp only [NdmCommand.words, List.forall_mem_cons, List.not_mem_nil, false_implies,
        implies_true, and_true]
      exact ⟨by decide, by decide, hserves.proxyId.printable (by decide)⟩
  | policy hserves _ =>
      apply printable_text
      simp only [NdmCommand.words, List.forall_mem_cons, List.not_mem_nil, false_implies,
        implies_true, and_true]
      exact ⟨by decide, by decide, by decide, hserves.policyId.printable (by decide)⟩
  | unassign hdevice _ _ =>
      apply printable_text
      simp only [NdmCommand.words, List.forall_mem_cons, List.not_mem_nil, false_implies,
        implies_true, and_true]
      exact ⟨by decide, by decide, by decide, by decide, normalizedMac_printable (hmac _ hdevice),
        by decide⟩
  | restore hdevice _ _ hprevious =>
      exact hotspotHostPolicy_printable (normalizedMac_printable (hmac _ hdevice))
        (hprevious.printable (by decide))

end Lines

section Accepted

variable {manifest : LocalEndpointManifest}

private theorem readBinding_spec {raw : Json String} {profile : LocalProxyProfile}
    {binding : Binding} (h : readBinding (raw, profile) = .ok binding) :
    binding.slot = profile.slot ∧ binding.endpoint = endpointOf profile ∧
      IsNative "Proxy" maxProxyIndex binding.proxyId ∧
      IsNative "Policy" maxPolicyIndex binding.policyId := by
  unfold readBinding at h
  dsimp only at h
  split at h
  · simp only [bind_eq_ok, exists_unit] at h
    obtain ⟨-, -, -, h⟩ := h
    split at h
    · simp only [bind_eq_ok, exists_unit] at h
      obtain ⟨-, -, h⟩ := h
      split at h
      · simp only [bind_eq_ok, pure_eq_ok] at h
        obtain ⟨_, hproxy, _, hpolicy, proxyAction, -, policyAction, -, rfl⟩ := h
        exact ⟨rfl, rfl, (numericId_read.mp ⟨_, hproxy⟩).1, (numericId_read.mp ⟨_, hpolicy⟩).1⟩
      · cases h
    · cases h
  · cases h

theorem readBindings_spec {value : Json String} {bindings : List Binding}
    (h : readBindings manifest value = .ok bindings) : ∀ binding ∈ bindings,
      ∃ profile ∈ manifest.profiles, binding.slot = profile.slot ∧
        IsNative "Proxy" maxProxyIndex binding.proxyId ∧
        IsNative "Policy" maxPolicyIndex binding.policyId := by
  intro binding hbinding
  unfold readBindings at h
  split at h
  · simp only [bind_eq_ok, exists_unit] at h
    obtain ⟨⟨raw, profile⟩, hmem, hread⟩ := mem_of_mapEach h.2 hbinding
    obtain ⟨hslot, -, hproxy, hpolicy⟩ := readBinding_spec hread
    exact ⟨profile, (List.of_mem_zip hmem).2, hslot, hproxy, hpolicy⟩
  · cases h

/-- An assignment that is read is empty, or names a normalized address, the
policy of one of the bindings, and a former policy that fits the action. -/
theorem readAssignment_spec {bindings : List Binding} {value : Json String}
    {assignment : Assignment} (h : readAssignment bindings value = .ok assignment) :
    assignment = noAssignment ∨ ∃ deviceMac, ∃ selected ∈ bindings,
      normalizeTrustedDeviceMac deviceMac = .ok deviceMac ∧
      assignment.deviceMac = some deviceMac ∧ assignment.selectedSlot = some selected.slot ∧
      assignment.targetPolicy = some selected.policyId ∧
      (∀ previous, assignment.previousPolicy = some previous →
        IsNative "Policy" maxPolicyIndex previous) ∧
      validatePreState assignment = .ok () := by
  unfold readAssignment at h
  split at h
  · simp only [bind_eq_ok, exists_unit] at h
    obtain ⟨-, action, -, h⟩ := h
    split at h
    · simp only [bind_eq_ok, exists_unit, pure_eq_ok] at h
      exact .inl h.2.symm
    · simp only [bind_eq_ok, exists_unit, pure_eq_ok] at h
      obtain ⟨deviceMac, hidentity, selected, htarget, previous, hprevious, hstate, rfl⟩ := h
      refine .inr ⟨deviceMac, selected, ?_, ?_, rfl, rfl, rfl, ?_, hstate⟩
      · unfold readTarget at htarget
        split at htarget
        · split at htarget
          · next found hfound =>
            simp only [bind_eq_ok, exists_unit, pure_eq_ok] at htarget
            obtain ⟨-, rfl⟩ := htarget
            exact List.mem_of_find?_eq_some hfound
          · cases htarget
        · cases htarget
      · unfold readIdentity at hidentity
        split at hidentity
        · split at hidentity
          · next normalized hnormalized =>
            simp only [bind_eq_ok, raiseIf_eq_ok, exists_unit, pure_eq_ok, not_not] at hidentity
            obtain ⟨rfl, rfl⟩ := hidentity
            exact hnormalized
          · cases hidentity
        · cases hidentity
      · intro former hformer
        unfold readPrevious at hprevious
        split at hprevious
        · cases hprevious
          cases hformer
        · simp only [bind_eq_ok, pure_eq_ok] at hprevious
          obtain ⟨number, hnumber, rfl⟩ := hprevious
          cases hformer
          exact (numericId_read.mp ⟨_, hnumber⟩).1
        · cases hprevious
  · cases h

/-- What was read of an accepted packet, and rendered from it again. -/
theorem validatePacketJson_read {digest : Json String → String} {packet : Json String}
    {plan : LivePlan} (h : validatePacketJson digest packet manifest = .ok plan) :
    ∃ fields bindings assignment commands rollbacks, packet = .obj fields ∧
      readBindings manifest (Json.get fields "bindings") = .ok bindings ∧
      readAssignment bindings (Json.get fields "assignment") = .ok assignment ∧
      plan = planOf bindings assignment ∧
      renderCommands manifest plan assignment = .ok (commands, rollbacks) ∧
      Json.get fields "commands" = textsJson (commands.map NdmCommand.text) ∧
      Json.get fields "rollback_commands" = textsJson (rollbacks.map NdmCommand.text) ∧
      Json.get fields "save_command" =
        textJson (if commands = [] then none else some NdmCommand.configurationSave.text) := by
  unfold validatePacketJson at h
  split at h
  · next fields =>
    simp only [bind_eq_ok, exists_unit, pure_eq_ok] at h
    obtain ⟨-, -, -, -, -, pre, -, post, -, guard, -, supplied, -, -, -, -, h⟩ := h
    obtain ⟨bindings, hbindings, -, assignment, hassignment, hcommands, -, rfl⟩ := h
    simp only [readCommands, bind_eq_ok, exists_unit, raiseIf_eq_ok, not_not] at hcommands
    obtain ⟨⟨commands, rollbacks⟩, hrender, hlines, hrollbacks, -, hsave, -⟩ := hcommands
    refine ⟨fields, bindings, assignment, commands, rollbacks, rfl, hbindings, hassignment, rfl,
      hrender, hlines, hrollbacks, ?_⟩
    rw [hsave]
    cases commands with
    | nil => rfl
    | cons command rest => rfl
  · cases h

/-- The bindings that were read serve the profiles of a valid manifest. -/
theorem exists_serves (valid : manifest.Valid) {bindings : List Binding} {value : Json String}
    (hread : readBindings manifest value = .ok bindings) (assignment : Assignment) :
    ∃ profileOf : BindingPlan → LocalProxyProfile,
      ∀ binding ∈ (planOf bindings assignment).bindings,
        profileBySlot manifest binding.slot = .ok (profileOf binding) ∧
        Serves manifest (planOf bindings assignment) binding (profileOf binding) := by
  have hnonempty : manifest.profiles ≠ [] := List.ne_nil_of_length_pos valid.nonempty
  refine ⟨fun binding => (profileBySlot manifest binding.slot).toOption.getD
    (manifest.profiles.head hnonempty), ?_⟩
  intro binding hbinding
  obtain ⟨item, hitem, rfl⟩ := List.mem_map.mp hbinding
  obtain ⟨profile, hprofile, hslot, hproxy, hpolicy⟩ := readBindings_spec hread item hitem
  have hnodup : (manifest.profiles.map (·.slot)).Nodup := by
    rw [valid.slots]
    exact List.nodup_range'
  have hfound : profileBySlot manifest item.slot = .ok profile := by
    unfold profileBySlot
    rw [hslot, Keyed.lookup_of_mem _ hnodup hprofile]
  dsimp only
  rw [hfound]
  exact ⟨rfl, ⟨hbinding, hprofile, hslot.symm, valid.acceptable profile hprofile, hproxy, hpolicy⟩⟩

/-- What a router is sent for a packet, what is sent to take it back, and the
save command: lines of the fixed shapes, for the packet's own plan. -/
structure BoundedBy (manifest : LocalEndpointManifest) (plan : LivePlan)
    (fields : List (String × Json String)) (mac : Option String)
    (commands rollbacks : List NdmCommand) : Prop where
  commands_json : Json.get fields "commands" = textsJson (commands.map NdmCommand.text)
  rollbacks_json : Json.get fields "rollback_commands" = textsJson (rollbacks.map NdmCommand.text)
  save_json : Json.get fields "save_command" =
    textJson (if commands = [] then none else some NdmCommand.configurationSave.text)
  normalized : ∀ deviceMac ∈ mac, normalizeTrustedDeviceMac deviceMac = .ok deviceMac
  sent : ∀ command ∈ commands, Sent manifest plan mac command
  undoing : ∀ command ∈ rollbacks, Undoing manifest plan mac commands command
  printable : ∀ command ∈ .configurationSave :: commands ++ rollbacks, Printable command.text

/-- The plan an accepted packet is read as: its own bindings. -/
def ReadFrom (manifest : LocalEndpointManifest) (fields : List (String × Json String))
    (plan : LivePlan) : Prop :=
  ∃ bindings assignment, readBindings manifest (Json.get fields "bindings") = .ok bindings ∧
    readAssignment bindings (Json.get fields "assignment") = .ok assignment ∧
    plan = planOf bindings assignment

private theorem renderAssignment_spec {plan : LivePlan} {bindings : List Binding}
    {assignment : Assignment} {value : Json String} {profileOf : BindingPlan → LocalProxyProfile}
    (hread : readAssignment bindings value = .ok assignment)
    (hplan : plan = planOf bindings assignment)
    (hserves : ∀ binding ∈ plan.bindings, Serves manifest plan binding (profileOf binding))
    {commands : List NdmCommand} (hsent : ∀ command ∈ (renderAssignment assignment).1,
      command ∈ commands) :
    ∃ mac, (∀ deviceMac ∈ mac, normalizeTrustedDeviceMac deviceMac = .ok deviceMac) ∧
      (∀ command ∈ (renderAssignment assignment).1, Sent manifest plan mac command) ∧
      ∀ command ∈ (renderAssignment assignment).2, Undoing manifest plan mac commands command := by
  rcases readAssignment_spec hread with
    rfl | ⟨deviceMac, selected, hselected, hnormalized, hmac, hslot, htarget, hprevious, hstate⟩
  · exact ⟨none, by simp, by simp [renderAssignment, noAssignment],
      by simp [renderAssignment, noAssignment]⟩
  · refine ⟨some deviceMac, by simpa using hnormalized, ?_⟩
    unfold renderAssignment at hsent ⊢
    split at hsent
    · next hwritten =>
      rw [if_pos hwritten]
      simp only [hmac, htarget, strOf, Option.getD_some, List.mem_singleton, forall_eq] at hsent ⊢
      constructor
      · have hbinding : (⟨selected.slot, selected.endpoint.port, selected.proxyId,
            selected.policyId, selected.proxyAction, selected.policyAction⟩ : BindingPlan) ∈
            plan.bindings := by
          rw [hplan]
          exact List.mem_map.mpr ⟨selected, hselected, rfl⟩
        exact .assignment (hserves _ hbinding) (by rw [hplan]; exact hslot)
          (by rw [hplan]; exact hwritten) rfl
      · simp only [validatePreState, bind_eq_ok, exists_unit, raiseIf_eq_ok, not_and, not_not,
          not_or] at hstate
        obtain ⟨hassign, -, hmove⟩ := hstate
        have haction : plan.assignmentAction = assignment.action := by rw [hplan]; rfl
        simp only [List.mem_cons, List.not_mem_nil, or_false] at hwritten
        cases hformer : assignment.previousPolicy with
        | none =>
            simp only [List.mem_singleton, forall_eq]
            rcases hwritten with hwritten | hwritten
            · exact .unassign rfl (haction.trans hwritten) hsent
            · exact absurd hformer (hmove hwritten).1
        | some previous =>
            simp only [List.mem_singleton, forall_eq]
            rcases hwritten with hwritten | hwritten
            · rw [hassign hwritten] at hformer
              cases hformer
            · exact .restore rfl (haction.trans hwritten) hsent (hprevious previous hformer)
    · next hwritten =>
      rw [if_neg hwritten]
      exact ⟨by simp, by simp⟩

/-- Whatever packet is accepted, its lines stay within its own plan. -/
theorem accepted_packet_commands (valid : manifest.Valid) {digest : Json String → String}
    {packet : Json String} {plan : LivePlan}
    (h : validatePacketJson digest packet manifest = .ok plan) :
    ∃ fields mac commands rollbacks, packet = .obj fields ∧ ReadFrom manifest fields plan ∧
      BoundedBy manifest plan fields mac commands rollbacks := by
  obtain ⟨fields, bindings, assignment, commands, rollbacks, rfl, hbindings, hassignment, hplan,
    hrender, hlines, hrollbacks, hsave⟩ := validatePacketJson_read h
  obtain ⟨profileOf, hfound⟩ := exists_serves valid hbindings assignment
  rw [← hplan] at hfound
  have hserves := fun binding hbinding => (hfound binding hbinding).2
  simp only [renderCommands, renderProxies_eq fun binding hbinding => (hfound binding hbinding).1,
    renderPolicies_eq fun binding hbinding => (hfound binding hbinding).1, bind_ok_left,
    pure_eq_ok, Prod.mk.injEq] at hrender
  obtain ⟨rfl, rfl⟩ := hrender
  generalize hforward : (creatingProxies plan.bindings).flatMap
      (fun b => proxyCreateCommands b (profileOf b)) ++
      (creatingPolicies plan.bindings).flatMap (fun b => policyCreateCommands b (profileOf b)) ++
      (renderAssignment assignment).1 = commands at hlines hsave
  have hlast : ∀ command ∈ (renderAssignment assignment).1, command ∈ commands := by
    intro command hcommand
    rw [← hforward]
    exact List.mem_append_right _ hcommand
  obtain ⟨mac, hnormalized, hsent, hundone⟩ :=
    renderAssignment_spec hassignment hplan hserves hlast
  have hall : ∀ command ∈ commands, Sent manifest plan mac command := by
    intro command hcommand
    rw [← hforward] at hcommand
    rcases List.mem_append.mp hcommand with hcreation | hassigned
    · rcases List.mem_append.mp hcreation with hproxy | hpolicy
      · obtain ⟨binding, hbinding, hmem⟩ := List.mem_flatMap.mp hproxy
        obtain ⟨hplanned, hcreate⟩ := creatingProxies_mem.mp hbinding
        exact .proxy (hserves binding hplanned) hcreate hmem
      · obtain ⟨binding, hbinding, hmem⟩ := List.mem_flatMap.mp hpolicy
        obtain ⟨hplanned, hcreate⟩ := creatingPolicies_mem.mp hbinding
        exact .policy (hserves binding hplanned) hcreate hmem
    · exact hsent command hassigned
  have hback : ∀ command ∈ (renderAssignment assignment).2 ++
      ((creatingPolicies plan.bindings).map fun b => NdmCommand.noPolicy b.policyId).reverse ++
      ((creatingProxies plan.bindings).map fun b => NdmCommand.noInterface b.proxyId).reverse,
      Undoing manifest plan mac commands command := by
    intro command hcommand
    rcases List.mem_append.mp hcommand with hleft | hproxy
    · rcases List.mem_append.mp hleft with hassigned | hpolicy
      · exact hundone command hassigned
      · obtain ⟨binding, hbinding, rfl⟩ := List.mem_map.mp (List.mem_reverse.mp hpolicy)
        refine .policy (hserves binding (creatingPolicies_mem.mp hbinding).1) fun command hmem => ?_
        rw [← hforward]
        exact List.mem_append_left _ (List.mem_append_right _
          (List.mem_flatMap.mpr ⟨binding, hbinding, hmem⟩))
    · obtain ⟨binding, hbinding, rfl⟩ := List.mem_map.mp (List.mem_reverse.mp hproxy)
      refine .proxy (hserves binding (creatingProxies_mem.mp hbinding).1) fun command hmem => ?_
      rw [← hforward]
      exact List.mem_append_left _ (List.mem_append_left _
        (List.mem_flatMap.mpr ⟨binding, hbinding, hmem⟩))
  refine ⟨fields, mac, commands, _, rfl,
      ⟨bindings, assignment, hbindings, hassignment, hplan⟩, hlines,
    hrollbacks, hsave, hnormalized, hall, hback, ?_⟩
  intro command hcommand
  rcases List.mem_append.mp hcommand with hfirst | hrollback
  · rcases List.mem_cons.mp hfirst with rfl | hforward
    · decide +kernel
    · exact (hall command hforward).printable hnormalized
  · exact (hback command hrollback).printable hnormalized

end Accepted

theorem accepted_packet_commands_sample : ∃ fields mac commands rollbacks,
    ReadFrom (sampleManifest true) fields samplePlan ∧
      BoundedBy (sampleManifest true) samplePlan fields mac commands rollbacks := by
  have hzeros : ∀ value : Json String, IsHash
      ((fun _ => String.ofList (List.replicate 64 '0')) value) :=
    fun _ => zeros_isHash
  have hplan := LiveCompat.samplePlan_ok true
  obtain ⟨mac, profileOf, hmac, planned⟩ :=
    PlanRules.buildLivePlan_planned (sampleManifest_valid true) hplan
  have hrange : WithinRange emptyState :=
    ⟨by simp [emptyState], by simp [emptyState], by simp [emptyState]⟩
  have hpayload : assignmentPayload samplePlan emptyState (some sampleMac) =
      .ok (selectedAssignment samplePlan emptyState sampleMac sampleBinding) := rfl
  cases hmac.symm.trans (rfl : normalizeSelectedMac (some sampleMac) = .ok (some sampleMac))
  have hreadable : ReadableIds samplePlan emptyState (some sampleMac) :=
    ⟨by decide, by decide, fun _ _ _ hprevious => by cases hprevious⟩
  have built : Built (payloadFingerprint fun _ => String.ofList (List.replicate 64 '0'))
      (sampleManifest true) emptyState (some sampleMac) (some 1) false _ _ samplePlan profileOf _ :=
    ⟨hmac, hplan, planned, hpayload, (admissible_iff planned hrange rfl).mpr hreadable, rfl⟩
  have haccepted := (validatePacketJson_encoded _ _ (sampleManifest true)
    (hashed_plannedPacket hzeros ..)).trans built.validated
  obtain ⟨fields, given, commands, rollbacks, -, hread, hbounded⟩ :=
    accepted_packet_commands (sampleManifest_valid true) haccepted
  exact ⟨fields, given, commands, rollbacks, hread, hbounded⟩

end External

end RouterKit.Netcraze
