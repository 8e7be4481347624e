import RouterKit.Netcraze.PacketJson

/-!
A packet survives being written and loaded: the validator of loaded JSON does
on an encoded packet what the validator of packets does on the packet, and a
packet the planner returned is read back as the plan it was made from.
-/

namespace RouterKit.Netcraze

open RouterKit.Lib RouterKit.Lib.Checked RouterKit.Lib.PyText RouterKit.Devices

namespace External

theorem raiseIf_congr {ε : Type} {p q : Prop} [Decidable p] [Decidable q] (h : p ↔ q) (error : ε) :
    raiseIf p error = raiseIf q error := by
  unfold raiseIf
  simp only [h]

theorem strictKeys_sortedFields {fields : List (String × Json String)} {expected : List String}
    (h : fields.map Prod.fst = expected) (description : String) :
    strictKeys (Json.sortedFields fields) expected description = .ok () := by
  have hperm := Json.sortedFields_keys fields
  rw [h] at hperm
  rw [strictKeys, raiseIf_eq_ok, not_not]
  exact ⟨fun key hkey => hperm.mem_iff.mp hkey, fun key hkey => hperm.mem_iff.mpr hkey⟩

theorem endpointFields_keys (endpoint : Endpoint) : (endpointFields endpoint).map Prod.fst =
    ["protocol", "host", "port", "enabled", "auth_mode"] := rfl

theorem bindingFields_keys (binding : Binding) : (bindingFields binding).map Prod.fst =
    ["slot", "profile_label", "endpoint", "proxy_id", "policy_id", "proxy_action",
      "policy_action"] := rfl

theorem assignmentFields_keys (assignment : Assignment) :
    (assignmentFields assignment).map Prod.fst =
      ["action", "device_mac", "selected_slot", "target_policy", "previous_policy"] := rfl

theorem packetFields_keys (packet : Packet String) :
    (packetFields packet).map Prod.fst = topKeys := rfl

theorem packetFields_nodup (packet : Packet String) :
    ((packetFields packet).map Prod.fst).Nodup := by
  rw [packetFields_keys]
  decide

theorem sorted_endpoint_eq_iff {left right : Endpoint} :
    (Json.obj (endpointFields left)).sortKeys = (Json.obj (endpointFields right)).sortKeys ↔
      left = right := by
  constructor
  · intro h
    have hget := Json.get_congr h
    have hprotocol := hget "protocol"
    have hhost := hget "host"
    have hport := hget "port"
    have henabled := hget "enabled"
    have hmode := hget "auth_mode"
    simp [endpointFields] at hprotocol hhost hport henabled hmode
    obtain ⟨protocol, host, port, enabled, authMode⟩ := left
    obtain ⟨protocol', host', port', enabled', authMode'⟩ := right
    simp only [Endpoint.mk.injEq]
    exact ⟨hprotocol, hhost, by exact_mod_cast hport, henabled, hmode⟩
  · rintro rfl
    rfl

theorem readAction_text (action : ObjectAction) (description : String) :
    readAction (.str (ObjectAction.text action)) description = .ok action := by
  cases action <;> simp [readAction, ObjectAction.text]

theorem readAssignmentAction_text (action : AssignmentAction) :
    readAssignmentAction (.str (AssignmentAction.text action)) = .ok action := by
  cases action <;> simp [readAssignmentAction, AssignmentAction.text]

theorem readBinding_encoded (binding : Binding) (profile : LocalProxyProfile) :
    readBinding ((Json.obj (bindingFields binding)).sortKeys, profile) =
      (do validateBinding (binding, profile); pure binding) := by
  have hget := Json.get_sortedFields (bindingFields binding)
  have hkeys := strictKeys_sortedFields (bindingFields_keys binding) "External transaction binding"
  have hendpoint := strictKeys_sortedFields (endpointFields_keys binding.endpoint)
    "External transaction endpoint"
  have hsame : Json.sortedFields (Json.sortedFields (endpointFields binding.endpoint)) =
      Json.sortedFields (endpointFields (endpointOf profile)) ↔
        binding.endpoint = endpointOf profile := by
    have hidem := Json.sortKeys_sortKeys (Json.obj (endpointFields binding.endpoint))
    rw [← sorted_endpoint_eq_iff, ← hidem]
    simp only [Json.sortKeys_obj, Json.obj.injEq]
  have hcast : (binding.slot : Int) = profile.slot ↔ binding.slot = profile.slot := by omega
  simp only [readBinding, validateBinding, Json.sortKeys_obj, hkeys, hget, bind_ok_left]
  by_cases hslot : binding.slot = profile.slot
  · by_cases hlabel : binding.profileLabel = profile.label
    · by_cases hendpoint' : binding.endpoint = endpointOf profile
      · have hread : binding = {
            slot := profile.slot
            profileLabel := profile.label
            endpoint := endpointOf profile
            proxyId := binding.proxyId
            policyId := binding.policyId
            proxyAction := binding.proxyAction
            policyAction := binding.policyAction } := by
          rw [← hslot, ← hlabel, ← hendpoint']
        rw [hendpoint'] at hendpoint hsame
        simp only [bindingFields, Json.get_cons, String.reduceEq, if_false, if_true,
          Json.sortKeys_str, Json.sortKeys_int, Json.sortKeys_obj, hslot, hlabel, hendpoint',
          hendpoint, Json.obj.injEq, hsame, ne_eq, not_true, raiseIf_false, bind_ok_left,
          readAction_text, hread.symm]
        cases numericId binding.proxyId "Proxy" maxProxyIndex with
        | error error => rfl
        | ok number =>
            cases numericId binding.policyId "Policy" maxPolicyIndex with
            | error error => rfl
            | ok number => rfl
      · simp [bindingFields, hslot, hlabel, hendpoint, hsame, hendpoint', raiseIf]
    · simp [bindingFields, hslot, hlabel, raiseIf]
  · simp [bindingFields, hcast, hslot, raiseIf]

theorem mapEach_readBinding {bindings : List Binding} {profiles : List LocalProxyProfile}
    (hlength : bindings.length = profiles.length) :
    mapEach readBinding ((bindings.map (fun binding =>
        (Json.obj (bindingFields binding)).sortKeys)).zip profiles) =
      (do checkEach validateBinding (bindings.zip profiles); pure bindings) := by
  induction bindings generalizing profiles with
  | nil => rfl
  | cons binding rest ih =>
      cases profiles with
      | nil => simp at hlength
      | cons profile more =>
          have hmore : rest.length = more.length := by simpa using hlength
          have hrest := ih hmore
          simp only [List.map_cons, List.zip_cons_cons, mapEach, checkEach, readBinding_encoded,
            hrest]
          cases validateBinding (binding, profile) with
          | error error => rfl
          | ok u =>
              cases checkEach validateBinding (rest.zip more) with
              | error error => rfl
              | ok u => rfl

theorem readBindings_encoded (manifest : LocalEndpointManifest) (bindings : List Binding) :
    readBindings manifest (.arr (bindings.map (fun binding =>
        (Json.obj (bindingFields binding)).sortKeys))) = (do
      raiseIf (bindings.length ≠ manifest.profiles.length)
        (liveAdapterError "External transaction bindings are malformed.")
      checkEach validateBinding (bindings.zip manifest.profiles)
      pure bindings) := by
  simp only [readBindings, List.length_map]
  by_cases hlength : bindings.length = manifest.profiles.length
  · rw [mapEach_readBinding hlength]
  · simp [raiseIf, hlength]

theorem sortKeys_textJson (text : Option String) : (textJson text).sortKeys = textJson text := by
  cases text <;> simp [textJson]

theorem sortKeys_slotJson (slot : Option Nat) : (slotJson slot).sortKeys = slotJson slot := by
  cases slot <;> simp [slotJson]

/-- The identity, the target and the former policy of an encoded assignment. -/
theorem readIdentity_encoded (assignment : Assignment) :
    readIdentity (textJson assignment.deviceMac) = (do
      validateIdentity assignment
      pure (assignment.deviceMac.getD "")) := by
  unfold validateIdentity
  cases hmac : assignment.deviceMac with
  | none => rfl
  | some deviceMac =>
      simp only [readIdentity, textJson, Option.map_some, Option.getD_some]
      cases hnormalized : normalizeTrustedDeviceMac deviceMac with
      | error error => rfl
      | ok normalized =>
          apply congrArg (· >>= _)
          apply raiseIf_congr
          simp

theorem readPrevious_encoded (assignment : Assignment) :
    readPrevious (textJson assignment.previousPolicy) = (do
      validatePrevious assignment
      pure assignment.previousPolicy) := by
  unfold validatePrevious
  cases assignment.previousPolicy with
  | none => rfl
  | some previous =>
      simp only [readPrevious, textJson]
      cases numericId previous "Policy" maxPolicyIndex with
      | error error => rfl
      | ok number => rfl

theorem readTarget_encoded (bindings : List Binding) (assignment : Assignment) :
    readTarget bindings (slotJson assignment.selectedSlot) (textJson assignment.targetPolicy) = (do
      validateTarget bindings assignment
      match assignment.selectedSlot.bind (fun slot => Keyed.lookup (·.slot) slot bindings) with
      | some selected => pure selected
      | none => .error (liveAdapterError
          "External transaction assignment target is invalid.")) := by
  unfold validateTarget
  cases hslot : assignment.selectedSlot with
  | none => rfl
  | some slot =>
      have hfind : bindings.find? (fun binding => (binding.slot : Int) = slot) =
          Keyed.lookup (·.slot) slot bindings := by
        unfold Keyed.lookup
        congr 1
        funext binding
        simp only [decide_eq_decide]
        omega
      simp only [readTarget, slotJson, hfind, Option.bind_some]
      cases Keyed.lookup (·.slot) slot bindings with
      | none => simp [raiseIf]
      | some selected =>
          have htarget : textJson assignment.targetPolicy ≠ .str selected.policyId ↔
              assignment.targetPolicy ≠ some selected.policyId := by
            cases assignment.targetPolicy <;> simp [textJson]
          simp only [htarget, Option.all_some, decide_eq_true_eq]

theorem validateIdentity_ok {assignment : Assignment} (h : validateIdentity assignment = .ok ()) :
    ∃ deviceMac, assignment.deviceMac = some deviceMac := by
  cases hmac : assignment.deviceMac with
  | none =>
      rw [validateIdentity, hmac] at h
      cases h
  | some deviceMac => exact ⟨deviceMac, rfl⟩

theorem validateTarget_ok {bindings : List Binding} {assignment : Assignment}
    (h : validateTarget bindings assignment = .ok ()) :
    ∃ selected, assignment.selectedSlot = some selected.slot ∧
      Keyed.lookup (·.slot) selected.slot bindings = some selected ∧
      assignment.targetPolicy = some selected.policyId := by
  unfold validateTarget at h
  split at h
  · cases h
  · next slot hslot =>
    rw [raiseIf_eq_ok] at h
    cases hlookup : Keyed.lookup (·.slot) slot bindings with
    | none => simp [hlookup] at h
    | some selected =>
        obtain ⟨-, rfl⟩ := Keyed.lookup_some _ hlookup
        exact ⟨selected, hslot, hlookup, by simpa [hlookup] using h⟩

/-- An encoded assignment is read back once it has passed the checks. -/
theorem readAssignment_encoded (bindings : List Binding) (assignment : Assignment) :
    readAssignment bindings (Json.obj (assignmentFields assignment)).sortKeys =
      (do validateAssignment bindings assignment; pure assignment) := by
  have hget := Json.get_sortedFields (assignmentFields assignment)
  have hkeys := strictKeys_sortedFields (assignmentFields_keys assignment)
    "External transaction assignment"
  have haction : (Json.get (assignmentFields assignment) "action").sortKeys =
      .str (AssignmentAction.text assignment.action) := by simp [assignmentFields]
  have hmac : (Json.get (assignmentFields assignment) "device_mac").sortKeys =
      textJson assignment.deviceMac := by simp [assignmentFields, sortKeys_textJson]
  have hslot : (Json.get (assignmentFields assignment) "selected_slot").sortKeys =
      slotJson assignment.selectedSlot := by simp [assignmentFields, sortKeys_slotJson]
  have htarget : (Json.get (assignmentFields assignment) "target_policy").sortKeys =
      textJson assignment.targetPolicy := by simp [assignmentFields, sortKeys_textJson]
  have hprevious : (Json.get (assignmentFields assignment) "previous_policy").sortKeys =
      textJson assignment.previousPolicy := by simp [assignmentFields, sortKeys_textJson]
  simp only [readAssignment, validateAssignment, Json.sortKeys_obj, hkeys, hget, bind_ok_left,
    haction, readAssignmentAction_text]
  by_cases hnone : assignment.action = .none
  · have hempty : (∃ key ∈ ["device_mac", "selected_slot", "target_policy", "previous_policy"],
        Json.sortKeys (Json.get (assignmentFields assignment) key) ≠ .null) ↔
          assignment ≠ noAssignment := by
      obtain ⟨action, deviceMac, selectedSlot, targetPolicy, previousPolicy⟩ := assignment
      cases deviceMac <;> cases selectedSlot <;> cases targetPolicy <;> cases previousPolicy <;>
        simp_all [noAssignment, textJson, slotJson]
    simp only [if_pos hnone, raiseIf_congr hempty]
    by_cases hsame : assignment = noAssignment
    · simp [raiseIf, hsame]
    · simp [raiseIf, hsame]
  · simp only [if_neg hnone, hmac, hslot, htarget, hprevious, readIdentity_encoded,
      readTarget_encoded, readPrevious_encoded]
    cases hidentity : validateIdentity assignment with
    | error error => rfl
    | ok u =>
        obtain ⟨deviceMac, hdevice⟩ := validateIdentity_ok hidentity
        cases hvalid : validateTarget bindings assignment with
        | error error => rfl
        | ok u =>
            obtain ⟨selected, hselected, hlookup, hpolicy⟩ := validateTarget_ok hvalid
            have hread : assignment = {
                action := assignment.action
                deviceMac := some deviceMac
                selectedSlot := some selected.slot
                targetPolicy := some selected.policyId
                previousPolicy := assignment.previousPolicy } := by
              rw [← hdevice, ← hselected, ← hpolicy]
            simp only [hdevice, hselected, Option.bind_some, hlookup, bind_ok_left,
              Option.getD_some]
            cases validatePrevious assignment with
            | error error => rfl
            | ok u =>
                simp only [bind_ok_left, pure, Except.pure]
                rw [← hread]

theorem planOf_packet {Digest : Type} (packet : Packet Digest) :
    planFromPacket packet = planOf packet.bindings packet.assignment := rfl

theorem textsJson_injective : Function.Injective textsJson := by
  intro left right h
  simp only [textsJson, Json.arr.injEq] at h
  exact List.map_injective_iff.mpr (fun _ _ htext => Json.str.inj htext) h

theorem textJson_injective : Function.Injective textJson := by
  intro left right h
  cases left <;> cases right <;> simp_all [textJson]

theorem sortKeys_textsJson (texts : List String) :
    (textsJson texts).sortKeys = textsJson texts := by
  simp [textsJson, Function.comp_def]

section Packet

variable (packet : Packet String)

/-- What the loaded packet holds under each of its keys. -/
theorem get_loaded (key : String) : Json.get (Json.sortedFields (packetFields packet)) key =
    (Json.get (packetFields packet) key).sortKeys :=
  Json.get_sortedFields (packetFields packet) key

theorem readCommands_encoded (manifest : LocalEndpointManifest) :
    readCommands manifest (Json.sortedFields (packetFields packet)) packet.bindings
        packet.assignment packet.preStateFingerprint packet.expectedPostStateFingerprint =
      validateCommands manifest packet := by
  have hcommands : (Json.get (packetFields packet) "commands").sortKeys =
      textsJson packet.commands := by
    simp [packetFields, unsignedFields, sortKeys_textsJson]
  have hrollbacks : (Json.get (packetFields packet) "rollback_commands").sortKeys =
      textsJson packet.rollbackCommands := by
    simp [packetFields, unsignedFields, sortKeys_textsJson]
  have hsave : (Json.get (packetFields packet) "save_command").sortKeys =
      textJson packet.saveCommand := by
    simp [packetFields, unsignedFields, sortKeys_textJson]
  have hgates : ∀ writeRequired : Bool,
      (∃ field ∈ ["backup_required", "write_required", "save_required",
          "pre_save_verification_required", "saved_state_verification_required"],
        (Json.get (packetFields packet) field).sortKeys ≠ .bool writeRequired) ↔
      [packet.backupRequired, packet.writeRequired, packet.saveRequired,
        packet.preSaveVerificationRequired, packet.savedStateVerificationRequired] ≠
          List.replicate 5 writeRequired := by
    intro writeRequired
    simp [packetFields, unsignedFields, List.replicate]
    grind
  simp only [readCommands, validateCommands, get_loaded, planOf_packet, hcommands,
      hrollbacks, hsave,
    textsJson_injective.ne_iff, textJson_injective.ne_iff]
  cases renderCommands manifest (planOf packet.bindings packet.assignment) packet.assignment with
  | error error => rfl
  | ok rendered =>
      simp only [bind_ok_left, raiseIf_congr (hgates _)]

omit packet in
theorem sorted_expectations_eq_iff {left right : Expectations String} :
    (Json.obj (expectationFields left)).sortKeys = (Json.obj (expectationFields right)).sortKeys ↔
      left = right := by
  constructor
  · intro h
    have hget := Json.get_congr h
    have hpost := hget "expected_post_state_fingerprint"
    have hguard := hget "default_guard_fingerprint"
    have hcount := hget "semantic_match_count_per_binding"
    have hunchanged := hget "default_guard_unchanged"
    have hfresh := hget "fresh_snapshot_required"
    have htrusted := hget "transport_result_trusted"
    simp [expectationFields] at hpost hguard hcount hunchanged hfresh htrusted
    obtain ⟨post, guard, count, unchanged, fresh, trusted⟩ := left
    obtain ⟨post', guard', count', unchanged', fresh', trusted'⟩ := right
    simp only [Expectations.mk.injEq]
    exact ⟨hpost, hguard, by exact_mod_cast hcount, hunchanged, hfresh, htrusted⟩
  · rintro rfl
    rfl

theorem readExpectations_encoded :
    readExpectations (Json.obj (expectationFields packet.verificationExpectations)).sortKeys
        packet.expectedPostStateFingerprint packet.defaultGuardFingerprint =
      raiseIf (packet.verificationExpectations ≠
          expectationsOf packet.expectedPostStateFingerprint packet.defaultGuardFingerprint)
        (liveAdapterError "External transaction verification expectations are invalid.") := by
  have hidem := Json.sortKeys_sortKeys (Json.obj
      (expectationFields packet.verificationExpectations))
  have hsame : (Json.obj (Json.sortedFields
      (expectationFields packet.verificationExpectations))).sortKeys =
        (Json.obj (expectationFields packet.verificationExpectations)).sortKeys := by
    rw [← hidem, ← Json.sortKeys_obj]
  rw [Json.sortKeys_obj]
  apply raiseIf_congr
  rw [hsame, ne_eq, sorted_expectations_eq_iff]

/-- The four fingerprints the validator reads as hashes. -/
structure Hashed : Prop where
  pre : IsHash packet.preStateFingerprint
  post : IsHash packet.expectedPostStateFingerprint
  guard : IsHash packet.defaultGuardFingerprint
  transaction : IsHash packet.transactionFingerprint

theorem requireHash_str {text : String} (h : IsHash text) (description : String) :
    requireHash (.str text) description = .ok text := by
  simp [requireHash, raiseIf, h]

theorem unsigned_of_loaded :
    (Json.obj (Keyed.remove Prod.fst "transaction_fingerprint"
        (Json.sortedFields (packetFields packet)))).sortKeys =
      (Json.obj (unsignedFields packet.toUnsigned)).sortKeys := by
  have hremove : Keyed.remove Prod.fst "transaction_fingerprint" (packetFields packet) =
      unsignedFields packet.toUnsigned := by
    simp [packetFields, unsignedFields, Keyed.remove]
  rw [Json.sortKeys_obj, Json.sortKeys_obj, Json.sortedFields_remove (packetFields_nodup packet),
    hremove]

/-- The validator of loaded JSON does on an encoded packet what the validator of
packets does on the packet. -/
theorem validatePacketJson_encoded (digest : Json String → String)
    (manifest : LocalEndpointManifest) (hashed : Hashed packet) :
    validatePacketJson digest (packetJson packet).sortKeys manifest =
      validateExternalTransaction (payloadFingerprint digest) packet manifest := by
  have hkeys := strictKeys_sortedFields (packetFields_keys packet) "External transaction packet"
  have hstr : ∀ key text, Json.get (packetFields packet) key = .str text →
      (Json.get (packetFields packet) key).sortKeys = .str text := by
    intro key text h
    rw [h, Json.sortKeys_str]
  have hschema := hstr "schema" packet.schema (by simp [packetFields, unsignedFields])
  have hcontract := hstr "hardware_contract" packet.hardwareContract
    (by simp [packetFields, unsignedFields])
  have hmode := hstr "snapshot_mode" packet.snapshotMode (by simp [packetFields, unsignedFields])
  have hmanifest := hstr "manifest_fingerprint" packet.manifestFingerprint
    (by simp [packetFields, unsignedFields])
  have hpre := hstr "pre_state_fingerprint" packet.preStateFingerprint
    (by simp [packetFields, unsignedFields])
  have hpost := hstr "expected_post_state_fingerprint" packet.expectedPostStateFingerprint
    (by simp [packetFields, unsignedFields])
  have hguard := hstr "default_guard_fingerprint" packet.defaultGuardFingerprint
    (by simp [packetFields, unsignedFields])
  have htransaction := hstr "transaction_fingerprint" packet.transactionFingerprint
    (by simp [packetFields, unsignedFields])
  have htargeted : (Json.get (packetFields packet) "default_policy_targeted").sortKeys =
      .bool packet.defaultPolicyTargeted := by simp [packetFields, unsignedFields]
  have hraw : (Json.get (packetFields packet) "raw_running_config_included").sortKeys =
      .bool packet.rawRunningConfigIncluded := by simp [packetFields, unsignedFields]
  have hbindings : (Json.get (packetFields packet) "bindings").sortKeys =
      .arr (packet.bindings.map (fun binding => (Json.obj (bindingFields binding)).sortKeys)) := by
    simp [packetFields, unsignedFields]
  have hassignment : (Json.get (packetFields packet) "assignment").sortKeys =
      (Json.obj (assignmentFields packet.assignment)).sortKeys := by
    simp [packetFields, unsignedFields]
  have hexpectations : (Json.get (packetFields packet) "verification_expectations").sortKeys =
      (Json.obj (expectationFields packet.verificationExpectations)).sortKeys := by
    simp [packetFields, unsignedFields]
  have hunsigned : fingerprintJson digest (.obj (Keyed.remove Prod.fst "transaction_fingerprint"
        (Json.sortedFields (packetFields packet)))) =
      payloadFingerprint digest (.transaction packet.toUnsigned) := by
    rw [fingerprintJson, unsigned_of_loaded]
    rfl
  have hbool : ∀ value : Bool, Json.bool (S := String) value ≠ .bool false ↔ value = true := by
    intro value
    cases value <;> simp
  rw [packetJson, Json.sortKeys_obj]
  simp only [validatePacketJson, hkeys, get_loaded, hschema, hcontract, hmode, hmanifest, hpre,
    hpost, hguard, htransaction, htargeted, hraw, hbindings, hassignment, hexpectations, hunsigned,
    requireHash_str hashed.pre, requireHash_str hashed.post, requireHash_str hashed.guard,
    requireHash_str hashed.transaction, readBindings_encoded, readAssignment_encoded,
    readCommands_encoded, readExpectations_encoded, raiseIf_congr (hbool _),
    bind_ok_left, bind_assoc,
    pure_bind, validateExternalTransaction, planOf_packet, ne_eq, Json.str.injEq]

end Packet

/-- The ids a state names, and the policies it assigns, are in the range of the
native numbering. -/
structure WithinRange (state : LiveState) : Prop where
  proxies : ∀ proxy ∈ state.proxies, IsNative "Proxy" maxProxyIndex proxy.objectId
  policies : ∀ policy ∈ state.policies, IsNative "Policy" maxPolicyIndex policy.objectId
  targets : ∀ entry ∈ state.assignments, IsNative "Policy" maxPolicyIndex entry.2

/-- No id that the plan reuses, and none that the selected device is assigned to, has
more digits than `int` reads. -/
structure ReadableIds (plan : LivePlan) (state : LiveState) (deviceMac : Option String) :
    Prop where
  proxies : ∀ binding ∈ plan.bindings, binding.proxyAction = .reuse →
    ¬ Overlong "Proxy" binding.proxyId
  policies : ∀ binding ∈ plan.bindings, binding.policyAction = .reuse →
    ¬ Overlong "Policy" binding.policyId
  previous : ∀ mac previous, normalizeSelectedMac deviceMac = .ok (some mac) →
    state.assignmentOf mac = some previous → ¬ Overlong "Policy" previous

section Plans

variable {manifest : LocalEndpointManifest} {state : LiveState} {mac : Option String}
  {profileSlot : Option Nat} {allowMove : Bool} {plan : LivePlan}
  {profileOf : BindingPlan → LocalProxyProfile}

/-- Planning with a device as it was given and with its normalized spelling. -/
theorem buildLivePlan_normalized {deviceMac : Option String}
    (h : LiveCompat.buildLivePlan manifest state deviceMac profileSlot allowMove = .ok plan)
    (hmac : normalizeSelectedMac deviceMac = .ok mac) :
    LiveCompat.buildLivePlan manifest state mac profileSlot allowMove = .ok plan := by
  have hnone := normalizeSelectedMac_isNone hmac
  have hsome : mac.isSome = deviceMac.isSome := by
    cases mac <;> cases deviceMac <;> simp_all
  simp only [LiveCompat.buildLivePlan, PlanRules.buildLivePlan, hmac, bind_ok_left, hsome] at h
  simp only [LiveCompat.buildLivePlan, PlanRules.buildLivePlan, normalizeSelectedMac_idem hmac,
    bind_ok_left, hnone, hsome]
  exact h

variable (planned : Planned LiveCompat.rules manifest state mac profileSlot allowMove
    plan profileOf)
include planned

theorem bindings_eq_of_port {left right : BindingPlan} (hleft : left ∈ plan.bindings)
    (hright : right ∈ plan.bindings) (hport : (profileOf left).port = (profileOf right).port) :
    left = right := by
  have hprofile := planned.valid.port_inj (planned.resolved.profile_mem hleft)
    (planned.resolved.profile_mem hright) hport
  have hnodup : (plan.bindings.map profileOf).Nodup := by
    rw [planned.resolved.covers]
    exact planned.valid.slots_nodup.of_map
  exact List.inj_on_of_nodup_map hnodup hleft hright hprofile

/-- No two profiles share a proxy: a reused one has one port, and a created one
is new. -/
theorem planned_proxyIds_nodup : (plan.bindings.map (·.proxyId)).Nodup := by
  have hbindings : plan.bindings.Nodup := by
    apply List.Nodup.of_map profileOf
    rw [planned.resolved.covers]
    exact planned.valid.slots_nodup.of_map
  have htaken : ∀ binding ∈ plan.bindings, binding.proxyAction = .reuse →
      ∃ proxy ∈ state.proxies, proxy.objectId = binding.proxyId ∧
        proxy.port = (profileOf binding).port := by
    intro binding hbinding hreuse
    rcases (planned.resolved.planned binding hbinding).proxy with
      ⟨-, proxy, hproxy, hid⟩ | ⟨hcreate, -⟩
    · obtain ⟨hmem, hsemantic, -⟩ := LiveCompat.reuseProxy_eq_some.mp hproxy
      simp only [LiveCompat.proxySemanticExact, Bool.and_eq_true, decide_eq_true_eq] at hsemantic
      exact ⟨proxy, hmem, hid, hsemantic.1.1.2⟩
    · exact absurd (hreuse.symm.trans hcreate) (by decide)
  have hfresh : ∀ binding ∈ plan.bindings, binding.proxyAction = .create →
      binding.proxyId ∉ state.proxies.map (·.objectId) := fun binding hbinding hcreate =>
    planned.proxies_fresh binding (creatingProxies_mem.mpr ⟨hbinding, hcreate⟩)
  apply hbindings.map_on
  intro left hleft right hright hid
  cases hleftAction : left.proxyAction with
  | reuse =>
      obtain ⟨proxy, hproxy, hproxyId, hport⟩ := htaken left hleft hleftAction
      cases hrightAction : right.proxyAction with
      | reuse =>
          obtain ⟨other, hother, hotherId, hotherPort⟩ := htaken right hright hrightAction
          have hsame : proxy = other := List.inj_on_of_nodup_map state.proxyIds_nodup hproxy hother
            (hproxyId.trans (hid.trans hotherId.symm))
          exact bindings_eq_of_port planned hleft hright (hport.symm.trans (hsame ▸ hotherPort))
      | create =>
          have hmem := List.mem_map_of_mem (f := ProxyState.objectId) hproxy
          exact absurd (hproxyId.trans hid ▸ hmem) (hfresh right hright hrightAction)
  | create =>
      cases hrightAction : right.proxyAction with
      | reuse =>
          obtain ⟨proxy, hproxy, hproxyId, -⟩ := htaken right hright hrightAction
          have hmem := List.mem_map_of_mem (f := ProxyState.objectId) hproxy
          exact absurd (hproxyId.trans hid.symm ▸ hmem) (hfresh left hleft hleftAction)
      | create =>
          exact List.inj_on_of_nodup_map planned.proxies_nodup
            (creatingProxies_mem.mpr ⟨hleft, hleftAction⟩)
            (creatingProxies_mem.mpr ⟨hright, hrightAction⟩) hid

/-- No two profiles share a policy: a reused one permits one proxy, and a created
one is new. -/
theorem planned_policyIds_nodup : (plan.bindings.map (·.policyId)).Nodup := by
  have hproxies := planned_proxyIds_nodup planned
  have htaken : ∀ binding ∈ plan.bindings, binding.policyAction = .reuse →
      ∃ policy ∈ state.policies, policy.objectId = binding.policyId ∧
        policy.globalInterfaces = [binding.proxyId] := by
    intro binding hbinding hreuse
    rcases (planned.resolved.planned binding hbinding).policy with
      ⟨-, policy, hpolicy, hid⟩ | ⟨hcreate, -⟩
    · obtain ⟨hmem, hsemantic, -⟩ := LiveCompat.reusePolicy_eq_some.mp hpolicy
      exact ⟨policy, hmem, hid, by simpa [LiveCompat.policySemanticExact] using hsemantic⟩
    · exact absurd (hreuse.symm.trans hcreate) (by decide)
  have hfresh : ∀ binding ∈ plan.bindings, binding.policyAction = .create →
      binding.policyId ∉ state.policies.map (·.objectId) := fun binding hbinding hcreate =>
    planned.policies_fresh binding (creatingPolicies_mem.mpr ⟨hbinding, hcreate⟩)
  apply (hproxies.of_map).map_on
  intro left hleft right hright hid
  cases hleftAction : left.policyAction with
  | reuse =>
      obtain ⟨policy, hpolicy, hpolicyId, hpermits⟩ := htaken left hleft hleftAction
      cases hrightAction : right.policyAction with
      | reuse =>
          obtain ⟨other, hother, hotherId, hotherPermits⟩ := htaken right hright hrightAction
          have hsame : policy = other := List.inj_on_of_nodup_map state.policyIds_nodup hpolicy
            hother (hpolicyId.trans (hid.trans hotherId.symm))
          have hproxy : left.proxyId = right.proxyId := by
            rw [hsame, hotherPermits] at hpermits
            exact (List.singleton_inj.mp hpermits).symm
          exact List.inj_on_of_nodup_map hproxies hleft hright hproxy
      | create =>
          have hmem := List.mem_map_of_mem (f := PolicyState.objectId) hpolicy
          exact absurd (hpolicyId.trans hid ▸ hmem) (hfresh right hright hrightAction)
  | create =>
      cases hrightAction : right.policyAction with
      | reuse =>
          obtain ⟨policy, hpolicy, hpolicyId, -⟩ := htaken right hright hrightAction
          have hmem := List.mem_map_of_mem (f := PolicyState.objectId) hpolicy
          exact absurd (hpolicyId.trans hid.symm ▸ hmem) (hfresh left hleft hleftAction)
      | create =>
          exact List.inj_on_of_nodup_map planned.policies_nodup
            (creatingPolicies_mem.mpr ⟨hleft, hleftAction⟩)
            (creatingPolicies_mem.mpr ⟨hright, hrightAction⟩) hid

/-- A plan over ids in range is one a packet may carry where its ids can be read. -/
theorem admissible_iff {deviceMac : Option String} (range : WithinRange state)
    (hmac : normalizeSelectedMac deviceMac = .ok mac) :
    Admissible plan state mac ↔ ReadableIds plan state deviceMac := by
  constructor
  · intro hadmissible
    refine ⟨fun binding hbinding _ => ?_, fun binding hbinding _ => ?_, ?_⟩
    · exact (numericId_read.mp (hadmissible.ids binding hbinding).1).2
    · exact (numericId_read.mp (hadmissible.ids binding hbinding).2).2
    · intro selected previous hselected hprevious
      have hsame : mac = some selected := Except.ok.inj (hmac.symm.trans hselected)
      exact (numericId_read.mp (hadmissible.previous selected previous hsame hprevious)).2
  · intro hreadable
    refine ⟨fun binding hbinding => ?_, planned_proxyIds_nodup planned,
      planned_policyIds_nodup planned, ?_⟩
    · have hplanned := planned.resolved.planned binding hbinding
      constructor
      · rcases hplanned.proxy with ⟨hreuse, proxy, hproxy, hid⟩ | ⟨-, -, hnumber⟩
        · have hnative := range.proxies proxy (LiveCompat.reuseProxy_eq_some.mp hproxy).1
          rw [hid] at hnative
          exact numericId_read.mpr ⟨hnative, hreadable.proxies binding hbinding hreuse⟩
        · exact hnumber
      · rcases hplanned.policy with ⟨hreuse, policy, hpolicy, hid⟩ | ⟨-, -, hnumber⟩
        · have hnative := range.policies policy (LiveCompat.reusePolicy_eq_some.mp hpolicy).1
          rw [hid] at hnative
          exact numericId_read.mpr ⟨hnative, hreadable.policies binding hbinding hreuse⟩
        · exact hnumber
    · rintro selected previous rfl hprevious
      obtain ⟨entry, hentry, hpolicy⟩ := Option.map_eq_some_iff.mp hprevious
      have hnative := range.targets entry (Keyed.lookup_some Prod.fst hentry).1
      rw [hpolicy] at hnative
      exact numericId_read.mpr ⟨hnative, hreadable.previous selected previous hmac hprevious⟩

end Plans

/-- The hashes of a planned packet are digests. -/
theorem hashed_plannedPacket {digest : Json String → String}
    (hdigest : ∀ value, IsHash (digest value)) (manifest : LocalEndpointManifest)
    (state expectedState : LiveState) (plan : LivePlan)
    (profileOf : BindingPlan → LocalProxyProfile) (mac : Option String) (assignment : Assignment) :
    Hashed (plannedPacket (payloadFingerprint digest) manifest state expectedState
        plan profileOf mac
      assignment) :=
  ⟨hdigest _, hdigest _, hdigest _, hdigest _⟩

section RoundTrip

variable {digest : Json String → String} {manifest : LocalEndpointManifest} {state : LiveState}
  {deviceMac : Option String} {profileSlot : Option Nat} {allowMove : Bool} {plan : LivePlan}

/-- The plan becomes a packet, and the packet, written and loaded, is read back as
exactly that plan. -/
def RoundTrips (digest : Json String → String) (manifest : LocalEndpointManifest)
    (state : LiveState) (deviceMac : Option String) (profileSlot : Option Nat) (allowMove : Bool)
    (plan : LivePlan) : Prop :=
  ∃ packet, buildExternalTransaction (payloadFingerprint digest) manifest state deviceMac
      profileSlot allowMove = .ok packet ∧
    validatePacketJson digest (packetJson packet).sortKeys manifest = .ok plan

/-- Over ids in range every plan goes through its packet, exactly where the ids it
reuses, and the policy it would give back, have no more digits than `int` reads. -/
theorem external_packet_round_trip_iff (hdigest : ∀ value, IsHash (digest value))
    (valid : manifest.Valid) (range : WithinRange state)
    (hplan : LiveCompat.buildLivePlan manifest state deviceMac profileSlot allowMove = .ok plan) :
    RoundTrips digest manifest state deviceMac profileSlot allowMove plan ↔
      ReadableIds plan state deviceMac := by
  obtain ⟨mac, profileOf, hmac, planned⟩ := PlanRules.buildLivePlan_planned valid hplan
  have hnormalized := buildLivePlan_normalized hplan hmac
  obtain ⟨assignment, hassignment⟩ := assignmentPayload_exists planned
  rw [← admissible_iff planned range hmac]
  constructor
  · rintro ⟨packet, hbuild, -⟩
    exact ((build_of_planned hmac hnormalized planned hassignment).mp hbuild).1
  · intro hadmissible
    have built : Built (payloadFingerprint digest) manifest state deviceMac profileSlot
        allowMove _ mac
        plan profileOf assignment := ⟨hmac, hnormalized, planned, hassignment, hadmissible, rfl⟩
    refine ⟨_, (build_of_planned hmac hnormalized planned hassignment).mpr
      ⟨hadmissible, rfl⟩, ?_⟩
    rw [validatePacketJson_encoded _ digest manifest (hashed_plannedPacket hdigest ..)]
    exact built.validated

end RoundTrip

theorem zeros_isHash : IsHash (String.ofList (List.replicate 64 '0')) := by
  rw [IsHash, String.toList_ofList]
  refine ⟨List.length_replicate, fun c hc => ?_⟩
  rw [List.eq_of_mem_replicate hc]
  decide

/-- A first plan, which creates its objects, goes through its packet. -/
theorem external_packet_round_trip_sample :
    RoundTrips (fun _ => String.ofList (List.replicate 64 '0')) (sampleManifest true) emptyState
      (some sampleMac) (some 1) false samplePlan := by
  have hrange : WithinRange emptyState :=
    ⟨by simp [emptyState], by simp [emptyState], by simp [emptyState]⟩
  refine (external_packet_round_trip_iff (fun _ => zeros_isHash) (sampleManifest_valid true) hrange
    (LiveCompat.samplePlan_ok true)).mpr ⟨?_, ?_, ?_⟩
  · decide
  · decide
  · intro mac previous _ hprevious
    cases hprevious

/-- The proxy id of number one, with zeros before it. -/
def paddedId (zeros : Nat) : String :=
  String.ofList ("Proxy".toList ++ (List.replicate zeros '0' ++ ['1']))

private theorem paddedId_toList (zeros : Nat) :
    (paddedId zeros).toList = "Proxy".toList ++ (List.replicate zeros '0' ++ ['1']) :=
  String.toList_ofList

private theorem paddedId_digits (zeros : Nat) :
    (paddedId zeros).toList.take "Proxy".length = "Proxy".toList ∧
      (paddedId zeros).toList.drop "Proxy".length = List.replicate zeros '0' ++ ['1'] := by
  rw [paddedId_toList]
  exact ⟨List.take_left' String.length_toList, List.drop_left' String.length_toList⟩

private theorem zeros_value (zeros : Nat) :
    (List.replicate zeros '0').foldl (fun n c => 10 * n + PyText.hexValue c) 0 = 0 := by
  induction zeros with
  | zero => rfl
  | succ zeros ih => exact ih

private theorem paddedId_native (zeros : Nat) :
    IsNative "Proxy" maxProxyIndex (paddedId zeros) := by
  obtain ⟨htake, hdrop⟩ := paddedId_digits zeros
  have hvalue : (List.replicate zeros '0' ++ ['1']).foldl
      (fun n c => 10 * n + PyText.hexValue c) 0 = 1 := by
    rw [List.foldl_append, zeros_value]
    rfl
  have hdigits : (List.replicate zeros '0' ++ ['1']).all PyText.isAsciiDigit = true := by
    rw [List.all_append, List.all_replicate, Bool.and_eq_true]
    refine ⟨?_, by decide⟩
    split <;> decide
  refine ⟨1, ?_, by decide⟩
  simp only [nativeNumber, htake, hdrop, hvalue, hdigits]
  simp

private theorem paddedId_overlong {zeros : Nat} (h : maxIntDigits ≤ zeros) :
    Overlong "Proxy" (paddedId zeros) := by
  rw [Overlong, (paddedId_digits zeros).2]
  simpa using Nat.lt_succ_of_le h

/-- The proxy that the sample profile reuses. -/
def proxyOfId (objectId : String) : LiveState where
  proxies := [⟨objectId, "primary", "socks5", "127.0.0.1", 1082, true, false⟩]
  policies := []
  assignments := []
  defaultGuard := []
  proxyIds_nodup := List.nodup_singleton _
  policyIds_nodup := List.nodup_nil
  deviceMacs_nodup := List.nodup_nil

/-- The plan over it: the proxy is there, and the policy is new. -/
def proxyOfIdPlan (objectId : String) : LivePlan where
  bindings := [⟨1, 1082, objectId, "Policy0", .reuse, .create⟩]
  selectedDevicePresent := false
  selectedSlot := none
  assignmentAction := .none

private theorem proxyOfIdPlan_ok (objectId : String) :
    LiveCompat.buildLivePlan (sampleManifest true) (proxyOfId objectId) none none false =
      .ok (proxyOfIdPlan objectId) := by
  rfl

/-- The planner accepts the id, and the validator of its packet cannot read it. -/
theorem overlong_id_refused :
    LiveCompat.buildLivePlan (sampleManifest true) (proxyOfId (paddedId maxIntDigits)) none none
        false = .ok (proxyOfIdPlan (paddedId maxIntDigits)) ∧
      WithinRange (proxyOfId (paddedId maxIntDigits)) ∧
      ¬ RoundTrips (fun _ => String.ofList (List.replicate 64 '0')) (sampleManifest true)
        (proxyOfId (paddedId maxIntDigits)) none none false
        (proxyOfIdPlan (paddedId maxIntDigits)) := by
  have hrange : WithinRange (proxyOfId (paddedId maxIntDigits)) :=
    ⟨by simpa [proxyOfId] using (paddedId_native maxIntDigits), by simp [proxyOfId],
      by simp [proxyOfId]⟩
  refine ⟨proxyOfIdPlan_ok _, hrange, ?_⟩
  rintro ⟨packet, hbuild, -⟩
  obtain ⟨mac, plan, profileOf, assignment, hbuilt⟩ :=
    build_eq_ok (sampleManifest_valid true) hbuild
  cases hbuilt.normalized
  cases (proxyOfIdPlan_ok (paddedId maxIntDigits)).symm.trans hbuilt.plan_ok
  have hread := (hbuilt.admissible.ids _ List.mem_cons_self).1
  exact (numericId_read.mp hread).2 (paddedId_overlong le_rfl)

end External

end RouterKit.Netcraze
