import RouterKit.Lib.Json
import RouterKit.Netcraze.ExternalAuthorized

/-!
Packets as JSON. The planner's packet is a dictionary; its fingerprints are
digests of canonical JSON, which has sorted keys. The validator reads a packet
that was written and loaded again, field by field.
-/

namespace RouterKit.Netcraze

open RouterKit.Lib RouterKit.Lib.Checked RouterKit.Devices

namespace External

def textJson (text : Option String) : Json String :=
  match text with
  | none => .null
  | some text => .str text

def slotJson (slot : Option Nat) : Json String :=
  match slot with
  | none => .null
  | some slot => .int slot

def textsJson (texts : List String) : Json String := .arr (texts.map .str)

def ObjectAction.text : ObjectAction → String
  | .create => "create"
  | .reuse => "reuse"

def AssignmentAction.text : AssignmentAction → String
  | .none => "none"
  | .reuse => "reuse"
  | .assign => "assign"
  | .move => "move"

def endpointFields (endpoint : Endpoint) : List (String × Json String) :=
  [("protocol", .str endpoint.protocol), ("host", .str endpoint.host), ("port", .int endpoint.port),
    ("enabled", .bool endpoint.enabled), ("auth_mode", .str endpoint.authMode)]

def bindingFields (binding : Binding) : List (String × Json String) :=
  [("slot", .int binding.slot), ("profile_label", .str binding.profileLabel),
    ("endpoint", .obj (endpointFields binding.endpoint)), ("proxy_id", .str binding.proxyId),
    ("policy_id", .str binding.policyId),
    ("proxy_action", .str (ObjectAction.text binding.proxyAction)),
    ("policy_action", .str (ObjectAction.text binding.policyAction))]

def assignmentFields (assignment : Assignment) : List (String × Json String) :=
  [("action", .str (AssignmentAction.text assignment.action)),
    ("device_mac", textJson assignment.deviceMac),
    ("selected_slot", slotJson assignment.selectedSlot),
    ("target_policy", textJson assignment.targetPolicy),
    ("previous_policy", textJson assignment.previousPolicy)]

def expectationFields (expectations : Expectations String) : List (String × Json String) :=
  [("expected_post_state_fingerprint", .str expectations.expectedPostStateFingerprint),
    ("default_guard_fingerprint", .str expectations.defaultGuardFingerprint),
    ("semantic_match_count_per_binding", .int expectations.semanticMatchCountPerBinding),
    ("default_guard_unchanged", .bool expectations.defaultGuardUnchanged),
    ("fresh_snapshot_required", .bool expectations.freshSnapshotRequired),
    ("transport_result_trusted", .bool expectations.transportResultTrusted)]

def unsignedFields (unsigned : Unsigned String) : List (String × Json String) :=
  [("schema", .str unsigned.schema),
    ("hardware_contract", .str unsigned.hardwareContract),
    ("snapshot_mode", .str unsigned.snapshotMode),
    ("manifest_fingerprint", .str unsigned.manifestFingerprint),
    ("pre_state_fingerprint", .str unsigned.preStateFingerprint),
    ("expected_post_state_fingerprint", .str unsigned.expectedPostStateFingerprint),
    ("default_guard_fingerprint", .str unsigned.defaultGuardFingerprint),
    ("bindings", .arr (unsigned.bindings.map (fun binding => .obj (bindingFields binding)))),
    ("assignment", .obj (assignmentFields unsigned.assignment)),
    ("default_policy_targeted", .bool unsigned.defaultPolicyTargeted),
    ("backup_required", .bool unsigned.backupRequired),
    ("write_required", .bool unsigned.writeRequired),
    ("save_required", .bool unsigned.saveRequired),
    ("commands", textsJson unsigned.commands),
    ("rollback_commands", textsJson unsigned.rollbackCommands),
    ("pre_save_verification_required", .bool unsigned.preSaveVerificationRequired),
    ("save_command", textJson unsigned.saveCommand),
    ("saved_state_verification_required", .bool unsigned.savedStateVerificationRequired),
    ("raw_running_config_included", .bool unsigned.rawRunningConfigIncluded),
    ("verification_expectations", .obj (expectationFields unsigned.verificationExpectations))]

def packetFields (packet : Packet String) : List (String × Json String) :=
  unsignedFields packet.toUnsigned ++
    [("transaction_fingerprint", .str packet.transactionFingerprint)]

def packetJson (packet : Packet String) : Json String := .obj (packetFields packet)

def proxyJson (proxy : ProxyState) : Json String :=
  .obj [("object_id", .str proxy.objectId), ("description", .str proxy.description),
    ("protocol", .str proxy.protocol), ("host", .str proxy.host), ("port", .int proxy.port),
    ("enabled", .bool proxy.enabled),
    ("authentication_configured", .bool proxy.authenticationConfigured)]

def policyJson (policy : PolicyState) : Json String :=
  .obj [("object_id", .str policy.objectId), ("description", .str policy.description),
    ("global_interfaces", textsJson policy.globalInterfaces)]

def profileJson (profile : LocalProxyProfile) : Json String :=
  .obj [("slot", .int profile.slot), ("label", .str profile.label), ("host", .str profile.host),
    ("port", .int profile.port), ("enabled", .bool profile.enabled),
    ("protocol", .str profile.protocol), ("auth_mode", .str profile.authMode)]

def payloadJson : Payload String → Json String
  | .state payload => .obj [("schema", .str payload.schema),
      ("proxies", .arr (payload.proxies.map proxyJson)),
      ("policies", .arr (payload.policies.map policyJson)),
      ("assignments", .arr (payload.assignments.map (fun entry => textsJson [entry.1, entry.2]))),
      ("default_guard", textsJson payload.defaultGuard)]
  | .defaultGuard lines => textsJson lines
  | .manifest schema profiles => .obj [("schema", .str schema),
      ("profiles", .arr (profiles.map profileJson))]
  | .transaction unsigned => .obj (unsignedFields unsigned)

section Digests

variable (digest : Json String → String)

/-- `_fingerprint`: the digest of a value's canonical text, for a digest of
values in canonical order. -/
def fingerprintJson (value : Json String) : String := digest value.sortKeys

def payloadFingerprint (payload : Payload String) : String :=
  fingerprintJson digest (payloadJson payload)

end Digests

/-- `_HASH_RE`. -/
def IsHash (text : String) : Prop :=
  text.toList.length = 64 ∧ ∀ c ∈ text.toList, c ∈ "0123456789abcdef".toList

instance (text : String) : Decidable (IsHash text) :=
  inferInstanceAs (Decidable (_ ∧ _))

def strictKeys (fields : List (String × Json String)) (expected : List String)
    (description : String) : Except LiveError Unit :=
  raiseIf (¬ ((∀ key ∈ fields.map Prod.fst, key ∈ expected) ∧
      ∀ key ∈ expected, key ∈ fields.map Prod.fst))
    (liveAdapterError (description ++ " contains unsupported or missing fields."))

def requireHash (value : Json String) (description : String) : Except LiveError String :=
  match value with
  | .str text => do
      raiseIf (¬ IsHash text) (liveAdapterError (description ++ " is invalid."))
      pure text
  | _ => .error (liveAdapterError (description ++ " is invalid."))

def readAction (value : Json String) (description : String) : Except LiveError ObjectAction :=
  if value = .str "create" then .ok .create
  else if value = .str "reuse" then .ok .reuse
  else .error (liveAdapterError ("External transaction " ++ description ++ " is unsupported."))

/-- One round of the loop over the bindings. -/
def readBinding (entry : Json String × LocalProxyProfile) : Except LiveError Binding :=
  let (raw, profile) := entry
  match raw with
  | .obj fields => do
      strictKeys fields ["slot", "profile_label", "endpoint", "proxy_id", "policy_id",
        "proxy_action", "policy_action"] "External transaction binding"
      raiseIf (Json.get fields "slot" ≠ .int profile.slot)
        (liveAdapterError "External transaction binding slot is invalid.")
      raiseIf (Json.get fields "profile_label" ≠ .str profile.label)
        (liveAdapterError "External transaction profile label is invalid.")
      match Json.get fields "endpoint" with
      | .obj endpoint => do
          strictKeys endpoint ["protocol", "host", "port", "enabled", "auth_mode"]
            "External transaction endpoint"
          raiseIf ((Json.obj endpoint).sortKeys ≠
              (Json.obj (endpointFields (endpointOf profile))).sortKeys)
            (liveAdapterError "External transaction endpoint semantics are invalid.")
          match Json.get fields "proxy_id", Json.get fields "policy_id" with
          | .str proxyId, .str policyId => do
              let _ ← numericId proxyId "Proxy" maxProxyIndex
              let _ ← numericId policyId "Policy" maxPolicyIndex
              let proxyAction ← readAction (Json.get fields "proxy_action") "proxy action"
              let policyAction ← readAction (Json.get fields "policy_action") "policy action"
              pure {
                slot := profile.slot
                profileLabel := profile.label
                endpoint := endpointOf profile
                proxyId, policyId, proxyAction, policyAction }
          | _, _ => .error (liveAdapterError
              "External transaction native object identity is invalid.")
      | _ => .error (liveAdapterError "External transaction endpoint is malformed.")
  | _ => .error (liveAdapterError "External transaction binding is malformed.")

def readAssignmentAction (value : Json String) : Except LiveError AssignmentAction :=
  if value = .str "none" then .ok .none
  else if value = .str "reuse" then .ok .reuse
  else if value = .str "assign" then .ok .assign
  else if value = .str "move" then .ok .move
  else .error (liveAdapterError "External transaction assignment action is unsupported.")

def readIdentity (value : Json String) : Except LiveError String :=
  match value with
  | .str deviceMac =>
      match normalizeTrustedDeviceMac deviceMac with
      | .ok normalized => do
          raiseIf (normalized ≠ deviceMac)
            (liveAdapterError "External transaction assignment identity is not normalized.")
          pure deviceMac
      | .error _ =>
          .error (liveAdapterError "External transaction assignment identity is invalid.")
  | _ => .error (liveAdapterError "External transaction assignment identity is invalid.")

/-- The binding of the selected slot, whose policy the target has to be. -/
def readTarget (bindings : List Binding) (slot target : Json String) :
    Except LiveError Binding :=
  match slot with
  | .int slot =>
      match bindings.find? (fun binding => (binding.slot : Int) = slot) with
      | some selected => do
          raiseIf (target ≠ .str selected.policyId)
            (liveAdapterError "External transaction assignment target is invalid.")
          pure selected
      | none => .error (liveAdapterError "External transaction assignment target is invalid.")
  | _ => .error (liveAdapterError "External transaction assignment slot is invalid.")

def readPrevious (value : Json String) : Except LiveError (Option String) :=
  match value with
  | .null => .ok none
  | .str previous => do
      let _ ← numericId previous "Policy" maxPolicyIndex
      pure (some previous)
  | _ => .error (liveAdapterError "External transaction previous assignment is invalid.")

def readAssignment (bindings : List Binding) (value : Json String) :
    Except LiveError Assignment :=
  match value with
  | .obj fields => do
      strictKeys fields ["action", "device_mac", "selected_slot", "target_policy",
        "previous_policy"] "External transaction assignment"
      let action ← readAssignmentAction (Json.get fields "action")
      if action = .none then
        raiseIf (∃ key ∈ ["device_mac", "selected_slot", "target_policy", "previous_policy"],
            Json.get fields key ≠ .null)
          (liveAdapterError "External transaction empty assignment is inconsistent.")
        pure noAssignment
      else
        let deviceMac ← readIdentity (Json.get fields "device_mac")
        let selected ← readTarget bindings (Json.get fields "selected_slot")
          (Json.get fields "target_policy")
        let previousPolicy ← readPrevious (Json.get fields "previous_policy")
        let assignment : Assignment := {
          action
          deviceMac := some deviceMac
          selectedSlot := some selected.slot
          targetPolicy := some selected.policyId
          previousPolicy }
        validatePreState assignment
        pure assignment
  | _ => .error (liveAdapterError "External transaction assignment is malformed.")

def planOf (bindings : List Binding) (assignment : Assignment) : LivePlan where
  bindings := bindings.map (fun item => {
    slot := item.slot
    port := item.endpoint.port
    proxyId := item.proxyId
    policyId := item.policyId
    proxyAction := item.proxyAction
    policyAction := item.policyAction })
  selectedDevicePresent := assignment.deviceMac.isSome
  selectedSlot := assignment.selectedSlot
  assignmentAction := assignment.action

/-- The command lists and gates of a packet, rendered again from what was read. -/
def readCommands (manifest : LocalEndpointManifest) (fields : List (String × Json String))
    (bindings : List Binding) (assignment : Assignment) (preFingerprint postFingerprint : String) :
    Except LiveError Unit := do
  let (commands, rollbacks) ← renderCommands manifest (planOf bindings assignment) assignment
  raiseIf (Json.get fields "commands" ≠ textsJson (commands.map NdmCommand.text))
    (liveAdapterError "External transaction native command order is invalid.")
  raiseIf (Json.get fields "rollback_commands" ≠ textsJson (rollbacks.map NdmCommand.text))
    (liveAdapterError "External transaction rollback command order is invalid.")
  let writeRequired := !commands.isEmpty
  raiseIf (∃ field ∈ ["backup_required", "write_required", "save_required",
      "pre_save_verification_required", "saved_state_verification_required"],
      Json.get fields field ≠ .bool writeRequired)
    (liveAdapterError "External transaction write/save gates are inconsistent.")
  raiseIf (Json.get fields "save_command" ≠
      textJson (if writeRequired then some NdmCommand.configurationSave.text else none))
    (liveAdapterError "External transaction save command is inconsistent.")
  raiseIf (writeRequired = false ∧ preFingerprint ≠ postFingerprint)
    (liveAdapterError "External NOOP transaction changes expected state.")

def readExpectations (value : Json String) (postFingerprint guardFingerprint : String) :
    Except LiveError Unit :=
  match value with
  | .obj expectations =>
      raiseIf ((Json.obj expectations).sortKeys ≠
          (Json.obj (expectationFields (expectationsOf postFingerprint guardFingerprint))).sortKeys)
        (liveAdapterError "External transaction verification expectations are invalid.")
  | _ => .error (liveAdapterError
      "External transaction verification expectations are malformed.")

def topKeys : List String :=
  ["schema", "hardware_contract", "snapshot_mode", "manifest_fingerprint",
    "pre_state_fingerprint", "expected_post_state_fingerprint", "default_guard_fingerprint",
    "bindings", "assignment", "default_policy_targeted", "backup_required", "write_required",
    "save_required", "commands", "rollback_commands", "pre_save_verification_required",
    "save_command", "saved_state_verification_required", "raw_running_config_included",
    "verification_expectations", "transaction_fingerprint"]

def readBindings (manifest : LocalEndpointManifest) (value : Json String) :
    Except LiveError (List Binding) :=
  match value with
  | .arr raw => do
      raiseIf (raw.length ≠ manifest.profiles.length)
        (liveAdapterError "External transaction bindings are malformed.")
      mapEach readBinding (raw.zip manifest.profiles)
  | _ => .error (liveAdapterError "External transaction bindings are malformed.")

/-- `validate_external_transaction`, on what was loaded. -/
def validatePacketJson (digest : Json String → String) (packet : Json String)
    (manifest : LocalEndpointManifest) : Except LiveError LivePlan :=
  match packet with
  | .obj fields => do
      strictKeys fields topKeys "External transaction packet"
      raiseIf (Json.get fields "schema" ≠ .str transactionSchema)
        (liveAdapterError "External transaction schema is unsupported.")
      raiseIf (Json.get fields "hardware_contract" ≠ .str supportedContract)
        (liveAdapterError "External transaction hardware contract is unsupported.")
      raiseIf (Json.get fields "snapshot_mode" ≠ .str External.snapshotMode)
        (liveAdapterError "External transaction snapshot mode is unsupported.")
      raiseIf (Json.get fields "manifest_fingerprint" ≠
          .str (manifestFingerprint (payloadFingerprint digest) manifest))
        (liveAdapterError "External transaction does not match the endpoint manifest.")
      let pre ← requireHash (Json.get fields "pre_state_fingerprint") "Pre-state fingerprint"
      let post ← requireHash (Json.get fields "expected_post_state_fingerprint")
        "Expected post-state fingerprint"
      let guard ← requireHash (Json.get fields "default_guard_fingerprint")
        "Default-guard fingerprint"
      let supplied ← requireHash (Json.get fields "transaction_fingerprint")
        "Transaction fingerprint"
      raiseIf (supplied ≠ fingerprintJson digest
          (.obj (Keyed.remove Prod.fst "transaction_fingerprint" fields)))
        (liveAdapterError "External transaction integrity verification failed.")
      raiseIf (Json.get fields "default_policy_targeted" ≠ .bool false)
        (liveAdapterError "External transaction must not target the Default policy.")
      raiseIf (Json.get fields "raw_running_config_included" ≠ .bool false)
        (liveAdapterError "External transaction must not contain raw running configuration.")
      let bindings ← readBindings manifest (Json.get fields "bindings")
      raiseIf (¬ (bindings.map (·.proxyId)).Nodup ∨ ¬ (bindings.map (·.policyId)).Nodup)
        (liveAdapterError "External transaction reuses a native object across profiles.")
      let assignment ← readAssignment bindings (Json.get fields "assignment")
      readCommands manifest fields bindings assignment pre post
      readExpectations (Json.get fields "verification_expectations") post guard
      pure (planOf bindings assignment)
  | _ => .error (liveAdapterError "External transaction packet is malformed.")

end External

end RouterKit.Netcraze
