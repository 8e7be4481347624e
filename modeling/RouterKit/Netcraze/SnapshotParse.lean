import RouterKit.Lib.Json
import RouterKit.Netcraze.PlanIntegrity

/-!
Reading a protected fixture. A fixture is an observation and grants nothing:
keys that claim ownership or authority are refused wherever they stand. The
filter looks at the keys as they are written; the names of capabilities are
stripped of blanks only afterwards.
-/

namespace RouterKit.Netcraze

open RouterKit.Lib RouterKit.Lib.Checked RouterKit.Devices

def maxConnections : Nat := 128
def maxPolicies : Nat := 128
def maxAssignments : Nat := 512
def maxCapabilities : Nat := 32

/-- `_FORBIDDEN_FIXTURE_KEYS`. -/
def forbiddenFixtureKeys : List String :=
  ["adapter_ownership_proof", "backup_complete", "backup_success", "delete_authorized",
    "live_adapter", "live_apply_capability", "owned", "ownership", "permission_to_delete",
    "permission_to_update", "trusted_revision", "update_authorized", "write_authority"]

def capabilityStates : List String :=
  ["documented", "inferred", "unknown", "hardware_confirmation_required"]

/-- `_strict_keys`. -/
def strictKeys (fields : List (String × Json String)) (allowed : List String)
    (description : String) : Except NetcrazePlanError Unit :=
  raiseIf (¬ ∀ key ∈ fields.map Prod.fst, key ∈ allowed)
    (snapshotSchemaError (description ++ " contains unsupported fields."))

/-- `_clean_text` on any value. -/
def cleanValue (value : Json String) (description : String) : Except NetcrazePlanError String :=
  match value with
  | .str text => cleanText text description
  | _ => .error (snapshotSchemaError (description ++ " must be text."))

/-- `_bool`. -/
def readBool (value : Json String) (description : String) : Except NetcrazePlanError Bool :=
  match value with
  | .bool value => .ok value
  | _ => .error (snapshotSchemaError (description ++ " must be true or false."))

def readPort (value : Json String) : Except NetcrazePlanError Nat :=
  match value with
  | .int port => do
      raiseIf (¬ (1 ≤ port ∧ port ≤ 65535))
        (snapshotSchemaError "Router connection port is invalid.")
      pure port.toNat
  | _ => .error (snapshotSchemaError "Router connection port is invalid.")

def readItems (value : Json String) (atMost : Nat) (inventory : String) :
    Except NetcrazePlanError (List (Json String)) :=
  match value with
  | .arr items => do
      raiseIf (atMost < items.length)
        (snapshotSchemaError ("Router snapshot " ++ inventory ++ " inventory is invalid."))
      pure items
  | _ => .error (snapshotSchemaError ("Router snapshot " ++ inventory ++ " inventory is invalid."))

/-- `_normalize_mac` on any value. -/
def readMac (value : Json String) : Except NetcrazePlanError String :=
  match value with
  | .str text => normalizeMac text
  | _ => .error (snapshotSchemaError "Device assignment requires a unicast MAC identity.")

def readState (text : String) : Except NetcrazePlanError SnapshotState :=
  if text = "supported" then .ok .supported
  else if text = "degraded" then .ok .degraded
  else if text = "contract_unverified" then .ok .contractUnverified
  else .error (snapshotSchemaError "Router snapshot state is unsupported.")

def readDefaultStatus (text : String) : Except NetcrazePlanError DefaultPolicyStatus :=
  if text = "known" then .ok .known
  else if text = "unknown" then .ok .unknown
  else if text = "ambiguous" then .ok .ambiguous
  else .error (snapshotSchemaError "Default-policy status is unsupported.")

section Parsing

variable (loads : String → Option (Json String)) (ipAddress : String → Option String)
  (foldNonAscii : Char → List Char)

def foldText (text : String) : String := String.ofList (casefold foldNonAscii text)

/-- `str(key).casefold() in _FORBIDDEN_FIXTURE_KEYS`. -/
def isForbiddenKey (key : String) : Bool :=
    decide (foldText foldNonAscii key ∈ forbiddenFixtureKeys)

mutual

/-- What `_reject_fixture_trust` raises for. -/
def claimsTrust : Json String → Bool
  | .obj fields => fieldsClaimTrust fields
  | .arr items => itemsClaimTrust items
  | _ => false

def itemsClaimTrust : List (Json String) → Bool
  | [] => false
  | item :: rest => claimsTrust item || itemsClaimTrust rest

def fieldsClaimTrust : List (String × Json String) → Bool
  | [] => false
  | (key, child) :: rest =>
      isForbiddenKey foldNonAscii key || claimsTrust child || fieldsClaimTrust rest

end

def rejectFixtureTrust (value : Json String) : Except NetcrazePlanError Unit :=
  raiseIf (claimsTrust foldNonAscii value)
    (snapshotSchemaError "Fixture input cannot grant ownership or write authority.")

def parseConnection (raw : Json String) : Except NetcrazePlanError ExistingProxyConnection :=
  match raw with
  | .obj fields => do
      strictKeys fields ["id", "name", "protocol", "host", "port", "auth_mode", "enabled",
        "semantic_complete"] "Router connection"
      let port ← readPort (Json.get fields "port")
      let host ← cleanValue (Json.get fields "host") "Router connection host"
      match ipAddress host with
      | none => .error (snapshotSchemaError "Router connection host is invalid.")
      | some host => do
          let objectId ← cleanValue (Json.get fields "id") "Router connection ID"
          let name ← cleanValue (Json.get fields "name") "Router connection name"
          let protocol ← cleanValue (Json.get fields "protocol") "Router connection protocol"
          let authMode ← cleanValue (Json.get fields "auth_mode")
            "Router connection authentication mode"
          let enabled ← readBool (Json.get fields "enabled") "Router connection enabled state"
          let semanticComplete ← readBool
            ((Json.get? fields "semantic_complete").getD (.bool true)) "Connection completeness"
          pure {
            objectId, name
            protocol := foldText foldNonAscii protocol
            host, port
            authMode := foldText foldNonAscii authMode
            enabled, semanticComplete }
  | _ => .error (snapshotSchemaError "Router snapshot contains a malformed connection.")

def parsePolicy (raw : Json String) : Except NetcrazePlanError ExistingPolicy :=
  match raw with
  | .obj fields => do
      strictKeys fields ["id", "name", "connection_ref", "mode", "is_default", "semantic_complete",
        "unrelated_rules"] "Router policy"
      let objectId ← cleanValue (Json.get fields "id") "Router policy ID"
      let name ← cleanValue (Json.get fields "name") "Router policy name"
      let connectionRef ← cleanValue (Json.get fields "connection_ref")
        "Router policy connection reference"
      let mode ← cleanValue (Json.get fields "mode") "Router policy mode"
      let isDefaultObserved ← readBool ((Json.get? fields "is_default").getD (.bool false))
        "Observed default-policy label"
      let semanticComplete ← readBool ((Json.get? fields "semantic_complete").getD (.bool true))
        "Policy completeness"
      let unrelatedRules ← readBool ((Json.get? fields "unrelated_rules").getD (.bool false))
        "Policy unrelated-rules state"
      pure {
        objectId, name, connectionRef
        mode := foldText foldNonAscii mode
        isDefaultObserved, semanticComplete, unrelatedRules }
  | _ => .error (snapshotSchemaError "Router snapshot contains a malformed policy.")

def parseAssignment (raw : Json String) : Except NetcrazePlanError ExistingDeviceAssignment :=
  match raw with
  | .obj fields => do
      strictKeys fields ["device_mac", "policy_ref"] "Router device assignment"
      let deviceMac ← readMac (Json.get fields "device_mac")
      let policyRef ← cleanValue (Json.get fields "policy_ref") "Assigned policy reference"
      pure { deviceMac, policyRef }
  | _ => .error (snapshotSchemaError "Router snapshot contains a malformed assignment.")

/-- One round of the loop over the capabilities. -/
def parseCapability (field : String × Json String) :
    Except NetcrazePlanError (String × String) := do
  let cleanKey ← cleanText field.1 "Capability name"
  let cleanState ← cleanValue field.2 "Capability state"
  raiseIf (foldText foldNonAscii cleanState ∉ capabilityStates)
    (snapshotSchemaError "Router snapshot capability state is unsupported.")
  pure (cleanKey, foldText foldNonAscii cleanState)

/-- The raw capabilities of a fixture; a missing field is an empty object. -/
def rawCapabilities (fields : List (String × Json String)) : Json String :=
  (Json.get? fields "capabilities").getD (.obj [])

def parseCapabilities (value : Json String) :
    Except NetcrazePlanError (List (String × String)) :=
  match value with
  | .obj raw => do
      raiseIf (maxCapabilities < raw.length)
        (snapshotSchemaError "Router snapshot capabilities are invalid.")
      mapEach (parseCapability foldNonAscii) (Keyed.sortByKey Prod.fst raw)
  | _ => .error (snapshotSchemaError "Router snapshot capabilities are invalid.")

/-- The observed default policy: its status, and a reference when it is known. -/
def parseDefaultPolicy (value : Json String) :
    Except NetcrazePlanError (DefaultPolicyStatus × Option String) :=
  match value with
  | .obj fields => do
      strictKeys fields ["status", "observed_ref"] "Default-policy observation"
      let statusText ← cleanValue (Json.get fields "status") "Default-policy status"
      let status ← readDefaultStatus (foldText foldNonAscii statusText)
      let ref ← match Json.get fields "observed_ref" with
        | .null => pure none
        | raw => (cleanValue raw "Default-policy reference").map some
      raiseIf (status = .known ∧ ref.getD "" = "")
        (snapshotSchemaError "Known default policy requires an observed reference.")
      raiseIf (status ≠ .known ∧ ref ≠ none) (snapshotSchemaError
        "Unknown or ambiguous default policy cannot name one trusted reference.")
      pure (status, ref)
  | _ => .error (snapshotSchemaError "Router snapshot default-policy observation is required.")

/-- `parse_router_state_snapshot` on the fields of the loaded object. -/
def parseSnapshotFields (fields : List (String × Json String)) :
    Except NetcrazePlanError RouterStateSnapshot := do
  rejectFixtureTrust foldNonAscii (.obj fields)
  strictKeys fields ["schema", "snapshot_id", "state", "stale", "default_policy", "connections",
    "policies", "assignments", "capabilities"] "Router state fixture"
  raiseIf (Json.get fields "schema" ≠ .str snapshotSchema)
    (snapshotSchemaError "Unsupported router state fixture schema.")
  let stateText ← cleanValue (Json.get fields "state") "Router snapshot state"
  let state ← readState (foldText foldNonAscii stateText)
  let defaultPolicy ← parseDefaultPolicy foldNonAscii (Json.get fields "default_policy")
  let rawConnections ← readItems (Json.get fields "connections") maxConnections "connection"
  let rawPolicies ← readItems (Json.get fields "policies") maxPolicies "policy"
  let rawAssignments ← readItems (Json.get fields "assignments") maxAssignments "assignment"
  let connections ← mapEach (parseConnection ipAddress foldNonAscii) rawConnections
  let policies ← mapEach (parsePolicy foldNonAscii) rawPolicies
  let assignments ← mapEach parseAssignment rawAssignments
  let capabilities ← parseCapabilities foldNonAscii (rawCapabilities fields)
  let snapshotId ← cleanValue (Json.get fields "snapshot_id") "Router snapshot ID"
  let stale ← readBool (Json.get fields "stale") "Router snapshot stale state"
  let snapshot : RouterStateSnapshot := {
    snapshotId, state, stale
    defaultPolicyStatus := defaultPolicy.1
    defaultPolicyRef := defaultPolicy.2
    connections, policies, assignments, capabilities }
  let _ ← validateSnapshotConsistency foldNonAscii snapshot
  pure snapshot

/-- `parse_router_state_snapshot`, for any reader `loads` of JSON texts. -/
def parseRouterStateSnapshot (text : String) : Except NetcrazePlanError RouterStateSnapshot :=
  match loads text with
  | none => .error (snapshotSchemaError "Router state fixture is not valid JSON.")
  | some (.obj fields) => parseSnapshotFields ipAddress foldNonAscii fields
  | some _ => .error (snapshotSchemaError "Router state fixture must be a JSON object.")

end Parsing

section Accepted

variable {loads : String → Option (Json String)} {ipAddress : String → Option String}
  {foldNonAscii : Char → List Char}

/-- `str.strip`. -/
def stripText (text : String) : String := String.ofList (PyText.strip text.toList)

theorem cleanText_eq_strip {value description cleaned : String}
    (h : cleanText value description = .ok cleaned) : cleaned = stripText value ∧ cleaned ≠ "" := by
  simp only [cleanText, bind_eq_ok, exists_unit, raiseIf_eq_ok, pure_eq_ok, not_or] at h
  obtain ⟨-, ⟨hne, -⟩, rfl⟩ := h
  refine ⟨rfl, fun hempty => hne ?_⟩
  have hlist := congrArg String.toList hempty
  rwa [String.toList_ofList] at hlist

theorem cleanValue_ne_empty {value : Json String} {description cleaned : String}
    (h : cleanValue value description = .ok cleaned) : cleaned ≠ "" := by
  unfold cleanValue at h
  split at h
  · exact (cleanText_eq_strip h).2
  · cases h

theorem parseConnection_objectId {raw : Json String} {connection : ExistingProxyConnection}
    (h : parseConnection ipAddress foldNonAscii raw = .ok connection) :
    connection.objectId ≠ "" := by
  unfold parseConnection at h
  split at h
  · simp only [bind_eq_ok, exists_unit] at h
    obtain ⟨-, port, -, host, -, h⟩ := h
    split at h
    · cases h
    · simp only [bind_eq_ok, pure_eq_ok] at h
      obtain ⟨objectId, hid, name, -, protocol, -, authMode, -, enabled, -, complete, -, rfl⟩ := h
      exact cleanValue_ne_empty hid
  · cases h

theorem parsePolicy_objectId {raw : Json String} {policy : ExistingPolicy}
    (h : parsePolicy foldNonAscii raw = .ok policy) : policy.objectId ≠ "" := by
  unfold parsePolicy at h
  split at h
  · simp only [bind_eq_ok, exists_unit, pure_eq_ok] at h
    obtain ⟨-, objectId, hid, name, -, ref, -, mode, -, default, -, complete, -, rules, -, rfl⟩ := h
    exact cleanValue_ne_empty hid
  · cases h

/-- What the reader has established about a snapshot it returns. -/
structure ParsedFrom (ipAddress : String → Option String) (foldNonAscii : Char → List Char)
    (fields : List (String × Json String)) (snapshot : RouterStateSnapshot) : Prop where
  trustFiltered : claimsTrust foldNonAscii (.obj fields) = false
  consistent : snapshot.Consistent foldNonAscii
  connectionIds : ∀ connection ∈ snapshot.connections, connection.objectId ≠ ""
  policyIds : ∀ policy ∈ snapshot.policies, policy.objectId ≠ ""
  capabilities : parseCapabilities foldNonAscii (rawCapabilities fields) = .ok snapshot.capabilities

theorem parsedFrom_of_accepted {text : String} {snapshot : RouterStateSnapshot}
    (h : parseRouterStateSnapshot loads ipAddress foldNonAscii text = .ok snapshot) :
    ∃ fields, loads text = some (.obj fields) ∧
      ParsedFrom ipAddress foldNonAscii fields snapshot := by
  unfold parseRouterStateSnapshot at h
  split at h
  · cases h
  · next fields hloads =>
    refine ⟨fields, hloads, ?_⟩
    simp only [parseSnapshotFields, rejectFixtureTrust, bind_eq_ok, exists_unit, raiseIf_eq_ok,
      pure_eq_ok, Bool.not_eq_true] at h
    obtain ⟨htrust, -, -, stateText, -, state, -, default, -, rawConnections, -, rawPolicies, -,
      rawAssignments, -, connections, hconnections, policies, hpolicies, assignments, -,
      capabilities, hcapabilities, snapshotId, -, stale, -, consistency, hconsistent, rfl⟩ := h
    refine ⟨htrust, ((validateSnapshotConsistency_eq_ok foldNonAscii).mp hconsistent).1, ?_, ?_,
      hcapabilities⟩
    · intro connection hconnection
      obtain ⟨raw, -, hraw⟩ := mem_of_mapEach hconnections hconnection
      exact parseConnection_objectId hraw
    · intro policy hpolicy
      obtain ⟨raw, -, hraw⟩ := mem_of_mapEach hpolicies hpolicy
      exact parsePolicy_objectId hraw
  · cases h

end Accepted

section Authority

variable {loads : String → Option (Json String)} {ipAddress : String → Option String}
  {foldNonAscii : Char → List Char}

/-- A snapshot that grants no authority through its capabilities. -/
structure RouterStateSnapshot.GrantsNoAuthority (foldNonAscii : Char → List Char)
    (snapshot : RouterStateSnapshot) : Prop where
  names_nodup : (snapshot.capabilities.map Prod.fst).Nodup
  names_allowed : ∀ name ∈ snapshot.capabilities.map Prod.fst,
      isForbiddenKey foldNonAscii name = false
  no_write_contract : ∀ entry ∈ snapshot.capabilities, entry ≠ ("write_contract", "documented")
  default_identity : ∀ entry ∈ snapshot.capabilities, entry.1 = "default_policy_identity" →
    some entry.2 ∈ allowedDefaultCapabilities snapshot.defaultPolicyStatus

/-- The capability keys of a text, as they are written. -/
def capabilityKeys (loads : String → Option (Json String)) (text : String) : List String :=
  match loads text with
  | some (.obj fields) =>
      match rawCapabilities fields with
      | .obj raw => raw.map Prod.fst
      | _ => []
  | _ => []

/-- Stripping the keys makes no two of them equal, and makes no padded one a
forbidden key. -/
structure StripSafe (foldNonAscii : Char → List Char) (keys : List String) : Prop where
  apart : (keys.map stripText).Nodup
  padded : ∀ key ∈ keys, stripText key ≠ key → isForbiddenKey foldNonAscii (stripText key) = false

theorem fieldsClaimTrust_eq_false {fields : List (String × Json String)} :
    fieldsClaimTrust foldNonAscii fields = false ↔
      ∀ field ∈ fields, isForbiddenKey foldNonAscii field.1 = false ∧
        claimsTrust foldNonAscii field.2 = false := by
  induction fields with
  | nil => simp [fieldsClaimTrust]
  | cons field rest ih =>
      obtain ⟨key, child⟩ := field
      simp only [fieldsClaimTrust, Bool.or_eq_false_iff, ih, List.forall_mem_cons]

/-- Behind the filter no capability key is a forbidden one as it is written. -/
theorem ParsedFrom.rawKeys {fields raw : List (String × Json String)}
    {snapshot : RouterStateSnapshot} (h : ParsedFrom ipAddress foldNonAscii fields snapshot)
    (hraw : rawCapabilities fields = .obj raw) :
    ∀ key ∈ raw.map Prod.fst, isForbiddenKey foldNonAscii key = false := by
  have hfields : ∀ field ∈ fields, _ :=
    fieldsClaimTrust_eq_false.mp (by simpa only [claimsTrust] using h.trustFiltered)
  have hvalue : claimsTrust foldNonAscii (.obj raw) = false := by
    rw [← hraw, rawCapabilities]
    cases hget : Json.get? fields "capabilities" with
    | none => simp [claimsTrust, fieldsClaimTrust]
    | some value => exact (hfields _ (Json.get?_mem hget)).2
  intro key hkey
  obtain ⟨field, hfield, rfl⟩ := List.mem_map.mp hkey
  have hchildren : fieldsClaimTrust foldNonAscii raw = false := by
    simpa only [claimsTrust] using hvalue
  exact (fieldsClaimTrust_eq_false.mp hchildren field hfield).1

/-- The names of the parsed capabilities are the stripped keys. -/
theorem ParsedFrom.names {fields : List (String × Json String)} {snapshot : RouterStateSnapshot}
    (h : ParsedFrom ipAddress foldNonAscii fields snapshot) :
    ∃ raw, rawCapabilities fields = .obj raw ∧
      (snapshot.capabilities.map Prod.fst).Perm ((raw.map Prod.fst).map stripText) := by
  have hcapabilities := h.capabilities
  unfold parseCapabilities at hcapabilities
  split at hcapabilities
  · next raw hraw =>
    refine ⟨raw, hraw, ?_⟩
    simp only [bind_eq_ok, exists_unit] at hcapabilities
    have hall := mapEach_eq_ok.mp hcapabilities.2
    have hnames : snapshot.capabilities.map Prod.fst =
        ((Keyed.sortByKey Prod.fst raw).map Prod.fst).map stripText := by
      clear hcapabilities
      generalize snapshot.capabilities = capabilities at hall
      generalize Keyed.sortByKey Prod.fst raw = sorted at hall
      induction hall with
      | nil => rfl
      | cons hone _ ih =>
          simp only [parseCapability, bind_eq_ok, exists_unit, pure_eq_ok] at hone
          obtain ⟨name, hname, state, -, -, rfl⟩ := hone
          simp only [List.map_cons, (cleanText_eq_strip hname).1, ih]
    rw [hnames]
    exact ((Keyed.sortByKey_perm Prod.fst raw).map Prod.fst).map stripText
  · cases hcapabilities

/-- Under distinct names each entry is the one its name is looked up by. -/
theorem capabilityOf_of_mem {snapshot : RouterStateSnapshot}
    (hnodup : (snapshot.capabilities.map Prod.fst).Nodup) {entry : String × String}
    (hentry : entry ∈ snapshot.capabilities) : capabilityOf snapshot entry.1 = some entry.2 := by
  have hreversed : (snapshot.capabilities.reverse.map Prod.fst).Nodup := by
    rwa [List.map_reverse, List.nodup_reverse]
  rw [capabilityOf, Keyed.lookup_of_mem Prod.fst hreversed (List.mem_reverse.mpr hentry)]
  rfl

/-- An accepted text grants no authority exactly when stripping its capability
keys merges no two of them and uncovers no forbidden one. -/
theorem snapshot_grants_no_authority_iff {text : String} {snapshot : RouterStateSnapshot}
    (haccepted : parseRouterStateSnapshot loads ipAddress foldNonAscii text = .ok snapshot) :
    snapshot.GrantsNoAuthority foldNonAscii ↔
      StripSafe foldNonAscii (capabilityKeys loads text) := by
  obtain ⟨fields, hloads, hparsed⟩ := parsedFrom_of_accepted haccepted
  obtain ⟨raw, hraw, hnames⟩ := hparsed.names
  have hkeys : capabilityKeys loads text = raw.map Prod.fst := by
    simp only [capabilityKeys, hloads, hraw]
  have hfiltered := hparsed.rawKeys hraw
  rw [hkeys]
  constructor
  · intro hgrants
    refine ⟨hnames.nodup_iff.mp hgrants.names_nodup, fun key hkey _ => ?_⟩
    exact hgrants.names_allowed _ (hnames.mem_iff.mpr (List.mem_map_of_mem hkey))
  · intro hsafe
    have hnodup : (snapshot.capabilities.map Prod.fst).Nodup := hnames.nodup_iff.mpr hsafe.apart
    have hchecked := hparsed.consistent.capabilities
    simp only [checkCapabilities, bind_eq_ok, exists_unit, raiseIf_eq_ok, not_not] at hchecked
    obtain ⟨hdefault, -, hwrite⟩ := hchecked
    refine ⟨hnodup, ?_, ?_, ?_⟩
    · intro name hname
      obtain ⟨key, hkey, rfl⟩ := List.mem_map.mp (hnames.mem_iff.mp hname)
      by_cases hpadded : stripText key = key
      · rw [hpadded]
        exact hfiltered key hkey
      · exact hsafe.padded key hkey hpadded
    · rintro entry hentry rfl
      exact hwrite (capabilityOf_of_mem hnodup hentry)
    · intro entry hentry hname
      rwa [← hname, capabilityOf_of_mem hnodup hentry] at hdefault

/-- A fixture with the given capabilities. -/
def fixtureText (capabilities : String) : String :=
  "\x7b\"schema\":\"routerkit.netcraze.state.fixture.v1\",\"snapshot_id\":\"s\"," ++
  "\"state\":\"degraded\",\"stale\":false,\"default_policy\":\x7b\"status\":\"unknown\"\x7d," ++
  "\"connections\":[],\"policies\":[],\"assignments\":[],\"capabilities\":\x7b" ++
  capabilities ++ "\x7d\x7d"

def fixtureFields (capabilities : List (String × Json String)) : List (String × Json String) :=
  [("schema", .str snapshotSchema), ("snapshot_id", .str "s"), ("state", .str "degraded"),
    ("stale", .bool false), ("default_policy", .obj [("status", .str "unknown")]),
    ("connections", .arr []), ("policies", .arr []), ("assignments", .arr []),
    ("capabilities", .obj capabilities)]

def fixtureSnapshot (capabilities : List (String × String)) : RouterStateSnapshot where
  snapshotId := "s"
  state := .degraded
  stale := false
  defaultPolicyStatus := .unknown
  defaultPolicyRef := none
  connections := []
  policies := []
  assignments := []
  capabilities

def plainFixture : String := fixtureText "\"write_contract\":\"unknown\""

def paddedFixture : String := fixtureText
  "\" owned\":\"documented\",\" write_contract\":\"documented\",\"write_contract\":\"unknown\""

def plainCapabilities : List (String × Json String) := [("write_contract", .str "unknown")]

def paddedCapabilities : List (String × Json String) :=
  [(" owned", .str "documented"), (" write_contract", .str "documented"),
    ("write_contract", .str "unknown")]

/-- What a JSON reader returns for the two. -/
def loadsFixtures (text : String) : Option (Json String) :=
  if text = plainFixture then some (.obj (fixtureFields plainCapabilities))
  else if text = paddedFixture then some (.obj (fixtureFields paddedCapabilities))
  else none

theorem plainFixture_accepted :
    parseRouterStateSnapshot loadsFixtures some (fun c => [c]) plainFixture =
      .ok (fixtureSnapshot [("write_contract", "unknown")]) := by
  decide +kernel

theorem snapshot_grants_no_authority_plain :
    (fixtureSnapshot [("write_contract", "unknown")]).GrantsNoAuthority (fun c => [c]) := by
  apply (snapshot_grants_no_authority_iff plainFixture_accepted).mpr
  have hkeys : capabilityKeys loadsFixtures plainFixture = ["write_contract"] := by decide +kernel
  rw [hkeys]
  exact ⟨by decide +kernel, by decide +kernel⟩

def paddedSnapshot : RouterStateSnapshot :=
  fixtureSnapshot [("owned", "documented"), ("write_contract", "documented"),
    ("write_contract", "unknown")]

theorem padded_fixture_grants :
    parseRouterStateSnapshot loadsFixtures some (fun c => [c]) paddedFixture = .ok paddedSnapshot ∧
      ("write_contract", "documented") ∈ paddedSnapshot.capabilities ∧
      ¬ paddedSnapshot.GrantsNoAuthority (fun c => [c]) := by
  have hsorted : Keyed.sortByKey Prod.fst paddedCapabilities = paddedCapabilities :=
    Keyed.sortByKey_of_pairwise Prod.fst (by decide +kernel)
  have hcapabilities : parseCapabilities (fun c => [c])
      (rawCapabilities (fixtureFields paddedCapabilities)) = .ok paddedSnapshot.capabilities := by
    have hraw : rawCapabilities (fixtureFields paddedCapabilities) = .obj paddedCapabilities := by
      decide +kernel
    rw [hraw, parseCapabilities, hsorted]
    decide +kernel
  have hloads : loadsFixtures paddedFixture = some (.obj (fixtureFields paddedCapabilities)) := by
    decide +kernel
  refine ⟨?_, by decide, fun hgrants => ?_⟩
  · simp only [parseRouterStateSnapshot, hloads, parseSnapshotFields, hcapabilities]
    decide +kernel
  · have hforbidden := hgrants.names_allowed "owned" (by decide)
    revert hforbidden
    decide +kernel

end Authority

section Planning

variable {loads : String → Option (Json String)} {ipAddress : String → Option String}
  {foldNonAscii : Char → List Char}

variable {snapshot : RouterStateSnapshot} {profile : LocalProxyProfile}

/-- A connection's reference is sound when no observed id is empty. -/
theorem planConnection_reference_valid
    (hids : ∀ connection ∈ snapshot.connections, connection.objectId ≠ "")
    (hslot : profile.slot ∈ [1, 2, 3]) {reference : ObjectReference}
    (h : (planConnection foldNonAscii snapshot profile).reference = some reference) :
    validateReference reference = .ok () := by
  unfold planConnection at h
  split at h
  · cases h
  · next existing hexact =>
    obtain rfl := Option.some.inj h
    have hmem : existing ∈ exactConnections snapshot profile := by
      rw [hexact]
      exact List.mem_singleton_self existing
    have hobserved : existing ∈ snapshot.connections :=
      (List.mem_filter.mp ((Keyed.sortByKey_perm _ _).mem_iff.mp hmem)).1
    exact validateReference_existingConnection.mpr (hids existing hobserved)
  · cases h
  · split at h
    · cases h
    · obtain rfl := Option.some.inj h
      exact validateReference_planned hslot (.inl rfl)

theorem planPolicy_reference_valid
    (hids : ∀ policy ∈ snapshot.policies, policy.objectId ≠ "")
    (hslot : profile.slot ∈ [1, 2, 3]) {desiredRef : Option ObjectReference}
    {reference : ObjectReference}
    (h : (planPolicy foldNonAscii snapshot desiredRef profile).reference = some reference) :
    validateReference reference = .ok () := by
  unfold planPolicy at h
  split at h
  · cases h
  · next desired =>
    split at h
    · cases h
    · next existing hexact =>
      obtain rfl := Option.some.inj h
      have hmem : existing ∈ exactPoliciesFor snapshot desired := by
        rw [hexact]
        exact List.mem_singleton_self existing
      have hobserved : existing ∈ snapshot.policies := by
        unfold exactPoliciesFor at hmem
        split at hmem
        · exact (List.mem_filter.mp ((Keyed.sortByKey_perm _ _).mem_iff.mp hmem)).1
        · cases hmem
      exact validateReference_existingPolicy.mpr (hids existing hobserved)
    · cases h
    · split at h
      · cases h
      · obtain rfl := Option.some.inj h
        exact validateReference_planned hslot (.inr rfl)

/-- The references of a plan made from non-empty ids are sound. -/
theorem objectActions_references {profiles : List LocalProxyProfile}
    {selectedDevice : Option SelectedDeviceRef}
    (hconnections : ∀ connection ∈ snapshot.connections, connection.objectId ≠ "")
    (hpolicies : ∀ policy ∈ snapshot.policies, policy.objectId ≠ "")
    (hslots : ∀ profile ∈ profiles, profile.slot ∈ [1, 2, 3]) :
    ∀ action ∈ objectActions foldNonAscii snapshot profiles selectedDevice,
      ∀ reference ∈ action.dependencies, validateReference reference = .ok () := by
  intro action haction reference hreference
  obtain ⟨object, hobject, rfl⟩ := List.mem_map.mp haction
  rcases List.mem_append.mp hobject with hobject | hassignment
  · rcases List.mem_append.mp hobject with hconnection | hpolicy
    · obtain ⟨profile, -, rfl⟩ := List.mem_map.mp hconnection
      rw [planConnection_dependencies] at hreference
      cases hreference
    · obtain ⟨profile, hprofile, rfl⟩ := List.mem_map.mp hpolicy
      rw [planPolicy_dependencies, Option.mem_toList] at hreference
      exact planConnection_reference_valid hconnections (hslots profile hprofile) hreference
  · unfold planAssignments at hassignment
    split at hassignment
    · next device primary rest =>
      obtain rfl := List.mem_singleton.mp hassignment
      rw [planDevice_dependencies, Option.mem_toList] at hreference
      exact planPolicy_reference_valid hpolicies (hslots primary List.mem_cons_self) hreference
    · cases hassignment

/-- From a parsed snapshot the planner always makes a plan: its own integrity
check never stands in the way. -/
theorem parsed_snapshot_planned {Digest : Type} [DecidableEq Digest]
    (sha256Json : PlanPayload Digest → Digest) {text : String}
    (hparsed : parseRouterStateSnapshot loads ipAddress foldNonAscii text = .ok snapshot)
    {manifest normalized : LocalEndpointManifest}
    (hmanifest : normalizeLocalEndpointManifest manifest = .ok normalized)
    {selectedDevice selected : Option SelectedDeviceRef}
    (hdevice : normalizeSelected selectedDevice = .ok selected) :
    ∃ plan, buildChangePlan foldNonAscii sha256Json manifest snapshot selectedDevice =
        .ok plan := by
  obtain ⟨fields, -, hsnapshot⟩ := parsedFrom_of_accepted hparsed
  have hconsistent := (validateSnapshotConsistency_eq_ok foldNonAscii).mpr
    ⟨hsnapshot.consistent, rfl⟩
  have hfingerprint : snapshotSemanticFingerprint sha256Json foldNonAscii snapshot =
      .ok (sha256Json (.snapshot (snapshotSemantics snapshot))) := by
    rw [snapshotSemanticFingerprint, hsnapshot.consistent.projection]
    rfl
  have valid := LocalEndpointManifest.valid_of_normalized hmanifest
  have hreferences : ∀ action ∈ objectActions foldNonAscii snapshot normalized.profiles selected,
      ∀ reference ∈ action.dependencies, validateReference reference = .ok () :=
    objectActions_references hsnapshot.connectionIds hsnapshot.policyIds
      (fun _ hprofile => valid.slot_mem hprofile)
  have hintegrity : ∀ fingerprint, validateChangePlanIntegrity sha256Json (signPlan sha256Json
      (draftPlan foldNonAscii snapshot normalized.profiles selected fingerprint)) = .ok () :=
    integrity_of_references valid (normalizeSelected_idem hdevice) hreferences
  refine ⟨signPlan sha256Json (draftPlan foldNonAscii snapshot normalized.profiles selected
    (sha256Json (.snapshot (snapshotSemantics snapshot)))), ?_⟩
  simp only [buildChangePlan, hmanifest, hdevice, hconsistent, hfingerprint, bind_ok_left,
    hintegrity]
  rfl

def primaryManifest : LocalEndpointManifest where
  profiles := [⟨1, "primary", "127.0.0.1", 1082, true, "socks5", "none"⟩]

def hallwayDevice : SelectedDeviceRef where
  displayName := "hallway"
  mac := "02-00-00-00-00-01"

theorem parsed_snapshot_planned_sample :
    ∃ plan, buildChangePlan (fun c => [c]) (fun _ => 0) primaryManifest
      (fixtureSnapshot [("write_contract", "unknown")]) (some hallwayDevice) = .ok plan := by
  have hmanifest : normalizeLocalEndpointManifest primaryManifest = .ok primaryManifest := by
    decide +kernel
  have hdevice : normalizeSelected (some hallwayDevice) =
      .ok (some ⟨"hallway", "02:00:00:00:00:01"⟩) := by
    decide +kernel
  exact parsed_snapshot_planned (fun _ => 0) plainFixture_accepted hmanifest hdevice

end Planning

end RouterKit.Netcraze
