import RouterKit.Devices.Records
import RouterKit.Devices.TrustedMac
import RouterKit.Lib.Json

/-!
Reading an inventory document. A source that is not in the supported state, and
a record that is malformed, each leave one error behind; anything wrong with
the document's own schema ends the reading.
-/

namespace RouterKit.Devices

open RouterKit.Lib RouterKit.Lib.PyText RouterKit.Lib.IpText RouterKit.Lib.Checked

def fixtureSchema : String := "routerkit.devices.fixture.v1"

def sourceKinds : List String :=
  ["dhcp_leases", "wifi_associations", "ethernet_fdb", "policy_bindings", "fixture", "vendor"]

def confidenceValues : List String :=
  ["fixture", "official_documented", "official_inferred", "secondary_corroborated",
    "hardware_confirmation_required"]

def onlineStates : List String := ["online", "unknown", "offline"]

def connectionTypes : List String := ["ethernet", "wifi", "unknown"]

def maxSourceCount : Nat := 16

def maxRecordsPerSource : Nat := 256

def maxAddressesPerRecord : Nat := 16

def maxSourceNameLength : Nat := 64

def maxDisplayNameLength : Nat := 128

def maxIdentifierLength : Nat := 128

def maxSourceRecordIdLength : Nat := 128

def maxOptionalFieldLength : Nat := 128

def recordKeys : List String :=
  ["source_record_id", "display_name", "addresses", "stable_identifier", "stable_identifier_type",
    "vendor_record_id", "online_state", "connection_type", "wifi_band", "interface",
    "existing_policy", "last_seen", "stale"]

/-- `re.sub("[…]+", " ", text)` for a class of characters. -/
def collapseRuns (blank : Char → Bool) (inRun : Bool) : List Char → List Char
  | [] => []
  | c :: rest =>
      if blank c then
        if inRun then collapseRuns blank true rest else ' ' :: collapseRuns blank true rest
      else c :: collapseRuns blank false rest

def cleaned (value : String) : String :=
  String.ofList (strip (collapseRuns isSpace false (collapseRuns isControl false value.toList)))

def cleanText (value : Json String) (maximumLength : Nat) (description : String) :
    Except Raised (Option String) :=
  match value with
  | .null => .ok none
  | .str text =>
      if maximumLength < (cleaned text).length then
        .error (.inventorySchema
          ("Device inventory " ++ description ++ " exceeds the maximum length."))
      else .ok (present (some (cleaned text)))
  | _ => .error (.discovery "Device inventory contains an unsupported text field.")

/-- The error of the shared canonicalizer, as the inventory reports it. -/
def trustedMac (identifier : String) : Except Raised String :=
  (normalizeTrustedDeviceMac identifier).mapError fun error => .discovery error.message

def normalizeStableIdentifier (rt : Runtime) (identifier identifierType : Json String) :
    Except Raised (Option String × Option String) := do
  match ← cleanText identifier maxIdentifierLength "identifier field" with
  | none => return (none, none)
  | some identifier =>
      let spelled ← cleanText identifierType maxIdentifierLength "identifier type field"
      let identifierType := rt.lower (spelled.getD "unknown")
      if identifierType = "mac" then
        let mac ← trustedMac identifier
        return (some mac, some "mac")
      raiseIf (¬ ["router_id", "vendor_record_id", "unknown"].contains identifierType)
        (.discovery "Device inventory contains an unsupported identifier type.")
      return (some (rt.lower identifier), some identifierType)

def normalizeAddress : Json String → Except Raised String
  | .str value =>
      match ipAddress (strip value.toList) with
      | some address => .ok (String.ofList address.text)
      | none => .error (.discovery "Device inventory contains an invalid address.")
  | _ => .error (.discovery "Device inventory contains an unsupported address field.")

def normalizeAddresses (order : SetOrder String) : Json String → Except Raised (List String)
  | .null => .ok []
  | .arr values => do
      raiseIf (maxAddressesPerRecord < values.length)
        (.inventorySchema "Device inventory contains too many addresses.")
      let addresses ← mapEach normalizeAddress values
      sortedAddresses order addresses
  | _ => .error (.discovery "Device inventory contains an unsupported address field.")

/-- A field with a closed list of lower-case values. -/
def parseChoice (rt : Runtime) (value : Json String) (description : String) :
    Except Raised String := do
  let spelled ← cleanText value maxOptionalFieldLength description
  return rt.lower (spelled.getD "unknown")

def parseStale : Json String → Except Raised Bool
  | .bool stale => .ok stale
  | _ => .error (.discovery "Device inventory contains an unsupported stale field.")

def parseRecord (rt : Runtime) (order : SetOrder String) (sourceName sourceKind : String)
    (index : Nat) : Json String → Except Raised RawDeviceRecord
  | .obj item => do
      raiseIf (¬ (item.map Prod.fst).all recordKeys.contains)
        (.discovery "Device inventory contains unsupported record schema.")
      let spelledId ← cleanText (Json.get item "source_record_id") maxSourceRecordIdLength
        "source record id field"
      let (stableIdentifier, stableIdentifierType) ← normalizeStableIdentifier rt
        (Json.get item "stable_identifier") (Json.get item "stable_identifier_type")
      let vendorRecordId ← cleanText (Json.get item "vendor_record_id") maxIdentifierLength
        "vendor record id field"
      let onlineState ← parseChoice rt (Json.get item "online_state") "online state field"
      let connectionType ← parseChoice rt (Json.get item "connection_type") "connection type field"
      raiseIf (¬ onlineStates.contains onlineState)
        (.discovery "Device inventory contains an unsupported online state.")
      raiseIf (¬ connectionTypes.contains connectionType)
        (.discovery "Device inventory contains an unsupported connection type.")
      let addresses ← normalizeAddresses order ((Json.get? item "addresses").getD (.arr []))
      let stale ← parseStale ((Json.get? item "stale").getD (.bool false))
      raiseIf ((present stableIdentifier).isNone && vendorRecordId.isNone && addresses.isEmpty)
        (.discovery "Device inventory record has no assignable or display identity.")
      let displayName ← cleanText (Json.get item "display_name") maxDisplayNameLength
        "display name field"
      let wifiBand ← cleanText (Json.get item "wifi_band") maxOptionalFieldLength
        "wifi band field"
      let interface ← cleanText (Json.get item "interface") maxOptionalFieldLength
        "interface field"
      let existingPolicy ← cleanText (Json.get item "existing_policy") maxOptionalFieldLength
        "policy field"
      let lastSeen ← cleanText (Json.get item "last_seen") maxOptionalFieldLength
        "last-seen field"
      return {
        source := sourceName
        sourceKind := sourceKind
        sourceRecordId := spelledId.getD (sourceName ++ "-" ++ toString (index + 1))
        displayName, addresses, stableIdentifier, stableIdentifierType, vendorRecordId
        onlineState, connectionType, wifiBand, interface, existingPolicy, lastSeen, stale }
  | _ => .error (.discovery "Device inventory contains a malformed record.")

/-- An error is noted until the list is full. -/
def noteError (errors : List String) (error : String) : List String :=
  if errors.length < maxErrorCount then errors ++ [error] else errors

/-- What makes the reader skip a record instead of giving up the document. -/
def Raised.skipsRecord : Raised → Bool
  | .discovery _ | .selection _ => true
  | .inventorySchema _ | .valueError => false

def skippedError (sourceName : String) : String :=
  "malformed record skipped from source " ++ sourceName

def reportedError (sourceName : String) (state : AdapterState) : String :=
  "source " ++ sourceName ++ " reported " ++ state.text

def parseRecords (rt : Runtime) (order : SetOrder String) (name kind : String) (index : Nat)
    (records : List RawDeviceRecord) (errors : List String) :
    List (Json String) → Except Raised (List RawDeviceRecord × List String)
  | [] => .ok (records, errors)
  | item :: rest =>
      match parseRecord rt order name kind index item with
      | .ok record => parseRecords rt order name kind (index + 1) (records ++ [record]) errors rest
      | .error raised =>
          if raised.skipsRecord then
            parseRecords rt order name kind (index + 1) records
              (noteError errors (skippedError name)) rest
          else .error raised

def parseSource (rt : Runtime) (order : SetOrder String) :
    Json String → Except Raised (DiscoverySource × List RawDeviceRecord × List String)
  | .obj source => do
      raiseIf (¬ (source.map Prod.fst).all
          ["name", "kind", "state", "confidence", "records"].contains)
        (.discovery "Device inventory contains unsupported source schema.")
      let name ← cleanText (Json.get source "name") maxSourceNameLength "source name field"
      let kind ← cleanText (Json.get source "kind") maxOptionalFieldLength "source kind field"
      match name, kind with
      | some name, some kind => do
          raiseIf (¬ sourceKinds.contains kind)
            (.discovery "Device inventory source kind is unsupported.")
          let spelledState ← cleanText (Json.get source "state") maxOptionalFieldLength
            "source state field"
          let spelledConfidence ← cleanText (Json.get source "confidence") maxOptionalFieldLength
            "source confidence field"
          let confidence := spelledConfidence.getD "fixture"
          match adapterStates.find? (·.text = spelledState.getD AdapterState.supported.text) with
          | none => throw (.discovery "Device inventory source state is unsupported.")
          | some state =>
              raiseIf (¬ confidenceValues.contains confidence)
                (.discovery "Device inventory source confidence is unsupported.")
              let summary : DiscoverySource := { name, kind, state, confidence }
              if state ≠ .supported then
                return (summary, [], [reportedError name state])
              else
                match Json.get source "records" with
                | .arr items => do
                    raiseIf (maxRecordsPerSource < items.length)
                      (.discovery "Device inventory source contains too many records.")
                    let (records, errors) ← parseRecords rt order name kind 0 [] [] items
                    return (summary, records, errors)
                | _ => throw (.discovery "Device inventory source has no record list.")
      | _, _ => throw (.discovery "Device inventory source is missing required metadata.")
  | _ => .error (.discovery "Device inventory contains an unsupported source entry.")

/-- The name of a source, as the reader leaves it. -/
def IsSourceName (name : String) : Prop :=
  ∃ value, cleanText value maxSourceNameLength "source name field" = .ok (some name)

/-- What a source leaves behind: its report, or what its records are read to. -/
theorem parseSource_cases {rt : Runtime} {order : SetOrder String} {value : Json String}
    {summary : DiscoverySource} {records : List RawDeviceRecord} {errors : List String}
    (h : parseSource rt order value = .ok (summary, records, errors)) :
    IsSourceName summary.name ∧
      ((summary.state ≠ .supported ∧ records = [] ∧
          errors = [reportedError summary.name summary.state]) ∨
        (summary.state = .supported ∧ ∃ source items, value = .obj source ∧
          Json.get source "records" = .arr items ∧
          parseRecords rt order summary.name summary.kind 0 [] [] items = .ok
          (records, errors))) := by
  cases value with
  | obj source =>
      simp only [parseSource, bind_eq_ok, exists_unit] at h
      obtain ⟨-, name, hname, kind, hkind, h⟩ := h
      cases name with
      | none => cases h
      | some name =>
          cases kind with
          | none => cases h
          | some kind =>
              simp only [bind_eq_ok, exists_unit] at h
              obtain ⟨-, spelled, -, confidence, -, h⟩ := h
              split at h
              · cases h
              · next state hstate =>
                simp only [bind_eq_ok, exists_unit] at h
                obtain ⟨-, h⟩ := h
                split at h
                · next hdegraded =>
                  cases h
                  exact ⟨⟨_, hname⟩, .inl ⟨hdegraded, rfl, rfl⟩⟩
                · next hsupported =>
                  split at h
                  · next items hitems =>
                    simp only [bind_eq_ok, exists_unit] at h
                    obtain ⟨-, parsed, hparsed, h⟩ := h
                    cases h
                    exact ⟨⟨_, hname⟩, .inr ⟨not_not.mp hsupported, _, _, rfl, hitems, hparsed⟩⟩
                  · cases h
  | null => cases h
  | bool => cases h
  | int => cases h
  | float => cases h
  | str => cases h
  | arr => cases h

theorem mem_noteError {errors : List String} {error note : String}
    (h : error ∈ noteError errors note) : error ∈ errors ∨ error = note := by
  unfold noteError at h
  split at h
  · simpa using h
  · exact .inl h

theorem noteError_ne_nil (errors : List String) (note : String) : noteError errors note ≠ [] := by
  unfold noteError
  split
  · simp
  · next hfull =>
    intro hempty
    exact hfull (hempty ▸ by decide)

/-- Every record that is kept was parsed, every error notes a skipped record,
and where nothing was noted nothing was skipped. -/
theorem parseRecords_spec {rt : Runtime} {order : SetOrder String} {name kind : String}
    {index : Nat} {records final : List RawDeviceRecord} {errors finalErrors : List String}
    {items : List (Json String)}
    (h : parseRecords rt order name kind index records errors items = .ok (final, finalErrors)) :
    ∃ added, final = records ++ added ∧
      (∀ record ∈ added, ∃ position item,
        parseRecord rt order name kind position item = .ok record) ∧
      (∀ error ∈ finalErrors, error ∈ errors ∨ error = skippedError name) ∧
      (finalErrors = [] → errors = [] ∧ ∀ position item, items[position]? = some item →
        ∃ record ∈ added, parseRecord rt order name kind (index + position) item = .ok record) := by
  induction items generalizing index records errors with
  | nil =>
      cases h
      refine ⟨[], by simp, by simp, fun error herror => .inl herror, fun hnone => ⟨hnone, ?_⟩⟩
      intro position item hitem
      simp at hitem
  | cons item rest ih =>
      unfold parseRecords at h
      split at h
      · next record hrecord =>
        obtain ⟨added, rfl, hadded, herrors, hclean⟩ := ih h
        refine ⟨record :: added, by simp, ?_, herrors, fun hnone => ⟨(hclean hnone).1, ?_⟩⟩
        · intro other hother
          rcases List.mem_cons.mp hother with rfl | hrest
          · exact ⟨_, _, hrecord⟩
          · exact hadded other hrest
        · intro position found hfound
          cases position with
          | zero =>
              cases hfound
              exact ⟨record, List.mem_cons_self, hrecord⟩
          | succ position =>
              obtain ⟨other, hother, hparsed⟩ := (hclean hnone).2 position found hfound
              refine ⟨other, List.mem_cons_of_mem _ hother, ?_⟩
              rwa [Nat.add_assoc, Nat.add_comm 1] at hparsed
      · split at h
        · obtain ⟨added, rfl, hadded, herrors, hclean⟩ := ih h
          refine ⟨added, rfl, hadded, ?_, fun hnone => ?_⟩
          · intro error herror
            rcases herrors error herror with hnoted | hname
            · exact mem_noteError hnoted
            · exact .inr hname
          · exact absurd (hclean hnone).1 (noteError_ne_nil _ _)
        · cases h

/-- What has been read of the document's sources. -/
structure Collected where
  sources : List DiscoverySource := []
  records : List RawDeviceRecord := []
  errors : List String := []

def Collected.addSource (rt : Runtime) (order : SetOrder String) (collected : Collected)
    (value : Json String) : Except Raised Collected := do
  let (source, records, errors) ← parseSource rt order value
  raiseIf (maxTotalRecords < (collected.records ++ records).length)
    (.discovery "Device inventory contains too many records.")
  return {
    sources := collected.sources ++ [source]
    records := collected.records ++ records
    errors := errors.foldl noteError collected.errors }

def collectSources (rt : Runtime) (order : SetOrder String) (values : List (Json String)) :
    Except Raised Collected :=
  values.foldlM (Collected.addSource rt order) {}

def parseFixtureInventory (rt : Runtime) (orders : SetOrders)
    (loads : String → Option (Json String)) (text : String) : Except Raised DiscoveryResult := do
  match loads text with
  | none => throw (.discovery "Device inventory is not valid JSON.")
  | some (.obj document) => do
      raiseIf (¬ (document.map Prod.fst).all ["schema", "generated_at", "sources"].contains)
        (.discovery "Device inventory contains unsupported top-level schema.")
      raiseIf (Json.get document "schema" ≠ .str fixtureSchema)
        (.discovery "Device inventory schema is unsupported.")
      match Json.get document "sources" with
      | .arr values => do
          raiseIf (maxSourceCount < values.length)
            (.discovery "Device inventory contains too many sources.")
          let collected ← collectSources rt orders.addresses values
          let result ← normalizeRecords rt orders collected.records collected.errors
          let generatedAt ← cleanText (Json.get document "generated_at") maxOptionalFieldLength
            "generated-at field"
          return {
            adapterState := result.adapterState
            sources := collected.sources
            devices := result.devices
            errors := result.errors
            generatedAt }
      | _ => throw (.discovery "Device inventory sources must be a list.")
  | some _ => throw (.discovery "Device inventory root must be an object.")

/-- The entries of the document's source list. -/
def documentSources (loads : String → Option (Json String)) (text : String) :
    Option (List (Json String)) :=
  match loads text with
  | some (.obj document) =>
      match Json.get document "sources" with
      | .arr values => some values
      | _ => none
  | _ => none

/-- A result lists the sources that were read, and the devices of their records. -/
theorem parseFixtureInventory_cases {rt : Runtime} {orders : SetOrders}
    {loads : String → Option (Json String)} {text : String} {result : DiscoveryResult}
    (h : parseFixtureInventory rt orders loads text = .ok result) :
    ∃ values collected normalized, documentSources loads text = some values ∧
      collectSources rt orders.addresses values = .ok collected ∧
      normalizeRecords rt orders collected.records collected.errors = .ok normalized ∧
      result.sources = collected.sources ∧ result.devices = normalized.devices ∧
      result.errors = normalized.errors := by
  unfold parseFixtureInventory at h
  unfold documentSources
  cases hloaded : loads text with
  | none =>
      rw [hloaded] at h
      cases h
  | some value =>
      rw [hloaded] at h
      cases value with
      | obj document =>
          simp only [bind_eq_ok, exists_unit] at h
          obtain ⟨-, -, h⟩ := h
          split at h
          · next values hvalues =>
            simp only [bind_eq_ok, exists_unit, pure_eq_ok] at h
            obtain ⟨-, collected, hcollected, normalized, hnormalized, generated, -, rfl⟩ := h
            exact ⟨values, collected, normalized, by simp only [hvalues], hcollected, hnormalized,
              rfl, rfl, rfl⟩
          · cases h
      | null => cases h
      | bool => cases h
      | int => cases h
      | float => cases h
      | str => cases h
      | arr => cases h

theorem addSource_eq_ok {rt : Runtime} {order : SetOrder String} {collected next : Collected}
    {value : Json String} (h : collected.addSource rt order value = .ok next) :
    ∃ source records errors, parseSource rt order value = .ok (source, records, errors) ∧
      next = {
        sources := collected.sources ++ [source]
        records := collected.records ++ records
        errors := errors.foldl noteError collected.errors } := by
  simp only [Collected.addSource, bind_eq_ok, exists_unit, pure_eq_ok] at h
  obtain ⟨⟨source, records, errors⟩, hparsed, -, rfl⟩ := h
  exact ⟨source, records, errors, hparsed, rfl⟩

end RouterKit.Devices
