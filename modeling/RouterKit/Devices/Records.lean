import Mathlib.Data.Prod.Lex
import Mathlib.Data.String.Basic
import RouterKit.Lib.Checked
import RouterKit.Lib.IpAddress
import RouterKit.Lib.StableSort

/-!
Raw device records and the devices they are merged into. Records are sorted,
grouped by the text of their identity, and every group becomes one device; the
devices are then listed by their state and name.
-/

namespace RouterKit.Devices

open RouterKit.Lib RouterKit.Lib.IpText RouterKit.Lib.Checked

inductive AdapterState where
  | supported
  | unsupported
  | contractUnverified
  | malformedOutput
  | permissionDenied
  | timeout
  | outputTooLarge
  | sourceMissing
deriving DecidableEq, Repr

def AdapterState.text : AdapterState → String
  | .supported => "supported"
  | .unsupported => "unsupported"
  | .contractUnverified => "contract_unverified"
  | .malformedOutput => "malformed_output"
  | .permissionDenied => "permission_denied"
  | .timeout => "timeout"
  | .outputTooLarge => "output_too_large"
  | .sourceMissing => "source_missing"

/-- `ADAPTER_STATES`. -/
def adapterStates : List AdapterState :=
  [.supported, .unsupported, .contractUnverified, .malformedOutput, .permissionDenied, .timeout,
    .outputTooLarge, .sourceMissing]

def maxTotalRecords : Nat := 512

def maxNormalizedDevices : Nat := 512

def maxAddressesPerDevice : Nat := 32

def maxErrorCount : Nat := 64

structure DiscoverySource where
  name : String
  kind : String
  state : AdapterState := .supported
  confidence : String := "fixture"
deriving DecidableEq, Repr

structure RawDeviceRecord where
  source : String
  sourceKind : String
  sourceRecordId : String
  displayName : Option String := none
  addresses : List String := []
  stableIdentifier : Option String := none
  stableIdentifierType : Option String := none
  vendorRecordId : Option String := none
  onlineState : String := "unknown"
  connectionType : String := "unknown"
  wifiBand : Option String := none
  interface : Option String := none
  existingPolicy : Option String := none
  lastSeen : Option String := none
  stale : Bool := false
deriving DecidableEq, Repr

structure NormalizedDevice where
  recordId : String
  displayName : String
  addresses : List String
  stableIdentifier : Option String
  stableIdentifierType : Option String
  onlineState : String
  connectionType : String
  wifiBand : Option String
  interface : Option String
  existingPolicy : Option String
  sources : List String
  stale : Bool
  selectable : Bool := false
  selectionBlockReason : Option String := none
  conflict : Bool := false
deriving DecidableEq, Repr

structure DiscoveryResult where
  adapterState : AdapterState
  sources : List DiscoverySource
  devices : List NormalizedDevice
  errors : List String := []
  generatedAt : Option String := none
deriving DecidableEq, Repr

/-- The exceptions of the module, and the `ValueError` of an address that
cannot be read. -/
inductive Raised where
  | discovery (message : String)
  | inventorySchema (message : String)
  | selection (message : String)
  | valueError
deriving DecidableEq, Repr

/-- What the interpreter supplies: case conversion and the hash. -/
structure Runtime where
  lower : String → String
  casefold : String → String
  sha256Hex : String → String

/-- `_stable_hash(value, length)`. -/
def Runtime.stableHash (rt : Runtime) (value : String) (length : Nat) : String :=
  String.ofList ((rt.sha256Hex value).toList.take length)

/-- An interpreter as it is on ASCII texts, with a hash. -/
def asciiRuntime (sha256Hex : String → String) : Runtime where
  lower text := String.ofList (text.toList.map PyText.asciiLower)
  casefold text := String.ofList (text.toList.map PyText.asciiLower)
  sha256Hex

/-- A text that counts as true: present and not empty. -/
def present (text : Option String) : Option String :=
  text.filter (· ≠ "")

def displayIdentity (record : RawDeviceRecord) : Option String :=
  match present record.stableIdentifier with
  | some identifier => some ((present record.stableIdentifierType).getD "unknown" ++
      ":" ++ identifier)
  | none => (present record.vendorRecordId).map ("vendor_record_id:" ++ ·)

def assignmentIdentity (record : RawDeviceRecord) : Option String :=
  if record.stableIdentifierType = some "mac" then
    (present record.stableIdentifier).map ("mac:" ++ ·)
  else none

/-- `",".join(addresses)`. -/
def joinAddresses (addresses : List String) : String :=
  ",".intercalate addresses

def recordSortKey (record : RawDeviceRecord) : String ×ₗ String ×ₗ String :=
  toLex (record.source, toLex (record.sourceRecordId,
    (displayIdentity record).getD (joinAddresses record.addresses)))

def recordGroupKey (record : RawDeviceRecord) : String :=
  match displayIdentity record with
  | some identity => "stable|" ++ identity
  | none => "weak|" ++ record.source ++ "|" ++ record.sourceRecordId ++ "|" ++
      joinAddresses record.addresses

/-- The text a device's record identifier is hashed from. -/
def hashSeed (group : List RawDeviceRecord) : String :=
  (group.head?.bind displayIdentity).getD ("|".intercalate (group.map fun record =>
    record.source ++ ":" ++ record.sourceRecordId ++ ":" ++ joinAddresses record.addresses))

def pickName (records : List RawDeviceRecord) (recordId : String) : String :=
  (records.findSome? fun record => present record.displayName).getD
    ("Unnamed device " ++ String.ofList (recordId.toList.take 8))

def pickOnlineState (records : List RawDeviceRecord) : String :=
  if records.any (·.onlineState = "online") then "online"
  else if records.any (·.onlineState = "unknown") then "unknown"
  else "offline"

def pickConnectionType (records : List RawDeviceRecord) : String :=
  match (records.map (·.connectionType)).filter (· ≠ "unknown") with
  | [] => "unknown"
  | concrete :: rest => if (concrete :: rest).dedup.length = 1 then concrete else "unknown"

def pickOptional (values : List (Option String)) : Option String :=
  values.findSome? present

/-- `(version, packed)` of an address. -/
def addressKey (address : String) : Option (ℕ ×ₗ ℕ) :=
  (ipAddress address.toList).map fun parsed => toLex (parsed.version, parsed.value)

/-- `tuple(sorted(set(addresses), key=(version, packed)))`. -/
def sortedAddresses (order : SetOrder String) (addresses : List String) :
    Except Raised (List String) :=
  if addresses.all fun address => (addressKey address).isSome then
    .ok (sortBy (fun address => (addressKey address).getD (toLex (0, 0))) (order.walk addresses))
  else .error .valueError

/-- Whether a vendor identifier is used by records of several identities. -/
def conflictingVendorId (records : List RawDeviceRecord) (vendorId : String) : Bool :=
  1 < ((records.filter (present ·.vendorRecordId = some vendorId)).map fun record =>
    (displayIdentity record).getD "weak").dedup.length

/-- The one identity a group may be assigned by. -/
def trustedIdentity (group : List RawDeviceRecord) : Option String :=
  match (group.filterMap assignmentIdentity).dedup with
  | [identity] => some identity
  | _ => none

/-- The device of a group of records that have these addresses together. -/
def deviceOf (rt : Runtime) (records group : List RawDeviceRecord) (addresses : List String) :
    NormalizedDevice :=
  let recordId := "dev-" ++ rt.stableHash (hashSeed group) 20
  let conflict := group.any fun record => record.vendorRecordId.any (conflictingVendorId records)
  let trusted := (trustedIdentity group).isSome
  { recordId
    displayName := pickName group recordId
    addresses
    stableIdentifier := group.head?.bind (·.stableIdentifier)
    stableIdentifierType := group.head?.bind (·.stableIdentifierType)
    onlineState := pickOnlineState group
    connectionType := pickConnectionType group
    wifiBand := pickOptional (group.map (·.wifiBand))
    interface := pickOptional (group.map (·.interface))
    existingPolicy := pickOptional (group.map (·.existingPolicy))
    sources := sortBy id (group.map (·.sourceKind)).dedup
    stale := group.all (·.stale)
    selectable := trusted && !conflict
    selectionBlockReason :=
      if (group.head?.bind displayIdentity).isNone then some "stable identifier unavailable"
      else if !trusted then some "selectable unicast MAC identity unavailable"
      else if conflict then some "conflicting stable identity"
      else none
    conflict }

def describeGroup (rt : Runtime) (order : SetOrder String) (records group : List RawDeviceRecord) :
    Except Raised NormalizedDevice := do
  let addresses ← sortedAddresses order (group.flatMap (·.addresses))
  raiseIf (maxAddressesPerDevice < addresses.length)
    (.discovery "Device inventory contains too many addresses.")
  return deviceOf rt records group addresses

/-- What an operator tells two devices apart by. -/
def deviceLabel (rt : Runtime) (device : NormalizedDevice) : String × List String × String :=
  (rt.lower device.displayName, device.addresses, device.connectionType)

/-- A label that occurs twice takes the device from the selectable ones. -/
def disambiguate (rt : Runtime) (devices : List NormalizedDevice) (device : NormalizedDevice) :
    NormalizedDevice :=
  if 1 < (devices.map (deviceLabel rt)).count (deviceLabel rt device) then
    { device with
      selectable := false
      selectionBlockReason := some "ambiguous duplicate device label" }
  else device

def stateRank (onlineState : String) : Nat :=
  if onlineState = "online" then 0 else if onlineState = "offline" then 2 else 1

def deviceSortKey (rt : Runtime) (device : NormalizedDevice) : ℕ ×ₗ String ×ₗ String :=
  toLex (stateRank device.onlineState, toLex (rt.casefold device.displayName, device.recordId))

/-- The groups in the order of their keys, every group in the order of its records. -/
def sortedGroups (records : List RawDeviceRecord) : List (String × List RawDeviceRecord) :=
  sortBy Prod.fst (groupBy recordGroupKey (sortBy recordSortKey records))

/-- `{DiscoverySource(record.source, record.source_kind) for record in records}`
by name. -/
def recordSources (order : SetOrder DiscoverySource) (records : List RawDeviceRecord) :
    List DiscoverySource :=
  sortBy (·.name) (order.walk (records.map fun record =>
    { name := record.source, kind := record.sourceKind }))

/-- The orders in which one call walks the sets it builds. -/
structure SetOrders where
  addresses : SetOrder String
  sources : SetOrder DiscoverySource

/-- The orders of the entries' last occurrences. -/
def occurrenceOrders : SetOrders where
  addresses := ⟨List.dedup, fun _ => .refl _⟩
  sources := ⟨List.dedup, fun _ => .refl _⟩

def normalizeRecords (rt : Runtime) (orders : SetOrders) (records : List RawDeviceRecord)
    (sourceErrors : List String) : Except Raised DiscoveryResult := do
  raiseIf (maxTotalRecords < records.length)
    (.discovery "Device inventory contains too many records.")
  let devices ← mapEach (fun group => describeGroup rt orders.addresses records group.2)
    (sortedGroups records)
  let sortedDevices := sortBy (deviceSortKey rt) (devices.map (disambiguate rt devices))
  raiseIf (maxNormalizedDevices < sortedDevices.length)
    (.discovery "Device inventory contains too many normalized devices.")
  return {
    adapterState := if sourceErrors = [] then .supported else .malformedOutput
    sources := recordSources orders.sources records
    devices := sortedDevices
    errors := sourceErrors.take maxErrorCount }

/-- The keys of the groups, in their order. -/
def groupKeys (records : List RawDeviceRecord) : List String :=
  sortBy id (records.map recordGroupKey).dedup

/-- The records of one key, in their order. -/
def groupOf (records : List RawDeviceRecord) (key : String) : List RawDeviceRecord :=
  sortBy recordSortKey (records.filter (recordGroupKey · = key))

theorem mem_groupKeys {records : List RawDeviceRecord} {key : String} :
    key ∈ groupKeys records ↔ ∃ record ∈ records, recordGroupKey record = key := by
  rw [groupKeys, mem_sortBy, List.mem_dedup, List.mem_map]

theorem groupKeys_nodup (records : List RawDeviceRecord) : (groupKeys records).Nodup :=
  (sortBy_perm _).nodup_iff.mpr (List.nodup_dedup _)

@[simp] theorem mem_groupOf {records : List RawDeviceRecord} {key : String}
    {record : RawDeviceRecord} :
    record ∈ groupOf records key ↔ record ∈ records ∧ recordGroupKey record = key := by
  simp [groupOf]

/-- The sorted dictionary is the list of the groups. -/
theorem sortedGroups_eq (records : List RawDeviceRecord) :
    sortedGroups records = (groupKeys records).map fun key => (key, groupOf records key) := by
  have hkeys : groupKeys (sortBy recordSortKey records) = groupKeys records := by
    unfold groupKeys
    apply sortBy_congr
    · exact (List.perm_ext_iff_of_nodup (List.nodup_dedup _) (List.nodup_dedup _)).mpr (by simp)
    · rw [List.map_id]
      exact List.nodup_dedup _
  rw [← hkeys]
  unfold sortedGroups groupOf
  rw [sortBy_groupBy]
  apply List.map_congr_left
  intro key _
  rw [sortBy_filter]

theorem sortedAddresses_eq_ok {order : SetOrder String} {addresses sorted : List String} :
    sortedAddresses order addresses = .ok sorted ↔
      (∀ address ∈ addresses, (addressKey address).isSome = true) ∧
        sorted = sortBy (fun address => (addressKey address).getD (toLex (0, 0)))
          (order.walk addresses) := by
  unfold sortedAddresses
  split
  · next hall =>
    rw [Except.ok.injEq, eq_comm]
    exact (and_iff_right (List.all_eq_true.mp hall)).symm
  · next hsome =>
    constructor
    · intro h
      cases h
    · rintro ⟨hall, -⟩
      exact absurd (List.all_eq_true.mpr hall) hsome

@[simp] theorem mem_walk {α : Type} [DecidableEq α]
    (order : SetOrder α) {entries : List α} {a : α} :
    a ∈ order.walk entries ↔ a ∈ entries := by
  rw [(order.perm entries).mem_iff, List.mem_dedup]

theorem sortedAddresses_mem {order : SetOrder String} {addresses sorted : List String}
    (h : sortedAddresses order addresses = .ok sorted) {address : String} :
    address ∈ sorted ↔ address ∈ addresses := by
  rw [(sortedAddresses_eq_ok.mp h).2, mem_sortBy, mem_walk]

theorem describeGroup_eq_ok {rt : Runtime} {order : SetOrder String}
    {records group : List RawDeviceRecord} {device : NormalizedDevice} :
    describeGroup rt order records group = .ok device ↔
      ∃ addresses, sortedAddresses order (group.flatMap (·.addresses)) = .ok addresses ∧
        addresses.length ≤ maxAddressesPerDevice ∧
        device = deviceOf rt records group addresses := by
  simp only [describeGroup, bind_eq_ok, raiseIf_eq_ok, exists_unit, not_lt, pure_eq_ok]
  constructor
  · rintro ⟨addresses, hsorted, hlength, rfl⟩
    exact ⟨addresses, hsorted, hlength, rfl⟩
  · rintro ⟨addresses, hsorted, hlength, rfl⟩
    exact ⟨addresses, hsorted, hlength, rfl⟩

theorem normalizeRecords_eq_ok {rt : Runtime} {orders : SetOrders} {records : List RawDeviceRecord}
    {sourceErrors : List String} {result : DiscoveryResult} :
    normalizeRecords rt orders records sourceErrors = .ok result ↔
      records.length ≤ maxTotalRecords ∧ ∃ devices,
        mapEach (fun group => describeGroup rt orders.addresses records group.2)
          (sortedGroups records) = .ok devices ∧
        devices.length ≤ maxNormalizedDevices ∧ result = {
          adapterState := if sourceErrors = [] then .supported else .malformedOutput
          sources := recordSources orders.sources records
          devices := sortBy (deviceSortKey rt) (devices.map (disambiguate rt devices))
          errors := sourceErrors.take maxErrorCount } := by
  have hlength : ∀ devices : List NormalizedDevice,
      (sortBy (deviceSortKey rt) (devices.map (disambiguate rt devices))).length =
        devices.length := fun devices =>
    (sortBy_perm _).length_eq.trans (List.length_map _)
  simp only [normalizeRecords, bind_eq_ok, raiseIf_eq_ok, exists_unit, not_lt, pure_eq_ok, hlength]
  constructor
  · rintro ⟨hrecords, devices, hdevices, hcount, rfl⟩
    exact ⟨hrecords, devices, hdevices, hcount, rfl⟩
  · rintro ⟨hrecords, devices, hdevices, hcount, rfl⟩
    exact ⟨hrecords, devices, hdevices, hcount, rfl⟩

end RouterKit.Devices
