import RouterKit.Devices.MacLanguage
import RouterKit.Devices.Selection

/-!
What stands behind a device that can be selected: a document that was read
completely, one trusted address, and all the records of that address.
-/

namespace RouterKit.Devices

open RouterKit.Lib RouterKit.Lib.Checked

/-- The record names this address as its stable identifier. -/
def RawDeviceRecord.hasMac (mac : String) (record : RawDeviceRecord) : Bool :=
  record.stableIdentifier = some mac && record.stableIdentifierType = some "mac"

def NormalizedDevice.hasMac (mac : String) (device : NormalizedDevice) : Bool :=
  device.stableIdentifier = some mac && device.stableIdentifierType = some "mac"

/-- The identifiers that the reader can leave in a record. -/
structure ReadRecord (record : RawDeviceRecord) : Prop where
  identifier : (record.stableIdentifier = none ∧ record.stableIdentifierType = none) ∨
    (∃ mac, record.hasMac mac = true ∧ normalizeTrustedDeviceMac mac = .ok mac) ∨
    ∃ kind ∈ ["router_id", "vendor_record_id", "unknown"], record.stableIdentifierType = some kind
  vendor : record.vendorRecordId ≠ some ""

theorem cleanText_ne_empty {value : Json String} {maximumLength : Nat} {description : String}
    {text : Option String} (h : cleanText value maximumLength description = .ok text) :
    text ≠ some "" := by
  unfold cleanText at h
  split at h
  · cases h
    exact nofun
  · split at h
    · cases h
    · cases h
      intro hempty
      have hfilter := (Option.filter_eq_some_iff.mp hempty).2
      simp at hfilter
  · cases h

theorem trustedMac_normalized {identifier mac : String} (h : trustedMac identifier = .ok mac) :
    normalizeTrustedDeviceMac mac = .ok mac := by
  have hnormalized := mapError_eq_ok.mp h
  obtain ⟨number, hdenotes, hunicast, rfl⟩ := normalizeTrustedDeviceMac_eq_ok.mp hnormalized
  exact normalizeTrustedDeviceMac_eq_ok.mpr
    ⟨number, denotes_of_normalized hnormalized hdenotes, hunicast, rfl⟩

theorem normalizeStableIdentifier_cases {rt : Runtime} {identifier identifierType : Json String}
    {stable stableType : Option String}
    (h : normalizeStableIdentifier rt identifier identifierType = .ok (stable, stableType)) :
    (stable = none ∧ stableType = none) ∨
      (∃ mac, stable = some mac ∧ stableType = some "mac" ∧
        normalizeTrustedDeviceMac mac = .ok mac) ∨
      ∃ kind ∈ ["router_id", "vendor_record_id", "unknown"], stableType = some kind := by
  simp only [normalizeStableIdentifier, bind_eq_ok] at h
  obtain ⟨spelled, -, h⟩ := h
  cases spelled with
  | none =>
      cases h
      exact .inl ⟨rfl, rfl⟩
  | some spelled =>
      simp only [bind_eq_ok] at h
      obtain ⟨spelledType, -, h⟩ := h
      split at h
      · simp only [bind_eq_ok, pure_eq_ok, Prod.mk.injEq] at h
        obtain ⟨mac, hmac, rfl, rfl⟩ := h
        exact .inr (.inl ⟨mac, rfl, rfl, trustedMac_normalized hmac⟩)
      · simp only [bind_eq_ok, exists_unit, raiseIf_eq_ok, not_not, pure_eq_ok, Prod.mk.injEq] at h
        obtain ⟨hkind, -, rfl⟩ := h
        exact .inr (.inr ⟨_, by simpa using hkind, rfl⟩)

theorem parseRecord_read {rt : Runtime} {order : SetOrder String} {name kind : String}
    {index : Nat} {item : Json String} {record : RawDeviceRecord}
    (h : parseRecord rt order name kind index item = .ok record) : ReadRecord record := by
  cases item with
  | obj fields =>
      simp only [parseRecord, bind_eq_ok, exists_unit] at h
      obtain ⟨-, spelledId, -, ⟨stable, stableType⟩, hstable, vendorId, hvendor, h⟩ := h
      simp only [pure_eq_ok] at h
      obtain ⟨online, -, connection, -, -, -, addresses, -, stale, -, -, h⟩ := h
      obtain ⟨display, -, band, -, interface, -, policy, -, seen, -, rfl⟩ := h
      refine ⟨?_, cleanText_ne_empty hvendor⟩
      rcases normalizeStableIdentifier_cases hstable with hnone | ⟨mac, rfl, rfl, hmac⟩ | hother
      · exact .inl hnone
      · exact .inr (.inl ⟨mac, by simp [RawDeviceRecord.hasMac], hmac⟩)
      · exact .inr (.inr hother)
  | null => cases h
  | bool => cases h
  | int => cases h
  | float => cases h
  | str => cases h
  | arr => cases h

theorem present_of_ne_empty {text : String} (h : text ≠ "") : present (some text) = some text := by
  unfold present
  rw [Option.filter_eq_some_iff]
  exact ⟨rfl, by simpa using h⟩

theorem present_eq_some {value : Option String} {text : String} :
    present value = some text ↔ value = some text ∧ text ≠ "" := by
  rw [present, Option.filter_eq_some_iff]
  simp

private theorem normalizedMac_ne_empty {mac : String}
    (h : normalizeTrustedDeviceMac mac = .ok mac) : mac ≠ "" := by
  rintro rfl
  exact absurd h (by decide +kernel)

/-- The identity text of an address belongs to the records of that address. -/
theorem displayIdentity_eq_mac {record : RawDeviceRecord} (hread : ReadRecord record) {mac : String}
    (hmac : mac ≠ "") :
    displayIdentity record = some ("mac:" ++ mac) ↔ record.hasMac mac = true := by
  simp only [RawDeviceRecord.hasMac, Bool.and_eq_true, decide_eq_true_eq]
  constructor
  · intro h
    unfold displayIdentity at h
    split at h
    · next identifier hidentifier =>
      have hstable := (present_eq_some.mp hidentifier).1
      rcases hread.identifier with ⟨hnone, -⟩ | ⟨known, hknown, -⟩ | ⟨kind, hkind, htype⟩
      · rw [hnone] at hstable
        cases hstable
      · simp only [RawDeviceRecord.hasMac, Bool.and_eq_true, decide_eq_true_eq] at hknown
        rw [hknown.2, present_of_ne_empty (by decide)] at h
        have hsame : "mac:" ++ identifier = "mac:" ++ mac := Option.some.inj h
        rw [hstable, String.append_right_inj] at *
        exact ⟨congrArg some hsame, hknown.2⟩
      · have hspelled : kind ≠ "" := by
          rintro rfl
          simp at hkind
        rw [htype, present_of_ne_empty hspelled] at h
        have hsame := congrArg (fun text => text.toList.head?) (Option.some.inj h)
        simp only [List.mem_cons, List.not_mem_nil, or_false] at hkind
        rcases hkind with rfl | rfl | rfl <;> simp [String.toList_append] at hsame
    · obtain ⟨vendorId, -, hsame⟩ := Option.map_eq_some_iff.mp h
      have hhead := congrArg (fun text => text.toList.head?) hsame
      simp [String.toList_append] at hhead
  · rintro ⟨hstable, htype⟩
    unfold displayIdentity
    rw [hstable, htype, present_of_ne_empty hmac, present_of_ne_empty (by decide)]
    rfl

theorem recordGroupKey_eq_stable {record : RawDeviceRecord} {identity : String} :
    recordGroupKey record = "stable|" ++ identity ↔ displayIdentity record = some identity := by
  unfold recordGroupKey
  cases hidentity : displayIdentity record with
  | some found => rw [String.append_right_inj, Option.some.injEq]
  | none =>
      constructor
      · intro h
        have hhead := congrArg (fun text => text.toList.head?) h
        simp [String.toList_append] at hhead
      · intro h
        cases h

/-- Every entry of the source list is a supported source, and every record of
it was parsed and kept. -/
def ReadCompletely (rt : Runtime) (order : SetOrder String) (values : List (Json String))
    (collected : Collected) : Prop :=
  ∀ value ∈ values, ∃ source records fields items,
    parseSource rt order value = .ok (source, records, []) ∧ source ∈ collected.sources ∧
    source.state = .supported ∧ value = .obj fields ∧ Json.get fields "records" = .arr items ∧
    ∀ position item, items[position]? = some item → ∃ record ∈ collected.records,
      parseRecord rt order source.name source.kind position item = .ok record

/-- What the loop over the sources keeps: nothing is dropped, and an error is
never taken back. -/
private def SourcesKept (rt : Runtime) (order : SetOrder String) (done : List (Json String))
    (collected : Collected) : Prop :=
  (∀ record ∈ collected.records, ReadRecord record) ∧
    ∀ value ∈ done, ∃ source records errors,
      parseSource rt order value = .ok (source, records, errors) ∧ source ∈ collected.sources ∧
      (∀ record ∈ records, record ∈ collected.records) ∧ (collected.errors = [] → errors = [])

private theorem foldl_noteError_eq_nil {errors noted : List String}
    (h : noted.foldl noteError errors = []) : errors = [] ∧ noted = [] := by
  induction noted generalizing errors with
  | nil => exact ⟨h, rfl⟩
  | cons error rest ih => exact absurd (ih h).1 (noteError_ne_nil _ _)

private theorem addSource_kept {rt : Runtime} {order : SetOrder String}
    {done : List (Json String)} {collected next : Collected} {value : Json String}
    (hkept : SourcesKept rt order done collected)
    (h : collected.addSource rt order value = .ok next) :
    SourcesKept rt order (done ++ [value]) next := by
  obtain ⟨source, records, errors, hparsed, rfl⟩ := addSource_eq_ok h
  obtain ⟨hread, hdone⟩ := hkept
  constructor
  · intro record hrecord
    rcases List.mem_append.mp hrecord with hold | hnew
    · exact hread record hold
    · rcases (parseSource_cases hparsed).2 with ⟨-, rfl, -⟩ | ⟨-, -, items, -, -, hrecords⟩
      · cases hnew
      · obtain ⟨added, rfl, hadded, -, -⟩ := parseRecords_spec hrecords
        obtain ⟨position, item, hitem⟩ := hadded record (by simpa using hnew)
        exact parseRecord_read hitem
  · intro other hother
    rcases List.mem_append.mp hother with hold | hnew
    · obtain ⟨found, kept, noted, hfound, hlisted, hrecords, herrors⟩ := hdone other hold
      refine ⟨found, kept, noted, hfound, List.mem_append_left _ hlisted, ?_, ?_⟩
      · exact fun record hrecord => List.mem_append_left _ (hrecords record hrecord)
      · exact fun hempty => herrors (foldl_noteError_eq_nil hempty).1
    · rw [List.mem_singleton.mp hnew]
      refine ⟨source, records, errors, hparsed, by simp, ?_, ?_⟩
      · exact fun record hrecord => List.mem_append_right _ hrecord
      · exact fun hempty => (foldl_noteError_eq_nil hempty).2

private theorem collectSources_kept {rt : Runtime} {order : SetOrder String}
    {values : List (Json String)} {collected : Collected}
    (h : collectSources rt order values = .ok collected) :
    SourcesKept rt order values collected :=
  foldlM_invariant (fun _ _ _ _ hkept hnext => addSource_kept hkept hnext)
    ⟨by simp, by simp⟩ h

theorem collectSources_complete {rt : Runtime} {order : SetOrder String}
    {values : List (Json String)} {collected : Collected}
    (h : collectSources rt order values = .ok collected) (herrors : collected.errors = [])
    (hsupported : ∀ source ∈ collected.sources, source.state = .supported) :
    ReadCompletely rt order values collected := by
  intro value hvalue
  obtain ⟨source, records, errors, hparsed, hlisted, hrecords, hnone⟩ :=
    (collectSources_kept h).2 value hvalue
  obtain rfl := hnone herrors
  rcases (parseSource_cases hparsed).2 with ⟨hdegraded, -⟩ | ⟨-, fields, items, rfl, hitems, hread⟩
  · exact absurd (hsupported source hlisted) hdegraded
  · obtain ⟨added, rfl, -, -, hclean⟩ := parseRecords_spec hread
    refine ⟨source, _, fields, items, hparsed, hlisted, hsupported source hlisted, rfl, hitems, ?_⟩
    intro position item hitem
    obtain ⟨record, hadded, hrecord⟩ := (hclean rfl).2 position item hitem
    rw [Nat.zero_add] at hrecord
    exact ⟨record, hrecords record (by simpa using hadded), hrecord⟩

section Groups

variable {rt : Runtime} {records : List RawDeviceRecord}

def macKey (mac : String) : String := "stable|" ++ ("mac:" ++ mac)

theorem recordGroupKey_eq_macKey {record : RawDeviceRecord} (hread : ReadRecord record)
    {mac : String} (hmac : mac ≠ "") :
    recordGroupKey record = macKey mac ↔ record.hasMac mac = true :=
  recordGroupKey_eq_stable.trans (displayIdentity_eq_mac hread hmac)

theorem groupOf_macKey (hread : ∀ record ∈ records, ReadRecord record) {mac : String}
    (hmac : mac ≠ "") :
    groupOf records (macKey mac) = sortBy recordSortKey (records.filter (·.hasMac mac)) := by
  unfold groupOf
  congr 1
  apply List.filter_congr
  intro record hrecord
  have hkey := recordGroupKey_eq_macKey (hread record hrecord) hmac
  by_cases hhas : record.hasMac mac = true
  · rw [hhas]
    exact decide_eq_true (hkey.mpr hhas)
  · rw [Bool.not_eq_true] at hhas
    rw [hhas]
    exact decide_eq_false fun heq => by simp [hkey.mp heq] at hhas

theorem groupOf_ne_nil {key : String} (hkey : key ∈ groupKeys records) :
    groupOf records key ≠ [] := by
  obtain ⟨record, hrecord, hsame⟩ := mem_groupKeys.mp hkey
  exact List.ne_nil_of_mem (mem_groupOf.mpr ⟨hrecord, hsame⟩)

/-- Only the group of an address makes a device of that address. -/
theorem deviceOf_hasMac (hread : ∀ record ∈ records, ReadRecord record) {mac : String}
    (hmac : mac ≠ "") {key : String} (hkey : key ∈ groupKeys records) (addresses : List String) :
    (deviceOf rt records (groupOf records key) addresses).hasMac mac = true ↔ key = macKey mac := by
  have hne := groupOf_ne_nil hkey
  cases hgroup : groupOf records key with
  | nil => exact absurd hgroup hne
  | cons head rest =>
      have hhead : head ∈ groupOf records key := by
        rw [hgroup]
        exact List.mem_cons_self
      obtain ⟨hrecord, hsame⟩ := mem_groupOf.mp hhead
      have hdevice : (deviceOf rt records (head :: rest) addresses).hasMac mac = head.hasMac mac :=
        rfl
      rw [hdevice, ← recordGroupKey_eq_macKey (hread head hrecord) hmac, hsame]

private theorem assignmentIdentity_eq_some {record : RawDeviceRecord} {identity : String} :
    assignmentIdentity record = some identity ↔
      ∃ mac, mac ≠ "" ∧ record.hasMac mac = true ∧ identity = "mac:" ++ mac := by
  unfold assignmentIdentity
  constructor
  · intro h
    split at h
    · next htype =>
      obtain ⟨mac, hmac, rfl⟩ := Option.map_eq_some_iff.mp h
      obtain ⟨hstable, hne⟩ := present_eq_some.mp hmac
      exact ⟨mac, hne, by simp [RawDeviceRecord.hasMac, hstable, htype], rfl⟩
    · cases h
  · rintro ⟨mac, hne, hhas, rfl⟩
    simp only [RawDeviceRecord.hasMac, Bool.and_eq_true, decide_eq_true_eq] at hhas
    rw [if_pos hhas.2, hhas.1, present_of_ne_empty hne, Option.map_some]

/-- A selectable device has the key of an address, and no record of its group
stands in a conflict. -/
theorem deviceOf_selectable (hread : ∀ record ∈ records, ReadRecord record) {key : String}
    {addresses : List String}
    (h : (deviceOf rt records (groupOf records key) addresses).selectable = true) :
    (∃ mac, normalizeTrustedDeviceMac mac = .ok mac ∧ key = macKey mac) ∧
      ∀ record ∈ groupOf records key, ∀ vendorId, record.vendorRecordId = some vendorId →
        conflictingVendorId records vendorId = false := by
  obtain ⟨htrusted, hconflict⟩ := (Bool.and_eq_true _ _).mp h
  constructor
  · obtain ⟨identity, hidentity⟩ := Option.isSome_iff_exists.mp htrusted
    unfold trustedIdentity at hidentity
    split at hidentity
    · next found hfound =>
      have hmem : found ∈ (groupOf records key).filterMap assignmentIdentity := by
        rw [← List.mem_dedup, hfound]
        exact List.mem_singleton_self _
      obtain ⟨record, hrecord, hsome⟩ := List.mem_filterMap.mp hmem
      obtain ⟨hlisted, hsame⟩ := mem_groupOf.mp hrecord
      obtain ⟨mac, hne, hhas, -⟩ := assignmentIdentity_eq_some.mp hsome
      refine ⟨mac, ?_, hsame.symm.trans ((recordGroupKey_eq_macKey (hread _ hlisted) hne).mpr hhas)⟩
      simp only [RawDeviceRecord.hasMac, Bool.and_eq_true, decide_eq_true_eq] at hhas
      rcases (hread record hlisted).identifier with ⟨hnone, -⟩ | ⟨known, hknown, hmac⟩ | hother
      · rw [hnone] at hhas
        cases hhas.1
      · simp only [RawDeviceRecord.hasMac, Bool.and_eq_true, decide_eq_true_eq] at hknown
        obtain rfl := Option.some.inj (hknown.1.symm.trans hhas.1)
        exact hmac
      · obtain ⟨kind, hkind, htype⟩ := hother
        rw [hhas.2] at htype
        cases htype
        simp at hkind
    · cases hidentity
  · intro record hrecord vendorId hvendor
    rw [Bool.not_eq_true', List.any_eq_false] at hconflict
    have hnone := hconflict record hrecord
    rw [hvendor] at hnone
    simpa using hnone

theorem eq_of_length_le_one {α : Type} {entries : List α} (h : entries.length ≤ 1)
    {a b : α} (ha : a ∈ entries) (hb : b ∈ entries) : a = b := by
  rcases entries with _ | ⟨c, _ | ⟨d, rest⟩⟩
  · cases ha
  · rw [List.mem_singleton.mp ha, List.mem_singleton.mp hb]
  · simp at h

/-- Where no conflict is seen, records that share a vendor identifier share
their identity. -/
theorem identity_of_no_conflict {vendorId : String}
    (h : conflictingVendorId records vendorId = false) {record other : RawDeviceRecord}
    (hrecord : record ∈ records) (hother : other ∈ records)
    (hvendor : present record.vendorRecordId = some vendorId)
    (hsame : present other.vendorRecordId = some vendorId) :
    (displayIdentity other).getD "weak" = (displayIdentity record).getD "weak" := by
  unfold conflictingVendorId at h
  have hle := not_lt.mp (of_decide_eq_false h)
  apply eq_of_length_le_one hle
  · rw [List.mem_dedup]
    exact List.mem_map.mpr ⟨other, List.mem_filter.mpr ⟨hother, decide_eq_true hsame⟩, rfl⟩
  · rw [List.mem_dedup]
    exact List.mem_map.mpr ⟨record, List.mem_filter.mpr ⟨hrecord, decide_eq_true hvendor⟩, rfl⟩

private theorem countP_of_forall₂ {α β : Type} {R : α → β → Prop} {p : α → Bool} {q : β → Bool}
    {entries : List α} {others : List β} (h : List.Forall₂ R entries others)
    (hsame : ∀ a ∈ entries, ∀ b, R a b → q b = p a) : others.countP q = entries.countP p := by
  induction h with
  | nil => rfl
  | cons hfirst _ ih =>
      obtain ⟨hhead, hrest⟩ := List.forall_mem_cons.mp hsame
      rw [List.countP_cons, List.countP_cons, ih hrest, hhead _ hfirst]

/-- The devices of the groups, one for each. -/
def GroupDevices (rt : Runtime) (order : SetOrder String) (records : List RawDeviceRecord)
    (devices : List NormalizedDevice) : Prop :=
  List.Forall₂ (fun key device => describeGroup rt order records (groupOf records key) = .ok device)
    (groupKeys records) devices

theorem groupDevices_of_mapEach {order : SetOrder String} {devices : List NormalizedDevice}
    (h : mapEach (fun group => describeGroup rt order records group.2) (sortedGroups records) =
      .ok devices) : GroupDevices rt order records devices := by
  rw [sortedGroups_eq, mapEach_eq_ok, List.forall₂_map_left_iff] at h
  exact h

theorem GroupDevices.exists_key {order : SetOrder String} {devices : List NormalizedDevice}
    (h : GroupDevices rt order records devices) {device : NormalizedDevice}
    (hdevice : device ∈ devices) : ∃ key ∈ groupKeys records,
      describeGroup rt order records (groupOf records key) = .ok device :=
  mem_of_mapEach (mapEach_eq_ok.mpr h) hdevice

/-- One device, at most, is of an address. -/
theorem GroupDevices.countP_hasMac {order : SetOrder String} {devices : List NormalizedDevice}
    (h : GroupDevices rt order records devices) (hread : ∀ record ∈ records, ReadRecord record)
    {mac : String} (hmac : mac ≠ "") (hkey : macKey mac ∈ groupKeys records) :
    devices.countP (·.hasMac mac) = 1 := by
  have hcount : devices.countP (·.hasMac mac) = (groupKeys records).countP (· = macKey mac) := by
    apply countP_of_forall₂ h
    intro key hmem device hdevice
    obtain ⟨addresses, -, -, rfl⟩ := describeGroup_eq_ok.mp hdevice
    rw [Bool.eq_iff_iff, deviceOf_hasMac hread hmac hmem, decide_eq_true_eq]
  rw [hcount]
  exact List.count_eq_one_of_mem (groupKeys_nodup records) hkey

end Groups

@[simp] theorem disambiguate_hasMac (rt : Runtime) (devices : List NormalizedDevice) (mac : String)
    (device : NormalizedDevice) :
    (disambiguate rt devices device).hasMac mac = device.hasMac mac := by
  unfold disambiguate
  split
  · rfl
  · rfl

@[simp] theorem deviceLabel_disambiguate (rt : Runtime) (devices : List NormalizedDevice)
    (device : NormalizedDevice) :
    deviceLabel rt (disambiguate rt devices device) = deviceLabel rt device := by
  unfold disambiguate
  split
  · rfl
  · rfl

/-- Only a device whose label is its own stays selectable. -/
theorem disambiguate_selectable {rt : Runtime} {devices : List NormalizedDevice}
    {device : NormalizedDevice} (h : (disambiguate rt devices device).selectable = true) :
    disambiguate rt devices device = device ∧
      (devices.map (deviceLabel rt)).count (deviceLabel rt device) ≤ 1 := by
  unfold disambiguate at h ⊢
  split at h
  · cases h
  · next hunique =>
    rw [if_neg hunique]
    exact ⟨rfl, not_lt.mp hunique⟩

/-- What a device is assigned on: the records of one trusted address, all of
them, none sharing a vendor identifier with another identity, and a label that
no other device of the listing has. -/
structure AssignedOn (rt : Runtime) (records : List RawDeviceRecord)
    (devices : List NormalizedDevice) (device : NormalizedDevice) (mac : String) : Prop where
  identifier : device.hasMac mac = true
  normalized : normalizeTrustedDeviceMac mac = .ok mac
  merged : ∃ addresses, device =
      deviceOf rt records (sortBy recordSortKey (records.filter (·.hasMac mac))) addresses ∧
    ∀ address, address ∈ addresses ↔
      ∃ record ∈ records, record.hasMac mac = true ∧ address ∈ record.addresses
  single : devices.countP (·.hasMac mac) = 1
  vendor : ∀ record ∈ records, record.hasMac mac = true →
    ∀ vendorId, record.vendorRecordId = some vendorId →
      ∀ other ∈ records, other.vendorRecordId = some vendorId → other.hasMac mac = true
  label : (devices.map (deviceLabel rt)).count (deviceLabel rt device) = 1

theorem normalizeRecords_assigned {rt : Runtime} {orders : SetOrders}
    {records : List RawDeviceRecord} {sourceErrors : List String} {result : DiscoveryResult}
    (h : normalizeRecords rt orders records sourceErrors = .ok result)
    (hread : ∀ record ∈ records, ReadRecord record) {device : NormalizedDevice}
    (hdevice : device ∈ result.devices) (hselectable : device.selectable = true) :
    ∃ mac, AssignedOn rt records result.devices device mac := by
  obtain ⟨-, devices, hmapped, -, rfl⟩ := normalizeRecords_eq_ok.mp h
  have hgroups := groupDevices_of_mapEach hmapped
  obtain ⟨described, hdescribed, rfl⟩ := List.mem_map.mp (mem_sortBy.mp hdevice)
  obtain ⟨hsame, hlabel⟩ := disambiguate_selectable hselectable
  rw [hsame] at hselectable ⊢
  obtain ⟨key, hkey, hgroup⟩ := hgroups.exists_key hdescribed
  obtain ⟨addresses, hsorted, -, rfl⟩ := describeGroup_eq_ok.mp hgroup
  obtain ⟨⟨mac, hmac, rfl⟩, hconflict⟩ := deviceOf_selectable hread hselectable
  have hne := normalizedMac_ne_empty hmac
  have hgroupOf := groupOf_macKey hread hne
  refine ⟨mac, ?_⟩
  constructor
  · exact (deviceOf_hasMac hread hne hkey addresses).mpr rfl
  · exact hmac
  · refine ⟨addresses, by rw [hgroupOf], ?_⟩
    intro address
    rw [sortedAddresses_mem hsorted, hgroupOf]
    simp only [List.mem_flatMap, mem_sortBy, List.mem_filter, and_assoc]
  · rw [(sortBy_perm _).countP_eq, List.countP_map]
    simp only [Function.comp_def, disambiguate_hasMac]
    exact hgroups.countP_hasMac hread hne hkey
  · intro record hrecord hhas vendorId hvendor other hother hothervendor
    have hpresent : present (some vendorId) = some vendorId :=
      present_of_ne_empty fun hempty => (hread record hrecord).vendor
          (hvendor.trans (by rw [hempty]))
    have hmember : record ∈ groupOf records (macKey mac) :=
      mem_groupOf.mpr ⟨hrecord, (recordGroupKey_eq_macKey (hread record hrecord) hne).mpr hhas⟩
    have hidentity := identity_of_no_conflict (hconflict record hmember vendorId hvendor) hrecord
      hother (by rw [hvendor, hpresent]) (by rw [hothervendor, hpresent])
    rw [(displayIdentity_eq_mac (hread record hrecord) hne).mpr hhas, Option.getD_some] at hidentity
    apply (displayIdentity_eq_mac (hread other hother) hne).mp
    cases hdisplay : displayIdentity other with
    | some identity =>
        rw [hdisplay, Option.getD_some] at hidentity
        rw [hidentity]
    | none =>
        rw [hdisplay, Option.getD_none] at hidentity
        have hhead := congrArg (fun text => text.toList.head?) hidentity
        simp [String.toList_append] at hhead
  · have hcount : ((sortBy (deviceSortKey rt) (devices.map (disambiguate rt devices))).map
        (deviceLabel rt)).Perm (devices.map (deviceLabel rt)) := by
      have hperm := (@sortBy_perm _ _ _ (deviceSortKey rt)
        (devices.map (disambiguate rt devices))).map (deviceLabel rt)
      rw [List.map_map] at hperm
      simpa only [Function.comp_def, deviceLabel_disambiguate] using hperm
    rw [hcount.count_eq]
    exact le_antisymm hlabel
      (List.count_pos_iff.mpr (List.mem_map.mpr ⟨_, hdescribed, rfl⟩))

/-- What stands behind a selected device: its number, a document that was read
completely, and the records of its address. -/
structure TrustedSelection (rt : Runtime) (orders : SetOrders)
    (loads : String → Option (Json String)) (text : String) (result : DiscoveryResult)
    (choice : Option Int) (device : NormalizedDevice) : Prop where
  listed : ∃ number, choice = some number ∧ 0 < number ∧
    result.devices[number.toNat - 1]? = some device
  evidence : ∃ values collected mac, documentSources loads text = some values ∧
    collectSources rt orders.addresses values = .ok collected ∧
    ReadCompletely rt orders.addresses values collected ∧
    AssignedOn rt collected.records result.devices device mac

/-- A device is offered for assignment on complete and unambiguous evidence only. -/
theorem selected_device_is_trusted {rt : Runtime} {orders : SetOrders}
    {loads : String → Option (Json String)} {text : String} {result : DiscoveryResult}
    (hparse : parseFixtureInventory rt orders loads text = .ok result) {choice : Option Int}
    {drawn : String} {selection : DeviceSelection}
    (hselect : selectDevice result choice drawn = .ok selection)
    (hselected : selection.selected = true) :
    ∃ device, selection.device = some device ∧
      TrustedSelection rt orders loads text result choice device := by
  obtain ⟨number, device, hchoice, hpositive, hnamed, hlisted, hselectable, -, herrors,
      hsupported⟩ :=
    selectDevice_selected hselect hselected
  obtain ⟨values, collected, normalized, hvalues, hcollected, hnormalized, hsources, hdevices,
    hresultErrors⟩ := parseFixtureInventory_cases hparse
  have hclean : collected.errors = [] := by
    obtain ⟨-, devices, -, -, rfl⟩ := normalizeRecords_eq_ok.mp hnormalized
    rw [hresultErrors, List.take_eq_nil_iff] at herrors
    exact herrors.resolve_left (by decide)
  have hmember : device ∈ normalized.devices := by
    rw [← hdevices]
    exact List.mem_of_getElem? hlisted
  obtain ⟨mac, hassigned⟩ := normalizeRecords_assigned hnormalized
    (collectSources_kept hcollected).1 hmember hselectable
  rw [hsources] at hsupported
  rw [← hdevices] at hassigned
  exact ⟨device, hnamed, ⟨number, hchoice, hpositive, hlisted⟩, values, collected, mac, hvalues,
    hcollected, collectSources_complete hcollected hclean hsupported, hassigned⟩

def tabletDocument : Json String :=
  .obj [("schema", .str fixtureSchema), ("sources", .arr [.obj [("name", .str "leases"),
    ("kind", .str "dhcp_leases"), ("records", .arr [.obj [("display_name", .str "Tablet"),
      ("stable_identifier", .str "02-AA-BB-0C-DD-EE"), ("stable_identifier_type", .str "mac")]])]])]

def tabletText : String :=
  "\x7b\"schema\": \"routerkit.devices.fixture.v1\", \"sources\": [\x7b\"name\": \"leases\", " ++
  "\"kind\": \"dhcp_leases\", \"records\": [\x7b\"display_name\": \"Tablet\", " ++
  "\"stable_identifier\": \"02-AA-BB-0C-DD-EE\", \"stable_identifier_type\": \"mac\"\x7d]\x7d]\x7d"

/-- A reader of this text. -/
def loadsTablet (text : String) : Option (Json String) :=
  if text = tabletText then some tabletDocument else none

def tablet : NormalizedDevice where
  recordId := "dev-549a496a3e749cf6f2a5"
  displayName := "Tablet"
  addresses := []
  stableIdentifier := some "02:aa:bb:0c:dd:ee"
  stableIdentifierType := some "mac"
  onlineState := "unknown"
  connectionType := "unknown"
  wifiBand := none
  interface := none
  existingPolicy := none
  sources := ["dhcp_leases"]
  stale := false
  selectable := true

def tabletResult : DiscoveryResult where
  adapterState := .supported
  sources := [{ name := "leases", kind := "dhcp_leases" }]
  devices := [tablet]

/-- An interpreter with the hash of the tablet's identity. -/
def tabletRuntime : Runtime :=
  asciiRuntime fun _ => "549a496a3e749cf6f2a53652a8942c7b50c4f42bbeb97e978f59a7b6b09857c1"

private theorem tablet_parsed : parseFixtureInventory tabletRuntime occurrenceOrders loadsTablet
    tabletText = .ok tabletResult := by
  have hloads : loadsTablet tabletText = some tabletDocument := if_pos rfl
  unfold parseFixtureInventory
  rw [hloads]
  rfl

theorem selected_device_is_trusted_sample :
    TrustedSelection tabletRuntime occurrenceOrders loadsTablet tabletText tabletResult (some 1)
      tablet := by
  have hselect : selectDevice tabletResult (some 1) "drawn" = .ok {
      selected := true
      token := some (selectionToken "drawn")
      device := some tablet
      reason := "explicit device selected"
      assigned := fun _ => rfl } := rfl
  obtain ⟨device, hdevice, htrusted⟩ := selected_device_is_trusted tablet_parsed hselect rfl
  cases hdevice
  exact htrusted

end RouterKit.Devices
