import RouterKit.Devices.Assignment

/-!
When a listing does not depend on the order in which its records are reported.
The records of a device are sorted before anything is picked from them, but
their keys may tie, and then the first reported one is picked.
-/

namespace RouterKit.Devices

open RouterKit.Lib RouterKit.Lib.Checked

/-- The record has a value of the field, and no record of its group that has
one comes before it by its key. -/
def FirstWith {β : Type} (field : RawDeviceRecord → Option β) (records : List RawDeviceRecord)
    (record : RawDeviceRecord) : Prop :=
  record ∈ records ∧ (field record).isSome ∧
    ∀ other ∈ records, recordGroupKey other = recordGroupKey record → (field other).isSome →
      recordSortKey record ≤ recordSortKey other

/-- The first records of every group agree in the field. -/
def Settled {β : Type} (field : RawDeviceRecord → Option β) (records : List RawDeviceRecord) :
    Prop :=
  ∀ first second, FirstWith field records first → FirstWith field records second →
    recordGroupKey first = recordGroupKey second → field first = field second

/-- What the listing takes from the first record. -/
def identifiers (record : RawDeviceRecord) : Option (Option String × Option String) :=
  some (record.stableIdentifier, record.stableIdentifierType)

/-- Nothing is left to the order of the records: ties agree, no two groups
share their seed, and no two addresses of a device share their key. -/
structure Unambiguous (records : List RawDeviceRecord) : Prop where
  names : Settled (present ·.displayName) records
  bands : Settled (present ·.wifiBand) records
  interfaces : Settled (present ·.interface) records
  policies : Settled (present ·.existingPolicy) records
  identifiers : Settled identifiers records
  seeds : ∀ first ∈ groupKeys records, ∀ second ∈ groupKeys records,
    hashSeed (groupOf records first) = hashSeed (groupOf records second) → first = second
  addresses : ∀ first ∈ records, ∀ second ∈ records, recordGroupKey first = recordGroupKey second →
    ∀ a ∈ first.addresses, ∀ b ∈ second.addresses, addressKey a = addressKey b → a = b

/-- Records that are not listed at all: too many, an address that cannot be
read, or too many addresses for one device. -/
def Refused (records : List RawDeviceRecord) : Prop :=
  maxTotalRecords < records.length ∨
    (∃ record ∈ records, ∃ address ∈ record.addresses, addressKey address = none) ∨
    ∃ key ∈ groupKeys records,
      maxAddressesPerDevice < ((groupOf records key).flatMap (·.addresses)).dedup.length

section Reordered

variable {records others : List RawDeviceRecord}

theorem groupKeys_perm (h : others.Perm records) : groupKeys others = groupKeys records := by
  apply sortBy_congr (h.map recordGroupKey).dedup
  rw [List.map_id]
  exact List.nodup_dedup _

theorem groupOf_perm (h : others.Perm records) (key : String) :
    (groupOf others key).Perm (groupOf records key) :=
  (sortBy_perm _).trans ((h.filter _).trans (sortBy_perm _).symm)

theorem groupOf_map_sortKey (h : others.Perm records) (key : String) :
    (groupOf others key).map recordSortKey = (groupOf records key).map recordSortKey :=
  sortBy_map_key (h.filter _)

theorem displayIdentity_of_groupKey {first second : RawDeviceRecord}
    (h : recordGroupKey first = recordGroupKey second) :
    displayIdentity first = displayIdentity second := by
  cases hidentity : displayIdentity second with
  | some identity =>
      rw [recordGroupKey_eq_stable.mpr hidentity] at h
      exact recordGroupKey_eq_stable.mp h
  | none =>
      cases hother : displayIdentity first with
      | none => rfl
      | some identity =>
          rw [recordGroupKey_eq_stable.mpr hother] at h
          rw [recordGroupKey_eq_stable.mp h.symm] at hidentity
          cases hidentity

/-- The seed is made of the group's keys. -/
theorem hashSeed_perm (h : others.Perm records) (key : String) :
    hashSeed (groupOf others key) = hashSeed (groupOf records key) := by
  have hkeys := groupOf_map_sortKey h key
  have hmember : ∀ record ∈ groupOf others key, recordGroupKey record = key :=
    fun record hrecord => (mem_groupOf.mp hrecord).2
  have hother : ∀ record ∈ groupOf records key, recordGroupKey record = key :=
    fun record hrecord => (mem_groupOf.mp hrecord).2
  generalize groupOf others key = group at hkeys hmember
  generalize groupOf records key = more at hkeys hother
  cases group with
  | nil =>
      obtain rfl := List.map_eq_nil_iff.mp hkeys.symm
      rfl
  | cons first rest =>
      cases more with
      | nil => cases hkeys
      | cons second tail =>
          have hfirst := hmember first List.mem_cons_self
          have hidentity := displayIdentity_of_groupKey
            (hfirst.trans (hother second List.mem_cons_self).symm)
          unfold hashSeed
          simp only [List.head?_cons, Option.bind_some, ← hidentity]
          cases hdisplay : displayIdentity first with
          | some identity => rfl
          | none =>
              -- Without an identity the key spells the very fields the seed is joined from.
              have hseed : ∀ group : List RawDeviceRecord,
                  (∀ record ∈ group, recordGroupKey record = key) →
                  (group.map fun record => record.source ++ ":" ++ record.sourceRecordId ++ ":" ++
                    joinAddresses record.addresses) =
                  (group.map recordSortKey).map fun sortKey =>
                    (ofLex sortKey).1 ++ ":" ++ (ofLex (ofLex sortKey).2).1 ++ ":" ++
                      (ofLex (ofLex sortKey).2).2 := by
                intro group hgroup
                rw [List.map_map]
                apply List.map_congr_left
                intro record hrecord
                have hnone := (displayIdentity_of_groupKey
                  ((hgroup record hrecord).trans hfirst.symm)).trans hdisplay
                simp [recordSortKey, hnone]
              rw [hseed _ hmember, hseed _ hother, hkeys]

theorem firstWith_perm {β : Type} {field : RawDeviceRecord → Option β} (h : others.Perm records)
    {record : RawDeviceRecord} : FirstWith field others record ↔
        FirstWith field records record := by
  simp only [FirstWith, h.mem_iff]

/-- What a group's records are searched for is found at one of the first. -/
theorem firstWith_of_findSome? {β : Type} {field : RawDeviceRecord → Option β}
    {key : String} {v : β}
    (h : (groupOf records key).findSome? field = some v) :
    ∃ record, FirstWith field records record ∧ recordGroupKey record = key ∧
      field record = some v := by
  obtain ⟨record, hmem, hvalue, hleast⟩ := findSome?_sortBy h
  obtain ⟨hrecord, hkey⟩ := List.mem_filter.mp hmem
  have hkey := of_decide_eq_true hkey
  refine ⟨record, ⟨hrecord, by rw [hvalue]; rfl, ?_⟩, hkey, hvalue⟩
  intro other hother hsame hsome
  exact hleast other (List.mem_filter.mpr ⟨hother, decide_eq_true (hsame.trans hkey)⟩) hsome

/-- Where the first records agree, any order finds the same. -/
theorem Settled.findSome? {β : Type} {field : RawDeviceRecord → Option β}
    (hsettled : Settled field records) (h : others.Perm records) (key : String) :
    (groupOf others key).findSome? field = (groupOf records key).findSome? field := by
  have hperm := groupOf_perm h key
  cases hother : (groupOf others key).findSome? field with
  | none =>
      rw [List.findSome?_eq_none_iff] at hother
      exact (List.findSome?_eq_none_iff.mpr fun record hrecord =>
        hother record (hperm.mem_iff.mpr hrecord)).symm
  | some v =>
      obtain ⟨first, hfirst, hkey, hvalue⟩ := firstWith_of_findSome? hother
      cases hrecord : (groupOf records key).findSome? field with
      | none =>
          have hmem := mem_groupOf.mpr ⟨((firstWith_perm h).mp hfirst).1, hkey⟩
          rw [List.findSome?_eq_none_iff.mp hrecord first hmem] at hvalue
          cases hvalue
      | some w =>
          obtain ⟨second, hsecond, hsame, hfound⟩ := firstWith_of_findSome? hrecord
          have heq := hsettled first second ((firstWith_perm h).mp hfirst) hsecond
            (hkey.trans hsame.symm)
          rw [← hvalue, ← hfound, heq]

theorem conflictingVendorId_perm (h : others.Perm records) (vendorId : String) :
    conflictingVendorId others vendorId = conflictingVendorId records vendorId := by
  unfold conflictingVendorId
  rw [((h.filter _).map _).dedup.length_eq]

private theorem any_perm {group more : List RawDeviceRecord} (h : group.Perm more)
    (p : RawDeviceRecord → Bool) : group.any p = more.any p := by
  rw [Bool.eq_iff_iff, List.any_eq_true, List.any_eq_true]
  simp only [h.mem_iff]

theorem pickOnlineState_perm {group more : List RawDeviceRecord} (h : group.Perm more) :
    pickOnlineState group = pickOnlineState more := by
  unfold pickOnlineState
  rw [any_perm h, any_perm h]

theorem pickConnectionType_perm {group more : List RawDeviceRecord} (h : group.Perm more) :
    pickConnectionType group = pickConnectionType more := by
  have hconcrete := (h.map (·.connectionType)).filter (· ≠ "unknown")
  unfold pickConnectionType
  generalize (group.map (·.connectionType)).filter (· ≠ "unknown") = entries at hconcrete ⊢
  generalize (more.map (·.connectionType)).filter (· ≠ "unknown") = moreEntries at hconcrete ⊢
  cases entries with
  | nil =>
      obtain rfl := hconcrete.nil_eq
      rfl
  | cons first rest =>
      cases moreEntries with
      | nil => exact absurd hconcrete.eq_nil (List.cons_ne_nil _ _)
      | cons second tail =>
          have hlength := hconcrete.dedup.length_eq
          by_cases hone : (first :: rest).dedup.length = 1
          · have hsame : first = second := by
              apply eq_of_length_le_one hone.le
              · exact List.mem_dedup.mpr List.mem_cons_self
              · exact List.mem_dedup.mpr (hconcrete.mem_iff.mpr List.mem_cons_self)
            dsimp only
            rw [if_pos hone, if_pos (hlength.symm.trans hone), hsame]
          · dsimp only
            rw [if_neg hone, if_neg fun heq => hone (hlength.trans heq)]

theorem trustedIdentity_isSome {group : List RawDeviceRecord} :
    (trustedIdentity group).isSome = decide
        ((group.filterMap assignmentIdentity).dedup.length = 1) := by
  unfold trustedIdentity
  rcases (group.filterMap assignmentIdentity).dedup with _ | ⟨identity, _ | ⟨other, rest⟩⟩
  · rfl
  · rfl
  · simp

theorem trustedIdentity_perm {group more : List RawDeviceRecord} (h : group.Perm more) :
    (trustedIdentity group).isSome = (trustedIdentity more).isSome := by
  rw [trustedIdentity_isSome, trustedIdentity_isSome, (h.filterMap _).dedup.length_eq]

theorem headIdentity_perm (h : others.Perm records) (key : String) :
    (groupOf others key).head?.bind displayIdentity =
      (groupOf records key).head?.bind displayIdentity := by
  have hperm := groupOf_perm h key
  cases hgroup : groupOf others key with
  | nil =>
      rw [hgroup] at hperm
      rw [← hperm.nil_eq]
  | cons first rest =>
      rw [hgroup] at hperm
      cases hmore : groupOf records key with
      | nil =>
          rw [hmore] at hperm
          exact absurd hperm.eq_nil (List.cons_ne_nil _ _)
      | cons second tail =>
          have hfirst : first ∈ groupOf others key := hgroup ▸ List.mem_cons_self
          have hsecond : second ∈ groupOf records key := hmore ▸ List.mem_cons_self
          exact displayIdentity_of_groupKey
            ((mem_groupOf.mp hfirst).2.trans (mem_groupOf.mp hsecond).2.symm)

private theorem head?_bind_identifiers (group : List RawDeviceRecord) :
    group.head?.bind (·.stableIdentifier) = (group.findSome? identifiers).bind Prod.fst ∧
      group.head?.bind (·.stableIdentifierType) = (group.findSome? identifiers).bind Prod.snd := by
  cases group with
  | nil => exact ⟨rfl, rfl⟩
  | cons record rest => exact ⟨rfl, rfl⟩

private theorem pickOptional_map (field : RawDeviceRecord → Option String)
    (group : List RawDeviceRecord) :
    pickOptional (group.map field) = group.findSome? fun record => present (field record) := by
  unfold pickOptional
  rw [List.findSome?_map]
  rfl

variable (rt : Runtime)

theorem deviceOf_perm (hclear : Unambiguous records) (h : others.Perm records) (key : String)
    (addresses : List String) :
    deviceOf rt others (groupOf others key) addresses =
      deviceOf rt records (groupOf records key) addresses := by
  have hperm := groupOf_perm h key
  have hsources : sortBy id ((groupOf others key).map (·.sourceKind)).dedup =
      sortBy id ((groupOf records key).map (·.sourceKind)).dedup := by
    apply sortBy_congr (hperm.map _).dedup
    rw [List.map_id]
    exact List.nodup_dedup _
  have hstale : (groupOf others key).all (·.stale) = (groupOf records key).all (·.stale) := by
    rw [Bool.eq_iff_iff, List.all_eq_true, List.all_eq_true]
    simp only [hperm.mem_iff]
  have hconflict : ((groupOf others key).any fun record =>
      record.vendorRecordId.any (conflictingVendorId others)) =
      (groupOf records key).any fun record =>
        record.vendorRecordId.any (conflictingVendorId records) := by
    rw [any_perm hperm, funext (conflictingVendorId_perm h)]
  unfold deviceOf pickName
  simp only [hashSeed_perm h, hclear.names.findSome? h, (head?_bind_identifiers _).1,
    (head?_bind_identifiers _).2, hclear.identifiers.findSome? h, pickOnlineState_perm hperm,
    pickConnectionType_perm hperm, pickOptional_map, hclear.bands.findSome? h,
    hclear.interfaces.findSome? h, hclear.policies.findSome? h, hsources, hstale, hconflict,
    trustedIdentity_perm hperm, headIdentity_perm h]

/-- Addresses of distinct keys are listed in one order. -/
theorem sortedAddresses_congr {order other : SetOrder String} {addresses more : List String}
    (hmem : ∀ address, address ∈ addresses ↔ address ∈ more)
    (hkeys : ∀ a ∈ more, ∀ b ∈ more, addressKey a = addressKey b → a = b) :
    sortedAddresses order addresses = sortedAddresses other more := by
  unfold sortedAddresses
  by_cases hall : more.all fun address => (addressKey address).isSome
  · have hsome := List.all_eq_true.mp hall
    have hother : addresses.all fun address => (addressKey address).isSome :=
      List.all_eq_true.mpr fun a ha => hsome a ((hmem a).mp ha)
    rw [if_pos hall, if_pos hother]
    congr 1
    have hnodup : (order.walk addresses).Nodup :=
      (order.perm _).nodup_iff.mpr (List.nodup_dedup _)
    apply sortBy_congr
    · apply (List.perm_ext_iff_of_nodup hnodup
        ((other.perm _).nodup_iff.mpr (List.nodup_dedup _))).mpr
      simpa using hmem
    · apply hnodup.map_on
      intro a ha b hb heq
      have hamem := (hmem a).mp ((mem_walk order).mp ha)
      have hbmem := (hmem b).mp ((mem_walk order).mp hb)
      obtain ⟨u, hu⟩ := Option.isSome_iff_exists.mp (hsome a hamem)
      obtain ⟨v, hv⟩ := Option.isSome_iff_exists.mp (hsome b hbmem)
      rw [hu, hv, Option.getD_some, Option.getD_some] at heq
      exact hkeys a hamem b hbmem (by rw [hu, hv, heq])
  · have hother : ¬ addresses.all fun address => (addressKey address).isSome := fun hyes =>
      hall (List.all_eq_true.mpr fun a ha => List.all_eq_true.mp hyes a ((hmem a).mpr ha))
    rw [if_neg hall, if_neg hother]

theorem describeGroup_perm (hclear : Unambiguous records) (h : others.Perm records)
    (order other : SetOrder String) (key : String) :
    describeGroup rt other others (groupOf others key) =
      describeGroup rt order records (groupOf records key) := by
  have haddresses : sortedAddresses other ((groupOf others key).flatMap (·.addresses)) =
      sortedAddresses order ((groupOf records key).flatMap (·.addresses)) := by
    apply sortedAddresses_congr
    · intro address
      simp only [List.mem_flatMap, (groupOf_perm h key).mem_iff]
    · intro a ha b hb heq
      obtain ⟨first, hfirst, hafirst⟩ := List.mem_flatMap.mp ha
      obtain ⟨second, hsecond, hbsecond⟩ := List.mem_flatMap.mp hb
      obtain ⟨hlisted, hkey⟩ := mem_groupOf.mp hfirst
      obtain ⟨hother, hsame⟩ := mem_groupOf.mp hsecond
      exact hclear.addresses first hlisted second hother (hkey.trans hsame.symm) a hafirst b
        hbsecond heq
  unfold describeGroup
  simp only [haddresses, deviceOf_perm rt hclear h]

end Reordered

/-- The devices of a call, without its sources and errors. -/
def listing (rt : Runtime) (order : SetOrder String) (records : List RawDeviceRecord) :
    Except Raised (List NormalizedDevice) := do
  raiseIf (maxTotalRecords < records.length)
    (.discovery "Device inventory contains too many records.")
  let devices ← mapEach (fun key => describeGroup rt order records (groupOf records key))
    (groupKeys records)
  raiseIf (maxNormalizedDevices < devices.length)
    (.discovery "Device inventory contains too many normalized devices.")
  return sortBy (deviceSortKey rt) (devices.map (disambiguate rt devices))

private theorem mapEach_map_keys {ε α β γ : Type} (f : β → Except ε γ) (g : α → β)
    (entries : List α) : mapEach f (entries.map g) = mapEach (fun a => f (g a)) entries := by
  apply mapEach_congr
  exact List.forall₂_map_left_iff.mpr (List.forall₂_same.mpr fun _ _ => rfl)

theorem normalizeRecords_devices (rt : Runtime) (orders : SetOrders)
    (records : List RawDeviceRecord) (sourceErrors : List String) :
    (normalizeRecords rt orders records sourceErrors).map (·.devices) =
      listing rt orders.addresses records := by
  unfold normalizeRecords listing
  rw [sortedGroups_eq, mapEach_map_keys]
  by_cases hmany : maxTotalRecords < records.length
  · simp only [raiseIf, if_pos hmany, bind_error_left]
    rfl
  · simp only [raiseIf, if_neg hmany, bind_ok_left]
    cases mapEach (fun key => describeGroup rt orders.addresses records (groupOf records key))
        (groupKeys records) with
    | error raised => rfl
    | ok devices =>
        have hlength : (sortBy (deviceSortKey rt) (devices.map (disambiguate rt devices))).length =
            devices.length := (sortBy_perm _).length_eq.trans (List.length_map _)
        simp only [bind_ok_left, hlength]
        split
        · rfl
        · rfl

/-- What a group's addresses alone decide: whether it is described. -/
def addressOutcome (addresses : List String) : Except Raised Unit :=
  if addresses.all fun address => (addressKey address).isSome then
    raiseIf (maxAddressesPerDevice < addresses.dedup.length)
      (.discovery "Device inventory contains too many addresses.")
  else .error .valueError

theorem describeGroup_outcome (rt : Runtime) (order : SetOrder String)
    (records group : List RawDeviceRecord) :
    (describeGroup rt order records group).map (fun _ => ()) =
      addressOutcome (group.flatMap (·.addresses)) := by
  have hlength : ∀ addresses : List String,
      (sortBy (fun address => (addressKey address).getD (toLex (0, 0)))
        (order.walk addresses)).length = addresses.dedup.length := fun addresses =>
    (sortBy_perm _).length_eq.trans (order.perm addresses).length_eq
  unfold describeGroup sortedAddresses addressOutcome raiseIf
  split
  · simp only [bind_ok_left, hlength]
    split
    · rfl
    · rfl
  · rfl

theorem addressOutcome_perm {addresses more : List String} (h : addresses.Perm more) :
    addressOutcome addresses = addressOutcome more := by
  have hall : (addresses.all fun address => (addressKey address).isSome) =
      more.all fun address => (addressKey address).isSome := by
    rw [Bool.eq_iff_iff, List.all_eq_true, List.all_eq_true]
    simp only [h.mem_iff]
  unfold addressOutcome
  rw [hall, h.dedup.length_eq]

/-- Whether the records are listed, and what is raised otherwise. -/
def listingOutcome (records : List RawDeviceRecord) : Except Raised Unit := do
  raiseIf (maxTotalRecords < records.length)
    (.discovery "Device inventory contains too many records.")
  checkEach (fun key => addressOutcome ((groupOf records key).flatMap (·.addresses)))
    (groupKeys records)

theorem groupKeys_length (records : List RawDeviceRecord) :
    (groupKeys records).length ≤ records.length := by
  unfold groupKeys
  rw [(sortBy_perm _).length_eq]
  exact (List.dedup_sublist _).length_le.trans_eq (List.length_map _)

theorem listing_outcome (rt : Runtime) (order : SetOrder String) (records : List RawDeviceRecord) :
    (listing rt order records).map (fun _ => ()) = listingOutcome records := by
  have houtcome := mapEach_outcome
    (fun key => describeGroup rt order records (groupOf records key)) (groupKeys records)
  simp only [describeGroup_outcome] at houtcome
  unfold listing listingOutcome
  rw [← houtcome]
  by_cases hmany : maxTotalRecords < records.length
  · simp only [raiseIf, if_pos hmany, bind_error_left]
    rfl
  · simp only [raiseIf, if_neg hmany, bind_ok_left]
    cases hdevices : mapEach (fun key => describeGroup rt order records (groupOf records key))
        (groupKeys records) with
    | error raised => rfl
    | ok devices =>
        have hlength := (mapEach_eq_ok.mp hdevices).length_eq
        have hroom : ¬ maxNormalizedDevices < devices.length := by
          rw [← hlength]
          exact not_lt.mpr ((groupKeys_length records).trans (not_lt.mp hmany))
        simp only [bind_ok_left, if_neg hroom]
        rfl

theorem listingOutcome_perm {records others : List RawDeviceRecord} (h : others.Perm records) :
    listingOutcome others = listingOutcome records := by
  unfold listingOutcome
  rw [h.length_eq, groupKeys_perm h]
  have hgroups : (fun key => addressOutcome ((groupOf others key).flatMap (·.addresses))) =
      fun key => addressOutcome ((groupOf records key).flatMap (·.addresses)) := by
    funext key
    exact addressOutcome_perm ((groupOf_perm h key).flatMap_right _)
  rw [hgroups]

theorem addressOutcome_eq_ok {addresses : List String} :
    addressOutcome addresses = .ok () ↔
      (∀ address ∈ addresses, addressKey address ≠ none) ∧
        addresses.dedup.length ≤ maxAddressesPerDevice := by
  unfold addressOutcome
  split
  · next hall =>
    have hsome : ∀ address ∈ addresses, addressKey address ≠ none := fun address haddress =>
      Option.ne_none_iff_isSome.mpr (List.all_eq_true.mp hall address haddress)
    rw [raiseIf_eq_ok, not_lt]
    exact (and_iff_right hsome).symm
  · next hsome =>
    constructor
    · intro h
      cases h
    · rintro ⟨hall, -⟩
      exact absurd (List.all_eq_true.mpr fun address haddress =>
        Option.ne_none_iff_isSome.mp (hall address haddress)) hsome

theorem listingOutcome_eq_ok {records : List RawDeviceRecord} :
    listingOutcome records = .ok () ↔ ¬ Refused records := by
  simp only [listingOutcome, bind_eq_ok, raiseIf_eq_ok, exists_unit, checkEach_eq_ok,
    addressOutcome_eq_ok]
  constructor
  · rintro ⟨hfew, hgroups⟩ (hmany | ⟨record, hrecord, address, haddress, hnone⟩ |
      ⟨key, hkey, hover⟩)
    · exact hfew hmany
    · refine (hgroups (recordGroupKey record) (mem_groupKeys.mpr ⟨record, hrecord, rfl⟩)).1 address
        ?_ hnone
      exact List.mem_flatMap.mpr ⟨record, mem_groupOf.mpr ⟨hrecord, rfl⟩, haddress⟩
    · exact absurd (hgroups key hkey).2 (not_le.mpr hover)
  · intro hlisted
    refine ⟨fun hmany => hlisted (.inl hmany), fun key hkey => ⟨?_, ?_⟩⟩
    · intro address haddress hnone
      obtain ⟨record, hrecord, hmem⟩ := List.mem_flatMap.mp haddress
      exact hlisted (.inr (.inl ⟨record, (mem_groupOf.mp hrecord).1, address, hmem, hnone⟩))
    · exact not_lt.mp fun hover => hlisted (.inr (.inr ⟨key, hkey, hover⟩))

theorem listing_eq_ok {rt : Runtime} {order : SetOrder String} {records : List RawDeviceRecord}
    {listed : List NormalizedDevice} (h : listing rt order records = .ok listed) :
    ∃ devices, GroupDevices rt order records devices ∧
      listed = sortBy (deviceSortKey rt) (devices.map (disambiguate rt devices)) := by
  simp only [listing, bind_eq_ok, exists_unit, pure_eq_ok] at h
  obtain ⟨-, devices, hdevices, -, rfl⟩ := h
  exact ⟨devices, mapEach_eq_ok.mp hdevices, rfl⟩

/-- Unambiguous records are listed alike in every order. -/
theorem listing_perm (rt : Runtime) {records others : List RawDeviceRecord}
    (hclear : Unambiguous records) (h : others.Perm records) (order other : SetOrder String) :
    listing rt other others = listing rt order records := by
  unfold listing
  rw [h.length_eq, groupKeys_perm h, funext (describeGroup_perm rt hclear h order other)]

def groupRecordId (rt : Runtime) (records : List RawDeviceRecord) (key : String) : String :=
  "dev-" ++ rt.stableHash (hashSeed (groupOf records key)) 20

@[simp] theorem disambiguate_recordId (rt : Runtime) (devices : List NormalizedDevice)
    (device : NormalizedDevice) : (disambiguate rt devices device).recordId = device.recordId := by
  unfold disambiguate
  split
  · rfl
  · rfl

/-- A listing shows the identifiers of its groups. -/
theorem listing_recordIds {rt : Runtime} {order : SetOrder String} {records : List RawDeviceRecord}
    {listed : List NormalizedDevice} (h : listing rt order records = .ok listed) :
    (listed.map (·.recordId)).Perm ((groupKeys records).map (groupRecordId rt records)) := by
  obtain ⟨devices, hdevices, rfl⟩ := listing_eq_ok h
  have hids : devices.map (·.recordId) = (groupKeys records).map (groupRecordId rt records) := by
    clear h
    unfold GroupDevices at hdevices
    generalize groupKeys records = keys at hdevices ⊢
    induction hdevices with
    | nil => rfl
    | cons hfirst _ ih =>
        obtain ⟨addresses, -, -, rfl⟩ := describeGroup_eq_ok.mp hfirst
        rw [List.map_cons, List.map_cons, ih]
        rfl
  have hperm := (@sortBy_perm _ _ _ (deviceSortKey rt)
    (devices.map (disambiguate rt devices))).map (·.recordId)
  rw [List.map_map] at hperm
  simp only [Function.comp_def, disambiguate_recordId] at hperm
  rwa [hids] at hperm

/-- The truncated hash tells the seeds of these records apart. -/
def HashInjectiveOn (rt : Runtime) (records : List RawDeviceRecord) : Prop :=
  ∀ first ∈ groupKeys records, ∀ second ∈ groupKeys records,
    rt.stableHash (hashSeed (groupOf records first)) 20 =
      rt.stableHash (hashSeed (groupOf records second)) 20 →
    hashSeed (groupOf records first) = hashSeed (groupOf records second)

/-- The identifiers are distinct exactly when the seeds are. -/
theorem recordIds_nodup_iff {rt : Runtime} {order : SetOrder String}
    {records : List RawDeviceRecord} (hhash : HashInjectiveOn rt records)
    {listed : List NormalizedDevice} (h : listing rt order records = .ok listed) :
    (listed.map (·.recordId)).Nodup ↔ ∀ first ∈ groupKeys records, ∀ second ∈ groupKeys records,
      hashSeed (groupOf records first) = hashSeed (groupOf records second) → first = second := by
  rw [(listing_recordIds h).nodup_iff]
  constructor
  · intro hnodup first hfirst second hsecond hseed
    apply List.inj_on_of_nodup_map hnodup hfirst hsecond
    unfold groupRecordId
    rw [hseed]
  · intro hseeds
    apply (groupKeys_nodup records).map_on
    intro first hfirst second hsecond hid
    have hsame := (String.append_right_inj _).mp hid
    exact hseeds first hfirst second hsecond (hhash first hfirst second hsecond hsame)

/-- A device before it is compared with the others. -/
def NormalizedDevice.base (device : NormalizedDevice) : NormalizedDevice :=
  { device with selectable := false, selectionBlockReason := none }

@[simp] theorem disambiguate_base (rt : Runtime) (devices : List NormalizedDevice)
    (device : NormalizedDevice) : (disambiguate rt devices device).base = device.base := by
  unfold disambiguate
  split
  · rfl
  · rfl

theorem exists_listed {rt : Runtime} {order : SetOrder String} {records : List RawDeviceRecord}
    {listed : List NormalizedDevice} (h : listing rt order records = .ok listed) {key : String}
    (hkey : key ∈ groupKeys records) : ∃ device ∈ listed, ∃ addresses,
      sortedAddresses order ((groupOf records key).flatMap (·.addresses)) = .ok addresses ∧
      device.base = (deviceOf rt records (groupOf records key) addresses).base := by
  obtain ⟨devices, hdevices, rfl⟩ := listing_eq_ok h
  obtain ⟨described, hmem, hgroup⟩ := exists_of_mapEach (mapEach_eq_ok.mpr hdevices) hkey
  obtain ⟨addresses, hsorted, -, rfl⟩ := describeGroup_eq_ok.mp hgroup
  refine ⟨disambiguate rt devices _, ?_, addresses, hsorted, disambiguate_base _ _ _⟩
  exact mem_sortBy.mpr (List.mem_map.mpr ⟨_, hmem, rfl⟩)

/-- Two runs that list the same devices show the same of every group. -/
theorem base_eq_of_listings {rt : Runtime} {order other : SetOrder String}
    {records first second : List RawDeviceRecord} {listed : List NormalizedDevice}
    (hfirst : listing rt order first = .ok listed) (hsecond : listing rt other second = .ok listed)
    (hfirstPerm : first.Perm records) (hsecondPerm : second.Perm records)
    (hnodup : (listed.map (·.recordId)).Nodup) {key : String} (hkey : key ∈ groupKeys records) :
    ∃ addresses more,
      sortedAddresses order ((groupOf first key).flatMap (·.addresses)) = .ok addresses ∧
      sortedAddresses other ((groupOf second key).flatMap (·.addresses)) = .ok more ∧
      (deviceOf rt first (groupOf first key) addresses).base =
        (deviceOf rt second (groupOf second key) more).base := by
  obtain ⟨device, hdevice, addresses, haddresses, hbase⟩ :=
    exists_listed hfirst (groupKeys_perm hfirstPerm ▸ hkey)
  obtain ⟨another, hanother, more, hmore, hmoreBase⟩ :=
    exists_listed hsecond (groupKeys_perm hsecondPerm ▸ hkey)
  have hid : device.recordId = another.recordId := by
    have hleft := congrArg NormalizedDevice.recordId hbase
    have hright := congrArg NormalizedDevice.recordId hmoreBase
    have hseed : hashSeed (groupOf first key) = hashSeed (groupOf second key) :=
      (hashSeed_perm hfirstPerm key).trans (hashSeed_perm hsecondPerm key).symm
    refine hleft.trans (Eq.trans ?_ hright.symm)
    exact congrArg (fun seed => "dev-" ++ rt.stableHash seed 20) hseed
  have hsame : device = another := List.inj_on_of_nodup_map hnodup hdevice hanother hid
  exact ⟨addresses, more, haddresses, hmore, by rw [← hbase, ← hmoreBase, hsame]⟩

theorem cons_erase_perm {records : List RawDeviceRecord} {record : RawDeviceRecord}
    (h : record ∈ records) : (record :: records.erase record).Perm records :=
  (List.perm_cons_erase h).symm

/-- A record of the first ones is found when it is reported first. -/
theorem FirstWith.findSome? {β : Type} {field : RawDeviceRecord → Option β}
    {records : List RawDeviceRecord} {record : RawDeviceRecord}
    (h : FirstWith field records record) :
    (groupOf (record :: records.erase record) (recordGroupKey record)).findSome? field =
      field record := by
  obtain ⟨-, hsome, hleast⟩ := h
  unfold groupOf
  rw [List.filter_cons, if_pos (decide_eq_true rfl)]
  apply findSome?_sortBy_cons hsome
  intro other hother hvalue
  obtain ⟨hmem, hsame⟩ := List.mem_filter.mp hother
  exact hleast other (List.mem_of_mem_erase hmem) (of_decide_eq_true hsame) hvalue

/-- A set that is walked from one of its entries. -/
def frontOrder (front : String) : SetOrder String where
  walk entries :=
    if front ∈ entries.dedup then front :: entries.dedup.erase front else entries.dedup
  perm entries := by
    split
    · next hfront => exact (List.perm_cons_erase hfront).symm
    · exact .refl _

/-- Among addresses of one key the walk decides which is listed first. -/
theorem sortedAddresses_frontOrder {addresses sorted : List String} {front : String}
    (h : sortedAddresses (frontOrder front) addresses = .ok sorted) (hfront : front ∈ addresses) :
    (sorted.filter fun address => (addressKey address).getD (toLex (0, 0)) =
      (addressKey front).getD (toLex (0, 0))).head? = some front := by
  rw [(sortedAddresses_eq_ok.mp h).2, sortBy_filter_key]
  unfold frontOrder
  dsimp only
  rw [if_pos (List.mem_dedup.mpr hfront), List.filter_cons, if_pos (decide_eq_true rfl),
    List.head?_cons]

section Determined

variable {rt : Runtime} {records : List RawDeviceRecord} {listed : List NormalizedDevice}

/-- What equal listings show of a field, the first records agree in. -/
private theorem settled_of_shown {β : Type} {field : RawDeviceRecord → Option β}
    (shown : NormalizedDevice → Option β)
    (hall : ∀ order others, others.Perm records → listing rt order others = .ok listed)
    (hnodup : (listed.map (·.recordId)).Nodup)
    (hshown : ∀ others key addresses, ((groupOf others key).findSome? field).isSome →
      shown (deviceOf rt others (groupOf others key) addresses).base =
        (groupOf others key).findSome? field) :
    Settled field records := by
  intro first second hfirst hsecond hkey
  have hfirstPerm := cons_erase_perm hfirst.1
  have hsecondPerm := cons_erase_perm hsecond.1
  obtain ⟨addresses, more, -, -, hbase⟩ := base_eq_of_listings
    (hall occurrenceOrders.addresses _ hfirstPerm) (hall occurrenceOrders.addresses _ hsecondPerm)
    hfirstPerm hsecondPerm hnodup (mem_groupKeys.mpr ⟨first, hfirst.1, rfl⟩)
  have hfound := hfirst.findSome?
  have hother := hsecond.findSome?
  rw [← hkey] at hother
  have hleft := hshown _ (recordGroupKey first) addresses (by rw [hfound]; exact hfirst.2.1)
  have hright := hshown _ (recordGroupKey first) more (by rw [hother]; exact hsecond.2.1)
  rw [← hfound, ← hother, ← hleft, ← hright, hbase]

theorem unambiguous_of_listings (hhash : HashInjectiveOn rt records)
    (hall : ∀ order others, others.Perm records → listing rt order others = .ok listed)
    (hnodup : (listed.map (·.recordId)).Nodup) : Unambiguous records where
  names := by
    apply settled_of_shown (fun device => some device.displayName) hall hnodup
    intro others key addresses hsome
    obtain ⟨name, hname⟩ := Option.isSome_iff_exists.mp hsome
    rw [hname]
    simp [NormalizedDevice.base, deviceOf, pickName, hname]
  bands := by
    apply settled_of_shown (·.wifiBand) hall hnodup
    intro others key addresses _
    exact pickOptional_map (·.wifiBand) _
  interfaces := by
    apply settled_of_shown (·.interface) hall hnodup
    intro others key addresses _
    exact pickOptional_map (·.interface) _
  policies := by
    apply settled_of_shown (·.existingPolicy) hall hnodup
    intro others key addresses _
    exact pickOptional_map (·.existingPolicy) _
  identifiers := by
    apply settled_of_shown (fun device =>
      some (device.stableIdentifier, device.stableIdentifierType)) hall hnodup
    intro others key addresses hsome
    obtain ⟨found, hfound⟩ := Option.isSome_iff_exists.mp hsome
    obtain ⟨hstable, htype⟩ := head?_bind_identifiers (groupOf others key)
    rw [hfound] at hstable htype ⊢
    simp [NormalizedDevice.base, deviceOf, hstable, htype]
  seeds := (recordIds_nodup_iff hhash (hall occurrenceOrders.addresses records (.refl _))).mp hnodup
  addresses := by
    intro first hfirst second hsecond hkey a ha b hb heq
    have hkeys : recordGroupKey first ∈ groupKeys records := mem_groupKeys.mpr ⟨first, hfirst, rfl⟩
    obtain ⟨addresses, more, haddresses, hmore, hbase⟩ := base_eq_of_listings
      (hall (frontOrder a) records (.refl _)) (hall (frontOrder b) records (.refl _)) (.refl _)
      (.refl _) hnodup hkeys
    have hsame : addresses = more := congrArg NormalizedDevice.addresses hbase
    have hfront := sortedAddresses_frontOrder haddresses
      (List.mem_flatMap.mpr ⟨first, mem_groupOf.mpr ⟨hfirst, rfl⟩, ha⟩)
    have hother := sortedAddresses_frontOrder hmore
      (List.mem_flatMap.mpr ⟨second, mem_groupOf.mpr ⟨hsecond, hkey.symm⟩, hb⟩)
    rw [hsame, heq, hother] at hfront
    exact (Option.some.inj hfront).symm

end Determined

/-- A call lists the same devices in every order of its records, under distinct
identifiers, exactly when it lists nothing or nothing is left to the order. -/
theorem listing_order_free_iff {rt : Runtime} {records : List RawDeviceRecord}
    (hhash : HashInjectiveOn rt records) (sourceErrors : List String) :
    ((∀ orders otherOrders others, others.Perm records →
        (normalizeRecords rt otherOrders others sourceErrors).map (·.devices) =
          (normalizeRecords rt orders records sourceErrors).map (·.devices)) ∧
      ∀ orders result, normalizeRecords rt orders records sourceErrors = .ok result →
        (result.devices.map (·.recordId)).Nodup) ↔
    Refused records ∨ Unambiguous records := by
  constructor
  · rintro ⟨hsame, hdistinct⟩
    by_cases hrefused : Refused records
    · exact .inl hrefused
    · have houtcome := listing_outcome rt occurrenceOrders.addresses records
      rw [listingOutcome_eq_ok.mpr hrefused] at houtcome
      cases hlisted : listing rt occurrenceOrders.addresses records with
      | error raised =>
          rw [hlisted] at houtcome
          cases houtcome
      | ok listed =>
          right
          apply unambiguous_of_listings hhash
          · intro order others h
            have hreordered := hsame occurrenceOrders ⟨order, occurrenceOrders.sources⟩ others h
            rw [normalizeRecords_devices, normalizeRecords_devices, hlisted] at hreordered
            exact hreordered
          · have hdevices := normalizeRecords_devices rt occurrenceOrders records sourceErrors
            rw [hlisted] at hdevices
            cases hresult : normalizeRecords rt occurrenceOrders records sourceErrors with
            | error raised =>
                rw [hresult] at hdevices
                cases hdevices
            | ok result =>
                rw [hresult] at hdevices
                cases hdevices
                exact hdistinct _ result hresult
  · intro h
    constructor
    · intro orders otherOrders others hperm
      rw [normalizeRecords_devices, normalizeRecords_devices]
      rcases h with hrefused | hclear
      · have hleft := listing_outcome rt otherOrders.addresses others
        have hright := listing_outcome rt orders.addresses records
        rw [listingOutcome_perm hperm, ← hright] at hleft
        have hnone := mt listingOutcome_eq_ok.mp (not_not.mpr hrefused)
        cases hlisted : listing rt orders.addresses records with
        | ok listed =>
            rw [hlisted] at hright
            exact absurd hright.symm hnone
        | error raised =>
            cases hother : listing rt otherOrders.addresses others with
            | ok listed =>
                rw [hlisted, hother] at hleft
                cases hleft
            | error another =>
                rw [hlisted, hother] at hleft
                cases hleft
                rfl
      · exact listing_perm rt hclear hperm _ _
    · intro orders result hresult
      have hlisted := normalizeRecords_devices rt orders records sourceErrors
      rw [hresult] at hlisted
      rcases h with hrefused | hclear
      · have houtcome := listing_outcome rt orders.addresses records
        rw [← hlisted] at houtcome
        exact absurd houtcome.symm (mt listingOutcome_eq_ok.mp (not_not.mpr hrefused))
      · exact (recordIds_nodup_iff hhash hlisted.symm).mpr hclear.seeds

/-- The report of a lease, by its number, the name and the end of the address. -/
def leaseRecord (number name suffix : String) : RawDeviceRecord where
  source := "leases"
  sourceKind := "dhcp_leases"
  sourceRecordId := number
  displayName := some name
  stableIdentifier := some ("02:aa:bb:0c:dd:" ++ suffix)
  stableIdentifierType := some "mac"

/-- An interpreter with the hashes of two identities. -/
def leaseRuntime : Runtime :=
  asciiRuntime fun seed =>
    if seed = "mac:02:aa:bb:0c:dd:ee" then
      "549a496a3e749cf6f2a53652a8942c7b50c4f42bbeb97e978f59a7b6b09857c1"
    else
      "c02c26ca62b260413544fd62a7886fb8d93d2c0d59219db44e37aa3c8079dedb"

private theorem leaseRecords_apart :
    ∀ first ∈ [leaseRecord "1" "Phone" "ee", leaseRecord "2" "Tablet" "01"],
      ∀ second ∈ [leaseRecord "1" "Phone" "ee", leaseRecord "2" "Tablet" "01"],
        recordGroupKey first = recordGroupKey second → first = second := by
  decide +kernel

private theorem settled_of_apart {β : Type} {field : RawDeviceRecord → Option β}
    {records : List RawDeviceRecord} (h : ∀ first ∈ records, ∀ second ∈ records,
      recordGroupKey first = recordGroupKey second → first = second) : Settled field records :=
  fun first second hfirst hsecond hkey => by rw [h first hfirst.1 second hsecond.1 hkey]

theorem listing_order_free_iff_sample :
    (normalizeRecords leaseRuntime occurrenceOrders
        [leaseRecord "2" "Tablet" "01", leaseRecord "1" "Phone" "ee"] []).map (·.devices) =
      (normalizeRecords leaseRuntime occurrenceOrders
        [leaseRecord "1" "Phone" "ee", leaseRecord "2" "Tablet" "01"] []).map (·.devices) := by
  have hhash : HashInjectiveOn leaseRuntime
      [leaseRecord "1" "Phone" "ee", leaseRecord "2" "Tablet" "01"] := by
    unfold HashInjectiveOn
    decide +kernel
  apply ((listing_order_free_iff hhash []).mpr (.inr ?_)).1
  · exact .swap _ _ _
  · exact {
      names := settled_of_apart leaseRecords_apart
      bands := settled_of_apart leaseRecords_apart
      interfaces := settled_of_apart leaseRecords_apart
      policies := settled_of_apart leaseRecords_apart
      identifiers := settled_of_apart leaseRecords_apart
      seeds := by decide +kernel
      addresses := by simp [leaseRecord] }

/-- Two reports of one lease under two names: the first one reported names the
device. -/
theorem first_report_names_device :
    [leaseRecord "1" "Phone" "ee", leaseRecord "1" "Tablet" "ee"].Perm
      [leaseRecord "1" "Tablet" "ee", leaseRecord "1" "Phone" "ee"] ∧
    (normalizeRecords leaseRuntime occurrenceOrders
        [leaseRecord "1" "Phone" "ee", leaseRecord "1" "Tablet" "ee"] []).map
      (·.devices.map (·.displayName)) = .ok ["Phone"] ∧
    (normalizeRecords leaseRuntime occurrenceOrders
        [leaseRecord "1" "Tablet" "ee", leaseRecord "1" "Phone" "ee"] []).map
      (·.devices.map (·.displayName)) = .ok ["Tablet"] := by
  refine ⟨.swap _ _ _, by rfl, by rfl⟩

end RouterKit.Devices
