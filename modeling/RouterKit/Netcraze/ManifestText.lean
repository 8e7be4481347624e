import RouterKit.Lib.IpAddress
import RouterKit.Netcraze.SnapshotParse

/-!
Reading the local endpoint manifest. The planner takes the profiles in any
order and sorts them by slot; what it returns is a valid manifest, so
normalizing it again changes nothing.
-/

namespace RouterKit.Netcraze

open RouterKit.Lib RouterKit.Lib.Checked

section Reading

variable {Text : Type} (loads : Text → Option (Json String)) (foldNonAscii : Char → List Char)

/-- `_parse_json_object`. -/
def parseJsonObject (text : Text) (description : String) :
    Except NetcrazePlanError (List (String × Json String)) :=
  match loads text with
  | none => .error (snapshotSchemaError (description ++ " is not valid JSON."))
  | some (.obj fields) => .ok fields
  | some _ => .error (snapshotSchemaError (description ++ " must be a JSON object."))

/-- A JSON integer among the given ones. -/
def readOneOf {ε : Type} (allowed : List Nat) (error : ε) (value : Json String) : Except ε Nat :=
  match value with
  | .int number => do
      raiseIf (¬ ∃ one ∈ allowed, number = (one : Int)) error
      pure number.toNat
  | _ => .error error

/-- One round of the loop of `parse_local_endpoint_manifest`. -/
def parseProfile (seenSlots seenPorts : List Nat) (raw : Json String) :
    Except NetcrazePlanError LocalProxyProfile :=
  match raw with
  | .obj fields => do
      raiseIf (¬ ∀ key ∈ fields.map Prod.fst,
          key ∈ ["slot", "label", "listen", "port", "enabled", "protocol"])
        (manifestSchemaError "Local endpoint manifest contains unsupported fields.")
      let slot ← readOneOf [1, 2, 3] (manifestSchemaError "Local endpoint profile slot is invalid.")
        (Json.get fields "slot")
      let port ← readOneOf expectedPorts
        (manifestSchemaError "Local endpoint profile port is outside the supported scope.")
        (Json.get fields "port")
      raiseIf (slot ∈ seenSlots ∨ port ∈ seenPorts)
        (manifestSchemaError "Local endpoint manifest contains duplicate slots or ports.")
      let label ← cleanValue (Json.get fields "label") "Profile label"
      raiseIf (some label ≠ safeManifestLabel slot)
        (manifestSchemaError "Local endpoint profile label is not code-owned.")
      let host ← cleanValue (Json.get fields "listen") "Local endpoint address"
      match IpText.ipAddress host.toList with
      | none => .error (manifestSchemaError "Local endpoint address is invalid.")
      | some address => do
          raiseIf (String.ofList address.text ∉ loopbackHosts)
            (manifestSchemaError "Local endpoint must use an exact loopback address.")
          let protocol ← cleanValue (Json.get fields "protocol") "Local endpoint protocol"
          raiseIf (foldText foldNonAscii protocol ≠ "socks5")
            (manifestSchemaError "Local endpoint protocol is unsupported.")
          match Json.get fields "enabled" with
          | .bool enabled => pure { slot, label, host := String.ofList address.text, port, enabled }
          | _ =>
              .error (manifestSchemaError "Local endpoint enabled state must be true or false.")
  | _ => .error (manifestSchemaError "Local endpoint manifest contains a malformed profile.")

def parseProfiles : List Nat → List Nat → List (Json String) →
    Except NetcrazePlanError (List LocalProxyProfile)
  | _, _, [] => pure []
  | seenSlots, seenPorts, raw :: rest => do
      let profile ← parseProfile foldNonAscii seenSlots seenPorts raw
      let profiles ← parseProfiles (profile.slot :: seenSlots) (profile.port :: seenPorts) rest
      pure (profile :: profiles)

def parseLocalEndpointManifest (text : Text) : Except NetcrazePlanError LocalEndpointManifest := do
  let fields ← parseJsonObject loads text "Local endpoint manifest"
  strictKeys fields ["schema", "profiles"] "Local endpoint manifest"
  raiseIf (Json.get fields "schema" ≠ .str manifestSchema)
    (manifestSchemaError "Unsupported local endpoint manifest schema.")
  match Json.get fields "profiles" with
  | .arr raws => do
      raiseIf (¬ (1 ≤ raws.length ∧ raws.length ≤ maxProfiles))
        (manifestSchemaError "Local endpoint manifest must contain one to three profiles.")
      let profiles ← parseProfiles foldNonAscii [] [] raws
      let sorted := profiles.mergeSort (fun a b => decide (a.slot ≤ b.slot))
      raiseIf (sorted.map (·.slot) ≠ List.range' 1 sorted.length)
        (manifestSchemaError "Local endpoint profile slots must be contiguous from one.")
      pure { profiles := sorted }
  | _ =>
      .error (manifestSchemaError "Local endpoint manifest must contain one to three profiles.")

end Reading

section Parsed

variable {Text : Type} {loads : Text → Option (Json String)} {foldNonAscii : Char → List Char}

theorem readOneOf_eq_ok {ε : Type} {allowed : List Nat} {error : ε} {value : Json String}
    {number : Nat} :
    readOneOf allowed error value = .ok number ↔ value = .int number ∧ number ∈ allowed := by
  cases value with
  | int found =>
      simp only [readOneOf, bind_eq_ok, raiseIf_eq_ok, exists_unit, pure_eq_ok, not_not,
        Json.int.injEq]
      constructor
      · rintro ⟨⟨one, hone, rfl⟩, rfl⟩
        exact ⟨rfl, hone⟩
      · rintro ⟨rfl, hmem⟩
        exact ⟨⟨number, hmem, rfl⟩, rfl⟩
  | _ => simp [readOneOf]

/-- What one round of the loop has checked. -/
theorem parseProfile_accepted {seenSlots seenPorts : List Nat} {raw : Json String}
    {profile : LocalProxyProfile}
    (h : parseProfile foldNonAscii seenSlots seenPorts raw = .ok profile) :
    profile.Acceptable ∧ profile.port ∉ seenPorts ∧
      ∃ fields, raw = .obj fields ∧ Json.get fields "slot" = .int profile.slot := by
  cases raw with
  | obj fields =>
      simp only [parseProfile, bind_eq_ok, exists_unit, raiseIf_eq_ok, not_not, not_or,
        readOneOf_eq_ok] at h
      obtain ⟨-, slot, ⟨hslot, -⟩, port, ⟨-, hport⟩, hfresh, label, -, hlabel, host, -, h⟩ := h
      cases haddress : IpText.ipAddress host.toList with
      | none => simp [haddress] at h
      | some address =>
          simp only [haddress, bind_eq_ok, exists_unit, raiseIf_eq_ok, not_not] at h
          obtain ⟨hloopback, protocol, -, -, h⟩ := h
          split at h
          · cases h
            exact ⟨⟨hlabel, hloopback, hport, rfl, rfl⟩, hfresh.2, fields, rfl, hslot⟩
          · cases h
  | _ => simp [parseProfile] at h

theorem parseProfiles_accepted {seenSlots seenPorts : List Nat} {raws : List (Json String)}
    {profiles : List LocalProxyProfile}
    (h : parseProfiles foldNonAscii seenSlots seenPorts raws = .ok profiles) :
    profiles.length = raws.length ∧ (∀ profile ∈ profiles, profile.Acceptable) ∧
      (profiles.map (·.port)).Nodup ∧ (∀ profile ∈ profiles, profile.port ∉ seenPorts) ∧
      ∀ raw ∈ raws, ∃ fields, raw = .obj fields ∧ ∃ slot, Json.get fields "slot" = .int slot := by
  induction raws generalizing seenSlots seenPorts profiles with
  | nil =>
      cases h
      simp
  | cons raw rest ih =>
      simp only [parseProfiles, bind_eq_ok, pure_eq_ok] at h
      obtain ⟨profile, hprofile, others, hothers, rfl⟩ := h
      obtain ⟨haccept, hfresh, fields, hraw, hslot⟩ := parseProfile_accepted hprofile
      obtain ⟨hlength, hall, hnodup, hseen, hslots⟩ := ih hothers
      simp only [List.length_cons, List.map_cons, List.nodup_cons, List.forall_mem_cons]
      refine ⟨by omega, ⟨haccept, hall⟩, ⟨?_, hnodup⟩, ⟨hfresh, ?_⟩,
        ⟨fields, hraw, _, hslot⟩, hslots⟩
      · intro hport
        obtain ⟨other, hother, hsame⟩ := List.mem_map.mp hport
        exact hseen other hother (hsame ▸ List.mem_cons_self)
      · intro other hother hmem
        exact hseen other hother (List.mem_cons_of_mem _ hmem)

/-- The profiles of an accepted text, before they are sorted. -/
theorem parseLocalEndpointManifest_eq_ok {text : Text} {manifest : LocalEndpointManifest} :
    parseLocalEndpointManifest loads foldNonAscii text = .ok manifest ↔
      ∃ fields raws profiles, loads text = some (.obj fields) ∧
        (∀ key ∈ fields.map Prod.fst, key ∈ ["schema", "profiles"]) ∧
        Json.get fields "schema" = .str manifestSchema ∧
        Json.get fields "profiles" = .arr raws ∧ (1 ≤ raws.length ∧ raws.length ≤ maxProfiles) ∧
        parseProfiles foldNonAscii [] [] raws = .ok profiles ∧
        manifest.schema = manifestSchema ∧
        profiles.mergeSort (fun a b => decide (a.slot ≤ b.slot)) = manifest.profiles ∧
        manifest.profiles.map (·.slot) = List.range' 1 manifest.profiles.length := by
  simp only [parseLocalEndpointManifest, parseJsonObject, strictKeys, bind_eq_ok, exists_unit,
    raiseIf_eq_ok, not_not]
  constructor
  · rintro ⟨fields, hload, hkeys, hschema, h⟩
    have hloaded : loads text = some (.obj fields) := by
      split at hload
      · cases hload
      · next found hfound =>
          cases hload
          exact hfound
      · cases hload
    cases hprofiles : Json.get fields "profiles" with
    | arr raws =>
        simp only [hprofiles, bind_eq_ok, exists_unit, raiseIf_eq_ok, not_not, pure_eq_ok] at h
        obtain ⟨hlength, profiles, hparsed, hslots, rfl⟩ := h
        exact ⟨fields, raws, profiles, hloaded, hkeys, hschema, hprofiles, hlength, hparsed, rfl,
          rfl, hslots⟩
    | _ => simp [hprofiles] at h
  · rintro ⟨fields, raws, profiles, hload, hkeys, hschema, hraws, hlength, hparsed, hsame, hsorted,
      hslots⟩
    refine ⟨fields, by rw [hload], hkeys, hschema, ?_⟩
    simp only [hraws, bind_eq_ok, exists_unit, raiseIf_eq_ok, not_not, pure_eq_ok]
    refine ⟨hlength, profiles, hparsed, hsorted ▸ hslots, ?_⟩
    cases manifest
    cases hsame
    cases hsorted
    rfl

/-- What the planner reads is a valid manifest. -/
theorem parsedManifest_valid {text : Text} {manifest : LocalEndpointManifest}
    (h : parseLocalEndpointManifest loads foldNonAscii text = .ok manifest) : manifest.Valid := by
  obtain ⟨fields, raws, profiles, -, -, -, -, hlength, hprofiles, hschema, hsorted, hslots⟩ :=
    parseLocalEndpointManifest_eq_ok.mp h
  obtain ⟨hsame, hall, hnodup, -, -⟩ := parseProfiles_accepted hprofiles
  have hperm : manifest.profiles.Perm profiles := hsorted ▸ List.mergeSort_perm _ _
  have hcount : manifest.profiles.length = raws.length := hperm.length_eq.trans hsame
  refine ⟨hschema, hslots, by omega, by omega, ((hperm.map (·.port)).nodup_iff).mpr hnodup, ?_⟩
  intro profile hmem
  exact hall profile (hperm.mem_iff.mp hmem)

end Parsed

end RouterKit.Netcraze
