import RouterKit.Netcraze.ManifestText

/-!
The endpoint manifest as the profile generator writes and recognizes it. The
generator builds it from the ports of its profiles and recognizes a file of its
own by a second set of checks; the planner reads the same file by a third.
-/

namespace RouterKit.Profiles

open RouterKit.Lib RouterKit.Lib.Checked RouterKit.Netcraze

def supportedLocalPorts : List Nat := [1082, 1083, 1084]

section Building

/-- One entry of the written list. There are at most three, and each has a label. -/
def endpointEntry (slot port : Nat) : Json String :=
  .obj [("slot", .int slot), ("label", .str ((safeManifestLabel slot).getD "")),
    ("listen", .str "127.0.0.1"), ("port", .int port), ("enabled", .bool true),
    ("protocol", .str "socks5")]

/-- The loop of `build_local_endpoint_manifest`; an error is the text of the exit. -/
def buildEndpoints : Nat → List Nat → List (List (String × Json String)) →
    Except String (List (Json String))
  | _, _, [] => pure []
  | slot, seenPorts, profile :: rest => do
      let port ← readOneOf supportedLocalPorts
        "Profile local SOCKS port is outside the supported scope" (Json.get profile "port")
      raiseIf (port ∈ seenPorts) "Duplicate profile local SOCKS port"
      let endpoints ← buildEndpoints (slot + 1) (port :: seenPorts) rest
      pure (endpointEntry slot port :: endpoints)

def buildLocalEndpointManifest (profiles : List (List (String × Json String))) :
    Except String (Json String) := do
  raiseIf (¬ (1 ≤ profiles.length ∧ profiles.length ≤ 3))
    "One to three local profiles are required"
  let endpoints ← buildEndpoints 1 [] profiles
  pure (.obj [("schema", .str manifestSchema), ("profiles", .arr endpoints)])

end Building

section Recognition

variable {Text : Type} (loads : Text → Option (Json String)) (floatEq : String → Int → Bool)

/-- `PrivateFileError`. -/
structure PrivateFileError where
  message : String
deriving DecidableEq, Repr

def manifestNotRecognized : PrivateFileError := ⟨"Local endpoint manifest is not recognized."⟩

/-- `value == number`: `True` equals one, and a float may equal an integer. -/
def equalsInt (value : Json String) (number : Int) : Bool :=
  match value with
  | .int found => found = number
  | .bool truth => (if truth then 1 else 0) = number
  | .float spelling => floatEq spelling number
  | _ => false

/-- One round of the loop of `validate_local_endpoint_manifest_text`, up to the port. -/
def recognizeProfile (seenPorts : List Nat) (expectedSlot : Nat) (raw : Json String) :
    Except PrivateFileError Nat :=
  match raw with
  | .obj fields => do
      raiseIf (¬ Json.hasKeys fields ["slot", "label", "listen", "port", "enabled", "protocol"])
        manifestNotRecognized
      raiseIf (¬ equalsInt floatEq (Json.get fields "slot") expectedSlot) manifestNotRecognized
      raiseIf ((safeManifestLabel expectedSlot).map Json.str ≠ some (Json.get fields "label"))
        manifestNotRecognized
      raiseIf (Json.get fields "listen" ≠ .str "127.0.0.1" ∧ Json.get fields "listen" ≠ .str "::1")
        manifestNotRecognized
      let port ← readOneOf supportedLocalPorts manifestNotRecognized (Json.get fields "port")
      raiseIf (port ∈ seenPorts) manifestNotRecognized
      match Json.get fields "enabled" with
      | .bool _ => do
          raiseIf (Json.get fields "protocol" ≠ .str "socks5") manifestNotRecognized
          pure port
      | _ => .error manifestNotRecognized
  | _ => .error manifestNotRecognized

def recognizeProfiles : List Nat → Nat → List (Json String) → Except PrivateFileError Unit
  | _, _, [] => pure ()
  | seenPorts, expectedSlot, raw :: rest => do
      let port ← recognizeProfile floatEq seenPorts expectedSlot raw
      recognizeProfiles (port :: seenPorts) (expectedSlot + 1) rest

def validateLocalEndpointManifestText (text : Text) : Except PrivateFileError Unit :=
  match loads text with
  | some (.obj fields) => do
      raiseIf (¬ Json.hasKeys fields ["schema", "profiles"]) manifestNotRecognized
      raiseIf (Json.get fields "schema" ≠ .str manifestSchema) manifestNotRecognized
      match Json.get fields "profiles" with
      | .arr raws => do
          raiseIf (¬ (1 ≤ raws.length ∧ raws.length ≤ 3)) manifestNotRecognized
          recognizeProfiles floatEq [] 1 raws
      | _ => .error manifestNotRecognized
  | _ => .error manifestNotRecognized

end Recognition

def slotIsInteger : Json String → Bool
  | .obj fields =>
      match Json.get fields "slot" with
      | .int _ => true
      | _ => false
  | _ => false

/-- Every slot of a loaded manifest is a JSON integer, and no boolean or float. -/
def slotsAreIntegers : Json String → Bool
  | .obj fields =>
      match Json.get fields "profiles" with
      | .arr raws => raws.all slotIsInteger
      | _ => false
  | _ => false

theorem slotIsInteger_iff {raw : Json String} :
    slotIsInteger raw = true ↔
      ∃ fields, raw = .obj fields ∧ ∃ slot, Json.get fields "slot" = .int slot := by
  cases raw with
  | obj fields =>
      cases hslot : Json.get fields "slot" <;> simp [slotIsInteger, hslot]
  | _ => simp [slotIsInteger]

/-- The profile an entry reports. -/
def Reports (raw : Json String) (profile : LocalProxyProfile) : Prop :=
  ∃ fields, raw = .obj fields ∧ Json.get fields "slot" = .int profile.slot ∧
    Json.get fields "label" = .str profile.label ∧ Json.get fields "port" = .int profile.port ∧
    Json.get fields "enabled" = .bool profile.enabled

/-- What the generator has checked of an entry, its slot apart. -/
structure Recognized (fields : List (String × Json String)) (profile : LocalProxyProfile) :
    Prop where
  keys : ∀ key ∈ fields.map Prod.fst,
    key ∈ ["slot", "label", "listen", "port", "enabled", "protocol"]
  label : Json.get fields "label" = .str profile.label
  listen : Json.get fields "listen" = .str profile.host
  port : Json.get fields "port" = .int profile.port
  enabled : Json.get fields "enabled" = .bool profile.enabled
  protocol : Json.get fields "protocol" = .str "socks5"
  acceptable : profile.Acceptable

section Entries

variable {floatEq : String → Int → Bool} {foldNonAscii : Char → List Char}

theorem recognizeProfile_eq_ok {seenPorts : List Nat} {slot port : Nat} {raw : Json String}
    (h : recognizeProfile floatEq seenPorts slot raw = .ok port) :
    ∃ fields profile, raw = .obj fields ∧ Recognized fields profile ∧ profile.slot = slot ∧
      profile.port = port ∧ port ∉ seenPorts ∧ equalsInt floatEq (Json.get fields "slot") slot := by
  cases raw with
  | obj fields =>
      simp only [recognizeProfile, bind_eq_ok, exists_unit, raiseIf_eq_ok, not_not,
        readOneOf_eq_ok] at h
      obtain ⟨hkeys, hslot, hlabel, hlisten, found, ⟨hport, hsupported⟩, hfresh, h⟩ := h
      obtain ⟨label, hlabelled, hlabel⟩ := Option.map_eq_some_iff.mp hlabel
      obtain ⟨host, hhost, hloopback⟩ : ∃ host, Json.get fields "listen" = .str host ∧
          host ∈ loopbackHosts := by
        by_cases hfirst : Json.get fields "listen" = .str "127.0.0.1"
        · exact ⟨_, hfirst, by simp [loopbackHosts]⟩
        · exact ⟨_, not_not.mp (not_and.mp hlisten hfirst), by simp [loopbackHosts]⟩
      split at h
      · next enabled henabled =>
          simp only [bind_eq_ok, exists_unit, raiseIf_eq_ok, not_not, pure_eq_ok] at h
          obtain ⟨hprotocol, rfl⟩ := h
          exact ⟨fields, ⟨slot, label, host, found, enabled, "socks5", "none"⟩, rfl,
            ⟨hkeys.1, hlabel.symm, hhost, hport, henabled, hprotocol,
              ⟨hlabelled.symm, hloopback, hsupported, rfl, rfl⟩⟩, rfl, rfl, hfresh, hslot⟩
      · cases h
  | _ => simp [recognizeProfile] at h

/-- The texts an entry may hold are clean already. -/
private theorem cleanValue_owned {text description : String}
    (h : text ∈ ["primary", "fallback-1", "fallback-2", "socks5", "127.0.0.1", "::1"]) :
    cleanValue (.str text) description = .ok text := by
  have hall : ∀ owned ∈ ["primary", "fallback-1", "fallback-2", "socks5", "127.0.0.1", "::1"],
      ¬ owned.toList.any PyText.isControl ∧
        ¬ (PyText.strip owned.toList = [] ∨ maxText < (PyText.strip owned.toList).length) ∧
          String.ofList (PyText.strip owned.toList) = owned := by decide +kernel
  obtain ⟨hcontrol, hlength, hsame⟩ := hall text h
  simp only [cleanValue, cleanText, raiseIf, if_neg hcontrol, if_neg hlength, bind_ok_left, hsame]
  rfl

private theorem label_owned {slot : Nat} {label : String}
    (h : some label = safeManifestLabel slot) :
    label ∈ ["primary", "fallback-1", "fallback-2", "socks5", "127.0.0.1", "::1"] := by
  unfold safeManifestLabel at h
  split at h <;> simp_all

/-- The loopback addresses are in their canonical spelling. -/
private theorem loopback_canonical {host : String} (h : host ∈ loopbackHosts) :
    ∃ address, IpText.ipAddress host.toList = some address ∧
      String.ofList address.text = host := by
  have hall : ∀ host ∈ loopbackHosts,
      (IpText.ipAddress host.toList).map (fun address => String.ofList address.text) =
        some host := by decide +kernel
  exact Option.map_eq_some_iff.mp (hall host h)

/-- The planner reads a recognized entry with an integer slot. -/
theorem parseProfile_recognized {fields : List (String × Json String)}
    {profile : LocalProxyProfile} {seenSlots seenPorts : List Nat}
    (recognized : Recognized fields profile) (hslot : Json.get fields "slot" = .int profile.slot)
    (hthree : profile.slot ∈ [1, 2, 3]) (hslots : profile.slot ∉ seenSlots)
    (hports : profile.port ∉ seenPorts) :
    parseProfile foldNonAscii seenSlots seenPorts (.obj fields) = .ok profile := by
  obtain ⟨hkeys, hlabel, hlisten, hport, henabled, hprotocol, haccept⟩ := recognized
  obtain ⟨address, haddress, htext⟩ := loopback_canonical haccept.host
  have hhost : profile.host ∈ ["primary", "fallback-1", "fallback-2", "socks5", "127.0.0.1",
      "::1"] := by
    have hloopback := haccept.host
    simp only [loopbackHosts, List.mem_cons, List.not_mem_nil, or_false] at hloopback ⊢
    simp [hloopback]
  have hfold : foldText foldNonAscii "socks5" = "socks5" := by
    show String.ofList (PyText.casefold foldNonAscii "socks5".toList) = "socks5"
    rw [PyText.casefold_of_ascii foldNonAscii (by decide)]
    decide
  simp only [parseProfile, bind_eq_ok, exists_unit, raiseIf_eq_ok, not_not, readOneOf_eq_ok]
  refine ⟨hkeys, profile.slot, ⟨hslot, hthree⟩, profile.port, ⟨hport, haccept.port⟩,
    by simp [hslots, hports],
    profile.label, by rw [hlabel]; exact cleanValue_owned (label_owned haccept.label),
    haccept.label, profile.host, by rw [hlisten]; exact cleanValue_owned hhost, ?_⟩
  simp only [haddress, bind_eq_ok, exists_unit, raiseIf_eq_ok, not_not, htext, henabled]
  refine ⟨haccept.host, "socks5", by rw [hprotocol]; exact cleanValue_owned (by simp), hfold, ?_⟩
  obtain ⟨slot, label, host, port, enabled, protocol, authMode⟩ := profile
  obtain ⟨rfl, rfl⟩ : protocol = "socks5" ∧ authMode = "none" :=
      ⟨haccept.protocol, haccept.authMode⟩
  rfl

theorem parseProfiles_recognized {seenSlots seenPorts : List Nat} {slot : Nat}
    {raws : List (Json String)} (h : recognizeProfiles floatEq seenPorts slot raws = .ok ())
    (hintegers : ∀ raw ∈ raws, slotIsInteger raw) (hseen : ∀ seen ∈ seenSlots, seen < slot)
    (hfirst : 1 ≤ slot) (hlast : slot + raws.length ≤ 4) :
    ∃ profiles, parseProfiles foldNonAscii seenSlots seenPorts raws = .ok profiles ∧
      profiles.map (·.slot) = List.range' slot raws.length ∧
      List.Forall₂ Reports raws profiles := by
  induction raws generalizing seenSlots seenPorts slot with
  | nil => exact ⟨[], rfl, rfl, .nil⟩
  | cons raw rest ih =>
      simp only [recognizeProfiles, bind_eq_ok] at h
      obtain ⟨port, hport, hrest⟩ := h
      obtain ⟨fields, profile, rfl, recognized, hslot, rfl, hfresh, hequal⟩ :=
        recognizeProfile_eq_ok hport
      obtain ⟨hinteger, hintegers⟩ := List.forall_mem_cons.mp hintegers
      -- an integer that equals the slot is the slot
      have hspelled : Json.get fields "slot" = .int profile.slot := by
        obtain ⟨_, hobj, number, hnumber⟩ := slotIsInteger_iff.mp hinteger
        cases hobj
        rw [hnumber] at hequal ⊢
        rw [hslot]
        exact congrArg Json.int (of_decide_eq_true hequal)
      simp only [List.length_cons] at hlast
      have hthree : profile.slot ∈ [1, 2, 3] := by
        simp only [List.mem_cons, List.not_mem_nil, or_false]
        omega
      have hnew : profile.slot ∉ seenSlots := by
        intro hmem
        have hlt := hseen _ hmem
        omega
      have hparsed := @parseProfile_recognized foldNonAscii fields profile seenSlots seenPorts
        recognized hspelled hthree hnew hfresh
      have hbound : ∀ seen ∈ profile.slot :: seenSlots, seen < slot + 1 := by
        intro seen hmem
        rcases List.mem_cons.mp hmem with rfl | hmem
        · omega
        · have hlt := hseen seen hmem
          omega
      obtain ⟨profiles, hprofiles, hslots, hreports⟩ :=
        ih hrest hintegers hbound (by omega) (by omega)
      refine ⟨profile :: profiles, ?_, ?_, .cons ?_ hreports⟩
      · simp only [parseProfiles, hparsed, hprofiles, bind_ok_left]
        rfl
      · rw [List.map_cons, hslots, hslot, List.length_cons, List.range'_succ]
      · exact ⟨fields, rfl, hspelled, recognized.label, recognized.port, recognized.enabled⟩

/-- What the generator builds, it recognizes. -/
theorem recognizeProfiles_built {slot : Nat} {seenPorts : List Nat}
    {profiles : List (List (String × Json String))} {endpoints : List (Json String)}
    (h : buildEndpoints slot seenPorts profiles = .ok endpoints) (hfirst : 1 ≤ slot)
    (hlast : slot + profiles.length ≤ 4) :
    recognizeProfiles floatEq seenPorts slot endpoints = .ok () ∧
      (∀ raw ∈ endpoints, slotIsInteger raw) ∧ endpoints.length = profiles.length := by
  induction profiles generalizing slot seenPorts endpoints with
  | nil =>
      cases h
      exact ⟨rfl, by simp, rfl⟩
  | cons profile rest ih =>
      simp only [buildEndpoints, bind_eq_ok, exists_unit, raiseIf_eq_ok, pure_eq_ok,
        readOneOf_eq_ok] at h
      obtain ⟨port, ⟨-, hsupported⟩, hfresh, others, hothers, rfl⟩ := h
      simp only [List.length_cons] at hlast
      obtain ⟨hrecognized, hintegers, hlength⟩ := ih hothers (by omega) (by omega)
      obtain ⟨label, hlabel⟩ : ∃ label, safeManifestLabel slot = some label := by
        obtain rfl | rfl | rfl : slot = 1 ∨ slot = 2 ∨ slot = 3 := by omega
        all_goals exact ⟨_, rfl⟩
      have hport : recognizeProfile floatEq seenPorts slot (endpointEntry slot port) =
          .ok port := by
        simp [recognizeProfile, endpointEntry, bind_eq_ok, Json.hasKeys, equalsInt, hlabel,
          readOneOf_eq_ok, hsupported, hfresh]
      refine ⟨?_, ?_, by simp [hlength]⟩
      · simp only [recognizeProfiles, hport, bind_ok_left]
        exact hrecognized
      · exact List.forall_mem_cons.mpr ⟨by simp [endpointEntry, slotIsInteger], hintegers⟩

end Entries

section Paths

variable {Text : Type} {loads : Text → Option (Json String)} {floatEq : String → Int → Bool}
  {foldNonAscii : Char → List Char}

theorem validateLocalEndpointManifestText_eq_ok {text : Text} :
    validateLocalEndpointManifestText loads floatEq text = .ok () ↔
      ∃ fields raws, loads text = some (.obj fields) ∧
        Json.hasKeys fields ["schema", "profiles"] ∧
        Json.get fields "schema" = .str manifestSchema ∧ Json.get fields "profiles" = .arr raws ∧
        (1 ≤ raws.length ∧ raws.length ≤ 3) ∧ recognizeProfiles floatEq [] 1 raws = .ok () := by
  unfold validateLocalEndpointManifestText
  constructor
  · intro h
    split at h
    · next fields hload =>
        simp only [bind_eq_ok, exists_unit, raiseIf_eq_ok, not_not] at h
        obtain ⟨hkeys, hschema, h⟩ := h
        split at h
        · next raws hraws =>
            simp only [bind_eq_ok, exists_unit, raiseIf_eq_ok, not_not] at h
            exact ⟨fields, raws, hload, hkeys, hschema, hraws, h.1, h.2⟩
        · cases h
    · cases h
  · rintro ⟨fields, raws, hload, hkeys, hschema, hraws, hlength, hrecognized⟩
    simp only [hload, hraws, bind_eq_ok, exists_unit, raiseIf_eq_ok, not_not]
    exact ⟨hkeys, hschema, hlength, hrecognized⟩

/-- The planner reads what the generator recognizes when the slots are integers. -/
theorem parse_of_recognized {text : Text} {fields : List (String × Json String)}
    {raws : List (Json String)} (hload : loads text = some (.obj fields))
    (hraws : Json.get fields "profiles" = .arr raws)
    (hvalid : validateLocalEndpointManifestText loads floatEq text = .ok ())
    (hintegers : ∀ raw ∈ raws, slotIsInteger raw) :
    ∃ manifest, parseLocalEndpointManifest loads foldNonAscii text = .ok manifest ∧
      List.Forall₂ Reports raws manifest.profiles := by
  obtain ⟨found, list, hfound, hkeys, hschema, hlist, hlength, hrecognized⟩ :=
    validateLocalEndpointManifestText_eq_ok.mp hvalid
  cases hload.symm.trans hfound
  cases hraws.symm.trans hlist
  obtain ⟨profiles, hprofiles, hslots, hreports⟩ :=
    @parseProfiles_recognized floatEq foldNonAscii [] [] 1 raws hrecognized hintegers (by simp)
      (Nat.le_refl 1) (by omega)
  have hcount : profiles.length = raws.length := hreports.length_eq.symm
  have hcontiguous : profiles.map (·.slot) = List.range' 1 profiles.length := by
    rw [hslots, hcount]
  refine ⟨{ profiles }, parseLocalEndpointManifest_eq_ok.mpr ⟨fields, raws, profiles, hload,
    hkeys.1, hschema, hraws, hlength, hprofiles, rfl, sort_of_contiguous hcontiguous,
    hcontiguous⟩, hreports⟩

theorem integers_of_parse {text : Text} {manifest : LocalEndpointManifest}
    (h : parseLocalEndpointManifest loads foldNonAscii text = .ok manifest) :
    ∃ value, loads text = some value ∧ slotsAreIntegers value = true := by
  obtain ⟨fields, raws, profiles, hload, -, -, hraws, -, hprofiles, -, -, -⟩ :=
    parseLocalEndpointManifest_eq_ok.mp h
  obtain ⟨-, -, -, -, hslots⟩ := parseProfiles_accepted hprofiles
  refine ⟨_, hload, ?_⟩
  simp only [slotsAreIntegers, hraws, List.all_eq_true]
  exact fun raw hraw => slotIsInteger_iff.mpr (hslots raw hraw)

/-- A built manifest is recognized and read back as it was built, and a read one
is its own normal form. A text the generator recognizes is one the planner reads
exactly when its slots are integers: the generator takes `true` and `1.0` for one. -/
theorem endpoint_manifest_paths_agree_iff {Text : Type} (loads : Text → Option (Json String))
    (dumps : Json String → Text) (floatEq : String → Int → Bool)
    (foldNonAscii : Char → List Char) :
    (∀ profiles value, buildLocalEndpointManifest profiles = .ok value →
      loads (dumps value) = some value →
        validateLocalEndpointManifestText loads floatEq (dumps value) = .ok () ∧
        ∃ manifest endpoints,
          value = .obj [("schema", .str manifestSchema), ("profiles", .arr endpoints)] ∧
          parseLocalEndpointManifest loads foldNonAscii (dumps value) = .ok manifest ∧
          List.Forall₂ Reports endpoints manifest.profiles) ∧
      (∀ text, validateLocalEndpointManifestText loads floatEq text = .ok () →
        ((∃ manifest, parseLocalEndpointManifest loads foldNonAscii text = .ok manifest) ↔
          ∃ value, loads text = some value ∧ slotsAreIntegers value = true)) ∧
      ∀ text manifest, parseLocalEndpointManifest loads foldNonAscii text = .ok manifest →
        normalizeLocalEndpointManifest manifest = .ok manifest := by
  refine ⟨?_, ?_, ?_⟩
  · intro profiles value hbuilt hread
    simp only [buildLocalEndpointManifest, bind_eq_ok, exists_unit, raiseIf_eq_ok, not_not,
      pure_eq_ok] at hbuilt
    obtain ⟨hlength, endpoints, hendpoints, rfl⟩ := hbuilt
    obtain ⟨hrecognized, hintegers, hcount⟩ :=
      @recognizeProfiles_built floatEq 1 [] profiles endpoints hendpoints (Nat.le_refl 1) (by omega)
    have hvalid : validateLocalEndpointManifestText loads floatEq (dumps (.obj
        [("schema", .str manifestSchema), ("profiles", .arr endpoints)])) = .ok () := by
      refine validateLocalEndpointManifestText_eq_ok.mpr ⟨_, endpoints, hread, ?_, by simp,
        by simp, by omega, hrecognized⟩
      simp [Json.hasKeys]
    obtain ⟨manifest, hparsed, hreports⟩ := @parse_of_recognized Text loads floatEq foldNonAscii
      _ _ endpoints hread (by simp) hvalid hintegers
    exact ⟨hvalid, manifest, endpoints, rfl, hparsed, hreports⟩
  · intro text hvalid
    constructor
    · rintro ⟨manifest, hparsed⟩
      exact integers_of_parse hparsed
    · rintro ⟨value, hload, hintegers⟩
      obtain ⟨fields, raws, hfields, -, -, hraws, -, -⟩ :=
        validateLocalEndpointManifestText_eq_ok.mp hvalid
      cases hload.symm.trans hfields
      simp only [slotsAreIntegers, hraws, List.all_eq_true] at hintegers
      obtain ⟨manifest, hparsed, -⟩ :=
        @parse_of_recognized Text loads floatEq foldNonAscii _ _ _ hload hraws hvalid hintegers
      exact ⟨manifest, hparsed⟩
  · intro text manifest hparsed
    exact LocalEndpointManifest.valid_iff_normalized.mp (parsedManifest_valid hparsed)

/-- One profile whose slot is spelled as given. -/
def oneProfile (slot : Json String) : Json String :=
  .obj [("schema", .str manifestSchema), ("profiles", .arr [.obj [("slot", slot),
    ("label", .str "primary"), ("listen", .str "127.0.0.1"), ("port", .int 1082),
    ("enabled", .bool true), ("protocol", .str "socks5")]])]

/-- A built manifest with one profile, a text that spells it, and what is read of it. -/
theorem endpoint_manifest_paths_agree_sample :
    validateLocalEndpointManifestText some (fun _ _ => false) (oneProfile (.int 1)) = .ok () ∧
      (∃ manifest, parseLocalEndpointManifest some (fun c => [c]) (oneProfile (.int 1)) =
        .ok manifest ∧ normalizeLocalEndpointManifest manifest = .ok manifest) := by
  obtain ⟨hbuild, hread, hnormal⟩ :=
    endpoint_manifest_paths_agree_iff some id (fun _ _ => false) (fun c => [c])
  obtain ⟨hvalid, -⟩ := hbuild [[("port", .int 1082)]] (oneProfile (.int 1)) rfl rfl
  obtain ⟨manifest, hparsed⟩ := (hread _ hvalid).mpr ⟨_, rfl, by decide⟩
  exact ⟨hvalid, manifest, hparsed, hnormal _ _ hparsed⟩

/-- A slot spelled `true` is recognized by the generator and refused by the planner. -/
theorem boolean_slot_recognized_not_read :
    ¬ ∀ text, validateLocalEndpointManifestText some (fun _ _ => false) text = .ok () →
      ∃ manifest, parseLocalEndpointManifest some (fun c => [c]) text = .ok manifest := by
  intro h
  obtain ⟨manifest, hparsed⟩ := h (oneProfile (.bool true)) rfl
  cases hparsed

end Paths

end RouterKit.Profiles
