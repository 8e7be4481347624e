import Mathlib.Data.List.Sort
import RouterKit.Lib.Checked
import RouterKit.Lib.IpAddress
import Mathlib.Data.List.Nodup

/-!
The local endpoint manifest: one to three loopback SOCKS profiles, in slots
counted from one, each on its own port of the supported range.
-/

namespace RouterKit.Netcraze

open RouterKit.Lib RouterKit.Lib.Checked

/-- The planner's error classes. `manifestSchema` and `snapshotSchema` are
subclasses of `plan` in the source, and some handlers tell them apart. -/
inductive PlanErrorKind where
  | plan
  | manifestSchema
  | snapshotSchema
deriving DecidableEq, Repr

structure NetcrazePlanError where
  kind : PlanErrorKind
  message : String
deriving DecidableEq, Repr

def manifestSchemaError (message : String) : NetcrazePlanError := ⟨.manifestSchema, message⟩

def manifestSchema : String := "routerkit.local-endpoints.v1"
def maxProfiles : Nat := 3
def expectedPorts : List Nat := [1082, 1083, 1084]
def loopbackHosts : List String := ["127.0.0.1", "::1"]

/-- `SAFE_MANIFEST_LABELS`. -/
def safeManifestLabel : Nat → Option String
  | 1 => some "primary"
  | 2 => some "fallback-1"
  | 3 => some "fallback-2"
  | _ => none

structure LocalProxyProfile where
  slot : Nat
  label : String
  host : String
  port : Nat
  enabled : Bool
  protocol : String := "socks5"
  authMode : String := "none"
deriving DecidableEq, Repr

structure LocalEndpointManifest where
  profiles : List LocalProxyProfile
  schema : String := manifestSchema
deriving DecidableEq, Repr

/-- The address of a profile: in its canonical spelling one of the two listed. -/
def checkHost (host : String) : Except NetcrazePlanError Unit :=
  match IpText.ipAddress host.toList with
  | none => .error (manifestSchemaError "Local endpoint address is invalid.")
  | some address => raiseIf
      (String.ofList address.text ∉ loopbackHosts ∨ String.ofList address.text ≠ host)
      (manifestSchemaError "Local endpoint must use an exact loopback address.")

/-- The checks of one loop round. -/
def checkDesiredProfile (seenPorts : List Nat) (profile : LocalProxyProfile) :
    Except NetcrazePlanError Unit := do
  raiseIf (profile.slot ∉ [1, 2, 3])
    (manifestSchemaError "Local endpoint profile slot is invalid.")
  raiseIf (some profile.label ≠ safeManifestLabel profile.slot)
    (manifestSchemaError "Local endpoint profile label is not code-owned.")
  checkHost profile.host
  raiseIf (profile.port ∉ expectedPorts ∨ profile.port ∈ seenPorts)
    (manifestSchemaError "Local endpoint profile port is outside the supported scope.")
  raiseIf (profile.protocol ≠ "socks5" ∨ profile.authMode ≠ "none")
    (manifestSchemaError "Local endpoint profile semantics are unsupported.")

def checkDesiredProfiles : List Nat → List LocalProxyProfile → Except NetcrazePlanError Unit
  | _, [] => pure ()
  | seenPorts, profile :: rest => do
      checkDesiredProfile seenPorts profile
      checkDesiredProfiles (profile.port :: seenPorts) rest

def normalizeDesiredProfiles (profiles : List LocalProxyProfile) :
    Except NetcrazePlanError (List LocalProxyProfile) := do
  raiseIf (¬ (1 ≤ profiles.length ∧ profiles.length ≤ maxProfiles))
    (manifestSchemaError "Local endpoint manifest must contain one to three profiles.")
  checkDesiredProfiles [] profiles
  let normalized := profiles.mergeSort (fun a b => decide (a.slot ≤ b.slot))
  raiseIf (normalized.map (·.slot) ≠ List.range' 1 normalized.length)
    (manifestSchemaError "Local endpoint profile slots must be contiguous from one.")
  pure normalized

def normalizeLocalEndpointManifest (manifest : LocalEndpointManifest) :
    Except NetcrazePlanError LocalEndpointManifest := do
  raiseIf (manifest.schema ≠ manifestSchema)
    (manifestSchemaError "Unsupported local endpoint manifest schema.")
  let profiles ← normalizeDesiredProfiles manifest.profiles
  pure { profiles }

def connectionName (profile : LocalProxyProfile) : String :=
  "RouterKit-SOCKS-" ++ toString profile.port

def policyName (profile : LocalProxyProfile) : String :=
  "RouterKit-Policy-" ++ toString profile.port

/-- What one accepted profile satisfies. -/
structure LocalProxyProfile.Acceptable (profile : LocalProxyProfile) : Prop where
  label : some profile.label = safeManifestLabel profile.slot
  host : profile.host ∈ loopbackHosts
  port : profile.port ∈ expectedPorts
  protocol : profile.protocol = "socks5"
  authMode : profile.authMode = "none"

/-- A valid manifest: what the loaders of the repository hand on. -/
structure LocalEndpointManifest.Valid (manifest : LocalEndpointManifest) : Prop where
  schema : manifest.schema = manifestSchema
  slots : manifest.profiles.map (·.slot) = List.range' 1 manifest.profiles.length
  nonempty : 1 ≤ manifest.profiles.length
  atMost : manifest.profiles.length ≤ maxProfiles
  ports_nodup : (manifest.profiles.map (·.port)).Nodup
  acceptable : ∀ profile ∈ manifest.profiles, profile.Acceptable

/-- The two listed texts are canonical spellings. -/
theorem checkHost_eq_ok {host : String} : checkHost host = .ok () ↔ host ∈ loopbackHosts := by
  constructor
  · intro hchecked
    unfold checkHost at hchecked
    split at hchecked
    · cases hchecked
    · rw [raiseIf_eq_ok, not_or, not_not, not_not] at hchecked
      exact hchecked.2 ▸ hchecked.1
  · have hall : ∀ host ∈ loopbackHosts, checkHost host = .ok () := by decide +kernel
    exact hall host

private theorem checkDesiredProfile_eq_ok {seenPorts : List Nat} {profile : LocalProxyProfile} :
    checkDesiredProfile seenPorts profile = .ok () ↔
      profile.slot ∈ [1, 2, 3] ∧ profile.Acceptable ∧ profile.port ∉ seenPorts := by
  simp only [checkDesiredProfile, bind_eq_ok, raiseIf_eq_ok, checkHost_eq_ok, exists_unit,
    not_not, not_or]
  constructor
  · rintro ⟨hslot, hlabel, hhost, ⟨hport, hfresh⟩, hprotocol, hauth⟩
    exact ⟨hslot, ⟨hlabel, hhost, hport, hprotocol, hauth⟩, hfresh⟩
  · rintro ⟨hslot, ⟨hlabel, hhost, hport, hprotocol, hauth⟩, hfresh⟩
    exact ⟨hslot, hlabel, hhost, ⟨hport, hfresh⟩, hprotocol, hauth⟩

private theorem checkDesiredProfiles_eq_ok {seenPorts : List Nat}
    {profiles : List LocalProxyProfile} :
    checkDesiredProfiles seenPorts profiles = .ok () ↔
      (∀ profile ∈ profiles, profile.slot ∈ [1, 2, 3] ∧ profile.Acceptable) ∧
        (profiles.map (·.port)).Nodup ∧ ∀ profile ∈ profiles, profile.port ∉ seenPorts := by
  induction profiles generalizing seenPorts with
  | nil => simp [checkDesiredProfiles]
  | cons profile rest ih =>
      simp only [checkDesiredProfiles, bind_eq_ok, exists_unit, checkDesiredProfile_eq_ok, ih,
        List.forall_mem_cons, List.map_cons, List.nodup_cons]
      constructor
      · rintro ⟨⟨hslot, haccept, hfresh⟩, hall, hnodup, hrest⟩
        refine ⟨⟨⟨hslot, haccept⟩, hall⟩, ⟨?_, hnodup⟩, hfresh, fun other hother hmem =>
          hrest other hother (List.mem_cons_of_mem _ hmem)⟩
        intro hport
        obtain ⟨other, hother, heq⟩ := List.mem_map.mp hport
        exact hrest other hother (heq ▸ List.mem_cons_self)
      · rintro ⟨⟨⟨hslot, haccept⟩, hall⟩, ⟨hne, hnodup⟩, hfresh, hrest⟩
        refine ⟨⟨hslot, haccept, hfresh⟩, hall, hnodup, fun other hother hmem => ?_⟩
        rcases List.mem_cons.mp hmem with heq | hseen
        · exact hne (heq ▸ List.mem_map_of_mem hother)
        · exact hrest other hother hseen

theorem normalizeDesiredProfiles_eq_ok {profiles normalized : List LocalProxyProfile} :
    normalizeDesiredProfiles profiles = .ok normalized ↔
      (1 ≤ profiles.length ∧ profiles.length ≤ maxProfiles) ∧
        ((∀ profile ∈ profiles, profile.slot ∈ [1, 2, 3] ∧ profile.Acceptable) ∧
          (profiles.map (·.port)).Nodup) ∧
        profiles.mergeSort (fun a b => decide (a.slot ≤ b.slot)) = normalized ∧
        normalized.map (·.slot) = List.range' 1 normalized.length := by
  simp only [normalizeDesiredProfiles, bind_eq_ok, raiseIf_eq_ok, exists_unit,
    checkDesiredProfiles_eq_ok, pure_eq_ok, not_not]
  constructor
  · rintro ⟨hlength, ⟨hall, hnodup, -⟩, hslots, rfl⟩
    exact ⟨hlength, ⟨hall, hnodup⟩, rfl, hslots⟩
  · rintro ⟨hlength, ⟨hall, hnodup⟩, rfl, hslots⟩
    exact ⟨hlength, ⟨hall, hnodup, by simp⟩, hslots, rfl⟩

theorem normalizeLocalEndpointManifest_eq_ok {manifest normalized : LocalEndpointManifest} :
    normalizeLocalEndpointManifest manifest = .ok normalized ↔
      manifest.schema = manifestSchema ∧
        normalizeDesiredProfiles manifest.profiles = .ok normalized.profiles ∧
        normalized.schema = manifestSchema := by
  simp only [normalizeLocalEndpointManifest, bind_eq_ok, raiseIf_eq_ok, exists_unit,
    pure_eq_ok, not_not]
  constructor
  · rintro ⟨hschema, profiles, hprofiles, rfl⟩
    exact ⟨hschema, hprofiles, rfl⟩
  · rintro ⟨hschema, hprofiles, hnormalized⟩
    refine ⟨hschema, normalized.profiles, hprofiles, ?_⟩
    cases normalized
    simp_all

/-- Slots counted from one are in order already. -/
theorem sort_of_contiguous {profiles : List LocalProxyProfile}
    (hslots : profiles.map (·.slot) = List.range' 1 profiles.length) :
    profiles.mergeSort (fun a b => decide (a.slot ≤ b.slot)) = profiles := by
  apply List.mergeSort_of_pairwise
  have hpairwise : (profiles.map (·.slot)).Pairwise (· ≤ ·) :=
    hslots ▸ List.pairwise_le_range' 1
  simpa [List.pairwise_map] using hpairwise

/-- The manifests that normalization leaves as they are, are the valid ones. -/
theorem LocalEndpointManifest.valid_iff_normalized {manifest : LocalEndpointManifest} :
    manifest.Valid ↔ normalizeLocalEndpointManifest manifest = .ok manifest := by
  rw [normalizeLocalEndpointManifest_eq_ok, normalizeDesiredProfiles_eq_ok]
  constructor
  · rintro ⟨hschema, hslots, hnonempty, hmost, hnodup, haccept⟩
    refine ⟨hschema, ⟨⟨hnonempty, hmost⟩, ⟨?_, hnodup⟩, sort_of_contiguous hslots, hslots⟩,
      hschema⟩
    intro profile hmem
    refine ⟨?_, haccept profile hmem⟩
    have hslot : profile.slot ∈ manifest.profiles.map (·.slot) := List.mem_map_of_mem hmem
    rw [hslots, List.mem_range'_1] at hslot
    have hthree : manifest.profiles.length ≤ 3 := hmost
    simp only [List.mem_cons, List.not_mem_nil, or_false]
    omega
  · rintro ⟨hschema, ⟨⟨hnonempty, hmost⟩, ⟨hall, hnodup⟩, -, hslots⟩, -⟩
    exact ⟨hschema, hslots, hnonempty, hmost, hnodup, fun profile hmem => (hall profile hmem).2⟩

/-- What normalization returns is valid. -/
theorem LocalEndpointManifest.valid_of_normalized {manifest normalized : LocalEndpointManifest}
    (h : normalizeLocalEndpointManifest manifest = .ok normalized) : normalized.Valid := by
  rw [normalizeLocalEndpointManifest_eq_ok, normalizeDesiredProfiles_eq_ok] at h
  obtain ⟨-, ⟨⟨hnonempty, hmost⟩, ⟨hall, hnodup⟩, hsort, hslots⟩, hschema⟩ := h
  have hperm : normalized.profiles.Perm manifest.profiles := hsort ▸ List.mergeSort_perm _ _
  refine ⟨hschema, hslots, hperm.length_eq ▸ hnonempty, hperm.length_eq ▸ hmost,
    ((hperm.map (·.port)).nodup_iff).mpr hnodup, fun profile hmem => ?_⟩
  exact (hall profile (hperm.mem_iff.mp hmem)).2

namespace LocalEndpointManifest.Valid

variable {manifest : LocalEndpointManifest} (valid : manifest.Valid)
include valid

theorem slots_nodup : (manifest.profiles.map (·.slot)).Nodup := by
  rw [valid.slots]
  exact List.nodup_range'

theorem slot_mem {profile : LocalProxyProfile} (hmem : profile ∈ manifest.profiles) :
    profile.slot ∈ [1, 2, 3] := by
  have hslot : profile.slot ∈ manifest.profiles.map (·.slot) := List.mem_map_of_mem hmem
  rw [valid.slots, List.mem_range'_1] at hslot
  have hthree : manifest.profiles.length ≤ 3 := valid.atMost
  simp only [List.mem_cons, List.not_mem_nil, or_false]
  omega

theorem normalizeDesired : normalizeDesiredProfiles manifest.profiles = .ok manifest.profiles :=
  (normalizeLocalEndpointManifest_eq_ok.mp
    (LocalEndpointManifest.valid_iff_normalized.mp valid)).2.1

/-- Profiles are told apart by their ports. -/
theorem port_inj {left right : LocalProxyProfile} (hleft : left ∈ manifest.profiles)
    (hright : right ∈ manifest.profiles) (hport : left.port = right.port) : left = right :=
  List.inj_on_of_nodup_map valid.ports_nodup hleft hright hport

theorem slot_inj {left right : LocalProxyProfile} (hleft : left ∈ manifest.profiles)
    (hright : right ∈ manifest.profiles) (hslot : left.slot = right.slot) : left = right :=
  List.inj_on_of_nodup_map valid.slots_nodup hleft hright hslot

end LocalEndpointManifest.Valid

/-- The code-owned object names spell the port out, so they tell the supported
ports apart. -/
theorem connectionName_inj {left right : LocalProxyProfile} (hleft : left.port ∈ expectedPorts)
    (hright : right.port ∈ expectedPorts) (h : connectionName left = connectionName right) :
    left.port = right.port := by
  have hall : ∀ p ∈ expectedPorts, ∀ q ∈ expectedPorts,
      "RouterKit-SOCKS-" ++ toString p = "RouterKit-SOCKS-" ++ toString q → p = q := by decide
  exact hall _ hleft _ hright h

theorem policyName_inj {left right : LocalProxyProfile} (hleft : left.port ∈ expectedPorts)
    (hright : right.port ∈ expectedPorts) (h : policyName left = policyName right) :
    left.port = right.port := by
  have hall : ∀ p ∈ expectedPorts, ∀ q ∈ expectedPorts,
      "RouterKit-Policy-" ++ toString p = "RouterKit-Policy-" ++ toString q → p = q := by decide
  exact hall _ hleft _ hright h

end RouterKit.Netcraze
