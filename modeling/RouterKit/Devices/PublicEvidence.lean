import Mathlib.Data.List.Infix
import RouterKit.Devices.Selection

/-!
Public evidence: the listing without names, addresses and other local texts.
Errors are reduced to codes, and a code is read off the error's text, in which
the name of the source stands.
-/

namespace RouterKit.Devices

open RouterKit.Lib RouterKit.Lib.IpText RouterKit.Lib.Checked

def discoverySchema : String := "routerkit.devices.discovery.v1"

def sensitivityPublic : String := "public_evidence_redacted"

/-- `ip_address(address).version`. -/
def addressFamily (address : String) : Option Nat :=
  (ipAddress address.toList).map (·.version)

def maskedAddress (address : String) : Except Raised (Json String) :=
  match addressFamily address with
  | none => .error .valueError
  | some version =>
      .ok (.obj [("family", .str ("ipv" ++ toString version)), ("value", .str "masked"),
        ("sensitivity", .str sensitivityPublic)])

/-- `_hash_sensitive`, for the keyed hash of one salt. -/
def hashSensitive (keyedHash : String → String) (value : Option String) : Json String :=
  match present value with
  | none => .null
  | some value =>
      .str ("hmac-sha256:" ++ String.ofList ((keyedHash value).toList.take 24))

/-- `part in text`. -/
def occursIn (part text : String) : Bool :=
  part.toList <:+: text.toList

def publicErrorCode (error : String) : String :=
  if occursIn "malformed record skipped" error then "malformed_record_skipped"
  else if occursIn AdapterState.sourceMissing.text error then AdapterState.sourceMissing.text
  else if occursIn AdapterState.permissionDenied.text error then AdapterState.permissionDenied.text
  else if occursIn AdapterState.timeout.text error then AdapterState.timeout.text
  else if occursIn AdapterState.outputTooLarge.text error then AdapterState.outputTooLarge.text
  else if occursIn AdapterState.contractUnverified.text error ||
      occursIn "hardware confirmation required" error then AdapterState.contractUnverified.text
  else "source_error"

def publicErrorCodes (errors : List String) : List String :=
  (errors.take maxErrorCount).map publicErrorCode

def publicErrorSummary (errors : List String) : List (Json String) :=
  (sortBy id (publicErrorCodes errors).dedup).map fun code =>
    .obj [("code", .str code), ("count", .int ((publicErrorCodes errors).count code))]

def publicDevice (keyedHash : String → String) (ready : Bool) (index : Nat)
    (device : NormalizedDevice) : Except Raised (Json String) := do
  let addresses ← mapEach maskedAddress device.addresses
  return .obj [
    ("record_id", .str ("public-device-" ++ toString index)),
    ("local_record_id_hash", hashSensitive keyedHash (some device.recordId)),
    ("display_name", .str ("device-" ++ toString index)),
    ("display_name_sensitivity", .str sensitivityPublic),
    ("addresses", .arr addresses),
    ("stable_identifier_hash", hashSensitive keyedHash device.stableIdentifier),
    ("online_state", .str device.onlineState),
    ("connection_type", .str device.connectionType),
    ("source_types", .arr (device.sources.map .str)),
    ("selectable", .bool device.selectable),
    ("selection_readiness", .bool ready),
    ("stale", .bool device.stale)]

def publicDevices (keyedHash : String → String) (ready : Bool) :
    Nat → List NormalizedDevice → Except Raised (List (Json String))
  | _, [] => .ok []
  | index, device :: rest => do
      let first ← publicDevice keyedHash ready index device
      let others ← publicDevices keyedHash ready (index + 1) rest
      return first :: others

def publicSource (index : Nat) (source : DiscoverySource) : Json String :=
  .obj [("source_index", .int index), ("kind", .str source.kind),
    ("state", .str source.state.text), ("confidence", .str source.confidence)]

/-- `result_to_jsonable(result, public_evidence=True)`. -/
def publicEvidence (keyedHash : String → String) (result : DiscoveryResult) :
    Except Raised (Json String) := do
  let devices ← publicDevices keyedHash (selectionReadiness result).1 1 result.devices
  return .obj [
    ("schema", .str discoverySchema),
    ("sensitivity", .str sensitivityPublic),
    ("redaction_note", .str
      "Redaction masks local fields for public evidence; it is not an anonymity guarantee."),
    ("adapter_state", .str result.adapterState.text),
    ("device_count", .int result.devices.length),
    ("sources", .arr (result.sources.mapIdx fun index source => publicSource (index + 1) source)),
    ("devices", .arr devices),
    ("error_count", .int result.errors.length),
    ("errors", .arr (publicErrorSummary result.errors))]

/-- The error that an event of a source leaves: a record that is skipped, or
the report of a source that is not supported. -/
def sourceError (source : DiscoverySource) : String :=
  if source.state = .supported then skippedError source.name
  else reportedError source.name source.state

/-- The errors of events, each given by the position of its source. -/
def eventErrors (events : List Nat) (sources : List DiscoverySource) : List String :=
  events.filterMap fun index => (sources[index]?).map sourceError

/-- A result that the reader can arrive at by these events. -/
structure ArisesFrom (events : List Nat) (result : DiscoveryResult) : Prop where
  placed : ∀ index ∈ events, index < result.sources.length
  bounded : events.length ≤ maxErrorCount
  errors : result.errors = eventErrors events result.sources
  names : ∀ source ∈ result.sources, IsSourceName source.name
  addresses : ∀ device ∈ result.devices, ∀ address ∈ device.addresses,
    (addressFamily address).isSome = true

/-- Sources that differ in their names only. -/
def SameSource (first second : DiscoverySource) : Prop :=
  second = { first with name := second.name }

/-- Devices that differ in the local texts only. -/
structure SameDevice (first second : NormalizedDevice) : Prop where
  families : first.addresses.map addressFamily = second.addresses.map addressFamily
  others : second = { first with
    displayName := second.displayName
    addresses := second.addresses
    wifiBand := second.wifiBand
    interface := second.interface
    existingPolicy := second.existingPolicy }

/-- Results that differ in the local texts, and in the errors these stand in. -/
structure SameUpToLocalText (first second : DiscoveryResult) : Prop where
  sources : List.Forall₂ SameSource first.sources second.sources
  devices : List.Forall₂ SameDevice first.devices second.devices
  others : second = { first with
    sources := second.sources
    devices := second.devices
    errors := second.errors }

theorem publicErrorCode_skipped (name : String) :
    publicErrorCode (skippedError name) = "malformed_record_skipped" := by
  have hopening : "malformed record skipped".toList <:+:
      "malformed record skipped from source ".toList := by decide +kernel
  have hoccurs : occursIn "malformed record skipped" (skippedError name) = true := by
    unfold occursIn skippedError
    rw [String.toList_append]
    exact decide_eq_true (hopening.trans (List.infix_append' [] _ name.toList))
  unfold publicErrorCode
  rw [if_pos hoccurs]

private theorem reported_code_of_plain_name {state : AdapterState} (h : state ≠ .supported) :
    publicErrorCode (reportedError "a" state) ≠ "malformed_record_skipped" := by
  cases state with
  | supported => exact absurd rfl h
  | unsupported => decide +kernel
  | contractUnverified => decide +kernel
  | malformedOutput => decide +kernel
  | permissionDenied => decide +kernel
  | timeout => decide +kernel
  | outputTooLarge => decide +kernel
  | sourceMissing => decide +kernel

private theorem reported_code_of_telling_name (state : AdapterState) :
    publicErrorCode (reportedError "malformed record skipped" state) =
      "malformed_record_skipped" := by
  cases state <;> decide +kernel

/-- The summary lists every code with its number of errors. -/
theorem count_of_publicErrorSummary {errors others : List String}
    (h : publicErrorSummary errors = publicErrorSummary others) (code : String) :
    (publicErrorCodes errors).count code = (publicErrorCodes others).count code := by
  have hlisted : ∀ {some more : List String}, publicErrorSummary some = publicErrorSummary more →
      code ∈ publicErrorCodes some →
      (publicErrorCodes some).count code = (publicErrorCodes more).count code := by
    intro some more heq hcode
    have hmem : Json.obj [("code", .str code),
        ("count", .int ((publicErrorCodes some).count code))] ∈ publicErrorSummary more := by
      rw [← heq]
      exact List.mem_map.mpr ⟨code, by simpa using hcode, rfl⟩
    obtain ⟨found, -, hfound⟩ := List.mem_map.mp hmem
    simp only [Json.obj.injEq, List.cons.injEq, Prod.mk.injEq, Json.str.injEq, Json.int.injEq,
      true_and, and_true, Nat.cast_inj] at hfound
    obtain ⟨rfl, hcount⟩ := hfound
    exact hcount.symm
  by_cases hcode : code ∈ publicErrorCodes errors
  · exact hlisted h hcode
  · by_cases hother : code ∈ publicErrorCodes others
    · exact (hlisted h.symm hother).symm
    · rw [List.count_eq_zero.mpr hcode, List.count_eq_zero.mpr hother]

theorem eventErrors_length {events : List Nat} {sources : List DiscoverySource}
    (h : ∀ index ∈ events, index < sources.length) :
    (eventErrors events sources).length = events.length := by
  induction events with
  | nil => rfl
  | cons index rest ih =>
      obtain ⟨hindex, hrest⟩ := List.forall_mem_cons.mp h
      have hsource : (sources[index]?).map sourceError = some (sourceError sources[index]) := by
        rw [List.getElem?_eq_getElem hindex, Option.map_some]
      rw [eventErrors, List.filterMap_cons, hsource]
      exact congrArg (· + 1) (ih hrest)

private theorem mem_eventErrors {events : List Nat} {sources : List DiscoverySource}
    {error : String} : error ∈ eventErrors events sources ↔
      ∃ index ∈ events, ∃ source, sources[index]? = some source ∧ sourceError source = error := by
  simp only [eventErrors, List.mem_filterMap, Option.map_eq_some_iff]

namespace ArisesFrom

variable {events : List Nat} {result : DiscoveryResult}

theorem errors_length (h : ArisesFrom events result) : result.errors.length = events.length := by
  rw [h.errors, eventErrors_length h.placed]

/-- No error is cut off before the codes are counted. -/
theorem codes (h : ArisesFrom events result) :
    publicErrorCodes result.errors = result.errors.map publicErrorCode := by
  unfold publicErrorCodes
  rw [List.take_of_length_le (h.errors_length.trans_le h.bounded)]

theorem codes_length (h : ArisesFrom events result) :
    (publicErrorCodes result.errors).length = events.length := by
  rw [h.codes, List.length_map, h.errors_length]

end ArisesFrom

private theorem publicDevices_ok {keyedHash : String → String} {ready : Bool} {index : Nat}
    {devices : List NormalizedDevice} (h : ∀ device ∈ devices, ∀ address ∈ device.addresses,
      (addressFamily address).isSome = true) :
    ∃ items, publicDevices keyedHash ready index devices = .ok items := by
  induction devices generalizing index with
  | nil => exact ⟨[], rfl⟩
  | cons device rest ih =>
      obtain ⟨hdevice, hrest⟩ := List.forall_mem_cons.mp h
      obtain ⟨items, hitems⟩ := @ih (index + 1) hrest
      have hmasked : mapEach maskedAddress device.addresses =
          .ok (device.addresses.map fun address =>
            .obj [("family", .str ("ipv" ++ toString ((addressFamily address).getD 0))),
              ("value", .str "masked"), ("sensitivity", .str sensitivityPublic)]) := by
        apply mapEach_eq_map
        intro address haddress
        obtain ⟨version, hversion⟩ := Option.isSome_iff_exists.mp (hdevice address haddress)
        unfold maskedAddress
        rw [hversion]
        rfl
      unfold publicDevices publicDevice
      rw [hmasked, bind_ok_left, hitems]
      exact ⟨_, rfl⟩

/-- Equal evidence has equal summaries. -/
private theorem summary_of_publicEvidence {keyedHash : String → String}
    {first second : DiscoveryResult}
    (hfirst : ∀ device ∈ first.devices, ∀ address ∈ device.addresses,
      (addressFamily address).isSome = true)
    (hsecond : ∀ device ∈ second.devices, ∀ address ∈ device.addresses,
      (addressFamily address).isSome = true)
    (h : publicEvidence keyedHash second = publicEvidence keyedHash first) :
    publicErrorSummary second.errors = publicErrorSummary first.errors := by
  unfold publicEvidence at h
  obtain ⟨items, hitems⟩ := @publicDevices_ok keyedHash (selectionReadiness first).1 1 _ hfirst
  obtain ⟨others, hothers⟩ := @publicDevices_ok keyedHash (selectionReadiness second).1 1 _ hsecond
  rw [hitems, hothers, bind_ok_left, bind_ok_left] at h
  simp only [pure, Except.pure, Except.ok.injEq, Json.obj.injEq, List.cons.injEq, Prod.mk.injEq,
    Json.arr.injEq, true_and, and_true] at h
  exact h.2.2.2.2.2

def renameDegraded (name : String) (source : DiscoverySource) : DiscoverySource :=
  if source.state = .supported then source else { source with name }

/-- The result of the same events, with every degraded source under one name. -/
def withDegradedNamed (name : String) (events : List Nat) (result : DiscoveryResult) :
    DiscoveryResult :=
  { result with
    sources := result.sources.map (renameDegraded name)
    errors := eventErrors events (result.sources.map (renameDegraded name)) }

theorem withDegradedNamed_same (name : String) (events : List Nat) (result : DiscoveryResult) :
    SameUpToLocalText result (withDegradedNamed name events result) where
  sources := by
    apply List.forall₂_map_right_iff.mpr
    apply List.forall₂_same.mpr
    intro source _
    unfold SameSource renameDegraded
    split
    · rfl
    · rfl
  devices := List.forall₂_same.mpr fun device _ => ⟨rfl, rfl⟩
  others := rfl

theorem withDegradedNamed_arises {name : String} (hname : IsSourceName name) {events : List Nat}
    {result : DiscoveryResult} (h : ArisesFrom events result) :
    ArisesFrom events (withDegradedNamed name events result) where
  placed := by
    intro index hindex
    exact (h.placed index hindex).trans_eq (List.length_map _).symm
  bounded := h.bounded
  errors := rfl
  names := by
    intro source hsource
    obtain ⟨old, hold, rfl⟩ := List.mem_map.mp hsource
    unfold renameDegraded
    split
    · exact h.names old hold
    · exact hname
  addresses := h.addresses

/-- The error of a degraded source appears under its new name. -/
private theorem reported_mem_withDegradedNamed (name : String) {events : List Nat}
    {result : DiscoveryResult} {index : Nat} {source : DiscoverySource} (hindex : index ∈ events)
    (hsource : result.sources[index]? = some source) (hdegraded : source.state ≠ .supported) :
    reportedError name source.state ∈ (withDegradedNamed name events result).errors := by
  apply mem_eventErrors.mpr
  refine ⟨index, hindex, renameDegraded name source, ?_, ?_⟩
  · rw [List.getElem?_map, hsource, Option.map_some]
  · unfold renameDegraded sourceError
    rw [if_neg hdegraded, if_neg hdegraded]

private theorem codes_of_telling_name {events : List Nat} {result : DiscoveryResult} :
    ∀ error ∈ (withDegradedNamed "malformed record skipped" events result).errors,
      publicErrorCode error = "malformed_record_skipped" := by
  intro error herror
  obtain ⟨index, -, source, hsource, rfl⟩ := mem_eventErrors.mp herror
  obtain ⟨old, -, rfl⟩ := List.mem_map.mp (List.mem_of_getElem? hsource)
  unfold sourceError renameDegraded
  by_cases hstate : old.state = .supported
  · rw [if_pos hstate, if_pos hstate]
    exact publicErrorCode_skipped _
  · rw [if_neg hstate, if_neg hstate]
    exact reported_code_of_telling_name _

private theorem isSourceName_plain : IsSourceName "a" := ⟨.str "a", by decide +kernel⟩

private theorem isSourceName_telling : IsSourceName "malformed record skipped" :=
  ⟨.str "malformed record skipped", by decide +kernel⟩

private theorem map_eq_of_forall₂ {α β : Type} {R : α → α → Prop} {f : α → β}
    (hf : ∀ a b, R a b → f b = f a) {entries others : List α} (h : List.Forall₂ R entries others) :
    others.map f = entries.map f := by
  induction h with
  | nil => rfl
  | cons hfirst _ ih => rw [List.map_cons, List.map_cons, hf _ _ hfirst, ih]

private theorem publicDevices_same {keyedHash : String → String} {ready : Bool} {index : Nat}
    {devices others : List NormalizedDevice} (h : List.Forall₂ SameDevice devices others) :
    publicDevices keyedHash ready index others = publicDevices keyedHash ready index devices := by
  induction h generalizing index with
  | nil => rfl
  | @cons device other _ _ hfirst _ ih =>
      have haddresses : mapEach maskedAddress other.addresses =
          mapEach maskedAddress device.addresses := by
        apply mapEach_congr
        have hfamilies := List.forall₂_eq_eq_eq.symm ▸ hfirst.families
        refine List.Forall₂.imp ?_
          (List.forall₂_map_right_iff.mp (List.forall₂_map_left_iff.mp hfamilies)).flip
        intro address another heq
        unfold maskedAddress
        rw [heq]
      have hdevice : publicDevice keyedHash ready index other =
          publicDevice keyedHash ready index device := by
        unfold publicDevice
        rw [haddresses, hfirst.others]
      unfold publicDevices
      rw [hdevice, ih]

private theorem publicSource_same {sources others : List DiscoverySource}
    (h : List.Forall₂ SameSource sources others) (start : Nat) :
    (others.mapIdx fun index source => publicSource (start + index) source) =
      sources.mapIdx fun index source => publicSource (start + index) source := by
  induction h generalizing start with
  | nil => rfl
  | @cons source other _ _ hfirst _ ih =>
      have hsource : publicSource start other = publicSource start source := by
        rw [hfirst]
        rfl
      have hrest := ih (start + 1)
      simp only [Nat.add_assoc, Nat.add_comm 1] at hrest
      rw [List.mapIdx_cons, List.mapIdx_cons, hrest]
      exact congrArg (· :: _) hsource

/-- Without a report, every code says that a record was skipped. -/
private theorem codes_of_no_report {events : List Nat} {result : DiscoveryResult}
    (h : ArisesFrom events result) (hclean : ∀ index ∈ events, ∀ source,
      result.sources[index]? = some source → source.state = .supported) :
    publicErrorCodes result.errors = List.replicate events.length "malformed_record_skipped" := by
  apply List.eq_replicate_iff.mpr
  refine ⟨h.codes_length, ?_⟩
  intro code hcode
  rw [h.codes] at hcode
  obtain ⟨error, herror, rfl⟩ := List.mem_map.mp hcode
  rw [h.errors] at herror
  obtain ⟨index, hindex, source, hsource, rfl⟩ := mem_eventErrors.mp herror
  unfold sourceError
  rw [if_pos (hclean index hindex source hsource)]
  exact publicErrorCode_skipped _

private theorem sameSource_state {sources others : List DiscoverySource}
    (h : List.Forall₂ SameSource sources others) :
    others.map (·.state) = sources.map (·.state) :=
  map_eq_of_forall₂ (fun _ _ hsame => by rw [hsame]) h

private theorem selectionReadiness_same {first second : DiscoveryResult}
    (hsame : SameUpToLocalText first second)
    (hlength : second.errors.length = first.errors.length) :
    selectionReadiness second = selectionReadiness first := by
  have hadapter : second.adapterState = first.adapterState := by rw [hsame.others]
  have herrors : second.errors = [] ↔ first.errors = [] := by
    rw [← List.length_eq_zero_iff, ← List.length_eq_zero_iff, hlength]
  have hstates : second.sources.any (·.state ≠ .supported) =
      first.sources.any (·.state ≠ .supported) := by
    have hmapped := congrArg (List.any · (· ≠ AdapterState.supported))
      (sameSource_state hsame.sources)
    simp only [List.any_map] at hmapped
    exact hmapped
  unfold selectionReadiness
  simp only [hadapter, hstates, ne_eq, herrors]

private theorem publicEvidence_of_codes {keyedHash : String → String}
    {first second : DiscoveryResult} (hsame : SameUpToLocalText first second)
    (hlength : second.errors.length = first.errors.length)
    (hcodes : publicErrorCodes second.errors = publicErrorCodes first.errors) :
    publicEvidence keyedHash second = publicEvidence keyedHash first := by
  have hready := selectionReadiness_same hsame hlength
  have hdevices := @publicDevices_same keyedHash (selectionReadiness first).1 1 _ _ hsame.devices
  have hsources := publicSource_same hsame.sources 1
  simp only [Nat.add_comm 1] at hsources
  have hsummary : publicErrorSummary second.errors = publicErrorSummary first.errors := by
    unfold publicErrorSummary
    rw [hcodes]
  have hadapter : second.adapterState = first.adapterState := by rw [hsame.others]
  unfold publicEvidence
  rw [hready, hdevices, hsources, hsummary, hadapter, hlength, hsame.devices.length_eq]

private theorem eventErrors_append {events more : List Nat} {sources : List DiscoverySource} :
    eventErrors (events ++ more) sources = eventErrors events sources ++ eventErrors more sources :=
  List.filterMap_append

private theorem eventErrors_sources_append {events : List Nat} {sources : List DiscoverySource}
    (h : ∀ index ∈ events, index < sources.length) (added : DiscoverySource) :
    eventErrors events (sources ++ [added]) = eventErrors events sources := by
  apply List.filterMap_congr
  intro index hindex
  rw [List.getElem?_append_left (h index hindex)]

/-- Errors of the newest source are noted as its events. -/
private theorem events_of_noted {errors noted : List String} {sources : List DiscoverySource}
    {source : DiscoverySource} (hnoted : ∀ error ∈ noted, error = sourceError source)
    {events : List Nat} (hplaced : ∀ index ∈ events, index < (sources ++ [source]).length)
    (hbounded : events.length ≤ maxErrorCount)
    (herrors : errors = eventErrors events (sources ++ [source])) :
    ∃ events, (∀ index ∈ events, index < (sources ++ [source]).length) ∧
      events.length ≤ maxErrorCount ∧
      noted.foldl noteError errors = eventErrors events (sources ++ [source]) := by
  induction noted generalizing errors events with
  | nil => exact ⟨events, hplaced, hbounded, herrors⟩
  | cons error rest ih =>
      obtain ⟨rfl, hrest⟩ := List.forall_mem_cons.mp hnoted
      have hlength : errors.length = events.length := by
        rw [herrors, eventErrors_length hplaced]
      rw [List.foldl_cons]
      by_cases hroom : errors.length < maxErrorCount
      · have hlast : eventErrors [sources.length] (sources ++ [source]) = [sourceError source] := by
          simp [eventErrors]
        apply @ih _ hrest (events ++ [sources.length])
        · intro index hindex
          rcases List.mem_append.mp hindex with hold | hnew
          · exact hplaced index hold
          · rw [List.mem_singleton.mp hnew, List.length_append]
            exact Nat.lt_succ_self _
        · rw [List.length_append, List.length_singleton]
          omega
        · rw [noteError, if_pos hroom, eventErrors_append, hlast, herrors]
      · apply ih hrest hplaced hbounded
        rw [noteError, if_neg hroom, herrors]

/-- What the reader leaves behind after some of the sources. -/
private def CollectedEvents (collected : Collected) : Prop :=
  (∀ source ∈ collected.sources, IsSourceName source.name) ∧
    ∃ events, (∀ index ∈ events, index < collected.sources.length) ∧
      events.length ≤ maxErrorCount ∧ collected.errors = eventErrors events collected.sources

private theorem addSource_events {rt : Runtime} {order : SetOrder String}
    {collected next : Collected} {value : Json String} (hcollected : CollectedEvents collected)
    (h : collected.addSource rt order value = .ok next) : CollectedEvents next := by
  obtain ⟨source, records, errors, hparsed, rfl⟩ := addSource_eq_ok h
  obtain ⟨hnames, events, hplaced, hbounded, herrors⟩ := hcollected
  obtain ⟨hname, hread⟩ := parseSource_cases hparsed
  have hnoted : ∀ error ∈ errors, error = sourceError source := by
    rcases hread with ⟨hdegraded, -, rfl⟩ | ⟨hsupported, -, items, -, -, hrecords⟩
    · intro error herror
      rw [List.mem_singleton.mp herror, sourceError, if_neg hdegraded]
    · intro error herror
      obtain ⟨-, -, -, hskipped, -⟩ := parseRecords_spec hrecords
      rcases hskipped error herror with hnone | hskip
      · cases hnone
      · rw [hskip, sourceError, if_pos hsupported]
  refine ⟨?_, events_of_noted hnoted ?_ hbounded ?_⟩
  · intro other hother
    rcases List.mem_append.mp hother with hold | hnew
    · exact hnames other hold
    · rw [List.mem_singleton.mp hnew]
      exact hname
  · intro index hindex
    have hold := hplaced index hindex
    rw [List.length_append]
    omega
  · rw [eventErrors_sources_append hplaced, herrors]

theorem addressFamily_isSome {address : String} :
    (addressFamily address).isSome = (addressKey address).isSome := by
  unfold addressFamily addressKey
  rw [Option.isSome_map, Option.isSome_map]

private theorem normalizeRecords_readable {rt : Runtime} {orders : SetOrders}
    {records : List RawDeviceRecord} {sourceErrors : List String} {result : DiscoveryResult}
    (h : normalizeRecords rt orders records sourceErrors = .ok result) :
    ∀ device ∈ result.devices, ∀ address ∈ device.addresses,
      (addressFamily address).isSome = true := by
  obtain ⟨-, devices, hdevices, -, rfl⟩ := normalizeRecords_eq_ok.mp h
  intro device hdevice address haddress
  obtain ⟨described, hdescribed, rfl⟩ := List.mem_map.mp (mem_sortBy.mp hdevice)
  obtain ⟨group, -, hgroup⟩ := mem_of_mapEach hdevices hdescribed
  obtain ⟨addresses, hsorted, -, rfl⟩ := describeGroup_eq_ok.mp hgroup
  have hmem : address ∈ addresses := by
    unfold disambiguate at haddress
    split at haddress
    · exact haddress
    · exact haddress
  rw [addressFamily_isSome]
  exact (sortedAddresses_eq_ok.mp hsorted).1 address ((sortedAddresses_mem hsorted).mp hmem)

/-- Every result of the reader arises from events. -/
theorem parseFixtureInventory_arises {rt : Runtime} {orders : SetOrders}
    {loads : String → Option (Json String)} {text : String} {result : DiscoveryResult}
    (h : parseFixtureInventory rt orders loads text = .ok result) :
    ∃ events, ArisesFrom events result := by
  obtain ⟨values, collected, normalized, -, hcollected, hnormalized, hsources, hdevices, herrors⟩ :=
    parseFixtureInventory_cases h
  have hevents : CollectedEvents collected :=
    foldlM_invariant (P := fun _ => CollectedEvents)
      (fun _ _ _ _ hcurrent hnext => addSource_events hcurrent hnext)
      ⟨by simp, [], by simp, by simp, rfl⟩ hcollected
  obtain ⟨hnames, events, hplaced, hbounded, hcollectedErrors⟩ := hevents
  have htaken : normalized.errors = collected.errors := by
    obtain ⟨-, devices, -, -, rfl⟩ := normalizeRecords_eq_ok.mp hnormalized
    apply List.take_of_length_le
    rw [hcollectedErrors, eventErrors_length hplaced]
    exact hbounded
  refine ⟨events, ?_, hbounded, ?_, ?_, ?_⟩
  · rw [hsources]
    exact hplaced
  · rw [herrors, htaken, hsources]
    exact hcollectedErrors
  · rw [hsources]
    exact hnames
  · rw [hdevices]
    exact normalizeRecords_readable hnormalized

/-- Public evidence is free of the local texts exactly when no error is the
report of a degraded source. -/
theorem public_evidence_fixed_iff (keyedHash : String → String) {events : List Nat}
    {first : DiscoveryResult} (hfirst : ArisesFrom events first) :
    (∀ second, ArisesFrom events second → SameUpToLocalText first second →
      publicEvidence keyedHash second = publicEvidence keyedHash first) ↔
    ∀ index ∈ events, ∀ source, first.sources[index]? = some source →
      source.state = .supported := by
  constructor
  · intro hfixed index hindex source hsource
    by_contra hdegraded
    have hplain := withDegradedNamed_arises isSourceName_plain hfirst
    have htelling := withDegradedNamed_arises isSourceName_telling hfirst
    have hsummary := (summary_of_publicEvidence hfirst.addresses hplain.addresses
      (hfixed _ hplain (withDegradedNamed_same _ _ _))).trans
      (summary_of_publicEvidence hfirst.addresses htelling.addresses
        (hfixed _ htelling (withDegradedNamed_same _ _ _))).symm
    -- Under the telling name every error counts as a skipped record, so under the plain one too.
    have hall : ∀ code ∈ publicErrorCodes
        (withDegradedNamed "malformed record skipped" events first).errors,
        "malformed_record_skipped" = code := by
      intro code hcode
      rw [htelling.codes] at hcode
      obtain ⟨error, herror, rfl⟩ := List.mem_map.mp hcode
      exact (codes_of_telling_name error herror).symm
    have hcount := count_of_publicErrorSummary hsummary "malformed_record_skipped"
    rw [List.count_eq_length.mpr hall, htelling.codes_length, ← hplain.codes_length,
      List.count_eq_length] at hcount
    have hreported : publicErrorCode (reportedError "a" source.state) ∈
        publicErrorCodes (withDegradedNamed "a" events first).errors := by
      rw [hplain.codes]
      exact List.mem_map_of_mem (reported_mem_withDegradedNamed "a" hindex hsource hdegraded)
    exact reported_code_of_plain_name hdegraded (hcount _ hreported).symm
  · intro hclean second hsecond hsame
    have hlength := hsecond.errors_length.trans hfirst.errors_length.symm
    apply publicEvidence_of_codes hsame hlength
    rw [codes_of_no_report hfirst hclean]
    apply codes_of_no_report hsecond
    intro index hindex source hsource
    have hstate := congrArg (·[index]?) (sameSource_state hsame.sources)
    simp only [List.getElem?_map, hsource, Option.map_some] at hstate
    obtain ⟨old, hold, hsamestate⟩ := Option.map_eq_some_iff.mp hstate.symm
    exact hsamestate.symm.trans (hclean index hindex old hold)

/-- One source, in some state, with one record that cannot be read. -/
def oneSourceDocument (name : String) (state : AdapterState) : Json String :=
  .obj [("schema", .str fixtureSchema), ("sources", .arr [.obj [("name", .str name),
    ("kind", .str "vendor"), ("state", .str state.text), ("records", .arr [.null])]])]

def oneSourceResult (name : String) (state : AdapterState) : DiscoveryResult where
  adapterState := .malformedOutput
  sources := [{ name, kind := "vendor", state }]
  devices := []
  errors := [sourceError { name, kind := "vendor", state }]

private theorem oneSourceResult_arises {name : String} (hname : IsSourceName name)
    (state : AdapterState) : ArisesFrom [0] (oneSourceResult name state) where
  placed := by simp [oneSourceResult]
  bounded := by decide
  errors := rfl
  names := by simpa [oneSourceResult] using hname
  addresses := by simp [oneSourceResult]

theorem public_evidence_fixed_iff_sample :
    (¬ ∀ second, ArisesFrom [0] second → SameUpToLocalText (oneSourceResult "a" .timeout) second →
      publicEvidence id second = publicEvidence id (oneSourceResult "a" .timeout)) ∧
    ∀ second, ArisesFrom [0] second → SameUpToLocalText (oneSourceResult "a" .supported) second →
      publicEvidence id second = publicEvidence id (oneSourceResult "a" .supported) := by
  constructor
  · rw [public_evidence_fixed_iff id (oneSourceResult_arises isSourceName_plain .timeout)]
    intro hall
    cases hall 0 (by simp) _ rfl
  · rw [public_evidence_fixed_iff id (oneSourceResult_arises isSourceName_plain .supported)]
    intro index hindex source hsource
    rw [List.mem_singleton.mp hindex] at hsource
    cases hsource
    rfl

/-- A source that reports a timeout counts as one, or as a skipped record,
depending on its name. -/
theorem source_name_decides_public_code :
    parseFixtureInventory (asciiRuntime id) occurrenceOrders
        (fun _ => some (oneSourceDocument "a" .timeout)) "" =
      .ok (oneSourceResult "a" .timeout) ∧
    parseFixtureInventory (asciiRuntime id) occurrenceOrders
        (fun _ => some (oneSourceDocument "malformed record skipped" .timeout)) "" =
      .ok (oneSourceResult "malformed record skipped" .timeout) ∧
    ArisesFrom [0] (oneSourceResult "a" .timeout) ∧
    ArisesFrom [0] (oneSourceResult "malformed record skipped" .timeout) ∧
    SameUpToLocalText (oneSourceResult "a" .timeout)
      (oneSourceResult "malformed record skipped" .timeout) ∧
    publicEvidence id (oneSourceResult "malformed record skipped" .timeout) ≠
      publicEvidence id (oneSourceResult "a" .timeout) := by
  refine ⟨by rfl, by rfl, oneSourceResult_arises isSourceName_plain _,
    oneSourceResult_arises isSourceName_telling _, ⟨?_, .nil, rfl⟩, ?_⟩
  · exact .cons rfl .nil
  · intro heq
    have hcount := count_of_publicErrorSummary (summary_of_publicEvidence
      (oneSourceResult_arises isSourceName_plain _).addresses
      (oneSourceResult_arises isSourceName_telling _).addresses heq) "malformed_record_skipped"
    revert hcount
    decide +kernel

end RouterKit.Devices
