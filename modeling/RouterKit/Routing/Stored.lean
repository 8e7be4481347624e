import RouterKit.Routing.Planning

/-!
Selections in normal form: the names and domains are normal, sorted and within
the bounds. A request keeps the form, a plan is made of selections in it, and
what is written of them is read back.
-/

namespace RouterKit.Routing

open RouterKit.Lib RouterKit.Lib.Checked

theorem sortedSet_sorted (texts : List String) : (sortedSet texts).Pairwise (· ≤ ·) :=
  List.pairwise_insertionSort (· ≤ ·) _

theorem sortedSet_nodup (texts : List String) : (sortedSet texts).Nodup :=
  (List.perm_insertionSort (· ≤ ·) texts.dedup).nodup_iff.mpr (List.nodup_dedup texts)

theorem sortedSet_eq_self {texts : List String} (hsorted : texts.Pairwise (· ≤ ·))
    (hnodup : texts.Nodup) : sortedSet texts = texts := by
  rw [sortedSet, hnodup.dedup, hsorted.insertionSort_eq]

@[simp] theorem sortedSet_sortedSet (texts : List String) :
    sortedSet (sortedSet texts) = sortedSet texts :=
  sortedSet_eq_self (sortedSet_sorted texts) (sortedSet_nodup texts)

/-- A selection as the commands keep it. -/
structure Normal (tables : TextTables) (overrides : RoutingOverrides) : Prop where
  services : sortedSet overrides.directServices = overrides.directServices
  domains : sortedSet overrides.directDomains = overrides.directDomains
  serviceBound : overrides.directServices.length ≤ maxServiceCount
  domainBound : overrides.directDomains.length ≤ maxDomainCount
  suffixes : ∀ domain ∈ overrides.directDomains, IsDomain tables domain

/-- The selected services are named in normal form. -/
def NamesServices (overrides : RoutingOverrides) : Prop :=
  ∀ name ∈ overrides.directServices, IsServiceName name.toList

section Normal

variable {tables : TextTables} {repo : Repository} {current desired : RoutingOverrides}

theorem normal_empty : Normal tables {} where
  services := rfl
  domains := rfl
  serviceBound := Nat.zero_le _
  domainBound := Nat.zero_le _
  suffixes := by
    intro domain hmem
    cases hmem

theorem normal_single (service : String) : Normal tables { directServices := [service] } where
  services := sortedSet_eq_self (List.pairwise_singleton _ _) (List.nodup_singleton _)
  domains := rfl
  serviceBound := by simp [maxServiceCount]
  domainBound := Nat.zero_le _
  suffixes := by
    intro domain hmem
    cases hmem

theorem normalizeDomainValue_isDomain {value : Json String} {domain : String}
    (h : normalizeDomainValue tables value = .ok domain) : IsDomain tables domain := by
  unfold normalizeDomainValue at h
  split at h
  · exact normalizeDomainSuffix_isDomain h
  · cases h

/-- What an accepted file holds, and what is read of it. -/
theorem validateOverridesValue_eq_ok {value : Json String} :
    validateOverridesValue tables value = .ok desired ↔
      ∃ fields services domains names suffixes, value = .obj fields ∧
        Json.hasKeys fields ["schema", "direct_services", "direct_domains"] ∧
        Json.get fields "schema" = .str overridesSchema ∧
        Json.get fields "direct_services" = .arr services ∧
        Json.get fields "direct_domains" = .arr domains ∧
        services.length ≤ maxServiceCount ∧ domains.length ≤ maxDomainCount ∧
        mapEach (normalizeServiceValue tables) services = .ok names ∧
        mapEach (normalizeDomainValue tables) domains = .ok suffixes ∧
        (sortedSet names).length = services.length ∧
        (sortedSet suffixes).length = domains.length ∧
        desired = { directServices := sortedSet names, directDomains := sortedSet suffixes } := by
  constructor
  · intro h
    unfold validateOverridesValue at h
    split at h
    · next fields =>
      simp only [bind_eq_ok, exists_unit, raiseIf_eq_ok, not_not] at h
      obtain ⟨hkeys, hschema, h⟩ := h
      split at h
      · next services domains hservices hdomains =>
        simp only [bind_eq_ok, exists_unit, raiseIf_eq_ok, pure_eq_ok, not_or, not_not,
          not_lt] at h
        obtain ⟨⟨hserviceBound, hdomainBound⟩, names, hnames, suffixes, hsuffixes,
          ⟨hnamesLength, hsuffixesLength⟩, rfl⟩ := h
        exact ⟨fields, services, domains, names, suffixes, rfl, hkeys, hschema, hservices, hdomains,
          hserviceBound, hdomainBound, hnames, hsuffixes, hnamesLength, hsuffixesLength, rfl⟩
      · cases h
    · cases h
  · rintro ⟨fields, services, domains, names, suffixes, rfl, hkeys, hschema, hservices, hdomains,
      hserviceBound, hdomainBound, hnames, hsuffixes, hnamesLength, hsuffixesLength, rfl⟩
    simp only [validateOverridesValue, hservices, hdomains, bind_eq_ok, exists_unit, raiseIf_eq_ok,
      pure_eq_ok, not_or, not_not, not_lt]
    exact ⟨hkeys, hschema, ⟨hserviceBound, hdomainBound⟩, names, hnames, suffixes, hsuffixes,
      ⟨hnamesLength, hsuffixesLength⟩, rfl⟩

/-- A file that is accepted holds a normal selection. -/
theorem validateOverridesValue_normal {value : Json String}
    (h : validateOverridesValue tables value = .ok desired) :
    Normal tables desired ∧ NamesServices desired := by
  obtain ⟨fields, services, domains, names, suffixes, -, -, -, -, -, hserviceBound, hdomainBound,
    hnames, hsuffixes, hnamesLength, hsuffixesLength, rfl⟩ := validateOverridesValue_eq_ok.mp h
  refine ⟨⟨sortedSet_sortedSet _, sortedSet_sortedSet _, ?_, ?_, ?_⟩, ?_⟩
  · rw [hnamesLength]
    exact hserviceBound
  · rw [hsuffixesLength]
    exact hdomainBound
  · intro domain hmem
    obtain ⟨value, -, hvalue⟩ := mem_of_mapEach hsuffixes (mem_sortedSet.mp hmem)
    exact normalizeDomainValue_isDomain hvalue
  · intro name hmem
    obtain ⟨value, -, hvalue⟩ := mem_of_mapEach hnames (mem_sortedSet.mp hmem)
    unfold normalizeServiceValue at hvalue
    split at hvalue
    · exact (normalizeServiceName_eq_ok.mp hvalue).1
    · cases hvalue

theorem loadOverrides_normal {Text : Type} {format : JsonFormat Text} {file : FileState Text}
    (h : loadOverrides format tables file = .ok (some desired)) :
    Normal tables desired ∧ NamesServices desired := by
  unfold loadOverrides at h
  split at h
  · cases h
  · cases h
  · split at h
    · next value _ =>
      cases hvalid : validateOverridesValue tables value with
      | error e => simp [hvalid, Except.map] at h
      | ok overrides =>
          simp only [hvalid, Except.map, Except.ok.injEq, Option.some.injEq] at h
          exact h ▸ validateOverridesValue_normal hvalid
    · cases h

/-- A request keeps the normal form. -/
theorem mutateOverrides_normal {request : Mutations} (hcurrent : Normal tables current)
    (h : mutateOverrides tables repo current request = .ok desired) :
    Normal tables desired ∧ (NamesServices current → NamesServices desired) := by
  simp only [mutateOverrides, bind_eq_ok, exists_unit, raiseIf_eq_ok, pure_eq_ok, not_or,
    not_lt] at h
  obtain ⟨addedServices, haddedServices, removedServices, -, addedDomains, haddedDomains,
    removedDomains, -, ⟨hserviceBound, hdomainBound⟩, rfl⟩ := h
  refine ⟨⟨sortedSet_sortedSet _, sortedSet_sortedSet _, hserviceBound, hdomainBound, ?_⟩, ?_⟩
  · intro domain hmem
    have hfrom := List.mem_of_mem_filter (mem_sortedSet.mp hmem)
    rcases List.mem_append.mp hfrom with hold | hnew
    · exact hcurrent.suffixes domain hold
    · obtain ⟨value, -, hvalue⟩ := mem_of_mapEach haddedDomains hnew
      exact normalizeDomainSuffix_isDomain hvalue
  · intro hnames name hmem
    have hfrom := List.mem_of_mem_filter (mem_sortedSet.mp hmem)
    rcases List.mem_append.mp hfrom with hold | hnew
    · exact hnames name hold
    · obtain ⟨value, -, hvalue⟩ := mem_of_mapEach haddedServices hnew
      simp only [addableService, bind_eq_ok, pure_eq_ok] at hvalue
      obtain ⟨_, hname, -, -, rfl⟩ := hvalue
      exact (normalizeServiceName_eq_ok.mp hname).1

/-- A request for nothing changes nothing. -/
theorem Normal.mutate_nothing (h : Normal tables current) :
    mutateOverrides tables repo current {} = .ok current := by
  simp only [mutateOverrides, mapEach, bind_ok_left, List.append_nil, List.not_mem_nil,
    not_false_eq_true, decide_true, List.filter_true, h.services, h.domains]
  have hbounds : ¬ (maxServiceCount < current.directServices.length ∨
      maxDomainCount < current.directDomains.length) := by
    rw [not_or, not_lt, not_lt]
    exact ⟨h.serviceBound, h.domainBound⟩
  rw [raiseIf, if_neg hbounds]
  rfl

/-- The domains of a normal selection are in normal form, those of its service
packs included. -/
theorem Normal.expanded {domains : List String} (h : Normal tables current)
    (hdomains : expandDirectDomains tables repo current = .ok domains) :
    ∀ domain ∈ domains, IsDomain tables domain := by
  obtain ⟨packs, hpacks, rfl, -⟩ := expandDirectDomains_eq_ok.mp hdomains
  intro domain hmem
  rcases mem_foldl_addDomain.mp hmem with hnil | hmem
  · cases hnil
  rcases List.mem_append.mp hmem with hpack | hcustom
  · obtain ⟨pack, hpackMem, hmemPack⟩ := List.mem_flatten.mp hpack
    obtain ⟨name, -, hname⟩ := mem_of_mapEach hpacks hpackMem
    exact (loadServicePack_pack hname).2.2 domain hmemPack
  · exact h.suffixes domain hcustom

theorem normalizeServiceName_self {name : String} (hname : IsServiceName name.toList) :
    normalizeServiceName tables name = .ok name := by
  refine normalizeServiceName_eq_ok.mpr ⟨hname, ?_⟩
  have hfolded : foldedText tables (String.ofList name.toList) = name.toList :=
    foldedText_of_plain hname.plain
  rwa [String.ofList_toList] at hfolded

/-- The entries of a normal selection are read back, if its domains are not too
long to be normalized again. -/
theorem entries_are_read {fields : List (String × Json String)} (h : Normal tables desired)
    (hnames : NamesServices desired)
    (hfixed : ∀ domain ∈ desired.directDomains,
      normalizeDomainSuffix tables domain = .ok domain)
    (hkeys : Json.hasKeys fields ["schema", "direct_services", "direct_domains"])
    (hschema : Json.get fields "schema" = .str overridesSchema)
    (hservices : Json.get fields "direct_services" = textsJson desired.directServices)
    (hdomains : Json.get fields "direct_domains" = textsJson desired.directDomains) :
    validateOverridesValue tables (.obj fields) = .ok desired := by
  have hreadServices : mapEach (normalizeServiceValue tables) (desired.directServices.map .str) =
      .ok desired.directServices :=
    mapEach_map (fun name hmem => normalizeServiceName_self (hnames name hmem))
  have hreadDomains : mapEach (normalizeDomainValue tables) (desired.directDomains.map .str) =
      .ok desired.directDomains :=
    mapEach_map hfixed
  refine validateOverridesValue_eq_ok.mpr ⟨fields, _, _, _, _, rfl, hkeys, hschema, hservices,
    hdomains, ?_, ?_, hreadServices, hreadDomains, ?_, ?_, ?_⟩
  · rw [List.length_map]
    exact h.serviceBound
  · rw [List.length_map]
    exact h.domainBound
  · rw [List.length_map, h.services]
  · rw [List.length_map, h.domains]
  · rw [h.services, h.domains]

/-- What is written of a normal selection is read back, if its domains are not
too long to be normalized again. -/
theorem stored_is_read (h : Normal tables desired) (hnames : NamesServices desired)
    (hfixed : ∀ domain ∈ desired.directDomains,
      normalizeDomainSuffix tables domain = .ok domain) :
    validateOverridesValue tables desired.toDict.canonical = .ok desired := by
  rw [Json.canonical_eq_sortKeys, RoutingOverrides.toDict, Json.sortKeys_obj]
  apply entries_are_read h hnames hfixed
  · have hperm := Json.sortedFields_keys [("schema", .str overridesSchema),
      ("direct_services", Json.arr (desired.directServices.map .str)),
      ("direct_domains", Json.arr (desired.directDomains.map .str))]
    exact ⟨fun key hmem => hperm.mem_iff.mp hmem, fun key hmem => hperm.mem_iff.mpr hmem⟩
  · rw [Json.get_sortedFields]
    simp
  · rw [Json.get_sortedFields]
    simp [textsJson, Function.comp_def]
  · rw [Json.get_sortedFields]
    simp [textsJson, Function.comp_def]

/-- The domains may stand in a rule. -/
def FitRule (tables : TextTables) (domains : List String) : Prop :=
  ∀ domain ∈ domains, normalizeDomainSuffix tables domain = .ok domain

theorem normalizeEach_fixed {domains normalized : List String}
    (hdomains : ∀ domain ∈ domains, IsDomain tables domain)
    (h : mapEach (normalizeDomainSuffix tables) domains = .ok normalized) :
    normalized = domains ∧ FitRule tables domains := by
  have hall := mapEach_eq_ok.mp h
  clear h
  induction hall with
  | nil => exact ⟨rfl, by intro domain hmem; cases hmem⟩
  | cons hfirst _ ih =>
      obtain ⟨hrest, hfixed⟩ := ih (fun domain hmem =>
          hdomains domain (List.mem_cons_of_mem _ hmem))
      have heq := normalizeDomainSuffix_fixed (hdomains _ List.mem_cons_self) hfirst
      refine ⟨by rw [heq, hrest], ?_⟩
      intro domain hmem
      rcases List.mem_cons.mp hmem with rfl | hmem
      · rw [hfirst, heq]
      · exact hfixed domain hmem

/-- Domains in normal form stand in their rule as they are. -/
theorem managedRules_of_isDomain {inboundTags domains : List String} {managed : List (Json String)}
    (hdomains : ∀ domain ∈ domains, IsDomain tables domain)
    (h : managedRules tables inboundTags domains = .ok managed) :
    managed = (if domains = [] then [] else [directRuleJson inboundTags domains]) ∧
      FitRule tables domains := by
  rcases managedRules_eq_ok.mp h with ⟨rfl, rfl⟩ | ⟨hne, -, -, normalized, hnormalized, rfl⟩
  · exact ⟨rfl, by intro domain hmem; cases hmem⟩
  · obtain ⟨rfl, hfixed⟩ := normalizeEach_fixed hdomains hnormalized
    exact ⟨by rw [if_neg hne], hfixed⟩

end Normal

section Plans

variable {Text : Type} {format : JsonFormat Text} {tables : TextTables} {repo : Repository}
  {installation : Installation Text} {request : Mutations} {planned : PlannedRouting}

theorem PlanReading.currentNormal
    (reading : PlanReading format tables repo installation request planned) :
    Normal tables planned.plan.current := by
  have hcurrent := reading.current
  cases hpersisted : reading.persisted with
  | some persisted =>
      rw [hpersisted] at hcurrent
      obtain ⟨rfl, -⟩ := Prod.mk.inj (Except.ok.inj hcurrent)
      exact (loadOverrides_normal (reading.state.trans (by rw [hpersisted]))).1
  | none =>
      rw [hpersisted] at hcurrent
      simp only [currentOverrides, bind_eq_ok] at hcurrent
      obtain ⟨inferred, hinferred, hcurrent⟩ := hcurrent
      cases inferred with
      | some known =>
          obtain ⟨rfl, -⟩ := Prod.mk.inj (Except.ok.inj hcurrent)
          simp only [inferKnownServiceState, bind_eq_ok] at hinferred
          obtain ⟨rules, -, hinferred⟩ := hinferred
          split at hinferred
          · cases hinferred
          · split at hinferred
            · cases hinferred
            · have hknown := Except.ok.inj hinferred
              obtain ⟨service, -, hservice⟩ := Option.map_eq_some_iff.mp hknown
              exact hservice ▸ normal_single service
      | none =>
          simp only [bind_eq_ok, exists_unit, pure_eq_ok, Prod.mk.injEq] at hcurrent
          obtain ⟨rules, -, -, hempty, -⟩ := hcurrent
          exact hempty ▸ normal_empty

theorem PlanReading.desiredNormal
    (reading : PlanReading format tables repo installation request planned) :
    Normal tables planned.plan.desired :=
  (mutateOverrides_normal reading.currentNormal reading.desired).1

/-- The rule of the wanted selection, and that its domains fit in one. -/
theorem PlanReading.managed_eq
    (reading : PlanReading format tables repo installation request planned) :
    reading.managed = (if planned.plan.directDomains = [] then []
      else [directRuleJson reading.inboundTags planned.plan.directDomains]) ∧
      FitRule tables planned.plan.directDomains :=
  managedRules_of_isDomain (reading.desiredNormal.expanded reading.desiredExpanded)
    reading.managedRule

theorem PlanReading.expected_eq
    (reading : PlanReading format tables repo installation request planned) :
    reading.expected = if reading.currentDomains = [] then []
      else [directRuleJson reading.inboundTags reading.currentDomains] :=
  (managedRules_of_isDomain (reading.currentNormal.expanded reading.currentExpanded)
    reading.expectedRule).1

/-- The selection an apply writes is read back. -/
theorem PlanReading.desired_loaded
    (reading : PlanReading format tables repo installation request planned)
    (hnames : NamesServices planned.plan.desired) :
    loadOverrides format tables (.text (format.dumps planned.plan.desired.toDict)) =
      .ok (some planned.plan.desired) := by
  have hread : validateOverridesValue tables planned.plan.desired.toDict.canonical =
      .ok planned.plan.desired := by
    apply stored_is_read reading.desiredNormal hnames
    intro domain hmem
    apply reading.managed_eq.2
    obtain ⟨packs, -, hdomains, -⟩ := expandDirectDomains_eq_ok.mp reading.desiredExpanded
    rw [hdomains]
    exact mem_foldl_addDomain.mpr (.inr (List.mem_append_right _ hmem))
  simp only [loadOverrides, format.loads_dumps, hread]
  rfl

end Plans

end RouterKit.Routing
