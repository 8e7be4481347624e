import RouterKit.Routing.Overrides

/-!
Normal forms. A normal service name or domain suffix normalizes to itself, and a
selection in normal form is what its file is read back as.
-/

namespace RouterKit.Routing

open RouterKit.Lib RouterKit.Lib.Checked

/-- The characters of names and domains: lower-case ASCII without blanks. -/
structure IsPlain (c : Char) : Prop where
  ascii : c.toNat < 128
  notSpace : PyText.isSpace c = false
  lower : PyText.asciiLower c = c

theorem isPlain_of_lowerAlnum {c : Char} (h : isLowerAlnum c = true) : IsPlain c := by
  simp only [isLowerAlnum, PyText.isAsciiDigit, Bool.or_eq_true, Bool.and_eq_true,
    decide_eq_true_eq] at h
  refine ⟨by omega, ?_, ?_⟩
  · simp only [PyText.isSpace, Bool.or_eq_false_iff, Bool.and_eq_false_iff, decide_eq_false_iff_not]
    omega
  · have hupper : ¬ (0x41 ≤ c.toNat ∧ c.toNat ≤ 0x5a) := by omega
    simp only [PyText.asciiLower, Bool.and_eq_true, decide_eq_true_eq, if_neg hupper]

theorem isPlain_hyphen : IsPlain '-' := ⟨by decide, by decide, by decide⟩
theorem isPlain_underscore : IsPlain '_' := ⟨by decide, by decide, by decide⟩
theorem isPlain_dot : IsPlain '.' := ⟨by decide, by decide, by decide⟩

section Names

variable {tables : TextTables}

/-- Plain text is its own folded form. -/
theorem foldedText_of_plain {text : List Char} (h : ∀ c ∈ text, IsPlain c) :
    foldedText tables (String.ofList text) = text := by
  rw [foldedText, String.toList_ofList, PyText.strip_of_no_space (fun c hc => (h c hc).notSpace),
    PyText.casefold_of_ascii _ (fun c hc => (h c hc).ascii)]
  conv_rhs => rw [← List.map_id text]
  exact List.map_congr_left (fun c hc => (h c hc).lower)

theorem IsServiceName.plain {name : List Char} (h : IsServiceName name) :
    ∀ c ∈ name, IsPlain c := by
  cases name with
  | nil => cases h
  | cons first rest =>
      obtain ⟨hfirst, -, hrest⟩ := h
      intro c hc
      rcases List.mem_cons.mp hc with rfl | hc
      · exact isPlain_of_lowerAlnum hfirst
      · rcases hrest c hc with halnum | rfl | rfl
        · exact isPlain_of_lowerAlnum halnum
        · exact isPlain_underscore
        · exact isPlain_hyphen

theorem normalizeServiceName_eq_ok {value name : String} :
    normalizeServiceName tables value = .ok name ↔
      IsServiceName name.toList ∧ foldedText tables value = name.toList := by
  simp only [normalizeServiceName, bind_eq_ok, exists_unit, raiseIf_eq_ok, not_not, pure_eq_ok]
  constructor
  · rintro ⟨hname, rfl⟩
    rw [String.toList_ofList]
    exact ⟨hname, rfl⟩
  · rintro ⟨hname, hfolded⟩
    rw [hfolded]
    exact ⟨hname, String.ofList_toList⟩

theorem normalizeServiceName_idem {value name : String}
    (h : normalizeServiceName tables value = .ok name) :
    normalizeServiceName tables name = .ok name := by
  obtain ⟨hname, -⟩ := normalizeServiceName_eq_ok.mp h
  refine normalizeServiceName_eq_ok.mpr ⟨hname, ?_⟩
  have hfolded : foldedText tables (String.ofList name.toList) = name.toList :=
    foldedText_of_plain hname.plain
  rwa [String.ofList_toList] at hfolded

end Names

/-- A domain suffix in normal form: two or more labels, and no address. -/
structure IsDomain (tables : TextTables) (domain : String) : Prop where
  labels : ∀ label ∈ domainLabels domain.toList, IsLabel label
  atLeastTwo : 2 ≤ (domainLabels domain.toList).length
  notAddress : tables.isIpAddress domain = false

theorem IsLabel.ne_nil {label : List Char} (h : IsLabel label) : label ≠ [] := by
  rintro rfl
  exact absurd h.2.2.1 (by decide)

section Domains

variable {tables : TextTables} {domain : String} (hdomain : IsDomain tables domain)
include hdomain

theorem IsDomain.chars : ∀ c ∈ domain.toList, isLowerAlnum c = true ∨ c = '-' ∨ c = '.' := by
  intro c hc
  rcases PyText.mem_splitOn hc with hdot | ⟨label, hlabel, hmem⟩
  · exact .inr (.inr hdot)
  · rcases (hdomain.labels label hlabel).2.1 c hmem with halnum | hhyphen
    · exact .inl halnum
    · exact .inr (.inl hhyphen)

theorem IsDomain.plain : ∀ c ∈ domain.toList, IsPlain c := by
  intro c hc
  rcases hdomain.chars c hc with halnum | rfl | rfl
  · exact isPlain_of_lowerAlnum halnum
  · exact isPlain_hyphen
  · exact isPlain_dot

theorem IsDomain.ne_nil : domain.toList ≠ [] := by
  intro hnil
  have htwo := hdomain.atLeastTwo
  rw [hnil] at htwo
  exact absurd htwo (by decide)

/-- A domain does not end in a dot: its last label would be empty. -/
theorem IsDomain.getLast_ne_dot : domain.toList.getLast hdomain.ne_nil ≠ '.' := by
  intro hlast
  have hsplit : domainLabels domain.toList =
      domainLabels domain.toList.dropLast ++ [[]] := by
    conv_lhs => rw [← List.dropLast_append_getLast hdomain.ne_nil, hlast]
    exact List.splitOn_append_cons_self _ _
  have hempty : IsLabel [] := hdomain.labels [] (by simp [hsplit])
  exact hempty.ne_nil rfl

theorem IsDomain.rdropWhile : domain.toList.rdropWhile (· = '.') = domain.toList := by
  apply List.rdropWhile_eq_self_iff.mpr
  intro hne
  simpa using hdomain.getLast_ne_dot

theorem IsDomain.bare : bareDomain domain.toList = domain.toList := by
  have hchars := hdomain.chars
  have hinitial : "domain:".toList.isPrefixOf domain.toList = false := by
    cases hprefix : "domain:".toList.isPrefixOf domain.toList with
    | false => rfl
    | true =>
        have hcolon : ':' ∈ domain.toList :=
          (List.isPrefixOf_iff_prefix.mp hprefix).subset (by decide)
        exact absurd (hchars ':' hcolon) (by decide)
  rw [bareDomain, hinitial]
  exact hdomain.rdropWhile

/-- The name behind `domain:`. -/
theorem IsDomain.bare_prefixed : bareDomain ("domain:".toList ++ domain.toList) =
    domain.toList := by
  have hinitial : "domain:".toList.isPrefixOf ("domain:".toList ++ domain.toList) = true :=
    List.isPrefixOf_iff_prefix.mpr (List.prefix_append _ _)
  rw [bareDomain, hinitial, if_pos rfl]
  exact hdomain.rdropWhile

end Domains

section Normalizing

variable {tables : TextTables}

theorem normalizeDomainSuffix_isDomain {value domain : String}
    (h : normalizeDomainSuffix tables value = .ok domain) : IsDomain tables domain := by
  simp only [normalizeDomainSuffix, bind_eq_ok, exists_unit, raiseIf_eq_ok] at h
  obtain ⟨-, -, h⟩ := h
  split at h
  · cases h
  · simp only [bind_eq_ok, exists_unit, raiseIf_eq_ok, pure_eq_ok, not_or, not_not,
      Bool.not_eq_true] at h
    obtain ⟨haddress, ⟨htwo, hlabels⟩, rfl⟩ := h
    exact ⟨hlabels, by omega, haddress⟩

private theorem IsDomain.normalize_of_bare {domain value : String}
    (hdomain : IsDomain tables domain)
    (hbare : bareDomain (foldedText tables value) = domain.toList) :
    normalizeDomainSuffix tables value =
      if 253 < domain.toList.length then .error invalidDomain else .ok domain := by
  have hchars : ¬ ∃ c ∈ domain.toList, c ∈ ['/', '\\', '*', '?', '#', '@', ':'] := by
    rintro ⟨c, hc, hbad⟩
    have hall : ∀ c ∈ ['/', '\\', '*', '?', '#', '@', ':'],
        ¬ (isLowerAlnum c = true ∨ c = '-' ∨ c = '.') := by decide
    exact hall c hbad (hdomain.chars c hc)
  have hidna := tables.idna_plain domain hdomain.labels
  have htwo := hdomain.atLeastTwo
  simp only [normalizeDomainSuffix, hbare, String.ofList_toList, hidna]
  by_cases hlong : 253 < domain.toList.length
  · simp [raiseIf, hlong]
  · have hlabels : ¬ ((domainLabels domain.toList).length < 2 ∨
        ¬ ∀ label ∈ domainLabels domain.toList, IsLabel label) := by
      rw [not_or, not_not]
      exact ⟨by omega, hdomain.labels⟩
    simp only [raiseIf, if_neg hchars, hdomain.ne_nil, hlong, or_self, if_false,
      hdomain.notAddress, Bool.false_eq_true, if_neg hlabels, bind_ok_left]
    rfl

/-- A domain in normal form normalizes to itself as long as it is not too long. -/
theorem IsDomain.normalize {domain : String} (hdomain : IsDomain tables domain) :
    normalizeDomainSuffix tables domain =
      if 253 < domain.toList.length then .error invalidDomain else .ok domain := by
  apply hdomain.normalize_of_bare
  have hfolded : foldedText tables (String.ofList domain.toList) = domain.toList :=
    foldedText_of_plain hdomain.plain
  rw [String.ofList_toList] at hfolded
  rw [hfolded, hdomain.bare]

/-- The entry of a rule stands for the domain behind its prefix. -/
theorem IsDomain.normalize_prefixed {domain : String} (hdomain : IsDomain tables domain) :
    normalizeDomainSuffix tables ("domain:" ++ domain) = normalizeDomainSuffix tables domain := by
  rw [hdomain.normalize]
  apply hdomain.normalize_of_bare
  have hplain : ∀ c ∈ "domain:".toList ++ domain.toList, IsPlain c := by
    intro c hc
    rcases List.mem_append.mp hc with hinitial | hmem
    · have hall : ∀ c ∈ "domain:".toList,
          c.toNat < 128 ∧ PyText.isSpace c = false ∧ PyText.asciiLower c = c := by decide
      obtain ⟨hascii, hspace, hlower⟩ := hall c hinitial
      exact ⟨hascii, hspace, hlower⟩
    · exact hdomain.plain c hmem
  have hfolded : foldedText tables (String.ofList ("domain:".toList ++ domain.toList)) =
      "domain:".toList ++ domain.toList := foldedText_of_plain hplain
  rw [← String.toList_append, String.ofList_toList, String.toList_append] at hfolded
  rw [hfolded, hdomain.bare_prefixed]

theorem normalizeDomainSuffix_fixed {domain other : String} (hdomain : IsDomain tables domain)
    (h : normalizeDomainSuffix tables domain = .ok other) : other = domain := by
  rw [hdomain.normalize] at h
  split at h
  · cases h
  · exact (Except.ok.inj h).symm

end Normalizing

theorem mem_foldl_addDomain {domains result : List String} {domain : String} :
    domain ∈ domains.foldl addDomain result ↔ domain ∈ result ∨ domain ∈ domains := by
  induction domains generalizing result with
  | nil => simp
  | cons first rest ih =>
      rw [List.foldl_cons, ih, addDomain]
      split
      · next hmem =>
        constructor
        · rintro (hresult | hrest)
          · exact .inl hresult
          · exact .inr (List.mem_cons_of_mem _ hrest)
        · rintro (hresult | hdomain)
          · exact .inl hresult
          · rcases List.mem_cons.mp hdomain with rfl | hrest
            · exact .inl hmem
            · exact .inr hrest
      · simp [or_assoc]

/-- A list without repetitions expands to itself. -/
theorem foldl_addDomain_of_nodup {domains result : List String} (h : (result ++ domains).Nodup) :
    domains.foldl addDomain result = result ++ domains := by
  induction domains generalizing result with
  | nil => simp
  | cons first rest ih =>
      have hnew : first ∉ result := by
        intro hmem
        exact (List.nodup_append.mp h).2.2 first hmem first List.mem_cons_self rfl
      rw [List.foldl_cons, addDomain, if_neg hnew, ih (by simpa using h)]
      simp

section Packs

variable {tables : TextTables} {repo : Repository}

/-- A service pack lists domains in normal form, at least one and none twice. -/
theorem loadServicePack_pack {name : String} {pack : List String}
    (h : loadServicePack tables repo name = .ok pack) :
    pack ≠ [] ∧ pack.Nodup ∧ ∀ domain ∈ pack, IsDomain tables domain := by
  simp only [loadServicePack, bind_eq_ok] at h
  obtain ⟨normalizedName, -, h⟩ := h
  split at h
  · simp only [bind_eq_ok, exists_unit] at h
    obtain ⟨-, -, h⟩ := h
    split at h
    · next domains =>
      simp only [bind_eq_ok, exists_unit, raiseIf_eq_ok, pure_eq_ok, not_or, not_not] at h
      obtain ⟨⟨hne, -⟩, normalized, hnormalized, hnodup, rfl⟩ := h
      refine ⟨?_, hnodup, ?_⟩
      · intro hnil
        have hlength := (mapEach_eq_ok.mp hnormalized).length_eq
        rw [hnil, List.length_nil, List.length_eq_zero_iff] at hlength
        exact hne hlength
      · intro domain hdomain
        obtain ⟨value, -, hvalue⟩ := mem_of_mapEach hnormalized hdomain
        unfold normalizeDomainValue at hvalue
        split at hvalue
        · exact normalizeDomainSuffix_isDomain hvalue
        · cases hvalue
    · cases h
  · cases h

theorem loadServicePack_bound {name : String} {pack : List String}
    (h : loadServicePack tables repo name = .ok pack) : pack.length ≤ maxDomainCount := by
  simp only [loadServicePack, bind_eq_ok] at h
  obtain ⟨normalizedName, -, h⟩ := h
  split at h
  · simp only [bind_eq_ok, exists_unit] at h
    obtain ⟨-, -, h⟩ := h
    split at h
    · next domains =>
      simp only [bind_eq_ok, exists_unit, raiseIf_eq_ok, pure_eq_ok, not_or, not_lt] at h
      obtain ⟨⟨-, hbound⟩, normalized, hnormalized, -, rfl⟩ := h
      rw [← (mapEach_eq_ok.mp hnormalized).length_eq]
      exact hbound
    · cases h
  · cases h

theorem expandDirectDomains_eq_ok {overrides : RoutingOverrides} {domains : List String} :
    expandDirectDomains tables repo overrides = .ok domains ↔
      ∃ packs, mapEach (loadServicePack tables repo) overrides.directServices = .ok packs ∧
        domains = (packs.flatten ++ overrides.directDomains).foldl addDomain [] ∧
        domains.length ≤ maxDomainCount := by
  simp only [expandDirectDomains, bind_eq_ok, exists_unit, raiseIf_eq_ok, pure_eq_ok, not_lt]
  constructor
  · rintro ⟨packs, hpacks, hbound, rfl⟩
    exact ⟨packs, hpacks, rfl, hbound⟩
  · rintro ⟨packs, hpacks, rfl, hbound⟩
    exact ⟨packs, hpacks, hbound, rfl⟩

/-- Only an empty selection expands to nothing. -/
theorem expandDirectDomains_nil_iff {overrides : RoutingOverrides} {domains : List String}
    (h : expandDirectDomains tables repo overrides = .ok domains) :
    domains = [] ↔ overrides = {} := by
  obtain ⟨packs, hpacks, rfl, -⟩ := expandDirectDomains_eq_ok.mp h
  constructor
  · intro hnil
    have hnone : ∀ domain, domain ∉ packs.flatten ++ overrides.directDomains := by
      intro domain hmem
      have hexpanded := mem_foldl_addDomain.mpr (.inr hmem : domain ∈ [] ∨ _)
      rw [hnil] at hexpanded
      cases hexpanded
    have hdomains : overrides.directDomains = [] :=
      List.eq_nil_iff_forall_not_mem.mpr
        (fun domain hmem => hnone domain (List.mem_append_right _ hmem))
    have hpacksNil : packs = [] := by
      cases packs with
      | nil => rfl
      | cons pack rest =>
          obtain ⟨name, -, hname⟩ := mem_of_mapEach hpacks List.mem_cons_self
          obtain ⟨domain, hmem⟩ := List.exists_mem_of_ne_nil _ (loadServicePack_pack hname).1
          exact absurd (by simp [hmem]) (hnone domain)
    have hservices : overrides.directServices = [] := by
      have hlength := (mapEach_eq_ok.mp hpacks).length_eq
      rwa [hpacksNil, List.length_nil, List.length_eq_zero_iff] at hlength
    cases overrides
    simp_all
  · rintro rfl
    obtain rfl := Except.ok.inj hpacks
    rfl

/-- One service expands to its pack. -/
theorem expandDirectDomains_pack {service : String} {pack : List String}
    (h : loadServicePack tables repo service = .ok pack) :
    expandDirectDomains tables repo { directServices := [service] } = .ok pack := by
  obtain ⟨-, hnodup, -⟩ := loadServicePack_pack h
  refine expandDirectDomains_eq_ok.mpr ⟨[pack], ?_, ?_, loadServicePack_bound h⟩
  · simp only [mapEach, h, bind_ok_left]
    rfl
  · have hself := foldl_addDomain_of_nodup ((List.nil_append pack).symm ▸ hnodup)
    simp only [List.flatten_cons, List.flatten_nil, List.append_nil, hself, List.nil_append]

end Packs

end RouterKit.Routing
