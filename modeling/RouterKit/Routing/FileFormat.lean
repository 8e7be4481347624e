import RouterKit.Routing.Stored

/-!
The overrides file as an encoding of selections. Reading normalizes what it
finds, so entries that are not in normal form are accepted and read as others;
and a name may be longer in its ASCII form than the reader lets a name be.
-/

namespace RouterKit.Routing

open RouterKit.Lib RouterKit.Lib.Checked

/-- The value is, as a dictionary, the one a selection is written as. -/
def Encodes (value : Json String) (overrides : RoutingOverrides) : Prop :=
  ∃ fields, value = .obj fields ∧
    Json.hasKeys fields ["schema", "direct_services", "direct_domains"] ∧
    Json.get fields "schema" = .str overridesSchema ∧
    Json.get fields "direct_services" = textsJson overrides.directServices ∧
    Json.get fields "direct_domains" = textsJson overrides.directDomains

/-- A domain in normal form that the reader does not find too long. -/
def ReadableDomain (tables : TextTables) (domain : String) : Prop :=
  IsDomain tables domain ∧ domain.toList.length ≤ 253

/-- The lists of the value are sorted lists of distinct texts in normal form. -/
def WrittenInForm (tables : TextTables) (value : Json String) : Prop :=
  ∃ fields services domains, value = .obj fields ∧
    Json.get fields "direct_services" = textsJson services ∧
    Json.get fields "direct_domains" = textsJson domains ∧
    services.Pairwise (· < ·) ∧ domains.Pairwise (· < ·) ∧
    (∀ name ∈ services, IsServiceName name.toList) ∧ ∀ domain ∈ domains, IsDomain tables domain

section Format

variable {tables : TextTables} {repo : Repository} {value : Json String}
  {overrides : RoutingOverrides}

theorem encodes_toDict (overrides : RoutingOverrides) : Encodes overrides.toDict overrides := by
  refine ⟨_, rfl, ⟨?_, ?_⟩, rfl, ?_, ?_⟩
  · intro key hmem
    exact hmem
  · intro key hmem
    exact hmem
  · simp [textsJson]
  · simp [textsJson]

/-- A normal domain is normalized to itself where it is short enough. -/
theorem normalizeDomainSuffix_self_iff {domain : String} (hdomain : IsDomain tables domain) :
    normalizeDomainSuffix tables domain = .ok domain ↔ domain.toList.length ≤ 253 := by
  rw [hdomain.normalize]
  split
  · next hlong =>
    simp only [reduceCtorEq, false_iff]
    omega
  · next hshort =>
    simp only [true_iff]
    omega

/-- The reader returns the selection a value encodes exactly when the selection
is in normal form and none of its domains is too long. -/
theorem encoded_is_read_iff (hencodes : Encodes value overrides)
    (hservices : sortedSet overrides.directServices = overrides.directServices)
    (hdomains : sortedSet overrides.directDomains = overrides.directDomains)
    (hserviceBound : overrides.directServices.length ≤ maxServiceCount)
    (hdomainBound : overrides.directDomains.length ≤ maxDomainCount) :
    validateOverridesValue tables value = .ok overrides ↔
      NamesServices overrides ∧ ∀ domain ∈ overrides.directDomains,
      ReadableDomain tables domain := by
  obtain ⟨fields, rfl, hkeys, hschema, hlistedServices, hlistedDomains⟩ := hencodes
  constructor
  · intro h
    obtain ⟨hnormal, hnames⟩ := validateOverridesValue_normal h
    refine ⟨hnames, fun domain hmem => ⟨hnormal.suffixes domain hmem, ?_⟩⟩
    obtain ⟨others, services, domains, names, suffixes, heq, -, -, -, hlisted, -, -, -, hsuffixes,
      -, -, -⟩ := validateOverridesValue_eq_ok.mp h
    obtain rfl := Json.obj.inj heq
    obtain rfl := Json.arr.inj (hlisted.symm.trans hlistedDomains)
    obtain ⟨normalized, -, hnormalized⟩ := exists_of_mapEach hsuffixes (List.mem_map_of_mem hmem)
    have hdomain := hnormal.suffixes domain hmem
    obtain rfl : normalized = domain := normalizeDomainSuffix_fixed hdomain hnormalized
    exact (normalizeDomainSuffix_self_iff hdomain).mp hnormalized
  · rintro ⟨hnames, hreadable⟩
    refine entries_are_read ⟨hservices, hdomains, hserviceBound, hdomainBound, ?_⟩ hnames ?_ hkeys
      hschema hlistedServices hlistedDomains
    · exact fun domain hmem => (hreadable domain hmem).1
    · intro domain hmem
      obtain ⟨hdomain, hshort⟩ := hreadable domain hmem
      exact (normalizeDomainSuffix_self_iff hdomain).mpr hshort

private theorem mutated_is_read_iff {current : RoutingOverrides} {request : Mutations}
    (h : mutateOverrides tables repo current request = .ok overrides) :
    validateOverridesValue tables overrides.toDict = .ok overrides ↔
      NamesServices overrides ∧ ∀ domain ∈ overrides.directDomains,
      ReadableDomain tables domain := by
  simp only [mutateOverrides, bind_eq_ok, exists_unit, raiseIf_eq_ok, pure_eq_ok, not_or,
    not_lt] at h
  obtain ⟨addedServices, -, removedServices, -, addedDomains, -, removedDomains, -,
    ⟨hserviceBound, hdomainBound⟩, rfl⟩ := h
  exact encoded_is_read_iff (encodes_toDict _) (sortedSet_sortedSet _) (sortedSet_sortedSet _)
    hserviceBound hdomainBound

private theorem pairwise_lt_of_sortedSet {texts : List String} (h : sortedSet texts = texts) :
    texts.Pairwise (· < ·) := by
  have hsorted := sortedSet_sorted texts
  have hnodup := sortedSet_nodup texts
  rw [h] at hsorted hnodup
  exact (hsorted.and hnodup).imp (fun ⟨hle, hne⟩ => lt_of_le_of_ne hle hne)

private theorem sortedSet_of_pairwise_lt {texts : List String} (h : texts.Pairwise (· < ·)) :
    sortedSet texts = texts :=
  sortedSet_eq_self (h.imp le_of_lt) (h.imp ne_of_lt)

private theorem read_is_encoded_iff (h : validateOverridesValue tables value = .ok overrides) :
    Encodes value overrides ↔ WrittenInForm tables value := by
  obtain ⟨hnormal, hnames⟩ := validateOverridesValue_normal h
  obtain ⟨fields, services, domains, names, suffixes, rfl, hkeys, hschema, hservices,
      hdomains, -, -,
    hreadServices, hreadDomains, -, -, rfl⟩ := validateOverridesValue_eq_ok.mp h
  constructor
  · rintro ⟨others, heq, -, -, hlistedServices, hlistedDomains⟩
    obtain rfl := Json.obj.inj heq
    exact ⟨fields, _, _, rfl, hlistedServices, hlistedDomains,
      pairwise_lt_of_sortedSet hnormal.services, pairwise_lt_of_sortedSet hnormal.domains, hnames,
      hnormal.suffixes⟩
  · rintro ⟨others, inServices, inDomains, heq, hinServices, hinDomains, hsortedServices,
      hsortedDomains, hinNames, hinSuffixes⟩
    obtain rfl := Json.obj.inj heq
    obtain rfl := Json.arr.inj (hservices.symm.trans hinServices)
    obtain rfl := Json.arr.inj (hdomains.symm.trans hinDomains)
    have hservicesRead : names = inServices := by
      have hself : mapEach (normalizeServiceValue tables) (inServices.map .str) = .ok inServices :=
        mapEach_map (fun name hmem => normalizeServiceName_self (hinNames name hmem))
      exact Except.ok.inj (hreadServices.symm.trans hself)
    have hdomainsRead : suffixes = inDomains := by
      have hself : mapEach (normalizeDomainValue tables) (inDomains.map .str) = .ok inDomains := by
        apply mapEach_map
        intro domain hmem
        obtain ⟨normalized, -, hnormalized⟩ :=
          exists_of_mapEach hreadDomains (List.mem_map_of_mem hmem)
        obtain rfl : normalized = domain :=
          normalizeDomainSuffix_fixed (hinSuffixes domain hmem) hnormalized
        exact hnormalized
      exact Except.ok.inj (hreadDomains.symm.trans hself)
    rw [hservicesRead, hdomainsRead, sortedSet_of_pairwise_lt hsortedServices,
      sortedSet_of_pairwise_lt hsortedDomains]
    exact ⟨fields, rfl, hkeys, hschema, hinServices, hinDomains⟩

/-- The file format is faithful as far as its names are in form: a selection is
read back exactly when its names are normal and its domains not too long, a value
is encoded again exactly when its lists are sorted lists of normal names, and
a normalized domain is normalized to itself exactly when it is not too long. -/
theorem overrides_file_faithful_iff (tables : TextTables) (repo : Repository) :
    (∀ current request overrides,
      mutateOverrides tables repo current request = .ok overrides →
      (validateOverridesValue tables overrides.toDict = .ok overrides ↔
        NamesServices overrides ∧
          ∀ domain ∈ overrides.directDomains, ReadableDomain tables domain)) ∧
    (∀ value overrides, validateOverridesValue tables value = .ok overrides →
      (Encodes value overrides ↔ WrittenInForm tables value)) ∧
    (∀ value domain, normalizeDomainSuffix tables value = .ok domain →
      (normalizeDomainSuffix tables domain = .ok domain ↔ domain.toList.length ≤ 253)) := by
  refine ⟨?_, ?_, ?_⟩
  · intro current request overrides h
    exact mutated_is_read_iff h
  · intro value overrides h
    exact read_is_encoded_iff h
  · intro value domain h
    exact normalizeDomainSuffix_self_iff (normalizeDomainSuffix_isDomain h)

end Format

/-- The file that selects one service and one domain. -/
def smallFile (service : String) : Json String :=
  .obj [("schema", .str overridesSchema), ("direct_services", textsJson [service]),
    ("direct_domains", textsJson ["example.org"])]

theorem overrides_file_faithful_small :
    (validateOverridesValue plainTables (RoutingOverrides.toDict {
        directServices := ["kinopoisk"], directDomains := ["example.org"] }) =
          .ok { directServices := ["kinopoisk"], directDomains := ["example.org"] } ↔
      NamesServices { directServices := ["kinopoisk"], directDomains := ["example.org"] } ∧
        ∀ domain ∈ ["example.org"], ReadableDomain plainTables domain) ∧
    (Encodes (smallFile "kinopoisk")
        { directServices := ["kinopoisk"], directDomains := ["example.org"] } ↔
      WrittenInForm plainTables (smallFile "kinopoisk")) ∧
    (normalizeDomainSuffix plainTables "example.org" = .ok "example.org" ↔
      "example.org".toList.length ≤ 253) :=
  ⟨(overrides_file_faithful_iff plainTables ⟨[]⟩).1
      { directServices := ["kinopoisk"] } { addDomains := ["example.org"] } _ (by decide +kernel),
    (overrides_file_faithful_iff plainTables ⟨[]⟩).2.1 (smallFile "kinopoisk") _
    (by decide +kernel),
    (overrides_file_faithful_iff plainTables ⟨[]⟩).2.2 "Domain:Example.ORG." _ (by decide +kernel)⟩

/-- Text tables with the ASCII form of one letter outside ASCII. -/
def accentTables : TextTables where
  foldNonAscii := fun c => [c]
  idna := fun domain =>
    if ∀ label ∈ domainLabels domain.toList, IsLabel label then some domain
    else some (String.ofList (['.'].intercalate ((domainLabels domain.toList).map
      (fun label => if label = ['é'] then "xn--9ca".toList else label))))
  isIpAddress := fun _ => false
  idna_plain := by
    intro domain hplain
    exact if_pos hplain

def accentName : List Char := ['.'].intercalate (List.replicate 40 ['é'])
def asciiName : List Char := ['.'].intercalate (List.replicate 40 "xn--9ca".toList)

theorem accentName_normalized : normalizeDomainSuffix accentTables (String.ofList accentName) =
    .ok (String.ofList asciiName) := by
  have hbare : bareDomain (foldedText accentTables (String.ofList accentName)) = accentName := by
    rw [foldedText, String.toList_ofList]
    decide +kernel
  have hidna : accentTables.idna (String.ofList accentName) = some (String.ofList asciiName) := by
    have hplain : ¬ ∀ label ∈ domainLabels accentName, IsLabel label := by decide +kernel
    have hname : ['.'].intercalate ((domainLabels accentName).map
        (fun label => if label = ['é'] then "xn--9ca".toList else label)) = asciiName := by
      decide +kernel
    simp only [accentTables, String.toList_ofList, if_neg hplain, hname]
  have hshort : ¬ (accentName = [] ∨ 253 < accentName.length) := by decide +kernel
  have hchars : ¬ ∃ c ∈ accentName, c ∈ ['/', '\\', '*', '?', '#', '@', ':'] := by decide +kernel
  have hlabels : ¬ ((domainLabels asciiName).length < 2 ∨
      ¬ ∀ label ∈ domainLabels asciiName, IsLabel label) := by decide +kernel
  simp only [normalizeDomainSuffix, hbare, hidna, String.toList_ofList, raiseIf, if_neg hshort,
    if_neg hchars, if_neg hlabels, bind_ok_left]
  rfl

/-- A name that is not in normal form is read as another; and forty one-letter
labels, accepted once, are too long in their ASCII form to be accepted again. -/
theorem read_names_differ :
    validateOverridesValue plainTables (smallFile " Kinopoisk ") =
        .ok { directServices := ["kinopoisk"], directDomains := ["example.org"] } ∧
      smallFile " Kinopoisk " ≠ RoutingOverrides.toDict
        { directServices := ["kinopoisk"], directDomains := ["example.org"] } ∧
      mutateOverrides accentTables ⟨[]⟩ {} { addDomains := [String.ofList accentName] } =
        .ok { directDomains := [String.ofList asciiName] } ∧
      validateOverridesValue accentTables
          (RoutingOverrides.toDict { directDomains := [String.ofList asciiName] }) ≠
        .ok { directDomains := [String.ofList asciiName] } := by
  have hsingle : ∀ text : String, sortedSet [text] = [text] := fun text =>
    sortedSet_eq_self (List.pairwise_singleton _ _) (List.nodup_singleton _)
  refine ⟨by decide +kernel, by decide +kernel, ?_, ?_⟩
  · have hadded : mapEach (normalizeDomainSuffix accentTables) [String.ofList accentName] =
        .ok [String.ofList asciiName] := by
      simp only [mapEach, accentName_normalized, bind_ok_left]
      rfl
    have hempty : sortedSet [] = [] := rfl
    have hnone : ∀ normalize : String → Except RoutingError String,
        mapEach normalize [] = .ok [] := fun _ => rfl
    simp only [mutateOverrides, hadded, hnone, bind_ok_left, List.nil_append, List.not_mem_nil,
      not_false_eq_true, decide_true, List.filter_true, hsingle, hempty]
    rfl
  · intro hread
    obtain ⟨-, hreadable⟩ := (encoded_is_read_iff (encodes_toDict _) rfl (hsingle _)
      (Nat.zero_le _) (by simp [maxDomainCount])).mp hread
    have hshort := (hreadable _ List.mem_cons_self).2
    rw [String.toList_ofList] at hshort
    exact absurd hshort (by decide +kernel)

end RouterKit.Routing
