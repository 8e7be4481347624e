import RouterKit.Network.AddressPolicy

/-!
What a validated address set is: every member is acceptable, and the result
lists the addresses once each in ascending order.
-/

namespace RouterKit.Network

open RouterKit.Lib RouterKit.Lib.Checked RouterKit.Lib.IpText

/-- The address passes the tables and, unless it is listed as an exception, the
classes of the standard library. -/
def Acceptable (classes : AddressClasses) (address : IpAddress) : Prop :=
  isExplicitlyDenied address = false ∧
    (isAllowedSpecialPurpose address = true ∨
      hasDisallowedIpaddressProperties classes address = false)

variable {classes : AddressClasses}

theorem scope_of_no_percent {text : List Char} {address : IpAddress} (hpercent : '%' ∉ text)
    (h : ipAddress text = some address) : address.scope = none := by
  unfold ipAddress at h
  split at h
  · cases h
  · split at h
    · obtain rfl := Option.some.inj h
      rfl
    · obtain ⟨⟨bare, scope⟩, hscope, h⟩ := Option.bind_eq_some_iff.mp h
      obtain ⟨value, -, h⟩ := Option.bind_eq_some_iff.mp h
      obtain rfl := Option.some.inj h
      obtain ⟨htext, -⟩ := splitScopeId_some hscope
      cases scope with
      | none => rfl
      | some zone => exact absurd (by rw [htext]; simp) hpercent

/-- Addresses without zone are told apart by version and number. -/
theorem addressKey_injective {a b : IpAddress} (ha : a.scope = none) (hb : b.scope = none)
    (h : addressKey a = addressKey b) : a = b := by
  have hpair : a.version = b.version ∧ a.value = b.value := by
    simpa [addressKey] using h
  cases a with
  | v4 value =>
      cases b with
      | v4 other => exact congrArg IpAddress.v4 hpair.2
      | v6 other zone => cases hpair.1
  | v6 value scope =>
      cases b with
      | v4 other => cases hpair.1
      | v6 other zone =>
          obtain rfl : scope = none := ha
          obtain rfl : zone = none := hb
          exact congrArg (IpAddress.v6 · none) hpair.2

/-- Entering an address under its key. -/
def remember (accepted : AcceptedAddresses) (address : IpAddress) : AcceptedAddresses :=
  Keyed.touch Prod.fst (addressKey address, address.text)
    (fun entry => (entry.1, address.text)) accepted

/-- A round accepts what reads as an acceptable address and remembers it. -/
theorem acceptAddress_eq_ok {accepted after : AcceptedAddresses} {value : List Char} :
    acceptAddress classes accepted value = .ok after ↔
      ∃ address, ipAddress value = some address ∧ Acceptable classes address ∧
        after = remember accepted address := by
  unfold acceptAddress normalizeAddress
  cases hread : ipAddress value with
  | none => simp
  | some address =>
      have hagain := ipAddress_text (ipAddress_valid hread)
      simp only [bind_ok_left, hagain]
      constructor
      · intro h
        split at h
        · cases h
        · next hpass =>
          refine ⟨address, rfl, ?_, (Except.ok.inj h).symm⟩
          simp only [Bool.or_eq_true, Bool.and_eq_true, Bool.not_eq_true', not_or, not_and,
            Bool.not_eq_true] at hpass
          refine ⟨hpass.1, ?_⟩
          cases hallowed : isAllowedSpecialPurpose address with
          | true => exact .inl rfl
          | false => exact .inr (hpass.2 hallowed)
      · rintro ⟨other, hother, ⟨hdenied, hclasses⟩, rfl⟩
        obtain rfl := Option.some.inj hother
        rw [if_neg]
        · rfl
        · rcases hclasses with hallowed | hproperties
          · simp [hdenied, hallowed]
          · simp [hdenied, hproperties]

/-- The texts are accepted together when each is acceptable. -/
theorem acceptAddresses_eq_ok {accepted : AcceptedAddresses} {values : List (List Char)} :
    (∃ after, acceptAddresses classes accepted values = .ok after) ↔
      ∀ value ∈ values, ∃ address, ipAddress value = some address ∧
        Acceptable classes address := by
  induction values generalizing accepted with
  | nil => simp [acceptAddresses]
  | cons value rest ih =>
      simp only [acceptAddresses, bind_eq_ok, List.forall_mem_cons, acceptAddress_eq_ok]
      constructor
      · rintro ⟨after, middle, ⟨address, hread, hacceptable, -⟩, hrest⟩
        exact ⟨⟨address, hread, hacceptable⟩, ih.mp ⟨after, hrest⟩⟩
      · rintro ⟨⟨address, hread, hacceptable⟩, hrest⟩
        obtain ⟨after, hafter⟩ := (@ih (remember accepted address)).mpr hrest
        exact ⟨after, _, ⟨address, hread, hacceptable, rfl⟩, hafter⟩

/-- The dictionary holds the seen addresses and nothing else, each once. -/
structure Holds (accepted : AcceptedAddresses) (seen : List IpAddress) : Prop where
  nodup : (accepted.map Prod.fst).Nodup
  entries : ∀ entry, entry ∈ accepted ↔ ∃ a ∈ seen, entry = (addressKey a, a.text)
  bare : ∀ a ∈ seen, a.scope = none

theorem Holds.remember {accepted : AcceptedAddresses} {seen : List IpAddress} {address : IpAddress}
    (h : Holds accepted seen) (hbare : address.scope = none) :
    Holds (remember accepted address) (address :: seen) := by
  obtain ⟨hnodup, hentries, hseen⟩ := h
  have hkeys : ((Network.remember accepted address).map Prod.fst).Nodup := by
    apply Keyed.touch_nodup Prod.fst _ _ hnodup
    intro entry
    rfl
  refine ⟨hkeys, ?_, ?_⟩
  · intro entry
    unfold Network.remember Keyed.touch
    split
    · next hknown =>
      -- the key is there already: its entry is that of the same address
      have hsame : accepted.map (fun entry =>
          if entry.1 = addressKey address then (entry.1, address.text) else entry) = accepted := by
        conv_rhs => rw [← List.map_id accepted]
        apply List.map_congr_left
        intro known hmem
        split
        · next hkey =>
          obtain ⟨a, ha, rfl⟩ := (hentries known).mp hmem
          rw [addressKey_injective (hseen a ha) hbare hkey]
          rfl
        · rfl
      rw [hsame, hentries]
      obtain ⟨known, hmem, hkey⟩ := List.mem_map.mp hknown
      obtain ⟨a, ha, rfl⟩ := (hentries known).mp hmem
      obtain rfl := addressKey_injective (hseen a ha) hbare hkey
      constructor
      · rintro ⟨b, hb, rfl⟩
        exact ⟨b, List.mem_cons_of_mem _ hb, rfl⟩
      · rintro ⟨b, hb, rfl⟩
        rcases List.mem_cons.mp hb with rfl | hb
        · exact ⟨b, ha, rfl⟩
        · exact ⟨b, hb, rfl⟩
    · simp only [List.mem_append, hentries, List.mem_cons, List.not_mem_nil, or_false,
        or_and_right, exists_or, exists_eq_left]
      exact or_comm
  · intro a ha
    rcases List.mem_cons.mp ha with rfl | ha
    · exact hbare
    · exact hseen a ha

/-- After the loop the dictionary holds the addresses of the texts. -/
theorem Holds.acceptAddresses {accepted after : AcceptedAddresses} {seen : List IpAddress}
    {values : List (List Char)} (h : Holds accepted seen) (hzone : ∀ value ∈ values, '%' ∉ value)
    (hrun : acceptAddresses classes accepted values = .ok after) :
    ∃ all, Holds after all ∧
      ∀ a, a ∈ all ↔ a ∈ seen ∨ ∃ value ∈ values, ipAddress value = some a := by
  induction values generalizing accepted seen with
  | nil =>
      obtain rfl := Except.ok.inj hrun
      exact ⟨seen, h, by simp⟩
  | cons value rest ih =>
      simp only [Network.acceptAddresses, bind_eq_ok] at hrun
      obtain ⟨middle, hfirst, hrest⟩ := hrun
      obtain ⟨address, hread, -, rfl⟩ := acceptAddress_eq_ok.mp hfirst
      have hbare := scope_of_no_percent (hzone value List.mem_cons_self) hread
      obtain ⟨all, hall, hmem⟩ := ih (h.remember hbare)
        (fun v hv => hzone v (List.mem_cons_of_mem _ hv)) hrest
      refine ⟨all, hall, fun a => ?_⟩
      simp only [hmem, List.mem_cons, exists_eq_or_imp, hread, Option.some.injEq]
      constructor
      · rintro ((rfl | hseen) | hvalue)
        · exact .inr (.inl rfl)
        · exact .inl hseen
        · exact .inr (.inr hvalue)
      · rintro (hseen | rfl | hvalue)
        · exact .inl (.inr hseen)
        · exact .inl (.inl rfl)
        · exact .inr hvalue

/-- The dictionary in key order: the addresses, strictly ascending. -/
theorem Holds.sorted {accepted : AcceptedAddresses} {seen : List IpAddress}
    (h : Holds accepted seen) :
    ∃ addresses : List IpAddress, addresses.Pairwise (fun a b => addressKey a < addressKey b) ∧
      (∀ a, a ∈ addresses ↔ a ∈ seen) ∧
      (Keyed.sortByKey Prod.fst accepted).map Prod.snd = addresses.map IpAddress.text := by
  obtain ⟨hnodup, hentries, hbare⟩ := h
  have hperm := Keyed.sortByKey_perm Prod.fst accepted
  have hfrom : ∀ entry, entry ∈ Keyed.sortByKey Prod.fst accepted →
      ∃ a, a ∈ seen ∧ entry = (addressKey a, a.text) := fun entry hmem =>
    (hentries entry).mp (hperm.mem_iff.mp hmem)
  have : Nonempty IpAddress := ⟨.v4 0⟩
  choose! address haddress using hfrom
  refine ⟨(Keyed.sortByKey Prod.fst accepted).map address, ?_, ?_, ?_⟩
  · have hkeys : ((Keyed.sortByKey Prod.fst accepted).map Prod.fst).Nodup :=
      (hperm.map Prod.fst).nodup_iff.mpr hnodup
    have hstrict := (Keyed.sortByKey_pairwise Prod.fst accepted).and (List.pairwise_map.mp hkeys)
    apply List.pairwise_map.mpr
    apply hstrict.imp_of_mem
    rintro first second hfirst hsecond ⟨hle, hne⟩
    have hlt := lt_of_le_of_ne hle hne
    rwa [congrArg Prod.fst (haddress first hfirst).2,
      congrArg Prod.fst (haddress second hsecond).2] at hlt
  · intro a
    constructor
    · intro hmem
      obtain ⟨entry, hentry, rfl⟩ := List.mem_map.mp hmem
      exact (haddress entry hentry).1
    · intro hseen
      have hentry : (addressKey a, a.text) ∈ Keyed.sortByKey Prod.fst accepted :=
        hperm.mem_iff.mpr ((hentries _).mpr ⟨a, hseen, rfl⟩)
      obtain ⟨hsource, heq⟩ := haddress _ hentry
      have hsame := addressKey_injective (hbare a hseen) (hbare _ hsource) (congrArg Prod.fst heq)
      exact List.mem_map.mpr ⟨_, hentry, hsame.symm⟩
  · rw [List.map_map]
    apply List.map_congr_left
    intro entry hmem
    exact congrArg Prod.snd (haddress entry hmem).2

/-- Ascending lists of the same addresses are equal. -/
theorem ascending_unique {addresses others : List IpAddress}
    (h : addresses.Pairwise (fun a b => addressKey a < addressKey b))
    (hothers : others.Pairwise (fun a b => addressKey a < addressKey b))
    (hmem : ∀ a, a ∈ addresses ↔ a ∈ others) : addresses = others := by
  have hne : ∀ {a b : IpAddress}, addressKey a < addressKey b → a ≠ b := by
    rintro a b hlt rfl
    exact absurd hlt (lt_irrefl _)
  have hnodup : addresses.Nodup := h.imp hne
  have hnodup' : others.Nodup := hothers.imp hne
  have hperm := (List.perm_ext_iff_of_nodup hnodup hnodup').mpr hmem
  apply hperm.eq_of_pairwise _ h hothers
  intro a b _ _ hab hba
  exact absurd (lt_trans hab hba) (lt_irrefl _)

/-- The addresses of acceptable texts can be listed in ascending order. -/
theorem exists_ascending {texts : List (List Char)} (hzone : ∀ text ∈ texts, '%' ∉ text)
    (h : ∀ text ∈ texts, ∃ address, ipAddress text = some address ∧ Acceptable classes address) :
    ∃ addresses : List IpAddress, addresses.Pairwise (fun a b => addressKey a < addressKey b) ∧
      ∀ a, a ∈ addresses ↔ ∃ text ∈ texts, ipAddress text = some a := by
  have hinitial : Holds [] [] := ⟨by simp, by simp, by simp⟩
  obtain ⟨accepted, hrun⟩ := (@acceptAddresses_eq_ok classes [] texts).mpr h
  obtain ⟨all, hall, hmem⟩ := hinitial.acceptAddresses hzone hrun
  obtain ⟨addresses, hsorted, hsame, -⟩ := hall.sorted
  refine ⟨addresses, hsorted, fun a => ?_⟩
  rw [hsame, hmem]
  simp

/-- The accepted sets of texts without zone identifiers, and their results. -/
theorem validateAddressSet_eq_ok {texts result : List (List Char)}
    (hlength : texts.length ≤ maxDnsAddresses) (hzone : ∀ text ∈ texts, '%' ∉ text) :
    validateAddressSet classes texts = .ok result ↔
      texts ≠ [] ∧
      (∀ text ∈ texts, ∃ address, ipAddress text = some address ∧ Acceptable classes address) ∧
      ∃ addresses : List IpAddress, addresses.Pairwise (fun a b => addressKey a < addressKey b) ∧
        (∀ a, a ∈ addresses ↔ ∃ text ∈ texts, ipAddress text = some a) ∧
        result = addresses.map IpAddress.text := by
  have hinitial : Holds [] [] := ⟨by simp, by simp, by simp⟩
  simp only [validateAddressSet, bind_eq_ok, raiseIf_eq_ok, exists_unit, not_or, not_lt]
  constructor
  · rintro ⟨⟨hne, -⟩, accepted, hrun, -, hresult⟩
    obtain ⟨all, hall, hmem⟩ := hinitial.acceptAddresses hzone hrun
    obtain ⟨addresses, hsorted, hsame, htexts⟩ := hall.sorted
    refine ⟨hne, acceptAddresses_eq_ok.mp ⟨accepted, hrun⟩, addresses, hsorted, fun a => ?_, ?_⟩
    · rw [hsame, hmem]
      simp
    · rw [← htexts]
      exact (Except.ok.inj hresult).symm
  · rintro ⟨hne, hacceptable, addresses, hsorted, hsame, rfl⟩
    obtain ⟨accepted, hrun⟩ := (@acceptAddresses_eq_ok classes [] texts).mpr hacceptable
    obtain ⟨all, hall, hmem⟩ := hinitial.acceptAddresses hzone hrun
    obtain ⟨others, hothers, hothersMem, htexts⟩ := hall.sorted
    have hequal : addresses = others := by
      apply ascending_unique hsorted hothers
      intro a
      rw [hsame, hothersMem, hmem]
      simp
    refine ⟨⟨hne, hlength⟩, accepted, hrun, ?_, ?_⟩
    · rintro rfl
      obtain ⟨text, htext⟩ := List.exists_mem_of_ne_nil texts hne
      obtain ⟨address, hread, -⟩ := hacceptable text htext
      have hentry := (hall.entries (addressKey address, address.text)).mpr
        ⟨address, (hmem address).mpr (.inr ⟨text, htext, hread⟩), rfl⟩
      cases hentry
    · rw [htexts, hequal]

/-- The address lies in the network of this text. -/
def inNetwork (address : IpAddress) (text : String) : Bool :=
  (ipNetworks [text]).any (·.contains address)

theorem containsAddress_ipNetworks (texts : List String) (address : IpAddress) :
    containsAddress (ipNetworks texts) address = texts.any (inNetwork address) := by
  have hversion : ∀ network : IpNetwork, (decide (network.version = address.version) &&
      network.contains address) = network.contains address := by
    intro network
    by_cases hsame : network.version = address.version <;> simp [IpNetwork.contains, hsame]
  induction texts with
  | nil => rfl
  | cons text rest ih =>
      simp only [containsAddress, hversion] at ih ⊢
      rw [List.any_cons, ← ih]
      simp only [inNetwork, ipNetworks, List.filterMap_cons, List.filterMap_nil]
      cases ipNetwork text <;> simp

/-- An acceptable IPv4 address is in no denied network, two addresses apart. -/
theorem acceptable_v4 {value : Nat} (h : Acceptable classes (.v4 value))
    (hdenied : containsAddress deniedIpv4Networks (.v4 value) = true) :
    value = 0xc0000009 ∨ value = 0xc000000a := by
  have hallowed : isAllowedSpecialPurpose (.v4 value) = true := by
    by_contra hnot
    have hnever := h.1
    simp [isExplicitlyDenied, IpAddress.version, hnot, hdenied] at hnever
  simpa [isAllowedSpecialPurpose, containsAddress, allowedSpecialPurposeNetworks_eq,
    IpNetwork.contains, IpAddress.version, IpAddress.value, width] using hallowed

/-- The exceptions inside `2001::/23`. -/
def exceptionNetworks : List String :=
  ["2001:1::1/128", "2001:1::2/128", "2001:1::3/128", "2001:3::/32", "2001:4:112::/48",
    "2001:30::/28"]

/-- The exceptions for IPv6 are public unicast addresses outside the two
documentation networks. -/
theorem allowed_v6 {value : Nat} {scope : Option (List Char)}
    (h : isAllowedSpecialPurpose (.v6 value scope) = true) :
    inNetwork (.v6 value scope) "2000::/3" = true ∧
      inNetwork (.v6 value scope) "2001:db8::/32" = false ∧
      inNetwork (.v6 value scope) "3fff::/20" = false ∧
      ∃ text ∈ exceptionNetworks, inNetwork (.v6 value scope) text = true := by
  have hexception : exceptionNetworks.any (inNetwork (.v6 value scope)) = true := by
    rw [isAllowedSpecialPurpose, allowedSpecialPurposeNetworks, containsAddress_ipNetworks] at h
    have hnine : inNetwork (.v6 value scope) "192.0.0.9/32" = false := by
      rw [inNetwork, show ipNetworks ["192.0.0.9/32"] = [⟨4, 0xc0000009, 32⟩] by decide +kernel]
      rfl
    have hten : inNetwork (.v6 value scope) "192.0.0.10/32" = false := by
      rw [inNetwork, show ipNetworks ["192.0.0.10/32"] = [⟨4, 0xc000000a, 32⟩] by decide +kernel]
      rfl
    simpa [hnine, hten, exceptionNetworks] using h
  have hpublic : ipNetworks ["2000::/3"] = [⟨6, 0x2000 <<< 112, 3⟩] := by decide +kernel
  have hdocumentation : ipNetworks ["2001:db8::/32"] = [⟨6, 0x20010db8 <<< 96, 32⟩] := by
    decide +kernel
  have hsecond : ipNetworks ["3fff::/20"] = [⟨6, 0x3fff <<< 112, 20⟩] := by decide +kernel
  have hnumbers := h
  simp only [isAllowedSpecialPurpose, containsAddress, allowedSpecialPurposeNetworks_eq,
    IpNetwork.contains, IpAddress.version, IpAddress.value, width] at hnumbers
  simp at hnumbers
  refine ⟨?_, ?_, ?_, by simpa using hexception⟩
  · simp [inNetwork, hpublic, IpNetwork.contains, IpAddress.version, IpAddress.value, width]
    omega
  · simp [inNetwork, hdocumentation, IpNetwork.contains, IpAddress.version, IpAddress.value, width]
    omega
  · simp [inNetwork, hsecond, IpNetwork.contains, IpAddress.version, IpAddress.value, width]
    omega

/-- An acceptable IPv6 address is public unicast, embeds no IPv4 address, and
lies in `2001::/23` only where an exception covers it. -/
theorem acceptable_v6 {value : Nat} {scope : Option (List Char)}
    (h : Acceptable classes (.v6 value scope)) :
    inNetwork (.v6 value scope) "2000::/3" = true ∧
      (∀ text ∈ ["::ffff:0:0/96", "64:ff9b::/96", "64:ff9b:1::/48", "2001::/32", "2001:10::/28",
        "2001:20::/28", "2002::/16", "2001:db8::/32", "3fff::/20"],
        inNetwork (.v6 value scope) text = false) ∧
      (inNetwork (.v6 value scope) "2001::/23" = true →
        ∃ text ∈ exceptionNetworks, inNetwork (.v6 value scope) text = true) := by
  obtain ⟨hdenied, -⟩ := h
  unfold isExplicitlyDenied at hdenied
  split at hdenied
  · cases hdenied
  · next hconservative =>
    have hembedded : ∀ text ∈ ["::ffff:0:0/96", "64:ff9b::/96", "64:ff9b:1::/48", "2001::/32",
        "2001:10::/28", "2001:20::/28", "2002::/16"], inNetwork (.v6 value scope) text = false := by
      rw [conservativelyDeniedIpv6Networks, containsAddress_ipNetworks] at hconservative
      simpa [IpAddress.version] using hconservative
    have hcombine : inNetwork (.v6 value scope) "2001:db8::/32" = false →
        inNetwork (.v6 value scope) "3fff::/20" = false →
        ∀ text ∈ ["::ffff:0:0/96", "64:ff9b::/96", "64:ff9b:1::/48", "2001::/32", "2001:10::/28",
          "2001:20::/28", "2002::/16", "2001:db8::/32", "3fff::/20"],
          inNetwork (.v6 value scope) text = false := by
      intro hdocumentation hsecond
      simpa [hdocumentation, hsecond] using hembedded
    split at hdenied
    · next hallowed =>
      obtain ⟨hpublic, hdocumentation, hsecond, hexception⟩ := allowed_v6 hallowed
      exact ⟨hpublic, hcombine hdocumentation hsecond, fun _ => hexception⟩
    · split at hdenied
      · next hversion => cases hversion
      · split at hdenied
        · cases hdenied
        · next hpublic =>
          rw [deniedIpv6Networks, containsAddress_ipNetworks] at hdenied
          simp only [List.any_cons, List.any_nil, Bool.or_false, Bool.or_eq_false_iff] at hdenied
          refine ⟨by simpa [inNetwork, ipv6PublicUnicastNetwork] using hpublic,
            hcombine hdenied.2.1 hdenied.2.2, ?_⟩
          intro hinside
          rw [hdenied.1] at hinside
          cases hinside

/-- For up to sixteen texts without zone identifiers the set is accepted exactly
when it is not empty and every member is acceptable. The result is ascending
and free of duplicates, the same for every order, and every member lies outside
the networks the tables deny, but for the listed exceptions: `192.0.0.9` and
`192.0.0.10`, and those inside `2001::/23`. -/
theorem address_set_is_acceptable (classes : AddressClasses) (texts : List (List Char))
    (hlength : texts.length ≤ maxDnsAddresses) (hzone : ∀ text ∈ texts, '%' ∉ text) :
    ((∃ result, validateAddressSet classes texts = .ok result) ↔ texts ≠ [] ∧
      ∀ text ∈ texts, ∃ address, ipAddress text = some address ∧ Acceptable classes address) ∧
    (∀ result, validateAddressSet classes texts = .ok result →
      ∃ addresses : List IpAddress,
        addresses.Pairwise (fun a b => addressKey a < addressKey b) ∧
        (∀ a, a ∈ addresses ↔ ∃ text ∈ texts, ipAddress text = some a) ∧
        result = addresses.map IpAddress.text) ∧
    (∀ others, others.Perm texts → ∀ result, validateAddressSet classes others = .ok result ↔
      validateAddressSet classes texts = .ok result) ∧
    (∀ value, Acceptable classes (.v4 value) →
      containsAddress deniedIpv4Networks (.v4 value) = true →
        value = 0xc0000009 ∨ value = 0xc000000a) ∧
    (∀ value scope, Acceptable classes (.v6 value scope) →
      inNetwork (.v6 value scope) "2000::/3" = true ∧
      (∀ text ∈ ["::ffff:0:0/96", "64:ff9b::/96", "64:ff9b:1::/48", "2001::/32", "2001:10::/28",
        "2001:20::/28", "2002::/16", "2001:db8::/32", "3fff::/20"],
        inNetwork (.v6 value scope) text = false) ∧
      (inNetwork (.v6 value scope) "2001::/23" = true →
        ∃ text ∈ exceptionNetworks, inNetwork (.v6 value scope) text = true)) := by
  have hresult := fun result => @validateAddressSet_eq_ok classes texts result hlength hzone
  refine ⟨?_, fun result h => ((hresult result).mp h).2.2, ?_, fun value h => acceptable_v4 h,
    fun value scope h => acceptable_v6 h⟩
  · constructor
    · rintro ⟨result, h⟩
      obtain ⟨hne, hacceptable, -⟩ := (hresult result).mp h
      exact ⟨hne, hacceptable⟩
    · rintro ⟨hne, hacceptable⟩
      obtain ⟨addresses, hsorted, hmem⟩ := exists_ascending hzone hacceptable
      exact ⟨_, (hresult _).mpr ⟨hne, hacceptable, addresses, hsorted, hmem, rfl⟩⟩
  · intro others hperm result
    rw [hresult, validateAddressSet_eq_ok (by rwa [hperm.length_eq])
      fun text htext => hzone text (hperm.mem_iff.mp htext)]
    have hnil : others ≠ [] ↔ texts ≠ [] := not_congr ⟨fun h => by simpa [h] using hperm,
      fun h => by simpa [h] using hperm⟩
    simp only [hnil, hperm.mem_iff]

/-- Every class is harmless: the tables decide alone. -/
private def lenientClasses : AddressClasses :=
  ⟨fun _ => true, fun _ => false, fun _ => false, fun _ => false, fun _ => false, fun _ => false,
    fun _ => false⟩

theorem address_set_is_acceptable_pair :
    (∃ result, validateAddressSet lenientClasses
      ["2606:4700::1111".toList, "1.1.1.1".toList] = .ok result) ∧
    ∀ result, validateAddressSet lenientClasses
        ["1.1.1.1".toList, "2606:4700::1111".toList] = .ok result ↔
      validateAddressSet lenientClasses
        ["2606:4700::1111".toList, "1.1.1.1".toList] = .ok result := by
  obtain ⟨haccepted, -, horder, -⟩ := address_set_is_acceptable lenientClasses
    ["2606:4700::1111".toList, "1.1.1.1".toList] (by decide) (by decide)
  refine ⟨haccepted.mpr ⟨by simp, ?_⟩, horder _ (List.Perm.swap _ _ _)⟩
  intro text htext
  rcases List.mem_pair.mp htext with rfl | rfl
  · exact ⟨.v6 (0x26064700 <<< 96 + 0x1111) none, by decide +kernel, by decide +kernel,
      .inr (by decide +kernel)⟩
  · exact ⟨.v4 0x01010101, by decide +kernel, by decide +kernel, .inr (by decide +kernel)⟩

end RouterKit.Network
