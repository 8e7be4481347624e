import RouterKit.Lib.PyText

/-!
The one MAC canonicalizer every planner shares. It accepts twelve hexadecimal
digits, bare or as six pairs joined by one separator, and rejects the all-zero
and broadcast addresses and every group address.
-/

namespace RouterKit.Devices

open RouterKit.Lib.PyText

inductive DeviceDiscoveryError where
  | invalidStableIdentifier
deriving DecidableEq, Repr

/-- The text of the only error `normalize_trusted_device_mac` raises. -/
def DeviceDiscoveryError.message : DeviceDiscoveryError → String
  | .invalidStableIdentifier => "Device inventory contains an invalid stable identifier."

/-- The twelve digits of an accepted spelling. The second spelling is the
regular expression with a back reference: all five separators are equal. -/
def compactMac : List Char → Option (List Char)
  | [a, b, s1, c, d, s2, e, f, s3, g, h, s4, i, j, s5, k, l] =>
      if s1 ∈ ['.', ':', '-'] ∧ [s2, s3, s4, s5].all (· = s1) ∧
          [a, b, c, d, e, f, g, h, i, j, k, l].all isHexDigit then
        some [a, b, c, d, e, f, g, h, i, j, k, l]
      else none
  | text => if text.length = 12 ∧ text.all isHexDigit then some text else none

/-- `bytes.fromhex` on an even number of digits. -/
def fromHex : List Char → List Nat
  | hi :: lo :: rest => (16 * hexValue hi + hexValue lo) :: fromHex rest
  | _ => []

/-- Lower-case digit pairs joined by colons. -/
def colonPairs : List Char → List Char
  | [hi, lo] => [asciiLower hi, asciiLower lo]
  | hi :: lo :: rest => asciiLower hi :: asciiLower lo :: ':' :: colonPairs rest
  | _ => []

/-- An address no device can be assigned by: all zero, broadcast, or with the
group bit of its first octet set. -/
def unsafeAddress (raw : List Nat) : Bool :=
  raw = List.replicate 6 0 || raw = List.replicate 6 255 || raw.headD 0 % 2 = 1

def normalizeTrustedDeviceMac (value : String) : Except DeviceDiscoveryError String :=
  if value.toList.any isControl then .error .invalidStableIdentifier
  else
    match compactMac (strip value.toList) with
    | none => .error .invalidStableIdentifier
    | some compact =>
        if unsafeAddress (fromHex compact) then .error .invalidStableIdentifier
        else .ok (String.ofList (colonPairs compact))

private theorem toNat_ofNat_ascii {n : Nat} (h : n < 128) : (Char.ofNat n).toNat = n := by
  have hall : ∀ n < 128, (Char.ofNat n).toNat = n := by decide
  exact hall n h

theorem isHexDigit_asciiLower {c : Char} (h : isHexDigit c = true) :
    isHexDigit (asciiLower c) = true ∧ hexValue (asciiLower c) = hexValue c ∧
      asciiLower (asciiLower c) = asciiLower c := by
  simp only [isHexDigit, isAsciiDigit, Bool.or_eq_true, Bool.and_eq_true,
    decide_eq_true_eq] at h
  by_cases hupper : 0x41 ≤ c.toNat ∧ c.toNat ≤ 0x5a
  · have hval : (Char.ofNat (c.toNat + 0x20)).toNat = c.toNat + 0x20 :=
      toNat_ofNat_ascii (by omega)
    simp only [asciiLower, isHexDigit, hexValue, isAsciiDigit, Bool.and_eq_true,
      decide_eq_true_eq, hupper, and_self, if_true, hval, Bool.or_eq_true]
    refine ⟨by omega, ?_, ?_⟩
    · rw [if_neg (by omega), if_neg (by omega), if_neg (by omega), if_pos (by omega)]
      omega
    · rw [if_neg (by omega)]
  · have hsame : asciiLower c = c := by
      simp only [asciiLower, Bool.and_eq_true, decide_eq_true_eq, if_neg hupper]
    rw [hsame]
    refine ⟨?_, rfl, hsame⟩
    simp only [isHexDigit, isAsciiDigit, Bool.or_eq_true, Bool.and_eq_true,
      decide_eq_true_eq]
    exact h

/-- Twelve hexadecimal digits, and nothing else, come out of an accepted
spelling. -/
theorem compactMac_digits {text digits : List Char} (h : compactMac text = some digits) :
    digits.length = 12 ∧ ∀ c ∈ digits, isHexDigit c = true := by
  unfold compactMac at h
  split at h
  · split at h
    · next hall =>
      obtain ⟨-, -, hdigits⟩ := hall
      have heq := Option.some.inj h
      subst heq
      exact ⟨rfl, by simpa using hdigits⟩
    · cases h
  · split at h
    · next hall =>
      have heq := Option.some.inj h
      subst heq
      exact ⟨hall.1, by simpa using hall.2⟩
    · cases h

theorem list12_decomp {α : Type} (xs : List α) (hlen : xs.length = 12) :
    ∃ a b c d e f g h i j k l : α, xs = [a, b, c, d, e, f, g, h, i, j, k, l] := by
  match xs, hlen with
  | [a, b, c, d, e, f, g, h, i, j, k, l], _ => exact ⟨a, b, c, d, e, f, g, h, i, j, k, l, rfl⟩

/-- A canonical spelling consists of hexadecimal digits and colons. -/
theorem colonPairs_chars {digits : List Char} (hhex : ∀ c ∈ digits, isHexDigit c = true) :
    ∀ x ∈ colonPairs digits, x = ':' ∨ isHexDigit x = true := by
  fun_induction colonPairs digits with
  | case1 hi lo =>
      intro x hx
      simp only [List.mem_cons, List.not_mem_nil, or_false] at hx
      rcases hx with rfl | rfl
      · exact .inr (isHexDigit_asciiLower (hhex hi (by simp))).1
      · exact .inr (isHexDigit_asciiLower (hhex lo (by simp))).1
  | case2 hi lo rest _ ih =>
      intro x hx
      simp only [List.mem_cons] at hx
      rcases hx with rfl | rfl | rfl | hx
      · exact .inr (isHexDigit_asciiLower (hhex hi (by simp))).1
      · exact .inr (isHexDigit_asciiLower (hhex lo (by simp))).1
      · exact .inl rfl
      · exact ih (fun c hc => hhex c (by simp [hc])) x hx
  | case3 => simp

/-- The canonical spelling is accepted as it stands. -/
theorem normalize_colonPairs {digits : List Char} (hlen : digits.length = 12)
    (hhex : ∀ c ∈ digits, isHexDigit c = true)
    (hsafe : unsafeAddress (fromHex digits) = false) :
    normalizeTrustedDeviceMac (String.ofList (colonPairs digits)) =
      .ok (String.ofList (colonPairs digits)) := by
  obtain ⟨a, b, c, d, e, f, g, h, i, j, k, l, rfl⟩ := list12_decomp digits hlen
  have hlower : ∀ x ∈ [a, b, c, d, e, f, g, h, i, j, k, l],
      isHexDigit (asciiLower x) = true ∧ hexValue (asciiLower x) = hexValue x ∧
        asciiLower (asciiLower x) = asciiLower x :=
    fun x hx => isHexDigit_asciiLower (hhex x hx)
  simp only [List.forall_mem_cons, List.not_mem_nil, false_implies, implies_true, and_true]
    at hlower
  have hchars := colonPairs_chars hhex
  have hcontrol : (colonPairs [a, b, c, d, e, f, g, h, i, j, k, l]).any isControl = false := by
    rw [List.any_eq_false]
    intro x hx
    rcases hchars x hx with rfl | hx
    · decide
    · simp [isControl_of_isHexDigit hx]
  have hspace : ∀ x ∈ colonPairs [a, b, c, d, e, f, g, h, i, j, k, l], isSpace x = false := by
    intro x hx
    rcases hchars x hx with rfl | hx
    · decide
    · exact isSpace_of_isHexDigit hx
  have hraw : unsafeAddress (fromHex (([a, b, c, d, e, f, g, h, i, j, k, l]).map asciiLower)) =
      false := by
    simpa [fromHex, hlower] using hsafe
  simp only [normalizeTrustedDeviceMac, String.toList_ofList, hcontrol, strip_of_no_space hspace]
  simp only [colonPairs, compactMac]
  simp [hlower] at hraw ⊢
  simp [hraw, colonPairs, hlower]

/-- An accepted spelling carries twelve digits of a safe address, which its
canonical spelling shows. -/
theorem normalizeTrustedDeviceMac_spelling {value mac : String}
    (h : normalizeTrustedDeviceMac value = .ok mac) :
    ∃ digits : List Char, digits.length = 12 ∧ (∀ c ∈ digits, isHexDigit c = true) ∧
      unsafeAddress (fromHex digits) = false ∧ mac = String.ofList (colonPairs digits) := by
  unfold normalizeTrustedDeviceMac at h
  split at h
  · cases h
  · split at h
    · cases h
    · next compact hcompact =>
      split at h
      · cases h
      · next hsafe =>
        obtain ⟨hlen, hhex⟩ := compactMac_digits hcompact
        exact ⟨compact, hlen, hhex, by simpa using hsafe, (Except.ok.inj h).symm⟩

/-- Canonicalizing is idempotent: the planners may normalize again what a
caller has normalized already. -/
theorem normalizeTrustedDeviceMac_idem {value mac : String}
    (h : normalizeTrustedDeviceMac value = .ok mac) :
    normalizeTrustedDeviceMac mac = .ok mac := by
  obtain ⟨digits, hlen, hhex, hsafe, rfl⟩ := normalizeTrustedDeviceMac_spelling h
  exact normalize_colonPairs hlen hhex hsafe

/-- A canonical spelling has no blank. -/
theorem normalizeTrustedDeviceMac_no_space {value mac : String}
    (h : normalizeTrustedDeviceMac value = .ok mac) : ' ' ∉ mac.toList := by
  obtain ⟨digits, -, hhex, -, rfl⟩ := normalizeTrustedDeviceMac_spelling h
  rw [String.toList_ofList]
  intro hspace
  rcases colonPairs_chars hhex ' ' hspace with h | h
  · exact absurd h (by decide)
  · exact absurd h (by decide)

example : normalizeTrustedDeviceMac " 02-AA-bb-0C-dd-EE " = .ok "02:aa:bb:0c:dd:ee" := by decide

end RouterKit.Devices
