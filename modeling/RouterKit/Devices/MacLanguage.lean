import Mathlib.Data.List.Basic
import Mathlib.Tactic.Ring
import RouterKit.Devices.TrustedMac

/-!
The MAC addresses as 48-bit numbers: which texts denote which number, which
numbers are accepted, and the one text that stands for an accepted number.
-/

namespace RouterKit.Devices

open RouterKit.Lib.PyText

/-- The number hexadecimal digits spell. -/
def hexNumber (digits : List Char) : Nat :=
  digits.foldl (fun number c => 16 * number + hexValue c) 0

def digitPairs : List Char → List (List Char)
  | hi :: lo :: rest => [hi, lo] :: digitPairs rest
  | _ => []

/-- Twelve digits, bare or as six pairs joined by one separator. -/
def Spells (text digits : List Char) : Prop :=
  digits.length = 12 ∧ (∀ c ∈ digits, isHexDigit c = true) ∧
    (text = digits ∨ ∃ separator ∈ ['.', ':', '-'],
    text = [separator].intercalate (digitPairs digits))

/-- The stripped text spells the number. -/
def Denotes (text : String) (number : Nat) : Prop :=
  text.toList.any isControl = false ∧
    ∃ digits, Spells (strip text.toList) digits ∧ hexNumber digits = number

def lowerHexDigit (value : Nat) : Char :=
  Char.ofNat (if value < 10 then 0x30 + value else 0x57 + value)

def octetText (octet : Nat) : List Char :=
  [lowerHexDigit (octet / 16), lowerHexDigit (octet % 16)]

/-- The octets of a 48-bit number, the highest first. -/
def octets (number : Nat) : List Nat :=
  [number / 2 ^ 40 % 256, number / 2 ^ 32 % 256, number / 2 ^ 24 % 256, number / 2 ^ 16 % 256,
    number / 2 ^ 8 % 256, number % 256]

/-- The lower-case colon form of a number. -/
def macText (number : Nat) : String :=
  String.ofList ([':'].intercalate ((octets number).map octetText))

/-- Neither zero nor a group address. -/
def IsUnicast (number : Nat) : Prop := number ≠ 0 ∧ number / 2 ^ 40 % 2 = 0

theorem asciiLower_eq_lowerHexDigit {c : Char} (h : isHexDigit c = true) :
    asciiLower c = lowerHexDigit (hexValue c) := by
  simp only [isHexDigit, isAsciiDigit, Bool.or_eq_true, Bool.and_eq_true, decide_eq_true_eq] at h
  simp only [asciiLower, lowerHexDigit, hexValue, isAsciiDigit, Bool.and_eq_true,
    decide_eq_true_eq]
  by_cases hdigit : 0x30 ≤ c.toNat ∧ c.toNat ≤ 0x39
  · rw [if_neg (by omega), if_pos hdigit, if_pos (by omega), Nat.add_sub_cancel' hdigit.1,
      Char.ofNat_toNat]
  · rw [if_neg hdigit]
    by_cases hupper : c.toNat ≤ 0x46
    · rw [if_pos (by omega), if_pos hupper, if_neg (by omega)]
      congr 1
      omega
    · rw [if_neg (by omega), if_neg hupper, if_neg (by omega),
        show 0x57 + (c.toNat - 0x57) = c.toNat by omega, Char.ofNat_toNat]

/-- The two spellings are what the two regular expressions accept. -/
theorem compactMac_eq_some {text digits : List Char} :
    compactMac text = some digits ↔ Spells text digits := by
  constructor
  · intro h
    obtain ⟨hlength, hhex⟩ := compactMac_digits h
    refine ⟨hlength, hhex, ?_⟩
    unfold compactMac at h
    split at h
    · next a b s1 c d s2 e f s3 g h' s4 i j s5 k l =>
      split at h
      · next hall =>
        obtain ⟨hseparator, hsame, -⟩ := hall
        obtain rfl := Option.some.inj h
        simp only [List.all_cons, List.all_nil, Bool.and_true, Bool.and_eq_true,
          decide_eq_true_eq] at hsame
        obtain ⟨rfl, rfl, rfl, rfl⟩ := hsame
        exact .inr ⟨_, hseparator, rfl⟩
      · cases h
    · split at h
      · exact .inl (Option.some.inj h)
      · cases h
  · rintro ⟨hlength, hhex, rfl | ⟨separator, hseparator, rfl⟩⟩
    · obtain ⟨a, b, c, d, e, f, g, h, i, j, k, l, rfl⟩ := list12_decomp text hlength
      have hall : [a, b, c, d, e, f, g, h, i, j, k, l].all isHexDigit = true := by
        rw [List.all_eq_true]
        exact hhex
      exact if_pos ⟨rfl, hall⟩
    · obtain ⟨a, b, c, d, e, f, g, h, i, j, k, l, rfl⟩ := list12_decomp digits hlength
      have hall : [a, b, c, d, e, f, g, h, i, j, k, l].all isHexDigit = true := by
        rw [List.all_eq_true]
        exact hhex
      exact if_pos ⟨hseparator, by simp, hall⟩

theorem hexNumber_div (digits : List Char) (hlength : digits.length = 12)
    (hhex : ∀ c ∈ digits, isHexDigit c = true) :
    hexNumber digits / 2 ^ 40 = (fromHex digits).headD 0 ∧
      (hexNumber digits = 0 ↔ fromHex digits = List.replicate 6 0) := by
  obtain ⟨a, b, c, d, e, f, g, h, i, j, k, l, rfl⟩ := list12_decomp digits hlength
  have hbounds := fun x hx => hexValue_lt (hhex x hx)
  simp only [List.forall_mem_cons, List.not_mem_nil, false_implies, implies_true, and_true]
    at hbounds
  simp only [hexNumber, fromHex, List.foldl_cons, List.foldl_nil, List.headD_cons,
    List.replicate, List.cons.injEq, and_true]
  omega

/-- An address is refused exactly when its number is no unicast number. -/
theorem unsafeAddress_eq_false_iff {digits : List Char} (hlength : digits.length = 12)
    (hhex : ∀ c ∈ digits, isHexDigit c = true) :
    unsafeAddress (fromHex digits) = false ↔ IsUnicast (hexNumber digits) := by
  obtain ⟨hhigh, hzero⟩ := hexNumber_div digits hlength hhex
  simp only [unsafeAddress, IsUnicast, Bool.or_eq_false_iff, decide_eq_false_iff_not, hhigh, ne_eq,
    hzero]
  constructor
  · rintro ⟨⟨hnonzero, -⟩, heven⟩
    exact ⟨hnonzero, by omega⟩
  · rintro ⟨hnonzero, heven⟩
    refine ⟨⟨hnonzero, ?_⟩, by omega⟩
    -- the first octet of the broadcast address is odd
    intro hbroadcast
    rw [hbroadcast] at heven
    exact absurd heven (by decide)

/-- The canonical spelling is that of the number. -/
theorem colonPairs_eq_macText {digits : List Char} (hlength : digits.length = 12)
    (hhex : ∀ c ∈ digits, isHexDigit c = true) :
    String.ofList (colonPairs digits) = macText (hexNumber digits) := by
  obtain ⟨a, b, c, d, e, f, g, h, i, j, k, l, rfl⟩ := list12_decomp digits hlength
  have hbounds := fun x hx => hexValue_lt (hhex x hx)
  have hlower := fun x hx => asciiLower_eq_lowerHexDigit (hhex x hx)
  simp only [List.forall_mem_cons, List.not_mem_nil, false_implies, implies_true, and_true]
    at hbounds hlower
  have hoctets : octets (hexNumber [a, b, c, d, e, f, g, h, i, j, k, l]) =
      fromHex [a, b, c, d, e, f, g, h, i, j, k, l] := by
    simp only [octets, hexNumber, fromHex, List.foldl_cons, List.foldl_nil, List.cons.injEq,
      and_true]
    omega
  have hpair : ∀ hi lo, hi < 16 → lo < 16 →
      octetText (16 * hi + lo) = [lowerHexDigit hi, lowerHexDigit lo] := by
    intro hi lo hhi hlo
    rw [octetText, show (16 * hi + lo) / 16 = hi by omega, show (16 * hi + lo) % 16 = lo by omega]
  rw [macText, hoctets]
  simp [fromHex, colonPairs, hpair, hbounds, hlower, List.intercalate]

theorem spells_unique {text digits more : List Char} (h : Spells text digits)
    (hmore : Spells text more) : digits = more :=
  Option.some.inj ((compactMac_eq_some.mpr h).symm.trans (compactMac_eq_some.mpr hmore))

/-- A text denotes at most one number. -/
theorem denotes_unique {text : String} {number more : Nat} (h : Denotes text number)
    (hmore : Denotes text more) : number = more := by
  obtain ⟨-, digits, hspells, rfl⟩ := h
  obtain ⟨-, others, hothers, rfl⟩ := hmore
  rw [spells_unique hspells hothers]

/-- The texts that are accepted, and what is made of them. -/
theorem normalizeTrustedDeviceMac_eq_ok {text mac : String} :
    normalizeTrustedDeviceMac text = .ok mac ↔
      ∃ number, Denotes text number ∧ IsUnicast number ∧ mac = macText number := by
  constructor
  · intro h
    unfold normalizeTrustedDeviceMac at h
    split at h
    · cases h
    · next hcontrol =>
      split at h
      · cases h
      · next digits hcompact =>
        split at h
        · cases h
        · next hsafe =>
          have hspells := compactMac_eq_some.mp hcompact
          refine ⟨hexNumber digits, ⟨by simpa using hcontrol, digits, hspells, rfl⟩, ?_, ?_⟩
          · exact (unsafeAddress_eq_false_iff hspells.1 hspells.2.1).mp (by simpa using hsafe)
          · rw [← colonPairs_eq_macText hspells.1 hspells.2.1]
            exact (Except.ok.inj h).symm
  · rintro ⟨number, ⟨hcontrol, digits, hspells, rfl⟩, hunicast, rfl⟩
    have hsafe := (unsafeAddress_eq_false_iff hspells.1 hspells.2.1).mpr hunicast
    rw [← colonPairs_eq_macText hspells.1 hspells.2.1]
    simp only [normalizeTrustedDeviceMac, hcontrol, Bool.false_eq_true, if_false,
      compactMac_eq_some.mpr hspells, hsafe]

theorem hexNumber_asciiLower {digits : List Char} (hhex : ∀ c ∈ digits, isHexDigit c = true) :
    hexNumber (digits.map asciiLower) = hexNumber digits := by
  have hvalue : ∀ c ∈ digits, hexValue (asciiLower c) = hexValue c :=
    fun c hc => (isHexDigit_asciiLower (hhex c hc)).2.1
  rw [hexNumber, List.foldl_map]
  exact List.foldl_ext _ _ _ fun number c hc => by rw [hvalue c hc]

/-- The canonical spelling spells the same digits in lower case. -/
theorem spells_colonPairs {digits : List Char} (hlength : digits.length = 12)
    (hhex : ∀ c ∈ digits, isHexDigit c = true) :
    Spells (colonPairs digits) (digits.map asciiLower) := by
  refine ⟨by rw [List.length_map, hlength], ?_, .inr ⟨':', by simp, ?_⟩⟩
  · intro c hc
    obtain ⟨x, hx, rfl⟩ := List.mem_map.mp hc
    exact (isHexDigit_asciiLower (hhex x hx)).1
  · obtain ⟨a, b, c, d, e, f, g, h, i, j, k, l, rfl⟩ := list12_decomp digits hlength
    rfl

/-- What comes out of an accepted text denotes the number of that text. -/
theorem denotes_of_normalized {text mac : String} {number : Nat}
    (h : normalizeTrustedDeviceMac text = .ok mac) (hdenotes : Denotes text number) :
    Denotes mac number := by
  obtain ⟨first, hfirst, -, hmac⟩ := normalizeTrustedDeviceMac_eq_ok.mp h
  obtain rfl := denotes_unique hdenotes hfirst
  obtain ⟨-, digits, ⟨hlength, hhex, -⟩, rfl⟩ := hfirst
  rw [← colonPairs_eq_macText hlength hhex] at hmac
  have hchars := colonPairs_chars hhex
  have hspace : ∀ x ∈ colonPairs digits, isSpace x = false := by
    intro x hx
    rcases hchars x hx with rfl | hx
    · decide
    · exact isSpace_of_isHexDigit hx
  rw [hmac]
  constructor
  · rw [String.toList_ofList, List.any_eq_false]
    intro x hx
    rcases hchars x hx with rfl | hx
    · decide
    · simp [isControl_of_isHexDigit hx]
  · refine ⟨digits.map asciiLower, ?_, hexNumber_asciiLower hhex⟩
    rw [String.toList_ofList, strip_of_no_space hspace]
    exact spells_colonPairs hlength hhex

/-- The accepted texts are those that denote a unicast number; the result is the
lower-case colon form, stays as it is when it is normalized again, and is shared
by exactly the texts of one number. -/
theorem normalized_mac_identifies_number :
    (∀ text mac, normalizeTrustedDeviceMac text = .ok mac ↔
      ∃ number, Denotes text number ∧ IsUnicast number ∧ mac = macText number) ∧
    (∀ text mac, normalizeTrustedDeviceMac text = .ok mac →
      normalizeTrustedDeviceMac mac = .ok mac) ∧
    ∀ text mac other otherMac number more, normalizeTrustedDeviceMac text = .ok mac →
      normalizeTrustedDeviceMac other = .ok otherMac → Denotes text number →
      Denotes other more → (mac = otherMac ↔ number = more) := by
  refine ⟨fun text mac => normalizeTrustedDeviceMac_eq_ok,
    fun text mac h => normalizeTrustedDeviceMac_idem h, ?_⟩
  intro text mac other otherMac number more h hother hnumber hmore
  constructor
  · intro hmac
    have hfirst := denotes_of_normalized h hnumber
    have hsecond := denotes_of_normalized hother hmore
    rw [hmac] at hfirst
    exact denotes_unique hfirst hsecond
  · intro hsame
    obtain ⟨value, hvalue, -, rfl⟩ := normalizeTrustedDeviceMac_eq_ok.mp h
    obtain ⟨otherValue, hotherValue, -, rfl⟩ := normalizeTrustedDeviceMac_eq_ok.mp hother
    rw [denotes_unique hvalue hnumber, denotes_unique hotherValue hmore, hsame]

/-- Two spellings of one address share their result, the next address has another. -/
theorem normalized_mac_identifies_number_sample :
    ∃ dashed bare next, normalizeTrustedDeviceMac " 02-AA-bb-0C-dd-EE " = .ok dashed ∧
      normalizeTrustedDeviceMac "02aabb0cddee" = .ok bare ∧
      normalizeTrustedDeviceMac "02aabb0cddef" = .ok next ∧
      dashed = bare ∧ dashed ≠ next ∧ normalizeTrustedDeviceMac dashed = .ok dashed := by
  obtain ⟨haccepted, hagain, hsame⟩ := normalized_mac_identifies_number
  have hunicast : IsUnicast 0x02aabb0cddee ∧ IsUnicast 0x02aabb0cddef := by
    constructor <;> exact ⟨by decide, by decide⟩
  have hdash : Denotes " 02-AA-bb-0C-dd-EE " 0x02aabb0cddee :=
    ⟨by decide, "02AAbb0CddEE".toList, compactMac_eq_some.mp (by decide), by decide⟩
  have hbare : Denotes "02aabb0cddee" 0x02aabb0cddee :=
    ⟨by decide, "02aabb0cddee".toList, compactMac_eq_some.mp (by decide), by decide⟩
  have hnext : Denotes "02aabb0cddef" 0x02aabb0cddef :=
    ⟨by decide, "02aabb0cddef".toList, compactMac_eq_some.mp (by decide), by decide⟩
  have hdashed := (haccepted _ _).mpr ⟨_, hdash, hunicast.1, rfl⟩
  have hplain := (haccepted _ _).mpr ⟨_, hbare, hunicast.1, rfl⟩
  have hother := (haccepted _ _).mpr ⟨_, hnext, hunicast.2, rfl⟩
  refine ⟨_, _, _, hdashed, hplain, hother, ?_, fun heq => ?_, hagain _ _ hdashed⟩
  · exact (hsame _ _ _ _ _ _ hdashed hplain hdash hbare).mpr rfl
  · exact absurd ((hsame _ _ _ _ _ _ hdashed hother hdash hnext).mp heq) (by decide)

end RouterKit.Devices
