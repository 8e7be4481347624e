import Mathlib.Tactic.Ring
import RouterKit.Lib.PyText

/-!
Textual IP addresses as the standard library reads and writes them: four
decimal octets, or eight hexadecimal groups of which one run of zeros may be
written as `::`. Every address is read back from its own text.
-/

namespace RouterKit.Lib.IpText

open RouterKit.Lib.PyText

/-- An address, with the zone identifier an IPv6 address may carry. -/
inductive IpAddress where
  | v4 (value : Nat)
  | v6 (value : Nat) (scope : Option (List Char))
deriving DecidableEq

namespace IpAddress

def version : IpAddress → Nat
  | .v4 _ => 4
  | .v6 _ _ => 6

/-- `int(address)`. -/
def value : IpAddress → Nat
  | .v4 value => value
  | .v6 value _ => value

def scope : IpAddress → Option (List Char)
  | .v4 _ => none
  | .v6 _ scope => scope

/-- What every address that was read from a text satisfies. -/
def Valid : IpAddress → Prop
  | .v4 value => value < 2 ^ 32
  | .v6 value scope => value < 2 ^ 128 ∧
      ∀ zone ∈ scope, zone ≠ [] ∧ '%' ∉ zone ∧ '/' ∉ zone

end IpAddress

/-- A big-endian number of digits in the given base. -/
def fromDigits (base : Nat) (digits : List Nat) : Nat :=
  digits.foldl (fun number digit => base * number + digit) 0

def parseOctet (text : List Char) : Option Nat :=
  let number := fromDigits 10 (text.map hexValue)
  if text ≠ [] ∧ text.all isAsciiDigit ∧ text.length ≤ 3 ∧
      (text = ['0'] ∨ text.head? ≠ some '0') ∧ number ≤ 255 then some number
  else none

/-- Four octets separated by dots. -/
def parseIpv4 (text : List Char) : Option Nat :=
  match (text.splitOn '.').mapM parseOctet with
  | some [a, b, c, d] => some (fromDigits 256 [a, b, c, d])
  | _ => none

def parseHextet (text : List Char) : Option Nat :=
  if text ≠ [] ∧ text.all isHexDigit ∧ text.length ≤ 4 then
    some (fromDigits 16 (text.map hexValue))
  else none

/-- The lower-case hexadecimal text of a number, without leading zeros. -/
def hexText (number : Nat) : List Char := Nat.toDigits 16 number

/-- An IPv4 suffix stands for the last two groups. -/
def expandIpv4Suffix (parts : List (List Char)) : Option (List (List Char)) :=
  match parts.getLast? with
  | some suffix =>
      if '.' ∈ suffix then
        (parseIpv4 suffix).map fun number =>
          parts.dropLast ++ [hexText (number / 65536), hexText (number % 65536)]
      else some parts
  | none => some parts

/-- The groups on one side of `::`, whose `outer` part is empty only when the
text begins or ends with `::`. -/
def sideOfSkip (parts : List (List Char)) (outer : Option (List Char)) :
    Option (List (List Char)) :=
  if outer = some [] then if parts.length = 1 then some [] else none else some parts

/-- The eight groups. At most one part between the first and the last may be
empty: it stands for the groups that are left out. -/
def parseHextets (parts : List (List Char)) : Option (List Nat) :=
  let inner := parts.tail.dropLast
  if inner.count [] > 1 then none
  else if [] ∈ inner then do
    let skip := inner.idxOf [] + 1
    let before := parts.take skip
    let after := parts.drop (skip + 1)
    let high ← sideOfSkip before before.head?
    let low ← sideOfSkip after after.getLast?
    if high.length + low.length < 8 then
      let highHextets ← high.mapM parseHextet
      let lowHextets ← low.mapM parseHextet
      some (highHextets ++ List.replicate (8 - (high.length + low.length)) 0 ++ lowHextets)
    else none
  else if parts.length = 8 then parts.mapM parseHextet
  else none

def parseIpv6 (text : List Char) : Option Nat :=
  let parts := text.splitOn ':'
  if parts.length < 3 then none
  else do
    let groups ← expandIpv4Suffix parts
    if groups.length > 9 then none
    else (parseHextets groups).map (fromDigits 65536)

/-- The address and the zone identifier behind the first `%`. -/
def splitScopeId (text : List Char) : Option (List Char × Option (List Char)) :=
  let address := text.takeWhile (· ≠ '%')
  match text.dropWhile (· ≠ '%') with
  | [] => some (address, none)
  | _ :: zone => if zone = [] ∨ '%' ∈ zone then none else some (address, some zone)

/-- `ipaddress.ip_address` on a text. -/
def ipAddress (text : List Char) : Option IpAddress :=
  if '/' ∈ text then none
  else
    match parseIpv4 text with
    | some value => some (.v4 value)
    | none => do
        let (address, scope) ← splitScopeId text
        let value ← parseIpv6 address
        some (.v6 value scope)

/-- The digits of a number below `base ^ count`, the highest first. -/
def toDigits (base : Nat) : Nat → Nat → List Nat
  | 0, _ => []
  | count + 1, number => number / base ^ count % base :: toDigits base count number

/-- The state of the search for the longest run of zero groups. -/
structure ZeroRuns where
  bestStart : Nat
  bestLength : Nat
  start : Option Nat
  length : Nat

def ZeroRuns.next (runs : ZeroRuns) (index hextet : Nat) : ZeroRuns :=
  if hextet = 0 then
    let length := runs.length + 1
    let start := runs.start.getD index
    if length > runs.bestLength then ⟨start, length, some start, length⟩
    else ⟨runs.bestStart, runs.bestLength, some start, length⟩
  else ⟨runs.bestStart, runs.bestLength, none, 0⟩

def ZeroRuns.scan (runs : ZeroRuns) (index : Nat) : List Nat → ZeroRuns
  | [] => runs
  | hextet :: rest => (runs.next index hextet).scan (index + 1) rest

/-- The parts of the text: the longest run of two or more zero groups becomes an
empty part, and so does the side of it where nothing is left. -/
def compressHextets (hextets : List Nat) : List (List Char) :=
  let runs := ZeroRuns.scan ⟨0, 0, none, 0⟩ 0 hextets
  let texts := hextets.map hexText
  if runs.bestLength > 1 then
    let stop := runs.bestStart + runs.bestLength
    let extended := if stop = hextets.length then texts ++ [[]] else texts
    let replaced := extended.take runs.bestStart ++ [] :: extended.drop stop
    if runs.bestStart = 0 then [] :: replaced else replaced
  else texts

/-- The text of an IPv6 address without its zone. -/
def ipv6Text (value : Nat) : List Char :=
    [':'].intercalate (compressHextets (toDigits 65536 8 value))

/-- `str(address)`. -/
def IpAddress.text : IpAddress → List Char
  | .v4 value => ['.'].intercalate ((toDigits 256 4 value).map (Nat.toDigits 10))
  | .v6 value scope => ipv6Text value ++ (scope.elim [] fun zone => '%' :: zone)

private theorem foldl_toDigits {base : Nat} (count acc number : Nat) :
    (toDigits base count number).foldl (fun total digit => base * total + digit) acc =
      acc * base ^ count + number % base ^ count := by
  induction count generalizing acc with
  | zero => simp [toDigits, Nat.mod_one]
  | succ count ih =>
      rw [toDigits, List.foldl_cons, ih, Nat.mod_pow_succ, Nat.add_mul, Nat.pow_succ]
      ring

theorem fromDigits_toDigits {base count number : Nat} (h : number < base ^ count) :
    fromDigits base (toDigits base count number) = number := by
  rw [fromDigits, foldl_toDigits, Nat.zero_mul, Nat.zero_add, Nat.mod_eq_of_lt h]

theorem toDigits_length (base count number : Nat) :
    (toDigits base count number).length = count := by
  induction count with
  | zero => rfl
  | succ count ih => rw [toDigits, List.length_cons, ih]

theorem toDigits_lt {base : Nat} (hbase : 0 < base) (count number : Nat) :
    ∀ digit ∈ toDigits base count number, digit < base := by
  induction count with
  | zero => simp [toDigits]
  | succ count ih =>
      intro digit hdigit
      rcases List.mem_cons.mp hdigit with rfl | hrest
      · exact Nat.mod_lt _ hbase
      · exact ih digit hrest

private theorem foldl_digits_lt {base : Nat} (digits : List Nat) (acc : Nat)
    (h : ∀ digit ∈ digits, digit < base) :
    digits.foldl (fun total digit => base * total + digit) acc <
        (acc + 1) * base ^ digits.length := by
  induction digits generalizing acc with
  | nil => simp
  | cons digit rest ih =>
      have hdigit := h digit List.mem_cons_self
      have hrest := ih (base * acc + digit) fun d hd => h d (List.mem_cons_of_mem _ hd)
      have hstep : base * acc + digit + 1 ≤ (acc + 1) * base := by
        rw [Nat.add_mul, Nat.one_mul, Nat.mul_comm acc]
        omega
      calc _ < (base * acc + digit + 1) * base ^ rest.length := hrest
        _ ≤ (acc + 1) * base * base ^ rest.length := Nat.mul_le_mul_right _ hstep
        _ = (acc + 1) * base ^ (rest.length + 1) := by rw [Nat.pow_succ]; ring

theorem fromDigits_lt {base : Nat} {digits : List Nat}
    (h : ∀ digit ∈ digits, digit < base) : fromDigits base digits < base ^ digits.length := by
  have hbound := foldl_digits_lt digits 0 h
  rwa [Nat.zero_add, Nat.one_mul] at hbound

/-- An octet is read back from its decimal text. -/
theorem parseOctet_toDigits {octet : Nat} (h : octet < 256) :
    parseOctet (Nat.toDigits 10 octet) = some octet ∧
      ∀ c ∈ Nat.toDigits 10 octet, isAsciiDigit c = true := by
  have hall : ∀ octet < 256, parseOctet (Nat.toDigits 10 octet) = some octet ∧
      ∀ c ∈ Nat.toDigits 10 octet, isAsciiDigit c = true := by decide +kernel
  exact hall octet h

private theorem hexValue_digitChar {digit : Nat} (h : digit < 16) :
    hexValue digit.digitChar = digit ∧ isHexDigit digit.digitChar = true := by
  have hall : ∀ digit < 16, hexValue digit.digitChar = digit ∧
      isHexDigit digit.digitChar = true := by decide
  exact hall digit h

private theorem hexText_digits (number : Nat) :
    (∀ c ∈ hexText number, isHexDigit c = true) ∧
      fromDigits 16 ((hexText number).map hexValue) = number := by
  induction number using Nat.strong_induction_on with
  | _ number ih =>
      rw [hexText, Nat.toDigits_eq_if (by omega)]
      split
      · next hsmall =>
        obtain ⟨hvalue, hhex⟩ := hexValue_digitChar hsmall
        refine ⟨by simpa using hhex, ?_⟩
        simp [fromDigits, hvalue]
      · next hlarge =>
        obtain ⟨hvalue, hhex⟩ := hexValue_digitChar (Nat.mod_lt number (show 16 > 0 by omega))
        obtain ⟨hdigits, hnumber⟩ := ih (number / 16) (by omega)
        rw [hexText] at hdigits hnumber
        constructor
        · intro c hc
          rcases List.mem_append.mp hc with hc | hc
          · exact hdigits c hc
          · rwa [List.mem_singleton.mp hc]
        · rw [fromDigits] at hnumber ⊢
          simp only [List.map_append, List.map_cons, List.map_nil, List.foldl_append, hnumber,
            List.foldl_cons, List.foldl_nil, hvalue]
          omega

/-- A group is read back from its hexadecimal text. -/
theorem parseHextet_hexText {hextet : Nat} (h : hextet < 65536) :
    parseHextet (hexText hextet) = some hextet := by
  obtain ⟨hdigits, hnumber⟩ := hexText_digits hextet
  have hlength : (hexText hextet).length ≤ 4 :=
    (Nat.length_toDigits_le_iff (by omega) (by omega)).mpr (by omega)
  have hne : hexText hextet ≠ [] := List.length_pos_iff.mp Nat.length_toDigits_pos
  rw [parseHextet, if_pos ⟨hne, List.all_eq_true.mpr hdigits, hlength⟩, hnumber]

theorem hexText_ne_nil (number : Nat) : hexText number ≠ [] :=
  List.length_pos_iff.mp Nat.length_toDigits_pos

theorem hexText_hexDigit {number : Nat} {c : Char} (h : c ∈ hexText number) :
    isHexDigit c = true :=
  (hexText_digits number).1 c h

theorem mapM_map_eq_some {α β : Type} {f : β → Option α} {g : α → β} {entries : List α}
    (h : ∀ entry ∈ entries, f (g entry) = some entry) :
    (entries.map g).mapM f = some entries := by
  induction entries with
  | nil => rfl
  | cons entry rest ih =>
      have hrest := ih fun e he => h e (List.mem_cons_of_mem _ he)
      rw [List.map_cons, List.mapM_cons, h entry List.mem_cons_self, hrest]
      rfl

/-- What the search knows after the groups below `index`: the best run and the
current one consist of zeros. -/
structure ZeroRuns.Sound (runs : ZeroRuns) (hextets : List Nat) (index : Nat) : Prop where
  best : runs.bestStart + runs.bestLength ≤ index
  bestZero : ∀ i, runs.bestStart ≤ i → i < runs.bestStart + runs.bestLength → hextets[i]? = some 0
  length : ∀ start, runs.start = some start → start + runs.length = index
  absent : runs.start = none → runs.length = 0
  zero : ∀ start, runs.start = some start → ∀ i, start ≤ i → i < index → hextets[i]? = some 0

theorem ZeroRuns.Sound.next {runs : ZeroRuns} {hextets : List Nat} {index hextet : Nat}
    (h : runs.Sound hextets index) (hget : hextets[index]? = some hextet) :
    (runs.next index hextet).Sound hextets (index + 1) := by
  obtain ⟨hbest, hbestZero, hlength, habsent, hzero⟩ := h
  by_cases hhextet : hextet = 0
  · subst hhextet
    -- the current run starts here or goes on
    have hcurrent : runs.start.getD index + (runs.length + 1) = index + 1 ∧
        ∀ i, runs.start.getD index ≤ i → i < index + 1 → hextets[i]? = some 0 := by
      cases hstart : runs.start with
      | none =>
          refine ⟨by simp [habsent hstart], fun i hi hlt => ?_⟩
          rw [Option.getD_none] at hi
          rwa [show i = index by omega]
      | some start =>
          have hend := hlength start hstart
          refine ⟨by rw [Option.getD_some]; omega, fun i hi hlt => ?_⟩
          by_cases hlast : i = index
          · rwa [hlast]
          · exact hzero start hstart i hi (by omega)
    obtain ⟨hend, hcurrentZero⟩ := hcurrent
    simp only [ZeroRuns.next, if_true]
    split
    · refine ⟨by simpa using hend.le, fun i hi hlt =>
        hcurrentZero i hi (by simp only at hlt; omega),
        ?_, by simp, ?_⟩
      · intro start hstart
        simpa [← Option.some.inj hstart] using hend
      · intro start hstart i hi hlt
        exact hcurrentZero i (by simpa [← Option.some.inj hstart] using hi) hlt
    · refine ⟨by simp only; omega, hbestZero, ?_, by simp, ?_⟩
      · intro start hstart
        simpa [← Option.some.inj hstart] using hend
      · intro start hstart i hi hlt
        exact hcurrentZero i (by simpa [← Option.some.inj hstart] using hi) hlt
  · rw [ZeroRuns.next, if_neg hhextet]
    exact ⟨by simp only; omega, hbestZero, by simp, by simp, by simp⟩

theorem ZeroRuns.Sound.scan {runs : ZeroRuns} {before rest : List Nat}
    (h : runs.Sound (before ++ rest) before.length) :
    (runs.scan before.length rest).Sound (before ++ rest) (before ++ rest).length := by
  induction rest generalizing runs before with
  | nil => simpa [ZeroRuns.scan] using h
  | cons hextet rest ih =>
      have hnext := h.next (show (before ++ hextet :: rest)[before.length]? = some hextet by simp)
      have hmore := @ih (runs.next before.length hextet) (before ++ [hextet]) (by simpa using hnext)
      simpa [ZeroRuns.scan] using hmore

/-- The groups before and after a run of zeros, one of them long enough to be
written as `::`. -/
theorem compressHextets_cases (hextets : List Nat) :
    compressHextets hextets = hextets.map hexText ∨
      ∃ before count after, 1 < count ∧ hextets = before ++ List.replicate count 0 ++ after ∧
        compressHextets hextets = (if before = [] then [[]] else before.map hexText) ++ [] ::
          (if after = [] then [[]] else after.map hexText) := by
  have hinitial : ZeroRuns.Sound ⟨0, 0, none, 0⟩ ([] ++ hextets) ([] : List Nat).length :=
    ⟨by simp, by simp, by simp, by simp, by simp⟩
  have hsound := hinitial.scan
  rw [List.nil_append, List.length_nil] at hsound
  simp only [compressHextets]
  obtain ⟨runs, hruns⟩ : ∃ runs, ZeroRuns.scan ⟨0, 0, none, 0⟩ 0 hextets = runs := ⟨_, rfl⟩
  rw [hruns] at hsound ⊢
  obtain ⟨bestStart, bestLength, start, length⟩ := runs
  obtain ⟨hbest, hzero, -, -, -⟩ := hsound
  simp only at hbest hzero ⊢
  split
  · next hlong =>
    refine .inr ⟨hextets.take bestStart, bestLength, hextets.drop (bestStart + bestLength), hlong,
      ?_, ?_⟩
    · have hrun : (hextets.drop bestStart).take bestLength = List.replicate bestLength 0 := by
        apply List.ext_getElem?
        intro i
        rw [List.getElem?_take, List.getElem?_drop, List.getElem?_replicate]
        split
        · exact hzero _ (by omega) (by omega)
        · rfl
      rw [← hrun, ← List.drop_drop, List.append_assoc, List.take_append_drop,
        List.take_append_drop]
    · have hleft : hextets.take bestStart = [] ↔ bestStart = 0 := by
        rw [List.take_eq_nil_iff, or_iff_left_iff_imp]
        rintro rfl
        simp only [List.length_nil] at hbest
        omega
      have hright : hextets.drop (bestStart + bestLength) = [] ↔
          bestStart + bestLength = hextets.length := by
        rw [List.drop_eq_nil_iff]
        omega
      simp only [hleft, hright, List.map_take, List.map_drop]
      by_cases hstop : bestStart + bestLength = hextets.length
      · have htake : (hextets.map hexText ++ [[]]).take bestStart =
            (hextets.map hexText).take bestStart :=
          List.take_append_of_le_length (by rw [List.length_map]; omega)
        have hdrop : (hextets.map hexText ++ [[]]).drop (bestStart + bestLength) = [[]] := by
          rw [List.drop_append_of_le_length (by rw [List.length_map]; omega),
            List.drop_of_length_le (by rw [List.length_map]; omega), List.nil_append]
        rw [if_pos hstop, if_pos hstop, htake, hdrop]
        split
        · next hstart => simp [hstart]
        · rfl
      · rw [if_neg hstop, if_neg hstop]
        split
        · next hstart => simp [hstart]
        · rfl
  · exact .inl rfl

/-- The parts on one side of `::`. -/
private def sideParts (hextets : List Nat) : List (List Char) :=
  if hextets = [] then [[]] else hextets.map hexText

private theorem sideParts_ne_nil (hextets : List Nat) : sideParts hextets ≠ [] := by
  unfold sideParts
  split
  · simp
  · next h => simpa using h

private theorem nil_not_mem_texts (hextets : List Nat) : [] ∉ hextets.map hexText := by
  intro h
  obtain ⟨hextet, -, htext⟩ := List.mem_map.mp h
  exact hexText_ne_nil hextet htext

private theorem nil_not_mem_sideParts (hextets : List Nat) :
    [] ∉ (sideParts hextets).tail ∧ [] ∉ (sideParts hextets).dropLast := by
  unfold sideParts
  split
  · simp
  · exact ⟨fun h => nil_not_mem_texts hextets (List.mem_of_mem_tail h),
      fun h => nil_not_mem_texts hextets (List.dropLast_subset _ h)⟩

private theorem sideOfSkip_sideParts (hextets : List Nat) {part : List Char}
    (hpart : part ∈ sideParts hextets) :
    sideOfSkip (sideParts hextets) (some part) = some (hextets.map hexText) := by
  unfold sideParts at hpart ⊢
  unfold sideOfSkip
  split at hpart
  · next hempty =>
    rw [List.mem_singleton.mp hpart, hempty]
    rfl
  · next hempty =>
    have hne : part ≠ [] := fun h => nil_not_mem_texts hextets (h ▸ hpart)
    rw [if_neg hempty, if_neg (by simpa using hne)]

/-- The groups on the two sides of `::` are read back, with zeros between them. -/
theorem parseHextets_skip {before after : List Nat} {count : Nat} (hcount : 0 < count)
    (hlength : before.length + count + after.length = 8)
    (hbefore : ∀ hextet ∈ before, hextet < 65536) (hafter : ∀ hextet ∈ after, hextet < 65536) :
    parseHextets (sideParts before ++ [] :: sideParts after) =
      some (before ++ List.replicate count 0 ++ after) := by
  obtain ⟨htail, -⟩ := nil_not_mem_sideParts before
  obtain ⟨-, hinit⟩ := nil_not_mem_sideParts after
  have hleft := sideParts_ne_nil before
  have hinner : (sideParts before ++ [] :: sideParts after).tail.dropLast =
      (sideParts before).tail ++ [] :: (sideParts after).dropLast := by
    rw [List.tail_append_of_ne_nil hleft, List.dropLast_append_of_ne_nil (by simp),
      List.dropLast_cons_of_ne_nil (sideParts_ne_nil after)]
  have hcountNil : ((sideParts before).tail ++ [] :: (sideParts after).dropLast).count [] = 1 := by
    rw [List.count_append, List.count_cons_self, List.count_eq_zero.mpr htail,
      List.count_eq_zero.mpr hinit]
  have hskip : ((sideParts before).tail ++ [] :: (sideParts after).dropLast).idxOf [] + 1 =
      (sideParts before).length := by
    rw [List.idxOf_append_of_notMem htail, List.idxOf_cons_self, List.length_tail]
    have := List.length_pos_iff.mpr hleft
    omega
  have hmem : [] ∈ (sideParts before).tail ++ [] :: (sideParts after).dropLast := by simp
  have htake : (sideParts before ++ [] :: sideParts after).take (sideParts before).length =
      sideParts before := List.take_left
  have hdrop : (sideParts before ++ [] :: sideParts after).drop ((sideParts before).length + 1) =
      sideParts after := by
    rw [← List.drop_drop, List.drop_left, List.drop_one, List.tail_cons]
  have hhigh : sideOfSkip (sideParts before) (sideParts before).head? =
      some (before.map hexText) := by
    rw [List.head?_eq_some_head hleft]
    exact sideOfSkip_sideParts before (List.head_mem hleft)
  have hlow : sideOfSkip (sideParts after) (sideParts after).getLast? =
      some (after.map hexText) := by
    rw [List.getLast?_eq_some_getLast (sideParts_ne_nil after)]
    exact sideOfSkip_sideParts after (List.getLast_mem _)
  simp only [parseHextets, hinner, hcountNil, hskip, htake, hdrop, hhigh, hlow, hmem, if_true,
    Option.bind_eq_bind, Option.bind_some, List.length_map,
    mapM_map_eq_some fun e he => parseHextet_hexText (hbefore e he),
    mapM_map_eq_some fun e he => parseHextet_hexText (hafter e he)]
  rw [if_neg (by omega), if_pos (by omega),
      show 8 - (before.length + after.length) = count by omega]

/-- Without an empty part the eight parts are the groups. -/
theorem parseHextets_texts {hextets : List Nat} (hlength : hextets.length = 8)
    (h : ∀ hextet ∈ hextets, hextet < 65536) :
    parseHextets (hextets.map hexText) = some hextets := by
  have hinner : [] ∉ (hextets.map hexText).tail.dropLast := fun hmem =>
    nil_not_mem_texts hextets (List.mem_of_mem_tail (List.dropLast_subset _ hmem))
  simp only [parseHextets, if_neg hinner, List.count_eq_zero.mpr hinner, List.length_map, hlength,
    if_true, mapM_map_eq_some fun e he => parseHextet_hexText (h e he)]
  rfl

private theorem mem_sideParts {hextets : List Nat} {part : List Char} {c : Char}
    (hpart : part ∈ sideParts hextets) (hc : c ∈ part) : isHexDigit c = true := by
  unfold sideParts at hpart
  split at hpart
  · rw [List.mem_singleton.mp hpart] at hc
    cases hc
  · obtain ⟨hextet, -, rfl⟩ := List.mem_map.mp hpart
    exact hexText_hexDigit hc

private theorem length_sideParts (hextets : List Nat) :
    1 ≤ (sideParts hextets).length ∧ (sideParts hextets).length ≤ hextets.length + 1 := by
  unfold sideParts
  split
  · simp
  · next h =>
    have := List.length_pos_iff.mpr h
    rw [List.length_map]
    omega

/-- The parts of a written address: between three and nine texts of hexadecimal
digits that are read back. -/
theorem compressHextets_spec {hextets : List Nat} (hlength : hextets.length = 8)
    (h : ∀ hextet ∈ hextets, hextet < 65536) :
    (3 ≤ (compressHextets hextets).length ∧ (compressHextets hextets).length ≤ 9) ∧
      (∀ part ∈ compressHextets hextets, ∀ c ∈ part, isHexDigit c = true) ∧
      parseHextets (compressHextets hextets) = some hextets := by
  rcases compressHextets_cases hextets with hplain | ⟨before, count, after, hcount, hsplit, hparts⟩
  · rw [hplain]
    refine ⟨by rw [List.length_map]; omega, ?_, parseHextets_texts hlength h⟩
    intro part hpart c hc
    obtain ⟨hextet, -, rfl⟩ := List.mem_map.mp hpart
    exact hexText_hexDigit hc
  · change _ = sideParts before ++ [] :: sideParts after at hparts
    have hsizes : before.length + count + after.length = 8 := by
      rw [← hlength, hsplit]
      simp [Nat.add_assoc]
    have hleft := length_sideParts before
    have hright := length_sideParts after
    rw [hparts]
    refine ⟨by rw [List.length_append, List.length_cons]; omega, ?_, ?_⟩
    · intro part hpart c hc
      rcases List.mem_append.mp hpart with hpart | hpart
      · exact mem_sideParts hpart hc
      · rcases List.mem_cons.mp hpart with rfl | hpart
        · cases hc
        · exact mem_sideParts hpart hc
    · rw [@parseHextets_skip before after count (by omega) hsizes]
      · rw [← hsplit]
      · intro hextet hmem
        exact h hextet (by rw [hsplit]; simp [hmem])
      · intro hextet hmem
        exact h hextet (by rw [hsplit]; simp [hmem])

private theorem expandIpv4Suffix_of_hexDigits {parts : List (List Char)}
    (h : ∀ part ∈ parts, ∀ c ∈ part, isHexDigit c = true) :
    expandIpv4Suffix parts = some parts := by
  unfold expandIpv4Suffix
  cases hlast : parts.getLast? with
  | none => rfl
  | some suffix =>
      have hdot : '.' ∉ suffix := by
        intro hmem
        exact absurd (h suffix (List.mem_of_getLast? hlast) '.' hmem) (by decide)
      simp only [if_neg hdot]

theorem parseIpv6_ipv6Text {value : Nat} (h : value < 2 ^ 128) :
    parseIpv6 (ipv6Text value) = some value := by
  obtain ⟨⟨hlow, hhigh⟩, hdigits, hread⟩ := compressHextets_spec (toDigits_length 65536 8 value)
    (toDigits_lt (by omega) 8 value)
  have hsplit : (ipv6Text value).splitOn ':' = compressHextets (toDigits 65536 8 value) := by
    apply List.splitOn_intercalate
    · intro part hpart hcolon
      exact absurd (hdigits part hpart ':' hcolon) (by decide)
    · exact List.ne_nil_of_length_pos (by omega)
  simp only [parseIpv6, hsplit, expandIpv4Suffix_of_hexDigits hdigits, hread,
    Option.bind_eq_bind, Option.bind_some]
  rw [if_neg (by omega), if_neg (by omega), Option.map_some, fromDigits_toDigits (by omega)]

private theorem ipv6Text_chars (value : Nat) :
    ':' ∈ ipv6Text value ∧ ∀ c ∈ ipv6Text value, c = ':' ∨ isHexDigit c = true := by
  obtain ⟨⟨hlow, -⟩, hdigits, -⟩ := compressHextets_spec (toDigits_length 65536 8 value)
    (toDigits_lt (by omega) 8 value)
  have hsplit : (ipv6Text value).splitOn ':' = compressHextets (toDigits 65536 8 value) := by
    apply List.splitOn_intercalate
    · intro part hpart hcolon
      exact absurd (hdigits part hpart ':' hcolon) (by decide)
    · exact List.ne_nil_of_length_pos (by omega)
  constructor
  · by_contra habsent
    rw [← hsplit, List.splitOn_eq_singleton habsent, List.length_singleton] at hlow
    omega
  · intro c hc
    rcases @mem_splitOn ':' c _ hc with hcolon | ⟨part, hpart, hmem⟩
    · exact .inl hcolon
    · rw [hsplit] at hpart
      exact .inr (hdigits part hpart c hmem)

private theorem mapM_eq_some_mem {α β : Type} {f : α → Option β} {entries : List α}
    {results : List β} (h : entries.mapM f = some results) :
    results.length = entries.length ∧ (∀ entry ∈ entries, ∃ result, f entry = some result) ∧
      ∀ result ∈ results, ∃ entry ∈ entries, f entry = some result := by
  induction entries generalizing results with
  | nil =>
      rw [List.mapM_nil] at h
      obtain rfl := Option.some.inj h
      simp
  | cons entry rest ih =>
      rw [List.mapM_cons] at h
      obtain ⟨result, hresult, h⟩ := Option.bind_eq_some_iff.mp h
      obtain ⟨more, hmore, h⟩ := Option.bind_eq_some_iff.mp h
      obtain rfl := Option.some.inj h
      obtain ⟨hlength, hread, hfrom⟩ := ih hmore
      refine ⟨by rw [List.length_cons, List.length_cons, hlength], ?_, ?_⟩
      · intro e he
        rcases List.mem_cons.mp he with rfl | he
        · exact ⟨result, hresult⟩
        · exact hread e he
      · intro r hr
        rcases List.mem_cons.mp hr with rfl | hr
        · exact ⟨entry, List.mem_cons_self, hresult⟩
        · obtain ⟨e, he, hfe⟩ := hfrom r hr
          exact ⟨e, List.mem_cons_of_mem _ he, hfe⟩

theorem parseOctet_some {text : List Char} {octet : Nat} (h : parseOctet text = some octet) :
    octet < 256 ∧ ∀ c ∈ text, isAsciiDigit c = true := by
  simp only [parseOctet] at h
  split at h
  · next hall =>
    obtain ⟨-, hdigits, -, -, hbound⟩ := hall
    obtain rfl := Option.some.inj h
    exact ⟨by omega, by simpa using hdigits⟩
  · cases h

theorem parseHextet_some {text : List Char} {hextet : Nat} (h : parseHextet text = some hextet) :
    hextet < 65536 := by
  unfold parseHextet at h
  split at h
  · next hall =>
    obtain ⟨-, hdigits, hlength⟩ := hall
    obtain rfl := Option.some.inj h
    have hbound := @fromDigits_lt 16 (text.map hexValue) fun digit hdigit => by
      obtain ⟨c, hc, rfl⟩ := List.mem_map.mp hdigit
      exact hexValue_lt (List.all_eq_true.mp hdigits c hc)
    calc fromDigits 16 (text.map hexValue) < 16 ^ (text.map hexValue).length := hbound
      _ ≤ 16 ^ 4 := Nat.pow_le_pow_right (by omega) (by rwa [List.length_map])
      _ = 65536 := by decide
  · cases h

theorem parseIpv4_lt {text : List Char} {value : Nat} (h : parseIpv4 text = some value) :
    value < 2 ^ 32 := by
  unfold parseIpv4 at h
  split at h
  · next a b c d hoctets =>
    obtain rfl := Option.some.inj h
    have hbound := @fromDigits_lt 256 [a, b, c, d] fun digit hdigit => by
      obtain ⟨text, -, htext⟩ := (mapM_eq_some_mem hoctets).2.2 digit hdigit
      exact (parseOctet_some htext).1
    simpa using hbound
  · cases h

theorem parseIpv4_eq_none {text : List Char} (h : ':' ∈ text) : parseIpv4 text = none := by
  rcases @mem_splitOn '.' ':' _ h with hdot | ⟨part, hpart, hcolon⟩
  · exact absurd hdot (by decide)
  · unfold parseIpv4
    split
    · next hoctets =>
      obtain ⟨octet, hoctet⟩ := (mapM_eq_some_mem hoctets).2.1 part hpart
      exact absurd ((parseOctet_some hoctet).2 ':' hcolon) (by decide)
    · rfl

theorem parseHextets_some {parts : List (List Char)} {hextets : List Nat}
    (h : parseHextets parts = some hextets) :
    hextets.length = 8 ∧ ∀ hextet ∈ hextets, hextet < 65536 := by
  have hread : ∀ {texts : List (List Char)} {results : List Nat},
      texts.mapM parseHextet = some results → ∀ hextet ∈ results, hextet < 65536 := by
    intro texts results hresults hextet hmem
    obtain ⟨text, -, htext⟩ := (mapM_eq_some_mem hresults).2.2 hextet hmem
    exact parseHextet_some htext
  simp only [parseHextets] at h
  split at h
  · cases h
  · split at h
    · obtain ⟨high, -, h⟩ := Option.bind_eq_some_iff.mp h
      obtain ⟨low, -, h⟩ := Option.bind_eq_some_iff.mp h
      split at h
      · next hshort =>
        obtain ⟨highHextets, hhigh, h⟩ := Option.bind_eq_some_iff.mp h
        obtain ⟨lowHextets, hlow, h⟩ := Option.bind_eq_some_iff.mp h
        obtain rfl := Option.some.inj h
        constructor
        · rw [List.length_append, List.length_append, List.length_replicate,
            (mapM_eq_some_mem hhigh).1, (mapM_eq_some_mem hlow).1]
          omega
        · intro hextet hmem
          rcases List.mem_append.mp hmem with hmem | hmem
          · rcases List.mem_append.mp hmem with hmem | hmem
            · exact hread hhigh hextet hmem
            · rw [List.eq_of_mem_replicate hmem]
              omega
          · exact hread hlow hextet hmem
      · cases h
    · split at h
      · next hlength => exact ⟨by rw [(mapM_eq_some_mem h).1, hlength], hread h⟩
      · cases h

theorem parseIpv6_lt {text : List Char} {value : Nat} (h : parseIpv6 text = some value) :
    value < 2 ^ 128 := by
  simp only [parseIpv6] at h
  split at h
  · cases h
  · obtain ⟨groups, -, h⟩ := Option.bind_eq_some_iff.mp h
    split at h
    · cases h
    · obtain ⟨hextets, hhextets, rfl⟩ := Option.map_eq_some_iff.mp h
      obtain ⟨hlength, hall⟩ := parseHextets_some hhextets
      have hbound := fromDigits_lt hall
      rw [hlength] at hbound
      simpa using hbound

theorem splitScopeId_some {text address : List Char} {scope : Option (List Char)}
    (h : splitScopeId text = some (address, scope)) :
    text = address ++ scope.elim [] (fun zone => '%' :: zone) ∧
      ∀ zone ∈ scope, zone ≠ [] ∧ '%' ∉ zone := by
  have hsplit := List.takeWhile_append_dropWhile (p := (· ≠ '%')) (l := text)
  simp only [splitScopeId] at h
  split at h
  · next hnone =>
    obtain ⟨rfl, rfl⟩ := Prod.mk.inj (Option.some.inj h)
    rw [hnone] at hsplit
    exact ⟨hsplit.symm, by simp⟩
  · next mark zone hmark =>
    split at h
    · cases h
    · next hzone =>
      obtain ⟨rfl, rfl⟩ := Prod.mk.inj (Option.some.inj h)
      have hpercent : mark = '%' := by
        have hhead := List.head?_dropWhile_not (fun c => decide (c ≠ '%')) text
        rw [hmark] at hhead
        simpa using hhead
      rw [hmark, hpercent] at hsplit
      refine ⟨hsplit.symm, ?_⟩
      intro more hmore
      obtain rfl := Option.some.inj (Option.mem_def.mp hmore)
      exact not_or.mp hzone

theorem splitScopeId_append {address : List Char} (h : ∀ c ∈ address, c ≠ '%')
    {scope : Option (List Char)} (hzone : ∀ zone ∈ scope, zone ≠ [] ∧ '%' ∉ zone) :
    splitScopeId (address ++ scope.elim [] (fun zone => '%' :: zone)) = some (address, scope) := by
  have hall : ∀ c ∈ address, decide (c ≠ '%') = true := fun c hc => decide_eq_true (h c hc)
  cases scope with
  | none =>
      have htake := List.takeWhile_eq_self_iff.mpr hall
      have hdrop := List.dropWhile_eq_nil_iff.mpr hall
      simp only [splitScopeId, Option.elim_none, List.append_nil, htake, hdrop]
  | some zone =>
      obtain ⟨hne, hpercent⟩ := hzone zone rfl
      simp only [splitScopeId, Option.elim_some, List.takeWhile_append_of_pos hall,
        List.dropWhile_append_of_pos hall]
      simp [hne, hpercent]

/-- Whatever is read is an address. -/
theorem ipAddress_valid {text : List Char} {address : IpAddress}
    (h : ipAddress text = some address) : address.Valid := by
  unfold ipAddress at h
  split at h
  · cases h
  · next hslash =>
    split at h
    · next value hvalue =>
      obtain rfl := Option.some.inj h
      exact parseIpv4_lt hvalue
    · obtain ⟨⟨bare, scope⟩, hscope, h⟩ := Option.bind_eq_some_iff.mp h
      obtain ⟨value, hvalue, h⟩ := Option.bind_eq_some_iff.mp h
      obtain rfl := Option.some.inj h
      obtain ⟨htext, hzone⟩ := splitScopeId_some hscope
      refine ⟨parseIpv6_lt hvalue, fun zone hmem => ⟨(hzone zone hmem).1, (hzone zone hmem).2, ?_⟩⟩
      intro hin
      obtain rfl := Option.mem_def.mp hmem
      exact hslash (by rw [htext]; simp [hin])

private theorem splitOn_ipv4Text (value : Nat) : (IpAddress.text (.v4 value)).splitOn '.' =
    (toDigits 256 4 value).map (Nat.toDigits 10) := by
  apply List.splitOn_intercalate
  · intro part hpart hdot
    obtain ⟨octet, hmem, rfl⟩ := List.mem_map.mp hpart
    have hoctet := parseOctet_toDigits (toDigits_lt (by omega) 4 value octet hmem)
    exact absurd (hoctet.2 '.' hdot) (by decide)
  · simp [toDigits]

private theorem ipv4Text_part {value : Nat} {part : List Char}
    (h : part ∈ (IpAddress.text (.v4 value)).splitOn '.') :
    ∃ octet, parseOctet part = some octet ∧ ∀ c ∈ part, isAsciiDigit c = true := by
  rw [splitOn_ipv4Text] at h
  obtain ⟨octet, hmem, rfl⟩ := List.mem_map.mp h
  exact ⟨octet, parseOctet_toDigits (toDigits_lt (by omega) 4 value octet hmem)⟩

private theorem parseIpv4_text {value : Nat} (h : value < 2 ^ 32) :
    parseIpv4 (IpAddress.text (.v4 value)) = some value := by
  have hread : ((toDigits 256 4 value).map (Nat.toDigits 10)).mapM parseOctet =
      some (toDigits 256 4 value) := mapM_map_eq_some fun octet hmem =>
    (parseOctet_toDigits (toDigits_lt (by omega) 4 value octet hmem)).1
  simp only [parseIpv4, splitOn_ipv4Text, hread]
  exact congrArg some (@fromDigits_toDigits 256 4 value (by omega))

private theorem slash_not_mem_ipv6Text (value : Nat) : '/' ∉ ipv6Text value := by
  intro hslash
  rcases (ipv6Text_chars value).2 '/' hslash with h | h
  · exact absurd h (by decide)
  · exact absurd h (by decide)

private theorem percent_not_mem_ipv6Text (value : Nat) : ∀ c ∈ ipv6Text value, c ≠ '%' := by
  rintro c hc rfl
  rcases (ipv6Text_chars value).2 '%' hc with h | h
  · exact absurd h (by decide)
  · exact absurd h (by decide)

/-- Every address is read back from its text. -/
theorem ipAddress_text {address : IpAddress} (h : address.Valid) :
    ipAddress address.text = some address := by
  cases address with
  | v4 value =>
      have hslash : '/' ∉ IpAddress.text (.v4 value) := by
        intro hmem
        rcases @mem_splitOn '.' '/' _ hmem with hdot | ⟨part, hpart, hin⟩
        · exact absurd hdot (by decide)
        · obtain ⟨-, -, hdigits⟩ := ipv4Text_part hpart
          exact absurd (hdigits '/' hin) (by decide)
      rw [ipAddress, if_neg hslash, parseIpv4_text h]
  | v6 value scope =>
      obtain ⟨hvalue, hzone⟩ := h
      have hslash : '/' ∉ IpAddress.text (.v6 value scope) := by
        intro hmem
        rcases List.mem_append.mp hmem with hmem | hmem
        · exact slash_not_mem_ipv6Text value hmem
        · cases scope with
          | none => cases hmem
          | some zone =>
              rcases List.mem_cons.mp hmem with hpercent | hmem
              · exact absurd hpercent (by decide)
              · exact (hzone zone rfl).2.2 hmem
      have hcolon : ':' ∈ IpAddress.text (.v6 value scope) :=
        List.mem_append_left _ (ipv6Text_chars value).1
      have hscope : splitScopeId (IpAddress.text (.v6 value scope)) =
          some (ipv6Text value, scope) :=
        splitScopeId_append (percent_not_mem_ipv6Text value) fun zone hmem =>
          ⟨(hzone zone hmem).1, (hzone zone hmem).2.1⟩
      simp only [ipAddress, if_neg hslash, parseIpv4_eq_none hcolon, hscope,
          parseIpv6_ipv6Text hvalue,
        Option.bind_eq_bind, Option.bind_some]

example : (ipAddress "2001:db8::1".toList).map IpAddress.text = some "2001:db8::1".toList := by
  decide

example : ipAddress "::ffff:10.0.0.1".toList = some (.v6 0xffff0a000001 none) := by decide

end RouterKit.Lib.IpText
