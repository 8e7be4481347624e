import Mathlib.Data.List.Basic
import Mathlib.Data.List.DropRight
import Mathlib.Data.Char

/-!
The text operations of the modelled language, over lists of characters. Only
what does not depend on a Unicode table is spelled out here; a full case
folding keeps its table of non-ASCII characters as a parameter.
-/

namespace RouterKit.Lib.PyText

-- Quantifiers over a text walk the text, whatever instance ranges over all characters.
instance decidableAllIn (text : List Char) (p : Char → Prop) [DecidablePred p] :
    Decidable (∀ c ∈ text, p c) :=
  List.decidableBAll p text

instance decidableAnyIn (text : List Char) (p : Char → Prop) [DecidablePred p] :
    Decidable (∃ c ∈ text, p c) :=
  List.decidableBEx p text

/-- The characters `str.strip` and `str.split` treat as blank. -/
def isSpace (c : Char) : Bool :=
  let n := c.toNat
  (0x09 ≤ n && n ≤ 0x0d) || (0x1c ≤ n && n ≤ 0x20) || n = 0x85 || n = 0xa0 ||
    n = 0x1680 || (0x2000 ≤ n && n ≤ 0x200a) || n = 0x2028 || n = 0x2029 ||
    n = 0x202f || n = 0x205f || n = 0x3000

/-- The class `[\x00-\x1f\x7f]`. -/
def isControl (c : Char) : Bool :=
  c.toNat ≤ 0x1f || c.toNat = 0x7f

def isAsciiDigit (c : Char) : Bool :=
  0x30 ≤ c.toNat && c.toNat ≤ 0x39

/-- The class `[0-9a-fA-F]`. -/
def isHexDigit (c : Char) : Bool :=
  isAsciiDigit c || (0x41 ≤ c.toNat && c.toNat ≤ 0x46) || (0x61 ≤ c.toNat && c.toNat ≤ 0x66)

def hexValue (c : Char) : Nat :=
  if isAsciiDigit c then c.toNat - 0x30
  else if c.toNat ≤ 0x46 then c.toNat - 0x37 else c.toNat - 0x57

/-- `int` reads this many digits at most. -/
def maxIntDigits : Nat := 4300

/-- `str.lower` on the ASCII letters, the identity elsewhere. -/
def asciiLower (c : Char) : Char :=
  if 0x41 ≤ c.toNat && c.toNat ≤ 0x5a then Char.ofNat (c.toNat + 0x20) else c

/-- `str.strip()`. -/
def strip (text : List Char) : List Char :=
  (text.dropWhile isSpace).rdropWhile isSpace

/-- `str.casefold()`: ASCII letters are lowered and every other character
folds to a fixed text of its own. -/
def casefold (foldNonAscii : Char → List Char) (text : List Char) : List Char :=
  text.flatMap (fun c => if c.toNat < 128 then [asciiLower c] else foldNonAscii c)

/-- On ASCII text folding is lowering, whatever the table says. -/
theorem casefold_of_ascii (foldNonAscii : Char → List Char) {text : List Char}
    (h : ∀ c ∈ text, c.toNat < 128) : casefold foldNonAscii text = text.map asciiLower := by
  induction text with
  | nil => rfl
  | cons c rest ih =>
      have hrest := ih (fun d hd => h d (List.mem_cons_of_mem _ hd))
      rw [casefold] at hrest ⊢
      simp [h c List.mem_cons_self, hrest]

theorem strip_of_no_space {text : List Char} (h : ∀ c ∈ text, isSpace c = false) :
    strip text = text := by
  have hleft : text.dropWhile isSpace = text := by
    cases text with
    | nil => rfl
    | cons c rest => simp [h c (by simp)]
  rw [strip, hleft]
  apply List.rdropWhile_eq_self_iff.mpr
  intro hne
  simp [h _ (List.getLast_mem hne)]

theorem strip_subset {text : List Char} {c : Char} (h : c ∈ strip text) : c ∈ text :=
  (List.dropWhile_sublist isSpace).subset
    ((List.rdropWhile_prefix isSpace _).subset h)

/-- Stripping twice is stripping once. -/
theorem strip_strip (text : List Char) : strip (strip text) = strip text := by
  have hleft : (strip text).dropWhile isSpace = strip text := by
    cases hs : strip text with
    | nil => rfl
    | cons c rest =>
        have hinitial : strip text <+: text.dropWhile isSpace :=
          List.rdropWhile_prefix isSpace _
        rw [hs] at hinitial
        obtain ⟨more, hmore⟩ := hinitial
        have hne : text.dropWhile isSpace ≠ [] := by
          rw [← hmore]
          simp
        have hhead := List.head_dropWhile_not isSpace (l := text) hne
        have hc : (text.dropWhile isSpace).head hne = c := by simp [← hmore]
        rw [hc] at hhead
        simp [hhead]
  rw [strip, hleft]
  simp [strip, List.rdropWhile_idempotent]

theorem isSpace_of_isHexDigit {c : Char} (h : isHexDigit c = true) : isSpace c = false := by
  simp only [isHexDigit, isAsciiDigit, Bool.or_eq_true, Bool.and_eq_true,
    decide_eq_true_eq] at h
  simp only [isSpace, Bool.or_eq_false_iff, Bool.and_eq_false_iff, decide_eq_false_iff_not]
  omega

theorem isControl_of_isHexDigit {c : Char} (h : isHexDigit c = true) : isControl c = false := by
  simp only [isHexDigit, isAsciiDigit, Bool.or_eq_true, Bool.and_eq_true,
    decide_eq_true_eq] at h
  simp only [isControl, Bool.or_eq_false_iff, decide_eq_false_iff_not]
  omega

theorem hexValue_lt {c : Char} (h : isHexDigit c = true) : hexValue c < 16 := by
  simp only [isHexDigit, isAsciiDigit, Bool.or_eq_true, Bool.and_eq_true, decide_eq_true_eq] at h
  simp only [hexValue, isAsciiDigit, Bool.and_eq_true, decide_eq_true_eq]
  split
  · omega
  · split <;> omega

theorem mem_splitOn {separator c : Char} {text : List Char} (h : c ∈ text) :
    c = separator ∨ ∃ part ∈ text.splitOn separator, c ∈ part := by
  induction text with
  | nil => cases h
  | cons first rest ih =>
      rw [List.splitOn_cons_eq_if_modifyHead]
      by_cases hfirst : first = separator
      · rw [if_pos (by simp [hfirst])]
        rcases List.mem_cons.mp h with rfl | hrest
        · exact .inl hfirst
        · rcases ih hrest with heq | ⟨part, hpart, hc⟩
          · exact .inl heq
          · exact .inr ⟨part, List.mem_cons_of_mem _ hpart, hc⟩
      · rw [if_neg (by simpa using hfirst)]
        cases hsplit : rest.splitOn separator with
        | nil => exact absurd hsplit (List.splitOn_ne_nil separator rest)
        | cons head tail =>
            rw [hsplit] at ih
            simp only [List.modifyHead_cons]
            rcases List.mem_cons.mp h with rfl | hrest
            · exact .inr ⟨_, List.mem_cons_self, List.mem_cons_self⟩
            · rcases ih hrest with heq | ⟨part, hpart, hc⟩
              · exact .inl heq
              · rcases List.mem_cons.mp hpart with rfl | hpart
                · exact .inr ⟨_, List.mem_cons_self, List.mem_cons_of_mem _ hc⟩
                · exact .inr ⟨part, List.mem_cons_of_mem _ hpart, hc⟩

end RouterKit.Lib.PyText
