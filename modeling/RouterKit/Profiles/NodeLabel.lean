import RouterKit.Lib.Pattern

/-!
The label of a node as it is shown. A label comes from the fragment of an
untrusted link and may hold any code point, lone surrogates among them, so a
text is a list of code points here.
-/

namespace RouterKit.Profiles

open RouterKit.Lib RouterKit.Lib.Pattern

/-- The code points of a literal. -/
def codes (text : String) : List Nat := text.toList.map Char.toNat

def maxCandidateLinks : Nat := 4096

def maxLabelLength : Nat := 48

def between (low high c : Nat) : Bool := low ≤ c && c ≤ high

def exactly (letter c : Nat) : Bool := c = letter

/-- What `str.split`, `str.strip` and `str.rstrip` take away. -/
def isSpaceCode (c : Nat) : Bool :=
  between 0x09 0x0d c || between 0x1c 0x20 c || c = 0x85 || c = 0xa0 || c = 0x1680 ||
    between 0x2000 0x200a c || c = 0x2028 || c = 0x2029 || c = 0x202f || c = 0x205f || c = 0x3000

/-- `[\x00-\x1f\x7f-\x9f]`. -/
def isControlCode (c : Nat) : Bool := between 0x00 0x1f c || between 0x7f 0x9f c

def isDigitCode (c : Nat) : Bool := between 0x30 0x39 c

/-- `[A-Za-z0-9_-]`. -/
def isTokenCode (c : Nat) : Bool :=
  between 0x41 0x5a c || between 0x61 0x7a c || isDigitCode c || c = 0x5f || c = 0x2d

/-- `(?i)[0-9a-f]`. -/
def isHexCode (c : Nat) : Bool := isDigitCode c || between 0x41 0x46 c || between 0x61 0x66 c

def lowerCode (c : Nat) : Nat := if between 0x41 0x5a c then c + 0x20 else c

/-- A lower-case letter under `(?i)`: besides its capital, `i` stands for the dotted
capital and the dotless i, `s` for the long s and `k` for the Kelvin sign. -/
def ignoringCase (letter c : Nat) : Bool :=
  lowerCode c = letter || (letter = 0x69 && (c = 0x130 || c = 0x131)) ||
    (letter = 0x73 && c = 0x17f) || (letter = 0x6b && c = 0x212a)

/-- A control sequence, or a system command up to the first bell, else up to the last
string terminator. -/
def ansiPattern : Pattern Nat :=
  seq (one (exactly 0x1b)) (alt
    (seq (one (exactly 0x5b)) (seq (many (between 0x30 0x3f)) (seq (many (between 0x20 0x2f))
      (one (between 0x40 0x7e)))))
    (seq (one (exactly 0x5d)) (seq (many (fun c => !exactly 0x07 c))
      (alt (one (exactly 0x07)) (letters [exactly 0x1b, exactly 0x5c])))))

def hexGroups : List Nat → Pattern Nat
  | [] => Pattern.empty
  | [n] => times n (one isHexCode)
  | n :: rest => seq (times n (one isHexCode)) (seq (one (exactly 0x2d)) (hexGroups rest))

def uuidPattern : Pattern Nat :=
  seq (notAfter isHexCode) (seq (hexGroups [8, 4, 4, 4, 12]) (notBefore isHexCode))

def tokenPattern : Pattern Nat := longRun 24 isTokenCode

def wordPattern (word : String) : Pattern Nat := letters ((codes word).map ignoringCase)

/-- `first[ _-]?second`. -/
def pairPattern (first second : String) : Pattern Nat :=
  seq (wordPattern first) (seq (Pattern.optional (one fun c => c = 0x20 || c = 0x5f || c = 0x2d))
    (wordPattern second))

def unsafeLabelWordPattern : Pattern Nat :=
  anyOf [wordPattern "secret", wordPattern "credential", wordPattern "password",
    wordPattern "passwd", wordPattern "bearer", pairPattern "private" "key",
    pairPattern "public" "key", pairPattern "short" "id", pairPattern "access" "token"]

/-- `str.split()`. -/
def splitSpaces (text : List Nat) : List (List Nat) :=
  (text.splitOnP isSpaceCode).filter (· ≠ [])

def rstripSpaces (text : List Nat) : List Nat := text.rdropWhile isSpaceCode

def stripSpaces (text : List Nat) : List Nat := rstripSpaces (text.dropWhile isSpaceCode)

/-- The text that is checked: escape sequences removed, control characters
blanked, blanks folded. -/
def foldedLabel (label : List Nat) : List Nat :=
  let value := ansiPattern.remove label
  let value := value.map fun c => if isControlCode c then 0x20 else c
  stripSpaces ([0x20].intercalate (splitSpaces value))

def unsafeLabel (value : List Nat) : Bool :=
  value = [] || codes "://" <:+: value || value.contains 0x40 || uuidPattern.found value ||
    tokenPattern.found value || unsafeLabelWordPattern.found value

def fallbackLabel (fallbackIndex : Nat) : List Nat :=
  codes "Node " ++ (Nat.toDigits 10 fallbackIndex).map Char.toNat

/-- `safe_label(label, fallback_index)`. -/
def safeLabel (label : List Nat) (fallbackIndex : Nat) : List Nat :=
  let value := foldedLabel label
  if unsafeLabel value then fallbackLabel fallbackIndex
  else
    let value := if value.length > maxLabelLength then
        rstripSpaces (value.take (maxLabelLength - 1)) ++ codes "…"
      else value
    if value ≠ [] then value else fallbackLabel fallbackIndex

/-- The listed word in any case. -/
def Spells (listed : String) (word : List Nat) : Prop :=
  List.Forall₂ (fun letter c => ignoringCase letter c = true) (codes listed) word

/-- A listed credential word, two parts of which a blank, `_` or `-` may separate. -/
def CredentialWord (word : List Nat) : Prop :=
  (∃ listed ∈ ["secret", "credential", "password", "passwd", "bearer"], Spells listed word) ∨
    ∃ pair ∈ [("private", "key"), ("public", "key"), ("short", "id"), ("access", "token")],
      ∃ first separator second, word = first ++ separator ++ second ∧ Spells pair.1 first ∧
        (separator = [] ∨ separator = codes " " ∨ separator = codes "_" ∨ separator = codes "-") ∧
        Spells pair.2 second

/-- Five groups of hexadecimal digits between dashes. -/
def IsUuid (word : List Nat) : Prop :=
  ∃ groups : List (List Nat), groups.map List.length = [8, 4, 4, 4, 12] ∧
    (∀ group ∈ groups, ∀ digit ∈ group, isHexCode digit = true) ∧
    word = [0x2d].intercalate groups

/-- A text that `_PUBLIC_KEY_RE` matches. -/
def IsPublicKey (word : List Nat) : Prop :=
  32 ≤ word.length ∧ word.length ≤ 64 ∧ ∀ c ∈ word, isTokenCode c = true

/-- Nothing that the checks look for is part of the text. -/
structure Clean (text : List Nat) : Prop where
  no_control : ∀ c ∈ text, isControlCode c = false
  no_scheme : ¬ codes "://" <:+: text
  no_at : 0x40 ∉ text
  no_run : ∀ run, run <:+: text → (∀ c ∈ run, isTokenCode c = true) → run.length < 24
  no_word : ∀ word, word <:+: text → ¬ CredentialWord word

structure DisplaySafe (shown : List Nat) : Prop where
  nonempty : shown ≠ []
  short : shown.length ≤ 48
  clean : Clean shown
  no_escape : ansiPattern.found shown = false
  no_uuid : ∀ word, word <:+: shown → ¬ IsUuid word
  no_public_key : ∀ word, word <:+: shown → ¬ IsPublicKey word

private theorem mem_of_mem_splitOnP {α : Type} {p : α → Bool} {text part : List α} {c : α}
    (hpart : part ∈ text.splitOnP p) (hc : c ∈ part) : c ∈ text := by
  induction text generalizing part with
  | nil =>
      rw [List.splitOnP_nil, List.mem_singleton] at hpart
      exact hpart ▸ hc
  | cons first rest ih =>
      rw [List.splitOnP_cons_eq_if_modifyHead] at hpart
      by_cases hfirst : p first = true
      · rw [if_pos hfirst] at hpart
        rcases List.mem_cons.mp hpart with rfl | hrest
        · cases hc
        · exact List.mem_cons_of_mem _ (ih hrest hc)
      · rw [if_neg hfirst] at hpart
        cases hsplit : rest.splitOnP p with
        | nil => exact absurd hsplit (List.splitOnP_ne_nil p rest)
        | cons head others =>
            rw [hsplit, List.modifyHead_cons] at hpart
            rcases List.mem_cons.mp hpart with rfl | hothers
            · rcases List.mem_cons.mp hc with rfl | hhead
              · exact List.mem_cons_self
              · exact List.mem_cons_of_mem _ (ih (hsplit ▸ List.mem_cons_self) hhead)
            · exact List.mem_cons_of_mem _ (ih (hsplit ▸ List.mem_cons_of_mem _ hothers) hc)

private theorem mem_of_mem_intercalate {α : Type} {separator : List α} {parts : List (List α)}
    {c : α} (hc : c ∈ separator.intercalate parts) : c ∈ separator ∨ ∃ part ∈ parts, c ∈ part := by
  induction parts with
  | nil => cases hc
  | cons part rest ih =>
      cases rest with
      | nil =>
          rw [List.intercalate_singleton] at hc
          exact .inr ⟨part, List.mem_cons_self, hc⟩
      | cons next rest =>
          rw [List.intercalate_cons_cons] at hc
          rcases List.mem_append.mp hc with hc | hc
          · rcases List.mem_append.mp hc with hc | hc
            · exact .inr ⟨part, List.mem_cons_self, hc⟩
            · exact .inl hc
          · rcases ih hc with hseparator | ⟨other, hother, hc⟩
            · exact .inl hseparator
            · exact .inr ⟨other, List.mem_cons_of_mem _ hother, hc⟩

private theorem flatten_length_le_intercalate {α : Type} (separator : List α)
    (parts : List (List α)) : parts.flatten.length ≤ (separator.intercalate parts).length := by
  induction parts with
  | nil => exact Nat.le_refl 0
  | cons part rest ih =>
      cases rest with
      | nil => simp
      | cons next rest =>
          rw [List.intercalate_cons_cons, List.flatten_cons, List.length_append,
            List.length_append, List.length_append]
          omega

theorem foldedLabel_no_control (label : List Nat) :
    ∀ c ∈ foldedLabel label, isControlCode c = false := by
  intro c hc
  have hjoined := (List.dropWhile_sublist _).subset ((List.rdropWhile_prefix _ _).subset hc)
  rcases mem_of_mem_intercalate hjoined with hblank | ⟨part, hpart, hc⟩
  · rw [List.mem_singleton.mp hblank]
    rfl
  · have hmapped := mem_of_mem_splitOnP (List.mem_of_mem_filter hpart) hc
    obtain ⟨d, _, rfl⟩ := List.mem_map.mp hmapped
    split
    · rfl
    · simp_all

theorem credentialWord_accepted {word : List Nat} (hword : CredentialWord word)
    (before after : List Nat) : unsafeLabelWordPattern.Accepts before word after := by
  have hspells : ∀ {listed : String} {part : List Nat} (before after : List Nat),
      Spells listed part → (wordPattern listed).Accepts before part after := by
    intro listed part before after hspells
    rw [wordPattern, letters_accepts_iff, List.forall₂_map_left_iff]
    exact hspells
  rcases hword with ⟨listed, hlisted, hword⟩ | ⟨pair, hpair, first, separator, second, rfl, hfirst,
    hseparator, hsecond⟩
  · refine anyOf_accepts (p := wordPattern listed) ?_ (hspells before after hword)
    simp only [List.mem_cons, List.not_mem_nil, or_false] at hlisted
    rcases hlisted with rfl | rfl | rfl | rfl | rfl <;> simp
  · refine anyOf_accepts (p := pairPattern pair.1 pair.2) ?_ ?_
    · simp only [List.mem_cons, List.not_mem_nil, or_false] at hpair
      rcases hpair with rfl | rfl | rfl | rfl <;> simp
    · refine ⟨first, separator ++ second, List.append_assoc _ _ _, hspells _ _ hfirst, separator,
        second, rfl, ?_, hspells _ _ hsecond⟩
      rcases hseparator with rfl | rfl | rfl | rfl
      · exact .inr rfl
      · exact .inl ⟨_, rfl, rfl⟩
      · exact .inl ⟨_, rfl, rfl⟩
      · exact .inl ⟨_, rfl, rfl⟩

theorem foldedLabel_clean {label : List Nat} (hsafe : unsafeLabel (foldedLabel label) = false) :
    Clean (foldedLabel label) := by
  simp only [unsafeLabel, Bool.or_eq_false_iff, decide_eq_false_iff_not,
    List.contains_eq_mem] at hsafe
  obtain ⟨⟨⟨⟨⟨-, hscheme⟩, hat⟩, -⟩, htoken⟩, hwords⟩ := hsafe
  refine ⟨foldedLabel_no_control label, hscheme, hat, ?_, ?_⟩
  · intro run hrun haccepts
    by_contra hlong
    have hfound := found_longRun hrun haccepts (n := 24) (by omega)
    rw [← tokenPattern, htoken] at hfound
    cases hfound
  · rintro word ⟨front, back, htext⟩ hword
    have hfound := found_iff.mpr ⟨front, word, back, htext.symm, credentialWord_accepted hword _ _⟩
    rw [hwords] at hfound
    cases hfound

theorem Clean.of_prefix {part text : List Nat} (hpart : part <+: text) (h : Clean text) :
    Clean part where
  no_control := fun c hc => h.no_control c (hpart.subset hc)
  no_scheme := fun hscheme => h.no_scheme (hscheme.trans hpart.isInfix)
  no_at := fun hat => h.no_at (hpart.subset hat)
  no_run := fun run hrun => h.no_run run (hrun.trans hpart.isInfix)
  no_word := fun word hword => h.no_word word (hword.trans hpart.isInfix)

private theorem infix_of_infix_concat {α : Type} {part text : List α} {c : α} (hc : c ∉ part)
    (hpart : part <:+: text ++ [c]) : part <:+: text := by
  rcases List.infix_concat_iff.mp hpart with hsuffix | hinfix
  · rcases List.suffix_concat_iff.mp hsuffix with rfl | ⟨front, rfl, _⟩
    · exact List.nil_infix
    · exact absurd (List.mem_append_right front List.mem_cons_self) hc
  · exact hinfix

private theorem forall₂_exists_left {α β : Type} {R : α → β → Prop} {letters : List α}
    {word : List β} (h : List.Forall₂ R letters word) {c : β} (hc : c ∈ word) :
    ∃ letter ∈ letters, R letter c := by
  induction h with
  | nil => cases hc
  | cons hhead _ ih =>
      rcases List.mem_cons.mp hc with rfl | hrest
      · exact ⟨_, List.mem_cons_self, hhead⟩
      · obtain ⟨letter, hletter, hmatches⟩ := ih hrest
        exact ⟨letter, List.mem_cons_of_mem _ hletter, hmatches⟩

private theorem spells_initial {listed : String} {word : List Nat} (h : Spells listed word)
    (hinitial : ∃ initial rest, codes listed = initial :: rest ∧ initial ∈ codes "abcps") :
    ∃ c ∈ word, ∃ letter ∈ codes "abcps", ignoringCase letter c = true := by
  obtain ⟨initial, rest, hcodes, hmem⟩ := hinitial
  unfold Spells at h
  rw [hcodes] at h
  cases h with
  | cons hhead _ => exact ⟨_, List.mem_cons_self, initial, hmem, hhead⟩

/-- The listed words begin with one of five letters. -/
private theorem credentialWord_initial {word : List Nat} (h : CredentialWord word) :
    ∃ c ∈ word, ∃ letter ∈ codes "abcps", ignoringCase letter c = true := by
  rcases h with ⟨listed, hlisted, hword⟩ |
      ⟨pair, hpair, first, separator, second, rfl, hfirst, -, -⟩
  · simp only [List.mem_cons, List.not_mem_nil, or_false] at hlisted
    rcases hlisted with rfl | rfl | rfl | rfl | rfl <;>
      exact spells_initial hword ⟨_, _, rfl, by decide⟩
  · simp only [List.mem_cons, List.not_mem_nil, or_false] at hpair
    have hinitial : ∃ c ∈ first, ∃ letter ∈ codes "abcps", ignoringCase letter c = true := by
      rcases hpair with rfl | rfl | rfl | rfl <;>
        exact spells_initial hfirst ⟨_, _, rfl, by decide⟩
    obtain ⟨c, hc, hletter⟩ := hinitial
    exact ⟨c, List.mem_append_left _ (List.mem_append_left _ hc), hletter⟩

private theorem spells_no_ellipsis {listed : String} {word : List Nat} (h : Spells listed word)
    (hletters : ∀ letter ∈ codes listed, between 0x61 0x7a letter = true) : 0x2026 ∉ word := by
  intro hellipsis
  obtain ⟨letter, hletter, hmatches⟩ := forall₂_exists_left h hellipsis
  have hbetween := hletters letter hletter
  simp only [between, Bool.and_eq_true, decide_eq_true_eq] at hbetween
  have hlower : lowerCode 0x2026 = 0x2026 := rfl
  simp [ignoringCase, hlower] at hmatches
  omega

private theorem credentialWord_no_ellipsis {word : List Nat} (h : CredentialWord word) :
    0x2026 ∉ word := by
  rcases h with ⟨listed, hlisted, hword⟩ | ⟨pair, hpair, first, separator, second, rfl, hfirst,
    hseparator, hsecond⟩
  · simp only [List.mem_cons, List.not_mem_nil, or_false] at hlisted
    rcases hlisted with rfl | rfl | rfl | rfl | rfl <;> exact spells_no_ellipsis hword (by decide)
  · simp only [List.mem_cons, List.not_mem_nil, or_false] at hpair
    have hends : 0x2026 ∉ first ∧ 0x2026 ∉ second := by
      rcases hpair with rfl | rfl | rfl | rfl <;>
        exact ⟨spells_no_ellipsis hfirst (by decide), spells_no_ellipsis hsecond (by decide)⟩
    have hmiddle : 0x2026 ∉ separator := by
      rcases hseparator with rfl | rfl | rfl | rfl <;> decide
    simp only [List.mem_append, not_or]
    exact ⟨⟨hends.1, hmiddle⟩, hends.2⟩

theorem Clean.append_ellipsis {text : List Nat} (h : Clean text) : Clean (text ++ codes "…") where
  no_control := by
    intro c hc
    rcases List.mem_append.mp hc with hc | hc
    · exact h.no_control c hc
    · rw [List.mem_singleton.mp hc]
      rfl
  no_scheme := fun hscheme => h.no_scheme (infix_of_infix_concat (by decide) hscheme)
  no_at := by
    intro hat
    rcases List.mem_append.mp hat with hat | hat
    · exact h.no_at hat
    · exact absurd hat (by decide)
  no_run := by
    intro run hrun haccepts
    have hellipsis : 0x2026 ∉ run := fun hc => absurd (haccepts _ hc) (by decide)
    exact h.no_run run (infix_of_infix_concat hellipsis hrun) haccepts
  no_word := by
    intro word hword hcredential
    exact h.no_word word (infix_of_infix_concat (credentialWord_no_ellipsis hcredential) hword)
      hcredential

private theorem fallbackLabel_all {P : Nat → Prop} {fallbackIndex : Nat}
    (hnode : ∀ c ∈ codes "Node ", P c) (hdigits : ∀ digit < 10, P (0x30 + digit)) :
    ∀ c ∈ fallbackLabel fallbackIndex, P c := by
  intro c hc
  rcases List.mem_append.mp hc with hc | hc
  · exact hnode c hc
  · obtain ⟨digit, hdigit, rfl⟩ := List.mem_map.mp hc
    have hisDigit := Nat.isDigit_of_mem_toDigits (by decide) (by decide) hdigit
    simp only [Char.isDigit, Bool.and_eq_true, decide_eq_true_eq, UInt32.le_iff_toNat_le,
      ge_iff_le] at hisDigit
    have hlow : 0x30 ≤ digit.toNat := hisDigit.1
    have hhigh : digit.toNat ≤ 0x39 := hisDigit.2
    have hcode := hdigits (digit.toNat - 0x30) (by omega)
    rwa [Nat.add_sub_cancel' hlow] at hcode

private theorem fallbackLabel_length {fallbackIndex : Nat}
    (hindex : fallbackIndex ≤ maxCandidateLinks) : (fallbackLabel fallbackIndex).length ≤ 9 := by
  have hdigits : (Nat.toDigits 10 fallbackIndex).length ≤ 4 := by
    rw [Nat.length_toDigits_le_iff (by decide) (by decide)]
    unfold maxCandidateLinks at hindex
    omega
  rw [fallbackLabel, List.length_append, List.length_map]
  exact Nat.add_le_add (Nat.le_refl 5) hdigits

theorem fallbackLabel_clean {fallbackIndex : Nat} (hindex : fallbackIndex ≤ maxCandidateLinks) :
    Clean (fallbackLabel fallbackIndex) where
  no_control := fallbackLabel_all (P := (isControlCode · = false)) (by decide) (by decide)
  no_scheme := by
    intro hscheme
    have hcolon : 0x3a ∈ fallbackLabel fallbackIndex := hscheme.subset (by decide)
    exact fallbackLabel_all (P := (· ≠ 0x3a)) (by decide) (by decide) _ hcolon rfl
  no_at := fun hat => fallbackLabel_all (P := (· ≠ 0x40)) (by decide) (by decide) _ hat rfl
  no_run := by
    intro run hrun _
    have hlabel := fallbackLabel_length hindex
    have hlength := hrun.length_le
    omega
  no_word := by
    intro word hword hcredential
    obtain ⟨c, hc, letter, hletter, hmatches⟩ := credentialWord_initial hcredential
    have hnone : ∀ c ∈ fallbackLabel fallbackIndex, ∀ letter ∈ codes "abcps",
        ignoringCase letter c = false :=
      fallbackLabel_all (P := fun c => ∀ letter ∈ codes "abcps", ignoringCase letter c = false)
        (by decide) (by decide)
    rw [hnone c (hword.subset hc) letter hletter] at hmatches
    cases hmatches

theorem Clean.no_escape {text : List Nat} (h : Clean text) : ansiPattern.found text = false := by
  rw [Bool.eq_false_iff, Ne, found_iff]
  rintro ⟨before, word, after, rfl, front, back, rfl, ⟨c, hescape, rfl⟩, -⟩
  have hcontrol := h.no_control c (by simp)
  rw [exactly, decide_eq_true_eq] at hescape
  rw [hescape] at hcontrol
  cases hcontrol

private theorem isTokenCode_of_isHexCode {c : Nat} (h : isHexCode c = true) :
    isTokenCode c = true := by
  simp only [isHexCode, isTokenCode, isDigitCode, between, Bool.or_eq_true, Bool.and_eq_true,
    decide_eq_true_eq] at h ⊢
  omega

theorem Clean.no_uuid {text : List Nat} (h : Clean text) :
    ∀ word, word <:+: text → ¬ IsUuid word := by
  rintro word hword ⟨groups, hlengths, hdigits, rfl⟩
  have hlong : 24 ≤ ([0x2d].intercalate groups).length := by
    refine Nat.le_trans ?_ (flatten_length_le_intercalate [0x2d] groups)
    obtain ⟨first, rest, rfl, hfirst, hrest⟩ := List.map_eq_cons_iff.mp hlengths
    obtain ⟨second, rest, rfl, hsecond, hrest⟩ := List.map_eq_cons_iff.mp hrest
    obtain ⟨third, rest, rfl, hthird, hrest⟩ := List.map_eq_cons_iff.mp hrest
    obtain ⟨fourth, rest, rfl, hfourth, hrest⟩ := List.map_eq_cons_iff.mp hrest
    obtain ⟨fifth, rest, rfl, hfifth, -⟩ := List.map_eq_cons_iff.mp hrest
    simp only [List.flatten_cons, List.length_append]
    omega
  have hshort := h.no_run _ hword ?_
  · omega
  · intro code hcode
    rcases mem_of_mem_intercalate hcode with hdash | ⟨group, hgroup, hcode⟩
    · rw [List.mem_singleton.mp hdash]
      rfl
    · exact isTokenCode_of_isHexCode (hdigits group hgroup code hcode)

theorem Clean.no_public_key {text : List Nat} (h : Clean text) :
    ∀ word, word <:+: text → ¬ IsPublicKey word := by
  rintro word hword ⟨hlong, -, hcodes⟩
  have hshort := h.no_run word hword hcodes
  omega

theorem Clean.displaySafe {text : List Nat} (h : Clean text) (hnonempty : text ≠ [])
    (hshort : text.length ≤ 48) : DisplaySafe text :=
  ⟨hnonempty, hshort, h, h.no_escape, h.no_uuid, h.no_public_key⟩

/-- Every label of a node that a listing shows, for the indexes that listings count. -/
theorem safe_label_is_display_safe (label : List Nat) (fallbackIndex : Nat)
    (hindex : 1 ≤ fallbackIndex ∧ fallbackIndex ≤ maxCandidateLinks) :
    DisplaySafe (safeLabel label fallbackIndex) := by
  have hfallback : DisplaySafe (fallbackLabel fallbackIndex) := by
    have hlength := fallbackLabel_length hindex.2
    exact (fallbackLabel_clean hindex.2).displaySafe (by simp [fallbackLabel, codes]) (by omega)
  unfold safeLabel
  cases hblocked : unsafeLabel (foldedLabel label) with
  | true =>
      simp only [hblocked, if_true]
      exact hfallback
  | false =>
      have hclean := foldedLabel_clean hblocked
      simp only [hblocked, Bool.false_eq_true, if_false]
      by_cases hlong : (foldedLabel label).length > maxLabelLength
      · have hprefix : rstripSpaces ((foldedLabel label).take (maxLabelLength - 1)) <+:
            foldedLabel label :=
          (List.rdropWhile_prefix _ _).trans (List.take_prefix _ _)
        have hlength : (rstripSpaces ((foldedLabel label).take (maxLabelLength - 1))).length ≤
            47 := by
          refine (List.rdropWhile_prefix _ _).length_le.trans ?_
          rw [List.length_take]
          exact Nat.min_le_left _ _
        have hne : rstripSpaces ((foldedLabel label).take (maxLabelLength - 1)) ++ codes "…" ≠
            [] := by
          simp [codes]
        rw [if_pos hlong, if_pos hne]
        refine (hclean.of_prefix hprefix).append_ellipsis.displaySafe hne ?_
        rw [List.length_append]
        exact Nat.add_le_add hlength (Nat.le_refl 1)
      · rw [if_neg hlong]
        by_cases hne : foldedLabel label ≠ []
        · rw [if_pos hne]
          exact hclean.displaySafe hne (by unfold maxLabelLength at hlong; omega)
        · rw [if_neg hne]
          exact hfallback

/-- A coloured label. -/
theorem safe_label_is_display_safe_sample :
    safeLabel (codes "Region \x1b[31mName\x1b[0m") 7 = codes "Region Name" ∧
      DisplaySafe (safeLabel (codes "Region \x1b[31mName\x1b[0m") 7) :=
  ⟨by decide, safe_label_is_display_safe _ 7 (by decide)⟩

end RouterKit.Profiles
