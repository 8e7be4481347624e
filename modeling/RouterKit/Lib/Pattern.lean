import Mathlib.Data.List.Basic
import Mathlib.Data.List.DropRight
import Mathlib.Data.List.Forall2
import Mathlib.Data.List.Infix

/-!
Regular expressions without groups, with one letter of context on either side:
what a pattern accepts, and a matcher that tries the choices in their order of
preference, longest repetition first.
-/

namespace RouterKit.Lib

variable {α : Type}

inductive Pattern (α : Type) where
  | empty
  | one (accepts : α → Bool)
  | many (accepts : α → Bool)
  | seq (first second : Pattern α)
  | alt (first second : Pattern α)
  | notAfter (accepts : α → Bool)
  | notBefore (accepts : α → Bool)

namespace Pattern

/-- The pattern accepts `word` where it stands between `before` and `after`. -/
def Accepts : Pattern α → List α → List α → List α → Prop
  | empty, _, word, _ => word = []
  | one accepts, _, word, _ => ∃ c, accepts c = true ∧ word = [c]
  | many accepts, _, word, _ => ∀ c ∈ word, accepts c = true
  | seq first second, before, word, after => ∃ front back, word = front ++ back ∧
      first.Accepts before front (back ++ after) ∧ second.Accepts (before ++ front) back after
  | alt first second, before, word, after =>
      first.Accepts before word after ∨ second.Accepts before word after
  | notAfter accepts, before, word, _ => word = [] ∧ ∀ c ∈ before.getLast?, accepts c = false
  | notBefore accepts, _, word, after => word = [] ∧ ∀ c ∈ after.head?, accepts c = false

/-- `p{n}`. -/
def times : Nat → Pattern α → Pattern α
  | 0, _ => empty
  | n + 1, p => seq p (times n p)

/-- `p?`. -/
def optional (p : Pattern α) : Pattern α := alt p empty

/-- One letter after another, each from its own class. -/
def letters : List (α → Bool) → Pattern α
  | [] => empty
  | accepts :: rest => seq (one accepts) (letters rest)

def anyOf : List (Pattern α) → Pattern α
  | [] => one fun _ => false
  | [p] => p
  | p :: rest => alt p (anyOf rest)

/-- The lengths a repetition of a class can take at the head of a text, longest first. -/
def runLengths (accepts : α → Bool) : List α → List Nat
  | [] => [0]
  | c :: rest => if accepts c then (runLengths accepts rest).map (· + 1) ++ [0] else [0]

/-- The lengths of the words accepted at the head of `text`, in order of preference. -/
def lengths : Pattern α → List α → List α → List Nat
  | empty, _, _ => [0]
  | one accepts, _, text =>
      match text with
      | [] => []
      | c :: _ => if accepts c then [1] else []
  | many accepts, _, text => runLengths accepts text
  | seq first second, before, text =>
      (first.lengths before text).flatMap fun n =>
        (second.lengths (before ++ text.take n) (text.drop n)).map (n + ·)
  | alt first second, before, text => first.lengths before text ++ second.lengths before text
  | notAfter accepts, before, _ =>
      match before.getLast? with
      | some c => if accepts c then [] else [0]
      | none => [0]
  | notBefore accepts, _, text =>
      match text with
      | c :: _ => if accepts c then [] else [0]
      | [] => [0]

/-- Some word is accepted somewhere in the text. -/
def foundFrom (p : Pattern α) (before : List α) : List α → Bool
  | [] => !(p.lengths before []).isEmpty
  | c :: rest => !(p.lengths before (c :: rest)).isEmpty || p.foundFrom (before ++ [c]) rest

def found (p : Pattern α) (text : List α) : Bool := p.foundFrom [] text

/-- What is left when the words found from the left are removed. -/
def removeFrom (p : Pattern α) : Nat → List α → List α → List α
  | 0, _, text => text
  | _ + 1, _, [] => []
  | fuel + 1, before, c :: rest =>
      match (p.lengths before (c :: rest)).head? with
      | some (n + 1) =>
          p.removeFrom fuel (before ++ (c :: rest).take (n + 1)) ((c :: rest).drop (n + 1))
      | _ => c :: p.removeFrom fuel (before ++ [c]) rest

/-- Every step takes a letter, so the length of the text is fuel enough. -/
def remove (p : Pattern α) (text : List α) : List α := p.removeFrom text.length [] text

theorem mem_runLengths {accepts : α → Bool} {n : Nat} {text : List α} :
    n ∈ runLengths accepts text ↔ n ≤ text.length ∧ ∀ c ∈ text.take n, accepts c = true := by
  induction text generalizing n with
  | nil => simp [runLengths]
  | cons c rest ih =>
      unfold runLengths
      cases n with
      | zero => by_cases hc : accepts c = true <;> simp [hc]
      | succ n =>
          by_cases hc : accepts c = true
          · simp [hc, ih]
          · simp [hc]

private theorem mem_lengths_seq {first second : Pattern α} {before text : List α} {n : Nat}
    (ihf : ∀ {before text : List α} {n : Nat}, n ∈ first.lengths before text ↔
      n ≤ text.length ∧ first.Accepts before (text.take n) (text.drop n))
    (ihs : ∀ {before text : List α} {n : Nat}, n ∈ second.lengths before text ↔
      n ≤ text.length ∧ second.Accepts before (text.take n) (text.drop n)) :
    n ∈ (seq first second).lengths before text ↔
      n ≤ text.length ∧ (seq first second).Accepts before (text.take n) (text.drop n) := by
  simp only [lengths, Accepts, List.mem_flatMap, List.mem_map]
  constructor
  · rintro ⟨k, hk, m, hm, rfl⟩
    obtain ⟨hkle, hfirst⟩ := ihf.mp hk
    obtain ⟨hmle, hsecond⟩ := ihs.mp hm
    rw [List.length_drop] at hmle
    rw [List.drop_drop] at hsecond
    refine ⟨by omega, text.take k, (text.drop k).take m, List.take_add, ?_, hsecond⟩
    rwa [← List.drop_drop, List.take_append_drop]
  · rintro ⟨hn, front, back, htake, hfirst, hsecond⟩
    have htext : text = front ++ (back ++ text.drop n) := by
      rw [← List.append_assoc, ← htake, List.take_append_drop]
    have hsum : front.length + back.length = n := by
      have hlength := congrArg List.length htake
      rw [List.length_take, List.length_append] at hlength
      omega
    have hfront : text.take front.length = front := by
      rw [htext, List.take_left]
    have hback : text.drop front.length = back ++ text.drop n := by
      rw [htext, List.drop_left, ← htext]
    refine ⟨front.length, ihf.mpr ⟨by omega, ?_⟩, back.length, ihs.mpr ⟨?_, ?_⟩, hsum⟩
    · rwa [hfront, hback]
    · rw [List.length_drop]
      omega
    · rwa [hfront, hback, List.take_left, List.drop_left]

/-- The matcher finds the accepted words and no others. -/
theorem mem_lengths {p : Pattern α} {before text : List α} {n : Nat} :
    n ∈ p.lengths before text ↔
      n ≤ text.length ∧ p.Accepts before (text.take n) (text.drop n) := by
  induction p generalizing before text n with
  | empty =>
      simp only [lengths, Accepts, List.mem_singleton, List.take_eq_nil_iff]
      constructor
      · rintro rfl
        simp
      · rintro ⟨hn, rfl | rfl⟩
        · rfl
        · simpa using hn
  | one accepts =>
      cases text with
      | nil => simp [lengths, Accepts]
      | cons c rest =>
          have hone : n ≤ rest.length + 1 ∧ (∃ d, accepts d = true ∧ (c :: rest).take n = [d]) ↔
              n = 1 ∧ accepts c = true := by
            cases n with
            | zero => simp
            | succ n =>
                simp only [List.take_succ_cons, List.cons.injEq, List.take_eq_nil_iff]
                constructor
                · rintro ⟨hn, d, hd, rfl, rfl | rfl⟩
                  · exact ⟨rfl, hd⟩
                  · exact ⟨by simpa using hn, hd⟩
                · rintro ⟨hn, hc⟩
                  exact ⟨by omega, c, hc, rfl, .inl (by omega)⟩
          simp only [lengths, Accepts, List.length_cons, hone]
          by_cases hc : accepts c = true <;> simp [hc]
  | many accepts => exact mem_runLengths
  | seq first second ihf ihs => exact mem_lengths_seq ihf ihs
  | alt first second ihf ihs =>
      simp only [lengths, Accepts, List.mem_append, ihf, ihs, and_or_left]
  | notAfter accepts =>
      have hempty : n ≤ text.length ∧ text.take n = [] ↔ n = 0 := by
        rw [List.take_eq_nil_iff]
        constructor
        · rintro ⟨hn, rfl | rfl⟩
          · rfl
          · simpa using hn
        · rintro rfl
          simp
      simp only [lengths, Accepts, ← and_assoc, hempty]
      cases before.getLast? with
      | none => simp
      | some c => by_cases hc : accepts c = true <;> simp [hc]
  | notBefore accepts =>
      have hempty : n ≤ text.length ∧ text.take n = [] ∧
          (∀ c ∈ (text.drop n).head?, accepts c = false) ↔
          n = 0 ∧ ∀ c ∈ text.head?, accepts c = false := by
        rw [List.take_eq_nil_iff]
        constructor
        · rintro ⟨hn, rfl | rfl, hhead⟩
          · exact ⟨rfl, hhead⟩
          · simpa using hn
        · rintro ⟨rfl, hhead⟩
          exact ⟨Nat.zero_le _, .inl rfl, hhead⟩
      simp only [lengths, Accepts, hempty]
      cases text with
      | nil => simp
      | cons c rest => by_cases hc : accepts c = true <;> simp [hc]

/-- The matcher has a length to offer exactly when a word is accepted at the head. -/
private theorem lengths_ne_nil_iff {p : Pattern α} {before text : List α} :
    (!(p.lengths before text).isEmpty) = true ↔
      ∃ word after, text = word ++ after ∧ p.Accepts before word after := by
  rw [Bool.not_eq_true', List.isEmpty_eq_false_iff_exists_mem]
  constructor
  · rintro ⟨n, hn⟩
    exact ⟨text.take n, text.drop n, (List.take_append_drop n text).symm, (mem_lengths.mp hn).2⟩
  · rintro ⟨word, after, rfl, haccepts⟩
    refine ⟨word.length, mem_lengths.mpr ⟨by simp, ?_⟩⟩
    rwa [List.take_left, List.drop_left]

/-- Something is found exactly when some part of the text is accepted where it stands. -/
theorem foundFrom_iff {p : Pattern α} {before text : List α} :
    p.foundFrom before text = true ↔
      ∃ front word after, text = front ++ word ++ after ∧
        p.Accepts (before ++ front) word after := by
  induction text generalizing before with
  | nil =>
      rw [foundFrom, lengths_ne_nil_iff]
      constructor
      · rintro ⟨word, after, htext, haccepts⟩
        exact ⟨[], word, after, htext, by rwa [List.append_nil]⟩
      · rintro ⟨front, word, after, htext, haccepts⟩
        obtain ⟨rfl, rfl, rfl⟩ : front = [] ∧ word = [] ∧ after = [] := by
          simpa using htext.symm
        exact ⟨[], [], rfl, by rwa [List.append_nil] at haccepts⟩
  | cons c rest ih =>
      rw [foundFrom, Bool.or_eq_true, lengths_ne_nil_iff, ih]
      constructor
      · rintro (⟨word, after, htext, haccepts⟩ | ⟨front, word, after, rfl, haccepts⟩)
        · exact ⟨[], word, after, htext, by rwa [List.append_nil]⟩
        · refine ⟨c :: front, word, after, rfl, ?_⟩
          rwa [List.append_assoc, List.singleton_append] at haccepts
      · rintro ⟨front, word, after, htext, haccepts⟩
        cases front with
        | nil => exact .inl ⟨word, after, htext, by rwa [List.append_nil] at haccepts⟩
        | cons d front =>
            obtain ⟨rfl, htail⟩ := List.cons.inj htext
            refine .inr ⟨front, word, after, htail, ?_⟩
            rwa [List.append_assoc, List.singleton_append]

theorem found_iff {p : Pattern α} {text : List α} :
    p.found text = true ↔
      ∃ before word after, text = before ++ word ++ after ∧ p.Accepts before word after := by
  simp [found, foundFrom_iff]

theorem letters_accepts_iff {classes : List (α → Bool)} {before word after : List α} :
    (letters classes).Accepts before word after ↔
      List.Forall₂ (fun accepts c => accepts c = true) classes word := by
  induction classes generalizing before word with
  | nil => simp only [letters, Accepts, List.forall₂_nil_left_iff]
  | cons accepts rest ih =>
      simp only [letters, Accepts, ih]
      constructor
      · rintro ⟨front, back, rfl, ⟨c, hc, rfl⟩, hback⟩
        exact .cons hc hback
      · rintro (_ | ⟨hc, hrest⟩)
        exact ⟨[_], _, rfl, ⟨_, hc, rfl⟩, hrest⟩

theorem times_one_accepts {accepts : α → Bool} {n : Nat} {before word after : List α}
    (hlength : word.length = n) (hword : ∀ c ∈ word, accepts c = true) :
    (times n (one accepts)).Accepts before word after := by
  induction n generalizing before word with
  | zero => exact List.length_eq_zero_iff.mp hlength
  | succ n ih =>
      cases word with
      | nil => cases hlength
      | cons c rest =>
          refine ⟨[c], rest, rfl, ⟨c, hword c List.mem_cons_self, rfl⟩, ?_⟩
          exact ih (Nat.succ.inj hlength) fun d hd => hword d (List.mem_cons_of_mem _ hd)

theorem anyOf_accepts {patterns : List (Pattern α)} {p : Pattern α} {before word after : List α}
    (hp : p ∈ patterns) (haccepts : p.Accepts before word after) :
    (anyOf patterns).Accepts before word after := by
  induction patterns with
  | nil => cases hp
  | cons first rest ih =>
      cases rest with
      | nil =>
          rw [List.mem_singleton] at hp
          exact hp ▸ haccepts
      | cons second rest =>
          rcases List.mem_cons.mp hp with rfl | hrest
          · exact .inl haccepts
          · exact .inr (ih hrest)

/-- A maximal run of letters of a class, of at least `n`. -/
def longRun (n : Nat) (accepts : α → Bool) : Pattern α :=
  seq (notAfter accepts) (seq (times n (one accepts)) (seq (many accepts) (notBefore accepts)))

/-- Every run of `n` letters lies in a maximal one, which is found. -/
theorem found_longRun {n : Nat} {accepts : α → Bool} {run text : List α} (hrun : run <:+: text)
    (haccepts : ∀ c ∈ run, accepts c = true) (hlong : n ≤ run.length) :
    (longRun n accepts).found text = true := by
  obtain ⟨front, back, rfl⟩ := hrun
  let word := front.rtakeWhile accepts ++ run ++ back.takeWhile accepts
  have hword : ∀ c ∈ word, accepts c = true := by
    intro c hc
    rcases List.mem_append.mp hc with hc | hc
    · rcases List.mem_append.mp hc with hc | hc
      · exact List.mem_rtakeWhile_imp hc
      · exact haccepts c hc
    · exact List.mem_takeWhile_imp hc
  have hlength : n ≤ word.length := by
    simp only [word, List.length_append]
    omega
  have htext : front ++ run ++ back =
      front.rdropWhile accepts ++ word ++ back.dropWhile accepts := by
    calc front ++ run ++ back
        = (front.rdropWhile accepts ++ front.rtakeWhile accepts) ++ run ++
            (back.takeWhile accepts ++ back.dropWhile accepts) := by
          rw [List.rdropWhile_append_rtakeWhile, List.takeWhile_append_dropWhile]
      _ = _ := by simp only [word, List.append_assoc]
  rw [found_iff]
  refine ⟨_, word, _, htext, [], word, rfl, ⟨rfl, ?_⟩, word.take n, word.drop n,
    (List.take_append_drop n word).symm, ?_, word.drop n, [], (List.append_nil _).symm, ?_, rfl, ?_⟩
  · intro c hc
    obtain ⟨hne, rfl⟩ := List.mem_getLast?_eq_getLast hc
    exact Bool.eq_false_iff.mpr (List.rdropWhile_last_not accepts front hne)
  · exact times_one_accepts (by rw [List.length_take]; omega)
      fun c hc => hword c (List.mem_of_mem_take hc)
  · exact fun c hc => hword c (List.mem_of_mem_drop hc)
  · intro c hc
    have hhead := List.head?_dropWhile_not accepts back
    rwa [Option.mem_def.mp hc] at hhead

end Pattern

end RouterKit.Lib
