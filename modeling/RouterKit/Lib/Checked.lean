import Mathlib.Data.List.Basic
import Mathlib.Data.List.Forall2

/-!
Computations that check and may raise, over `Except`. A check in the modelled
style raises when a condition holds; what an accepted run has passed is then a
conjunction, read off with the lemmas below.
-/

namespace RouterKit.Lib.Checked

universe u v

variable {ε : Type u} {α β : Type v}

/-- Raise `error` when `condition` holds. -/
def raiseIf (condition : Prop) [Decidable condition] (error : ε) : Except ε Unit :=
  if condition then .error error else .ok ()

@[simp] theorem raiseIf_eq_ok {condition : Prop} [Decidable condition] {error : ε} {u : Unit} :
    raiseIf condition error = .ok u ↔ ¬ condition := by
  unfold raiseIf
  split <;> simp [*]

@[simp] theorem raiseIf_eq_error {condition : Prop} [Decidable condition] {error error' : ε} :
    raiseIf condition error = .error error' ↔ condition ∧ error = error' := by
  unfold raiseIf
  split <;> simp [*]

@[simp] theorem raiseIf_false {error : ε} : raiseIf False error = .ok () := rfl

theorem bind_eq_ok {x : Except ε α} {f : α → Except ε β} {b : β} :
    (x >>= f) = .ok b ↔ ∃ a, x = .ok a ∧ f a = .ok b := by
  cases x with
  | error e => simp [bind, Except.bind]
  | ok a => simp [bind, Except.bind]

/-- What a check hands on carries no information. -/
@[simp] theorem exists_unit {p : Unit → Prop} : (∃ u, p u) ↔ p () :=
  ⟨fun ⟨_, h⟩ => h, fun h => ⟨(), h⟩⟩

theorem bind_eq_error {x : Except ε α} {f : α → Except ε β} {e : ε} :
    (x >>= f) = .error e ↔ x = .error e ∨ ∃ a, x = .ok a ∧ f a = .error e := by
  cases x with
  | error e' => simp [bind, Except.bind]
  | ok a => simp [bind, Except.bind]

@[simp] theorem bind_ok_left {a : α} {f : α → Except ε β} : (Except.ok a >>= f) = f a := rfl

@[simp] theorem bind_error_left {e : ε} {f : α → Except ε β} :
    (Except.error e >>= f) = .error e := rfl

@[simp] theorem pure_eq_ok {a b : α} : (pure a : Except ε α) = .ok b ↔ a = b := by
  simp [pure, Except.pure]

@[simp] theorem throw_ne_ok {e : ε} {a : α} : (throw e : Except ε α) ≠ .ok a := by
  simp [throw, throwThe, MonadExceptOf.throw]

@[simp] theorem mapError_eq_ok {ε' : Type u} {x : Except ε α} {f : ε → ε'} {a : α} :
    x.mapError f = .ok a ↔ x = .ok a := by
  cases x <;> simp [Except.mapError]

/-- Run one check after another over a list; the first failure is raised. -/
def checkEach (check : α → Except ε Unit) : List α → Except ε Unit
  | [] => .ok ()
  | a :: rest => do
      check a
      checkEach check rest

theorem checkEach_nil {check : α → Except ε Unit} : checkEach check [] = .ok () := rfl

theorem checkEach_cons {check : α → Except ε Unit} {a : α} {rest : List α} :
    checkEach check (a :: rest) = (check a >>= fun _ => checkEach check rest) := rfl

theorem checkEach_eq_ok {check : α → Except ε Unit} {entries : List α} {u : Unit} :
    checkEach check entries = .ok u ↔ ∀ a ∈ entries, check a = .ok () := by
  induction entries with
  | nil => simp [checkEach_nil]
  | cons a rest ih =>
      simp only [checkEach_cons, bind_eq_ok, exists_unit, ih, List.forall_mem_cons]

/-- Build a list one entry at a time; the first failure is raised. -/
def mapEach {γ : Type v} (f : γ → Except ε α) : List γ → Except ε (List α)
  | [] => .ok []
  | c :: rest => do
      let a ← f c
      let more ← mapEach f rest
      pure (a :: more)

theorem mapEach_nil {γ : Type v} {f : γ → Except ε α} : mapEach f [] = .ok [] := rfl

theorem mapEach_cons {γ : Type v} {f : γ → Except ε α} {c : γ} {rest : List γ} :
    mapEach f (c :: rest) = (f c >>= fun a => mapEach f rest >>= fun more => pure (a :: more)) :=
  rfl

theorem mapEach_eq_map {γ : Type v} {f : γ → Except ε α} {g : γ → α} {entries : List γ}
    (h : ∀ c ∈ entries, f c = .ok (g c)) : mapEach f entries = .ok (entries.map g) := by
  induction entries with
  | nil => rfl
  | cons c rest ih =>
      simp only [mapEach_cons, h c List.mem_cons_self, bind_ok_left,
        ih (fun d hd => h d (List.mem_cons_of_mem _ hd))]
      rfl

/-- Entries that come back from what was made of them. -/
theorem mapEach_map {γ : Type v} {f : γ → Except ε α} {g : α → γ} {entries : List α}
    (h : ∀ a ∈ entries, f (g a) = .ok a) : mapEach f (entries.map g) = .ok entries := by
  induction entries with
  | nil => rfl
  | cons a rest ih =>
      simp only [List.map_cons, mapEach_cons, h a List.mem_cons_self, bind_ok_left,
        ih (fun b hb => h b (List.mem_cons_of_mem _ hb))]
      rfl

theorem mapEach_eq_ok {γ : Type v} {f : γ → Except ε α} {entries : List γ} {results : List α} :
    mapEach f entries = .ok results ↔ List.Forall₂ (fun c a => f c = .ok a) entries results := by
  induction entries generalizing results with
  | nil =>
      rw [mapEach_nil, List.forall₂_nil_left_iff, Except.ok.injEq]
      exact eq_comm
  | cons c rest ih =>
      simp only [mapEach_cons, bind_eq_ok, pure_eq_ok, ih, List.forall₂_cons_left_iff]
      constructor
      · rintro ⟨a, hc, more, hrest, rfl⟩
        exact ⟨a, more, hc, hrest, rfl⟩
      · rintro ⟨a, more, hc, hrest, rfl⟩
        exact ⟨a, hc, more, hrest, rfl⟩

/-- Every result comes from an entry. -/
theorem mem_of_mapEach {γ : Type v} {f : γ → Except ε α} {entries : List γ} {results : List α}
    (h : mapEach f entries = .ok results) {a : α} (ha : a ∈ results) :
    ∃ c ∈ entries, f c = .ok a := by
  have hall := mapEach_eq_ok.mp h
  clear h
  induction hall with
  | nil => cases ha
  | cons hc _ ih =>
      rcases List.mem_cons.mp ha with rfl | hrest
      · exact ⟨_, List.mem_cons_self, hc⟩
      · obtain ⟨c, hmem, heq⟩ := ih hrest
        exact ⟨c, List.mem_cons_of_mem _ hmem, heq⟩

/-- Every entry has its result. -/
theorem exists_of_mapEach {γ : Type v} {f : γ → Except ε α} {entries : List γ} {results : List α}
    (h : mapEach f entries = .ok results) {c : γ} (hc : c ∈ entries) :
    ∃ a ∈ results, f c = .ok a := by
  have hall := mapEach_eq_ok.mp h
  clear h
  induction hall with
  | nil => cases hc
  | cons hfirst _ ih =>
      rcases List.mem_cons.mp hc with rfl | hrest
      · exact ⟨_, List.mem_cons_self, hfirst⟩
      · obtain ⟨a, hmem, heq⟩ := ih hrest
        exact ⟨a, List.mem_cons_of_mem _ hmem, heq⟩

/-- Entries of one outcome each have one outcome together. -/
theorem mapEach_congr {γ δ : Type v} {f : γ → Except ε α} {g : δ → Except ε α} {entries : List γ}
    {others : List δ} (h : List.Forall₂ (fun c d => f c = g d) entries others) :
    mapEach f entries = mapEach g others := by
  induction h with
  | nil => rfl
  | cons hfirst _ ih => simp only [mapEach_cons, hfirst, ih]

/-- Whether a list is built, and what is raised otherwise, the entries decide
one by one. -/
theorem mapEach_outcome {γ : Type v} (f : γ → Except ε α) (entries : List γ) :
    (mapEach f entries).map (fun _ => ()) = checkEach (fun c => (f c).map fun _ => ()) entries := by
  induction entries with
  | nil => rfl
  | cons c rest ih =>
      rw [mapEach_cons, checkEach_cons, ← ih]
      cases f c with
      | error e => rfl
      | ok a => cases mapEach f rest <;> rfl

/-- What is raised over a list, an entry raises behind entries that pass. -/
theorem checkEach_eq_error {check : α → Except ε Unit} {entries : List α} {e : ε} :
    checkEach check entries = .error e ↔ ∃ done a rest, entries = done ++ a :: rest ∧
      (∀ b ∈ done, check b = .ok ()) ∧ check a = .error e := by
  induction entries with
  | nil => simp [checkEach_nil]
  | cons a rest ih =>
      rw [checkEach_cons, bind_eq_error, exists_unit, ih]
      constructor
      · rintro (hfirst | ⟨hfirst, done, b, more, rfl, hdone, hb⟩)
        · exact ⟨[], a, rest, rfl, by simp, hfirst⟩
        · exact ⟨a :: done, b, more, rfl, List.forall_mem_cons.mpr ⟨hfirst, hdone⟩, hb⟩
      · rintro ⟨done, b, more, hentries, hdone, hb⟩
        cases done with
        | nil =>
            obtain ⟨rfl, -⟩ := List.cons.inj hentries
            exact .inl hb
        | cons first done =>
            obtain ⟨rfl, rfl⟩ := List.cons.inj hentries
            obtain ⟨hfirst, hdone⟩ := List.forall_mem_cons.mp hdone
            exact .inr ⟨hfirst, done, b, more, rfl, hdone, hb⟩

theorem mapEach_eq_error {γ : Type v} {f : γ → Except ε α} {entries : List γ} {e : ε} :
    mapEach f entries = .error e ↔ ∃ done c rest, entries = done ++ c :: rest ∧
      (∀ d ∈ done, ∃ a, f d = .ok a) ∧ f c = .error e := by
  have hpasses : ∀ d, (f d).map (fun _ => ()) = .ok () ↔ ∃ a, f d = .ok a := by
    intro d
    cases f d <;> simp [Except.map]
  have hraises : ∀ c, (f c).map (fun _ => ()) = .error e ↔ f c = .error e := by
    intro c
    cases f c <;> simp [Except.map]
  have houtcome : (mapEach f entries).map (fun _ => ()) = .error e ↔
      mapEach f entries = .error e := by
    cases mapEach f entries <;> simp [Except.map]
  rw [← houtcome, mapEach_outcome, checkEach_eq_error]
  simp only [hpasses, hraises]

/-- What every step of a loop keeps holds of what the loop has gone through. -/
theorem foldlM_invariant {γ : Type v} {f : α → γ → Except ε α} {P : List γ → α → Prop}
    (hstep : ∀ done current c next, P done current → f current c = .ok next → P (done ++ [c]) next)
    {entries : List γ} {start final : α} (hstart : P [] start)
    (h : entries.foldlM f start = .ok final) : P entries final := by
  suffices hall : ∀ done current, P done current → entries.foldlM f current = .ok final →
      P (done ++ entries) final by simpa using hall [] start hstart h
  clear hstart h
  induction entries with
  | nil =>
      intro done current hcurrent h
      cases h
      simpa using hcurrent
  | cons c rest ih =>
      intro done current hcurrent h
      rw [List.foldlM_cons, bind_eq_ok] at h
      obtain ⟨next, hnext, hrest⟩ := h
      simpa using ih (done ++ [c]) next (hstep _ _ _ _ hcurrent hnext) hrest

/-- Every error of the computation is of the kind `p`. -/
def RaisesOnly (p : ε → Prop) (x : Except ε α) : Prop := ∀ e, x = .error e → p e

section RaisesOnly

variable {p : ε → Prop}

@[simp] theorem raisesOnly_ok {a : α} : RaisesOnly p (.ok a : Except ε α) := by
  intro e h
  cases h

@[simp] theorem raisesOnly_pure {a : α} : RaisesOnly p (pure a : Except ε α) := raisesOnly_ok

@[simp] theorem raisesOnly_error {e : ε} : RaisesOnly p (.error e : Except ε α) ↔ p e := by
  constructor
  · intro h
    exact h e rfl
  · rintro h _ ⟨⟩
    exact h

@[simp] theorem raisesOnly_raiseIf {condition : Prop} [Decidable condition] {error : ε} :
    RaisesOnly p (raiseIf condition error) ↔ (condition → p error) := by
  unfold raiseIf
  split <;> simp [*]

theorem RaisesOnly.bind {x : Except ε α} {f : α → Except ε β} (hx : RaisesOnly p x)
    (hf : ∀ a, x = .ok a → RaisesOnly p (f a)) : RaisesOnly p (x >>= f) := by
  intro e h
  rcases bind_eq_error.mp h with herror | ⟨a, hok, herror⟩
  · exact hx e herror
  · exact hf a hok e herror

theorem raisesOnly_mapError {ε' : Type u} {x : Except ε' α} {f : ε' → ε} (h : ∀ e, p (f e)) :
    RaisesOnly p (x.mapError f) := by
  cases x with
  | ok a => exact raisesOnly_ok
  | error e => exact raisesOnly_error.mpr (h e)

theorem RaisesOnly.checkEach {check : α → Except ε Unit} {entries : List α}
    (h : ∀ a ∈ entries, RaisesOnly p (check a)) :
    RaisesOnly p (Checked.checkEach check entries) := by
  induction entries with
  | nil => exact raisesOnly_ok
  | cons a rest ih =>
      exact (h a List.mem_cons_self).bind
        (fun _ _ => ih (fun b hb => h b (List.mem_cons_of_mem _ hb)))

theorem RaisesOnly.mapEach {γ : Type v} {f : γ → Except ε α} {entries : List γ}
    (h : ∀ c ∈ entries, RaisesOnly p (f c)) : RaisesOnly p (Checked.mapEach f entries) := by
  induction entries with
  | nil => exact raisesOnly_ok
  | cons c rest ih =>
      refine (h c List.mem_cons_self).bind (fun a _ => ?_)
      exact (ih (fun d hd => h d (List.mem_cons_of_mem _ hd))).bind (fun _ _ => raisesOnly_pure)

end RaisesOnly

/-- The only entry `p` selects, if any; two of them raise. -/
def onlyMatch (p : α → Bool) (error : ε) (entries : List α) : Except ε (Option α) :=
  match entries.filter p with
  | [] => .ok none
  | [a] => .ok (some a)
  | _ => .error error

section OnlyMatch

variable {p : α → Bool} {error : ε} {entries : List α}

theorem onlyMatch_eq_none :
    onlyMatch p error entries = .ok none ↔ ∀ a ∈ entries, p a = false := by
  have hfilter : onlyMatch p error entries = .ok none ↔ entries.filter p = [] := by
    unfold onlyMatch
    rcases entries.filter p with _ | ⟨b, _ | ⟨c, rest⟩⟩ <;> simp
  simp [hfilter, List.filter_eq_nil_iff]

theorem eq_singleton_of_nodup {l : List α} (hnodup : l.Nodup) {a : α} (ha : a ∈ l)
    (hall : ∀ b ∈ l, b = a) : l = [a] := by
  cases l with
  | nil => simp at ha
  | cons b rest =>
      obtain rfl := hall b List.mem_cons_self
      cases rest with
      | nil => rfl
      | cons c more =>
          obtain rfl := hall c (by simp)
          simp at hnodup

theorem onlyMatch_some_mem {a : α} (h : onlyMatch p error entries = .ok (some a)) :
    a ∈ entries ∧ p a = true := by
  have hfilter : entries.filter p = [a] := by
    unfold onlyMatch at h
    rcases hmatch : entries.filter p with _ | ⟨b, _ | ⟨c, rest⟩⟩ <;> simp_all
  exact List.mem_filter.mp (hfilter ▸ List.mem_singleton_self a)

theorem onlyMatch_eq_some (hnodup : entries.Nodup) {a : α} :
    onlyMatch p error entries = .ok (some a) ↔
      a ∈ entries ∧ p a = true ∧ ∀ b ∈ entries, p b = true → b = a := by
  have hfilter : onlyMatch p error entries = .ok (some a) ↔ entries.filter p = [a] := by
    unfold onlyMatch
    rcases entries.filter p with _ | ⟨b, _ | ⟨c, rest⟩⟩ <;> simp
  rw [hfilter]
  constructor
  · intro h
    have hmem : ∀ b, b ∈ entries ∧ p b = true ↔ b = a := by
      intro b
      rw [← List.mem_filter, h, List.mem_singleton]
    exact ⟨((hmem a).mpr rfl).1, ((hmem a).mpr rfl).2, fun b hb hp => (hmem b).mp ⟨hb, hp⟩⟩
  · rintro ⟨ha, hp, hall⟩
    apply eq_singleton_of_nodup (hnodup.filter p) (List.mem_filter.mpr ⟨ha, hp⟩)
    intro b hb
    exact hall b (List.mem_filter.mp hb).1 (List.mem_filter.mp hb).2

end OnlyMatch

end RouterKit.Lib.Checked
