import RouterKit.Lib.Checked

/-!
Computations that read and change a state and may raise, with triples for them:
what holds where the computation returns, and what holds where it raises. The
state at the raise is kept, as in a language with exceptions.
-/

namespace RouterKit.Lib.Effects

/-- From a state to a result or an exception, and the state after it. -/
def Effect (τ ε α : Type) : Type := τ → Except ε α × τ

variable {τ ε α β : Type}

instance : Monad (Effect τ ε) where
  pure a := fun t => (.ok a, t)
  bind m f := fun t =>
    match m t with
    | (.ok a, t') => f a t'
    | (.error e, t') => (.error e, t')

namespace Effect

def raise (e : ε) : Effect τ ε α := fun t => (.error e, t)

def raiseIf (condition : Prop) [Decidable condition] (e : ε) : Effect τ ε Unit := fun t =>
  (Checked.raiseIf condition e, t)

/-- A computation that does not look at the state. -/
def lift (x : Except ε α) : Effect τ ε α := fun t => (x, t)

def update (f : τ → τ) : Effect τ ε Unit := fun t => (.ok (), f t)

def read (f : τ → α) : Effect τ ε α := fun t => (.ok (f t), t)

/-- `try: … except: …`. -/
def handle (m : Effect τ ε α) (handler : ε → Effect τ ε α) : Effect τ ε α := fun t =>
  match m t with
  | (.ok a, t') => (.ok a, t')
  | (.error e, t') => handler e t'

/-- `try: … finally: …`, for a cleanup that cannot raise. -/
def andFinally (m : Effect τ ε α) (cleanup : τ → τ) : Effect τ ε α := fun t =>
  ((m t).1, cleanup (m t).2)

theorem bind_run (m : Effect τ ε α) (f : α → Effect τ ε β) (t : τ) :
    (m >>= f) t = (match m t with
      | (.ok a, t') => f a t'
      | (.error e, t') => (.error e, t') : Except ε β × τ) := rfl

theorem pure_run (a : α) (t : τ) : (pure a : Effect τ ε α) t = (.ok a, t) := rfl

/-- Where `P` holds before, `Q` holds after a return and `E` after a raise. -/
def Triple (P : τ → Prop) (m : Effect τ ε α) (Q : α → τ → Prop) (E : ε → τ → Prop) : Prop :=
  ∀ t, P t → match m t with
    | (.ok a, t') => Q a t'
    | (.error e, t') => E e t'

variable {P : τ → Prop} {Q : α → τ → Prop} {R : β → τ → Prop} {E : ε → τ → Prop}

theorem Triple.pure {a : α} (h : ∀ t, P t → Q a t) : Triple P (pure a) Q E := h

theorem Triple.raise {e : ε} (h : ∀ t, P t → E e t) : Triple P (raise e) Q E := h

theorem Triple.update {f : τ → τ} {Q : Unit → τ → Prop} (h : ∀ t, P t → Q () (f t)) :
    Triple P (update f) Q E := h

theorem Triple.read {f : τ → α} (h : ∀ t, P t → Q (f t) t) : Triple P (read f) Q E := h

theorem Triple.lift {x : Except ε α} (hok : ∀ a, x = .ok a → ∀ t, P t → Q a t)
    (herror : ∀ e, x = .error e → ∀ t, P t → E e t) : Triple P (lift x) Q E := by
  intro t ht
  cases x with
  | ok a => exact hok a rfl t ht
  | error e => exact herror e rfl t ht

theorem Triple.raiseIf {condition : Prop} [Decidable condition] {e : ε} {Q : Unit → τ → Prop}
    (hholds : condition → ∀ t, P t → E e t) (hfails : ¬ condition → ∀ t, P t → Q () t) :
    Triple P (raiseIf condition e) Q E := by
  intro t ht
  unfold Effect.raiseIf Checked.raiseIf
  by_cases hcondition : condition
  · rw [if_pos hcondition]
    exact hholds hcondition t ht
  · rw [if_neg hcondition]
    exact hfails hcondition t ht

theorem Triple.bind {m : Effect τ ε α} {f : α → Effect τ ε β} (hm : Triple P m Q E)
    (hf : ∀ a, Triple (Q a) (f a) R E) : Triple P (m >>= f) R E := by
  intro t ht
  have hfirst := hm t ht
  change match (match m t with
    | (.ok a, t') => f a t'
    | (.error e, t') => (.error e, t')) with
    | (.ok b, t') => R b t'
    | (.error e, t') => E e t'
  revert hfirst
  rcases m t with ⟨e | a, t'⟩
  · intro hfirst
    exact hfirst
  · intro hfirst
    exact hf a t' hfirst

theorem Triple.weaken {P' : τ → Prop} {m : Effect τ ε α} {Q' : α → τ → Prop} {E' : ε → τ → Prop}
    (h : Triple P m Q E) (hP : ∀ t, P' t → P t) (hQ : ∀ a t, Q a t → Q' a t)
    (hE : ∀ e t, E e t → E' e t) : Triple P' m Q' E' := by
  intro t ht
  have hrun := h t (hP t ht)
  revert hrun
  rcases m t with ⟨e | a, t'⟩
  · exact hE e t'
  · exact hQ a t'

theorem Triple.handle {m : Effect τ ε α} {handler : ε → Effect τ ε α} {F : ε → τ → Prop}
    (hm : Triple P m Q F) (hhandler : ∀ e, Triple (F e) (handler e) Q E) :
    Triple P (handle m handler) Q E := by
  intro t ht
  have hrun := hm t ht
  unfold Effect.handle
  revert hrun
  rcases m t with ⟨e | a, t'⟩
  · exact hhandler e t'
  · exact id

theorem Triple.andFinally {m : Effect τ ε α} {cleanup : τ → τ}
    (hm : Triple P m (fun a t => Q a (cleanup t)) (fun e t => E e (cleanup t))) :
    Triple P (andFinally m cleanup) Q E := by
  intro t ht
  have hrun := hm t ht
  unfold Effect.andFinally
  revert hrun
  rcases m t with ⟨e | a, t'⟩
  · exact id
  · exact id

/-- Two triples about one computation hold together. -/
theorem Triple.and {P' : τ → Prop} {m : Effect τ ε α} {Q' : α → τ → Prop} {E' : ε → τ → Prop}
    (h : Triple P m Q E) (h' : Triple P' m Q' E') :
    Triple (fun t => P t ∧ P' t) m (fun a t => Q a t ∧ Q' a t) (fun e t => E e t ∧ E' e t) := by
  rintro t ⟨ht, ht'⟩
  have hrun := h t ht
  have hrun' := h' t ht'
  revert hrun hrun'
  rcases m t with ⟨e | a, t'⟩
  · exact fun hE hE' => ⟨hE, hE'⟩
  · exact fun hQ hQ' => ⟨hQ, hQ'⟩

/-- What is known before may be a pure fact. -/
theorem Triple.of_pure {p : Prop} {m : Effect τ ε α} (h : p → Triple P m Q E) :
    Triple (fun t => p ∧ P t) m Q E := fun t ht => h ht.1 t ht.2

/-- What a triple says about one run. -/
theorem Triple.outcome {m : Effect τ ε α} (h : Triple P m Q E) {t : τ} (ht : P t) :
    (∃ a, (m t).1 = .ok a ∧ Q a (m t).2) ∨ ∃ e, (m t).1 = .error e ∧ E e (m t).2 := by
  have hrun := h t ht
  revert hrun
  rcases m t with ⟨e | a, t'⟩
  · exact fun hE => .inr ⟨e, rfl, hE⟩
  · exact fun hQ => .inl ⟨a, rfl, hQ⟩

end Effect

end RouterKit.Lib.Effects
