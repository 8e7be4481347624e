import RouterKit.Lib.Checked

/-!
Programs that read and change a state and may raise; a state changed before the
raise stays changed. `wp` is the condition on the state before a program under
which it ends as wanted, `Raises` singles out the runs that end in an error of a
given kind, and `Never` the programs without one.
-/

namespace RouterKit.Lib.Programs

variable {ε σ α β : Type}

/-- The program, run from the state, returns with `Q` or raises with `E`. -/
def wp (x : EStateM ε σ α) (Q : α → σ → Prop) (E : ε → σ → Prop) (s : σ) : Prop :=
  match x s with
  | .ok a s' => Q a s'
  | .error e s' => E e s'

/-- The program raises an error of the kind `p`. -/
def Raises (p : ε → Prop) (x : EStateM ε σ α) (s : σ) : Prop :=
  wp x (fun _ _ => False) (fun e _ => p e) s

section Wp

variable {Q : α → σ → Prop} {E : ε → σ → Prop} {s : σ}

@[simp] theorem wp_pure (a : α) : wp (pure a) Q E s ↔ Q a s := Iff.rfl

@[simp] theorem wp_throw (e : ε) : wp (throw e) Q E s ↔ E e s := Iff.rfl

@[simp] theorem wp_get {Q : σ → σ → Prop} : wp get Q E s ↔ Q s s := Iff.rfl

@[simp] theorem wp_modify (f : σ → σ) {Q : PUnit → σ → Prop} :
    wp (modify f) Q E s ↔ Q ⟨⟩ (f s) := Iff.rfl

@[simp] theorem wp_bind (x : EStateM ε σ α) (f : α → EStateM ε σ β) {Q : β → σ → Prop} :
    wp (x >>= f) Q E s ↔ wp x (fun a s' => wp (f a) Q E s') E s := by
  unfold wp
  show (match EStateM.bind x f s with
    | .ok a s' => Q a s'
    | .error e s' => E e s') ↔ _
  unfold EStateM.bind
  cases x s <;> rfl

theorem wp_ite {c : Prop} [Decidable c] (x y : EStateM ε σ α) :
    wp (if c then x else y) Q E s ↔ (c → wp x Q E s) ∧ (¬ c → wp y Q E s) := by
  split <;> simp [*]

theorem wp_tryCatch (x : EStateM ε σ α) (handler : ε → EStateM ε σ α) :
    wp (tryCatchThe ε x handler) Q E s ↔ wp x Q (fun e => wp (handler e) Q E) s := by
  unfold wp
  show (match EStateM.tryCatch x handler s with
    | .ok a s' => Q a s'
    | .error e s' => E e s') ↔ _
  unfold EStateM.tryCatch
  cases x s <;> rfl

theorem wp_mono {x : EStateM ε σ α} {Q' : α → σ → Prop} {E' : ε → σ → Prop} (h : wp x Q E s)
    (hQ : ∀ a s', Q a s' → Q' a s') (hE : ∀ e s', E e s' → E' e s') : wp x Q' E' s := by
  unfold wp at h ⊢
  cases hrun : x s with
  | ok a s' => rw [hrun] at h; exact hQ a s' h
  | error e s' => rw [hrun] at h; exact hE e s' h

theorem wp_and {x : EStateM ε σ α} {Q' : α → σ → Prop} {E' : ε → σ → Prop} (h : wp x Q E s)
    (h' : wp x Q' E' s) :
    wp x (fun a s' => Q a s' ∧ Q' a s') (fun e s' => E e s' ∧ E' e s') s := by
  unfold wp at h h' ⊢
  cases hrun : x s with
  | ok a s' => rw [hrun] at h h'; exact ⟨h, h'⟩
  | error e s' => rw [hrun] at h h'; exact ⟨h, h'⟩

/-- What a program does is what its run says. -/
theorem wp_run (x : EStateM ε σ α) (s : σ) :
    wp x (fun a s' => x s = .ok a s') (fun e s' => x s = .error e s') s := by
  unfold wp
  cases x s <;> rfl

theorem wp_ok {x : EStateM ε σ α} {a : α} {s' : σ} (h : wp x Q E s) (hrun : x s = .ok a s') :
    Q a s' := by
  unfold wp at h
  rwa [hrun] at h

theorem wp_error {x : EStateM ε σ α} {e : ε} {s' : σ} (h : wp x Q E s)
    (hrun : x s = .error e s') : E e s' := by
  unfold wp at h
  rwa [hrun] at h

end Wp

section Raising

variable {p : ε → Prop} {s : σ}

@[simp] theorem raises_throw (e : ε) : Raises p (throw e : EStateM ε σ α) s ↔ p e := Iff.rfl

/-- A sequence raises in its first part, or in the second one after the first
returned. -/
theorem raises_bind {x : EStateM ε σ α} {f : α → EStateM ε σ β} :
    Raises p (x >>= f) s ↔ Raises p x s ∨ ∃ a s', x s = .ok a s' ∧ Raises p (f a) s' := by
  unfold Raises
  rw [wp_bind]
  unfold wp
  cases hrun : x s with
  | ok a s' => simp
  | error e s' => simp

/-- The program raises no error of the kind, from any state. -/
def Never (p : ε → Prop) (x : EStateM ε σ α) : Prop := ∀ s, ¬ Raises p x s

theorem Never.bind {x : EStateM ε σ α} {f : α → EStateM ε σ β} (hx : Never p x)
    (hf : ∀ a, Never p (f a)) : Never p (x >>= f) := by
  intro s
  rw [raises_bind, not_or]
  refine ⟨hx s, ?_⟩
  rintro ⟨a, s', -, hraises⟩
  exact hf a s' hraises

theorem Never.ite {c : Prop} [Decidable c] {x y : EStateM ε σ α} (hx : c → Never p x)
    (hy : ¬ c → Never p y) : Never p (if c then x else y) := by
  split
  · rename_i hc
    exact hx hc
  · rename_i hc
    exact hy hc

/-- After a part that raises nothing of the kind, only the rest can. -/
theorem Never.raises_bind {x : EStateM ε σ α} {f : α → EStateM ε σ β} (hx : Never p x) :
    Raises p (x >>= f) s ↔ ∃ a s', x s = .ok a s' ∧ Raises p (f a) s' := by
  rw [Programs.raises_bind, or_iff_right (hx s)]

end Raising

section Keeping

variable {P : σ → Prop}

/-- From a state with `P` the program ends in one with `P`, however it ends. -/
def Keeps (P : σ → Prop) (x : EStateM ε σ α) : Prop :=
  ∀ s, P s → wp x (fun _ s' => P s') (fun _ s' => P s') s

theorem keeps_pure (a : α) : Keeps P (pure a : EStateM ε σ α) := fun _ h => h

theorem keeps_throw (e : ε) : Keeps P (throw e : EStateM ε σ α) := fun _ h => h

theorem keeps_get : Keeps P (get : EStateM ε σ σ) := fun _ h => h

theorem keeps_modify {f : σ → σ} (h : ∀ s, P s → P (f s)) :
    Keeps P (modify f : EStateM ε σ PUnit) := h

theorem Keeps.bind {x : EStateM ε σ α} {f : α → EStateM ε σ β} (hx : Keeps P x)
    (hf : ∀ a, Keeps P (f a)) : Keeps P (x >>= f) := by
  intro s h
  rw [wp_bind]
  exact wp_mono (hx s h) (fun a s' h' => hf a s' h') (fun _ _ h' => h')

theorem Keeps.ite {c : Prop} [Decidable c] {x y : EStateM ε σ α} (hx : c → Keeps P x)
    (hy : ¬ c → Keeps P y) : Keeps P (if c then x else y) := by
  split
  · rename_i hc
    exact hx hc
  · rename_i hc
    exact hy hc

theorem Keeps.tryCatch {x : EStateM ε σ α} {handler : ε → EStateM ε σ α} (hx : Keeps P x)
    (hhandler : ∀ e, Keeps P (handler e)) : Keeps P (tryCatchThe ε x handler) := by
  intro s h
  rw [wp_tryCatch]
  exact wp_mono (hx s h) (fun _ _ h' => h') (fun e s' h' => hhandler e s' h')

end Keeping

end RouterKit.Lib.Programs
