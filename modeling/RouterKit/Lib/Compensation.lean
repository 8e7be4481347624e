import Mathlib.Data.List.Basic

/-!
Compensating transactions over an arbitrary state. A transaction sends commands
one at a time and keeps a log of compensations; a step may add one to the log
once its command has been confirmed. Rolling back executes the log from its
newest entry to its oldest.
-/

namespace RouterKit.Lib.Compensation

variable {S C : Type*}

/-- A command, and the compensation logged when it is confirmed. -/
structure Step (C : Type*) where
  command : C
  undo : Option C

variable (exec : S → C → S)

def execAll (commands : List C) (s : S) : S := commands.foldl exec s

def run (steps : List (Step C)) (s : S) : S := execAll exec (steps.map (·.command)) s

def undos (steps : List (Step C)) : List C := steps.filterMap (·.undo)

def rollback (log : List C) (s : S) : S := execAll exec log.reverse s

/-- Each step is taken back by the compensation it logs or, when it logs none,
absorbed by the newest one logged before. -/
def Covered : Option C → S → List (Step C) → Prop
  | _, _, [] => True
  | newest, s, step :: rest =>
      (match step.undo with
        | some undo => exec (exec s step.command) undo = s
        | none => ∃ undo, newest = some undo ∧
            exec (exec s step.command) undo = exec s undo) ∧
      Covered (step.undo <|> newest) (exec s step.command) rest

section Basic

variable {exec}

@[simp] theorem execAll_nil (s : S) : execAll exec [] s = s := rfl

@[simp] theorem execAll_cons (c : C) (commands : List C) (s : S) :
    execAll exec (c :: commands) s = execAll exec commands (exec s c) := rfl

theorem execAll_append (commands more : List C) (s : S) :
    execAll exec (commands ++ more) s = execAll exec more (execAll exec commands s) :=
  List.foldl_append

@[simp] theorem run_nil (s : S) : run exec [] s = s := rfl

@[simp] theorem run_cons (step : Step C) (rest : List (Step C)) (s : S) :
    run exec (step :: rest) s = run exec rest (exec s step.command) := rfl

theorem run_append (steps more : List (Step C)) (s : S) :
    run exec (steps ++ more) s = run exec more (run exec steps s) := by
  rw [run, List.map_append, execAll_append]
  rfl

theorem undos_append (steps more : List (Step C)) :
    undos (steps ++ more) = undos steps ++ undos more :=
  List.filterMap_append

theorem rollback_append (log more : List C) (s : S) :
    rollback exec (log ++ more) s = rollback exec log (rollback exec more s) := by
  rw [rollback, List.reverse_append, execAll_append]
  rfl

theorem getLast?_append_undos (log : List C) (step : Step C) :
    (log ++ undos [step]).getLast? = (step.undo <|> log.getLast?) := by
  cases h : step.undo <;> simp [undos, h]

theorem Covered.append {newest : Option C} {s : S} {steps more : List (Step C)}
    (h : Covered exec newest s steps)
    (h' : Covered exec ((undos steps).getLast? <|> newest) (run exec steps s) more) :
    Covered exec newest s (steps ++ more) := by
  induction steps generalizing newest s with
  | nil => simpa [undos] using h'
  | cons step rest ih =>
      refine ⟨h.1, ih h.2 ?_⟩
      have hundos : (undos (step :: rest)).getLast? =
          ((undos rest).getLast? <|> step.undo) := by
        cases hstep : step.undo with
        | none => simp [undos, hstep]
        | some undo =>
            have hcons : undos (step :: rest) = undo :: undos rest := by simp [undos, hstep]
            rw [hcons, List.getLast?_cons]
            cases (undos rest).getLast? <;> rfl
      rw [hundos] at h'
      cases hrest : (undos rest).getLast? <;> simp_all

theorem Covered.prefix_closed {newest : Option C} {s : S} {steps more : List (Step C)}
    (h : Covered exec newest s (steps ++ more)) : Covered exec newest s steps := by
  induction steps generalizing newest s with
  | nil => trivial
  | cons step rest ih => exact ⟨h.1, ih h.2⟩

/-- One covered step changes nothing that a rollback from there sees. -/
theorem rollback_step {log : List C} {s : S} {step : Step C} {rest : List (Step C)}
    (h : Covered exec log.getLast? s (step :: rest)) :
    rollback exec (log ++ undos [step]) (exec s step.command) = rollback exec log s := by
  have hstep := h.1
  cases hundo : step.undo with
  | some undo =>
      rw [hundo] at hstep
      rw [rollback_append]
      simp only [undos, List.filterMap_cons, hundo, List.filterMap_nil, rollback,
        List.reverse_singleton, execAll_cons, execAll_nil, hstep]
  | none =>
      rw [hundo] at hstep
      obtain ⟨undo, hnewest, habsorb⟩ := hstep
      obtain ⟨older, rfl⟩ := List.getLast?_eq_some_iff.mp hnewest
      simp only [undos, List.filterMap_cons, hundo, List.filterMap_nil, List.append_nil]
      simp only [rollback, List.reverse_append, List.reverse_singleton, List.singleton_append,
        execAll_cons, habsorb]

/-- Rolling back after covered steps restores what rolling back before them
would have restored. -/
theorem rollback_run (log : List C) {s : S} {steps : List (Step C)}
    (h : Covered exec log.getLast? s steps) :
    rollback exec (log ++ undos steps) (run exec steps s) = rollback exec log s := by
  induction steps generalizing log s with
  | nil => simp [undos]
  | cons step rest ih =>
      have hrest := ih (log ++ undos [step]) (s := exec s step.command)
        (by rw [getLast?_append_undos]; exact h.2)
      have hundos : undos (step :: rest) = undos [step] ++ undos rest := undos_append [step] rest
      rw [hundos, ← List.append_assoc, run_cons, hrest]
      exact rollback_step h

/-- A transaction cut off before any step, rolled back. -/
theorem rollback_done {s : S} {done rest : List (Step C)}
    (h : Covered exec none s (done ++ rest)) :
    rollback exec (undos done) (run exec done s) = s :=
  rollback_run [] h.prefix_closed

/-- A step that logs nothing may take effect unconfirmed: the log before it
covers it already. -/
theorem rollback_unlogged {s : S} {done rest : List (Step C)} {step : Step C}
    (h : Covered exec none s (done ++ step :: rest)) (hundo : step.undo = none) :
    rollback exec (undos done) (exec (run exec done s) step.command) = s := by
  have hcovered : Covered exec none s (done ++ [step] ++ rest) := by simpa using h
  have hrestored := rollback_run [] hcovered.prefix_closed
  have hundos : undos (done ++ [step]) = undos done := by simp [undos, hundo]
  rw [hundos, run_append] at hrestored
  exact hrestored

end Basic

section Absorbing

/-- After `undo` it makes no difference whether the command had run before. -/
def Absorbed (undo : List C) (c : C) : Prop :=
  ∀ s, execAll exec undo (exec s c) = execAll exec undo s

variable {exec} {undo : List C}

/-- A command is absorbed by one entry of the rollback when it commutes with the
entries that run before that one. -/
theorem absorbed_of_mem {u c : C} (hmem : u ∈ undo) (hundo : ∀ s, exec (exec s c) u = exec s u)
    (hothers : ∀ d ∈ undo, d ≠ u → ∀ s, exec (exec s c) d = exec (exec s d) c) :
    Absorbed exec undo c := by
  induction undo with
  | nil => exact absurd hmem List.not_mem_nil
  | cons d rest ih =>
      intro s
      by_cases hd : d = u
      · simp only [execAll_cons, hd, hundo]
      · have hrest : u ∈ rest := (List.mem_cons.mp hmem).resolve_left (Ne.symm hd)
        have hcomm := hothers d List.mem_cons_self hd s
        have habsorbed := ih hrest (fun e he => hothers e (List.mem_cons_of_mem _ he))
        simp only [execAll_cons, hcomm]
        exact habsorbed (exec s d)

/-- A rollback absorbs whatever run of commands it absorbs one by one. -/
theorem execAll_absorbed {commands : List C} (h : ∀ c ∈ commands, Absorbed exec undo c) (s : S) :
    execAll exec undo (execAll exec commands s) = execAll exec undo s := by
  induction commands generalizing s with
  | nil => rfl
  | cons c rest ih =>
      have hrest := ih (fun d hd => h d (List.mem_cons_of_mem _ hd)) (exec s c)
      rw [execAll_cons, hrest]
      exact h c List.mem_cons_self s

/-- A transaction cut off after any number of its commands and rolled back as a
whole, when its rollback changes nothing of the state it started from. -/
theorem rollback_cut {commands done rest : List C} (hcut : commands = done ++ rest)
    (habsorbed : ∀ c ∈ commands, Absorbed exec undo c) {s : S}
    (hidle : execAll exec undo s = s) : execAll exec undo (execAll exec done s) = s := by
  have hdone : ∀ c ∈ done, Absorbed exec undo c := by
    intro c hc
    exact habsorbed c (hcut ▸ List.mem_append_left rest hc)
  rw [execAll_absorbed hdone, hidle]

end Absorbing

end RouterKit.Lib.Compensation
