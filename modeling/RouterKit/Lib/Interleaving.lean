import Mathlib.Data.Set.Basic
import Mathlib.Logic.Function.Basic

/-!
Interleavings of processes over a shared state. A process acts alone, one atomic
action at a time; a run is any order of the actions of all of them. What holds of
one process along a run is shown from its own actions and from the interference
of the others.
-/

namespace RouterKit.Lib.Interleaving

variable {Process Progress Shared : Type*}

structure System (Process Progress Shared : Type*) where
  progress : Process → Progress
  shared : Shared

/-- The next action of a process at its own progress, if there is one. -/
abbrev Action (Process Progress Shared : Type*) :=
  Process → Progress → Shared → Option (Progress × Shared)

section Runs

variable [DecidableEq Process]

def System.after (system : System Process Progress Shared) (process : Process)
    (result : Progress × Shared) : System Process Progress Shared where
  progress := Function.update system.progress process result.1
  shared := result.2

/-- One action of one process. -/
def System.act (action : Action Process Progress Shared) (system : System Process Progress Shared)
    (process : Process) : Option (System Process Progress Shared) :=
  (action process (system.progress process) system.shared).map (system.after process)

/-- The actions of the processes in the order of a schedule. -/
def runSchedule (action : Action Process Progress Shared) (schedule : List Process)
    (system : System Process Progress Shared) : Option (System Process Progress Shared) :=
  schedule.foldlM (System.act action) system

/-- The systems that actions reach which are all allowed when they are taken. -/
inductive Run (action : Action Process Progress Shared) (allowed : Progress → Shared → Prop)
    (start : System Process Progress Shared) : System Process Progress Shared → Prop where
  | start : Run action allowed start start
  | act {system : System Process Progress Shared} {result : Progress × Shared} (process : Process) :
      Run action allowed start system → allowed (system.progress process) system.shared →
      action process (system.progress process) system.shared = some result →
      Run action allowed start (system.after process result)

/-- The action where it is allowed. -/
def guarded (allowed : Progress → Shared → Prop)
    [∀ progress shared, Decidable (allowed progress shared)]
    (action : Action Process Progress Shared) : Action Process Progress Shared :=
  fun process progress shared => if allowed progress shared then
      action process progress shared else none

variable {action : Action Process Progress Shared} {allowed : Progress → Shared → Prop}
  {start system : System Process Progress Shared}

@[simp] theorem System.after_shared (process : Process) (result : Progress × Shared) :
    (system.after process result).shared = result.2 := rfl

@[simp] theorem System.after_progress_self (process : Process) (result : Progress × Shared) :
    (system.after process result).progress process = result.1 :=
  Function.update_self ..

theorem System.after_progress_of_ne {process other : Process} (h : other ≠ process)
    (result : Progress × Shared) :
    (system.after process result).progress other = system.progress other :=
  Function.update_of_ne h ..

/-- What holds at the start and is kept by every allowed action holds in every
system reached. -/
theorem Run.invariant {property : System Process Progress Shared → Prop}
    (h : Run action allowed start system) (hstart : property start)
    (hact : ∀ system process result, property system →
      allowed (system.progress process) system.shared →
      action process (system.progress process) system.shared = some result →
      property (system.after process result)) : property system := by
  induction h with
  | start => exact hstart
  | act process _ hallowed haction ih => exact hact _ process _ ih hallowed haction

/-- What holds of each process at the start, is kept by its own actions, and by
those of the others. -/
theorem Run.each {property : Process → Progress → Shared → Prop}
    (h : Run action allowed start system)
    (hstart : ∀ process, property process (start.progress process) start.shared)
    (hown : ∀ process progress shared result, property process progress shared →
      allowed progress shared → action process progress shared = some result →
      property process result.1 result.2)
    (hother : ∀ process progress shared other progress' result, other ≠ process →
      property process progress shared → property other progress' shared →
      allowed progress' shared → action other progress' shared = some result →
      property process progress result.2) (process : Process) :
    property process (system.progress process) system.shared := by
  revert process
  apply h.invariant hstart
  intro system acting result hsystem hallowed haction process
  by_cases hacting : process = acting
  · subst hacting
    rw [System.after_progress_self]
    exact hown _ _ _ _ (hsystem process) hallowed haction
  · rw [System.after_progress_of_ne hacting]
    exact hother _ _ _ acting _ _ (Ne.symm hacting) (hsystem process) (hsystem acting) hallowed
      haction

/-- A schedule whose actions are allowed is a run. -/
theorem run_of_schedule [∀ progress shared, Decidable (allowed progress shared)]
    {schedule : List Process} {after : System Process Progress Shared}
    (h : runSchedule (guarded allowed action) schedule start = some after) :
    Run action allowed start after := by
  suffices hrun : ∀ system, Run action allowed start system →
      runSchedule (guarded allowed action) schedule system = some after →
      Run action allowed start after from hrun start .start h
  clear h
  induction schedule with
  | nil =>
      intro system hsystem h
      obtain rfl : system = after := Option.some.inj h
      exact hsystem
  | cons process rest ih =>
      intro system hsystem h
      simp only [runSchedule, List.foldlM_cons, Option.bind_eq_bind, Option.bind_eq_some_iff] at h
      obtain ⟨next, hnext, hrest⟩ := h
      obtain ⟨result, hresult, rfl⟩ := Option.map_eq_some_iff.mp hnext
      unfold guarded at hresult
      split at hresult
      · next hallowed => exact ih _ (.act process hsystem hallowed hresult) hrest
      · cases hresult

end Runs

section Requests

variable {α : Type*} (adds removes : Process → Set α)

/-- A set keeps what a process has asked for, as far as no other asks for the
contrary: its additions, those it removes itself aside, and its removals. -/
structure Keeps (process : Process) (kept : Set α) : Prop where
  added : ∀ item ∈ adds process, item ∉ removes process →
    item ∈ kept ∨ ∃ other ≠ process, item ∈ removes other
  removed : ∀ item ∈ removes process, item ∉ kept ∨ ∃ other ≠ process, item ∈ adds other

variable {adds removes} {process : Process} {kept : Set α}

/-- The set a process makes of another keeps its own request. -/
theorem keeps_own (current : Set α) :
    Keeps adds removes process ((current ∪ adds process) \ removes process) where
  added := fun _ hadd hremove => .inl ⟨.inr hadd, hremove⟩
  removed := fun _ hremove => .inl fun hmem => hmem.2 hremove

/-- The set another process makes of it keeps the request as well. -/
theorem Keeps.other (h : Keeps adds removes process kept) {other : Process}
    (hother : other ≠ process) :
    Keeps adds removes process ((kept ∪ adds other) \ removes other) where
  added := by
    intro item hadd hremove
    rcases h.added item hadd hremove with hmem | hcontrary
    · by_cases hundone : item ∈ removes other
      · exact .inr ⟨other, hother, hundone⟩
      · exact .inl ⟨.inl hmem, hundone⟩
    · exact .inr hcontrary
  removed := by
    intro item hremove
    rcases h.removed item hremove with hmem | hcontrary
    · by_cases hundone : item ∈ adds other
      · exact .inr ⟨other, hother, hundone⟩
      · left
        rintro ⟨hold | hnew, -⟩
        · exact hmem hold
        · exact hundone hnew
    · exact .inr hcontrary

end Requests

end RouterKit.Lib.Interleaving
