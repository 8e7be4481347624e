import RouterKit.Netcraze.PacketRoundTrip

/-!
The external transport raises `LiveAdapterError`, or the `ValueError` of an id with
more digits than `int` reads, and the latter exactly where it comes to such an id:
in the search for a free number, in a packet it validates, or in a plan it makes a
packet of. The planner and the verifier look profiles and bindings up by slot
without a guard of their own; the checks before each lookup leave no slot it could
miss.
-/

namespace RouterKit.Netcraze

open RouterKit.Lib.Checked
open RouterKit.Devices RouterKit.Lib

/-- The adapter's own error, or that of `int`. -/
def LiveError.AdapterOrValue (error : LiveError) : Prop :=
  (∃ message code, error = .adapter message code) ∨ error = .valueError

/-- The errors are the adapter's and, exactly where `overlong` holds, that of `int`. -/
structure Adapts {α : Type} (overlong : Prop) (x : Except LiveError α) : Prop where
  errors : RaisesOnly LiveError.AdapterOrValue x
  value : x = .error .valueError ↔ overlong

/-- The only errors are the adapter's. -/
abbrev AdapterOnly {α : Type} (x : Except LiveError α) : Prop := Adapts False x

section Rules

variable {α β : Type} {overlong : Prop} {x : Except LiveError α} {f : α → Except LiveError β}

theorem adapterOnly_ok {a : α} : AdapterOnly (.ok a : Except LiveError α) :=
  ⟨raisesOnly_ok, by simp⟩

theorem adapterOnly_error {message : String} :
    AdapterOnly (.error (liveAdapterError message) : Except LiveError α) :=
  ⟨raisesOnly_error.mpr (.inl ⟨message, 1, rfl⟩), by simp [liveAdapterError]⟩

theorem adapterOnly_raiseIf {condition : Prop} [Decidable condition] {message : String} :
    AdapterOnly (raiseIf condition (liveAdapterError message)) := by
  unfold raiseIf
  split
  · exact adapterOnly_error
  · exact adapterOnly_ok

theorem Adapts.congr {overlong' : Prop} (h : Adapts overlong x) (hsame : overlong ↔ overlong') :
    Adapts overlong' x :=
  ⟨h.errors, h.value.trans hsame⟩

theorem Adapts.bind {q : α → Prop} (hx : Adapts overlong x)
    (hf : ∀ a, x = .ok a → Adapts (q a) (f a)) :
    Adapts (overlong ∨ ∃ a, x = .ok a ∧ q a) (x >>= f) := by
  refine ⟨hx.errors.bind (fun a ha => (hf a ha).errors), bind_eq_error.trans ?_⟩
  refine or_congr hx.value (exists_congr fun a => and_congr_right fun ha => ?_)
  exact (hf a ha).value

/-- Before a part that raises the adapter's errors only. -/
theorem Adapts.before (hx : Adapts overlong x) (hf : ∀ a, x = .ok a → AdapterOnly (f a)) :
    Adapts overlong (x >>= f) :=
  (hx.bind hf).congr (by simp)

/-- Behind a part that raises the adapter's errors only. -/
theorem AdapterOnly.after {q : α → Prop} (hx : AdapterOnly x)
    (hf : ∀ a, x = .ok a → Adapts (q a) (f a)) :
    Adapts (∃ a, x = .ok a ∧ q a) (x >>= f) :=
  (hx.bind hf).congr (by simp)

/-- Behind a check that passes. -/
theorem Adapts.passed {condition : Prop} [Decidable condition] {message : String}
    {f : Unit → Except LiveError β} (h : ¬ condition → Adapts overlong (f ())) :
    Adapts (¬ condition ∧ overlong) (raiseIf condition (liveAdapterError message) >>= f) := by
  refine (adapterOnly_raiseIf.after (q := fun _ => overlong) ?_).congr ?_
  · exact fun _ hpassed => h (raiseIf_eq_ok.mp hpassed)
  · simp

theorem Adapts.checkEach {q : α → Prop} {check : α → Except LiveError Unit}
    {entries : List α} (h : ∀ a ∈ entries, Adapts (q a) (check a)) :
    Adapts (∃ done a rest, entries = done ++ a :: rest ∧ (∀ b ∈ done, check b = .ok ()) ∧
      q a) (Checked.checkEach check entries) := by
  refine ⟨RaisesOnly.checkEach (fun a ha => (h a ha).errors), checkEach_eq_error.trans ?_⟩
  refine exists_congr fun done => exists_congr fun a => exists_congr fun rest => ?_
  refine and_congr_right fun hentries => and_congr Iff.rfl (h a ?_).value
  rw [hentries]
  exact List.mem_append_right _ List.mem_cons_self

theorem Adapts.mapEach {γ : Type} {q : γ → Prop} {g : γ → Except LiveError α}
    {entries : List γ} (h : ∀ c ∈ entries, Adapts (q c) (g c)) :
    Adapts (∃ done c rest, entries = done ++ c :: rest ∧ (∀ d ∈ done, ∃ a, g d = .ok a) ∧
      q c) (Checked.mapEach g entries) := by
  refine ⟨RaisesOnly.mapEach (fun c hc => (h c hc).errors), mapEach_eq_error.trans ?_⟩
  refine exists_congr fun done => exists_congr fun c => exists_congr fun rest => ?_
  refine and_congr_right fun hentries => and_congr Iff.rfl (h c ?_).value
  rw [hentries]
  exact List.mem_append_right _ List.mem_cons_self

end Rules

namespace LiveCompat

end LiveCompat

/-- Every slot a plan mentions is one of the manifest's. -/
structure SlotsKnown (manifest : LocalEndpointManifest) (plan : LivePlan) : Prop where
  bindings : plan.bindings.map (·.slot) = manifest.profiles.map (·.slot)
  selected : ∀ slot ∈ plan.selectedSlot, slot ∈ plan.bindings.map (·.slot)

theorem SlotsKnown.each {manifest : LocalEndpointManifest} {plan : LivePlan}
    (known : SlotsKnown manifest plan) :
    ∀ binding ∈ plan.bindings, binding.slot ∈ manifest.profiles.map (·.slot) := by
  intro binding hmem
  rw [← known.bindings]
  exact List.mem_map_of_mem hmem

namespace LiveCompat

end LiveCompat

namespace External

variable {manifest : LocalEndpointManifest} {bindings : List BindingPlan} {plan : LivePlan}

section Validating

variable {Digest : Type} [DecidableEq Digest] {fingerprint : Payload Digest → Digest}
  {packet : Packet Digest}

end Validating

section Building

variable {state : LiveState} {mac : Option String} {profileSlot : Option Nat} {allowMove : Bool}
  {profileOf : BindingPlan → LocalProxyProfile}

section Planned

variable (planned : Planned LiveCompat.rules manifest state mac profileSlot allowMove plan
  profileOf)
include planned

end Planned

variable {Digest : Type} [DecidableEq Digest]

end Building

end External

end RouterKit.Netcraze
