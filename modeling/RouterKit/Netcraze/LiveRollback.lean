import RouterKit.Netcraze.LiveApply

/-!
When a failed apply leaves the router as it was. The writes of a plan are a
compensating transaction; every step of it is covered by the log except the
first command of an object, whose compensation is logged only after it has been
reported. Such a command, reported as failed after it took effect, is the one
way to end with a changed state and an ordinary error.
-/

namespace RouterKit.Netcraze

open RouterKit.Lib.Checked RouterKit.Lib.Compensation
open RouterKit.Devices RouterKit.Lib

namespace Live

variable {transport : Transport}

/-- The next `n` commands sent take effect and are reported so. -/
def AllApplied (transport : Transport) (sent n : Nat) : Prop :=
  ∀ j < n, transport.outcome (sent + j) = .applied

theorem allApplied_add {sent m n : Nat} : AllApplied transport sent (m + n) ↔
    AllApplied transport sent m ∧ AllApplied transport (sent + m) n := by
  constructor
  · intro h
    refine ⟨fun j hj => h j (by omega), fun j hj => ?_⟩
    rw [Nat.add_assoc]
    exact h (m + j) (by omega)
  · rintro ⟨h, h'⟩ j hj
    by_cases hlt : j < m
    · exact h j hlt
    · have hlater := h' (j - m) (by omega)
      rwa [show sent + m + (j - m) = sent + j by omega] at hlater

theorem allApplied_zero (sent : Nat) : AllApplied transport sent 0 :=
  fun j hj => absurd hj (Nat.not_lt_zero j)

theorem allApplied_succ {sent n : Nat} : AllApplied transport sent (n + 1) ↔
    transport.outcome sent = .applied ∧ AllApplied transport (sent + 1) n := by
  rw [Nat.add_comm, allApplied_add]
  refine and_congr_left (fun _ => ⟨fun h => h 0 (by omega), fun h j hj => ?_⟩)
  obtain rfl : j = 0 := by omega
  exact h

abbrev UndoStep := Step NdmCommand

/-- All steps confirmed: the state, the count and the log after them. -/
structure Completed (transport : Transport) (steps : List UndoStep) (before after : ApplyRun) :
    Prop where
  outcomes : AllApplied transport before.router.sent steps.length
  router : after.router = ⟨Compensation.run NdmCommand.exec steps before.router.state,
    before.router.sent + steps.length⟩
  rollback : after.rollback = before.rollback ++ undos steps

/-- Cut off at a step reported as failed: the steps before it are confirmed, its
own effect depends on the transport, and it has logged nothing. -/
structure CutOff (transport : Transport) (done : List UndoStep) (step : UndoStep)
    (before after : ApplyRun) : Prop where
  outcomes : AllApplied transport before.router.sent done.length
  failed : transport.outcome (before.router.sent + done.length) ≠ .applied
  state : after.router.state =
    if transport.outcome (before.router.sent + done.length) = .failedApplied then
      step.command.exec (Compensation.run NdmCommand.exec done before.router.state)
    else Compensation.run NdmCommand.exec done before.router.state
  sent : after.router.sent = before.router.sent + done.length + 1
  rollback : after.rollback = before.rollback ++ undos done

/-- A program that performs the steps in order, and nothing else to the router
or the log. -/
def Performs {α : Type} (transport : Transport) (steps : List UndoStep) (x : ApplyM α) : Prop :=
  ∀ before, match x before with
    | .ok _ after => Completed transport steps before after
    | .error error after => error = ndmFailure ∧ ∃ done step rest,
        steps = done ++ step :: rest ∧ CutOff transport done step before after

section Rules

variable {α β : Type}

theorem bind_run (x : ApplyM α) (f : α → ApplyM β) (run : ApplyRun) :
    (x >>= f) run = match x run with
      | .ok a run' => f a run'
      | .error error run' => .error error run' := by
  show EStateM.bind x f run = _
  unfold EStateM.bind
  cases x run <;> rfl

theorem pure_run (a : α) (run : ApplyRun) : (pure a : ApplyM α) run = .ok a run := rfl

theorem get_run (run : ApplyRun) : (get : ApplyM ApplyRun) run = .ok run run := rfl

theorem note_run (f : ApplyResult → ApplyResult) (run : ApplyRun) :
    note f run = .ok () { run with result := f run.result } := rfl

theorem performs_pure (a : α) : Performs transport [] (pure a : ApplyM α) := by
  intro before
  exact ⟨allApplied_zero _, rfl, by simp [undos]⟩

theorem performs_note (f : ApplyResult → ApplyResult) : Performs transport [] (note f) := by
  intro before
  exact ⟨allApplied_zero _, rfl, by simp [undos]⟩

theorem Performs.bind {steps more : List UndoStep} {x : ApplyM α} {f : α → ApplyM β}
    (hx : Performs transport steps x) (hf : ∀ a, Performs transport more (f a)) :
    Performs transport (steps ++ more) (x >>= f) := by
  intro before
  rw [bind_run]
  have h := hx before
  cases hrun : x before with
  | error error after =>
      rw [hrun] at h
      obtain ⟨herror, done, step, rest, hsteps, hcut⟩ := h
      exact ⟨herror, done, step, rest ++ more, by rw [hsteps, List.append_assoc, List.cons_append],
        hcut⟩
  | ok a middle =>
      rw [hrun] at h
      have h' := hf a middle
      simp only at h ⊢
      cases hrun' : f a middle with
      | ok b after =>
          rw [hrun'] at h'
          have hsent : middle.router.sent = before.router.sent + steps.length := by rw [h.router]
          refine ⟨?_, ?_, ?_⟩
          · rw [List.length_append]
            exact allApplied_add.mpr ⟨h.outcomes, hsent ▸ h'.outcomes⟩
          · rw [h'.router, h.router, Compensation.run_append, List.length_append, Nat.add_assoc]
          · rw [h'.rollback, h.rollback, undos_append, List.append_assoc]
      | error error after =>
          rw [hrun'] at h'
          obtain ⟨herror, done, step, rest, hsteps, hcut⟩ := h'
          have hsent : middle.router.sent = before.router.sent + steps.length := by rw [h.router]
          have hstate : middle.router.state =
              Compensation.run NdmCommand.exec steps before.router.state := by rw [h.router]
          have hcount : middle.router.sent + done.length =
              before.router.sent + (steps ++ done).length := by
            rw [hsent, List.length_append, Nat.add_assoc]
          refine ⟨herror, steps ++ done, step, rest, by rw [hsteps, List.append_assoc], ?_⟩
          refine ⟨?_, ?_, ?_, ?_, ?_⟩
          · rw [List.length_append]
            exact allApplied_add.mpr ⟨h.outcomes, hsent ▸ hcut.outcomes⟩
          · rw [← hcount]
            exact hcut.failed
          · rw [← hcount, Compensation.run_append, ← hstate]
            exact hcut.state
          · rw [hcut.sent, hcount]
          · rw [hcut.rollback, h.rollback, undos_append, List.append_assoc]

variable (transport) in
theorem performs_command (line : NdmCommand) :
    Performs transport [⟨line, none⟩] (command transport line) := by
  intro before
  unfold command
  cases houtcome : transport.outcome before.router.sent with
  | applied =>
      refine ⟨?_, rfl, by simp [undos]⟩
      intro j hj
      obtain rfl : j = 0 := by simpa using hj
      exact houtcome
  | failedApplied =>
      exact ⟨rfl, [], ⟨line, none⟩, [], rfl, allApplied_zero _, by simp [houtcome],
        by simp [houtcome], rfl, by simp [undos]⟩
  | failedUnapplied =>
      exact ⟨rfl, [], ⟨line, none⟩, [], rfl, allApplied_zero _, by simp [houtcome],
        by simp [houtcome], rfl, by simp [undos]⟩

/-- A command followed by its log entry is one step. -/
theorem performs_logged {line undo : NdmCommand} {more : List UndoStep} {x : ApplyM β}
    (hx : Performs transport more x) :
    Performs transport (⟨line, some undo⟩ :: more)
      (command transport line >>= fun _ => logUndo undo >>= fun _ => x) := by
  have hstep : Performs transport [⟨line, some undo⟩]
      (command transport line >>= fun _ => logUndo undo) := by
    intro before
    rw [bind_run]
    have h := performs_command transport line before
    cases hrun : command transport line before with
    | ok a middle =>
        rw [hrun] at h
        exact ⟨h.outcomes, h.router, by simpa [undos] using h.rollback⟩
    | error error after =>
        rw [hrun] at h
        obtain ⟨herror, done, step, rest, hsteps, hcut⟩ := h
        obtain ⟨rfl, rfl, rfl⟩ : done = [] ∧ step = ⟨line, none⟩ ∧ rest = [] := by
          cases done with
          | nil => simpa using hsteps.symm
          | cons first others => simp at hsteps
        exact ⟨herror, [], ⟨line, some undo⟩, [], rfl, hcut.outcomes, hcut.failed, hcut.state,
          hcut.sent, hcut.rollback⟩
  have hall := hstep.bind (fun _ => hx)
  rwa [bind_assoc] at hall

end Rules

/-- The steps of one creation: the first command logs the removal. -/
def creationSteps (lines : List NdmCommand) (undo : NdmCommand) : List UndoStep :=
  match lines with
  | [] => []
  | first :: rest => ⟨first, some undo⟩ :: rest.map (⟨·, none⟩)

def proxySteps (profileOf : BindingPlan → LocalProxyProfile) (bindings : List BindingPlan) :
    List UndoStep :=
  (creatingProxies bindings).flatMap
    (fun b => creationSteps (proxyCreateCommands b (profileOf b)) (.noInterface b.proxyId))

def policySteps (profileOf : BindingPlan → LocalProxyProfile) (bindings : List BindingPlan) :
    List UndoStep :=
  (creatingPolicies bindings).flatMap
    (fun b => creationSteps (policyCreateCommands b (profileOf b)) (.noPolicy b.policyId))

def assignmentSteps (plan : LivePlan) (stateBefore : LiveState) (mac : Option String) :
    List UndoStep :=
  match External.writtenAssignment plan mac with
  | some (deviceMac, target) =>
      [⟨.hotspotHostPolicy deviceMac target, some (undoAssignment stateBefore deviceMac)⟩]
  | none => []

def writeSteps (plan : LivePlan) (profileOf : BindingPlan → LocalProxyProfile)
    (stateBefore : LiveState) (mac : Option String) : List UndoStep :=
  proxySteps profileOf plan.bindings ++ policySteps profileOf plan.bindings ++
    assignmentSteps plan stateBefore mac

section Performing

variable {manifest : LocalEndpointManifest} {profileOf : BindingPlan → LocalProxyProfile}

theorem performs_sendAll (lines : List NdmCommand) :
    Performs transport (lines.map (⟨·, none⟩)) (sendAll transport lines) := by
  induction lines with
  | nil => exact performs_pure ()
  | cons line rest ih => exact (performs_command transport line).bind (fun _ => ih)

theorem performs_sendCreation (lines : List NdmCommand) (undo : NdmCommand) :
    Performs transport (creationSteps lines undo) (sendCreation transport lines undo) := by
  cases lines with
  | nil => exact performs_pure ()
  | cons first rest => exact performs_logged (performs_sendAll rest)

theorem performs_createProxies {bindings : List BindingPlan}
    (hfound : ∀ binding ∈ bindings,
      profileBySlot manifest binding.slot = .ok (profileOf binding)) :
    Performs transport (proxySteps profileOf bindings)
      (createProxies transport manifest bindings) := by
  induction bindings with
  | nil => exact performs_pure ()
  | cons binding rest ih =>
      have hrest := ih (fun b hb => hfound b (List.mem_cons_of_mem _ hb))
      simp only [createProxies, hfound binding List.mem_cons_self, lift, pure_bind]
      by_cases hcreate : binding.proxyAction = .create
      · have hsteps : proxySteps profileOf (binding :: rest) =
            creationSteps (proxyCreateCommands binding (profileOf binding))
              (.noInterface binding.proxyId) ++ proxySteps profileOf rest := by
          simp [proxySteps, creatingProxies, hcreate]
        rw [hsteps, if_pos hcreate]
        exact (performs_sendCreation _ _).bind
          (fun _ => (performs_note _).bind (fun _ => hrest))
      · have hsteps : proxySteps profileOf (binding :: rest) = proxySteps profileOf rest := by
          simp [proxySteps, creatingProxies, hcreate]
        rw [hsteps, if_neg hcreate]
        exact hrest

theorem performs_createPolicies {bindings : List BindingPlan}
    (hfound : ∀ binding ∈ bindings,
      profileBySlot manifest binding.slot = .ok (profileOf binding)) :
    Performs transport (policySteps profileOf bindings)
      (createPolicies transport manifest bindings) := by
  induction bindings with
  | nil => exact performs_pure ()
  | cons binding rest ih =>
      have hrest := ih (fun b hb => hfound b (List.mem_cons_of_mem _ hb))
      simp only [createPolicies, hfound binding List.mem_cons_self, lift, pure_bind]
      by_cases hcreate : binding.policyAction = .create
      · have hsteps : policySteps profileOf (binding :: rest) =
            creationSteps (policyCreateCommands binding (profileOf binding))
              (.noPolicy binding.policyId) ++ policySteps profileOf rest := by
          simp [policySteps, creatingPolicies, hcreate]
        rw [hsteps, if_pos hcreate]
        exact (performs_sendCreation _ _).bind
          (fun _ => (performs_note _).bind (fun _ => hrest))
      · have hsteps : policySteps profileOf (binding :: rest) = policySteps profileOf rest := by
          simp [policySteps, creatingPolicies, hcreate]
        rw [hsteps, if_neg hcreate]
        exact hrest

variable {rules : PlanRules} {state stateBefore : LiveState} {mac : Option String}
  {profileSlot : Option Nat} {allowMove : Bool} {plan : LivePlan}

theorem performs_assignDevice
    (planned : Planned rules manifest stateBefore mac profileSlot allowMove plan profileOf) :
    Performs transport (assignmentSteps plan stateBefore mac)
      (assignDevice transport plan stateBefore mac) := by
  unfold assignDevice assignmentSteps External.writtenAssignment
  cases mac with
  | none => exact performs_pure ()
  | some deviceMac =>
      cases hslot : plan.selectedSlot with
      | none => exact performs_pure ()
      | some slot =>
          obtain ⟨binding, -, -, htarget⟩ :=
            External.target_exists planned (planned.selectedSlot.symm.trans hslot)
          by_cases hwrite : plan.assignmentAction ∈ [.assign, .move]
          · simp only [if_pos hwrite, htarget, Except.toOption, Option.map_some, lift, pure_bind]
            exact performs_logged (performs_note _)
          · simp only [if_neg hwrite]
            exact performs_pure ()

variable (transport) in
theorem performs_writeObjects
    (planned : Planned rules manifest stateBefore mac profileSlot allowMove plan profileOf) :
    Performs transport (writeSteps plan profileOf stateBefore mac)
      (writeObjects transport manifest plan stateBefore mac) := by
  rw [writeSteps, List.append_assoc]
  exact (performs_createProxies planned.resolved.found).bind (fun _ =>
    (performs_createPolicies planned.resolved.found).bind (fun _ =>
      performs_assignDevice planned))

end Performing

section Covering

theorem covered_proxyCreation {state : LiveState} {binding : BindingPlan}
    {profile : LocalProxyProfile} {newest : Option NdmCommand}
    (h : binding.proxyId ∉ state.proxies.map (·.objectId)) :
    Covered NdmCommand.exec newest state
      (creationSteps (proxyCreateCommands binding profile) (.noInterface binding.proxyId)) := by
  have habsorb : ∀ s f hf, (LiveState.touchProxy s binding.proxyId f hf).removeProxy
      binding.proxyId = s.removeProxy binding.proxyId :=
    fun s f hf => LiveState.removeProxy_touchProxy s binding.proxyId f hf
  refine ⟨?_, ⟨_, rfl, habsorb _ _ (by intro; rfl)⟩, ⟨_, rfl, habsorb _ _ (by intro; rfl)⟩,
    ⟨_, rfl, habsorb _ _ (by intro; rfl)⟩, ⟨_, rfl, habsorb _ _ (by intro; rfl)⟩, trivial⟩
  exact (habsorb _ _ (by intro; rfl)).trans (LiveState.removeProxy_of_absent h)

theorem covered_policyCreation {state : LiveState} {binding : BindingPlan}
    {profile : LocalProxyProfile} {newest : Option NdmCommand}
    (h : binding.policyId ∉ state.policies.map (·.objectId)) :
    Covered NdmCommand.exec newest state
      (creationSteps (policyCreateCommands binding profile) (.noPolicy binding.policyId)) := by
  have habsorb : ∀ s f hf, (LiveState.touchPolicy s binding.policyId f hf).removePolicy
      binding.policyId = s.removePolicy binding.policyId :=
    fun s f hf => LiveState.removePolicy_touchPolicy s binding.policyId f hf
  refine ⟨?_, ⟨_, rfl, habsorb _ _ (by intro; rfl)⟩, trivial⟩
  exact (habsorb _ _ (by intro; rfl)).trans (LiveState.removePolicy_of_absent h)

variable {profileOf : BindingPlan → LocalProxyProfile}

theorem run_creationSteps (lines : List NdmCommand) (undo : NdmCommand) (state : LiveState) :
    Compensation.run NdmCommand.exec (creationSteps lines undo) state = execAll lines state := by
  cases lines with
  | nil => rfl
  | cons first rest =>
      simp only [creationSteps, Compensation.run, List.map_cons, List.map_map]
      simp [Function.comp_def, execAll]

private theorem run_flatMap_creationSteps {β : Type} (lines : β → List NdmCommand)
    (undo : β → NdmCommand) (entries : List β) (state : LiveState) :
    Compensation.run NdmCommand.exec
        (entries.flatMap (fun b => creationSteps (lines b) (undo b))) state =
      execAll (entries.flatMap lines) state := by
  induction entries generalizing state with
  | nil => rfl
  | cons b rest ih =>
      simp only [List.flatMap_cons, Compensation.run_append, run_creationSteps, ih,
        execAll_append]

theorem covered_proxySteps {creating : List BindingPlan} {state : LiveState}
    {newest : Option NdmCommand}
    (hfresh : ∀ binding ∈ creating, binding.proxyId ∉ state.proxies.map (·.objectId))
    (hnodup : (creating.map (·.proxyId)).Nodup) :
    Covered NdmCommand.exec newest state (creating.flatMap
      (fun b => creationSteps (proxyCreateCommands b (profileOf b)) (.noInterface b.proxyId))) := by
  induction creating generalizing state newest with
  | nil => trivial
  | cons binding rest ih =>
      have hbinding := hfresh binding List.mem_cons_self
      rw [List.map_cons, List.nodup_cons] at hnodup
      rw [List.flatMap_cons]
      refine (covered_proxyCreation hbinding).append ?_
      rw [run_creationSteps, External.execAll_proxyCreateCommands hbinding]
      exact ih (fun other hother => External.fresh_after_putProxy
        (External.commandedProxy binding (profileOf binding)) hbinding
        (hfresh other (List.mem_cons_of_mem _ hother))
        (fun heq => hnodup.1 (List.mem_map.mpr ⟨other, hother, heq⟩))) hnodup.2

theorem covered_policySteps {creating : List BindingPlan} {state : LiveState}
    {newest : Option NdmCommand}
    (hfresh : ∀ binding ∈ creating, binding.policyId ∉ state.policies.map (·.objectId))
    (hnodup : (creating.map (·.policyId)).Nodup) :
    Covered NdmCommand.exec newest state (creating.flatMap
      (fun b => creationSteps (policyCreateCommands b (profileOf b)) (.noPolicy b.policyId))) := by
  induction creating generalizing state newest with
  | nil => trivial
  | cons binding rest ih =>
      have hbinding := hfresh binding List.mem_cons_self
      rw [List.map_cons, List.nodup_cons] at hnodup
      rw [List.flatMap_cons]
      refine (covered_policyCreation hbinding).append ?_
      rw [run_creationSteps, External.execAll_policyCreateCommands hbinding]
      exact ih (fun other hother => External.fresh_after_putPolicy
        (External.expectedPolicy binding (profileOf binding)) hbinding
        (hfresh other (List.mem_cons_of_mem _ hother))
        (fun heq => hnodup.1 (List.mem_map.mpr ⟨other, hother, heq⟩))) hnodup.2

theorem covered_assignmentSteps {plan : LivePlan} {state stateBefore : LiveState}
    {mac : Option String} {newest : Option NdmCommand}
    (h : ∀ deviceMac, state.assignmentOf deviceMac = stateBefore.assignmentOf deviceMac) :
    Covered NdmCommand.exec newest state (assignmentSteps plan stateBefore mac) := by
  unfold assignmentSteps
  split
  · next deviceMac target hwritten =>
    refine ⟨?_, trivial⟩
    simp only [undoAssignment]
    cases hformer : stateBefore.assignmentOf deviceMac with
    | none => exact LiveState.unassign_assign ((h deviceMac).trans hformer)
    | some former => exact LiveState.assign_assign ((h deviceMac).trans hformer)
  · trivial

variable {rules : PlanRules} {manifest : LocalEndpointManifest} {state stateBefore : LiveState}
  {mac : Option String} {profileSlot : Option Nat} {allowMove : Bool} {plan : LivePlan}

/-- The plan's creations are new to the router as well: it holds what was read. -/
private theorem fresh_of_same (hsame : stateBefore.Same state)
    (planned : Planned rules manifest stateBefore mac profileSlot allowMove plan profileOf) :
    (∀ binding ∈ creatingProxies plan.bindings,
        binding.proxyId ∉ state.proxies.map (·.objectId)) ∧
      ∀ binding ∈ creatingPolicies plan.bindings,
        binding.policyId ∉ state.policies.map (·.objectId) := by
  refine ⟨fun binding hbinding hmem => planned.proxies_fresh binding hbinding ?_,
    fun binding hbinding hmem => planned.policies_fresh binding hbinding ?_⟩
  · exact (hsame.proxies.map _).mem_iff.mpr hmem
  · exact (hsame.policies.map _).mem_iff.mpr hmem

theorem covered_writeSteps (hsame : stateBefore.Same state)
    (planned : Planned rules manifest stateBefore mac profileSlot allowMove plan profileOf) :
    Covered NdmCommand.exec none state (writeSteps plan profileOf stateBefore mac) := by
  obtain ⟨hproxies, hpolicies⟩ := fresh_of_same hsame planned
  have hafterProxies := External.foldl_putProxy state
    (External.commandedProxies plan profileOf)
    (by simpa [External.commandedProxies, External.commandedProxy, External.expectedProxy]
      using hproxies)
    (by simpa [External.commandedProxies, External.commandedProxy, External.expectedProxy,
      Function.comp_def] using planned.proxies_nodup)
  have hrunProxies : Compensation.run NdmCommand.exec (proxySteps profileOf plan.bindings) state =
      (External.commandedProxies plan profileOf).foldl External.putProxy state := by
    rw [proxySteps, run_flatMap_creationSteps]
    exact External.execAll_creatingProxies hproxies planned.proxies_nodup
  have hpolicies' : ∀ binding ∈ creatingPolicies plan.bindings, binding.policyId ∉
      ((External.commandedProxies plan profileOf).foldl External.putProxy state).policies.map
        (·.objectId) := by
    rwa [hafterProxies.2.1]
  have hafterPolicies := External.foldl_putPolicy
    ((External.commandedProxies plan profileOf).foldl External.putProxy state)
    (External.expectedPolicies plan profileOf)
    (by simpa [External.expectedPolicies, External.expectedPolicy] using hpolicies')
    (by simpa [External.expectedPolicies, External.expectedPolicy, Function.comp_def] using
      planned.policies_nodup)
  refine ((covered_proxySteps hproxies planned.proxies_nodup).append ?_).append ?_
  · rw [show (creatingProxies plan.bindings).flatMap (fun b => creationSteps
      (proxyCreateCommands b (profileOf b)) (.noInterface b.proxyId)) =
        proxySteps profileOf plan.bindings from rfl, hrunProxies]
    exact covered_policySteps hpolicies' planned.policies_nodup
  · refine covered_assignmentSteps (fun deviceMac => ?_)
    have hassignments : (Compensation.run NdmCommand.exec (proxySteps profileOf plan.bindings ++
        policySteps profileOf plan.bindings) state).assignments = state.assignments := by
      rw [Compensation.run_append, hrunProxies, policySteps, run_flatMap_creationSteps,
        External.execAll_creatingPolicies hpolicies' planned.policies_nodup]
      exact hafterPolicies.2.2.1.trans hafterProxies.2.2.1
    rw [hsame.assignmentOf deviceMac]
    exact congrArg (fun assignments =>
      (Keyed.lookup Prod.fst deviceMac assignments).map Prod.snd) hassignments

end Covering

section Remaining

variable {rules : PlanRules} {manifest : LocalEndpointManifest} {state stateBefore : LiveState}
  {mac : Option String} {profileSlot : Option Nat} {allowMove : Bool} {plan : LivePlan}
  {profileOf : BindingPlan → LocalProxyProfile}

theorem undos_creationSteps (first : NdmCommand) (rest : List NdmCommand) (undo : NdmCommand) :
    undos (creationSteps (first :: rest) undo) = [undo] := by
  simp [undos, creationSteps]

theorem undos_proxySteps (bindings : List BindingPlan) :
    undos (proxySteps profileOf bindings) =
      (creatingProxies bindings).map (fun b => .noInterface b.proxyId) := by
  rw [proxySteps]
  induction creatingProxies bindings with
  | nil => rfl
  | cons binding rest ih =>
      rw [List.flatMap_cons, undos_append, ih, proxyCreateCommands, undos_creationSteps]
      rfl

theorem undos_policySteps (bindings : List BindingPlan) :
    undos (policySteps profileOf bindings) =
      (creatingPolicies bindings).map (fun b => .noPolicy b.policyId) := by
  rw [policySteps]
  induction creatingPolicies bindings with
  | nil => rfl
  | cons binding rest ih =>
      rw [List.flatMap_cons, undos_append, ih, policyCreateCommands, undos_creationSteps]
      rfl

theorem undoAssignment_isAssignment (deviceMac : String) :
    (undoAssignment stateBefore deviceMac).IsAssignment := by
  unfold undoAssignment
  split <;> trivial

theorem undos_assignmentSteps : ∀ undo ∈ undos (assignmentSteps plan stateBefore mac),
    undo.IsAssignment := by
  unfold assignmentSteps
  split
  · simpa [undos] using undoAssignment_isAssignment _
  · simp [undos]

/-- No compensation is logged twice. -/
theorem undos_writeSteps_nodup
    (planned : Planned rules manifest stateBefore mac profileSlot allowMove plan profileOf) :
    (undos (writeSteps plan profileOf stateBefore mac)).Nodup := by
  rw [writeSteps, undos_append, undos_append, undos_proxySteps, undos_policySteps]
  have hproxies := planned.proxies_nodup.map
    (f := NdmCommand.noInterface) (fun _ _ h => NdmCommand.noInterface.inj h)
  have hpolicies := planned.policies_nodup.map
    (f := NdmCommand.noPolicy) (fun _ _ h => NdmCommand.noPolicy.inj h)
  rw [List.map_map] at hproxies hpolicies
  refine List.nodup_append.mpr ⟨List.nodup_append.mpr ⟨hproxies, hpolicies, ?_⟩, ?_, ?_⟩
  · intro left hleft right hright heq
    obtain ⟨_, -, rfl⟩ := List.mem_map.mp hleft
    obtain ⟨_, -, rfl⟩ := List.mem_map.mp hright
    cases heq
  · unfold assignmentSteps
    split <;> simp [undos]
  · intro left hleft right hright heq
    have hassignment := undos_assignmentSteps right hright
    rcases List.mem_append.mp hleft with hleft | hleft
    · obtain ⟨_, -, rfl⟩ := List.mem_map.mp hleft
      subst heq
      exact absurd hassignment id
    · obtain ⟨_, -, rfl⟩ := List.mem_map.mp hleft
      subst heq
      exact absurd hassignment id

private theorem mem_creationSteps {first : NdmCommand} {rest : List NdmCommand}
    {undo undo' : NdmCommand} {step : UndoStep}
    (h : step ∈ creationSteps (first :: rest) undo) (hundo : step.undo = some undo') :
    step.command = first ∧ undo' = undo := by
  rcases List.mem_cons.mp h with rfl | hrest
  · exact ⟨rfl, (Option.some.inj hundo).symm⟩
  · obtain ⟨line, -, rfl⟩ := List.mem_map.mp hrest
    cases hundo

/-- The effect of a logging step that has not been logged: the object is there,
and nothing in the log so far takes it away. -/
theorem unlogged_effect_remains (hsame : stateBefore.Same state)
    (planned : Planned rules manifest stateBefore mac profileSlot allowMove plan profileOf)
    {done rest : List UndoStep} {step : UndoStep} {undo : NdmCommand}
    (hsteps : writeSteps plan profileOf stateBefore mac = done ++ step :: rest)
    (hundo : step.undo = some undo) {final : LiveState}
    (hfinal : final = Compensation.rollback NdmCommand.exec (undos done)
      (step.command.exec (Compensation.run NdmCommand.exec done state))) :
    ¬ (final.proxies.Perm state.proxies ∧ final.policies.Perm state.policies ∧
      final.assignments.Perm state.assignments) := by
  obtain ⟨hproxies, hpolicies⟩ := fresh_of_same hsame planned
  have hnotLogged : undo ∉ undos done := by
    have hnodup := undos_writeSteps_nodup planned
    rw [hsteps, undos_append, List.nodup_append] at hnodup
    exact fun hmem => hnodup.2.2 undo hmem undo (by simp [undos, hundo]) rfl
  have hmem : step ∈ writeSteps plan profileOf stateBefore mac := by simp [hsteps]
  subst hfinal
  rintro ⟨hsameProxies, hsamePolicies, hsameAssignments⟩
  rcases List.mem_append.mp hmem with hobjects | hassignment
  · rcases List.mem_append.mp hobjects with hproxy | hpolicy
    · obtain ⟨binding, hbinding, hstep⟩ := List.mem_flatMap.mp hproxy
      obtain ⟨hcommand, rfl⟩ := mem_creationSteps hstep hundo
      have hthere : binding.proxyId ∈ (step.command.exec
          (Compensation.run NdmCommand.exec done state)).proxies.map (·.objectId) := by
        rw [hcommand]
        exact LiveState.mem_touchProxy _ _ _ (by intro; rfl)
      have hstays := execAll_keeps (p := fun s => binding.proxyId ∈ s.proxies.map (·.objectId))
        (undos done).reverse
        (fun command hcommand s hs => exec_keeps_proxy hs
          (fun heq => hnotLogged (heq ▸ List.mem_reverse.mp hcommand))) hthere
      exact hproxies binding hbinding ((hsameProxies.map _).mem_iff.mp hstays)
    · obtain ⟨binding, hbinding, hstep⟩ := List.mem_flatMap.mp hpolicy
      obtain ⟨hcommand, rfl⟩ := mem_creationSteps hstep hundo
      have hthere : binding.policyId ∈ (step.command.exec
          (Compensation.run NdmCommand.exec done state)).policies.map (·.objectId) := by
        rw [hcommand]
        exact LiveState.mem_touchPolicy _ _ _ (by intro; rfl)
      have hstays := execAll_keeps (p := fun s => binding.policyId ∈ s.policies.map (·.objectId))
        (undos done).reverse
        (fun command hcommand s hs => exec_keeps_policy hs
          (fun heq => hnotLogged (heq ▸ List.mem_reverse.mp hcommand))) hthere
      exact hpolicies binding hbinding ((hsamePolicies.map _).mem_iff.mp hstays)
  · obtain ⟨deviceMac, target, hwritten⟩ : ∃ deviceMac target,
        External.writtenAssignment plan mac = some (deviceMac, target) := by
      cases hwritten : External.writtenAssignment plan mac with
      | none => simp [assignmentSteps, hwritten] at hassignment
      | some entry => exact ⟨entry.1, entry.2, rfl⟩
    have hsingle : assignmentSteps plan stateBefore mac = [⟨.hotspotHostPolicy deviceMac target,
        some (undoAssignment stateBefore deviceMac)⟩] := by
      simp [assignmentSteps, hwritten]
    rw [hsingle] at hassignment
    obtain rfl := List.mem_singleton.mp hassignment
    obtain rfl := Option.some.inj hundo
    -- Whatever is logged before the assignment removes an object.
    have hkept : ∀ command ∈ undos done, ¬ command.IsAssignment := by
      intro command hcommand hassign
      have hlogged : command ∈ undos (writeSteps plan profileOf stateBefore mac) := by
        rw [hsteps, undos_append]
        exact List.mem_append_left _ hcommand
      rw [writeSteps, undos_append, undos_append, undos_proxySteps, undos_policySteps,
        hsingle] at hlogged
      rcases List.mem_append.mp hlogged with hobject | hlast
      · rcases List.mem_append.mp hobject with hobject | hobject
        · obtain ⟨_, -, rfl⟩ := List.mem_map.mp hobject
          exact hassign
        · obtain ⟨_, -, rfl⟩ := List.mem_map.mp hobject
          exact hassign
      · obtain rfl : command = undoAssignment stateBefore deviceMac := by
          simpa [undos] using hlast
        exact hnotLogged hcommand
    have hassigned := LiveState.assignmentOf_assign
      (Compensation.run NdmCommand.exec done state) deviceMac target
    have hstays := execAll_keeps (p := fun s => s.assignmentOf deviceMac = some target)
      (undos done).reverse
      (fun command hcommand s hs => by
        have heq := exec_keeps_assignments s
          (hkept command (List.mem_reverse.mp hcommand))
        rw [LiveState.assignmentOf, heq]
        exact hs) hassigned
    have hbefore := (External.writtenAssignment_eq_some planned hwritten).2.2
    rw [hsame.assignmentOf deviceMac] at hbefore
    apply hbefore
    rw [← hstays, LiveState.assignmentOf, LiveState.assignmentOf]
    exact congrArg (Option.map Prod.snd) (Keyed.lookup_perm Prod.fst
      state.deviceMacs_nodup hsameAssignments.symm)

end Remaining

section Quiet

variable {α β : Type}

/-- A program that leaves the native state and the log alone, however it ends. -/
def Quiet (x : ApplyM α) : Prop :=
  ∀ before, match x before with
    | .ok _ after =>
        after.router.state = before.router.state ∧ after.rollback = before.rollback
    | .error _ after =>
        after.router.state = before.router.state ∧ after.rollback = before.rollback

theorem quiet_pure (a : α) : Quiet (pure a : ApplyM α) := fun _ => ⟨rfl, rfl⟩

theorem quiet_get : Quiet (get : ApplyM ApplyRun) := fun _ => ⟨rfl, rfl⟩

theorem quiet_raise (error : LiveError) : Quiet (raise error : ApplyM α) := fun _ => ⟨rfl, rfl⟩

theorem quiet_note (f : ApplyResult → ApplyResult) : Quiet (note f) := fun _ => ⟨rfl, rfl⟩

theorem quiet_lift (x : Except LiveError α) : Quiet (lift x) := by
  cases x with
  | ok a => exact quiet_pure a
  | error e => exact quiet_raise e

theorem Quiet.bind {x : ApplyM α} {f : α → ApplyM β} (hx : Quiet x) (hf : ∀ a, Quiet (f a)) :
    Quiet (x >>= f) := by
  intro before
  rw [bind_run]
  have h := hx before
  cases hrun : x before with
  | error error after =>
      rw [hrun] at h
      exact h
  | ok a middle =>
      rw [hrun] at h
      have h' := hf a middle
      simp only at h ⊢
      cases hrun' : f a middle with
      | ok b after =>
          rw [hrun'] at h'
          exact ⟨h'.1.trans h.1, h'.2.trans h.2⟩
      | error error after =>
          rw [hrun'] at h'
          exact ⟨h'.1.trans h.1, h'.2.trans h.2⟩

theorem quiet_command {line : NdmCommand} (h : ∀ state, line.exec state = state) :
    Quiet (command transport line) := by
  intro before
  unfold command
  cases transport.outcome before.router.sent with
  | applied => exact ⟨h _, rfl⟩
  | failedApplied => exact ⟨h _, rfl⟩
  | failedUnapplied => exact ⟨rfl, rfl⟩

variable (transport) in
theorem quiet_readState : Quiet (readState transport) :=
  (quiet_command (fun _ => rfl)).bind (fun _ => quiet_get.bind (fun _ => quiet_pure _))

variable (transport) in
theorem quiet_readBack (rules : PlanRules) (manifest : LocalEndpointManifest) (plan : LivePlan)
    (stateBefore : LiveState) (mac : Option String) (changed : String) :
    Quiet (readBack rules transport manifest plan stateBefore mac changed) :=
  (quiet_readState transport).bind (fun _ => (quiet_lift _).bind (fun _ => quiet_lift _))

variable (transport) in
theorem quiet_verifyAndSave (rules : PlanRules) (manifest : LocalEndpointManifest)
    (plan : LivePlan) (stateBefore : LiveState) (mac : Option String) :
    Quiet (verifyAndSave rules transport manifest plan stateBefore mac) :=
  (quiet_readBack _ _ _ _ _ _ _).bind (fun _ => (quiet_command (fun _ => rfl)).bind (fun _ =>
    (quiet_note _).bind (fun _ => (quiet_readBack _ _ _ _ _ _ _).bind (fun _ =>
      (quiet_note _).bind (fun _ => quiet_get.bind (fun _ => quiet_pure _))))))

end Quiet

section Recovering

variable (transport) in
theorem command_run (line : NdmCommand) (run : ApplyRun) :
    (transport.outcome run.router.sent = .applied ∧ command transport line run =
      .ok () { run with router := ⟨line.exec run.router.state, run.router.sent + 1⟩ }) ∨
    (transport.outcome run.router.sent ≠ .applied ∧
      ∃ after, command transport line run = .error ndmFailure after) := by
  unfold command
  cases transport.outcome run.router.sent with
  | applied => exact .inl ⟨rfl, rfl⟩
  | failedApplied => exact .inr ⟨by simp, _, rfl⟩
  | failedUnapplied => exact .inr ⟨by simp, _, rfl⟩

variable (transport) in
/-- The log is executed to its end exactly when every command of it is confirmed. -/
theorem rollBackAll_run (lines : List NdmCommand) (run : ApplyRun) :
    (AllApplied transport run.router.sent lines.length ∧ rollBackAll transport lines run =
      .ok true { run with
        router := ⟨execAll lines run.router.state, run.router.sent + lines.length⟩ }) ∨
    (¬ AllApplied transport run.router.sent lines.length ∧
      ∃ after, rollBackAll transport lines run = .ok false after) := by
  induction lines generalizing run with
  | nil => exact .inl ⟨allApplied_zero _, rfl⟩
  | cons line rest ih =>
      simp only [rollBackAll, bind_run, succeeds, List.length_cons, allApplied_succ]
      rcases command_run transport line run with
        ⟨houtcome, hrun⟩ | ⟨houtcome, after, hrun⟩
      · rw [hrun]
        have hih := ih { run with router := ⟨line.exec run.router.state, run.router.sent + 1⟩ }
        simp only [pure, EStateM.pure, if_true] at hih ⊢
        rcases hih with ⟨hrest, hrunRest⟩ | ⟨hrest, hrunRest⟩
        · refine .inl ⟨⟨houtcome, hrest⟩, hrunRest.trans ?_⟩
          simp only [execAll, Compensation.execAll_cons, Nat.add_comm, Nat.add_left_comm]
        · exact .inr ⟨fun h => hrest h.2, hrunRest⟩
      · rw [hrun]
        exact .inr ⟨fun h => houtcome h.1, after, rfl⟩

theorem execAll_defaultGuard (lines : List NdmCommand) (state : LiveState) :
    (execAll lines state).defaultGuard = state.defaultGuard :=
  execAll_keeps (p := fun s => s.defaultGuard = state.defaultGuard) lines
    (fun command _ s hs => (exec_defaultGuard s command).trans hs) rfl

variable (transport) in
theorem confirmGuard_run {stateBefore : LiveState} (run : ApplyRun)
    (hguard : run.router.state.parsed.defaultGuard = stateBefore.defaultGuard) :
    (AllApplied transport run.router.sent 2 ∧
      succeeds (confirmGuard transport stateBefore) run =
        .ok true { run with router := ⟨run.router.state, run.router.sent + 2⟩ }) ∨
    (¬ AllApplied transport run.router.sent 2 ∧
      ∃ after, succeeds (confirmGuard transport stateBefore) run = .ok false after) := by
  simp only [succeeds, confirmGuard, readState, bind_run, allApplied_succ]
  rcases command_run transport .configurationSave run with
    ⟨hsave, hrun⟩ | ⟨hsave, after, hrun⟩
  · rw [hrun]
    simp only
    rcases command_run transport .showRunningConfig
        { run with router := ⟨run.router.state, run.router.sent + 1⟩ } with
      ⟨hread, hrun'⟩ | ⟨hread, after, hrun'⟩
    · refine .inl ⟨⟨hsave, hread, allApplied_zero _⟩, ?_⟩
      rw [show NdmCommand.exec run.router.state .configurationSave = run.router.state from rfl,
        hrun']
      simp [get_run, pure_run, NdmCommand.exec, hguard]
    · refine .inr ⟨fun h => hread h.2.1, after, ?_⟩
      rw [show NdmCommand.exec run.router.state .configurationSave = run.router.state from rfl,
        hrun']
      rfl
  · rw [hrun]
    exact .inr ⟨fun h => hsave h.1, after, rfl⟩

variable (transport) in
/-- The handler re-raises the error after a proven rollback, and raises the
unproven one otherwise. -/
theorem recover_run {α : Type} {stateBefore : LiveState} (error : LiveError) {run : ApplyRun}
    (hguard : run.router.state.parsed.defaultGuard = stateBefore.defaultGuard) :
    (AllApplied transport run.router.sent (run.rollback.length + 2) ∧
      ∃ after, recover (α := α) transport stateBefore error run = .error error after ∧
        after.router.state =
          Compensation.rollback NdmCommand.exec run.rollback run.router.state) ∨
    (¬ AllApplied transport run.router.sent (run.rollback.length + 2) ∧
      ∃ message after, recover (α := α) transport stateBefore error run =
        .error (.adapter message rollbackUnproven) after) := by
  simp only [recover, bind_run, note_run, get_run]
  rcases rollBackAll_run transport run.rollback.reverse
      { run with result := { run.result with rollbackAttempted := true } } with
    ⟨hall, hrun⟩ | ⟨hall, after, hrun⟩
  · rw [hrun]
    rw [List.length_reverse] at hall hrun
    have hguardAfter : (execAll run.rollback.reverse run.router.state).parsed.defaultGuard =
        stateBefore.defaultGuard := by
      rw [← hguard]
      exact congrArg (Keyed.sortByKey id) (execAll_defaultGuard _ _)
    simp only [if_true, List.length_reverse, bind_run]
    rcases confirmGuard_run transport {
        run with
        router := ⟨execAll run.rollback.reverse run.router.state,
          run.router.sent + run.rollback.length⟩
        result := { run.result with rollbackAttempted := true } } hguardAfter with
      ⟨hconfirm, hrun'⟩ | ⟨hconfirm, after, hrun'⟩
    · simp only at hrun'
      rw [hrun']
      exact .inl ⟨allApplied_add.mpr ⟨hall, hconfirm⟩, _, rfl, rfl⟩
    · simp only at hrun'
      rw [hrun']
      exact .inr ⟨fun h => hconfirm (allApplied_add.mp h).2, _, _, rfl⟩
  · rw [hrun]
    rw [List.length_reverse] at hall
    refine .inr ⟨fun h => hall (fun j hj => h j (by omega)), _, _, rfl⟩

end Recovering

/-- Which of the commands a plan writes are the first of their object. -/
def writeShape (plan : LivePlan) : List Bool :=
  (creatingProxies plan.bindings).flatMap (fun _ => [true, false, false, false, false]) ++
    (creatingPolicies plan.bindings).flatMap (fun _ => [true, false]) ++
    if plan.assignmentAction ∈ [.assign, .move] then [true] else []

/-- The first command of an object, all commands before it confirmed, takes
effect and is reported as failed; and every command the handler then sends, one
for each object before it, the save and the read, is confirmed. -/
def LateFailure (transport : Transport) (plan : LivePlan) : Prop :=
  transport.backupWritten = true ∧ ∃ k, (writeShape plan)[k]? = some true ∧
    AllApplied transport 0 (1 + k) ∧ transport.outcome (1 + k) = .failedApplied ∧
    AllApplied transport (2 + k) (((writeShape plan).take k).count true + 2)

section Whole

variable {rules : PlanRules} {manifest : LocalEndpointManifest} {state stateBefore : LiveState}
  {mac : Option String} {profileSlot : Option Nat} {allowMove : Bool} {plan : LivePlan}
  {profileOf : BindingPlan → LocalProxyProfile}

theorem writeSteps_shape
    (planned : Planned rules manifest stateBefore mac profileSlot allowMove plan profileOf) :
    (writeSteps plan profileOf stateBefore mac).map (·.undo.isSome) = writeShape plan := by
  have hassignment : (assignmentSteps plan stateBefore mac).map (·.undo.isSome) =
      if plan.assignmentAction ∈ [.assign, .move] then [true] else [] := by
    have hplanned := planned.assignment
    have hselected := planned.selectedSlot
    by_cases hwrite : plan.assignmentAction ∈ [.assign, .move]
    · have hwritten : ∃ entry, External.writtenAssignment plan mac = some entry := by
        generalize haction : plan.assignmentAction = action at hplanned
        cases hplanned with
        | none => simp [haction] at hwrite
        | reuse => simp [haction] at hwrite
        | assign htarget | move htarget =>
            simp [External.writtenAssignment, hselected, haction, htarget, Except.toOption]
      obtain ⟨entry, hwritten⟩ := hwritten
      simp [assignmentSteps, hwritten, hwrite]
    · have hwritten : External.writtenAssignment plan mac = none := by
        unfold External.writtenAssignment
        split
        · rw [if_neg hwrite]
        · rfl
      simp [assignmentSteps, hwritten, hwrite]
  rw [writeSteps, List.map_append, List.map_append, hassignment, proxySteps, policySteps,
    List.map_flatMap, List.map_flatMap]
  rfl

theorem undos_length (steps : List UndoStep) :
    (undos steps).length = (steps.map (·.undo.isSome)).count true := by
  induction steps with
  | nil => rfl
  | cons step rest ih =>
      cases h : step.undo with
      | none => simpa [undos, h] using ih
      | some undo => simpa [undos, h] using ih

/-- A write that is not required has no steps. -/
theorem writeShape_eq_nil (h : writeRequired plan = false) : writeShape plan = [] := by
  simp only [writeRequired, Bool.or_eq_false_iff, List.any_eq_false, Bool.or_eq_true,
    decide_eq_true_eq, not_or, decide_eq_false_iff_not] at h
  have hproxies : creatingProxies plan.bindings = [] := by
    simpa [creatingProxies, List.filter_eq_nil_iff] using fun b hb => (h.1 b hb).1
  have hpolicies : creatingPolicies plan.bindings = [] := by
    simpa [creatingPolicies, List.filter_eq_nil_iff] using fun b hb => (h.1 b hb).2
  simp only [writeShape, hproxies, hpolicies, if_neg h.2]
  rfl

variable (transport) in
/-- The ways the body of the `try` ends. -/
theorem applyWrites_run (before : ApplyRun)
    (planned : Planned rules manifest stateBefore mac profileSlot allowMove plan profileOf) :
    match applyWrites rules transport manifest plan stateBefore mac before with
    | .ok _ _ => AllApplied transport before.router.sent
        (writeSteps plan profileOf stateBefore mac).length
    | .error error after =>
        (error = ndmFailure ∧ ∃ done step rest,
          writeSteps plan profileOf stateBefore mac = done ++ step :: rest ∧
            CutOff transport done step before after) ∨
        (AllApplied transport before.router.sent
            (writeSteps plan profileOf stateBefore mac).length ∧
          after.router.state = Compensation.run NdmCommand.exec
            (writeSteps plan profileOf stateBefore mac) before.router.state ∧
          after.rollback = before.rollback ++
            undos (writeSteps plan profileOf stateBefore mac)) := by
  have h := performs_writeObjects transport planned before
  rw [applyWrites, bind_run]
  cases hrun : writeObjects transport manifest plan stateBefore mac before with
  | error error after =>
      rw [hrun] at h
      exact .inl h
  | ok _ middle =>
      rw [hrun] at h
      have h' := quiet_verifyAndSave transport rules manifest plan stateBefore mac
        middle
      simp only at h ⊢
      cases hrun' : verifyAndSave rules transport manifest plan stateBefore mac middle with
      | ok result after => exact h.outcomes
      | error error after =>
          rw [hrun'] at h'
          refine .inr ⟨h.outcomes, ?_, h'.2.trans h.rollback⟩
          rw [h'.1, h.router]

/-- The planned objects are those of the state, in whatever order. -/
structure Restored (state : LiveState) (after : ApplyRun) : Prop where
  proxies : after.router.state.proxies.Perm state.proxies
  policies : after.router.state.policies.Perm state.policies
  assignments : after.router.state.assignments.Perm state.assignments

theorem Restored.of_eq {after : ApplyRun} (h : after.router.state = state) :
    Restored state after := by
  subst h
  exact ⟨.refl _, .refl _, .refl _⟩

/-- The body of the `try` and its handler. -/
def guardedWrites (rules : PlanRules) (transport : Transport) (manifest : LocalEndpointManifest)
    (plan : LivePlan) (stateBefore : LiveState) (mac : Option String) : ApplyM ApplyResult :=
  fun run =>
    match applyWrites rules transport manifest plan stateBefore mac run with
    | .ok result run' => .ok result run'
    | .error error run' =>
        if isHandled error then recover transport stateBefore error run' else .error error run'

/-- A failure that claims less than an unproven rollback restores the objects. -/
def RestoresOnFailure (state : LiveState) {α : Type} (x : ApplyM α) (before : ApplyRun) : Prop :=
  ∀ message exitCode after, x before = .error (.adapter message exitCode) after →
    exitCode ≠ rollbackUnproven → Restored state after

/-- A late failure after the first read: the part of `LateFailure` about the writes. -/
def LateWrite (transport : Transport) (plan : LivePlan) (sent : Nat) : Prop :=
  ∃ k, (writeShape plan)[k]? = some true ∧ AllApplied transport sent k ∧
    transport.outcome (sent + k) = .failedApplied ∧
    AllApplied transport (sent + 1 + k) (((writeShape plan).take k).count true + 2)

section Attempt

variable (planned : Planned rules manifest state.parsed mac profileSlot allowMove plan profileOf)
  {before : ApplyRun} (hstate : before.router.state = state) (hlog : before.rollback = [])

include planned in
private theorem cut_shape {done rest : List UndoStep} {step : UndoStep}
    (hsteps : writeSteps plan profileOf state.parsed mac = done ++ step :: rest) :
    (writeShape plan)[done.length]? = some step.undo.isSome ∧
      ((writeShape plan).take done.length).count true = (undos done).length := by
  rw [← writeSteps_shape planned, hsteps, undos_length]
  simp

/-- A cut-off write is cut off at the first command that is not confirmed. -/
private theorem cut_position {before after : ApplyRun} {done : List UndoStep} {step : UndoStep}
    (hcut : CutOff transport done step before after) {k : Nat}
    (hall : AllApplied transport before.router.sent k)
    (hfailed : transport.outcome (before.router.sent + k) ≠ .applied) : done.length = k := by
  rcases Nat.lt_trichotomy done.length k with hlt | heq | hgt
  · exact absurd (hall _ hlt) hcut.failed
  · exact heq
  · exact absurd (hcut.outcomes _ hgt) hfailed

theorem execAll_parsedGuard (commands : List NdmCommand) (state : LiveState) :
    (execAll commands state).parsed.defaultGuard = state.parsed.defaultGuard :=
  congrArg (Keyed.sortByKey id) (execAll_defaultGuard commands state)

include hstate hlog in
private theorem cut_state {after : ApplyRun} {done : List UndoStep} {step : UndoStep}
    (hcut : CutOff transport done step before after) :
    after.rollback = undos done ∧
      after.router.state.parsed.defaultGuard = state.parsed.defaultGuard ∧
      after.router.state =
        if transport.outcome (before.router.sent + done.length) = .failedApplied then
          step.command.exec (Compensation.run NdmCommand.exec done state)
        else Compensation.run NdmCommand.exec done state := by
  have hafter := hcut.state
  rw [hstate] at hafter
  refine ⟨by rw [hcut.rollback, hlog, List.nil_append], ?_, hafter⟩
  rw [hafter]
  split
  · exact (execAll_parsedGuard [step.command] _).trans (execAll_parsedGuard _ state)
  · exact execAll_parsedGuard _ state

include planned hstate hlog in
private theorem lateWrite_changes (hlate : LateWrite transport plan before.router.sent) :
    ¬ RestoresOnFailure state (guardedWrites rules transport manifest plan state.parsed mac)
      before := by
  obtain ⟨k, hshape, hall, houtcome, hhandler⟩ := hlate
  have hwrites := applyWrites_run transport before planned
  have hunfinished : ¬ AllApplied transport before.router.sent
      (writeSteps plan profileOf state.parsed mac).length := by
    intro hfinished
    have hk : k < (writeSteps plan profileOf state.parsed mac).length := by
      have hlt := (List.getElem?_eq_some_iff.mp hshape).1
      rwa [← writeSteps_shape planned, List.length_map] at hlt
    cases (hfinished k hk).symm.trans houtcome
  intro hrestores
  unfold RestoresOnFailure guardedWrites at hrestores
  cases hrun : applyWrites rules transport manifest plan state.parsed mac before with
  | ok result after =>
      rw [hrun] at hwrites
      exact hunfinished hwrites
  | error error after =>
      rw [hrun] at hwrites hrestores
      rcases hwrites with ⟨rfl, done, step, rest, hsteps, hcut⟩ | ⟨hfinished, -⟩
      · obtain rfl := cut_position hcut hall (by simp [houtcome])
        obtain ⟨hundo, hcount⟩ := cut_shape planned hsteps
        obtain ⟨undo, hundo⟩ := Option.isSome_iff_exists.mp
          (Option.some.inj (hundo.symm.trans hshape))
        obtain ⟨hafterLog, hguard, hafter⟩ := cut_state hstate hlog hcut
        rw [if_pos houtcome] at hafter
        rcases recover_run (α := ApplyResult) transport ndmFailure
          hguard with ⟨-, final, hrecover, hfinal⟩ | ⟨hnot, -⟩
        · have hrestored := hrestores _ _ final hrecover (by decide)
          refine unlogged_effect_remains (LiveState.parsed_same state) planned hsteps hundo
            (?_ : final.router.state = _)
            ⟨hrestored.proxies, hrestored.policies, hrestored.assignments⟩
          rw [hfinal, hafter, hafterLog]
        · apply hnot
          rw [hcut.sent, hafterLog, ← hcount]
          rwa [Nat.add_right_comm]
      · exact hunfinished hfinished

include planned hstate hlog in
private theorem cut_restored {after : ApplyRun} {done rest : List UndoStep} {step : UndoStep}
    (hsteps : writeSteps plan profileOf state.parsed mac = done ++ step :: rest)
    (hcut : CutOff transport done step before after)
    (hhandler : AllApplied transport after.router.sent (after.rollback.length + 2))
    (hlate : ¬ LateWrite transport plan before.router.sent) :
    Compensation.rollback NdmCommand.exec after.rollback after.router.state = state := by
  have hcovered := covered_writeSteps (LiveState.parsed_same state) planned
  obtain ⟨hundo, hcount⟩ := cut_shape planned hsteps
  obtain ⟨hafterLog, -, hafter⟩ := cut_state hstate hlog hcut
  rw [hsteps] at hcovered
  rw [hafterLog, hafter]
  split
  · next houtcome =>
    -- Taking effect unreported is harmless unless the step was to log a compensation.
    have hunlogged : step.undo = none := by
      by_contra hlogs
      rw [Option.isSome_iff_ne_none.mpr hlogs] at hundo
      refine hlate ⟨done.length, hundo, hcut.outcomes, houtcome, ?_⟩
      rw [hcut.sent, hafterLog, ← hcount] at hhandler
      rwa [Nat.add_right_comm]
    exact rollback_unlogged hcovered hunlogged
  · exact rollback_done hcovered

include planned hstate hlog in
private theorem restores_of_not_lateWrite
    (hlate : ¬ LateWrite transport plan before.router.sent) :
    RestoresOnFailure state (guardedWrites rules transport manifest plan state.parsed mac)
      before := by
  intro message exitCode final hfinal hcode
  have hwrites := applyWrites_run transport before planned
  unfold guardedWrites at hfinal
  cases hrun : applyWrites rules transport manifest plan state.parsed mac before with
  | ok result after =>
      rw [hrun] at hfinal
      cases hfinal
  | error error after =>
      rw [hrun] at hwrites hfinal
      simp only at hwrites hfinal
      split at hfinal
      · have hguard : after.router.state.parsed.defaultGuard = state.parsed.defaultGuard := by
          rcases hwrites with ⟨-, done, step, rest, -, hcut⟩ | ⟨-, hafter, -⟩
          · exact (cut_state hstate hlog hcut).2.1
          · rw [hafter, hstate]
            exact execAll_parsedGuard _ _
        rcases recover_run (α := ApplyResult) transport error
          hguard with ⟨hhandler, final', hrecover, hrolled⟩ | ⟨-, message', final', hrecover⟩
        · rw [hrecover] at hfinal
          cases hfinal
          refine .of_eq (hrolled.trans ?_)
          rcases hwrites with ⟨-, done, step, rest, hsteps, hcut⟩ | ⟨-, hafter, hafterLog⟩
          · exact cut_restored planned hstate hlog hsteps hcut hhandler hlate
          · rw [hafter, hafterLog, hstate, hlog]
            exact rollback_run []
              (covered_writeSteps (LiveState.parsed_same state) planned)
        · rw [hrecover] at hfinal
          cases hfinal
          exact absurd rfl hcode
      · next hunhandled =>
        cases hfinal
        exact absurd rfl hunhandled

include planned hstate hlog in
theorem guardedWrites_restores_iff :
    RestoresOnFailure state (guardedWrites rules transport manifest plan state.parsed mac)
      before ↔ ¬ LateWrite transport plan before.router.sent :=
  ⟨fun hrestores hlate => lateWrite_changes planned hstate hlog hlate hrestores,
    restores_of_not_lateWrite planned hstate hlog⟩

end Attempt

theorem lateFailure_iff : LateFailure transport plan ↔
    transport.backupWritten = true ∧ transport.outcome 0 = .applied ∧
      LateWrite transport plan 1 := by
  have hread : ∀ k, AllApplied transport 0 (1 + k) ↔
      transport.outcome 0 = .applied ∧ AllApplied transport 1 k := fun k => by
    rw [Nat.add_comm, allApplied_succ]
  simp only [LateFailure, LateWrite, hread]
  constructor
  · rintro ⟨hbackup, k, hshape, ⟨hfirst, hall⟩, houtcome, hhandler⟩
    exact ⟨hbackup, hfirst, k, hshape, hall, houtcome, hhandler⟩
  · rintro ⟨hbackup, hfirst, k, hshape, hall, houtcome, hhandler⟩
    exact ⟨hbackup, k, hshape, ⟨hfirst, hall⟩, houtcome, hhandler⟩

theorem Quiet.restoresOnFailure {α : Type} {x : ApplyM α} (hx : Quiet x) {before : ApplyRun}
    (hstate : before.router.state = state) : RestoresOnFailure state x before := by
  intro message exitCode after hrun _
  have h := hx before
  rw [hrun] at h
  exact .of_eq (h.1.trans hstate)

private theorem restoresOnFailure_congr {α : Type} {x y : ApplyM α} {before before' : ApplyRun}
    (h : x before = y before') :
    RestoresOnFailure state x before ↔ RestoresOnFailure state y before' := by
  unfold RestoresOnFailure
  rw [h]

private theorem normalizedMac_eq_ok {deviceMac : Option String}
    (h : normalizeSelectedMac deviceMac = .ok mac) : normalizedMac deviceMac = .ok mac := by
  cases deviceMac with
  | none => exact h
  | some deviceMac =>
      simp only [normalizeSelectedMac] at h
      split at h
      · next hnormalized =>
        cases h
        simp [normalizedMac, hnormalized, Except.mapError, Except.map]
      · cases h

variable (transport) in
/-- The run after a fresh plan has been read and compared. -/
theorem applyLivePlan_fresh {deviceMac : Option String}
    (hfresh : rules.buildLivePlan manifest state.parsed deviceMac plan.selectedSlot
      (plan.assignmentAction = .move) = .ok plan)
    (hmac : normalizeSelectedMac deviceMac = .ok mac) (hfirst : transport.outcome 0 = .applied) :
    applyLivePlan rules transport manifest plan deviceMac (.start state) =
      (if !writeRequired plan then do
        lift (rules.verifyPlanApplied manifest plan state.parsed deviceMac)
        note (fun result => { result with verified := true })
        return (← get).result
      else do
        backupRunningConfig transport
        guardedWrites rules transport manifest plan state.parsed mac : ApplyM ApplyResult)
        { (ApplyRun.start state) with
          router := ⟨state, 1⟩
          result := { writeRequired := writeRequired plan, noop := !writeRequired plan } } := by
  have hread : readState transport (.start state) =
      .ok state.parsed { (ApplyRun.start state) with router := ⟨state, 1⟩ } := by
    simp only [readState, bind_run, command, ApplyRun.start, hfirst, NdmCommand.exec, get_run,
      pure_run, Nat.zero_add]
  have hlift : ∀ {α : Type} (a : α), lift (.ok a) = pure a := fun _ => rfl
  rw [applyLivePlan, bind_run, hread]
  simp only [hfresh, normalizedMac_eq_ok hmac, hlift, pure_bind, raiseIf, ne_eq,
    not_true_eq_false, if_false]
  split <;> rfl

end Whole

/-- When a failed apply leaves the objects as they were: always, except after a
late failure. -/
theorem failed_apply_restores_iff (rules : PlanRules) (transport : Transport)
    (manifest : LocalEndpointManifest) (state : LiveState) (deviceMac : Option String)
    (plan : LivePlan) (valid : manifest.Valid)
    (hfresh : rules.buildLivePlan manifest state.parsed deviceMac plan.selectedSlot
      (plan.assignmentAction = .move) = .ok plan) :
    (∀ message exitCode after,
      applyLivePlan rules transport manifest plan deviceMac (.start state) =
        .error (.adapter message exitCode) after →
      exitCode ≠ rollbackUnproven → Restored state after) ↔
    ¬ LateFailure transport plan := by
  obtain ⟨mac, profileOf, hmac, planned⟩ := PlanRules.buildLivePlan_planned valid hfresh
  change RestoresOnFailure state (applyLivePlan rules transport manifest plan deviceMac)
    (.start state) ↔ _
  rw [lateFailure_iff]
  by_cases hfirst : transport.outcome 0 = .applied
  · rw [restoresOnFailure_congr (applyLivePlan_fresh transport hfresh hmac hfirst)]
    cases hrequired : writeRequired plan with
    | false =>
        refine iff_of_true (Quiet.restoresOnFailure ?_ rfl) ?_
        · exact (quiet_lift _).bind (fun _ => (quiet_note _).bind
            (fun _ => quiet_get.bind (fun _ => quiet_pure _)))
        · rintro ⟨-, -, k, hshape, -⟩
          simp [writeShape_eq_nil hrequired] at hshape
    | true =>
        cases hbackup : transport.backupWritten with
        | false =>
            refine iff_of_true ?_ (by simp)
            intro message exitCode after hrun _
            simp only [backupRunningConfig, hbackup] at hrun
            cases hrun
            exact .of_eq rfl
        | true =>
            have hbackedUp : backupRunningConfig transport = pure () := by
              simp [backupRunningConfig, hbackup]
            simp only [Bool.not_true, Bool.false_eq_true, if_false, hbackedUp, pure_bind, hfirst,
              true_and]
            exact guardedWrites_restores_iff planned rfl rfl
  · refine iff_of_true ?_ (fun h => hfirst h.2.1)
    intro message exitCode after hrun _
    have hread := quiet_readState transport (.start state)
    obtain ⟨hoption, -⟩ | ⟨-, stopped, hstopped⟩ := command_run transport
      .showRunningConfig (.start state)
    · exact absurd hoption hfirst
    · have hreadRun : readState transport (.start state) = .error ndmFailure stopped := by
        rw [readState, bind_run, hstopped]
      rw [hreadRun] at hread
      rw [applyLivePlan, bind_run, hreadRun] at hrun
      cases hrun
      exact .of_eq hread.1

/-- Every command takes effect and is reported so, but for one. -/
def reportsFailure (position : Nat) (effect : Outcome) : Transport where
  outcome := fun n => if n = position then effect else .applied
  backupWritten := true

private theorem emptyState_parsed : emptyState.parsed = emptyState :=
  LiveState.ext List.mergeSort_nil List.mergeSort_nil List.mergeSort_nil List.mergeSort_nil

theorem samplePlan_fresh : rules.buildLivePlan (sampleManifest true) emptyState.parsed
    (some sampleMac) samplePlan.selectedSlot (samplePlan.assignmentAction = .move) =
      .ok samplePlan := by
  rw [emptyState_parsed]
  exact samplePlan_ok true

theorem failed_apply_restores_iff_sample : RestoresOnFailure emptyState
    (applyLivePlan rules (reportsFailure 1 .failedUnapplied) (sampleManifest true) samplePlan
      (some sampleMac)) (.start emptyState) := by
  refine (failed_apply_restores_iff rules _ (sampleManifest true) emptyState (some sampleMac)
    samplePlan (sampleManifest_valid true) samplePlan_fresh).mpr ?_
  rintro ⟨-, k, -, -, houtcome, -⟩
  simp only [reportsFailure] at houtcome
  split at houtcome <;> cases houtcome

/-- The first write takes effect and is reported as failed: an ordinary error,
the log empty, and the new proxy left behind. -/
theorem failed_apply_leaves_proxy : ∃ message exitCode after,
    applyLivePlan rules (reportsFailure 1 .failedApplied) (sampleManifest true) samplePlan
        (some sampleMac) (.start emptyState) = .error (.adapter message exitCode) after ∧
      exitCode ≠ rollbackUnproven ∧
      after.router.state.proxies.map (·.objectId) = ["Proxy0"] ∧
      ¬ Restored emptyState after := by
  let described : ApplyRun :=
    { router := ⟨NdmCommand.exec emptyState
        (.interfaceDescription "Proxy0" (connectionName (sampleProfile true))), 2⟩
      rollback := []
      result := { writeRequired := true, noop := false } }
  have hrun := applyLivePlan_fresh (reportsFailure 1 .failedApplied) samplePlan_fresh rfl rfl
  have hrequired : writeRequired samplePlan = true := rfl
  have hbackup : backupRunningConfig (reportsFailure 1 .failedApplied) = pure () := rfl
  simp only [emptyState_parsed, hrequired, hbackup, Bool.not_true, Bool.false_eq_true, if_false,
    pure_bind, guardedWrites, applyWrites, bind_run] at hrun
  have hguard : described.router.state.parsed.defaultGuard = emptyState.defaultGuard :=
    List.mergeSort_nil
  rcases recover_run (α := ApplyResult) (reportsFailure 1 .failedApplied) ndmFailure hguard with
    ⟨-, after, hrecover, hstate⟩ | ⟨hnot, -⟩
  · refine ⟨_, _, after, hrun.trans hrecover, by decide, by rw [hstate]; rfl, fun hrestored => ?_⟩
    have hlength := hrestored.proxies.length_eq
    rw [hstate] at hlength
    exact absurd hlength (by decide)
  · refine absurd (fun j _ => ?_) hnot
    simp only [described, reportsFailure]
    exact if_neg (by omega)

end Live

end RouterKit.Netcraze
