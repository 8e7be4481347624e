import RouterKit.Lib.Programs
import RouterKit.Netcraze.LiveRollback

/-!
What an apply can touch. However the transport behaves and however the apply
ends, the commands it sends are about the objects the plan creates and about the
selected device; everything else of the router stays as it was.
-/

namespace RouterKit.Netcraze

open RouterKit.Lib.Checked RouterKit.Lib.Programs
open RouterKit.Devices RouterKit.Lib

section Entries

variable {α κ : Type} [DecidableEq κ] {key : α → κ} {fresh : α} {f : α → α} {entries more : List α}

/-- A key that none of the first entries has is touched behind them. -/
private theorem touch_behind (h : key fresh ∉ entries.map key) :
    Keyed.touch key fresh f (entries ++ more) = entries ++ Keyed.touch key fresh f more := by
  have hkept : entries.map (fun a => if key a = key fresh then f a else a) = entries := by
    conv_rhs => rw [← List.map_id entries]
    apply List.map_congr_left
    intro a ha
    have hne : key a ≠ key fresh := fun heq => h (heq ▸ List.mem_map_of_mem ha)
    exact if_neg hne
  unfold Keyed.touch
  by_cases hmem : key fresh ∈ more.map key
  · have hall : key fresh ∈ (entries ++ more).map key := by
      rw [List.map_append]
      exact List.mem_append_right _ hmem
    rw [if_pos hall, if_pos hmem, List.map_append, hkept]
  · have hnone : key fresh ∉ (entries ++ more).map key := by
      rw [List.map_append, List.mem_append, not_or]
      exact ⟨h, hmem⟩
    rw [if_neg hnone, if_neg hmem, List.append_assoc]

/-- Every entry after a touch has the key of an old one or the touched key. -/
private theorem key_of_touched (hf : ∀ a, key (f a) = key a) {a : α}
    (ha : a ∈ Keyed.touch key fresh f entries) : key a ∈ entries.map key ∨ key a = key fresh := by
  have hkey : key a ∈ (Keyed.touch key fresh f entries).map key := List.mem_map_of_mem ha
  rw [Keyed.touch_keys key fresh hf] at hkey
  split at hkey
  · exact .inl hkey
  · rw [List.mem_append, List.mem_singleton] at hkey
    exact hkey

private theorem lookup_touch_other (hf : ∀ a, key (f a) = key a) {k : κ} (hne : key fresh ≠ k) :
    Keyed.lookup key k (Keyed.touch key fresh f entries) = Keyed.lookup key k entries := by
  have hmap : Keyed.lookup key k (entries.map fun a => if key a = key fresh then f a else a) =
      Keyed.lookup key k entries := by
    induction entries with
    | nil => rfl
    | cons a rest ih =>
        simp only [Keyed.lookup, List.map_cons, List.find?_cons] at ih ⊢
        by_cases hkey : key a = key fresh
        · have hother : key a ≠ k := fun heq => hne (hkey.symm.trans heq)
          simp only [if_pos hkey, hf, decide_eq_false hother, ih]
        · simp only [if_neg hkey, ih]
  unfold Keyed.touch
  split
  · exact hmap
  · have hother : key (f fresh) ≠ k := fun heq => hne ((hf fresh).symm.trans heq)
    simp [Keyed.lookup, List.find?_append, hother]

private theorem lookup_remove_other {k other : κ} (hne : other ≠ k) :
    Keyed.lookup key k (Keyed.remove key other entries) = Keyed.lookup key k entries := by
  induction entries with
  | nil => rfl
  | cons a rest ih =>
      simp only [Keyed.lookup, Keyed.remove, List.filter_cons, List.find?_cons] at ih ⊢
      by_cases hkey : key a = other
      · have hother : key a ≠ k := fun heq => hne (hkey.symm.trans heq)
        simp only [hkey, ne_eq, not_true_eq_false, decide_false, Bool.false_eq_true, if_false, ih,
          decide_eq_false hne]
      · simp only [ne_eq, hkey, not_false_eq_true, decide_true, if_true, List.find?_cons, ih]

end Entries

namespace Live

def CreatesProxy (plan : LivePlan) (objectId : String) : Prop :=
  ∃ binding ∈ creatingProxies plan.bindings, binding.proxyId = objectId

def CreatesPolicy (plan : LivePlan) (objectId : String) : Prop :=
  ∃ binding ∈ creatingPolicies plan.bindings, binding.policyId = objectId

/-- The commands about what the plan creates and about the selected device. -/
def Owned (plan : LivePlan) (deviceMac : Option String) : NdmCommand → Prop
  | .interfaceDescription p _ | .interfaceSecurityLevelPublic p | .interfaceProxyProtocol p _
  | .interfaceProxyUpstream p _ _ | .interfaceUp p | .noInterface p => CreatesProxy plan p
  | .policyDescription q _ | .policyPermitGlobal q _ | .noPolicy q => CreatesPolicy plan q
  | .hotspotHostPolicy m _ | .noHotspotHostPolicy m => normalizedMac deviceMac = .ok (some m)
  | .showRunningConfig | .configurationSave => True

/-- The objects, the assignments and the guard of before are there unchanged; what
is new the plan creates, and only the selected device may be assigned anew. -/
structure Framed (plan : LivePlan) (deviceMac : Option String) (before after : LiveState) :
    Prop where
  proxies : ∃ made, after.proxies = before.proxies ++ made ∧
    ∀ proxy ∈ made, CreatesProxy plan proxy.objectId
  policies : ∃ made, after.policies = before.policies ++ made ∧
    ∀ policy ∈ made, CreatesPolicy plan policy.objectId
  assignments : ∀ mac, normalizedMac deviceMac ≠ .ok (some mac) →
    after.assignmentOf mac = before.assignmentOf mac
  defaultGuard : after.defaultGuard = before.defaultGuard

/-- None of the ids that the plan creates is taken. -/
structure FreshIn (plan : LivePlan) (before : LiveState) : Prop where
  proxies : ∀ objectId, CreatesProxy plan objectId → objectId ∉ before.proxies.map (·.objectId)
  policies : ∀ objectId, CreatesPolicy plan objectId → objectId ∉ before.policies.map (·.objectId)

variable {plan : LivePlan} {deviceMac : Option String} {before after : LiveState}

theorem framed_refl (plan : LivePlan) (deviceMac : Option String) (state : LiveState) :
    Framed plan deviceMac state state where
  proxies := ⟨[], (List.append_nil _).symm, by simp⟩
  policies := ⟨[], (List.append_nil _).symm, by simp⟩
  assignments := fun _ _ => rfl
  defaultGuard := rfl

section Command

variable (h : Framed plan deviceMac before after)
include h

theorem Framed.touchProxy (hfresh : FreshIn plan before) {proxyId : String}
    (howned : CreatesProxy plan proxyId) (f : ProxyState → ProxyState)
    (hf : ∀ proxy, (f proxy).objectId = proxy.objectId) :
    Framed plan deviceMac before (after.touchProxy proxyId f hf) := by
  obtain ⟨made, hproxies, hmade⟩ := h.proxies
  refine { h with
    proxies := ⟨Keyed.touch (·.objectId) (.fresh proxyId) f made, ?_, fun proxy hproxy => ?_⟩ }
  · simp only [LiveState.touchProxy, hproxies]
    exact touch_behind (hfresh.proxies proxyId howned)
  · rcases key_of_touched hf hproxy with hold | hnew
    · obtain ⟨other, hother, heq⟩ := List.mem_map.mp hold
      exact heq ▸ hmade other hother
    · exact hnew ▸ howned

theorem Framed.touchPolicy (hfresh : FreshIn plan before) {policyId : String}
    (howned : CreatesPolicy plan policyId) (f : PolicyState → PolicyState)
    (hf : ∀ policy, (f policy).objectId = policy.objectId) :
    Framed plan deviceMac before (after.touchPolicy policyId f hf) := by
  obtain ⟨made, hpolicies, hmade⟩ := h.policies
  refine { h with
    policies := ⟨Keyed.touch (·.objectId) (.fresh policyId) f made, ?_, fun policy hpolicy => ?_⟩ }
  · simp only [LiveState.touchPolicy, hpolicies]
    exact touch_behind (hfresh.policies policyId howned)
  · rcases key_of_touched hf hpolicy with hold | hnew
    · obtain ⟨other, hother, heq⟩ := List.mem_map.mp hold
      exact heq ▸ hmade other hother
    · exact hnew ▸ howned

theorem Framed.removeProxy (hfresh : FreshIn plan before) {proxyId : String}
    (howned : CreatesProxy plan proxyId) :
    Framed plan deviceMac before (after.removeProxy proxyId) := by
  obtain ⟨made, hproxies, hmade⟩ := h.proxies
  refine { h with
    proxies := ⟨Keyed.remove (·.objectId) proxyId made, ?_, fun proxy hproxy =>
      hmade proxy (List.mem_filter.mp hproxy).1⟩ }
  have hkept := Keyed.remove_of_absent ProxyState.objectId (hfresh.proxies proxyId howned)
  simp only [LiveState.removeProxy, hproxies, Keyed.remove, List.filter_append] at hkept ⊢
  rw [hkept]

theorem Framed.removePolicy (hfresh : FreshIn plan before) {policyId : String}
    (howned : CreatesPolicy plan policyId) :
    Framed plan deviceMac before (after.removePolicy policyId) := by
  obtain ⟨made, hpolicies, hmade⟩ := h.policies
  refine { h with
    policies := ⟨Keyed.remove (·.objectId) policyId made, ?_, fun policy hpolicy =>
      hmade policy (List.mem_filter.mp hpolicy).1⟩ }
  have hkept := Keyed.remove_of_absent PolicyState.objectId (hfresh.policies policyId howned)
  simp only [LiveState.removePolicy, hpolicies, Keyed.remove, List.filter_append] at hkept ⊢
  rw [hkept]

theorem Framed.assign {selected : String} (howned : normalizedMac deviceMac = .ok (some selected))
    (policyId : String) : Framed plan deviceMac before (after.assign selected policyId) := by
  refine { h with assignments := fun mac hmac => ?_ }
  have hne : selected ≠ mac := fun heq => hmac (heq ▸ howned)
  rw [← h.assignments mac hmac]
  exact congrArg (Option.map Prod.snd)
    (lookup_touch_other (f := fun entry => (entry.1, policyId)) (fun _ => rfl) hne)

theorem Framed.unassign {selected : String}
    (howned : normalizedMac deviceMac = .ok (some selected)) :
    Framed plan deviceMac before (after.unassign selected) := by
  refine { h with assignments := fun mac hmac => ?_ }
  have hne : selected ≠ mac := fun heq => hmac (heq ▸ howned)
  rw [← h.assignments mac hmac]
  exact congrArg (Option.map Prod.snd) (lookup_remove_other hne)

/-- A command of the plan's own keeps the frame. -/
theorem Framed.exec (hfresh : FreshIn plan before) {line : NdmCommand}
    (howned : Owned plan deviceMac line) :
    Framed plan deviceMac before (line.exec after) := by
  cases line with
  | interfaceDescription | interfaceSecurityLevelPublic | interfaceProxyProtocol
  | interfaceProxyUpstream | interfaceUp => exact h.touchProxy hfresh howned _ (by intro; rfl)
  | policyDescription | policyPermitGlobal => exact h.touchPolicy hfresh howned _ (by intro; rfl)
  | hotspotHostPolicy _ policyId => exact h.assign howned policyId
  | noInterface => exact h.removeProxy hfresh howned
  | noPolicy => exact h.removePolicy hfresh howned
  | noHotspotHostPolicy => exact h.unassign howned
  | showRunningConfig | configurationSave => exact h

end Command

section Programs

variable (plan deviceMac before) in
/-- The router is framed, and so is whatever the log would take back. -/
def Safe (run : ApplyRun) : Prop :=
  Framed plan deviceMac before run.router.state ∧
    ∀ undo ∈ run.rollback, Owned plan deviceMac undo

variable {α : Type} {transport : Transport} {manifest : LocalEndpointManifest}

theorem keeps_lift {P : ApplyRun → Prop} (x : Except LiveError α) : Keeps P (lift x) := by
  cases x with
  | ok a => exact keeps_pure a
  | error e => exact fun _ h => h

theorem keeps_note {P : ApplyRun → Prop} (hresult : ∀ run result, P run → P { run with result })
    (f : ApplyResult → ApplyResult) : Keeps P (note f) :=
  keeps_modify fun run h => hresult run _ h

theorem keeps_succeeds {P : ApplyRun → Prop} {action : ApplyM Bool} (h : Keeps P action) :
    Keeps P (succeeds action) := by
  intro run hrun
  have haction := h run hrun
  unfold wp succeeds at *
  cases hends : action run with
  | ok value final =>
      rw [hends] at haction
      exact haction
  | error error final =>
      rw [hends] at haction
      simp only
      cases isAdapterError error <;> exact haction

theorem safe_result (run : ApplyRun) (result : ApplyResult) (h : Safe plan deviceMac before run) :
    Safe plan deviceMac before { run with result } := h

variable (hfresh : FreshIn plan before)
include hfresh

theorem keeps_command (line : NdmCommand) (howned : Owned plan deviceMac line) :
    Keeps (Safe plan deviceMac before) (command transport line) := by
  intro run hrun
  unfold wp command
  cases transport.outcome run.router.sent with
  | applied | failedApplied => exact ⟨hrun.1.exec hfresh howned, hrun.2⟩
  | failedUnapplied => exact hrun

theorem keeps_readState : Keeps (Safe plan deviceMac before) (readState transport) :=
  (keeps_command hfresh .showRunningConfig trivial).bind fun _ =>
      keeps_get.bind fun _ => keeps_pure _

omit hfresh in
theorem keeps_logUndo {undo : NdmCommand} (howned : Owned plan deviceMac undo) :
    Keeps (Safe plan deviceMac before) (logUndo undo) := by
  refine keeps_modify fun run h => ⟨h.1, fun other hother => ?_⟩
  rcases List.mem_append.mp hother with hold | hnew
  · exact h.2 other hold
  · exact List.mem_singleton.mp hnew ▸ howned

theorem keeps_sendAll {lines : List NdmCommand}
    (howned : ∀ line ∈ lines, Owned plan deviceMac line) :
    Keeps (Safe plan deviceMac before) (sendAll transport lines) := by
  induction lines with
  | nil => exact keeps_pure ()
  | cons line rest ih =>
      exact (keeps_command hfresh line (howned line List.mem_cons_self)).bind
        fun _ => ih fun other hother => howned other (List.mem_cons_of_mem _ hother)

theorem keeps_sendCreation {lines : List NdmCommand} {undo : NdmCommand}
    (howned : ∀ line ∈ lines, Owned plan deviceMac line) (hundo : Owned plan deviceMac undo) :
    Keeps (Safe plan deviceMac before) (sendCreation transport lines undo) := by
  cases lines with
  | nil => exact keeps_pure ()
  | cons first rest =>
      exact (keeps_command hfresh first (howned first List.mem_cons_self)).bind fun _ =>
        (keeps_logUndo hundo).bind fun _ => keeps_sendAll hfresh fun other hother =>
          howned other (List.mem_cons_of_mem _ hother)

theorem keeps_createProxies {bindings : List BindingPlan}
    (hplanned : ∀ binding ∈ bindings, binding ∈ plan.bindings) :
    Keeps (Safe plan deviceMac before) (createProxies transport manifest bindings) := by
  induction bindings with
  | nil => exact keeps_pure ()
  | cons binding rest ih =>
      have hrest := ih fun other hother => hplanned other (List.mem_cons_of_mem _ hother)
      simp only [createProxies]
      refine (keeps_lift _).bind fun profile => Keeps.ite (fun hcreate => ?_) (fun _ => hrest)
      have hcreates : CreatesProxy plan binding.proxyId :=
        ⟨binding, List.mem_filter.mpr ⟨hplanned binding List.mem_cons_self, by simpa using hcreate⟩,
          rfl⟩
      have hlines : ∀ line ∈ proxyCreateCommands binding profile, Owned plan deviceMac line := by
        simp [proxyCreateCommands, Owned, hcreates]
      have hundo : Owned plan deviceMac (.noInterface binding.proxyId) := hcreates
      exact (keeps_sendCreation hfresh hlines hundo).bind fun _ =>
        (keeps_note safe_result _).bind fun _ => hrest

theorem keeps_createPolicies {bindings : List BindingPlan}
    (hplanned : ∀ binding ∈ bindings, binding ∈ plan.bindings) :
    Keeps (Safe plan deviceMac before) (createPolicies transport manifest bindings) := by
  induction bindings with
  | nil => exact keeps_pure ()
  | cons binding rest ih =>
      have hrest := ih fun other hother => hplanned other (List.mem_cons_of_mem _ hother)
      simp only [createPolicies]
      refine (keeps_lift _).bind fun profile => Keeps.ite (fun hcreate => ?_) (fun _ => hrest)
      have hcreates : CreatesPolicy plan binding.policyId :=
        ⟨binding, List.mem_filter.mpr ⟨hplanned binding List.mem_cons_self, by simpa using hcreate⟩,
          rfl⟩
      have hlines : ∀ line ∈ policyCreateCommands binding profile, Owned plan deviceMac line := by
        simp [policyCreateCommands, Owned, hcreates]
      have hundo : Owned plan deviceMac (.noPolicy binding.policyId) := hcreates
      exact (keeps_sendCreation hfresh hlines hundo).bind fun _ =>
        (keeps_note safe_result _).bind fun _ => hrest

theorem keeps_assignDevice {stateBefore : LiveState} {mac : Option String}
    (hmac : normalizedMac deviceMac = .ok mac) :
    Keeps (Safe plan deviceMac before) (assignDevice transport plan stateBefore mac) := by
  unfold assignDevice
  split
  · next selected slot hslot =>
    refine Keeps.ite (fun _ => ?_) (fun _ => keeps_pure ())
    have hundo : Owned plan deviceMac (undoAssignment stateBefore selected) := by
      unfold undoAssignment
      split <;> exact hmac
    exact (keeps_lift _).bind fun target =>
      (keeps_command hfresh (.hotspotHostPolicy selected target) hmac).bind fun _ =>
      (keeps_logUndo hundo).bind fun _ => keeps_note safe_result _
  · exact keeps_pure ()

theorem keeps_readBack {rules : PlanRules} {stateBefore : LiveState} {mac : Option String}
    {changed : String} : Keeps (Safe plan deviceMac before)
      (readBack rules transport manifest plan stateBefore mac changed) :=
  (keeps_readState hfresh).bind fun _ => (keeps_lift _).bind fun _ => keeps_lift _

theorem keeps_applyWrites {rules : PlanRules} {stateBefore : LiveState} {mac : Option String}
    (hmac : normalizedMac deviceMac = .ok mac) : Keeps (Safe plan deviceMac before)
      (applyWrites rules transport manifest plan stateBefore mac) := by
  have hwrites : Keeps (Safe plan deviceMac before)
      (writeObjects transport manifest plan stateBefore mac) :=
    (keeps_createProxies hfresh fun _ => id).bind fun _ =>
      (keeps_createPolicies hfresh fun _ => id).bind fun _ => keeps_assignDevice hfresh hmac
  have hverifies : Keeps (Safe plan deviceMac before)
      (verifyAndSave rules transport manifest plan stateBefore mac) :=
    (keeps_readBack hfresh).bind fun _ =>
      (keeps_command hfresh .configurationSave trivial).bind fun _ =>
      (keeps_note safe_result _).bind fun _ => (keeps_readBack hfresh).bind fun _ =>
        (keeps_note safe_result _).bind fun _ => keeps_get.bind fun _ => keeps_pure _
  exact hwrites.bind fun _ => hverifies

theorem keeps_rollBackAll {lines : List NdmCommand}
    (howned : ∀ line ∈ lines, Owned plan deviceMac line) :
    Keeps (Safe plan deviceMac before) (rollBackAll transport lines) := by
  induction lines with
  | nil => exact keeps_pure true
  | cons line rest ih =>
      have hrest := ih fun other hother => howned other (List.mem_cons_of_mem _ hother)
      have hline : Keeps (Safe plan deviceMac before)
          (do command transport line; return true) :=
        (keeps_command hfresh line (howned line List.mem_cons_self)).bind fun _ => keeps_pure true
      exact (keeps_succeeds hline).bind fun executed =>
        Keeps.ite (fun _ => hrest) (fun _ => keeps_pure false)

/-- The handler takes back what the log says, which is the plan's own. -/
theorem keeps_recover {stateBefore : LiveState} {error : LiveError} :
    Keeps (Safe plan deviceMac before) (@recover α transport stateBefore error) := by
  have hconfirm : Keeps (Safe plan deviceMac before) (confirmGuard transport stateBefore) :=
    (keeps_command hfresh .configurationSave trivial).bind fun _ =>
      (keeps_readState hfresh).bind fun _ => keeps_pure _
  unfold recover
  refine (keeps_note safe_result _).bind fun _ run hrun => ?_
  rw [wp_bind, wp_get]
  refine Keeps.bind (keeps_rollBackAll hfresh fun line hline =>
    hrun.2 line (List.mem_reverse.mp hline)) (fun executed => ?_) run hrun
  have hends : ∀ (proven : Bool) (f : ApplyResult → ApplyResult) (unproven : LiveError),
      Keeps (Safe plan deviceMac before)
        (note f >>= fun _ => if proven = true then (raise error : ApplyM α) else raise unproven) :=
    fun proven f unproven =>
      (keeps_note safe_result f).bind fun _ => Keeps.ite (fun _ _ h => h) (fun _ _ h => h)
  exact Keeps.ite (fun _ => (keeps_succeeds hconfirm).bind fun proven => hends proven _ _)
    (fun _ => (keeps_pure false).bind fun proven => hends proven _ _)

theorem keeps_guardedWrites {rules : PlanRules} {stateBefore : LiveState} {mac : Option String}
    (hmac : normalizedMac deviceMac = .ok mac) : Keeps (Safe plan deviceMac before)
      (guardedWrites rules transport manifest plan stateBefore mac) := by
  intro run hrun
  have hwrites : wp (applyWrites rules transport manifest plan stateBefore mac)
      (fun _ => Safe plan deviceMac before) (fun _ => Safe plan deviceMac before) run :=
    keeps_applyWrites hfresh hmac run hrun
  unfold wp guardedWrites at *
  cases hends : applyWrites rules transport manifest plan stateBefore mac run with
  | ok result final =>
      rw [hends] at hwrites
      exact hwrites
  | error error final =>
      rw [hends] at hwrites
      simp only
      cases isHandled error with
      | false => exact hwrites
      | true => exact keeps_recover hfresh final hwrites

/-- The rest of an apply whose plan is fresh. -/
theorem keeps_afterCheck {rules : PlanRules} {stateBefore : LiveState} :
    Keeps (Safe plan deviceMac before) (if !writeRequired plan then do
        lift (rules.verifyPlanApplied manifest plan stateBefore deviceMac)
        note (fun result => { result with verified := true })
        return (← get).result
      else do
        backupRunningConfig transport
        let mac ← lift (normalizedMac deviceMac)
        guardedWrites rules transport manifest plan stateBefore mac) := by
  refine Keeps.ite (fun _ => ?_) (fun _ => ?_)
  · exact (keeps_lift _).bind fun _ => (keeps_note safe_result _).bind fun _ =>
      keeps_get.bind fun _ => keeps_pure _
  · have hbackup : Keeps (Safe plan deviceMac before) (backupRunningConfig transport) :=
      Keeps.ite (fun _ => keeps_pure ()) (fun _ _ h => h)
    refine hbackup.bind fun _ => ?_
    cases hmac : normalizedMac deviceMac with
    | error error => exact fun _ h => h
    | ok mac => exact keeps_guardedWrites hfresh hmac

end Programs

/-- Reading the state changes nothing, whether it succeeds or not. -/
theorem wp_readState_start (transport : Transport) (state : LiveState) :
    wp (readState transport)
      (fun read run => read = state.parsed ∧ run.router.state = state ∧ run.rollback = [])
      (fun _ run => run.router.state = state) (.start state) := by
  rw [readState, wp_bind]
  unfold wp command
  cases transport.outcome (ApplyRun.start state).router.sent with
  | applied => exact ⟨rfl, rfl, rfl⟩
  | failedApplied | failedUnapplied => rfl

/-- The ids a plan made for the state creates are free in it. -/
theorem freshIn_of_buildLivePlan {rules : PlanRules} {manifest : LocalEndpointManifest}
    {state : LiveState} {profileSlot : Option Nat} {allowMove : Bool}
    (h : rules.buildLivePlan manifest state.parsed deviceMac profileSlot allowMove = .ok plan) :
    FreshIn plan state := by
  obtain ⟨-, mac, -, -, bindings, hbindings, action, -, rfl⟩ := PlanRules.buildLivePlan_eq_ok.mp h
  have hplanned := planBindings_eq_ok hbindings
  have hsame := LiveState.parsed_same state
  constructor
  · rintro _ ⟨binding, hbinding, rfl⟩ htaken
    exact hplanned.proxies_fresh binding hbinding
      ((hsame.proxies.map (·.objectId)).mem_iff.mpr htaken)
  · rintro _ ⟨binding, hbinding, rfl⟩ htaken
    exact hplanned.policies_fresh binding hbinding
      ((hsame.policies.map (·.objectId)).mem_iff.mpr htaken)

/-- Whatever the transport does to each command, and whether the apply succeeds,
fails, or fails to roll back: the proxies and policies that were there are there
unchanged and in their order, the default-policy guard is what it was, no other
device is assigned anew, and what has been added the plan creates. -/
theorem applyLivePlan_touches_own (rules : PlanRules) (transport : Transport)
    (manifest : LocalEndpointManifest) (plan : LivePlan) (deviceMac : Option String)
    (state : LiveState) :
    wp (applyLivePlan rules transport manifest plan deviceMac)
      (fun _ run => Framed plan deviceMac state run.router.state)
      (fun _ run => Framed plan deviceMac state run.router.state) (.start state) := by
  have hkept : ∀ run : ApplyRun, run.router.state = state →
      Framed plan deviceMac state run.router.state := by
    intro run heq
    rw [heq]
    exact framed_refl plan deviceMac state
  unfold applyLivePlan
  rw [wp_bind]
  refine wp_mono (wp_readState_start transport state) ?_ (fun _ => hkept)
  rintro _ run ⟨rfl, hstate, hlog⟩
  cases hplan : rules.buildLivePlan manifest state.parsed deviceMac plan.selectedSlot
      (plan.assignmentAction = .move) with
  | error error => exact hkept run hstate
  | ok freshPlan =>
      by_cases hstale : freshPlan ≠ plan
      · simp only [lift, pure_bind, raiseIf, if_pos hstale]
        exact hkept run hstate
      · obtain rfl : freshPlan = plan := not_not.mp hstale
        have hfresh := freshIn_of_buildLivePlan hplan
        have hsafe : Safe freshPlan deviceMac state run := by
          refine ⟨hkept run hstate, ?_⟩
          rw [hlog]
          simp
        refine wp_mono ((keeps_lift _).bind (fun _ => (keeps_lift _).bind fun _ =>
          (keeps_note safe_result _).bind fun _ => ?_) run hsafe) (fun _ _ h => h.1)
              (fun _ _ h => h.1)
        exact keeps_afterCheck hfresh

end Live

end RouterKit.Netcraze
