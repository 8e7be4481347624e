import RouterKit.Lib.Compensation
import RouterKit.Netcraze.LiveState
import RouterKit.Netcraze.Manifest
import Mathlib.Data.List.Basic

/-!
The NDM commands the adapter sends, as texts and as their effect on the native
state. A command naming an object creates it when it is absent and sets exactly
the field it spells; a `no` command on an absent object does nothing.
-/

namespace RouterKit.Netcraze

open RouterKit.Lib

inductive NdmCommand where
  | interfaceDescription (proxyId description : String)
  | interfaceSecurityLevelPublic (proxyId : String)
  | interfaceProxyProtocol (proxyId protocol : String)
  | interfaceProxyUpstream (proxyId host : String) (port : Nat)
  | interfaceUp (proxyId : String)
  | policyDescription (policyId description : String)
  | policyPermitGlobal (policyId proxyId : String)
  | hotspotHostPolicy (deviceMac policyId : String)
  | noInterface (proxyId : String)
  | noPolicy (policyId : String)
  | noHotspotHostPolicy (deviceMac : String)
  | showRunningConfig
  | configurationSave
deriving DecidableEq, Repr

namespace NdmCommand

def words : NdmCommand → List String
  | interfaceDescription p description => ["interface", p, "description", description]
  | interfaceSecurityLevelPublic p => ["interface", p, "security-level", "public"]
  | interfaceProxyProtocol p protocol => ["interface", p, "proxy", "protocol", protocol]
  | interfaceProxyUpstream p host port =>
      ["interface", p, "proxy", "upstream", host, toString port]
  | interfaceUp p => ["interface", p, "up"]
  | policyDescription q description => ["ip", "policy", q, "description", description]
  | policyPermitGlobal q p => ["ip", "policy", q, "permit", "global", p]
  | hotspotHostPolicy m q => ["ip", "hotspot", "host", m, "policy", q]
  | noInterface p => ["no", "interface", p]
  | noPolicy q => ["no", "ip", "policy", q]
  | noHotspotHostPolicy m => ["no", "ip", "hotspot", "host", m, "policy"]
  | showRunningConfig => ["show", "running-config"]
  | configurationSave => ["system", "configuration", "save"]

/-- The line sent to the router. -/
def text (command : NdmCommand) : String :=
  " ".intercalate command.words

def ofWords : List String → Option NdmCommand
  | ["interface", p, "description", description] => some (interfaceDescription p description)
  | ["interface", p, "security-level", "public"] => some (interfaceSecurityLevelPublic p)
  | ["interface", p, "proxy", "protocol", protocol] => some (interfaceProxyProtocol p protocol)
  | ["interface", p, "proxy", "upstream", host, port] =>
      (nativeNumber "" port).map (interfaceProxyUpstream p host)
  | ["interface", p, "up"] => some (interfaceUp p)
  | ["ip", "policy", q, "description", description] => some (policyDescription q description)
  | ["ip", "policy", q, "permit", "global", p] => some (policyPermitGlobal q p)
  | ["ip", "hotspot", "host", m, "policy", q] => some (hotspotHostPolicy m q)
  | ["no", "interface", p] => some (noInterface p)
  | ["no", "ip", "policy", q] => some (noPolicy q)
  | ["no", "ip", "hotspot", "host", m, "policy"] => some (noHotspotHostPolicy m)
  | ["show", "running-config"] => some showRunningConfig
  | ["system", "configuration", "save"] => some configurationSave
  | _ => none

/-- How the router reads a line. -/
def ofText (line : String) : Option NdmCommand :=
  ofWords ((line.toList.splitOn ' ').map String.ofList)

/-- A text that stays one word of a line. -/
def IsWord (value : String) : Prop := ' ' ∉ value.toList

instance (value : String) : Decidable (IsWord value) :=
  inferInstanceAs (Decidable (' ' ∉ value.toList))

/-- The command's arguments are words, and its port is spelled as a number. -/
def WellFormed (command : NdmCommand) : Prop :=
  (∀ word ∈ command.words, IsWord word) ∧
    match command with
    | interfaceProxyUpstream _ _ port => nativeNumber "" (toString port) = some port
    | _ => True

theorem isWord_of_numericId {value prefixText : String} {maximum number : Nat}
    (h : numericId value prefixText maximum = .ok number) (hword : IsWord prefixText) :
    IsWord value := by
  obtain ⟨hnumber, -⟩ := numericId_eq_ok.mp h
  simp only [nativeNumber] at hnumber
  split at hnumber
  · next hspelled =>
    obtain ⟨htake, -, hdigits⟩ := hspelled
    intro hspace
    rw [← List.take_append_drop prefixText.length value.toList, htake, List.mem_append] at hspace
    rcases hspace with hspace | hspace
    · exact hword hspace
    · exact absurd (List.all_eq_true.mp hdigits ' ' hspace) (by decide)
  · cases hnumber

private theorem toList_intercalate_space (values : List String) :
    (" ".intercalate values).toList = [' '].intercalate (values.map String.toList) := by
  rw [String.toList_intercalate]
  rfl

theorem ofText_text {command : NdmCommand} (h : command.WellFormed) :
    ofText command.text = some command := by
  obtain ⟨hwords, hport⟩ := h
  have hsplit : (command.text.toList.splitOn ' ').map String.ofList = command.words := by
    rw [text, toList_intercalate_space, List.splitOn_intercalate, List.map_map]
    · simp
    · intro word hword
      obtain ⟨value, hvalue, rfl⟩ := List.mem_map.mp hword
      exact hwords value hvalue
    · cases command <;> simp [words]
  rw [ofText, hsplit]
  cases command with
  | interfaceProxyUpstream p host port =>
      have hread : nativeNumber "" (toString port) = some port := hport
      simp only [words, ofWords, hread, Option.map_some]
  | _ => simp only [words, ofWords]

end NdmCommand

/-- The objects a naming command creates. -/
def ProxyState.fresh (objectId : String) : ProxyState :=
  { objectId, description := "", protocol := "", host := "", port := 0, enabled := false,
    authenticationConfigured := false }

def PolicyState.fresh (objectId : String) : PolicyState :=
  { objectId, description := "", globalInterfaces := [] }

namespace LiveState

/-- Enter `interface P` and change the fields `f` changes. -/
def touchProxy (state : LiveState) (proxyId : String) (f : ProxyState → ProxyState)
    (hf : ∀ proxy, (f proxy).objectId = proxy.objectId) : LiveState :=
  { state with
    proxies := Keyed.touch (·.objectId) (.fresh proxyId) f state.proxies
    proxyIds_nodup := Keyed.touch_nodup _ _ hf state.proxyIds_nodup }

def touchPolicy (state : LiveState) (policyId : String) (f : PolicyState → PolicyState)
    (hf : ∀ policy, (f policy).objectId = policy.objectId) : LiveState :=
  { state with
    policies := Keyed.touch (·.objectId) (.fresh policyId) f state.policies
    policyIds_nodup := Keyed.touch_nodup _ _ hf state.policyIds_nodup }

/-- Set one assignment and keep the others. -/
def assign (state : LiveState) (deviceMac policyId : String) : LiveState :=
  { state with
    assignments :=
      Keyed.touch Prod.fst (deviceMac, "") (fun entry => (entry.1, policyId)) state.assignments
    deviceMacs_nodup :=
      Keyed.touch_nodup (f := fun entry => (entry.1, policyId)) _ _ (fun _ => rfl)
        state.deviceMacs_nodup }

def removeProxy (state : LiveState) (proxyId : String) : LiveState :=
  { state with
    proxies := Keyed.remove (·.objectId) proxyId state.proxies
    proxyIds_nodup := Keyed.remove_nodup _ state.proxyIds_nodup }

def removePolicy (state : LiveState) (policyId : String) : LiveState :=
  { state with
    policies := Keyed.remove (·.objectId) policyId state.policies
    policyIds_nodup := Keyed.remove_nodup _ state.policyIds_nodup }

def unassign (state : LiveState) (deviceMac : String) : LiveState :=
  { state with
    assignments := Keyed.remove Prod.fst deviceMac state.assignments
    deviceMacs_nodup := Keyed.remove_nodup _ state.deviceMacs_nodup }

theorem assignmentOf_assign (state : LiveState) (deviceMac policyId : String) :
    (state.assign deviceMac policyId).assignmentOf deviceMac = some policyId := by
  obtain ⟨entry, hentry⟩ := Keyed.lookup_touch Prod.fst (deviceMac, "")
    (f := fun entry => (entry.1, policyId)) (fun _ => rfl) state.assignments
  simp only [assignmentOf, assign, hentry, Option.map_some]

/-- Touching a new id appends the object. -/
theorem touchProxy_of_absent {state : LiveState} {proxyId : String}
    {f : ProxyState → ProxyState} (hf : ∀ proxy, (f proxy).objectId = proxy.objectId)
    (h : proxyId ∉ state.proxies.map (·.objectId)) :
    (state.touchProxy proxyId f hf).proxies = state.proxies ++ [f (.fresh proxyId)] :=
  Keyed.touch_of_absent ProxyState.objectId _ h

theorem touchPolicy_of_absent {state : LiveState} {policyId : String}
    {f : PolicyState → PolicyState} (hf : ∀ policy, (f policy).objectId = policy.objectId)
    (h : policyId ∉ state.policies.map (·.objectId)) :
    (state.touchPolicy policyId f hf).policies = state.policies ++ [f (.fresh policyId)] :=
  Keyed.touch_of_absent PolicyState.objectId _ h

theorem mem_touchProxy (state : LiveState) (proxyId : String) (f : ProxyState → ProxyState)
    (hf : ∀ proxy, (f proxy).objectId = proxy.objectId) :
    proxyId ∈ (state.touchProxy proxyId f hf).proxies.map (·.objectId) :=
  Keyed.mem_touch_keys ProxyState.objectId (.fresh proxyId) hf state.proxies

theorem mem_touchPolicy (state : LiveState) (policyId : String) (f : PolicyState → PolicyState)
    (hf : ∀ policy, (f policy).objectId = policy.objectId) :
    policyId ∈ (state.touchPolicy policyId f hf).policies.map (·.objectId) :=
  Keyed.mem_touch_keys PolicyState.objectId (.fresh policyId) hf state.policies

theorem touchProxy_last {state : LiveState} {before : List ProxyState} {last : ProxyState}
    {f : ProxyState → ProxyState} (hf : ∀ proxy, (f proxy).objectId = proxy.objectId)
    (hproxies : state.proxies = before ++ [last])
    (h : last.objectId ∉ before.map (·.objectId)) :
    (state.touchProxy last.objectId f hf).proxies = before ++ [f last] := by
  simp only [touchProxy, hproxies]
  exact Keyed.touch_append_last ProxyState.objectId (.fresh last.objectId) rfl h

theorem touchPolicy_last {state : LiveState} {before : List PolicyState} {last : PolicyState}
    {f : PolicyState → PolicyState} (hf : ∀ policy, (f policy).objectId = policy.objectId)
    (hpolicies : state.policies = before ++ [last])
    (h : last.objectId ∉ before.map (·.objectId)) :
    (state.touchPolicy last.objectId f hf).policies = before ++ [f last] := by
  simp only [touchPolicy, hpolicies]
  exact Keyed.touch_append_last PolicyState.objectId (.fresh last.objectId) rfl h

end LiveState

/-- The effect of an executed command on what the parser can see. The security
level is not part of it. -/
def NdmCommand.exec (state : LiveState) : NdmCommand → LiveState
  | interfaceDescription p description =>
      state.touchProxy p (fun proxy => { proxy with description }) (fun _ => rfl)
  | interfaceSecurityLevelPublic p => state.touchProxy p id (fun _ => rfl)
  | interfaceProxyProtocol p protocol =>
      state.touchProxy p (fun proxy => { proxy with protocol }) (fun _ => rfl)
  | interfaceProxyUpstream p host port =>
      state.touchProxy p (fun proxy => { proxy with host, port }) (fun _ => rfl)
  | interfaceUp p => state.touchProxy p (fun proxy => { proxy with enabled := true }) (fun _ => rfl)
  | policyDescription q description =>
      state.touchPolicy q (fun policy => { policy with description }) (fun _ => rfl)
  | policyPermitGlobal q p =>
      state.touchPolicy q (fun policy => { policy with globalInterfaces := [p] }) (fun _ => rfl)
  | hotspotHostPolicy m q => state.assign m q
  | noInterface p => state.removeProxy p
  | noPolicy q => state.removePolicy q
  | noHotspotHostPolicy m => state.unassign m
  | showRunningConfig => state
  | configurationSave => state

def execAll : List NdmCommand → LiveState → LiveState :=
  Compensation.execAll NdmCommand.exec

/-- The router executes a line it reads; any other line has no effect. -/
def execLine (state : LiveState) (line : String) : LiveState :=
  match NdmCommand.ofText line with
  | some command => command.exec state
  | none => state

def execLines (lines : List String) (state : LiveState) : LiveState :=
  lines.foldl execLine state

theorem execAll_append (commands more : List NdmCommand) (state : LiveState) :
    execAll (commands ++ more) state = execAll more (execAll commands state) :=
  Compensation.execAll_append commands more state

theorem execLines_text {commands : List NdmCommand} (h : ∀ c ∈ commands, c.WellFormed)
    (state : LiveState) :
    execLines (commands.map NdmCommand.text) state = execAll commands state := by
  induction commands generalizing state with
  | nil => rfl
  | cons command rest ih =>
      have hread : NdmCommand.ofText command.text = some command :=
        NdmCommand.ofText_text (h command List.mem_cons_self)
      simp only [execLines, execAll, List.map_cons, List.foldl_cons, execLine, hread,
        Compensation.execAll_cons]
      exact ih (fun c hc => h c (List.mem_cons_of_mem _ hc)) _

theorem exec_defaultGuard (state : LiveState) (command : NdmCommand) :
    (command.exec state).defaultGuard = state.defaultGuard := by
  cases command <;> rfl

/-- A proxy stays until a command removes it. -/
theorem exec_keeps_proxy {state : LiveState} {command : NdmCommand} {proxyId : String}
    (h : proxyId ∈ state.proxies.map (·.objectId)) (hkeep : command ≠ .noInterface proxyId) :
    proxyId ∈ (command.exec state).proxies.map (·.objectId) := by
  have htouch : ∀ other f hf, proxyId ∈
      (state.touchProxy other f hf).proxies.map (·.objectId) := by
    intro other f hf
    have hkeys := Keyed.touch_keys ProxyState.objectId (.fresh other) hf state.proxies
    simp only [LiveState.touchProxy]
    rw [hkeys]
    split
    · exact h
    · exact List.mem_append_left _ h
  cases command with
  | noInterface other =>
      obtain ⟨proxy, hproxy, rfl⟩ := List.mem_map.mp h
      have hne : proxy.objectId ≠ other := fun heq => hkeep (heq ▸ rfl)
      exact List.mem_map_of_mem (List.mem_filter.mpr ⟨hproxy, by simpa using hne⟩)
  | interfaceDescription | interfaceSecurityLevelPublic | interfaceProxyProtocol
  | interfaceProxyUpstream | interfaceUp => exact htouch _ _ (by intro; rfl)
  | _ => exact h

theorem exec_keeps_policy {state : LiveState} {command : NdmCommand} {policyId : String}
    (h : policyId ∈ state.policies.map (·.objectId)) (hkeep : command ≠ .noPolicy policyId) :
    policyId ∈ (command.exec state).policies.map (·.objectId) := by
  have htouch : ∀ other f hf, policyId ∈
      (state.touchPolicy other f hf).policies.map (·.objectId) := by
    intro other f hf
    have hkeys := Keyed.touch_keys PolicyState.objectId (.fresh other) hf state.policies
    simp only [LiveState.touchPolicy]
    rw [hkeys]
    split
    · exact h
    · exact List.mem_append_left _ h
  cases command with
  | noPolicy other =>
      obtain ⟨policy, hpolicy, rfl⟩ := List.mem_map.mp h
      have hne : policy.objectId ≠ other := fun heq => hkeep (heq ▸ rfl)
      exact List.mem_map_of_mem (List.mem_filter.mpr ⟨hpolicy, by simpa using hne⟩)
  | policyDescription | policyPermitGlobal => exact htouch _ _ (by intro; rfl)
  | _ => exact h

def NdmCommand.IsAssignment : NdmCommand → Prop
  | hotspotHostPolicy .. => True
  | noHotspotHostPolicy _ => True
  | _ => False

theorem exec_keeps_assignments (state : LiveState) {command : NdmCommand}
    (h : ¬ command.IsAssignment) : (command.exec state).assignments = state.assignments := by
  cases command <;> first | rfl | exact absurd trivial h

/-- What holds of the state and is kept by every command of a list, holds after
the list. -/
theorem execAll_keeps {p : LiveState → Prop} (commands : List NdmCommand) {state : LiveState}
    (hstep : ∀ command ∈ commands, ∀ s, p s → p (command.exec s)) (h : p state) :
    p (execAll commands state) := by
  induction commands generalizing state with
  | nil => exact h
  | cons command rest ih =>
      exact ih (fun c hc => hstep c (List.mem_cons_of_mem _ hc))
        (hstep command List.mem_cons_self state h)

namespace LiveState

/-- Removing a proxy takes back whatever was done to it. -/
theorem removeProxy_touchProxy (state : LiveState) (proxyId : String)
    (f : ProxyState → ProxyState) (hf : ∀ proxy, (f proxy).objectId = proxy.objectId) :
    (state.touchProxy proxyId f hf).removeProxy proxyId = state.removeProxy proxyId :=
  LiveState.ext (Keyed.remove_touch ProxyState.objectId (.fresh proxyId) hf state.proxies)
    rfl rfl rfl

theorem removePolicy_touchPolicy (state : LiveState) (policyId : String)
    (f : PolicyState → PolicyState) (hf : ∀ policy, (f policy).objectId = policy.objectId) :
    (state.touchPolicy policyId f hf).removePolicy policyId = state.removePolicy policyId :=
  LiveState.ext rfl
    (Keyed.remove_touch PolicyState.objectId (.fresh policyId) hf state.policies) rfl rfl

theorem removeProxy_of_absent {state : LiveState} {proxyId : String}
    (h : proxyId ∉ state.proxies.map (·.objectId)) : state.removeProxy proxyId = state :=
  LiveState.ext (Keyed.remove_of_absent ProxyState.objectId h) rfl rfl rfl

theorem removePolicy_of_absent {state : LiveState} {policyId : String}
    (h : policyId ∉ state.policies.map (·.objectId)) : state.removePolicy policyId = state :=
  LiveState.ext rfl (Keyed.remove_of_absent PolicyState.objectId h) rfl rfl

theorem unassign_assign {state : LiveState} {deviceMac policyId : String}
    (h : state.assignmentOf deviceMac = none) :
    (state.assign deviceMac policyId).unassign deviceMac = state := by
  have habsent : deviceMac ∉ state.assignments.map Prod.fst :=
    (Keyed.lookup_eq_none Prod.fst).mp (Option.map_eq_none_iff.mp h)
  have htouch := Keyed.remove_touch Prod.fst (deviceMac, "")
    (f := fun entry => (entry.1, policyId)) (fun _ => rfl) state.assignments
  exact LiveState.ext rfl rfl (htouch.trans (Keyed.remove_of_absent Prod.fst habsent)) rfl

/-- Setting the former policy again restores the assignment. -/
theorem assign_assign {state : LiveState} {deviceMac policyId former : String}
    (h : state.assignmentOf deviceMac = some former) :
    (state.assign deviceMac policyId).assign deviceMac former = state := by
  obtain ⟨entry, hlookup, rfl⟩ := Option.map_eq_some_iff.mp h
  obtain ⟨hmem, rfl⟩ := Keyed.lookup_some Prod.fst hlookup
  have hrestore := Keyed.touch_touch_restore Prod.fst (entry.1, "") state.deviceMacs_nodup
    (f := fun e => (e.1, policyId)) (g := fun e => (e.1, entry.2)) (fun _ => rfl) hmem rfl rfl
  exact LiveState.ext rfl rfl hrestore rfl

end LiveState

end RouterKit.Netcraze
