import RouterKit.Netcraze.ConfigSections

/-!
The reader against the sections: every section is read as it is written, adds
what it describes, and leaves none open, so that the order of the sections does
not matter.
-/

namespace RouterKit.Netcraze

open RouterKit.Lib RouterKit.Lib.Checked RouterKit.Lib.PyText RouterKit.Devices

section Sections

variable {classes : TextClasses}

/-- What the lines of a proxy's section make of the state in which the section is open. -/
def LiveState.readProxyLine (proxyId : String) (state : LiveState) (line : SectionLine ProxyField) :
    LiveState :=
  match line.field with
  | some field => (state.guardLine line.text).setProxy proxyId field
  | none => state.guardLine line.text

def LiveState.readPolicyLine (policyId : String) (state : LiveState)
    (line : SectionLine PolicyField) : LiveState :=
  match line.field with
  | some field => (state.guardLine line.text).setPolicy policyId field
  | none => state.guardLine line.text

def LiveState.readOtherLine (state : LiveState)
    (line : SectionLine (String × String)) : LiveState :=
  match line.field with
  | some assignment => state.assign assignment.1 assignment.2
  | none => state.guardLine line.text

def LiveState.readSection (state : LiveState) : ConfigSection → LiveState
  | .proxy proxyId _ body =>
      body.foldl (readProxyLine proxyId) (state.touchProxy proxyId id proxy_opened)
  | .policy policyId _ body =>
      body.foldl (readPolicyLine policyId) (state.touchPolicy policyId id policy_opened)
  | .other body => body.foldl readOtherLine state

/-- What a line that opens no section and ends none does to the reading. -/
def readInner (classes : TextClasses) (reading : ConfigReading) (line : List Char) :
    Except ConfigError ConfigReading :=
  match reading.current with
  | some (.proxy proxyId) => do
      match ← proxyField classes line with
      | some field =>
          pure { reading with state := (reading.state.guardLine line).setProxy proxyId field }
      | none => pure { reading with state := reading.state.guardLine line }
  | some (.policy policyId) =>
      match policyField line with
      | some field =>
          .ok { reading with state := (reading.state.guardLine line).setPolicy policyId field }
      | none => .ok { reading with state := reading.state.guardLine line }
  | none => .ok { reading with state := reading.state.guardLine line }

theorem readLine_inner {reading : ConfigReading} {line : List Char} (h : Inner line) :
    readLine classes reading line = readInner classes reading line := by
  have hends : ¬ (line = [] ∨ line = ['!']) := not_or.mpr ⟨h.nonblank, h.unended⟩
  simp only [readLine, if_neg hends, h.interface, h.policy, h.assignment]
  rfl

private theorem readProxyBody {proxyId : String} {body : List (SectionLine ProxyField)}
    (h : ∀ line ∈ body, line.WellFormed (ProxyField.Spelled classes)
      (fun text => proxyField classes text = .ok none)) (state : LiveState) :
    (body.map (·.text)).foldlM (readLine classes) ⟨state, some (.proxy proxyId)⟩ =
      .ok ⟨body.foldl (LiveState.readProxyLine proxyId) state, some (.proxy proxyId)⟩ := by
  induction body generalizing state with
  | nil => rfl
  | cons line rest ih =>
      have hread : readLine classes ⟨state, some (.proxy proxyId)⟩ line.text =
          .ok ⟨state.readProxyLine proxyId line, some (.proxy proxyId)⟩ := by
        have hline := h line List.mem_cons_self
        unfold SectionLine.WellFormed at hline
        unfold LiveState.readProxyLine
        cases hfield : line.field with
        | some field =>
            rw [hfield] at hline
            obtain ⟨hinner, hread⟩ := proxyField_of_spelled hline
            simp only [readLine_inner hinner, readInner, hread, bind_ok_left]
            rfl
        | none =>
            rw [hfield] at hline
            simp only [readLine_inner hline.1, readInner, hline.2, bind_ok_left]
            rfl
      rw [List.map_cons, List.foldlM_cons, hread, bind_ok_left, List.foldl_cons]
      exact ih (fun other hmem => h other (List.mem_cons_of_mem _ hmem)) _

private theorem readPolicyBody {policyId : String} {body : List (SectionLine PolicyField)}
    (h : ∀ line ∈ body, line.WellFormed PolicyField.Spelled (fun text => policyField text = none))
    (state : LiveState) :
    (body.map (·.text)).foldlM (readLine classes) ⟨state, some (.policy policyId)⟩ =
      .ok ⟨body.foldl (LiveState.readPolicyLine policyId) state, some (.policy policyId)⟩ := by
  induction body generalizing state with
  | nil => rfl
  | cons line rest ih =>
      have hread : readLine classes ⟨state, some (.policy policyId)⟩ line.text =
          .ok ⟨state.readPolicyLine policyId line, some (.policy policyId)⟩ := by
        have hline := h line List.mem_cons_self
        unfold SectionLine.WellFormed at hline
        unfold LiveState.readPolicyLine
        cases hfield : line.field with
        | some field =>
            rw [hfield] at hline
            obtain ⟨hinner, hread⟩ := policyField_of_spelled hline
            simp only [readLine_inner hinner, readInner, hread]
        | none =>
            rw [hfield] at hline
            simp only [readLine_inner hline.1, readInner, hline.2]
      rw [List.map_cons, List.foldlM_cons, hread, bind_ok_left, List.foldl_cons]
      exact ih (fun other hmem => h other (List.mem_cons_of_mem _ hmem)) _

private theorem readOtherBody {body : List (SectionLine (String × String))}
    (h : ∀ line ∈ body, line.WellFormed SpellsAssignment (fun _ => True)) (state : LiveState) :
    (body.map (·.text)).foldlM (readLine classes) ⟨state, none⟩ =
      .ok ⟨body.foldl LiveState.readOtherLine state, none⟩ := by
  induction body generalizing state with
  | nil => rfl
  | cons line rest ih =>
      have hread : readLine classes ⟨state, none⟩ line.text =
          .ok ⟨state.readOtherLine line, none⟩ := by
        have hline := h line List.mem_cons_self
        unfold SectionLine.WellFormed at hline
        unfold LiveState.readOtherLine
        cases hfield : line.field with
        | some assignment =>
            rw [hfield] at hline
            obtain ⟨hnonblank, hunended, hinterface, hpolicy, mac, hassignment, hmac⟩ :=
              lineAssignment_of_spelled hline
            have hends : ¬ (line.text = [] ∨ line.text = ['!']) :=
              not_or.mpr ⟨hnonblank, hunended⟩
            simp only [readLine, if_neg hends, hinterface, hpolicy, hassignment, hmac]
        | none =>
            rw [hfield] at hline
            simp only [readLine_inner hline.1, readInner]
      rw [List.map_cons, List.foldlM_cons, hread, bind_ok_left, List.foldl_cons]
      exact ih (fun other hmem => h other (List.mem_cons_of_mem _ hmem)) _

/-- A section is read whole and leaves none open. -/
theorem readSection_lines {part : ConfigSection} (h : part.WellFormed classes) (state : LiveState) :
    part.lines.foldlM (readLine classes) ⟨state, none⟩ = .ok ⟨state.readSection part, none⟩ := by
  cases part with
  | proxy proxyId header body =>
      obtain ⟨hwords, hnative, hbody⟩ := h
      have hends : ¬ (header = [] ∨ header = ['!']) := by
        rintro (rfl | rfl)
        · cases hwords
        · have hended : words ['!'] = [['!']] := by decide
          cases hended.symm.trans hwords
      have hheader : interfaceId header = some proxyId := by
        simp only [interfaceId, hwords, String.ofList_toList, hnative, and_self, if_true]
      have hopen : readLine classes ⟨state, none⟩ header =
          .ok ⟨state.touchProxy proxyId id proxy_opened, some (.proxy proxyId)⟩ := by
        simp only [readLine, if_neg hends, hheader]
      rw [ConfigSection.lines, List.foldlM_append, List.foldlM_cons, hopen, bind_ok_left,
        readProxyBody hbody, bind_ok_left]
      rfl
  | policy policyId header body =>
      obtain ⟨hwords, hnative, hbody⟩ := h
      have hends : ¬ (header = [] ∨ header = ['!']) := by
        rintro (rfl | rfl)
        · cases hwords
        · have hended : words ['!'] = [['!']] := by decide
          cases hended.symm.trans hwords
      have hinterface : interfaceId header = none := by
        simp only [interfaceId, hwords]
      have hheader : policySectionId header = some policyId := by
        simp only [policySectionId, hwords, String.ofList_toList, hnative, and_self, if_true]
      have hopen : readLine classes ⟨state, none⟩ header =
          .ok ⟨state.touchPolicy policyId id policy_opened, some (.policy policyId)⟩ := by
        simp only [readLine, if_neg hends, hinterface, hheader]
      rw [ConfigSection.lines, List.foldlM_append, List.foldlM_cons, hopen, bind_ok_left,
        readPolicyBody hbody, bind_ok_left]
      rfl
  | other body =>
      rw [ConfigSection.lines, List.foldlM_append, readOtherBody h, bind_ok_left]
      rfl

theorem readSections {parts : List ConfigSection} (h : ∀ part ∈ parts, part.WellFormed classes)
    (state : LiveState) :
    (parts.flatMap ConfigSection.lines).foldlM (readLine classes) ⟨state, none⟩ =
      .ok ⟨parts.foldl LiveState.readSection state, none⟩ := by
  induction parts generalizing state with
  | nil => rfl
  | cons part rest ih =>
      rw [List.flatMap_cons, List.foldlM_append, readSection_lines (h part List.mem_cons_self),
        bind_ok_left, List.foldl_cons]
      exact ih (fun other hmem => h other (List.mem_cons_of_mem _ hmem)) _

end Sections

private theorem getLast_of_once {α β : Type} {f : α → Option β} {entries : List α}
    (h : (entries.filterMap f).length ≤ 1) :
    (entries.filterMap f).getLast? = entries.findSome? f := by
  rw [← List.head?_filterMap]
  match hvalues : entries.filterMap f with
  | [] => rfl
  | [value] => rfl
  | first :: second :: rest =>
      rw [hvalues] at h
      simp at h

/-- The fields of a section hold what was set last. -/
private theorem setFields (fields : List ProxyField) (proxy : ProxyState) :
    fields.foldl (fun proxy field => field.set proxy) proxy = {
      objectId := proxy.objectId
      description := (fields.filterMap ProxyField.description?).getLast?.getD proxy.description
      protocol := (fields.filterMap ProxyField.protocol?).getLast?.getD proxy.protocol
      host := ((fields.filterMap ProxyField.upstream?).getLast?.map Prod.fst).getD proxy.host
      port := ((fields.filterMap ProxyField.upstream?).getLast?.map Prod.snd).getD proxy.port
      enabled := proxy.enabled || decide (ProxyField.up ∈ fields)
      authenticationConfigured := proxy.authenticationConfigured ||
        decide (ProxyField.authentication ∈ fields) } := by
  induction fields generalizing proxy with
  | nil => simp
  | cons field rest ih =>
      rw [List.foldl_cons, ih]
      cases hlast : (rest.filterMap ProxyField.upstream?).getLast? <;> cases field <;>
        simp [ProxyField.set, List.filterMap_cons, ProxyField.description?, ProxyField.protocol?,
          ProxyField.upstream?, List.getLast?_cons, hlast]

private theorem setPolicyFields (fields : List PolicyField) (policy : PolicyState) :
    fields.foldl (fun policy field => field.set policy) policy = {
      objectId := policy.objectId
      description := (fields.filterMap PolicyField.description?).getLast?.getD policy.description
      globalInterfaces := policy.globalInterfaces ++ fields.filterMap PolicyField.permit? } := by
  induction fields generalizing policy with
  | nil => simp
  | cons field rest ih =>
      rw [List.foldl_cons, ih]
      cases field <;>
        simp [PolicyField.set, List.filterMap_cons, PolicyField.description?, PolicyField.permit?,
          List.getLast?_cons]

theorem guardLines_cons {Field : Type} (line : SectionLine Field)
    (rest : List (SectionLine Field)) :
    guardLines (line :: rest) =
      (if "default-policy".toList <:+: line.text then [String.ofList line.text] else []) ++
        guardLines rest := by
  simp only [guardLines, List.filter_cons, decide_eq_true_eq]
  split
  · rfl
  · rfl

theorem fieldsOf_cons {Field : Type} (line : SectionLine Field) (rest : List (SectionLine Field)) :
    fieldsOf (line :: rest) = line.field.toList ++ fieldsOf rest := by
  cases hfield : line.field <;> simp [fieldsOf, hfield]

private theorem foldProxyBody {proxyId : String} (body : List (SectionLine ProxyField))
    {state : LiveState} {before : List ProxyState} {last : ProxyState}
    (hproxies : state.proxies = before ++ [last]) (hid : last.objectId = proxyId)
    (hfresh : proxyId ∉ before.map (·.objectId)) :
    let after := body.foldl (LiveState.readProxyLine proxyId) state
    after.proxies = before ++ [(fieldsOf body).foldl (fun proxy field => field.set proxy) last] ∧
      after.policies = state.policies ∧ after.assignments = state.assignments ∧
      after.defaultGuard = state.defaultGuard ++ guardLines body := by
  induction body generalizing state last with
  | nil => exact ⟨hproxies, rfl, rfl, (List.append_nil _).symm⟩
  | cons line rest ih =>
      subst hid
      cases hfield : line.field with
      | none =>
          have hread : state.readProxyLine last.objectId line = state.guardLine line.text := by
            simp only [LiveState.readProxyLine, hfield]
          obtain ⟨hp, hq, ha, hg⟩ := @ih (state.guardLine line.text) last hproxies rfl
          rw [fieldsOf_cons, guardLines_cons, hfield, List.foldl_cons, hread]
          exact ⟨hp, hq, ha, by rw [hg, ← List.append_assoc]; rfl⟩
      | some field =>
          have hread : state.readProxyLine last.objectId line =
              (state.guardLine line.text).setProxy last.objectId field := by
            simp only [LiveState.readProxyLine, hfield]
          have hset : ((state.guardLine line.text).setProxy last.objectId field).proxies =
              before ++ [field.set last] :=
            LiveState.touchProxy_last field.set_objectId hproxies hfresh
          obtain ⟨hp, hq, ha, hg⟩ := ih hset (field.set_objectId last)
          rw [fieldsOf_cons, guardLines_cons, hfield, List.foldl_cons, hread]
          exact ⟨hp, hq, ha, by rw [hg, ← List.append_assoc]; rfl⟩

private theorem foldPolicyBody {policyId : String} (body : List (SectionLine PolicyField))
    {state : LiveState} {before : List PolicyState} {last : PolicyState}
    (hpolicies : state.policies = before ++ [last]) (hid : last.objectId = policyId)
    (hfresh : policyId ∉ before.map (·.objectId)) :
    let after := body.foldl (LiveState.readPolicyLine policyId) state
    after.policies = before ++ [(fieldsOf body).foldl (fun policy field => field.set policy) last] ∧
      after.proxies = state.proxies ∧ after.assignments = state.assignments ∧
      after.defaultGuard = state.defaultGuard ++ guardLines body := by
  induction body generalizing state last with
  | nil => exact ⟨hpolicies, rfl, rfl, (List.append_nil _).symm⟩
  | cons line rest ih =>
      subst hid
      cases hfield : line.field with
      | none =>
          have hread : state.readPolicyLine last.objectId line = state.guardLine line.text := by
            simp only [LiveState.readPolicyLine, hfield]
          obtain ⟨hp, hq, ha, hg⟩ := @ih (state.guardLine line.text) last hpolicies rfl
          rw [fieldsOf_cons, guardLines_cons, hfield, List.foldl_cons, hread]
          exact ⟨hp, hq, ha, by rw [hg, ← List.append_assoc]; rfl⟩
      | some field =>
          have hread : state.readPolicyLine last.objectId line =
              (state.guardLine line.text).setPolicy last.objectId field := by
            simp only [LiveState.readPolicyLine, hfield]
          have hset : ((state.guardLine line.text).setPolicy last.objectId field).policies =
              before ++ [field.set last] :=
            LiveState.touchPolicy_last field.set_objectId hpolicies hfresh
          obtain ⟨hp, hq, ha, hg⟩ := ih hset (field.set_objectId last)
          rw [fieldsOf_cons, guardLines_cons, hfield, List.foldl_cons, hread]
          exact ⟨hp, hq, ha, by rw [hg, ← List.append_assoc]; rfl⟩

private theorem foldOtherBody (body : List (SectionLine (String × String))) {state : LiveState}
    (hnodup : ((state.assignments ++ fieldsOf body).map Prod.fst).Nodup) :
    let after := body.foldl LiveState.readOtherLine state
    after.proxies = state.proxies ∧ after.policies = state.policies ∧
      after.assignments = state.assignments ++ fieldsOf body ∧
      after.defaultGuard = state.defaultGuard ++ guardLines (body.filter (·.field.isNone)) := by
  induction body generalizing state with
  | nil => exact ⟨rfl, rfl, (List.append_nil _).symm, (List.append_nil _).symm⟩
  | cons line rest ih =>
      cases hfield : line.field with
      | none =>
          have hread : state.readOtherLine line = state.guardLine line.text := by
            simp only [LiveState.readOtherLine, hfield]
          rw [fieldsOf_cons, hfield] at hnodup
          obtain ⟨hp, hq, ha, hg⟩ := @ih (state.guardLine line.text) hnodup
          rw [fieldsOf_cons, hfield, List.foldl_cons, hread,
            List.filter_cons_of_pos (by simp [hfield]), guardLines_cons]
          exact ⟨hp, hq, ha, by rw [hg, ← List.append_assoc]; rfl⟩
      | some assignment =>
          have hread : state.readOtherLine line = state.assign assignment.1 assignment.2 := by
            simp only [LiveState.readOtherLine, hfield]
          rw [fieldsOf_cons, hfield, Option.toList_some] at hnodup
          have hfresh : assignment.1 ∉ state.assignments.map Prod.fst := by
            rw [List.map_append, List.nodup_append] at hnodup
            exact fun hmem => hnodup.2.2 _ hmem _ (by simp) rfl
          have hset : (state.assign assignment.1 assignment.2).assignments =
              state.assignments ++ [assignment] :=
            Keyed.touch_of_absent (f := fun entry => (entry.1, assignment.2)) Prod.fst
              (assignment.1, "") hfresh
          rw [← List.append_assoc, ← hset] at hnodup
          obtain ⟨hp, hq, ha, hg⟩ := ih hnodup
          rw [fieldsOf_cons, hfield, List.foldl_cons, hread,
            List.filter_cons_of_neg (by simp [hfield])]
          exact ⟨hp, hq, by rw [ha, hset, List.append_assoc]; rfl, hg⟩

section Described

variable {classes : TextClasses}

private theorem fields_described {proxyId : String} {fields : List ProxyField}
    (hdescription : (fields.filterMap ProxyField.description?).length ≤ 1)
    (hprotocol : (fields.filterMap ProxyField.protocol?).length ≤ 1)
    (hupstream : (fields.filterMap ProxyField.upstream?).length ≤ 1) :
    fields.foldl (fun proxy field => field.set proxy) (.fresh proxyId) =
      describedProxy proxyId fields := by
  rw [setFields, getLast_of_once hdescription, getLast_of_once hprotocol, getLast_of_once hupstream]
  simp only [ProxyState.fresh, describedProxy, Bool.false_or]

private theorem policyFields_described {policyId : String} {fields : List PolicyField}
    (hdescription : (fields.filterMap PolicyField.description?).length ≤ 1) :
    fields.foldl (fun policy field => field.set policy) (.fresh policyId) =
      describedPolicy policyId fields := by
  rw [setPolicyFields, getLast_of_once hdescription]
  simp only [PolicyState.fresh, describedPolicy, List.nil_append]

/-- A section adds what it describes to a state that has none of its objects. -/
theorem readSection_described {part : ConfigSection} (honce : part.SetsOnce) {state : LiveState}
    (hproxies : ∀ proxy ∈ part.proxies, proxy.objectId ∉ state.proxies.map (·.objectId))
    (hpolicies : ∀ policy ∈ part.policies, policy.objectId ∉ state.policies.map (·.objectId))
    (hassignments : ((state.assignments ++ part.assignments).map Prod.fst).Nodup) :
    (state.readSection part).proxies = state.proxies ++ part.proxies ∧
      (state.readSection part).policies = state.policies ++ part.policies ∧
      (state.readSection part).assignments = state.assignments ++ part.assignments ∧
      (state.readSection part).defaultGuard = state.defaultGuard ++ part.defaultGuard := by
  cases part with
  | proxy proxyId header body =>
      obtain ⟨hdescription, hprotocol, hupstream⟩ := honce
      have hfresh := hproxies _ List.mem_cons_self
      have hopened : (state.touchProxy proxyId id proxy_opened).proxies =
          state.proxies ++ [.fresh proxyId] := LiveState.touchProxy_of_absent _ hfresh
      obtain ⟨hp, hq, ha, hg⟩ := foldProxyBody body hopened rfl hfresh
      rw [fields_described hdescription hprotocol hupstream] at hp
      exact ⟨hp, hq.trans (List.append_nil _).symm, ha.trans (List.append_nil _).symm, hg⟩
  | policy policyId header body =>
      have hfresh := hpolicies _ List.mem_cons_self
      have hopened : (state.touchPolicy policyId id policy_opened).policies =
          state.policies ++ [.fresh policyId] := LiveState.touchPolicy_of_absent _ hfresh
      obtain ⟨hq, hp, ha, hg⟩ := foldPolicyBody body hopened rfl hfresh
      rw [policyFields_described honce] at hq
      exact ⟨hp.trans (List.append_nil _).symm, hq, ha.trans (List.append_nil _).symm, hg⟩
  | other body =>
      obtain ⟨hp, hq, ha, hg⟩ := foldOtherBody body hassignments
      exact ⟨hp.trans (List.append_nil _).symm, hq.trans (List.append_nil _).symm, ha, hg⟩

/-- So do sections one after another, as long as their objects are distinct. -/
theorem readSections_described {parts : List ConfigSection} (honce : ∀ part ∈ parts, part.SetsOnce)
    {state : LiveState}
    (hproxies : ((state.proxies ++ parts.flatMap ConfigSection.proxies).map (·.objectId)).Nodup)
    (hpolicies : ((state.policies ++ parts.flatMap ConfigSection.policies).map (·.objectId)).Nodup)
    (hassignments :
      ((state.assignments ++ parts.flatMap ConfigSection.assignments).map Prod.fst).Nodup) :
    let after := parts.foldl LiveState.readSection state
    after.proxies = state.proxies ++ parts.flatMap ConfigSection.proxies ∧
      after.policies = state.policies ++ parts.flatMap ConfigSection.policies ∧
      after.assignments = state.assignments ++ parts.flatMap ConfigSection.assignments ∧
      after.defaultGuard = state.defaultGuard ++ parts.flatMap ConfigSection.defaultGuard := by
  induction parts generalizing state with
  | nil => simp
  | cons part rest ih =>
      simp only [List.flatMap_cons, ← List.append_assoc] at hproxies hpolicies hassignments ⊢
      have hnew : ∀ proxy ∈ part.proxies, proxy.objectId ∉ state.proxies.map (·.objectId) := by
        intro proxy hproxy hmem
        rw [List.append_assoc, List.map_append, List.nodup_append] at hproxies
        exact hproxies.2.2 _ hmem _
          (List.mem_map_of_mem (List.mem_append_left _ hproxy)) rfl
      have hnewPolicies : ∀ policy ∈ part.policies,
          policy.objectId ∉ state.policies.map (·.objectId) := by
        intro policy hpolicy hmem
        rw [List.append_assoc, List.map_append, List.nodup_append] at hpolicies
        exact hpolicies.2.2 _ hmem _
          (List.mem_map_of_mem (List.mem_append_left _ hpolicy)) rfl
      have hnewAssignments : ((state.assignments ++ part.assignments).map Prod.fst).Nodup := by
        rw [List.map_append] at hassignments
        exact (List.nodup_append.mp hassignments).1
      obtain ⟨hp, hq, ha, hg⟩ := readSection_described (honce part List.mem_cons_self) hnew
        hnewPolicies hnewAssignments
      rw [← hp] at hproxies ⊢
      rw [← hq] at hpolicies ⊢
      rw [← ha] at hassignments ⊢
      rw [← hg]
      exact ih (fun other hmem => honce other (List.mem_cons_of_mem _ hmem)) hproxies hpolicies
        hassignments

theorem parseRunningConfig_described (config : RunningConfig classes) {text : String}
    (htext : config.Spells text) :
    parseRunningConfig classes text = .ok config.described.parsed := by
  have hsections := readSections config.wellFormed LiveState.nothing
  obtain ⟨hp, hq, ha, hg⟩ := @readSections_described config.sections config.setsOnce .nothing
    config.proxyIds_nodup config.policyIds_nodup config.deviceMacs_nodup
  have hstate : config.sections.foldl LiveState.readSection .nothing = config.described :=
    LiveState.ext hp hq ha hg
  rw [hstate] at hsections
  unfold parseRunningConfig
  rw [htext, hsections]
  rfl

/-- The same sections in another order. -/
def RunningConfig.reorder (config : RunningConfig classes) {parts : List ConfigSection}
    (h : parts.Perm config.sections) : RunningConfig classes where
  sections := parts
  wellFormed := fun part hmem => config.wellFormed part (h.mem_iff.mp hmem)
  setsOnce := fun part hmem => config.setsOnce part (h.mem_iff.mp hmem)
  proxyIds_nodup := ((h.flatMap_right _).map _).nodup_iff.mpr config.proxyIds_nodup
  policyIds_nodup := ((h.flatMap_right _).map _).nodup_iff.mpr config.policyIds_nodup
  deviceMacs_nodup := ((h.flatMap_right _).map _).nodup_iff.mpr config.deviceMacs_nodup

theorem reorder_described (config : RunningConfig classes) {parts : List ConfigSection}
    (h : parts.Perm config.sections) :
    (config.reorder h).described.Same config.described where
  proxies := h.flatMap_right _
  policies := h.flatMap_right _
  assignments := h.flatMap_right _
  defaultGuard := h.flatMap_right _

/-- Two listings of the same objects are parsed alike. -/
theorem parsed_congr {left right : LiveState} (h : left.Same right) :
    left.parsed = right.parsed := by
  obtain ⟨hproxies, hpolicies, hassignments, hguard⟩ := LiveState.same_iff_sorted.mp h
  exact LiveState.ext hproxies hpolicies hassignments hguard

/-- A configuration is read as the state its sections describe, and so is every
text of the same sections in another order. -/
theorem running_config_read (classes : TextClasses) (config : RunningConfig classes) (text : String)
    (htext : config.Spells text) :
    parseRunningConfig classes text = .ok config.described.parsed ∧
      ∀ (parts : List ConfigSection) (otherText : String), parts.Perm config.sections →
        (splitLines otherText.toList).map strip = parts.flatMap ConfigSection.lines →
          parseRunningConfig classes otherText = parseRunningConfig classes text := by
  refine ⟨parseRunningConfig_described config htext, fun parts otherText hperm hother => ?_⟩
  rw [parseRunningConfig_described config htext,
    parseRunningConfig_described (config.reorder hperm) hother,
    parsed_congr (reorder_described config hperm)]

end Described

def asciiClasses : TextClasses where
  foldNonAscii := fun c => [c]
  wordNonAscii := fun _ => false

/-- A proxy, its policy, and a device that uses it. -/
def smallSections : List ConfigSection :=
  [.proxy "Proxy0" "interface Proxy0".toList [
      ⟨some (.description "RouterKit-SOCKS-1082"), "description \"RouterKit-SOCKS-1082\"".toList⟩,
      ⟨none, "security-level public".toList⟩,
      ⟨some (.upstream "127.0.0.1" 1082), "proxy upstream 127.0.0.1 1082".toList⟩,
      ⟨some (.protocol "socks5"), "proxy protocol SOCKS5".toList⟩,
      ⟨some .up, "up".toList⟩],
    .policy "Policy0" "ip policy Policy0".toList [
      ⟨some (.permit "Proxy0"), "permit global Proxy0 100".toList⟩],
    .other [
      ⟨none, "ip hotspot".toList⟩,
      ⟨none, "default-policy permit".toList⟩,
      ⟨some ("02:aa:bb:0c:dd:ee", "Policy0"), "host 02:AA:BB:0C:DD:EE policy Policy0".toList⟩]]

theorem smallSections_wellFormed : ∀ part ∈ smallSections, part.WellFormed asciiClasses := by
  intro part hpart
  simp only [smallSections, List.mem_cons, List.not_mem_nil, or_false] at hpart
  rcases hpart with rfl | rfl | rfl
  · refine ⟨by decide +kernel, by decide +kernel, fun line hline => ?_⟩
    simp only [List.mem_cons, List.not_mem_nil, or_false] at hline
    rcases hline with rfl | rfl | rfl | rfl | rfl
    · exact ⟨by decide +kernel, by decide +kernel, [' '], by simp, by
        decide, .inr (by decide +kernel)⟩
    · exact ⟨⟨by decide +kernel, by decide +kernel, by decide +kernel, by decide +kernel,
        by decide +kernel⟩, by decide +kernel⟩
    · exact .inr ⟨"1082".toList, by decide +kernel, by decide +kernel, by decide +kernel⟩
    · exact ⟨"SOCKS5".toList, by decide +kernel, by decide +kernel⟩
    · rfl
  · refine ⟨by decide +kernel, by decide +kernel, fun line hline => ?_⟩
    obtain rfl := List.mem_singleton.mp hline
    exact .inr ⟨"100".toList, by decide +kernel, by decide +kernel⟩
  · intro line hline
    simp only [List.mem_cons, List.not_mem_nil, or_false] at hline
    rcases hline with rfl | rfl | rfl
    · exact ⟨⟨by decide +kernel, by decide +kernel, by decide +kernel, by decide +kernel,
        by decide +kernel⟩, trivial⟩
    · exact ⟨⟨by decide +kernel, by decide +kernel, by decide +kernel, by decide +kernel,
        by decide +kernel⟩, trivial⟩
    · exact ⟨"02:AA:BB:0C:DD:EE".toList, by decide +kernel, by decide +kernel, by decide +kernel,
        by decide +kernel, .inl (by decide +kernel)⟩

def smallConfig : RunningConfig asciiClasses where
  sections := smallSections
  wellFormed := smallSections_wellFormed
  setsOnce := by
    intro part hpart
    simp only [smallSections, List.mem_cons, List.not_mem_nil, or_false] at hpart
    rcases hpart with rfl | rfl | rfl
    · exact ⟨by decide +kernel, by decide +kernel, by decide +kernel⟩
    · unfold ConfigSection.SetsOnce
      decide +kernel
    · trivial
  proxyIds_nodup := by decide +kernel
  policyIds_nodup := by decide +kernel
  deviceMacs_nodup := by decide +kernel

/-- Its lines, indented. -/
def smallText : String :=
  String.ofList (smallConfig.sections.flatMap ConfigSection.lines |>.flatMap
    fun line => ' ' :: line ++ ['\n'])

theorem running_config_read_small :
    parseRunningConfig asciiClasses smallText = .ok smallConfig.described.parsed := by
  have hspells : smallConfig.Spells smallText := by
    rw [RunningConfig.Spells, smallText, String.toList_ofList]
    decide +kernel
  exact (running_config_read asciiClasses smallConfig smallText hspells).1

end RouterKit.Netcraze
