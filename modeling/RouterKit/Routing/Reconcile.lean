import RouterKit.Routing.Planning
import RouterKit.Routing.Publication

/-!
The install hook run again. It takes no rule for the managed one, so a document
that already starts with a direct rule is refused, its own rule included.
-/

namespace RouterKit.Routing

open RouterKit.Lib RouterKit.Lib.Checked RouterKit.Lib.Programs

section Hook

variable {Text : Type} {format : JsonFormat Text} {tables : TextTables} {repo : Repository}
  {installation after : Installation Text} {persisted : RoutingOverrides}

/-- What the hook wants, once it accepts the document. -/
theorem reconcilePlan_eq_ok {updated : Json String} {changed : Bool} :
    reconcilePlan format tables repo installation persisted = .ok (updated, changed) ↔
      ∃ documents inboundTags domains rules managed,
        loadActiveDocuments format installation = .ok documents ∧
        extractRouterkitInbounds documents.inbounds = .ok inboundTags ∧
        validateDirectOutbound documents.outbounds = .ok () ∧
        expandDirectDomains tables repo persisted = .ok domains ∧
        routingRules documents.routing = .ok rules ∧ directHead rules = false ∧
        managedRules tables inboundTags domains = .ok managed ∧
        updated = withRules documents.routing (managed ++ rules) ∧
        changed = decide (domains ≠ []) := by
  have hchanged : ∀ {inboundTags domains : List String} {managed : List (Json String)}
      (rules : List (Json String)), managedRules tables inboundTags domains = .ok managed →
      ((managed ++ rules).map Json.canonical ≠ rules.map Json.canonical ↔ domains ≠ []) := by
    intro inboundTags domains managed rules hmanaged
    rcases managedRules_eq_ok.mp hmanaged with ⟨rfl, rfl⟩ | ⟨hne, -, -, normalized, -, rfl⟩
    · simp
    · refine iff_of_true ?_ hne
      intro hsame
      have hlength := congrArg List.length hsame
      simp only [List.length_map, List.length_append, List.length_cons, List.length_nil] at hlength
      omega
  simp only [reconcilePlan, bind_eq_ok, exists_unit, reconcileRoutingDocument_eq_ok,
    managedRules_nil, Except.ok.injEq, withoutManaged_eq_ok]
  constructor
  · rintro ⟨documents, hdocuments, inboundTags, htags, houtbound, domains, hdomains, rules,
      expected, rest, managed, hrules, rfl, hrest, hmanaged, hupdated, rfl⟩
    rcases hrest with ⟨hhead, rfl⟩ | ⟨rule, other, more, -, -, hnil, -⟩
    · refine ⟨documents, inboundTags, domains, rest, managed, hdocuments, htags, houtbound,
        hdomains, hrules, hhead, hmanaged, hupdated, ?_⟩
      exact decide_eq_decide.mpr (hchanged rest hmanaged)
    · cases hnil
  · rintro ⟨documents, inboundTags, domains, rules, managed, hdocuments, htags, houtbound, hdomains,
      hrules, hhead, hmanaged, hupdated, rfl⟩
    refine ⟨documents, hdocuments, inboundTags, htags, houtbound, domains, hdomains,
        rules, [], rules,
      managed, hrules, rfl, .inl ⟨hhead, rfl⟩, hmanaged, hupdated, ?_⟩
    exact decide_eq_decide.mpr (hchanged rules hmanaged).symm

/-- The hook has nothing to do: no selection is kept, or the document is the one
the selection wants. -/
def Settled (format : JsonFormat Text) (tables : TextTables) (repo : Repository)
    (installation : Installation Text) : Prop :=
  loadOverrides format tables installation.state = .ok none ∨
    ∃ persisted updated, loadOverrides format tables installation.state = .ok (some persisted) ∧
      reconcilePlan format tables repo installation persisted = .ok (updated, false)

/-- What the hook does once it knows what it wants. -/
private def restore (format : JsonFormat Text) (steps : ApplyStep → StepOutcome)
    (updated : Json String) (changed : Bool) : ApplyM Text Bool :=
  if changed then do
    checkStep (steps .stage)
    publishRoute format steps .forward (format.dumps updated)
    checkStep (steps (.testActive .forward))
    pure true
  else pure false

private theorem reconcile_body (steps : ApplyStep → StepOutcome)
    (installation : Installation Text) :
    runCommand (reconcilePersistedState format tables repo steps) installation =
      runCommand (match loadOverrides format tables installation.state with
        | .error error => raise error
        | .ok none => pure false
        | .ok (some persisted) =>
            match reconcilePlan format tables repo installation persisted with
            | .error error => raise error
            | .ok (updated, changed) => restore format steps updated changed) installation := rfl

private theorem restore_run (steps : ApplyStep → StepOutcome) (updated : Json String) :
    let ran := runCommand (restore format steps updated true) installation
    (ran.2 = installation ∧ ∃ stop, ran.1 = .error stop) ∨
      (ran.2 = installation.withRouting (format.dumps updated) ∧
        ∀ made, ran.1 = .ok made → made = true) := by
  intro ran
  by_cases hstage : steps .stage = .done
  · have hran : ran = runCommand (do
        ioStep (routeOutcome format steps .forward (format.dumps updated))
          (·.withRouting (format.dumps updated))
        checkStep (steps (.testActive .forward))
        pure true) installation := by
      rw [← publishRoute_eq]
      simp only [ran, restore, hstage, if_true]
      exact runCommand_bind rfl
    rw [hran]
    cases houtcome : routeOutcome format steps .forward (format.dumps updated) with
    | done =>
        by_cases htest : steps (.testActive .forward) = .done
        · rw [htest]
          exact .inr ⟨rfl, fun made h => (Except.ok.inj h).symm⟩
        · obtain ⟨stop, hstop⟩ := checkStep_stops htest
            (installation.withRouting (format.dumps updated))
          have hpublished : runCommand (ioStep .done
              (·.withRouting (format.dumps updated))) installation =
                (.ok (), installation.withRouting (format.dumps updated)) := rfl
          refine .inr ?_
          rw [runCommand_bind hpublished, runCommand_bind_stop hstop]
          exact ⟨rfl, by intro made h; cases h⟩
    | fails tookEffect error =>
        cases tookEffect with
        | false => exact .inl ⟨rfl, _, rfl⟩
        | true => exact .inr ⟨rfl, by intro made h; cases h⟩
    | killed tookEffect =>
        cases tookEffect with
        | false => exact .inl ⟨rfl, _, rfl⟩
        | true => exact .inr ⟨rfl, by intro made h; cases h⟩
  · obtain ⟨stop, hstop⟩ := checkStep_stops hstage installation
    have hran : ran = (.error stop, installation) := by
      simp only [ran, restore, if_true]
      exact runCommand_bind_stop hstop
    rw [hran]
    exact .inl ⟨rfl, stop, rfl⟩

/-- The hook leaves the installation, or publishes the document it wants. -/
theorem reconcile_run (steps : ApplyStep → StepOutcome) (installation : Installation Text) :
    let ran := runCommand (reconcilePersistedState format tables repo steps) installation
    (ran.2 = installation ∧
        ∀ made, ran.1 = .ok made → made = false ∧ Settled format tables repo installation) ∨
      ∃ persisted updated, loadOverrides format tables installation.state = .ok (some persisted) ∧
        reconcilePlan format tables repo installation persisted = .ok (updated, true) ∧
        ran.2 = installation.withRouting (format.dumps updated) ∧
        ∀ made, ran.1 = .ok made → made = true := by
  intro ran
  have hran : ran = _ := reconcile_body steps installation
  cases hload : loadOverrides format tables installation.state with
  | error error =>
      rw [hload] at hran
      refine .inl ⟨by rw [hran]; rfl, fun made h => ?_⟩
      rw [hran] at h
      cases h
  | ok loaded =>
      cases loaded with
      | none =>
          rw [hload] at hran
          refine .inl ⟨by rw [hran]; rfl, fun made h => ?_⟩
          rw [hran] at h
          exact ⟨(Except.ok.inj h).symm, .inl hload⟩
      | some persisted =>
          cases hplan : reconcilePlan format tables repo installation persisted with
          | error error =>
              simp only [hload, hplan] at hran
              refine .inl ⟨by rw [hran]; rfl, fun made h => ?_⟩
              rw [hran] at h
              cases h
          | ok plan =>
              obtain ⟨updated, changed⟩ := plan
              simp only [hload, hplan] at hran
              cases changed with
              | false =>
                  refine .inl ⟨by rw [hran]; rfl, fun made h => ?_⟩
                  rw [hran] at h
                  exact ⟨(Except.ok.inj h).symm, .inr ⟨persisted, updated, hload, hplan⟩⟩
              | true =>
                  rw [hran]
                  rcases restore_run steps updated with ⟨hsame, stop, hstop⟩ | ⟨hafter, hmade⟩
                  · refine .inl ⟨hsame, fun made h => ?_⟩
                    rw [hstop] at h
                    cases h
                  · exact .inr ⟨persisted, updated, rfl, hplan, hafter, hmade⟩

/-- A settled installation, and only that, the hook accepts without a change,
whatever the steps do. -/
theorem reconcile_noop_iff :
    (∀ steps, runCommand (reconcilePersistedState format tables repo steps) installation =
        (.ok false, installation)) ↔ Settled format tables repo installation := by
  constructor
  · intro hnoop
    have hdone := hnoop (fun _ => .done)
    rcases reconcile_run (fun _ => .done) installation with ⟨-, hmade⟩ | ⟨_, _, -, -, -, hmade⟩
    · exact (hmade false (by rw [hdone])).2
    · have hfalse := hmade false (by rw [hdone])
      cases hfalse
  · rintro hsettled steps
    have hbody := @reconcile_body Text format tables repo steps installation
    rcases hsettled with hnone | ⟨persisted, updated, hload, hplan⟩
    · rw [hbody, hnone]
      rfl
    · rw [hbody, hload]
      simp only [hplan]
      rfl

/-- No selection is kept, or an empty one. -/
def NothingSelected (format : JsonFormat Text) (tables : TextTables)
    (installation : Installation Text) : Prop :=
  loadOverrides format tables installation.state = .ok none ∨
    loadOverrides format tables installation.state = .ok (some {})

/-- The first rule of the active document is a direct one. -/
def StartsDirect (format : JsonFormat Text) (installation : Installation Text) : Prop :=
  ∃ routing rules,
    readJsonPrivate format installation.routing "Xray routing configuration" = .ok routing ∧
      routingRules routing = .ok rules ∧ directHead rules = true

theorem Settled.nothingSelected (h : Settled format tables repo installation) :
    NothingSelected format tables installation := by
  rcases h with hnone | ⟨persisted, updated, hload, hplan⟩
  · exact .inl hnone
  · obtain ⟨documents, inboundTags, domains, rules, managed, -, -, -, hdomains, -, -, -, -,
      hchanged⟩ := reconcilePlan_eq_ok.mp hplan
    have hnil : domains = [] := by simpa using hchanged
    rw [(expandDirectDomains_nil_iff hdomains).mp hnil] at hload
    exact .inr hload

/-- The hook does not change the document of an empty selection. -/
theorem NothingSelected.unchanged {updated : Json String} {changed : Bool}
    (h : NothingSelected format tables installation)
    (hload : loadOverrides format tables installation.state = .ok (some persisted))
    (hplan : reconcilePlan format tables repo installation persisted = .ok (updated, changed)) :
    changed = false := by
  obtain ⟨documents, inboundTags, domains, rules, managed, -, -, -, hdomains, -, -, -, -,
    hchanged⟩ := reconcilePlan_eq_ok.mp hplan
  have hempty : persisted = {} := by
    rcases h with hnone | hempty
    · rw [hnone] at hload
      cases hload
    · rw [hempty] at hload
      exact (Option.some.inj (Except.ok.inj hload)).symm
  rw [hchanged, (expandDirectDomains_nil_iff hdomains).mpr hempty]
  rfl

private theorem reconcile_again_iff {steps : ApplyStep → StepOutcome} {changed : Bool}
    (hran : runCommand (reconcilePersistedState format tables repo steps) installation =
      (.ok changed, after)) :
    Settled format tables repo after ↔ NothingSelected format tables installation := by
  rcases reconcile_run steps installation with ⟨hafter, hmade⟩ |
    ⟨persisted, updated, hload, hplan, hafter, -⟩
  · rw [hran] at hafter hmade
    obtain rfl : after = installation := hafter
    obtain ⟨-, hsettled⟩ := hmade changed rfl
    exact iff_of_true hsettled hsettled.nothingSelected
  · rw [hran] at hafter
    obtain rfl : after = installation.withRouting (format.dumps updated) := hafter
    constructor
    · exact fun hsettled => hsettled.nothingSelected
    · intro hnothing
      have hfalse := hnothing.unchanged hload hplan
      cases hfalse

private theorem reconcile_after_apply_iff {steps : ApplyStep → StepOutcome} {request : Mutations}
    {backup : Bool}
    (hran : runCommand (applyCommand format tables repo steps request) installation =
      (.ok backup, after)) :
    Settled format tables repo after ↔
      NothingSelected format tables after ∧ ¬ StartsDirect format after := by
  rcases applyCommand_run repo request installation with ⟨-, error, herror⟩ |
    ⟨planned, hplan, happlied⟩
  · rw [hran] at herror
    cases herror
  obtain ⟨hafter, hends⟩ := @applyPlan_run Text format tables steps installation planned
  rw [← happlied, hran] at hafter hends
  obtain ⟨reading⟩ := buildPlan_reads hplan
  -- a successful apply leaves a selection in the file
  have hkept : loadOverrides format tables after.state ≠ .ok none := by
    have hstate := congrArg Installation.state hafter
    rw [show applyLeaves format tables steps installation planned = _ from hends] at hstate
    simp only [Installation.leave] at hstate
    cases hchange : planned.plan.stateChangeRequired with
    | true =>
        rw [hchange, if_pos rfl] at hstate
        rw [hstate]
        simp only [loadOverrides, format.loads_dumps]
        cases validateOverridesValue tables planned.plan.desired.toDict.canonical <;>
          simp [Except.map]
    | false =>
        rw [hchange, if_neg Bool.false_ne_true] at hstate
        have hsame : reading.persisted = some planned.plan.desired := by
          simpa [hchange] using reading.stateChange
        rw [hstate, reading.state, hsame]
        simp
  obtain ⟨documents, hloaded, hinbounds, houtbounds, hlisted⟩ :=
    reading.leaves (applyLeaves format tables steps installation planned)
  rw [show installation.leave format planned _ = after from hafter.symm] at hloaded
  obtain ⟨-, -, hrouting⟩ := loadActiveDocuments_eq_ok.mp hloaded
  constructor
  · intro hsettled
    refine ⟨hsettled.nothingSelected, ?_⟩
    rintro ⟨routing, rules, hread, hrules, hhead⟩
    rcases hsettled with hnone | ⟨persisted, updated, -, hagain⟩
    · exact hkept hnone
    · obtain ⟨others, -, -, rules', -, hothers, -, -, -, hrules', hhead', -⟩ :=
        reconcilePlan_eq_ok.mp hagain
      obtain ⟨-, -, hread'⟩ := loadActiveDocuments_eq_ok.mp hothers
      obtain rfl := Except.ok.inj (hread.symm.trans hread')
      obtain rfl := Except.ok.inj (hrules.symm.trans hrules')
      rw [hhead] at hhead'
      cases hhead'
  · rintro ⟨hnothing, hdirect⟩
    rcases hnothing with hnone | hempty
    · exact absurd hnone hkept
    · have hhead : ∀ rules, routingRules documents.routing = .ok rules →
          directHead rules = false := by
        intro rules hrules
        by_contra hhead
        exact hdirect ⟨documents.routing, rules, hrouting, hrules, by simpa using hhead⟩
      refine .inr ⟨{}, _, hempty, reconcilePlan_eq_ok.mpr
          ⟨documents, reading.inboundTags, [], _, [],
        hloaded, ?_, ?_, rfl, hlisted, hhead _ hlisted, rfl, rfl, rfl⟩⟩
      · rw [hinbounds]
        exact reading.tags
      · rw [houtbounds]
        exact reading.outbound

/-- The hook run again after it succeeded changes nothing exactly where no
selection is kept. After a successful apply it changes nothing exactly where the
selection is empty and no direct rule stands first. -/
theorem reconcile_again_is_noop_iff (format : JsonFormat Text) (tables : TextTables)
    (repo : Repository) (steps : ApplyStep → StepOutcome) (installation after : Installation Text) :
    (∀ changed, runCommand (reconcilePersistedState format tables repo steps) installation =
        (.ok changed, after) →
      ((∀ again, runCommand (reconcilePersistedState format tables repo again) after =
          (.ok false, after)) ↔ NothingSelected format tables installation)) ∧
    (∀ request backup, runCommand (applyCommand format tables repo steps request) installation =
        (.ok backup, after) →
      ((∀ again, runCommand (reconcilePersistedState format tables repo again) after =
          (.ok false, after)) ↔
        NothingSelected format tables after ∧ ¬ StartsDirect format after)) := by
  constructor
  · intro changed hran
    rw [reconcile_noop_iff]
    exact reconcile_again_iff hran
  · intro request backup hran
    rw [reconcile_noop_iff]
    exact reconcile_after_apply_iff hran

end Hook

theorem reconcile_again_is_noop_empty :
    let hook := reconcilePersistedState valueFormat plainTables ⟨[]⟩
    let start := homeInstallation [homeRule] .absent
    let empty := homeInstallation [homeRule] (.text (RoutingOverrides.toDict {}).canonical)
    ((∀ again, runCommand (hook again) start = (.ok false, start)) ↔
        NothingSelected valueFormat plainTables start) ∧
      ((∀ again, runCommand (hook again) empty = (.ok false, empty)) ↔
        NothingSelected valueFormat plainTables empty ∧ ¬ StartsDirect valueFormat empty) :=
  ⟨(reconcile_again_is_noop_iff valueFormat plainTables ⟨[]⟩ (fun _ => .done)
      (homeInstallation [homeRule] .absent) _).1 false (by decide +kernel),
    (reconcile_again_is_noop_iff valueFormat plainTables ⟨[]⟩ (fun _ => .done)
      (homeInstallation [homeRule] .absent) _).2 {} false (by decide +kernel)⟩

/-- The hook run twice over the selection of one domain, and the hook after an
apply that adds the domain: each time it refuses the rule it put there. -/
theorem hook_refuses_own_rule :
    let hook := reconcilePersistedState valueFormat plainTables ⟨[]⟩ (fun _ => .done)
    let add := applyCommand valueFormat plainTables ⟨[]⟩ (fun _ => .done)
      { addDomains := ["example.org"] }
    let selected := homeInstallation [homeRule]
      (.text (RoutingOverrides.toDict { directDomains := ["example.org"] }))
    let restored := runCommand hook selected
    let added := runCommand add (homeInstallation [homeRule] .absent)
    restored.1 = .ok true ∧ added.1 = .ok true ∧
      runCommand hook restored.2 = (.error (.raised foreignRule), restored.2) ∧
      runCommand hook added.2 = (.error (.raised foreignRule), added.2) := by
  decide +kernel

end RouterKit.Routing
