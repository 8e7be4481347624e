import RouterKit.Routing.Acceptance
import RouterKit.Routing.Failures
import RouterKit.Routing.Reconcile

/-!
Runs of applies and hooks, any of which may fail or be killed at any step. An
apply publishes the document long before the selection, so what it leaves half
done has to be accepted by the other half: the rule in front has to be that of
the selection then in the file.
-/

namespace RouterKit.Routing

open RouterKit.Lib RouterKit.Lib.Checked RouterKit.Lib.Programs

/-- An operation with what its steps do, its end included. -/
inductive Operation where
  | apply (request : Mutations) (steps : ApplyStep → StepOutcome)
  | reconcile (steps : ApplyStep → StepOutcome)

section Runs

variable {Text : Type} (format : JsonFormat Text) (tables : TextTables) (repo : Repository)

/-- What an operation leaves. -/
def Operation.leaves (operation : Operation) (installation : Installation Text) :
    Installation Text :=
  match operation with
  | .apply request steps =>
      (runCommand (applyCommand format tables repo steps request) installation).2
  | .reconcile steps =>
      (runCommand (reconcilePersistedState format tables repo steps) installation).2

end Runs

section Safety

variable {Text : Type} {format : JsonFormat Text} {tables : TextTables} {repo : Repository}
  {installation : Installation Text} {request : Mutations} {planned : PlannedRouting}

/-- The files an apply has replaced go with those it has not: the rule it put in
front is that of the selection in the file, or there is no rule to recognize. -/
def LeavesSafe (reading : PlanReading format tables repo installation request planned) :
    Leaves → Prop
  | ⟨false, false⟩ => True
  | ⟨true, true⟩ =>
      NamesServices planned.plan.desired ∧
        (planned.plan.directDomains ≠ [] ∨ directHead reading.rest = false)
  | ⟨false, true⟩ =>
      NamesServices planned.plan.desired ∧
        (planned.plan.directDomains = reading.currentDomains ∨ directHead reading.rules = false)
  | ⟨true, false⟩ =>
      match reading.persisted with
      | some _ =>
          planned.plan.directDomains = reading.currentDomains ∨
            (planned.plan.directDomains = [] ∧ (directHead reading.rest = false ∨
              StartsWithRuleOf reading.inboundTags reading.currentDomains reading.rest))
      | none =>
          IsPack tables repo planned.plan.directDomains ∨
            (planned.plan.directDomains = [] ∧ (directHead reading.rest = false ∨
              ∃ pack, IsPack tables repo pack ∧ FitRule tables pack ∧
                StartsWithRuleOf reading.inboundTags pack reading.rest))

/-- The hook is always safe; an apply is, as far as it gets. -/
def OperationSafe (format : JsonFormat Text) (tables : TextTables) (repo : Repository)
    (installation : Installation Text) : Operation → Prop
  | .reconcile _ => True
  | .apply request steps => ∀ planned,
      ∀ reading : PlanReading format tables repo installation request planned,
        LeavesSafe reading (applyLeaves format tables steps installation planned)

/-- The states of the runs of safe operations. -/
inductive Reached (format : JsonFormat Text) (tables : TextTables) (repo : Repository)
    (start : Installation Text) : Installation Text → Prop where
  | start : Reached format tables repo start start
  | step {installation : Installation Text} (operation : Operation) :
      Reached format tables repo start installation →
      OperationSafe format tables repo installation operation →
      Reached format tables repo start (operation.leaves format tables repo installation)

/-- What is read besides the selection. -/
theorem PlanReading.base
    (reading : PlanReading format tables repo installation request planned) (leaves : Leaves) :
    ∃ documents, ReadableBase format (installation.leave format planned leaves)
      reading.inboundTags planned.ports documents (if leaves.route then
        (reading.managed ++ reading.rest).map Json.canonical else reading.rules) := by
  obtain ⟨documents, hloaded, hinbounds, houtbounds, hlisted⟩ := reading.leaves leaves
  refine ⟨documents, hloaded, ?_, ?_, ?_, hlisted⟩
  · rw [hinbounds]
    exact reading.tags
  · rw [hinbounds]
    exact reading.ports
  · rw [houtbounds]
    exact reading.outbound

/-- The document an apply publishes, read against the rule of a selection. -/
private theorem recognized_published
    (reading : PlanReading format tables repo installation request planned)
    {expected : List (Json String)}
    (h : planned.plan.directDomains ≠ [] ∧ expected = reading.managed ∨
      planned.plan.directDomains = [] ∧ Recognized expected reading.rest) :
    Recognized expected ((reading.managed ++ reading.rest).map Json.canonical) := by
  obtain ⟨hmanaged, -⟩ := reading.managed_eq
  rcases h with ⟨hne, rfl⟩ | ⟨hnil, hrest⟩
  · rw [if_neg hne] at hmanaged
    rw [hmanaged]
    exact StartsWithRuleOf.recognized (StartsWithRuleOf.canonical ⟨_, rfl, rfl⟩)
  · rw [if_pos hnil] at hmanaged
    rw [hmanaged]
    exact hrest.canonical

private theorem accepted_both
    (reading : PlanReading format tables repo installation request planned) {leaves : Leaves}
    (hstate : leaves.state = true) (hnames : NamesServices planned.plan.desired)
    (hrecognized : Recognized reading.managed (if leaves.route then
      (reading.managed ++ reading.rest).map Json.canonical else reading.rules)) :
    Accepted format tables repo (installation.leave format planned leaves) := by
  obtain ⟨documents, hbase⟩ := reading.base leaves
  have hloaded : loadOverrides format tables (installation.leave format planned leaves).state =
      .ok (some planned.plan.desired) := by
    simp only [Installation.leave, hstate, if_true]
    exact reading.desired_loaded hnames
  exact accepted_of_current hbase hloaded rfl reading.desiredNormal reading.desiredExpanded
    reading.managedRule hrecognized

/-- A rule that is recognized when nothing is wanted in front. -/
private theorem recognized_rest
    (reading : PlanReading format tables repo installation request planned)
    (h : directHead reading.rest = false ∨
      StartsWithRuleOf reading.inboundTags reading.currentDomains reading.rest) :
    Recognized reading.expected reading.rest := by
  rcases h with hhead | hstarts
  · exact recognized_of_not_direct hhead
  · have hexpected := reading.expected_eq
    by_cases hnil : reading.currentDomains = []
    · rw [if_pos hnil] at hexpected
      have hrest := reading.restRules
      rw [hexpected] at hrest
      rcases withoutManaged_eq_ok.mp hrest with ⟨hhead, hrules⟩ | ⟨_, _, _, -, -, hfalse, -⟩
      · rw [← hrules] at hhead
        exact recognized_of_not_direct hhead
      · cases hfalse
    · rw [if_neg hnil] at hexpected
      rw [hexpected]
      exact hstarts.recognized

private theorem accepted_route
    (reading : PlanReading format tables repo installation request planned) {leaves : Leaves}
    (hroute : leaves.route = true) (hstate : leaves.state = false)
    (hsafe : LeavesSafe reading ⟨true, false⟩) :
    Accepted format tables repo (installation.leave format planned leaves) := by
  obtain ⟨documents, hbase⟩ := reading.base leaves
  rw [hroute, if_pos rfl] at hbase
  have hloaded : loadOverrides format tables (installation.leave format planned leaves).state =
      .ok reading.persisted := by
    simpa [Installation.leave, hstate] using reading.state
  unfold LeavesSafe at hsafe
  cases hpersisted : reading.persisted with
  | some persisted =>
      simp only [hpersisted] at hsafe
      have hcurrent := reading.current
      rw [hpersisted] at hcurrent hloaded
      obtain ⟨hsame, -⟩ := Prod.mk.inj (Except.ok.inj hcurrent)
      refine accepted_of_current hbase hloaded rfl ?_ ?_ reading.expectedRule ?_
      · exact hsame ▸ reading.currentNormal
      · exact hsame ▸ reading.currentExpanded
      · apply recognized_published
        rcases hsafe with hsame | ⟨hnil, hrest⟩
        · have hexpected : reading.expected = reading.managed := by
            rw [reading.expected_eq, reading.managed_eq.1, hsame]
          by_cases hnil : planned.plan.directDomains = []
          · refine .inr ⟨hnil, recognized_rest reading (.inl ?_)⟩
            have hrest := reading.restRules
            rw [hexpected, reading.managed_eq.1, if_pos hnil] at hrest
            rcases withoutManaged_eq_ok.mp hrest with ⟨hhead, hrules⟩ | ⟨_, _, _, -, -, hfalse, -⟩
            · rw [hrules]
              exact hhead
            · cases hfalse
          · exact .inl ⟨hnil, hexpected⟩
        · exact .inr ⟨hnil, recognized_rest reading hrest⟩
  | none =>
      simp only [hpersisted] at hsafe
      rw [hpersisted] at hloaded
      obtain ⟨hmanaged, hfit⟩ := reading.managed_eq
      rcases hsafe with hpack | ⟨hnil, hhead | ⟨pack, hpack, hfits, hstarts⟩⟩
      · have hne : planned.plan.directDomains ≠ [] := by
          obtain ⟨service, -, hservice⟩ := hpack
          exact (loadServicePack_pack hservice).1
        rw [if_neg hne] at hmanaged
        rw [hmanaged] at hbase
        exact accepted_of_pack hbase hloaded (StartsWithRuleOf.canonical ⟨_, rfl, rfl⟩) hpack hfit
      · rw [if_pos hnil] at hmanaged
        rw [hmanaged] at hbase
        exact accepted_of_not_direct hbase hloaded
            (by rw [List.nil_append, directHead_canonical, hhead])
      · rw [if_pos hnil] at hmanaged
        rw [hmanaged] at hbase
        exact accepted_of_pack hbase hloaded hstarts.canonical hpack hfits

/-- What a safe apply leaves is accepted. -/
theorem accepted_of_leavesSafe (haccepted : Accepted format tables repo installation)
    (reading : PlanReading format tables repo installation request planned) {leaves : Leaves}
    (hsafe : LeavesSafe reading leaves) :
    Accepted format tables repo (installation.leave format planned leaves) := by
  obtain ⟨route, state⟩ := leaves
  cases state with
  | true =>
      cases route with
      | true =>
          obtain ⟨hnames, hwanted⟩ := hsafe
          refine accepted_both reading rfl hnames (recognized_published reading ?_)
          rcases hwanted with hne | hhead
          · exact .inl ⟨hne, rfl⟩
          · by_cases hnil : planned.plan.directDomains = []
            · exact .inr ⟨hnil, recognized_of_not_direct hhead⟩
            · exact .inl ⟨hnil, rfl⟩
      | false =>
          obtain ⟨hnames, hwanted⟩ := hsafe
          refine accepted_both reading rfl hnames ?_
          rw [if_neg Bool.false_ne_true]
          rcases hwanted with hsame | hhead
          · have hexpected : reading.managed = reading.expected := by
              rw [reading.expected_eq, reading.managed_eq.1, hsame]
            rw [hexpected]
            exact ⟨_, reading.restRules⟩
          · exact recognized_of_not_direct hhead
  | false =>
      cases route with
      | true => exact accepted_route reading rfl rfl hsafe
      | false => exact haccepted

/-- The hook takes the selection in the file for the wanted one and leaves its
rule in front. -/
theorem accepted_of_reconcile (haccepted : Accepted format tables repo installation)
    (steps : ApplyStep → StepOutcome) :
    Accepted format tables repo
      (runCommand (reconcilePersistedState format tables repo steps) installation).2 := by
  rcases @reconcile_run Text format tables repo steps installation with ⟨hsame, -⟩ |
    ⟨persisted, updated, hload, hplan, hafter, -⟩
  · rw [hsame]
    exact haccepted
  · obtain ⟨planned, hplanned⟩ := haccepted
    obtain ⟨reading⟩ := buildPlan_reads hplanned
    obtain ⟨documents, inboundTags, domains, rules, managed, hloaded, htags, houtbound, hdomains,
      hrules, hhead, hmanaged, hupdated, -⟩ := reconcilePlan_eq_ok.mp hplan
    obtain rfl := Except.ok.inj (reading.loaded.symm.trans hloaded)
    obtain ⟨hinbounds, houtbounds, -⟩ := loadActiveDocuments_eq_ok.mp hloaded
    have hnormal := (loadOverrides_normal hload).1
    have hbase : ReadableBase format (installation.withRouting (format.dumps updated)) inboundTags
        planned.ports { reading.documents with routing := updated.canonical }
        ((managed ++ rules).map Json.canonical) := by
      refine ⟨loadActiveDocuments_eq_ok.mpr ⟨hinbounds, houtbounds, ?_⟩, htags, reading.ports,
        houtbound, ?_⟩
      · exact readJsonPrivate_dumps _ _
      · rw [hupdated]
        exact routingRules_canonical (routingRules_withRules hrules _)
    rw [hafter]
    refine accepted_of_current hbase hload rfl hnormal hdomains hmanaged ?_
    rw [(managedRules_of_isDomain (hnormal.expanded hdomains) hmanaged).1]
    split
    · exact (recognized_of_not_direct hhead).canonical
    · exact StartsWithRuleOf.recognized (StartsWithRuleOf.canonical ⟨_, rfl, rfl⟩)

theorem accepted_of_operation (haccepted : Accepted format tables repo installation)
    (operation : Operation) (hsafe : OperationSafe format tables repo installation operation) :
    Accepted format tables repo (operation.leaves format tables repo installation) := by
  cases operation with
  | reconcile steps => exact accepted_of_reconcile haccepted steps
  | apply request steps =>
      show Accepted format tables repo
        (runCommand (applyCommand format tables repo steps request) installation).2
      rcases @applyCommand_run Text format tables steps repo request installation with
        ⟨hsame, -⟩ | ⟨planned, hplanned, hran⟩
      · rw [hsame]
        exact haccepted
      · obtain ⟨reading⟩ := buildPlan_reads hplanned
        rw [hran, (applyPlan_run installation planned).1]
        exact accepted_of_leavesSafe haccepted reading (hsafe planned reading)

/-- From an accepted start, every state that safe operations reach is accepted,
however each of them ends. -/
theorem interrupted_runs_accepted (format : JsonFormat Text) (tables : TextTables)
    (repo : Repository) (start after : Installation Text)
    (hstart : Accepted format tables repo start)
    (hreached : Reached format tables repo start after) : Accepted format tables repo after := by
  induction hreached with
  | start => exact hstart
  | step operation _ hsafe ih => exact accepted_of_operation ih operation hsafe

end Safety

/-- An apply that adds a domain. -/
def domainAdded : Installation (Json String) :=
  (Operation.apply { addDomains := ["example.org"] } (fun _ => .done)).leaves valueFormat
    plainTables ⟨[]⟩ (homeInstallation [homeRule] .absent)

def killedAtRestart (step : ApplyStep) : StepOutcome :=
  if step = .restart .forward then .killed true else .done

/-- The apply that takes the domain back is killed behind the published document and
before the selection. -/
def removalCut : Installation (Json String) :=
  (Operation.apply { removeDomains := ["example.org"] } killedAtRestart).leaves valueFormat
    plainTables ⟨[]⟩ domainAdded

private theorem domainAdded_safe : OperationSafe valueFormat plainTables ⟨[]⟩
    (homeInstallation [homeRule] .absent)
    (.apply { addDomains := ["example.org"] } fun _ => .done) := by
  intro planned reading
  have hplan : buildPlan valueFormat plainTables ⟨[]⟩ (homeInstallation [homeRule] .absent)
      { addDomains := ["example.org"] } = .ok addedPlan := by decide +kernel
  obtain rfl : planned = addedPlan := Except.ok.inj (reading.buildPlan_eq.symm.trans hplan)
  have hleaves : applyLeaves valueFormat plainTables (fun _ => .done)
      (homeInstallation [homeRule] .absent) addedPlan = ⟨true, true⟩ := by decide +kernel
  rw [hleaves]
  refine ⟨?_, .inl (by decide)⟩
  intro name hmem
  cases hmem

/-- No rule is left in front, and the one the selection asks for was the managed one. -/
private theorem removalCut_safe : OperationSafe valueFormat plainTables ⟨[]⟩ domainAdded
    (.apply { removeDomains := ["example.org"] } killedAtRestart) := by
  intro planned reading
  have hany : (buildPlan valueFormat plainTables ⟨[]⟩ domainAdded
      { removeDomains := ["example.org"] }).toOption.any (fun planned =>
        planned.plan.directDomains = [] &&
          planned.plan.current = { directDomains := ["example.org"] } &&
          applyLeaves valueFormat plainTables killedAtRestart domainAdded planned =
            ⟨true, false⟩) = true := by decide +kernel
  rw [reading.buildPlan_eq] at hany
  simp only [Except.toOption, Option.any_some, Bool.and_eq_true, decide_eq_true_eq] at hany
  obtain ⟨⟨hnone, hcurrent⟩, hleaves⟩ := hany
  have hrest : (do
      let documents ← loadActiveDocuments valueFormat domainAdded
      let inboundTags ← extractRouterkitInbounds documents.inbounds
      let currentDomains ←
        expandDirectDomains plainTables ⟨[]⟩ { directDomains := ["example.org"] }
      let rules ← routingRules documents.routing
      let expected ← managedRules plainTables inboundTags currentDomains
      let rest ← withoutManaged expected rules
      pure (directHead rest) : Except RoutingError Bool) = .ok false := by decide +kernel
  have hexpanded := reading.currentExpanded
  rw [hcurrent] at hexpanded
  rw [reading.loaded, bind_ok_left, reading.tags, bind_ok_left, hexpanded, bind_ok_left,
    reading.listed, bind_ok_left, reading.expectedRule, bind_ok_left, reading.restRules,
    bind_ok_left] at hrest
  rw [hleaves]
  simp only [LeavesSafe]
  split
  · exact .inr ⟨hnone, .inl (pure_eq_ok.mp hrest)⟩
  · exact .inr ⟨hnone, .inl (pure_eq_ok.mp hrest)⟩

theorem completed_apply_is_accepted :
    removalCut.routing ≠ domainAdded.routing ∧ removalCut.state = domainAdded.state ∧
      Accepted valueFormat plainTables ⟨[]⟩
        ((Operation.reconcile (fun _ => .done)).leaves valueFormat plainTables ⟨[]⟩
          removalCut) := by
  refine ⟨by decide +kernel, by decide +kernel, ?_⟩
  refine interrupted_runs_accepted valueFormat plainTables ⟨[]⟩
    (homeInstallation [homeRule] .absent) _ ?_
    (.step _ (.step _ (.step _ .start domainAdded_safe) removalCut_safe) trivial)
  cases hempty : buildPlan valueFormat plainTables ⟨[]⟩
      (homeInstallation [homeRule] .absent) {} with
  | ok planned => exact ⟨planned, hempty⟩
  | error error =>
      have hok : (buildPlan valueFormat plainTables ⟨[]⟩ (homeInstallation [homeRule] .absent)
        {}).isOk = true := by decide +kernel
      rw [hempty] at hok
      cases hok

/-- An apply that adds the first domain is killed by the restart: the plan that
follows takes its rule for a foreign one. -/
theorem killed_apply_locks_out :
    let steps : ApplyStep → StepOutcome :=
      fun step => if step = .restart .forward then .killed true else .done
    let start := homeInstallation [homeRule] .absent
    let left := (Operation.apply { addDomains := ["example.org"] } steps).leaves valueFormat
      plainTables ⟨[]⟩ start
    (buildPlan valueFormat plainTables ⟨[]⟩ start {}).isOk = true ∧
      buildPlan valueFormat plainTables ⟨[]⟩ left {} = .error unmanagedRule := by
  decide +kernel

end RouterKit.Routing
