import RouterKit.Routing.Canonical
import RouterKit.Routing.Installation

/-!
What a plan has read and found when it comes about: the documents, the selection
in the file, the rules behind the managed one, and the rule to put there.
-/

namespace RouterKit.Routing

open RouterKit.Lib RouterKit.Lib.Checked

section Plans

variable {Text : Type} {format : JsonFormat Text} {tables : TextTables} {repo : Repository}
  {installation : Installation Text}

/-- The readings behind a plan. `current` is the selection it starts from,
`expected` the rule of that selection and `managed` that of the desired one. -/
structure PlanReading (format : JsonFormat Text) (tables : TextTables) (repo : Repository)
    (installation : Installation Text) (request : Mutations) (planned : PlannedRouting) where
  documents : ActiveDocuments
  inboundTags : List String
  persisted : Option RoutingOverrides
  currentDomains : List String
  rules : List (Json String)
  expected : List (Json String)
  rest : List (Json String)
  managed : List (Json String)
  loaded : loadActiveDocuments format installation = .ok documents
  tags : extractRouterkitInbounds documents.inbounds = .ok inboundTags
  ports : extractRouterkitPorts documents.inbounds = .ok planned.ports
  outbound : validateDirectOutbound documents.outbounds = .ok ()
  state : loadOverrides format tables installation.state = .ok persisted
  current : currentOverrides tables repo persisted documents.routing inboundTags =
    .ok (planned.plan.current, planned.plan.inferredExistingState)
  currentExpanded : expandDirectDomains tables repo planned.plan.current = .ok currentDomains
  desired : mutateOverrides tables repo planned.plan.current request = .ok planned.plan.desired
  desiredExpanded : expandDirectDomains tables repo planned.plan.desired =
    .ok planned.plan.directDomains
  listed : routingRules documents.routing = .ok rules
  expectedRule : managedRules tables inboundTags currentDomains = .ok expected
  restRules : withoutManaged expected rules = .ok rest
  managedRule : managedRules tables inboundTags planned.plan.directDomains = .ok managed
  updated : planned.updated = withRules documents.routing (managed ++ rest)
  routingChange : planned.plan.routingChangeRequired =
    decide ((managed ++ rest).map Json.canonical ≠ rules.map Json.canonical)
  stateChange : planned.plan.stateChangeRequired = decide (persisted ≠ some planned.plan.desired)

theorem buildPlan_reads {request : Mutations} {planned : PlannedRouting}
    (h : buildPlan format tables repo installation request = .ok planned) :
    Nonempty (PlanReading format tables repo installation request planned) := by
  simp only [buildPlan, planFrom, bind_eq_ok, exists_unit, pure_eq_ok] at h
  obtain ⟨documents, hloaded, inboundTags, htags, ports, hports, houtbound, persisted, hstate,
    ⟨current, inferred⟩, hcurrent, currentDomains, hcurrentExpanded, desired, hdesired,
    desiredDomains, hdesiredExpanded, ⟨updated, changed⟩,
    hrewritten, rfl⟩ := h
  obtain ⟨rules, expected, rest, managed, hlisted, hexpected, hrest, hmanaged,
      hupdated, hchanged⟩ :=
    reconcileRoutingDocument_eq_ok.mp hrewritten
  exact ⟨{
    documents, inboundTags, persisted, currentDomains, rules, expected, rest, managed
    loaded := hloaded
    tags := htags
    ports := hports
    outbound := houtbound
    state := hstate
    current := hcurrent
    currentExpanded := hcurrentExpanded
    desired := hdesired
    desiredExpanded := hdesiredExpanded
    listed := hlisted
    expectedRule := hexpected
    restRules := hrest
    managedRule := hmanaged
    updated := hupdated
    routingChange := hchanged
    stateChange := rfl }⟩

theorem PlanReading.buildPlan_eq {request : Mutations} {planned : PlannedRouting}
    (reading : PlanReading format tables repo installation request planned) :
    buildPlan format tables repo installation request = .ok planned := by
  have hrewritten := reconcileRoutingDocument_eq_ok.mpr
    ⟨_, _, _, _, reading.listed, reading.expectedRule, reading.restRules, reading.managedRule, rfl,
      rfl⟩
  rw [← reading.updated, ← reading.routingChange] at hrewritten
  simp only [buildPlan, planFrom, reading.loaded, reading.tags, reading.ports, reading.outbound,
    reading.state, reading.current, reading.currentExpanded, reading.desired,
    reading.desiredExpanded, hrewritten, ← reading.stateChange, bind_ok_left]
  rfl

theorem loadActiveDocuments_eq_ok {documents : ActiveDocuments} :
    loadActiveDocuments format installation = .ok documents ↔
      readJsonPrivate format installation.inbounds "Xray inbound configuration" =
          .ok documents.inbounds ∧
        readJsonPrivate format installation.outbounds "Xray outbound configuration" =
          .ok documents.outbounds ∧
        readJsonPrivate format installation.routing "Xray routing configuration" =
          .ok documents.routing := by
  simp only [loadActiveDocuments, bind_eq_ok, pure_eq_ok]
  constructor
  · rintro ⟨inbounds, hinbounds, outbounds, houtbounds, routing, hrouting, rfl⟩
    exact ⟨hinbounds, houtbounds, hrouting⟩
  · rintro ⟨hinbounds, houtbounds, hrouting⟩
    exact ⟨_, hinbounds, _, houtbounds, _, hrouting, rfl⟩

theorem readJsonPrivate_dumps (value : Json String) (description : String) :
    readJsonPrivate format (.text (format.dumps value)) description = .ok value.canonical := by
  simp only [readJsonPrivate, format.loads_dumps]

end Plans

end RouterKit.Routing
