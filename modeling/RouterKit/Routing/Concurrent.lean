import RouterKit.Lib.Interleaving
import RouterKit.Routing.Publication
import RouterKit.Routing.Acceptance

/-!
Apply commands side by side on one installation. No lock is taken: each command
reads, plans, and publishes the document and the selection later, and the checks
of a file's identity cover the publication alone. An invocation acts here in the
atomic steps of its reads, checks and renames; one that raises is followed no further.
-/

namespace RouterKit.Routing

open RouterKit.Lib RouterKit.Lib.Checked RouterKit.Lib.Interleaving

/-- The files, with the identity of the two that are replaced. -/
structure SharedFiles (Text : Type) where
  installation : Installation Text
  routingIdentity : Nat
  stateIdentity : Nat
deriving DecidableEq

/-- How far an apply has come with its plan. -/
inductive Stage where
  | planned
  | prepared
  /-- `old_meta` of `_safe_atomic_replace`. -/
  | marked (identity : Nat)
  | checked
  | published
  | activated
  /-- `existing` of `write_private_bytes_atomic`. -/
  | vetted (identity : Nat)
  | confirmed
  | passed
deriving DecidableEq, Repr

/-- `seen` is what the plan is made from: the files as they were when each was read. -/
inductive Progress (Text : Type) where
  | started
  | loaded (seen : Installation Text)
  | applying (seen : Installation Text) (planned : PlannedRouting) (stage : Stage)
deriving DecidableEq

section Acting

variable {Text : Type} (format : JsonFormat Text) (tables : TextTables) (repo : Repository)

def SharedFiles.replaceRouting (files : SharedFiles Text) (content : Text) : SharedFiles Text :=
  { files with
    installation := files.installation.withRouting content
    routingIdentity := files.routingIdentity + 1 }

def SharedFiles.replaceState (files : SharedFiles Text) (content : Text) : SharedFiles Text :=
  { files with
    installation := files.installation.withState content
    stateIdentity := files.stateIdentity + 1 }

/-- One atomic step of `apply_plan`, every step of it that returns. -/
def Stage.next (planned : PlannedRouting) (files : SharedFiles Text) :
    Stage → Option (Stage × SharedFiles Text)
  | .planned =>
      if (readableRoute files.installation).isNone then none
      else if planned.plan.routingChangeRequired then some (.prepared, files)
      else some (.activated, files)
  | .prepared =>
      if maxConfigBytes < format.size (format.dumps planned.updated) then none
      else some (.marked files.routingIdentity, files)
  | .marked identity =>
      if files.routingIdentity = identity then some (.checked, files) else none
  | .checked => some (.published, files.replaceRouting (format.dumps planned.updated))
  | .published => some (.activated, files)
  | .activated =>
      if planned.plan.stateChangeRequired then
        if stateWritable format tables files.installation.state planned.plan.desired then
          some (.vetted files.stateIdentity, files)
        else none
      else some (.passed, files)
  | .vetted identity =>
      if files.stateIdentity = identity then some (.confirmed, files) else none
  | .confirmed =>
      some (.passed, files.replaceState (format.dumps planned.plan.desired.toDict))
  | .passed => none

/-- One atomic step of the `apply` command: `load_active_documents`, then
`load_overrides` with the rest of `build_plan`, then `apply_plan`. -/
def applyAction (request : Mutations) (progress : Progress Text) (files : SharedFiles Text) :
    Option (Progress Text × SharedFiles Text) :=
  match progress with
  | .started =>
      if (loadActiveDocuments format files.installation).isOk then
        some (.loaded files.installation, files)
      else none
  | .loaded documents =>
      let seen := { documents with state := files.installation.state }
      match buildPlan format tables repo seen request with
      | .ok planned => some (.applying seen planned .planned, files)
      | .error _ => none
  | .applying seen planned stage =>
      (stage.next format tables planned files).map
        fun result => (.applying seen planned result.1, result.2)

/-- Apply commands, each with its own request. -/
def applyActions {Invocation : Type} (requests : Invocation → Mutations) :
    Action Invocation (Progress Text) (SharedFiles Text) :=
  fun invocation => applyAction format tables repo (requests invocation)

/-- All of them before their first step. -/
def allStarted (Invocation : Type) (installation : Installation Text) :
    System Invocation (Progress Text) (SharedFiles Text) where
  progress := fun _ => .started
  shared := ⟨installation, 0, 0⟩

/-- The command reports `PASS`. -/
def Passed : Progress Text → Prop
  | .applying _ _ .passed => True
  | _ => False

instance (progress : Progress Text) : Decidable (Passed progress) := by
  unfold Passed
  split <;> infer_instance

/-- A command that is about to replace a file finds both files as its plan was
made from, its own document aside, and wants names in normal form. -/
def Fresh : Progress Text → SharedFiles Text → Prop
  | .applying seen _ .checked, files =>
      files.installation.routing = seen.routing ∧ files.installation.state = seen.state
  | .applying seen planned .confirmed, files =>
      files.installation.state = seen.state ∧
        files.installation.routing =
          (if planned.plan.routingChangeRequired then .text (format.dumps planned.updated)
            else seen.routing) ∧
        NamesServices planned.plan.desired
  | _, _ => True

instance (overrides : RoutingOverrides) : Decidable (NamesServices overrides) :=
  inferInstanceAs (Decidable (∀ name ∈ overrides.directServices, IsServiceName name.toList))

instance (progress : Progress Text) (files : SharedFiles Text) [DecidableEq Text] :
    Decidable (Fresh format progress files) := by
  unfold Fresh
  split <;> infer_instance

end Acting

section Requests

variable (tables : TextTables) (request : Mutations)

/-- The normal forms of some names. -/
def normalForms (normalize : String → Except RoutingError String) (values : List String) :
    Set String :=
  {name | ∃ value ∈ values, normalize value = .ok name}

def Mutations.servicesAdded : Set String :=
  normalForms (normalizeServiceName tables) request.addServices

def Mutations.servicesRemoved : Set String :=
  normalForms (normalizeServiceName tables) request.removeServices

def Mutations.domainsAdded : Set String :=
  normalForms (normalizeDomainSuffix tables) request.addDomains

def Mutations.domainsRemoved : Set String :=
  normalForms (normalizeDomainSuffix tables) request.removeDomains

/-- A selection keeps the request of one invocation: what it adds is there, and
what it removes is not, unless another invocation asks for the contrary. -/
structure KeepsRequest {Invocation : Type} (requests : Invocation → Mutations)
    (invocation : Invocation) (overrides : RoutingOverrides) : Prop where
  services : Keeps (fun i => (requests i).servicesAdded tables)
    (fun i => (requests i).servicesRemoved tables) invocation
        {name | name ∈ overrides.directServices}
  domains : Keeps (fun i => (requests i).domainsAdded tables)
    (fun i => (requests i).domainsRemoved tables) invocation {name | name ∈ overrides.directDomains}

variable {tables} {request} {repo : Repository} {current desired : RoutingOverrides}

theorem mem_of_mapEach_iff {normalize : String → Except RoutingError String}
    {values names : List String} (h : mapEach normalize values = .ok names) :
    {name | name ∈ names} = normalForms normalize values := by
  ext name
  constructor
  · intro hmem
    exact mem_of_mapEach h hmem
  · rintro ⟨value, hvalue, hname⟩
    obtain ⟨other, hmem, hother⟩ := exists_of_mapEach h hvalue
    rw [hname] at hother
    exact Except.ok.inj hother ▸ hmem

/-- A request makes of both lists what it adds to them without what it removes. -/
theorem mutateOverrides_sets (h : mutateOverrides tables repo current request = .ok desired) :
    {name | name ∈ desired.directServices} =
        ({name | name ∈ current.directServices} ∪ request.servicesAdded tables) \
          request.servicesRemoved tables ∧
      {name | name ∈ desired.directDomains} =
        ({name | name ∈ current.directDomains} ∪ request.domainsAdded tables) \
          request.domainsRemoved tables := by
  simp only [mutateOverrides, bind_eq_ok, exists_unit, raiseIf_eq_ok, pure_eq_ok] at h
  obtain ⟨addedServices, haddedServices, removedServices, hremovedServices, addedDomains,
    haddedDomains, removedDomains, hremovedDomains, -, rfl⟩ := h
  have hservices : mapEach (normalizeServiceName tables) request.addServices =
      .ok addedServices := by
    refine mapEach_eq_ok.mpr ((mapEach_eq_ok.mp haddedServices).imp fun value name hname => ?_)
    simp only [addableService, bind_eq_ok, pure_eq_ok] at hname
    obtain ⟨_, hname, -, -, rfl⟩ := hname
    exact hname
  unfold Mutations.servicesAdded Mutations.servicesRemoved Mutations.domainsAdded
    Mutations.domainsRemoved
  rw [← mem_of_mapEach_iff hservices, ← mem_of_mapEach_iff hremovedServices,
    ← mem_of_mapEach_iff haddedDomains, ← mem_of_mapEach_iff hremovedDomains]
  constructor <;> ext name <;>
    simp only [Set.mem_ofPred_eq, mem_sortedSet, List.mem_filter, List.mem_append,
        decide_eq_true_eq,
      Set.mem_sdiff, Set.mem_union]

end Requests

section Keeping

variable {Invocation : Type} {tables : TextTables} {repo : Repository}
  {requests : Invocation → Mutations} {invocation : Invocation}
  {current desired overrides : RoutingOverrides}

theorem keepsRequest_own
    (h : mutateOverrides tables repo current (requests invocation) = .ok desired) :
    KeepsRequest tables requests invocation desired := by
  obtain ⟨hservices, hdomains⟩ := mutateOverrides_sets h
  constructor
  · rw [hservices]
    exact keeps_own _
  · rw [hdomains]
    exact keeps_own _

theorem KeepsRequest.other (h : KeepsRequest tables requests invocation current)
    {other : Invocation} (hother : other ≠ invocation)
    (hdesired : mutateOverrides tables repo current (requests other) = .ok desired) :
    KeepsRequest tables requests invocation desired := by
  obtain ⟨hservices, hdomains⟩ := mutateOverrides_sets hdesired
  constructor
  · rw [hservices]
    exact h.services.other hother
  · rw [hdomains]
    exact h.domains.other hother

end Keeping

section Runs

variable {Text : Type} {format : JsonFormat Text} {tables : TextTables} {repo : Repository}
  {request : Mutations} {progress : Progress Text} {files : SharedFiles Text}
  {result : Progress Text × SharedFiles Text}

/-- What an action may do to the files: nothing, publish its document, or write
its selection. -/
theorem applyAction_writes
    (h : applyAction format tables repo request progress files = some result) :
    result.2 = files ∨
      (∃ seen planned, progress = .applying seen planned .checked ∧
        result = (.applying seen planned .published,
          files.replaceRouting (format.dumps planned.updated))) ∨
      ∃ seen planned, progress = .applying seen planned .confirmed ∧
        result = (.applying seen planned .passed,
          files.replaceState (format.dumps planned.plan.desired.toDict)) := by
  cases progress with
  | started =>
      simp only [applyAction] at h
      split at h
      · cases h
        exact .inl rfl
      · cases h
  | loaded documents =>
      simp only [applyAction] at h
      split at h
      · cases h
        exact .inl rfl
      · cases h
  | applying seen planned stage =>
      obtain ⟨⟨stage', files'⟩, hnext, rfl⟩ := Option.map_eq_some_iff.mp h
      cases stage with
      | checked =>
          cases hnext
          exact .inr (.inl ⟨seen, planned, rfl, rfl⟩)
      | confirmed =>
          cases hnext
          exact .inr (.inr ⟨seen, planned, rfl, rfl⟩)
      | _ =>
          left
          simp only [Stage.next] at hnext
          grind

/-- A plan that needs no new selection is for a file that holds the wanted one. -/
theorem loaded_of_unchanged {seen : Installation Text} {planned : PlannedRouting}
    (h : buildPlan format tables repo seen request = .ok planned)
    (hstate : planned.plan.stateChangeRequired = false) :
    loadOverrides format tables seen.state = .ok (some planned.plan.desired) := by
  obtain ⟨reading⟩ := buildPlan_reads h
  have hsame := reading.stateChange
  rw [hstate, eq_comm, decide_eq_false_iff_not, not_not] at hsame
  rw [reading.state, hsame]

theorem current_of_loaded {seen : Installation Text} {planned : PlannedRouting}
    {overrides : RoutingOverrides} (h : buildPlan format tables repo seen request = .ok planned)
    (hloaded : loadOverrides format tables seen.state = .ok (some overrides)) :
    planned.plan.current = overrides := by
  obtain ⟨reading⟩ := buildPlan_reads h
  have hpersisted := Except.ok.inj (reading.state.symm.trans hloaded)
  have hcurrent := reading.current
  rw [hpersisted] at hcurrent
  exact (Prod.mk.inj (Except.ok.inj hcurrent)).1.symm

variable {Invocation : Type} {requests : Invocation → Mutations} {invocation : Invocation}

/-- An invocation with a plan, and once the selection in the file is not for it
to write any more, the file keeps its request. -/
def PlanKept (format : JsonFormat Text) (tables : TextTables) (repo : Repository)
    (requests : Invocation → Mutations) (invocation : Invocation) :
    Progress Text → SharedFiles Text → Prop
  | .applying seen planned stage, files =>
      buildPlan format tables repo seen (requests invocation) = .ok planned ∧
        (stage = .passed ∨ planned.plan.stateChangeRequired = false →
          ∃ overrides, loadOverrides format tables files.installation.state =
              .ok (some overrides) ∧ KeepsRequest tables requests invocation overrides)
  | _, _ => True

private theorem planKept_of_writing {seen : Installation Text} {planned : PlannedRouting}
    (hplan : buildPlan format tables repo seen (requests invocation) = .ok planned)
    (hnames : NamesServices planned.plan.desired) :
    loadOverrides format tables (files.replaceState
        (format.dumps planned.plan.desired.toDict)).installation.state =
          .ok (some planned.plan.desired) ∧
      KeepsRequest tables requests invocation planned.plan.desired := by
  obtain ⟨reading⟩ := buildPlan_reads hplan
  exact ⟨reading.desired_loaded hnames, keepsRequest_own reading.desired⟩

theorem planKept_own (h : PlanKept format tables repo requests invocation progress files)
    (hfresh : Fresh format progress files)
    (haction : applyAction format tables repo (requests invocation) progress files = some result) :
    PlanKept format tables repo requests invocation result.1 result.2 := by
  rcases applyAction_writes haction with
    hfiles | ⟨seen, planned, rfl, rfl⟩ | ⟨seen, planned, rfl, rfl⟩
  · cases progress with
    | started =>
        simp only [applyAction] at haction
        split at haction
        · cases haction
          trivial
        · cases haction
    | loaded documents =>
        simp only [applyAction] at haction
        split at haction
        · next planned hplan =>
          cases haction
          refine ⟨hplan, fun hsettled => ?_⟩
          have hstate := hsettled.resolve_left (by simp)
          obtain ⟨reading⟩ := buildPlan_reads hplan
          have hloaded := loaded_of_unchanged hplan hstate
          exact ⟨_, hloaded, keepsRequest_own reading.desired⟩
        · cases haction
    | applying seen planned stage =>
        obtain ⟨⟨stage', files'⟩, hnext, rfl⟩ := Option.map_eq_some_iff.mp haction
        obtain rfl : files' = files := hfiles
        refine ⟨h.1, fun hsettled => h.2 (.inr ?_)⟩
        rcases hsettled with rfl | hstate
        · -- without a new selection only: writing one changes the files
          cases stage <;> simp only [Stage.next] at hnext <;>
            grind [SharedFiles.replaceState]
        · exact hstate
  · exact ⟨h.1, fun hsettled => h.2 (.inr (hsettled.resolve_left (by simp)))⟩
  · exact ⟨h.1, fun _ => ⟨_, planKept_of_writing h.1 hfresh.2.2⟩⟩

theorem planKept_other {other : Invocation} (hother : other ≠ invocation)
    {progress' : Progress Text}
    (h : PlanKept format tables repo requests invocation progress files)
    (hplan : PlanKept format tables repo requests other progress' files)
    (hfresh : Fresh format progress' files)
    (haction : applyAction format tables repo (requests other) progress' files = some result) :
    PlanKept format tables repo requests invocation progress result.2 := by
  cases progress with
  | started => trivial
  | loaded documents => trivial
  | applying seen planned stage =>
      refine ⟨h.1, fun hsettled => ?_⟩
      obtain ⟨overrides, hloaded, hkeeps⟩ := h.2 hsettled
      rcases applyAction_writes haction with
        hfiles | ⟨seen', planned', rfl, rfl⟩ | ⟨seen', planned', rfl, rfl⟩
      · exact ⟨overrides, by rw [hfiles]; exact hloaded, hkeeps⟩
      · exact ⟨overrides, hloaded, hkeeps⟩
      · -- the other has planned from the selection that keeps the request
        obtain ⟨hseen, -, hnames⟩ := hfresh
        have hcurrent := current_of_loaded hplan.1 (hseen ▸ hloaded)
        obtain ⟨reading⟩ := buildPlan_reads hplan.1
        have hdesired := reading.desired
        rw [hcurrent] at hdesired
        exact ⟨_, (planKept_of_writing hplan.1 hnames).1, hkeeps.other hother hdesired⟩

/-- The rule of these domains stands first, if there are any. -/
def RoutesFirst (inboundTags domains : List String) (rules : List (Json String)) : Prop :=
  ∃ rest, rules.map Json.canonical =
    ((if domains = [] then [] else [directRuleJson inboundTags domains]) ++ rest).map Json.canonical

/-- The files show a plan: its selection, and a document that compares equal to
its own and has the rule of the selection first. -/
structure Shown (format : JsonFormat Text) (tables : TextTables) (files : SharedFiles Text)
    (planned : PlannedRouting) : Prop where
  selection : loadOverrides format tables files.installation.state = .ok (some planned.plan.desired)
  document : ∃ value rules inboundTags,
    readJsonPrivate format files.installation.routing "Xray routing configuration" = .ok value ∧
      SameValue value planned.updated ∧ routingRules value = .ok rules ∧
      RoutesFirst inboundTags planned.plan.directDomains rules

/-- A selection is still to be written. -/
def WritesLater : Progress Text → Prop
  | .applying _ planned stage =>
      planned.plan.stateChangeRequired = true ∧
        match stage with
        | .published | .activated | .vetted _ | .confirmed => True
        | _ => False
  | _ => False

/-- What has been read is still so, and nothing has been written. -/
def Untouched : Progress Text → SharedFiles Text → Prop
  | .started, _ => True
  | .loaded seen, files => seen.routing = files.installation.routing
  | .applying seen planned stage, files =>
      seen.routing = files.installation.routing ∧ seen.state = files.installation.state ∧
        match stage with
        | .published => False
        | .activated | .vetted _ | .confirmed => planned.plan.routingChangeRequired = false
        | .passed => planned.plan.routingChangeRequired = false ∧
            planned.plan.stateChangeRequired = false
        | _ => True

/-- The files show the plan of an invocation, or a selection is still to be
written, or nothing has been written. -/
def Together (format : JsonFormat Text) (tables : TextTables)
    (system : System Invocation (Progress Text) (SharedFiles Text)) : Prop :=
  (∃ invocation seen planned stage, system.progress invocation = .applying seen planned stage ∧
      Shown format tables system.shared planned) ∨
    (∃ invocation, WritesLater (system.progress invocation)) ∨
    ∀ invocation, Untouched (system.progress invocation) system.shared

theorem shown_of_published {seen : Installation Text} {planned : PlannedRouting}
    (hplan : buildPlan format tables repo seen request = .ok planned)
    (hselection : loadOverrides format tables files.installation.state =
      .ok (some planned.plan.desired))
    (hrouting : files.installation.routing = .text (format.dumps planned.updated)) :
    Shown format tables files planned := by
  obtain ⟨reading⟩ := buildPlan_reads hplan
  refine ⟨hselection, planned.updated.canonical,
      (reading.managed ++ reading.rest).map Json.canonical,
    reading.inboundTags, ?_, sameValue_canonical rfl, ?_, reading.rest, ?_⟩
  · rw [hrouting]
    exact readJsonPrivate_dumps _ _
  · rw [reading.updated]
    exact routingRules_canonical (routingRules_withRules reading.listed _)
  · rw [← reading.managed_eq.1, List.map_map]
    apply List.map_congr_left
    intro rule _
    simp only [Function.comp_apply, Json.canonical_eq_sortKeys, Json.sortKeys_sortKeys]

theorem shown_of_documented {seen : Installation Text} {planned : PlannedRouting}
    (hplan : buildPlan format tables repo seen request = .ok planned)
    (hselection : loadOverrides format tables files.installation.state =
      .ok (some planned.plan.desired))
    (hrouting : files.installation.routing =
      if planned.plan.routingChangeRequired then .text (format.dumps planned.updated)
      else seen.routing) : Shown format tables files planned := by
  cases hchange : planned.plan.routingChangeRequired with
  | true =>
      rw [hchange, if_pos rfl] at hrouting
      exact shown_of_published hplan hselection hrouting
  | false =>
      rw [hchange, if_neg (by decide)] at hrouting
      obtain ⟨reading⟩ := buildPlan_reads hplan
      have hsame := reading.routingChange
      rw [hchange, eq_comm, decide_eq_false_iff_not, not_not] at hsame
      refine ⟨hselection, reading.documents.routing, reading.rules, reading.inboundTags, ?_, ?_,
        reading.listed, reading.rest, ?_⟩
      · rw [hrouting]
        exact (loadActiveDocuments_eq_ok.mp reading.loaded).2.2
      · rw [reading.updated]
        exact ((sameValue_withRules_iff reading.listed _).mpr hsame).symm
      · rw [← reading.managed_eq.1, hsame]

/-- An action that writes nothing leaves an invocation with its plan and what it
has still to write. -/
private theorem quiet_action
    (haction : applyAction format tables repo request progress files = some result)
    (hquiet : result.2 = files) :
    (∀ seen planned stage, progress = .applying seen planned stage →
      ∃ stage', result.1 = .applying seen planned stage') ∧
      (WritesLater progress → WritesLater result.1) ∧
      (Untouched progress files → Untouched result.1 files) := by
  cases progress with
  | started =>
      simp only [applyAction] at haction
      split at haction
      · cases haction
        exact ⟨by simp, fun h => h.elim, fun _ => rfl⟩
      · cases haction
  | loaded documents =>
      simp only [applyAction] at haction
      split at haction
      · cases haction
        exact ⟨by simp, fun h => h.elim, fun h => ⟨h, rfl, trivial⟩⟩
      · cases haction
  | applying seen planned stage =>
      obtain ⟨⟨stage', files'⟩, hnext, rfl⟩ := Option.map_eq_some_iff.mp haction
      obtain rfl : files' = files := hquiet
      refine ⟨by simp, ?_, ?_⟩
      · rintro ⟨hstate, hstage⟩
        refine ⟨hstate, ?_⟩
        cases stage <;> simp only [Stage.next] at hnext <;> grind [SharedFiles.replaceState]
      · rintro ⟨hrouting, hstate, hstage⟩
        refine ⟨hrouting, hstate, ?_⟩
        cases stage <;> simp only [Stage.next] at hnext <;>
          grind [SharedFiles.replaceState, SharedFiles.replaceRouting]

variable [DecidableEq Invocation] {system : System Invocation (Progress Text) (SharedFiles Text)}

private theorem together_act (h : Together format tables system)
    (hplan : PlanKept format tables repo requests invocation (system.progress invocation)
      system.shared)
    (hfresh : Fresh format (system.progress invocation) system.shared)
    (haction : applyAction format tables repo (requests invocation) (system.progress invocation)
      system.shared = some result) :
    Together format tables (system.after invocation result) := by
  rcases applyAction_writes haction with
    hquiet | ⟨seen, planned, hprogress, rfl⟩ | ⟨seen, planned, hprogress, rfl⟩
  · obtain ⟨hkeeps, hlater, huntouched⟩ := quiet_action haction hquiet
    rcases h with ⟨other, seen, planned, stage, hother, hshown⟩ | ⟨other, hother⟩ | hall
    · left
      have hshown' : Shown format tables (system.after invocation result).shared planned := by
        rw [System.after_shared, hquiet]
        exact hshown
      by_cases hsame : other = invocation
      · subst hsame
        obtain ⟨stage', hstage⟩ := hkeeps seen planned stage hother
        exact ⟨other, seen, planned, stage', by rw [System.after_progress_self, hstage], hshown'⟩
      · exact ⟨other, seen, planned, stage, by rw [System.after_progress_of_ne hsame, hother],
          hshown'⟩
    · right
      left
      by_cases hsame : other = invocation
      · subst hsame
        exact ⟨other, by rw [System.after_progress_self]; exact hlater hother⟩
      · exact ⟨other, by rw [System.after_progress_of_ne hsame]; exact hother⟩
    · right
      right
      intro other
      rw [System.after_shared, hquiet]
      by_cases hsame : other = invocation
      · subst hsame
        rw [System.after_progress_self]
        exact huntouched (hall other)
      · rw [System.after_progress_of_ne hsame]
        exact hall other
  · rw [hprogress] at hplan hfresh
    obtain ⟨hrouting, hstate⟩ := hfresh
    cases hchange : planned.plan.stateChangeRequired with
    | true =>
        right
        left
        exact ⟨invocation, by rw [System.after_progress_self]; exact ⟨hchange, trivial⟩⟩
    | false =>
        left
        refine ⟨invocation, seen, planned, .published, by rw [System.after_progress_self], ?_⟩
        have hselection := loaded_of_unchanged hplan.1 hchange
        rw [← hstate] at hselection
        exact shown_of_published hplan.1 hselection rfl
  · rw [hprogress] at hplan hfresh
    left
    refine ⟨invocation, seen, planned, .passed, by rw [System.after_progress_self], ?_⟩
    exact shown_of_documented hplan.1 (planKept_of_writing hplan.1 hfresh.2.2).1 hfresh.2.1

variable {installation : Installation Text}

private theorem planKept_of_run
    (h : Run (applyActions format tables repo requests) (Fresh format)
      (allStarted Invocation installation) system) (invocation : Invocation) :
    PlanKept format tables repo requests invocation (system.progress invocation) system.shared := by
  refine @Run.each _ _ _ _ _ _ _ _ (PlanKept format tables repo requests) h ?_ ?_ ?_ invocation
  · intro invocation
    trivial
  · intro invocation progress files result hkept hfresh haction
    exact planKept_own hkept hfresh haction
  · intro invocation progress files other progress' result hother hkept hplan hfresh haction
    exact planKept_other hother hkept hplan hfresh haction

private theorem together_of_run
    (h : Run (applyActions format tables repo requests) (Fresh format)
      (allStarted Invocation installation) system) : Together format tables system := by
  induction h with
  | start => exact .inr (.inr fun _ => trivial)
  | act invocation hrun hfresh haction ih =>
      exact together_act ih (planKept_of_run hrun invocation) hfresh haction

/-- In any interleaving of apply commands in which every publication finds the
files as its plan was made from, the selection keeps the request of every command
that has passed; and when all have, the files are those of the plan of one. -/
theorem fresh_applies_keep_requests (format : JsonFormat Text) (tables : TextTables)
    (repo : Repository) (requests : Invocation → Mutations) (installation : Installation Text)
    (h : Run (applyActions format tables repo requests) (Fresh format)
      (allStarted Invocation installation) system) :
    (∀ invocation, Passed (system.progress invocation) →
      ∃ overrides, loadOverrides format tables system.shared.installation.state =
          .ok (some overrides) ∧ KeepsRequest tables requests invocation overrides) ∧
      ((∀ invocation, Passed (system.progress invocation)) → Nonempty Invocation →
        ∃ invocation seen planned, buildPlan format tables repo seen (requests invocation) =
            .ok planned ∧ Shown format tables system.shared planned ∧
          expandDirectDomains tables repo planned.plan.desired = .ok planned.plan.directDomains ∧
          ∀ other, KeepsRequest tables requests other planned.plan.desired) := by
  have hkept : ∀ invocation, Passed (system.progress invocation) →
      ∃ overrides, loadOverrides format tables system.shared.installation.state =
        .ok (some overrides) ∧ KeepsRequest tables requests invocation overrides := by
    intro invocation hpassed
    have hplan := planKept_of_run h invocation
    unfold Passed at hpassed
    split at hpassed
    · next seen planned hprogress =>
      rw [hprogress] at hplan
      exact hplan.2 (.inl rfl)
    · exact hpassed.elim
  refine ⟨hkept, fun hall ⟨any⟩ => ?_⟩
  obtain ⟨invocation, seen, planned, hplanned, hshown⟩ : ∃ invocation seen planned,
      buildPlan format tables repo seen (requests invocation) = .ok planned ∧
        Shown format tables system.shared planned := by
    rcases together_of_run h with
      ⟨invocation, seen, planned, stage, hprogress, hshown⟩ | ⟨invocation, hlater⟩ | huntouched
    · have hplan := planKept_of_run h invocation
      rw [hprogress] at hplan
      exact ⟨invocation, seen, planned, hplan.1, hshown⟩
    · have hpassed := hall invocation
      unfold Passed at hpassed
      split at hpassed
      · next hprogress =>
        rw [hprogress] at hlater
        exact hlater.2.elim
      · exact hpassed.elim
    · have hpassed := hall any
      have hquiet := huntouched any
      have hplan := planKept_of_run h any
      unfold Passed at hpassed
      split at hpassed
      · next seen planned hprogress =>
        rw [hprogress] at hquiet hplan
        obtain ⟨hrouting, hstate, hroutingChange, hstateChange⟩ := hquiet
        have hselection := loaded_of_unchanged hplan.1 hstateChange
        rw [hstate] at hselection
        refine ⟨any, seen, planned, hplan.1, shown_of_documented hplan.1 hselection ?_⟩
        rw [hroutingChange, if_neg (by decide), hrouting]
      · exact hpassed.elim
  obtain ⟨reading⟩ := buildPlan_reads hplanned
  refine ⟨invocation, seen, planned, hplanned, hshown, reading.desiredExpanded, fun other => ?_⟩
  obtain ⟨overrides, hloaded, hkeeps⟩ := hkept other (hall other)
  rw [hshown.selection] at hloaded
  exact Option.some.inj (Except.ok.inj hloaded) ▸ hkeeps

end Runs

/-- Two commands that add a domain each. -/
def twoRequests : Bool → Mutations
  | false => { addDomains := ["example.org"] }
  | true => { addDomains := ["example.net"] }

/-- The steps of one command, from the first of `apply_plan` to the last. -/
def allOf (invocation : Bool) : List Bool := List.replicate 8 invocation

theorem fresh_applies_keep_requests_sample : ∃ system,
    runSchedule (guarded (Fresh valueFormat)
    (applyActions valueFormat plainTables ⟨[]⟩ twoRequests))
        ([false, false] ++ allOf false ++ [true, true] ++ allOf true)
        (allStarted Bool (homeInstallation [homeRule] .absent)) = some system ∧
      ∃ invocation planned, Shown valueFormat plainTables system.shared planned ∧
        KeepsRequest plainTables twoRequests invocation planned.plan.desired ∧
        KeepsRequest plainTables twoRequests (!invocation) planned.plan.desired := by
  have hpassed : (runSchedule (guarded (Fresh valueFormat)
      (applyActions valueFormat plainTables ⟨[]⟩ twoRequests))
      ([false, false] ++ allOf false ++ [true, true] ++ allOf true)
      (allStarted Bool (homeInstallation [homeRule] .absent))).any (fun system =>
        decide (∀ invocation, Passed (system.progress invocation))) = true := by decide +kernel
  obtain ⟨system, hsystem, hall⟩ := Option.any_eq_true _ _ |>.mp hpassed
  obtain ⟨-, htogether⟩ := fresh_applies_keep_requests valueFormat plainTables ⟨[]⟩ twoRequests
    (homeInstallation [homeRule] .absent) (run_of_schedule hsystem)
  obtain ⟨invocation, -, planned, -, hshown, -, hkeeps⟩ :=
    htogether (of_decide_eq_true hall) ⟨false⟩
  exact ⟨system, hsystem, invocation, planned, hshown, hkeeps _, hkeeps _⟩

/-- Both commands plan before either publishes: both pass, and the domain of the
first is in neither file. -/
theorem stale_apply_loses_request : ∃ system,
    runSchedule (applyActions valueFormat plainTables ⟨[]⟩ twoRequests)
        ([false, false, true, true] ++ allOf false ++ allOf true)
        (allStarted Bool (homeInstallation [homeRule] .absent)) = some system ∧
      (∀ invocation, Passed (system.progress invocation)) ∧
      loadOverrides valueFormat plainTables system.shared.installation.state =
        .ok (some { directDomains := ["example.net"] }) ∧
      (readJsonPrivate valueFormat system.shared.installation.routing
          "Xray routing configuration" >>= routingRules) =
        .ok [(directRuleJson ["socks-home"] ["example.net"]).canonical, homeRule.canonical] := by
  have hlost : (runSchedule (applyActions valueFormat plainTables ⟨[]⟩ twoRequests)
      ([false, false, true, true] ++ allOf false ++ allOf true)
      (allStarted Bool (homeInstallation [homeRule] .absent))).any (fun system =>
        decide ((∀ invocation, Passed (system.progress invocation)) ∧
          loadOverrides valueFormat plainTables system.shared.installation.state =
            .ok (some { directDomains := ["example.net"] }) ∧
          (readJsonPrivate valueFormat system.shared.installation.routing
              "Xray routing configuration" >>= routingRules) =
            .ok [(directRuleJson ["socks-home"] ["example.net"]).canonical,
              homeRule.canonical])) = true := by decide +kernel
  obtain ⟨system, hsystem, hlost⟩ := Option.any_eq_true _ _ |>.mp hlost
  exact ⟨system, hsystem, of_decide_eq_true hlost⟩

section Alone

variable {Text : Type} {format : JsonFormat Text} {tables : TextTables} {repo : Repository}
  {installation after : Installation Text} {planned : PlannedRouting} {made : Bool}

/-- What an apply whose steps all return has found, and what it leaves. -/
private theorem applyPlan_returns
    (h : runCommand (applyPlan format tables (fun _ => .done) planned) installation =
      (.ok made, after)) :
    (∃ previousRoute, readableRoute installation = some previousRoute) ∧
      (planned.plan.routingChangeRequired = true →
        ¬ maxConfigBytes < format.size (format.dumps planned.updated)) ∧
      (planned.plan.stateChangeRequired = true →
        stateWritable format tables installation.state planned.plan.desired = true) ∧
      after = installation.leave format planned
        ⟨planned.plan.routingChangeRequired, planned.plan.stateChangeRequired⟩ := by
  obtain ⟨hleft, hends⟩ := @applyPlan_run _ format tables (fun _ => .done) installation planned
  rw [h] at hleft hends
  have hleaves : applyLeaves format tables (fun _ => .done) installation planned =
      ⟨planned.plan.routingChangeRequired, planned.plan.stateChangeRequired⟩ := hends
  rw [hleaves] at hleft
  obtain ⟨previousRoute, hroute⟩ : ∃ previousRoute, readableRoute installation =
      some previousRoute := by
    clear hleft hends hleaves
    obtain ⟨inbounds, outbounds, routing, state⟩ := installation
    have hstopped : ∀ {stop : Stop} {left : Installation Text}, (Except.error stop, left) ≠
        ((.ok made : Except Stop Bool), after) := by
      intro stop left hstop
      cases hstop
    cases routing with
    | absent => exact absurd h hstopped
    | refused reason => exact absurd h hstopped
    | text content =>
        cases state with
        | refused reason => exact absurd h hstopped
        | absent => exact ⟨content, rfl⟩
        | text selection => exact ⟨content, rfl⟩
  refine ⟨⟨previousRoute, hroute⟩, ?_, ?_, hleft⟩
  · intro hchange hlarge
    simp [applyLeaves, hroute, hchange, publishes, routeOutcome, hlarge, firstStop_done] at hleaves
  · intro hchange
    by_contra hwritable
    cases hrouting : planned.plan.routingChangeRequired <;>
      simp [applyLeaves, hroute, hrouting, hchange, publishes, routeOutcome,
          stateOutcome, hwritable,
        firstStop_done, StepOutcome.takes] at hleaves
    grind

variable {Invocation : Type} [DecidableEq Invocation] {requests : Invocation → Mutations}
  {invocation : Invocation}

/-- A progress of one invocation and files that it reaches while no other acts. -/
private def ReachesAlone (format : JsonFormat Text) (tables : TextTables) (repo : Repository)
    (requests : Invocation → Mutations) (invocation : Invocation) (installation : Installation Text)
    (progress : Progress Text) (files : SharedFiles Text) : Prop :=
  ∃ system, Run (applyActions format tables repo requests) (fun _ _ => True)
    (allStarted Invocation installation) system ∧ system.progress invocation = progress ∧
      system.shared = files

private theorem ReachesAlone.act {progress : Progress Text} {files : SharedFiles Text}
    (h : ReachesAlone format tables repo requests invocation installation progress files)
    {result : Progress Text × SharedFiles Text}
    (haction : applyAction format tables repo (requests invocation) progress files = some result) :
    ReachesAlone format tables repo requests invocation installation result.1 result.2 := by
  obtain ⟨system, hrun, rfl, rfl⟩ := h
  exact ⟨_, .act invocation hrun trivial haction, System.after_progress_self _ _, rfl⟩

private theorem ReachesAlone.next {seen : Installation Text} {stage : Stage}
    {files : SharedFiles Text}
    (h : ReachesAlone format tables repo requests invocation installation
      (.applying seen planned stage) files) {stage' : Stage} {files' : SharedFiles Text}
    (hnext : stage.next format tables planned files = some (stage', files')) :
    ReachesAlone format tables repo requests invocation installation
      (.applying seen planned stage') files' :=
  h.act (by simp only [applyAction, hnext]; rfl)

private theorem ReachesAlone.published {seen : Installation Text} {files : SharedFiles Text}
    (h : ReachesAlone format tables repo requests invocation installation
      (.applying seen planned .planned) files)
    (hroute : ∃ previousRoute, readableRoute files.installation = some previousRoute)
    (hsize : planned.plan.routingChangeRequired = true →
      ¬ maxConfigBytes < format.size (format.dumps planned.updated)) :
    ∃ files', files'.installation = files.installation.leave format planned
        ⟨planned.plan.routingChangeRequired, false⟩ ∧
      ReachesAlone format tables repo requests invocation installation
        (.applying seen planned .activated) files' := by
  obtain ⟨previousRoute, hroute⟩ := hroute
  cases hchange : planned.plan.routingChangeRequired with
  | true =>
      have hprepared := h.next (by simp only [Stage.next, hroute, hchange]; rfl)
      have hmarked := hprepared.next (by simp only [Stage.next, if_neg (hsize hchange)]; rfl)
      have hchecked := hmarked.next (by simp only [Stage.next, if_true]; rfl)
      have hpublished := hchecked.next rfl
      exact ⟨_, rfl, hpublished.next rfl⟩
  | false =>
      exact ⟨files, rfl, h.next (by simp only [Stage.next, hroute, hchange]; rfl)⟩

private theorem ReachesAlone.finished {seen : Installation Text} {files : SharedFiles Text}
    (h : ReachesAlone format tables repo requests invocation installation
      (.applying seen planned .activated) files)
    (hwritable : planned.plan.stateChangeRequired = true →
      stateWritable format tables files.installation.state planned.plan.desired = true) :
    ∃ files', files'.installation = files.installation.leave format planned
        ⟨false, planned.plan.stateChangeRequired⟩ ∧
      ReachesAlone format tables repo requests invocation installation
        (.applying seen planned .passed) files' := by
  cases hchange : planned.plan.stateChangeRequired with
  | true =>
      have hvetted := h.next (by
        simp only [Stage.next, hchange, hwritable hchange, if_true]
        rfl)
      have hconfirmed := hvetted.next (by simp only [Stage.next, if_true]; rfl)
      exact ⟨_, rfl, hconfirmed.next rfl⟩
  | false => exact ⟨files, rfl, h.next (by simp only [Stage.next, hchange]; rfl)⟩

/-- What an apply does from its first step to its last, it does in one of the
runs, in which no other command acts. -/
theorem undisturbed_apply_is_run
    (h : runCommand (applyCommand format tables repo (fun _ => .done) (requests invocation))
      installation = (.ok made, after)) :
    ∃ system, Run (applyActions format tables repo requests) (fun _ _ => True)
        (allStarted Invocation installation) system ∧
      Passed (system.progress invocation) ∧ system.shared.installation = after := by
  rcases @applyCommand_run _ format tables (fun _ => .done) repo (requests invocation) installation
    with ⟨-, error, herror⟩ | ⟨planned, hplan, hran⟩
  · rw [h] at herror
    cases herror
  rw [h] at hran
  obtain ⟨hroute, hsize, hwritable, rfl⟩ := applyPlan_returns hran.symm
  obtain ⟨reading⟩ := buildPlan_reads hplan
  have hstarted : ReachesAlone format tables repo requests invocation installation .started
      ⟨installation, 0, 0⟩ := ⟨_, .start, rfl, rfl⟩
  have hloaded := hstarted.act (by simp only [applyAction, reading.loaded]; rfl)
  have hplanned := hloaded.act (by simp only [applyAction, hplan]; rfl)
  obtain ⟨files, hfiles, hactivated⟩ := hplanned.published hroute hsize
  obtain ⟨last, hlast, system, hrun, hprogress, hshared⟩ :=
    hactivated.finished (by rw [hfiles]; exact hwritable)
  refine ⟨system, hrun, by rw [hprogress]; trivial, ?_⟩
  rw [hshared, hlast, hfiles]
  rfl

end Alone

end RouterKit.Routing
