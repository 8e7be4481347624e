import RouterKit.Routing.Overrides

/-!
The active Xray documents. The overrides own at most one rule of the routing
document, the first one, and recognize it by comparing it with the rule of the
selection they believe to be active. Rules and documents compare as dictionaries
do, whatever the order of their keys.
-/

namespace RouterKit.Routing

open RouterKit.Lib RouterKit.Lib.Checked

def textsJson (texts : List String) : Json String := .arr (texts.map .str)

/-- Equality of loaded values: the order of keys does not count. -/
def SameValue (value other : Json String) : Prop := value.canonical = other.canonical

instance (value other : Json String) : Decidable (SameValue value other) :=
  inferInstanceAs (Decidable (_ = _))

def startsWith (text initial : String) : Bool := initial.toList.isPrefixOf text.toList

def isLoopback (value : Json String) : Prop := value = .str "127.0.0.1" ∨ value = .str "::1"

instance (value : Json String) : Decidable (isLoopback value) :=
  inferInstanceAs (Decidable (_ ∨ _))

/-- The fields of a local SOCKS inbound. -/
def localSocks (inbound : Json String) : Option (List (String × Json String)) :=
  match inbound with
  | .obj fields =>
      if Json.get fields "protocol" = .str "socks" ∧ isLoopback (Json.get fields "listen") then
        some fields
      else none
  | _ => none

/-- One round of the loop of `extract_routerkit_inbounds`. -/
def inboundTag (inbound : Json String) : Option String :=
  (localSocks inbound).bind (fun fields =>
    match Json.get fields "tag", Json.get fields "port" with
    | .str tag, .int _ => if startsWith tag "socks-" then some tag else none
    | _, _ => none)

/-- One round of the loop of `extract_routerkit_ports`. -/
def inboundPort (inbound : Json String) : Option Int :=
  (localSocks inbound).bind (fun fields =>
    match Json.get fields "port" with
    | .int port => some port
    | _ => none)

def inboundsNotRecognized : RoutingError :=
  routingError "Active Xray inbound configuration is not recognized."

/-- The list under a key of a document. -/
def listedUnder (value : Json String) (key : String) (error : RoutingError) :
    Except RoutingError (List (Json String)) :=
  match value with
  | .obj fields =>
      match Json.get fields key with
      | .arr items => .ok items
      | _ => .error error
  | _ => .error error

def extractRouterkitInbounds (value : Json String) : Except RoutingError (List String) := do
  let inbounds ← listedUnder value "inbounds" inboundsNotRecognized
  let tags := inbounds.filterMap inboundTag
  raiseIf (tags = [] ∨ ¬ tags.Nodup)
    (routingError "Active RouterKit SOCKS inbound set is missing or ambiguous.")
  pure tags

def extractRouterkitPorts (value : Json String) : Except RoutingError (List Int) := do
  let inbounds ← listedUnder value "inbounds" inboundsNotRecognized
  let ports := inbounds.filterMap inboundPort
  raiseIf (ports = [] ∨ ¬ ports.Nodup)
    (routingError "Active RouterKit SOCKS port set is missing or ambiguous.")
  pure ports

/-- The fields of an outbound that is tagged `direct`. -/
def directFields (outbound : Json String) : Option (List (String × Json String)) :=
  match outbound with
  | .obj fields => if Json.get fields "tag" = .str "direct" then some fields else none
  | _ => none

def validateDirectOutbound (value : Json String) : Except RoutingError Unit := do
  let outbounds ← listedUnder value "outbounds"
    (routingError "Active Xray outbound configuration is not recognized.")
  match outbounds.filterMap directFields with
  | [fields] =>
      raiseIf (Json.get fields "protocol" ≠ .str "freedom")
        (routingError "RouterKit requires exactly one existing direct/freedom outbound.")
  | _ =>
      .error (routingError "RouterKit requires exactly one existing direct/freedom outbound.")

def routingNotRecognized : RoutingError :=
  routingError "Active Xray routing configuration is not recognized."

/-- `_routing_rules`. -/
def routingRules (value : Json String) : Except RoutingError (List (Json String)) :=
  match value with
  | .obj fields => listedUnder (Json.get fields "routing") "rules" routingNotRecognized
  | _ => .error routingNotRecognized

/-- The document with other rules, everything else as it was. -/
def withRules (value : Json String) (rules : List (Json String)) : Json String :=
  match value with
  | .obj fields =>
      match Json.get fields "routing" with
      | .obj routing => .obj (Json.set "routing"
          (.obj (Json.set "rules" (.arr rules) routing)) fields)
      | _ => value
  | _ => value

def isDirect (rule : Json String) : Bool :=
  match rule with
  | .obj fields => decide (Json.get fields "outboundTag" = .str "direct")
  | _ => false

/-- Whether the first rule is a direct one. -/
def directHead (rules : List (Json String)) : Bool := rules.head?.any isDirect

section Rules

variable (tables : TextTables) (repo : Repository)

def directRuleJson (inboundTags domains : List String) : Json String :=
  .obj [("type", .str "field"), ("inboundTag", textsJson inboundTags),
    ("domain", textsJson (domains.map ("domain:" ++ ·))), ("outboundTag", .str "direct")]

def directRule (inboundTags domains : List String) : Except RoutingError (Json String) := do
  raiseIf (inboundTags = [] ∨ ¬ inboundTags.Nodup)
    (routingError "RouterKit SOCKS inbound tags are missing or ambiguous.")
  let normalizedDomains ← mapEach (normalizeDomainSuffix tables) domains
  raiseIf (normalizedDomains = [])
    (routingError "Direct-routing rule requires at least one domain.")
  pure (directRuleJson inboundTags normalizedDomains)

/-- The rule of a selection: none for an empty expansion. -/
def managedRules (inboundTags domains : List String) : Except RoutingError (List (Json String)) :=
  if domains = [] then .ok [] else (directRule tables inboundTags domains).map ([·])

/-- The domain of one entry of a rule, under its prefix. -/
def ruleDomain (value : Json String) : Except RoutingError String :=
  match value with
  | .str text =>
      if startsWith text "domain:" then normalizeDomainSuffix tables text else .error invalidDomain
  | _ => .error invalidDomain

/-- `_domain_rule_values`. -/
def domainRuleValues (rule : Json String) (inboundTags : List String) : Option (List String) :=
  match rule with
  | .obj fields =>
      if Json.hasKeys fields ["type", "inboundTag", "domain", "outboundTag"] ∧
          Json.get fields "type" = .str "field" ∧ Json.get fields "outboundTag" = .str "direct" ∧
          Json.get fields "inboundTag" = textsJson inboundTags then
        match Json.get fields "domain" with
        | .arr domains =>
            match mapEach (ruleDomain tables) domains with
            | .ok normalized =>
                if normalized ≠ [] ∧ normalized.Nodup then some normalized else none
            | .error _ => none
        | _ => none
      else none
  | _ => none

/-- Whether a service pack holds exactly these domains. -/
def packHolds (domains : List String) (service : String) : Bool :=
  match loadServicePack tables repo service with
  | .ok pack => decide (pack = domains)
  | .error _ => false

def inferKnownServiceState (routingValue : Json String) (inboundTags : List String) :
    Except RoutingError (Option RoutingOverrides) := do
  let rules ← routingRules routingValue
  match rules with
  | [] => pure none
  | rule :: _ =>
      match domainRuleValues tables rule inboundTags with
      | none => pure none
      | some domains =>
          pure (((availableServiceNames tables repo).find? (packHolds tables repo domains)).map
            (fun service => { directServices := [service] }))

def foreignRule : RoutingError := routingError
  ("The first Xray direct rule is not the RouterKit-managed routing override; refusing to " ++
    "overwrite it.")

/-- The rules behind the managed one. A first direct rule has to be the managed
one; a missing managed rule is drift and no error. -/
def withoutManaged (expected rules : List (Json String)) :
    Except RoutingError (List (Json String)) :=
  match rules with
  | rule :: rest =>
      if isDirect rule then
        match expected with
        | managed :: _ =>
            if SameValue rule managed then .ok rest else .error foreignRule
        | [] => .error foreignRule
      else .ok (rule :: rest)
  | [] => .ok []

def reconcileRoutingDocument (routingValue : Json String)
    (inboundTags currentDomains desiredDomains : List String) :
    Except RoutingError (Json String × Bool) := do
  let rules ← routingRules routingValue
  let expected ← managedRules tables inboundTags currentDomains
  let rest ← withoutManaged expected rules
  let managed ← managedRules tables inboundTags desiredDomains
  let updated := withRules routingValue (managed ++ rest)
  pure (updated, decide (¬ SameValue updated routingValue))

end Rules

section Rewriting

theorem routingRules_eq_ok {value : Json String} {rules : List (Json String)} :
    routingRules value = .ok rules ↔ ∃ fields routing, value = .obj fields ∧
      Json.get fields "routing" = .obj routing ∧ Json.get routing "rules" = .arr rules := by
  constructor
  · intro h
    unfold routingRules listedUnder at h
    split at h
    · next fields =>
      split at h
      · next routing hrouting =>
        split at h
        · next items hitems =>
          obtain rfl := Except.ok.inj h
          exact ⟨fields, routing, rfl, hrouting, hitems⟩
        · cases h
      · cases h
    · cases h
  · rintro ⟨fields, routing, rfl, hrouting, hrules⟩
    simp only [routingRules, listedUnder, hrouting, hrules]

variable {value : Json String} {rules : List (Json String)} (h : routingRules value = .ok rules)
include h

theorem routingRules_withRules (more : List (Json String)) :
    routingRules (withRules value more) = .ok more := by
  obtain ⟨fields, routing, rfl, hrouting, -⟩ := routingRules_eq_ok.mp h
  simp only [withRules, hrouting]
  exact routingRules_eq_ok.mpr ⟨_, _, rfl, by rw [Json.get_set, if_pos rfl],
    by rw [Json.get_set, if_pos rfl]⟩

theorem withRules_self : withRules value rules = value := by
  obtain ⟨fields, routing, rfl, hrouting, hrules⟩ := routingRules_eq_ok.mp h
  have hset : Json.set "rules" (.arr rules) routing = routing :=
    Json.set_self (Json.get?_of_get (by simp) hrules)
  simp only [withRules, hrouting, hset]
  rw [Json.set_self (Json.get?_of_get (by simp) hrouting)]

theorem withRules_withRules (more last : List (Json String)) :
    withRules (withRules value more) last = withRules value last := by
  obtain ⟨fields, routing, rfl, hrouting, -⟩ := routingRules_eq_ok.mp h
  simp only [withRules, hrouting, Json.get_set, if_pos, Json.set_set]

theorem routingRules_canonical :
    routingRules value.canonical = .ok (rules.map Json.canonical) := by
  obtain ⟨fields, routing, rfl, hrouting, hrules⟩ := routingRules_eq_ok.mp h
  have hcanonical : (Json.canonical : Json String → Json String) = Json.sortKeys :=
    funext Json.canonical_eq_sortKeys
  rw [hcanonical, Json.sortKeys_obj]
  refine routingRules_eq_ok.mpr ⟨_, Json.sortedFields routing, rfl, ?_, ?_⟩
  · rw [Json.get_sortedFields, hrouting, Json.sortKeys_obj]
  · rw [Json.get_sortedFields, hrules, Json.sortKeys_arr]

/-- Rules that compare equal make documents that compare equal. -/
theorem withRules_congr {more last : List (Json String)}
    (hsame : more.map Json.canonical = last.map Json.canonical) :
    SameValue (withRules value more) (withRules value last) := by
  obtain ⟨fields, routing, rfl, hrouting, -⟩ := routingRules_eq_ok.mp h
  have hcanonical : (Json.canonical : Json String → Json String) = Json.sortKeys :=
    funext Json.canonical_eq_sortKeys
  simp only [withRules, hrouting, SameValue, Json.canonical_eq_sortKeys]
  apply Json.sortKeys_set_congr
  apply Json.sortKeys_set_congr
  rw [Json.sortKeys_arr, Json.sortKeys_arr, ← hcanonical, hsame]

/-- Only the rules of a rewritten document can differ. -/
theorem sameValue_withRules_iff (more : List (Json String)) :
    SameValue (withRules value more) value ↔
      more.map Json.canonical = rules.map Json.canonical := by
  constructor
  · intro hsame
    have hmore := routingRules_canonical (routingRules_withRules h more)
    have hrules := routingRules_canonical h
    rw [show (withRules value more).canonical = value.canonical from hsame, hrules] at hmore
    exact (Except.ok.inj hmore).symm
  · intro hsame
    have hcongr := withRules_congr h hsame
    rwa [withRules_self h] at hcongr

end Rewriting

@[simp] theorem isDirect_canonical (rule : Json String) :
    isDirect rule.canonical = isDirect rule := by
  cases rule with
  | obj fields =>
      rw [Json.canonical_eq_sortKeys, Json.sortKeys_obj]
      simp only [isDirect, Json.get_sortedFields]
      have htext : ∀ value : Json String, value.sortKeys = .str "direct" ↔
          value = .str "direct" := by
        intro value
        cases value <;> simp
      simp only [htext]
  | _ => simp [Json.canonical, isDirect]

theorem directHead_canonical (rules : List (Json String)) :
    directHead (rules.map Json.canonical) = directHead rules := by
  cases rules with
  | nil => rfl
  | cons rule rest => exact isDirect_canonical rule

section Rewriter

variable {tables : TextTables} {inboundTags : List String}

theorem isDirect_directRuleJson (inboundTags domains : List String) :
    isDirect (directRuleJson inboundTags domains) = true := by
  simp [isDirect, directRuleJson]

theorem managedRules_nil : managedRules tables inboundTags [] = .ok [] := rfl

/-- The rule of a selection is one direct rule, or none. -/
theorem managedRules_eq_ok {domains : List String} {managed : List (Json String)} :
    managedRules tables inboundTags domains = .ok managed ↔
      (domains = [] ∧ managed = []) ∨
        (domains ≠ [] ∧ inboundTags ≠ [] ∧ inboundTags.Nodup ∧ ∃ normalized,
          mapEach (normalizeDomainSuffix tables) domains = .ok normalized ∧
            managed = [directRuleJson inboundTags normalized]) := by
  have hnonempty : ∀ normalized, mapEach (normalizeDomainSuffix tables) domains = .ok normalized →
      (normalized = [] ↔ domains = []) := by
    intro normalized hnormalized
    have hlength := (mapEach_eq_ok.mp hnormalized).length_eq
    rw [← List.length_eq_zero_iff, ← List.length_eq_zero_iff, hlength]
  by_cases hdomains : domains = []
  · simp [managedRules, hdomains, eq_comm]
  · simp only [managedRules, hdomains, if_false, false_and, false_or, ne_eq, not_false_eq_true,
      true_and]
    constructor
    · intro h
      cases hrule : directRule tables inboundTags domains with
      | error e => simp [hrule, Except.map] at h
      | ok rule =>
          simp only [hrule, Except.map, Except.ok.injEq] at h
          simp only [directRule, bind_eq_ok, exists_unit, raiseIf_eq_ok, not_or, not_not,
            pure_eq_ok] at hrule
          obtain ⟨⟨htags, hnodup⟩, normalized, hnormalized, -, rfl⟩ := hrule
          exact ⟨htags, hnodup, normalized, hnormalized, h.symm⟩
    · rintro ⟨htags, hnodup, normalized, hnormalized, rfl⟩
      have hne : normalized ≠ [] := mt (hnonempty normalized hnormalized).mp hdomains
      have hrule : directRule tables inboundTags domains =
          .ok (directRuleJson inboundTags normalized) := by
        simp only [directRule, bind_eq_ok, exists_unit, raiseIf_eq_ok, not_or, not_not, pure_eq_ok]
        exact ⟨⟨htags, hnodup⟩, normalized, hnormalized, hne, rfl⟩
      rw [hrule]
      rfl

theorem withoutManaged_eq_ok {expected rules rest : List (Json String)} :
    withoutManaged expected rules = .ok rest ↔
      (directHead rules = false ∧ rest = rules) ∨
        ∃ rule managed more, isDirect rule = true ∧ rules = rule :: rest ∧
          expected = managed :: more ∧ SameValue rule managed := by
  cases rules with
  | nil =>
      simp only [withoutManaged, directHead, List.head?_nil, Option.any_none, Except.ok.injEq,
        true_and, reduceCtorEq, false_and, and_false, exists_false, or_false]
      exact eq_comm
  | cons rule more =>
      cases hdirect : isDirect rule with
      | false =>
          simp only [withoutManaged, directHead, List.head?_cons, Option.any_some, hdirect,
            Bool.false_eq_true, if_false, Except.ok.injEq, true_and]
          constructor
          · rintro rfl
            exact .inl rfl
          · rintro (rfl | ⟨other, managed, last, hother, hrules, -⟩)
            · rfl
            · obtain ⟨rfl, -⟩ := List.cons.inj hrules
              rw [hdirect] at hother
              cases hother
      | true =>
          simp only [withoutManaged, directHead, List.head?_cons, Option.any_some, hdirect,
            if_true, Bool.true_eq_false, false_and, false_or]
          cases expected with
          | nil => simp
          | cons managed last =>
              by_cases hsame : SameValue rule managed
              · simp only [if_pos hsame, Except.ok.injEq]
                constructor
                · rintro rfl
                  exact ⟨rule, managed, last, hdirect, rfl, rfl, hsame⟩
                · rintro ⟨other, managed', last', -, hrules, -, -⟩
                  exact (List.cons.inj hrules).2
              · simp only [if_neg hsame, reduceCtorEq, false_iff]
                rintro ⟨other, managed', last', -, hrules, hexpected, hsame'⟩
                obtain ⟨rfl, -⟩ := List.cons.inj hrules
                obtain ⟨rfl, -⟩ := List.cons.inj hexpected
                exact hsame hsame'

theorem reconcileRoutingDocument_eq_ok {value updated : Json String}
    {currentDomains desiredDomains : List String} {changed : Bool} :
    reconcileRoutingDocument tables value inboundTags currentDomains desiredDomains =
        .ok (updated, changed) ↔
      ∃ rules expected rest managed, routingRules value = .ok rules ∧
        managedRules tables inboundTags currentDomains = .ok expected ∧
        withoutManaged expected rules = .ok rest ∧
        managedRules tables inboundTags desiredDomains = .ok managed ∧
        updated = withRules value (managed ++ rest) ∧
        changed = decide ((managed ++ rest).map Json.canonical ≠ rules.map Json.canonical) := by
  simp only [reconcileRoutingDocument, bind_eq_ok, pure_eq_ok, Prod.mk.injEq]
  constructor
  · rintro ⟨rules, hrules, expected, hexpected, rest, hrest, managed, hmanaged, rfl, rfl⟩
    refine ⟨rules, expected, rest, managed, hrules, hexpected, hrest, hmanaged, rfl, ?_⟩
    simp only [sameValue_withRules_iff hrules, ne_eq]
  · rintro ⟨rules, expected, rest, managed, hrules, hexpected, hrest, hmanaged, rfl, rfl⟩
    refine ⟨rules, hrules, expected, hexpected, rest, hrest, managed, hmanaged, rfl, ?_⟩
    simp only [sameValue_withRules_iff hrules, ne_eq]

end Rewriter

end RouterKit.Routing
