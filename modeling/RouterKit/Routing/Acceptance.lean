import RouterKit.Routing.Stored

/-!
When a plan without mutations comes about: the selection in the file, or the one
inferred from a known service pack, has to be the one whose rule stands first.
-/

namespace RouterKit.Routing

open RouterKit.Lib RouterKit.Lib.Checked

/-- A plan without mutations comes about. -/
def Accepted {Text : Type} (format : JsonFormat Text) (tables : TextTables) (repo : Repository)
    (installation : Installation Text) : Prop :=
  ∃ planned, buildPlan format tables repo installation {} = .ok planned

/-- The first rule is none of a selection with the rules `expected`, or that rule
itself. -/
def Recognized (expected rules : List (Json String)) : Prop :=
  ∃ rest, withoutManaged expected rules = .ok rest

/-- The rule of these domains stands first. -/
def StartsWithRuleOf (inboundTags domains : List String) (rules : List (Json String)) : Prop :=
  ∃ rule, rules.head? = some rule ∧ SameValue rule (directRuleJson inboundTags domains)

theorem sameValue_canonical {rule other : Json String} (h : SameValue rule other) :
    SameValue rule.canonical other := by
  simp only [SameValue, Json.canonical_eq_sortKeys, Json.sortKeys_sortKeys] at h ⊢
  exact h

theorem StartsWithRuleOf.canonical {inboundTags domains : List String} {rules : List (Json String)}
    (h : StartsWithRuleOf inboundTags domains rules) :
    StartsWithRuleOf inboundTags domains (rules.map Json.canonical) := by
  obtain ⟨rule, hhead, hsame⟩ := h
  exact ⟨rule.canonical, by rw [List.head?_map, hhead]; rfl, sameValue_canonical hsame⟩

theorem recognized_of_not_direct {expected rules : List (Json String)}
    (h : directHead rules = false) : Recognized expected rules :=
  ⟨rules, withoutManaged_eq_ok.mpr (.inl ⟨h, rfl⟩)⟩

theorem StartsWithRuleOf.recognized {inboundTags domains : List String} {rules : List (Json String)}
    (h : StartsWithRuleOf inboundTags domains rules) :
    Recognized [directRuleJson inboundTags domains] rules := by
  obtain ⟨rule, hhead, hsame⟩ := h
  cases rules with
  | nil => cases hhead
  | cons first rest =>
      obtain rfl := Option.some.inj hhead
      cases hdirect : isDirect first with
      | false => exact recognized_of_not_direct hdirect
      | true => exact ⟨rest, withoutManaged_eq_ok.mpr
          (.inr ⟨first, _, [], hdirect, rfl, rfl, hsame⟩)⟩

theorem Recognized.canonical {expected rules : List (Json String)} (h : Recognized expected rules) :
    Recognized expected (rules.map Json.canonical) := by
  obtain ⟨rest, hrest⟩ := h
  rcases withoutManaged_eq_ok.mp hrest with ⟨hhead, -⟩ |
      ⟨rule, managed, more, hdirect, rfl, rfl, hsame⟩
  · exact recognized_of_not_direct (by rw [directHead_canonical, hhead])
  · refine ⟨rest.map Json.canonical, withoutManaged_eq_ok.mpr (.inr ⟨rule.canonical, managed, more,
      ?_, rfl, rfl, sameValue_canonical hsame⟩)⟩
    rw [isDirect_canonical, hdirect]

section Acceptance

variable {Text : Type} {format : JsonFormat Text} {tables : TextTables} {repo : Repository}
  {installation : Installation Text} {documents : ActiveDocuments} {inboundTags : List String}
  {ports : List Int} {rules expected : List (Json String)}

/-- What a plan needs besides the selection. -/
structure ReadableBase (format : JsonFormat Text) (installation : Installation Text)
    (inboundTags : List String) (ports : List Int) (documents : ActiveDocuments)
    (rules : List (Json String)) : Prop where
  loaded : loadActiveDocuments format installation = .ok documents
  tags : extractRouterkitInbounds documents.inbounds = .ok inboundTags
  ports : extractRouterkitPorts documents.inbounds = .ok ports
  outbound : validateDirectOutbound documents.outbounds = .ok ()
  listed : routingRules documents.routing = .ok rules

/-- A selection is accepted with the document that starts with its rule, or with
no direct one. -/
theorem accepted_of_current {persisted : Option RoutingOverrides} {current : RoutingOverrides}
    {inferred : Bool} {domains : List String}
    (hbase : ReadableBase format installation inboundTags ports documents rules)
    (hstate : loadOverrides format tables installation.state = .ok persisted)
    (hcurrent : currentOverrides tables repo persisted documents.routing inboundTags =
      .ok (current, inferred))
    (hnormal : Normal tables current)
    (hdomains : expandDirectDomains tables repo current = .ok domains)
    (hexpected : managedRules tables inboundTags domains = .ok expected)
    (hrecognized : Recognized expected rules) : Accepted format tables repo installation := by
  obtain ⟨rest, hrest⟩ := hrecognized
  have hrewritten := reconcileRoutingDocument_eq_ok.mpr
    ⟨rules, expected, rest, expected, hbase.listed, hexpected, hrest, hexpected, rfl, rfl⟩
  simp only [Accepted, buildPlan, planFrom, hbase.loaded, hbase.tags, hbase.ports,
      hbase.outbound, hstate,
    hcurrent, hdomains, hnormal.mutate_nothing, hrewritten, bind_ok_left]
  exact ⟨_, rfl⟩

end Acceptance

/-- The domains of an available service pack, in its order. -/
def IsPack (tables : TextTables) (repo : Repository) (domains : List String) : Prop :=
  ∃ service ∈ availableServiceNames tables repo, loadServicePack tables repo service = .ok domains

section Inference

variable {tables : TextTables} {repo : Repository} {inboundTags domains : List String}

private theorem sortKeys_eq_str {value : Json String} {text : String} :
    value.sortKeys = .str text ↔ value = .str text := by
  cases value <;> simp

private theorem sortKeys_eq_texts {value : Json String} {texts : List String}
    (h : value.sortKeys = textsJson texts) : value = textsJson texts := by
  cases value with
  | arr items =>
      simp only [Json.sortKeys_arr, textsJson, Json.arr.injEq] at h ⊢
      induction items generalizing texts with
      | nil => exact h
      | cons item rest ih =>
          cases texts with
          | nil => simp at h
          | cons text more =>
              simp only [List.map_cons, List.cons.injEq] at h
              rw [sortKeys_eq_str.mp h.1, ih h.2, List.map_cons]
  | _ => simp [textsJson] at h

/-- The recognizer reads the domains of a rule that compares equal to theirs. -/
theorem domainRuleValues_of_sameValue {rule : Json String}
    (hsame : SameValue rule (directRuleJson inboundTags domains))
    (hdomains : ∀ domain ∈ domains, IsDomain tables domain) (hfit : FitRule tables domains)
    (hne : domains ≠ []) (hnodup : domains.Nodup) :
    domainRuleValues tables rule inboundTags = some domains := by
  rw [SameValue, Json.canonical_eq_sortKeys, Json.canonical_eq_sortKeys, directRuleJson] at hsame
  cases rule with
  | obj fields =>
      have hget := Json.get_congr hsame
      have hkeys : Json.hasKeys fields ["type", "inboundTag", "domain", "outboundTag"] := by
        have hperm := (Json.sortedFields_keys fields).symm
        rw [Json.sortKeys_obj, Json.sortKeys_obj, Json.obj.injEq] at hsame
        rw [hsame] at hperm
        have hkeys := hperm.trans (Json.sortedFields_keys _)
        exact ⟨fun key hmem => hkeys.mem_iff.mp hmem, fun key hmem => hkeys.mem_iff.mpr hmem⟩
      have htype : Json.get fields "type" = .str "field" := by
        have h := hget "type"
        simpa [sortKeys_eq_str] using h
      have hout : Json.get fields "outboundTag" = .str "direct" := by
        have h := hget "outboundTag"
        simpa [sortKeys_eq_str] using h
      have htexts : ∀ texts : List String, (textsJson texts).sortKeys = textsJson texts := by
        intro texts
        simp only [textsJson, Json.sortKeys_arr, List.map_map, Function.comp_def, Json.sortKeys_str]
      have htags : Json.get fields "inboundTag" = textsJson inboundTags := by
        have h := hget "inboundTag"
        apply sortKeys_eq_texts
        simpa [htexts] using h
      have hlisted : Json.get fields "domain" = textsJson (domains.map ("domain:" ++ ·)) := by
        have h := hget "domain"
        apply sortKeys_eq_texts
        simpa [htexts] using h
      have hread : mapEach (ruleDomain tables) ((domains.map ("domain:" ++ ·)).map .str) =
          .ok domains := by
        rw [List.map_map]
        apply mapEach_map
        intro domain hmem
        have hinitial : startsWith ("domain:" ++ domain) "domain:" = true := by
          rw [startsWith, String.toList_append]
          exact List.isPrefixOf_iff_prefix.mpr (List.prefix_append _ _)
        simp only [Function.comp_apply, ruleDomain, hinitial, if_true]
        rw [(hdomains domain hmem).normalize_prefixed, hfit domain hmem]
      simp only [domainRuleValues, hkeys, htype, hout, htags, hlisted, textsJson, hread, and_self,
        if_true, ne_eq, hne, not_false_eq_true, hnodup]
  | _ => simp at hsame

/-- A rule of a service pack is taken for a selection of one such service. -/
theorem infer_of_startsWithRuleOf {routingValue : Json String} {rules : List (Json String)}
    (hrules : routingRules routingValue = .ok rules)
    (hstarts : StartsWithRuleOf inboundTags domains rules) (hpack : IsPack tables repo domains)
    (hfit : FitRule tables domains) :
    ∃ service, loadServicePack tables repo service = .ok domains ∧
      inferKnownServiceState tables repo routingValue inboundTags =
        .ok (some { directServices := [service] }) := by
  obtain ⟨rule, hhead, hsame⟩ := hstarts
  obtain ⟨service, hservice, hload⟩ := hpack
  obtain ⟨hne, hnodup, hdomains⟩ := loadServicePack_pack hload
  have hvalues := domainRuleValues_of_sameValue hsame hdomains hfit hne hnodup
  have hholds : packHolds tables repo domains service = true := by
    simp [packHolds, hload]
  cases hfind : (availableServiceNames tables repo).find? (packHolds tables repo domains) with
  | none =>
      have hnone := List.find?_eq_none.mp hfind service hservice
      exact absurd hholds hnone
  | some first =>
      have hfirst := List.find?_some hfind
      refine ⟨first, ?_, ?_⟩
      · unfold packHolds at hfirst
        split at hfirst
        · next pack hpack =>
          rw [hpack, of_decide_eq_true hfirst]
        · cases hfirst
      · cases rules with
        | nil => cases hhead
        | cons other rest =>
            obtain rfl := Option.some.inj hhead
            simp only [inferKnownServiceState, hrules, bind_ok_left, hvalues, hfind]
            rfl

/-- An installation without a selection is accepted with the rule of a service
pack in front. -/
theorem accepted_of_pack {Text : Type} {format : JsonFormat Text} {installation : Installation Text}
    {documents : ActiveDocuments} {ports : List Int} {rules : List (Json String)}
    (hbase : ReadableBase format installation inboundTags ports documents rules)
    (hstate : loadOverrides format tables installation.state = .ok none)
    (hstarts : StartsWithRuleOf inboundTags domains rules) (hpack : IsPack tables repo domains)
    (hfit : FitRule tables domains) : Accepted format tables repo installation := by
  obtain ⟨service, hload, hinfer⟩ := infer_of_startsWithRuleOf hbase.listed hstarts hpack hfit
  obtain ⟨hne, -, -⟩ := loadServicePack_pack hload
  have hnormalized : mapEach (normalizeDomainSuffix tables) domains = .ok domains := by
    have hself : mapEach (normalizeDomainSuffix tables) (domains.map id) = .ok domains :=
      mapEach_map hfit
    rwa [List.map_id] at hself
  have htags : inboundTags ≠ [] ∧ inboundTags.Nodup := by
    have h := hbase.tags
    simp only [extractRouterkitInbounds, bind_eq_ok, exists_unit, raiseIf_eq_ok, pure_eq_ok, not_or,
      not_not] at h
    obtain ⟨inbounds, -, ⟨hnonempty, hnodup⟩, rfl⟩ := h
    exact ⟨hnonempty, hnodup⟩
  have hmanaged : managedRules tables inboundTags domains =
      .ok [directRuleJson inboundTags domains] :=
    managedRules_eq_ok.mpr (.inr ⟨hne, htags.1, htags.2, domains, hnormalized, rfl⟩)
  have hcurrent : currentOverrides tables repo none documents.routing inboundTags =
      .ok ({ directServices := [service] }, true) := by
    simp only [currentOverrides, hinfer, bind_ok_left]
    rfl
  exact accepted_of_current hbase hstate hcurrent (normal_single service)
    (expandDirectDomains_pack hload) hmanaged hstarts.recognized

/-- An installation without a selection is accepted without a direct rule in front. -/
theorem accepted_of_not_direct {Text : Type} {format : JsonFormat Text}
    {installation : Installation Text} {documents : ActiveDocuments} {ports : List Int}
    {rules : List (Json String)}
    (hbase : ReadableBase format installation inboundTags ports documents rules)
    (hstate : loadOverrides format tables installation.state = .ok none)
    (hhead : directHead rules = false) : Accepted format tables repo installation := by
  have hvalues : ∀ rule, rules.head? = some rule →
      domainRuleValues tables rule inboundTags = none := by
    intro rule hrule
    have hnot : isDirect rule = false := by
      simpa [directHead, hrule] using hhead
    unfold domainRuleValues
    split
    · next fields =>
      have hout : ¬ Json.get fields "outboundTag" = .str "direct" := by
        simpa [isDirect] using hnot
      rw [if_neg (fun h => hout h.2.2.1)]
    · rfl
  have hinfer : inferKnownServiceState tables repo documents.routing inboundTags = .ok none := by
    simp only [inferKnownServiceState, hbase.listed, bind_ok_left]
    cases rules with
    | nil => rfl
    | cons rule rest =>
        simp only [hvalues rule rfl]
        rfl
  have hcurrent : currentOverrides tables repo none documents.routing inboundTags =
      .ok ({}, false) := by
    simp only [currentOverrides, hinfer, bind_ok_left, hbase.listed, hhead]
    rfl
  exact accepted_of_current hbase hstate hcurrent normal_empty rfl rfl
    (recognized_of_not_direct hhead)

end Inference

end RouterKit.Routing
