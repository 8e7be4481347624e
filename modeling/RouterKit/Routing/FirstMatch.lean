import RouterKit.Profiles.Generator
import RouterKit.Routing.Stored

/-!
Where a connection goes. The generated rules send every SOCKS inbound to the
outbound of its profile, and the rewriter puts one rule in front of them. Under
the reading of a rule list in which the first rule that applies decides, any
history of requests sends exactly the selected domains around the profiles.
-/

namespace RouterKit.Routing

open RouterKit.Lib RouterKit.Lib.Checked
open RouterKit.Profiles (Profile profileName buildRule buildRouting buildInbound buildInbounds)

/-- The host is the domain, or a name below it. -/
def Covers (domain host : String) : Prop :=
  host = domain ∨ '.' :: domain.toList <:+ host.toList

instance (domain host : String) : Decidable (Covers domain host) :=
  inferInstanceAs (Decidable (_ ∨ _))

/-- An entry `domain:…` applies to the hosts the domain covers. -/
def entryApplies (host : String) : Json String → Bool
  | .str text => startsWith text "domain:" && decide
      (Covers (String.ofList (text.toList.drop 7)) host)
  | _ => false

/-- Every condition a rule states has to hold. -/
def ruleApplies (inbound host : String) : Json String → Bool
  | .obj fields =>
      (match Json.get? fields "inboundTag" with
        | none => true
        | some (.arr tags) => tags.any (· = .str inbound)
        | some _ => false) &&
      (match Json.get? fields "domain" with
        | none => true
        | some (.arr entries) => entries.any (entryApplies host)
        | some _ => false)
  | _ => false

def ruleOutbound : Json String → Option String
  | .obj fields =>
      match Json.get fields "outboundTag" with
      | .str tag => some tag
      | _ => none
  | _ => none

def firstMatch (rules : List (Json String)) (inbound host : String) : Option String :=
  (rules.find? (ruleApplies inbound host)).bind ruleOutbound

/-- The outbound a connection leaves through. -/
def leavesThrough (document : Json String) (inbound host : String) : Option String :=
  match routingRules document with
  | .ok rules => firstMatch rules inbound host
  | .error _ => none

def socksTag (profile : Profile) : String := "socks-" ++ profileName profile

def vlessTag (profile : Profile) : String := "vless-" ++ profileName profile

/-- The document, the selection it was last rewritten for, and its expansion. -/
structure Routed where
  document : Json String
  overrides : RoutingOverrides := {}
  domains : List String := []

/-- One request: the last expansion is the one that is replaced. -/
def applyRequest (tables : TextTables) (repo : Repository) (inboundTags : List String)
    (request : Mutations) (routed : Routed) : Except RoutingError Routed := do
  let desired ← mutateOverrides tables repo routed.overrides request
  let domains ← expandDirectDomains tables repo desired
  let updated ← reconcileRoutingDocument tables routed.document inboundTags routed.domains domains
  pure ⟨updated.1, desired, domains⟩

/-- What requests make of the generated document. The service packs may change from
one request to the next. -/
inductive History (tables : TextTables) (profiles : List Profile) : Routed → Prop
  | generated : History tables profiles { document := buildRouting profiles }
  | applied {routed next : Routed} (earlier : History tables profiles routed) (repo : Repository)
      (request : Mutations)
      (h : applyRequest tables repo (profiles.map socksTag) request routed = .ok next) :
      History tables profiles next

section Inbounds

variable {profiles : List Profile}

theorem validateProfileNames_nodup {floatEq : String → Int → Bool} {seen : List String}
    (h : Profiles.validateProfileNames floatEq seen profiles = .ok ()) :
    (profiles.map profileName).Nodup ∧ ∀ profile ∈ profiles, profileName profile ∉ seen := by
  induction profiles generalizing seen with
  | nil => exact ⟨List.nodup_nil, fun profile hprofile => by cases hprofile⟩
  | cons profile rest ih =>
      simp only [Profiles.validateProfileNames, bind_eq_ok, exists_unit] at h
      obtain ⟨-, h⟩ := h
      split at h
      · next text htext =>
        simp only [bind_eq_ok, exists_unit, raiseIf_eq_ok] at h
        obtain ⟨-, hfresh, hrest⟩ := h
        obtain ⟨hnodup, hunseen⟩ := ih hrest
        have hname : profileName profile = text := by
          unfold profileName
          rw [htext]
        refine ⟨List.nodup_cons.mpr ⟨?_, hnodup⟩, ?_⟩
        · intro hmem
          obtain ⟨other, hother, hsame⟩ := List.mem_map.mp hmem
          exact hunseen other hother (by rw [hsame, hname]; exact List.mem_cons_self)
        · intro other hother
          rcases List.mem_cons.mp hother with rfl | hother
          · rwa [hname]
          · exact fun hmem => hunseen other hother (List.mem_cons_of_mem _ hmem)
      · cases h

/-- The tags a history puts into its rule are those of the generated inbounds. -/
theorem extracted_socksTags {floatEq : String → Int → Bool} {toInt : Json String → Option Int}
    {inbounds : Json String} (hnames : Profiles.validateProfileNames floatEq [] profiles = .ok ())
    (hne : profiles ≠ []) (h : buildInbounds toInt profiles = .ok inbounds) :
    extractRouterkitInbounds inbounds = .ok (profiles.map socksTag) := by
  simp only [buildInbounds, bind_eq_ok, pure_eq_ok] at h
  obtain ⟨items, hitems, rfl⟩ := h
  have htags : items.filterMap inboundTag = profiles.map socksTag := by
    have hall := mapEach_eq_ok.mp hitems
    clear hitems hnames hne
    induction hall with
    | nil => rfl
    | @cons profile built _ _ hbuilt _ ih =>
        simp only [buildInbound, bind_eq_ok] at hbuilt
        obtain ⟨port, -, hbuilt⟩ := hbuilt
        split at hbuilt
        · cases hbuilt
        · next number hnumber =>
          obtain rfl := Except.ok.inj hbuilt
          have hinitial : startsWith (socksTag profile) "socks-" = true := by
            unfold startsWith socksTag
            rw [String.toList_append, List.isPrefixOf_iff_prefix]
            exact List.prefix_append _ _
          have htag : inboundTag (.obj [("tag", .str ("socks-" ++ profileName profile)),
              ("listen", .str "127.0.0.1"), ("port", .int number), ("protocol", .str "socks"),
              ("settings", .obj [("auth", .str "noauth"), ("udp", .bool true)]),
              ("sniffing", .obj [("enabled", .bool true),
                ("destOverride", .arr [.str "http", .str "tls", .str "quic"])])]) =
              some (socksTag profile) := by
            simpa [inboundTag, localSocks, isLoopback, socksTag] using hinitial
          rw [List.filterMap_cons_some htag, ih, List.map_cons]
  have hnodup : (profiles.map socksTag).Nodup := by
    have hnames := (validateProfileNames_nodup hnames).1
    rw [List.nodup_iff_pairwise_ne, List.pairwise_map] at hnames ⊢
    exact hnames.imp fun hne heq => hne (by simpa [socksTag] using heq)
  have htagsNe : profiles.map socksTag ≠ [] := fun hnil => hne (List.map_eq_nil_iff.mp hnil)
  simp only [extractRouterkitInbounds, listedUnder, Json.get_cons, if_true, bind_ok_left, htags,
    raiseIf, if_neg (not_or.mpr ⟨htagsNe, not_not.mpr hnodup⟩)]
  rfl

end Inbounds

section Documents

variable {tables : TextTables} {profiles : List Profile}

theorem routingRules_buildRouting :
    routingRules (buildRouting profiles) = .ok (profiles.map buildRule) := rfl

theorem directHead_buildRules : directHead (profiles.map buildRule) = false := by
  cases profiles with
  | nil => rfl
  | cons profile rest =>
      have hother : ("vless-" ++ profileName profile : String) ≠ "direct" := by
        intro heq
        have hlist := congrArg (fun text : String => text.toList.head?) heq
        rw [String.toList_append] at hlist
        cases hlist
      simp [directHead, isDirect, buildRule, hother]

/-- The rule in front is the one of the current expansion. -/
theorem withoutManaged_managed {inboundTags domains : List String}
    {managed rest : List (Json String)}
    (hmanaged : managedRules tables inboundTags domains = .ok managed)
    (hrest : directHead rest = false) :
    withoutManaged managed (managed ++ rest) = .ok rest := by
  rcases managedRules_eq_ok.mp hmanaged with ⟨-, rfl⟩ | ⟨-, -, -, normalized, -, rfl⟩
  · exact withoutManaged_eq_ok.mpr (.inl ⟨hrest, rfl⟩)
  · exact withoutManaged_eq_ok.mpr (.inr ⟨_, _, [], isDirect_directRuleJson _ _, rfl, rfl, rfl⟩)

/-- At every point of a history the document is the generated one, with the rule of
the current expansion in front. -/
structure Rewritten (tables : TextTables) (profiles : List Profile) (routed : Routed) : Prop where
  normal : Normal tables routed.overrides
  empty : routed.overrides = {} → routed.domains = []
  isDomain : ∀ domain ∈ routed.domains, IsDomain tables domain
  document : ∃ managed, managedRules tables (profiles.map socksTag) routed.domains = .ok managed ∧
    routed.document = withRules (buildRouting profiles) (managed ++ profiles.map buildRule)

theorem applyRequest_rewritten {repo : Repository} {request : Mutations} {routed next : Routed}
    (h : Rewritten tables profiles routed)
    (hnext : applyRequest tables repo (profiles.map socksTag) request routed = .ok next) :
    Rewritten tables profiles next := by
  simp only [applyRequest, bind_eq_ok, pure_eq_ok] at hnext
  obtain ⟨desired, hdesired, domains, hdomains, ⟨updated, changed⟩, hupdated, rfl⟩ := hnext
  have hnormal := (mutateOverrides_normal h.normal hdesired).1
  obtain ⟨managed, hmanaged, hdocument⟩ := h.document
  obtain ⟨rules, expected, rest, added, hrules, hexpected, hrest, hadded, rfl, -⟩ :=
    reconcileRoutingDocument_eq_ok.mp hupdated
  have hstanding := routingRules_withRules (@routingRules_buildRouting profiles)
    (managed ++ profiles.map buildRule)
  rw [← hdocument, hrules] at hstanding
  obtain rfl := Except.ok.inj hstanding
  obtain rfl := Except.ok.inj (hexpected.symm.trans hmanaged)
  rw [withoutManaged_managed hmanaged directHead_buildRules] at hrest
  obtain rfl := Except.ok.inj hrest
  refine ⟨hnormal, (expandDirectDomains_nil_iff hdomains).mpr, hnormal.expanded hdomains, added,
    hadded, ?_⟩
  rw [hdocument]
  exact withRules_withRules routingRules_buildRouting _ _

theorem History.rewritten {routed : Routed} (h : History tables profiles routed) :
    Rewritten tables profiles routed := by
  induction h with
  | generated =>
      have hnone : ∀ domain ∈ ([] : List String), IsDomain tables domain := by
        intro domain hmem
        cases hmem
      exact ⟨normal_empty, fun _ => rfl, hnone, [], rfl,
        (withRules_self routingRules_buildRouting).symm⟩
  | applied earlier repo request hnext ih => exact applyRequest_rewritten ih hnext

end Documents

section Traffic

variable {profiles : List Profile}

/-- A generated rule applies to the inbound of its own profile, whatever the host. -/
theorem ruleApplies_buildRule (profile other : Profile) (host : String) :
    ruleApplies (socksTag profile) host (buildRule other) =
      decide (profileName other = profileName profile) := by
  simp [ruleApplies, buildRule, socksTag]

/-- The generated rules send every inbound to the outbound of its own profile. -/
theorem firstMatch_buildRules {profile : Profile} (hprofile : profile ∈ profiles) (host : String) :
    firstMatch (profiles.map buildRule) (socksTag profile) host = some (vlessTag profile) := by
  unfold firstMatch
  induction profiles with
  | nil => cases hprofile
  | cons first rest ih =>
      rw [List.map_cons, List.find?_cons, ruleApplies_buildRule]
      by_cases hname : profileName first = profileName profile
      · rw [decide_eq_true hname]
        simp [ruleOutbound, buildRule, vlessTag, hname]
      · rw [decide_eq_false hname]
        rcases List.mem_cons.mp hprofile with rfl | hrest
        · exact absurd rfl hname
        · exact ih hrest

theorem entryApplies_prefixed (host domain : String) :
    entryApplies host (.str ("domain:" ++ domain)) = decide (Covers domain host) := by
  have hinitial : "domain:".toList.isPrefixOf ("domain:" ++ domain).toList = true := by
    rw [String.toList_append, List.isPrefixOf_iff_prefix]
    exact List.prefix_append _ _
  have hdomain : ("domain:" ++ domain).toList.drop 7 = domain.toList := by
    rw [String.toList_append]
    rfl
  simp only [entryApplies, startsWith, hinitial, hdomain, String.ofList_toList, Bool.true_and]

/-- The rule in front applies to every SOCKS inbound, and to the hosts its domains cover. -/
theorem ruleApplies_directRule {profile : Profile} (hprofile : profile ∈ profiles)
    (domains : List String) (host : String) :
    ruleApplies (socksTag profile) host (directRuleJson (profiles.map socksTag) domains) =
      decide (∃ domain ∈ domains, Covers domain host) := by
  have htag : ((profiles.map socksTag).map Json.str).any (· = .str (socksTag profile)) = true := by
    rw [List.any_eq_true]
    exact ⟨_, List.mem_map_of_mem (List.mem_map_of_mem hprofile), decide_eq_true rfl⟩
  have hentries : ((domains.map ("domain:" ++ ·)).map Json.str).any (entryApplies host) =
      decide (∃ domain ∈ domains, Covers domain host) := by
    rw [List.map_map, List.any_map]
    induction domains with
    | nil => rfl
    | cons domain rest ih =>
        rw [List.any_cons, ih, Function.comp_apply, Function.comp_apply, entryApplies_prefixed]
        simp
  simp only [ruleApplies, directRuleJson, textsJson, Json.get?_cons, String.reduceEq, if_false,
    if_true, htag, hentries, Bool.true_and]

end Traffic

/-- In every history, the selected domains go direct and everything else leaves through
the outbound of the profile it came in for; without a selection the document is the
generated one. -/
theorem override_traffic (tables : TextTables) (profiles : List Profile) (routed : Routed)
    (h : History tables profiles routed) :
    (∀ profile ∈ profiles, ∀ host : String,
      leavesThrough routed.document (socksTag profile) host =
        some (if ∃ domain ∈ routed.domains, Covers domain host then "direct"
          else vlessTag profile)) ∧
    (routed.overrides = {} → routed.document = buildRouting profiles) := by
  obtain ⟨-, hempty, hisDomain, managed, hmanaged, hdocument⟩ := h.rewritten
  have hrule := (managedRules_of_isDomain hisDomain hmanaged).1
  constructor
  · intro profile hprofile host
    have hfallback := firstMatch_buildRules hprofile host
    rw [hdocument]
    simp only [leavesThrough, routingRules_withRules routingRules_buildRouting]
    rw [hrule]
    by_cases hnil : routed.domains = []
    · rw [if_pos hnil, hnil]
      simpa using hfallback
    · rw [if_neg hnil, List.singleton_append]
      unfold firstMatch
      rw [List.find?_cons, ruleApplies_directRule hprofile]
      by_cases hcovered : ∃ domain ∈ routed.domains, Covers domain host
      · rw [decide_eq_true hcovered, if_pos hcovered]
        rfl
      · rw [decide_eq_false hcovered, if_neg hcovered]
        exact hfallback
  · intro hoverrides
    rw [hempty hoverrides] at hmanaged
    obtain rfl := Except.ok.inj hmanaged
    rw [hdocument, List.nil_append]
    exact withRules_self routingRules_buildRouting

def homeProfile : Profile := [("name", .str "home"), ("port", .int 1082)]

/-- One profile, and one domain that is added. -/
theorem override_traffic_sample : ∃ routed : Routed, History plainTables [homeProfile] routed ∧
    leavesThrough routed.document "socks-home" "www.example.com" = some "direct" ∧
    leavesThrough routed.document "socks-home" "example.org" = some "vless-home" := by
  have hdomains : (applyRequest plainTables ⟨[]⟩ ["socks-home"] { addDomains := ["example.com"] }
      { document := buildRouting [homeProfile] }).toOption.map (·.domains) =
      some ["example.com"] := by
    decide +kernel
  cases hnext : applyRequest plainTables ⟨[]⟩ ["socks-home"] { addDomains := ["example.com"] }
      { document := buildRouting [homeProfile] } with
  | error e =>
      rw [hnext] at hdomains
      cases hdomains
  | ok next =>
      rw [hnext] at hdomains
      have hexpanded : next.domains = ["example.com"] := Option.some.inj hdomains
      have hhistory : History plainTables [homeProfile] next :=
        .applied .generated ⟨[]⟩ { addDomains := ["example.com"] } hnext
      have htraffic := (override_traffic plainTables [homeProfile] next hhistory).1 homeProfile
        List.mem_cons_self
      rw [hexpanded] at htraffic
      refine ⟨next, hhistory, ?_, ?_⟩
      · have hhost := htraffic "www.example.com"
        rwa [if_pos (by decide)] at hhost
      · have hhost := htraffic "example.org"
        rwa [if_neg (by decide)] at hhost

end RouterKit.Routing
