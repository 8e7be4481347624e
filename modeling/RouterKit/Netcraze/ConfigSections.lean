import RouterKit.Netcraze.RunningConfig

/-!
Running configurations as lists of sections, and the state they describe: every
section is a header with lines in any order, ended by an exclamation mark.
-/

namespace RouterKit.Netcraze

open RouterKit.Lib RouterKit.Lib.Checked RouterKit.Lib.PyText RouterKit.Devices

/-- A line of a section, with what it says if that is known. -/
structure SectionLine (Field : Type) where
  field : Option Field
  text : List Char

inductive ConfigSection where
  | proxy (proxyId : String) (header : List Char) (body : List (SectionLine ProxyField))
  | policy (policyId : String) (header : List Char) (body : List (SectionLine PolicyField))
  /-- Host assignments, and whatever else a configuration has. -/
  | other (body : List (SectionLine (String × String)))

/-- The stripped lines of a section, its end included. -/
def ConfigSection.lines : ConfigSection → List (List Char)
  | proxy _ header body => header :: body.map (·.text) ++ [['!']]
  | policy _ header body => header :: body.map (·.text) ++ [['!']]
  | other body => body.map (·.text) ++ [['!']]

/-- A description without quotes and edge blanks, written with or without quotes. -/
def SpellsDescription (text : String) (line : List Char) : Prop :=
  '"' ∉ text.toList ∧ strip text.toList = text.toList ∧
    ∃ blanks, blanks ≠ [] ∧ (∀ c ∈ blanks, isSpace c = true) ∧
      ((text ≠ "" ∧ line = "description".toList ++ blanks ++ text.toList) ∨
        line = "description".toList ++ blanks ++ '"' :: text.toList ++ ['"'])

def ProxyField.Spelled (classes : TextClasses) : ProxyField → List Char → Prop
  | description text, line => SpellsDescription text line
  | protocol name, line => ∃ word, words line = ["proxy".toList, "protocol".toList, word] ∧
      name = String.ofList (casefold classes.foldNonAscii word)
  | upstream host port, line =>
      (words line = ["proxy".toList, "upstream".toList, host.toList] ∧ port = 0) ∨
        ∃ digits, words line = ["proxy".toList, "upstream".toList, host.toList, digits] ∧
          digits.all isAsciiDigit = true ∧ pyInt digits = .ok port
  | up, line => line = "up".toList
  | authentication, line => ∃ kind rest, words line = "authentication".toList :: kind :: rest ∧
      (kind = "identity".toList ∨ kind = "password".toList)

def PolicyField.Spelled : PolicyField → List Char → Prop
  | description text, line => SpellsDescription text line
  | permit interface, line =>
      words line = ["permit".toList, "global".toList, interface.toList] ∨
        ∃ order, words line = ["permit".toList, "global".toList, interface.toList, order] ∧
          order.all isAsciiDigit = true

/-- A host assignment, of a device by its normalized address. -/
def SpellsAssignment (assignment : String × String) (line : List Char) : Prop :=
  ∃ mac : List Char, normalizeTrustedDeviceMac (String.ofList mac) = .ok assignment.1 ∧
    mac.length = 17 ∧ mac.all (fun c => isHexDigit c || c = ':') = true ∧
    (nativeNumber "Policy" assignment.2).isSome ∧
    (words line = ["host".toList, mac, "policy".toList, assignment.2.toList] ∨
      words line = ["ip".toList, "hotspot".toList, "host".toList, mac, "policy".toList,
        assignment.2.toList])

/-- A line that neither ends a section nor opens one, and assigns no host. -/
structure Inner (line : List Char) : Prop where
  nonblank : line ≠ []
  unended : line ≠ ['!']
  interface : interfaceId line = none
  policy : policySectionId line = none
  assignment : lineAssignment line = none

/-- A line is spelled as its field says, or matches no pattern that counts in the section. -/
def SectionLine.WellFormed {Field : Type} (spelled : Field → List Char → Prop)
    (unknown : List Char → Prop) (line : SectionLine Field) : Prop :=
  match line.field with
  | some field => spelled field line.text
  | none => Inner line.text ∧ unknown line.text

def ConfigSection.WellFormed (classes : TextClasses) : ConfigSection → Prop
  | proxy proxyId header body =>
      words header = ["interface".toList, proxyId.toList] ∧ (nativeNumber "Proxy" proxyId).isSome ∧
        ∀ line ∈ body, line.WellFormed (ProxyField.Spelled classes)
          (fun text => proxyField classes text = .ok none)
  | policy policyId header body =>
      words header = ["ip".toList, "policy".toList, policyId.toList] ∧
        (nativeNumber "Policy" policyId).isSome ∧
        ∀ line ∈ body, line.WellFormed PolicyField.Spelled (fun text => policyField text = none)
  | other body => ∀ line ∈ body, line.WellFormed SpellsAssignment (fun _ => True)

def fieldsOf {Field : Type} (body : List (SectionLine Field)) : List Field :=
  body.filterMap (·.field)

/-- The lines that speak of a default policy. -/
def guardLines {Field : Type} (body : List (SectionLine Field)) : List String :=
  (body.filter (fun line => "default-policy".toList <:+: line.text)).map
    (fun line => String.ofList line.text)

def ProxyField.description? : ProxyField → Option String
  | description text => some text
  | _ => none

def ProxyField.protocol? : ProxyField → Option String
  | protocol name => some name
  | _ => none

def ProxyField.upstream? : ProxyField → Option (String × Nat)
  | upstream host port => some (host, port)
  | _ => none

def PolicyField.description? : PolicyField → Option String
  | description text => some text
  | permit _ => none

def PolicyField.permit? : PolicyField → Option String
  | permit interface => some interface
  | description _ => none

def describedProxy (proxyId : String) (fields : List ProxyField) : ProxyState where
  objectId := proxyId
  description := (fields.findSome? ProxyField.description?).getD ""
  protocol := (fields.findSome? ProxyField.protocol?).getD ""
  host := ((fields.findSome? ProxyField.upstream?).map Prod.fst).getD ""
  port := ((fields.findSome? ProxyField.upstream?).map Prod.snd).getD 0
  enabled := decide (ProxyField.up ∈ fields)
  authenticationConfigured := decide (ProxyField.authentication ∈ fields)

def describedPolicy (policyId : String) (fields : List PolicyField) : PolicyState where
  objectId := policyId
  description := (fields.findSome? PolicyField.description?).getD ""
  globalInterfaces := fields.filterMap PolicyField.permit?

/-- Every field that holds one value is set once at most. -/
def ConfigSection.SetsOnce : ConfigSection → Prop
  | proxy _ _ body =>
      ((fieldsOf body).filterMap ProxyField.description?).length ≤ 1 ∧
        ((fieldsOf body).filterMap ProxyField.protocol?).length ≤ 1 ∧
        ((fieldsOf body).filterMap ProxyField.upstream?).length ≤ 1
  | policy _ _ body => ((fieldsOf body).filterMap PolicyField.description?).length ≤ 1
  | other _ => True

def ConfigSection.proxies : ConfigSection → List ProxyState
  | proxy proxyId _ body => [describedProxy proxyId (fieldsOf body)]
  | _ => []

def ConfigSection.policies : ConfigSection → List PolicyState
  | policy policyId _ body => [describedPolicy policyId (fieldsOf body)]
  | _ => []

def ConfigSection.assignments : ConfigSection → List (String × String)
  | other body => fieldsOf body
  | _ => []

def ConfigSection.defaultGuard : ConfigSection → List String
  | proxy _ _ body => guardLines body
  | policy _ _ body => guardLines body
  | other body => guardLines (body.filter (·.field.isNone))

/-- A configuration of sections, with distinct objects and devices. -/
structure RunningConfig (classes : TextClasses) where
  sections : List ConfigSection
  wellFormed : ∀ part ∈ sections, part.WellFormed classes
  setsOnce : ∀ part ∈ sections, part.SetsOnce
  proxyIds_nodup : ((sections.flatMap ConfigSection.proxies).map (·.objectId)).Nodup
  policyIds_nodup : ((sections.flatMap ConfigSection.policies).map (·.objectId)).Nodup
  deviceMacs_nodup : ((sections.flatMap ConfigSection.assignments).map Prod.fst).Nodup

/-- The text has the lines of the sections, up to edge blanks and the way lines end. -/
def RunningConfig.Spells {classes : TextClasses} (config : RunningConfig classes) (text : String) :
    Prop :=
  (splitLines text.toList).map strip = config.sections.flatMap ConfigSection.lines

/-- The state a configuration describes. -/
def RunningConfig.described {classes : TextClasses} (config : RunningConfig classes) :
    LiveState where
  proxies := config.sections.flatMap ConfigSection.proxies
  policies := config.sections.flatMap ConfigSection.policies
  assignments := config.sections.flatMap ConfigSection.assignments
  defaultGuard := config.sections.flatMap ConfigSection.defaultGuard
  proxyIds_nodup := config.proxyIds_nodup
  policyIds_nodup := config.policyIds_nodup
  deviceMacs_nodup := config.deviceMacs_nodup

/-- A line that starts with none of the words that count everywhere. -/
theorem inner_of_words {line first : List Char} {rest : List (List Char)}
    (h : words line = first :: rest)
    (hfirst : first ∉ ["interface".toList, "ip".toList, "host".toList, ['!']]) : Inner line := by
  simp only [List.mem_cons, List.not_mem_nil, or_false, not_or] at hfirst
  obtain ⟨hinterface, hip, hhost, hend⟩ := hfirst
  have hassign : ∀ more : List (List Char), hostAssignment (first :: more) = none := by
    intro more
    unfold hostAssignment
    split
    · next heq =>
      obtain ⟨rfl, -⟩ := List.cons.inj heq
      exact if_neg fun hcondition => hhost hcondition.1
    · rfl
  refine ⟨?_, ?_, ?_, ?_, ?_⟩
  · rintro rfl
    cases h
  · rintro rfl
    have hwords : words ['!'] = [['!']] := by decide
    exact hend (List.cons.inj (hwords.symm.trans h)).1.symm
  · unfold interfaceId
    split
    · next heq =>
      obtain ⟨rfl, -⟩ := List.cons.inj (heq.symm.trans h)
      exact if_neg fun hcondition => hinterface hcondition.1
    · rfl
  · unfold policySectionId
    split
    · next heq =>
      obtain ⟨rfl, -⟩ := List.cons.inj (heq.symm.trans h)
      exact if_neg fun hcondition => hip hcondition.1
    · rfl
  · unfold lineAssignment
    split
    · next heq =>
      obtain ⟨rfl, -⟩ := List.cons.inj (heq.symm.trans h)
      rw [if_neg fun hcondition => hip hcondition.1]
      exact hassign _
    · rfl

private theorem descriptionWord : ∀ c ∈ "description".toList, isSpace c = false := by decide

theorem lineDescription_of_words {line first : List Char} {rest : List (List Char)}
    (h : words line = first :: rest) (hfirst : first ≠ "description".toList) :
    lineDescription line = none := by
  refine if_neg ?_
  rintro ⟨htake, hblank⟩
  cases hdrop : line.drop "description".toList.length with
  | nil =>
      rw [hdrop] at hblank
      cases hblank
  | cons c more =>
      simp only [hdrop, List.head?_cons, Option.any_some] at hblank
      have hline : line = "description".toList ++ c :: more := by
        rw [← htake, ← hdrop, List.take_append_drop]
      rw [hline, words_append_space (by decide) descriptionWord hblank] at h
      exact hfirst (List.cons.inj h).1.symm

private theorem dropWhile_space {blanks text : List Char} (hblanks : ∀ c ∈ blanks, isSpace c = true)
    (htext : ∀ c, text.head? = some c → isSpace c = false) :
    (blanks ++ text).dropWhile isSpace = text := by
  rw [List.dropWhile_append_of_pos hblanks]
  cases text with
  | nil => rfl
  | cons c rest => exact List.dropWhile_cons_of_neg (by simp [htext c rfl])

/-- A text with its edges stripped starts with no blank. -/
private theorem head_of_strip {text : List Char} (h : strip text = text) :
    ∀ c, text.head? = some c → isSpace c = false := by
  intro c hc
  cases text with
  | nil => cases hc
  | cons d rest =>
      obtain rfl : d = c := Option.some.inj hc
      by_contra hspace
      rw [Bool.not_eq_false] at hspace
      have hlength : (strip (d :: rest)).length ≤ rest.length := by
        unfold strip
        rw [List.dropWhile_cons_of_pos hspace]
        exact ((List.rdropWhile_prefix _ _).length_le).trans (List.dropWhile_suffix _).length_le
      rw [h] at hlength
      simp at hlength

private theorem unquoted_self {text : List Char} (h : '"' ∉ text) :
    unquoteOnce text = text ∧ (text.dropWhile (· = '"')).rdropWhile (· = '"') = text := by
  have hhead : text.head? ≠ some '"' := fun hhead => h (List.mem_of_head? hhead)
  have hlast : text.getLast? ≠ some '"' := fun hlast => h (List.mem_of_getLast? hlast)
  constructor
  · simp only [unquoteOnce, if_neg hhead, if_neg hlast]
  · have hdrop : text.dropWhile (· = '"') = text := by
      cases text with
      | nil => rfl
      | cons c rest =>
          refine List.dropWhile_cons_of_neg ?_
          simpa using fun heq : c = '"' => h (heq ▸ List.mem_cons_self)
    rw [hdrop, List.rdropWhile_eq_self_iff]
    intro hne
    simpa using fun heq : text.getLast hne = '"' => h (heq ▸ List.getLast_mem hne)

private theorem unquoteOnce_quoted (text : List Char) :
    unquoteOnce ('"' :: text ++ ['"']) = text := by
  simp [unquoteOnce]

/-- A description is read without its quotes, and by its first word. -/
theorem lineDescription_of_spelled {text : String} {line : List Char}
    (h : SpellsDescription text line) :
    lineDescription line = some text ∧ ∃ rest, words line = "description".toList :: rest := by
  obtain ⟨hquotes, hstrip, blanks, hblanks, hspaces, hline⟩ := h
  obtain ⟨hunquoted, hclean⟩ := unquoted_self hquotes
  obtain ⟨blank, more, rfl⟩ := List.exists_cons_of_ne_nil hblanks
  obtain ⟨written, hwritten, hfirst, rfl⟩ : ∃ written, unquoteOnce written = text.toList ∧
      (∀ c, written.head? = some c → isSpace c = false) ∧
      line = "description".toList ++ blank :: (more ++ written) := by
    rcases hline with ⟨-, rfl⟩ | rfl
    · exact ⟨text.toList, hunquoted, head_of_strip hstrip, by simp⟩
    · refine ⟨'"' :: text.toList ++ ['"'], unquoteOnce_quoted _, ?_, by simp⟩
      intro c hc
      obtain rfl : '"' = c := Option.some.inj hc
      decide
  have hblank := hspaces blank List.mem_cons_self
  constructor
  · have hrest : (blank :: (more ++ written)).dropWhile isSpace = written := by
      rw [List.dropWhile_cons_of_pos hblank]
      exact dropWhile_space (fun c hc => hspaces c (List.mem_cons_of_mem _ hc)) hfirst
    simp only [lineDescription, List.take_left', List.drop_left', List.head?_cons, Option.any_some,
      hblank, and_self, if_true, hrest, hwritten, cleanDescription, hstrip, hclean,
      String.ofList_toList]
  · exact ⟨_, words_append_space (by decide) descriptionWord hblank _⟩

section Fields

variable {classes : TextClasses} {line : List Char}

/-- What `proxyField` reads once the line is no description. -/
private def undescribedField (classes : TextClasses) (line : List Char) :
    Except ConfigError (Option ProxyField) :=
  match lineProtocol classes line with
  | some name => .ok (some (.protocol name))
  | none =>
      match lineUpstream line with
      | some (host, digits) => do
          let port ← pyInt digits
          pure (some (.upstream host port))
      | none =>
          if line = "up".toList then .ok (some .up)
          else if isAuthentication classes line then .ok (some .authentication)
          else .ok none

private theorem proxyField_of_words {first : List Char} {rest : List (List Char)}
    (h : words line = first :: rest) (hfirst : first ≠ "description".toList) :
    proxyField classes line = undescribedField classes line := by
  simp only [proxyField, lineDescription_of_words h hfirst]
  rfl

/-- The line of a field is read as the field. -/
theorem proxyField_of_spelled {field : ProxyField} (h : field.Spelled classes line) :
    Inner line ∧ proxyField classes line = .ok (some field) := by
  cases field with
  | description text =>
      obtain ⟨hread, rest, hwords⟩ := lineDescription_of_spelled h
      exact ⟨inner_of_words hwords (by decide), by rw [proxyField, hread]⟩
  | protocol name =>
      obtain ⟨word, hwords, rfl⟩ := h
      refine ⟨inner_of_words hwords (by decide), ?_⟩
      rw [proxyField_of_words hwords (by decide)]
      simp only [undescribedField, lineProtocol, hwords, and_self, if_true]
  | upstream host port =>
      rcases h with ⟨hwords, rfl⟩ | ⟨digits, hwords, hdigits, hport⟩
      · refine ⟨inner_of_words hwords (by decide), ?_⟩
        rw [proxyField_of_words hwords (by decide)]
        have hprotocol : lineProtocol classes line = none := by
          simp only [lineProtocol, hwords]
          exact if_neg (by decide)
        simp only [undescribedField, hprotocol, lineUpstream, hwords, and_self, if_true,
            String.ofList_toList]
        rfl
      · refine ⟨inner_of_words hwords (by decide), ?_⟩
        rw [proxyField_of_words hwords (by decide)]
        have hprotocol : lineProtocol classes line = none := by
          simp only [lineProtocol, hwords]
        simp only [undescribedField, hprotocol, lineUpstream, hwords, hdigits, and_self, if_true,
          String.ofList_toList, hport]
        rfl
  | up =>
      obtain rfl : line = "up".toList := h
      have hwords : words "up".toList = ["up".toList] := by decide
      refine ⟨inner_of_words hwords (by decide), ?_⟩
      rw [proxyField_of_words hwords (by decide)]
      rfl
  | authentication =>
      obtain ⟨kind, rest, hwords, hkind⟩ := h
      refine ⟨inner_of_words hwords (by decide), ?_⟩
      rw [proxyField_of_words hwords (by decide)]
      have hprotocol : lineProtocol classes line = none := by
        unfold lineProtocol
        split
        · next heq =>
          obtain ⟨rfl, -⟩ := List.cons.inj (heq.symm.trans hwords)
          exact if_neg fun hcondition => absurd hcondition.1 (by decide)
        · rfl
      have hupstream : lineUpstream line = none := by
        unfold lineUpstream
        split
        · next heq =>
          obtain ⟨rfl, -⟩ := List.cons.inj (heq.symm.trans hwords)
          exact if_neg fun hcondition => absurd hcondition.1 (by decide)
        · next heq =>
          obtain ⟨rfl, -⟩ := List.cons.inj (heq.symm.trans hwords)
          exact if_neg fun hcondition => absurd hcondition.1 (by decide)
        · rfl
      have hup : line ≠ "up".toList := by
        rintro rfl
        have hup : words "up".toList = ["up".toList] := by decide
        exact absurd (List.cons.inj (hup.symm.trans hwords)).1 (by decide)
      have hsecret : isAuthentication classes line = true := by
        rw [isAuthentication, hwords]
        rcases hkind with rfl | rfl <;> rfl
      simp only [undescribedField, hprotocol, hupstream, if_neg hup, hsecret, if_true]

theorem policyField_of_spelled {field : PolicyField} (h : field.Spelled line) :
    Inner line ∧ policyField line = some field := by
  cases field with
  | description text =>
      obtain ⟨hread, rest, hwords⟩ := lineDescription_of_spelled h
      exact ⟨inner_of_words hwords (by decide), by rw [policyField, hread]⟩
  | permit interface =>
      rcases h with hwords | ⟨order, hwords, horder⟩
      · refine ⟨inner_of_words hwords (by decide), ?_⟩
        rw [policyField, lineDescription_of_words hwords (by decide)]
        simp only [linePermit, hwords, and_self, if_true, String.ofList_toList, Option.map_some]
      · refine ⟨inner_of_words hwords (by decide), ?_⟩
        rw [policyField, lineDescription_of_words hwords (by decide)]
        simp only [linePermit, hwords, horder, and_self, if_true, String.ofList_toList,
          Option.map_some]

end Fields

theorem words_ne_nil {line first : List Char} {rest : List (List Char)}
    (h : words line = first :: rest) : line ≠ [] := by
  rintro rfl
  cases h

theorem lineAssignment_of_spelled {assignment : String × String} {line : List Char}
    (h : SpellsAssignment assignment line) :
    line ≠ [] ∧ line ≠ ['!'] ∧ interfaceId line = none ∧ policySectionId line = none ∧
      ∃ mac, lineAssignment line = some (mac, assignment.2) ∧
        normalizeTrustedDeviceMac mac = .ok assignment.1 := by
  obtain ⟨mac, hmac, hlength, hdigits, hpolicy, hwords⟩ := h
  have hended : words ['!'] = [['!']] := by decide
  have hassigned : ∀ rest, hostAssignment ["host".toList, mac, "policy".toList,
      assignment.2.toList] = some rest ↔ rest = (String.ofList mac, assignment.2) := by
    intro rest
    have hcondition : "host".toList = "host".toList ∧ "policy".toList = "policy".toList ∧
        mac.length = 17 ∧ mac.all (fun c => isHexDigit c || c = ':') = true ∧
        (nativeNumber "Policy" (String.ofList assignment.2.toList)).isSome :=
      ⟨rfl, rfl, hlength, hdigits, by rw [String.ofList_toList]; exact hpolicy⟩
    rw [hostAssignment, if_pos hcondition, String.ofList_toList, Option.some.injEq, eq_comm]
  rcases hwords with hwords | hwords
  · refine ⟨words_ne_nil hwords, ?_, ?_, ?_, String.ofList mac, ?_, hmac⟩
    · rintro rfl
      cases hended.symm.trans hwords
    · simp only [interfaceId, hwords]
    · simp only [policySectionId, hwords]
    · simp only [lineAssignment, hwords]
      rw [if_neg fun hcondition => absurd hcondition.1 (by decide)]
      exact (hassigned _).mpr rfl
  · refine ⟨words_ne_nil hwords, ?_, ?_, ?_, String.ofList mac, ?_, hmac⟩
    · rintro rfl
      cases hended.symm.trans hwords
    · simp only [interfaceId, hwords]
    · simp only [policySectionId, hwords]
    · simp only [lineAssignment, hwords, and_self, if_true]
      exact (hassigned _).mpr rfl

end RouterKit.Netcraze
