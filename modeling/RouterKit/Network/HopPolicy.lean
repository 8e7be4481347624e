import RouterKit.Network.AddressSet
import RouterKit.Network.Delivery

/-!
What the hop records of a run show: every URL was validated, every connection
went to an address that was accepted for its own hop, no identity occurs twice,
and the redirect and byte limits hold.
-/

namespace RouterKit.Network

open RouterKit.Lib RouterKit.Lib.Checked RouterKit.Lib.IpText RouterKit.Lib.Url
open RouterKit.Lib.Effects RouterKit.Lib.Effects.Effect

/-- The address a pinned connection is opened to: `PinnedHTTPSConnection`
validates what it is given once more. -/
def pinnedAddress (classes : AddressClasses) (address : List Char) : Except Raised (List Char) := do
  match ← validateAddressSet classes [address] with
  | pinned :: _ => .ok pinned
  | [] => .error .otherException

/-- The address is the validated literal of the hop's URL, or one of a set that
was accepted from the resolver's reply in this hop. -/
def AcceptedFor (platform : Platform) (hop : Hop) (address : List Char) : Prop :=
  hop.url.literalAddress = some address ∨
    ∃ values accepted, hop.resolved = some values ∧
      validateAddressSet platform.classes values = .ok accepted ∧ address ∈ accepted

/-- The records of a run so far, the newest first; `ok` is the policy for URLs,
which may treat the first one differently. -/
structure Policed (platform : Platform) (ok : Bool → ValidatedUrl → Prop) (hops : List Hop) :
    Prop where
  urls : ∀ later hop earlier, hops = later ++ hop :: earlier → ok earlier.isEmpty hop.url
  connections : ∀ hop ∈ hops, ∀ address ∈ hop.connections, AcceptedFor platform hop address
  distinct : (hops.map (·.url.canonicalIdentity)).Nodup

/-- The newest hop of this URL connects to accepted addresses only. -/
def Connecting (platform : Platform) (url : ValidatedUrl) (earlier : List Hop)
    (addresses : List (List Char)) (hops : List Hop) : Prop :=
  ∃ hop, hops = hop :: earlier ∧ hop.url = url ∧
    (∀ address ∈ hop.connections, AcceptedFor platform hop address) ∧
    ∀ address ∈ addresses, AcceptedFor platform hop address

variable {platform : Platform} {url : ValidatedUrl} {earlier : List Hop}
variable {addresses : List (List Char)} {ok : Bool → ValidatedUrl → Prop}

theorem policed_nil : Policed platform ok [] := by
  refine ⟨?_, by simp, by simp⟩
  intro later hop earlier h
  simp at h

/-- A finished hop extends a policed run. -/
theorem Policed.cons {hops : List Hop} (h : Policed platform ok earlier)
    (hconnecting : Connecting platform url earlier addresses hops) (hok : ok earlier.isEmpty url)
    (hnew : url.canonicalIdentity ∉ earlier.map (·.url.canonicalIdentity)) :
    Policed platform ok hops := by
  obtain ⟨hop, rfl, rfl, hconnections, -⟩ := hconnecting
  refine ⟨?_, ?_, ?_⟩
  · intro later other before hsplit
    cases later with
    | nil =>
        obtain ⟨rfl, rfl⟩ := List.cons.inj hsplit
        exact hok
    | cons first later => exact h.urls later other before (List.cons.inj hsplit).2
  · intro other hother
    rcases List.mem_cons.mp hother with rfl | hother
    · exact hconnections
    · exact h.connections other hother
  · rw [List.map_cons, List.nodup_cons]
    exact ⟨hnew, h.distinct⟩

theorem Connecting.connect {hops : List Hop} {address : List Char}
    (h : Connecting platform url earlier addresses hops) (haddress : address ∈ addresses) :
    Connecting platform url earlier addresses
      (hops.modifyHead fun hop => { hop with connections := address :: hop.connections }) := by
  obtain ⟨hop, rfl, hurl, hconnections, hall⟩ := h
  refine ⟨{ hop with connections := address :: hop.connections }, rfl, hurl, ?_, hall⟩
  intro other hother
  rcases List.mem_cons.mp hother with rfl | hother
  · exact hall other haddress
  · exact hconnections other hother

theorem Connecting.examine {hops : List Hop} {response : Response}
    (h : Connecting platform url earlier addresses hops) :
    Connecting platform url earlier addresses
      (hops.modifyHead fun hop => { hop with response := some response }) := by
  obtain ⟨hop, rfl, hurl, hconnections, hall⟩ := h
  exact ⟨{ hop with response := some response }, rfl, hurl, hconnections, hall⟩

/-- An accepted address is the text of an acceptable one. -/
theorem accepted_is_text {classes : AddressClasses} {values accepted : List (List Char)}
    (h : validateAddressSet classes values = .ok accepted) {address : List Char}
    (haddress : address ∈ accepted) :
    ∃ a : IpAddress, a.Valid ∧ Acceptable classes a ∧ address = a.text := by
  have hstep : ∀ values (before after : AcceptedAddresses),
      acceptAddresses classes before values = .ok after →
      (∀ entry ∈ before, ∃ a : IpAddress, a.Valid ∧ Acceptable classes a ∧ entry.2 = a.text) →
      ∀ entry ∈ after, ∃ a : IpAddress, a.Valid ∧ Acceptable classes a ∧ entry.2 = a.text := by
    intro values
    induction values with
    | nil =>
        intro before after hrun hbefore
        obtain rfl := Except.ok.inj hrun
        exact hbefore
    | cons value rest ih =>
        intro before after hrun hbefore
        simp only [acceptAddresses, bind_eq_ok] at hrun
        obtain ⟨middle, hfirst, hrest⟩ := hrun
        obtain ⟨a, hread, hacceptable, rfl⟩ := acceptAddress_eq_ok.mp hfirst
        apply ih _ after hrest
        intro entry hentry
        unfold remember Keyed.touch at hentry
        split at hentry
        · obtain ⟨known, hknown, rfl⟩ := List.mem_map.mp hentry
          split
          · exact ⟨a, ipAddress_valid hread, hacceptable, rfl⟩
          · exact hbefore known hknown
        · rcases List.mem_append.mp hentry with hknown | hnew
          · exact hbefore entry hknown
          · obtain rfl := List.mem_singleton.mp hnew
            exact ⟨a, ipAddress_valid hread, hacceptable, rfl⟩
  simp only [validateAddressSet, bind_eq_ok, raiseIf_eq_ok, exists_unit] at h
  obtain ⟨-, entries, hrun, -, hresult⟩ := h
  obtain rfl := Except.ok.inj hresult
  obtain ⟨entry, hentry, rfl⟩ := List.mem_map.mp haddress
  have hmem := (Keyed.sortByKey_perm Prod.fst entries).mem_iff.mp hentry
  exact hstep values [] entries hrun (by simp) entry hmem

/-- A connection is pinned to the accepted address it was asked for. -/
theorem pinnedAddress_of_accepted {classes : AddressClasses} {values accepted : List (List Char)}
    (h : validateAddressSet classes values = .ok accepted) {address : List Char}
    (haddress : address ∈ accepted) : pinnedAddress classes address = .ok address := by
  obtain ⟨a, hvalid, hacceptable, rfl⟩ := accepted_is_text h haddress
  have hone : acceptAddress classes [] a.text = .ok (remember [] a) :=
    acceptAddress_eq_ok.mpr ⟨a, ipAddress_text hvalid, hacceptable, rfl⟩
  have hsingle : validateAddressSet classes [a.text] = .ok [a.text] := by
    simp [validateAddressSet, acceptAddresses, hone, remember, Keyed.touch, Keyed.sortByKey,
      maxDnsAddresses]
  rw [pinnedAddress, hsingle]
  rfl

/-- The host of a validated URL is a canonical one. -/
theorem host_of_validated {text : List Char} (h : validateHttpsUrl platform text = .ok url) :
    ∃ hostname, canonicalHost platform hostname = .ok (url.hostname, url.literalAddress) := by
  simp only [validateHttpsUrl, bind_eq_ok, raiseIf_eq_ok, exists_unit] at h
  obtain ⟨-, -, -, h⟩ := h
  split at h
  · cases h
  · split at h
    · cases h
    · simp only [bind_eq_ok, raiseIf_eq_ok, exists_unit] at h
      obtain ⟨-, -, -, -, -, ⟨host, literal⟩, hhost, hurl⟩ := h
      obtain rfl := Except.ok.inj hurl
      exact ⟨_, hhost⟩

/-- The literal of a validated URL was accepted when the URL was validated. -/
theorem literal_accepted {text : List Char} (h : validateHttpsUrl platform text = .ok url)
    {literal : List Char} (hliteral : url.literalAddress = some literal) :
    ∃ value accepted, validateAddressSet platform.classes [value] = .ok accepted ∧
      literal ∈ accepted := by
  obtain ⟨hostname, hhost⟩ := host_of_validated h
  unfold canonicalHost at hhost
  split at hhost
  · simp only [bind_eq_ok, pure_eq_ok] at hhost
    obtain ⟨host, -, hpair⟩ := hhost
    rw [← (Prod.mk.inj hpair).2] at hliteral
    cases hliteral
  · next address _ =>
    simp only [bind_eq_ok] at hhost
    obtain ⟨accepted, haccepted, hpair⟩ := hhost
    split at hpair
    · next first rest =>
      rw [← (Prod.mk.inj (Except.ok.inj hpair)).2] at hliteral
      obtain rfl := Option.some.inj hliteral
      exact ⟨_, _, haccepted, List.mem_cons_self⟩
    · cases hpair

theorem isAsciiAlnum_asciiLower {c : Char} (h : isAsciiAlnum c = true) :
    isAsciiAlnum (PyText.asciiLower c) = true := by
  unfold PyText.asciiLower
  split
  · next hupper =>
    simp only [Bool.and_eq_true, decide_eq_true_eq] at hupper
    have hvalue : (Char.ofNat (c.toNat + 0x20)).toNat = c.toNat + 0x20 := by
      have hall : ∀ n < 0x5b, (Char.ofNat (n + 0x20)).toNat = n + 0x20 := by decide
      exact hall c.toNat (by omega)
    simp only [isAsciiAlnum, isAsciiLetter, PyText.isAsciiDigit, hvalue, Bool.or_eq_true,
      Bool.and_eq_true, decide_eq_true_eq]
    omega
  · exact h

private theorem head_of_encodeLabel {label encoded : List Char}
    (h : encodeLabel platform label = .ok encoded) :
    ∃ c tail, encoded = c :: tail ∧ isAsciiAlnum c = true := by
  unfold encodeLabel at h
  split at h
  · next raw _ =>
    split at h
    · cases h
    · next hlabel =>
      obtain rfl := Except.ok.inj h
      simp only [Bool.or_eq_true, Bool.not_eq_true', not_or, Bool.not_eq_false, isHostLabel,
        Bool.and_eq_true] at hlabel
      cases raw with
      | nil => simp at hlabel
      | cons c tail =>
          exact ⟨_, _, rfl, isAsciiAlnum_asciiLower (by simpa using hlabel.2.1.2)⟩
  · cases h

/-- A domain host starts with a letter or a digit. -/
theorem head_of_domain {text : List Char} (h : validateHttpsUrl platform text = .ok url)
    (hliteral : url.literalAddress = none) : url.hostname.head?.any isAsciiAlnum = true := by
  obtain ⟨hostname, hhost⟩ := host_of_validated h
  unfold canonicalHost at hhost
  split at hhost
  · simp only [bind_eq_ok, pure_eq_ok] at hhost
    obtain ⟨host, hdomain, hpair⟩ := hhost
    rw [← (Prod.mk.inj hpair).1]
    simp only [validateDomain, bind_eq_ok, raiseIf_eq_ok, exists_unit] at hdomain
    obtain ⟨-, -, encoded, hencoded, -, -, hcanonical⟩ := hdomain
    obtain rfl := Except.ok.inj hcanonical
    have hlabels := mapEach_eq_ok.mp hencoded
    cases encoded with
    | nil => exact absurd (List.forall₂_nil_right_iff.mp hlabels) (List.splitOn_ne_nil _ _)
    | cons first rest =>
        obtain ⟨label, -, hfirst, -, -⟩ := List.forall₂_cons_right_iff.mp hlabels
        obtain ⟨c, tail, rfl, hc⟩ := head_of_encodeLabel hfirst
        cases rest with
        | nil => simpa using hc
        | cons second rest => simpa [List.intercalate, List.intersperse] using hc
  · simp only [bind_eq_ok] at hhost
    obtain ⟨accepted, -, hpair⟩ := hhost
    split at hpair
    · rw [← (Prod.mk.inj (Except.ok.inj hpair)).2] at hliteral
      cases hliteral
    · cases hpair

/-- Every connection of a hop is pinned to the address it records. -/
theorem pinned_of_acceptedFor {text : List Char} {hop : Hop}
    (h : validateHttpsUrl platform text = .ok hop.url) {address : List Char}
    (haddress : AcceptedFor platform hop address) :
    pinnedAddress platform.classes address = .ok address := by
  rcases haddress with hliteral | ⟨values, accepted, -, haccepted, hmem⟩
  · obtain ⟨value, accepted, haccepted, hmem⟩ := literal_accepted h hliteral
    exact pinnedAddress_of_accepted haccepted hmem
  · exact pinnedAddress_of_accepted haccepted hmem

/-- The newest hop of this URL has not connected. -/
def Started (url : ValidatedUrl) (earlier hops : List Hop) : Prop :=
  ∃ hop, hops = hop :: earlier ∧ hop.url = url ∧ hop.connections = []

theorem Started.connecting {hops : List Hop} (h : Started url earlier hops) :
    Connecting platform url earlier [] hops := by
  obtain ⟨hop, rfl, hurl, hnone⟩ := h
  exact ⟨hop, rfl, hurl, by simp [hnone], by simp⟩

theorem Connecting.forget {hops : List Hop} (h : Connecting platform url earlier addresses hops) :
    Connecting platform url earlier [] hops := by
  obtain ⟨hop, hhops, hurl, hconnections, -⟩ := h
  exact ⟨hop, hhops, hurl, hconnections, by simp⟩

/-- The recorded reply accounts for the addresses accepted from it. -/
theorem Started.resolve {hops : List Hop} {values accepted : List (List Char)}
    (h : Started url earlier hops)
    (haccepted : validateAddressSet platform.classes values = .ok accepted) :
    Connecting platform url earlier accepted
      (hops.modifyHead fun hop => { hop with resolved := some values }) := by
  obtain ⟨hop, rfl, hurl, hnone⟩ := h
  refine ⟨{ hop with resolved := some values }, rfl, hurl, by simp [hnone], ?_⟩
  intro address haddress
  exact .inr ⟨values, accepted, rfl, haccepted, haddress⟩

theorem Started.record {hops : List Hop} {values : List (List Char)}
    (h : Started url earlier hops) :
    Started url earlier (hops.modifyHead fun hop => { hop with resolved := some values }) := by
  obtain ⟨hop, rfl, hurl, hnone⟩ := h
  exact ⟨{ hop with resolved := some values }, rfl, hurl, hnone⟩

section Hops

variable {σ δ α : Type} {I : List Hop → Prop} {p : Raised → Prop}
variable (env : Environment σ) (storage : Storage σ) (sha256 : List UInt8 → δ)

/-- A safe step keeps the property on both ways out. -/
theorem Safe.keeps {m : Net σ α} (h : Safe I p m) :
    Triple (fun s => I s.hops) m (fun _ s => I s.hops) (fun _ s => I s.hops) :=
  Triple.weaken h (fun _ hs => hs) (fun _ _ hs => hs) fun _ _ hs => hs.2

/-- Recording a reply and validating it. -/
private theorem resolve_triple (values : List (List Char)) :
    Triple (fun s : Session σ => Started url earlier s.hops)
      (do
        recordHop fun hop => { hop with resolved := some values }
        lift (validateAddressSet platform.classes values))
      (fun addresses s => Connecting platform url earlier addresses s.hops)
      (fun _ s => Connecting platform url earlier [] s.hops) := by
  intro s hs
  cases hvalidate : validateAddressSet platform.classes values with
  | ok accepted => exact hs.resolve hvalidate
  | error e => exact Started.connecting (Started.record hs)

theorem hopAddresses_triple (deadline : Int) :
    Triple (fun s => Started url earlier s.hops) (hopAddresses env platform url deadline)
      (fun addresses s => Connecting platform url earlier addresses s.hops)
      (fun _ s => Connecting platform url earlier [] s.hops) := by
  have hstarted : ∀ {α : Type} {m : Net σ α} {p : Raised → Prop},
      Safe (Started url earlier) p m → Triple (fun s => Started url earlier s.hops) m
        (fun _ s => Started url earlier s.hops)
        (fun _ s => Connecting platform url earlier [] s.hops) := by
    intro α m p h
    exact Triple.weaken h (fun _ hs => hs) (fun _ _ hs => hs) fun _ _ hs => hs.2.connecting
  unfold hopAddresses
  split
  · next literal hliteral =>
    apply Triple.pure
    rintro s ⟨hop, hhops, hurl, hnone⟩
    refine ⟨hop, hhops, hurl, by simp [hnone], ?_⟩
    intro address haddress
    obtain rfl := List.mem_singleton.mp haddress
    exact .inl (by rw [hurl, hliteral])
  · apply Triple.bind (hstarted (remaining_safe env deadline))
    intro time
    apply Triple.bind
    · apply @hstarted _ _ (fun _ => True)
      apply Safe.ask.handle
      intro e _
      split
      · exact Safe.raise trivial
      · exact Safe.raise trivial
    intro resolved
    exact resolve_triple resolved

theorem archiveAddresses_triple (deadline : Int) :
    Triple (fun s => Started url earlier s.hops) (archiveAddresses env platform url deadline)
      (fun addresses s => Connecting platform url earlier addresses s.hops)
      (fun _ s => Connecting platform url earlier [] s.hops) := by
  have hstarted : ∀ {α : Type} {m : Net σ α} {p : Raised → Prop},
      Safe (Started url earlier) p m → Triple (fun s => Started url earlier s.hops) m
        (fun _ s => Started url earlier s.hops)
        (fun _ s => Connecting platform url earlier [] s.hops) := by
    intro α m p h
    exact Triple.weaken h (fun _ hs => hs) (fun _ _ hs => hs) fun _ _ hs => hs.2.connecting
  unfold archiveAddresses
  apply Triple.handle (F := fun _ s => Connecting platform url earlier [] s.hops)
  · apply Triple.bind (hstarted (remaining_safe env deadline))
    intro time
    apply Triple.bind (hstarted Safe.ask)
    intro resolved
    exact resolve_triple resolved
  · intro e
    split
    · exact Triple.raise fun _ hs => hs
    · exact Triple.raise fun _ hs => hs

/-- A request connects to addresses of its own hop. -/
theorem requestOneHop_connecting (deadline : Int) :
    Safe (Connecting platform url earlier addresses) IsProfileNetwork
      (requestOneHop env url deadline addresses) := by
  apply requestOneHop_safe
  intro address haddress hops hconnecting
  exact hconnecting.connect haddress

theorem examine_connecting (response : Response) :
    Safe (Connecting platform url earlier addresses) p
      (recordHop fun hop => { hop with response := some response } : Net σ Unit) := by
  apply Safe.recordHop
  intro hops hconnecting
  exact hconnecting.examine

theorem readBodyBounded_le (maximum : Nat) (deadline : Int) :
    Triple (fun s => I s.hops) (readBodyBounded env maximum deadline)
      (fun body s => I s.hops ∧ body.length ≤ maximum) (fun _ s => I s.hops) := by
  unfold readBodyBounded
  apply Triple.bind (readRounds_safe env deadline (maximum + 1) []).keeps
  intro body
  apply Triple.bind (Q := fun _ s => I s.hops ∧ body.length ≤ maximum)
  · exact Triple.raiseIf (fun _ _ hs => hs) fun hle _ hs => ⟨hs, by omega⟩
  intro _
  exact Triple.pure fun _ hs => hs

theorem utf8Length_eq (text : List Char) : utf8Length text = (String.ofList text).utf8ByteSize := by
  induction text with
  | nil => rfl
  | cons c rest ih =>
      rw [← List.singleton_append, String.ofList_append, String.utf8ByteSize_append, ← ih]
      simp [utf8Length]

/-- A decoded text takes as many bytes as it was read from. -/
theorem decodeUtf8_length {bytes : List UInt8} {text : List Char}
    (h : decodeUtf8 bytes = some text) : utf8Length text = bytes.length := by
  unfold decodeUtf8 String.fromUTF8? at h
  split at h
  · rw [utf8Length_eq, ← Option.some.inj h, String.ofList_toList]
    rfl
  · cases h

theorem decodeUtf8Sig_length {bytes : List UInt8} {text : List Char}
    (h : decodeUtf8Sig bytes = some text) : utf8Length text ≤ bytes.length := by
  unfold decodeUtf8Sig at h
  split at h
  · rw [decodeUtf8_length h]
    simp only [List.length_cons]
    omega
  · exact (decodeUtf8_length h).le

/-- The returned text takes no more bytes than were read, and these are counted. -/
def ResolvedPayload.Fits (payload : ResolvedPayload) (maximum : Nat) : Prop :=
  utf8Length payload.payload ≤ payload.byteCount ∧ payload.byteCount ≤ maximum

theorem finishSource_le (limits : SourceLimits) (deadline : Int) (redirectCount : Nat)
    (response : Response) :
    Triple (fun s => I s.hops) (finishSource env platform limits deadline redirectCount response)
      (fun payload s => I s.hops ∧ payload.Fits limits.maxResponseBytes.toNat)
      (fun _ s => I s.hops) := by
  unfold finishSource
  apply Triple.bind (Q := fun _ s => I s.hops)
  · exact Triple.raiseIf (fun _ _ hs => hs) fun _ _ hs => hs
  intro _
  apply Triple.bind (Q := fun _ s => I s.hops)
  · exact Triple.lift (fun _ _ _ hs => hs) fun _ _ _ hs => hs
  intro length
  apply Triple.bind (readBodyBounded_le env _ deadline)
  intro body
  apply Triple.bind (Q := fun _ s => I s.hops ∧ body.length ≤ limits.maxResponseBytes.toNat)
  · exact Triple.raiseIf (fun _ _ hs => hs.1) fun _ _ hs => hs
  intro _
  split
  · exact Triple.raise fun _ hs => hs.1
  · next payload hdecoded =>
    exact Triple.pure fun _ hs => ⟨hs.1, decodeUtf8Sig_length hdecoded, hs.2⟩

/-- What the next round of a loop relies on: the outcome is bounded, and the next
URL follows the policy. -/
def Outcome {β : Type} (fits : β → Prop) (ok : ValidatedUrl → Prop) : β ⊕ ValidatedUrl → Prop
  | .inl result => fits result
  | .inr next => ok next

/-- A validated URL. -/
def IsValidated (platform : Platform) (url : ValidatedUrl) : Prop :=
  ∃ text, validateHttpsUrl platform text = .ok url

theorem nextSource_validated {response : Response} {next : ValidatedUrl}
    (h : nextSource platform url response = .ok next) : IsValidated platform next := by
  simp only [nextSource, bind_eq_ok, mapError_eq_ok] at h
  obtain ⟨location, -, h⟩ := h
  split at h
  · cases h
  · next combined _ => exact ⟨combined, h⟩

theorem sourceHop_policed (limits : SourceLimits) (deadline : Int) (left redirectCount : Nat) :
    Triple (fun s => Started url earlier s.hops)
      (sourceHop env platform limits deadline left redirectCount url)
      (fun outcome s => Connecting platform url earlier [] s.hops ∧
        Outcome (·.Fits limits.maxResponseBytes.toNat) (IsValidated platform) outcome)
      (fun _ s => Connecting platform url earlier [] s.hops) := by
  unfold sourceHop
  apply Triple.bind (hopAddresses_triple env deadline)
  intro addresses
  apply Triple.andFinally
  have hrequest : Safe (Connecting platform url earlier addresses) IsProfileNetwork
      (requestOneHop env url deadline addresses) := requestOneHop_connecting env deadline
  apply Triple.weaken (P := fun s => Connecting platform url earlier addresses s.hops)
    (Q := fun outcome s => Connecting platform url earlier addresses s.hops ∧
      Outcome (·.Fits limits.maxResponseBytes.toNat) (IsValidated platform) outcome)
    (E := fun _ s => Connecting platform url earlier addresses s.hops)
  · apply Triple.bind hrequest.keeps
    intro response
    apply Triple.bind (@examine_connecting platform url earlier addresses σ IsProfileNetwork
      response).keeps
    intro _
    apply Triple.bind (Q := fun _ s => Connecting platform url earlier addresses s.hops)
    · exact Triple.raiseIf (fun _ _ hs => hs) fun _ _ hs => hs
    intro _
    split
    · apply Triple.bind (Q := fun _ s => Connecting platform url earlier addresses s.hops)
      · exact Triple.raiseIf (fun _ _ hs => hs) fun _ _ hs => hs
      intro _
      apply Triple.bind (Q := fun next s => Connecting platform url earlier addresses s.hops ∧
        IsValidated platform next)
      · exact Triple.lift (fun next hnext _ hs => ⟨hs, nextSource_validated hnext⟩)
          fun _ _ _ hs => hs
      intro next
      exact Triple.pure fun _ hs => hs
    · apply Triple.bind (finishSource_le env limits deadline redirectCount response)
      intro payload
      exact Triple.pure fun _ hs => hs
  · exact fun _ hs => hs
  · exact fun _ _ hs => ⟨hs.1.forget, hs.2⟩
  · exact fun _ _ hs => hs.forget

theorem streamRounds_le (deadline : Int) {maximum : Nat} (room : Nat) (body : List UInt8)
    (hroom : 0 < room) (hbody : body.length + room = maximum + 1) :
    Triple (fun s => I s.hops) (streamRounds env storage deadline room body)
      (fun result s => I s.hops ∧ result.length ≤ maximum) (fun _ s => I s.hops) := by
  induction room using Nat.strong_induction_on generalizing body with
  | _ room ih =>
      cases room with
      | zero => omega
      | succ room =>
          unfold streamRounds
          apply Triple.bind (archiveRemaining_safe env deadline).keeps
          intro _
          apply Triple.bind (Q := fun _ s => I s.hops)
          · apply Triple.handle (F := fun _ s => I s.hops)
            · exact Triple.weaken Safe.ask.keeps (fun _ hs => hs) (fun _ _ hs => hs)
                fun _ _ hs => hs
            · exact fun _ => Triple.raise fun _ hs => hs
          intro chunk
          split
          · exact Triple.raise fun _ hs => hs
          · exact Triple.pure fun _ hs => ⟨hs, by omega⟩
          · next byte more =>
            apply Triple.bind (Q := fun _ s => I s.hops)
            · exact Triple.raiseIf (fun _ _ hs => hs) fun _ _ hs => hs
            intro _
            by_cases hfull : room - more.length = 0
            · intro s hs
              simp only [bind, Effect.raiseIf, Checked.raiseIf, if_pos hfull]
              exact hs
            · apply Triple.bind (Q := fun _ s => I s.hops)
              · exact Triple.raiseIf (fun _ _ hs => hs) fun _ _ hs => hs
              intro _
              apply Triple.bind (writeAll_safe storage _ _).keeps
              intro _
              apply ih (room - more.length) (by omega) _ (by omega)
              rw [List.length_append, List.length_cons]
              omega

theorem finishArchive_le (limits : ArchiveLimits) (deadline : Int) (redirects : Nat)
    (response : Response) :
    Triple (fun s => I s.hops)
      (finishArchive env storage platform sha256 limits deadline redirects response)
      (fun download s => I s.hops ∧ download.byteCount ≤ limits.maxArchiveBytes.toNat)
      (fun _ s => I s.hops) := by
  unfold finishArchive
  apply Triple.bind (Q := fun _ s => I s.hops)
  · exact Triple.raiseIf (fun _ _ hs => hs) fun _ _ hs => hs
  intro _
  apply Triple.bind (Q := fun _ s => I s.hops)
  · exact Triple.lift (fun _ _ _ hs => hs) fun _ _ _ hs => hs
  intro length
  apply Triple.bind (openDestination_safe storage).keeps
  intro _
  have hstream : Triple (fun s => I s.hops)
      (streamRounds env storage deadline (limits.maxArchiveBytes.toNat + 1) [])
      (fun body s => I s.hops ∧ body.length ≤ limits.maxArchiveBytes.toNat) (fun _ s => I s.hops) :=
    streamRounds_le env storage deadline _ [] (by omega) (by simp)
  apply Triple.bind hstream
  intro body
  apply Triple.bind (Q := fun _ s => I s.hops ∧ body.length ≤ limits.maxArchiveBytes.toNat)
  · exact Triple.raiseIf (fun _ _ hs => hs.1) fun _ _ hs => hs
  intro _
  apply Triple.bind (Q := fun _ s => I s.hops ∧ body.length ≤ limits.maxArchiveBytes.toNat)
  · intro s hs
    unfold fsyncDestination
    rcases storage.fsync s.world with ⟨succeeds, world⟩
    cases succeeds
    · exact hs.1
    · exact hs
  intro _
  exact Triple.pure fun _ hs => hs

/-- The host policy of the archive. -/
def IsArchiveUrl (platform : Platform) (isInitial : Bool) (url : ValidatedUrl) : Prop :=
  IsValidated platform url ∧ url.literalAddress = none ∧ allowedHost url.hostname isInitial = true

theorem validateHop_archive {text : List Char} {isInitial : Bool} {next : ValidatedUrl}
    (h : validateHop platform text isInitial = .ok next) :
        IsArchiveUrl platform isInitial next := by
  simp only [validateHop, bind_eq_ok, mapError_eq_ok, raiseIf_eq_ok, exists_unit, pure_eq_ok] at h
  obtain ⟨validated, hvalidated, hpolicy, rfl⟩ := h
  simp only [not_or, Bool.not_eq_true, Option.isSome_eq_false_iff, Option.isNone_iff_eq_none]
    at hpolicy
  exact ⟨⟨text, hvalidated⟩, hpolicy.1, by simpa using hpolicy.2⟩

theorem nextArchiveHop_archive {response : Response} {next : ValidatedUrl}
    (h : nextArchiveHop platform url response = .ok next) : IsArchiveUrl platform false next := by
  simp only [nextArchiveHop, mapError_eq_ok, bind_eq_ok] at h
  obtain ⟨location, -, h⟩ := h
  split at h
  · cases h
  · exact validateHop_archive h

theorem archiveHop_policed (limits : ArchiveLimits) (deadline : Int) (left redirects : Nat) :
    Triple (fun s => Started url earlier s.hops)
      (archiveHop env storage platform sha256 limits deadline left redirects url)
      (fun outcome s => Connecting platform url earlier [] s.hops ∧
        Outcome (fun download => download.byteCount ≤ limits.maxArchiveBytes.toNat)
          (IsArchiveUrl platform false) outcome)
      (fun _ s => Connecting platform url earlier [] s.hops) := by
  unfold archiveHop
  apply Triple.bind (archiveAddresses_triple env deadline)
  intro addresses
  apply Triple.andFinally
  have hrequest : Safe (Connecting platform url earlier addresses) IsProfileNetwork
      (requestOneHop env url deadline addresses) := requestOneHop_connecting env deadline
  apply Triple.weaken (P := fun s => Connecting platform url earlier addresses s.hops)
    (Q := fun outcome s => Connecting platform url earlier addresses s.hops ∧
      Outcome (fun download => download.byteCount ≤ limits.maxArchiveBytes.toNat)
        (IsArchiveUrl platform false) outcome)
    (E := fun _ s => Connecting platform url earlier addresses s.hops)
  · apply Triple.handle (F := fun _ s => Connecting platform url earlier addresses s.hops)
    · unfold archiveExchange
      apply Triple.bind hrequest.keeps
      intro response
      apply Triple.bind (@examine_connecting platform url earlier addresses σ IsProfileNetwork
        response).keeps
      intro _
      split
      · apply Triple.bind (Q := fun _ s => Connecting platform url earlier addresses s.hops)
        · exact Triple.raiseIf (fun _ _ hs => hs) fun _ _ hs => hs
        intro _
        apply Triple.bind (Q := fun next s => Connecting platform url earlier addresses s.hops ∧
          IsArchiveUrl platform false next)
        · exact Triple.lift (fun next hnext _ hs => ⟨hs, nextArchiveHop_archive hnext⟩)
            fun _ _ _ hs => hs
        intro next
        exact Triple.pure fun _ hs => hs
      · apply Triple.bind (finishArchive_le env storage sha256 limits deadline redirects response)
        intro download
        exact Triple.pure fun _ hs => hs
    · intro e s hs
      cases e with
      | artifactNetwork message => exact hs
      | profileNetwork kind message => exact hs
      | valueError => exact hs
      | otherException => exact hs
  · exact fun _ hs => hs
  · exact fun _ _ hs => ⟨hs.1.forget, hs.2⟩
  · exact fun _ _ hs => hs.forget

/-- A loop may go on with this URL and `left` redirects. -/
structure Ready (platform : Platform) (ok : Bool → ValidatedUrl → Prop)
    (visited : List (List Char × List Char × List Char × List Char)) (left maxRedirects : Nat)
    (current : ValidatedUrl) (hops : List Hop) : Prop where
  policed : Policed platform ok hops
  visited_eq : hops.map (·.url.canonicalIdentity) = visited
  length : hops.length + left = maxRedirects
  current : ok hops.isEmpty current

/-- What holds of the records whenever a loop ends. -/
def Ended (platform : Platform) (ok : Bool → ValidatedUrl → Prop) (maxRedirects : Nat)
    (hops : List Hop) : Prop :=
  Policed platform ok hops ∧ hops.length ≤ maxRedirects + 1

/-- One round of either loop: a hop of a new identity, and what follows it. -/
theorem round_policed {β : Type} {fits : β → Prop} {left maxRedirects : Nat}
    {visited : List (List Char × List Char × List Char × List Char)} {current : ValidatedUrl}
    {check : Net σ Int} (hcheck : ∀ I : List Hop → Prop, Safe I p check) (error : Raised)
    {hop : Net σ (β ⊕ ValidatedUrl)} {next : β ⊕ ValidatedUrl → Net σ β}
    {Q : β → Session σ → Prop}
    (hhop : ∀ earlier, Triple (fun s => Started current earlier s.hops) hop
      (fun outcome s => Connecting platform current earlier [] s.hops ∧
        Outcome fits (ok false) outcome)
      (fun _ s => Connecting platform current earlier [] s.hops))
    (hnext : ∀ outcome, Triple (fun s => (Policed platform ok s.hops ∧
        s.hops.map (·.url.canonicalIdentity) = current.canonicalIdentity :: visited ∧
        s.hops.length + left = maxRedirects + 1) ∧ Outcome fits (ok false) outcome)
      (next outcome) Q (fun _ s => Ended platform ok maxRedirects s.hops)) :
    Triple (fun s => Ready platform ok visited left maxRedirects current s.hops)
      (do
        let _ ← check
        raiseIf (visited.contains current.canonicalIdentity) error
        beginHop current
        let outcome ← hop
        next outcome) Q (fun _ s => Ended platform ok maxRedirects s.hops) := by
  have hended : ∀ {hops}, Ready platform ok visited left maxRedirects current hops →
      Ended platform ok maxRedirects hops := by
    intro hops hready
    exact ⟨hready.policed, by have := hready.length; omega⟩
  apply Triple.bind (Q := fun _ s => Ready platform ok visited left maxRedirects current s.hops)
  · exact Triple.weaken (hcheck _).keeps (fun _ hs => hs) (fun _ _ hs => hs) fun _ _ hs => hended hs
  intro _
  apply Triple.bind (Q := fun _ s => Ready platform ok visited left maxRedirects current s.hops ∧
    current.canonicalIdentity ∉ visited)
  · exact Triple.raiseIf (fun _ _ hs => hended hs) fun hnew _ hs =>
      ⟨hs, fun hmem => hnew (List.contains_iff_mem.mpr hmem)⟩
  intro _ s hs
  obtain ⟨hready, hnew⟩ := hs
  -- the records before this hop are fixed from here on
  obtain ⟨earlier, hearlier⟩ : ∃ earlier, s.hops = earlier := ⟨_, rfl⟩
  rw [hearlier] at hready
  have hfinished : ∀ {hops}, Connecting platform current earlier [] hops →
      Policed platform ok hops ∧
        hops.map (·.url.canonicalIdentity) = current.canonicalIdentity :: visited ∧
        hops.length + left = maxRedirects + 1 := by
    intro hops hconnecting
    refine ⟨hready.policed.cons hconnecting hready.current ?_, ?_, ?_⟩
    · rwa [hready.visited_eq]
    · obtain ⟨newest, rfl, hurl, -⟩ := hconnecting
      rw [List.map_cons, hurl, hready.visited_eq]
    · obtain ⟨newest, rfl, -⟩ := hconnecting
      have := hready.length
      rw [List.length_cons]
      omega
  have hround : Triple (fun s => Started current earlier s.hops) (hop >>= next) Q
      (fun _ s => Ended platform ok maxRedirects s.hops) := by
    apply Triple.bind (Q := fun outcome s => (Policed platform ok s.hops ∧
      s.hops.map (·.url.canonicalIdentity) = current.canonicalIdentity :: visited ∧
      s.hops.length + left = maxRedirects + 1) ∧ Outcome fits (ok false) outcome)
    · apply Triple.weaken (hhop earlier) (fun _ h => h)
      · exact fun _ _ h => ⟨hfinished h.1, h.2⟩
      · intro _ s h
        obtain ⟨hpoliced, -, hlength⟩ := hfinished h
        exact ⟨hpoliced, by omega⟩
    · exact hnext
  exact hround { s with hops := { url := current } :: s.hops }
    ⟨{ url := current }, by rw [hearlier], rfl, rfl⟩

/-- The policy of the source loop treats every URL alike. -/
def SourceUrl (platform : Platform) (_isInitial : Bool) (url : ValidatedUrl) : Prop :=
  IsValidated platform url

theorem sourceLoop_policed (limits : SourceLimits) (deadline : Int) {maxRedirects : Nat}
    (left redirectCount : Nat) (visited : List (List Char × List Char × List Char × List Char))
    (current : ValidatedUrl) :
    Triple (fun s => Ready platform (SourceUrl platform) visited left maxRedirects current s.hops)
      (sourceLoop env platform limits deadline left redirectCount visited current)
      (fun payload s => Ended platform (SourceUrl platform) maxRedirects s.hops ∧
        payload.Fits limits.maxResponseBytes.toNat)
      (fun _ s => Ended platform (SourceUrl platform) maxRedirects s.hops) := by
  induction left generalizing redirectCount visited current with
  | zero =>
      unfold sourceLoop
      apply round_policed (fun I => (remaining_safe env deadline).weaken fun _ _ => trivial) _
        (fun earlier => sourceHop_policed env limits deadline 0 redirectCount)
      intro outcome
      split
      · exact Triple.pure fun s hs => ⟨⟨hs.1.1, by omega⟩, hs.2⟩
      · exact Triple.raise fun s hs => ⟨hs.1.1, by omega⟩
  | succ left ih =>
      unfold sourceLoop
      apply round_policed (fun I => (remaining_safe env deadline).weaken fun _ _ => trivial) _
        (fun earlier => sourceHop_policed env limits deadline (left + 1) redirectCount)
      intro outcome
      split
      · exact Triple.pure fun s hs => ⟨⟨hs.1.1, by omega⟩, hs.2⟩
      · next target =>
        apply Triple.weaken (ih (redirectCount + 1) (current.canonicalIdentity :: visited) target)
        · rintro s ⟨⟨hpoliced, hvisited, hlength⟩, hok⟩
          exact ⟨hpoliced, hvisited, by omega, hok⟩
        · exact fun _ _ hs => hs
        · exact fun _ _ hs => hs

theorem archiveLoop_policed (limits : ArchiveLimits) (deadline : Int) {maxRedirects : Nat}
    (left redirects : Nat) (visited : List (List Char × List Char × List Char × List Char))
    (current : ValidatedUrl) :
    Triple (fun s => Ready platform (IsArchiveUrl platform) visited left maxRedirects
        current s.hops)
      (archiveLoop env storage platform sha256 limits deadline left redirects visited current)
      (fun download s => Ended platform (IsArchiveUrl platform) maxRedirects s.hops ∧
        download.byteCount ≤ limits.maxArchiveBytes.toNat)
      (fun _ s => Ended platform (IsArchiveUrl platform) maxRedirects s.hops) := by
  induction left generalizing redirects visited current with
  | zero =>
      unfold archiveLoop
      apply round_policed (fun I => (archiveRemaining_safe env deadline).weaken
          fun _ _ => trivial) _
        (fun earlier => archiveHop_policed env storage sha256 limits deadline 0 redirects)
      intro outcome
      split
      · exact Triple.pure fun s hs => ⟨⟨hs.1.1, by omega⟩, hs.2⟩
      · exact Triple.raise fun s hs => ⟨hs.1.1, by omega⟩
  | succ left ih =>
      unfold archiveLoop
      apply round_policed (fun I => (archiveRemaining_safe env deadline).weaken
          fun _ _ => trivial) _
        (fun earlier => archiveHop_policed env storage sha256 limits deadline (left + 1) redirects)
      intro outcome
      split
      · exact Triple.pure fun s hs => ⟨⟨hs.1.1, by omega⟩, hs.2⟩
      · next target =>
        apply Triple.weaken (ih (redirects + 1) (current.canonicalIdentity :: visited) target)
        · rintro s ⟨⟨hpoliced, hvisited, hlength⟩, hok⟩
          have hlater : s.hops.isEmpty = false := by
            cases hhops : s.hops with
            | nil =>
                rw [hhops] at hvisited
                cases hvisited
            | cons hop rest => rfl
          exact ⟨hpoliced, hvisited, by omega, by rwa [hlater]⟩
        · exact fun _ _ hs => hs
        · exact fun _ _ hs => hs

theorem resolveHttpsSource_policed (limits : SourceLimits) (source : List Char) :
    Triple (fun s => s.hops = []) (resolveHttpsSource env platform limits source)
      (fun payload s => Ended platform (SourceUrl platform) limits.maxRedirects.toNat s.hops ∧
        payload.Fits limits.maxResponseBytes.toNat)
      (fun _ s => Ended platform (SourceUrl platform) limits.maxRedirects.toNat s.hops) := by
  have hended : ∀ {hops : List Hop}, hops = [] →
      Ended platform (SourceUrl platform) limits.maxRedirects.toNat hops := by
    rintro hops rfl
    exact ⟨policed_nil, by simp⟩
  unfold resolveHttpsSource
  apply Triple.bind (Q := fun _ s => s.hops = [])
  · exact Triple.raiseIf (fun _ _ hs => hended hs) fun _ _ hs => hs
  intro _
  apply Triple.bind (Q := fun _ s => s.hops = [])
  · exact Triple.lift (fun _ _ _ hs => hs) fun _ _ _ hs => hended hs
  intro value
  apply Triple.bind (Q := fun current s => s.hops = [] ∧ IsValidated platform current)
  · exact Triple.lift (fun current hcurrent _ hs => ⟨hs, value, hcurrent⟩) fun _ _ _ hs => hended hs
  intro current
  apply Triple.bind (Q := fun _ s => s.hops = [] ∧ IsValidated platform current)
  · exact fun s hs => hs
  intro time
  apply Triple.weaken (@sourceLoop_policed platform σ env limits (time + limits.overallTimeout)
    limits.maxRedirects.toNat limits.maxRedirects.toNat 0 [] current)
  · rintro s ⟨hs, hvalidated⟩
    rw [hs]
    exact ⟨policed_nil, rfl, by simp, hvalidated⟩
  · exact fun _ _ hs => hs
  · exact fun _ _ hs => hs

theorem downloadPinnedArchive_policed (limits : ArchiveLimits) (sourceUrl expectedUrl : List Char) :
    Triple (fun s => s.hops = [])
      (downloadPinnedArchive env storage platform sha256 limits sourceUrl expectedUrl)
      (fun download s => Ended platform (IsArchiveUrl platform) limits.maxRedirects.toNat s.hops ∧
        download.byteCount ≤ limits.maxArchiveBytes.toNat)
      (fun _ s => Ended platform (IsArchiveUrl platform) limits.maxRedirects.toNat s.hops) := by
  have hended : ∀ {hops : List Hop}, hops = [] →
      Ended platform (IsArchiveUrl platform) limits.maxRedirects.toNat hops := by
    rintro hops rfl
    exact ⟨policed_nil, by simp⟩
  unfold downloadPinnedArchive
  apply Triple.bind (Q := fun _ s => s.hops = [])
  · exact Triple.raiseIf (fun _ _ hs => hended hs) fun _ _ hs => hs
  intro _
  apply Triple.bind (Q := fun current s => s.hops = [] ∧ IsArchiveUrl platform true current)
  · exact Triple.lift (fun current hcurrent _ hs => ⟨hs, validateHop_archive hcurrent⟩)
      fun _ _ _ hs => hended hs
  intro current
  apply Triple.bind (Q := fun _ s => s.hops = [] ∧ IsArchiveUrl platform true current)
  · exact fun s hs => hs
  intro time
  apply Triple.weaken (@archiveLoop_policed platform σ δ env storage sha256 limits
    (time + limits.overallTimeout) limits.maxRedirects.toNat limits.maxRedirects.toNat 0 [] current)
  · rintro s ⟨hs, hvalidated⟩
    rw [hs]
    exact ⟨policed_nil, rfl, by simp, hvalidated⟩
  · exact fun _ _ hs => hs
  · exact fun _ _ hs => hs

end Hops

/-- An archive URL is at `github.com`, or later at a proper subdomain of
`githubusercontent.com`. -/
theorem IsArchiveUrl.host {isInitial : Bool} (h : IsArchiveUrl platform isInitial url) :
    url.hostname = "github.com".toList ∨
      isInitial = false ∧ ∃ label ≠ [], url.hostname = label ++
      ".githubusercontent.com".toList := by
  obtain ⟨⟨text, hvalidated⟩, hliteral, hallowed⟩ := h
  unfold allowedHost at hallowed
  split at hallowed
  · exact .inl (of_decide_eq_true hallowed)
  · next hlater =>
    rcases (Bool.or_eq_true _ _).mp hallowed with hgithub | hsuffix
    · exact .inl (of_decide_eq_true hgithub)
    · obtain ⟨label, hlabel⟩ :=
        List.isSuffixOf_iff_suffix.mp ((Bool.and_eq_true _ _).mp hsuffix).2
      refine .inr ⟨Bool.eq_false_of_not_eq_true hlater, label, ?_, hlabel.symm⟩
      rintro rfl
      have hhead := head_of_domain hvalidated hliteral
      rw [← hlabel] at hhead
      exact absurd hhead (by decide)

/-- What the records of one run show. -/
structure KeepsToPolicy (platform : Platform) (maxRedirects : Nat) (hops : List Hop) : Prop where
  validated : ∀ hop ∈ hops, ∃ text, validateHttpsUrl platform text = .ok hop.url
  accepted : ∀ hop ∈ hops, ∀ address ∈ hop.connections, AcceptedFor platform hop address
  pinned : ∀ hop ∈ hops, ∀ address ∈ hop.connections,
    pinnedAddress platform.classes address = .ok address
  bounded : hops.length ≤ maxRedirects + 1
  distinct : (hops.map (·.url.canonicalIdentity)).Nodup

theorem Ended.keepsToPolicy {maxRedirects : Nat} {hops : List Hop}
    (h : Ended platform ok maxRedirects hops)
    (hok : ∀ isInitial url, ok isInitial url → IsValidated platform url) :
    KeepsToPolicy platform maxRedirects hops := by
  obtain ⟨⟨hurls, hconnections, hdistinct⟩, hbounded⟩ := h
  have hvalidated : ∀ hop ∈ hops, IsValidated platform hop.url := by
    intro hop hhop
    obtain ⟨later, earlier, hsplit⟩ := List.append_of_mem hhop
    exact hok _ _ (hurls later hop earlier hsplit)
  refine ⟨hvalidated, hconnections, ?_, hbounded, hdistinct⟩
  intro hop hhop address haddress
  obtain ⟨text, htext⟩ := hvalidated hop hhop
  exact pinned_of_acceptedFor htext (hconnections hop hhop address haddress)

/-- The hosts of an archive: `github.com` first, then there or at a proper
subdomain of `githubusercontent.com`, and never a literal address. -/
def ArchiveHosts (hops : List Hop) : Prop :=
  ∀ later hop earlier, hops = later ++ hop :: earlier →
    hop.url.literalAddress = none ∧ (hop.url.hostname = "github.com".toList ∨
      earlier ≠ [] ∧ ∃ label ≠ [], hop.url.hostname = label ++ ".githubusercontent.com".toList)

theorem Ended.archiveHosts {maxRedirects : Nat} {hops : List Hop}
    (h : Ended platform (IsArchiveUrl platform) maxRedirects hops) : ArchiveHosts hops := by
  intro later hop earlier hsplit
  have hurl := h.1.urls later hop earlier hsplit
  refine ⟨hurl.2.1, ?_⟩
  rcases hurl.host with hgithub | ⟨hlater, hlabel⟩
  · exact .inl hgithub
  · exact .inr ⟨by simpa using hlater, hlabel⟩

section Runs

variable {σ δ : Type} (env : Environment σ) (storage : Storage σ) (sha256 : List UInt8 → δ)
variable {session : Session σ}

theorem resolveHttpsSource_keeps (limits : SourceLimits) (source : List Char)
    (hsession : session.hops = []) :
    let run := resolveHttpsSource env platform limits source session
    KeepsToPolicy platform limits.maxRedirects.toNat run.2.hops ∧
      ∀ payload, run.1 = .ok payload → payload.Fits limits.maxResponseBytes.toNat := by
  intro run
  rcases (@resolveHttpsSource_policed platform σ env limits source).outcome hsession with
    ⟨payload, hpayload, hended, hbound⟩ | ⟨e, he, hended⟩
  · refine ⟨hended.keepsToPolicy fun _ _ h => h, fun other hother => ?_⟩
    rwa [Except.ok.inj (hother.symm.trans hpayload)]
  · refine ⟨hended.keepsToPolicy fun _ _ h => h, fun other hother => ?_⟩
    cases hother.symm.trans he

theorem downloadPinnedArchive_keeps (limits : ArchiveLimits) (sourceUrl expectedUrl : List Char)
    (hsession : session.hops = []) :
    let run := downloadPinnedArchive env storage platform sha256 limits sourceUrl expectedUrl
      session
    KeepsToPolicy platform limits.maxRedirects.toNat run.2.hops ∧
      (∀ download, run.1 = .ok download → download.byteCount ≤ limits.maxArchiveBytes.toNat) ∧
      ArchiveHosts run.2.hops := by
  intro run
  rcases (@downloadPinnedArchive_policed platform σ δ env storage sha256 limits sourceUrl
    expectedUrl).outcome hsession with ⟨download, hdownload, hended, hbound⟩ | ⟨e, he, hended⟩
  · refine ⟨hended.keepsToPolicy fun _ _ h => h.1, fun other hother => ?_, hended.archiveHosts⟩
    rwa [Except.ok.inj (hother.symm.trans hdownload)]
  · refine ⟨hended.keepsToPolicy fun _ _ h => h.1, fun other hother => ?_, hended.archiveHosts⟩
    cases hother.symm.trans he

end Runs

/-- In every run of the two loops, whatever the resolver and the servers do, each
URL was validated, each connection went to an address accepted in its own hop
or to the validated literal, at most one hop more than the allowed redirects is
made, no identity occurs twice, and a result keeps to its byte limit. The hops
of the archive are at `github.com` first, then there or at a proper subdomain of
`githubusercontent.com`, and never at a literal address. The hops are the calls
that a recording resolver and connection factory have seen, and the bytes an
archive is stored with keep to the limit too. -/
theorem every_hop_keeps_to_policy {σ δ : Type} (env : Environment σ) (storage : Storage σ)
    (platform : Platform) (sha256 : List UInt8 → δ) (session : Session σ)
    (hsession : session.hops = []) :
    (∀ (limits : SourceLimits) (source : List Char),
      let run := resolveHttpsSource env platform limits source session
      KeepsToPolicy platform limits.maxRedirects.toNat run.2.hops ∧
        ∀ payload, run.1 = .ok payload → payload.Fits limits.maxResponseBytes.toNat) ∧
    (∀ (limits : ArchiveLimits) (sourceUrl expectedUrl : List Char),
      let run :=
        downloadPinnedArchive env storage platform sha256 limits sourceUrl expectedUrl session
      KeepsToPolicy platform limits.maxRedirects.toNat run.2.hops ∧
        (∀ download, run.1 = .ok download →
          download.byteCount ≤ limits.maxArchiveBytes.toNat) ∧ ArchiveHosts run.2.hops) ∧
    (∀ (limits : SourceLimits) (source : List Char),
      let run := resolveHttpsSource env.recorded platform limits source
        { world := (session.world, {}), destination := session.destination }
      KeepsToPolicy platform limits.maxRedirects.toNat run.2.hops ∧
        Logged run.2.hops run.2.world.2.calls) ∧
    ∀ (limits : ArchiveLimits) (sourceUrl expectedUrl : List Char),
      let run := downloadPinnedArchive env.recorded storage.recorded platform sha256 limits
        sourceUrl expectedUrl { world := (session.world, {}), destination := session.destination }
      KeepsToPolicy platform limits.maxRedirects.toNat run.2.hops ∧ ArchiveHosts run.2.hops ∧
        Logged run.2.hops run.2.world.2.calls ∧
        ∀ download, run.1 = .ok download → ∃ stored, run.2.destination = some stored ∧
          stored.length ≤ limits.maxArchiveBytes.toNat := by
  refine ⟨?_, ?_, ?_, ?_⟩
  · intro limits source
    exact resolveHttpsSource_keeps env limits source hsession
  · intro limits sourceUrl expectedUrl
    exact downloadPinnedArchive_keeps env storage sha256 limits sourceUrl expectedUrl hsession
  · intro limits source run
    refine ⟨(resolveHttpsSource_keeps env.recorded limits source rfl).1, ?_⟩
    rcases (resolveHttpsSource_listed env platform limits source).outcome
      (t := { world := (session.world, {}), destination := session.destination }) logged_nil with
      ⟨payload, -, hlisted⟩ | ⟨e, -, hlisted⟩
    · exact hlisted
    · exact hlisted
  · intro limits sourceUrl expectedUrl run
    obtain ⟨hkeeps, -, hhosts⟩ := @downloadPinnedArchive_keeps platform (σ × Record) δ env.recorded
      storage.recorded sha256 { world := (session.world, {}), destination := session.destination }
      limits sourceUrl expectedUrl rfl
    refine ⟨hkeeps, hhosts, ?_, ?_⟩
    · rcases (downloadPinnedArchive_listed env storage platform sha256 limits sourceUrl
        expectedUrl).outcome
        (t := { world := (session.world, {}), destination := session.destination }) logged_nil with
        ⟨download, -, hlisted⟩ | ⟨e, -, hlisted⟩
      · exact hlisted
      · exact hlisted
    · intro download hdownload
      have hdelivered := (archive_destination_iff env storage platform sha256 limits sourceUrl
        expectedUrl session.destination session.world).1 download hdownload
      exact ⟨_, hdelivered.file, hdelivered.count ▸ hdelivered.bounded⟩

/-- One redirect to a response without headers. -/
def redirectedWorld : List Response :=
  [⟨302, [(asciiBytes "Location", asciiBytes "next")]⟩, ⟨200, []⟩]

/-- Both loops follow the redirect, and connect once in each of the two hops. -/
theorem every_hop_keeps_to_policy_redirected :
    (∃ run, resolveHttpsSource scriptedEnvironment asciiPlatform {}
        "https://example.com/sub".toList { world := redirectedWorld } = run ∧
      KeepsToPolicy asciiPlatform 5 run.2.hops ∧
      run.2.hops.map (fun hop => (String.ofList hop.url.normalizedUrl, hop.connections)) =
        [("https://example.com/next", ["140.82.112.3".toList]),
          ("https://example.com/sub", ["140.82.112.3".toList])]) ∧
    ∃ run, downloadPinnedArchive scriptedEnvironment willingStorage asciiPlatform List.length {}
        archiveUrl archiveUrl { world := redirectedWorld } = run ∧
      KeepsToPolicy asciiPlatform 5 run.2.hops ∧ ArchiveHosts run.2.hops ∧
      run.2.hops.map (fun hop => (String.ofList hop.url.normalizedUrl, hop.connections)) =
        [("https://github.com/next", ["140.82.112.3".toList]),
          ("https://github.com/a", ["140.82.112.3".toList])] := by
  obtain ⟨hsource, harchive, -⟩ := every_hop_keeps_to_policy scriptedEnvironment willingStorage
    asciiPlatform List.length { world := redirectedWorld } rfl
  refine ⟨⟨_, rfl, (hsource {} _).1, ?_⟩, ⟨_, rfl, (harchive {} _ _).1, (harchive {} _ _).2.2, ?_⟩⟩
  · decide +kernel
  · decide +kernel

end RouterKit.Network
