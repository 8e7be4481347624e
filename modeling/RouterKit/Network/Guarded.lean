import RouterKit.Network.Escapes

/-!
The guarded part of a hop of the archive loop. It starts when the resolver's answer
is accepted, and a redirect that is followed ends it. What is raised there gets to
the handlers that remove the destination, and nothing else does.
-/

namespace RouterKit.Network

open RouterKit.Lib RouterKit.Lib.Checked
open RouterKit.Lib.Effects RouterKit.Lib.Effects.Effect

/-- The resolver's answer for the hop was accepted. -/
def AddressesAccepted (platform : Platform) (hop : Hop) : Prop :=
  ∃ resolved addresses, hop.resolved = some resolved ∧
    validateAddressSet platform.classes resolved = .ok addresses

/-- The hop, with the earlier ones before it, got a redirect that is followed. -/
def Follows (platform : Platform) (maxRedirects : Nat) (earlier : List Hop) (hop : Hop) : Prop :=
  earlier.length < maxRedirects ∧ ∃ response ∈ hop.response,
    isRedirectStatus response.status = true ∧
      ∃ next, nextArchiveHop platform hop.url response = .ok next

/-- The newest hop is in its guarded part. -/
def Guarded (platform : Platform) (maxRedirects : Nat) : List Hop → Prop
  | [] => False
  | hop :: earlier =>
      AddressesAccepted platform hop ∧ ¬ Follows platform maxRedirects earlier hop

/-- The newest hop, of this URL, has not asked the resolver yet. -/
def Unasked (url : ValidatedUrl) (earlier hops : List Hop) : Prop :=
  ∃ hop, hops = hop :: earlier ∧ hop.url = url ∧ hop.response = none ∧ hop.resolved = none

/-- It has accepted addresses and no response yet. -/
def Requesting (platform : Platform) (url : ValidatedUrl) (earlier hops : List Hop) : Prop :=
  ∃ hop, hops = hop :: earlier ∧ hop.url = url ∧ hop.response = none ∧
    AddressesAccepted platform hop

/-- And the response is there. -/
def Answered (platform : Platform) (url : ValidatedUrl) (earlier : List Hop) (response : Response)
    (hops : List Hop) : Prop :=
  ∃ hop, hops = hop :: earlier ∧ hop.url = url ∧ hop.response = some response ∧
    AddressesAccepted platform hop

variable {σ δ : Type} {platform : Platform} {maxRedirects : Nat} {url : ValidatedUrl}
  {earlier hops : List Hop} {response : Response}

theorem Unasked.not_guarded (h : Unasked url earlier hops) :
    ¬ Guarded platform maxRedirects hops := by
  obtain ⟨hop, rfl, -, -, hresolved⟩ := h
  rintro ⟨⟨resolved, -, hanswer, -⟩, -⟩
  rw [hresolved] at hanswer
  cases hanswer

theorem Requesting.guarded (h : Requesting platform url earlier hops) :
    Guarded platform maxRedirects hops := by
  obtain ⟨hop, rfl, -, hresponse, haccepted⟩ := h
  refine ⟨haccepted, ?_⟩
  rintro ⟨-, response, hmem, -⟩
  rw [hresponse] at hmem
  cases hmem

theorem Answered.guarded_iff (h : Answered platform url earlier response hops) :
    Guarded platform maxRedirects hops ↔ ¬ (earlier.length < maxRedirects ∧
      isRedirectStatus response.status = true ∧
      ∃ next, nextArchiveHop platform url response = .ok next) := by
  obtain ⟨hop, rfl, rfl, hresponse, haccepted⟩ := h
  simp only [Guarded, haccepted, true_and, Follows, hresponse, Option.mem_def, Option.some.injEq,
    exists_eq_left']

variable (env : Environment σ)

/-- Accepting the addresses gets a hop into its guarded part; what is raised before
that is outside. -/
theorem archiveAddresses_guards (deadline : Int) :
    Triple (fun s => Unasked url earlier s.hops) (archiveAddresses env platform url deadline)
      (fun _ s => Requesting platform url earlier s.hops)
      (fun _ s => ¬ Guarded platform maxRedirects s.hops) := by
  have hremaining : Safe (Unasked url earlier) IsProfileNetwork (remaining env deadline) :=
    remaining_safe env deadline
  unfold archiveAddresses
  apply Triple.handle (F := fun _ s => ¬ Guarded platform maxRedirects s.hops)
  · apply Triple.bind (Triple.weaken hremaining (fun _ hs => hs) (fun _ _ hs => hs)
      fun _ _ hs => hs.2.not_guarded)
    intro time
    have hask : Safe (Unasked url earlier) (fun _ => True)
        (ask (env.resolver url.hostname 443 (min dnsTimeout time))) := Safe.ask
    apply Triple.bind (Triple.weaken hask (fun _ hs => hs) (fun _ _ hs => hs)
      fun _ _ hs => hs.2.not_guarded)
    intro resolved
    apply Triple.bind (Q := fun _ s => ∃ hop, s.hops = hop :: earlier ∧ hop.url = url ∧
      hop.response = none ∧ hop.resolved = some resolved)
    · apply Triple.update
      rintro s ⟨hop, hhops, hurl, hresponse, -⟩
      exact ⟨{ hop with resolved := some resolved }, by rw [hhops]; rfl, hurl, hresponse, rfl⟩
    intro _
    apply Triple.lift
    · rintro addresses haccepted s ⟨hop, hhops, hurl, hresponse, hresolved⟩
      exact ⟨hop, hhops, hurl, hresponse, resolved, addresses, hresolved, haccepted⟩
    · rintro e hrefused s ⟨hop, hhops, -, -, hresolved⟩
      rw [hhops]
      rintro ⟨⟨found, addresses, hfound, haccepted⟩, -⟩
      rw [hresolved] at hfound
      cases hfound
      cases hrefused.symm.trans haccepted
  · intro e
    split
    · exact Triple.raise fun _ hs => hs
    · exact Triple.raise fun _ hs => hs

theorem requestOneHop_requesting (deadline : Int) (addresses : List (List Char)) :
    Safe (Requesting platform url earlier) IsProfileNetwork
      (requestOneHop env url deadline addresses) := by
  apply requestOneHop_safe
  rintro address - hops ⟨hop, rfl, hurl, hresponse, haccepted⟩
  exact ⟨{ hop with connections := address :: hop.connections }, rfl, hurl, hresponse, haccepted⟩

variable (storage : Storage σ) (sha256 : List UInt8 → δ)

/-- The answer to a response that is no redirect leaves the hops alone. -/
theorem finishArchive_hops {I : List Hop → Prop} (limits : ArchiveLimits) (deadline : Int)
    (redirects : Nat) (response : Response) :
    Safe I (fun _ => True)
      (finishArchive env storage platform sha256 limits deadline redirects response) := by
  by_cases hunreadable : BodyUnreadable platform response
  · intro s hs
    rw [finishArchive_unreadable env storage platform sha256 limits deadline redirects hunreadable]
    exact ⟨trivial, hs⟩
  · exact (finishArchive_safe env storage platform sha256 limits deadline redirects
      hunreadable).weaken fun _ _ => trivial

/-- What the exchange raises is in the guarded part, and a redirect it returns is
one that is followed. -/
theorem archiveExchange_guards (limits : ArchiveLimits) (deadline : Int) (left redirects : Nat)
    (addresses : List (List Char)) (hleft : earlier.length + left = maxRedirects) :
    Triple (fun s => Requesting platform url earlier s.hops)
      (archiveExchange env storage platform sha256 limits deadline left redirects url addresses)
      (fun outcome s => ∀ next, outcome = .inr next →
        ¬ Guarded platform maxRedirects s.hops ∧ s.hops.length = earlier.length + 1)
      (fun _ s => Guarded platform maxRedirects s.hops) := by
  unfold archiveExchange
  apply Triple.bind (Triple.weaken (requestOneHop_requesting env deadline addresses)
    (fun _ hs => hs) (fun _ _ hs => hs) fun _ _ hs => hs.2.guarded)
  intro response
  apply Triple.bind (Q := fun _ s => Answered platform url earlier response s.hops)
  · apply Triple.update
    rintro s ⟨hop, hhops, hurl, -, haccepted⟩
    exact ⟨{ hop with response := some response }, by rw [hhops]; rfl, hurl, rfl, haccepted⟩
  intro _
  split
  · next hredirect =>
    apply Triple.bind (Q := fun _ s => left ≠ 0 ∧ Answered platform url earlier response s.hops)
    · apply Triple.raiseIf
      · intro hnone s hs
        rw [hs.guarded_iff]
        omega
      · exact fun hsome s hs => ⟨hsome, hs⟩
    intro _
    apply Triple.of_pure
    intro hsome
    apply Triple.bind (Q := fun _ s => ¬ Guarded platform maxRedirects s.hops ∧
      s.hops.length = earlier.length + 1)
    · apply Triple.lift
      · intro next hnext s hs
        refine ⟨?_, ?_⟩
        · rw [hs.guarded_iff, not_not]
          exact ⟨by omega, hredirect, next, hnext⟩
        · obtain ⟨hop, hhops, -⟩ := hs
          rw [hhops, List.length_cons]
      · intro e hrefused s hs
        rw [hs.guarded_iff]
        rintro ⟨-, -, next, hnext⟩
        cases hrefused.symm.trans hnext
    intro next
    exact Triple.pure fun _ hs _ _ => hs
  · next hfinal =>
    have hfinish : Safe (Guarded platform maxRedirects) (fun _ => True)
        (finishArchive env storage platform sha256 limits deadline redirects response) :=
      finishArchive_hops env storage sha256 limits deadline redirects response
    apply Triple.bind (Triple.weaken hfinish ?_ (fun _ _ hs => hs) fun _ _ hs => hs.2)
    · intro download
      apply Triple.pure
      intro s _ next hnext
      cases hnext
    · intro s hs
      rw [hs.guarded_iff]
      exact fun hfollows => hfinal hfollows.2.1

end RouterKit.Network
