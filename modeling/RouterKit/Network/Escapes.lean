import RouterKit.Network.HopRules

/-!
Which exceptions leave the two loops. Each raises its own safe class and nothing
else, unless the last response it examines runs into a text that a standard
library call refuses outside every handler.
-/

namespace RouterKit.Network

open RouterKit.Lib RouterKit.Lib.Checked RouterKit.Lib.Url
open RouterKit.Lib.Effects RouterKit.Lib.Effects.Effect

/-- A response whose body would be read, with a length header of digits that has
no decimal value. -/
def BodyUnreadable (platform : Platform) (response : Response) : Prop :=
  response.status = 200 ∧ headerIs platform response "Content-Encoding" "identity" = true ∧
    LengthUnreadable response

/-- A redirect within the limit to a location that cannot be joined. -/
def RedirectUnjoinable (platform : Platform) (maxRedirects : Nat) (url : ValidatedUrl)
    (redirects : Nat) (response : Response) : Prop :=
  isRedirectStatus response.status = true ∧ redirects < maxRedirects ∧
    ∃ location, singleLocation response = .ok location ∧
      urljoin platform.unicode url.normalizedUrl location = none

/-- The newest hop examined a bad response. -/
def EndsIn (bad : ValidatedUrl → Nat → Response → Prop) : List Hop → Prop
  | [] => False
  | hop :: earlier => ∃ response ∈ hop.response, bad hop.url earlier.length response

/-- The current hop of this URL has not examined a response. -/
def Fresh (url : ValidatedUrl) (earlier : List Hop) (hops : List Hop) : Prop :=
  ∃ hop, hops = hop :: earlier ∧ hop.url = url ∧ hop.response = none

/-- The current hop of this URL has examined this response. -/
def Examined (url : ValidatedUrl) (earlier : List Hop) (response : Response) (hops : List Hop) :
    Prop :=
  ∃ hop, hops = hop :: earlier ∧ hop.url = url ∧ hop.response = some response

variable {url : ValidatedUrl} {earlier : List Hop} {bad : ValidatedUrl → Nat → Response → Prop}

theorem Fresh.not_endsIn {hops : List Hop} (h : Fresh url earlier hops) : ¬ EndsIn bad hops := by
  obtain ⟨hop, rfl, -, hresponse⟩ := h
  rintro ⟨response, hmem, -⟩
  rw [hresponse] at hmem
  cases hmem

theorem Examined.endsIn_iff {hops : List Hop} {response : Response}
    (h : Examined url earlier response hops) : EndsIn bad hops ↔
        bad url earlier.length response := by
  obtain ⟨hop, rfl, rfl, hresponse⟩ := h
  simp [EndsIn, hresponse]

theorem Fresh.modifyHead {hops : List Hop} {change : Hop → Hop} (h : Fresh url earlier hops)
    (hchange : ∀ hop, (change hop).url = hop.url ∧ (change hop).response = hop.response) :
    Fresh url earlier (hops.modifyHead change) := by
  obtain ⟨hop, rfl, hurl, hresponse⟩ := h
  exact ⟨change hop, rfl, (hchange hop).1.trans hurl, (hchange hop).2.trans hresponse⟩

/-- A new hop is fresh, whatever held of the hops before it. -/
theorem beginHop_triple {σ α : Type} {R : List Hop → Prop} {m : Net σ α}
    {Q : α → Session σ → Prop} {E : Raised → Session σ → Prop}
    (h : ∀ earlier, R earlier → Triple (fun s => Fresh url earlier s.hops) m Q E) :
    Triple (fun s => R s.hops) (beginHop url >>= fun _ => m) Q E := by
  intro s hs
  exact h s.hops hs _ ⟨{ url }, rfl, rfl, rfl⟩

section Source

variable {σ : Type} (env : Environment σ) (platform : Platform)

theorem hopAddresses_safe (deadline : Int) :
    Safe (Fresh url earlier) IsProfileNetwork (hopAddresses env platform url deadline) := by
  unfold hopAddresses
  split
  · exact Safe.pure
  · apply (remaining_safe env deadline).bind
    intro time
    apply Safe.bind
    · apply Safe.ask.handle
      intro e _
      split
      · exact Safe.raise ⟨_, _, rfl⟩
      · exact Safe.raise ⟨_, _, rfl⟩
    intro resolved
    apply Safe.bind
    · apply Safe.recordHop
      intro hops hfresh
      exact hfresh.modifyHead fun hop => ⟨rfl, rfl⟩
    intro _
    exact Safe.lift (validateAddressSet_raises platform.classes resolved)

theorem nextSource_raises (current : ValidatedUrl) (response : Response) :
    RaisesOnly IsProfileNetwork (nextSource platform current response) := by
  unfold nextSource
  apply (singleLocation_raises response).bind
  intro location _
  exact raisesOnly_mapError fun _ => ⟨_, _, rfl⟩

theorem finishSource_safe {I : List Hop → Prop} (limits : SourceLimits) (deadline : Int)
    (redirectCount : Nat) {response : Response} (h : ¬ BodyUnreadable platform response) :
    Safe I IsProfileNetwork
      (finishSource env platform limits deadline redirectCount response) := by
  unfold finishSource
  by_cases hstatus : response.status = 200
  · apply Safe.bind
    · exact Safe.raiseIf ⟨_, _, rfl⟩
    intro _
    apply Safe.bind
    · apply Safe.lift
      intro e he
      rcases checkFraming_raises he with rfl | rfl | rfl | hprofile | ⟨-, hidentity, hlength⟩
      · exact ⟨_, _, rfl⟩
      · exact ⟨_, _, rfl⟩
      · exact ⟨_, _, rfl⟩
      · exact hprofile
      · exact absurd ⟨hstatus, hidentity, hlength⟩ h
    intro length
    apply (readBodyBounded_safe env _ deadline).bind
    intro body
    apply Safe.bind
    · exact Safe.raiseIf ⟨_, _, rfl⟩
    intro _
    split
    · exact Safe.raise ⟨_, _, rfl⟩
    · exact Safe.pure
  · have hraise : Safe I IsProfileNetwork (raise (responseError
        "HTTPS response status is not allowed by policy.") : Net σ ResolvedPayload) :=
      Safe.raise ⟨_, _, rfl⟩
    intro s hs
    have hrun := hraise s hs
    simpa [Effect.raiseIf, Checked.raiseIf, hstatus, bind, Effect.raise] using hrun

theorem finishSource_unreadable (limits : SourceLimits) (deadline : Int) (redirectCount : Nat)
    {response : Response} (h : BodyUnreadable platform response) (s : Session σ) :
    finishSource env platform limits deadline redirectCount response s =
        (.error .valueError, s) := by
  obtain ⟨hstatus, hidentity, hlength⟩ := h
  simp [finishSource, Effect.raiseIf, Checked.raiseIf, hstatus, bind, Effect.lift,
    checkFraming_unreadable hidentity hlength]

/-- What a hop of the source loop raises is safe exactly when its response is
not unreadable. -/
theorem sourceHop_triple (limits : SourceLimits) (deadline : Int) (left redirectCount : Nat) :
    Triple (fun s => Fresh url earlier s.hops)
      (sourceHop env platform limits deadline left redirectCount url)
      (fun _ s => ¬ EndsIn (fun _ _ => BodyUnreadable platform) s.hops)
      (fun e s => IsProfileNetwork e ↔ ¬ EndsIn (fun _ _ => BodyUnreadable platform) s.hops) := by
  unfold sourceHop
  apply Triple.bind (Q := fun _ s => Fresh url earlier s.hops)
  · apply Triple.weaken (hopAddresses_safe env platform deadline) (fun _ h => h) (fun _ _ h => h)
    intro e s hs
    exact iff_of_true hs.1 hs.2.not_endsIn
  intro addresses
  apply Triple.andFinally
  apply Triple.bind (Q := fun _ s => Fresh url earlier s.hops)
  · have hsafe : Safe (Fresh url earlier) IsProfileNetwork
        (requestOneHop env url deadline addresses) := by
      apply requestOneHop_safe
      intro address _ hops hfresh
      exact hfresh.modifyHead fun hop => ⟨rfl, rfl⟩
    apply Triple.weaken hsafe (fun _ h => h) (fun _ _ h => h)
    intro e s hs
    exact iff_of_true hs.1 hs.2.not_endsIn
  intro response
  apply Triple.bind (Q := fun _ s => Examined url earlier response s.hops)
  · apply Triple.update
    rintro s ⟨hop, hhops, hurl, -⟩
    exact ⟨{ hop with response := some response }, by simp only [hhops, List.modifyHead_cons],
      hurl, rfl⟩
  intro _
  by_cases hbad : BodyUnreadable platform response
  · intro s hs
    have hends : EndsIn (fun _ _ => BodyUnreadable platform) s.hops := hs.endsIn_iff.mpr hbad
    have hstatus := hbad.1
    have hnot : ¬ IsProfileNetwork .valueError := by
      rintro ⟨kind, message, h⟩
      cases h
    simp [Effect.raiseIf, Checked.raiseIf, hstatus, isRedirectStatus, bind,
      finishSource_unreadable env platform limits deadline redirectCount hbad]
    exact iff_of_false hnot (not_not_intro hends)
  · have hrest : Safe (Examined url earlier response) IsProfileNetwork (do
        raiseIf (¬(100 ≤ response.status ∧ response.status ≤ 599))
          (responseError "HTTPS response status is not allowed by policy.")
        if isRedirectStatus response.status then do
          raiseIf (left = 0) (redirectError "HTTPS redirect limit exceeded.")
          return .inr (← lift (nextSource platform url response))
        else
          return .inl (← finishSource env platform limits deadline redirectCount response) :
            Net σ (ResolvedPayload ⊕ ValidatedUrl)) := by
      apply Safe.bind
      · exact Safe.raiseIf ⟨_, _, rfl⟩
      intro _
      split
      · apply Safe.bind
        · exact Safe.raiseIf ⟨_, _, rfl⟩
        intro _
        apply (Safe.lift (nextSource_raises platform url response)).bind
        intro next
        exact Safe.pure
      · apply (finishSource_safe env platform limits deadline redirectCount hbad).bind
        intro payload
        exact Safe.pure
    apply Triple.weaken hrest (fun _ h => h)
    · intro _ s hs hends
      exact hbad (hs.endsIn_iff.mp hends)
    · rintro e s ⟨he, hs⟩
      exact iff_of_true he fun hends => hbad (hs.endsIn_iff.mp hends)

/-- The start of a round of the source loop. -/
theorem sourceStart {α : Type} (deadline : Int)
    (visited : List (List Char × List Char × List Char × List Char)) (current : ValidatedUrl)
    {m : Net σ α} {Q : α → Session σ → Prop}
    (h : ∀ earlier, Triple (fun s => Fresh current earlier s.hops) m Q
      (fun e s => IsProfileNetwork e ↔ ¬ EndsIn (fun _ _ => BodyUnreadable platform) s.hops)) :
    Triple (fun s => ¬ EndsIn (fun _ _ => BodyUnreadable platform) s.hops)
      (do
        let _ ← remaining env deadline
        raiseIf (visited.contains current.canonicalIdentity)
          (redirectError "HTTPS redirect loop is not allowed.")
        beginHop current
        m) Q
      (fun e s => IsProfileNetwork e ↔ ¬ EndsIn (fun _ _ => BodyUnreadable platform) s.hops) := by
  apply Triple.bind (Q := fun _ s => ¬ EndsIn (fun _ _ => BodyUnreadable platform) s.hops)
  · have hsafe : Safe (fun hops => ¬ EndsIn (fun _ _ => BodyUnreadable platform) hops)
        IsProfileNetwork (remaining env deadline) := remaining_safe env deadline
    apply Triple.weaken hsafe (fun _ h => h) (fun _ _ h => h)
    rintro e s ⟨he, hs⟩
    exact iff_of_true he hs
  intro _
  apply Triple.bind (Q := fun _ s => ¬ EndsIn (fun _ _ => BodyUnreadable platform) s.hops)
  · exact Triple.raiseIf (fun _ _ hs => iff_of_true ⟨_, _, rfl⟩ hs) fun _ _ hs => hs
  intro _
  exact @beginHop_triple current σ α (fun hops =>
      ¬ EndsIn (fun _ _ => BodyUnreadable platform) hops)
    m Q _ fun earlier _ => h earlier

/-- The loop raises an error of the profile network exactly when its last
response is not unreadable. -/
theorem sourceLoop_triple (limits : SourceLimits) (deadline : Int) (left redirectCount : Nat)
    (visited : List (List Char × List Char × List Char × List Char)) (current : ValidatedUrl) :
    Triple (fun s => ¬ EndsIn (fun _ _ => BodyUnreadable platform) s.hops)
      (sourceLoop env platform limits deadline left redirectCount visited current)
      (fun _ s => ¬ EndsIn (fun _ _ => BodyUnreadable platform) s.hops)
      (fun e s => IsProfileNetwork e ↔ ¬ EndsIn (fun _ _ => BodyUnreadable platform) s.hops) := by
  induction left generalizing redirectCount visited current with
  | zero =>
      unfold sourceLoop
      apply sourceStart env platform deadline visited current
      intro earlier
      apply Triple.bind (sourceHop_triple env platform limits deadline 0 redirectCount)
      intro outcome
      split
      · exact Triple.pure fun _ hs => hs
      · exact Triple.raise fun _ hs => iff_of_true ⟨_, _, rfl⟩ hs
  | succ left ih =>
      unfold sourceLoop
      apply sourceStart env platform deadline visited current
      intro earlier
      apply Triple.bind (sourceHop_triple env platform limits deadline (left + 1) redirectCount)
      intro outcome
      split
      · exact Triple.pure fun _ hs => hs
      · exact ih _ _ _

/-- A source is resolved, or an error of the profile network is raised, exactly
when the last response is not unreadable. -/
theorem resolveHttpsSource_triple (limits : SourceLimits) (source : List Char) :
    Triple (fun s => s.hops = []) (resolveHttpsSource env platform limits source)
      (fun _ s => ¬ EndsIn (fun _ _ => BodyUnreadable platform) s.hops)
      (fun e s => IsProfileNetwork e ↔ ¬ EndsIn (fun _ _ => BodyUnreadable platform) s.hops) := by
  have hstart : ∀ {hops : List Hop}, hops = [] →
      ¬ EndsIn (fun _ _ => BodyUnreadable platform) hops := by
    rintro hops rfl hends
    exact hends
  have hsafe : ∀ {α : Type} {m : Net σ α}, Safe (fun hops => hops = []) IsProfileNetwork m →
      Triple (fun s => s.hops = []) m (fun _ s => s.hops = [])
        (fun e s => IsProfileNetwork e ↔ ¬ EndsIn (fun _ _ => BodyUnreadable platform) s.hops) := by
    intro α m h
    apply Triple.weaken h (fun _ hs => hs) (fun _ _ hs => hs)
    intro e s hs
    exact iff_of_true hs.1 (hstart hs.2)
  unfold resolveHttpsSource
  apply Triple.bind (hsafe (Safe.raiseIf ⟨_, _, rfl⟩))
  intro _
  apply Triple.bind
  · apply hsafe
    apply Safe.lift
    intro e he
    unfold normalizeHttpsSourceValue at he
    split at he
    · obtain rfl := Except.error.inj he
      exact genericUrlError_isProfileNetwork
    · cases he
  intro value
  apply Triple.bind (hsafe (Safe.lift (validateHttpsUrl_raises platform value)))
  intro current
  apply Triple.bind (hsafe (now_safe env))
  intro time
  exact (sourceLoop_triple env platform limits _ _ _ _ _).weaken (fun _ => hstart) (fun _ _ h => h)
    fun _ _ h => h

end Source

/-- The raised exception is the one of the archive download. -/
def IsArtifactNetwork (e : Raised) : Prop := ∃ message, e = .artifactNetwork message

/-- One of the two hierarchies the handlers of a hop catch. -/
def IsCaught (e : Raised) : Prop := IsProfileNetwork e ∨ IsArtifactNetwork e

/-- The last response of a download is read or followed outside every handler. -/
def ArchiveEscapes (platform : Platform) (maxRedirects : Nat) (url : ValidatedUrl) (redirects : Nat)
    (response : Response) : Prop :=
  BodyUnreadable platform response ∨
    RedirectUnjoinable platform maxRedirects url redirects response

theorem artifactError_isArtifactNetwork (message : String) :
    IsArtifactNetwork (artifactError message) := ⟨message, rfl⟩

theorem artifactError_isCaught (message : String) : IsCaught (artifactError message) :=
  .inr ⟨message, rfl⟩

section Archive

variable {σ δ : Type} (env : Environment σ) (storage : Storage σ) (platform : Platform)
variable (sha256 : List UInt8 → δ) {I : List Hop → Prop}

theorem openDestination_safe : Safe I IsArtifactNetwork (openDestination storage) := by
  intro s hs
  unfold openDestination
  split
  · next h =>
    split at h
    · cases h
    · split at h <;> cases h
      exact hs
  · next h =>
    split at h
    · cases h
      exact ⟨artifactError_isArtifactNetwork _, hs⟩
    · split at h <;> cases h
      · exact ⟨artifactError_isArtifactNetwork _, hs⟩
      · exact ⟨artifactError_isArtifactNetwork _, hs⟩

theorem writeAll_safe (fuel : Nat) (chunk : List UInt8) :
    Safe I IsArtifactNetwork (writeAll storage fuel chunk) := by
  have honce : ∀ chunk, Safe I IsArtifactNetwork (writeOnce storage chunk) := by
    intro chunk s hs
    unfold writeOnce
    split
    · next h =>
      split at h
      · split at h
        · cases h
        · cases h
          exact hs
      · cases h
    · next h =>
      split at h
      · split at h
        · cases h
          exact ⟨artifactError_isArtifactNetwork _, hs⟩
        · cases h
      · cases h
        exact ⟨artifactError_isArtifactNetwork _, hs⟩
  induction fuel generalizing chunk with
  | zero => exact Safe.pure
  | succ fuel ih =>
      unfold writeAll
      split
      · exact Safe.pure
      · exact (honce chunk).bind fun stored => ih _

theorem fsyncDestination_safe : Safe I IsArtifactNetwork (fsyncDestination storage) := by
  intro s hs
  unfold fsyncDestination
  rcases storage.fsync s.world with ⟨succeeds, world⟩
  cases succeeds
  · exact ⟨artifactError_isArtifactNetwork _, hs⟩
  · exact hs

theorem archiveRemaining_safe (deadline : Int) :
    Safe I IsArtifactNetwork (archiveRemaining env deadline) := by
  unfold archiveRemaining
  apply (remaining_safe env deadline).handle
  rintro e ⟨kind, message, rfl⟩
  exact Safe.raise (artifactError_isArtifactNetwork _)

theorem streamRounds_safe (deadline : Int) (room : Nat) (body : List UInt8) :
    Safe I IsArtifactNetwork (streamRounds env storage deadline room body) := by
  induction room using Nat.strong_induction_on generalizing body with
  | _ room ih =>
      cases room with
      | zero =>
          unfold streamRounds
          exact Safe.pure
      | succ room =>
          unfold streamRounds
          apply (archiveRemaining_safe env deadline).bind
          intro _
          apply Safe.bind
          · apply Safe.ask.handle
            intro _ _
            exact Safe.raise (artifactError_isArtifactNetwork _)
          intro chunk
          split
          · exact Safe.raise (artifactError_isArtifactNetwork _)
          · exact Safe.pure
          · apply (Safe.raiseIf (artifactError_isArtifactNetwork _)).bind
            intro _
            apply (Safe.raiseIf (artifactError_isArtifactNetwork _)).bind
            intro _
            apply (writeAll_safe storage _ _).bind
            intro _
            exact ih _ (by omega) _

theorem archiveAddresses_safe (deadline : Int) :
    Safe (Fresh url earlier) IsArtifactNetwork (archiveAddresses env platform url deadline) := by
  have hany : ∀ {e : Raised}, IsProfileNetwork e → True := fun _ => trivial
  unfold archiveAddresses
  apply @Safe.handle σ _ _ _ (fun _ => True)
  · apply ((remaining_safe env deadline).weaken fun _ => hany).bind
    intro time
    apply Safe.ask.bind
    intro resolved
    apply Safe.bind
    · apply Safe.recordHop
      intro hops hfresh
      exact hfresh.modifyHead fun hop => ⟨rfl, rfl⟩
    intro _
    apply Safe.lift
    intro _ _
    trivial
  · intro e _
    split
    · exact Safe.raise (artifactError_isArtifactNetwork _)
    · exact Safe.raise (artifactError_isArtifactNetwork _)

theorem validateHop_raises (text : List Char) (isInitial : Bool) :
    RaisesOnly IsArtifactNetwork (validateHop platform text isInitial) := by
  unfold validateHop
  apply RaisesOnly.bind
  · intro e he
    cases hvalidate : validateHttpsUrl platform text with
    | ok validated =>
        rw [hvalidate] at he
        cases he
    | error raised =>
        rw [hvalidate] at he
        obtain ⟨kind, message, rfl⟩ := validateHttpsUrl_raises platform text raised hvalidate
        obtain rfl := Except.error.inj he
        exact artifactError_isArtifactNetwork _
  intro validated _
  apply RaisesOnly.bind
  · exact raisesOnly_raiseIf.mpr fun _ => artifactError_isArtifactNetwork _
  intro _ _
  exact raisesOnly_pure

/-- Following a redirect raises the error of the download, unless its location
cannot be joined. -/
theorem nextArchiveHop_raises {response : Response} {e : Raised}
    (h : nextArchiveHop platform url response = .error e) :
    IsArtifactNetwork e ∨ (e = .valueError ∧ ∃ location, singleLocation response = .ok location ∧
      urljoin platform.unicode url.normalizedUrl location = none) := by
  unfold nextArchiveHop at h
  cases hlocation : singleLocation response with
  | error raised =>
      obtain ⟨kind, message, rfl⟩ := singleLocation_raises response raised hlocation
      rw [hlocation] at h
      obtain rfl := Except.error.inj h
      exact .inl (artifactError_isArtifactNetwork _)
  | ok location =>
      rw [hlocation] at h
      cases hjoined : urljoin platform.unicode url.normalizedUrl location with
      | none =>
          simp only [bind_ok_left, hjoined] at h
          obtain rfl := Except.error.inj h
          exact .inr ⟨rfl, location, rfl, hjoined⟩
      | some combined =>
          simp only [bind_ok_left, hjoined] at h
          cases hvalidate : validateHop platform combined false with
          | ok next =>
              rw [hvalidate] at h
              cases h
          | error raised =>
              obtain ⟨message, rfl⟩ := validateHop_raises platform combined false raised hvalidate
              rw [hvalidate] at h
              obtain rfl := Except.error.inj h
              exact .inl (artifactError_isArtifactNetwork _)

theorem nextArchiveHop_unjoinable {response : Response} {location : List Char}
    (hlocation : singleLocation response = .ok location)
    (hjoined : urljoin platform.unicode url.normalizedUrl location = none) :
    nextArchiveHop platform url response = .error .valueError := by
  simp [nextArchiveHop, hlocation, hjoined, Except.mapError]

theorem finishArchive_safe (limits : ArchiveLimits) (deadline : Int) (redirects : Nat)
    {response : Response} (h : ¬ BodyUnreadable platform response) :
    Safe I IsCaught
      (finishArchive env storage platform sha256 limits deadline redirects response) := by
  unfold finishArchive
  by_cases hstatus : response.status = 200
  · apply (Safe.raiseIf (artifactError_isCaught _)).bind
    intro _
    apply Safe.bind
    · apply Safe.lift
      intro e he
      rcases checkFraming_raises he with rfl | rfl | rfl | hprofile | ⟨-, hidentity, hlength⟩
      · exact artifactError_isCaught _
      · exact artifactError_isCaught _
      · exact artifactError_isCaught _
      · exact .inl hprofile
      · exact absurd ⟨hstatus, hidentity, hlength⟩ h
    intro length
    apply ((openDestination_safe storage).weaken fun _ => .inr).bind
    intro _
    apply ((streamRounds_safe env storage deadline _ _).weaken fun _ => .inr).bind
    intro body
    apply (Safe.raiseIf (artifactError_isCaught _)).bind
    intro _
    apply ((fsyncDestination_safe storage).weaken fun _ => .inr).bind
    intro _
    exact Safe.pure
  · have hraise : Safe I IsCaught (raise (artifactError
        "Pinned artifact response was not accepted.") : Net σ (ArtifactDownload δ)) :=
      Safe.raise (artifactError_isCaught _)
    intro s hs
    have hrun := hraise s hs
    simpa [Effect.raiseIf, Checked.raiseIf, hstatus, bind, Effect.raise] using hrun

theorem finishArchive_unreadable (limits : ArchiveLimits) (deadline : Int) (redirects : Nat)
    {response : Response} (h : BodyUnreadable platform response) (s : Session σ) :
    finishArchive env storage platform sha256 limits deadline redirects response s =
      (.error .valueError, s) := by
  obtain ⟨hstatus, hidentity, hlength⟩ := h
  simp [finishArchive, Effect.raiseIf, Checked.raiseIf, hstatus, bind, Effect.lift,
    checkFraming_unreadable hidentity hlength]

/-- What a hop raises is caught by its handlers exactly when its response is
neither unreadable nor unjoinable. -/
theorem archiveExchange_triple (limits : ArchiveLimits) (deadline : Int) (left redirects : Nat)
    (addresses : List (List Char)) {maxRedirects : Nat}
    (hleft : earlier.length + left = maxRedirects) :
    Triple (fun s => Fresh url earlier s.hops)
      (archiveExchange env storage platform sha256 limits deadline left redirects url addresses)
      (fun _ s => ¬ EndsIn (ArchiveEscapes platform maxRedirects) s.hops ∧
        s.hops.length = earlier.length + 1)
      (fun e s => IsCaught e ↔ ¬ EndsIn (ArchiveEscapes platform maxRedirects) s.hops) := by
  unfold archiveExchange
  apply Triple.bind (Q := fun _ s => Fresh url earlier s.hops)
  · have hsafe : Safe (Fresh url earlier) IsProfileNetwork
        (requestOneHop env url deadline addresses) := by
      apply requestOneHop_safe
      intro address _ hops hfresh
      exact hfresh.modifyHead fun hop => ⟨rfl, rfl⟩
    apply Triple.weaken hsafe (fun _ h => h) (fun _ _ h => h)
    intro e s hs
    exact iff_of_true (.inl hs.1) hs.2.not_endsIn
  intro response
  apply Triple.bind (Q := fun _ s => Examined url earlier response s.hops)
  · apply Triple.update
    rintro s ⟨hop, hhops, hurl, -⟩
    exact ⟨{ hop with response := some response }, by simp only [hhops, List.modifyHead_cons],
      hurl, rfl⟩
  intro _
  have hnot : ¬ IsCaught .valueError := by
    rintro (⟨kind, message, h⟩ | ⟨message, h⟩) <;> cases h
  by_cases hbad : ArchiveEscapes platform maxRedirects url earlier.length response
  · intro s hs
    have hends : EndsIn (ArchiveEscapes platform maxRedirects) s.hops := hs.endsIn_iff.mpr hbad
    rcases hbad with hunreadable | ⟨hredirect, hwithin, location, hlocation, hjoined⟩
    · have hnoRedirect : isRedirectStatus response.status = false := by
        rw [hunreadable.1]
        decide
      rw [if_neg (by simp [hnoRedirect])]
      simp only [bind,
        finishArchive_unreadable env storage platform sha256 limits deadline redirects hunreadable]
      exact iff_of_false hnot (not_not_intro hends)
    · have hsome : left ≠ 0 := by omega
      rw [if_pos hredirect]
      simp only [bind, Effect.raiseIf, Checked.raiseIf, if_neg hsome, Effect.lift,
        nextArchiveHop_unjoinable platform hlocation hjoined]
      exact iff_of_false hnot (not_not_intro hends)
  · obtain ⟨hreadable, hjoinable⟩ := not_or.mp hbad
    have hrest : Safe (Examined url earlier response) IsCaught (do
        if isRedirectStatus response.status then do
          raiseIf (left = 0) (artifactError "Pinned artifact redirect limit exceeded.")
          return .inr (← lift (nextArchiveHop platform url response))
        else
          return .inl (← finishArchive env storage platform sha256 limits deadline
              redirects response) :
            Net σ (ArtifactDownload δ ⊕ ValidatedUrl)) := by
      split
      · next hredirect =>
        by_cases hzero : left = 0
        · intro s hs
          simp only [bind, Effect.raiseIf, Checked.raiseIf, if_pos hzero]
          exact ⟨artifactError_isCaught _, hs⟩
        · apply (Safe.raiseIf (artifactError_isCaught _)).bind
          intro _
          apply Safe.bind
          · apply Safe.lift
            intro e he
            rcases nextArchiveHop_raises platform he with hartifact | ⟨-, location, hlocation⟩
            · exact .inr hartifact
            · exact absurd ⟨hredirect, by omega, location, hlocation⟩ hjoinable
          intro next
          exact Safe.pure
      · apply (finishArchive_safe env storage platform sha256 limits deadline redirects
          hreadable).bind
        intro download
        exact Safe.pure
    apply Triple.weaken hrest (fun _ h => h)
    · intro _ s hs
      refine ⟨fun hends => hbad (hs.endsIn_iff.mp hends), ?_⟩
      obtain ⟨hop, hhops, -⟩ := hs
      rw [hhops, List.length_cons]
    · rintro e s ⟨he, hs⟩
      exact iff_of_true he fun hends => hbad (hs.endsIn_iff.mp hends)

/-- The handlers turn what they catch into the error of the download. -/
theorem discardDestination_triple {α : Type} (bad : ValidatedUrl → Nat → Response → Prop)
    (e : Raised) {Q : α → Session σ → Prop} :
    Triple (fun s => IsCaught e ↔ ¬ EndsIn bad s.hops) (discardDestination storage e) Q
      (fun e s => IsArtifactNetwork e ↔ ¬ EndsIn bad s.hops) := by
  intro s hs
  have hhops : (unlinkDestination storage s).hops = s.hops := rfl
  have hcaught : IsCaught e → ¬ EndsIn bad (unlinkDestination storage s).hops := by
    rw [hhops]
    exact hs.mp
  cases e with
  | artifactNetwork message =>
      exact iff_of_true ⟨message, rfl⟩ (hcaught (.inr ⟨message, rfl⟩))
  | profileNetwork kind message =>
      exact iff_of_true (artifactError_isArtifactNetwork _) (hcaught (.inl ⟨kind, message, rfl⟩))
  | valueError =>
      have hnot : ¬ IsCaught .valueError := by
        rintro (⟨kind, message, h⟩ | ⟨message, h⟩) <;> cases h
      exact iff_of_false (fun h => hnot (.inr h)) fun h => hnot (hs.mpr h)
  | otherException =>
      have hnot : ¬ IsCaught .otherException := by
        rintro (⟨kind, message, h⟩ | ⟨message, h⟩) <;> cases h
      exact iff_of_false (fun h => hnot (.inr h)) fun h => hnot (hs.mpr h)

theorem archiveHop_triple (limits : ArchiveLimits) (deadline : Int) (left redirects : Nat)
    {maxRedirects : Nat} (hleft : earlier.length + left = maxRedirects) :
    Triple (fun s => Fresh url earlier s.hops)
      (archiveHop env storage platform sha256 limits deadline left redirects url)
      (fun _ s => ¬ EndsIn (ArchiveEscapes platform maxRedirects) s.hops ∧
        s.hops.length = earlier.length + 1)
      (fun e s => IsArtifactNetwork e ↔ ¬ EndsIn
          (ArchiveEscapes platform maxRedirects) s.hops) := by
  unfold archiveHop
  apply Triple.bind (Q := fun _ s => Fresh url earlier s.hops)
  · apply Triple.weaken (archiveAddresses_safe env platform deadline) (fun _ h => h)
      (fun _ _ h => h)
    intro e s hs
    exact iff_of_true hs.1 hs.2.not_endsIn
  intro addresses
  apply Triple.andFinally
  apply Triple.handle
    (archiveExchange_triple env storage platform sha256 limits deadline left redirects
        addresses hleft)
  intro e
  exact discardDestination_triple storage _ e

/-- The start of a round of the download loop. -/
theorem archiveStart {α : Type} (deadline : Int) {maxRedirects left : Nat}
    (visited : List (List Char × List Char × List Char × List Char)) (current : ValidatedUrl)
    {m : Net σ α} {Q : α → Session σ → Prop}
    (h : ∀ earlier, earlier.length + left = maxRedirects →
      Triple (fun s => Fresh current earlier s.hops) m Q
        (fun e s => IsArtifactNetwork e ↔ ¬ EndsIn (ArchiveEscapes platform maxRedirects) s.hops)) :
    Triple (fun s => ¬ EndsIn (ArchiveEscapes platform maxRedirects) s.hops ∧
        s.hops.length + left = maxRedirects)
      (do
        let _ ← archiveRemaining env deadline
        raiseIf (visited.contains current.canonicalIdentity)
          (artifactError "Pinned artifact redirect is not allowed by policy.")
        beginHop current
        m) Q
      (fun e s => IsArtifactNetwork e ↔ ¬ EndsIn
          (ArchiveEscapes platform maxRedirects) s.hops) := by
  apply Triple.bind (Q := fun _ s => ¬ EndsIn (ArchiveEscapes platform maxRedirects) s.hops ∧
    s.hops.length + left = maxRedirects)
  · have hsafe : Safe (fun hops => ¬ EndsIn (ArchiveEscapes platform maxRedirects) hops ∧
        hops.length + left = maxRedirects) IsArtifactNetwork (archiveRemaining env deadline) :=
      archiveRemaining_safe env deadline
    apply Triple.weaken hsafe (fun _ h => h) (fun _ _ h => h)
    rintro e s ⟨he, hs, -⟩
    exact iff_of_true he hs
  intro _
  apply Triple.bind (Q := fun _ s => ¬ EndsIn (ArchiveEscapes platform maxRedirects) s.hops ∧
    s.hops.length + left = maxRedirects)
  · exact Triple.raiseIf (fun _ _ hs => iff_of_true (artifactError_isArtifactNetwork _) hs.1)
      fun _ _ hs => hs
  intro _
  exact @beginHop_triple current σ α (fun hops =>
    ¬ EndsIn (ArchiveEscapes platform maxRedirects) hops ∧ hops.length + left = maxRedirects)
    m Q _ fun earlier hearlier => h earlier hearlier.2

/-- The loop raises the error of the download exactly when its last response does
not escape the handlers. -/
theorem archiveLoop_triple (limits : ArchiveLimits) (deadline : Int) (left redirects : Nat)
    (visited : List (List Char × List Char × List Char × List Char)) (current : ValidatedUrl)
    {maxRedirects : Nat} :
    Triple (fun s => ¬ EndsIn (ArchiveEscapes platform maxRedirects) s.hops ∧
        s.hops.length + left = maxRedirects)
      (archiveLoop env storage platform sha256 limits deadline left redirects visited current)
      (fun _ s => ¬ EndsIn (ArchiveEscapes platform maxRedirects) s.hops)
      (fun e s => IsArtifactNetwork e ↔ ¬ EndsIn
          (ArchiveEscapes platform maxRedirects) s.hops) := by
  induction left generalizing redirects visited current with
  | zero =>
      unfold archiveLoop
      apply archiveStart env platform deadline visited current
      intro earlier hlength
      apply Triple.bind
        (archiveHop_triple env storage platform sha256 limits deadline 0 redirects hlength)
      intro outcome
      split
      · exact Triple.pure fun _ hs => hs.1
      · exact Triple.raise fun _ hs => iff_of_true (artifactError_isArtifactNetwork _) hs.1
  | succ left ih =>
      unfold archiveLoop
      apply archiveStart env platform deadline visited current
      intro earlier hlength
      apply Triple.bind
        (archiveHop_triple env storage platform sha256 limits deadline (left + 1) redirects hlength)
      intro outcome
      split
      · exact Triple.pure fun _ hs => hs.1
      · next target =>
        apply Triple.weaken (ih (redirects + 1) (current.canonicalIdentity :: visited) target)
        · rintro s ⟨hs, hhops⟩
          exact ⟨hs, by omega⟩
        · exact fun _ _ hs => hs
        · exact fun _ _ hs => hs

/-- The archive is downloaded, or the error of the download is raised, exactly
when the last response does not escape the handlers. -/
theorem downloadPinnedArchive_triple (limits : ArchiveLimits) (sourceUrl expectedUrl : List Char) :
    Triple (fun s => s.hops = [])
      (downloadPinnedArchive env storage platform sha256 limits sourceUrl expectedUrl)
      (fun _ s => ¬ EndsIn (ArchiveEscapes platform limits.maxRedirects.toNat) s.hops)
      (fun e s => IsArtifactNetwork e ↔
        ¬ EndsIn (ArchiveEscapes platform limits.maxRedirects.toNat) s.hops) := by
  have hstart : ∀ {hops : List Hop}, hops = [] →
      ¬ EndsIn (ArchiveEscapes platform limits.maxRedirects.toNat) hops := by
    rintro hops rfl hends
    exact hends
  have hsafe : ∀ {α : Type} {m : Net σ α}, Safe (fun hops => hops = []) IsArtifactNetwork m →
      Triple (fun s => s.hops = []) m (fun _ s => s.hops = [])
        (fun e s => IsArtifactNetwork e ↔
          ¬ EndsIn (ArchiveEscapes platform limits.maxRedirects.toNat) s.hops) := by
    intro α m h
    apply Triple.weaken h (fun _ hs => hs) (fun _ _ hs => hs)
    intro e s hs
    exact iff_of_true hs.1 (hstart hs.2)
  unfold downloadPinnedArchive
  apply Triple.bind (hsafe (Safe.raiseIf (artifactError_isArtifactNetwork _)))
  intro _
  apply Triple.bind (hsafe (Safe.lift (validateHop_raises platform sourceUrl true)))
  intro current
  apply Triple.bind (hsafe (now_safe env))
  intro time
  apply Triple.weaken (archiveLoop_triple env storage platform sha256 limits _ _ _ _ _)
  · intro s hs
    exact ⟨hstart hs, by rw [hs, List.length_nil, Nat.zero_add]⟩
  · exact fun _ _ hs => hs
  · exact fun _ _ hs => hs

end Archive

/-- A run of the source loop ends with a payload or an error of the profile
network, and a run of the download with an archive or its own error, exactly
when the last response the run examines does not carry a length header of
digits without decimal value and, for the download, no location that cannot be
joined. -/
theorem only_safe_errors_iff {σ δ : Type} (env : Environment σ) (storage : Storage σ)
    (platform : Platform) (sha256 : List UInt8 → δ) (world : σ)
        (destination : Option (List UInt8)) :
    (∀ (limits : SourceLimits) (source : List Char),
      let run := resolveHttpsSource env platform limits source { world, destination }
      ((∃ payload, run.1 = .ok payload) ∨ ∃ e, run.1 = .error e ∧ IsProfileNetwork e) ↔
        ¬ EndsIn (fun _ _ => BodyUnreadable platform) run.2.hops) ∧
    ∀ (limits : ArchiveLimits) (sourceUrl expectedUrl : List Char),
      let run := downloadPinnedArchive env storage platform sha256 limits sourceUrl expectedUrl
        { world, destination }
      ((∃ download, run.1 = .ok download) ∨ ∃ e, run.1 = .error e ∧ IsArtifactNetwork e) ↔
        ¬ EndsIn (ArchiveEscapes platform limits.maxRedirects.toNat) run.2.hops := by
  constructor
  · intro limits source run
    rcases (resolveHttpsSource_triple env platform limits source).outcome
      (show ({ world, destination } : Session σ).hops = [] from rfl) with
      ⟨payload, hpayload, hsafe⟩ | ⟨e, he, hiff⟩
    · exact iff_of_true (.inl ⟨payload, hpayload⟩) hsafe
    · rw [← hiff]
      simp [run, he]
  · intro limits sourceUrl expectedUrl run
    rcases (downloadPinnedArchive_triple env storage platform sha256 limits sourceUrl
      expectedUrl).outcome (show ({ world, destination } : Session σ).hops = [] from rfl) with
      ⟨download, hdownload, hsafe⟩ | ⟨e, he, hiff⟩
    · exact iff_of_true (.inl ⟨download, hdownload⟩) hsafe
    · rw [← hiff]
      simp [run, he]

/-- A platform for texts in ASCII, whose classes refuse nothing. -/
def asciiPlatform : Platform where
  unicode := ⟨fun c => [c], id⟩
  idna := some
  classes := ⟨fun _ => true, fun _ => false, fun _ => false, fun _ => false, fun _ => false,
    fun _ => false, fun _ => false⟩

/-- Every name has one address, and the server gives the listed responses. -/
def scriptedEnvironment : Environment (List Response) where
  clock world := (0, world)
  resolver _ _ _ world := (.ok ["140.82.112.3".toList], world)
  connectionFactory _ _ _ world := (.ok (), world)
  deadlineGuard _ world := (.ok (), world)
  request _ _ world := (.ok (), world)
  getResponse
    | [] => (.error .otherException, [])
    | response :: rest => (.ok response, rest)
  hasSocket _ := false
  read _ world := (.ok (some []), world)
  cleanup := id

/-- Every call on the destination succeeds. -/
def willingStorage : Storage (List Response) where
  openFile world := (.opened, world)
  write chunk world := (some chunk.length, world)
  fsync world := (true, world)
  unlink world := (true, world)

/-- The bytes of an ASCII text. -/
def asciiBytes (text : String) : List UInt8 := text.toList.map fun c => UInt8.ofNat c.toNat

/-- A length of one superscript two, and a location with an open bracket. -/
theorem value_error_escapes :
    (resolveHttpsSource scriptedEnvironment asciiPlatform {} "https://example.com/sub".toList
      { world := [⟨200, [(asciiBytes "Content-Length", [0xb2])]⟩] }).1 = .error .valueError ∧
    (downloadPinnedArchive scriptedEnvironment willingStorage asciiPlatform List.length {}
      "https://github.com/a".toList "https://github.com/a".toList
      { world := [⟨302, [(asciiBytes "Location", asciiBytes "https://[")]⟩] }).1 =
        .error .valueError := by
  constructor
  · decide +kernel
  · decide +kernel

end RouterKit.Network
