import RouterKit.Network.Escapes

/-!
A record of what a run asks of its collaborators, kept by the collaborators
themselves: the calls of the resolver, of the connection factory and of the
request with their arguments, the body bytes handed over, and what the file
system answered. The hops a session lists are these calls.
-/

namespace RouterKit.Network

open RouterKit.Lib RouterKit.Lib.Checked RouterKit.Lib.Url
open RouterKit.Lib.Effects RouterKit.Lib.Effects.Effect

variable {σ δ α β : Type}

/-- A call with its arguments; a resolver that raises has no answer. -/
inductive Call where
  | resolve (host : List Char) (port : Nat) (answer : Option (List (List Char)))
  | connect (url : ValidatedUrl) (address : List Char)
  | request (target : List Char) (headers : List (String × List Char))
deriving DecidableEq

def Call.connection? : Call → Option (ValidatedUrl × List Char)
  | .connect url address => some (url, address)
  | _ => none

def Call.reply? : Call → Option (List Char × Nat × List (List Char))
  | .resolve host port (some values) => some (host, port, values)
  | _ => none

/-- What the collaborators have seen, the newest call first. -/
structure Record where
  calls : List Call := []
  body : List UInt8 := []
  opens : List OpenOutcome := []
  unlinks : List Bool := []
deriving DecidableEq

def Record.add (record : Record) (call : Call) : Record :=
  { record with calls := call :: record.calls }

/-- The bytes a read hands over. -/
def handedOver : Except Raised (Option (List UInt8)) → List UInt8
  | .ok (some chunk) => chunk
  | _ => []

/-- The same collaborators, which keep the record. -/
def Environment.recorded (env : Environment σ) : Environment (σ × Record) where
  clock w := ((env.clock w.1).1, (env.clock w.1).2, w.2)
  resolver host port timeout w :=
    let answer := env.resolver host port timeout w.1
    (answer.1, answer.2, w.2.add (.resolve host port answer.1.toOption))
  connectionFactory url address timeout w :=
    ((env.connectionFactory url address timeout w.1).1,
      (env.connectionFactory url address timeout w.1).2, w.2.add (.connect url address))
  deadlineGuard delay w := ((env.deadlineGuard delay w.1).1, (env.deadlineGuard delay w.1).2, w.2)
  request target headers w :=
    ((env.request target headers w.1).1, (env.request target headers w.1).2,
      w.2.add (.request target headers))
  getResponse w := ((env.getResponse w.1).1, (env.getResponse w.1).2, w.2)
  hasSocket w := env.hasSocket w.1
  read amount w :=
    ((env.read amount w.1).1, (env.read amount w.1).2,
      { w.2 with body := w.2.body ++ handedOver (env.read amount w.1).1 })
  cleanup w := (env.cleanup w.1, w.2)

def Storage.recorded (storage : Storage σ) : Storage (σ × Record) where
  openFile w :=
    ((storage.openFile w.1).1, (storage.openFile w.1).2,
      { w.2 with opens := (storage.openFile w.1).1 :: w.2.opens })
  write chunk w := ((storage.write chunk w.1).1, (storage.write chunk w.1).2, w.2)
  fsync w := ((storage.fsync w.1).1, (storage.fsync w.1).2, w.2)
  unlink w :=
    ((storage.unlink w.1).1, (storage.unlink w.1).2,
      { w.2 with unlinks := (storage.unlink w.1).1 :: w.2.unlinks })

/-- The step keeps `J`, returning or raising. -/
abbrev Keeps (J : Session σ → Prop) (m : Net σ α) : Prop :=
  Triple J m (fun _ s => J s) (fun _ s => J s)

section Keeping

variable {env : Environment σ} {J : Session σ → Prop}

theorem keeps_pure {a : α} : Keeps J (pure a : Net σ α) := Triple.pure fun _ h => h

theorem keeps_raise {e : Raised} : Keeps J (raise e : Net σ α) := Triple.raise fun _ h => h

theorem keeps_raiseIf {condition : Prop} [Decidable condition] {e : Raised} :
    Keeps J (raiseIf condition e : Net σ Unit) :=
  Triple.raiseIf (fun _ _ h => h) fun _ _ h => h

theorem keeps_lift {x : Except Raised α} : Keeps J (lift x : Net σ α) :=
  Triple.lift (fun _ _ _ h => h) fun _ _ _ h => h

theorem keeps_ask {call : σ → Except Raised α × σ}
    (h : ∀ s, J s → J { s with world := (call s.world).2 }) : Keeps J (ask call) := by
  intro s hs
  have hafter := h s hs
  unfold ask
  cases (call s.world).1 <;> exact hafter

section Clock

variable (hclock : ∀ s, J s → J { s with world := (env.clock s.world).2 })
include hclock

theorem now_keeps : Keeps J (now env) := keeps_ask hclock

theorem remaining_keeps (deadline : Int) : Keeps J (remaining env deadline) := by
  unfold remaining
  apply (now_keeps hclock).bind
  intro time
  apply keeps_raiseIf.bind
  intro _
  exact keeps_pure

theorem archiveRemaining_keeps (deadline : Int) : Keeps J (archiveRemaining env deadline) := by
  unfold archiveRemaining
  apply (remaining_keeps hclock deadline).handle
  intro e
  exact keeps_raise

end Clock

end Keeping

/-- The hops list the calls: the connections with the URL and the address they
were opened with, the replies of the resolver with the name they were asked for,
and no request goes elsewhere. -/
structure Logged (hops : List Hop) (calls : List Call) : Prop where
  connections : calls.filterMap Call.connection? =
    hops.flatMap fun hop => hop.connections.map fun address => (hop.url, address)
  replies : calls.filterMap Call.reply? =
    hops.filterMap fun hop => hop.resolved.map fun values => (hop.url.hostname, 443, values)
  requests : ∀ target headers, .request target headers ∈ calls →
    ∃ hop ∈ hops, target = hop.url.requestTarget ∧ headers = requestHeaders hop.url

variable {hop : Hop} {earlier : List Hop} {calls : List Call} {url : ValidatedUrl}

theorem logged_nil : Logged [] [] := ⟨rfl, rfl, by simp⟩

/-- A change of the newest hop that its connections and its reply do not show. -/
theorem Logged.change {hop' : Hop} (h : Logged (hop :: earlier) calls) (hurl : hop'.url = hop.url)
    (hconnections : hop'.connections = hop.connections) (hresolved : hop'.resolved = hop.resolved) :
    Logged (hop' :: earlier) calls := by
  obtain ⟨hconnected, hreplied, hrequested⟩ := h
  refine ⟨?_, ?_, ?_⟩
  · rw [hconnected, List.flatMap_cons, List.flatMap_cons, hurl, hconnections]
  · rw [hreplied, List.filterMap_cons, List.filterMap_cons, hurl, hresolved]
  · intro target headers hmem
    obtain ⟨found, hfound, hsame⟩ := hrequested target headers hmem
    rcases List.mem_cons.mp hfound with rfl | hearlier
    · exact ⟨hop', List.mem_cons_self, by rw [hurl]; exact hsame⟩
    · exact ⟨found, List.mem_cons_of_mem _ hearlier, hsame⟩

theorem Logged.begin {hops : List Hop} (h : Logged hops calls) :
    Logged ({ url } :: hops) calls := by
  obtain ⟨hconnected, hreplied, hrequested⟩ := h
  refine ⟨by simpa using hconnected, by simpa using hreplied, ?_⟩
  intro target headers hmem
  obtain ⟨found, hfound, hsame⟩ := hrequested target headers hmem
  exact ⟨found, List.mem_cons_of_mem _ hfound, hsame⟩

/-- A call of the resolver that raises, or whose reply the newest hop has noted. -/
theorem Logged.resolve (h : Logged (hop :: earlier) calls) (hnone : hop.resolved = none)
    (answer : Option (List (List Char))) :
    Logged ({ hop with resolved := answer } :: earlier)
      (.resolve hop.url.hostname 443 answer :: calls) := by
  obtain ⟨hconnected, hreplied, hrequested⟩ := h
  refine ⟨?_, ?_, ?_⟩
  · rw [List.filterMap_cons]
    exact hconnected
  · rw [List.filterMap_cons, hnone] at hreplied
    cases answer with
    | none =>
        rw [List.filterMap_cons_none rfl]
        simpa using hreplied
    | some values => simpa [Call.reply?, List.filterMap_cons] using hreplied
  · intro target headers hmem
    obtain ⟨found, hfound, hsame⟩ := hrequested target headers (by simpa using hmem)
    rcases List.mem_cons.mp hfound with rfl | hearlier
    · exact ⟨_, List.mem_cons_self, hsame⟩
    · exact ⟨found, List.mem_cons_of_mem _ hearlier, hsame⟩

theorem Logged.connect (h : Logged (hop :: earlier) calls) (address : List Char) :
    Logged ({ hop with connections := address :: hop.connections } :: earlier)
      (.connect hop.url address :: calls) := by
  obtain ⟨hconnected, hreplied, hrequested⟩ := h
  refine ⟨?_, ?_, ?_⟩
  · rw [List.flatMap_cons] at hconnected
    simpa [Call.connection?] using hconnected
  · rw [List.filterMap_cons] at hreplied
    simpa [Call.reply?, List.filterMap_cons] using hreplied
  · intro target headers hmem
    obtain ⟨found, hfound, hsame⟩ := hrequested target headers (by simpa using hmem)
    rcases List.mem_cons.mp hfound with rfl | hearlier
    · exact ⟨_, List.mem_cons_self, hsame⟩
    · exact ⟨found, List.mem_cons_of_mem _ hearlier, hsame⟩

theorem Logged.request (h : Logged (hop :: earlier) calls) :
    Logged (hop :: earlier)
      (.request hop.url.requestTarget (requestHeaders hop.url) :: calls) := by
  obtain ⟨hconnected, hreplied, hrequested⟩ := h
  refine ⟨hconnected, hreplied, ?_⟩
  intro target headers hmem
  rcases List.mem_cons.mp hmem with hnew | hmem
  · cases hnew
    exact ⟨hop, List.mem_cons_self, rfl, rfl⟩
  · exact hrequested target headers hmem

/-- The hops so far list the calls so far. -/
def Listed (s : Session (σ × Record)) : Prop := Logged s.hops s.world.2.calls

/-- The calls are listed, and the newest hop is at this URL. -/
def At (url : ValidatedUrl) (s : Session (σ × Record)) : Prop :=
  ∃ hop earlier, s.hops = hop :: earlier ∧ hop.url = url ∧ Logged (hop :: earlier) s.world.2.calls

/-- The calls are listed, and the newest hop, at this URL, has no reply. -/
def Unresolved (url : ValidatedUrl) (s : Session (σ × Record)) : Prop :=
  ∃ hop earlier, s.hops = hop :: earlier ∧ hop.url = url ∧ hop.resolved = none ∧
    Logged (hop :: earlier) s.world.2.calls

theorem At.listed {s : Session (σ × Record)} (h : At url s) : Listed s := by
  obtain ⟨hop, earlier, hhops, -, hlogged⟩ := h
  unfold Listed
  rwa [hhops]

theorem Unresolved.at {s : Session (σ × Record)} (h : Unresolved url s) : At url s := by
  obtain ⟨hop, earlier, hhops, hurl, -, hlogged⟩ := h
  exact ⟨hop, earlier, hhops, hurl, hlogged⟩

section Calls

variable (env : Environment σ) (storage : Storage σ) (platform : Platform)
variable (sha256 : List UInt8 → δ)

theorem attemptAddress_listed (deadline : Int) (address : List Char) :
    Keeps (At url) (attemptAddress env.recorded url deadline address) := by
  have hremaining : Keeps (At url) (remaining env.recorded deadline) :=
    remaining_keeps (fun _ hs => hs) deadline
  unfold attemptAddress
  apply hremaining.bind
  intro time
  -- the hop notes the address first, and the call follows
  apply Triple.bind (Q := fun _ s => ∃ hop earlier, s.hops = hop :: earlier ∧ hop.url = url ∧
    Logged (hop :: earlier) (.connect url address :: s.world.2.calls))
  · apply Triple.update
    rintro s ⟨hop, earlier, hhops, rfl, hlogged⟩
    exact ⟨{ hop with connections := address :: hop.connections }, earlier,
      by simp only [hhops, List.modifyHead_cons], rfl, hlogged.connect address⟩
  intro _
  apply Triple.bind (Q := fun _ => At url)
  · intro s hs
    unfold ask
    cases (env.recorded.connectionFactory url address (min connectTimeout time) s.world).1 <;>
      exact hs
  intro _
  apply hremaining.bind
  intro delay
  apply (keeps_ask fun _ hs => hs).bind
  intro _
  apply Triple.bind (Q := fun _ => At url)
  · apply keeps_ask
    rintro s ⟨hop, earlier, hhops, rfl, hlogged⟩
    exact ⟨hop, earlier, hhops, rfl, hlogged.request⟩
  intro _
  apply (keeps_ask fun _ hs => hs).bind
  intro response
  apply Triple.bind (Q := fun _ => At url)
  · exact Triple.read fun _ hs => hs
  intro hasSocket
  split
  · apply hremaining.bind
    intro _
    exact keeps_pure
  · exact keeps_pure

theorem requestOneHop_listed (deadline : Int) (addresses : List (List Char)) :
    Keeps (At url) (requestOneHop env.recorded url deadline addresses) := by
  induction addresses with
  | nil =>
      unfold requestOneHop
      apply (now_keeps fun _ hs => hs).bind
      intro time
      apply keeps_raiseIf.bind
      intro _
      exact keeps_raise
  | cons address rest ih =>
      unfold requestOneHop
      apply (attemptAddress_listed env deadline address).handle
      intro e
      apply Triple.bind (Q := fun _ => At url)
      · exact Triple.update fun _ hs => hs
      intro _
      split
      · exact keeps_raise
      · exact ih

/-- A call of the resolver: the next step of the hop is to note the reply. -/
theorem resolver_listed (timeout : Int) :
    Triple (Unresolved url) (ask (env.recorded.resolver url.hostname 443 timeout))
      (fun values s => ∃ hop earlier, s.hops = hop :: earlier ∧ hop.url = url ∧
        Logged ({ hop with resolved := some values } :: earlier) s.world.2.calls)
      (fun _ => At url) := by
  rintro s ⟨hop, earlier, hhops, rfl, hnone, hlogged⟩
  have hnoted := hlogged.resolve hnone
    (env.resolver hop.url.hostname 443 timeout s.world.1).1.toOption
  unfold ask
  cases hanswer : (env.recorded.resolver hop.url.hostname 443 timeout s.world).1 with
  | ok values =>
      refine ⟨hop, earlier, hhops, rfl, ?_⟩
      have hvalues : (env.resolver hop.url.hostname 443 timeout s.world.1).1.toOption =
          some values := congrArg Except.toOption hanswer
      rw [hvalues] at hnoted
      simp only [Environment.recorded, Record.add, hvalues]
      exact hnoted
  | error e =>
      refine ⟨_, earlier, hhops, rfl, ?_⟩
      have hnothing : (env.resolver hop.url.hostname 443 timeout s.world.1).1.toOption =
          none := congrArg Except.toOption hanswer
      rw [hnothing] at hnoted
      simp only [Environment.recorded, Record.add, hnothing]
      exact hnoted.change rfl rfl hnone

/-- Noting the reply and validating it. -/
private theorem note_listed {values : List (List Char)} :
    Triple (fun s : Session (σ × Record) => ∃ hop earlier, s.hops = hop :: earlier ∧
        hop.url = url ∧ Logged ({ hop with resolved := some values } :: earlier) s.world.2.calls)
      (do
        recordHop fun hop => { hop with resolved := some values }
        lift (validateAddressSet platform.classes values)) (fun _ => At url) (fun _ => At url) := by
  apply Triple.bind (Q := fun _ => At url)
  · apply Triple.update
    rintro s ⟨hop, earlier, hhops, rfl, hlogged⟩
    exact ⟨{ hop with resolved := some values }, earlier,
      by simp only [hhops, List.modifyHead_cons], rfl, hlogged⟩
  intro _
  exact keeps_lift

theorem hopAddresses_listed (deadline : Int) :
    Triple (Unresolved url) (hopAddresses env.recorded platform url deadline)
      (fun _ => At url) (fun _ => At url) := by
  unfold hopAddresses
  split
  · exact Triple.pure fun _ hs => hs.at
  · apply Triple.bind (Q := fun _ => Unresolved url)
    · exact Triple.weaken (remaining_keeps (J := Unresolved url) (fun _ hs => hs) deadline)
        (fun _ hs => hs) (fun _ _ hs => hs) fun _ _ hs => hs.at
    intro time
    apply Triple.bind
    · apply (resolver_listed env _).handle
      intro e
      split
      · exact Triple.raise fun _ hs => hs
      · exact Triple.raise fun _ hs => hs
    intro resolved
    exact note_listed platform

theorem archiveAddresses_listed (deadline : Int) :
    Triple (Unresolved url) (archiveAddresses env.recorded platform url deadline)
      (fun _ => At url) (fun _ => At url) := by
  unfold archiveAddresses
  apply Triple.handle (F := fun _ => At url)
  · apply Triple.bind (Q := fun _ => Unresolved url)
    · exact Triple.weaken (remaining_keeps (J := Unresolved url) (fun _ hs => hs) deadline)
        (fun _ hs => hs) (fun _ _ hs => hs) fun _ _ hs => hs.at
    intro time
    apply (resolver_listed env _).bind
    intro resolved
    exact note_listed platform
  · intro e
    split
    · exact Triple.raise fun _ hs => hs
    · exact Triple.raise fun _ hs => hs

theorem readRounds_listed (deadline : Int) (room : Nat) (body : List UInt8) :
    Keeps (At url) (readRounds env.recorded deadline room body) := by
  have hremaining : Keeps (At url) (remaining env.recorded deadline) :=
    remaining_keeps (fun _ hs => hs) deadline
  induction room using Nat.strong_induction_on generalizing body with
  | _ room ih =>
      cases room with
      | zero =>
          unfold readRounds
          exact keeps_pure
      | succ room =>
          unfold readRounds
          apply hremaining.bind
          intro _
          apply Triple.bind (Q := fun _ => At url)
          · apply Triple.handle (F := fun _ => At url)
            · exact keeps_ask fun _ hs => hs
            intro e
            apply (now_keeps fun _ hs => hs).bind
            intro time
            apply keeps_raiseIf.bind
            intro _
            exact keeps_raise
          intro chunk
          apply hremaining.bind
          intro _
          split
          · exact keeps_raise
          · exact keeps_pure
          · apply keeps_raiseIf.bind
            intro _
            exact ih _ (by omega) _

theorem finishSource_listed (limits : SourceLimits) (deadline : Int) (redirectCount : Nat)
    (response : Response) : Keeps (At url)
      (finishSource env.recorded platform limits deadline redirectCount response) := by
  unfold finishSource readBodyBounded
  apply keeps_raiseIf.bind
  intro _
  apply keeps_lift.bind
  intro length
  apply Triple.bind (Q := fun _ => At url)
  · apply (readRounds_listed env deadline _ _).bind
    intro body
    apply keeps_raiseIf.bind
    intro _
    exact keeps_pure
  intro body
  apply keeps_raiseIf.bind
  intro _
  split
  · exact keeps_raise
  · exact keeps_pure

/-- A step of the file system that makes no recorded call. -/
theorem keeps_of_frame {m : Net (σ × Record) α}
    (h : ∀ s, (m s).2.hops = s.hops ∧ (m s).2.world.2.calls = s.world.2.calls) :
    Keeps (At url) m := by
  rintro s ⟨hop, earlier, hhops, hurl, hlogged⟩
  obtain ⟨hsame, hcalls⟩ := h s
  have hat : At url (m s).2 := ⟨hop, earlier, hsame.trans hhops, hurl, by rwa [hcalls]⟩
  revert hat
  rcases m s with ⟨e | a, after⟩ <;> exact id

theorem writeAll_listed (fuel : Nat) (chunk : List UInt8) :
    Keeps (At url) (writeAll storage.recorded fuel chunk) := by
  have hone : ∀ chunk, Keeps (At url) (writeOnce storage.recorded chunk) := by
    intro chunk
    apply keeps_of_frame
    intro s
    unfold writeOnce
    rcases hwrite : storage.recorded.write chunk s.world with ⟨_ | written, world⟩ <;>
      obtain rfl := congrArg Prod.snd hwrite
    · exact ⟨rfl, rfl⟩
    · dsimp only
      split <;> exact ⟨rfl, rfl⟩
  induction fuel generalizing chunk with
  | zero => exact keeps_pure
  | succ fuel ih =>
      unfold writeAll
      split
      · exact keeps_pure
      · apply (hone chunk).bind
        intro stored
        exact ih _

theorem streamRounds_listed (deadline : Int) (room : Nat) (body : List UInt8) :
    Keeps (At url) (streamRounds env.recorded storage.recorded deadline room body) := by
  induction room using Nat.strong_induction_on generalizing body with
  | _ room ih =>
      cases room with
      | zero =>
          unfold streamRounds
          exact keeps_pure
      | succ room =>
          unfold streamRounds
          apply (archiveRemaining_keeps (fun _ hs => hs) deadline).bind
          intro _
          apply Triple.bind (Q := fun _ => At url)
          · apply Triple.handle (F := fun _ => At url)
            · exact keeps_ask fun _ hs => hs
            intro e
            exact keeps_raise
          intro chunk
          split
          · exact keeps_raise
          · exact keeps_pure
          · apply keeps_raiseIf.bind
            intro _
            apply keeps_raiseIf.bind
            intro _
            apply (writeAll_listed storage _ _).bind
            intro _
            exact ih _ (by omega) _

theorem finishArchive_listed (limits : ArchiveLimits) (deadline : Int) (redirects : Nat)
    (response : Response) : Keeps (At url)
      (finishArchive env.recorded storage.recorded platform sha256 limits deadline redirects
        response) := by
  unfold finishArchive
  apply keeps_raiseIf.bind
  intro _
  apply keeps_lift.bind
  intro length
  apply Triple.bind (Q := fun _ => At url)
  · apply keeps_of_frame
    intro s
    unfold openDestination
    split
    · exact ⟨rfl, rfl⟩
    · rcases hopen : storage.recorded.openFile s.world with ⟨_ | _ | _, world⟩ <;>
        obtain rfl := congrArg Prod.snd hopen <;> exact ⟨rfl, rfl⟩
  intro _
  apply (streamRounds_listed env storage deadline _ _).bind
  intro body
  apply keeps_raiseIf.bind
  intro _
  apply Triple.bind (Q := fun _ => At url)
  · apply keeps_of_frame
    exact fun s => ⟨rfl, rfl⟩
  intro _
  exact keeps_pure

/-- The examined response shows in no call. -/
theorem examine_listed (response : Response) :
    Keeps (At url)
      (recordHop fun hop => { hop with response := some response } : Net (σ × Record) Unit) := by
  apply Triple.update
  rintro s ⟨hop, earlier, hhops, hurl, hlogged⟩
  exact ⟨{ hop with response := some response }, earlier,
    by simp only [hhops, List.modifyHead_cons], hurl, hlogged.change rfl rfl rfl⟩

theorem sourceHop_listed (limits : SourceLimits) (deadline : Int) (left redirectCount : Nat) :
    Triple (Unresolved url)
      (sourceHop env.recorded platform limits deadline left redirectCount url)
      (fun _ => Listed) (fun _ => Listed) := by
  unfold sourceHop
  apply Triple.bind (Triple.weaken (hopAddresses_listed env platform deadline) (fun _ hs => hs)
    (fun _ _ hs => hs) fun _ _ hs => hs.listed)
  intro addresses
  apply Triple.andFinally
  apply Triple.weaken (Q := fun _ => At url) (E := fun _ => At url) _ (fun _ hs => hs)
    (fun _ _ hs => hs.listed) (fun _ _ hs => hs.listed)
  apply (requestOneHop_listed env deadline addresses).bind
  intro response
  apply (examine_listed response).bind
  intro _
  apply keeps_raiseIf.bind
  intro _
  split
  · apply keeps_raiseIf.bind
    intro _
    apply keeps_lift.bind
    intro next
    exact keeps_pure
  · apply (finishSource_listed env platform limits deadline redirectCount response).bind
    intro payload
    exact keeps_pure

theorem archiveHop_listed (limits : ArchiveLimits) (deadline : Int) (left redirects : Nat) :
    Triple (Unresolved url)
      (archiveHop env.recorded storage.recorded platform sha256 limits deadline left redirects url)
      (fun _ => Listed) (fun _ => Listed) := by
  unfold archiveHop
  apply Triple.bind (Triple.weaken (archiveAddresses_listed env platform deadline)
    (fun _ hs => hs) (fun _ _ hs => hs) fun _ _ hs => hs.listed)
  intro addresses
  apply Triple.andFinally
  apply Triple.weaken (Q := fun _ => At url) (E := fun _ => At url) _ (fun _ hs => hs)
    (fun _ _ hs => hs.listed) (fun _ _ hs => hs.listed)
  apply Triple.handle (F := fun _ => At url)
  · unfold archiveExchange
    apply (requestOneHop_listed env deadline addresses).bind
    intro response
    apply (examine_listed response).bind
    intro _
    split
    · apply keeps_raiseIf.bind
      intro _
      apply keeps_lift.bind
      intro next
      exact keeps_pure
    · apply (finishArchive_listed env storage platform sha256 limits deadline redirects
        response).bind
      intro download
      exact keeps_pure
  · intro e
    have hunlink : ∀ {safe : Raised}, Keeps (At url) (do
        update (unlinkDestination storage.recorded)
        raise safe : Net (σ × Record) (ArtifactDownload δ ⊕ ValidatedUrl)) := by
      intro safe
      apply Triple.bind (Q := fun _ => At url)
      · exact Triple.update fun s hs => hs
      intro _
      exact keeps_raise
    unfold discardDestination
    split
    · exact hunlink
    · exact hunlink
    · exact keeps_raise

/-- The start of a round of either loop. -/
theorem beginRound_listed {check : Net (σ × Record) Int} (hcheck : Keeps Listed check)
    {seen : Prop} [Decidable seen] {error : Raised} {m : Net (σ × Record) α}
    (hm : Triple (Unresolved url) m (fun _ => Listed) (fun _ => Listed)) :
    Keeps Listed (do
      let _ ← check
      raiseIf seen error
      beginHop url
      m) := by
  apply hcheck.bind
  intro _
  apply keeps_raiseIf.bind
  intro _
  apply Triple.bind (Q := fun _ => Unresolved url)
  · exact Triple.update fun s hs => ⟨{ url }, s.hops, rfl, rfl, rfl, Logged.begin hs⟩
  intro _
  exact hm

theorem sourceLoop_listed (limits : SourceLimits) (deadline : Int) (left redirectCount : Nat)
    (visited : List (List Char × List Char × List Char × List Char)) (current : ValidatedUrl) :
    Keeps Listed (sourceLoop env.recorded platform limits deadline left redirectCount visited
      current) := by
  have hcheck : Keeps Listed (remaining env.recorded deadline) :=
    remaining_keeps (fun _ hs => hs) deadline
  induction left generalizing redirectCount visited current with
  | zero =>
      unfold sourceLoop
      apply beginRound_listed hcheck
      apply (sourceHop_listed env platform limits deadline 0 redirectCount).bind
      rintro (payload | next)
      · exact keeps_pure
      · exact keeps_raise
  | succ left ih =>
      unfold sourceLoop
      apply beginRound_listed hcheck
      apply (sourceHop_listed env platform limits deadline (left + 1) redirectCount).bind
      rintro (payload | next)
      · exact keeps_pure
      · exact ih _ _ next

theorem archiveLoop_listed (limits : ArchiveLimits) (deadline : Int) (left redirects : Nat)
    (visited : List (List Char × List Char × List Char × List Char)) (current : ValidatedUrl) :
    Keeps Listed (archiveLoop env.recorded storage.recorded platform sha256 limits deadline left
      redirects visited current) := by
  have hcheck : Keeps Listed (archiveRemaining env.recorded deadline) :=
    archiveRemaining_keeps (fun _ hs => hs) deadline
  induction left generalizing redirects visited current with
  | zero =>
      unfold archiveLoop
      apply beginRound_listed hcheck
      apply (archiveHop_listed env storage platform sha256 limits deadline 0 redirects).bind
      rintro (download | next)
      · exact keeps_pure
      · exact keeps_raise
  | succ left ih =>
      unfold archiveLoop
      apply beginRound_listed hcheck
      apply (archiveHop_listed env storage platform sha256 limits deadline (left + 1)
        redirects).bind
      rintro (download | next)
      · exact keeps_pure
      · exact ih _ _ next

/-- The hops of a run of the source loop list the calls it has made. -/
theorem resolveHttpsSource_listed (limits : SourceLimits) (source : List Char) :
    Keeps Listed (resolveHttpsSource env.recorded platform limits source) := by
  unfold resolveHttpsSource
  apply keeps_raiseIf.bind
  intro _
  apply keeps_lift.bind
  intro value
  apply keeps_lift.bind
  intro current
  apply (now_keeps fun _ hs => hs).bind
  intro time
  exact sourceLoop_listed env platform limits _ _ _ _ current

/-- The hops of a download list the calls it has made. -/
theorem downloadPinnedArchive_listed (limits : ArchiveLimits) (sourceUrl expectedUrl : List Char) :
    Keeps Listed (downloadPinnedArchive env.recorded storage.recorded platform sha256 limits
      sourceUrl expectedUrl) := by
  unfold downloadPinnedArchive
  apply keeps_raiseIf.bind
  intro _
  apply keeps_lift.bind
  intro current
  apply (now_keeps fun _ hs => hs).bind
  intro time
  exact archiveLoop_listed env storage platform sha256 limits _ _ _ _ current

end Calls

end RouterKit.Network
