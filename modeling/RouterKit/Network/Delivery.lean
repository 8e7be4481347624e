import RouterKit.Network.Guarded
import RouterKit.Network.Recording

/-!
The file an archive is stored in. The body goes to a new file, and the handlers
around a hop remove whatever stands at the destination; they do not ask whether
this call has put it there.
-/

namespace RouterKit.Network

open RouterKit.Lib RouterKit.Lib.Checked
open RouterKit.Lib.Effects RouterKit.Lib.Effects.Effect

variable {σ δ α β : Type}

/-- A property of the session that no call of a collaborator but the reading of
the body disturbs, and no change of the current hop's record. -/
structure Undisturbed (env : Environment σ) (J : Session σ → Prop) : Prop where
  clock : ∀ s, J s → J { s with world := (env.clock s.world).2 }
  resolver : ∀ host port timeout s, J s →
    J { s with world := (env.resolver host port timeout s.world).2 }
  connectionFactory : ∀ url address timeout s, J s →
    J { s with world := (env.connectionFactory url address timeout s.world).2 }
  deadlineGuard : ∀ delay s, J s → J { s with world := (env.deadlineGuard delay s.world).2 }
  request : ∀ target headers s, J s → J { s with world := (env.request target headers s.world).2 }
  getResponse : ∀ s, J s → J { s with world := (env.getResponse s.world).2 }
  cleanup : ∀ s, J s → J { s with world := env.cleanup s.world }
  recordHop : ∀ change s, J s → J { s with hops := s.hops.modifyHead change }

section Keeping

variable {env : Environment σ} {J : Session σ → Prop}
variable (undisturbed : Undisturbed env J)
include undisturbed

theorem attemptAddress_keeps (url : ValidatedUrl) (deadline : Int) (address : List Char) :
    Keeps J (attemptAddress env url deadline address) := by
  unfold attemptAddress
  apply (remaining_keeps undisturbed.clock deadline).bind
  intro time
  apply Triple.bind (Q := fun _ => J)
  · exact Triple.update fun s hs => undisturbed.recordHop _ s hs
  intro _
  apply (keeps_ask (undisturbed.connectionFactory _ _ _)).bind
  intro _
  apply (remaining_keeps undisturbed.clock deadline).bind
  intro delay
  apply (keeps_ask (undisturbed.deadlineGuard _)).bind
  intro _
  apply (keeps_ask (undisturbed.request _ _)).bind
  intro _
  apply (keeps_ask undisturbed.getResponse).bind
  intro response
  apply Triple.bind (Q := fun _ => J)
  · exact Triple.read fun _ hs => hs
  intro hasSocket
  split
  · apply (remaining_keeps undisturbed.clock deadline).bind
    intro _
    exact keeps_pure
  · exact keeps_pure

theorem requestOneHop_keeps (url : ValidatedUrl) (deadline : Int) (addresses : List (List Char)) :
    Keeps J (requestOneHop env url deadline addresses) := by
  induction addresses with
  | nil =>
      unfold requestOneHop
      apply (now_keeps undisturbed.clock).bind
      intro time
      apply keeps_raiseIf.bind
      intro _
      exact keeps_raise
  | cons address rest ih =>
      unfold requestOneHop
      apply (attemptAddress_keeps undisturbed url deadline address).handle
      intro e
      apply Triple.bind (Q := fun _ => J)
      · exact Triple.update undisturbed.cleanup
      intro _
      split
      · exact keeps_raise
      · exact ih

theorem archiveAddresses_keeps (platform : Platform) (url : ValidatedUrl) (deadline : Int) :
    Keeps J (archiveAddresses env platform url deadline) := by
  unfold archiveAddresses
  apply Triple.handle (F := fun _ => J)
  · apply (remaining_keeps undisturbed.clock deadline).bind
    intro time
    apply (keeps_ask (undisturbed.resolver _ _ _)).bind
    intro resolved
    apply Triple.bind (Q := fun _ => J)
    · exact Triple.update fun s hs => undisturbed.recordHop _ s hs
    intro _
    exact keeps_lift
  intro e
  split <;> exact keeps_raise

end Keeping

/-- The file is as it was before the call, and the file system was not asked for it. -/
def Untouched (prior : Option (List UInt8)) (s : Session (σ × Record)) : Prop :=
  s.destination = prior ∧ s.world.2.body = [] ∧ s.world.2.opens = [] ∧ s.world.2.unlinks = []

/-- The same while a hop is under way. -/
def FileHolds (prior : Option (List UInt8)) (s : Session (σ × Record)) : Prop :=
  Untouched prior s ∧ s.hops ≠ []

theorem fileHolds_undisturbed (env : Environment σ) (prior : Option (List UInt8)) :
    Undisturbed env.recorded (FileHolds prior) where
  clock := fun _ hs => hs
  resolver := fun _ _ _ _ hs => hs
  connectionFactory := fun _ _ _ _ hs => hs
  deadlineGuard := fun _ _ hs => hs
  request := fun _ _ _ hs => hs
  getResponse := fun _ hs => hs
  cleanup := fun _ hs => hs
  recordHop := by
    rintro change s ⟨huntouched, hhops⟩
    refine ⟨huntouched, ?_⟩
    cases hlist : s.hops with
    | nil => exact absurd hlist hhops
    | cons hop rest => simp

/-- The newest hop has examined this response. -/
def HasExamined (response : Response) (s : Session (σ × Record)) : Prop :=
  s.hops.head?.bind (·.response) = some response

/-- The call has created the file, and has not unlinked it. -/
def Created (s : Session (σ × Record)) : Prop :=
  s.destination ≠ none ∧ s.world.2.unlinks = [] ∧
    ∃ outcome ∈ s.world.2.opens, outcome ≠ .refused

/-- While the body is stored: the file, the bytes handed over, and the response. -/
def Streaming (content body : List UInt8) (response : Response) (s : Session (σ × Record)) :
    Prop :=
  s.destination = some content ∧ s.world.2.body = body ∧ HasExamined response s ∧ Created s

section Storing

variable {env : Environment σ} {storage : Storage σ} {response : Response}
    {body content : List UInt8}

theorem writeOnce_triple {chunk : List UInt8} (hchunk : chunk ≠ []) :
    Triple (Streaming content body response) (writeOnce storage.recorded chunk)
      (fun stored s => 0 < stored ∧ stored ≤ chunk.length ∧
        Streaming (content ++ chunk.take stored) body response s)
      (fun _ => Created) := by
  rintro s ⟨hfile, hbody, hresponse, hcreated⟩
  unfold writeOnce
  rcases hwrite : storage.recorded.write chunk s.world with ⟨_ | written, world⟩ <;>
    obtain rfl := congrArg Prod.snd hwrite
  · exact hcreated
  by_cases hshort : written ≤ 0
  · simp only [if_pos hshort]
    exact hcreated
  · simp only [if_neg hshort]
    have hpos : 0 < chunk.length := List.length_pos_iff.mpr hchunk
    refine ⟨by omega, Nat.min_le_right _ _, by rw [hfile]; rfl, hbody, hresponse, ?_, hcreated.2⟩
    rw [hfile]
    exact Option.some_ne_none _

/-- Enough calls store the whole chunk, however the bytes are split between them. -/
theorem writeAll_triple {fuel : Nat} {chunk : List UInt8} (hfuel : chunk.length ≤ fuel) :
    Triple (Streaming content body response) (writeAll storage.recorded fuel chunk)
      (fun _ => Streaming (content ++ chunk) body response) (fun _ => Created) := by
  induction fuel generalizing chunk content with
  | zero =>
      obtain rfl := List.length_eq_zero_iff.mp (Nat.le_zero.mp hfuel)
      unfold writeAll
      rw [List.append_nil]
      exact Triple.pure fun _ hs => hs
  | succ fuel ih =>
      unfold writeAll
      split
      · next hempty =>
        rw [hempty, List.append_nil]
        exact Triple.pure fun _ hs => hs
      · next hchunk =>
        apply (writeOnce_triple hchunk).bind
        intro stored
        rintro s ⟨hpos, hle, hs⟩
        have hrest : (chunk.drop stored).length ≤ fuel := by
          rw [List.length_drop]
          omega
        have hwhole := ih hrest s hs
        rwa [List.append_assoc, List.take_append_drop] at hwhole

theorem read_triple (amount : Nat) {error : Raised} :
    Triple (Streaming body body response)
      (handle (ask (env.recorded.read amount)) fun _ => raise error)
      (fun chunk => Streaming body (body ++ handedOver (.ok chunk)) response)
      (fun _ => Created) := by
  apply Triple.handle (F := fun _ => Created)
  · rintro s ⟨hfile, hbody, hresponse, hcreated⟩
    have hlog : (env.recorded.read amount s.world).2.2.body =
        s.world.2.body ++ handedOver (env.recorded.read amount s.world).1 := rfl
    unfold ask
    rcases hread : (env.recorded.read amount s.world).1 with e | chunk
    · exact hcreated
    · rw [hread, hbody] at hlog
      exact ⟨hfile, hlog, hresponse, hcreated⟩
  · intro e
    exact Triple.raise fun _ hs => hs

/-- What the rounds return is in the file, was handed over, and fits the bound. -/
theorem streamRounds_triple (deadline : Int) {room : Nat} (hroom : 0 < room) :
    Triple (Streaming body body response)
      (streamRounds env.recorded storage.recorded deadline room body)
      (fun final s => final.length < body.length + room ∧ Streaming final final response s)
      (fun _ => Created) := by
  induction room using Nat.strong_induction_on generalizing body with
  | _ room ih =>
      cases room with
      | zero => omega
      | succ room =>
          unfold streamRounds
          apply Triple.bind (Q := fun _ => Streaming body body response)
          · exact Triple.weaken (archiveRemaining_keeps (fun _ hs => hs) deadline)
              (fun _ hs => hs) (fun _ _ hs => hs) fun _ _ hs => hs.2.2.2
          intro _
          apply (read_triple _).bind
          intro chunk
          split
          · exact Triple.raise fun _ hs => hs.2.2.2
          · apply Triple.pure
            intro s hs
            refine ⟨by omega, ?_⟩
            rwa [handedOver, List.append_nil] at hs
          · next byte more =>
            apply Triple.bind (Q := fun _ => Streaming body (body ++ byte :: more) response)
            · exact Triple.raiseIf (fun _ _ hs => hs.2.2.2) fun _ _ hs => hs
            intro _
            apply Triple.bind (Q := fun _ s => room - more.length ≠ 0 ∧
              Streaming body (body ++ byte :: more) response s)
            · exact Triple.raiseIf (fun _ _ hs => hs.2.2.2) fun hleft _ hs => ⟨hleft, hs⟩
            intro _
            apply Triple.of_pure
            intro hleft
            apply (writeAll_triple (Nat.le_refl _)).bind
            intro _
            apply Triple.weaken (ih (room - more.length) (by omega) (by omega)) (fun _ hs => hs)
            · rintro final s ⟨hlength, hs⟩
              rw [List.length_append, List.length_cons] at hlength
              exact ⟨by omega, hs⟩
            · exact fun _ _ hs => hs

end Storing

/-- What a returned download has left: the file holds the bytes handed over, their
digest and number are the returned ones, and they fit the bound and a declared length. -/
structure Delivered (sha256 : List UInt8 → δ) (limits : ArchiveLimits)
    (download : ArtifactDownload δ) (s : Session (σ × Record)) : Prop where
  file : s.destination = some s.world.2.body
  digest : download.sha256 = sha256 s.world.2.body
  count : download.byteCount = s.world.2.body.length
  bounded : download.byteCount ≤ limits.maxArchiveBytes.toNat
  declared : ∃ response, s.hops.head?.bind (·.response) = some response ∧
    ∀ length, contentLength response = .ok (some length) → length = download.byteCount

/-- What the file system answered undoes what the call did to the destination, and
no more: no unlinking took away a file that was there, and none was refused for a
file the call had created. -/
def Undone (prior : Option (List UInt8)) (record : Record) : Prop :=
  match prior with
  | some _ => true ∉ record.unlinks
  | none => (∃ outcome ∈ record.opens, outcome ≠ .refused) → false ∉ record.unlinks

theorem undone_of_not_unlinked {prior : Option (List UInt8)} {record : Record}
    (h : record.unlinks = []) : Undone prior record := by
  unfold Undone
  split <;> simp [h]

/-- Inside the guarded part, before the handler: the file is as it was, or the call
has created it. -/
def Pending (prior : Option (List UInt8)) (s : Session (σ × Record)) : Prop :=
  (s.destination = prior ∧ s.world.2.unlinks = [] ∧
    ∀ outcome ∈ s.world.2.opens, outcome = .refused) ∨ (prior = none ∧ Created s)

/-- What is left where an error is raised: the answers to the unlinkings decide about
the file, and the handlers ask for one exactly in the guarded part. -/
structure Settled (platform : Platform) (maxRedirects : Nat) (prior : Option (List UInt8))
    (e : Raised) (s : Session (σ × Record)) : Prop where
  restored : (IsArtifactNetwork e → s.destination = prior) ↔ Undone prior s.world.2
  asked : IsArtifactNetwork e → (s.world.2.unlinks ≠ [] ↔ Guarded platform maxRedirects s.hops)

/-- Between two hops, after `count` of them. -/
structure Between (platform : Platform) (maxRedirects : Nat) (prior : Option (List UInt8))
    (count : Nat) (s : Session (σ × Record)) : Prop where
  untouched : Untouched prior s
  outside : ¬ Guarded platform maxRedirects s.hops
  count : s.hops.length = count

section Parts

variable {platform : Platform} {maxRedirects : Nat} {prior : Option (List UInt8)}
  {s : Session (σ × Record)}

theorem Untouched.pending (h : Untouched prior s) : Pending prior s := by
  obtain ⟨hfile, -, hopens, hunlinks⟩ := h
  exact .inl ⟨hfile, hunlinks, by simp [hopens]⟩

theorem Untouched.settled (h : Untouched prior s)
    (houtside : ¬ Guarded platform maxRedirects s.hops) (e : Raised) :
    Settled platform maxRedirects prior e s :=
  ⟨iff_of_true (fun _ => h.1) (undone_of_not_unlinked h.2.2.2),
    fun _ => iff_of_false (not_not_intro h.2.2.2) houtside⟩

theorem Between.settled {count : Nat} (h : Between platform maxRedirects prior count s)
    (e : Raised) : Settled platform maxRedirects prior e s := h.untouched.settled h.outside e

/-- The handler unlinks once, and its answer decides. -/
theorem Pending.unlink {storage : Storage σ} (h : Pending prior s)
    (hguarded : Guarded platform maxRedirects s.hops) (message : String) :
    Settled platform maxRedirects prior (.artifactNetwork message)
      (unlinkDestination storage.recorded s) := by
  have hunlinks : s.world.2.unlinks = [] := h.elim (·.2.1) (·.2.2.1)
  have hrecord : (unlinkDestination storage.recorded s).world.2 =
      { s.world.2 with unlinks := [(storage.unlink s.world.1).1] } := by
    rw [← hunlinks]
    rfl
  have hfile : (unlinkDestination storage.recorded s).destination =
      if (storage.unlink s.world.1).1 then none else s.destination := rfl
  refine ⟨?_, fun _ => iff_of_true (by simp [hrecord]) hguarded⟩
  rw [hrecord, hfile]
  refine Iff.trans (Iff.intro (fun hprior => hprior ⟨message, rfl⟩) fun hprior _ => hprior) ?_
  rcases h with ⟨hprior, -, hrefused⟩ | ⟨rfl, hcreated, -, hopened⟩
  · rw [hprior]
    cases prior with
    | some content => cases (storage.unlink s.world.1).1 <;> simp [Undone]
    | none =>
        have hnone : ¬ ∃ outcome ∈ s.world.2.opens, outcome ≠ .refused :=
          fun ⟨outcome, hmem, hne⟩ => hne (hrefused outcome hmem)
        simp only [ite_self, Undone, true_iff]
        exact fun hopened => absurd hopened hnone
  · cases hanswer : (storage.unlink s.world.1).1 with
    | true => simp [Undone]
    | false => simpa [Undone, hcreated] using hopened

end Parts

section Hops

variable {env : Environment σ} {storage : Storage σ} {platform : Platform} {maxRedirects : Nat}
  {sha256 : List UInt8 → δ} {prior : Option (List UInt8)} {response : Response}
  {current : ValidatedUrl} {earlier : List Hop}

theorem openDestination_triple :
    Triple (fun s => Untouched prior s ∧ HasExamined response s)
      (openDestination storage.recorded)
      (fun _ s => prior = none ∧ Streaming [] [] response s)
      (fun _ => Pending prior) := by
  rintro s ⟨⟨hfile, hbody, hopens, hunlinks⟩, hresponse⟩
  unfold openDestination
  cases prior with
  | some content =>
      rw [hfile]
      exact .inl ⟨hfile, hunlinks, by simp [hopens]⟩
  | none =>
      rw [hfile]
      rcases hopen : storage.recorded.openFile s.world with ⟨outcome, world⟩
      have houtcome : (storage.openFile s.world.1).1 = outcome := congrArg Prod.fst hopen
      have hworld : { s.world.2 with opens := outcome :: s.world.2.opens } = world.2 := by
        rw [← houtcome]
        exact congrArg (fun opened => opened.2.2) hopen
      have hafter : world.2.unlinks = [] := by rw [← hworld]; exact hunlinks
      have hopened : world.2.opens = [outcome] := by rw [← hworld, hopens]
      cases outcome with
      | opened =>
          refine ⟨rfl, rfl, by rw [← hworld]; exact hbody, hresponse, Option.some_ne_none _,
            hafter, .opened, ?_, by decide⟩
          show _ ∈ world.2.opens
          rw [hopened]
          exact List.mem_cons_self
      | refused => exact .inl ⟨rfl, hafter, by simp [hopened]⟩
      | modeRefused =>
          refine .inr ⟨rfl, Option.some_ne_none _, hafter, .modeRefused, ?_, by decide⟩
          show _ ∈ world.2.opens
          rw [hopened]
          exact List.mem_cons_self

theorem contentLength_of_checkFraming {maximum : Nat} {compressed framing tooLarge : Raised}
    {length : Option Nat}
    (h : checkFraming platform response maximum compressed framing tooLarge = .ok length) :
    contentLength response = .ok length := by
  simp only [checkFraming, bind_eq_ok, exists_unit, raiseIf_eq_ok] at h
  obtain ⟨-, found, hfound, -, -, h⟩ := h
  cases h
  exact hfound

theorem fsyncDestination_triple {content body : List UInt8} :
    Triple (Streaming content body response) (fsyncDestination storage.recorded)
      (fun _ => Streaming content body response) (fun _ => Created) := by
  rintro s ⟨hfile, hbody, hresponse, hcreated⟩
  unfold fsyncDestination
  cases hsync : (storage.recorded.fsync s.world).1 with
  | false =>
      simp only [hsync, Bool.false_eq_true, if_false]
      exact hcreated
  | true =>
      simp only [hsync, if_true]
      exact ⟨hfile, hbody, hresponse, hcreated⟩

/-- A download has been delivered, and nothing was unlinked. -/
def Finished (sha256 : List UInt8 → δ) (limits : ArchiveLimits) (download : ArtifactDownload δ)
    (s : Session (σ × Record)) : Prop :=
  Delivered sha256 limits download s ∧ s.world.2.unlinks = []

theorem finishArchive_triple (limits : ArchiveLimits) (deadline : Int) (redirects : Nat) :
    Triple (fun s => Untouched prior s ∧ HasExamined response s)
      (finishArchive env.recorded storage.recorded platform sha256 limits deadline
        redirects response)
      (Finished sha256 limits) (fun _ => Pending prior) := by
  unfold finishArchive
  apply Triple.bind (Q := fun _ s => Untouched prior s ∧ HasExamined response s)
  · exact Triple.raiseIf (fun _ _ hs => hs.1.pending) fun _ _ hs => hs
  intro _
  apply Triple.bind (Q := fun length s => contentLength response = .ok length ∧
    Untouched prior s ∧ HasExamined response s)
  · exact Triple.lift (fun length hlength _ hs => ⟨contentLength_of_checkFraming hlength, hs⟩)
      fun _ _ _ hs => hs.1.pending
  intro length
  apply Triple.of_pure
  intro hdeclared
  apply openDestination_triple.bind
  intro _
  apply Triple.of_pure
  intro hprior
  have hpending : ∀ s : Session (σ × Record), Created s → Pending prior s :=
    fun s hcreated => .inr ⟨hprior, hcreated⟩
  apply Triple.bind (Triple.weaken (streamRounds_triple deadline (Nat.succ_pos _))
    (fun _ hs => hs) (fun _ _ hs => hs) fun _ s hs => hpending s hs)
  intro body
  apply Triple.of_pure
  intro hbound
  apply Triple.bind (Q := fun _ s => ¬ length.any (· ≠ body.length) ∧
    Streaming body body response s)
  · exact Triple.raiseIf (fun _ s hs => hpending s hs.2.2.2) fun hcomplete _ hs => ⟨hcomplete, hs⟩
  intro _
  apply Triple.of_pure
  intro hcomplete
  apply Triple.bind (Triple.weaken fsyncDestination_triple
    (fun _ hs => hs) (fun _ _ hs => hs) fun _ s hs => hpending s hs)
  intro _
  apply Triple.pure
  rintro s ⟨hfile, hbody, hresponse, hcreated⟩
  refine ⟨⟨by rw [hfile, hbody], by rw [hbody], by rw [hbody], ?_, response, hresponse, ?_⟩,
    hcreated.2.1⟩
  · show body.length ≤ _
    simp only [List.length_nil] at hbound
    omega
  · intro found hfound
    rw [hdeclared] at hfound
    cases hfound
    simpa using hcomplete

theorem archiveExchange_delivers (limits : ArchiveLimits) (deadline : Int) (left redirects : Nat)
    (current : ValidatedUrl) (addresses : List (List Char)) :
    Triple (FileHolds prior)
      (archiveExchange env.recorded storage.recorded platform sha256 limits deadline left redirects
        current addresses)
      (fun outcome s => match outcome with
        | .inl download => Finished sha256 limits download s
        | .inr _ => FileHolds prior s)
      (fun _ => Pending prior) := by
  unfold archiveExchange
  apply Triple.bind (Triple.weaken
    (requestOneHop_keeps (fileHolds_undisturbed env prior) current deadline addresses)
    (fun _ hs => hs) (fun _ _ hs => hs) fun _ _ hs => hs.1.pending)
  intro response
  apply Triple.bind (Q := fun _ s => FileHolds prior s ∧ HasExamined response s)
  · apply Triple.update
    rintro s ⟨huntouched, hhops⟩
    cases hlist : s.hops with
    | nil => exact absurd hlist hhops
    | cons hop rest => exact ⟨⟨huntouched, by simp⟩, by simp [HasExamined]⟩
  intro _
  split
  · apply Triple.bind (Q := fun _ => FileHolds prior)
    · exact Triple.raiseIf (fun _ _ hs => hs.1.1.pending) fun _ _ hs => hs.1
    intro _
    apply Triple.bind (Q := fun _ => FileHolds prior)
    · exact Triple.lift (fun _ _ _ hs => hs) fun _ _ _ hs => hs.1.pending
    intro next
    exact Triple.pure fun _ hs => hs
  · apply Triple.bind (Triple.weaken (finishArchive_triple limits deadline redirects)
      (fun _ hs => ⟨hs.1.1, hs.2⟩) (fun _ _ hs => hs) fun _ _ hs => hs)
    intro download
    exact Triple.pure fun _ hs => hs

/-- The handler unlinks for the errors that are safe to display, and for no other. -/
theorem discardDestination_settles {e : Raised} {Q : α → Session (σ × Record) → Prop} :
    Triple (fun s => Pending prior s ∧ Guarded platform maxRedirects s.hops)
      (discardDestination storage.recorded e : Net _ α) Q
      (Settled platform maxRedirects prior) := by
  have hdiscard : ∀ message, Triple
      (fun s => Pending prior s ∧ Guarded platform maxRedirects s.hops)
      (do
        update (unlinkDestination storage.recorded)
        raise (.artifactNetwork message) : Net _ α) Q (Settled platform maxRedirects prior) :=
    fun message s hs => hs.1.unlink hs.2 message
  unfold discardDestination
  split
  · exact hdiscard _
  · exact hdiscard _
  · next hartifact _ =>
    have hnot : ¬ IsArtifactNetwork e := by
      rintro ⟨message, rfl⟩
      exact absurd rfl (hartifact message)
    apply Triple.raise
    rintro s ⟨hpending, -⟩
    have hunlinks : s.world.2.unlinks = [] := hpending.elim (·.2.1) (·.2.2.1)
    exact ⟨iff_of_true (fun h => absurd h hnot) (undone_of_not_unlinked hunlinks),
      fun h => absurd h hnot⟩

theorem archiveHop_delivers (limits : ArchiveLimits) (deadline : Int) (left redirects : Nat)
    (hleft : earlier.length + left = maxRedirects) :
    Triple (fun s => FileHolds prior s ∧ Unasked current earlier s.hops)
      (archiveHop env.recorded storage.recorded platform sha256 limits deadline left redirects
        current)
      (fun outcome s => match outcome with
        | .inl download => Finished sha256 limits download s
        | .inr _ => Between platform maxRedirects prior (earlier.length + 1) s)
      (Settled platform maxRedirects prior) := by
  unfold archiveHop
  have hkeeps := archiveAddresses_keeps (fileHolds_undisturbed env prior) platform current deadline
  have hguards : Triple (fun s => Unasked current earlier s.hops)
      (archiveAddresses env.recorded platform current deadline)
      (fun _ s => Requesting platform current earlier s.hops)
      (fun _ s => ¬ Guarded platform maxRedirects s.hops) :=
    archiveAddresses_guards env.recorded deadline
  apply Triple.bind (Triple.weaken (Triple.and hkeeps hguards) (fun _ hs => hs) (fun _ _ hs => hs)
    fun e _ hs => hs.1.1.settled hs.2 e)
  intro addresses
  apply Triple.andFinally
  apply Triple.handle (F := fun _ s => Pending prior s ∧ Guarded platform maxRedirects s.hops)
  · apply Triple.weaken (Triple.and
      (archiveExchange_delivers limits deadline left redirects current addresses)
      (archiveExchange_guards env.recorded storage.recorded sha256 limits deadline left redirects
        addresses hleft)) (fun _ hs => hs)
    · rintro outcome s ⟨hdelivers, hguards⟩
      cases outcome with
      | inl download =>
          obtain ⟨⟨hfile, hdigest, hcount, hbounded, hdeclared⟩, hunlinks⟩ := hdelivers
          exact ⟨⟨hfile, hdigest, hcount, hbounded, hdeclared⟩, hunlinks⟩
      | inr next => exact ⟨hdelivers.1, (hguards next rfl).1, (hguards next rfl).2⟩
    · exact fun _ _ hs => hs
  intro e
  exact Triple.weaken discardDestination_settles (fun _ hs => hs) (fun _ _ hs => hs)
    fun _ _ hs => ⟨hs.restored, hs.asked⟩

/-- The start of a round touches neither the file nor the record of it. -/
theorem archiveRound_delivers {count : Nat} (deadline : Int)
    (visited : List (List Char × List Char × List Char × List Char)) (current : ValidatedUrl)
    {limits : ArchiveLimits} {next : Net (σ × Record) (ArtifactDownload δ)}
    (hnext : ∀ earlier : List Hop, earlier.length = count →
      Triple (fun s => FileHolds prior s ∧ Unasked current earlier s.hops) next
        (Finished sha256 limits) (Settled platform maxRedirects prior)) :
    Triple (Between platform maxRedirects prior count)
      (do
        let _ ← archiveRemaining env.recorded deadline
        raiseIf (visited.contains current.canonicalIdentity)
          (artifactError "Pinned artifact redirect is not allowed by policy.")
        beginHop current
        next) (Finished sha256 limits) (Settled platform maxRedirects prior) := by
  apply Triple.bind (Q := fun _ => Between platform maxRedirects prior count)
  · exact Triple.weaken (archiveRemaining_keeps
      (fun _ hs => ⟨hs.untouched, hs.outside, hs.count⟩) deadline)
      (fun _ hs => hs) (fun _ _ hs => hs) fun e _ hs => Between.settled hs e
  intro _
  apply Triple.bind (Q := fun _ => Between platform maxRedirects prior count)
  · exact Triple.raiseIf (fun _ _ hs => hs.settled _) fun _ _ hs => hs
  intro _ s hs
  exact hnext s.hops hs.count _ ⟨⟨hs.untouched, by simp⟩, { url := current }, rfl, rfl, rfl, rfl⟩

theorem archiveLoop_delivers (limits : ArchiveLimits) (deadline : Int) (left redirects : Nat)
    (visited : List (List Char × List Char × List Char × List Char)) (current : ValidatedUrl)
    {count : Nat} (hleft : count + left = maxRedirects) :
    Triple (Between platform maxRedirects prior count)
      (archiveLoop env.recorded storage.recorded platform sha256 limits deadline left redirects
        visited current)
      (Finished sha256 limits) (Settled platform maxRedirects prior) := by
  induction left generalizing redirects visited current count with
  | zero =>
      unfold archiveLoop
      apply archiveRound_delivers
      rintro earlier rfl
      apply (archiveHop_delivers limits deadline 0 redirects hleft).bind
      intro outcome
      cases outcome with
      | inl download => exact Triple.pure fun _ hs => hs
      | inr next => exact Triple.raise fun _ hs => hs.settled _
  | succ left ih =>
      unfold archiveLoop
      apply archiveRound_delivers
      rintro earlier rfl
      apply (archiveHop_delivers limits deadline (left + 1) redirects hleft).bind
      intro outcome
      cases outcome with
      | inl download => exact Triple.pure fun _ hs => hs
      | inr next => exact ih (redirects + 1) (current.canonicalIdentity :: visited) next (by omega)

theorem downloadPinnedArchive_delivers (limits : ArchiveLimits)
    (sourceUrl expectedUrl : List Char) :
    Triple (Between platform limits.maxRedirects.toNat prior 0)
      (downloadPinnedArchive env.recorded storage.recorded platform sha256 limits sourceUrl
        expectedUrl)
      (Finished sha256 limits) (Settled platform limits.maxRedirects.toNat prior) := by
  unfold downloadPinnedArchive
  apply Triple.bind (Q := fun _ => Between platform limits.maxRedirects.toNat prior 0)
  · exact Triple.raiseIf (fun _ _ hs => hs.settled _) fun _ _ hs => hs
  intro _
  apply Triple.bind (Q := fun _ => Between platform limits.maxRedirects.toNat prior 0)
  · exact Triple.lift (fun _ _ _ hs => hs) fun _ _ _ hs => hs.settled _
  intro current
  apply Triple.bind (Q := fun _ => Between platform limits.maxRedirects.toNat prior 0)
  · exact Triple.weaken (now_keeps fun _ hs => ⟨hs.untouched, hs.outside, hs.count⟩)
      (fun _ hs => hs) (fun _ _ hs => hs) fun e _ hs => Between.settled hs e
  intro time
  exact archiveLoop_delivers limits _ _ _ _ current (Nat.zero_add _)

end Hops

/-- One call, over a world with a record: what a returned download leaves, always;
and an error that is safe to display leaves the destination as it was exactly when
the call did not end in the guarded part of a hop, or no unlinking took away a file
that was there and none was refused for a file the call had created. For such an
error the handlers unlink exactly in the guarded part. -/
theorem archive_destination_iff (env : Environment σ) (storage : Storage σ) (platform : Platform)
    (sha256 : List UInt8 → δ) (limits : ArchiveLimits) (sourceUrl expectedUrl : List Char)
    (prior : Option (List UInt8)) (start : σ) :
    let run := downloadPinnedArchive env.recorded storage.recorded platform sha256 limits
      sourceUrl expectedUrl { world := (start, {}), destination := prior }
    (∀ download, run.1 = .ok download → Delivered sha256 limits download run.2) ∧
      ((∀ message, run.1 = .error (.artifactNetwork message) → run.2.destination = prior) ↔
        (Guarded platform limits.maxRedirects.toNat run.2.hops →
          Undone prior run.2.world.2)) ∧
      ∀ message, run.1 = .error (.artifactNetwork message) →
        (run.2.world.2.unlinks ≠ [] ↔ Guarded platform limits.maxRedirects.toNat run.2.hops) := by
  intro run
  have hbetween : Between platform limits.maxRedirects.toNat prior 0
      { world := (start, ({} : Record)), hops := [], destination := prior } :=
    ⟨⟨rfl, rfl, rfl, rfl⟩, id, rfl⟩
  rcases (@downloadPinnedArchive_delivers σ δ env storage platform sha256 prior limits sourceUrl
    expectedUrl).outcome hbetween with
    ⟨download, hdownload, hdelivered, hunlinks⟩ | ⟨e, he, hsettled⟩
  · have hnone : ∀ message, run.1 ≠ .error (.artifactNetwork message) := by
      intro message hraised
      cases hraised.symm.trans hdownload
    refine ⟨fun other hother => ?_, iff_of_true ?_ fun _ => undone_of_not_unlinked hunlinks,
      fun message hraised => absurd hraised (hnone message)⟩
    · rwa [Except.ok.inj (hother.symm.trans hdownload)]
    · exact fun message hraised => absurd hraised (hnone message)
  · have hkind : ∀ {message}, run.1 = .error (.artifactNetwork message) → IsArtifactNetwork e :=
      fun hraised => ⟨_, Except.error.inj (he.symm.trans hraised)⟩
    have hrestored : (∀ message, run.1 = .error (.artifactNetwork message) →
        run.2.destination = prior) ↔ Undone prior run.2.world.2 := by
      rw [← hsettled.restored]
      constructor
      · rintro hrestores ⟨message, rfl⟩
        exact hrestores message he
      · exact fun hrestores message hraised => hrestores (hkind hraised)
    refine ⟨fun other hother => (by cases hother.symm.trans he), ?_,
      fun message hraised => hsettled.asked (hkind hraised)⟩
    refine ⟨fun hrestores _ => hrestored.mp hrestores, fun hundone => hrestored.mpr ?_⟩
    by_cases hguarded : Guarded platform limits.maxRedirects.toNat run.2.hops
    · exact hundone hguarded
    by_cases hartifact : IsArtifactNetwork e
    · exact undone_of_not_unlinked
        (not_not.mp fun hunlinked => hguarded ((hsettled.asked hartifact).mp hunlinked))
    · exact hsettled.restored.mp fun h => absurd h hartifact

def archiveUrl : List Char := "https://github.com/a".toList
def refusedUrl : List Char := "https://example.com/a".toList

/-- A body that ends at once is delivered; a URL that is refused leaves the file
that was there, whose removal the file system would allow. -/
theorem archive_destination_iff_sample :
    (∃ after, downloadPinnedArchive scriptedEnvironment.recorded willingStorage.recorded
        asciiPlatform List.length {} archiveUrl archiveUrl
        { world := ([⟨200, []⟩], {}), destination := none } = (.ok ⟨0, 0, 0⟩, after) ∧
      Delivered List.length {} ⟨0, 0, 0⟩ after) ∧
    ∃ message after, downloadPinnedArchive scriptedEnvironment.recorded willingStorage.recorded
        asciiPlatform List.length {} refusedUrl refusedUrl
        { world := ([⟨200, []⟩], {}), destination := some [1, 2, 3] } =
        (.error (.artifactNetwork message), after) ∧ after.destination = some [1, 2, 3] := by
  constructor
  · have hboth := archive_destination_iff scriptedEnvironment willingStorage asciiPlatform
      List.length {} archiveUrl archiveUrl none [⟨200, []⟩]
    have hreturns : (downloadPinnedArchive scriptedEnvironment.recorded willingStorage.recorded
        asciiPlatform List.length {} archiveUrl archiveUrl
        { world := ([⟨200, []⟩], {}), destination := none }).1 = .ok ⟨0, 0, 0⟩ := by
      decide +kernel
    rcases hran : downloadPinnedArchive scriptedEnvironment.recorded willingStorage.recorded
        asciiPlatform List.length {} archiveUrl archiveUrl
        { world := ([⟨200, []⟩], {}), destination := none } with ⟨result, after⟩
    rw [hran] at hreturns
    simp only [hran] at hboth
    exact ⟨after, by rw [← hreturns], hboth.1 _ hreturns⟩
  · have hboth := archive_destination_iff scriptedEnvironment willingStorage asciiPlatform
      List.length {} refusedUrl refusedUrl (some [1, 2, 3]) [⟨200, []⟩]
    have hraises : (downloadPinnedArchive scriptedEnvironment.recorded willingStorage.recorded
        asciiPlatform List.length {} refusedUrl refusedUrl
        { world := ([⟨200, []⟩], {}), destination := some [1, 2, 3] }).1 =
        .error (.artifactNetwork "Pinned artifact URL is not allowed by policy.") := by
      decide +kernel
    have hunlinks : (downloadPinnedArchive scriptedEnvironment.recorded willingStorage.recorded
        asciiPlatform List.length {} refusedUrl refusedUrl
        { world := ([⟨200, []⟩], {}), destination := some [1, 2, 3] }).2.world.2.unlinks = [] := by
      decide +kernel
    rcases hran : downloadPinnedArchive scriptedEnvironment.recorded willingStorage.recorded
        asciiPlatform List.length {} refusedUrl refusedUrl
        { world := ([⟨200, []⟩], {}), destination := some [1, 2, 3] } with ⟨result, after⟩
    rw [hran] at hraises hunlinks
    simp only [hran] at hboth
    have hkept := hboth.2.1.mpr fun _ => undone_of_not_unlinked hunlinks
    exact ⟨_, after, by rw [← hraises], hkept _ hraises⟩

/-- A file of three bytes was there, and the server refuses. -/
theorem existing_file_removed :
    (downloadPinnedArchive scriptedEnvironment willingStorage asciiPlatform List.length {}
      archiveUrl archiveUrl { world := [⟨404, []⟩], destination := some [1, 2, 3] }).1 =
        .error (.artifactNetwork "Pinned artifact response was not accepted.") ∧
    (downloadPinnedArchive scriptedEnvironment willingStorage asciiPlatform List.length {}
      archiveUrl archiveUrl { world := [⟨404, []⟩], destination := some [1, 2, 3] }).2.destination =
        none := by
  constructor
  · decide +kernel
  · decide +kernel

end RouterKit.Network
