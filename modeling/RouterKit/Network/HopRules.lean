import RouterKit.Network.Archive

/-!
Rules for the steps of the two loops. A step is safe for a property of the hop
records when it keeps the property, returning or raising, and raises only errors
of one kind.
-/

namespace RouterKit.Network

open RouterKit.Lib RouterKit.Lib.Checked
open RouterKit.Lib.Effects RouterKit.Lib.Effects.Effect

variable {σ δ α β : Type} {I : List Hop → Prop} {p : Raised → Prop}

/-- The step keeps `I` and raises only errors of kind `p`. -/
def Safe (I : List Hop → Prop) (p : Raised → Prop) (m : Net σ α) : Prop :=
  Triple (fun s => I s.hops) m (fun _ s => I s.hops) (fun e s => p e ∧ I s.hops)

theorem Safe.bind {m : Net σ α} {f : α → Net σ β} (hm : Safe I p m) (hf : ∀ a, Safe I p (f a)) :
    Safe I p (m >>= f) :=
  Triple.bind hm hf

theorem Safe.pure {a : α} : Safe I p (pure a : Net σ α) := Triple.pure fun _ h => h

theorem Safe.raise {e : Raised} (h : p e) : Safe I p (raise e : Net σ α) :=
  Triple.raise fun _ hI => ⟨h, hI⟩

theorem Safe.lift {x : Except Raised α} (h : RaisesOnly p x) : Safe I p (lift x : Net σ α) :=
  Triple.lift (fun _ _ _ hI => hI) fun e he _ hI => ⟨h e he, hI⟩

theorem Safe.raiseIf {condition : Prop} [Decidable condition] {e : Raised} (h : p e) :
    Safe I p (raiseIf condition e : Net σ Unit) :=
  Triple.raiseIf (fun _ _ hI => ⟨h, hI⟩) fun _ _ hI => hI

theorem Safe.read {f : Session σ → α} : Safe I p (read f) := Triple.read fun _ h => h

theorem Safe.weaken {q : Raised → Prop} {m : Net σ α} (h : Safe I p m) (hpq : ∀ e, p e → q e) :
    Safe I q m :=
  Triple.weaken h (fun _ hI => hI) (fun _ _ hI => hI) fun e _ he => ⟨hpq e he.1, he.2⟩

theorem Safe.handle {q : Raised → Prop} {m : Net σ α} {handler : Raised → Net σ α}
    (hm : Safe I q m) (h : ∀ e, q e → Safe I p (handler e)) : Safe I p (handle m handler) :=
  Triple.handle hm fun e => Triple.of_pure (h e)

/-- A collaborator may raise anything and leaves the records alone. -/
theorem Safe.ask {call : σ → Except Raised α × σ} : Safe I (fun _ => True) (ask call) := by
  intro s hs
  unfold Network.ask
  rcases hcall : (call s.world).1 with e | a
  · exact ⟨trivial, hs⟩
  · exact hs

theorem Safe.recordHop {change : Hop → Hop} (h : ∀ hops, I hops → I (hops.modifyHead change)) :
    Safe I p (recordHop change : Net σ Unit) :=
  Triple.update fun s hs => h s.hops hs

section Steps

variable (env : Environment σ)

theorem now_safe : Safe I p (now env) := by
  intro s hs
  exact hs

theorem timedOut_isProfileNetwork : IsProfileNetwork timedOut := ⟨_, _, rfl⟩

theorem remaining_safe (deadline : Int) : Safe I IsProfileNetwork (remaining env deadline) := by
  unfold remaining
  apply (now_safe env).bind
  intro time
  apply (Safe.raiseIf timedOut_isProfileNetwork).bind
  intro _
  exact Safe.pure

theorem attemptAddress_safe (url : ValidatedUrl) (deadline : Int) (address : List Char)
    (h : ∀ hops, I hops →
      I (hops.modifyHead fun hop => { hop with connections := address :: hop.connections })) :
    Safe I (fun _ => True) (attemptAddress env url deadline address) := by
  have hremaining : Safe I (fun _ => True) (remaining env deadline) :=
    (remaining_safe env deadline).weaken fun _ _ => trivial
  unfold attemptAddress
  apply hremaining.bind
  intro time
  apply (Safe.recordHop h).bind
  intro _
  apply Safe.ask.bind
  intro _
  apply hremaining.bind
  intro delay
  apply Safe.ask.bind
  intro _
  apply Safe.ask.bind
  intro _
  apply Safe.ask.bind
  intro response
  apply Safe.read.bind
  intro hasSocket
  split
  · apply hremaining.bind
    intro _
    exact Safe.pure
  · exact Safe.pure

/-- One request connects to the given addresses only and raises an error of the
profile network or nothing. -/
theorem requestOneHop_safe (url : ValidatedUrl) (deadline : Int) (addresses : List (List Char))
    (h : ∀ address ∈ addresses, ∀ hops, I hops →
      I (hops.modifyHead fun hop => { hop with connections := address :: hop.connections })) :
    Safe I IsProfileNetwork (requestOneHop env url deadline addresses) := by
  induction addresses with
  | nil =>
      unfold requestOneHop
      apply (now_safe env).bind
      intro time
      apply (Safe.raiseIf timedOut_isProfileNetwork).bind
      intro _
      exact Safe.raise ⟨_, _, rfl⟩
  | cons address rest ih =>
      unfold requestOneHop
      apply (attemptAddress_safe env url deadline address (h address List.mem_cons_self)).handle
      intro e _
      have hcleanup : Safe I IsProfileNetwork (update (cleanupHop env) : Net σ Unit) :=
        Triple.update fun _ hs => hs
      apply hcleanup.bind
      intro _
      split
      · next hresponse =>
        cases e with
        | profileNetwork kind message => exact Safe.raise ⟨_, _, rfl⟩
        | artifactNetwork message => cases hresponse
        | valueError => cases hresponse
        | otherException => cases hresponse
      · exact ih fun a ha => h a (List.mem_cons_of_mem _ ha)

theorem singleLocation_raises (response : Response) :
    RaisesOnly IsProfileNetwork (singleLocation response) := by
  unfold singleLocation
  split
  · split
    · exact raisesOnly_error.mpr ⟨_, _, rfl⟩
    · exact raisesOnly_ok
  · exact raisesOnly_error.mpr ⟨_, _, rfl⟩

/-- The length header raises an error of the profile network or a `ValueError`. -/
theorem contentLength_raises {response : Response} {e : Raised}
    (h : contentLength response = .error e) :
    IsProfileNetwork e ∨ e = .valueError := by
  unfold contentLength at h
  split at h
  · cases h
  · split at h
    · obtain rfl := Except.error.inj h
      exact .inl ⟨_, _, rfl⟩
    · unfold decimalValue at h
      split at h
      · cases h
      · obtain rfl := Except.error.inj h
        exact .inr rfl

/-- The length header is a text of digits one of which has no decimal value. -/
def LengthUnreadable (response : Response) : Prop :=
  ∃ value ∈ response.header "Content-Length",
    value ≠ [] ∧ value.length ≤ 20 ∧ value.all isDigit = true ∧
    value.all PyText.isAsciiDigit = false

theorem contentLength_eq_valueError {response : Response} :
    contentLength response = .error .valueError ↔ LengthUnreadable response := by
  unfold contentLength LengthUnreadable
  cases hheader : response.header "Content-Length" with
  | none => simp
  | some value =>
      simp only [Option.mem_some_iff, exists_eq_left']
      by_cases hrefused : value = [] ∨ value.length > 20 ∨ ¬value.all isDigit = true
      · rw [if_pos hrefused]
        constructor
        · intro h
          cases Except.error.inj h
        · rintro ⟨hne, hlength, hdigits, -⟩
          rcases hrefused with h | h | h
          · exact absurd h hne
          · omega
          · exact absurd hdigits h
      · rw [if_neg hrefused]
        simp only [not_or, not_lt, not_not] at hrefused
        unfold decimalValue
        cases hascii : value.all PyText.isAsciiDigit with
        | true => simp [Except.map]
        | false => simpa [Except.map] using hrefused

/-- The framing checks raise the given errors, an error of the profile network,
or the `ValueError` of an unreadable length. -/
theorem checkFraming_raises {platform : Platform} {response : Response} {maximum : Nat}
    {compressed framing tooLarge e : Raised}
    (h : checkFraming platform response maximum compressed framing tooLarge = .error e) :
    e = compressed ∨ e = framing ∨ e = tooLarge ∨ IsProfileNetwork e ∨
      (e = .valueError ∧ headerIs platform response "Content-Encoding" "identity" = true ∧
        LengthUnreadable response) := by
  simp only [checkFraming, bind_eq_error, raiseIf_eq_error, raiseIf_eq_ok] at h
  rcases h with ⟨-, rfl⟩ | ⟨-, hidentity, hlength | ⟨length, -, ⟨-, rfl⟩ |
    ⟨-, -, ⟨-, rfl⟩ | ⟨-, -, h⟩⟩⟩⟩
  · exact .inl rfl
  · rcases contentLength_raises hlength with hprofile | rfl
    · exact .inr (.inr (.inr (.inl hprofile)))
    · exact .inr (.inr (.inr (.inr ⟨rfl, by simpa using hidentity,
        contentLength_eq_valueError.mp hlength⟩)))
  · exact .inr (.inl rfl)
  · exact .inr (.inr (.inl rfl))
  · cases h

theorem checkFraming_unreadable {platform : Platform} {response : Response} {maximum : Nat}
    {compressed framing tooLarge : Raised}
    (hidentity : headerIs platform response "Content-Encoding" "identity" = true)
    (hlength : LengthUnreadable response) :
    checkFraming platform response maximum compressed framing tooLarge = .error .valueError := by
  have hraise := contentLength_eq_valueError.mpr hlength
  simp [checkFraming, hidentity, hraise]

/-- The rounds return at most the bytes there was room for. -/
theorem readRounds_safe (deadline : Int) (room : Nat) (body : List UInt8) :
    Safe I IsProfileNetwork (readRounds env deadline room body) := by
  induction room using Nat.strong_induction_on generalizing body with
  | _ room ih =>
      cases room with
      | zero =>
          unfold readRounds
          exact Safe.pure
      | succ room =>
          unfold readRounds
          apply (remaining_safe env deadline).bind
          intro _
          apply Safe.bind
          · apply Safe.ask.handle
            intro _ _
            apply (now_safe env).bind
            intro time
            apply (Safe.raiseIf timedOut_isProfileNetwork).bind
            intro _
            exact Safe.raise ⟨_, _, rfl⟩
          intro chunk
          apply (remaining_safe env deadline).bind
          intro _
          split
          · exact Safe.raise ⟨_, _, rfl⟩
          · exact Safe.pure
          · apply Safe.bind
            · exact Safe.raiseIf ⟨_, _, rfl⟩
            intro _
            exact ih _ (by omega) _

theorem readBodyBounded_safe (maximum : Nat) (deadline : Int) :
    Safe I IsProfileNetwork (readBodyBounded env maximum deadline) := by
  unfold readBodyBounded
  apply (readRounds_safe env deadline _ _).bind
  intro body
  apply Safe.bind
  · exact Safe.raiseIf ⟨_, _, rfl⟩
  intro _
  exact Safe.pure

end Steps

end RouterKit.Network
