import RouterKit.Profiles.Generation

/-!
The endpoint manifest is retired before the first fragment is touched and
published after the last is whole. So whatever cuts a run off, a manifest that
stands in the directory stands beside the fragments of the run that wrote it.
-/

namespace RouterKit.Profiles

open RouterKit.Lib RouterKit.Lib.Checked
open RouterKit.Lib.Effects RouterKit.Lib.Effects.Effect

variable {σ β Text α : Type}

/-- The documents stand in the directory, whole and from one run. -/
def Written (codec : Codec Text β) (writer : Nat) (documents : List (Fragment × Json String))
    (directory : Directory β) : Prop :=
  ∀ entry ∈ documents, ∃ file, directory.fragments entry.1 = some file ∧ file.writer = writer ∧
    codec.encode (codec.dumps entry.2) = some file.bytes

/-- A manifest stands beside all the fragments of the generation that wrote it. -/
def Sound (codec : Codec Text β) (disk : Disk β) : Prop :=
  ∀ manifest, disk.directory.manifest = some manifest →
    ∃ generation documents value, disk.generations[manifest.writer]? = some generation ∧
      files codec generation = .ok documents ∧
      (∀ which, ∃ document, (which, document) ∈ documents) ∧
      Written codec manifest.writer documents disk.directory ∧
      buildLocalEndpointManifest generation.profiles = .ok value ∧
      codec.encode (codec.dumps value) = some manifest.bytes

def Retired (disk : Disk β) : Prop := disk.directory.manifest = none

theorem Retired.sound {codec : Codec Text β} {disk : Disk β} (h : Retired disk) :
    Sound codec disk := by
  intro manifest hmanifest
  rw [h] at hmanifest
  cases hmanifest

/-- What the world outside the disk does not change. -/
abbrev On (J : Disk β → Prop) (session : Session σ β) : Prop := J session.disk

section Steps

variable {os : Os σ} {J K : Disk β → Prop}

theorem perform_triple {call : Call} {effect : Directory β → Directory β}
    (h : ∀ disk, J disk → K { disk with directory := effect disk.directory }) :
    Triple (On J) (perform os call effect) (fun _ => On K) (fun _ => On J) := by
  intro session hsession
  unfold perform
  rcases os.fate call session.world with ⟨fate, world⟩
  cases fate with
  | done => exact h session.disk hsession
  | failed => exact hsession
  | interrupted => exact hsession
  | killed => exact hsession

theorem perform_keeps (call : Call) :
    Triple (On J) (perform os call id) (fun _ => On J) (fun _ => On J) :=
  perform_triple fun _ h => h

theorem wrapOsError_triple {error : Raised} {m : Run σ β α} {P : Session σ β → Prop}
    {Q : α → Session σ β → Prop} (h : Triple P m Q (fun _ => On J)) :
    Triple P (wrapOsError error m) Q (fun _ => On J) := by
  unfold wrapOsError
  apply h.handle
  intro e
  exact Triple.raise fun _ hs => hs

theorem exitOnPrivateFile_triple {m : Run σ β α} {P : Session σ β → Prop}
    {Q : α → Session σ β → Prop} (h : Triple P m Q (fun _ => On J)) :
    Triple P (exitOnPrivateFile m) Q (fun _ => On J) := by
  unfold exitOnPrivateFile
  apply h.handle
  intro e
  exact Triple.raise fun _ hs => hs

end Steps

section Manifest

variable {os : Os σ} {codec : Codec Text β} {J : Disk β → Prop}

/-- What is read is what stands there. -/
theorem readValidatedEntry_triple :
    Triple (On J) (readValidatedEntry os codec)
      (fun existing s => s.disk.directory.manifest = existing ∧ On J s) (fun _ => On J) := by
  unfold readValidatedEntry
  apply (perform_keeps .statManifest).bind
  intro _
  apply Triple.bind (Q := fun existing s => s.disk.directory.manifest = existing ∧ On J s)
  · exact Triple.read fun _ hs => ⟨rfl, hs⟩
  intro existing
  cases existing with
  | none => exact Triple.pure fun _ hs => hs
  | some entry =>
      apply Triple.bind (Q := fun _ s => s.disk.directory.manifest = some entry ∧ On J s)
      · exact Triple.weaken (perform_keeps (J := fun disk => disk.directory.manifest = some entry ∧
          J disk) .readManifest) (fun _ h => h) (fun _ _ h => h) fun _ _ h => h.2
      intro _
      apply Triple.bind (Q := fun _ s => s.disk.directory.manifest = some entry ∧ On J s)
      · exact Triple.lift (fun _ _ _ hs => hs) fun _ _ _ hs => hs.2
      intro _
      exact Triple.pure fun _ hs => hs

variable [DecidableEq β]

/-- Where this returns, no manifest is left; where it raises, nothing has changed but
that the manifest may be gone. -/
theorem retireStaleLocalEndpointManifest_triple :
    Triple (On (Sound codec)) (retireStaleLocalEndpointManifest os codec)
      (fun _ => On Retired) (fun _ => On (Sound codec)) := by
  have hremoves : Triple (On (Sound codec)) (removePrivateFileIfValid os codec)
      (fun _ => On Retired) (fun _ => On (Sound codec)) := by
    unfold removePrivateFileIfValid
    apply Triple.bind (Q := fun _ => On Retired)
    · apply wrapOsError_triple
      apply (perform_keeps .openDirectory).bind
      intro _
      apply readValidatedEntry_triple.bind
      intro existing
      cases existing with
      | none => exact Triple.pure fun _ hs => hs.1
      | some entry =>
          apply Triple.bind (Q := fun _ => On (Sound codec))
          · exact Triple.weaken (perform_keeps (J := Sound codec) .restatManifest)
              (fun _ hs => hs.2) (fun _ _ hs => hs) fun _ _ hs => hs
          intro _
          apply Triple.bind (Q := fun _ => On (Sound codec))
          · exact Triple.read fun _ hs => hs
          intro current
          apply Triple.bind (Q := fun _ => On (Sound codec))
          · exact Triple.raiseIf (fun _ _ hs => hs) fun _ _ hs => hs
          intro _
          apply Triple.bind (Q := fun _ => On Retired)
          · exact perform_triple fun _ _ => rfl
          intro _
          exact Triple.pure fun _ hs => hs
    · intro removed
      cases removed with
      | false => exact Triple.pure fun _ hs => hs
      | true =>
          apply Triple.bind (Q := fun _ => On Retired)
          · apply wrapOsError_triple
            exact Triple.weaken (perform_keeps (J := Retired) .syncDirectory) (fun _ hs => hs)
              (fun _ _ hs => hs) fun _ _ hs => hs.sound
          intro _
          exact Triple.pure fun _ hs => hs
  unfold retireStaleLocalEndpointManifest
  apply exitOnPrivateFile_triple
  apply hremoves.bind
  intro _
  exact Triple.pure fun _ hs => hs

/-- The property does not look at the temporary files. -/
def IgnoresTemporaries (J : Disk β → Prop) : Prop :=
  ∀ (disk : Disk β) (temporaries : List (Entry β)), J disk →
    J ⟨{ disk.directory with temporaries }, disk.generations⟩

/-- The newest temporary file holds `bytes`. -/
def Holds (writer : Nat) (bytes : List β) (disk : Disk β) : Prop :=
  disk.directory.temporaries.head? = some ⟨bytes, freshMetadata 0o600, writer⟩

omit [DecidableEq β] in
theorem writeRounds_triple (hJ : IgnoresTemporaries J) {writer : Nat} (rounds : Nat)
    (stored data : List β) :
    Triple (On fun disk => Holds writer stored disk ∧ J disk) (writeRounds os rounds data)
      (fun _ => On fun disk => Holds writer (stored ++ data) disk ∧ J disk) (fun _ => On J) := by
  induction rounds generalizing stored data with
  | zero =>
      cases data with
      | nil => exact Triple.pure fun _ hs => by rwa [List.append_nil]
      | cons byte rest => exact Triple.raise fun _ hs => hs.2
  | succ rounds ih =>
      cases data with
      | nil => exact Triple.pure fun _ hs => by rwa [List.append_nil]
      | cons byte rest =>
          unfold writeRounds
          apply Triple.bind (Q := fun _ => On fun disk => Holds writer stored disk ∧ J disk)
          · exact Triple.read fun _ hs => hs
          intro amount
          apply Triple.bind (Q := fun _ => On fun disk =>
            Holds writer (stored ++ (byte :: rest).take amount) disk ∧ J disk)
          · refine Triple.weaken (perform_triple fun disk hs => ⟨?_, hJ disk _ hs.2⟩)
              (fun _ hs => hs) (fun _ _ hs => hs) fun _ _ hs => hs.2
            have hholds := hs.1
            unfold Holds appendTemporary
            unfold Holds at hholds
            rw [List.head?_modifyHead, hholds]
            rfl
          intro _
          apply Triple.bind (Q := fun _ => On fun disk =>
            Holds writer (stored ++ (byte :: rest).take amount) disk ∧ J disk)
          · exact Triple.raiseIf (fun _ _ hs => hs.2) fun _ _ hs => hs
          intro _
          have hrest := ih (stored ++ (byte :: rest).take amount) ((byte :: rest).drop amount)
          rwa [List.append_assoc, List.take_append_drop] at hrest

omit [DecidableEq β] in
theorem fillTemporary_triple (hJ : IgnoresTemporaries J) {writer : Nat} (data : List β) :
    Triple (On fun disk => Holds writer [] disk ∧ J disk) (fillTemporary os data)
      (fun _ => On fun disk => Holds writer data disk ∧ J disk) (fun _ => On J) := by
  unfold fillTemporary
  apply Triple.bind (Q := fun _ => On fun disk => Holds writer [] disk ∧ J disk)
  · exact Triple.weaken (perform_keeps _) (fun _ hs => hs) (fun _ _ hs => hs) fun _ _ hs => hs.2
  intro _
  apply (writeRounds_triple hJ data.length [] data).bind
  intro _
  apply Triple.bind (Q := fun _ => On fun disk => Holds writer data disk ∧ J disk)
  · exact Triple.weaken (perform_keeps _) (fun _ hs => hs) (fun _ _ hs => hs) fun _ _ hs => hs.2
  intro _
  apply Triple.bind (Q := fun _ => On fun disk => Holds writer data disk ∧ J disk)
  · exact Triple.read fun _ hs => hs
  intro length
  exact Triple.raiseIf (fun _ _ hs => hs.2) fun _ _ hs => hs

omit [DecidableEq β] in
theorem dropTemporary_triple (hJ : IgnoresTemporaries J) (e : Raised) :
    Triple (On J) (dropTemporary os e : Run σ β α) (fun _ _ => False) (fun _ => On J) := by
  intro session hsession
  have hperformed := @perform_triple σ β os J J .unlinkTemporary
    (fun directory => { directory with temporaries := directory.temporaries.tail })
    (fun disk hdisk => hJ disk _ hdisk) session hsession
  unfold dropTemporary
  by_cases hkilled : e = .killed
  · rw [if_pos hkilled]
    exact hsession
  · rw [if_neg hkilled]
    revert hperformed
    rcases perform os .unlinkTemporary (fun directory =>
      { directory with temporaries := directory.temporaries.tail }) session with
      ⟨raised | _, after⟩
    · cases raised <;> exact id
    · exact id

/-- Where `J` holds before, and `K` once the filled file is renamed, `K` holds after. -/
theorem writePrivateBytesAtomic_triple {K : Disk β → Prop} (hJ : IgnoresTemporaries J)
    (hJK : ∀ disk, J disk → K disk) {writer : Nat} (data : List β)
    (hpublish : ∀ disk, J disk → Holds writer data disk →
      K { disk with directory := publishTemporary disk.directory }) :
    Triple (On J) (writePrivateBytesAtomic os codec writer data) (fun _ => On K)
      (fun _ => On K) := by
  have hcreate : ∀ disk : Disk β, J disk → Holds writer [] { disk with directory :=
      { disk.directory with temporaries :=
        ⟨[], freshMetadata 0o600, writer⟩ :: disk.directory.temporaries } } ∧
      J { disk with directory := { disk.directory with temporaries :=
        ⟨[], freshMetadata 0o600, writer⟩ :: disk.directory.temporaries } } :=
    fun disk hdisk => ⟨rfl, hJ disk _ hdisk⟩
  have hreplaced : ∀ existing : Option (Entry β),
      Triple (On fun disk => Holds writer [] disk ∧ J disk)
        (do
          fillTemporary os data
          perform os .restatManifest id
          let current ← readDirectory Directory.manifest
          Effect.raiseIf (current ≠ existing)
            (privateFile " destination changed before publication.")
          perform os .replaceManifest publishTemporary : Run σ β Unit)
        (fun _ => On K) (fun _ => On J) := by
    intro existing
    apply (fillTemporary_triple hJ data).bind
    intro _
    apply Triple.bind (Q := fun _ => On fun disk => Holds writer data disk ∧ J disk)
    · exact Triple.weaken (perform_keeps _) (fun _ hs => hs) (fun _ _ hs => hs) fun _ _ hs => hs.2
    intro _
    apply Triple.bind (Q := fun _ => On fun disk => Holds writer data disk ∧ J disk)
    · exact Triple.read fun _ hs => hs
    intro current
    apply Triple.bind (Q := fun _ => On fun disk => Holds writer data disk ∧ J disk)
    · exact Triple.raiseIf (fun _ _ hs => hs.2) fun _ _ hs => hs
    intro _
    exact Triple.weaken (perform_triple fun disk hs => hpublish disk hs.2 hs.1) (fun _ hs => hs)
      (fun _ _ hs => hs) fun _ _ hs => hs.2
  unfold writePrivateBytesAtomic
  apply Triple.bind (Q := fun _ => On J)
  · exact Triple.raiseIf (fun _ _ hs => hJK _ hs) fun _ _ hs => hs
  intro _
  apply Triple.bind (Q := fun _ => On K)
  · apply wrapOsError_triple
    refine Triple.weaken (E := fun _ => On J) (Q := fun _ => On K) ?_ (fun _ hs => hs)
      (fun _ _ hs => hs) fun _ s hs => hJK _ hs
    apply (perform_keeps .openDirectory).bind
    intro _
    apply Triple.bind (Q := fun _ => On J)
    · exact Triple.weaken readValidatedEntry_triple (fun _ hs => hs) (fun _ _ hs => hs.2)
        fun _ _ hs => hs
    intro existing
    apply (perform_triple (K := fun disk => Holds writer [] disk ∧ J disk) hcreate).bind
    intro _
    apply (hreplaced existing).handle
    intro e
    exact Triple.weaken (dropTemporary_triple hJ e) (fun _ hs => hs) (fun _ _ hs => hs.elim)
      fun _ _ hs => hs
  intro _
  exact wrapOsError_triple (perform_keeps _)

end Manifest

section Fragments

variable {os : Os σ} {codec : Codec Text β}

/-- What holds while a run writes its fragments: no manifest stands, and the run is
on record. -/
def Writing (generation : Generation) (writer : Nat) (disk : Disk β) : Prop :=
  Retired disk ∧ disk.generations[writer]? = some generation

theorem storeFragment_same {which : Fragment} {writer mode : Nat} {bytes : List β}
    {directory : Directory β} : ∃ metadata,
      (directory.storeFragment which writer mode bytes).fragments which =
        some ⟨bytes, metadata, writer⟩ :=
  ⟨_, if_pos rfl⟩

theorem Written.storeFragment {writer mode : Nat} {documents : List (Fragment × Json String)}
    {directory : Directory β} (h : Written codec writer documents directory) {which : Fragment}
    (hfresh : which ∉ documents.map Prod.fst) (bytes : List β) :
    Written codec writer documents (directory.storeFragment which writer mode bytes) := by
  intro entry hentry
  have hother : entry.1 ≠ which := fun heq => hfresh (heq ▸ List.mem_map_of_mem hentry)
  obtain ⟨file, hfile, hwriter, hbytes⟩ := h entry hentry
  exact ⟨file, (if_neg hother).trans hfile, hwriter, hbytes⟩

theorem Written.chmodFragment {writer mode : Nat} {documents : List (Fragment × Json String)}
    {directory : Directory β} (h : Written codec writer documents directory) {which : Fragment} :
    Written codec writer documents (directory.chmodFragment which mode) := by
  intro entry hentry
  obtain ⟨file, hfile, hwriter, hbytes⟩ := h entry hentry
  by_cases hsame : entry.1 = which
  · have hchmod : (directory.chmodFragment which mode).fragments entry.1 =
        (directory.fragments which).map fun entry =>
          { entry with metadata := { entry.metadata with mode } } := if_pos hsame
    subst hsame
    rw [hfile] at hchmod
    exact ⟨_, hchmod, hwriter, hbytes⟩
  · exact ⟨file, (if_neg hsame).trans hfile, hwriter, hbytes⟩

/-- A fragment that is written joins those that are there. -/
theorem writeFragment_triple {generation : Generation} {writer : Nat}
    {documents : List (Fragment × Json String)} {which : Fragment} {document : Json String}
    (hfresh : which ∉ documents.map Prod.fst) :
    Triple (On fun disk => Writing generation writer disk ∧
        Written codec writer documents disk.directory)
      (writeFragment os codec writer which (codec.dumps document))
      (fun _ => On fun disk => Writing generation writer disk ∧
        Written codec writer ((which, document) :: documents) disk.directory)
      (fun _ => On (Sound codec)) := by
  have hstore : ∀ (mode : Nat) (bytes : List β) (disk : Disk β),
      Writing generation writer disk ∧ Written codec writer documents disk.directory →
      Writing generation writer
          { disk with directory := disk.directory.storeFragment which writer mode bytes } ∧
        Written codec writer documents (disk.directory.storeFragment which writer mode bytes) :=
    fun mode bytes disk h => ⟨h.1, h.2.storeFragment hfresh bytes⟩
  unfold writeFragment
  apply Triple.bind (Q := fun _ => On fun disk => Writing generation writer disk ∧
    Written codec writer documents disk.directory)
  · exact Triple.read fun _ hs => hs
  intro mode
  apply Triple.bind (Q := fun _ => On fun disk => Writing generation writer disk ∧
    Written codec writer documents disk.directory)
  · exact Triple.weaken (perform_triple (hstore mode [])) (fun _ hs => hs) (fun _ _ hs => hs)
      fun _ _ hs => hs.1.1.sound
  intro _
  cases hencoded : codec.encode (codec.dumps document) with
  | none => exact Triple.raise fun _ hs => hs.1.1.sound
  | some bytes =>
      apply Triple.bind (Q := fun _ => On fun disk => Writing generation writer disk ∧
        Written codec writer documents disk.directory)
      · exact Triple.read fun _ hs => hs
      intro amount
      apply Triple.bind (Q := fun _ => On fun disk => Writing generation writer disk ∧
        Written codec writer documents disk.directory)
      · exact Triple.update fun _ hs => hstore mode (bytes.take amount) _ hs
      intro _
      apply Triple.bind (Q := fun _ => On fun disk => Writing generation writer disk ∧
        Written codec writer ((which, document) :: documents) disk.directory)
      · refine Triple.weaken (perform_triple fun disk hs => ⟨hs.1, ?_⟩) (fun _ hs => hs)
          (fun _ _ hs => hs) fun _ _ hs => hs.1.1.sound
        intro entry hentry
        rcases List.mem_cons.mp hentry with rfl | hearlier
        · obtain ⟨metadata, hfile⟩ := @storeFragment_same β which writer mode bytes disk.directory
          exact ⟨_, hfile, rfl, hencoded⟩
        · exact (hs.2.storeFragment hfresh bytes) entry hearlier
      intro _
      exact Triple.weaken (perform_triple fun disk hs => ⟨hs.1, hs.2.chmodFragment⟩)
        (fun _ hs => hs) (fun _ _ hs => hs) fun _ _ hs => hs.1.1.sound

theorem writeFragments_triple {generation : Generation} {writer : Nat}
    (written documents : List (Fragment × Json String))
    (hnodup : ((written.reverse ++ documents).map Prod.fst).Nodup) :
    Triple (On fun disk => Writing generation writer disk ∧
        Written codec writer written disk.directory)
      (writeFragments os codec writer documents)
      (fun _ => On fun disk => Writing generation writer disk ∧
        Written codec writer (written.reverse ++ documents) disk.directory)
      (fun _ => On (Sound codec)) := by
  induction documents generalizing written with
  | nil =>
      refine Triple.pure fun _ hs => ⟨hs.1, ?_⟩
      intro entry hentry
      rw [List.append_nil, List.mem_reverse] at hentry
      exact hs.2 entry hentry
  | cons first rest ih =>
      have hfresh : first.1 ∉ written.map Prod.fst := by
        rw [List.map_append, List.map_reverse, List.map_cons, List.nodup_append] at hnodup
        intro hmem
        exact hnodup.2.2 _ (List.mem_reverse.mpr hmem) _ List.mem_cons_self rfl
      have hrest := ih (first :: written) (by
        rwa [List.reverse_cons, List.append_assoc, List.singleton_append])
      unfold writeFragments
      apply (writeFragment_triple hfresh).bind
      intro _
      rwa [List.reverse_cons, List.append_assoc, List.singleton_append] at hrest

end Fragments

section Runs

variable [DecidableEq β] {os : Os σ} {codec : Codec Text β}
  {acquire : Profile → σ → Except Raised NodeRecord × σ}

omit [DecidableEq β] in
theorem files_eq_ok {generation : Generation} {documents : List (Fragment × Json String)}
    (h : files codec generation = .ok documents) :
    documents.map Prod.fst = [.inbounds, .outbounds, .routing] := by
  simp only [files, bind_eq_ok, pure_eq_ok] at h
  obtain ⟨inbounds, -, outbounds, -, rfl⟩ := h
  rfl

omit [DecidableEq β] in
theorem acquireNodes_triple {J : Disk β → Prop} (profiles : List Profile) :
    Triple (On J) (acquireNodes acquire profiles) (fun _ => On J) (fun _ => On J) := by
  induction profiles with
  | nil => exact Triple.pure fun _ hs => hs
  | cons profile rest ih =>
      unfold acquireNodes
      apply Triple.bind (Q := fun _ => On J)
      · intro session hs
        rcases hacquired : acquire profile session.world with ⟨e | node, world⟩
        · simp only [hacquired]
          exact hs
        · simp only [hacquired]
          exact hs
      intro node
      apply Triple.bind (Q := fun _ => On J)
      · exact Triple.raiseIf (fun _ _ hs => hs) fun _ _ hs => hs
      intro _
      apply ih.bind
      intro nodes
      exact Triple.pure fun _ hs => hs

/-- The last step: with all fragments in place the manifest may appear. -/
theorem writePrivateJsonAtomic_triple {generation : Generation} {writer : Nat}
    {documents : List (Fragment × Json String)} {manifest : Json String}
    (hfiles : files codec generation = .ok documents)
    (hmanifest : buildLocalEndpointManifest generation.profiles = .ok manifest) :
    Triple (On fun disk => Writing generation writer disk ∧
        Written codec writer documents disk.directory)
      (writePrivateJsonAtomic os codec writer manifest)
      (fun _ => On (Sound codec)) (fun _ => On (Sound codec)) := by
  unfold writePrivateJsonAtomic
  cases hencoded : codec.encode (codec.dumps manifest) with
  | none => exact Triple.raise fun _ hs => hs.1.1.sound
  | some encoded =>
      apply exitOnPrivateFile_triple
      cases codec.decode encoded with
      | none => exact Triple.raise fun _ hs => hs.1.1.sound
      | some text =>
          apply Triple.bind (Q := fun _ => On fun disk => Writing generation writer disk ∧
            Written codec writer documents disk.directory)
          · exact Triple.lift (fun _ _ _ hs => hs) fun _ _ _ hs => hs.1.1.sound
          intro _
          apply writePrivateBytesAtomic_triple
          · exact fun disk temporaries h => h
          · exact fun disk h => h.1.1.sound
          · intro disk hdisk hholds found hfound
            have hsame : found = ⟨encoded, freshMetadata 0o600, writer⟩ :=
              Option.some.inj (hfound.symm.trans hholds)
            subst hsame
            refine ⟨generation, documents, manifest, hdisk.1.2, hfiles, ?_, hdisk.2, hmanifest,
              hencoded⟩
            intro which
            have hwhich : which ∈ documents.map Prod.fst := by
              rw [files_eq_ok hfiles]
              cases which <;> decide
            obtain ⟨entry, hentry, rfl⟩ := List.mem_map.mp hwhich
            exact ⟨entry.2, hentry⟩

/-- One run keeps the disk sound, wherever it ends. -/
theorem main_sound (cfg : Except Raised (Json String)) :
    Triple (On (Sound codec)) (main os codec acquire cfg)
      (fun _ => On (Sound codec)) (fun _ => On (Sound codec)) := by
  unfold main
  apply Triple.bind (Q := fun _ => On (Sound codec))
  · exact Triple.lift (fun _ _ _ hs => hs) fun _ _ _ hs => hs
  intro cfg
  apply Triple.bind (Q := fun _ => On (Sound codec))
  · exact Triple.lift (fun _ _ _ hs => hs) fun _ _ _ hs => hs
  intro profiles
  apply Triple.bind (Q := fun _ => On (Sound codec))
  · exact Triple.lift (fun _ _ _ hs => hs) fun _ _ _ hs => hs
  intro _
  apply Triple.bind (Q := fun _ => On (Sound codec))
  · exact exitOnPrivateFile_triple (wrapOsError_triple (perform_keeps _))
  intro _
  apply retireStaleLocalEndpointManifest_triple.bind
  intro _
  apply Triple.bind (Q := fun _ => On Retired)
  · exact Triple.weaken (acquireNodes_triple profiles) (fun _ hs => hs) (fun _ _ hs => hs)
      fun _ _ hs => hs.sound
  intro nodes
  apply Triple.bind (Q := fun documents s => files codec ⟨profiles, nodes⟩ = .ok documents ∧
    On Retired s)
  · exact Triple.lift (fun _ hdocuments _ hs => ⟨hdocuments, hs⟩) fun _ _ _ hs => hs.sound
  intro documents
  apply Triple.of_pure
  intro hfiles
  apply Triple.bind (Q := fun writer => On fun disk => Writing ⟨profiles, nodes⟩ writer disk)
  · intro session hs
    exact ⟨hs, List.getElem?_concat_length⟩
  intro writer
  apply Triple.bind (Q := fun _ => On fun disk => Writing ⟨profiles, nodes⟩ writer disk ∧
    Written codec writer documents disk.directory)
  · refine Triple.weaken (writeFragments_triple [] documents ?_) (fun _ hs => ⟨hs, ?_⟩)
      (fun _ _ hs => hs) fun _ _ hs => hs
    · rw [List.reverse_nil, List.nil_append, files_eq_ok hfiles]
      decide
    · intro entry hentry
      cases hentry
  intro _
  cases hmanifest : buildLocalEndpointManifest profiles with
  | error message => exact Triple.raise fun _ hs => hs.1.1.sound
  | ok manifest => exact writePrivateJsonAtomic_triple hfiles hmanifest

/-- An output directory nothing has been written to. -/
def emptyDisk : Disk β := ⟨⟨fun _ => none, none, []⟩, []⟩

/-- The disks that runs of the generator leave behind, each run with its own profiles,
its own operating system and its own luck. -/
inductive Reachable (codec : Codec Text β) : Disk β → Prop
  | empty : Reachable codec emptyDisk
  | run {σ : Type} {disk : Disk β} (earlier : Reachable codec disk) (os : Os σ)
      (acquire : Profile → σ → Except Raised NodeRecord × σ)
      (cfg : Except Raised (Json String)) (world : σ) :
      Reachable codec (main os codec acquire cfg ⟨world, disk⟩).2.disk

/-- A manifest that stands was written by the generation whose fragments stand. -/
theorem manifest_beside_its_fragments (codec : Codec Text β) (disk : Disk β)
    (h : Reachable codec disk) : Sound codec disk := by
  induction h with
  | empty => exact Retired.sound rfl
  | run earlier os acquire cfg world ih =>
      rcases (main_sound cfg).outcome (t := ⟨world, _⟩) ih with ⟨_, -, hsound⟩ | ⟨_, -, hsound⟩
      · exact hsound
      · exact hsound

/-- Texts are values, and a file holds one of them. -/
def plainCodec : Codec (Json String) (Json String) where
  dumps := id
  loads := some
  encode text := some [text]
  decode
    | [text] => some text
    | _ => none
  floatEq _ _ := false
  toInt
    | .int number => some number
    | _ => none

def willingOs : Os Unit where
  fate _ world := (.done, world)
  amount _ := 1
  newMode _ := 0o644

def homeNode : NodeRecord :=
  ⟨"home", "1b4e28ba-2fa1-11d2-883f-0016d3cca427", "host.example", 443, "tcp", "reality", "",
    "host.example", "chrome", "key", "", "/"⟩

/-- It kills the run at the second fragment. -/
def killingOs : Os Unit where
  fate call world := (if call = .openFragment .outbounds then .killed else .done, world)
  amount _ := 1
  newMode _ := 0o644

/-- One run over a directory, with the profiles of one home. -/
def homeRun (os : Os Unit) (disk : Disk (Json String)) : Session Unit (Json String) :=
  (main os plainCodec (fun _ world => (.ok homeNode, world))
    (.ok (.obj [("profiles", .arr [.obj [("name", .str "home"), ("port", .int 1082)]])]))
    ⟨(), disk⟩).2

/-- A whole run in an empty directory. -/
def publishedDisk : Disk (Json String) := (homeRun willingOs emptyDisk).disk

/-- And a second one, cut off between the fragments. -/
def cutDisk : Disk (Json String) := (homeRun killingOs publishedDisk).disk

private theorem publishedDisk_reachable : Reachable plainCodec publishedDisk := by
  unfold publishedDisk homeRun
  exact .run .empty _ _ _ _

/-- The manifest of the first run stands beside its fragments. That of the second
has been retired before the first fragment is another. -/
theorem manifest_beside_its_fragments_sample :
    publishedDisk.directory.manifest.isSome = true ∧ Sound plainCodec publishedDisk ∧
      cutDisk.directory.manifest = none ∧
      ((cutDisk.directory.fragments .inbounds).map (·.writer),
        (cutDisk.directory.fragments .outbounds).map (·.writer)) = (some 1, some 0) ∧
      Sound plainCodec cutDisk := by
  refine ⟨by decide +kernel, manifest_beside_its_fragments plainCodec _ publishedDisk_reachable,
    by decide +kernel, by decide +kernel, manifest_beside_its_fragments plainCodec _ ?_⟩
  unfold cutDisk homeRun
  exact .run publishedDisk_reachable _ _ _ _

end Runs

end RouterKit.Profiles
