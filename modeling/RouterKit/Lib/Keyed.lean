import Mathlib.Data.List.Nodup
import Mathlib.Data.List.Perm.Basic
import Mathlib.Data.List.Sort
import Mathlib.Order.Lattice

/-!
Finite inventories kept as lists of records, each record found by a key. The
operations are the ones a configuration store offers: look a key up, touch an
entry (create it when it is absent), remove an entry. A separate section puts
such a list into one canonical order, so that two readings of one inventory
compare equal whatever order the store listed it in.
-/

namespace RouterKit.Lib.Keyed

variable {α κ : Type*} [DecidableEq κ]

/-- The first entry with the given key. -/
def lookup (key : α → κ) (k : κ) (entries : List α) : Option α :=
  entries.find? (fun a => key a = k)

/-- Modify the entry with `fresh`'s key, appending `fresh` first when no entry
has it. -/
def touch (key : α → κ) (fresh : α) (f : α → α) (entries : List α) : List α :=
  if key fresh ∈ entries.map key then
    entries.map (fun a => if key a = key fresh then f a else a)
  else entries ++ [f fresh]

def remove (key : α → κ) (k : κ) (entries : List α) : List α :=
  entries.filter (fun a => key a ≠ k)

section Lookup

variable (key : α → κ)

theorem lookup_some {k : κ} {entries : List α} {a : α}
    (h : lookup key k entries = some a) : a ∈ entries ∧ key a = k :=
  ⟨List.mem_of_find?_eq_some h, by simpa using List.find?_some h⟩

theorem lookup_eq_none {k : κ} {entries : List α} :
    lookup key k entries = none ↔ k ∉ entries.map key := by
  simp [lookup, List.find?_eq_none]

/-- Under distinct keys an entry is exactly what its key looks up. -/
theorem lookup_of_mem {entries : List α} (hnodup : (entries.map key).Nodup)
    {a : α} (ha : a ∈ entries) : lookup key (key a) entries = some a := by
  cases h : lookup key (key a) entries with
  | none =>
      exact absurd (List.mem_map_of_mem ha) ((lookup_eq_none key).mp h)
  | some b =>
      obtain ⟨hb, hkey⟩ := lookup_some key h
      rw [List.inj_on_of_nodup_map hnodup hb ha hkey]

theorem lookup_append_of_mem {k : κ} {entries more : List α}
    (h : k ∈ entries.map key) :
    lookup key k (entries ++ more) = lookup key k entries := by
  obtain ⟨a, ha, hk⟩ := List.mem_map.mp h
  rw [lookup, List.find?_append]
  cases hfind : entries.find? (fun a => key a = k) with
  | none => exact absurd hk (by simpa using List.find?_eq_none.mp hfind a ha)
  | some b => simp [lookup, hfind]

theorem lookup_perm {k : κ} {entries entries' : List α}
    (hnodup : (entries.map key).Nodup) (hperm : entries.Perm entries') :
    lookup key k entries = lookup key k entries' := by
  have hnodup' : (entries'.map key).Nodup := (hperm.map key).nodup_iff.mp hnodup
  cases h : lookup key k entries with
  | none =>
      have hnone := (lookup_eq_none key).mp h
      exact ((lookup_eq_none key).mpr
        (fun hmem => hnone ((hperm.map key).mem_iff.mpr hmem))).symm
  | some a =>
      obtain ⟨ha, hk⟩ := lookup_some key h
      rw [← hk, lookup_of_mem key hnodup' (hperm.mem_iff.mp ha)]

end Lookup

section Touch

variable (key : α → κ) (fresh : α) {f : α → α}

theorem touch_of_absent {entries : List α} (h : key fresh ∉ entries.map key) :
    touch key fresh f entries = entries ++ [f fresh] := by
  simp only [touch, if_neg h]

private theorem touchOthers_id {entries : List α} (h : key fresh ∉ entries.map key) :
    entries.map (fun a => if key a = key fresh then f a else a) = entries := by
  conv_rhs => rw [← List.map_id entries]
  apply List.map_congr_left
  intro a ha
  have hne : key a ≠ key fresh := fun heq => h (heq ▸ List.mem_map_of_mem ha)
  simp [hne]

/-- Touching the entry appended last only changes that entry. -/
theorem touch_append_last {entries : List α} {a : α}
    (hkey : key a = key fresh) (h : key fresh ∉ entries.map key) :
    touch key fresh f (entries ++ [a]) = entries ++ [f a] := by
  have hmem : key fresh ∈ (entries ++ [a]).map key := by simp [hkey]
  rw [touch, if_pos hmem, List.map_append, touchOthers_id key fresh h]
  simp [hkey]

/-- The touched entry is an old one or the fresh one, modified. -/
theorem lookup_touch (hf : ∀ a, key (f a) = key a) (entries : List α) :
    ∃ a, lookup key (key fresh) (touch key fresh f entries) = some (f a) := by
  have hmem : ∃ a, key a = key fresh ∧ f a ∈ touch key fresh f entries := by
    unfold touch
    split
    · next hold =>
      obtain ⟨a, ha, hkey⟩ := List.mem_map.mp hold
      exact ⟨a, hkey, List.mem_map.mpr ⟨a, ha, if_pos hkey⟩⟩
    · exact ⟨fresh, rfl, by simp⟩
  have hall : ∀ b ∈ touch key fresh f entries, key b = key fresh → ∃ a, b = f a := by
    unfold touch
    split
    · intro b hb hkey
      obtain ⟨a, -, rfl⟩ := List.mem_map.mp hb
      split at hkey
      · next heq => exact ⟨a, if_pos heq⟩
      · next hne => exact absurd hkey hne
    · next hnew =>
      intro b hb hkey
      rcases List.mem_append.mp hb with hold | hlast
      · exact absurd (hkey ▸ List.mem_map_of_mem hold) hnew
      · exact ⟨fresh, List.mem_singleton.mp hlast⟩
  obtain ⟨a, hkey, hfa⟩ := hmem
  cases hlookup : lookup key (key fresh) (touch key fresh f entries) with
  | none =>
      exact absurd (((hf a).trans hkey) ▸ List.mem_map_of_mem hfa)
        ((lookup_eq_none key).mp hlookup)
  | some b =>
      obtain ⟨hb, hbkey⟩ := lookup_some key hlookup
      obtain ⟨c, rfl⟩ := hall b hb hbkey
      exact ⟨c, rfl⟩

theorem touch_keys (hf : ∀ a, key (f a) = key a) (entries : List α) :
    (touch key fresh f entries).map key =
      if key fresh ∈ entries.map key then entries.map key
      else entries.map key ++ [key fresh] := by
  unfold touch
  split
  · rw [List.map_map]
    apply List.map_congr_left
    intro a _
    simp only [Function.comp_apply]
    split
    · exact hf a
    · rfl
  · simp [hf]

theorem mem_touch_keys (hf : ∀ a, key (f a) = key a) (entries : List α) :
    key fresh ∈ (touch key fresh f entries).map key := by
  rw [touch_keys key fresh hf]
  split
  · assumption
  · simp

theorem touch_nodup (hf : ∀ a, key (f a) = key a) {entries : List α}
    (hnodup : (entries.map key).Nodup) :
    ((touch key fresh f entries).map key).Nodup := by
  rw [touch_keys key fresh hf]
  split
  · exact hnodup
  · next h => exact List.nodup_append.mpr ⟨hnodup, List.nodup_singleton _, by
      intro a ha b hb heq
      rw [List.mem_singleton] at hb
      exact h (hb ▸ heq ▸ ha)⟩

/-- Touching an entry twice restores the list when the second touch brings the
entry back. -/
theorem touch_touch_restore {g : α → α} {entries : List α} (hnodup : (entries.map key).Nodup)
    (hf : ∀ a, key (f a) = key a) {a : α} (ha : a ∈ entries) (hkey : key a = key fresh)
    (hrestore : g (f a) = a) :
    touch key fresh g (touch key fresh f entries) = entries := by
  have hmem : key fresh ∈ entries.map key := hkey ▸ List.mem_map_of_mem ha
  have hmem' : key fresh ∈ (touch key fresh f entries).map key := by
    rw [touch_keys key fresh hf, if_pos hmem]
    exact hmem
  rw [touch, if_pos hmem', touch, if_pos hmem, List.map_map]
  conv_rhs => rw [← List.map_id entries]
  apply List.map_congr_left
  intro b hb
  by_cases hb' : key b = key fresh
  · obtain rfl := List.inj_on_of_nodup_map hnodup hb ha (hb'.trans hkey.symm)
    simp [hb', hf, hrestore]
  · simp [hb']

/-- A touch leaves the entries of other keys as they are. -/
theorem mem_touch_of_ne {entries : List α} {a : α} (ha : a ∈ entries) (hne : key a ≠ key fresh) :
    a ∈ touch key fresh f entries := by
  unfold touch
  split
  · exact List.mem_map.mpr ⟨a, ha, if_neg hne⟩
  · exact List.mem_append_left _ ha

/-- A later touch that does not look at what an earlier one of the same key
wrote, overwrites it. -/
theorem touch_overwrite {g : α → α} (hf : ∀ a, key (f a) = key a) (hg : ∀ a, g (f a) = g a)
    (entries : List α) :
    touch key fresh g (touch key fresh f entries) = touch key fresh g entries := by
  by_cases hmem : key fresh ∈ entries.map key
  · have htouched : key fresh ∈ (touch key fresh f entries).map key :=
      mem_touch_keys key fresh hf entries
    rw [touch, if_pos htouched, touch, if_pos hmem, touch, if_pos hmem, List.map_map]
    apply List.map_congr_left
    intro a _
    by_cases ha : key a = key fresh
    · simp [ha, hf, hg]
    · simp [ha]
  · rw [touch_of_absent key fresh hmem, touch_of_absent key fresh hmem,
      touch_append_last key fresh (hf fresh) hmem, hg]

end Touch

section Remove

variable (key : α → κ) {k : κ}

theorem remove_nodup {entries : List α} (hnodup : (entries.map key).Nodup) :
    ((remove key k entries).map key).Nodup :=
  hnodup.sublist (List.filter_sublist.map key)

/-- Removing an absent key is a no-op. -/
theorem remove_of_absent {entries : List α} (h : k ∉ entries.map key) :
    remove key k entries = entries := by
  apply List.filter_eq_self.mpr
  intro a ha
  have hne : key a ≠ k := fun heq => h (heq ▸ List.mem_map_of_mem ha)
  simpa using hne

/-- A removal undoes every earlier touch of the same key: what the touched
entry had become does not matter. -/
theorem remove_touch (fresh : α) {f : α → α} (hf : ∀ a, key (f a) = key a)
    (entries : List α) :
    remove key (key fresh) (touch key fresh f entries) = remove key (key fresh) entries := by
  unfold touch remove
  split
  · rw [List.filter_map]
    have hkeys : ((fun a => decide (key a ≠ key fresh)) ∘
        fun a => if key a = key fresh then f a else a) =
        fun a => decide (key a ≠ key fresh) := by
      funext a
      by_cases ha : key a = key fresh <;> simp [ha, hf]
    rw [hkeys]
    conv_rhs => rw [← List.map_id (entries.filter _)]
    apply List.map_congr_left
    intro a ha
    have hne : key a ≠ key fresh := by simpa using (List.mem_filter.mp ha).2
    simp [hne]
  · simp [hf]

/-- Removing one key and touching another commute. -/
theorem remove_touch_of_ne (fresh : α) {f : α → α} (hf : ∀ a, key (f a) = key a)
    (hne : key fresh ≠ k) (entries : List α) :
    remove key k (touch key fresh f entries) = touch key fresh f (remove key k entries) := by
  have hmem : key fresh ∈ (remove key k entries).map key ↔ key fresh ∈ entries.map key := by
    simp only [remove, List.mem_map, List.mem_filter, decide_eq_true_eq]
    constructor
    · rintro ⟨a, ⟨ha, -⟩, heq⟩
      exact ⟨a, ha, heq⟩
    · rintro ⟨a, ha, heq⟩
      exact ⟨a, ⟨ha, heq ▸ hne⟩, heq⟩
  by_cases hpresent : key fresh ∈ entries.map key
  · rw [touch, if_pos hpresent, touch, if_pos (hmem.mpr hpresent), remove, List.filter_map, remove]
    congr 2
    funext a
    by_cases ha : key a = key fresh <;> simp [ha, hf]
  · rw [touch_of_absent key fresh hpresent, touch_of_absent key fresh (mt hmem.mp hpresent)]
    simp [remove, hf, hne]

end Remove

section Adding

omit [DecidableEq κ] in
/-- Entries made from distinct sources keep the keys distinct when each one's
key is new and no two sources make the same key. -/
theorem nodup_append_flatMap {β : Type*} (key : α → κ) (fresh : β → List α) {entries : List α}
    {sources : List β} (hentries : (entries.map key).Nodup) (hsources : sources.Nodup)
    (hone : ∀ b ∈ sources, ((fresh b).map key).Nodup)
    (hnew : ∀ b ∈ sources, ∀ a ∈ fresh b, key a ∉ entries.map key)
    (hinj : ∀ b ∈ sources, ∀ b' ∈ sources, ∀ a ∈ fresh b, ∀ a' ∈ fresh b',
        key a = key a' → b = b') :
    ((entries ++ sources.flatMap fresh).map key).Nodup := by
  rw [List.map_append, List.map_flatMap]
  apply List.nodup_append'.mpr
  refine ⟨hentries, List.nodup_flatMap.mpr ⟨hone, ?_⟩, ?_⟩
  · apply hsources.imp_of_mem
    intro b b' hb hb' hne k hk hk'
    obtain ⟨a, ha, rfl⟩ := List.mem_map.mp hk
    obtain ⟨a', ha', heq⟩ := List.mem_map.mp hk'
    exact hne (hinj b hb b' hb' a ha a' ha' heq.symm)
  · intro k hk hk'
    obtain ⟨b, hb, hmem⟩ := List.mem_flatMap.mp hk'
    obtain ⟨a, ha, rfl⟩ := List.mem_map.mp hmem
    exact hnew b hb a ha hk

end Adding

section Canonical

variable {ο : Type*} [LinearOrder ο] (key : α → ο)

/-- The entries in ascending key order; entries with one key keep their order. -/
def sortByKey (entries : List α) : List α :=
  entries.mergeSort (fun a b => decide (key a ≤ key b))

theorem sortByKey_perm (entries : List α) : (sortByKey key entries).Perm entries :=
  List.mergeSort_perm entries _

theorem sortByKey_pairwise (entries : List α) :
    (sortByKey key entries).Pairwise (fun a b => key a ≤ key b) := by
  have h : (entries.mergeSort (fun a b => decide (key a ≤ key b))).Pairwise
      (fun a b => decide (key a ≤ key b)) := List.pairwise_mergeSort
    (fun a b c hab hbc => by
      simp only [decide_eq_true_eq] at *
      exact le_trans hab hbc)
    (fun a b => by
      simp only [Bool.or_eq_true, decide_eq_true_eq]
      exact le_total _ _) entries
  exact h.imp (fun hab => by simpa using hab)

theorem sortByKey_of_pairwise {entries : List α}
    (h : entries.Pairwise (fun a b => key a ≤ key b)) : sortByKey key entries = entries := by
  apply List.mergeSort_of_pairwise
  exact h.imp (fun hle => by simpa using hle)

theorem sortByKey_sortByKey (entries : List α) :
    sortByKey key (sortByKey key entries) = sortByKey key entries :=
  sortByKey_of_pairwise key (sortByKey_pairwise key entries)

private theorem orderedInsert_between {a : α} {before behind : List α}
    (hbefore : ∀ b ∈ before, ¬ key a ≤ key b) (hbehind : ∀ b ∈ behind, key a ≤ key b) :
    (before ++ behind).orderedInsert (fun a b => key a ≤ key b) a = before ++ a :: behind := by
  induction before with
  | nil =>
      cases behind with
      | nil => rfl
      | cons b rest =>
          simp only [List.nil_append, List.orderedInsert, if_pos (hbehind b List.mem_cons_self)]
  | cons b rest ih =>
      have hb := hbefore b List.mem_cons_self
      simp only [List.cons_append, List.orderedInsert, if_neg hb]
      rw [ih (fun c hc => hbefore c (List.mem_cons_of_mem _ hc))]

private theorem lookup_orderedInsert (k : ο) (a : α) (entries : List α) :
    lookup key k (entries.orderedInsert (fun a b => key a ≤ key b) a) =
      if key a = k then some a else lookup key k entries := by
  induction entries with
  | nil => by_cases ha : key a = k <;> simp [lookup, ha]
  | cons b rest ih =>
      simp only [List.orderedInsert]
      split
      · by_cases ha : key a = k <;> simp [lookup, ha]
      · next hle =>
        have hne : key b ≠ key a := fun heq => hle (le_of_eq heq.symm)
        by_cases hb : key b = k
        · have ha : key a ≠ k := fun heq => hne (hb.trans heq.symm)
          simp [lookup, hb, ha]
        · have hrest : lookup key k (b :: rest) = lookup key k rest := by simp [lookup, hb]
          have hinserted : lookup key k (b :: rest.orderedInsert (fun a b => key a ≤ key b) a) =
              lookup key k (rest.orderedInsert (fun a b => key a ≤ key b) a) := by
            simp [lookup, hb]
          rw [hinserted, hrest, ih]

/-- Merging and inserting agree: both keep the order of equal keys. -/
theorem sortByKey_eq_insertionSort (entries : List α) :
    sortByKey key entries = entries.insertionSort (fun a b => key a ≤ key b) := by
  induction entries with
  | nil => simp [sortByKey]
  | cons a rest ih =>
      obtain ⟨before, behind, hsorted, hrest, hbefore⟩ := @List.mergeSort_cons α
        (fun a b => decide (key a ≤ key b))
        (fun a b c hab hbc => by
          simp only [decide_eq_true_eq] at *
          exact le_trans hab hbc)
        (fun a b => by
          simp only [Bool.or_eq_true, decide_eq_true_eq]
          exact le_total _ _) a rest
      have hbehind : ∀ b ∈ behind, key a ≤ key b := by
        have hpairwise := sortByKey_pairwise key (a :: rest)
        rw [sortByKey, hsorted] at hpairwise
        exact (List.pairwise_cons.mp (List.pairwise_append.mp hpairwise).2.1).1
      have hsplit : rest.insertionSort (fun a b => key a ≤ key b) = before ++ behind :=
        ih.symm.trans hrest
      rw [List.insertionSort_cons, hsplit, orderedInsert_between key _ hbehind]
      · exact hsorted
      · intro b hb
        simpa using hbefore b hb

/-- Sorting does not change what a key finds. -/
theorem lookup_sortByKey (k : ο) (entries : List α) :
    lookup key k (sortByKey key entries) = lookup key k entries := by
  rw [sortByKey_eq_insertionSort]
  induction entries with
  | nil => rfl
  | cons a rest ih =>
      rw [List.insertionSort_cons, lookup_orderedInsert key k a, ih]
      by_cases ha : key a = k <;> simp [lookup, ha]

theorem perm_of_sortByKey_eq {entries entries' : List α}
    (h : sortByKey key entries = sortByKey key entries') : entries.Perm entries' :=
  (sortByKey_perm key entries).symm.trans (h ▸ sortByKey_perm key entries')

/-- The canonical order forgets the order of listing, as long as a key
determines its entry. -/
theorem sortByKey_eq_iff_perm (entries entries' : List α)
    (hinj : ∀ a ∈ entries, ∀ b ∈ entries, key a = key b → a = b) :
    sortByKey key entries = sortByKey key entries' ↔ entries.Perm entries' := by
  constructor
  · exact perm_of_sortByKey_eq key
  · intro hperm
    have hsorted : (sortByKey key entries).Perm (sortByKey key entries') :=
      (sortByKey_perm key entries).trans
        (hperm.trans (sortByKey_perm key entries').symm)
    apply hsorted.eq_of_pairwise _ (sortByKey_pairwise key entries)
      (sortByKey_pairwise key entries')
    intro a b ha hb hab hba
    have ha' := (sortByKey_perm key entries).mem_iff.mp ha
    have hb' := hperm.mem_iff.mpr ((sortByKey_perm key entries').mem_iff.mp hb)
    exact hinj a ha' b hb' (le_antisymm hab hba)

end Canonical

end RouterKit.Lib.Keyed
