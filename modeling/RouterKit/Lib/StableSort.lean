import Mathlib.Data.List.Dedup
import Mathlib.Data.List.Induction
import Mathlib.Data.List.Sort
import Mathlib.Data.Prod.Lex

/-!
Sorting by a key, which leaves entries of one key in their order, and grouping
by a key, which keeps the order inside every group.
-/

namespace RouterKit.Lib

variable {α κ : Type}

section Sorting

variable [LinearOrder κ]

/-- `sorted(entries, key=key)`. -/
def sortBy (key : α → κ) (entries : List α) : List α :=
  entries.insertionSort fun a b => key a ≤ key b

variable {key : α → κ}

theorem sortBy_perm (entries : List α) : (sortBy key entries).Perm entries :=
  List.perm_insertionSort _ entries

@[simp] theorem mem_sortBy {entries : List α} {a : α} : a ∈ sortBy key entries ↔ a ∈ entries :=
  (sortBy_perm entries).mem_iff

theorem sortBy_sorted (entries : List α) :
    (sortBy key entries).Pairwise fun a b => key a ≤ key b := by
  have : Std.Total (fun a b : α => key a ≤ key b) := ⟨fun a b => le_total (key a) (key b)⟩
  have : IsTrans α (fun a b : α => key a ≤ key b) := ⟨fun _ _ _ => le_trans⟩
  exact List.pairwise_insertionSort _ entries

private theorem orderedInsert_of_forall_le {a : α} {entries : List α}
    (h : ∀ b ∈ entries, key a ≤ key b) :
    entries.orderedInsert (fun a b => key a ≤ key b) a = a :: entries := by
  cases entries with
  | nil => rfl
  | cons b rest => exact List.orderedInsert_cons_of_le _ rest (h b List.mem_cons_self)

private theorem orderedInsert_filter (p : α → Bool) (a : α) {entries : List α}
    (hsorted : entries.Pairwise fun a b => key a ≤ key b) :
    (entries.orderedInsert (fun a b => key a ≤ key b) a).filter p =
      if p a then (entries.filter p).orderedInsert (fun a b => key a ≤ key b) a
      else entries.filter p := by
  induction entries with
  | nil => simp [List.filter_cons]
  | cons b rest ih =>
      obtain ⟨hhead, hrest⟩ := List.pairwise_cons.mp hsorted
      by_cases hle : key a ≤ key b
      · have hall : ∀ c ∈ (b :: rest).filter p, key a ≤ key c := by
          intro c hc
          rcases List.mem_cons.mp (List.mem_of_mem_filter hc) with rfl | hmem
          · exact hle
          · exact hle.trans (hhead c hmem)
        rw [List.orderedInsert_cons_of_le _ rest hle, List.filter_cons,
          orderedInsert_of_forall_le hall]
      · rw [List.orderedInsert_of_not_le (fun a b => key a ≤ key b) rest hle, List.filter_cons,
          ih hrest, List.filter_cons]
        by_cases hb : p b = true
        · rw [if_pos hb, if_pos hb]
          by_cases ha : p a = true
          · rw [if_pos ha, if_pos ha, List.orderedInsert_of_not_le (fun a b => key a ≤ key b) _ hle]
          · rw [if_neg ha, if_neg ha]
        · rw [if_neg hb, if_neg hb]

/-- Entries that pass a filter are sorted as if they were alone. -/
theorem sortBy_filter (p : α → Bool) (entries : List α) :
    (sortBy key entries).filter p = sortBy key (entries.filter p) := by
  induction entries with
  | nil => rfl
  | cons a rest ih =>
      have hinsert := orderedInsert_filter p a (@sortBy_sorted _ _ _ key rest)
      rw [ih] at hinsert
      rw [List.filter_cons]
      refine hinsert.trans ?_
      split
      · rfl
      · rfl

/-- Entries of one key stay in their order. -/
theorem sortBy_filter_key (k : κ) (entries : List α) :
    (sortBy key entries).filter (key · = k) = entries.filter (key · = k) := by
  rw [sortBy_filter]
  apply List.Pairwise.insertionSort_eq
  refine List.pairwise_of_forall_mem_list fun a ha b hb => ?_
  have hakey := of_decide_eq_true (List.mem_filter.mp ha).2
  have hbkey := of_decide_eq_true (List.mem_filter.mp hb).2
  exact le_of_eq (hakey.trans hbkey.symm)

/-- Distinct keys leave no choice. -/
theorem sortBy_congr {entries other : List α} (hperm : entries.Perm other)
    (hkeys : (entries.map key).Nodup) : sortBy key entries = sortBy key other := by
  apply List.Perm.eq_of_pairwise _ (sortBy_sorted entries) (sortBy_sorted other)
    ((sortBy_perm entries).trans (hperm.trans (sortBy_perm other).symm))
  intro a b ha hb hab hba
  exact List.inj_on_of_nodup_map hkeys (mem_sortBy.mp ha)
    (hperm.mem_iff.mpr (mem_sortBy.mp hb)) (le_antisymm hab hba)

/-- The keys come in one order, whatever the order of their entries. -/
theorem sortBy_map_key {entries other : List α} (hperm : entries.Perm other) :
    (sortBy key entries).map key = (sortBy key other).map key := by
  apply List.Perm.eq_of_pairwise _ (List.pairwise_map.mpr (sortBy_sorted entries))
    (List.pairwise_map.mpr (sortBy_sorted other))
  · exact (((sortBy_perm entries).trans (hperm.trans (sortBy_perm other).symm))).map key
  · intro a b _ _ hab hba
    exact le_antisymm hab hba

/-- The first value found belongs to an entry of the least key among those that
have one. -/
theorem findSome?_sortBy {β : Type} {field : α → Option β} {entries : List α} {v : β}
    (h : (sortBy key entries).findSome? field = some v) :
    ∃ a ∈ entries, field a = some v ∧ ∀ b ∈ entries, (field b).isSome → key a ≤ key b := by
  obtain ⟨before, a, after, hsplit, hvalue, hbefore⟩ := List.findSome?_eq_some_iff.mp h
  have hsorted := @sortBy_sorted _ _ _ key entries
  have hmem : ∀ b, b ∈ entries ↔ b ∈ before ++ a :: after := fun b => by
    rw [← hsplit, mem_sortBy]
  rw [hsplit] at hsorted
  refine ⟨a, (hmem a).mpr (by simp), hvalue, ?_⟩
  intro b hb hsome
  rcases List.mem_append.mp ((hmem b).mp hb) with hleft | hright
  · rw [hbefore b hleft] at hsome
    cases hsome
  · rcases List.mem_cons.mp hright with rfl | hafter
    · exact le_rfl
    · exact (List.pairwise_cons.mp (List.pairwise_append.mp hsorted).2.1).1 b hafter

/-- An entry that is given first is found first, if no key is below its own. -/
theorem findSome?_sortBy_cons {β : Type} {field : α → Option β} {a : α} {rest : List α}
    (hvalue : (field a).isSome) (hleast : ∀ b ∈ rest, (field b).isSome → key a ≤ key b) :
    (sortBy key (a :: rest)).findSome? field = field a := by
  have hfilter : ∀ entries : List α,
      entries.findSome? field = (entries.filter fun b => (field b).isSome).findSome? field := by
    intro entries
    induction entries with
    | nil => rfl
    | cons b more ih =>
        cases hb : field b with
        | none => simp [hb, ih]
        | some w => simp [hb]
  have hinsert : sortBy key (a :: rest.filter fun b => (field b).isSome) =
      a :: sortBy key (rest.filter fun b => (field b).isSome) := by
    apply orderedInsert_of_forall_le
    intro b hb
    obtain ⟨hmem, hsome⟩ := List.mem_filter.mp (mem_sortBy.mp hb)
    exact hleast b hmem hsome
  have hhead : ((a :: rest).filter fun b => (field b).isSome) =
      a :: rest.filter fun b => (field b).isSome := by
    rw [List.filter_cons, if_pos hvalue]
  rw [hfilter, sortBy_filter, hhead, hinsert, List.findSome?_cons]
  obtain ⟨v, hv⟩ := Option.isSome_iff_exists.mp hvalue
  rw [hv]

end Sorting

section Grouping

variable [DecidableEq κ]

/-- `groups.setdefault(key, []).append(entry)`. -/
def appendGroup (key : κ) (entry : α) : List (κ × List α) → List (κ × List α)
  | [] => [(key, [entry])]
  | (found, group) :: rest =>
      if found = key then (found, group ++ [entry]) :: rest
      else (found, group) :: appendGroup key entry rest

/-- The entries of every key, the keys in the order in which they first occur. -/
def groupBy (key : α → κ) (entries : List α) : List (κ × List α) :=
  entries.foldl (fun groups entry => appendGroup (key entry) entry groups) []

theorem groupBy_concat (key : α → κ) (entries : List α) (entry : α) :
    groupBy key (entries ++ [entry]) = appendGroup (key entry) entry (groupBy key entries) := by
  rw [groupBy, groupBy, List.foldl_append]
  rfl

private theorem appendGroup_keys (key : κ) (entry : α) (groups : List (κ × List α)) :
    (appendGroup key entry groups).map Prod.fst =
      if key ∈ groups.map Prod.fst then groups.map Prod.fst else groups.map Prod.fst ++ [key] := by
  induction groups with
  | nil => rfl
  | cons group rest ih =>
      unfold appendGroup
      by_cases hkey : group.1 = key
      · rw [if_pos hkey, List.map_cons, List.map_cons, if_pos (by simp [hkey])]
      · rw [if_neg hkey, List.map_cons, List.map_cons, ih]
        have hmem : key ∈ group.1 :: rest.map Prod.fst ↔ key ∈ rest.map Prod.fst := by
          rw [List.mem_cons]
          exact or_iff_right fun heq => hkey heq.symm
        by_cases hrest : key ∈ rest.map Prod.fst
        · rw [if_pos hrest, if_pos (hmem.mpr hrest)]
        · rw [if_neg hrest, if_neg (mt hmem.mp hrest), List.cons_append]

private theorem mem_appendGroup_of_ne {key k : κ} (hne : k ≠ key) {entry : α} {group : List α}
    {groups : List (κ × List α)} :
    (k, group) ∈ appendGroup key entry groups ↔ (k, group) ∈ groups := by
  induction groups with
  | nil => simp [appendGroup, hne]
  | cons head rest ih =>
      obtain ⟨found, earlier⟩ := head
      unfold appendGroup
      by_cases hkey : found = key
      · have hfound : k ≠ found := fun heq => hne (heq.trans hkey)
        rw [if_pos hkey]
        simp [hfound]
      · rw [if_neg hkey, List.mem_cons, List.mem_cons, ih]

private theorem mem_appendGroup_self {key : κ} {entry : α} {group : List α}
    {groups : List (κ × List α)} (hnodup : (groups.map Prod.fst).Nodup) :
    (key, group) ∈ appendGroup key entry groups ↔
      (∃ earlier, (key, earlier) ∈ groups ∧ group = earlier ++ [entry]) ∨
        key ∉ groups.map Prod.fst ∧ group = [entry] := by
  induction groups with
  | nil => simp [appendGroup]
  | cons head rest ih =>
      obtain ⟨found, earlier⟩ := head
      obtain ⟨hfresh, hrest⟩ := List.nodup_cons.mp hnodup
      unfold appendGroup
      by_cases hkey : found = key
      · subst hkey
        have hno : ∀ other, (found, other) ∉ rest :=
          fun other hmem => hfresh (List.mem_map.mpr ⟨_, hmem, rfl⟩)
        rw [if_pos rfl]
        simp [hno]
      · have hother : key ≠ found := fun heq => hkey heq.symm
        rw [if_neg hkey, List.mem_cons, ih hrest]
        simp [hother]

theorem groupBy_keys_nodup (key : α → κ) (entries : List α) :
    ((groupBy key entries).map Prod.fst).Nodup := by
  induction entries using List.reverseRecOn with
  | nil => exact List.nodup_nil
  | append_singleton rest entry ih =>
      rw [groupBy_concat, appendGroup_keys]
      split
      · exact ih
      · next hfresh =>
        rw [List.nodup_append]
        refine ⟨ih, List.nodup_singleton _, ?_⟩
        intro a ha b hb
        rw [List.mem_singleton.mp hb]
        exact fun heq => hfresh (heq ▸ ha)

/-- A group holds the entries of its key, in their order. -/
theorem mem_groupBy {key : α → κ} {entries : List α} {k : κ} {group : List α} :
    (k, group) ∈ groupBy key entries ↔ group = entries.filter (key · = k) ∧ group ≠ [] := by
  induction entries using List.reverseRecOn generalizing k group with
  | nil => simp [groupBy]
  | append_singleton rest entry ih =>
      rw [groupBy_concat, List.filter_append]
      by_cases hkey : k = key entry
      · subst hkey
        have hlast : [entry].filter (key · = key entry) = [entry] := by simp
        have hkeys : key entry ∈ (groupBy key rest).map Prod.fst ↔
            rest.filter (key · = key entry) ≠ [] := by
          constructor
          · intro hmem
            obtain ⟨⟨_, found⟩, hfound, rfl⟩ := List.mem_map.mp hmem
            obtain ⟨rfl, hne⟩ := ih.mp hfound
            exact hne
          · intro hne
            exact List.mem_map.mpr ⟨_, ih.mpr ⟨rfl, hne⟩, rfl⟩
        rw [mem_appendGroup_self (groupBy_keys_nodup key rest), hkeys, hlast]
        constructor
        · rintro (⟨earlier, hmem, rfl⟩ | ⟨hempty, rfl⟩)
          · rw [← (ih.mp hmem).1]
            simp
          · rw [not_not.mp hempty]
            simp
        · rintro ⟨rfl, -⟩
          by_cases hempty : rest.filter (key · = key entry) = []
          · exact .inr ⟨not_not.mpr hempty, by rw [hempty, List.nil_append]⟩
          · exact .inl ⟨_, ih.mpr ⟨rfl, hempty⟩, rfl⟩
      · have hlast : [entry].filter (key · = k) = [] := by simp [Ne.symm hkey]
        rw [mem_appendGroup_of_ne hkey, ih, hlast, List.append_nil]

end Grouping

/-- Groups in the order of their keys. -/
theorem sortBy_groupBy [LinearOrder κ] [DecidableEq κ] (key : α → κ) (entries : List α) :
    sortBy Prod.fst (groupBy key entries) =
      (sortBy id (entries.map key).dedup).map fun k => (k, entries.filter (key · = k)) := by
  have hkeys : ((sortBy id (entries.map key).dedup).map fun k =>
      (k, entries.filter (key · = k))).map Prod.fst = sortBy id (entries.map key).dedup := by
    rw [List.map_map]
    exact List.map_id _
  have hnodup := groupBy_keys_nodup key entries
  apply List.Perm.eq_of_pairwise _ (sortBy_sorted _)
  · rw [List.pairwise_map]
    exact sortBy_sorted _
  · apply (sortBy_perm _).trans
    apply (List.perm_ext_iff_of_nodup (List.Nodup.of_map _ hnodup) ?_).mpr
    · rintro ⟨k, group⟩
      rw [mem_groupBy, List.mem_map]
      constructor
      · rintro ⟨rfl, hne⟩
        obtain ⟨entry, hentry⟩ := List.exists_mem_of_ne_nil _ hne
        refine ⟨k, mem_sortBy.mpr (List.mem_dedup.mpr (List.mem_map.mpr ⟨entry, ?_⟩)), rfl⟩
        exact ⟨(List.mem_filter.mp hentry).1, of_decide_eq_true (List.mem_filter.mp hentry).2⟩
      · rintro ⟨k, hk, heq⟩
        cases heq
        obtain ⟨entry, hentry, rfl⟩ := List.mem_map.mp (List.mem_dedup.mp (mem_sortBy.mp hk))
        exact ⟨rfl, List.ne_nil_of_mem (List.mem_filter.mpr ⟨hentry, decide_eq_true rfl⟩)⟩
    · apply List.Nodup.of_map Prod.fst
      rw [hkeys]
      exact (sortBy_perm _).nodup_iff.mpr (List.nodup_dedup _)
  · intro a b ha hb hab hba
    obtain ⟨k, -, rfl⟩ := List.mem_map.mp hb
    obtain ⟨hgroup, -⟩ := mem_groupBy.mp (mem_sortBy.mp ha)
    have hkey : a.1 = k := le_antisymm hab hba
    rw [hkey] at hgroup
    exact Prod.ext hkey hgroup

/-- The order in which a set is walked. It is a choice of the interpreter, and
may differ from one set to the next. -/
structure SetOrder (α : Type) [DecidableEq α] where
  walk : List α → List α
  perm : ∀ entries, (walk entries).Perm entries.dedup

end RouterKit.Lib
