import RouterKit.Lib.Keyed

/-!
JSON values over an arbitrary type of texts. An object lists its fields in the
order it was written or read; writing one with sorted keys and reading it back
puts every object of the value in key order, and does nothing else.
-/

namespace RouterKit.Lib

inductive Json (S : Type) where
  | null
  | bool (value : Bool)
  | int (value : Int)
  | float (spelling : S)
  | str (text : S)
  | arr (items : List (Json S))
  | obj (fields : List (S × Json S))

namespace Json

variable {S : Type}

section Equality

variable [DecidableEq S]

mutual

/-- Equality of values, decided by their structure. -/
def same : Json S → Json S → Bool
  | null, null => true
  | bool a, bool b => a == b
  | int a, int b => a == b
  | float a, float b => a == b
  | str a, str b => a == b
  | arr a, arr b => sameItems a b
  | obj a, obj b => sameFields a b
  | _, _ => false

def sameItems : List (Json S) → List (Json S) → Bool
  | [], [] => true
  | a :: as, b :: bs => same a b && sameItems as bs
  | _, _ => false

def sameFields : List (S × Json S) → List (S × Json S) → Bool
  | [], [] => true
  | (k, a) :: as, (l, b) :: bs => k == l && same a b && sameFields as bs
  | _, _ => false

end

mutual

theorem same_iff : ∀ a b : Json S, same a b = true ↔ a = b
  | null, b => by cases b <;> simp [same]
  | bool a, b => by cases b <;> simp [same]
  | int a, b => by cases b <;> simp [same]
  | float a, b => by cases b <;> simp [same]
  | str a, b => by cases b <;> simp [same]
  | arr a, b => by cases b <;> simp [same, sameItems_iff]
  | obj a, b => by cases b <;> simp [same, sameFields_iff]

theorem sameItems_iff : ∀ a b : List (Json S), sameItems a b = true ↔ a = b
  | [], b => by cases b <;> simp [sameItems]
  | a :: as, b => by
      cases b with
      | nil => simp [sameItems]
      | cons b bs => simp [sameItems, same_iff, sameItems_iff]

theorem sameFields_iff : ∀ a b : List (S × Json S), sameFields a b = true ↔ a = b
  | [], b => by cases b <;> simp [sameFields]
  | (k, a) :: as, b => by
      cases b with
      | nil => simp [sameFields]
      | cons b bs => simp [sameFields, same_iff, sameFields_iff, and_assoc, Prod.ext_iff]

end

instance : DecidableEq (Json S) := fun a b => decidable_of_iff _ (same_iff a b)

end Equality

section Fields

variable [DecidableEq S]

/-- `fields.get(key)`. -/
def get? (fields : List (S × Json S)) (key : S) : Option (Json S) :=
  (Keyed.lookup Prod.fst key fields).map Prod.snd

/-- `fields.get(key)`, with `None` read as JSON's null. -/
def get (fields : List (S × Json S)) (key : S) : Json S :=
  (get? fields key).getD null

@[simp] theorem get?_nil (key : S) : get? [] key = none := rfl

@[simp] theorem get?_cons (other key : S) (value : Json S) (rest : List (S × Json S)) :
    get? ((other, value) :: rest) key = if other = key then some value else get? rest key := by
  by_cases h : other = key <;> simp [get?, Keyed.lookup, h]

@[simp] theorem get_cons (other key : S) (value : Json S) (rest : List (S × Json S)) :
    get ((other, value) :: rest) key = if other = key then value else get rest key := by
  by_cases h : other = key <;> simp [get, h]

theorem get?_of_get {fields : List (S × Json S)} {key : S} {value : Json S} (hvalue : value ≠ null)
    (h : get fields key = value) : get? fields key = some value := by
  unfold get at h
  cases hget : get? fields key with
  | none =>
      rw [hget] at h
      exact absurd h.symm hvalue
  | some found =>
      rw [hget] at h
      exact congrArg some h

theorem get?_mem {fields : List (S × Json S)} {key : S} {value : Json S}
    (h : get? fields key = some value) : (key, value) ∈ fields := by
  obtain ⟨field, hfield, rfl⟩ := Option.map_eq_some_iff.mp h
  obtain ⟨hmem, rfl⟩ := Keyed.lookup_some Prod.fst hfield
  exact hmem

/-- `set(fields) == {…}`. -/
def hasKeys (fields : List (S × Json S)) (keys : List S) : Prop :=
  (∀ key ∈ fields.map Prod.fst, key ∈ keys) ∧ ∀ key ∈ keys, key ∈ fields.map Prod.fst

instance (fields : List (S × Json S)) (keys : List S) : Decidable (hasKeys fields keys) :=
  inferInstanceAs (Decidable (_ ∧ _))

end Fields

section Updates

variable [DecidableEq S]

/-- `fields[key] = value`: a key that is there keeps its place. -/
def set (key : S) (value : Json S) : List (S × Json S) → List (S × Json S)
  | [] => [(key, value)]
  | field :: rest => if field.1 = key then (key, value) :: rest else field :: set key value rest

theorem set_nil (key : S) (value : Json S) : set key value [] = [(key, value)] := by
  rfl

theorem set_cons (key : S) (value : Json S) (field : S × Json S) (rest : List (S × Json S)) :
    set key value (field :: rest) =
      if field.1 = key then (key, value) :: rest else field :: set key value rest := by
  rfl

theorem get?_set (key other : S) (value : Json S) (fields : List (S × Json S)) :
    get? (set key value fields) other = if key = other then some value else get? fields other := by
  induction fields with
  | nil => simp [set_nil]
  | cons field rest ih =>
      obtain ⟨first, content⟩ := field
      by_cases hfirst : first = key
      · subst hfirst
        by_cases hother : first = other <;> simp [set_cons, hother]
      · by_cases hother : first = other
        · subst hother
          simp [set_cons, hfirst, Ne.symm hfirst]
        · simp [set_cons, hfirst, hother, ih]

theorem get_set (key other : S) (value : Json S) (fields : List (S × Json S)) :
    get (set key value fields) other = if key = other then value else get fields other := by
  rw [get, get?_set, get]
  split <;> rfl

/-- Setting a key to what it holds changes nothing. -/
theorem set_self {key : S} {value : Json S} {fields : List (S × Json S)}
    (h : get? fields key = some value) : set key value fields = fields := by
  induction fields with
  | nil => cases h
  | cons field rest ih =>
      obtain ⟨first, content⟩ := field
      rw [get?_cons] at h
      by_cases hfirst : first = key
      · rw [if_pos hfirst] at h
        obtain rfl := Option.some.inj h
        simp [set_cons, hfirst]
      · rw [if_neg hfirst] at h
        simp [set_cons, hfirst, ih h]

theorem set_set (key : S) (value more : Json S) (fields : List (S × Json S)) :
    set key more (set key value fields) = set key more fields := by
  induction fields with
  | nil => simp [set_nil, set_cons]
  | cons field rest ih =>
      by_cases hfirst : field.1 = key
      · simp [set_cons, hfirst]
      · simp [set_cons, hfirst, ih]

end Updates

section Sorting

variable [LinearOrder S]

mutual

/-- The value read back of what was written with sorted keys. -/
def sortKeys : Json S → Json S
  | null => null
  | bool value => bool value
  | int value => int value
  | float spelling => float spelling
  | str text => str text
  | arr items => arr (sortItems items)
  | obj fields => obj (Keyed.sortByKey Prod.fst (sortFields fields))

def sortItems : List (Json S) → List (Json S)
  | [] => []
  | value :: rest => sortKeys value :: sortItems rest

def sortFields : List (S × Json S) → List (S × Json S)
  | [] => []
  | (key, value) :: rest => (key, sortKeys value) :: sortFields rest

end

@[simp] theorem sortKeys_null : sortKeys (null : Json S) = null := by rfl

@[simp] theorem sortKeys_bool (value : Bool) : sortKeys (bool value : Json S) = bool value := by
  rfl

@[simp] theorem sortKeys_int (value : Int) : sortKeys (int value : Json S) = int value := by
  rfl

@[simp] theorem sortKeys_float (spelling : S) : sortKeys (float spelling) = float spelling := by
  rfl

@[simp] theorem sortKeys_str (text : S) : sortKeys (str text) = str text := by rfl

theorem sortItems_eq_map (items : List (Json S)) : sortItems items = items.map sortKeys := by
  induction items with
  | nil => rfl
  | cons value rest ih => exact congrArg (sortKeys value :: ·) ih

theorem sortFields_eq_map (fields : List (S × Json S)) :
    sortFields fields = fields.map (fun field => (field.1, sortKeys field.2)) := by
  induction fields with
  | nil => rfl
  | cons field rest ih =>
      obtain ⟨key, value⟩ := field
      exact congrArg ((key, sortKeys value) :: ·) ih

@[simp] theorem sortFields_keys (fields : List (S × Json S)) :
    (sortFields fields).map Prod.fst = fields.map Prod.fst := by
  rw [sortFields_eq_map, List.map_map]
  rfl

/-- The fields of a value read back from its sorted text. -/
def sortedFields (fields : List (S × Json S)) : List (S × Json S) :=
  Keyed.sortByKey Prod.fst (sortFields fields)

@[simp] theorem sortKeys_obj (fields : List (S × Json S)) :
    sortKeys (obj fields) = obj (sortedFields fields) := by
  rfl

@[simp] theorem sortKeys_arr (items : List (Json S)) :
    sortKeys (arr items) = arr (items.map sortKeys) := by
  rw [← sortItems_eq_map]
  rfl

theorem sortedFields_keys (fields : List (S × Json S)) :
    ((sortedFields fields).map Prod.fst).Perm (fields.map Prod.fst) := by
  have hperm := (Keyed.sortByKey_perm Prod.fst (sortFields fields)).map Prod.fst
  rwa [sortFields_keys] at hperm

/-- A key finds the same value in the sorted fields. -/
theorem get?_sortedFields (fields : List (S × Json S)) (key : S) :
    get? (sortedFields fields) key = (get? fields key).map sortKeys := by
  rw [get?, sortedFields, Keyed.lookup_sortByKey, sortFields_eq_map]
  induction fields with
  | nil => rfl
  | cons field rest ih =>
      by_cases hkey : field.1 = key
      · simp [get?, Keyed.lookup, hkey]
      · simpa [get?, Keyed.lookup, hkey] using ih

theorem get_sortedFields (fields : List (S × Json S)) (key : S) :
    get (sortedFields fields) key = sortKeys (get fields key) := by
  rw [get, get?_sortedFields, get]
  cases get? fields key with
  | none => exact sortKeys_null.symm
  | some value => rfl

/-- Objects with one sorted text hold the same values under every key. -/
theorem get_congr {fields more : List (S × Json S)}
    (h : sortKeys (obj fields) = sortKeys (obj more))
    (key : S) : sortKeys (get fields key) = sortKeys (get more key) := by
  rw [sortKeys_obj, sortKeys_obj, obj.injEq] at h
  rw [← get_sortedFields, ← get_sortedFields, h]

mutual

/-- Sorting twice is sorting once. -/
theorem sortKeys_sortKeys : ∀ value : Json S, sortKeys (sortKeys value) = sortKeys value
  | null => by simp
  | bool value => by simp
  | int value => by simp
  | float spelling => by simp
  | str text => by simp
  | arr items => by
      simp only [sortKeys, arr.injEq]
      exact sortItems_sortItems items
  | obj fields => by
      have hfields := sortFields_sortFields fields
      rw [sortFields_eq_map (sortFields fields)] at hfields
      conv_rhs at hfields => rw [← List.map_id (sortFields fields)]
      have hfixed := List.map_inj_left.mp hfields
      have hsorted : sortFields (sortedFields fields) = sortedFields fields := by
        rw [sortFields_eq_map]
        conv_rhs => rw [← List.map_id (sortedFields fields)]
        apply List.map_congr_left
        intro field hfield
        exact hfixed field ((Keyed.sortByKey_perm Prod.fst (sortFields fields)).mem_iff.mp hfield)
      rw [sortKeys_obj, sortKeys_obj, obj.injEq]
      conv_lhs => rw [sortedFields, hsorted]
      exact Keyed.sortByKey_sortByKey Prod.fst (sortFields fields)

theorem sortItems_sortItems : ∀ items : List (Json S),
    sortItems (sortItems items) = sortItems items
  | [] => by simp [sortItems]
  | value :: rest => by simp [sortItems, sortKeys_sortKeys value, sortItems_sortItems rest]

theorem sortFields_sortFields : ∀ fields : List (S × Json S),
    sortFields (sortFields fields) = sortFields fields
  | [] => by simp [sortFields]
  | (key, value) :: rest => by
      simp [sortFields, sortKeys_sortKeys value, sortFields_sortFields rest]

end

theorem sortFields_set (key : S) (value : Json S) (fields : List (S × Json S)) :
    sortFields (set key value fields) = set key (sortKeys value) (sortFields fields) := by
  induction fields with
  | nil => simp [set_nil, sortFields]
  | cons field rest ih =>
      obtain ⟨first, content⟩ := field
      by_cases hfirst : first = key
      · simp [set_cons, sortFields, hfirst]
      · simp [set_cons, sortFields, hfirst, ih]

/-- A field that was set to one of two values with one sorted text. -/
theorem sortKeys_set_congr (key : S) {value more : Json S} (h : sortKeys value = sortKeys more)
    (fields : List (S × Json S)) :
    sortKeys (obj (set key value fields)) = sortKeys (obj (set key more fields)) := by
  rw [sortKeys_obj, sortKeys_obj, sortedFields, sortedFields, sortFields_set, sortFields_set, h]

/-- Sorted fields do not depend on the order of distinct keys. -/
theorem sortedFields_congr {fields more : List (S × Json S)} (hperm : fields.Perm more)
    (hnodup : (fields.map Prod.fst).Nodup) : sortedFields fields = sortedFields more := by
  have hkeys : ((sortFields fields).map Prod.fst).Nodup := by rwa [sortFields_keys]
  apply (Keyed.sortByKey_eq_iff_perm Prod.fst _ _ _).mpr
  · rw [sortFields_eq_map, sortFields_eq_map]
    exact hperm.map _
  · exact fun _ ha _ hb => List.inj_on_of_nodup_map hkeys ha hb

theorem remove_sortFields (key : S) (fields : List (S × Json S)) :
    Keyed.remove Prod.fst key (sortFields fields) = sortFields
        (Keyed.remove Prod.fst key fields) := by
  rw [sortFields_eq_map, sortFields_eq_map, Keyed.remove, List.filter_map, Keyed.remove]
  rfl

/-- Removing a key from the sorted fields and sorting what is left. -/
theorem sortedFields_remove {fields : List (S × Json S)} (hnodup : (fields.map Prod.fst).Nodup)
    (key : S) : sortedFields (Keyed.remove Prod.fst key (sortedFields fields)) =
      sortedFields (Keyed.remove Prod.fst key fields) := by
  have hperm : (Keyed.remove Prod.fst key (sortedFields fields)).Perm
      (sortFields (Keyed.remove Prod.fst key fields)) := by
    rw [← remove_sortFields]
    exact (Keyed.sortByKey_perm Prod.fst (sortFields fields)).filter _
  have hkeys : ((Keyed.remove Prod.fst key (sortedFields fields)).map Prod.fst).Nodup := by
    apply Keyed.remove_nodup
    exact (sortedFields_keys fields).nodup_iff.mpr hnodup
  rw [sortedFields_congr hperm hkeys, sortedFields, sortFields_sortFields, sortedFields]

mutual

/-- `sortKeys` by insertion, which evaluates step by step. -/
def canonical : Json S → Json S
  | null => null
  | bool value => bool value
  | int value => int value
  | float spelling => float spelling
  | str text => str text
  | arr items => arr (canonicalItems items)
  | obj fields => obj ((canonicalFields fields).insertionSort (fun a b => a.1 ≤ b.1))

def canonicalItems : List (Json S) → List (Json S)
  | [] => []
  | value :: rest => canonical value :: canonicalItems rest

def canonicalFields : List (S × Json S) → List (S × Json S)
  | [] => []
  | (key, value) :: rest => (key, canonical value) :: canonicalFields rest

end

mutual

theorem canonical_eq_sortKeys : ∀ value : Json S, canonical value = sortKeys value
  | null => by simp [canonical]
  | bool value => by simp [canonical]
  | int value => by simp [canonical]
  | float spelling => by simp [canonical]
  | str text => by simp [canonical]
  | arr items => by rw [canonical, sortKeys, canonicalItems_eq items]
  | obj fields => by
      rw [canonical, sortKeys, canonicalFields_eq fields, Keyed.sortByKey_eq_insertionSort]

theorem canonicalItems_eq : ∀ items : List (Json S), canonicalItems items = sortItems items
  | [] => rfl
  | value :: rest => by
      rw [canonicalItems, sortItems, canonical_eq_sortKeys value, canonicalItems_eq rest]

theorem canonicalFields_eq : ∀ fields : List (S × Json S),
    canonicalFields fields = sortFields fields
  | [] => rfl
  | (key, value) :: rest => by
      rw [canonicalFields, sortFields, canonical_eq_sortKeys value, canonicalFields_eq rest]

end

end Sorting

end Json

end RouterKit.Lib
