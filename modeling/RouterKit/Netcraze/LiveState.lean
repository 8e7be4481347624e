import RouterKit.Devices.TrustedMac
import RouterKit.Lib.Checked
import RouterKit.Lib.Keyed
import RouterKit.Lib.PyText
import Mathlib.Data.Prod.Lex
import Mathlib.Data.String.Basic

/-!
The parser-visible native state of the router: Proxy objects, Policy objects,
device assignments and the lines guarding the Default policy. The parser keys
every inventory, so a state never holds two objects of one id or two
assignments of one device; the structure carries these facts.
-/

namespace RouterKit.Netcraze

open RouterKit.Lib.Checked RouterKit.Lib.PyText
open RouterKit.Devices RouterKit.Lib

/-- What the live adapter raises. `adapter` is `LiveAdapterError`; an error of
another class, which the same code can let through, keeps its class. -/
inductive LiveError where
  | adapter (message : String) (exitCode : Nat)
  | deviceDiscovery (error : DeviceDiscoveryError)
  | keyError
  | valueError
deriving DecidableEq, Repr

def liveAdapterError (message : String) : LiveError := .adapter message 1

def liveSchema : String := "routerkit.netcraze.ndm-live.v1"
def supportedContract : String := "nc3812-netcrazeos-5.1.5"
def maxProxyIndex : Nat := 15
def maxPolicyIndex : Nat := 15
def rollbackUnproven : Nat := 3

structure ProxyState where
  objectId : String
  description : String
  protocol : String
  host : String
  port : Nat
  enabled : Bool
  authenticationConfigured : Bool
deriving DecidableEq, Repr

structure PolicyState where
  objectId : String
  description : String
  globalInterfaces : List String
deriving DecidableEq, Repr

@[ext]
structure LiveState where
  proxies : List ProxyState
  policies : List PolicyState
  assignments : List (String × String)
  defaultGuard : List String
  proxyIds_nodup : (proxies.map (·.objectId)).Nodup
  policyIds_nodup : (policies.map (·.objectId)).Nodup
  deviceMacs_nodup : (assignments.map Prod.fst).Nodup

/-- `assignment_map.get`. -/
def LiveState.assignmentOf (state : LiveState) (mac : String) : Option String :=
  (Keyed.lookup Prod.fst mac state.assignments).map Prod.snd

namespace LiveState

/-- The order `read_state` and the fingerprints put a state in. -/
def sortedProxies (state : LiveState) : List ProxyState :=
  Keyed.sortByKey (·.objectId) state.proxies

def sortedPolicies (state : LiveState) : List PolicyState :=
  Keyed.sortByKey (·.objectId) state.policies

def sortedAssignments (state : LiveState) : List (String × String) :=
  Keyed.sortByKey (fun entry => toLex entry) state.assignments

def sortedGuard (state : LiveState) : List String :=
  Keyed.sortByKey id state.defaultGuard

/-- Two states that list the same objects, in whatever order. -/
structure Same (left right : LiveState) : Prop where
  proxies : left.proxies.Perm right.proxies
  policies : left.policies.Perm right.policies
  assignments : left.assignments.Perm right.assignments
  defaultGuard : left.defaultGuard.Perm right.defaultGuard

theorem Same.refl (state : LiveState) : state.Same state := ⟨.refl _, .refl _, .refl _, .refl _⟩

theorem Same.symm {left right : LiveState} (h : left.Same right) : right.Same left :=
  ⟨h.proxies.symm, h.policies.symm, h.assignments.symm, h.defaultGuard.symm⟩

theorem Same.trans {first second third : LiveState} (h : first.Same second)
    (h' : second.Same third) : first.Same third :=
  ⟨h.proxies.trans h'.proxies, h.policies.trans h'.policies,
    h.assignments.trans h'.assignments, h.defaultGuard.trans h'.defaultGuard⟩

/-- The canonical order decides `Same`: reading a state forgets the order in
which the router listed it and nothing else. -/
theorem same_iff_sorted {left right : LiveState} :
    left.Same right ↔
      left.sortedProxies = right.sortedProxies ∧ left.sortedPolicies = right.sortedPolicies ∧
        left.sortedAssignments = right.sortedAssignments ∧
        left.sortedGuard = right.sortedGuard := by
  have hproxies := Keyed.sortByKey_eq_iff_perm (·.objectId) left.proxies right.proxies
    (fun _ ha _ hb => List.inj_on_of_nodup_map left.proxyIds_nodup ha hb)
  have hpolicies := Keyed.sortByKey_eq_iff_perm (·.objectId) left.policies right.policies
    (fun _ ha _ hb => List.inj_on_of_nodup_map left.policyIds_nodup ha hb)
  have hassignments := Keyed.sortByKey_eq_iff_perm (fun entry => toLex entry)
    left.assignments right.assignments
    (fun _ _ _ _ heq => toLex.injective heq)
  have hguard := Keyed.sortByKey_eq_iff_perm id left.defaultGuard right.defaultGuard
    (fun _ _ _ _ heq => heq)
  constructor
  · rintro ⟨h1, h2, h3, h4⟩
    exact ⟨hproxies.mpr h1, hpolicies.mpr h2, hassignments.mpr h3, hguard.mpr h4⟩
  · rintro ⟨h1, h2, h3, h4⟩
    exact ⟨hproxies.mp h1, hpolicies.mp h2, hassignments.mp h3, hguard.mp h4⟩

theorem Same.assignmentOf {left right : LiveState} (h : left.Same right) (mac : String) :
    left.assignmentOf mac = right.assignmentOf mac := by
  rw [LiveState.assignmentOf, LiveState.assignmentOf,
    Keyed.lookup_perm Prod.fst left.deviceMacs_nodup h.assignments]

/-- The objects in the order the parser lists them. -/
def sorted (state : LiveState) : LiveState where
  proxies := state.sortedProxies
  policies := state.sortedPolicies
  assignments := state.sortedAssignments
  defaultGuard := state.defaultGuard
  proxyIds_nodup :=
    ((Keyed.sortByKey_perm _ _).map _).nodup_iff.mpr state.proxyIds_nodup
  policyIds_nodup :=
    ((Keyed.sortByKey_perm _ _).map _).nodup_iff.mpr state.policyIds_nodup
  deviceMacs_nodup :=
    ((Keyed.sortByKey_perm _ _).map _).nodup_iff.mpr state.deviceMacs_nodup

/-- A state as `parse_running_config` returns it. -/
def parsed (state : LiveState) : LiveState :=
  { state.sorted with defaultGuard := state.sortedGuard }

theorem sorted_same (state : LiveState) : state.sorted.Same state :=
  ⟨Keyed.sortByKey_perm _ _, Keyed.sortByKey_perm _ _, Keyed.sortByKey_perm _ _, .refl _⟩

theorem parsed_same (state : LiveState) : state.parsed.Same state :=
  ⟨Keyed.sortByKey_perm _ _, Keyed.sortByKey_perm _ _, Keyed.sortByKey_perm _ _,
    Keyed.sortByKey_perm _ _⟩

end LiveState

/-- The number that an id such as `Proxy7` spells: the prefix, then decimal digits,
of which `int` reads so many only (see `numericId`). -/
def nativeNumber (prefixText value : String) : Option Nat :=
  let digits := value.toList.drop prefixText.length
  if value.toList.take prefixText.length = prefixText.toList ∧ digits ≠ [] ∧
      digits.all isAsciiDigit then
    some (digits.foldl (fun n c => 10 * n + hexValue c) 0)
  else none

/-- The digits behind the prefix are more than `int` reads. -/
def Overlong (prefixText value : String) : Prop :=
  maxIntDigits < (value.toList.drop prefixText.length).length

instance (prefixText value : String) : Decidable (Overlong prefixText value) :=
  inferInstanceAs (Decidable (_ < _))

def numericId (value prefixText : String) (maximum : Nat) : Except LiveError Nat :=
  match nativeNumber prefixText value with
  | none => .error (liveAdapterError "An unexpected native object identifier was observed.")
  | some number =>
      if Overlong prefixText value then .error .valueError
      else if maximum < number then
        .error (liveAdapterError "A native object identifier is outside the supported range.")
      else .ok number

/-- The prefix and a number in range. -/
def IsNative (prefixText : String) (maximum : Nat) (objectId : String) : Prop :=
  ∃ number, nativeNumber prefixText objectId = some number ∧ number ≤ maximum

theorem numericId_eq_ok {value prefixText : String} {maximum number : Nat} :
    numericId value prefixText maximum = .ok number ↔
      nativeNumber prefixText value = some number ∧ ¬ Overlong prefixText value ∧
        number ≤ maximum := by
  unfold numericId
  cases nativeNumber prefixText value with
  | none => simp
  | some found =>
      by_cases hlong : Overlong prefixText value
      · simp [hlong]
      · by_cases hrange : maximum < found
        · simp only [if_neg hlong, if_pos hrange, reduceCtorEq, Option.some.injEq, false_iff]
          rintro ⟨rfl, -, hle⟩
          omega
        · simp only [if_neg hlong, if_neg hrange, Except.ok.injEq, Option.some.injEq]
          constructor
          · rintro rfl
            exact ⟨rfl, hlong, not_lt.mp hrange⟩
          · exact fun h => h.1

/-- An id is read where its number is in range and short enough for `int`. -/
theorem numericId_read {value prefixText : String} {maximum : Nat} :
    (∃ number, numericId value prefixText maximum = .ok number) ↔
      IsNative prefixText maximum value ∧ ¬ Overlong prefixText value := by
  simp only [numericId_eq_ok, IsNative]
  constructor
  · rintro ⟨number, hnumber, hlong, hle⟩
    exact ⟨⟨number, hnumber, hle⟩, hlong⟩
  · rintro ⟨⟨number, hnumber, hle⟩, hlong⟩
    exact ⟨number, hnumber, hlong, hle⟩

/-- The numbers taken by the existing objects. -/
def usedNumbers (prefixText : String) (maximum : Nat) :
    List String → Except LiveError (List Nat)
  | [] => pure []
  | value :: rest => do
      let number ← numericId value prefixText maximum
      let more ← usedNumbers prefixText maximum rest
      pure (number :: more)

/-- `_next_free` goes through a set, and here through the ids in the order of the
state, which may be any: it decides which of two faulty ids is reported. -/
def nextFree (existing : List String) (prefixText : String) (maximum : Nat) :
    Except LiveError String := do
  let used ← usedNumbers prefixText maximum existing
  match (List.range (maximum + 1)).find? (· ∉ used) with
  | some number => pure (prefixText ++ toString number)
  | none => throw (liveAdapterError ("No free native " ++ prefixText ++ " slots remain."))

private theorem usedNumbers_mem {prefixText : String} {maximum : Nat} {existing : List String}
    {used : List Nat} (h : usedNumbers prefixText maximum existing = .ok used)
    {value : String} (hvalue : value ∈ existing) {number : Nat}
    (hnumber : numericId value prefixText maximum = .ok number) : number ∈ used := by
  induction existing generalizing used with
  | nil => simp at hvalue
  | cons first rest ih =>
      simp only [usedNumbers, bind_eq_ok, pure_eq_ok] at h
      obtain ⟨firstNumber, hfirst, more, hmore, rfl⟩ := h
      rcases List.mem_cons.mp hvalue with rfl | hrest
      · rw [hfirst] at hnumber
        exact Except.ok.inj hnumber ▸ List.mem_cons_self
      · exact List.mem_cons_of_mem _ (ih hmore hrest)

theorem nextFree_eq_ok {existing : List String} {prefixText : String} {maximum : Nat}
    {value : String} (h : nextFree existing prefixText maximum = .ok value) :
    ∃ used number, usedNumbers prefixText maximum existing = .ok used ∧ number ≤ maximum ∧
      number ∉ used ∧ value = prefixText ++ toString number := by
  simp only [nextFree, bind_eq_ok] at h
  obtain ⟨used, hused, h⟩ := h
  split at h
  · next number hfind =>
    have hmem := List.mem_of_find?_eq_some hfind
    have hfree := List.find?_some hfind
    exact ⟨used, number, hused, Nat.lt_succ_iff.mp (List.mem_range.mp hmem), by simpa using hfree,
      (pure_eq_ok.mp h).symm⟩
  · simp at h

/-- The id an unused number spells is an id of its kind, and no existing
object has it. -/
private theorem nextFree_fresh {existing : List String} {prefixText value : String}
    {maximum : Nat}
    (hrender : ∀ number < maximum + 1,
      numericId (prefixText ++ toString number) prefixText maximum = .ok number)
    (h : nextFree existing prefixText maximum = .ok value) :
    value ∉ existing ∧ ∃ number, numericId value prefixText maximum = .ok number := by
  obtain ⟨used, number, hused, hle, hfree, rfl⟩ := nextFree_eq_ok h
  have hnumber := hrender number (Nat.lt_succ_iff.mpr hle)
  exact ⟨fun hmem => hfree (usedNumbers_mem hused hmem hnumber), number, hnumber⟩

theorem nextFree_proxy {existing : List String} {value : String}
    (h : nextFree existing "Proxy" maxProxyIndex = .ok value) :
    value ∉ existing ∧ ∃ number, numericId value "Proxy" maxProxyIndex = .ok number :=
  nextFree_fresh (by decide) h

theorem nextFree_policy {existing : List String} {value : String}
    (h : nextFree existing "Policy" maxPolicyIndex = .ok value) :
    value ∉ existing ∧ ∃ number, numericId value "Policy" maxPolicyIndex = .ok number :=
  nextFree_fresh (by decide) h

end RouterKit.Netcraze
