import RouterKit.Netcraze.ConfigRead
import Mathlib.Data.List.Infix

/-!
What a running configuration can be read as. Whatever text is read, the objects
carry native ids, the assignments are of normalized unicast addresses to native
policies, and only lines that speak of a default policy are guarded.
-/

namespace RouterKit.Netcraze

open RouterKit.Lib.Checked RouterKit.Lib.PyText
open RouterKit.Devices RouterKit.Lib

/-- What the reader promises of the state it returns. -/
structure LiveState.WellFormed (state : LiveState) : Prop where
  proxies : ∀ proxy ∈ state.proxies, (nativeNumber "Proxy" proxy.objectId).isSome = true
  policies : ∀ policy ∈ state.policies, (nativeNumber "Policy" policy.objectId).isSome = true
  assignments : ∀ entry ∈ state.assignments, normalizeTrustedDeviceMac entry.1 = .ok entry.1 ∧
    (nativeNumber "Policy" entry.2).isSome = true
  defaultGuard : ∀ line ∈ state.defaultGuard, "default-policy".toList <:+: line.toList

def OpenObject.IsNative : OpenObject → Prop
  | .proxy proxyId => (nativeNumber "Proxy" proxyId).isSome = true
  | .policy policyId => (nativeNumber "Policy" policyId).isSome = true

/-- The invariant of the loop: the open object is native, too. -/
structure ConfigReading.WellFormed (reading : ConfigReading) : Prop where
  state : reading.state.WellFormed
  current : ∀ object ∈ reading.current, object.IsNative

theorem interfaceId_native {line : List Char} {proxyId : String}
    (h : interfaceId line = some proxyId) : (nativeNumber "Proxy" proxyId).isSome = true := by
  unfold interfaceId at h
  split at h
  · split at h
    · next hmatch =>
      cases h
      exact hmatch.2
    · cases h
  · cases h

theorem policySectionId_native {line : List Char} {policyId : String}
    (h : policySectionId line = some policyId) :
    (nativeNumber "Policy" policyId).isSome = true := by
  unfold policySectionId at h
  split at h
  · split at h
    · next hmatch =>
      cases h
      exact hmatch.2.2
    · cases h
  · cases h

theorem hostAssignment_native {parts : List (List Char)} {mac policyId : String}
    (h : hostAssignment parts = some (mac, policyId)) :
    (nativeNumber "Policy" policyId).isSome = true := by
  unfold hostAssignment at h
  split at h
  · split at h
    · next hmatch =>
      cases h
      exact hmatch.2.2.2.2
    · cases h
  · cases h

theorem lineAssignment_native {line : List Char} {mac policyId : String}
    (h : lineAssignment line = some (mac, policyId)) :
    (nativeNumber "Policy" policyId).isSome = true := by
  unfold lineAssignment at h
  split at h
  · split at h <;> exact hostAssignment_native h
  · cases h

section Changes

variable {α κ : Type} [DecidableEq κ] {key : α → κ} {fresh : α} {f : α → α} {entries : List α}

/-- What holds of every entry, and of the touched one, holds after the touch. -/
private theorem forall_touch {P : α → Prop} (hfresh : P (f fresh))
    (hkept : ∀ a ∈ entries, P a → P (f a)) (h : ∀ a ∈ entries, P a) :
    ∀ a ∈ Keyed.touch key fresh f entries, P a := by
  unfold Keyed.touch
  split
  · intro b hb
    obtain ⟨a, ha, rfl⟩ := List.mem_map.mp hb
    split
    · exact hkept a ha (h a ha)
    · exact h a ha
  · intro b hb
    rcases List.mem_append.mp hb with hold | hnew
    · exact h b hold
    · exact List.mem_singleton.mp hnew ▸ hfresh

end Changes

namespace LiveState.WellFormed

variable {state : LiveState} (h : state.WellFormed)
include h

theorem touchProxy {proxyId : String} (hnative : (nativeNumber "Proxy" proxyId).isSome = true)
    (f : ProxyState → ProxyState) (hf : ∀ proxy, (f proxy).objectId = proxy.objectId) :
    (state.touchProxy proxyId f hf).WellFormed := by
  refine { h with proxies := forall_touch ?_ (fun proxy _ hproxy => ?_) h.proxies }
  · rw [hf]
    exact hnative
  · rw [hf]
    exact hproxy

theorem touchPolicy {policyId : String} (hnative : (nativeNumber "Policy" policyId).isSome = true)
    (f : PolicyState → PolicyState) (hf : ∀ policy, (f policy).objectId = policy.objectId) :
    (state.touchPolicy policyId f hf).WellFormed := by
  refine { h with policies := forall_touch ?_ (fun policy _ hpolicy => ?_) h.policies }
  · rw [hf]
    exact hnative
  · rw [hf]
    exact hpolicy

theorem assign {deviceMac policyId : String}
    (hmac : normalizeTrustedDeviceMac deviceMac = .ok deviceMac)
    (hnative : (nativeNumber "Policy" policyId).isSome = true) :
    (state.assign deviceMac policyId).WellFormed := by
  have hall : ∀ entry ∈ Keyed.touch Prod.fst (deviceMac, "") (fun entry => (entry.1, policyId))
      state.assignments, normalizeTrustedDeviceMac entry.1 = .ok entry.1 ∧
        (nativeNumber "Policy" entry.2).isSome = true :=
    forall_touch ⟨hmac, hnative⟩ (fun _ _ hentry => ⟨hentry.1, hnative⟩) h.assignments
  exact { h with assignments := hall }

theorem guardLine (line : List Char) : (state.guardLine line).WellFormed := by
  refine { h with defaultGuard := fun guarded hguarded => ?_ }
  rcases List.mem_append.mp hguarded with hold | hnew
  · exact h.defaultGuard guarded hold
  · split at hnew
    · next hspeaks =>
      obtain rfl := List.mem_singleton.mp hnew
      have htext : (String.ofList line).toList = line := String.toList_ofList
      rwa [htext]
    · cases hnew

/-- Reading back puts the same objects in order. -/
theorem parsed : state.parsed.WellFormed where
  proxies := fun proxy hproxy =>
    h.proxies proxy ((LiveState.parsed_same state).proxies.mem_iff.mp hproxy)
  policies := fun policy hpolicy =>
    h.policies policy ((LiveState.parsed_same state).policies.mem_iff.mp hpolicy)
  assignments := fun entry hentry =>
    h.assignments entry ((LiveState.parsed_same state).assignments.mem_iff.mp hentry)
  defaultGuard := fun line hline =>
    h.defaultGuard line ((LiveState.parsed_same state).defaultGuard.mem_iff.mp hline)

end LiveState.WellFormed

/-- A line that opens nothing leaves a well formed reading behind. -/
private theorem stays {reading : ConfigReading} (h : reading.WellFormed) {state : LiveState}
    (hstate : state.WellFormed) : ({ reading with state } : ConfigReading).WellFormed :=
  ⟨hstate, h.current⟩

theorem readLine_wellFormed {classes : TextClasses} {reading next : ConfigReading}
    {line : List Char} (h : reading.WellFormed)
    (hread : readLine classes reading line = .ok next) : next.WellFormed := by
  unfold readLine at hread
  split at hread
  · cases hread
    exact ⟨h.state, by simp⟩
  split at hread
  · next proxyId hproxy =>
    cases hread
    have hnative := interfaceId_native hproxy
    refine ⟨h.state.touchProxy hnative _ proxy_opened, ?_⟩
    rintro _ ⟨⟩
    exact hnative
  split at hread
  · next policyId hpolicy =>
    cases hread
    have hnative := policySectionId_native hpolicy
    refine ⟨h.state.touchPolicy hnative _ policy_opened, ?_⟩
    rintro _ ⟨⟩
    exact hnative
  split at hread
  · next mac policyId hassignment =>
    split at hread
    · next deviceMac hmac =>
      cases hread
      exact stays h (h.state.assign (normalizeTrustedDeviceMac_idem hmac)
        (lineAssignment_native hassignment))
    · cases hread
  have hguarded := h.state.guardLine line
  simp only at hread
  split at hread
  · next proxyId hcurrent =>
    have hnative : (nativeNumber "Proxy" proxyId).isSome = true := h.current _ hcurrent
    obtain ⟨field, -, hread⟩ := bind_eq_ok.mp hread
    cases field with
    | none =>
        cases hread
        exact stays h hguarded
    | some field =>
        cases hread
        exact stays h (hguarded.touchProxy hnative _ _)
  · next policyId hcurrent =>
    have hnative : (nativeNumber "Policy" policyId).isSome = true := h.current _ hcurrent
    split at hread
    · cases hread
      exact stays h (hguarded.touchPolicy hnative _ _)
    · cases hread
      exact stays h hguarded
  · cases hread
    exact stays h hguarded

/-- Every configuration that is read, whatever its lines, is read as a state with
native ids, normalized unicast addresses and a guard of default-policy lines. -/
theorem parseRunningConfig_wellFormed (classes : TextClasses) {text : String} {state : LiveState}
    (h : parseRunningConfig classes text = .ok state) : state.WellFormed := by
  obtain ⟨reading, hreading, hstate⟩ := bind_eq_ok.mp h
  obtain rfl := pure_eq_ok.mp hstate
  have hstart : ConfigReading.WellFormed { state := .nothing, current := none } :=
    ⟨⟨by simp [LiveState.nothing], by simp [LiveState.nothing], by simp [LiveState.nothing],
      by simp [LiveState.nothing]⟩, by simp⟩
  have hfinal := foldlM_invariant (P := fun _ reading => reading.WellFormed)
    (fun _ _ _ _ hcurrent hnext => readLine_wellFormed hcurrent hnext) hstart hreading
  exact hfinal.state.parsed

theorem parseRunningConfig_wellFormed_assigned : ∃ state,
    parseRunningConfig asciiClasses
      "interface Proxy3\nup\n!\nip policy Policy0\n!\nhost 02:AA:BB:0C:DD:EE policy Policy0\n" =
        .ok state ∧
    state.proxies.map (·.objectId) = ["Proxy3"] ∧ state.WellFormed := by
  have hread : (match parseRunningConfig asciiClasses
      "interface Proxy3\nup\n!\nip policy Policy0\n!\nhost 02:AA:BB:0C:DD:EE policy Policy0\n" with
    | .ok state => decide (state.proxies.map (·.objectId) = ["Proxy3"])
    | .error _ => false) = true := by decide +kernel
  split at hread
  · next state hstate =>
    exact ⟨state, hstate, of_decide_eq_true hread, parseRunningConfig_wellFormed _ hstate⟩
  · cases hread

end RouterKit.Netcraze
