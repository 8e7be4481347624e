import RouterKit.Devices.Inventory

/-!
Choosing one of the listed devices by its number.
-/

namespace RouterKit.Devices

/-- The reason is given with either verdict. -/
def selectionReadiness (result : DiscoveryResult) : Bool × String :=
  if result.adapterState ≠ .supported then
    (false, "device evidence is not complete and trusted")
  else if result.errors ≠ [] then
    (false, "device evidence contains sanitized adapter errors")
  else if result.sources.any (·.state ≠ .supported) then
    (false, "device evidence includes degraded sources")
  else (true, "device evidence is complete and trusted")

/-- A selection that names a device has one. -/
structure DeviceSelection where
  selected : Bool
  token : Option String := none
  device : Option NormalizedDevice := none
  reason : String := "no device assignment"
  assigned : selected = true → device.isSome = true

/-- `selection_token`, on what the token factory returned. -/
def selectionToken (drawn : String) : String :=
  "routerkit-device-selection-v1:" ++ drawn

def selectDevice (result : DiscoveryResult) (choice : Option Int) (drawn : String) :
    Except Raised DeviceSelection :=
  match choice with
  | none | some 0 => .ok { selected := false, assigned := nofun }
  | some choice =>
      if choice < 0 then .error (.selection "Device selection index is out of range.")
      else if !(selectionReadiness result).1 then
        .error (.selection
          ("Device selection is unavailable: " ++ (selectionReadiness result).2 ++ "."))
      else
        match result.devices[choice.toNat - 1]? with
        | none => .error (.selection "Device selection index is out of range.")
        | some device =>
            if !device.selectable then
              .error (.selection ("Device cannot be selected: " ++
                (present device.selectionBlockReason).getD "ambiguous device" ++ "."))
            else
              .ok {
                selected := true
                token := some (selectionToken drawn)
                device := some device
                reason := "explicit device selected"
                assigned := fun _ => rfl }

/-- A selected device is the selectable one of that number, of evidence that is
complete. -/
theorem selectDevice_selected {result : DiscoveryResult} {choice : Option Int} {drawn : String}
    {selection : DeviceSelection} (h : selectDevice result choice drawn = .ok selection)
    (hselected : selection.selected = true) :
    ∃ number device, choice = some number ∧ 0 < number ∧ selection.device = some device ∧
      result.devices[number.toNat - 1]? = some device ∧ device.selectable = true ∧
      result.adapterState = .supported ∧ result.errors = [] ∧
      ∀ source ∈ result.sources, source.state = .supported := by
  unfold selectDevice at h
  split at h
  · cases h
    cases hselected
  · cases h
    cases hselected
  · next number hnonzero =>
    split at h
    · cases h
    · next hnonneg =>
      split at h
      · cases h
      · next hready =>
        split at h
        · cases h
        · next device hdevice =>
          split at h
          · cases h
          · next hselectable =>
            cases h
            have hpositive : 0 < number := lt_of_le_of_ne (not_lt.mp hnonneg) fun hzero =>
              hnonzero hzero.symm
            refine ⟨number, device, rfl, hpositive, rfl, hdevice, by simpa using hselectable, ?_⟩
            unfold selectionReadiness at hready
            split at hready
            · simp at hready
            · next hadapter =>
              split at hready
              · simp at hready
              · next herrors =>
                split at hready
                · simp at hready
                · next hsources =>
                  exact ⟨not_not.mp hadapter, not_not.mp herrors, by simpa using hsources⟩

end RouterKit.Devices
