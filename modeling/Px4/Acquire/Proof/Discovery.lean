import Px4.Acquire.Proof.Calls

/-!
# Finding the devices leaves nothing open

Every part of the discovery holds after it what was held before.
-/

namespace Px4.Acquire

open Lib.Program (After)
open Lib.Custody (Item)
open Px4.Device

variable {α β : Type}

/-- The calls do not stop early, and what is held after them is what was held before. -/
def Quiet (x : Calls α) : Prop :=
  ∀ (usb : Usb) (items : List (Item Handle Fd)) (R : Error → Usb → Prop), Tracked usb items →
    After x usb (fun _ usb' => Tracked usb' items) R

namespace Quiet

theorem pure (a : α) : Quiet (Pure.pure a) := fun _ _ _ h => h

theorem bind {x : Calls α} {f : α → Calls β} (hx : Quiet x) (hf : ∀ a, Quiet (f a)) :
    Quiet (x >>= f) := by
  intro usb items R h
  rw [Lib.Program.after_bind]
  exact (hx usb items R h).mono (fun a usb' h' => hf a usb' items R h') fun _ _ h' => h'

/-- A call that opens, claims, releases and closes nothing. -/
theorem ask {q : Ask} (hq : ∀ answer, event ⟨q, answer⟩ = none) : Quiet (ask q) :=
  fun _ _ _ h => after_quiet hq h

end Quiet

theorem observeTopology_quiet (device : Device) : Quiet (observeTopology device) := by
  refine (Quiet.ask fun _ => rfl).bind fun ⟨getResult, descriptor⟩ => ?_
  dsimp only
  split
  · cases descriptor with
    | false => exact .pure _
    | true => exact (Quiet.ask fun _ => rfl).bind fun _ => .pure _
  · split
    · exact .pure _
    · refine (Quiet.ask fun _ => rfl).bind fun ⟨describeResult, topology⟩ => ?_
      exact (Quiet.ask fun _ => rfl).bind fun _ => .pure _

theorem readSerial_quiet (handle : Handle) (index : UInt8) : Quiet (readSerial handle index) :=
  (Quiet.ask fun _ => rfl).bind fun _ => .pure _

theorem observeWrappedHandle_quiet (handle : Handle) : Quiet (observeWrappedHandle handle) := by
  refine (Quiet.ask fun _ => rfl).bind fun ⟨result, device⟩ => ?_
  dsimp only
  split
  · exact .pure _
  · refine (Quiet.ask fun _ => rfl).bind fun ⟨result, observation, serialIndex⟩ => ?_
    dsimp only
    split
    · exact .pure _
    · split
      · exact .pure _
      · refine (readSerial_quiet handle serialIndex).bind fun serial => ?_
        cases serial with
        | error result => exact .pure _
        | ok serial =>
          refine (observeTopology_quiet device).bind fun topology => ?_
          cases topology with
          | error e => exact .pure _
          | ok topology => exact .pure _

/-- The handle that is opened to read a serial is closed again. -/
theorem discoverSerial_quiet (platform : Platform) (device : Device)
    (observation : DeviceObservation) (serialIndex : UInt8) :
    Quiet (discoverSerial platform device observation serialIndex) := by
  intro usb items R h
  have hclose : ∀ (handle : Handle) (usb' : Usb),
      Tracked usb' (⟨none, some handle, false⟩ :: items) →
        After (letGo (some handle) false) usb' (fun _ usb' => Tracked usb' items) R := by
    intro handle usb' h'
    exact (after_letGo h').mono (fun _ _ h' => Tracked.empty_iff.1 h') fun _ _ h => h
  rw [discoverSerial, Lib.Program.after_bind]
  refine (after_openDevice h device).mono ?_ fun _ _ h => h
  rintro ⟨openResult, handle⟩ usb₁ h₁
  cases handle with
  | none => exact Tracked.empty_iff.1 h₁
  | some handle =>
    dsimp only
    split
    · rw [Lib.Program.after_bind]
      exact hclose handle usb₁ h₁
    · rw [Lib.Program.after_bind]
      refine (readSerial_quiet handle serialIndex usb₁ _ R h₁).mono ?_ fun _ _ h => h
      intro serial usb₂ h₂
      rw [Lib.Program.after_bind]
      refine (hclose handle usb₂ h₂).mono (fun _ usb₃ h₃ => ?_) fun _ _ h => h
      cases serial with
      | error result => exact h₃
      | ok serial => exact h₃

theorem discoverDevice_quiet (platform : Platform) (index : Nat) :
    Quiet (discoverDevice platform index) := by
  refine (Quiet.ask fun _ => rfl).bind fun device => ?_
  refine (Quiet.ask fun _ => rfl).bind fun ⟨infoResult, observation, serialIndex⟩ => ?_
  dsimp only
  split
  · exact .pure _
  · split
    · exact .pure _
    · split
      · exact .pure _
      · refine (observeTopology_quiet device).bind fun topology => ?_
        cases topology with
        | error e => exact .pure _
        | ok topology => exact (discoverSerial_quiet _ _ _ _).bind fun _ => .pure _

theorem discoverAll_quiet (platform : Platform) (indices : List Nat) :
    Quiet (discoverAll platform indices) := by
  induction indices with
  | nil => exact .pure _
  | cons index indices ih =>
    exact (discoverDevice_quiet platform index).bind fun _ => ih.bind fun _ => .pure _

/-- **The discovery**, also when there is no list. -/
theorem after_discover {usb : Usb} {items : List (Item Handle Fd)} (h : Tracked usb items)
    (platform : Platform) :
    After (discover platform) usb (fun _ usb' => Tracked usb' items)
      fun _ usb' => Tracked usb' items := by
  rw [discover, Lib.Program.after_bind]
  refine (after_quiet (fun _ => rfl) h).mono ?_ fun _ _ h => h
  rintro ⟨listResult, list, count⟩ usb₁ h₁
  dsimp only
  split
  · exact h₁
  · rw [Lib.Program.after_bind]
    exact discoverAll_quiet platform _ usb₁ items _ h₁

theorem destroy_quiet (discovery : DeviceDiscovery) : Quiet discovery.destroy := by
  unfold DeviceDiscovery.destroy
  split
  · exact .ask fun _ => rfl
  · exact .pure _

end Px4.Acquire
