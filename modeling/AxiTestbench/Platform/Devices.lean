import AxiTestbench.Interrupt.Clint
import AxiTestbench.Interrupt.Gateways
import AxiTestbench.Platform.Settle
import AxiTestbench.Uart.Device

/-!
# The devices of the platform as settling devices

`settle()` of the UART, the CLINT and the PLIC changes the device's own state as a function
of that state and of the inputs, and settling twice is settling once.
-/

namespace AxiTestbench

open Lib

/-- Output `0` is `irq`. -/
def UartDevice.settling (config : UartConfig) : Settling where
  State := UartDevice
  settle device _ := device.settle config
  output device _ := device.irq
  settle_settle _ _ := rfl

/-- The outputs are `mtime`, `mtip` and `msip`. -/
def Clint.settling : Settling where
  State := Clint
  settle device _ := device.settle
  output device signal :=
    if signal = 0 then device.time else if signal = 1 then device.timer else device.software
  settle_settle _ _ := rfl

namespace Plic

theorem ext_gateways {left right : Plic} (priority : left.priority = right.priority)
    (threshold : left.threshold = right.threshold) (enables : left.enables = right.enables)
    (gateways : ∀ source, left.gateway source = right.gateway source)
    (irqs : left.irqs = right.irqs) : left = right := by
  have pending : left.pending = right.pending :=
    funext fun source => congrArg Gateway.State.pending (gateways source)
  have busy : left.busy = right.busy :=
    funext fun source => congrArg Gateway.State.busy (gateways source)
  cases left
  cases right
  simp_all

/-- The loop of `settle` changes the gateways only. -/
theorem foldl_trigger (inputs : Nat → UInt64) (sources : List Nat) (device : Plic) :
    (sources.foldl (trigger inputs) device).priority = device.priority ∧
      (sources.foldl (trigger inputs) device).threshold = device.threshold ∧
      (sources.foldl (trigger inputs) device).enables = device.enables ∧
      (sources.foldl (trigger inputs) device).irqs = device.irqs := by
  induction sources generalizing device with
  | nil => exact ⟨rfl, rfl, rfl, rfl⟩
  | cons source sources ih =>
      have one : (trigger inputs device source).priority = device.priority ∧
          (trigger inputs device source).threshold = device.threshold ∧
          (trigger inputs device source).enables = device.enables ∧
          (trigger inputs device source).irqs = device.irqs := by
        rw [trigger]
        split
        · exact ⟨rfl, rfl, rfl, rfl⟩
        · exact ⟨rfl, rfl, rfl, rfl⟩
      obtain ⟨priority, threshold, enables, irqs⟩ := ih (trigger inputs device source)
      exact ⟨priority.trans one.1, threshold.trans one.2.1, enables.trans one.2.2.1,
        irqs.trans one.2.2.2⟩

theorem notify_notify (shape : PlicShape) (device : Plic) :
    (device.notify shape).notify shape = device.notify shape := by
  refine ext_gateways rfl rfl rfl (fun source => rfl) (funext fun context => ?_)
  rw [notify, notify]
  simp only
  split
  · rfl
  · rfl

/-- A settled controller samples nothing new. -/
theorem foldl_trigger_notify (shape : PlicShape) (inputs : Nat → UInt64) (sources : List Nat)
    (nodup : sources.Nodup) (device : Plic) :
    sources.foldl (trigger inputs) ((sources.foldl (trigger inputs) device).notify shape) =
      (sources.foldl (trigger inputs) device).notify shape := by
  obtain ⟨priority, threshold, enables, irqs⟩ := foldl_trigger inputs sources
    ((sources.foldl (trigger inputs) device).notify shape)
  refine ext_gateways priority threshold enables (fun source => ?_) irqs
  rw [gateway_foldl_trigger inputs sources nodup, gateway_notify,
    gateway_foldl_trigger inputs sources nodup]
  by_cases member : source ∈ sources
  · rw [if_pos member, if_pos member, Gateway.State.sample_sample]
  · rw [if_neg member, if_neg member]

theorem settle_settle (shape : PlicShape) (device : Plic) (inputs : Nat → UInt64) :
    (device.settle shape inputs).settle shape inputs = device.settle shape inputs := by
  rw [settle, settle, foldl_trigger_notify shape inputs _ List.nodup_range', notify_notify]

/-- The outputs are the contexts. -/
def settling (shape : PlicShape) : Settling where
  State := Plic
  settle device inputs := device.settle shape inputs
  output device context := device.irqs context
  settle_settle := settle_settle shape

end Plic

end AxiTestbench
