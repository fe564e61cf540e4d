import AxiTestbench.Interrupt.Access

/-!
# The core-local interruptor

`Clint` of `interrupt_devices.cpp`: a timer with a compare register and a software interrupt
for one hart.
-/

namespace AxiTestbench

/-- The outputs `mtime`, `mtip` and `msip` are part of the state. -/
structure Clint where
  phase : UInt64
  compare : UInt64
  time : UInt64
  timer : UInt64
  software : UInt64

namespace Clint

def reset (_device : Clint) : Clint :=
  { phase := 0, compare := 0xffffffffffffffff, time := 0, timer := 0, software := 0 }

def settle (device : Clint) : Clint :=
  { device with timer := if device.time ≥ device.compare then 1 else 0 }

def tick (divider : UInt64) (device : Clint) : Clint :=
  if device.phase + 1 = divider then
    { device with phase := 0, time := device.time + 1 }.settle
  else
    { device with phase := device.phase + 1 }.settle

def timerRegister (address size : Nat) : Prop :=
  address = 0x4000 ∨ address = 0xbff8 ∨ size = 4 ∧ (address = 0x4004 ∨ address = 0xbffc)

instance (address size : Nat) : Decidable (timerRegister address size) :=
  inferInstanceAs (Decidable (_ ∨ _ ∨ _ ∧ (_ ∨ _)))

/-- The register that an address selects, and how far it is shifted. -/
def shift (address : Nat) : UInt64 := if address &&& 4 ≠ 0 then 32 else 0

def readImpl (device : Clint) (offset : Nat) (lanes : List UInt8) : Response × List UInt8 :=
  match access offset lanes with
  | none => (.slaveError, List.replicate lanes.length 0)
  | some found =>
      if found.size = 0 then
        (.okay, List.replicate lanes.length 0)
      else if found.address = 0 ∧ found.size = 4 then
        (.okay, found.put lanes.length device.software.toNat)
      else if timerRegister found.address found.size then
        let value := if found.address < 0x8000 then device.compare else device.time
        (.okay, found.put lanes.length (value >>> shift found.address).toNat)
      else
        (.slaveError, List.replicate lanes.length 0)

/-- A write of a whole timer register or of one half of it. -/
def merge (target value : UInt64) (address size : Nat) : UInt64 :=
  if size = 8 then value
  else (target &&& ~~~(0xffffffff <<< shift address)) ||| value <<< shift address

def writeImpl (device : Clint) (offset : Nat) (data lanes : List UInt8) : Clint × Response :=
  match access offset lanes with
  | none => (device, .slaveError)
  | some found =>
      let value := UInt64.ofNat (found.get data)
      if found.size = 0 then
        (device, .okay)
      else if found.address = 0 ∧ found.size = 4 then
        ({ device with software := value &&& 1 }.settle, .okay)
      else if timerRegister found.address found.size then
        if found.address < 0x8000 then
          ({ device with
              compare := merge device.compare value found.address found.size }.settle, .okay)
        else
          ({ device with
              time := merge device.time value found.address found.size }.settle, .okay)
      else
        (device, .slaveError)

end Clint

end AxiTestbench
