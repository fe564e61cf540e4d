import AxiTestbench.Elf.Storage
import AxiTestbench.Exit
import AxiTestbench.Interrupt.Timer
import AxiTestbench.Platform.Devices
import AxiTestbench.Platform.Machine

/-!
# The classes of devices

The virtual functions of the six classes that the repository registers, put together from the
models of the devices.
-/

namespace AxiTestbench

open Lib

/-- The code of `RomDevice::read_impl` is that of `RamDevice`. -/
def RomDevice.readImpl (rom : RomDevice) (offset : Nat) (enable : List UInt8) :
    Response × List UInt8 :=
  ({ bytes := rom.bytes } : RamDevice).readImpl offset enable

/-- Writes are refused inside and outside the memory. -/
def RomDevice.writeImpl (rom : RomDevice) (offset : Nat) (data _strobe : List UInt8) : Response :=
  if inBounds offset data.length rom.bytes.length then .slaveError else .slaveError

/-- A class without sidebands. -/
def plainSettling (State : Type) : Settling where
  State
  settle state _ := state
  output _ _ := 0
  settle_settle _ _ := rfl

def RomDevice.deviceClass : DeviceClass where
  toSettling := plainSettling RomDevice
  readImpl rom _ offset enable := (rom, rom.readImpl offset enable)
  writeImpl rom _ offset data strobe := (rom, rom.writeImpl offset data strobe)
  supportsBurst := true
  loadable := true
  canLoad := RomDevice.canLoad
  load := RomDevice.load
  load_settle _ _ _ _ _ := rfl

def RamDevice.deviceClass : DeviceClass where
  toSettling := plainSettling RamDevice
  readImpl ram _ offset enable := (ram, ram.readImpl offset enable)
  writeImpl ram _ offset data strobe := ram.writeImpl offset data strobe
  supportsExclusive := true
  supportsBurst := true
  loadable := true
  canLoad := RamDevice.canLoad
  load := RamDevice.load
  load_settle _ _ _ _ _ := rfl

def UartDevice.deviceClass (config : UartConfig) (host : Nat → Option UInt8) : DeviceClass where
  toSettling := UartDevice.settling config
  reset device _ := device.reset
  tick device _ := device.tick config host
  readImpl device _ offset enable := device.readImpl config host offset enable
  writeImpl device _ offset data strobe := device.writeImpl config offset data strobe

def ExitDevice.deviceClass : DeviceClass where
  toSettling := plainSettling ExitDevice
  reset device _ := device.clear
  readImpl device _ offset enable := (device, device.readImpl offset enable)
  writeImpl device _ offset data strobe := device.writeImpl offset data strobe
  isExit := true
  exitCode device := device.code

def Clint.deviceClass (divider : UInt64) : DeviceClass where
  toSettling := Clint.settling
  reset device _ := device.reset
  tick device _ := device.tick divider
  readImpl device _ offset enable := (device, device.readImpl offset enable)
  writeImpl device _ offset data strobe := device.writeImpl offset data strobe

def Plic.deviceClass (shape : PlicShape) : DeviceClass where
  toSettling := Plic.settling shape
  reset device _ := device.reset
  readImpl device _ offset enable := device.readImpl shape offset enable
  writeImpl device inputs offset data strobe := device.writeImpl shape inputs offset data strobe

/-- An object that a factory has created. -/
inductive DeviceObject where
  | rom (device : RomDevice)
  | ram (device : RamDevice)
  | uart (config : UartConfig) (host : Nat → Option UInt8)
  | exit
  | clint (divider : UInt64)
  | plic (shape : PlicShape)

namespace DeviceObject

def deviceClass : DeviceObject → DeviceClass
  | .rom _ => RomDevice.deviceClass
  | .ram _ => RamDevice.deviceClass
  | .uart config host => UartDevice.deviceClass config host
  | .exit => ExitDevice.deviceClass
  | .clint divider => Clint.deviceClass divider
  | .plic shape => Plic.deviceClass shape

/-- The state in which the constructor leaves the object.  `Clint` and `Plic` call `reset()`,
which assigns every register. -/
def initial : (object : DeviceObject) → object.deviceClass.State
  | .rom device => device
  | .ram device => device
  | .uart _ _ => UartDevice.fresh
  | .exit => ({} : ExitDevice)
  | .clint _ => Clint.reset ⟨0, 0, 0, 0, 0⟩
  | .plic _ => Plic.reset ⟨fun _ => 0, fun _ => 0, fun _ _ => 0, fun _ => false, fun _ => false,
      fun _ => 0⟩

end DeviceObject

/-- The device with this id belongs to a class and is in this state. -/
def Platform.Holds (platform : Platform) (world : platform.World) (id : String)
    (device : DeviceClass) (state : device.State) : Prop :=
  ∃ same : platform.devices id = device, cast (congrArg (fun d => d.State) same) (world id) = state

end AxiTestbench
