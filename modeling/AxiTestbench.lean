import AxiTestbench.Lib.Outcome
import AxiTestbench.RingBuffer
import AxiTestbench.Lib.Arithmetic
import AxiTestbench.BurstCursor
import AxiTestbench.Device
import AxiTestbench.Ram
import AxiTestbench.Exit
import AxiTestbench.Lib.Transition
import AxiTestbench.Fabric.State
import AxiTestbench.Fabric.Step
import AxiTestbench.Fabric.Routing
import AxiTestbench.Fabric.Access
import AxiTestbench.Fabric.Commit
import AxiTestbench.Fabric.Wires
import AxiTestbench.Fabric.Conservation
import AxiTestbench.Fabric.Subordinate
import AxiTestbench.Fabric.Soundness
import AxiTestbench.Fabric.Service
import AxiTestbench.Fabric.Effects
import AxiTestbench.Lib.Overlay
import AxiTestbench.Fabric.Memory
import AxiTestbench.Fabric.Reservation
import AxiTestbench.Fabric.Exclusivity
import AxiTestbench.Fabric.Unmapped
import AxiTestbench.Fabric.Reset
import AxiTestbench.Fabric.Stability
import AxiTestbench.Fabric.Integrity
import AxiTestbench.Fabric.Arbitration
import AxiTestbench.Fabric.Calls
import AxiTestbench.AddressMap
import AxiTestbench.Fabric.Drain
import AxiTestbench.Fabric.Exit
import AxiTestbench.Elf.Reader
import AxiTestbench.Elf.Storage
import AxiTestbench.Lib.Intervals
import AxiTestbench.Elf.Plan
import AxiTestbench.Elf.Format
import AxiTestbench.Elf.Loading
import AxiTestbench.Elf.Encoding
import AxiTestbench.Lib.Tiling
import AxiTestbench.Fabric.Bursts
import AxiTestbench.Fabric.Flattening
import AxiTestbench.Platform.Spec
import AxiTestbench.Lib.Kahn
import AxiTestbench.Platform.Connect
import AxiTestbench.Lib.Dataflow
import AxiTestbench.Platform.Settle
import AxiTestbench.Simulator
import AxiTestbench.Lib.Gateway
import AxiTestbench.Interrupt.Access
import AxiTestbench.Interrupt.Plic
import AxiTestbench.Interrupt.Gateways
import AxiTestbench.Uart.Device
import AxiTestbench.Uart.Events
import AxiTestbench.Lib.History
import AxiTestbench.Uart.Stream
import AxiTestbench.Uart.Interrupts
import AxiTestbench.Interrupt.Clint
import AxiTestbench.Platform.Devices
import AxiTestbench.Fabric.Legality
import AxiTestbench.Fabric.Ledger
import AxiTestbench.Lib.Numbering
import AxiTestbench.Fabric.Visibility
import AxiTestbench.Lib.ShiftXor
import AxiTestbench.Fabric.Throttle
import AxiTestbench.Packed
import AxiTestbench.Binding
import AxiTestbench.Uart.Service
import AxiTestbench.Uart.Polling
import AxiTestbench.Interrupt.Arbitration
import AxiTestbench.Interrupt.Lanes
import AxiTestbench.Interrupt.Timer
import AxiTestbench.Lib.Replay
import AxiTestbench.Fabric.Replay
import AxiTestbench.Lib.Foresight
import AxiTestbench.Fabric.Script
import AxiTestbench.Platform.Machine
import AxiTestbench.Platform.Kinds
import AxiTestbench.Platform.Boot
import AxiTestbench.Platform.Observed
import AxiTestbench.Platform.Contents
import AxiTestbench.Lib.Numerals
import AxiTestbench.Platform.Registry
import AxiTestbench.Platform.Factories
import AxiTestbench.Platform.Construct
import AxiTestbench.Platform.Startup
import AxiTestbench.Platform.Edit
import AxiTestbench.Platform.Rearrange
import AxiTestbench.Platform.Launch
import AxiTestbench.Platform.Fuxi
import AxiTestbench.Platform.CommandLine
import AxiTestbench.Fabric.Statistics
import AxiTestbench.Platform.Terminals
import AxiTestbench.Platform.Program
