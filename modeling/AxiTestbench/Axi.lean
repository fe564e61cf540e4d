import Mathlib.Data.Fintype.Pi

/-!
# AXI payloads, responses and errors

The data types of `axi.hpp`: response and burst codes, the payloads of the five
channels, the sampled and driven signal bundles, and the exceptions raised by
the fabric.  Fixed-width fields keep their C++ width; a byte array indexed by a
bus lane is a function on `Fin dataBytes`.
-/

namespace AxiTestbench

inductive Response where
  | okay
  | exclusiveOkay
  | slaveError
  | decodeError
  deriving DecidableEq, Repr

inductive Burst where
  | fixed
  | increment
  | wrap
  | reserved
  deriving DecidableEq, Repr

/-- One byte for every lane of a data bus. -/
abbrev Lanes (dataBytes : Nat) := Fin dataBytes → UInt8

/-- An AW or AR payload.  The defaults are those of the C++ member
initializers. -/
structure AddressPayload where
  id : UInt64 := 0
  address : UInt64 := 0
  length : UInt8 := 0
  size : UInt8 := 0
  burst : Burst := .increment
  lock : Bool := false
  cache : UInt8 := 0
  protection : UInt8 := 0
  deriving DecidableEq, Inhabited

/-- A W payload.  A nonzero strobe entry enables its lane. -/
structure WriteDataPayload (dataBytes : Nat) where
  data : Lanes dataBytes := fun _ => 0
  strobe : Lanes dataBytes := fun _ => 0
  last : Bool := false
  deriving DecidableEq

structure ReadDataPayload (dataBytes : Nat) where
  id : UInt64 := 0
  data : Lanes dataBytes := fun _ => 0
  response : Response := .okay
  last : Bool := false

structure WriteResponsePayload where
  id : UInt64 := 0
  response : Response := .okay
  exitResponse : Bool := false
  exitCode : UInt32 := 0

instance {dataBytes : Nat} : Inhabited (WriteDataPayload dataBytes) := ⟨{}⟩
instance {dataBytes : Nat} : Inhabited (ReadDataPayload dataBytes) := ⟨{}⟩
instance : Inhabited WriteResponsePayload := ⟨{}⟩

/-- Signals of one port that are driven by the initiator. -/
structure MasterSignals (dataBytes : Nat) where
  awValid : Bool := false
  aw : AddressPayload := {}
  wValid : Bool := false
  w : WriteDataPayload dataBytes := {}
  bReady : Bool := false
  arValid : Bool := false
  ar : AddressPayload := {}
  rReady : Bool := false

/-- Signals of one port that are driven by the fabric. -/
structure SlaveSignals (dataBytes : Nat) where
  awReady : Bool := false
  wReady : Bool := false
  bValid : Bool := false
  b : WriteResponsePayload := {}
  arReady : Bool := false
  rValid : Bool := false
  r : ReadDataPayload dataBytes := {}

/-- The worse of two responses; `DecodeError` dominates. -/
def combineResponse (lhs rhs : Response) : Response :=
  if lhs = .decodeError ∨ rhs = .decodeError then .decodeError
  else if lhs = .slaveError ∨ rhs = .slaveError then .slaveError
  else if lhs = .exclusiveOkay ∨ rhs = .exclusiveOkay then .exclusiveOkay
  else .okay

def responseIsSuccess (response : Response) : Bool :=
  response == .okay || response == .exclusiveOkay

@[simp] theorem combineResponse_okay_left (response : Response) :
    combineResponse .okay response = response := by
  cases response <;> rfl

/-- Number of beats of a burst. -/
def AddressPayload.beats (payload : AddressPayload) : Nat :=
  payload.length.toNat + 1

theorem AddressPayload.beats_le (payload : AddressPayload) : payload.beats ≤ 256 := by
  have := payload.length.toNat_lt
  simp only [beats]
  omega

theorem AddressPayload.beats_pos (payload : AddressPayload) : 0 < payload.beats :=
  Nat.succ_pos _

/-! ## Exceptions -/

inductive Channel where
  | aw
  | w
  | ar
  deriving DecidableEq, Repr

def Channel.name : Channel → String
  | .aw => "AW"
  | .w => "W"
  | .ar => "AR"

/-- Where a protocol error was observed. -/
structure ErrorContext where
  cycle : UInt64
  port : Nat
  channel : Channel
  payload : Option AddressPayload
  deriving DecidableEq

/-- Exceptions the fabric's code can raise.  `protocol` is `ProtocolError`, with
the context that `protocol_error` prints; `logic`, `outOfRange`
and `invalidArgument` are the standard exceptions of `RingBuffer`, `BurstCursor`
and `Device`.  `outOfBounds` stands for an unchecked array index beyond the
array, which C++ leaves undefined. -/
inductive Fault where
  | protocol (context : Option ErrorContext) (detail : String)
  | logic (message : String)
  | outOfRange (message : String)
  | invalidArgument (message : String)
  | outOfBounds (array : String)
  deriving DecidableEq

private def hex (value : Nat) : String :=
  "0x" ++ String.ofList (Nat.toDigits 16 value)

/-- The text of an exception, `what()`. -/
def Fault.what : Fault → String
  | .protocol none detail => detail
  | .protocol (some context) detail =>
      "cycle " ++ toString context.cycle.toNat ++ ", AXI port " ++ toString context.port ++
        ", " ++ context.channel.name ++
        (match context.payload with
          | none => ""
          | some payload =>
              ", ID " ++ hex payload.id.toNat ++ ", address " ++ hex payload.address.toNat) ++
        ": " ++ detail
  | .logic message => message
  | .outOfRange message => message
  | .invalidArgument message => message
  | .outOfBounds array => array

/-- Whether an exception is a `ProtocolError`. -/
def Fault.isProtocol : Fault → Bool
  | .protocol _ _ => true
  | _ => false

end AxiTestbench
