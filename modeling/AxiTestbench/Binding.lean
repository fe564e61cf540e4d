import AxiTestbench.Fabric.Commit
import AxiTestbench.Packed

/-!
# The binding to a Verilated model

`verilated_binding.hpp`: every AXI signal of the model is one packed pin, in which port `p`
owns the `width` bits from `p * width` on.  `sample` reads the initiators' signals of all
ports and `drive` writes the fabric's.
-/

namespace AxiTestbench

open Lib Outcome

/-- A pin of the model.  Verilator gives it a type that has all of its bits. -/
structure Pin (ports width : Nat) where
  layout : SignalType
  wide : ports * width ≤ layout.bits
  signal : Signal layout

namespace Pin

variable {ports width : Nat}

def bit (pin : Pin ports 1) (port : Fin ports) : Except Fault Bool :=
  pin.signal.bit port

def read (pin : Pin ports width) (port : Fin ports) : Except Fault (BitVec 64) :=
  pin.signal.readU64 (port * width) width

def bytes (pin : Pin ports width) (size : Nat) (port : Fin ports) :
    Except Fault (Lanes size) := do
  let bytes ← pin.signal.readBytes size (port * width)
  return fun lane => bytes.getD lane 0

/-- The pin after a write to its signal. -/
def update (pin : Pin ports width) (write : FieldWrite) : Except Fault (Pin ports width) := do
  return { pin with signal := ← write.perform pin.signal }

end Pin

/-- The pins of an address channel. -/
structure AddressPins (c : Config) where
  valid : Pin c.numPorts 1
  id : Pin c.numPorts c.idBits
  addr : Pin c.numPorts c.addressBits
  len : Pin c.numPorts 8
  size : Pin c.numPorts 3
  burst : Pin c.numPorts 2
  lock : Pin c.numPorts 1
  cache : Pin c.numPorts 4
  prot : Pin c.numPorts 3

/-- The pins that the initiators drive. -/
structure MasterPins (c : Config) where
  aw : AddressPins c
  wValid : Pin c.numPorts 1
  wData : Pin c.numPorts c.dataBits
  wStrb : Pin c.numPorts c.dataBytes
  wLast : Pin c.numPorts 1
  bReady : Pin c.numPorts 1
  ar : AddressPins c
  rReady : Pin c.numPorts 1

/-- The pins that the fabric drives. -/
structure SlavePins (c : Config) where
  awReady : Pin c.numPorts 1
  wReady : Pin c.numPorts 1
  bValid : Pin c.numPorts 1
  bId : Pin c.numPorts c.idBits
  bResp : Pin c.numPorts 2
  arReady : Pin c.numPorts 1
  rValid : Pin c.numPorts 1
  rId : Pin c.numPorts c.idBits
  rData : Pin c.numPorts c.dataBits
  rResp : Pin c.numPorts 2
  rLast : Pin c.numPorts 1

/-- The AXI pins of the Verilated model. -/
structure Top (c : Config) where
  master : MasterPins c
  slave : SlavePins c

/-- `static_cast<Burst>` of a two-bit code. -/
def Burst.ofCode (code : BitVec 64) : Burst :=
  if code = 0#64 then .fixed
  else if code = 1#64 then .increment
  else if code = 2#64 then .wrap
  else .reserved

def Response.code : Response → BitVec 64
  | .okay => 0
  | .exclusiveOkay => 1
  | .slaveError => 2
  | .decodeError => 3

variable {c : Config}

/-- `static_cast<std::uint8_t>` of a field. -/
def byteOf (value : BitVec 64) : UInt8 := UInt8.ofBitVec (value.setWidth 8)

def AddressPins.sample (pins : AddressPins c) (port : c.Port) : Except Fault AddressPayload := do
  return {
    id := UInt64.ofBitVec (← pins.id.read port)
    address := UInt64.ofBitVec (← pins.addr.read port)
    length := byteOf (← pins.len.read port)
    size := byteOf (← pins.size.read port)
    burst := Burst.ofCode (← pins.burst.read port)
    lock := ← pins.lock.bit port
    cache := byteOf (← pins.cache.read port)
    protection := byteOf (← pins.prot.read port) }

def Top.samplePort (top : Top c) (port : c.Port) :
    Except Fault (MasterSignals c.dataBytes) := do
  let awValid ← top.master.aw.valid.bit port
  let aw ← top.master.aw.sample port
  let wValid ← top.master.wValid.bit port
  let data ← top.master.wData.bytes c.dataBytes port
  let strobe ← top.master.wStrb.read port
  let last ← top.master.wLast.bit port
  let bReady ← top.master.bReady.bit port
  let arValid ← top.master.ar.valid.bit port
  let ar ← top.master.ar.sample port
  let rReady ← top.master.rReady.bit port
  return {
    awValid, aw, wValid
    w := { data, strobe := fun lane => byteOf ((strobe >>> lane.val) &&& 1#64), last }
    bReady, arValid, ar, rReady }

def Top.sample (top : Top c) : Except Fault c.Inputs := do
  let values ← (List.finRange c.numPorts).mapM top.samplePort
  return fun port => values.getD port {}

def Top.drivePort (values : c.Outputs) (top : Top c) (port : c.Port) :
    Except Fault (Top c) := do
  let value := values port
  let awReady ← top.slave.awReady.update (.bit port value.awReady)
  let wReady ← top.slave.wReady.update (.bit port value.wReady)
  let bValid ← top.slave.bValid.update (.bit port value.bValid)
  let bId ← top.slave.bId.update (.u64 (port * c.idBits) c.idBits value.b.id.toBitVec)
  let bResp ← top.slave.bResp.update (.u64 (port * 2) 2 value.b.response.code)
  let arReady ← top.slave.arReady.update (.bit port value.arReady)
  let rValid ← top.slave.rValid.update (.bit port value.rValid)
  let rId ← top.slave.rId.update (.u64 (port * c.idBits) c.idBits value.r.id.toBitVec)
  let rData ← top.slave.rData.update (.bytes (port * c.dataBits) (List.ofFn value.r.data))
  let rResp ← top.slave.rResp.update (.u64 (port * 2) 2 value.r.response.code)
  let rLast ← top.slave.rLast.update (.bit port value.r.last)
  return { top with
    slave := { awReady, wReady, bValid, bId, bResp, arReady, rValid, rId, rData, rResp, rLast } }

def Top.drive (top : Top c) (values : c.Outputs) : Except Fault (Top c) :=
  (List.finRange c.numPorts).foldlM (Top.drivePort values) top

/-! ## Slices -/

theorem Config.dataBytes_mul (c : Config) : c.dataBytes * 8 = c.dataBits := by
  have := c.dataBits_eq
  simp only [dataBytes]
  omega

namespace Pin

variable {ports width : Nat}

/-- The slice of a port lies inside the pin. -/
theorem slice_inside (pin : Pin ports width) (port : Fin ports) :
    port * width + width ≤ pin.layout.bits := by
  have next : (port.val + 1) * width ≤ ports * width := Nat.mul_le_mul_right width port.isLt
  rw [Nat.succ_mul] at next
  exact next.trans pin.wide

/-- Two pins have the same bits in the slice of a port. -/
def Agrees (port : Fin ports) (pin other : Pin ports width) : Prop :=
  ∀ offset < width,
    pin.signal.bitAt (port * width + offset) = other.signal.bitAt (port * width + offset)

theorem readU64_congr {pin other : Pin ports width} {lsb field : Nat} (small : field ≤ 64)
    (inside : lsb + field ≤ pin.layout.bits) (otherInside : lsb + field ≤ other.layout.bits)
    (same : ∀ offset < field, pin.signal.bitAt (lsb + offset) = other.signal.bitAt (lsb + offset)) :
    ∃ value, pin.signal.readU64 lsb field = .ok value ∧
      other.signal.readU64 lsb field = .ok value := by
  obtain ⟨value, read, bits⟩ := pin.signal.readU64_eq small inside
  obtain ⟨otherValue, otherRead, otherBits⟩ := other.signal.readU64_eq small otherInside
  have equal : otherValue = value := by
    refine BitVec.eq_of_getLsbD_eq fun index _ => ?_
    rw [bits, otherBits]
    by_cases below : index < field
    · rw [same index below]
    · simp [below]
  exact ⟨value, read, by rw [otherRead, equal]⟩

theorem read_congr {pin other : Pin ports width} {port : Fin ports} (small : width ≤ 64)
    (same : Agrees port pin other) :
    ∃ value, pin.read port = .ok value ∧ other.read port = .ok value :=
  readU64_congr small (pin.slice_inside port) (other.slice_inside port) same

theorem bit_congr {pin other : Pin ports 1} {port : Fin ports} (same : Agrees port pin other) :
    ∃ value, pin.bit port = .ok value ∧ other.bit port = .ok value := by
  have inside := pin.slice_inside port
  have otherInside := other.slice_inside port
  have here := same 0 Nat.one_pos
  rw [Nat.add_zero, Nat.mul_one] at here
  refine ⟨pin.signal.bitAt port, pin.signal.bit_eq (by omega), ?_⟩
  rw [here]
  exact other.signal.bit_eq (by omega)

theorem bytes_congr {pin other : Pin ports width} {port : Fin ports} {size : Nat}
    (whole : size * 8 = width) (same : Agrees port pin other) :
    ∃ value, pin.bytes size port = .ok value ∧ other.bytes size port = .ok value := by
  have inside := pin.slice_inside port
  have otherInside := other.slice_inside port
  have each : ∀ index, ∃ value, index < size →
      pin.signal.readU64 (port * width + index * 8) 8 = .ok value ∧
        other.signal.readU64 (port * width + index * 8) 8 = .ok value := by
    intro index
    by_cases below : index < size
    · have byte : ∀ offset < 8, pin.signal.bitAt (port * width + index * 8 + offset) =
          other.signal.bitAt (port * width + index * 8 + offset) := by
        intro offset inByte
        rw [Nat.add_assoc]
        exact same (index * 8 + offset) (by omega)
      obtain ⟨value, reads⟩ := readU64_congr (by decide) (by omega) (by omega) byte
      exact ⟨value, fun _ => reads⟩
    · exact ⟨0, fun absurdly => absurd absurdly below⟩
  choose value reads using each
  have first : pin.signal.readBytes size (port * width) =
      .ok ((List.range size).map fun index => byteOf (value index)) :=
    mapM_ok fun index member => by rw [(reads index (List.mem_range.mp member)).1]; rfl
  have second : other.signal.readBytes size (port * width) =
      .ok ((List.range size).map fun index => byteOf (value index)) :=
    mapM_ok fun index member => by rw [(reads index (List.mem_range.mp member)).2]; rfl
  exact ⟨_, by rw [bytes, first]; rfl, by rw [bytes, second]; rfl⟩

end Pin

/-! ## Sampling -/

/-- The pins of a channel have the same bits in the slices of a port. -/
structure AddressPins.Agrees (port : c.Port) (pins others : AddressPins c) : Prop where
  valid : Pin.Agrees port pins.valid others.valid
  id : Pin.Agrees port pins.id others.id
  addr : Pin.Agrees port pins.addr others.addr
  len : Pin.Agrees port pins.len others.len
  size : Pin.Agrees port pins.size others.size
  burst : Pin.Agrees port pins.burst others.burst
  lock : Pin.Agrees port pins.lock others.lock
  cache : Pin.Agrees port pins.cache others.cache
  prot : Pin.Agrees port pins.prot others.prot

/-- Two models have the same bits in the slices of a port. -/
structure MasterPins.Agrees (port : c.Port) (pins others : MasterPins c) : Prop where
  aw : AddressPins.Agrees port pins.aw others.aw
  wValid : Pin.Agrees port pins.wValid others.wValid
  wData : Pin.Agrees port pins.wData others.wData
  wStrb : Pin.Agrees port pins.wStrb others.wStrb
  wLast : Pin.Agrees port pins.wLast others.wLast
  bReady : Pin.Agrees port pins.bReady others.bReady
  ar : AddressPins.Agrees port pins.ar others.ar
  rReady : Pin.Agrees port pins.rReady others.rReady

theorem AddressPins.sample_congr {pins others : AddressPins c} {port : c.Port}
    (same : Agrees port pins others) :
    ∃ value, pins.sample port = .ok value ∧ others.sample port = .ok value := by
  have idBits := c.idBits_range
  have addressBits := c.addressBits_eq
  obtain ⟨_, id, id'⟩ := Pin.read_congr (by omega) same.id
  obtain ⟨_, addr, addr'⟩ := Pin.read_congr (by omega) same.addr
  obtain ⟨_, len, len'⟩ := Pin.read_congr (by decide) same.len
  obtain ⟨_, size, size'⟩ := Pin.read_congr (by decide) same.size
  obtain ⟨_, burst, burst'⟩ := Pin.read_congr (by decide) same.burst
  obtain ⟨_, lock, lock'⟩ := Pin.bit_congr same.lock
  obtain ⟨_, cache, cache'⟩ := Pin.read_congr (by decide) same.cache
  obtain ⟨_, prot, prot'⟩ := Pin.read_congr (by decide) same.prot
  refine ⟨?value, ?first, ?second⟩
  case first =>
    simp only [sample, id, addr, len, size, burst, lock, cache, prot, ok_bind]
    rfl
  case second =>
    simp only [sample, id', addr', len', size', burst', lock', cache', prot', ok_bind]
    rfl

theorem Top.samplePort_congr {top other : Top c} {port : c.Port}
    (same : MasterPins.Agrees port top.master other.master) :
    ∃ value, top.samplePort port = .ok value ∧ other.samplePort port = .ok value := by
  have dataBits := c.dataBits_eq
  have dataBytes := c.dataBytes_mul
  obtain ⟨_, awValid, awValid'⟩ := Pin.bit_congr same.aw.valid
  obtain ⟨_, aw, aw'⟩ := AddressPins.sample_congr same.aw
  obtain ⟨_, wValid, wValid'⟩ := Pin.bit_congr same.wValid
  obtain ⟨_, wData, wData'⟩ := Pin.bytes_congr dataBytes same.wData
  obtain ⟨_, wStrb, wStrb'⟩ := Pin.read_congr (by omega) same.wStrb
  obtain ⟨_, wLast, wLast'⟩ := Pin.bit_congr same.wLast
  obtain ⟨_, bReady, bReady'⟩ := Pin.bit_congr same.bReady
  obtain ⟨_, arValid, arValid'⟩ := Pin.bit_congr same.ar.valid
  obtain ⟨_, ar, ar'⟩ := AddressPins.sample_congr same.ar
  obtain ⟨_, rReady, rReady'⟩ := Pin.bit_congr same.rReady
  refine ⟨?value, ?first, ?second⟩
  case first =>
    simp only [samplePort, awValid, aw, wValid, wData, wStrb, wLast, bReady, arValid, ar, rReady,
      ok_bind]
    rfl
  case second =>
    simp only [samplePort, awValid', aw', wValid', wData', wStrb', wLast', bReady', arValid', ar',
      rReady', ok_bind]
    rfl

theorem MasterPins.Agrees.refl (port : c.Port) (pins : MasterPins c) : Agrees port pins pins := by
  constructor <;> first | exact fun _ _ => rfl | constructor <;> exact fun _ _ => rfl

/-- Sampling succeeds, and takes every port by itself. -/
theorem Top.sample_eq (top : Top c) :
    ∃ result, top.sample = .ok result ∧ ∀ port, top.samplePort port = .ok (result port) := by
  have each : ∀ port, ∃ value, top.samplePort port = .ok value := by
    intro port
    obtain ⟨value, sampled, -⟩ := samplePort_congr (MasterPins.Agrees.refl port top.master)
    exact ⟨value, sampled⟩
  choose value sampled using each
  refine ⟨value, ?_, sampled⟩
  rw [sample, mapM_ok fun port _ => sampled port, ok_bind]
  refine congrArg Except.ok (funext fun port => ?_)
  simp

/-! ## Driving -/


/-- Calls that write the slices of a pin, one for each port. -/
structure Slices {ports : Nat} (width : Nat) (write : Fin ports → FieldWrite) : Prop where
  lsb : ∀ port, (write port).lsb = port * width
  width : ∀ port, (write port).width = width
  small : ∀ port lsb width value, write port = .u64 lsb width value → width ≤ 64

namespace Pin

variable {ports width : Nat}

/-- The pin after the first `count` ports have been driven. -/
structure Driven (write : Fin ports → FieldWrite) (before : Pin ports width) (count : Nat)
    (after : Pin ports width) : Prop where
  layout : after.layout = before.layout
  written : ∀ port : Fin ports, port < count → ∀ offset < width,
    after.signal.bitAt (port * width + offset) = (write port).valueBit offset
  kept : ∀ index, count * width ≤ index → after.signal.bitAt index = before.signal.bitAt index

theorem Driven.start (write : Fin ports → FieldWrite) (pin : Pin ports width) :
    Driven write pin 0 pin :=
  ⟨rfl, fun _ none => absurd none (Nat.not_lt_zero _), fun _ _ => rfl⟩

theorem fits_of_slices {write : Fin ports → FieldWrite} (slices : Slices width write)
    (pin : Pin ports width) (port : Fin ports) : (write port).Fits pin.layout := by
  refine ⟨?_, slices.small port⟩
  rw [slices.lsb, slices.width]
  exact pin.slice_inside port

theorem Driven.step {write : Fin ports → FieldWrite} (slices : Slices width write)
    {before after : Pin ports width} (port : Fin ports) (driven : Driven write before port after) :
    ∃ next, after.update (write port) = .ok next ∧ Driven write before (port + 1) next := by
  obtain ⟨signal, performed, bits⟩ :=
    FieldWrite.perform_eq after.signal (fits_of_slices slices after port)
  have bitAt : ∀ index, signal.bitAt index =
      if port * width ≤ index ∧ index < port * width + width then
        (write port).valueBit (index - port * width)
      else after.signal.bitAt index := by
    intro index
    rw [congrFun bits index, FieldWrite.overlay_store]
    simp only [FieldWrite.Covers, slices.lsb, slices.width]
  refine ⟨{ after with signal }, by rw [update, performed]; rfl, driven.layout, ?_, ?_⟩
  · intro other below offset inSlice
    rw [bitAt]
    by_cases same : other = port
    · subst same
      rw [if_pos (by omega), Nat.add_sub_cancel_left]
    · have earlier : other.val < port.val := by
        have : other.val ≠ port.val := fun equal => same (Fin.ext equal)
        omega
      have apart : (other.val + 1) * width ≤ port * width := Nat.mul_le_mul_right width earlier
      rw [Nat.succ_mul] at apart
      rw [if_neg (by omega)]
      exact driven.written other earlier offset inSlice
  · intro index above
    rw [Nat.succ_mul] at above
    rw [bitAt, if_neg (by omega)]
    exact driven.kept index (by omega)

/-- Every port's slice reads back its value, and the rest of the pin is as it was. -/
structure Written (write : Fin ports → FieldWrite) (before after : Pin ports width) : Prop where
  layout : after.layout = before.layout
  readBack : ∀ port, (write port).ReadBack after.signal
  kept : ∀ index < before.layout.bits, ports * width ≤ index →
    after.signal.bit index = before.signal.bit index

theorem Driven.done {write : Fin ports → FieldWrite} (slices : Slices width write)
    {before after : Pin ports width} (driven : Driven write before ports after) :
    Written write before after := by
  refine ⟨driven.layout, fun port => ?_, fun index inside above => ?_⟩
  · refine FieldWrite.readBack_of_bits (fits_of_slices slices after port) ?_
    rw [slices.lsb, slices.width]
    exact driven.written port port.isLt
  · rw [before.signal.bit_eq inside, after.signal.bit_eq (by rw [driven.layout]; exact inside),
      driven.kept index above]

end Pin

theorem slices_bit {ports : Nat} (value : Fin ports → Bool) :
    Slices 1 (fun port => .bit port (value port)) :=
  ⟨fun _ => (Nat.mul_one _).symm, fun _ => rfl, fun _ _ _ _ equal => by simp at equal⟩

theorem slices_u64 {ports width : Nat} (small : width ≤ 64) (value : Fin ports → BitVec 64) :
    Slices width (fun port => .u64 (port * width) width (value port)) := by
  refine ⟨fun _ => rfl, fun _ => rfl, fun _ _ _ _ equal => ?_⟩
  simp only [FieldWrite.u64.injEq] at equal
  omega

theorem slices_bytes {ports size width : Nat} (whole : size * 8 = width)
    (value : Fin ports → Lanes size) :
    Slices width (fun port => .bytes (port * width) (List.ofFn (value port))) := by
  refine ⟨fun _ => rfl, fun _ => ?_, fun _ _ _ _ equal => by simp at equal⟩
  simp only [FieldWrite.width, List.length_ofFn, whole]

/-- A relation between each driven pin before and after, given the calls that write it. -/
structure SlavePins.Each (values : c.Outputs)
    (Relation : ∀ {width : Nat}, (c.Port → FieldWrite) → Pin c.numPorts width →
      Pin c.numPorts width → Prop)
    (before after : SlavePins c) : Prop where
  awReady : Relation (fun port => .bit port (values port).awReady) before.awReady after.awReady
  wReady : Relation (fun port => .bit port (values port).wReady) before.wReady after.wReady
  bValid : Relation (fun port => .bit port (values port).bValid) before.bValid after.bValid
  bId : Relation (fun port => .u64 (port * c.idBits) c.idBits (values port).b.id.toBitVec)
    before.bId after.bId
  bResp : Relation (fun port => .u64 (port * 2) 2 (values port).b.response.code)
    before.bResp after.bResp
  arReady : Relation (fun port => .bit port (values port).arReady) before.arReady after.arReady
  rValid : Relation (fun port => .bit port (values port).rValid) before.rValid after.rValid
  rId : Relation (fun port => .u64 (port * c.idBits) c.idBits (values port).r.id.toBitVec)
    before.rId after.rId
  rData : Relation (fun port => .bytes (port * c.dataBits) (List.ofFn (values port).r.data))
    before.rData after.rData
  rResp : Relation (fun port => .u64 (port * 2) 2 (values port).r.response.code)
    before.rResp after.rResp
  rLast : Relation (fun port => .bit port (values port).r.last) before.rLast after.rLast

/-- The model after the first `count` ports have been driven. -/
structure Top.Driven (values : c.Outputs) (before : Top c) (count : Nat) (after : Top c) :
    Prop where
  master : after.master = before.master
  slave : SlavePins.Each values (fun write pin => Pin.Driven write pin count)
    before.slave after.slave

/-- One iteration of `drive`. -/
theorem Top.Driven.step {values : c.Outputs} {before : Top c} (port : c.Port) (top : Top c)
    (progress : Driven values before port top) :
    ∃ next, top.drivePort values port = .ok next ∧ Driven values before (port + 1) next := by
  obtain ⟨master, driven⟩ := progress
  have idBits : c.idBits ≤ 64 := by
    have := c.idBits_range
    omega
  obtain ⟨_, awReady, awReady'⟩ := driven.awReady.step (slices_bit _) port
  obtain ⟨_, wReady, wReady'⟩ := driven.wReady.step (slices_bit _) port
  obtain ⟨_, bValid, bValid'⟩ := driven.bValid.step (slices_bit _) port
  obtain ⟨_, bId, bId'⟩ := driven.bId.step (slices_u64 idBits _) port
  obtain ⟨_, bResp, bResp'⟩ := driven.bResp.step (slices_u64 (by decide) _) port
  obtain ⟨_, arReady, arReady'⟩ := driven.arReady.step (slices_bit _) port
  obtain ⟨_, rValid, rValid'⟩ := driven.rValid.step (slices_bit _) port
  obtain ⟨_, rId, rId'⟩ := driven.rId.step (slices_u64 idBits _) port
  obtain ⟨_, rData, rData'⟩ := driven.rData.step (slices_bytes c.dataBytes_mul _) port
  obtain ⟨_, rResp, rResp'⟩ := driven.rResp.step (slices_u64 (by decide) _) port
  obtain ⟨_, rLast, rLast'⟩ := driven.rLast.step (slices_bit _) port
  have written : SlavePins.Each values (fun write pin => Pin.Driven write pin (port + 1))
      before.slave ⟨_, _, _, _, _, _, _, _, _, _, _⟩ :=
    ⟨awReady', wReady', bValid', bId', bResp', arReady', rValid', rId', rData', rResp', rLast'⟩
  refine ⟨⟨top.master, _⟩, ?_, ?_, written⟩
  · simp only [drivePort, awReady, wReady, bValid, bId, bResp, arReady, rValid, rId, rData, rResp,
      rLast, ok_bind]
    rfl
  · exact master

theorem Top.drive_eq (top : Top c) (values : c.Outputs) :
    ∃ next, top.drive values = .ok next ∧ next.master = top.master ∧
      SlavePins.Each values Pin.Written top.slave next.slave := by
  have idBits : c.idBits ≤ 64 := by
    have := c.idBits_range
    omega
  have start : Driven values top 0 top :=
    ⟨rfl, by constructor <;> exact Pin.Driven.start _ _⟩
  obtain ⟨next, driven, master, slave⟩ := foldlM_finRange_ok Driven.step start
  exact ⟨next, driven, master,
    { awReady := slave.awReady.done (slices_bit _)
      wReady := slave.wReady.done (slices_bit _)
      bValid := slave.bValid.done (slices_bit _)
      bId := slave.bId.done (slices_u64 idBits _)
      bResp := slave.bResp.done (slices_u64 (by decide) _)
      arReady := slave.arReady.done (slices_bit _)
      rValid := slave.rValid.done (slices_bit _)
      rId := slave.rId.done (slices_u64 idBits _)
      rData := slave.rData.done (slices_bytes c.dataBytes_mul _)
      rResp := slave.rResp.done (slices_u64 (by decide) _)
      rLast := slave.rLast.done (slices_bit _) }⟩

/-- Disjoint fields of a signal hold what is written to them, in whatever order that is done,
and no bit outside them changes; the slices of the ports of a binding are such fields. -/
theorem packed_fields_exact {layout : SignalType} (signal : Signal layout)
    {writes : List FieldWrite} (fits : ∀ write ∈ writes, write.Fits layout)
    (disjoint : writes.Pairwise FieldWrite.Disjoint) (top : Top c) (values : c.Outputs) :
    (∃ final, (∀ order, order.Perm writes → FieldWrite.performAll signal order = .ok final) ∧
      (∀ write ∈ writes, write.ReadBack final) ∧
      (∀ index < layout.bits, (∀ write ∈ writes, ¬write.Covers index) →
        final.bit index = signal.bit index) ∧
      ∀ write ∈ writes, ∀ copied < write.width,
        (write.lsb + copied) / 32 * 32 < layout.bits) ∧
    (∃ next, top.drive values = .ok next ∧ next.master = top.master ∧
      SlavePins.Each values Pin.Written top.slave next.slave) ∧
    ∃ result, top.sample = .ok result ∧ ∀ (other : Top c) (port : c.Port),
      MasterPins.Agrees port top.master other.master →
        ∃ others, other.sample = .ok others ∧ others port = result port := by
  refine ⟨?_, top.drive_eq values, ?_⟩
  · obtain ⟨final, performed, bits⟩ := FieldWrite.performAll_eq signal fits
    refine ⟨final, fun order permuted => ?_, fun write member => ?_, ?_, ?_⟩
    · rw [FieldWrite.performAll_perm signal fits disjoint permuted, performed]
    · refine FieldWrite.readBack_of_bits (fits write member) fun offset inside => ?_
      have covers : write.Covers (write.lsb + offset) := ⟨by omega, by omega⟩
      rw [congrFun bits _, FieldWrite.replay_of_covers disjoint _ member covers,
        Nat.add_sub_cancel_left]
    · intro index inside uncovered
      rw [final.bit_eq inside, signal.bit_eq inside, congrFun bits index,
        FieldWrite.replay_of_uncovered _ uncovered]
    · intro write member copied inside
      have := (fits write member).1
      omega
  · obtain ⟨result, sampled, each⟩ := top.sample_eq
    refine ⟨result, sampled, fun other port same => ?_⟩
    obtain ⟨others, otherSampled, otherEach⟩ := other.sample_eq
    obtain ⟨value, first, second⟩ := Top.samplePort_congr same
    refine ⟨others, otherSampled, ?_⟩
    rw [each port] at first
    rw [otherEach port] at second
    exact (Except.ok.inj second).trans (Except.ok.inj first).symm

theorem SignalType.words_wide (bits : Nat) :
    bits ≤ (SignalType.words ((bits + 31) / 32)).bits := by
  simp only [SignalType.bits]
  omega

/-- A pin of words, all zero. -/
def Pin.zero (ports width : Nat) : Pin ports width where
  layout := .words ((ports * width + 31) / 32)
  wide := SignalType.words_wide (ports * width)
  signal := .words fun _ => 0

def AddressPins.zero (c : Config) : AddressPins c :=
  ⟨.zero _ _, .zero _ _, .zero _ _, .zero _ _, .zero _ _, .zero _ _, .zero _ _, .zero _ _,
    .zero _ _⟩

def Top.zero (c : Config) : Top c where
  master := ⟨.zero c, .zero _ _, .zero _ _, .zero _ _, .zero _ _, .zero _ _, .zero c, .zero _ _⟩
  slave := ⟨.zero _ _, .zero _ _, .zero _ _, .zero _ _, .zero _ _, .zero _ _, .zero _ _,
    .zero _ _, .zero _ _, .zero _ _, .zero _ _⟩

/-- Three ports with identifiers of twelve bits, so that slices straddle words. -/
def Config.threePorts : Config :=
  { Config.small with
    numPorts := 3, idBits := 12, numPorts_pos := Nat.succ_pos 2, idBits_range := by decide }

/-- A flag, a field that straddles three words and a byte behind it. -/
def straddlingWrites : List FieldWrite :=
  [.u64 20 64 0x123456789abcdef0#64, .bit 3 true, .bytes 84 [0xa5]]

theorem packed_fields_exact_straddling :
    (∃ final, FieldWrite.performAll (.words fun _ : Fin 3 => 0) straddlingWrites = .ok final ∧
      final.readU64 20 64 = .ok 0x123456789abcdef0#64 ∧ final.bit 3 = .ok true ∧
      final.readBytes 1 84 = .ok [0xa5] ∧ final.bit 92 = .ok false) ∧
    ∃ next, (Top.zero Config.threePorts).drive (fun _ => { bValid := true }) = .ok next := by
  have fits : ∀ write ∈ straddlingWrites, write.Fits (.words 3) := by
    intro write member
    simp only [straddlingWrites, List.mem_cons, List.not_mem_nil, or_false] at member
    obtain rfl | rfl | rfl := member <;> exact ⟨by decide, by simp⟩
  have disjoint : straddlingWrites.Pairwise FieldWrite.Disjoint := by
    simp only [straddlingWrites, List.pairwise_cons, List.mem_cons, List.not_mem_nil, or_false,
      forall_eq_or_imp, forall_eq, false_imp_iff, implies_true, List.Pairwise.nil, and_true,
      FieldWrite.Disjoint, FieldWrite.Covers, FieldWrite.lsb, FieldWrite.width, List.length_cons,
      List.length_nil]
    exact ⟨⟨fun index => by omega, fun index => by omega⟩, fun index => by omega⟩
  obtain ⟨⟨final, any, readBack, kept, -⟩, ⟨next, driven, -⟩, -⟩ := packed_fields_exact
    (.words fun _ : Fin 3 => 0) fits disjoint (Top.zero Config.threePorts) fun _ => { bValid := true }
  refine ⟨⟨final, any _ (.refl _), ?_, ?_, ?_, ?_⟩, next, driven⟩
  · exact (readBack (.u64 20 64 0x123456789abcdef0#64) (by simp [straddlingWrites])).1
  · exact (readBack (.bit 3 true) (by simp [straddlingWrites])).1
  · exact (readBack (.bytes 84 [0xa5]) (by simp [straddlingWrites])).1
  · refine kept 92 (by decide) ?_
    simp only [straddlingWrites, List.mem_cons, List.not_mem_nil, or_false, forall_eq_or_imp,
      forall_eq]
    decide

end AxiTestbench
