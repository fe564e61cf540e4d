import AxiTestbench.Platform.Boot

/-!
# The contents of memories

A memory holds the bytes of the images after the platform has booted, and only writes of the
bus change them.  A read therefore returns what was last written, or the image.
-/

namespace AxiTestbench

open Lib Outcome

/-- The byte at a position after a call.  A write stores its strobed lanes if it succeeds. -/
def DeviceCall.store (position : Nat) (byte : UInt8) : DeviceCall → UInt8
  | .write offset data strobe response =>
      if response = .okay ∧ offset ≤ position ∧ position < offset + data.length ∧
          byteAt strobe (position - offset) ≠ 0 then
        byteAt data (position - offset)
      else byte
  | _ => byte

/-- The contract of loadable devices: they hold bytes, which the host loads and the bus reads
and writes. -/
structure Memory (device : DeviceClass) where
  content : device.State → List UInt8
  canLoad_iff : ∀ state offset size, device.canLoad state offset size = true ↔
    device.loadable = true ∧ offset + size ≤ (content state).length
  load : ∀ state offset data, device.loadable = true →
    offset + data.length ≤ (content state).length →
    responseIsSuccess (device.load state offset data).2 = true ∧
      content (device.load state offset data).1 = RamDevice.copyIn (content state) offset data
  load_length : ∀ state offset data, device.loadable = true →
    (content (device.load state offset data).1).length = (content state).length
  acts : ∀ state entry, device.loadable = true → device.recorder.Truthful state entry →
    (content (device.recorder.act state entry)).length = (content state).length ∧
      ∀ position, byteAt (content (device.recorder.act state entry)) position =
        entry.1.store position (byteAt (content state) position)
  reads : ∀ state inputs offset enable, device.loadable = true →
    offset + enable.length ≤ (content state).length →
    (device.readImpl state inputs offset enable).2.1 = .okay ∧
      ∀ lane < enable.length, byteAt (device.readImpl state inputs offset enable).2.2 lane =
        if byteAt enable lane ≠ 0 then byteAt (content state) (offset + lane) else 0

/-- A device that the host cannot load. -/
def Memory.none {device : DeviceClass} (fixed : device.loadable = false)
    (refuses : ∀ state offset size, device.canLoad state offset size = false) : Memory device where
  content _ := []
  canLoad_iff state offset size := by simp [fixed, refuses]
  load _ _ _ loads := by simp [fixed] at loads
  load_length _ _ _ loads := by simp [fixed] at loads
  acts _ _ loads := by simp [fixed] at loads
  reads _ _ _ _ loads := by simp [fixed] at loads

theorem loadBytes_inside {bytes data : List UInt8} {offset : Nat}
    (fits : offset + data.length ≤ bytes.length) :
    loadBytes bytes offset data = (RamDevice.copyIn bytes offset data, .okay) :=
  loadBytes_eq (inBounds_iff.mpr fits)

theorem length_loadBytes (bytes data : List UInt8) (offset : Nat) :
    (loadBytes bytes offset data).1.length = bytes.length := by
  rw [loadBytes]
  split
  next fits => exact RamDevice.length_copyIn (inBounds_iff.mp fits)
  next => rfl

def RomDevice.memory : Memory RomDevice.deviceClass where
  content := RomDevice.bytes
  canLoad_iff rom offset size := by
    change inBounds _ _ _ = true ↔ _
    rw [inBounds_iff]
    simp [RomDevice.deviceClass]
  load rom offset data _ fits := by
    simp [RomDevice.deviceClass, RomDevice.load, loadBytes_inside fits, responseIsSuccess]
  load_length rom offset data _ := length_loadBytes _ _ _
  acts rom entry _ truthful := by
    obtain ⟨call, inputs⟩ := entry
    cases call with
    | write offset data strobe response =>
        -- No write of a ROM succeeds.
        have refused : response ≠ .okay := by
          rw [← truthful.2]
          simp [RomDevice.deviceClass, RomDevice.writeImpl]
        exact ⟨rfl, fun position => by simp [DeviceCall.store, refused]; rfl⟩
    | _ => exact ⟨rfl, fun position => rfl⟩
  reads rom inputs offset enable _ fits :=
    ({ bytes := rom.bytes } : RamDevice).readImpl_inside fits

def RamDevice.memory : Memory RamDevice.deviceClass where
  content := RamDevice.bytes
  canLoad_iff ram offset size := by
    change inBounds _ _ _ = true ↔ _
    rw [inBounds_iff]
    simp [RamDevice.deviceClass, RamDevice.size]
  load ram offset data _ fits := by
    simp [RamDevice.deviceClass, RamDevice.load, loadBytes_inside fits, responseIsSuccess]
  load_length ram offset data _ := length_loadBytes _ _ _
  acts ram entry _ truthful := by
    obtain ⟨call, inputs⟩ := entry
    cases call with
    | write offset data strobe response =>
        obtain ⟨same, answered⟩ := truthful
        change (RamDevice.writeImpl ram offset data strobe).2 = response at answered
        by_cases fits : offset + data.length ≤ RamDevice.size ram
        · obtain ⟨okay, size, bytes⟩ := RamDevice.writeImpl_inside ram same fits
          refine ⟨size, fun position => (bytes position).trans ?_⟩
          simp [DeviceCall.store, ← answered, okay]
        · have refused := RamDevice.writeImpl_outside ram strobe (Nat.lt_of_not_le fits)
          rw [refused] at answered
          subst answered
          refine ⟨?_, fun position => ?_⟩
          · change (RamDevice.writeImpl ram offset data strobe).1.bytes.length = _
            rw [refused]
          · change byteAt (RamDevice.writeImpl ram offset data strobe).1.bytes position = _
            rw [refused]
            simp [DeviceCall.store]
    | _ => exact ⟨rfl, fun position => rfl⟩
  reads ram inputs offset enable _ fits := RamDevice.readImpl_inside ram fits

/-- Every class keeps the contract. -/
def DeviceObject.memory : (object : DeviceObject) → Memory object.deviceClass
  | .rom _ => RomDevice.memory
  | .ram _ => RamDevice.memory
  | .uart _ _ => .none rfl fun _ _ _ => rfl
  | .exit => .none rfl fun _ _ _ => rfl
  | .clint _ => .none rfl fun _ _ _ => rfl
  | .plic _ => .none rfl fun _ _ _ => rfl

/-! ## Booting -/

namespace Platform

variable {platform : Platform} (memory : ∀ id, Memory (platform.devices id))

/-- The bytes of the device at a position. -/
def content (index : DeviceId) (world : platform.World) : List UInt8 :=
  match platform.ids[index]? with
  | none => []
  | some id => (memory id).content (world id)

variable {index : DeviceId} {world : platform.World}

theorem content_eq {id : String} (here : platform.ids[index]? = some id) :
    platform.content memory index world = (memory id).content (world id) := by
  simp only [content, here]

theorem canLoad_loadBank_iff {offset size : Nat} :
    platform.loadBank.canLoad index world offset size = true ↔
      platform.loadBank.loadable index world = true ∧
        offset + size ≤ (platform.content memory index world).length := by
  cases position : platform.ids[index]? with
  | none => simp [loadBank, position]
  | some id => simp [loadBank, content, position, (memory id).canLoad_iff]

/-- An accepted load. -/
theorem load_loadBank {offset : Nat} {data : List UInt8}
    (accepted : platform.loadBank.canLoad index world offset data.length = true) :
    responseIsSuccess (platform.loadBank.load index world offset data).2 = true ∧
      ∀ other, platform.content memory other (platform.loadBank.load index world offset data).1 =
        if other = index then RamDevice.copyIn (platform.content memory index world) offset data
        else platform.content memory other world := by
  obtain ⟨loadable, fits⟩ := (canLoad_loadBank_iff memory).mp accepted
  cases position : platform.ids[index]? with
  | none => simp [loadBank, position] at loadable
  | some id =>
      rw [content_eq memory position] at fits ⊢
      have loads : (platform.devices id).loadable = true := by
        simpa [loadBank, position] using loadable
      obtain ⟨success, stored⟩ := (memory id).load (world id) offset data loads fits
      simp only [loadBank, position]
      refine ⟨success, fun other => ?_⟩
      by_cases same : other = index
      · subst same
        rw [if_pos rfl, content_eq memory position, Function.update_self, stored]
      · rw [if_neg same]
        cases elsewhere : platform.ids[other]? with
        | none => simp only [content, elsewhere]
        | some name =>
            have different : name ≠ id := by
              rintro rfl
              exact same (position_inj elsewhere position)
            rw [content_eq memory elsewhere, content_eq memory elsewhere,
              Function.update_of_ne different]

/-- The devices keep the contract of the loader. -/
def storage (memory : ∀ id, Memory (platform.devices id)) : Storage platform.loadBank where
  content := platform.content memory
  inside index world offset size accepted := ((canLoad_loadBank_iff memory).mp accepted).2
  part index world offset size first count accepted atOrAbove within := by
    obtain ⟨loadable, fits⟩ := (canLoad_loadBank_iff memory).mp accepted
    exact (canLoad_loadBank_iff memory).mpr ⟨loadable, Nat.le_trans within fits⟩
  accepts index world offset data _ accepted := (load_loadBank memory accepted).1
  stores index world offset data _ accepted := by
    rw [(load_loadBank memory accepted).2, if_pos rfl]
  others index world offset data other _ accepted different := by
    rw [(load_loadBank memory accepted).2, if_neg different]
  stable index world offset data other _ accepted := by
    refine ⟨rfl, fun first count => ?_⟩
    have fits := ((canLoad_loadBank_iff memory).mp accepted).2
    rw [Bool.eq_iff_iff, canLoad_loadBank_iff memory,
      canLoad_loadBank_iff memory, (load_loadBank memory accepted).2]
    refine and_congr Iff.rfl ?_
    split
    next same =>
      subst same
      rw [RamDevice.length_copyIn fits]
    next => rfl

/-- The byte at a position of a device once the platform has booted: that of the chunk which
covers the position, or what the constructor has left there. -/
structure BootByte (memory : ∀ id, Memory (platform.devices id)) (states : platform.World)
    (chunks : List Chunk) (index position : Nat) (byte : UInt8) : Prop where
  loaded : ∀ chunk ∈ chunks, ∀ mapping,
    platform.space.resolve chunk.segment.loadAddress chunk.segment.memorySize = some mapping →
    mapping.device = index → ∀ k < chunk.segment.memorySize,
    chunk.segment.loadAddress - mapping.base + k = position → byte = chunk.byte k
  cleared : (∀ chunk ∈ chunks, ¬chunk.Covers platform.space index position) →
    byte = byteAt (platform.content memory index states) position

/-- A reset leaves memories alone. -/
theorem content_reset {id : String} (here : platform.ids[index]? = some id)
    (loads : (platform.devices id).loadable = true) (states : platform.World) :
    (platform.content memory index (platform.reset states)).length =
        (platform.content memory index states).length ∧
      ∀ position, byteAt (platform.content memory index (platform.reset states)) position =
        byteAt (platform.content memory index states) position := by
  obtain ⟨log, explained, calls⟩ :=
    event_explained here states (.reset : MachineEvent Config.small) trivial
  match log, calls with
  | [(.reset, inputs), (.settle, settled)], _ =>
      obtain ⟨firstLength, first⟩ := (memory id).acts (states id) (.reset, inputs) loads trivial
      obtain ⟨length, second⟩ := (memory id).acts _ (.settle, settled) loads trivial
      rw [content_eq memory here, content_eq memory here,
        show platform.reset states id = _ from explained.state]
      exact ⟨length.trans firstLength, fun position => (second position).trans (first position)⟩

/-- What booting leaves in a memory. -/
theorem content_boot {id : String} (here : platform.ids[index]? = some id)
    (loads : (platform.devices id).loadable = true) {states : platform.World}
    {calls : List PlanCall} {plan : ImageLoadPlan platform.World}
    (booted : platform.boot states calls = .ok plan) :
    (platform.content memory index plan.world).length =
        (platform.content memory index states).length ∧
      ∀ position, BootByte memory states (calls.flatMap PlanCall.chunks) index position
        (byteAt (platform.content memory index plan.world) position) := by
  obtain ⟨resetLength, reset⟩ := content_reset memory here loads states
  obtain ⟨added, adds, applied⟩ := bind_eq_ok_iff.mp booted
  obtain ⟨unchanged, chunks, planned⟩ := ImageLoadPlan.addAll_planned adds (by simp)
  rw [List.nil_append] at chunks
  refine ⟨?_, fun position => ?_⟩
  · refine boot_keeps booted (fun world => (platform.content memory index world).length =
      (platform.content memory index states).length) resetLength ?_
    intro device world offset data loadable same
    obtain ⟨other, -, -, changed⟩ := load_cases loadable offset data
    rw [changed, ← same, content_eq memory here, content_eq memory here]
    by_cases own : id = other
    · subst own
      rw [Function.update_self]
      exact (memory id).load_length _ _ _ loads
    · rw [Function.update_of_ne own]
  · rcases ImageLoadPlan.apply_spec (platform.storage memory) planned with
      ⟨-, world, done, loaded⟩ | ⟨-, fault, failed⟩
    · rw [applied] at done
      cases done
      rw [chunks] at loaded
      constructor
      · intro chunk member mapping resolved isDevice k inside atPosition
        obtain ⟨other, otherResolved, stored⟩ := loaded.stored chunk member
        obtain rfl : mapping = other := Option.some.inj (resolved.symm.trans otherResolved)
        have byte := stored k inside
        rw [isDevice, atPosition] at byte
        exact congrArg (·.getD 0) byte
      · intro uncovered
        rw [← reset position]
        refine (congrArg (·.getD 0) (loaded.kept index position uncovered)).trans ?_
        rw [unchanged]
        rfl
    · rw [applied] at failed
      cases failed

/-- The byte at a position follows the recorded writes. -/
theorem content_explained {c : Config} {id : String} (here : platform.ids[index]? = some id)
    (loads : (platform.devices id).loadable = true) {before after : platform.World}
    {events : List (MachineEvent c)} (explained : platform.recorder.Explains before after events)
    (position : Nat) :
    (platform.content memory index after).length = (platform.content memory index before).length ∧
      byteAt (platform.content memory index after) position =
        (events.flatMap (MachineEvent.calls index)).foldl (DeviceCall.store position)
          (byteAt (platform.content memory index before) position) := by
  obtain ⟨log, own, calls⟩ := explained.part (event_explained here)
  rw [content_eq memory here, content_eq memory here, ← calls, List.foldl_map]
  refine own.tracks (fun byte entry => entry.1.store position byte)
    (fun byte state => ((memory id).content state).length = ((memory id).content (before id)).length ∧
      byteAt ((memory id).content state) position = byte) _ ⟨rfl, rfl⟩ ?_
  rintro byte state entry - truthful ⟨length, same⟩
  obtain ⟨actLength, acts⟩ := (memory id).acts state entry loads truthful
  exact ⟨actLength.trans length, by rw [acts, same]⟩

end Platform

/-- Memories behave as memories in the whole simulator.  Every read of a ROM or RAM that a run
records, inside the device, succeeds, and each enabled lane returns what the last successful
write before it stored there, through resets and whatever the other devices do; where nothing
was written, it returns the byte of the image that was loaded there, or else what the
constructor left. -/
theorem reads_return_image_or_writes {c : Config} (platform : Platform)
    (memory : ∀ id, Memory (platform.devices id)) (states : platform.World)
    (calls : List PlanCall) (plan : ImageLoadPlan platform.World)
    (booted : platform.boot states calls = .ok plan) (cycles : List (c.Inputs × Bool))
    (random : UInt64) (stall : Stall) (index : Fin platform.ids.length)
    (loads : (platform.devices (platform.ids.get index)).loadable = true)
    (before after : List (MachineEvent c)) (route : ReadRoute c) (call : DeviceRead)
    (recorded : (Machine.run cycles (.fresh c platform random stall plan.world)).state.trace =
      before ++ .bus (.deviceRead route call) :: after)
    (isDevice : call.device = index)
    (inside : call.offset + call.enable.length ≤ (platform.content memory index states).length) :
    call.response = .okay ∧ ∀ lane < call.enable.length, byteAt call.enable lane ≠ 0 →
      ∃ image, Platform.BootByte memory states (calls.flatMap PlanCall.chunks) index
          (call.offset + lane) image ∧
        byteAt call.data lane = (before.flatMap (MachineEvent.calls index)).foldl
          (DeviceCall.store (call.offset + lane)) image := by
  have here : platform.ids[(index : Nat)]? = some (platform.ids.get index) :=
    List.getElem?_eq_getElem index.isLt
  obtain ⟨bootLength, boot⟩ := Platform.content_boot memory here loads booted
  obtain ⟨events, trace, explained⟩ := Machine.run_explained cycles
    (.fresh c platform random stall plan.world)
  obtain rfl : events = before ++ .bus (.deviceRead route call) :: after :=
    trace.symm.trans recorded
  change platform.recorder.Explains plan.world _ _ at explained
  obtain ⟨earlier, truthful, -⟩ := (Recorder.faithful_append _ _ _).mp explained.faithful
  have follows : platform.recorder.Explains plan.world
      (platform.recorder.replay plan.world before) before := ⟨rfl, earlier⟩
  generalize platform.recorder.replay plan.world before = middle at follows truthful
  have length := (Platform.content_explained memory here loads follows 0).1.trans bootLength
  rw [Platform.content_eq memory here] at length
  have answered : ((platform.devices (platform.ids.get index)).readImpl
      (middle (platform.ids.get index)) (platform.inputs middle (platform.ids.get index))
      call.offset call.enable).2 = (call.response, call.data) := by
    have told : (platform.bank.readImpl call.device middle call.offset call.enable).2 =
      (call.response, call.data) := truthful
    rw [isDevice] at told
    simpa only [Platform.bank, here] using told
  obtain ⟨okay, bytes⟩ := (memory (platform.ids.get index)).reads (middle (platform.ids.get index))
    (platform.inputs middle (platform.ids.get index)) call.offset call.enable loads
    (by rw [length]; exact inside)
  rw [answered] at okay bytes
  refine ⟨okay, fun lane inRange enabled => ⟨_, boot (call.offset + lane), ?_⟩⟩
  rw [bytes lane inRange, if_pos enabled, ← Platform.content_eq memory here]
  exact (Platform.content_explained memory here loads follows _).2

def wordImage : ImageBytes := ⟨[1, 2, 3, 4], by decide⟩

/-- A read of a device below an offset. -/
def MachineEvent.reads {c : Config} (device : DeviceId) (limit : Nat) : MachineEvent c → Bool
  | .bus (.deviceRead _ call) =>
      call.device == device && call.offset + call.enable.length ≤ limit
  | _ => false

/-- The read of a loaded word. -/
theorem reads_return_image_or_writes_small :
    let start : smallPlatform.World := fun id => (smallObjects id).initial
    let cycles : List (Config.small.Inputs × Bool) := [(readWord 0x1000 3 false, false)]
    ∃ plan before after route call, smallPlatform.boot start [.raw wordImage 0x1000] = .ok plan ∧
      (Machine.run cycles (.fresh Config.small smallPlatform 1 .never plan.world)).state.trace =
        before ++ .bus (.deviceRead route call) :: after ∧
      call.device = 3 ∧ call.response = .okay := by
  intro start cycles
  obtain ⟨plan, booted, made⟩ : ∃ plan, smallPlatform.boot start [.raw wordImage 0x1000] = .ok plan ∧
      ((Machine.run cycles
        (.fresh Config.small smallPlatform 1 .never plan.world)).state.trace.any
          (MachineEvent.reads 3 4)) = true :=
    ⟨_, eq_ok_of_isOk (by decide +kernel), by decide +kernel⟩
  have size : (smallPlatform.content (fun id => (smallObjects id).memory) (3 : Fin 4) start).length =
    4 := by decide +kernel
  obtain ⟨event, member, isRead⟩ := List.any_eq_true.mp made
  obtain ⟨before, after, recorded⟩ := List.append_of_mem member
  cases event with
  | reset => cases isRead
  | tick => cases isRead
  | bus event =>
      cases event with
      | deviceRead route call =>
          simp only [MachineEvent.reads, Bool.and_eq_true, beq_iff_eq, decide_eq_true_eq] at isRead
          have read := reads_return_image_or_writes smallPlatform
            (fun id => (smallObjects id).memory) start [.raw wordImage 0x1000] plan booted cycles 1
            .never (3 : Fin 4) rfl before after route call recorded isRead.1
            (isRead.2.trans_eq size.symm)
          exact ⟨plan, before, after, route, call, booted, recorded, isRead.1, read.1⟩
      | _ => cases isRead

end AxiTestbench
