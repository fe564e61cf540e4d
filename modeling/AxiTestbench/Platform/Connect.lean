import AxiTestbench.Lib.Kahn
import AxiTestbench.Platform.Spec

/-!
# Sideband connections

`Platform::connect` (`platform.cpp`): the connection loop, which resolves the endpoints
and counts the connections of each device, and the worklist that orders the devices.
Device objects are named by the id of their instance.
-/

namespace AxiTestbench

open Lib Outcome

/-- The sideband ports of a device, each named by the number of its `Signal` or
`InputSignal` object.  The objects are members of the device, which has fewer than
`2 ^ 32` of them. -/
structure DevicePorts where
  inputs : Nat
  few : inputs < 2 ^ 32
  input : String → Option Nat
  input_lt : ∀ name index, input name = some index → index < inputs
  inputWidth : Nat → UInt32
  output : String → Option Nat
  outputWidth : Nat → UInt32

/-- The devices behind the instance ids. -/
abbrev Board := String → DevicePorts

/-- What the connection loop builds. -/
structure Wiring where
  source : String → Nat → Option (String × Nat) := fun _ _ => none
  successors : String → List String := fun _ => []
  indegree : String → UInt32 := fun _ => 0

/-- `Platform::output`. -/
def PlatformSpec.output (spec : PlatformSpec) (board : Board) (name : String) (width : UInt32) :
    Except PlatformError (String × Nat) := do
  let (id, port) ← endpoint name
  let _ ← spec.device id
  match (board id).output port with
  | none => .error (.unknownOutput name)
  | some signal =>
      if (board id).outputWidth signal ≠ width ∨ width = 0 ∨ width > 64 then
        .error (.widthMismatch name)
      else
        .ok (id, signal)

/-- The body of the connection loop. -/
def PlatformSpec.connectOne (spec : PlatformSpec) (board : Board) (wiring : Wiring)
    (connection : ConnectionSpec) : Except PlatformError Wiring := do
  let (src, _) ← endpoint connection.source
  let (dst, port) ← endpoint connection.destination
  let _ ← spec.device src
  let _ ← spec.device dst
  match (board dst).input port with
  | none => .error (.unknownInput connection.destination)
  | some input =>
      if wiring.source dst input ≠ none then
        .error (.multipleDrivers connection.destination)
      else
        let signal ← spec.output board connection.source ((board dst).inputWidth input)
        return {
          source := Function.update wiring.source dst
            (Function.update (wiring.source dst) input (some signal))
          successors := Function.update wiring.successors src (wiring.successors src ++ [dst])
          indegree := Function.update wiring.indegree dst (wiring.indegree dst + 1) }

/-- The `unsigned` counters of `indegree`. -/
def wordCounter : Counter UInt32 where
  ofNat := UInt32.ofNat
  bound := 2 ^ 32 - 1
  pred := fun count => count - 1
  isZero := fun count => count == 0
  pred_ofNat := by
    intro number below
    rw [← UInt32.toNat_inj, UInt32.toNat_sub, UInt32.toNat_ofNat', UInt32.toNat_ofNat']
    simp only [UInt32.toNat_ofNat]
    omega
  isZero_ofNat := by
    intro number below
    rw [beq_iff_eq, ← UInt32.toNat_inj, UInt32.toNat_ofNat', UInt32.toNat_zero]
    omega

/-- `Platform::connect`; `none` if the worklist is still growing after `fuel` rounds. -/
def PlatformSpec.connect (spec : PlatformSpec) (board : Board) (fuel : Nat) :
    Option (Except PlatformError (Wiring × List String)) :=
  match spec.connections.foldlM (spec.connectOne board) {} with
  | .error fault => some (.error fault)
  | .ok wiring =>
      let roots := spec.ids.filter fun id => wiring.indegree id == 0
      (Kahn.visit wordCounter wiring.successors fuel 0 (wiring.indegree, roots)).map fun order =>
        if order.length ≠ spec.devices.length then .error .cycle else .ok (wiring, order)

/-! ## Valid connections -/

/-- A connection with its endpoints looked up. -/
structure Link where
  source : String
  output : Nat
  target : String
  input : Nat
  deriving DecidableEq

def Link.edge (link : Link) : String × String := (link.source, link.target)

/-- The endpoints of a connection are ports of the same width. -/
structure ConnectionSpec.ResolvesTo (spec : PlatformSpec) (board : Board)
    (connection : ConnectionSpec) (link : Link) : Prop where
  source : ∃ port, endpoint connection.source = .ok (link.source, port) ∧
    link.source ∈ spec.ids ∧ (board link.source).output port = some link.output
  target : ∃ port, endpoint connection.destination = .ok (link.target, port) ∧
    link.target ∈ spec.ids ∧ (board link.target).input port = some link.input
  width : (board link.source).outputWidth link.output = (board link.target).inputWidth link.input
  width_pos : 0 < (board link.target).inputWidth link.input
  width_le : (board link.target).inputWidth link.input ≤ 64

/-- Two connections that do not drive the same input. -/
def Link.Separate (left right : Link) : Prop :=
  ¬(left.target = right.target ∧ left.input = right.input)

/-- The instances have distinct ids, the connections resolve to `links`, and no input is
driven twice. -/
structure PlatformSpec.Valid (spec : PlatformSpec) (board : Board) (links : List Link) : Prop where
  ids : spec.ids.Nodup
  resolved : List.Forall₂ (ConnectionSpec.ResolvesTo spec board) spec.connections links
  driven : links.Pairwise Link.Separate

/-- The wiring after some connections. -/
structure Wired (links : List Link) (wiring : Wiring) : Prop where
  source : ∀ id input output, wiring.source id input = some output ↔
    ∃ link ∈ links, link.target = id ∧ link.input = input ∧ output = (link.source, link.output)
  successors : wiring.successors = Kahn.successors (links.map Link.edge)
  indegree : wiring.indegree =
    fun id => UInt32.ofNat (Kahn.pending (links.map Link.edge) [] id)

theorem PlatformSpec.device_of_mem {spec : PlatformSpec} {id : String} (member : id ∈ spec.ids) :
    ∃ index, spec.device id = .ok index := by
  simp only [PlatformSpec.device]
  cases found : spec.ids.findIdx? (· == id) with
  | none =>
      rw [List.findIdx?_eq_none_iff] at found
      simpa using found id member
  | some index => exact ⟨index, rfl⟩

theorem ConnectionSpec.ResolvesTo.output_eq {spec : PlatformSpec} {board : Board}
    {connection : ConnectionSpec} {link : Link}
    (resolves : connection.ResolvesTo spec board link) :
    spec.output board connection.source ((board link.target).inputWidth link.input) =
      .ok (link.source, link.output) := by
  obtain ⟨port, parsed, known, found⟩ := resolves.source
  obtain ⟨index, device⟩ := PlatformSpec.device_of_mem known
  have fits : ¬((board link.source).outputWidth link.output ≠
      (board link.target).inputWidth link.input ∨ (board link.target).inputWidth link.input = 0 ∨
      (board link.target).inputWidth link.input > 64) := by
    rintro (different | zero | wide)
    · exact different resolves.width
    · have := resolves.width_pos
      rw [zero] at this
      exact absurd this (by decide)
    · exact absurd wide (UInt32.not_lt.mpr resolves.width_le)
  simp only [PlatformSpec.output, parsed, device, ok_bind, found]
  rw [if_neg fits]

theorem Wired.snoc {spec : PlatformSpec} {board : Board} {links : List Link} {wiring : Wiring}
    {connection : ConnectionSpec} {link : Link} (wired : Wired links wiring)
    (resolves : connection.ResolvesTo spec board link)
    (free : ∀ other ∈ links, other.Separate link) :
    ∃ next, spec.connectOne board wiring connection = .ok next ∧ Wired (links ++ [link]) next := by
  obtain ⟨srcPort, srcParsed, srcKnown, -⟩ := resolves.source
  obtain ⟨dstPort, dstParsed, dstKnown, input⟩ := resolves.target
  obtain ⟨srcIndex, srcDevice⟩ := PlatformSpec.device_of_mem srcKnown
  obtain ⟨dstIndex, dstDevice⟩ := PlatformSpec.device_of_mem dstKnown
  have undriven : wiring.source link.target link.input = none := by
    rw [Option.eq_none_iff_forall_ne_some]
    intro output driven
    obtain ⟨other, member, target, inputEq, -⟩ := (wired.source _ _ _).mp driven
    exact free other member ⟨target, inputEq⟩
  refine ⟨_, by
    simp only [PlatformSpec.connectOne, srcParsed, dstParsed, srcDevice, dstDevice, ok_bind, input,
      undriven, ne_eq, not_true_eq_false, if_false, resolves.output_eq]
    rfl, ?_, ?_, ?_⟩
  · intro id inputIndex output
    simp only [List.mem_append, List.mem_singleton, or_and_right, exists_or, exists_eq_left,
      ← wired.source]
    by_cases sameId : id = link.target
    · subst sameId
      by_cases sameInput : inputIndex = link.input
      · subst sameInput
        simp [undriven, eq_comm]
      · simp [sameInput, Ne.symm sameInput]
    · simp [sameId, Ne.symm sameId]
  · funext id
    rw [wired.successors]
    by_cases same : id = link.source
    · subst same
      simp [Kahn.successors, Link.edge]
    · simp [Kahn.successors, Link.edge, same, Ne.symm same]
  · funext id
    rw [wired.indegree]
    by_cases same : id = link.target
    · subst same
      simp [Kahn.pending, Link.edge]
    · simp [Kahn.pending, Link.edge, same, Ne.symm same]

theorem Wired.foldlM {spec : PlatformSpec} {board : Board} {connections : List ConnectionSpec}
    {rest : List Link}
    (resolved : List.Forall₂ (ConnectionSpec.ResolvesTo spec board) connections rest)
    {links : List Link} {wiring : Wiring} (wired : Wired links wiring)
    (driven : (links ++ rest).Pairwise Link.Separate) :
    ∃ final, connections.foldlM (spec.connectOne board) wiring = .ok final ∧
      Wired (links ++ rest) final := by
  induction resolved generalizing links wiring with
  | nil => exact ⟨wiring, rfl, by simpa using wired⟩
  | @cons connection link connections rest resolves _ ih =>
      have free : ∀ other ∈ links, other.Separate link := fun other member =>
        (List.pairwise_append.mp driven).2.2 other member link (by simp)
      obtain ⟨next, connected, wiredNext⟩ := wired.snoc resolves free
      rw [List.append_cons] at driven ⊢
      obtain ⟨final, done, wiredFinal⟩ := ih wiredNext driven
      refine ⟨final, ?_, wiredFinal⟩
      rw [List.foldlM_cons, connected, ok_bind, done]

namespace PlatformSpec.Valid

variable {spec : PlatformSpec} {board : Board} {links : List Link}

/-- The connection loop accepts a valid specification. -/
theorem wired (valid : spec.Valid board links) :
    ∃ wiring, spec.connections.foldlM (spec.connectOne board) {} = .ok wiring ∧
      Wired links wiring := by
  have empty : Wired [] {} := by
    refine ⟨by simp, ?_, ?_⟩
    · funext id
      rfl
    · funext id
      rfl
  simpa using empty.foldlM valid.resolved valid.driven

theorem link_mem (valid : spec.Valid board links) {link : Link} (member : link ∈ links) :
    link.source ∈ spec.ids ∧ link.target ∈ spec.ids ∧ link.input < (board link.target).inputs := by
  obtain ⟨index, inRange, rfl⟩ := List.mem_iff_getElem.mp member
  have resolves := List.forall₂_iff_get.mp valid.resolved
  obtain ⟨lengths, each⟩ := resolves
  have here := each index (by omega) inRange
  obtain ⟨-, -, sourceKnown, -⟩ := here.source
  obtain ⟨port, -, targetKnown, input⟩ := here.target
  exact ⟨sourceKnown, targetKnown, (board _).input_lt port _ input⟩

/-- A device has at most as many connections as inputs. -/
theorem pending_le (valid : spec.Valid board links) (id : String) :
    Kahn.pending (links.map Link.edge) [] id ≤ (board id).inputs := by
  have counted : Kahn.pending (links.map Link.edge) [] id =
      ((links.filter fun link => link.target = id).map Link.input).length := by
    rw [Kahn.pending, List.countP_map, List.length_map, ← List.countP_eq_length_filter]
    refine List.countP_congr fun link _ => ?_
    simp only [Function.comp_apply, Link.edge, List.not_mem_nil, not_false_eq_true, and_true]
    exact decide_eq_true_iff.trans decide_eq_true_iff.symm
  have nodup : ((links.filter fun link => link.target = id).map Link.input).Nodup := by
    rw [List.Nodup, List.pairwise_map]
    refine (valid.driven.filter _).imp_of_mem fun {left right} leftIn rightIn separate same => ?_
    have leftTarget := of_decide_eq_true (List.mem_filter.mp leftIn).2
    have rightTarget := of_decide_eq_true (List.mem_filter.mp rightIn).2
    exact separate ⟨leftTarget.trans rightTarget.symm, same⟩
  have inRange : ((links.filter fun link => link.target = id).map Link.input) ⊆
      List.range (board id).inputs := by
    intro input member
    obtain ⟨link, linkIn, rfl⟩ := List.mem_map.mp member
    obtain ⟨linkMember, target⟩ := List.mem_filter.mp linkIn
    have := (valid.link_mem linkMember).2.2
    rw [of_decide_eq_true target] at this
    exact List.mem_range.mpr this
  rw [counted]
  simpa using (nodup.subperm inRange).length_le

/-- The order in which the instances are listed does not matter for the connections. -/
theorem relist (valid : spec.Valid board links) {listing : List DeviceSpec}
    (perm : listing.Perm spec.devices) : { spec with devices := listing }.Valid board links := by
  have idsPerm : PlatformSpec.ids { spec with devices := listing } |>.Perm spec.ids :=
    perm.map DeviceSpec.id
  refine ⟨idsPerm.nodup_iff.mpr valid.ids, ?_, valid.driven⟩
  refine valid.resolved.imp fun connection link resolves => ?_
  obtain ⟨srcPort, srcParsed, srcKnown, output⟩ := resolves.source
  obtain ⟨dstPort, dstParsed, dstKnown, input⟩ := resolves.target
  exact
    { source := ⟨srcPort, srcParsed, idsPerm.mem_iff.mpr srcKnown, output⟩
      target := ⟨dstPort, dstParsed, idsPerm.mem_iff.mpr dstKnown, input⟩
      width := resolves.width
      width_pos := resolves.width_pos
      width_le := resolves.width_le }

/-- `connect` on a valid specification. -/
theorem connect_spec (valid : spec.Valid board links) {fuel : Nat}
    (enough : spec.devices.length < fuel) :
    ∃ wiring order, Wired links wiring ∧ order.Nodup ∧ order ⊆ spec.ids ∧
      Kahn.Sorted (links.map Link.edge) order ∧
      (order.length = spec.devices.length ↔ ¬Kahn.Cyclic (links.map Link.edge)) ∧
      spec.connect board fuel =
        some (if order.length ≠ spec.devices.length then .error .cycle else .ok (wiring, order)) := by
  obtain ⟨wiring, connected, wired⟩ := valid.wired
  have lengths : spec.ids.length = spec.devices.length := List.length_map _
  have closed : ∀ edge ∈ links.map Link.edge, edge.1 ∈ spec.ids ∧ edge.2 ∈ spec.ids := by
    intro edge member
    obtain ⟨link, linkIn, rfl⟩ := List.mem_map.mp member
    obtain ⟨source, target, -⟩ := valid.link_mem linkIn
    exact ⟨source, target⟩
  have bounded : ∀ id, Kahn.pending (links.map Link.edge) [] id ≤ wordCounter.bound := by
    intro id
    have few := (board id).few
    have := valid.pending_le id
    simp only [wordCounter]
    omega
  obtain ⟨order, visited, nodup, subset, sorted, full⟩ :=
    Kahn.sort_spec valid.ids closed bounded (fun id _ => congrFun wired.indegree id)
      (lengths ▸ enough)
  rw [lengths] at full
  refine ⟨wiring, order, wired, nodup, subset, sorted, full, ?_⟩
  rw [← wired.successors] at visited
  simp only [PlatformSpec.connect, connected]
  exact congrArg (Option.map _) visited

end PlatformSpec.Valid

/-- Sideband scheduling orders the devices topologically.  In whatever order a valid
specification lists its instances, `connect` terminates; it reports a cycle exactly if
the connections have one, and otherwise lists every instance once, the source of each
connection before its target. -/
theorem sideband_order_correct (spec : PlatformSpec) (board : Board) (links : List Link)
    (valid : spec.Valid board links) (listing : List DeviceSpec)
    (perm : listing.Perm spec.devices) (fuel : Nat) (enough : spec.devices.length < fuel) :
    ({ spec with devices := listing }.connect board fuel = some (.error .cycle) ↔
      Kahn.Cyclic (links.map Link.edge)) ∧
    (¬Kahn.Cyclic (links.map Link.edge) → ∃ wiring order,
      { spec with devices := listing }.connect board fuel = some (.ok (wiring, order)) ∧
        order.Perm spec.ids ∧
        ∀ link ∈ links, order.idxOf link.source < order.idxOf link.target) := by
  have relisted := valid.relist perm
  obtain ⟨wiring, order, -, nodup, subset, sorted, full, connected⟩ :=
    relisted.connect_spec (perm.length_eq ▸ enough)
  have idsPerm : PlatformSpec.ids { spec with devices := listing } |>.Perm spec.ids :=
    perm.map DeviceSpec.id
  rw [connected]
  constructor
  · by_cases cyclic : Kahn.Cyclic (links.map Link.edge)
    · have short : order.length ≠ listing.length := fun all => full.mp all cyclic
      simp [short, cyclic]
    · have all : order.length = listing.length := full.mpr cyclic
      simp [all, cyclic]
  · intro acyclic
    have all : order.length = listing.length := full.mpr acyclic
    have idsLength : (PlatformSpec.ids { spec with devices := listing }).length = listing.length :=
      List.length_map _
    have orderPerm := (nodup.subperm subset).perm_of_length_le (by omega)
    refine ⟨wiring, order, by simp [all], orderPerm.trans idsPerm, fun link member => ?_⟩
    refine sorted.idxOf_lt (List.mem_map_of_mem member) ?_
    exact orderPerm.mem_iff.mpr (relisted.link_mem member).2.1

/-- Devices with one input and one output of one bit. -/
def relay : DevicePorts where
  inputs := 1
  few := by decide
  input name := if name = "in" then some 0 else none
  input_lt := by
    intro name index found
    split at found
    · cases found
      decide
    · cases found
  inputWidth _ := 1
  output name := if name = "irq" then some 0 else none
  outputWidth _ := 1

/-- A sink that is listed before its source. -/
def relaySpec : PlatformSpec where
  devices := [{ id := "sink", type := "relay" }, { id := "source", type := "relay" }]
  connections := [{ source := "source.irq", destination := "sink.in" }]

theorem relaySpec_valid : relaySpec.Valid (fun _ => relay) [⟨"source", 0, "sink", 0⟩] where
  ids := by decide
  resolved := by
    refine .cons ⟨⟨"irq", ?_, by decide, rfl⟩, ⟨"in", ?_, by decide, rfl⟩, rfl, ?_, ?_⟩ .nil
    · rfl
    · rfl
    · decide
    · decide
  driven := by simp

theorem sideband_order_correct_relay :
    ∃ wiring order, relaySpec.connect (fun _ => relay) 3 = some (.ok (wiring, order)) ∧
      order.Perm ["sink", "source"] ∧ order.idxOf "source" < order.idxOf "sink" := by
  have acyclic : ¬Kahn.Cyclic ([⟨"source", 0, "sink", 0⟩].map Link.edge) := by
    rintro ⟨node, path⟩
    obtain ⟨_, first, _⟩ := Relation.TransGen.head'_iff.mp path
    obtain ⟨_, _, last⟩ := Relation.TransGen.tail'_iff.mp path
    simp only [List.map_cons, List.map_nil, Link.edge, List.mem_singleton, Prod.mk.injEq]
      at first last
    exact absurd (first.1.symm.trans last.2) (by decide)
  obtain ⟨wiring, order, connected, perm, before⟩ :=
    (sideband_order_correct relaySpec (fun _ => relay) [⟨"source", 0, "sink", 0⟩] relaySpec_valid
      relaySpec.devices (.refl _) 3 (by decide)).2 acyclic
  exact ⟨wiring, order, connected, perm, before ⟨"source", 0, "sink", 0⟩ (by simp)⟩

end AxiTestbench
