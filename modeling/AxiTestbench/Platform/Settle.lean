import AxiTestbench.Lib.Dataflow
import AxiTestbench.Platform.Connect

/-!
# Settling the sidebands

`Platform::settle` calls `settle()` of every device once, in the order that `connect`
has found.  Outputs are part of the state of their device and inputs are read through
the `source` pointers that `connect` has set, so one pass leaves every device settled
against the final values of its inputs.
-/

namespace AxiTestbench

open Lib Outcome

/-! ## Accepted specifications -/

/-- A connection that the loop body accepts resolves, and its input was free. -/
theorem Wired.of_connectOne {spec : PlatformSpec} {board : Board} {links : List Link}
    {wiring next : Wiring} {connection : ConnectionSpec} (wired : Wired links wiring)
    (accepted : spec.connectOne board wiring connection = .ok next) :
    ∃ link, connection.ResolvesTo spec board link ∧ (∀ other ∈ links, other.Separate link) ∧
      Wired (links ++ [link]) next := by
  have known : ∀ {id index}, spec.device id = .ok index → id ∈ spec.ids := by
    intro id index found
    simp only [PlatformSpec.device] at found
    split at found
    next position search =>
      obtain ⟨inRange, same, -⟩ := List.findIdx?_eq_some_iff_getElem.mp search
      exact (beq_iff_eq.mp same) ▸ List.getElem_mem inRange
    next => cases found
  have written := accepted
  simp only [PlatformSpec.connectOne, bind_eq_ok_iff, Prod.exists] at accepted
  obtain ⟨src, srcPort, srcParsed, dst, dstPort, dstParsed, srcIndex, srcDevice, dstIndex, dstDevice,
    accepted⟩ := accepted
  split at accepted
  next => cases accepted
  next input inputFound =>
    split at accepted
    next => cases accepted
    next undriven =>
      obtain ⟨signalId, signal, output, -⟩ := by
        simpa only [bind_eq_ok_iff, Prod.exists] using accepted
      simp only [PlatformSpec.output, bind_eq_ok_iff, Prod.exists] at output
      obtain ⟨outId, outPort, outParsed, outIndex, outDevice, output⟩ := output
      obtain ⟨rfl, rfl⟩ : outId = src ∧ outPort = srcPort := by
        rw [srcParsed] at outParsed
        cases outParsed
        exact ⟨rfl, rfl⟩
      split at output
      next => cases output
      next found outputFound =>
        split at output
        next => cases output
        next fits =>
          obtain ⟨rfl, rfl⟩ : outId = signalId ∧ found = signal := by
            cases output
            exact ⟨rfl, rfl⟩
          simp only [not_or, not_not, UInt32.not_lt, gt_iff_lt] at fits
          let link : Link := ⟨outId, found, dst, input⟩
          have resolves : connection.ResolvesTo spec board link :=
            { source := ⟨outPort, srcParsed, known srcDevice, outputFound⟩
              target := ⟨dstPort, dstParsed, known dstDevice, inputFound⟩
              width := fits.1
              width_pos := UInt32.pos_iff_ne_zero.mpr fits.2.1
              width_le := fits.2.2 }
          have free : ∀ other ∈ links, other.Separate link := by
            rintro other member ⟨target, inputEq⟩
            have driven := (wired.source dst input _).mpr ⟨other, member, target, inputEq, rfl⟩
            rw [not_not.mp undriven] at driven
            cases driven
          obtain ⟨after, done, wiredNext⟩ := wired.snoc resolves free
          rw [done] at written
          cases written
          exact ⟨link, resolves, free, wiredNext⟩

/-- A specification whose connections are accepted is valid. -/
theorem PlatformSpec.valid_of_connected {spec : PlatformSpec} {board : Board} {wiring : Wiring}
    (ids : spec.ids.Nodup)
    (connected : spec.connections.foldlM (spec.connectOne board) {} = .ok wiring) :
    ∃ links, spec.Valid board links := by
  suffices collect : ∀ (connections : List ConnectionSpec) (links : List Link) (start : Wiring),
      Wired links start → connections.foldlM (spec.connectOne board) start = .ok wiring →
      links.Pairwise Link.Separate →
      ∃ rest, List.Forall₂ (ConnectionSpec.ResolvesTo spec board) connections rest ∧
        (links ++ rest).Pairwise Link.Separate by
    have empty : Wired [] {} := ⟨by simp, rfl, rfl⟩
    obtain ⟨links, resolved, driven⟩ := collect _ [] {} empty connected .nil
    exact ⟨links, ids, resolved, by simpa using driven⟩
  intro connections
  induction connections with
  | nil => exact fun links _ _ _ driven => ⟨[], .nil, by simpa using driven⟩
  | cons connection connections ih =>
      intro links start wired connected driven
      rw [List.foldlM_cons, bind_eq_ok_iff] at connected
      obtain ⟨next, first, later⟩ := connected
      obtain ⟨link, resolves, free, wiredNext⟩ := wired.of_connectOne first
      have extended : (links ++ [link]).Pairwise Link.Separate :=
        List.pairwise_append.mpr ⟨driven, List.pairwise_singleton _ _, by
          intro other member new newIn
          rw [List.mem_singleton.mp newIn]
          exact free other member⟩
      obtain ⟨rest, resolved, all⟩ := ih _ next wiredNext later extended
      exact ⟨link :: rest, .cons resolves resolved, by simpa using all⟩

/-! ## One pass -/

/-- What a device does in `settle()`: its own state, outputs included, becomes a function of
that state and of the values at its inputs.  Settling twice at the same inputs is settling
once. -/
structure Settling where
  State : Type
  settle : State → (Nat → UInt64) → State
  output : State → Nat → UInt64
  settle_settle : ∀ state inputs, settle (settle state inputs) inputs = settle state inputs

section Settle

variable (devices : String → Settling)

/-- `InputSignal::value`: an unconnected input reads as zero. -/
def Wiring.inputs (wiring : Wiring) (states : ∀ id, (devices id).State) (id : String)
    (input : Nat) : UInt64 :=
  match wiring.source id input with
  | none => 0
  | some (source, signal) => (devices source).output (states source) signal

def Wiring.settleDevice (wiring : Wiring) (id : String) (states : ∀ id, (devices id).State) :
    (devices id).State :=
  (devices id).settle (states id) (wiring.inputs devices states id)

/-- `Platform::settle` in the order `order`. -/
def Wiring.settle (wiring : Wiring) (order : List String) (states : ∀ id, (devices id).State) :
    ∀ id, (devices id).State :=
  pass (wiring.settleDevice devices) order states

/-- A device reads the devices that its inputs point to. -/
def Wiring.Reads (wiring : Wiring) (id source : String) : Prop :=
  ∃ input signal, wiring.source id input = some (source, signal)

variable {devices}

theorem Wiring.inputs_congr {wiring : Wiring} {left right : ∀ id, (devices id).State}
    {id : String} (same : ∀ source, wiring.Reads id source → left source = right source) :
    wiring.inputs devices left id = wiring.inputs devices right id := by
  funext input
  rw [inputs, inputs]
  cases driver : wiring.source id input with
  | none => rfl
  | some driven =>
      have equal := same driven.1 ⟨input, driven.2, driver⟩
      simp only [equal]

theorem Wiring.settleDevice_local (wiring : Wiring) :
    Local (wiring.settleDevice devices) wiring.Reads where
  congr id left right own same := by
    rw [settleDevice, settleDevice, own, inputs_congr same]

end Settle

/-- The order of an accepted platform lists every device after the devices it reads. -/
theorem PlatformSpec.scheduled_of_accepted {spec : PlatformSpec} {board : Board} {fuel : Nat}
    {wiring : Wiring} {order : List String} (ids : spec.ids.Nodup)
    (enough : spec.devices.length < fuel)
    (accepted : spec.connect board fuel = some (.ok (wiring, order))) :
    Scheduled wiring.Reads order ∧ order.Perm spec.ids := by
  obtain ⟨links, valid⟩ : ∃ links, spec.Valid board links := by
    have connected := accepted
    rw [connect] at connected
    split at connected
    next => cases connected
    next found loop => exact valid_of_connected ids loop
  obtain ⟨found, sorted, wired, nodup, subset, ordered, -, connected⟩ := valid.connect_spec enough
  rw [accepted] at connected
  split at connected
  next => cases connected
  next full =>
    cases connected
    have length : spec.ids.length = spec.devices.length := List.length_map _
    have perm := (nodup.subperm subset).perm_of_length_le (by omega)
    have edge : ∀ {id source}, wiring.Reads id source → (source, id) ∈ links.map Link.edge := by
      rintro id source ⟨input, signal, driver⟩
      obtain ⟨link, member, rfl, -, same⟩ := (wired.source _ _ _).mp driver
      cases same
      exact List.mem_map_of_mem member
    exact ⟨⟨nodup, fun front id rest split source reads =>
      ordered front id rest split source (edge reads)⟩, perm⟩

/-- One pass over an accepted platform reaches the fixpoint.  Every device has settled from
its old state against the final values of its inputs, settling again changes nothing, and
every other topological order gives the same states. -/
theorem settle_reaches_fixpoint (spec : PlatformSpec) (board : Board) (fuel : Nat)
    (wiring : Wiring) (order : List String) (ids : spec.ids.Nodup)
    (enough : spec.devices.length < fuel)
    (accepted : spec.connect board fuel = some (.ok (wiring, order)))
    (devices : String → Settling) (states : ∀ id, (devices id).State) :
    let final := wiring.settle devices order states
    (∀ id ∈ spec.ids,
      final id = (devices id).settle (states id) (wiring.inputs devices final id) ∧
      (devices id).settle (final id) (wiring.inputs devices final id) = final id) ∧
    wiring.settle devices order final = final ∧
    (∀ id, wiring.inputs devices (wiring.settle devices order final) id =
      wiring.inputs devices final id) ∧
    ∀ other : List String, other.Perm spec.ids →
      (∀ id input source signal, wiring.source id input = some (source, signal) →
        other.idxOf source < other.idxOf id) →
      wiring.settle devices other states = final := by
  intro final
  obtain ⟨scheduled, perm⟩ := spec.scheduled_of_accepted ids enough accepted
  have isLocal : Local (wiring.settleDevice devices) wiring.Reads := wiring.settleDevice_local
  have settled : ∀ id ∈ spec.ids,
      final id = (devices id).settle (states id) (wiring.inputs devices final id) := by
    intro id member
    have listed : id ∈ order := perm.mem_iff.mpr member
    have fired : final id = _ := pass_eq isLocal scheduled listed states
    rw [fired, Wiring.settleDevice, Function.update_self]
    congr 1
    refine Wiring.inputs_congr fun source reads => ?_
    -- A device does not read itself: it would come before itself in the order.
    have different : source ≠ id := by
      rintro rfl
      obtain ⟨front, rest, split⟩ := List.append_of_mem listed
      have early := scheduled.before front source rest split source reads
      have nodup := scheduled.nodup
      rw [split, List.nodup_append] at nodup
      exact nodup.2.2 source early source (by simp) rfl
    rw [Function.update_of_ne different]
    rfl
  have fixed : ∀ id ∈ spec.ids,
      (devices id).settle (final id) (wiring.inputs devices final id) = final id := by
    intro id member
    have once := settled id member
    generalize wiring.inputs devices final id = inputs at once ⊢
    rw [once]
    exact (devices id).settle_settle (states id) inputs
  have again : wiring.settle devices order final = final :=
    pass_of_fixed fun id member => fixed id (perm.mem_iff.mp member)
  refine ⟨fun id member => ⟨settled id member, fixed id member⟩, again, fun id => by rw [again], ?_⟩
  intro other otherPerm before
  have nodup : other.Nodup := otherPerm.nodup_iff.mpr ids
  have otherScheduled : Scheduled wiring.Reads other := by
    refine ⟨nodup, ?_⟩
    rintro front id rest split source ⟨input, signal, driver⟩
    have earlier := before id input source signal driver
    by_contra notFront
    have fresh : id ∉ front := by
      rw [split, List.nodup_append] at nodup
      exact fun early => nodup.2.2 id early id (by simp) rfl
    rw [split, List.idxOf_append_of_notMem fresh, List.idxOf_append_of_notMem notFront,
      List.idxOf_cons_self] at earlier
    omega
  exact pass_unique isLocal scheduled otherScheduled
    (fun id => otherPerm.mem_iff.trans perm.mem_iff.symm) states

/-- A device that raises its output while it holds a request or its input is high. -/
def relayed : Settling where
  State := UInt64 × UInt64
  settle state inputs := (state.1, state.1 ||| inputs 0)
  output state _ := state.2
  settle_settle _ _ := rfl

def relayWiring : Wiring where
  source := Function.update (fun _ _ => none) "sink"
    (Function.update (fun _ => none) 0 (some ("source", 0)))
  successors := Function.update (fun _ => []) "source" ["sink"]
  indegree := Function.update (fun _ => 0) "sink" 1

theorem settle_reaches_fixpoint_relay :
    relaySpec.connect (fun _ => relay) 3 = some (.ok (relayWiring, ["source", "sink"])) ∧
    ∃ final, relayWiring.settle (fun _ => relayed) ["source", "sink"]
        (fun id => if id = "source" then (1, 0) else (0, 0)) = final ∧
      final "sink" = (0, 1) ∧
      relayWiring.settle (fun _ => relayed) ["source", "sink"] final = final := by
  have accepted :
      relaySpec.connect (fun _ => relay) 3 = some (.ok (relayWiring, ["source", "sink"])) := by
    rfl
  have fixpoint := settle_reaches_fixpoint relaySpec (fun _ => relay) 3 relayWiring
    ["source", "sink"] (by decide) (by decide) accepted (fun _ => relayed)
    fun id => if id = "source" then (1, 0) else (0, 0)
  exact ⟨accepted, _, rfl, by rfl, fixpoint.2.1⟩

end AxiTestbench
