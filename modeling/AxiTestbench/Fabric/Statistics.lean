import AxiTestbench.Fabric.Ledger
import AxiTestbench.Lib.Check

/-!
# Read statistics

`ReadStatistics` of `sim_main.cpp`.  The simulation loop samples the pins between `drive` and
`commit` and counts the read traffic of every port.
-/

namespace AxiTestbench

open Lib Outcome

variable {c : Config} {W : Type}

/-- `ReadStatistics::Port`. -/
structure PortStatistics where
  requests : UInt64 := 0
  bytesRequested : UInt64 := 0
  beatsReceived : UInt64 := 0

namespace PortStatistics

def request (stats : PortStatistics) (payload : AddressPayload) : PortStatistics :=
  { stats with
    requests := stats.requests + 1
    bytesRequested := stats.bytesRequested +
      ((payload.length.toUInt64 + 1) <<< payload.size.toUInt64) }

def receive (stats : PortStatistics) : PortStatistics :=
  { stats with beatsReceived := stats.beatsReceived + 1 }

/-- The body of the loop of `sample`. -/
def sample {dataBytes : Nat} (stats : PortStatistics) (master : MasterSignals dataBytes)
    (slave : SlaveSignals dataBytes) : PortStatistics :=
  let stats := if master.arValid && slave.arReady then stats.request master.ar else stats
  if master.rReady && slave.rValid then stats.receive else stats

end PortStatistics

structure ReadStatistics (c : Config) where
  enabled : Bool
  ports : c.Port → PortStatistics := fun _ => {}

/-- `ReadStatistics::sample`. -/
def ReadStatistics.sample (stats : ReadStatistics c) (masters : c.Inputs) (slaves : c.Outputs)
    (reset : Bool) : ReadStatistics c :=
  if !stats.enabled || reset then stats
  else { stats with ports := fun port => (stats.ports port).sample (masters port) (slaves port) }

namespace AxiFabric

/-- A cycle of the loop with its statistics. -/
def sampledCycle (env : FabricEnv W) (state : AxiFabric c W × ReadStatistics c)
    (input : c.Inputs × Bool) :
    Outcome Fault (AxiFabric c W × ReadStatistics c) (AxiFabric c W × ReadStatistics c) :=
  let driven := drive input.2 state.1
  let stats := state.2.sample input.1 driven.outputs input.2
  match commit env input.1 input.2 driven with
  | .ok fabric => .ok (fabric, stats)
  | .error (fault, fabric) => .error (fault, (fabric, stats))

def sampledRun (env : FabricEnv W) (cycles : List (c.Inputs × Bool)) (fabric : AxiFabric c W)
    (enabled : Bool) :
    Outcome Fault (AxiFabric c W × ReadStatistics c) (AxiFabric c W × ReadStatistics c) :=
  cycles.foldlM (sampledCycle env) (fabric, { enabled })

/-- The beats that a port has asked for and not received. -/
def outstanding (fabric : AxiFabric c W) (port : c.Port) : Nat :=
  (fabric.ports port).r.toList.length +
    ((readsOf port fabric.readRoutes.toList).map fun route =>
      route.payload.beats - route.beat).sum +
    totalBeats (fabric.ports port).ar.toList

end AxiFabric

/-! ## Handshakes of one port -/

namespace AxiFabric

variable {inputs : c.Inputs}

/-- What an active cycle that returns adds to the trace of a port. -/
theorem reads_of_active {env : FabricEnv W} {fabric after : AxiFabric c W}
    (done : cycleWith env fabric (inputs, false) = .ok after) (port : c.Port) :
    arOf port after.trace = arOf port fabric.trace ++
        (if (inputs port).arValid && ((drive false fabric).outputs port).arReady
          then [(inputs port).ar] else []) ∧
      rOf port after.trace = rOf port fabric.trace ++
        (if ((drive false fabric).outputs port).rValid && (inputs port).rReady
          then [((drive false fabric).outputs port).r] else []) := by
  have ends := commit_active env inputs (drive false fabric) (drive_driven fabric)
  rw [show commit env inputs false (drive false fabric) = .ok after from done, ends_ok] at ends
  obtain ⟨work, internal, advances⟩ := ends
  obtain ⟨-, -, -, ar, r⟩ := onWires_handshakes (drive false fabric).outputs inputs port
  obtain ⟨-, -, -, noAr, noR⟩ : OnWires [] work port := .of_internal internal
  rw [advances.trace, trace_drive]
  simp only [arOf, rOf, picked_append] at ar r noAr noR ⊢
  rw [ar, r, noAr, noR]
  constructor <;> (simp only [List.filterMap_cons, List.filterMap_nil, moved]; split <;> simp_all)

theorem reads_of_reset {env : FabricEnv W} {fabric after : AxiFabric c W}
    (done : cycleWith env fabric (inputs, true) = .ok after) (port : c.Port) :
    arOf port after.trace = arOf port fabric.trace ∧
      rOf port after.trace = rOf port fabric.trace := by
  obtain ⟨reset, same, advances⟩ := commit_reset env inputs (drive true fabric)
  obtain rfl : after = reset := Except.ok.inj (done.symm.trans same)
  rw [advances.trace, trace_drive]
  by_cases held : (drive true fabric).wasReset = true
  · simp [held]
  · by_cases devices : env.resetDevices = true <;> simp [held, devices, picked]

end AxiFabric

/-! ## Counters -/

/-- The counters of a port after these requests and beats. -/
structure PortStatistics.Counts (stats : PortStatistics) (payloads : List AddressPayload)
    (beats : Nat) : Prop where
  requests : stats.requests = .ofNat payloads.length
  bytesRequested : stats.bytesRequested = .ofNat (payloads.map AddressPayload.total).sum
  beatsReceived : stats.beatsReceived = .ofNat beats

theorem AddressPayload.shifted_eq_total {payload : AddressPayload} (size : payload.size < 8) :
    (payload.length.toUInt64 + 1) <<< payload.size.toUInt64 = .ofNat payload.total := by
  have small : payload.size.toNat < 8 := size
  have shift : payload.size.toNat % 64 = payload.size.toNat := by omega
  rw [← UInt64.toNat_inj]
  simp [UInt64.toNat_shiftLeft, UInt64.toNat_add, total, beats, beatBytes, shift,
    Nat.shiftLeft_eq]

namespace PortStatistics.Counts

variable {stats : PortStatistics} {payloads : List AddressPayload} {beats : Nat}

theorem request (counts : stats.Counts payloads beats) {payload : AddressPayload}
    (size : payload.size < 8) : (stats.request payload).Counts (payloads ++ [payload]) beats where
  requests := by simp [PortStatistics.request, counts.requests]
  bytesRequested := by
    simp [PortStatistics.request, counts.bytesRequested, payload.shifted_eq_total size]
  beatsReceived := counts.beatsReceived

theorem receive (counts : stats.Counts payloads beats) :
    stats.receive.Counts payloads (beats + 1) where
  requests := counts.requests
  bytesRequested := counts.bytesRequested
  beatsReceived := by simp [PortStatistics.receive, counts.beatsReceived]

theorem sample {dataBytes : Nat} (counts : stats.Counts payloads beats)
    {master : MasterSignals dataBytes} {slave : SlaveSignals dataBytes} (size : master.ar.size < 8) :
    (stats.sample master slave).Counts
      (payloads ++ if master.arValid && slave.arReady then [master.ar] else [])
      (beats + if slave.rValid && master.rReady then 1 else 0) := by
  have asked : (if master.arValid && slave.arReady then stats.request master.ar else stats).Counts
      (payloads ++ if master.arValid && slave.arReady then [master.ar] else []) beats := by
    split
    next => exact counts.request size
    next => rwa [List.append_nil]
  rw [PortStatistics.sample, Bool.and_comm slave.rValid]
  split
  next => exact asked.receive
  next => exact asked

end PortStatistics.Counts

/-! ## Balance -/

/-- The beats of the accepted reads are received or still due. -/
theorem ReadAccount.totalBeats_eq {port : c.Port} {history : List (Event c)} {state : Pipeline c W}
    (account : ReadAccount port history state) :
    totalBeats (arOf port history) = (rOf port history).length + ((state.ports port).r.length +
      ((readsOf port state.readRoutes).map fun route => route.payload.beats - route.beat).sum +
      totalBeats (state.ports port).ar) := by
  have shapes : ∀ payloads : List AddressPayload,
      (payloads.flatMap readShape).length = totalBeats payloads := by
    intro payloads
    simp [readShape, totalBeats, List.length_flatMap]
  have due : ∀ routes : List (ReadRoute c), (routes.flatMap ReadRoute.remaining).length =
      (routes.map fun route => route.payload.beats - route.beat).sum := by
    intro routes
    simp [ReadRoute.remaining, readShape, List.length_flatMap]
  have beats := congrArg List.length account.ar
  rw [← account.r] at beats
  simp only [List.length_append, List.length_map, shapes, due] at beats
  omega

section Traces

variable {env : FabricEnv W} {world : W} {trace : List (Event c)} {state : Pipeline c W}

theorem account_sinceReset (traces : Traces (Pipeline.Step env) (.empty c world) trace state)
    (port : c.Port) : ReadAccount port (sinceReset trace) state := by
  obtain ⟨start, epoch⟩ := epoch_traces traces
  exact (Conserved.of_traces epoch).reads port

/-- A reset drops beats that are due, never more than were asked for. -/
theorem received_le (traces : Traces (Pipeline.Step env) (.empty c world) trace state)
    (port : c.Port) : (rOf port trace).length ≤ totalBeats (arOf port trace) := by
  -- What was received before the last reset is covered by what was asked for before it.
  have earlier : (rOf port trace).length + totalBeats (arOf port (sinceReset trace)) ≤
      totalBeats (arOf port trace) + (rOf port (sinceReset trace)).length := by
    induction traces with
    | refl => simp [sinceReset]
    | @snoc state next events more prior taken ih =>
        have current := (account_sinceReset prior port).totalBeats_eq
        by_cases cleared : Event.reset ∈ more
        · obtain ⟨rfl, -⟩ := taken.eq_reset cleared
          rw [sinceReset_reset]
          simp only [rOf, arOf, picked_append, picked_singleton, Event.r?, Event.ar?,
            Option.toList_none, List.append_nil, picked_nil, totalBeats_nil, List.length_nil]
            at ih current ⊢
          omega
        · have active : ∀ event ∈ more, event.isReset = false := by
            intro event member
            cases event with
            | reset => exact absurd member cleared
            | _ => rfl
          rw [sinceReset_append_of_active events active]
          simp only [rOf, arOf, picked_append, List.length_append, totalBeats_append] at ih ⊢
          omega
  have current := (account_sinceReset traces port).totalBeats_eq
  omega

end Traces

theorem picked_sinceReset_eq_nil {T : Type} {select : Event c → Option T} {trace : List (Event c)}
    (none : picked select trace = []) : picked select (sinceReset trace) = [] :=
  AxiFabric.picked_eq_nil_iff.mpr fun event member =>
    AxiFabric.picked_eq_nil_iff.mp none event (mem_of_mem_sinceReset member)

/-! ## Runs -/

/-- No cycle in reset comes after an active one, as in the simulation loop. -/
def ResetFirst (cycles : List (c.Inputs × Bool)) : Prop :=
  cycles.Pairwise fun earlier later => later.2 = true → earlier.2 = true

/-- What the cycles so far have left. -/
structure Tallied (port : c.Port) (cycles : List (c.Inputs × Bool)) (fabric : AxiFabric c W)
    (stats : ReadStatistics c) : Prop where
  enabled : stats.enabled = true
  counts : (stats.ports port).Counts (arOf port fabric.trace) (rOf port fabric.trace).length
  silent : (∀ input ∈ cycles, input.2 = true) →
    arOf port fabric.trace = [] ∧ rOf port fabric.trace = []
  current : ResetFirst cycles → arOf port (sinceReset fabric.trace) = arOf port fabric.trace ∧
    rOf port (sinceReset fabric.trace) = rOf port fabric.trace

section Runs

variable {env : FabricEnv W} {port : c.Port} {cycles : List (c.Inputs × Bool)}
  {fabric after : AxiFabric c W} {stats next : ReadStatistics c} {inputs : c.Inputs}

theorem AxiFabric.sampledCycle_eq_ok_iff {input : c.Inputs × Bool} :
    sampledCycle env (fabric, stats) input = .ok (after, next) ↔
      cycleWith env fabric input = .ok after ∧
        next = stats.sample input.1 (drive input.2 fabric).outputs input.2 := by
  rw [sampledCycle, cycleWith]
  split
  next committed => simp [committed, eq_comm]
  next committed => simp [committed]

theorem Tallied.reset (tallied : Tallied port cycles fabric stats)
    (done : AxiFabric.cycleWith env fabric (inputs, true) = .ok after) :
    Tallied port (cycles ++ [(inputs, true)]) after stats := by
  obtain ⟨ar, r⟩ := AxiFabric.reads_of_reset done port
  have silent : (∀ input ∈ cycles, input.2 = true) →
      arOf port after.trace = [] ∧ rOf port after.trace = [] := by
    intro all
    obtain ⟨noAr, noR⟩ := tallied.silent all
    exact ⟨ar.trans noAr, r.trans noR⟩
  refine ⟨tallied.enabled, by rw [ar, r]; exact tallied.counts, fun all => ?_, fun first => ?_⟩
  · exact silent fun input member => all input (List.mem_append_left _ member)
  · obtain ⟨-, -, apart⟩ := List.pairwise_append.mp first
    obtain ⟨noAr, noR⟩ := silent fun input member => apart input member _ List.mem_cons_self rfl
    exact ⟨(picked_sinceReset_eq_nil noAr).trans noAr.symm,
      (picked_sinceReset_eq_nil noR).trans noR.symm⟩

theorem Tallied.active (tallied : Tallied port cycles fabric stats)
    (size : (inputs port).ar.size < 8)
    (done : AxiFabric.cycleWith env fabric (inputs, false) = .ok after) :
    Tallied port (cycles ++ [(inputs, false)]) after
      (stats.sample inputs (fabric.drive false).outputs false) := by
  obtain ⟨ar, r⟩ := AxiFabric.reads_of_active done port
  have sampled : stats.sample inputs (fabric.drive false).outputs false = { stats with
      ports := fun port =>
        (stats.ports port).sample (inputs port) ((fabric.drive false).outputs port) } := by
    rw [ReadStatistics.sample, tallied.enabled]
    rfl
  rw [sampled]
  refine ⟨tallied.enabled, ?_, fun all => ?_, fun first => ?_⟩
  · rw [ar, r, List.length_append, apply_ite List.length]
    exact tallied.counts.sample size
  · exact absurd (all (inputs, false) (by simp)) (by simp)
  · obtain ⟨before, -, -⟩ := List.pairwise_append.mp first
    obtain ⟨events, follows, active⟩ := AxiFabric.cycleWith_follows env (inputs, false) fabric
    rw [done, state_ok] at follows
    obtain ⟨sameAr, sameR⟩ := tallied.current before
    rw [follows.trace, sinceReset_append_of_active _ (active rfl)]
    simp only [arOf, rOf, picked_append] at sameAr sameR ⊢
    rw [sameAr, sameR]
    exact ⟨rfl, rfl⟩

theorem tallied_of_sampledRun {start : AxiFabric c W} (fresh : start.trace = [])
    (sizes : ∀ input ∈ cycles, ∀ port, (input.1 port).ar.size < 8)
    (returned : AxiFabric.sampledRun env cycles start true = .ok (after, next)) (port : c.Port) :
    AxiFabric.run env cycles start = .ok after ∧ Tallied port cycles after next := by
  induction cycles using List.reverseRecOn generalizing after next with
  | nil =>
      cases returned
      refine ⟨rfl, rfl, ?_, ?_, ?_⟩ <;> rw [fresh]
      · exact ⟨rfl, rfl, rfl⟩
      · exact fun _ => ⟨rfl, rfl⟩
      · exact fun _ => ⟨rfl, rfl⟩
  | append_singleton cycles input ih =>
      rw [AxiFabric.sampledRun, List.foldlM_append, bind_eq_ok_iff] at returned
      obtain ⟨⟨before, stats⟩, earlier, last⟩ := returned
      simp only [List.foldlM_cons, List.foldlM_nil, bind_pure] at last
      obtain ⟨done, rfl⟩ := AxiFabric.sampledCycle_eq_ok_iff.mp last
      obtain ⟨ran, tallied⟩ := ih (fun input member => sizes input (List.mem_append_left _ member))
        earlier
      refine ⟨?_, ?_⟩
      · rw [AxiFabric.run, List.foldlM_append, ← AxiFabric.run, ran]
        simpa only [ok_bind, List.foldlM_cons, List.foldlM_nil, bind_pure] using done
      · obtain ⟨inputs, reset⟩ := input
        cases reset with
        | true =>
            have idle : stats.sample inputs (before.drive true).outputs true = stats := by
              simp [ReadStatistics.sample]
            rw [idle]
            exact tallied.reset done
        | false => exact tallied.active (sizes (inputs, false) (by simp) port) done

end Runs

/-- The statistics that `--stats` prints.  After every run of the loop that has not thrown, with
resets at any time, the counters of a port are the numbers of read requests that it handed over,
of their bytes and of the beats that it took, modulo `2 ^ 64`; it has taken no more beats than it
asked for; and if the resets came first, the difference is what the fabric still owes it. -/
theorem read_statistics_exact (env : FabricEnv W) (cycles : List (c.Inputs × Bool))
    (sizes : ∀ input ∈ cycles, ∀ port, (input.1 port).ar.size < 8) (random : UInt64)
    (stall : Stall) (world : W) (final : AxiFabric c W) (stats : ReadStatistics c)
    (returned : AxiFabric.sampledRun env cycles (.fresh c random stall world) true =
      .ok (final, stats)) (port : c.Port) :
    (stats.ports port).Counts (arOf port final.trace) (rOf port final.trace).length ∧
    (rOf port final.trace).length ≤ totalBeats (arOf port final.trace) ∧
    (ResetFirst cycles → totalBeats (arOf port final.trace) =
      (rOf port final.trace).length + final.outstanding port) := by
  obtain ⟨ran, tallied⟩ := tallied_of_sampledRun rfl sizes returned port
  have traces := AxiFabric.run_traces env cycles random stall world
  rw [ran, state_ok] at traces
  refine ⟨tallied.counts, received_le traces port, fun first => ?_⟩
  obtain ⟨ar, r⟩ := tallied.current first
  have balance := (account_sinceReset traces port).totalBeats_eq
  rw [ar, r] at balance
  exact balance

/-- A reset, a read of one word, and cycles in which it is answered. -/
def readCycles : List (Config.small.Inputs × Bool) :=
  [(takeAll, true), (readWord 0x1000 3 false, false), (takeAll, false), (takeAll, false)]

theorem read_statistics_exact_small :
    ∃ final stats, AxiFabric.sampledRun smallEnv readCycles (.fresh _ 1 .never smallWorld) true =
        .ok (final, stats) ∧ ∀ port,
      (stats.ports port).Counts (arOf port final.trace) (rOf port final.trace).length ∧
      totalBeats (arOf port final.trace) =
        (rOf port final.trace).length + final.outstanding port := by
  obtain ⟨⟨final, stats⟩, returned⟩ : ∃ after, AxiFabric.sampledRun smallEnv readCycles
      (.fresh _ 1 .never smallWorld) true = .ok after := ⟨_, eq_ok_of_isOk (by decide +kernel)⟩
  have small : ∀ input ∈ readCycles, ∀ port, (input.1 port).ar.size < 8 := by decide
  refine ⟨final, stats, returned, fun port => ?_⟩
  obtain ⟨counts, -, balance⟩ :=
    read_statistics_exact smallEnv readCycles small 1 .never smallWorld final stats returned port
  exact ⟨counts, balance (by simp [ResetFirst, readCycles])⟩

end AxiTestbench
