import AxiTestbench.Fabric.Soundness

/-!
# What the fabric can accuse an initiator of

In a state that a run can reach, the checks inside the engines that guard the
fabric's own bookkeeping cannot fail.  What is left of the ways to throw are the
protocol errors: an illegal request, a misplaced WLAST, an illegal strobe, an
exhausted monitor table and a VALID that was withdrawn.
-/

namespace AxiTestbench

open Lib Outcome

variable {c : Config} {W : Type}

/-- The next W beat does not fit the write it belongs to. -/
def WriteRoute.Misfit (route : WriteRoute c) (beat : c.WriteBeat) : Prop :=
  beat.last ≠ (route.beat + 1 == route.payload.beats) ∨
    ∃ lane, beat.strobe lane ≠ 0 ∧ route.payload.mask c.dataBytes route.beat lane = 0

/-- Details of the accusations of the write engine. -/
def beatDetails : List String :=
  ["WLAST missing on final beat", "WLAST asserted before final beat",
    "WSTRB selects an illegal byte lane"]

/-- States that the steps of the fabric can reach. -/
def Reachable (env : FabricEnv W) (state : Pipeline c W) : Prop :=
  ∃ world history, Traces (Pipeline.Step env) (.empty c world) history state

namespace Reachable

variable {env : FabricEnv W} {state : Pipeline c W}

theorem ordered (reachable : Reachable env state) : Ordered state := by
  obtain ⟨world, history, traces⟩ := reachable
  obtain ⟨start, epoch⟩ := epoch_traces traces
  exact (Conserved.of_traces epoch).ordered

theorem sound (reachable : Reachable env state) : ∃ history, Sound env history state := by
  obtain ⟨world, history, traces⟩ := reachable
  obtain ⟨start, epoch⟩ := epoch_traces traces
  exact ⟨sinceReset history, .of_traces epoch⟩

theorem validWrite (reachable : Reachable env state) {route : WriteRoute c}
    {routes : List (WriteRoute c)} (front : state.writeRoutes = route :: routes) :
    route.Valid env ∧ route.Started := by
  obtain ⟨history, sound⟩ := reachable.sound
  have member : route ∈ state.writeRoutes := by simp [front]
  exact ⟨(sound.writes route member).1, reachable.ordered.writes route member⟩

theorem validRead (reachable : Reachable env state) {route : ReadRoute c}
    {routes : List (ReadRoute c)} (front : state.readRoutes = route :: routes) :
    route.Valid env ∧ route.beat < route.payload.beats := by
  obtain ⟨history, sound⟩ := reachable.sound
  have member : route ∈ state.readRoutes := by simp [front]
  exact ⟨sound.reads route member, reachable.ordered.reads route member⟩

theorem snoc {next : Pipeline c W} {events : List (Event c)} (reachable : Reachable env state)
    (taken : Pipeline.Step env state events next) : Reachable env next := by
  obtain ⟨world, history, traces⟩ := reachable
  exact ⟨world, history ++ events, .snoc traces taken⟩

theorem advance {before after : AxiFabric c W} {events : List (Event c)}
    (reachable : Reachable env before.view) (advances : Advances env before after events) :
    Reachable env after.view := by
  obtain ⟨world, history, traces⟩ := reachable
  exact ⟨world, history ++ events, traces.trans advances.steps⟩

theorem works {before after : AxiFabric c W} (reachable : Reachable env before.view)
    (works : Works env before after) : Reachable env after.view := by
  obtain ⟨events, advances, -⟩ := works
  exact reachable.advance advances

theorem unsuppressed {fabric : AxiFabric c W} (reachable : Reachable env fabric.view) :
    Reachable env { fabric with suppressRead := false }.view :=
  reachable

end Reachable

namespace AxiFabric

theorem persist_reachable (env : FabricEnv W) (cycles : List (c.Inputs × Bool)) (random : UInt64)
    (stall : Stall) (world : W) :
    Reachable env (persist env cycles (.fresh c random stall world)).view :=
  ⟨world, _, persist_traces env cycles random stall world⟩

/-! ## Illegal requests -/

theorem Refused.accused {env : FabricEnv W} {before : AxiFabric c W} {channel : Channel}
    {queue : Queues c → List AddressPayload} {fault : Fault}
    (refused : Refused env before channel queue fault) :
    ∃ port payload rest, queue (before.view.ports port) = payload :: rest ∧
      ¬Routable c payload ∧ ∃ detail ∈ shapeDetails,
        fault = protocolError before.cycle port channel detail (some payload) := by
  obtain ⟨port, payload, rest, head, failed⟩ := refused
  exact ⟨port, payload, rest, head, initializeRoute_error failed⟩

/-! ## Illegal W beats -/

/-- The commit part of the write engine never throws. -/
theorem CommitThrow.elim {env : FabricEnv W} {world : W} {monitors : Monitors c}
    {route : WriteRoute c} {cursor : BurstCursor c.dataBytes} {fault : Fault}
    (thrown : CommitThrow env world monitors route cursor fault) (valid : route.Valid env)
    (started : route.Started) (built : BurstCursor.new route.payload = .ok cursor) : False := by
  cases thrown with
  | exclusive exclusive failed =>
      cases target : route.target with
      | none =>
          rw [finishExclusiveWrite_forced target] at failed
          cases failed
      | some mapping =>
          by_cases reserved : Reserved monitors route.port route.payload
          · obtain ⟨access, image, done, -⟩ :
                ∃ access image, finishExclusiveWrite env world monitors route cursor = .ok access ∧
                  ExclusiveWritten env world monitors route mapping image access :=
              finishExclusiveWrite_reserved built (valid.shape exclusive)
                (fun _ inRange => valid.starts inRange) target reserved
            rw [done] at failed
            cases failed
          · rw [finishExclusiveWrite_unreserved target reserved] at failed
            cases failed
  | staged failed =>
      have inside := Nat.lt_of_lt_of_le started.commit_lt route.payload.beats_le
      rw [route.staged_eq inside] at failed
      cases failed
  | device mapping data strobe failed =>
      rcases (valid.beatEnd_le started.commit_lt).lt_or_eq with below | top
      · obtain ⟨access, done, -⟩ :
            ∃ access, writeDeviceBeat env world monitors route mapping cursor route.commitBeat data
              strobe = .ok access ∧ BeatWritten env world monitors route mapping route.commitBeat
                data strobe access :=
          writeDeviceBeat_spec built started.commit_lt below
        rw [done] at failed
        cases failed
      · rw [writeDeviceBeat_top built started.commit_lt (valid.starts started.commit_lt) top]
          at failed
        cases failed

/-- The write engine throws only because of the head of the W FIFO. -/
theorem WriteFailed.accused {env : FabricEnv W} {before after : AxiFabric c W} {fault : Fault}
    (failed : WriteFailed env before fault after) (reachable : Reachable env before.view) :
    ∃ route routes beat rest, before.view.writeRoutes = route :: routes ∧
      route.dataComplete = false ∧ (before.view.ports route.port).w = beat :: rest ∧
      route.Misfit beat ∧ ∃ detail ∈ beatDetails,
        fault = protocolError before.cycle route.port .w detail (some route.payload) := by
  obtain ⟨-, -, route, routes, front, thrown⟩ := failed
  obtain ⟨valid, started⟩ := reachable.validWrite front
  have maskEq : ∀ cursor, BurstCursor.new route.payload = .ok cursor →
      route.dataComplete = false →
      cursor.laneMask route.beat = .ok (route.payload.mask c.dataBytes route.beat) := by
    intro cursor built incomplete
    have inRange := started.beat_lt incomplete
    have startLt := valid.starts inRange
    rw [← BurstCursor.payload_of_new built] at inRange startLt ⊢
    exact cursor.laneMask_eq c.dataBytes_eq inRange startLt
  cases thrown with
  | cursor refused =>
      obtain ⟨cursor, built, -⟩ := valid.routable.accepted
      rw [built] at refused
      cases refused
  | commit cursor built complete thrown => exact (thrown.elim valid started built).elim
  | last cursor beat rest built incomplete queue misplaced =>
      have beatsEq : cursor.beats = route.payload.beats := by
        rw [BurstCursor.beats, BurstCursor.payload_of_new built]
      rw [beatsEq] at misplaced ⊢
      refine ⟨route, routes, beat, rest, front, incomplete, queue, .inl misplaced, _, ?_, rfl⟩
      by_cases final : (route.beat + 1 == route.payload.beats) = true
      · simp [final, beatDetails]
      · simp [final, beatDetails]
  | mask cursor built incomplete failed =>
      rw [maskEq cursor built incomplete] at failed
      cases failed
  | strobe cursor beat rest lanes lane built incomplete queue mask strobed illegal =>
      rw [maskEq cursor built incomplete] at mask
      cases mask
      exact ⟨route, routes, beat, rest, front, incomplete, queue, .inr ⟨lane, strobed, illegal⟩, _,
        by simp [beatDetails], rfl⟩
  | index incomplete beyond =>
      exact absurd (Nat.lt_of_lt_of_le (started.beat_lt incomplete) route.payload.beats_le) beyond
  | stagedCommit cursor beat index middle built incomplete staged stagedFront thrown =>
      obtain ⟨others, stagedFront⟩ := stagedFront
      obtain ⟨stagedValid, stagedStarted⟩ := (reachable.snoc staged.step).validWrite stagedFront
      exact (thrown.elim stagedValid stagedStarted built).elim

/-! ## Exhausted monitor table -/

/-- The read engine throws only because the front route finds no monitor. -/
theorem ReadFailed.accused {env : FabricEnv W} {before after : AxiFabric c W} {fault : Fault}
    (failed : ReadFailed env before fault after) (reachable : Reachable env before.view) :
    ∃ route routes, before.view.readRoutes = route :: routes ∧ route.exclusive = true ∧
      route.beat = 0 ∧ route.forcedResponse = .okay ∧
      establishMonitor before.monitors route = none ∧
      fault = protocolError before.cycle route.port .ar "exclusive monitor table exhausted"
        (some route.payload) := by
  obtain ⟨-, -, route, routes, front, -, thrown⟩ := failed
  obtain ⟨valid, running⟩ := reachable.validRead front
  cases thrown with
  | cursor refused =>
      obtain ⟨cursor, built, -⟩ := valid.routable.accepted
      rw [built] at refused
      cases refused
  | exhausted exclusive first okay exhausted =>
      exact ⟨route, routes, front, exclusive, first, okay, exhausted, rfl⟩
  | access cursor built failed =>
      have contradicts : ∀ {rest : ReadAccess c W → Prop},
          (∃ access, readDeviceBeat env before.world route cursor = .ok access ∧ rest access) →
          ∀ {goal : Prop}, goal := by
        rintro rest ⟨access, done, -⟩
        rw [done] at failed
        cases failed
      cases target : route.target with
      | none =>
          exact contradicts (readDeviceBeat_forced target)
      | some mapping =>
          rcases (valid.beatEnd_le running).lt_or_eq with below | top
          · obtain ⟨access, response, data, done, -⟩ :
                ∃ access response data, readDeviceBeat env before.world route cursor = .ok access ∧
                  BeatRead env before.world route mapping response data access :=
              readDeviceBeat_spec built target running below
            rw [done] at failed
            cases failed
          · exact contradicts (readDeviceBeat_top built target running (valid.starts running) top)

/-! ## One cycle -/

/-- Details of the protocol errors other than the report of the stability check. -/
def accusations : List String :=
  shapeDetails ++ beatDetails ++ ["exclusive monitor table exhausted"]

theorem FailedCycle.accused {env : FabricEnv W} {inputs : c.Inputs} {fabric after : AxiFabric c W}
    {fault : Fault} (failed : FailedCycle env inputs fabric fault after)
    (reachable : Reachable env fabric.view) :
    checkStability inputs { fabric with wasReset := false } = .error (fault, after) ∨
      ∃ context, ∃ detail ∈ accusations, fault = .protocol (some context) detail := by
  have listed : ∀ {details : List String}, details ⊆ accusations → ∀ {port : c.Port} {cycle channel}
      {payload}, (∃ detail ∈ details, fault = protocolError cycle port channel detail payload) →
      ∃ context, ∃ detail ∈ accusations, fault = .protocol (some context) detail := by
    rintro details subset port cycle channel payload ⟨detail, member, rfl⟩
    exact ⟨_, detail, subset member, rfl⟩
  have requests : shapeDetails ⊆ accusations := by simp [accusations]
  cases failed with
  | unstable thrown => exact .inl thrown
  | aw arrives refused =>
      obtain ⟨port, payload, rest, -, -, detail⟩ := refused.accused
      exact .inr (listed requests detail)
  | ar arrives aw refused =>
      obtain ⟨port, payload, rest, -, -, detail⟩ := refused.accused
      exact .inr (listed requests detail)
  | write arrives aw ar failed =>
      have here := ((reachable.advance arrives.advances).works aw.works).works ar.works
      obtain ⟨route, routes, beat, rest, -, -, -, -, detail⟩ := failed.accused here
      exact .inr (listed (by simp [accusations]) detail)
  | read arrives aw ar write failed =>
      have here := ((reachable.advance arrives.advances).works aw.works).works ar.works
      have written := here.unsuppressed.works write.works
      obtain ⟨route, routes, -, -, -, -, -, rfl⟩ := failed.accused written
      exact .inr ⟨_, _, by simp [accusations], rfl⟩

end AxiFabric

end AxiTestbench
