import AxiTestbench.Fabric.Service
import AxiTestbench.Fabric.Stability

/-!
# Integrity of the fabric's own queues

No cycle of a run finds a queue of the fabric in a state it did not expect, not
even after an exception was caught, and what the fabric pushes without looking at
the result of the push is in the queue until it is taken out.
-/

namespace AxiTestbench

open Lib Outcome

variable {c : Config} {W : Type}

/-- Exceptions that blame the fabric rather than an initiator: a full request FIFO,
`front()` or `pop()` on an empty ring buffer, an index outside an array, a beat
outside its burst, a device call with spans of different lengths. -/
def Fault.Internal : Fault → Prop
  | .protocol _ detail =>
      detail = "internal address FIFO overflow" ∨ detail = "internal write-data FIFO overflow"
  | .logic _ | .outOfRange _ | .invalidArgument _ | .outOfBounds _ => True

namespace AxiFabric

theorem not_internal_of_failed {env : FabricEnv W} {inputs : c.Inputs}
    {fabric after : AxiFabric c W} {fault : Fault}
    (failed : FailedCycle env inputs fabric fault after) (reachable : Reachable env fabric.view) :
    ¬fault.Internal := by
  rcases failed.accused reachable with unstable | ⟨context, detail, member, rfl⟩
  · have check := checkStability_eq inputs { fabric with wasReset := false }
    rw [unstable] at check
    obtain ⟨-, ⟨context, rfl⟩, -⟩ := check
    simp [Fault.Internal]
  · rintro (rfl | rfl)
    · revert member
      decide
    · revert member
      decide

theorem not_internal_of_thrown {env : FabricEnv W} {fabric after : AxiFabric c W}
    {input : c.Inputs × Bool} {fault : Fault} (reachable : Reachable env fabric.view)
    (thrown : cycleWith env fabric input = .error (fault, after)) : ¬fault.Internal := by
  obtain ⟨inputs, resetActive⟩ := input
  cases resetActive with
  | true => cases thrown
  | false =>
      have failed := commit_cycle env inputs (drive false fabric) (drive_driven fabric)
      rw [show commit env inputs false (drive false fabric) = .error (fault, after) from thrown]
        at failed
      exact not_internal_of_failed failed (by simpa using reachable)

end AxiFabric

open AxiFabric in
/-- After any run, whatever exceptions were caught on the way: the next cycle raises
no internal exception, every route pushed since the last reset is finished or
still queued, and every response and R beat pushed is taken or still queued. -/
theorem internal_queues_safe (env : FabricEnv W) (cycles : List (c.Inputs × Bool))
    (random : UInt64) (stall : Stall) (world : W) :
    let fabric := persist env cycles (.fresh c random stall world)
    let epoch := sinceReset fabric.trace
    (∀ input fault after, cycleWith env fabric input = .error (fault, after) → ¬fault.Internal) ∧
      (routedWrites epoch).map (fun route => route.decision) =
        (completedWrites epoch ++ fabric.writeRoutes.toList).map (fun route => route.decision) ∧
      (routedReads epoch).map (fun route => route.decision) =
        (finishedReads epoch ++ fabric.readRoutes.toList).map (fun route => route.decision) ∧
      ∀ port, bOf port epoch ++ (fabric.ports port).b.toList =
          (completedOf port epoch).map WriteRoute.responsePayload ∧
        rOf port epoch ++ (fabric.ports port).r.toList = producedOf port epoch := by
  intro fabric epoch
  obtain ⟨start, traces⟩ := epoch_traces (persist_traces env cycles random stall world)
  have served := Served.of_traces traces
  have conserved := Conserved.of_traces traces
  refine ⟨fun input fault after thrown => ?_, served.writes, served.reads, fun port => ?_⟩
  · exact not_internal_of_thrown (persist_reachable env cycles random stall world) thrown
  · exact ⟨(conserved.writes port).b, (conserved.reads port).r⟩

end AxiTestbench
