import Mathlib.Data.Nat.ModEq
import AxiTestbench.Axi
import AxiTestbench.Lib.Simulation

/-!
# The fixed-capacity ring buffer

`RingBuffer` of `axi.hpp`.  The structure carries the index invariants of the
C++ class, so an ill-formed buffer cannot be built.  `toList` is the queue that
a buffer represents; every operation is characterized by its effect on it, and
slots outside the window of live elements are invisible to that view.
-/

namespace AxiTestbench

structure RingBuffer (capacity : Nat) (T : Type) where
  values : Fin capacity → T
  head : Nat
  size : Nat
  head_lt : head < capacity
  size_le : size ≤ capacity

namespace RingBuffer

variable {capacity : Nat} {T : Type}

/-- A value-initialized buffer. -/
def fresh [Inhabited T] (positive : 0 < capacity) : RingBuffer capacity T where
  values := fun _ => default
  head := 0
  size := 0
  head_lt := positive
  size_le := Nat.zero_le _

def empty (buffer : RingBuffer capacity T) : Bool := buffer.size == 0

def full (buffer : RingBuffer capacity T) : Bool := buffer.size == capacity

/-- The slot `offset` places after the head. -/
def slot (buffer : RingBuffer capacity T) (offset : Nat) : Fin capacity :=
  ⟨(buffer.head + offset) % capacity,
    Nat.mod_lt _ (Nat.zero_lt_of_lt buffer.head_lt)⟩

def front (buffer : RingBuffer capacity T) : Except Fault T :=
  if buffer.empty then
    .error (.logic "front() on empty RingBuffer")
  else
    .ok (buffer.values ⟨buffer.head, buffer.head_lt⟩)

/-- Append an element.  The Boolean tells whether there was room; a full buffer
is left unchanged. -/
def push (buffer : RingBuffer capacity T) (value : T) :
    Bool × RingBuffer capacity T :=
  if full : buffer.size = capacity then
    (false, buffer)
  else
    (true,
      { buffer with
        values := Function.update buffer.values (buffer.slot buffer.size) value
        size := buffer.size + 1
        size_le := Nat.lt_of_le_of_ne buffer.size_le full })

def pop (buffer : RingBuffer capacity T) : Except Fault (RingBuffer capacity T) :=
  if buffer.empty then
    .error (.logic "pop() on empty RingBuffer")
  else
    .ok { buffer with
      head := (buffer.head + 1) % capacity
      size := buffer.size - 1
      head_lt := Nat.mod_lt _ (Nat.zero_lt_of_lt buffer.head_lt)
      size_le := Nat.le_trans (Nat.sub_le _ _) buffer.size_le }

/-- Empty the buffer.  The old elements stay in their slots. -/
def clear (buffer : RingBuffer capacity T) : RingBuffer capacity T :=
  { buffer with
    head := 0
    size := 0
    head_lt := Nat.zero_lt_of_lt buffer.head_lt
    size_le := Nat.zero_le _ }

/-- Assignment through the reference returned by `front()`. -/
def setFront (buffer : RingBuffer capacity T) (value : T) : RingBuffer capacity T :=
  { buffer with
    values := Function.update buffer.values ⟨buffer.head, buffer.head_lt⟩ value }

/-! ## The represented queue -/

/-- The live elements, oldest first. -/
def toList (buffer : RingBuffer capacity T) : List T :=
  (List.range buffer.size).map fun offset => buffer.values (buffer.slot offset)

@[simp] theorem length_toList (buffer : RingBuffer capacity T) :
    buffer.toList.length = buffer.size := by
  simp [toList]

theorem length_toList_le (buffer : RingBuffer capacity T) :
    buffer.toList.length ≤ capacity := by
  simpa using buffer.size_le

@[simp] theorem slot_zero (buffer : RingBuffer capacity T) :
    buffer.slot 0 = ⟨buffer.head, buffer.head_lt⟩ := by
  simp [slot, Nat.mod_eq_of_lt buffer.head_lt]

/-- Distinct offsets within one revolution denote distinct slots. -/
theorem slot_injective (buffer : RingBuffer capacity T) {left right : Nat}
    (leftLt : left < capacity) (rightLt : right < capacity)
    (equal : buffer.slot left = buffer.slot right) : left = right := by
  have congruent : (buffer.head + left) % capacity = (buffer.head + right) % capacity :=
    congrArg Fin.val equal
  have modEq : left ≡ right [MOD capacity] := Nat.ModEq.add_left_cancel' _ congruent
  exact Nat.ModEq.eq_of_lt_of_lt modEq leftLt rightLt

@[simp] theorem toList_fresh [Inhabited T] (positive : 0 < capacity) :
    (fresh positive : RingBuffer capacity T).toList = [] := rfl

@[simp] theorem toList_clear (buffer : RingBuffer capacity T) :
    buffer.clear.toList = [] := rfl

@[simp] theorem empty_iff (buffer : RingBuffer capacity T) :
    buffer.empty = true ↔ buffer.toList = [] := by
  rw [← List.length_eq_zero_iff, length_toList]
  simp [empty]

@[simp] theorem empty_eq_false_iff (buffer : RingBuffer capacity T) :
    buffer.empty = false ↔ buffer.toList ≠ [] := by
  rw [← Bool.not_eq_true, not_congr (empty_iff buffer)]

@[simp] theorem full_iff (buffer : RingBuffer capacity T) :
    buffer.full = true ↔ buffer.toList.length = capacity := by
  simp [full]

@[simp] theorem full_eq_false_iff (buffer : RingBuffer capacity T) :
    buffer.full = false ↔ buffer.toList.length < capacity := by
  have bound := buffer.size_le
  rw [← Bool.not_eq_true, not_congr (full_iff buffer), length_toList]
  omega

/-- A nonempty buffer shows its head slot first. -/
theorem toList_eq_cons (buffer : RingBuffer capacity T) (positive : 0 < buffer.size) :
    buffer.toList = buffer.values ⟨buffer.head, buffer.head_lt⟩ ::
      (List.range (buffer.size - 1)).map
        fun offset => buffer.values (buffer.slot (offset + 1)) := by
  obtain ⟨size, sizeEq⟩ : ∃ size, buffer.size = size + 1 := ⟨buffer.size - 1, by omega⟩
  simp only [toList, sizeEq, List.range_succ_eq_map, List.map_cons, List.map_map, slot_zero]
  rfl

theorem front_eq (buffer : RingBuffer capacity T) {value : T} {rest : List T}
    (queue : buffer.toList = value :: rest) : buffer.front = .ok value := by
  have positive : 0 < buffer.size := by
    rw [← length_toList, queue]
    exact Nat.succ_pos _
  rw [toList_eq_cons buffer positive] at queue
  simp only [List.cons.injEq] at queue
  simp [front, empty, Nat.pos_iff_ne_zero.mp positive, queue.1]

theorem front_eq_error (buffer : RingBuffer capacity T) (queue : buffer.toList = []) :
    buffer.front = .error (.logic "front() on empty RingBuffer") := by
  simp only [front, (empty_iff buffer).mpr queue, if_true]

/-- What `front` returns is the first element of the queue. -/
theorem toList_of_front (buffer : RingBuffer capacity T) {value : T}
    (first : buffer.front = .ok value) : ∃ rest, buffer.toList = value :: rest := by
  cases queue : buffer.toList with
  | nil => simp [front_eq_error buffer queue] at first
  | cons head rest =>
      rw [front_eq buffer queue] at first
      cases first
      exact ⟨rest, rfl⟩

theorem pop_eq (buffer : RingBuffer capacity T) {value : T} {rest : List T}
    (queue : buffer.toList = value :: rest) :
    ∃ popped, buffer.pop = .ok popped ∧ popped.toList = rest := by
  have positive : 0 < buffer.size := by
    rw [← length_toList, queue]
    exact Nat.succ_pos _
  rw [toList_eq_cons buffer positive] at queue
  simp only [List.cons.injEq] at queue
  have nonempty : buffer.empty = false := by simp [empty, Nat.pos_iff_ne_zero.mp positive]
  simp only [pop, nonempty]
  refine ⟨_, rfl, ?_⟩
  rw [← queue.2]
  apply List.map_congr_left
  intro offset _
  have shifted : ((buffer.head + 1) % capacity + offset) % capacity =
      (buffer.head + (offset + 1)) % capacity := by
    rw [Nat.mod_add_mod, Nat.add_assoc, Nat.add_comm 1 offset]
  exact congrArg buffer.values (Fin.ext shifted)

theorem pop_eq_error (buffer : RingBuffer capacity T) (queue : buffer.toList = []) :
    buffer.pop = .error (.logic "pop() on empty RingBuffer") := by
  simp only [pop, (empty_iff buffer).mpr queue, if_true]

theorem push_fst (buffer : RingBuffer capacity T) (value : T) :
    (buffer.push value).1 = !buffer.full := by
  by_cases full : buffer.size = capacity
  · simp [push, RingBuffer.full, full]
  · simp [push, RingBuffer.full, full]

theorem toList_push (buffer : RingBuffer capacity T) (value : T)
    (room : buffer.toList.length < capacity) :
    (buffer.push value).2.toList = buffer.toList ++ [value] := by
  rw [length_toList] at room
  simp only [push, Nat.ne_of_lt room, dif_neg, not_false_eq_true]
  simp only [toList, List.range_succ, List.map_append, List.map_cons, List.map_nil]
  congr 1
  · apply List.map_congr_left
    intro offset member
    rw [List.mem_range] at member
    -- A live slot differs from the slot that is written.
    have different : buffer.slot offset ≠ buffer.slot buffer.size := by
      intro equal
      exact absurd (buffer.slot_injective (by omega) room equal) (by omega)
    exact Function.update_of_ne different _ _
  · simp [slot]

/-- A push with room behind it succeeds and appends. -/
theorem push_eq (buffer : RingBuffer capacity T) (value : T)
    (room : buffer.toList.length < capacity) :
    ∃ pushed, buffer.push value = (true, pushed) ∧ pushed.toList = buffer.toList ++ [value] := by
  refine ⟨(buffer.push value).2, Prod.ext ?_ rfl, buffer.toList_push value room⟩
  rw [push_fst, (full_eq_false_iff buffer).mpr room]
  rfl

theorem size_of_push {buffer pushed : RingBuffer capacity T} {value : T}
    (done : buffer.push value = (true, pushed)) : pushed.size = buffer.size + 1 := by
  rw [push] at done
  split at done
  · simp at done
  · rw [← (Prod.mk.inj done).2]

theorem toList_push_full (buffer : RingBuffer capacity T) (value : T)
    (full : buffer.toList.length = capacity) :
    (buffer.push value).2 = buffer := by
  rw [length_toList] at full
  simp [push, full]

/-- In-place mutation through `front()` changes the first element only. -/
theorem toList_setFront (buffer : RingBuffer capacity T) (value : T)
    {first : T} {rest : List T} (queue : buffer.toList = first :: rest) :
    (buffer.setFront value).toList = value :: rest := by
  have positive : 0 < buffer.size := by
    rw [← length_toList, queue]
    exact Nat.succ_pos _
  have bound := buffer.size_le
  rw [toList_eq_cons buffer positive] at queue
  simp only [List.cons.injEq] at queue
  rw [toList_eq_cons _ (by simpa [setFront] using positive), ← queue.2]
  congr 1
  · simp [setFront]
  · apply List.map_congr_left
    intro offset member
    rw [List.mem_range] at member
    have memberLt : offset < buffer.size - 1 := by simpa [setFront] using member
    have different : buffer.slot (offset + 1) ≠ ⟨buffer.head, buffer.head_lt⟩ := by
      rw [← slot_zero]
      intro equal
      exact absurd (buffer.slot_injective (by omega) (by omega) equal) (by omega)
    exact Function.update_of_ne different _ _

/-! ## Operations see the queue only -/

section Congruence

variable {left right : RingBuffer capacity T} (same : left.toList = right.toList)

include same

theorem empty_congr : left.empty = right.empty := by
  rw [Bool.eq_iff_iff, empty_iff, empty_iff, same]

theorem full_congr : left.full = right.full := by
  rw [Bool.eq_iff_iff, full_iff, full_iff, same]

theorem front_congr : left.front = right.front := by
  cases queue : right.toList with
  | nil => rw [front_eq_error left (same.trans queue), front_eq_error right queue]
  | cons value rest => rw [front_eq left (same.trans queue), front_eq right queue]

theorem pop_congr {faults : Fault → Fault → Prop} (refl : ∀ fault, faults fault fault) :
    Lib.InStep faults (fun popped other => popped.toList = other.toList) left.pop right.pop := by
  cases queue : right.toList with
  | nil =>
      rw [pop_eq_error left (same.trans queue), pop_eq_error right queue]
      exact .error (refl _)
  | cons value rest =>
      obtain ⟨popped, poppedEq, poppedList⟩ := pop_eq left (same.trans queue)
      obtain ⟨other, otherEq, otherList⟩ := pop_eq right queue
      rw [poppedEq, otherEq]
      exact .ok (poppedList.trans otherList.symm)

theorem push_congr (value : T) :
    (left.push value).1 = (right.push value).1 ∧
      (left.push value).2.toList = (right.push value).2.toList := by
  refine ⟨by rw [push_fst, push_fst, full_congr same], ?_⟩
  rcases Nat.lt_or_eq_of_le right.length_toList_le with room | full
  · rw [toList_push left value (same ▸ room), toList_push right value room, same]
  · rw [toList_push_full left value (same ▸ full), toList_push_full right value full, same]

/-- Two pushes of one value into equal queues both find room or both do not. -/
theorem push_both (value : T) :
    (∃ pushed other, left.push value = (true, pushed) ∧ right.push value = (true, other) ∧
      pushed.toList = other.toList) ∨
    ∃ kept other, left.push value = (false, kept) ∧ right.push value = (false, other) := by
  obtain ⟨flags, lists⟩ := push_congr same value
  cases found : (right.push value).1 with
  | true => exact .inl ⟨_, _, Prod.ext (flags.trans found) rfl, Prod.ext found rfl, lists⟩
  | false => exact .inr ⟨_, _, Prod.ext (flags.trans found) rfl, Prod.ext found rfl⟩

theorem setFront_congr (value : T) :
    (left.setFront value).toList = (right.setFront value).toList := by
  cases queue : right.toList with
  | nil =>
      have sizes : left.size = 0 ∧ right.size = 0 := by
        rw [← length_toList, ← length_toList, same, queue]
        exact ⟨rfl, rfl⟩
      simp [toList, setFront, sizes]
  | cons first rest =>
      rw [toList_setFront left value (same.trans queue), toList_setFront right value queue]

end Congruence

end RingBuffer

/-! ## Refinement of a bounded queue -/

/-- The calls of a client.  `mutate` assigns through the reference that `front()` returns. -/
inductive QueueOperation (T : Type) where
  | push (value : T)
  | pop
  | front
  | mutate (change : T → T)
  | clear

/-- What a client sees of a call. -/
inductive QueueResult (T : Type) where
  | pushed (accepted : Bool)
  | first (value : T)
  | done
  | threw (fault : Fault)

/-- A first-in first-out queue of at most `capacity` elements. -/
def queueStep {T : Type} (capacity : Nat) (queue : List T) :
    QueueOperation T → List T × QueueResult T
  | .push value =>
      if queue.length < capacity then (queue ++ [value], .pushed true) else (queue, .pushed false)
  | .pop =>
      match queue with
      | [] => ([], .threw (.logic "pop() on empty RingBuffer"))
      | _ :: rest => (rest, .done)
  | .front =>
      match queue with
      | [] => ([], .threw (.logic "front() on empty RingBuffer"))
      | value :: rest => (value :: rest, .first value)
  | .mutate change =>
      match queue with
      | [] => ([], .threw (.logic "front() on empty RingBuffer"))
      | value :: rest => (change value :: rest, .done)
  | .clear => ([], .done)

/-- The results of a sequence of calls and the state that it leaves. -/
def runCalls {S T : Type} (step : S → QueueOperation T → S × QueueResult T) (start : S) :
    List (QueueOperation T) → S × List (QueueResult T)
  | [] => (start, [])
  | operation :: rest =>
      let (next, result) := step start operation
      let (final, results) := runCalls step next rest
      (final, result :: results)

namespace RingBuffer

variable {capacity : Nat} {T : Type}

/-- A call on the buffer.  Nothing is assigned before a throw. -/
def perform (buffer : RingBuffer capacity T) :
    QueueOperation T → RingBuffer capacity T × QueueResult T
  | .push value => ((buffer.push value).2, .pushed (buffer.push value).1)
  | .pop =>
      match buffer.pop with
      | .ok popped => (popped, .done)
      | .error fault => (buffer, .threw fault)
  | .front =>
      match buffer.front with
      | .ok value => (buffer, .first value)
      | .error fault => (buffer, .threw fault)
  | .mutate change =>
      match buffer.front with
      | .ok value => (buffer.setFront (change value), .done)
      | .error fault => (buffer, .threw fault)
  | .clear => (buffer.clear, .done)

/-- One call does to the represented queue what it does to a bounded queue. -/
theorem perform_refines (buffer : RingBuffer capacity T) (operation : QueueOperation T) :
    ((buffer.perform operation).1.toList, (buffer.perform operation).2) =
      queueStep capacity buffer.toList operation := by
  cases operation with
  | push value =>
      rw [perform, queueStep, push_fst]
      rcases Nat.lt_or_eq_of_le buffer.length_toList_le with room | full
      · rw [if_pos room, toList_push buffer value room, (full_eq_false_iff buffer).mpr room]
        rfl
      · rw [if_neg (Nat.not_lt_of_le full.ge), toList_push_full buffer value full,
          (full_iff buffer).mpr full]
        rfl
  | pop =>
      cases queue : buffer.toList with
      | nil => simp only [perform, queueStep, pop_eq_error buffer queue, queue]
      | cons value rest =>
          obtain ⟨popped, popEq, poppedList⟩ := pop_eq buffer queue
          simp only [perform, queueStep, popEq, poppedList]
  | front =>
      cases queue : buffer.toList with
      | nil => simp only [perform, queueStep, front_eq_error buffer queue, queue]
      | cons value rest => simp only [perform, queueStep, front_eq buffer queue, queue]
  | mutate change =>
      cases queue : buffer.toList with
      | nil => simp only [perform, queueStep, front_eq_error buffer queue, queue]
      | cons value rest =>
          simp only [perform, queueStep, front_eq buffer queue,
            toList_setFront buffer (change value) queue]
  | clear => rfl

/-- A sequence of calls. -/
theorem runCalls_refines (buffer : RingBuffer capacity T) (operations : List (QueueOperation T)) :
    ((runCalls perform buffer operations).1.toList, (runCalls perform buffer operations).2) =
      runCalls (queueStep capacity) buffer.toList operations := by
  induction operations generalizing buffer with
  | nil => rfl
  | cons operation operations ih =>
      have one := perform_refines buffer operation
      have rest := ih (buffer.perform operation).1
      simp only [runCalls]
      rw [← one, ← rest]

/-- A call that is refused leaves every field as it was. -/
theorem perform_refused (buffer : RingBuffer capacity T) (operation : QueueOperation T)
    (refused : (∃ fault, (buffer.perform operation).2 = .threw fault) ∨
      (buffer.perform operation).2 = .pushed false) : (buffer.perform operation).1 = buffer := by
  cases operation with
  | push value =>
      simp only [perform, reduceCtorEq, exists_false, false_or, QueueResult.pushed.injEq, push_fst,
        Bool.not_eq_false', full_iff] at refused
      exact toList_push_full buffer value refused
  | pop =>
      simp only [perform] at refused ⊢
      cases popped : buffer.pop with
      | ok next => simp [popped] at refused
      | error fault => rfl
  | front =>
      simp only [perform]
      cases buffer.front <;> rfl
  | mutate change =>
      simp only [perform] at refused ⊢
      cases first : buffer.front with
      | ok value => simp [first] at refused
      | error fault => rfl
  | clear => simp [perform] at refused

end RingBuffer

/-- The ring buffer refines a bounded queue: for every sequence of calls on a new buffer the
indices stay in range, the results are those of the queue, and so is the queue of live elements
that is left.  Refused calls change nothing.  Buffers with the same live elements cannot be told
apart, whatever their other slots hold. -/
theorem ring_buffer_refines_queue {capacity : Nat} (positive : 0 < capacity) {T : Type}
    [Inhabited T] (operations : List (QueueOperation T)) :
    let start : RingBuffer capacity T := .fresh positive
    let final := (runCalls RingBuffer.perform start operations).1
    final.head < capacity ∧ final.size ≤ capacity ∧
      final.toList = (runCalls (queueStep capacity) [] operations).1 ∧
      (runCalls RingBuffer.perform start operations).2 =
        (runCalls (queueStep capacity) [] operations).2 ∧
      (∀ operation, ((∃ fault, (final.perform operation).2 = .threw fault) ∨
        (final.perform operation).2 = .pushed false) → (final.perform operation).1 = final) ∧
      ∀ (other : RingBuffer capacity T) (later : List (QueueOperation T)),
        other.toList = final.toList →
        (runCalls RingBuffer.perform other later).2 =
          (runCalls RingBuffer.perform final later).2 := by
  intro start final
  have refines := start.runCalls_refines operations
  refine ⟨final.head_lt, final.size_le, congrArg Prod.fst refines, congrArg Prod.snd refines,
    final.perform_refused, fun other later same => ?_⟩
  have left := congrArg Prod.snd (other.runCalls_refines later)
  have right := congrArg Prod.snd (final.runCalls_refines later)
  rw [same] at left
  exact left.trans right.symm

/-- Three slots, of which the last holds a stale element. -/
theorem ring_buffer_refines_queue_three :
    let calls : List (QueueOperation Nat) :=
      [.push 1, .push 2, .push 3, .push 4, .pop, .push 5, .mutate (· + 10), .pop, .pop]
    (runCalls (queueStep 3) [] calls).1 = [5] ∧
      (runCalls RingBuffer.perform (RingBuffer.fresh (by decide : 0 < 3)) calls).1.toList = [5] := by
  intro calls
  exact ⟨by decide, (ring_buffer_refines_queue (by decide : 0 < 3) calls).2.2.1⟩

end AxiTestbench
