import Mathlib.Data.Fintype.Card
import AxiTestbench.Fabric.Reservation
import AxiTestbench.Fabric.Accusation

/-!
# Occupancy of the monitor table

A valid monitor belongs to one port and ID, and no two of them to the same.  The
table is exhausted only when more ports and IDs hold a reservation than it has
entries.
-/

namespace AxiTestbench

open Lib

variable {c : Config} {W : Type}

/-- Monitors were dropped, and none was entered. -/
def Dropped (before after : Monitors c) : Prop :=
  ∀ slot, (after slot).valid = true → after slot = before slot

namespace Dropped

variable {first second third : Monitors c}

theorem refl (monitors : Monitors c) : Dropped monitors monitors := fun _ _ => rfl

theorem trans (left : Dropped first second) (right : Dropped second third) :
    Dropped first third := by
  intro slot valid
  have same := right slot valid
  rw [same] at valid ⊢
  exact left slot valid

theorem invalidate (monitors : Monitors c) (byte : Nat) :
    Dropped monitors (invalidateMonitors monitors byte) := by
  intro slot valid
  simp only [invalidateMonitors] at valid ⊢
  split at valid
  next => simp at valid
  next outside => rw [if_neg outside]

theorem clear (monitors : Monitors c) (port : c.Port) (id : UInt64) :
    Dropped monitors (clearMonitor monitors port id) := by
  intro slot valid
  cases found : findMonitor monitors port id with
  | none => rw [clearMonitor, found]
  | some cleared =>
      rw [clearMonitor, found] at valid ⊢
      by_cases here : slot = cleared
      · subst here
        simp at valid
      · simp [here]

/-- A loop that invalidates the bytes of some of its items. -/
theorem foldl {ι : Type} (items : List ι) (selected : ι → Prop) [DecidablePred selected]
    (byte : ι → Nat) (monitors : Monitors c) :
    Dropped monitors (items.foldl
      (fun monitors item =>
        if selected item then invalidateMonitors monitors (byte item) else monitors) monitors) := by
  induction items generalizing monitors with
  | nil => exact .refl monitors
  | cons item items ih =>
      rw [List.foldl_cons]
      refine Dropped.trans ?_ (ih _)
      split
      · exact .invalidate monitors (byte item)
      · exact .refl monitors

end Dropped

theorem writeDeviceBeat_dropped {env : FabricEnv W} {world : W} {monitors : Monitors c}
    {route : WriteRoute c} {mapping : Mapping} {cursor : BurstCursor c.dataBytes}
    {beatIndex : Nat} {data strobe : Lanes c.dataBytes} {access : WriteAccess c W}
    (written : writeDeviceBeat env world monitors route mapping cursor beatIndex data strobe =
      .ok access) : Dropped monitors access.monitors := by
  simp only [writeDeviceBeat, bind, Except.bind, pure, Except.pure] at written
  repeat' split at written
  all_goals first | contradiction | cases written
  all_goals first | exact .refl monitors | exact .foldl _ _ _ monitors

theorem finishExclusiveWrite_dropped {env : FabricEnv W} {world : W} {monitors : Monitors c}
    {route : WriteRoute c} {cursor : BurstCursor c.dataBytes} {access : WriteAccess c W}
    (finished : finishExclusiveWrite env world monitors route cursor = .ok access) :
    Dropped monitors access.monitors := by
  simp only [finishExclusiveWrite, bind, Except.bind, pure, Except.pure] at finished
  repeat' split at finished
  all_goals first | contradiction | cases finished
  all_goals first
    | exact .clear monitors _ _
    | exact Dropped.trans (.foldl _ _ _ monitors) (.clear _ _ _)

/-- What a step does to the monitor table: it drops monitors, or the front read
route enters one. -/
theorem Pipeline.Step.table {env : FabricEnv W} {state next : Pipeline c W}
    {events : List (Event c)} (taken : Pipeline.Step env state events next) :
    Dropped state.monitors next.monitors ∨
      ∃ route routes, state.readRoutes = route :: routes ∧ route.exclusive = true ∧
        route.beat = 0 ∧ route.forcedResponse = .okay ∧
        establishMonitor state.monitors route = some next.monitors := by
  cases taken with
  | retireB =>
      left
      rw [setPort_monitors, latchExit_monitors]
      exact .refl _
  | commitExclusive _ _ _ _ _ _ _ _ _ finished => exact .inl (finishExclusiveWrite_dropped finished)
  | commitBeat _ _ _ _ _ _ _ _ _ _ _ _ _ _ written => exact .inl (writeDeviceBeat_dropped written)
  | commitLast _ _ _ _ _ _ _ _ _ _ _ _ _ _ written => exact .inl (writeDeviceBeat_dropped written)
  | reserve route routes monitors front exclusive first okay established =>
      exact .inr ⟨route, routes, front, exclusive, first, okay, established⟩
  | reset => exact .inl fun slot valid => by simp [Pipeline.empty] at valid
  | _ => exact .inl (.refl _)

/-- The port and ID a monitor belongs to. -/
def ExclusiveMonitor.key (monitor : ExclusiveMonitor c) : c.Port × UInt64 :=
  (monitor.port, monitor.id)

/-- The port and ID a read reserves for. -/
def ReadRoute.key (route : ReadRoute c) : c.Port × UInt64 := (route.port, route.payload.id)

/-- No two valid monitors belong to the same port and ID. -/
def Distinct (monitors : Monitors c) : Prop :=
  ∀ left right, (monitors left).valid = true → (monitors right).valid = true →
    (monitors left).key = (monitors right).key → left = right

theorem Distinct.dropped {before after : Monitors c} (distinct : Distinct before)
    (dropped : Dropped before after) : Distinct after := by
  intro left right leftValid rightValid same
  have leftSame := dropped left leftValid
  have rightSame := dropped right rightValid
  rw [leftSame] at leftValid same
  rw [rightSame] at rightValid same
  exact distinct left right leftValid rightValid same

/-- The slot that a reservation takes: its own or a free one. -/
theorem establishMonitor_slot {before after : Monitors c} {route : ReadRoute c}
    (established : establishMonitor before route = some after) :
    ∃ slot, (after slot).key = route.key ∧
      (∀ other ≠ slot, after other = before other) ∧
      ∀ other, (before other).valid = true → (before other).key = route.key →
        ∃ found, findMonitor before route.port route.payload.id = some found ∧ slot = found := by
  simp only [establishMonitor, monitorSlot, Option.map_eq_some_iff] at established
  obtain ⟨slot, chosen, rfl⟩ := established
  refine ⟨slot, by simp [ExclusiveMonitor.key, ReadRoute.key], fun other elsewhere => by
    simp [elsewhere], fun other valid same => ?_⟩
  obtain ⟨portEq, idEq⟩ := Prod.mk.inj same
  cases found : findMonitor before route.port route.payload.id with
  | none => exact absurd idEq (findMonitor_none found other valid portEq)
  | some own =>
      rw [found] at chosen
      exact ⟨own, rfl, (Option.some.inj chosen).symm⟩

theorem Distinct.established {before after : Monitors c} {route : ReadRoute c}
    (distinct : Distinct before) (established : establishMonitor before route = some after) :
    Distinct after := by
  obtain ⟨slot, keyEq, others, own⟩ := establishMonitor_slot established
  -- A second monitor of the route's port and ID would have been the slot taken.
  have only : ∀ other, (after other).valid = true → (after other).key = route.key →
      other = slot := by
    intro other valid same
    by_contra elsewhere
    rw [others other elsewhere] at valid same
    obtain ⟨found, foundEq, rfl⟩ := own other valid same
    obtain ⟨foundValid, portEq, idEq⟩ := findMonitor_some foundEq
    refine elsewhere (distinct other slot valid foundValid (same.trans ?_))
    simp [ExclusiveMonitor.key, ReadRoute.key, portEq, idEq]
  intro left right leftValid rightValid same
  by_cases leftHere : left = slot
  · subst leftHere
    exact (only right rightValid (same ▸ keyEq)).symm
  · by_cases rightHere : right = slot
    · subst rightHere
      exact only left leftValid (same.trans keyEq)
    · rw [others left leftHere] at leftValid same
      rw [others right rightHere] at rightValid same
      exact distinct left right leftValid rightValid same

theorem Distinct.step {env : FabricEnv W} {state next : Pipeline c W} {events : List (Event c)}
    (distinct : Distinct state.monitors) (taken : Pipeline.Step env state events next) :
    Distinct next.monitors := by
  rcases taken.table with dropped | ⟨route, -, -, -, -, -, established⟩
  · exact distinct.dropped dropped
  · exact distinct.established established

theorem Reachable.distinct {env : FabricEnv W} {state : Pipeline c W}
    (reachable : Reachable env state) : Distinct state.monitors := by
  obtain ⟨world, history, traces⟩ := reachable
  refine traces.invariant (fun _ state => Distinct state.monitors) ?_ ?_
  · intro left right valid
    simp [Pipeline.empty] at valid
  · exact fun _ _ _ _ distinct taken => distinct.step taken

/-- A table that refuses a reservation is filled by other ports and IDs. -/
theorem establishMonitor_eq_none {monitors : Monitors c} {route : ReadRoute c}
    (exhausted : establishMonitor monitors route = none) (slot : Fin c.routeDepth) :
    (monitors slot).valid = true ∧ (monitors slot).key ≠ route.key := by
  simp only [establishMonitor, Option.map_eq_none_iff, monitorSlot] at exhausted
  cases found : findMonitor monitors route.port route.payload.id with
  | some other =>
      rw [found] at exhausted
      cases exhausted
  | none =>
      rw [found] at exhausted
      have valid : (monitors slot).valid = true := by
        simpa using List.find?_eq_none.mp exhausted slot (List.mem_finRange slot)
      refine ⟨valid, fun same => ?_⟩
      obtain ⟨portEq, idEq⟩ := Prod.mk.inj same
      exact findMonitor_none found slot valid portEq idEq

/-- A refused reservation is one key more than the table has entries. -/
theorem Distinct.exhausted {monitors : Monitors c} {route : ReadRoute c}
    {keys : Finset (c.Port × UInt64)} (distinct : Distinct monitors)
    (exhausted : establishMonitor monitors route = none)
    (held : ∀ slot, (monitors slot).valid = true → (monitors slot).key ∈ keys)
    (wanted : route.key ∈ keys) : c.routeDepth < keys.card := by
  have full := establishMonitor_eq_none exhausted
  have injective : Function.Injective fun slot => (monitors slot).key :=
    fun left right same => distinct left right (full left).1 (full right).1 same
  have fresh : route.key ∉ Finset.univ.image fun slot => (monitors slot).key := by
    intro member
    obtain ⟨slot, -, same⟩ := Finset.mem_image.mp member
    exact (full slot).2 same
  have inside : insert route.key (Finset.univ.image fun slot => (monitors slot).key) ⊆ keys := by
    intro key member
    rcases Finset.mem_insert.mp member with rfl | member
    · exact wanted
    · obtain ⟨slot, -, rfl⟩ := Finset.mem_image.mp member
      exact held slot (full slot).1
  have counted := Finset.card_le_card inside
  rw [Finset.card_insert_of_notMem fresh, Finset.card_image_of_injective _ injective,
    Finset.card_univ, Fintype.card_fin] at counted
  exact counted

end AxiTestbench
