import AxiTestbench.Fabric.Accusation

/-!
# The stability check

`check_stability` compares each request channel with the watch the previous
cycle left behind and updates the watch in the same pass.  The watch of a channel
says exactly whether the channel was stalled in the previous cycle and with which
payload, so the check reports a violation exactly when there is one.
-/

namespace AxiTestbench

open Lib Outcome

variable {c : Config} {W : Type}

/-! ## One pass -/

/-- The channel was stalled and does not hold its request. -/
def Watch.Broken {T : Type} (watch : Watch T) (valid : Bool) (payload : T) : Prop :=
  watch.blocked = true ∧ (valid = false ∨ payload ≠ watch.payload)

/-- The watch after a cycle in which the channel was not reported. -/
def Watch.next {T : Type} (watch : Watch T) (valid ready : Bool) (payload : T) : Watch T where
  blocked := valid && !ready
  payload := if valid && !ready then payload else watch.payload

theorem Watch.broken_next_iff {T : Type} (watch : Watch T) (valid ready nextValid : Bool)
    (payload nextPayload : T) :
    (watch.next valid ready payload).Broken nextValid nextPayload ↔
      valid = true ∧ ready = false ∧ (nextValid = false ∨ nextPayload ≠ payload) := by
  cases valid <;> cases ready <;> simp [Watch.next, Watch.Broken]

/-- Some request channel of the port does not hold its request. -/
def PortState.Broken (state : PortState c) (input : MasterSignals c.dataBytes) : Prop :=
  state.awWatch.Broken input.awValid input.aw ∨ state.wWatch.Broken input.wValid input.w ∨
    state.arWatch.Broken input.arValid input.ar

/-- The port after its channels were checked. -/
def PortState.watched (state : PortState c) (signals : SlaveSignals c.dataBytes)
    (input : MasterSignals c.dataBytes) : PortState c :=
  { state with
    awWatch := state.awWatch.next input.awValid signals.awReady input.aw
    wWatch := state.wWatch.next input.wValid signals.wReady input.w
    arWatch := state.arWatch.next input.arValid signals.arReady input.ar }

/-- The report of the stability check. -/
def Fault.Unstable (fault : Fault) : Prop :=
  ∃ context, fault = .protocol (some context) "VALID or payload changed while stalled"

namespace AxiFabric

theorem checkWatch_eq {T : Type} [DecidableEq T] (fault : Fault) (watch : Watch T)
    (valid ready : Bool) (payload : T) :
    (watch.Broken valid payload ∧ checkWatch fault watch valid ready payload = .error fault) ∨
      (¬watch.Broken valid payload ∧
        checkWatch fault watch valid ready payload = .ok (watch.next valid ready payload)) := by
  by_cases broken : watch.Broken valid payload
  · exact .inl ⟨broken, if_pos broken⟩
  · exact .inr ⟨broken, if_neg broken⟩

theorem checkPort_eq (inputs : c.Inputs) (fabric : AxiFabric c W) (port : c.Port) :
    Ends (checkPort inputs fabric port)
      (fun after => ¬(fabric.ports port).Broken (inputs port) ∧ after = fabric.setPort port
        ((fabric.ports port).watched (fabric.outputs port) (inputs port)))
      fun fault after => (fabric.ports port).Broken (inputs port) ∧ fault.Unstable ∧
        after.wasReset = fabric.wasReset := by
  simp only [checkPort, checkAddressWatch]
  rcases checkWatch_eq _ (fabric.ports port).awWatch (inputs port).awValid
    (fabric.outputs port).awReady (inputs port).aw with ⟨broken, failed⟩ | ⟨awHeld, passed⟩
  · rw [failed]
    exact ⟨.inl broken, ⟨_, rfl⟩, rfl⟩
  rw [passed]
  rcases checkWatch_eq _ (fabric.ports port).wWatch (inputs port).wValid
    (fabric.outputs port).wReady (inputs port).w with ⟨broken, failed⟩ | ⟨wHeld, passed⟩
  · simp only [attempt, ok_bind, setPort]
    rw [failed]
    exact ⟨.inr (.inl broken), ⟨_, rfl⟩, rfl⟩
  simp only [attempt, ok_bind, setPort]
  rw [passed]
  simp only [ok_bind]
  rcases checkWatch_eq _ (fabric.ports port).arWatch (inputs port).arValid
    (fabric.outputs port).arReady (inputs port).ar with ⟨broken, failed⟩ | ⟨arHeld, passed⟩
  · rw [failed]
    exact ⟨.inr (.inr broken), ⟨_, rfl⟩, rfl⟩
  rw [passed]
  refine ⟨?_, ?_⟩
  · rintro (broken | broken | broken)
    · exact awHeld broken
    · exact wHeld broken
    · exact arHeld broken
  · simp [PortState.watched]

/-- The pass reports a violation exactly if there is one on some port, and
otherwise updates every watch. -/
theorem checkStability_eq (inputs : c.Inputs) (fabric : AxiFabric c W) :
    Ends (checkStability inputs fabric)
      (fun after => (∀ port, ¬(fabric.ports port).Broken (inputs port)) ∧
        (∀ port, after.ports port =
          (fabric.ports port).watched (fabric.outputs port) (inputs port)) ∧
        after.wasReset = fabric.wasReset)
      fun fault after => (∃ port, (fabric.ports port).Broken (inputs port)) ∧ fault.Unstable ∧
        after.wasReset = fabric.wasReset := by
  -- The ports still to be visited are unchanged, the others are checked.
  let invariant (rest : List c.Port) (state : AxiFabric c W) : Prop :=
    rest.Nodup ∧ state.outputs = fabric.outputs ∧ state.wasReset = fabric.wasReset ∧
      (∀ port ∈ rest, state.ports port = fabric.ports port) ∧
      ∀ port ∉ rest, ¬(fabric.ports port).Broken (inputs port) ∧ state.ports port =
        (fabric.ports port).watched (fabric.outputs port) (inputs port)
  have start : invariant (List.finRange c.numPorts) fabric :=
    ⟨List.nodup_finRange _, rfl, rfl, fun _ _ => rfl,
      fun port outside => absurd (List.mem_finRange port) outside⟩
  refine (ends_foldlM invariant ?_ _ fabric start).mono ?_ fun _ _ thrown => thrown
  · rintro port rest state ⟨nodup, outputs, wasReset, unvisited, checked⟩
    obtain ⟨fresh, nodup⟩ := List.nodup_cons.mp nodup
    have here := unvisited port (by simp)
    have body := checkPort_eq inputs state port
    rw [here, outputs] at body
    refine body.mono ?_ fun fault after thrown =>
      ⟨⟨port, thrown.1⟩, thrown.2.1, thrown.2.2.trans wasReset⟩
    rintro after ⟨held, rfl⟩
    refine ⟨nodup, outputs, wasReset, ?_, ?_⟩
    · intro other member
      have different : other ≠ port := fun equal => fresh (equal ▸ member)
      simpa [setPort, different] using unvisited other (by simp [member])
    · intro other outside
      by_cases equal : other = port
      · subst equal
        exact ⟨held, by simp [setPort]⟩
      · simpa [setPort, equal] using checked other (by simp [equal, outside])
  · rintro after ⟨-, -, wasReset, -, checked⟩
    exact ⟨fun port => (checked port (by simp)).1, fun port => (checked port (by simp)).2, wasReset⟩

/-! ## One cycle -/

/-- The cycle ended with the report of the stability check. -/
def Reports (outcome : Outcome Fault (AxiFabric c W) (AxiFabric c W)) : Prop :=
  ∃ fault after, outcome = .error (fault, after) ∧ fault.Unstable

@[simp] theorem ports_drive (resetActive : Bool) (fabric : AxiFabric c W) :
    (drive resetActive fabric).ports = fabric.ports := by
  obtain ⟨outputs, random, equal⟩ := drive_eq resetActive fabric
  rw [equal]

theorem not_accused_of_unstable {fault : Fault} (unstable : fault.Unstable) :
    ¬∃ context, ∃ detail ∈ accusations, fault = .protocol (some context) detail := by
  rintro ⟨context, detail, member, rfl⟩
  obtain ⟨other, equal⟩ := unstable
  obtain ⟨-, rfl⟩ := Fault.protocol.inj equal
  revert member
  decide

theorem reports_iff (env : FabricEnv W) (inputs : c.Inputs) (fabric : AxiFabric c W)
    (reachable : Reachable env fabric.view) :
    Reports (cycleWith env fabric (inputs, false)) ↔
      ∃ port, (fabric.ports port).Broken (inputs port) := by
  have check := checkStability_eq inputs { drive false fabric with wasReset := false }
  rw [← ports_drive false fabric]
  constructor
  · rintro ⟨fault, after, thrown, unstable⟩
    have failed := commit_cycle env inputs (drive false fabric) (drive_driven fabric)
    rw [show commit env inputs false (drive false fabric) = .error (fault, after) from thrown]
      at failed
    rcases FailedCycle.accused failed (by simpa using reachable) with unstable | accused
    · rw [unstable] at check
      exact check.1
    · exact absurd accused (not_accused_of_unstable unstable)
  · intro broken
    cases outcome : checkStability inputs { drive false fabric with wasReset := false } with
    | ok checked =>
        rw [outcome] at check
        obtain ⟨port, broken⟩ := broken
        exact absurd broken (check.1 port)
    | error thrown =>
        obtain ⟨fault, after⟩ := thrown
        rw [outcome] at check
        refine ⟨fault, after, ?_, check.2.1⟩
        simp only [cycleWith, commit, Bool.false_eq_true, if_false]
        rw [outcome]
        rfl

/-- The watches say which channels were stalled in the last cycle, and with what. -/
structure Watching (fabric : AxiFabric c W) (outputs : c.Outputs) (inputs : c.Inputs) : Prop where
  aw : ∀ port, ∃ watch : Watch AddressPayload, (fabric.ports port).awWatch =
    watch.next (inputs port).awValid (outputs port).awReady (inputs port).aw
  w : ∀ port, ∃ watch : Watch c.WriteBeat, (fabric.ports port).wWatch =
    watch.next (inputs port).wValid (outputs port).wReady (inputs port).w
  ar : ∀ port, ∃ watch : Watch AddressPayload, (fabric.ports port).arWatch =
    watch.next (inputs port).arValid (outputs port).arReady (inputs port).ar

theorem Watching.of_checked {inputs : c.Inputs} {fabric checked after : AxiFabric c W}
    (passed : checkStability inputs { fabric with wasReset := false } = .ok checked)
    (same : SameWatches checked after) :
    Watching after fabric.outputs inputs ∧ after.wasReset = false := by
  have check := checkStability_eq inputs { fabric with wasReset := false }
  rw [passed] at check
  obtain ⟨-, watched, wasReset⟩ := check
  refine ⟨⟨fun port => ⟨(fabric.ports port).awWatch, ?_⟩,
    fun port => ⟨(fabric.ports port).wWatch, ?_⟩,
    fun port => ⟨(fabric.ports port).arWatch, ?_⟩⟩, same.wasReset.trans wasReset⟩
  · rw [same.aw, watched, PortState.watched]
  · rw [same.w, watched, PortState.watched]
  · rw [same.ar, watched, PortState.watched]

/-- A cycle without reset that was not reported leaves its own stalls in the
watches, whether it returns or throws something else. -/
theorem watching_of_unreported {env : FabricEnv W} {inputs : c.Inputs} {fabric : AxiFabric c W}
    (unreported : ¬Reports (cycleWith env fabric (inputs, false))) :
    Watching (cycleWith env fabric (inputs, false)).state (drive false fabric).outputs inputs := by
  have ends := commit_cycle env inputs (drive false fabric) (drive_driven fabric)
  change Ends (cycleWith env fabric (inputs, false)) _ _ at ends
  have done : ∀ {arrived after : AxiFabric c W},
      Arrived env inputs (drive false fabric) arrived → SameWatches arrived after →
      Watching after (drive false fabric).outputs inputs := by
    intro arrived after arrives same
    obtain ⟨checked, passed, kept⟩ := arrives.checked
    exact (Watching.of_checked passed (kept.toSameWatches.trans same)).1
  cases outcome : cycleWith env fabric (inputs, false) with
  | ok after =>
      rw [outcome] at ends
      obtain ⟨arrived, arrives, same⟩ := ActiveCycle.watches ends
      exact done arrives same
  | error thrown =>
      obtain ⟨fault, after⟩ := thrown
      rw [outcome] at ends unreported
      rcases FailedCycle.works ends with failed | ⟨arrived, arrives, -, same⟩
      · have check := checkStability_eq inputs { drive false fabric with wasReset := false }
        rw [failed] at check
        exact absurd ⟨fault, after, rfl, check.2.1⟩ unreported
      · exact done arrives same

theorem wasReset_of_active (env : FabricEnv W) (inputs : c.Inputs) (fabric : AxiFabric c W) :
    (cycleWith env fabric (inputs, false)).state.wasReset = false := by
  have ends := commit_cycle env inputs (drive false fabric) (drive_driven fabric)
  change Ends (cycleWith env fabric (inputs, false)) _ _ at ends
  have done : ∀ {arrived after : AxiFabric c W},
      Arrived env inputs (drive false fabric) arrived → SameWatches arrived after →
      after.wasReset = false := by
    intro arrived after arrives same
    obtain ⟨checked, passed, kept⟩ := arrives.checked
    exact (Watching.of_checked passed (kept.toSameWatches.trans same)).2
  have both : Ends (cycleWith env fabric (inputs, false)) (fun after => after.wasReset = false)
      fun _ after => after.wasReset = false := by
    refine ends.mono (fun after cycle => ?_) fun fault after failed => ?_
    · obtain ⟨arrived, arrives, same⟩ := cycle.watches
      exact done arrives same
    · rcases failed.works with thrown | ⟨arrived, arrives, -, same⟩
      · have check := checkStability_eq inputs { drive false fabric with wasReset := false }
        rw [thrown] at check
        exact check.2.2
      · exact done arrives same
  exact both.state_of_both

/-! ## Whole runs -/

/-- No channel is watched. -/
def Unwatched (fabric : AxiFabric c W) : Prop :=
  ∀ port, (fabric.ports port).awWatch.blocked = false ∧
    (fabric.ports port).wWatch.blocked = false ∧ (fabric.ports port).arWatch.blocked = false

theorem Unwatched.not_broken {fabric : AxiFabric c W} (unwatched : Unwatched fabric)
    (inputs : c.Inputs) : ¬∃ port, (fabric.ports port).Broken (inputs port) := by
  rintro ⟨port, broken⟩
  obtain ⟨aw, w, ar⟩ := unwatched port
  simp [PortState.Broken, Watch.Broken, aw, w, ar] at broken

/-- A reset cycle forgets every stall; in reset there is none to forget. -/
theorem unwatched_of_reset {env : FabricEnv W} {inputs : c.Inputs} {fabric : AxiFabric c W}
    (resting : fabric.wasReset = true → Unwatched fabric) :
    Unwatched (cycleWith env fabric (inputs, true)).state := by
  have held : (drive true fabric).wasReset = fabric.wasReset := by
    obtain ⟨outputs, random, equal⟩ := drive_eq true fabric
    rw [equal]
  intro port
  change ((commitReset env (drive true fabric)).ports port).awWatch.blocked = false ∧
    ((commitReset env (drive true fabric)).ports port).wWatch.blocked = false ∧
    ((commitReset env (drive true fabric)).ports port).arWatch.blocked = false
  simp only [commitReset, held]
  by_cases wasReset : fabric.wasReset = true
  · simpa [wasReset, emit] using resting wasReset port
  · by_cases devices : env.resetDevices = true
    · simp [wasReset, devices, emit, resetState, Watch.idle]
    · simp [wasReset, devices, emit, resetState, Watch.idle]

theorem persist_resting (env : FabricEnv W) (cycles : List (c.Inputs × Bool)) (random : UInt64)
    (stall : Stall) (world : W) :
    (persist env cycles (.fresh c random stall world)).wasReset = true →
      Unwatched (persist env cycles (.fresh c random stall world)) := by
  induction cycles using List.reverseRecOn with
  | nil => exact fun impossible => by simp [persist, fresh] at impossible
  | append_singleton cycles input ih =>
      obtain ⟨inputs, resetActive⟩ := input
      rw [persist_snoc]
      cases resetActive with
      | true => exact fun _ => unwatched_of_reset ih
      | false => exact fun wasReset => by simp [wasReset_of_active] at wasReset

/-- A request channel was stalled with `previous` and does not hold it: VALID is
low or some field of the payload differs. -/
def Violates (previous : MasterSignals c.dataBytes) (signals : SlaveSignals c.dataBytes)
    (current : MasterSignals c.dataBytes) : Prop :=
  (previous.awValid = true ∧ signals.awReady = false ∧
      (current.awValid = false ∨ current.aw ≠ previous.aw)) ∨
    (previous.wValid = true ∧ signals.wReady = false ∧
      (current.wValid = false ∨ current.w ≠ previous.w)) ∨
    (previous.arValid = true ∧ signals.arReady = false ∧
      (current.arValid = false ∨ current.ar ≠ previous.ar))

theorem Watching.broken_iff {fabric : AxiFabric c W} {outputs : c.Outputs} {inputs : c.Inputs}
    (watching : Watching fabric outputs inputs) (port : c.Port)
    (current : MasterSignals c.dataBytes) :
    (fabric.ports port).Broken current ↔ Violates (inputs port) (outputs port) current := by
  obtain ⟨aw, awEq⟩ := watching.aw port
  obtain ⟨w, wEq⟩ := watching.w port
  obtain ⟨ar, arEq⟩ := watching.ar port
  rw [PortState.Broken, awEq, wEq, arEq, Watch.broken_next_iff, Watch.broken_next_iff,
    Watch.broken_next_iff, Violates]

/-- The watches find a request withdrawn exactly if the last cycle stalled it. -/
theorem persist_broken_iff (env : FabricEnv W) (cycles : List (c.Inputs × Bool))
    (inputs : c.Inputs) (random : UInt64) (stall : Stall) (world : W)
    (unreported : ∀ earlier last, cycles = earlier ++ [last] →
      ¬Reports (cycleWith env (persist env earlier (.fresh c random stall world)) last)) :
    (∃ port, ((persist env cycles (.fresh c random stall world)).ports port).Broken
        (inputs port)) ↔
      ∃ earlier last port, cycles = earlier ++ [last] ∧ last.2 = false ∧
        Violates (last.1 port)
          ((drive false (persist env earlier (.fresh c random stall world))).outputs port)
          (inputs port) := by
  rcases List.eq_nil_or_concat' cycles with rfl | ⟨earlier, ⟨lastInputs, lastReset⟩, rfl⟩
  · -- Nothing is watched before the first cycle.
    have unwatched : Unwatched (persist env [] (.fresh c random stall world)) :=
      fun port => ⟨rfl, rfl, rfl⟩
    constructor
    · exact fun broken => absurd broken (unwatched.not_broken inputs)
    · rintro ⟨earlier, last, port, impossible, -⟩
      simp at impossible
  · rw [persist_snoc]
    cases lastReset with
    | true =>
        have unwatched : Unwatched (cycleWith env _ (lastInputs, true)).state :=
          unwatched_of_reset (persist_resting env earlier random stall world)
        constructor
        · exact fun broken => absurd broken (unwatched.not_broken inputs)
        · rintro ⟨other, last, port, equal, active, -⟩
          obtain ⟨-, singleton⟩ := List.append_inj' equal rfl
          obtain rfl := List.singleton_inj.mp singleton
          simp at active
    | false =>
        have watching := watching_of_unreported (unreported earlier (lastInputs, false) rfl)
        constructor
        · rintro ⟨port, broken⟩
          exact ⟨earlier, (lastInputs, false), port, rfl, rfl,
            (watching.broken_iff port (inputs port)).mp broken⟩
        · rintro ⟨other, last, port, equal, -, violates⟩
          obtain ⟨rfl, singleton⟩ := List.append_inj' equal rfl
          obtain rfl := List.singleton_inj.mp singleton
          exact ⟨port, (watching.broken_iff port (inputs port)).mpr violates⟩

end AxiFabric

open AxiFabric in
/-- A cycle is reported exactly if it is not a reset cycle, neither was the one
before, and some request channel that was stalled there does not hold its
request.  The cycles before may have thrown anything but, in the last of them,
the report itself. -/
theorem stability_check_exact (env : FabricEnv W) (cycles : List (c.Inputs × Bool))
    (input : c.Inputs × Bool) (random : UInt64) (stall : Stall) (world : W)
    (unreported : ∀ earlier last, cycles = earlier ++ [last] →
      ¬Reports (cycleWith env (persist env earlier (.fresh c random stall world)) last)) :
    Reports (cycleWith env (persist env cycles (.fresh c random stall world)) input) ↔
      input.2 = false ∧ ∃ earlier last port, cycles = earlier ++ [last] ∧ last.2 = false ∧
        Violates (last.1 port)
          ((drive false (persist env earlier (.fresh c random stall world))).outputs port)
          (input.1 port) := by
  obtain ⟨inputs, resetActive⟩ := input
  cases resetActive with
  | true =>
      constructor
      · rintro ⟨fault, after, thrown, -⟩
        cases thrown
      · rintro ⟨impossible, -⟩
        cases impossible
  | false =>
      have reachable := persist_reachable env cycles random stall world
      rw [reports_iff env inputs _ reachable, persist_broken_iff env cycles inputs random stall
        world unreported]
      simp

open AxiFabric in
/-- A write request that meets a permanent stall and is withdrawn. -/
theorem stability_check_exact_small :
    Reports (cycleWith smallEnv
      (persist smallEnv [(writeWord 0x1004 3 false 7, false)]
        (.fresh Config.small 1 .always smallWorld)) (takeAll, false)) := by
  have returned : (cycleWith smallEnv (.fresh Config.small 1 .always smallWorld)
      (writeWord 0x1004 3 false 7, false)).isOk = true := by
    decide +kernel
  have stalled : ((drive false (.fresh Config.small 1 .always smallWorld)).outputs
      ⟨0, by decide⟩).awReady =
      false := by
    decide +kernel
  refine (stability_check_exact smallEnv [(writeWord 0x1004 3 false 7, false)] (takeAll, false)
    1 .always smallWorld ?_).mpr
    ⟨rfl, [], (writeWord 0x1004 3 false 7, false), ⟨0, by decide⟩, rfl, rfl,
      .inl ⟨rfl, stalled, .inl rfl⟩⟩
  intro earlier last equal
  obtain ⟨rfl, rfl⟩ : earlier = [] ∧ last = (writeWord 0x1004 3 false 7, false) := by
    rcases List.eq_nil_or_concat' earlier with rfl | ⟨front, item, rfl⟩
    · exact ⟨rfl, (List.singleton_inj.mp equal).symm⟩
    · exact absurd (congrArg List.length equal) (by simp)
  rintro ⟨fault, after, thrown, -⟩
  rw [persist, List.foldl_nil] at thrown
  rw [thrown] at returned
  cases returned

end AxiTestbench
