import AxiTestbench.Fabric.Commit

/-!
# Two fabrics in step

Fabrics that hold the same queues behave alike, whatever their ring buffers keep
in stale slots and whatever their cycle counters show.  The proof follows the code
of a cycle on two objects at once.
-/

namespace AxiTestbench

open Lib Outcome

variable {c : Config} {W : Type}

/-- An exception without the cycle number in its context. -/
def Fault.timeless : Fault → Fault
  | .protocol (some context) detail => .protocol (some { context with cycle := 0 }) detail
  | fault => fault

/-- Exceptions that differ at most in the cycle number. -/
def Fault.Alike (left right : Fault) : Prop := left.timeless = right.timeless

theorem Fault.Alike.refl (fault : Fault) : fault.Alike fault := rfl

theorem protocolError_alike (cycle other : UInt64) (port : c.Port) (channel : Channel)
    (detail : String) (payload : Option AddressPayload) :
    (protocolError cycle port channel detail payload).Alike
      (protocolError other port channel detail payload) := rfl

/-- Ports with equal queues and watches. -/
structure PortState.Same (left right : PortState c) : Prop where
  aw : left.aw.toList = right.aw.toList
  w : left.w.toList = right.w.toList
  ar : left.ar.toList = right.ar.toList
  b : left.b.toList = right.b.toList
  r : left.r.toList = right.r.toList
  awWatch : left.awWatch = right.awWatch
  wWatch : left.wWatch = right.wWatch
  arWatch : left.arWatch = right.arWatch

/-- Fabrics that agree on everything the code reads in a cycle.  Stale slots of the
ring buffers, the cycle counter, the outputs of the last cycle and the trace may
differ. -/
structure AxiFabric.Same (left right : AxiFabric c W) : Prop where
  ports : ∀ port, (left.ports port).Same (right.ports port)
  readRoutes : left.readRoutes.toList = right.readRoutes.toList
  writeRoutes : left.writeRoutes.toList = right.writeRoutes.toList
  monitors : left.monitors = right.monitors
  nextAwPort : left.nextAwPort = right.nextAwPort
  nextArPort : left.nextArPort = right.nextArPort
  randomState : left.randomState = right.randomState
  stall : left.stall = right.stall
  suppressRead : left.suppressRead = right.suppressRead
  exitCompleted : left.exitCompleted = right.exitCompleted
  exitCode : left.exitCode = right.exitCode
  world : left.world = right.world

/-- Two fabrics inside an active cycle: they also agree on the driven outputs and on
what they have recorded since the traces `leftPast` and `rightPast`. -/
structure Paired (leftPast rightPast : List (Event c)) (left right : AxiFabric c W) : Prop
    extends AxiFabric.Same left right where
  outputs : left.outputs = right.outputs
  awake : left.wasReset = false ∧ right.wasReset = false
  trace : ∃ events, left.trace = leftPast ++ events ∧ right.trace = rightPast ++ events

/-- Both fabrics return paired, or both throw alike and are left paired. -/
abbrev Together (leftPast rightPast : List (Event c)) :
    Outcome Fault (AxiFabric c W) (AxiFabric c W) →
      Outcome Fault (AxiFabric c W) (AxiFabric c W) → Prop :=
  InStep (fun left right => left.1.Alike right.1 ∧ Paired leftPast rightPast left.2 right.2)
    (Paired leftPast rightPast)

/-! ## Routing does not depend on the cycle -/

theorem makeCursor_alike (cycle other : UInt64) (port : c.Port) (channel : Channel)
    (payload : AddressPayload) :
    InStep Fault.Alike Eq (makeCursor cycle port channel payload)
      (makeCursor other port channel payload) := by
  simp only [makeCursor]
  split
  · exact .error (protocolError_alike _ _ _ _ _ _)
  · exact .of_eq .refl rfl

theorem decodeBurst_alike (space : AddressSpace) (cycle other : UInt64) (port : c.Port)
    (channel : Channel) (payload : AddressPayload) (cursor : BurstCursor c.dataBytes) :
    InStep Fault.Alike Eq (decodeBurst space cycle port channel payload cursor)
      (decodeBurst space other port channel payload cursor) := by
  refine InStep.foldlM (fun beat decoding _ same => ?_) _ _ _ rfl
  subst same
  refine (InStep.of_eq .refl rfl).bind fun base _ same => ?_
  subst same
  refine (InStep.of_eq .refl rfl).bind fun mask _ same => ?_
  subst same
  refine InStep.foldlM (fun lane decoding _ same => ?_) _ _ _ rfl
  subst same
  split
  · exact .ok rfl
  · split
    · exact .error (protocolError_alike _ _ _ _ _ _)
    · exact .ok rfl

theorem validateExclusive_alike (cycle other : UInt64) (port : c.Port) (channel : Channel)
    (payload : AddressPayload) (cursor : BurstCursor c.dataBytes) :
    InStep Fault.Alike Eq (validateExclusive cycle port channel payload cursor)
      (validateExclusive other port channel payload cursor) := by
  simp only [validateExclusive]
  split
  · exact .error (protocolError_alike _ _ _ _ _ _)
  · exact .ok rfl

theorem initializeRoute_alike (env : FabricEnv W) (cycle other : UInt64) (world : W)
    (port : c.Port) (payload : AddressPayload) (channel : Channel) :
    InStep Fault.Alike Eq (initializeRoute env cycle world port payload channel)
      (initializeRoute env other world port payload channel) := by
  simp only [initializeRoute]
  refine (makeCursor_alike cycle other port channel payload).bind fun cursor _ same => ?_
  subst same
  refine (decodeBurst_alike env.space cycle other port channel payload cursor).bind
    fun decoding _ same => ?_
  subst same
  cases payload.lock with
  | false => exact .of_eq .refl rfl
  | true =>
      exact (validateExclusive_alike cycle other port channel payload cursor).bind
        fun _ _ _ => .of_eq .refl rfl

/-! ## Updates -/

namespace Paired

variable {leftPast rightPast : List (Event c)} {left right : AxiFabric c W}

theorem setPort (paired : Paired leftPast rightPast left right) (port : c.Port)
    {state other : PortState c} (same : state.Same other) :
    Paired leftPast rightPast (left.setPort port state) (right.setPort port other) where
  __ := paired
  ports := by
    intro any
    simp only [AxiFabric.setPort, Function.update_apply]
    split
    · exact same
    · exact paired.ports any

/-- Both sides record the same events. -/
theorem recorded (paired : Paired leftPast rightPast left right) (events : List (Event c)) :
    ∃ all, left.trace ++ events = leftPast ++ all ∧ right.trace ++ events = rightPast ++ all := by
  obtain ⟨earlier, leftEq, rightEq⟩ := paired.trace
  exact ⟨earlier ++ events, by rw [leftEq, List.append_assoc], by rw [rightEq, List.append_assoc]⟩

theorem emit (paired : Paired leftPast rightPast left right) (events : List (Event c)) :
    Paired leftPast rightPast (left.emit events) (right.emit events) :=
  { paired with trace := paired.recorded events }

theorem tick (paired : Paired leftPast rightPast left right) :
    Paired leftPast rightPast ({ left with cycle := left.cycle + 1 }.emit [.tick])
      ({ right with cycle := right.cycle + 1 }.emit [.tick]) :=
  { paired with trace := paired.recorded [.tick] }

end Paired

/-- Both sides run a pure computation with equal results. -/
theorem Together.attempt {leftPast rightPast : List (Event c)} {left right : AxiFabric c W}
    {T : Type} {value other : Except Fault T}
    {next nextRight : T → Outcome Fault (AxiFabric c W) (AxiFabric c W)}
    (paired : Paired leftPast rightPast left right) (alike : InStep Fault.Alike Eq value other)
    (rest : ∀ result, Together leftPast rightPast (next result) (nextRight result)) :
    Together leftPast rightPast (Outcome.attempt left value >>= next)
      (Outcome.attempt right other >>= nextRight) := by
  refine (InStep.attempt paired alike).bind fun result _ equal => ?_
  subst equal
  exact rest result

namespace PortState.Same

variable {left right : PortState c} (same : left.Same right)

include same

theorem withAw {aw other : RingBuffer c.addressDepth AddressPayload}
    (equal : aw.toList = other.toList) :
    PortState.Same { left with aw } { right with aw := other } :=
  ⟨equal, same.w, same.ar, same.b, same.r, same.awWatch, same.wWatch, same.arWatch⟩

theorem withW {w other : RingBuffer c.writeDataDepth c.WriteBeat}
    (equal : w.toList = other.toList) :
    PortState.Same { left with w } { right with w := other } :=
  ⟨same.aw, equal, same.ar, same.b, same.r, same.awWatch, same.wWatch, same.arWatch⟩

theorem withAr {ar other : RingBuffer c.addressDepth AddressPayload}
    (equal : ar.toList = other.toList) :
    PortState.Same { left with ar } { right with ar := other } :=
  ⟨same.aw, same.w, equal, same.b, same.r, same.awWatch, same.wWatch, same.arWatch⟩

theorem withB {b other : RingBuffer c.responseDepth WriteResponsePayload}
    (equal : b.toList = other.toList) :
    PortState.Same { left with b } { right with b := other } :=
  ⟨same.aw, same.w, same.ar, equal, same.r, same.awWatch, same.wWatch, same.arWatch⟩

theorem withR {r other : RingBuffer c.responseDepth c.ReadBeat}
    (equal : r.toList = other.toList) :
    PortState.Same { left with r } { right with r := other } :=
  ⟨same.aw, same.w, same.ar, same.b, equal, same.awWatch, same.wWatch, same.arWatch⟩

end PortState.Same

/-! ## The phases of a cycle -/

namespace AxiFabric

theorem checkWatch_alike {T : Type} [DecidableEq T] {fault other : Fault}
    {watch otherWatch : Watch T} (valid ready : Bool) (payload : T) (same : watch = otherWatch)
    (alike : fault.Alike other) :
    InStep Fault.Alike Eq (checkWatch fault watch valid ready payload)
      (checkWatch other otherWatch valid ready payload) := by
  subst same
  simp only [checkWatch]
  split
  · exact .error alike
  · exact .ok rfl

theorem checkAddressWatch_alike (cycle other : UInt64) (port : c.Port) (channel : Channel)
    {watch otherWatch : Watch AddressPayload} (valid ready : Bool) (payload : AddressPayload)
    (same : watch = otherWatch) :
    InStep Fault.Alike Eq (checkAddressWatch cycle port channel watch valid ready payload)
      (checkAddressWatch other port channel otherWatch valid ready payload) :=
  checkWatch_alike _ _ _ same (by subst same; exact protocolError_alike _ _ _ _ _ _)

section Phases

variable {leftPast rightPast : List (Event c)} {left right : AxiFabric c W}

theorem checkPort_together (inputs : c.Inputs) (port : c.Port)
    (paired : Paired leftPast rightPast left right) :
    Together leftPast rightPast (checkPort inputs left port) (checkPort inputs right port) := by
  have same := paired.ports port
  simp only [checkPort, paired.outputs]
  refine .attempt paired (checkAddressWatch_alike _ _ _ _ _ _ _ same.awWatch) fun awWatch => ?_
  have afterAw := paired.setPort port
    (show PortState.Same { left.ports port with awWatch } { right.ports port with awWatch } from
      { same with awWatch := rfl })
  refine .attempt afterAw
    (checkWatch_alike _ _ _ same.wWatch (protocolError_alike _ _ _ _ _ _)) fun wWatch => ?_
  have afterW := afterAw.setPort port
    (show PortState.Same { left.ports port with awWatch, wWatch }
        { right.ports port with awWatch, wWatch } from
      { same with awWatch := rfl, wWatch := rfl })
  refine .attempt afterW (checkAddressWatch_alike _ _ _ _ _ _ _ same.arWatch) fun arWatch => ?_
  have afterAr := afterW.setPort port
    (show PortState.Same { left.ports port with awWatch, wWatch, arWatch }
        { right.ports port with awWatch, wWatch, arWatch } from
      { same with awWatch := rfl, wWatch := rfl, arWatch := rfl })
  exact .ok afterAr

theorem retirePort_together (inputs : c.Inputs) (port : c.Port)
    (paired : Paired leftPast rightPast left right) :
    Together leftPast rightPast (retirePort inputs left port) (retirePort inputs right port) := by
  have retireWrites : Together leftPast rightPast (retireWrite inputs left port)
      (retireWrite inputs right port) := by
    have same := paired.ports port
    simp only [retireWrite, paired.outputs]
    split
    next =>
      refine .attempt paired (.of_eq .refl (RingBuffer.front_congr same.b)) fun response => ?_
      have latched : Paired leftPast rightPast (left.latchExit response)
          (right.latchExit response) := by
        simp only [latchExit, paired.exitCompleted]
        split
        · exact { paired with exitCompleted := rfl, exitCode := rfl }
        · exact paired
      refine (InStep.attempt latched (RingBuffer.pop_congr same.b .refl)).bind
        fun popped other equal => ?_
      have outputs : (left.latchExit response).outputs = (right.latchExit response).outputs :=
        latched.outputs
      rw [outputs]
      exact .ok ((latched.setPort port (same.withB equal)).emit _)
    next => exact .ok paired
  refine retireWrites.bind fun left right paired => ?_
  have same := paired.ports port
  simp only [retireRead, paired.outputs]
  split
  next =>
    refine (InStep.attempt paired (RingBuffer.pop_congr same.r .refl)).bind
      fun popped other equal => ?_
    exact .ok ((paired.setPort port (same.withR equal)).emit _)
  next => exact .ok paired

theorem acceptPort_together (inputs : c.Inputs) (port : c.Port)
    (paired : Paired leftPast rightPast left right) :
    Together leftPast rightPast (acceptPort inputs left port) (acceptPort inputs right port) := by
  simp only [acceptPort]
  have acceptsAw : Together leftPast rightPast (acceptAw inputs left port)
      (acceptAw inputs right port) := by
    simp only [acceptAw, paired.outputs]
    split
    · rcases RingBuffer.push_both (paired.ports port).aw (inputs port).aw with
            ⟨pushed, other, leftEq, rightEq, equal⟩ | ⟨unpushed, other, leftEq, rightEq⟩
      · rw [leftEq, rightEq]
        exact .ok ((paired.setPort port ((paired.ports port).withAw equal)).emit _)
      · rw [leftEq, rightEq]
        exact .error ⟨protocolError_alike _ _ _ _ _ _, paired⟩
    · exact .ok paired
  refine acceptsAw.bind fun left right paired => ?_
  have acceptsW : Together leftPast rightPast (acceptW inputs left port)
      (acceptW inputs right port) := by
    simp only [acceptW, paired.outputs]
    split
    · rcases RingBuffer.push_both (paired.ports port).w (inputs port).w with
            ⟨pushed, other, leftEq, rightEq, equal⟩ | ⟨unpushed, other, leftEq, rightEq⟩
      · rw [leftEq, rightEq]
        exact .ok ((paired.setPort port ((paired.ports port).withW equal)).emit _)
      · rw [leftEq, rightEq]
        exact .error ⟨protocolError_alike _ _ _ _ _ _, paired⟩
    · exact .ok paired
  refine acceptsW.bind fun left right paired => ?_
  simp only [acceptAr, paired.outputs]
  split
  · rcases RingBuffer.push_both (paired.ports port).ar (inputs port).ar with
          ⟨pushed, other, leftEq, rightEq, equal⟩ | ⟨unpushed, other, leftEq, rightEq⟩
    · rw [leftEq, rightEq]
      exact .ok ((paired.setPort port ((paired.ports port).withAr equal)).emit _)
    · rw [leftEq, rightEq]
      exact .error ⟨protocolError_alike _ _ _ _ _ _, paired⟩
  · exact .ok paired

theorem arbitrateWrites_together (env : FabricEnv W)
    (paired : Paired leftPast rightPast left right) :
    Together leftPast rightPast (arbitrateWrites env left) (arbitrateWrites env right) := by
  have waiting : (fun port => !(left.ports port).aw.empty) =
      fun port => !(right.ports port).aw.empty :=
    funext fun port => by rw [RingBuffer.empty_congr (paired.ports port).aw]
  simp only [arbitrateWrites, RingBuffer.full_congr paired.writeRoutes, paired.nextAwPort, waiting]
  split
  next => exact .ok paired
  next =>
    split
    next => exact .ok paired
    next port granted =>
      have same := paired.ports port
      refine Together.attempt paired (.of_eq .refl (RingBuffer.front_congr same.aw)) fun payload => ?_
      rw [paired.world]
      refine Together.attempt paired (initializeRoute_alike env _ _ _ _ _ _) fun base => ?_
      refine (InStep.attempt paired (RingBuffer.pop_congr same.aw .refl)).bind
        fun popped other equal => .ok ?_
      exact
        { paired.setPort port (same.withAw equal) with
          writeRoutes := (RingBuffer.push_congr paired.writeRoutes _).2
          nextAwPort := rfl
          trace := paired.recorded _ }

theorem arbitrateReads_together (env : FabricEnv W)
    (paired : Paired leftPast rightPast left right) :
    Together leftPast rightPast (arbitrateReads env left) (arbitrateReads env right) := by
  have waiting : (fun port => !(left.ports port).ar.empty) =
      fun port => !(right.ports port).ar.empty :=
    funext fun port => by rw [RingBuffer.empty_congr (paired.ports port).ar]
  simp only [arbitrateReads, RingBuffer.full_congr paired.readRoutes, paired.nextArPort, waiting]
  split
  next => exact .ok paired
  next =>
    split
    next => exact .ok paired
    next port granted =>
      have same := paired.ports port
      refine Together.attempt paired (.of_eq .refl (RingBuffer.front_congr same.ar)) fun payload => ?_
      rw [paired.world]
      refine Together.attempt paired (initializeRoute_alike env _ _ _ _ _ _) fun base => ?_
      refine (InStep.attempt paired (RingBuffer.pop_congr same.ar .refl)).bind
        fun popped other equal => .ok ?_
      exact
        { paired.setPort port (same.withAr equal) with
          readRoutes := (RingBuffer.push_congr paired.readRoutes _).2
          nextArPort := rfl
          trace := paired.recorded _ }

theorem reserve_together (route : ReadRoute c) (paired : Paired leftPast rightPast left right) :
    Together leftPast rightPast (reserve left route) (reserve right route) := by
  simp only [reserve, paired.monitors]
  split
  next =>
    split
    next monitors established =>
      have reserved : Paired leftPast rightPast { left with monitors } { right with monitors } :=
        { paired with monitors := rfl }
      exact .ok (reserved.emit _)
    next => exact .error ⟨protocolError_alike _ _ _ _ _ _, paired⟩
  next => exact .ok paired

theorem processReadBeat_together (env : FabricEnv W)
    (paired : Paired leftPast rightPast left right) :
    Together leftPast rightPast (processReadBeat env left) (processReadBeat env right) := by
  simp only [processReadBeat, RingBuffer.empty_congr paired.readRoutes]
  split
  next => exact .ok paired
  next =>
    refine Together.attempt paired (.of_eq .refl (RingBuffer.front_congr paired.readRoutes))
      fun route => ?_
    rw [RingBuffer.full_congr (paired.ports route.port).r]
    split
    next => exact .ok paired
    next =>
      refine Together.attempt paired (.of_eq .refl rfl) fun cursor => ?_
      refine (reserve_together route paired).bind fun left right paired => ?_
      refine Together.attempt paired (.of_eq .refl (by rw [paired.world])) fun access => ?_
      have updated := RingBuffer.setFront_congr paired.readRoutes
        { route with beat := route.beat + 1 }
      have delivered : ∀ routes other : RingBuffer c.routeDepth (ReadRoute c),
          routes.toList = other.toList →
          Paired leftPast rightPast
            { left.setPort route.port
                { left.ports route.port with
                  r := ((left.ports route.port).r.push access.beat).2 } with
              readRoutes := routes
              world := access.world
              trace := left.trace ++ (access.call.map (Event.deviceRead route)).toList ++
                [.produce route access.beat] }
            { right.setPort route.port
                { right.ports route.port with
                  r := ((right.ports route.port).r.push access.beat).2 } with
              readRoutes := other
              world := access.world
              trace := right.trace ++ (access.call.map (Event.deviceRead route)).toList ++
                [.produce route access.beat] } := by
        intro routes other equal
        have same := paired.ports route.port
        exact
          { paired.setPort route.port (same.withR (RingBuffer.push_congr same.r _).2) with
            readRoutes := equal
            world := rfl
            trace := by
              rw [List.append_assoc, List.append_assoc]
              exact paired.recorded _ }
      split
      next =>
        exact (InStep.attempt paired (RingBuffer.pop_congr updated .refl)).bind
          fun routes other equal => .ok (delivered routes other equal)
      next => exact .ok (delivered _ _ updated)

theorem completeWriteRoute_together (route : WriteRoute c)
    (paired : Paired leftPast rightPast left right) :
    Together leftPast rightPast (completeWriteRoute left route)
      (completeWriteRoute right route) := by
  have same := paired.ports route.port
  have answered := paired.setPort route.port
    (same.withB (RingBuffer.push_congr same.b route.responsePayload).2)
  refine (InStep.attempt answered (RingBuffer.pop_congr answered.writeRoutes .refl)).bind
    fun routes other equal => .ok ?_
  exact { answered with writeRoutes := equal, trace := answered.recorded _ }

theorem applyAccess_paired (route : WriteRoute c) (access : WriteAccess c W)
    (paired : Paired leftPast rightPast left right) :
    Paired leftPast rightPast (applyAccess left route access) (applyAccess right route access) :=
  { paired with
    writeRoutes := RingBuffer.setFront_congr paired.writeRoutes _
    world := rfl
    monitors := rfl
    suppressRead := rfl
    trace := paired.recorded _ }

theorem processWriteCommit_together (env : FabricEnv W) (route : WriteRoute c)
    (cursor : BurstCursor c.dataBytes) (paired : Paired leftPast rightPast left right) :
    Together leftPast rightPast (processWriteCommit env left route cursor)
      (processWriteCommit env right route cursor) := by
  have suppressed : Paired leftPast rightPast { left with suppressRead := true }
      { right with suppressRead := true } := { paired with suppressRead := rfl }
  simp only [processWriteCommit, RingBuffer.full_congr (paired.ports route.port).b]
  split
  next => exact .ok paired
  next =>
    split
    next =>
      exact Together.attempt suppressed (.of_eq .refl (by rw [paired.world, paired.monitors]))
        fun access => completeWriteRoute_together _ (applyAccess_paired route access paired)
    next =>
      split
      next =>
        refine completeWriteRoute_together _ ?_
        exact { paired with writeRoutes := RingBuffer.setFront_congr paired.writeRoutes _ }
      next mapping targeted =>
        refine Together.attempt suppressed (.of_eq .refl rfl) fun beat => ?_
        refine Together.attempt suppressed
          (.of_eq .refl (by rw [paired.world, paired.monitors])) fun access => ?_
        have applied := applyAccess_paired route
          { access with route := access.route.afterBeat access.response cursor.beats } paired
        split
        next => exact completeWriteRoute_together _ applied
        next => exact .ok applied

theorem processWriteBeat_together (env : FabricEnv W)
    (paired : Paired leftPast rightPast left right) :
    Together leftPast rightPast (processWriteBeat env left) (processWriteBeat env right) := by
  rw [processWriteBeat, processWriteBeat, RingBuffer.empty_congr paired.writeRoutes]
  split
  next => exact .ok paired
  next =>
    refine Together.attempt paired (.of_eq .refl (RingBuffer.front_congr paired.writeRoutes))
      fun route => ?_
    refine Together.attempt paired (.of_eq .refl rfl) fun cursor => ?_
    have same := paired.ports route.port
    rw [RingBuffer.empty_congr same.w]
    split
    next => exact processWriteCommit_together env route cursor paired
    next =>
      split
      next => exact .ok paired
      next =>
        refine Together.attempt paired (.of_eq .refl (RingBuffer.front_congr same.w)) fun beat => ?_
        dsimp only
        split
        next => exact .error ⟨protocolError_alike _ _ _ _ _ _, paired⟩
        next =>
          refine Together.attempt paired (.of_eq .refl rfl) fun lanes => ?_
          split
          next => exact .error ⟨protocolError_alike _ _ _ _ _ _, paired⟩
          next =>
            split
            next inside =>
              refine (InStep.attempt paired (RingBuffer.pop_congr same.w .refl)).bind
                fun popped other equal => ?_
              have staged : ∀ next : WriteRoute c, Paired leftPast rightPast
                  { left.setPort route.port { left.ports route.port with w := popped } with
                    writeRoutes := left.writeRoutes.setFront next
                    trace := left.trace ++ [.stage route beat] }
                  { right.setPort route.port { right.ports route.port with w := other } with
                    writeRoutes := right.writeRoutes.setFront next
                    trace := right.trace ++ [.stage route beat] } := fun next =>
                { paired.setPort route.port (same.withW equal) with
                  writeRoutes := RingBuffer.setFront_congr paired.writeRoutes next
                  trace := paired.recorded _ }
              split
              next => exact processWriteCommit_together env _ cursor (staged _)
              next => exact .ok (staged _)
            next => exact .error ⟨.refl _, paired⟩

/-- The phases of an active `commit`. -/
theorem commit_together (env : FabricEnv W) (inputs : c.Inputs) (same : left.Same right)
    (outputs : left.outputs = right.outputs) :
    Together left.trace right.trace (commit env inputs false left)
      (commit env inputs false right) := by
  simp only [commit, Bool.false_eq_true, if_false]
  have awake : Paired left.trace right.trace { left with wasReset := false }
      { right with wasReset := false } :=
    { same with outputs, awake := ⟨rfl, rfl⟩, trace := ⟨[], by simp, by simp⟩ }
  refine (InStep.foldlM (fun port _ _ => checkPort_together inputs port) _ _ _ awake).bind
    fun left right checked => ?_
  refine (InStep.foldlM (fun port _ _ => retirePort_together inputs port) _ _ _ checked).bind
    fun left right retired => ?_
  refine (InStep.foldlM (fun port _ _ => acceptPort_together inputs port) _ _ _ retired).bind
    fun left right accepted => ?_
  refine ((arbitrateWrites_together env accepted).bind fun _ _ =>
    arbitrateReads_together env).bind fun left right arbitrated => ?_
  have ready : Paired _ _ { left with suppressRead := false }
      { right with suppressRead := false } := { arbitrated with suppressRead := rfl }
  refine (processWriteBeat_together env ready).bind fun left right written => ?_
  rw [written.suppressRead]
  split
  next => exact .ok written.tick
  next =>
    exact (processReadBeat_together env written).bind fun left right read => .ok read.tick

end Phases

theorem drivePort_congr {left right : PortState c} (same : left.Same right) (stall : Stall)
    (random : UInt64) : drivePort left stall random = drivePort right stall random := by
  simp only [drivePort, RingBuffer.full_congr same.aw, RingBuffer.full_congr same.w,
    RingBuffer.full_congr same.ar, RingBuffer.front_congr same.b, RingBuffer.front_congr same.r]

/-- Driving keeps two fabrics alike and gives them the same outputs. -/
theorem drive_same {left right : AxiFabric c W} (same : left.Same right) (resetActive : Bool) :
    (drive resetActive left).Same (drive resetActive right) ∧
      (drive resetActive left).outputs = (drive resetActive right).outputs := by
  cases resetActive with
  | true => exact ⟨{ same with }, rfl⟩
  | false =>
      simp only [drive, Bool.false_eq_true, if_false]
      refine List.foldl_rel
        (r := fun first second : AxiFabric c W =>
          first.Same second ∧ first.outputs = second.outputs)
        ⟨{ same with }, rfl⟩ fun port _ first second both => ?_
      obtain ⟨same, outputs⟩ := both
      have driven : drivePort (first.ports port) first.stall first.randomState =
          drivePort (second.ports port) second.stall second.randomState := by
        rw [drivePort_congr (same.ports port), same.stall, same.randomState]
      refine ⟨{ same with randomState := ?_ }, ?_⟩
      · simp only [driven]
      · simp only [driven, outputs]

end AxiFabric

end AxiTestbench
