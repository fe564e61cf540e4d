import AxiTestbench.Fabric.Conservation

/-!
# Routes in flight

Every route in the queues comes from an accepted payload, carries what
`initialize_route` computed for it, and holds only W beats whose strobes are
legal.
-/

namespace AxiTestbench

open Lib Outcome

variable {c : Config} {W : Type}

/-- The decision of `initialize_route` that a route carries. -/
structure RouteBase.Valid (env : FabricEnv W) (route : RouteBase c) : Prop where
  routable : Routable c route.payload
  exclusive_eq : route.exclusive = route.payload.lock
  mapping_eq : route.mapping = decodedMapping env.space c.dataBytes route.payload
  forced : ∃ world, route.forcedResponse = forcedResponseOf env world route.payload route.mapping

namespace RouteBase.Valid

variable {env : FabricEnv W} {route : RouteBase c}

theorem of_routed {cycle : UInt64} {world : W} {port : c.Port} {payload : AddressPayload}
    {channel : Channel}
    (routed : initializeRoute env cycle world port payload channel = .ok route) :
    route.Valid env := by
  obtain ⟨routable, rfl⟩ := initializeRoute_eq_ok_iff.mp routed
  exact ⟨routable, rfl, rfl, world, rfl⟩

/-- The parts of a route that validity speaks of. -/
theorem of_eq {other : RouteBase c} (valid : route.Valid env)
    (payload : other.payload = route.payload) (exclusive : other.exclusive = route.exclusive)
    (mapping : other.mapping = route.mapping)
    (forced : other.forcedResponse = route.forcedResponse) : other.Valid env :=
  ⟨payload ▸ valid.routable, by rw [exclusive, payload]; exact valid.exclusive_eq,
    by rw [mapping, payload]; exact valid.mapping_eq,
    by rw [forced, payload, mapping]; exact valid.forced⟩

theorem target_iff {mapping : Mapping} :
    route.target = some mapping ↔ route.forcedResponse = .okay ∧ route.mapping = some mapping := by
  simp [RouteBase.target]

theorem starts (valid : route.Valid env) {index : Nat} (inRange : index < route.payload.beats) :
    route.payload.beatStart index < 2 ^ 64 := by
  obtain ⟨cursor, built, below⟩ :=
    (BurstCursor.accepted_iff c.dataBytes_eq route.payload).mp valid.routable.accepted
  exact (below index inRange).1

theorem shape (valid : route.Valid env) (exclusive : route.exclusive = true) :
    ExclusiveShape route.payload :=
  valid.routable.shape (valid.exclusive_eq ▸ exclusive)

/-- The beats of a targeted route lie in its window. -/
theorem window (valid : route.Valid env) {mapping : Mapping}
    (targeted : route.target = some mapping) {index : Nat} (inRange : index < route.payload.beats)
    (below : route.payload.beatEnd index < 2 ^ 64) :
    mapping ∈ env.space.mappings ∧ mapping.base ≤ route.payload.beatStart index ∧
      route.payload.beatEnd index ≤ mapping.limit := by
  obtain ⟨cursor, built, -⟩ := valid.routable.accepted
  obtain ⟨-, -, endEq, positive, -⟩ := beat_span built index
  have decodes : Decodes env.space c.dataBytes route.payload mapping := by
    rw [← decodedMapping_eq_some_iff, ← valid.mapping_eq]
    exact (target_iff.mp targeted).2
  have visible : ∀ byte, route.payload.beatStart index ≤ byte → byte < route.payload.beatEnd index →
      mapping ∈ env.space.mappings ∧ mapping.base ≤ byte ∧ byte + 1 ≤ mapping.limit := by
    intro byte lower upper
    have resolved := decodes.2 byte
      ((mem_visibleBytes_iff cursor built byte).mpr ⟨index, inRange, lower, upper, below⟩)
    obtain ⟨member, -, atOrAbove, fits⟩ := (env.space.resolve_eq_some_iff).mp resolved
    exact ⟨member, atOrAbove, fits⟩
  obtain ⟨member, baseLe, -⟩ := visible (route.payload.beatStart index) (by omega) (by omega)
  obtain ⟨-, -, endLe⟩ := visible (route.payload.beatEnd index - 1) (by omega) (by omega)
  exact ⟨member, baseLe, by omega⟩

theorem beatEnd_le (valid : route.Valid env) {index : Nat}
    (inRange : index < route.payload.beats) : route.payload.beatEnd index ≤ 2 ^ 64 := by
  obtain ⟨cursor, built, -⟩ := valid.routable.accepted
  have startLt := valid.starts inRange
  rw [← BurstCursor.payload_of_new built] at startLt ⊢
  exact cursor.beatEnd_le c.dataBytes_eq startLt

/-- Away from the top of the address space every beat ends below it. -/
theorem beatEnd_lt (valid : route.Valid env) (offTop : ¬route.payload.TouchesTop) {index : Nat}
    (inRange : index < route.payload.beats) : route.payload.beatEnd index < 2 ^ 64 := by
  have endLe := valid.beatEnd_le inRange
  have endNe : route.payload.beatEnd index ≠ 2 ^ 64 := fun top =>
    offTop ((touchesTop_iff valid.routable.accepted).mpr ⟨index, inRange, top⟩)
  omega

end RouteBase.Valid

/-- No staged strobe selects a lane outside its beat. -/
def WriteRoute.Legal (route : WriteRoute c) : Prop :=
  ∀ index < route.beat, ∀ lane : Fin c.dataBytes, (route.stagedBeat index).strobe lane ≠ 0 →
    route.payload.mask c.dataBytes index lane ≠ 0

/-- What is known of the routes and payloads in flight. -/
structure Sound (env : FabricEnv W) (history : List (Event c)) (state : Pipeline c W) : Prop where
  writes : ∀ route ∈ state.writeRoutes, route.Valid env ∧ route.Legal
  reads : ∀ route ∈ state.readRoutes, route.Valid env
  awAccepted : ∀ port, ∀ payload ∈ (state.ports port).aw, .aw port payload ∈ history
  arAccepted : ∀ port, ∀ payload ∈ (state.ports port).ar, .ar port payload ∈ history
  writesAccepted : ∀ route ∈ state.writeRoutes, .aw route.port route.payload ∈ history
  readsAccepted : ∀ route ∈ state.readRoutes, .ar route.port route.payload ∈ history

namespace Sound

variable {env : FabricEnv W} {history more : List (Event c)} {state next : Pipeline c W}

theorem empty (env : FabricEnv W) (world : W) : Sound env [] (Pipeline.empty c world) := by
  constructor <;> simp [Pipeline.empty]

/-- It is enough to look at what a step brings into the queues. -/
theorem of_queues (sound : Sound env history state)
    (writeRoutes : ∀ route ∈ next.writeRoutes, route ∈ state.writeRoutes ∨
      route.Valid env ∧ route.Legal ∧ .aw route.port route.payload ∈ history)
    (readRoutes : ∀ route ∈ next.readRoutes, route ∈ state.readRoutes ∨
      route.Valid env ∧ .ar route.port route.payload ∈ history)
    (aw : ∀ port, ∀ payload ∈ (next.ports port).aw,
      payload ∈ (state.ports port).aw ∨ .aw port payload ∈ more)
    (ar : ∀ port, ∀ payload ∈ (next.ports port).ar,
      payload ∈ (state.ports port).ar ∨ .ar port payload ∈ more) :
    Sound env (history ++ more) next := by
  refine ⟨?_, ?_, ?_, ?_, ?_, ?_⟩
  · intro route member
    rcases writeRoutes route member with old | ⟨valid, legal, -⟩
    · exact sound.writes route old
    · exact ⟨valid, legal⟩
  · intro route member
    rcases readRoutes route member with old | ⟨valid, -⟩
    · exact sound.reads route old
    · exact valid
  · intro port payload member
    rcases aw port payload member with old | new
    · exact List.mem_append_left _ (sound.awAccepted port payload old)
    · exact List.mem_append_right _ new
  · intro port payload member
    rcases ar port payload member with old | new
    · exact List.mem_append_left _ (sound.arAccepted port payload old)
    · exact List.mem_append_right _ new
  · intro route member
    rcases writeRoutes route member with old | ⟨-, -, accepted⟩
    · exact List.mem_append_left _ (sound.writesAccepted route old)
    · exact List.mem_append_left _ accepted
  · intro route member
    rcases readRoutes route member with old | ⟨-, accepted⟩
    · exact List.mem_append_left _ (sound.readsAccepted route old)
    · exact List.mem_append_left _ accepted

theorem legal_stageBeat {route : WriteRoute c} {beat : c.WriteBeat} {index : Fin 256} {final : Bool}
    (legal : route.Legal) (indexEq : index.val = route.beat)
    (strobes : ∀ lane, beat.strobe lane ≠ 0 →
      route.payload.mask c.dataBytes route.beat lane ≠ 0) :
    (route.stageBeat beat index final).Legal := by
  intro other otherLt lane strobed
  have indexIs : Fin.ofNat 256 route.beat = index := by
    apply Fin.ext
    simp [← indexEq]
  simp only [WriteRoute.stagedBeat, WriteRoute.stageBeat] at strobed otherLt ⊢
  by_cases here : other = route.beat
  · subst here
    rw [indexIs, Function.update_self] at strobed
    exact strobes lane strobed
  · have different : Fin.ofNat 256 other ≠ index := by
      intro equal
      have values := congrArg Fin.val equal
      have := index.isLt
      simp only [Fin.val_ofNat] at values
      omega
    rw [Function.update_of_ne different] at strobed
    exact legal other (by omega) lane strobed

theorem step (sound : Sound env history state) (ordered : Ordered state)
    (taken : Pipeline.ActiveStep env state more next) : Sound env (history ++ more) next := by
  obtain ⟨taken, active⟩ := taken
  -- Queues that a step keeps or shortens.
  have same : ∀ {T : Type} {items : List T} {holds : T → Prop} (item : T), item ∈ items →
      item ∈ items ∨ holds item := fun item => .inl
  cases taken with
  | acceptW | retireR | reserve | resetDevices | tick =>
      exact sound.of_queues same same (by simp) (by simp)
  | retireB =>
      exact sound.of_queues (fun _ member => .inl (by simpa using member))
        (fun _ member => .inl (by simpa using member)) (by simp) (by simp)
  | acceptAw other payload room =>
      refine sound.of_queues same same ?_ (by simp)
      intro port item member
      by_cases here : port = other
      · subst here
        simpa using member
      · simpa [here] using member
  | acceptAr other payload room =>
      refine sound.of_queues same same (by simp) ?_
      intro port item member
      by_cases here : port = other
      · subst here
        simpa using member
      · simpa [here] using member
  | routeAw other payload rest cycle base queue room routed =>
      have fields := initializeRoute_routed routed
      refine sound.of_queues ?_ same ?_ (by simp)
      · intro route member
        rcases List.mem_append.mp member with old | new
        · exact .inl old
        · obtain rfl := List.mem_singleton.mp new
          refine .inr ⟨.of_routed routed, ?_, ?_⟩
          · intro index indexLt
            simp [fields.beat_eq] at indexLt
          · simp only [fields.port_eq, fields.payload_eq]
            exact sound.awAccepted other payload (by simp [queue])
      · intro port item member
        by_cases here : port = other
        · subst here
          simp only [Pipeline.setPort_ports, if_true] at member
          exact .inl (by simp [queue, member])
        · simpa [here] using member
  | routeAr other payload rest cycle base queue room routed =>
      have fields := initializeRoute_routed routed
      refine sound.of_queues same ?_ (by simp) ?_
      · intro route member
        rcases List.mem_append.mp member with old | new
        · exact .inl old
        · obtain rfl := List.mem_singleton.mp new
          refine .inr ⟨.of_routed routed, ?_⟩
          simp only [fields.port_eq, fields.payload_eq]
          exact sound.arAccepted other payload (by simp [queue])
      · intro port item member
        by_cases here : port = other
        · subst here
          simp only [Pipeline.setPort_ports, if_true] at member
          exact .inl (by simp [queue, member])
        · simpa [here] using member
  | stage route routes beat rest cursor lanes index front built incomplete queue last mask legal
      indexEq =>
      obtain ⟨valid, stagedLegal⟩ := sound.writes route (by simp [front])
      have payloadEq := BurstCursor.payload_of_new built
      have inRange : route.beat < route.payload.beats := by
        have started := ordered.writes route (by simp [front])
        have notAll : route.beat ≠ route.payload.beats := by
          intro all
          simp [started.complete_iff.mpr all] at incomplete
        have := started.beat_le
        omega
      have maskEq : lanes = route.payload.mask c.dataBytes route.beat := by
        have computed := cursor.laneMask_eq c.dataBytes_eq (payloadEq ▸ inRange)
          (payloadEq ▸ valid.starts inRange)
        rw [mask, payloadEq] at computed
        exact Except.ok.inj computed
      refine sound.of_queues ?_ same (by simp) (by simp)
      intro other member
      rcases List.mem_cons.mp member with rfl | behind
      · exact .inr ⟨valid.of_eq rfl rfl rfl rfl,
          legal_stageBeat stagedLegal indexEq (maskEq ▸ legal),
          sound.writesAccepted route (by simp [front])⟩
      · exact .inl (by simp [front, behind])
  | completeForced route routes front =>
      refine sound.of_queues (fun other member => .inl ?_) same
        (fun _ _ member => .inl (by simpa [Pipeline.respond] using member))
        (fun _ _ member => .inl (by simpa [Pipeline.respond] using member))
      rw [front]
      exact List.mem_cons_of_mem _ member
  | commitExclusive route routes cursor access front =>
      refine sound.of_queues (fun other member => .inl ?_) same
        (fun _ _ member => .inl (by simpa [Pipeline.respond] using member))
        (fun _ _ member => .inl (by simpa [Pipeline.respond] using member))
      rw [front]
      exact List.mem_cons_of_mem _ member
  | commitLast route routes cursor mapping data strobe access front =>
      refine sound.of_queues (fun other member => .inl ?_) same
        (fun _ _ member => .inl (by simpa [Pipeline.respond] using member))
        (fun _ _ member => .inl (by simpa [Pipeline.respond] using member))
      rw [front]
      exact List.mem_cons_of_mem _ member
  | commitBeat route routes cursor mapping data strobe access front built complete room regular
      targeted staged written more =>
      obtain ⟨exitResponse, exitCode, routeEq⟩ := writeDeviceBeat_route written
      obtain ⟨valid, legal⟩ := sound.writes route (by simp [front])
      refine sound.of_queues ?_ same (fun _ => same) (fun _ => same)
      intro other member
      rcases List.mem_cons.mp member with rfl | behind
      · refine .inr ⟨?_, ?_, ?_⟩
        · simp only [WriteRoute.afterBeat, routeEq]
          exact valid
        · simp only [WriteRoute.afterBeat, routeEq]
          exact legal
        · simp only [WriteRoute.afterBeat, routeEq]
          exact sound.writesAccepted route (by simp [front])
      · exact .inl (by simp [front, behind])
  | readBeat route routes cursor access front =>
      refine sound.of_queues same ?_
        (fun _ _ member => .inl (by simpa [Pipeline.deliver] using member))
        (fun _ _ member => .inl (by simpa [Pipeline.deliver] using member))
      intro other member
      rcases List.mem_cons.mp member with rfl | behind
      · exact .inr ⟨(sound.reads route (by simp [front])).of_eq rfl rfl rfl rfl,
          sound.readsAccepted route (by simp [front])⟩
      · exact .inl (by simp [front, behind])
  | readLast route routes cursor access front =>
      refine sound.of_queues same (fun other member => .inl ?_)
        (fun _ _ member => .inl (by simpa [Pipeline.deliver] using member))
        (fun _ _ member => .inl (by simpa [Pipeline.deliver] using member))
      rw [front]
      exact List.mem_cons_of_mem _ member
  | reset => simp [Event.isReset] at active

theorem of_traces {world : W}
    (trace : Traces (Pipeline.ActiveStep env) (.empty c world) history state) :
    Sound env history state := by
  have both : Ordered state ∧ Sound env history state := by
    refine trace.invariant (fun history state => Ordered state ∧ Sound env history state)
      ⟨.empty world, .empty env world⟩ ?_
    rintro history state more next ⟨ordered, sound⟩ taken
    exact ⟨ordered.step taken.1, sound.step ordered taken⟩
  exact both.2

end Sound

end AxiTestbench
