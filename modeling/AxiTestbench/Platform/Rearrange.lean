import AxiTestbench.Platform.Edit

/-!
# Removing and moving devices

`PlatformSpec::remove` erases an instance with everything that refers to it, and
`PlatformSpec::map` replaces the windows of an instance.  What they make of an acceptable
specification is acceptable again.
-/

namespace AxiTestbench

open Lib Outcome

/-- Whether `remove` erases a connection. -/
def ConnectionSpec.touches (connection : ConnectionSpec) (id : String) :
    Except PlatformError Bool := do
  let (source, _) ← endpoint connection.source
  if source = id then
    return true
  let (target, _) ← endpoint connection.destination
  return target = id

namespace PlatformSpec

/-- `std::erase_if` over the connections, whose predicate may throw. -/
def eraseConnections (id : String) (connections : List ConnectionSpec) :
    Except PlatformError (List ConnectionSpec) :=
  connections.foldlM (fun kept connection => do
    if ← connection.touches id then return kept else return kept ++ [connection]) []

/-- `PlatformSpec::remove`. -/
def remove (spec : PlatformSpec) (id : String) : Except PlatformError PlatformSpec := do
  let _ ← spec.device id
  let connections ← eraseConnections id spec.connections
  return {
    devices := spec.devices.filter fun device => device.id ≠ id
    mappings := spec.mappings.filter fun mapping => mapping.device ≠ id
    connections }

/-- `PlatformSpec::map`. -/
def map (spec : PlatformSpec) (id : String) (base size : UInt64) :
    Except PlatformError PlatformSpec := do
  let _ ← spec.device id
  return { spec with
    mappings := (spec.mappings.filter fun mapping => mapping.device ≠ id) ++
      [{ device := id, base, size }] }

end PlatformSpec

/-! ## Windows -/

/-- The window is not empty and ends below `2 ^ 64`. -/
def MappingSpec.Sized (mapping : MappingSpec) : Prop :=
  0 < mapping.size.toNat ∧ mapping.base.toNat + mapping.size.toNat ≤ 2 ^ 64 - 1

/-- The windows share no byte. -/
def MappingSpec.Apart (left right : MappingSpec) : Prop :=
  left.base.toNat + left.size.toNat ≤ right.base.toNat ∨
    right.base.toNat + right.size.toNat ≤ left.base.toNat

/-- Whether windows fit does not depend on their devices. -/
theorem PlatformSpec.fits_iff {spec : PlatformSpec} {mappings : List MappingSpec}
    (known : ∀ mapping ∈ mappings, mapping.device ∈ spec.ids) :
    AddressSpace.fresh.FitAll (spec.windows mappings) ↔
      (∀ mapping ∈ mappings, mapping.Sized) ∧ mappings.Pairwise MappingSpec.Apart := by
  have windows : spec.windows mappings = mappings.map fun mapping =>
      { base := mapping.base, size := mapping.size, name := mapping.device,
        device := (spec.device mapping.device).toOption.getD 0 } := by
    rw [PlatformSpec.windows, ← List.filterMap_eq_map]
    refine List.filterMap_congr fun mapping member => ?_
    obtain ⟨position, found⟩ := device_of_mem (known mapping member)
    simp [found, Except.toOption]
  rw [windows]
  constructor
  · intro fits
    have apart := fits.apart
    rw [List.pairwise_map] at apart
    exact ⟨fun mapping member => fits.sized _ (List.mem_map_of_mem member), apart⟩
  · rintro ⟨sized, apart⟩
    refine ⟨fun _ => rfl, ?_, fun _ _ _ impossible => absurd impossible List.not_mem_nil,
      List.pairwise_map.mpr apart⟩
    rintro _ member
    obtain ⟨mapping, here, rfl⟩ := List.mem_map.mp member
    exact sized mapping here

/-! ## Connections -/

/-- A link that does not touch an instance. -/
def Link.Avoids (id : String) (link : Link) : Prop := link.source ≠ id ∧ link.target ≠ id

instance (id : String) (link : Link) : Decidable (link.Avoids id) :=
  inferInstanceAs (Decidable (_ ∧ _))

theorem ConnectionSpec.ResolvesTo.touches_eq {spec : PlatformSpec} {board : Board}
    {connection : ConnectionSpec} {link : Link} (resolves : connection.ResolvesTo spec board link)
    (id : String) : connection.touches id = .ok (decide ¬link.Avoids id) := by
  obtain ⟨srcPort, source, -⟩ := resolves.source
  obtain ⟨dstPort, target, -⟩ := resolves.target
  simp only [touches, source, target, ok_bind, Link.Avoids]
  by_cases same : link.source = id
  · simp [same, pure, Except.pure]
  · simp [same, pure, Except.pure]

theorem ConnectionSpec.ResolvesTo.imp {spec next : PlatformSpec} {board board' : Board}
    {connection : ConnectionSpec} {link : Link} (resolves : connection.ResolvesTo spec board link)
    (source : link.source ∈ next.ids) (target : link.target ∈ next.ids)
    (sourcePorts : board' link.source = board link.source)
    (targetPorts : board' link.target = board link.target) :
    connection.ResolvesTo next board' link := by
  obtain ⟨srcPort, srcParsed, -, output⟩ := resolves.source
  obtain ⟨dstPort, dstParsed, -, input⟩ := resolves.target
  exact
    { source := ⟨srcPort, srcParsed, source, sourcePorts ▸ output⟩
      target := ⟨dstPort, dstParsed, target, targetPorts ▸ input⟩
      width := by rw [sourcePorts, targetPorts, resolves.width]
      width_pos := targetPorts ▸ resolves.width_pos
      width_le := targetPorts ▸ resolves.width_le }

/-- The connections that are kept resolve to the links that do not touch the instance. -/
theorem PlatformSpec.eraseConnections_spec {spec : PlatformSpec} {board board' : Board}
    {id : String} (same : ∀ other ≠ id, board' other = board other)
    {connections : List ConnectionSpec} {links : List Link}
    (resolved : List.Forall₂ (ConnectionSpec.ResolvesTo spec board) connections links) :
    ∃ kept, eraseConnections id connections = .ok kept ∧
      ∀ next : PlatformSpec, (∀ other ∈ spec.ids, other ≠ id → other ∈ next.ids) →
        List.Forall₂ (ConnectionSpec.ResolvesTo next board') kept (links.filter (·.Avoids id)) := by
  suffices collect : ∀ start, ∃ kept,
      connections.foldlM (fun kept connection => do
        if ← connection.touches id then return kept else return kept ++ [connection]) start =
          .ok (start ++ kept) ∧
        ∀ next : PlatformSpec, (∀ other ∈ spec.ids, other ≠ id → other ∈ next.ids) →
          List.Forall₂ (ConnectionSpec.ResolvesTo next board') kept (links.filter (·.Avoids id)) by
    obtain ⟨kept, erased, resolves⟩ := collect []
    exact ⟨kept, erased, resolves⟩
  induction resolved with
  | nil => exact fun start => ⟨[], by rw [List.append_nil]; rfl, fun _ _ => .nil⟩
  | @cons connection link connections links resolves rest ih =>
      intro start
      rw [List.foldlM_cons, resolves.touches_eq id, ok_bind]
      by_cases avoids : link.Avoids id
      · obtain ⟨kept, erased, others⟩ := ih (start ++ [connection])
        obtain ⟨_, _, sourceKnown, _⟩ := resolves.source
        obtain ⟨_, _, targetKnown, _⟩ := resolves.target
        refine ⟨connection :: kept, ?_, ?_⟩
        · simpa [avoids] using erased
        · intro next known
          rw [List.filter_cons_of_pos (by simpa using avoids)]
          exact .cons (resolves.imp (known _ sourceKnown avoids.1) (known _ targetKnown avoids.2)
            (same _ avoids.1) (same _ avoids.2)) (others next known)
      · obtain ⟨kept, erased, others⟩ := ih start
        refine ⟨kept, ?_, ?_⟩
        · simpa [avoids] using erased
        · rwa [List.filter_cons_of_neg (by simpa using avoids)]

/-! ## Acceptable again -/

section

variable {files : HostFiles} {spec : PlatformSpec} {addressBits : Nat}
  {objects : List (String × DeviceObject)} {links : List Link}

theorem board_filter (hardware : Hardware DeviceObject) {id other : String}
    (different : other ≠ id) :
    hardware.board (objects.filter fun entry => entry.1 ≠ id) other =
      hardware.board objects other := by
  suffices same : (objects.filter fun entry => entry.1 ≠ id).lookup other = objects.lookup other by
    rw [Hardware.board, Hardware.board, same]
  induction objects with
  | nil => rfl
  | cons entry objects ih =>
      obtain ⟨name, object⟩ := entry
      by_cases removed : name = id
      · have missed : (other == name) = false := beq_eq_false_iff_ne.mpr (removed ▸ different)
        simp only [List.filter_cons, removed, ne_eq, not_true_eq_false, decide_false,
          Bool.false_eq_true, if_false, ih]
        rw [List.lookup_cons, ← removed, missed]
      · simp only [List.filter_cons, removed, ne_eq, not_false_eq_true, decide_true, if_true,
          List.lookup_cons, ih]

theorem instances_filter (instances : List.Forall₂ (DeviceSpec.Instance files) spec.devices objects)
    (id : String) :
    List.Forall₂ (DeviceSpec.Instance files) (spec.devices.filter fun device => device.id ≠ id)
      (objects.filter fun entry => entry.1 ≠ id) := by
  refine List.rel_filter (fun device entry here => ?_) instances
  change decide (device.id ≠ id) = true ↔ decide (entry.1 ≠ id) = true
  rw [here.1]

theorem acyclic_filter {edges others : List (String × String)} (acyclic : ¬Kahn.Cyclic edges)
    (subset : others ⊆ edges) : ¬Kahn.Cyclic others := by
  rintro ⟨node, path⟩
  exact acyclic ⟨node, Relation.TransGen.mono (fun _ _ member => subset member) _ _ path⟩

theorem countP_filter_ne (mappings : List MappingSpec) {id name : String} (different : name ≠ id) :
    (mappings.filter fun mapping => mapping.device ≠ id).countP (fun mapping =>
      mapping.device = name) = mappings.countP fun mapping => mapping.device = name := by
  rw [List.countP_filter]
  refine List.countP_congr fun mapping _ => ?_
  simp only [decide_eq_true_eq, Bool.and_eq_true, ne_eq]
  exact ⟨fun same => same.1, fun same => ⟨same, same ▸ different⟩⟩

/-- An acceptable platform stays acceptable when an instance is removed.  The connections and
windows of the instance are removed with it, and those of the others are kept. -/
theorem removal_keeps_acceptable (files : HostFiles) (spec : PlatformSpec) (addressBits : Nat)
    (objects : List (String × DeviceObject)) (links : List Link)
    (acceptable : spec.Acceptable files addressBits objects links) (id : String)
    (member : id ∈ spec.ids) :
    ∃ next, spec.remove id = .ok next ∧ next.ids = spec.ids.filter (· ≠ id) ∧
      next.mappings = spec.mappings.filter (fun mapping => mapping.device ≠ id) ∧
      next.Acceptable files addressBits (objects.filter fun entry => entry.1 ≠ id)
        (links.filter (·.Avoids id)) := by
  obtain ⟨position, found⟩ := PlatformSpec.device_of_mem member
  let devices := spec.devices.filter fun device => device.id ≠ id
  let mappings := spec.mappings.filter fun mapping => mapping.device ≠ id
  have ids : devices.map DeviceSpec.id = spec.ids.filter (· ≠ id) := by
    rw [PlatformSpec.ids, List.filter_map]
    rfl
  have known : ∀ other ∈ spec.ids, other ≠ id → other ∈ devices.map DeviceSpec.id := by
    intro other otherMember different
    rw [ids]
    exact List.mem_filter.mpr ⟨otherMember, by simpa using different⟩
  obtain ⟨kept, erased, resolved⟩ := PlatformSpec.eraseConnections_spec

    (fun other different => board_filter DeviceObject.hardware different) acceptable.valid.resolved
  refine ⟨⟨devices, mappings, kept⟩, ?_, ids, rfl, ?_⟩
  · rw [PlatformSpec.remove, found, erased]
    rfl
  · have knownMappings : ∀ mapping ∈ mappings, mapping.device ∈ devices.map DeviceSpec.id := by
      intro mapping mappingMember
      obtain ⟨old, different⟩ := List.mem_filter.mp mappingMember
      exact known _ (acceptable.known mapping old) (by simpa using different)
    obtain ⟨sized, apart⟩ := (PlatformSpec.fits_iff acceptable.known).mp acceptable.fits
    exact
      { width := acceptable.width
        checks := fun device here => acceptable.checks device (List.mem_of_mem_filter here)
        instances := instances_filter acceptable.instances id
        opens := by
          intro file wanted
          obtain ⟨device, here, wants⟩ := List.mem_flatMap.mp wanted
          exact acceptable.opens file
            (List.mem_flatMap.mpr ⟨device, List.mem_of_mem_filter here, wants⟩)
        known := knownMappings
        narrow := fun bits mapping here =>
          acceptable.narrow bits mapping (List.mem_of_mem_filter here)
        fits := (PlatformSpec.fits_iff knownMappings).mpr
          ⟨fun mapping here => sized mapping (List.mem_of_mem_filter here), apart.filter _⟩
        imaged := by
          intro device here image
          obtain ⟨old, different⟩ := List.mem_filter.mp here
          rw [← acceptable.imaged device old image]
          exact countP_filter_ne spec.mappings (by simpa using different)
        valid :=
          { ids := by
              change (devices.map DeviceSpec.id).Nodup
              rw [ids]
              exact acceptable.valid.ids.filter _
            resolved := resolved _ known
            driven := acceptable.valid.driven.filter _ }
        acyclic := acyclic_filter acceptable.acyclic
          (List.map_subset _ (List.filter_sublist.subset)) }

/-- A UART that interrupts through a PLIC. -/
def bridgeSpec : PlatformSpec where
  devices := [{ id := "uart", type := "uart" }, { id := "plic", type := "riscv-plic" }]
  mappings :=
    [{ device := "uart", base := 0x1000, size := 0x100 },
      { device := "plic", base := 0x4000000, size := 0x4000000 }]
  connections := [{ source := "uart.irq", destination := "plic.source1" }]

/-- A host where every file opens. -/
def openHost : HostFiles where
  failure _ _ := none
  bytes _ _ := none

theorem bridgeSpec_acceptable :
    ∃ objects links, bridgeSpec.Acceptable openHost 32 objects links := by
  obtain ⟨after, built, returned⟩ : ∃ after built, (DeviceRegistry.registered openHost).construct
      DeviceObject.hardware bridgeSpec 32 {} = .ok (after, built) := ⟨_, _, rfl⟩
  obtain ⟨-, links, acceptable, -⟩ := PlatformSpec.acceptable_of_construct returned
  exact ⟨built.objects, links, acceptable⟩

theorem removal_keeps_acceptable_bridge :
    ∃ next objects links, bridgeSpec.remove "uart" = .ok next ∧ next.ids = ["plic"] ∧
      next.Acceptable openHost 32 objects links := by
  obtain ⟨objects, links, acceptable⟩ := bridgeSpec_acceptable
  obtain ⟨next, removed, ids, -, again⟩ :=
    removal_keeps_acceptable openHost bridgeSpec 32 objects links acceptable "uart" (by decide)
  exact ⟨next, _, _, removed, ids, again⟩

/-- A moved device.  The windows of an instance of an acceptable platform are replaced by one,
and the result is acceptable exactly if that window is in range and meets no window of another
instance. -/
theorem remapping_accepted_iff (files : HostFiles) (spec : PlatformSpec) (addressBits : Nat)
    (objects : List (String × DeviceObject)) (links : List Link)
    (acceptable : spec.Acceptable files addressBits objects links) (id : String)
    (member : id ∈ spec.ids) (base size : UInt64) :
    ∃ next, spec.map id base size = .ok next ∧
      ((∃ objects links, next.Acceptable files addressBits objects links) ↔
        MappingSpec.Sized ⟨id, base, size⟩ ∧
        (addressBits = 32 → ¬MappingSpec.TooWide ⟨id, base, size⟩) ∧
        ∀ mapping ∈ spec.mappings, mapping.device ≠ id → mapping.Apart ⟨id, base, size⟩) := by
  obtain ⟨position, found⟩ := PlatformSpec.device_of_mem member
  let moved : MappingSpec := ⟨id, base, size⟩
  let others := spec.mappings.filter fun mapping => mapping.device ≠ id
  refine ⟨{ spec with mappings := others ++ [moved] }, by rw [PlatformSpec.map, found]; rfl, ?_⟩
  have known : ∀ mapping ∈ others ++ [moved], mapping.device ∈ spec.ids := by
    intro mapping here
    rcases List.mem_append.mp here with old | new
    · exact acceptable.known mapping (List.mem_of_mem_filter old)
    · rw [List.mem_singleton.mp new]
      exact member
  have knownAgain : ∀ mapping ∈ others ++ [moved],
      mapping.device ∈ PlatformSpec.ids { spec with mappings := others ++ [moved] } := known
  constructor
  · rintro ⟨otherObjects, otherLinks, again⟩
    obtain ⟨sized, apart⟩ := (PlatformSpec.fits_iff knownAgain).mp again.fits
    refine ⟨sized moved (by simp), fun bits => again.narrow bits moved (by simp), ?_⟩
    intro mapping here different
    exact (List.pairwise_append.mp apart).2.2 mapping
      (List.mem_filter.mpr ⟨here, by simpa using different⟩) moved (by simp)
  · rintro ⟨movedSized, narrow, separate⟩
    obtain ⟨sized, apart⟩ := (PlatformSpec.fits_iff acceptable.known).mp acceptable.fits
    refine ⟨objects, links, ?_⟩
    exact
      { width := acceptable.width
        checks := acceptable.checks
        instances := acceptable.instances
        opens := acceptable.opens
        known := knownAgain
        narrow := fun bits => List.forall_mem_append.mpr
          ⟨fun mapping here => acceptable.narrow bits mapping (List.mem_of_mem_filter here), by
            simpa using narrow bits⟩
        fits := (PlatformSpec.fits_iff knownAgain).mpr
          ⟨List.forall_mem_append.mpr
            ⟨fun mapping here => sized mapping (List.mem_of_mem_filter here), by
              simpa using movedSized⟩,
          List.pairwise_append.mpr ⟨apart.filter _, List.pairwise_singleton _ _, by
            intro mapping here other new
            rw [List.mem_singleton.mp new]
            obtain ⟨old, different⟩ := List.mem_filter.mp here
            exact separate mapping old (by simpa using different)⟩⟩
        imaged := by
          intro device here image
          rw [List.countP_append, List.countP_singleton]
          by_cases same : device.id = id
          · have gone : others.countP (fun mapping => mapping.device = device.id) = 0 := by
              rw [List.countP_eq_zero]
              intro mapping old
              simpa [same] using (List.mem_filter.mp old).2
            rw [gone, if_pos (by simpa [moved] using same.symm)]
          · rw [countP_filter_ne spec.mappings same, acceptable.imaged device here image,
              if_neg (by simpa [moved] using Ne.symm same)]
        valid := ⟨acceptable.valid.ids, acceptable.valid.resolved.imp fun _ _ resolves =>
          ⟨resolves.source, resolves.target, resolves.width, resolves.width_pos,
            resolves.width_le⟩, acceptable.valid.driven⟩
        acyclic := acceptable.acyclic }

theorem remapping_accepted_iff_bridge :
    ∃ next objects links, bridgeSpec.map "uart" 0x2000 0x100 = .ok next ∧
      next.Acceptable openHost 32 objects links := by
  obtain ⟨objects, links, acceptable⟩ := bridgeSpec_acceptable
  obtain ⟨next, moved, iff⟩ := remapping_accepted_iff openHost bridgeSpec 32 objects links acceptable
    "uart" (by decide) 0x2000 0x100
  obtain ⟨others, otherLinks, again⟩ := iff.mpr ⟨⟨by decide, by decide⟩, fun _ => by decide, by
    simp only [bridgeSpec, List.forall_mem_cons]
    exact ⟨fun different => absurd rfl different, fun _ => .inr (by decide), by simp⟩⟩
  exact ⟨next, others, otherLinks, moved, again⟩

end

end AxiTestbench
