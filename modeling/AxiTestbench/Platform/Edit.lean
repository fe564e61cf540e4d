import AxiTestbench.Platform.Startup

/-!
# Editing a specification

`PlatformSpec::set`, `remove` and `map` (`platform.cpp`).  The command line changes properties
with the first of them; the others take a platform apart and place its devices elsewhere.
-/

namespace AxiTestbench

open Lib Outcome

/-! ## Text -/

/-- The parts of a text around the first occurrence of a character. -/
theorem split_first_iff {mark : Char} {text front rest : List Char} :
    text.takeWhile (· ≠ mark) = front ∧ text.dropWhile (· ≠ mark) = mark :: rest ↔
      text = front ++ mark :: rest ∧ mark ∉ front := by
  constructor
  · rintro ⟨rfl, later⟩
    refine ⟨by rw [← later, List.takeWhile_append_dropWhile], fun member => ?_⟩
    simpa using List.mem_takeWhile_imp member
  · rintro ⟨rfl, absent⟩
    have all : ∀ ch ∈ front, decide (ch ≠ mark) = true := by
      intro ch member
      simpa using fun same : ch = mark => absent (same ▸ member)
    rw [List.takeWhile_append_of_pos all, List.dropWhile_append_of_pos all]
    simp

theorem exists_rest {mark : Char} {text : List Char}
    (some : text.dropWhile (· ≠ mark) ≠ []) : ∃ rest, text.dropWhile (· ≠ mark) = mark :: rest := by
  obtain ⟨ch, rest, later⟩ := List.exists_cons_of_ne_nil some
  have stopped : ch = mark := by
    have head := List.head?_dropWhile_not (fun ch => decide (ch ≠ mark)) text
    rw [later] at head
    simpa using head
  exact ⟨rest, stopped ▸ later⟩

theorem endpoint_eq_ok_iff {text id port : String} :
    endpoint text = .ok (id, port) ↔
      text.toList = id.toList ++ '.' :: port.toList ∧ '.' ∉ id.toList ∧ id ≠ "" ∧ port ≠ "" := by
  have nonempty : ∀ {word : String}, word ≠ "" ↔ word.toList ≠ [] := by simp
  rw [endpoint]
  constructor
  · intro found
    split at found
    next => cases found
    next accepted =>
      simp only [not_or] at accepted
      obtain ⟨named, dotted, ported⟩ := accepted
      obtain ⟨rest, later⟩ := exists_rest dotted
      obtain ⟨same, absent⟩ := split_first_iff.mp ⟨rfl, later⟩
      cases found
      rw [later] at ported ⊢
      exact ⟨by simpa using same, by simpa using absent, nonempty.mpr (by simpa using named),
        nonempty.mpr (by simpa using ported)⟩
  · rintro ⟨same, absent, named, ported⟩
    obtain ⟨front, later⟩ := split_first_iff.mpr ⟨same, absent⟩
    rw [front, later]
    simp [nonempty.mp named, nonempty.mp ported]

/-! ## Properties -/

/-- Assignment through `operator[]` of `std::map`, which keeps the order of the keys. -/
def Properties.assign : Properties → (key value : String) → Properties
  | [], key, value => [(key, value)]
  | (name, old) :: rest, key, value =>
      if key = name then (name, value) :: rest
      else if key < name then (key, value) :: (name, old) :: rest
      else (name, old) :: assign rest key value

theorem Properties.lookup_assign (properties : Properties) (key value name : String) :
    (properties.assign key value).lookup name =
      if name = key then some value else properties.lookup name := by
  have lookup_cons : ∀ (other old : String) (rest : Properties),
      List.lookup name ((other, old) :: rest) =
        if name = other then some old else List.lookup name rest := by
    intro other old rest
    by_cases same : name = other
    · simp [same]
    · rw [List.lookup_cons, beq_eq_false_iff_ne.mpr same, if_neg same]
  induction properties with
  | nil => simp only [assign, lookup_cons]
  | cons entry rest ih =>
      obtain ⟨other, old⟩ := entry
      simp only [assign]
      split
      next here =>
        subst here
        simp only [lookup_cons]
        split <;> rfl
      next elsewhere =>
        split
        next => simp only [lookup_cons]
        next =>
          simp only [lookup_cons, ih]
          by_cases same : name = key
          · rw [if_pos same, if_pos same, if_neg (same ▸ elsewhere)]
          · rw [if_neg same, if_neg same]

namespace PlatformSpec

/-- The effect of `set` on the instance at a position. -/
def assign (spec : PlatformSpec) (position : DeviceId) (key value : String) : PlatformSpec :=
  { spec with
    devices := spec.devices.modify position fun device =>
      { device with properties := Properties.assign device.properties key value } }

/-- `PlatformSpec::set`. -/
def set (spec : PlatformSpec) (assignment : String) : Except ConfigError PlatformSpec := do
  let target := assignment.toList.takeWhile (· ≠ '=')
  let rest := assignment.toList.dropWhile (· ≠ '=')
  reject (rest = []) (.invalidArgument "expected instance.option=value")
  let (id, key) ← (endpoint (String.ofList target)).mapError .platform
  let position ← (spec.device id).mapError .platform
  return spec.assign position key (String.ofList (rest.drop 1))

def setAll (spec : PlatformSpec) (assignments : List String) : Except ConfigError PlatformSpec :=
  assignments.foldlM set spec

end PlatformSpec

/-- An assignment `id.key=value`. -/
structure Assignment where
  id : String
  key : String
  value : String

namespace Assignment

def text (assignment : Assignment) : String :=
  assignment.id ++ "." ++ assignment.key ++ "=" ++ assignment.value

/-- The value may contain any character, the key also dots. -/
structure WellFormed (assignment : Assignment) : Prop where
  id_ne : assignment.id ≠ ""
  id_undotted : '.' ∉ assignment.id.toList
  id_unequal : '=' ∉ assignment.id.toList
  key_ne : assignment.key ≠ ""
  key_unequal : '=' ∉ assignment.key.toList

theorem WellFormed.split {assignment : Assignment} (formed : assignment.WellFormed) :
    assignment.text.toList.takeWhile (· ≠ '=') =
        assignment.id.toList ++ '.' :: assignment.key.toList ∧
      assignment.text.toList.dropWhile (· ≠ '=') = '=' :: assignment.value.toList := by
  refine split_first_iff.mpr ⟨by simp [text], ?_⟩
  simp only [List.mem_append, List.mem_cons, not_or]
  exact ⟨formed.id_unequal, by decide, formed.key_unequal⟩

end Assignment

namespace PlatformSpec

variable {spec next : PlatformSpec}

theorem set_eq_ok_iff {text : String} :
    spec.set text = .ok next ↔ ∃ assignment : Assignment, text = assignment.text ∧
      assignment.WellFormed ∧ ∃ position, spec.device assignment.id = .ok position ∧
        next = spec.assign position assignment.key assignment.value := by
  rw [set, reject_bind_eq_ok_iff, bind_eq_ok_iff]
  simp only [mapError_eq_ok_iff]
  constructor
  · rintro ⟨equal, ⟨id, key⟩, split, later⟩
    obtain ⟨same, undotted, named, keyed⟩ := endpoint_eq_ok_iff.mp split
    obtain ⟨position, found, returned⟩ := bind_eq_ok_iff.mp later
    rw [mapError_eq_ok_iff] at found
    obtain ⟨value, rest⟩ := exists_rest equal
    obtain ⟨whole, absent⟩ := split_first_iff.mp ⟨rfl, rest⟩
    rw [String.toList_ofList] at same
    rw [same] at whole absent
    simp only [List.mem_append, List.mem_cons, not_or] at absent
    refine ⟨⟨id, key, String.ofList value⟩, ?_, ⟨named, undotted, absent.1, keyed, absent.2.2⟩,
      position, found, ?_⟩
    · rw [← String.toList_inj, whole]
      simp [Assignment.text]
    · rw [pure_eq_ok_iff.mp returned, rest]
      rfl
  · rintro ⟨assignment, rfl, formed, position, found, rfl⟩
    rw [formed.split.1, formed.split.2]
    refine ⟨by simp, (assignment.id, assignment.key), endpoint_eq_ok_iff.mpr ⟨by simp,
      formed.id_undotted, formed.id_ne, formed.key_ne⟩, ?_⟩
    simp [found, Except.mapError, pure, Except.pure, bind, Except.bind]

/-- The value of a property of an instance. -/
def property (spec : PlatformSpec) (id key : String) : Option String :=
  (spec.devices.find? fun device => device.id = id).bind fun device =>
    List.lookup key device.properties

theorem find?_modify {devices : List DeviceSpec} {change : DeviceSpec → DeviceSpec}
    (keepsId : ∀ device, (change device).id = device.id) {position : Nat} {target : String}
    (first : (devices.map DeviceSpec.id).findIdx? (· == target) = some position) (id : String) :
    (devices.modify position change).find? (fun device => device.id = id) =
      if id = target then (devices.find? fun device => device.id = id).map change
      else devices.find? fun device => device.id = id := by
  induction devices generalizing position with
  | nil => simp at first
  | cons device devices ih =>
      rw [List.map_cons, List.findIdx?_cons] at first
      split at first
      next here =>
        cases first
        obtain rfl := beq_iff_eq.mp here
        rw [List.modify_zero_cons, List.find?_cons, List.find?_cons, keepsId]
        by_cases same : id = device.id
        · simp [same]
        · simp [same, Ne.symm same]
      next elsewhere =>
        obtain ⟨before, found, rfl⟩ := Option.map_eq_some_iff.mp first
        have different : device.id ≠ target := by simpa using elsewhere
        rw [List.modify_succ_cons, List.find?_cons, List.find?_cons]
        by_cases same : device.id = id
        · rw [if_neg (same ▸ different)]
          simp [same]
        · simp [same, ih found]

theorem property_assign {target : String} {position : DeviceId}
    (found : spec.device target = .ok position) (key value id name : String) :
    (spec.assign position key value).property id name =
      if id = target ∧ name = key then some value else spec.property id name := by
  have first : spec.ids.findIdx? (· == target) = some position := by
    rw [device] at found
    split at found
    next search =>
      cases found
      exact search
    next => cases found
  have member := List.mem_of_getElem? (getElem?_of_device found)
  rw [property, assign, property]
  simp only
  rw [find?_modify (by simp) first]
  by_cases same : id = target
  · subst same
    obtain ⟨device, deviceMember, named⟩ := List.mem_map.mp member
    obtain ⟨found, search⟩ := Option.isSome_iff_exists.mp (List.find?_isSome.mpr
      ⟨device, deviceMember, by simpa using named⟩ :
        (spec.devices.find? fun device => device.id = id).isSome = true)
    rw [if_pos rfl, search]
    simp only [Option.map_some, Option.bind_some, true_and]
    exact Properties.lookup_assign _ _ _ _
  · simp [same]

theorem ids_assign (spec : PlatformSpec) (position : DeviceId) (key value : String) :
    (spec.assign position key value).devices.map (fun device => (device.id, device.type)) =
      spec.devices.map fun device => (device.id, device.type) := by
  rw [assign]
  refine List.ext_getElem? fun index => ?_
  rw [List.getElem?_map, List.getElem?_map, List.getElem?_modify]
  by_cases here : position = index
  · cases spec.devices[index]? <;> simp [here]
  · simp [here]

/-- What a sequence of assignments leaves. -/
structure Assigned (spec : PlatformSpec) (assignments : List Assignment) (next : PlatformSpec) :
    Prop where
  mappings : next.mappings = spec.mappings
  connections : next.connections = spec.connections
  instances : next.devices.map (fun device => (device.id, device.type)) =
    spec.devices.map fun device => (device.id, device.type)
  property : ∀ id name, next.property id name =
    ((assignments.reverse.find? fun assignment => assignment.id = id ∧ assignment.key = name).map
      Assignment.value).or (spec.property id name)

theorem ids_of_instances {left right : PlatformSpec}
    (same : left.devices.map (fun device => (device.id, device.type)) =
      right.devices.map fun device => (device.id, device.type)) : left.ids = right.ids := by
  have first := congrArg (List.map Prod.fst) same
  rwa [List.map_map, List.map_map] at first

theorem Assigned.cons {assignment : Assignment} {assignments : List Assignment}
    {position : DeviceId} (found : spec.device assignment.id = .ok position)
    (rest : (spec.assign position assignment.key assignment.value).Assigned assignments next) :
    spec.Assigned (assignment :: assignments) next where
  mappings := rest.mappings
  connections := rest.connections
  instances := rest.instances.trans (ids_assign _ _ _ _)
  property id name := by
    rw [rest.property, property_assign found, List.reverse_cons, List.find?_append]
    cases assignments.reverse.find? fun assignment => assignment.id = id ∧ assignment.key = name with
    | some later => rfl
    | none =>
        by_cases here : id = assignment.id ∧ name = assignment.key
        · simp [here]
        · have other : ¬(assignment.id = id ∧ assignment.key = name) :=
            fun same => here ⟨same.1.symm, same.2.symm⟩
          simp [here, other]

/-- An accepted sequence consists of assignments to known instances. -/
theorem assigned_of_setAll {texts : List String} (done : spec.setAll texts = .ok next) :
    ∃ assignments : List Assignment, texts = assignments.map Assignment.text ∧
      (∀ assignment ∈ assignments, assignment.WellFormed ∧ assignment.id ∈ spec.ids) ∧
      spec.Assigned assignments next := by
  induction texts generalizing spec with
  | nil =>
      cases done
      exact ⟨[], rfl, by simp, rfl, rfl, rfl, by simp⟩
  | cons text texts ih =>
      rw [setAll, List.foldlM_cons, bind_eq_ok_iff] at done
      obtain ⟨middle, here, later⟩ := done
      obtain ⟨assignment, rfl, formed, position, found, rfl⟩ := set_eq_ok_iff.mp here
      obtain ⟨assignments, rfl, each, assigned⟩ := ih later
      refine ⟨assignment :: assignments, rfl, List.forall_mem_cons.mpr ⟨⟨formed,
        device_eq_ok_iff.mp ⟨position, found⟩⟩, fun other member => ?_⟩, .cons found assigned⟩
      have known := (each other member).2
      rw [ids_of_instances (ids_assign spec position _ _)] at known
      exact ⟨(each other member).1, known⟩

theorem setAll_eq_ok {assignments : List Assignment}
    (each : ∀ assignment ∈ assignments, assignment.WellFormed ∧ assignment.id ∈ spec.ids) :
    ∃ next, spec.setAll (assignments.map Assignment.text) = .ok next := by
  induction assignments generalizing spec with
  | nil => exact ⟨spec, rfl⟩
  | cons assignment assignments ih =>
      obtain ⟨⟨formed, known⟩, later⟩ := List.forall_mem_cons.mp each
      obtain ⟨position, found⟩ := device_of_mem known
      rw [List.map_cons, setAll, List.foldlM_cons,
        set_eq_ok_iff.mpr ⟨assignment, rfl, formed, position, found, rfl⟩]
      refine ih fun other member => ⟨(later other member).1, ?_⟩
      rw [ids_of_instances (ids_assign spec position _ _)]
      exact (later other member).2

end PlatformSpec

namespace Assignment

theorem text_injective {left right : Assignment} (leftFormed : left.WellFormed)
    (rightFormed : right.WellFormed) (same : left.text = right.text) : left = right := by
  obtain ⟨leftTarget, leftValue⟩ := leftFormed.split
  obtain ⟨rightTarget, rightValue⟩ := rightFormed.split
  rw [← same] at rightTarget rightValue
  have target := leftTarget.symm.trans rightTarget
  obtain ⟨leftId, leftKey⟩ := split_first_iff.mpr
    ⟨rfl (a := left.id.toList ++ '.' :: left.key.toList), leftFormed.id_undotted⟩
  obtain ⟨rightId, rightKey⟩ := split_first_iff.mpr ⟨target, rightFormed.id_undotted⟩
  have id := leftId.symm.trans rightId
  have key := leftKey.symm.trans rightKey
  have value := leftValue.symm.trans rightValue
  simp only [List.cons.injEq, true_and, String.toList_inj] at id key value
  cases left
  cases right
  cases id
  cases key
  cases value
  rfl

theorem map_text_injective {left right : List Assignment}
    (leftFormed : ∀ assignment ∈ left, assignment.WellFormed)
    (rightFormed : ∀ assignment ∈ right, assignment.WellFormed)
    (same : left.map text = right.map text) : left = right := by
  induction left generalizing right with
  | nil => exact (List.map_eq_nil_iff.mp same.symm).symm
  | cons first left ih =>
      cases right with
      | nil => cases same
      | cons second right =>
          obtain ⟨firstFormed, leftFormed⟩ := List.forall_mem_cons.mp leftFormed
          obtain ⟨secondFormed, rightFormed⟩ := List.forall_mem_cons.mp rightFormed
          obtain ⟨heads, tails⟩ := List.cons.inj same
          rw [text_injective firstFormed secondFormed heads, ih leftFormed rightFormed tails]

end Assignment

/-- Assignments on the command line.  A sequence of `--set` texts is accepted exactly if each has
the form `id.key=value` for an instance of the platform, which it has in one way only; in the end
every property has the last value that was assigned to it, and everything else is as before. -/
theorem property_assignments_exact (spec : PlatformSpec) (texts : List String) :
    ((∃ next, spec.setAll texts = .ok next) ↔ ∃ assignments : List Assignment,
      texts = assignments.map Assignment.text ∧
        ∀ assignment ∈ assignments, assignment.WellFormed ∧ assignment.id ∈ spec.ids) ∧
    ∀ (assignments : List Assignment) (next : PlatformSpec),
      (∀ assignment ∈ assignments, assignment.WellFormed) →
      texts = assignments.map Assignment.text → spec.setAll texts = .ok next →
      spec.Assigned assignments next := by
  refine ⟨⟨fun ⟨next, done⟩ => ?_, ?_⟩, ?_⟩
  · obtain ⟨assignments, same, each, -⟩ := PlatformSpec.assigned_of_setAll done
    exact ⟨assignments, same, each⟩
  · rintro ⟨assignments, rfl, each⟩
    exact PlatformSpec.setAll_eq_ok each
  · rintro assignments next formed rfl done
    obtain ⟨others, same, each, assigned⟩ := PlatformSpec.assigned_of_setAll done
    rw [Assignment.map_text_injective formed (fun other member => (each other member).1) same]
    exact assigned

end AxiTestbench
