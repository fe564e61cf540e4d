import Mathlib.Data.List.Perm.Basic
import AxiTestbench.Device

/-!
# Building and searching the address map

What a sequence of `map` and `freeze` calls leaves behind.  A window is accepted
exactly when it is disjoint from all others, although the code compares it with
its two neighbours only; so the order of insertion does not matter.  Lookup is
also given with the wrapping arithmetic of the code, which never wraps.
-/

namespace AxiTestbench

open Lib

/-- Two windows share no byte. -/
def Mapping.Disjoint (left right : Mapping) : Prop :=
  left.limit ≤ right.base ∨ right.limit ≤ left.base

theorem Mapping.Disjoint.symm {left right : Mapping} (disjoint : left.Disjoint right) :
    right.Disjoint left :=
  Or.symm disjoint

/-- Windows that `map` stores: nonempty and below `2 ^ 64`. -/
def Mapping.Sized (mapping : Mapping) : Prop :=
  0 < mapping.size ∧ mapping.limit ≤ 2 ^ 64 - 1

namespace AddressSpace

/-- Arguments of a call of `map`. -/
structure Window where
  base : UInt64
  size : UInt64
  device : DeviceId
  name : String := ""

/-- The mapping that an accepted call stores. -/
def Window.mapping (window : Window) : Mapping where
  base := window.base.toNat
  size := window.size.toNat
  device := window.device
  name := window.name

/-- A call that changes the address map. -/
inductive Call where
  | map (window : Window)
  | freeze

def insert (space : AddressSpace) (window : Window) : Except MapError AddressSpace :=
  space.map window.base window.size window.device window.name

/-- The address map after a call; a rejected call throws and leaves it alone. -/
def after (space : AddressSpace) : Call → AddressSpace
  | .map window =>
      match space.insert window with
      | .ok next => next
      | .error _ => space
  | .freeze => space.freeze

/-- Insert a family of windows; stop at the first that is rejected. -/
def insertAll (space : AddressSpace) (windows : List Window) : Except MapError AddressSpace :=
  windows.foldlM insert space

/-! ## One insertion -/

/-- Elements of an ordered list on the two sides of an insertion point. -/
private theorem sides {mappings : List Mapping} (base : Nat)
    (ordered : mappings.Pairwise fun left right => left.limit ≤ right.base)
    (nonempty : ∀ mapping ∈ mappings, 0 < mapping.size) :
    (∀ mapping ∈ mappings.takeWhile (fun mapping => decide (mapping.base < base)),
        mapping.base < base) ∧
      ∀ mapping ∈ mappings.dropWhile (fun mapping => decide (mapping.base < base)),
        base ≤ mapping.base := by
  constructor
  · intro mapping member
    simpa using List.all_eq_true.mp List.all_takeWhile mapping member
  · induction mappings with
    | nil => simp
    | cons first rest ih =>
        obtain ⟨firstLe, orderedRest⟩ := List.pairwise_cons.mp ordered
        by_cases below : first.base < base
        · rw [List.dropWhile_cons_of_pos (by simpa using below)]
          exact ih orderedRest fun mapping member => nonempty mapping (by simp [member])
        · rw [List.dropWhile_cons_of_neg (by simpa using below)]
          intro mapping member
          rcases List.mem_cons.mp member with rfl | inRest
          · omega
          · have := firstLe mapping inRest
            simp only [Mapping.limit] at this
            omega

/-- What `map` demands of a window. -/
structure Fits (space : AddressSpace) (window : Window) : Prop where
  thawed : space.frozen = false
  sized : window.mapping.Sized
  disjoint : ∀ mapping ∈ space.mappings, window.mapping.Disjoint mapping

/-- An accepted window fits, and it is stored between the windows below and above
it. -/
theorem fits_of_insert {space next : AddressSpace} {window : Window}
    (accepted : space.insert window = .ok next) :
    space.Fits window ∧ next.frozen = space.frozen ∧ next.mappings =
      (space.mappings.takeWhile fun mapping => decide (mapping.base < window.base.toNat)) ++
        window.mapping ::
          space.mappings.dropWhile fun mapping => decide (mapping.base < window.base.toNat) := by
  have baseLt := window.base.toNat_lt
  have whole : (space.mappings.takeWhile fun mapping => decide (mapping.base < window.base.toNat)) ++
      (space.mappings.dropWhile fun mapping => decide (mapping.base < window.base.toNat)) =
        space.mappings := List.takeWhile_append_dropWhile
  simp only [insert, map] at accepted
  split at accepted
  · contradiction
  next thawed =>
    split at accepted
    · contradiction
    next positive =>
      split at accepted
      · contradiction
      next inWord =>
        split at accepted
        next previous =>
          split at accepted
          next following =>
            cases accepted
            obtain ⟨before, after⟩ := neighbours (by rw [whole]; exact space.layout.ordered)
              previous following (by rw [whole]; exact space.layout.nonempty)
            refine ⟨⟨Bool.eq_false_iff.mpr thawed, ⟨?_, ?_⟩, ?_⟩, rfl, rfl⟩
            · exact Nat.pos_of_ne_zero positive
            · simp only [Mapping.limit, Window.mapping]
              omega
            · intro mapping member
              rw [← whole] at member
              rcases List.mem_append.mp member with inBefore | inAfter
              · exact .inr (before mapping inBefore)
              · exact .inl (after mapping inAfter)
          · contradiction
        · contradiction

/-- A window that fits is accepted. -/
theorem Fits.insert {space : AddressSpace} {window : Window} (fits : space.Fits window) :
    ∃ next, space.insert window = .ok next := by
  obtain ⟨thawed, ⟨positive, bounded⟩, disjoint⟩ := fits
  obtain ⟨left, right⟩ := sides window.base.toNat space.layout.ordered
    space.layout.nonempty
  have baseLt := window.base.toNat_lt
  have sizePositive : ¬window.size.toNat = 0 := Nat.pos_iff_ne_zero.mp positive
  have inWord : ¬window.size.toNat > 2 ^ 64 - 1 - window.base.toNat := by
    simp only [Mapping.limit, Window.mapping] at bounded
    omega
  -- The neighbours lie on the side of the window on which they are found.
  have previous : ∀ mapping,
      (space.mappings.takeWhile fun mapping =>
        decide (mapping.base < window.base.toNat)).getLast? = some mapping →
      mapping.limit ≤ window.base.toNat := by
    intro mapping last
    have member := List.mem_of_getLast? last
    have below := left mapping member
    rcases disjoint mapping ((List.takeWhile_prefix _).subset member) with above | ends
    · simp only [Mapping.limit, Window.mapping] at above
      omega
    · exact ends
  have following : ∀ mapping,
      (space.mappings.dropWhile fun mapping =>
        decide (mapping.base < window.base.toNat)).head? = some mapping →
      window.mapping.limit ≤ mapping.base := by
    intro mapping first
    have member := List.mem_of_head? first
    have above := right mapping member
    have inSpace := (List.dropWhile_suffix _).subset member
    have sized := space.layout.nonempty mapping inSpace
    rcases disjoint mapping inSpace with ends | below
    · exact ends
    · simp only [Mapping.limit, Window.mapping] at below
      omega
  simp only [AddressSpace.insert, map]
  rw [if_neg (by simp [thawed]), dif_neg sizePositive, dif_neg inWord, dif_pos previous]
  exact ⟨_, dif_pos following⟩

/-- The two sides of an insertion keep all old windows. -/
theorem perm_of_insert {space next : AddressSpace} {window : Window}
    (accepted : space.insert window = .ok next) :
    next.mappings.Perm (window.mapping :: space.mappings) := by
  obtain ⟨-, -, mappingsEq⟩ := fits_of_insert accepted
  rw [mappingsEq]
  refine List.perm_middle.trans (List.Perm.of_eq ?_)
  rw [List.takeWhile_append_dropWhile]

/-! ## Families of windows -/

/-- What a family of windows must satisfy to be accepted as a whole. -/
structure FitAll (space : AddressSpace) (windows : List Window) : Prop where
  thawed : windows ≠ [] → space.frozen = false
  sized : ∀ window ∈ windows, window.mapping.Sized
  disjoint : ∀ window ∈ windows, ∀ mapping ∈ space.mappings, window.mapping.Disjoint mapping
  apart : windows.Pairwise fun left right => left.mapping.Disjoint right.mapping

/-- The conditions do not depend on the order of the windows. -/
theorem FitAll.perm {space : AddressSpace} {windows others : List Window}
    (fit : space.FitAll windows) (perm : windows.Perm others) : space.FitAll others where
  thawed some := fit.thawed fun none => some (by rw [none] at perm; exact perm.symm.eq_nil)
  sized window member := fit.sized window (perm.mem_iff.mpr member)
  disjoint window member := fit.disjoint window (perm.mem_iff.mpr member)
  apart := fit.apart.perm perm Mapping.Disjoint.symm

theorem insertAll_spec (windows : List Window) (space : AddressSpace) :
    (∀ next, space.insertAll windows = .ok next →
      space.FitAll windows ∧ next.frozen = space.frozen ∧
        next.mappings.Perm (windows.map Window.mapping ++ space.mappings)) ∧
    (space.FitAll windows → ∃ next, space.insertAll windows = .ok next) := by
  induction windows generalizing space with
  | nil =>
      refine ⟨fun next done => ?_, fun _ => ⟨space, rfl⟩⟩
      cases done
      exact ⟨⟨by simp, by simp, by simp, .nil⟩, rfl, .refl _⟩
  | cons window rest ih =>
      have unfolded : space.insertAll (window :: rest) =
          (space.insert window >>= fun middle => middle.insertAll rest) := rfl
      refine ⟨fun next done => ?_, fun fit => ?_⟩
      · rw [unfolded] at done
        cases inserted : space.insert window with
        | error fault => simp [inserted, bind, Except.bind] at done
        | ok middle =>
            rw [inserted] at done
            obtain ⟨fits, frozenEq, -⟩ := fits_of_insert inserted
            have stored := perm_of_insert inserted
            obtain ⟨fitRest, restFrozen, restStored⟩ := (ih middle).1 next done
            refine ⟨⟨fun _ => fits.thawed, ?_, ?_, ?_⟩, restFrozen.trans frozenEq, ?_⟩
            · exact List.forall_mem_cons.mpr ⟨fits.sized, fitRest.sized⟩
            · refine List.forall_mem_cons.mpr ⟨fits.disjoint, fun other member mapping inSpace => ?_⟩
              exact fitRest.disjoint other member mapping
                (stored.mem_iff.mpr (List.mem_cons_of_mem _ inSpace))
            · refine List.pairwise_cons.mpr ⟨fun other member => ?_, fitRest.apart⟩
              exact (fitRest.disjoint other member window.mapping
                (stored.mem_iff.mpr (by simp))).symm
            · refine restStored.trans ((stored.append_left _).trans ?_)
              simp
      · obtain ⟨apart, apartRest⟩ := List.pairwise_cons.mp fit.apart
        have fits : space.Fits window :=
          ⟨fit.thawed (by simp), fit.sized window (by simp), fit.disjoint window (by simp)⟩
        obtain ⟨middle, inserted⟩ := fits.insert
        obtain ⟨-, frozenEq, -⟩ := fits_of_insert inserted
        have stored := perm_of_insert inserted
        rw [unfolded, inserted]
        refine (ih middle).2 ⟨fun _ => frozenEq.trans fits.thawed, ?_, ?_, apartRest⟩
        · exact fun other member => fit.sized other (by simp [member])
        · intro other member mapping inMiddle
          rcases List.mem_cons.mp (stored.mem_iff.mp inMiddle) with rfl | inSpace
          · exact (apart other member).symm
          · exact fit.disjoint other (by simp [member]) mapping inSpace

/-- Two address maps with the same windows are equal: both list them by base. -/
theorem eq_of_perm {left right : AddressSpace} (frozen : left.frozen = right.frozen)
    (perm : left.mappings.Perm right.mappings) : left = right := by
  have mappings : left.mappings = right.mappings := by
    refine List.Perm.eq_of_pairwise ?_ left.layout.ordered right.layout.ordered perm
    intro first second inLeft inRight firstLe secondLe
    have firstSize := left.layout.nonempty first inLeft
    have secondSize := right.layout.nonempty second inRight
    simp only [Mapping.limit] at firstLe secondLe
    omega
  obtain ⟨leftMappings, leftFrozen, leftLayout⟩ := left
  obtain ⟨rightMappings, rightFrozen, rightLayout⟩ := right
  cases frozen
  cases mappings
  rfl

/-- The order of insertion does not matter. -/
theorem insertAll_perm {windows others : List Window} (perm : windows.Perm others)
    {space next : AddressSpace} (accepted : space.insertAll windows = .ok next) :
    space.insertAll others = .ok next := by
  obtain ⟨fit, frozenEq, stored⟩ := (insertAll_spec windows space).1 next accepted
  obtain ⟨other, otherAccepted⟩ := (insertAll_spec others space).2 (fit.perm perm)
  obtain ⟨-, otherFrozen, otherStored⟩ := (insertAll_spec others space).1 other otherAccepted
  rw [otherAccepted]
  refine congrArg Except.ok (eq_of_perm (otherFrozen.trans frozenEq.symm) ?_)
  exact otherStored.trans ((((perm.map _).append_right _).symm).trans stored.symm)

/-! ## Lookup in machine words -/

/-- `resolve` with the arithmetic of `std::uint64_t`. -/
def resolveWords (space : AddressSpace) (address length : UInt64) : Option Mapping :=
  if length = 0 ∨ space.mappings = [] then
    none
  else
    match (space.mappings.takeWhile fun mapping =>
        decide (mapping.base ≤ address.toNat)).getLast? with
    | none => none
    | some mapping =>
        let last := add64 mapping.base mapping.size
        if address.toNat < mapping.base ∨ address.toNat ≥ last then
          none
        else if length.toNat > sub64 last address.toNat then
          none
        else
          some mapping

/-- No sum or difference of a lookup wraps. -/
theorem resolveWords_eq (space : AddressSpace) (address length : UInt64) :
    space.resolveWords address length = space.resolve address.toNat length.toNat := by
  have zero : length = 0 ↔ length.toNat = 0 := by
    rw [← UInt64.toNat_inj]
    rfl
  simp only [resolveWords, resolve, zero]
  split
  · rfl
  · cases last : (space.mappings.takeWhile fun mapping =>
        decide (mapping.base ≤ address.toNat)).getLast? with
    | none => rfl
    | some mapping =>
        have member := (List.takeWhile_prefix _).subset (List.mem_of_getLast? last)
        have bounded := space.layout.bounded mapping member
        have addressLt := address.toNat_lt
        have limitEq : add64 mapping.base mapping.size = mapping.limit := by
          simp only [Mapping.limit] at bounded
          exact add64_eq (by omega)
        dsimp only
        rw [limitEq]
        split
        · rfl
        next inside => rw [sub64_eq (by omega) (by omega)]

/-! ## The address map after any calls -/

theorem frozen_foldl_after (calls : List Call) (space : AddressSpace) :
    (calls.foldl after space).frozen = true ↔ space.frozen = true ∨ Call.freeze ∈ calls := by
  induction calls generalizing space with
  | nil => simp
  | cons call calls ih =>
      rw [List.foldl_cons, ih]
      cases call with
      | freeze => simp [after, freeze]
      | map window =>
          simp only [after, List.mem_cons, reduceCtorEq, false_or]
          cases inserted : space.insert window with
          | ok next => rw [(fits_of_insert inserted).2.1]
          | error fault => rfl

/-- The address map.  After any calls of `map` and `freeze` the windows are listed
by base, disjoint, nonempty and end below `2 ^ 64`; a window is accepted exactly when
it fits beside all others and is then added, and a rejected call changes nothing; the
order in which a family of windows is inserted does not matter; and lookup, in
wrapping arithmetic, finds exactly the one window that holds the whole range. -/
theorem address_map_correct (calls : List Call) :
    let space := calls.foldl after fresh
    (space.mappings.Pairwise (fun left right => left.base < right.base) ∧
      space.mappings.Pairwise Mapping.Disjoint ∧ ∀ mapping ∈ space.mappings, mapping.Sized) ∧
    (∀ window, (∃ next, space.insert window = .ok next) ↔
      Call.freeze ∉ calls ∧ 0 < window.size.toNat ∧
        window.base.toNat + window.size.toNat ≤ 2 ^ 64 - 1 ∧
        ∀ mapping ∈ space.mappings, window.mapping.Disjoint mapping) ∧
    (∀ window next, space.insert window = .ok next →
      next.mappings.Perm (window.mapping :: space.mappings)) ∧
    (∀ window fault, space.insert window = .error fault → space.after (.map window) = space) ∧
    (∀ windows others next, windows.Perm others → space.insertAll windows = .ok next →
      space.insertAll others = .ok next) ∧
    ∀ (address length : UInt64) mapping, space.resolveWords address length = some mapping ↔
      mapping ∈ space.mappings ∧ 0 < length.toNat ∧ mapping.base ≤ address.toNat ∧
        address.toNat + length.toNat ≤ mapping.limit := by
  intro space
  have frozenIff : space.frozen = true ↔ Call.freeze ∈ calls := by
    rw [frozen_foldl_after calls fresh]
    exact or_iff_right (by simp [fresh])
  have sized : ∀ mapping ∈ space.mappings, mapping.Sized := fun mapping member =>
    ⟨space.layout.nonempty mapping member, space.layout.bounded mapping member⟩
  refine ⟨⟨?_, ?_, sized⟩, ?_, ?_, ?_, ?_, ?_⟩
  · refine space.layout.ordered.imp_of_mem fun {left right} inLeft _ ordered => ?_
    have positive := space.layout.nonempty left inLeft
    simp only [Mapping.limit] at ordered
    omega
  · exact space.layout.ordered.imp fun ordered => .inl ordered
  · intro window
    constructor
    · rintro ⟨next, accepted⟩
      obtain ⟨fits, -⟩ := fits_of_insert accepted
      refine ⟨fun frozen => ?_, fits.sized.1, fits.sized.2, fits.disjoint⟩
      rw [← frozenIff, fits.thawed] at frozen
      contradiction
    · rintro ⟨thawed, positive, bounded, disjoint⟩
      refine Fits.insert ⟨?_, ⟨positive, bounded⟩, disjoint⟩
      rw [← frozenIff] at thawed
      exact Bool.eq_false_iff.mpr thawed
  · exact fun window next => perm_of_insert
  · intro window fault rejected
    simp only [after, rejected]
  · exact fun windows others next perm => insertAll_perm perm
  · intro address length mapping
    rw [resolveWords_eq, resolve_eq_some_iff]

end AddressSpace

end AxiTestbench
