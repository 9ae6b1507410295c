import KotlinFakes.Slot.Table
import Mathlib.Data.List.Nodup

/-!
# Slot allocation

The slots of a blueprint are claimed one after the other, each for a requested base. Every search for
a slot finds a free one: of its candidates there is one more than the claims can block. So every slot
keeps clear of the members of the subject and of the bases before it.
-/

namespace KotlinFakes

namespace Identifier

open Text

theorem capitalized_append {base : String} (h : base ≠ "") (suffix : String) :
    capitalized (base ++ suffix) = capitalized base ++ suffix := by
  cases hbase : base.toList with
  | nil => exact absurd (String.toList_inj.1 hbase) h
  | cons c rest =>
      apply String.toList_inj.1
      simp [capitalized, hbase]

theorem exists_ofNat_of_isDigit {c : Char} (h : c.isDigit) : ∃ n : Fin 10, c = Char.ofNat (48 + n) := by
  rw [Char.isDigit, Bool.and_eq_true, decide_eq_true_iff, decide_eq_true_iff] at h
  have hlow : 48 ≤ c.toNat := h.1
  have hhigh : c.toNat ≤ 57 := h.2
  refine ⟨⟨c.toNat - 48, by omega⟩, ?_⟩
  dsimp only
  rw [Nat.add_sub_cancel' hlow, Char.ofNat_toNat]

theorem upperCase_of_isDigit {c : Char} (h : c.isDigit) : upperCase c = [c] := by
  have hdigit : ∀ n : Fin 10, upperCase (Char.ofNat (48 + n)) = [Char.ofNat (48 + n)] := by decide
  obtain ⟨n, rfl⟩ := exists_ofNat_of_isDigit h
  exact hdigit n

theorem capitalized_toString (n : Nat) : capitalized (toString n) = toString n := by
  have hdigits : (toString n).toList = Nat.toDigits 10 n := Nat.toList_repr
  cases h : Nat.toDigits 10 n with
  | nil => exact absurd h Nat.toDigits_ne_nil
  | cons c rest =>
      have hc := Nat.isDigit_of_mem_toDigits (b := 10) (by decide) (by decide)
        (h ▸ List.mem_cons_self : c ∈ Nat.toDigits 10 n)
      apply String.toList_inj.1
      simp [capitalized, h, upperCase_of_isDigit hc]

end Identifier

theorem Text.toString_nat_inj {m n : Nat} (h : toString m = toString n) : m = n := by
  have hdigits : Nat.toDigits 10 m = Nat.toDigits 10 n := by
    rw [← Nat.toList_repr, ← Nat.toList_repr]
    exact congrArg String.toList h
  rw [← Nat.ofDigitChars_ten_toDigits (n := m), hdigits, Nat.ofDigitChars_ten_toDigits]

namespace Slot

theorem behavior_inj {s t : Slot} (h : s.behavior = t.behavior) : s = t := by
  cases s
  cases t
  simpa [behavior] using h

theorem counter_inj {s t : Slot} (h : s.counter = t.counter) : s = t := by
  cases s
  cases t
  simpa [counter] using h

theorem counterState_inj {s t : Slot} (h : s.counterState = t.counterState) : s = t := by
  cases s
  cases t
  simpa [counterState] using h

theorem configure_eq_iff {s t : Slot} :
    s.configure = t.configure ↔ Identifier.capitalized s.base = Identifier.capitalized t.base := by
  simp [configure]

end Slot

namespace Claims

open Identifier

/-! ## Candidates -/

/-- What a candidate appends to the base. -/
def suffix : Nat → String
  | 0 => ""
  | n + 1 => toString (n + 2)

theorem candidate_eq (base : String) (index : Nat) :
    candidate base index = ⟨base ++ suffix index⟩ := by
  cases index <;> simp [candidate, suffix]

theorem suffix_inj {i j : Nat} (h : suffix i = suffix j) : i = j := by
  have hnumber (n : Nat) : toString (n + 2) ≠ "" := fun hempty =>
    Nat.toDigits_ne_nil (b := 10) (n := n + 2) (by
      rw [← Nat.toList_repr]
      exact congrArg String.toList hempty)
  cases i with
  | zero =>
      cases j with
      | zero => rfl
      | succ j => exact absurd h.symm (hnumber j)
  | succ i =>
      cases j with
      | zero => exact absurd h (hnumber i)
      | succ j =>
          have := Text.toString_nat_inj h
          omega

theorem capitalized_suffix (index : Nat) : capitalized (suffix index) = suffix index := by
  cases index with
  | zero => rfl
  | succ n => exact capitalized_toString (n + 2)

theorem candidate_inj {base : String} {i j : Nat} (h : candidate base i = candidate base j) :
    i = j := by
  simp only [candidate_eq, Slot.mk.injEq, String.append_right_inj] at h
  exact suffix_inj h

theorem configure_candidate_inj {base : String} {i j : Nat}
    (h : (candidate base i).configure = (candidate base j).configure) : i = j := by
  rw [Slot.configure_eq_iff, candidate_eq, candidate_eq] at h
  by_cases hbase : base = ""
  · simp only [hbase, String.empty_append, capitalized_suffix] at h
    exact suffix_inj h
  · simp only [capitalized_append hbase, String.append_right_inj] at h
    exact suffix_inj h

/-! ## Searching -/

theorem isFree_iff {claims : Claims} {slot : Slot} :
    claims.isFree slot ↔
      slot.base ∉ claims.bases ∧ slot.behavior ∉ claims.properties ∧
        slot.counter ∉ claims.properties ∧ slot.counterState ∉ claims.properties ∧
        slot.configure ∉ claims.functions := by
  simp [isFree, and_assoc]

/-- Of one index more than there are obstacles, one is clear if no obstacle blocks two. -/
theorem exists_clear_index {α : Type} (obstacles : List α) (blocks : α → Nat → Prop)
    (hone : ∀ o ∈ obstacles, ∀ i j, blocks o i → blocks o j → i = j) :
    ∃ index ≤ obstacles.length, ∀ o ∈ obstacles, ¬blocks o index := by
  by_contra hnone
  push Not at hnone
  have : Nonempty α := ⟨(hnone 0 (Nat.zero_le _)).choose⟩
  choose! o hmem hblocks using hnone
  have hlength : ((List.range (obstacles.length + 1)).map o).length ≤ obstacles.length := by
    apply List.Nodup.length_le_of_subset
    · refine (List.nodup_map_iff_inj_on List.nodup_range).2 fun i hi j hj hij => ?_
      have hi := hblocks i (Nat.lt_succ_iff.1 (List.mem_range.1 hi))
      have hj := hblocks j (Nat.lt_succ_iff.1 (List.mem_range.1 hj))
      exact hone (o i) (hmem i (by grind)) i j hi (hij ▸ hj)
    · intro x hx
      obtain ⟨i, hi, rfl⟩ := List.mem_map.1 hx
      exact hmem i (Nat.lt_succ_iff.1 (List.mem_range.1 hi))
  rw [List.length_map, List.length_range] at hlength
  omega

/-- What can block a candidate: a name that is derived from it, and who has that name already. -/
def obstacles (claims : Claims) : List ((Slot → String) × String) :=
  claims.bases.map (Slot.base, ·) ++
    claims.properties.map (Slot.behavior, ·) ++ claims.properties.map (Slot.counter, ·) ++
    claims.properties.map (Slot.counterState, ·) ++ claims.functions.map (Slot.configure, ·)

theorem length_obstacles (claims : Claims) : claims.obstacles.length = claims.blockable := by
  simp only [obstacles, blockable, List.length_append, List.length_map]
  omega

theorem exists_isFree (claims : Claims) (base : String) :
    ∃ index ≤ claims.blockable, claims.isFree (candidate base index) := by
  obtain ⟨index, hindex, hclear⟩ := exists_clear_index claims.obstacles
    (fun o i => o.1 (candidate base i) = o.2) (by
      intro o ho i j hi hj
      have hij := hi.trans hj.symm
      simp only [obstacles, List.mem_append, List.mem_map] at ho
      obtain (((⟨_, -, rfl⟩ | ⟨_, -, rfl⟩) | ⟨_, -, rfl⟩) | ⟨_, -, rfl⟩) | ⟨_, -, rfl⟩ := ho
      · exact candidate_inj (congrArg Slot.mk hij)
      · exact candidate_inj (Slot.behavior_inj hij)
      · exact candidate_inj (Slot.counter_inj hij)
      · exact candidate_inj (Slot.counterState_inj hij)
      · exact configure_candidate_inj hij)
  have hname (name : Slot → String) (h : (name, name (candidate base index)) ∈ claims.obstacles) :
      False := hclear _ h rfl
  refine ⟨index, length_obstacles claims ▸ hindex, isFree_iff.2 ⟨?_, ?_, ?_, ?_, ?_⟩⟩
  · exact fun h => hname Slot.base (by simp [obstacles, h])
  · exact fun h => hname Slot.behavior (by simp [obstacles, h])
  · exact fun h => hname Slot.counter (by simp [obstacles, h])
  · exact fun h => hname Slot.counterState (by simp [obstacles, h])
  · exact fun h => hname Slot.configure (by simp [obstacles, h])

/-- The search ends at the first free candidate, if there is one within its fuel. -/
theorem search_spec {claims : Claims} {base : String} {index fuel free : Nat}
    (hfree : claims.isFree (candidate base free)) (hlow : index ≤ free)
    (hhigh : free ≤ index + fuel) :
    ∃ found, index ≤ found ∧ found ≤ free ∧ claims.search base fuel index = candidate base found ∧
      claims.isFree (candidate base found) ∧
      ∀ i, index ≤ i → i < found → ¬claims.isFree (candidate base i) := by
  induction fuel generalizing index with
  | zero =>
      obtain rfl : free = index := by omega
      exact ⟨free, Nat.le_refl _, Nat.le_refl _, rfl, hfree, fun i _ _ => by omega⟩
  | succ fuel ih =>
      rw [search]
      split
      · next hindex =>
          exact ⟨index, Nat.le_refl _, hlow, rfl, hindex, fun i _ _ => by omega⟩
      · next hindex =>
          have hne : index ≠ free := fun h => hindex (h ▸ hfree)
          obtain ⟨found, hle, hfound, heq, hclear, hbefore⟩ :=
            ih (by omega : index + 1 ≤ free) (by omega)
          refine ⟨found, by omega, hfound, heq, hclear, fun i hi hlt => ?_⟩
          rcases Nat.eq_or_lt_of_le hi with rfl | hi
          · exact hindex
          · exact hbefore i hi hlt

theorem slotFor_spec (claims : Claims) (base : String) :
    ∃ index ≤ claims.blockable, claims.slotFor base = candidate base index ∧
      claims.isFree (candidate base index) ∧
      ∀ i < index, ¬claims.isFree (candidate base i) := by
  obtain ⟨free, hle, hfree⟩ := exists_isFree claims base
  obtain ⟨found, -, hfound, heq, hclear, hbefore⟩ :=
    search_spec hfree (Nat.zero_le _) (by omega : free ≤ 0 + claims.blockable)
  exact ⟨found, Nat.le_trans hfound hle, heq, hclear, fun i hi => hbefore i (Nat.zero_le _) hi⟩

theorem isFree_slotFor (claims : Claims) (base : String) :
    claims.isFree (claims.slotFor base) := by
  obtain ⟨index, -, heq, hfree, -⟩ := slotFor_spec claims base
  rwa [heq]

/-! ## Claiming slots one after the other -/

/-- The slots for bases that are requested one after the other. -/
def claimAll (claims : Claims) : List String → List Slot
  | [] => []
  | base :: bases => claims.slotFor base :: (claims.add (claims.slotFor base)).claimAll bases

/-- The claims after slots were claimed. -/
def addAll (claims : Claims) (slots : List Slot) : Claims := slots.foldl add claims

theorem claimAll_append (claims : Claims) (bases more : List String) :
    claims.claimAll (bases ++ more) =
      claims.claimAll bases ++ (claims.addAll (claims.claimAll bases)).claimAll more := by
  induction bases generalizing claims with
  | nil => rfl
  | cons base bases ih => simp [claimAll, addAll, ih]

theorem exists_candidate_of_mem_claimAll {claims : Claims} {bases : List String} {slot : Slot}
    (h : slot ∈ claims.claimAll bases) : ∃ base ∈ bases, ∃ index, slot = candidate base index := by
  induction bases generalizing claims with
  | nil => simp [claimAll] at h
  | cons base bases ih =>
      rw [claimAll, List.mem_cons] at h
      obtain rfl | h := h
      · obtain ⟨index, -, heq, -, -⟩ := slotFor_spec claims base
        exact ⟨base, by simp, index, heq⟩
      · obtain ⟨other, hmem, hother⟩ := ih h
        exact ⟨other, List.mem_cons_of_mem _ hmem, hother⟩

theorem isFree_of_mem_claimAll {claims : Claims} {bases : List String} {slot : Slot}
    (h : slot ∈ claims.claimAll bases) : claims.isFree slot := by
  induction bases generalizing claims with
  | nil => simp [claimAll] at h
  | cons base bases ih =>
      rw [claimAll, List.mem_cons] at h
      obtain rfl | h := h
      · exact isFree_slotFor claims base
      · have hfree := isFree_iff.1 (ih h)
        exact isFree_iff.2 ⟨fun hmem => hfree.1 (List.mem_cons_of_mem _ hmem), hfree.2⟩

theorem nodup_claimAll (claims : Claims) (bases : List String) :
    ((claims.claimAll bases).map Slot.base).Nodup := by
  induction bases generalizing claims with
  | nil => exact List.nodup_nil
  | cons base bases ih =>
      rw [claimAll, List.map_cons, List.nodup_cons]
      refine ⟨fun hmem => ?_, ih _⟩
      obtain ⟨slot, hslot, heq⟩ := List.mem_map.1 hmem
      exact (isFree_iff.1 (isFree_of_mem_claimAll hslot)).1 (heq ▸ List.mem_cons_self)

end Claims

/-! ## Slot tables -/

namespace PropertySlots

/-- The slots of a property: its getter's, and its setter's if it has one. -/
def slots (entry : PropertySlots) : List Slot := entry.getter :: entry.setter.toList

end PropertySlots

namespace SlotTable

/-- The slots of a table, in the order in which they are claimed. -/
def slots (table : SlotTable) : List Slot :=
  table.properties.flatMap PropertySlots.slots ++ table.functions.map FunctionSlot.slot

def propertyBases (p : Blueprint.Property) : List String :=
  p.name :: if p.isMutable then ["set" ++ Identifier.capitalized p.name] else []

def requestedBases (b : Blueprint) : List String :=
  b.properties.flatMap propertyBases ++ b.functions.map (requestedBase b.functions)

theorem forProperties_spec (claims : Claims) (ps : List Blueprint.Property) :
    (forProperties claims ps).1.flatMap PropertySlots.slots =
        claims.claimAll (ps.flatMap propertyBases) ∧
      (forProperties claims ps).2 = claims.addAll (claims.claimAll (ps.flatMap propertyBases)) := by
  induction ps generalizing claims with
  | nil => exact ⟨rfl, rfl⟩
  | cons p ps ih =>
      unfold forProperties
      by_cases h : p.isMutable
      · obtain ⟨hslots, hclaims⟩ := ih ((claims.add (claims.slotFor p.name)).add
          ((claims.add (claims.slotFor p.name)).slotFor ("set" ++ Identifier.capitalized p.name)))
        simp [h, propertyBases, PropertySlots.slots, Claims.claimAll, Claims.addAll, hslots, hclaims]
      · obtain ⟨hslots, hclaims⟩ := ih (claims.add (claims.slotFor p.name))
        simp [h, propertyBases, PropertySlots.slots, Claims.claimAll, Claims.addAll, hslots, hclaims]

theorem forFunctions_spec (claims : Claims) (base : Blueprint.Function → String)
    (fs : List Blueprint.Function) :
    (forFunctions claims base fs).map FunctionSlot.slot = claims.claimAll (fs.map base) := by
  induction fs generalizing claims with
  | nil => rfl
  | cons f fs ih => simp [forFunctions, Claims.claimAll, ih]

theorem slots_ofBlueprint (b : Blueprint) :
    (ofBlueprint b).slots = (Claims.start b).claimAll (requestedBases b) := by
  obtain ⟨hslots, hclaims⟩ := forProperties_spec (.start b) b.properties
  simp only [slots, ofBlueprint, requestedBases, Claims.claimAll_append, hslots, hclaims,
    forFunctions_spec]

/-! ## The members of a table -/

theorem map_property_forProperties (claims : Claims) (ps : List Blueprint.Property) :
    (forProperties claims ps).1.map PropertySlots.property = ps := by
  induction ps generalizing claims with
  | nil => rfl
  | cons p ps ih =>
      unfold forProperties
      split <;> simp [ih]

theorem map_function_forFunctions (claims : Claims) (base : Blueprint.Function → String)
    (fs : List Blueprint.Function) :
    (forFunctions claims base fs).map FunctionSlot.function = fs := by
  induction fs generalizing claims with
  | nil => rfl
  | cons f fs ih => simp [forFunctions, ih]

theorem map_property_ofBlueprint (b : Blueprint) :
    (ofBlueprint b).properties.map PropertySlots.property = b.properties :=
  map_property_forProperties _ _

theorem map_function_ofBlueprint (b : Blueprint) :
    (ofBlueprint b).functions.map FunctionSlot.function = b.functions :=
  map_function_forFunctions _ _ _

theorem property_mem_of_mem {b : Blueprint} {s : PropertySlots} (h : s ∈ (ofBlueprint b).properties) :
    s.property ∈ b.properties := by
  rw [← map_property_ofBlueprint b]
  exact List.mem_map_of_mem h

theorem function_mem_of_mem {b : Blueprint} {s : FunctionSlot} (h : s ∈ (ofBlueprint b).functions) :
    s.function ∈ b.functions := by
  rw [← map_function_ofBlueprint b]
  exact List.mem_map_of_mem h

theorem setter_forProperties (claims : Claims) (ps : List Blueprint.Property) :
    ∀ s ∈ (forProperties claims ps).1, s.setter.isSome = s.property.isMutable := by
  induction ps generalizing claims with
  | nil => nofun
  | cons p ps ih =>
      unfold forProperties
      split
      · next h => exact List.forall_mem_cons.2 ⟨by simp [h], ih _⟩
      · next h => exact List.forall_mem_cons.2 ⟨by simp [h], ih _⟩

theorem setter_ofBlueprint {b : Blueprint} {s : PropertySlots} (h : s ∈ (ofBlueprint b).properties) :
    s.setter.isSome = s.property.isMutable :=
  setter_forProperties _ _ s h

end SlotTable

end KotlinFakes
