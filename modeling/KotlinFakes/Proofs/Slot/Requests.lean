import KotlinFakes.Proofs.Slot.Names
import Mathlib.Algebra.Group.Nat.Defs

/-!
# Requested bases

Every slot of a table was asked for with a base. It has just this base if that keeps clear of the
members of the subject and of the slots before it, and otherwise the least number behind the base that
does. The search for the number is a loop that counts in words of 32 bits; it would need a subject with
hundreds of millions of members to run out of them.
-/

namespace KotlinFakes

namespace Slot

/-- Whether a slot keeps clear of the members of a subject and of the slots before it. -/
structure KeepsClear (b : Blueprint) (before : List Slot) (slot : Slot) : Prop where
  bases : ∀ other ∈ before, other.base ≠ slot.base
  properties : ∀ p ∈ b.properties, p.name ∉ [slot.behavior, slot.counter, slot.counterState]
  functions : ∀ f ∈ b.functions, f.name ≠ slot.configure

/-- The slot that a base gets: the first one that keeps clear, with the bare base or with a number from
    2 on. -/
inductive IsFirstClear (b : Blueprint) (before : List Slot) (base : String) : Slot → Prop where
  | bare (hclear : KeepsClear b before ⟨base⟩) : IsFirstClear b before base ⟨base⟩
  | numbered {n : Nat} (hbare : ¬ KeepsClear b before ⟨base⟩) (htwo : 2 ≤ n)
      (hbound : n ≤ 2 + before.length + 3 * b.properties.length + b.functions.length)
      (hclear : KeepsClear b before ⟨base ++ toString n⟩)
      (hleast : ∀ m, 2 ≤ m → m < n → ¬ KeepsClear b before ⟨base ++ toString m⟩) :
      IsFirstClear b before base ⟨base ++ toString n⟩

end Slot

namespace Claims

theorem addAll_eq (claims : Claims) (slots : List Slot) :
    claims.addAll slots =
      { claims with bases := (slots.map Slot.base).reverse ++ claims.bases } := by
  induction slots generalizing claims with
  | nil => rfl
  | cons slot slots ih =>
      have hrest : claims.addAll (slot :: slots) = (claims.add slot).addAll slots := rfl
      rw [hrest, ih]
      simp [add]

variable {b : Blueprint} {before : List Slot} {base : String}

theorem isFree_iff_keepsClear {slot : Slot} :
    ((start b).addAll before).isFree slot ↔ slot.KeepsClear b before := by
  rw [isFree_iff, addAll_eq]
  simp only [start, List.append_nil, List.mem_reverse, List.mem_map, not_exists, not_and]
  constructor
  · rintro ⟨hbase, hbehavior, hcounter, hstate, hconfigure⟩
    refine ⟨hbase, fun p hp hname => ?_, hconfigure⟩
    rw [List.mem_cons, List.mem_cons, List.mem_singleton] at hname
    obtain hname | hname | hname := hname
    · exact hbehavior p hp hname
    · exact hcounter p hp hname
    · exact hstate p hp hname
  · rintro ⟨hbase, hproperties, hfunctions⟩
    refine ⟨hbase, fun p hp hname => ?_, fun p hp hname => ?_, fun p hp hname => ?_, hfunctions⟩
    all_goals exact hproperties p hp (by simp [hname])

theorem blockable_addAll : ((start b).addAll before).blockable =
    before.length + 3 * b.properties.length + b.functions.length := by
  simp [addAll_eq, blockable, start]

theorem isFirstClear_slotFor (b : Blueprint) (before : List Slot) (base : String) :
    Slot.IsFirstClear b before base (((start b).addAll before).slotFor base) := by
  obtain ⟨index, hindex, heq, hfree, hbefore⟩ := slotFor_spec ((start b).addAll before) base
  rw [heq]
  rw [blockable_addAll] at hindex
  cases index with
  | zero => exact .bare (isFree_iff_keepsClear.1 hfree)
  | succ k =>
      refine .numbered (fun h => hbefore 0 (Nat.succ_pos k) (isFree_iff_keepsClear.2 h))
        (Nat.le_add_left 2 k) (by omega) (isFree_iff_keepsClear.1 hfree) fun m htwo hm h => ?_
      obtain ⟨j, rfl⟩ := Nat.exists_eq_add_of_le' htwo
      exact hbefore (j + 1) (by omega) (isFree_iff_keepsClear.2 h)

/-! ## The search as a loop -/

/-- The numbers of the search are signed words of 32 bits. -/
def wordLimit : Nat := 2 ^ 31

/-- A run of the loop that searches a slot. It holds a slot and the number of the next one; while the
    slot is taken, it goes on to the next, unless the number behind that is no word any more. -/
inductive Runs (claims : Claims) (base : String) : Slot → Nat → Slot → Prop where
  | found {slot : Slot} {number : Nat} (h : claims.isFree slot) : Runs claims base slot number slot
  | next {slot result : Slot} {number : Nat} (h : ¬ claims.isFree slot)
      (hword : number + 1 < wordLimit)
      (hrest : Runs claims base ⟨base ++ toString number⟩ (number + 1) result) :
      Runs claims base slot number result

theorem Runs.unique {claims : Claims} {slot result other : Slot} {number : Nat}
    (h : Runs claims base slot number result) (ho : Runs claims base slot number other) :
    result = other := by
  induction h with
  | found hfree =>
      cases ho with
      | found => rfl
      | next hnot => exact absurd hfree hnot
  | next hnot _ _ ih =>
      cases ho with
      | found hfree => exact absurd hfree hnot
      | next _ _ hrest => exact ih hrest

theorem runs_candidate {claims : Claims} {found : Nat} (hfree : claims.isFree (candidate base found))
    (hbefore : ∀ i < found, ¬ claims.isFree (candidate base i)) (hword : found + 2 < wordLimit)
    {index : Nat} (hindex : index ≤ found) :
    Runs claims base (candidate base index) (index + 2) (candidate base found) := by
  obtain ⟨rest, rfl⟩ := Nat.exists_eq_add_of_le hindex
  -- The induction goes over the candidates that are still ahead.
  induction rest generalizing index with
  | zero => exact .found hfree
  | succ rest ih =>
      have hahead : index + (rest + 1) = index + 1 + rest := by omega
      rw [hahead] at hfree hbefore hword ⊢
      exact .next (hbefore index (by omega)) (by omega)
        (ih hfree hbefore hword (Nat.le_add_right _ _))

/-- As long as there are words enough, the loop ends, and with the slot that the claims have for the
    base. -/
theorem runs_iff {claims : Claims} (hword : claims.blockable + 2 < wordLimit) {result : Slot} :
    Runs claims base ⟨base⟩ 2 result ↔ result = claims.slotFor base := by
  obtain ⟨index, hindex, heq, hfree, hbefore⟩ := slotFor_spec claims base
  have hruns : Runs claims base ⟨base⟩ 2 (claims.slotFor base) :=
    heq ▸ runs_candidate hfree hbefore (by omega) (Nat.zero_le index)
  constructor
  · intro h
    exact h.unique hruns
  · rintro rfl
    exact hruns

theorem length_claimAll (claims : Claims) (bases : List String) :
    (claims.claimAll bases).length = bases.length := by
  induction bases generalizing claims with
  | nil => rfl
  | cons base bases ih => rw [claimAll, List.length_cons, ih, List.length_cons]

end Claims

/-! ## Slots with their requests -/

/-- The slots of a property, each with the base that was asked for. -/
def PropertySlots.requests (entry : PropertySlots) : List (String × Slot) :=
  (entry.property.name, entry.getter) ::
    entry.setter.toList.map fun setter => ("set" ++ Identifier.capitalized entry.property.name, setter)

/-- The base that is asked for with a function: its name, and if several functions have this name, behind
    it the words for the types of its values, each with a capital. -/
def Slot.askedBase (functions : List Blueprint.Function) (f : Blueprint.Function) : String :=
  let namesakes := functions.filter fun g => g.name = f.name
  let words := f.parameters.map fun p => Identifier.capitalized p.valueType.word
  if namesakes.length ≤ 1 then f.name else f.name ++ String.join words

/-- The slot of a function with the base that was asked for. -/
def FunctionSlot.request (functions : List Blueprint.Function) (entry : FunctionSlot) : String × Slot :=
  (Slot.askedBase functions entry.function, entry.slot)

namespace SlotTable

theorem requestedBase_eq (functions : List Blueprint.Function) (f : Blueprint.Function) :
    requestedBase functions f = Slot.askedBase functions f := by
  unfold requestedBase isOverloaded overloadBase Slot.askedBase
  rw [List.countP_eq_length_filter, Blueprint.Function.valueTypes, List.map_map]
  by_cases h : (functions.filter fun g => g.name = f.name).length ≤ 1
  · simp [h, Nat.not_lt.2 h]
  · simp [h, Nat.lt_of_not_le h, Function.comp_def]

/-- The slots of a table in the order in which they are claimed, each with the base that was asked
    for. -/
def requests (functions : List Blueprint.Function) (table : SlotTable) : List (String × Slot) :=
  table.properties.flatMap PropertySlots.requests ++ table.functions.map (FunctionSlot.request functions)

theorem map_snd_requests (functions : List Blueprint.Function) (table : SlotTable) :
    (table.requests functions).map Prod.snd = table.slots := by
  have hproperty (entry : PropertySlots) : entry.requests.map Prod.snd = entry.slots := by
    rw [PropertySlots.requests, PropertySlots.slots, List.map_cons, List.map_map]
    exact congrArg (entry.getter :: ·) (List.map_id _)
  rw [requests, slots, List.map_append, List.map_flatMap, List.map_map]
  simp only [hproperty]
  rfl

theorem map_fst_requests (b : Blueprint) :
    ((ofBlueprint b).requests b.functions).map Prod.fst = requestedBases b := by
  have hproperty : ∀ entry ∈ (ofBlueprint b).properties,
      entry.requests.map Prod.fst = propertyBases entry.property := by
    intro entry hentry
    rw [PropertySlots.requests, propertyBases, ← setter_ofBlueprint hentry]
    cases entry.setter <;> rfl
  have hproperties := congrArg (List.flatMap propertyBases) (map_property_ofBlueprint b)
  have hfunctions := congrArg (List.map (requestedBase b.functions)) (map_function_ofBlueprint b)
  rw [List.flatMap_map] at hproperties
  rw [List.map_map] at hfunctions
  rw [requests, requestedBases, List.map_append, List.map_flatMap, List.map_map,
    List.flatMap_congr hproperty, hproperties, ← hfunctions]
  simp only [Function.comp_def, FunctionSlot.request, requestedBase_eq]

theorem length_requestedBases_le (b : Blueprint) :
    (requestedBases b).length ≤ 2 * b.properties.length + b.functions.length := by
  have hproperties : (b.properties.flatMap propertyBases).length ≤ 2 * b.properties.length := by
    induction b.properties with
    | nil => exact Nat.le_refl 0
    | cons p ps ih =>
        have hp : (propertyBases p).length ≤ 2 := by
          unfold propertyBases
          split <;> simp
        rw [List.flatMap_cons, List.length_append, List.length_cons]
        omega
  rw [requestedBases, List.length_append, List.length_map]
  exact Nat.add_le_add_right hproperties _

theorem slot_eq_slotFor {b : Blueprint} {before after : List (String × Slot)} {base : String}
    {slot : Slot} (h : (ofBlueprint b).requests b.functions = before ++ (base, slot) :: after) :
    slot = ((Claims.start b).addAll (before.map Prod.snd)).slotFor base := by
  have hbases := map_fst_requests b
  have hslots := (map_snd_requests b.functions (ofBlueprint b)).trans (slots_ofBlueprint b)
  rw [← hbases, h, List.map_append, List.map_append, Claims.claimAll_append] at hslots
  -- As many slots as bases come before, so both lists are split at the same place.
  obtain ⟨hbefore, hrest⟩ := List.append_inj hslots (by simp [Claims.length_claimAll])
  rw [← hbefore, List.map_cons, List.map_cons, Claims.claimAll] at hrest
  exact (List.cons.inj hrest).1

/-- Every subject has a table with a slot for each getter, for each setter of a mutable property, and
    for each function. No two slots have the same base, and none meets a member. Each is the first
    one for its base that keeps clear of all before it, and the loop that looks for it ends there. -/
theorem isFirstClear_ofBlueprint {b : Blueprint}
    (h : b.properties.length + b.functions.length < 2 ^ 28) :
    (ofBlueprint b).properties.map PropertySlots.property = b.properties ∧
    (∀ entry ∈ (ofBlueprint b).properties, entry.setter.isSome = entry.property.isMutable) ∧
    (ofBlueprint b).functions.map FunctionSlot.function = b.functions ∧
    ((ofBlueprint b).slots.map Slot.base).Nodup ∧
    (∀ slot ∈ (ofBlueprint b).slots, slot.KeepsClear b []) ∧
    ∀ before base slot after,
      (ofBlueprint b).requests b.functions = before ++ (base, slot) :: after →
        Slot.IsFirstClear b (before.map Prod.snd) base slot ∧
        ∀ result, ((Claims.start b).addAll (before.map Prod.snd)).Runs base ⟨base⟩ 2 result ↔
          result = slot := by
  refine ⟨map_property_ofBlueprint b, fun _ => setter_ofBlueprint, map_function_ofBlueprint b,
    nodup_bases b, fun slot hslot => ?_, fun before base slot after hsplit => ?_⟩
  · exact Claims.isFree_iff_keepsClear.1 (isFree_of_mem_slots hslot)
  · have hslot := slot_eq_slotFor hsplit
    have hlength : before.length ≤ 2 * b.properties.length + b.functions.length := by
      refine Nat.le_trans ?_ (length_requestedBases_le b)
      rw [← map_fst_requests b, hsplit]
      simp
    rw [hslot]
    refine ⟨Claims.isFirstClear_slotFor b _ base, fun result => Claims.runs_iff ?_⟩
    rw [Claims.blockable_addAll, List.length_map, Claims.wordLimit]
    omega

/-- Functions with one name, and with members in the way of their slots. -/
def rack : Blueprint where
  id := "app.Rack"
  supertype := .interface
  package := "app"
  name := "Rack"
  typeParams := []
  functions :=
    [⟨"putInt", [], .unit, false, false, [], .abstract⟩,
      ⟨"put", [⟨"item", .nullable (.primitive .int), false, false⟩], .unit, false, false, [], .abstract⟩,
      ⟨"put", [⟨"items", .primitive .string, true, false⟩, ⟨"then", .function [] false .unit, false, false⟩],
        .unit, false, false, [], .abstract⟩,
      ⟨"size", [], .primitive .int, false, false, [], .abstract⟩]
  properties :=
    [⟨"size", .primitive .int, true, false, .abstract⟩,
      ⟨"size2CallCount", .primitive .int, false, false, .abstract⟩]
  generics := .absent

/-- The slot of the first `put` would be that of `putInt`. The function `size` comes after a property of
    the same name, and the counter of `size2` would be a property. -/
theorem isFirstClear_ofBlueprint_rack :
    rack.properties.length + rack.functions.length < 2 ^ 28 ∧
      (ofBlueprint rack).requests rack.functions =
        [("size", ⟨"size"⟩), ("setSize", ⟨"setSize"⟩), ("size2CallCount", ⟨"size2CallCount"⟩),
          ("putInt", ⟨"putInt"⟩), ("putInt", ⟨"putInt2"⟩), ("putArrayFunction", ⟨"putArrayFunction"⟩),
          ("size", ⟨"size3"⟩)] ∧
      (Slot.IsFirstClear rack [⟨"size"⟩, ⟨"setSize"⟩, ⟨"size2CallCount"⟩, ⟨"putInt"⟩] "putInt"
          ⟨"putInt2"⟩ ∧
        ∀ result, ((Claims.start rack).addAll
          [⟨"size"⟩, ⟨"setSize"⟩, ⟨"size2CallCount"⟩, ⟨"putInt"⟩]).Runs "putInt" ⟨"putInt"⟩ 2 result ↔
            result = ⟨"putInt2"⟩) ∧
      Slot.IsFirstClear rack
        [⟨"size"⟩, ⟨"setSize"⟩, ⟨"size2CallCount"⟩, ⟨"putInt"⟩, ⟨"putInt2"⟩, ⟨"putArrayFunction"⟩] "size"
          ⟨"size3"⟩ := by
  have hrequests : (ofBlueprint rack).requests rack.functions =
      [("size", ⟨"size"⟩), ("setSize", ⟨"setSize"⟩), ("size2CallCount", ⟨"size2CallCount"⟩),
        ("putInt", ⟨"putInt"⟩), ("putInt", ⟨"putInt2"⟩), ("putArrayFunction", ⟨"putArrayFunction"⟩),
        ("size", ⟨"size3"⟩)] := by decide +kernel
  obtain ⟨-, -, -, -, -, hfirst⟩ := @isFirstClear_ofBlueprint rack (by decide)
  exact ⟨by decide, hrequests,
    hfirst [("size", ⟨"size"⟩), ("setSize", ⟨"setSize"⟩), ("size2CallCount", ⟨"size2CallCount"⟩),
      ("putInt", ⟨"putInt"⟩)] "putInt" ⟨"putInt2"⟩ _ hrequests,
    (hfirst [("size", ⟨"size"⟩), ("setSize", ⟨"setSize"⟩), ("size2CallCount", ⟨"size2CallCount"⟩),
      ("putInt", ⟨"putInt"⟩), ("putInt", ⟨"putInt2"⟩), ("putArrayFunction", ⟨"putArrayFunction"⟩)]
        "size" ⟨"size3"⟩ [] hrequests).1⟩

end SlotTable

end KotlinFakes
