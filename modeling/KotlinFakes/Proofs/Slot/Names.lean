import KotlinFakes.Proofs.Slot.Allocation
import KotlinFakes.Proofs.WellNamed

/-!
# Names derived from slots

Slots have different bases, but several names are derived from each base, and one of them can be
another slot's: the state behind the counter of `x` is the counter of `_x`, and the configure methods
of `x` and `X` are one. These are the only ways in which names of an implementation class meet.
-/

namespace KotlinFakes

namespace Slot

theorem counter_ne_behavior (s t : Slot) : s.counter ≠ t.behavior := by
  intro h
  have hcounter := Text.getLast?_append s.base "CallCount" (c := 't') (by decide)
  have hbehavior := Text.getLast?_append t.base "Behavior" (c := 'r') (by decide)
  rw [counter, behavior] at h
  rw [h, hbehavior] at hcounter
  cases hcounter

theorem counterState_ne_behavior (s t : Slot) : s.counterState ≠ t.behavior := by
  exact counter_ne_behavior ⟨"_" ++ s.base⟩ t

theorem counterState_eq_counter_iff {s t : Slot} :
    s.counterState = t.counter ↔ t.base = "_" ++ s.base := by
  simp only [counterState, counter, String.append_left_inj]
  exact eq_comm

end Slot

theorem Identifier.quoted_inj {name other : String} (hname : name.toList.head? ≠ some '`')
    (hother : other.toList.head? ≠ some '`') (h : quoted name = quoted other) : name = other := by
  unfold quoted at h
  split at h <;> split at h
  · simpa using h
  · exact absurd (by simp [← h]) hother
  · exact absurd (by simp [h]) hname
  · exact h

namespace SlotTable

/-- The names that an implementation class gives to properties: the two of the counter and that of
    the behavior for every slot, and those of the overridden properties. -/
def propertyNames (b : Blueprint) : List String :=
  let slots := (ofBlueprint b).slots
  slots.map Slot.counterState ++ slots.map Slot.counter ++ slots.map Slot.behavior ++
    b.properties.map Blueprint.Property.name

/-- Whether no two names of the generated classes meet. -/
structure HasDistinctNames (b : Blueprint) : Prop where
  properties : (propertyNames b).Nodup
  configures : ((ofBlueprint b).slots.map Slot.configure).Nodup
  overrides : ∀ slot ∈ (ofBlueprint b).slots,
    slot.configure ∉ b.functions.map Blueprint.Function.name
  methods : ((ofBlueprint b).slots.map Slot.dsl).Nodup

theorem nodup_bases (b : Blueprint) : ((ofBlueprint b).slots.map Slot.base).Nodup := by
  rw [slots_ofBlueprint]
  exact Claims.nodup_claimAll _ _

theorem isFree_of_mem_slots {b : Blueprint} {slot : Slot} (h : slot ∈ (ofBlueprint b).slots) :
    (Claims.start b).isFree slot := by
  rw [slots_ofBlueprint] at h
  exact Claims.isFree_of_mem_claimAll h

theorem exists_name_of_mem_requestedBases {b : Blueprint}
    (hnames : ∀ name ∈ b.declaredNames, Identifier.isValid name) {base : String}
    (h : base ∈ requestedBases b) : ∃ name suffix, Identifier.isValid name ∧ base = name ++ suffix := by
  simp only [Blueprint.declaredNames, List.cons_append, List.mem_cons, List.mem_append,
    List.mem_map, List.mem_flatMap] at hnames
  simp only [requestedBases, List.mem_append, List.mem_flatMap, List.mem_map] at h
  obtain ⟨p, hp, hbase⟩ | ⟨f, hf, rfl⟩ := h
  · rw [propertyBases, List.mem_cons] at hbase
    obtain rfl | hbase := hbase
    · exact ⟨p.name, "", hnames _ (.inr (.inl (.inr ⟨p, hp, rfl⟩))), by simp⟩
    · exact ⟨"set", Identifier.capitalized p.name, by decide, by grind⟩
  · have hname := hnames f.name (.inr (.inr ⟨f, hf, by simp [Blueprint.Function.declaredNames]⟩))
    unfold requestedBase
    split
    · exact ⟨f.name, _, hname, rfl⟩
    · exact ⟨f.name, "", hname, by simp⟩

theorem head?_base_ne {b : Blueprint} (hnames : ∀ name ∈ b.declaredNames, Identifier.isValid name)
    {slot : Slot} (h : slot ∈ (ofBlueprint b).slots) : slot.base.toList.head? ≠ some '`' := by
  rw [slots_ofBlueprint] at h
  obtain ⟨base, hbase, index, rfl⟩ := Claims.exists_candidate_of_mem_claimAll h
  obtain ⟨name, suffix, hname, rfl⟩ := exists_name_of_mem_requestedBases hnames hbase
  obtain ⟨c, rest, hlist, hc, -⟩ := Identifier.exists_cons_of_isValid hname
  rw [Claims.candidate_eq]
  simp only [String.toList_append, hlist, List.cons_append, List.head?_cons, ne_eq, Option.some.injEq]
  rintro rfl
  exact absurd hc (by decide)

theorem nodup_propertyNames_iff (b : Blueprint) :
    (propertyNames b).Nodup ↔ (b.properties.map Blueprint.Property.name).Nodup ∧
      ∀ slot ∈ (ofBlueprint b).slots, "_" ++ slot.base ∉ (ofBlueprint b).slots.map Slot.base := by
  have hslots := List.Nodup.of_map _ (nodup_bases b)
  have hfree {slot : Slot} (h : slot ∈ (ofBlueprint b).slots) :=
    (Claims.isFree_iff.1 (isFree_of_mem_slots h)).2
  constructor
  · intro h
    simp only [propertyNames, List.nodup_append, List.mem_append, List.mem_map] at h
    refine ⟨h.2.1, fun slot hslot hmem => ?_⟩
    obtain ⟨other, hother, hbase⟩ := List.mem_map.1 hmem
    exact h.1.1.2.2 _ ⟨slot, hslot, rfl⟩ _ ⟨other, hother, rfl⟩
      (Slot.counterState_eq_counter_iff.2 hbase)
  · rintro ⟨hproperties, hunderscore⟩
    have hstates := (hslots.map fun _ _ => Slot.counterState_inj)
    have hcounters := (hslots.map fun _ _ => Slot.counter_inj)
    have hbehaviors := (hslots.map fun _ _ => Slot.behavior_inj)
    simp only [propertyNames, List.nodup_append, List.mem_append, List.mem_map]
    refine ⟨⟨⟨hstates, hcounters, ?_⟩, hbehaviors, ?_⟩, hproperties, ?_⟩
    · rintro _ ⟨slot, hslot, rfl⟩ _ ⟨other, hother, rfl⟩ heq
      exact hunderscore slot hslot
        (List.mem_map.2 ⟨other, hother, Slot.counterState_eq_counter_iff.1 heq⟩)
    · rintro _ (⟨slot, hslot, rfl⟩ | ⟨slot, hslot, rfl⟩) _ ⟨other, hother, rfl⟩
      · exact Slot.counterState_ne_behavior slot other
      · exact Slot.counter_ne_behavior slot other
    · rintro _ ((⟨slot, hslot, rfl⟩ | ⟨slot, hslot, rfl⟩) | ⟨slot, hslot, rfl⟩) _ hp rfl
      · exact (hfree hslot).2.2.1 (List.mem_map.2 hp)
      · exact (hfree hslot).2.1 (List.mem_map.2 hp)
      · exact (hfree hslot).1 (List.mem_map.2 hp)

theorem configure_not_mem {b : Blueprint} {slot : Slot} (h : slot ∈ (ofBlueprint b).slots) :
    slot.configure ∉ b.functions.map Blueprint.Function.name :=
  (Claims.isFree_iff.1 (isFree_of_mem_slots h)).2.2.2.2

theorem nodup_dsl {b : Blueprint} (hnames : ∀ name ∈ b.declaredNames, Identifier.isValid name) :
    ((ofBlueprint b).slots.map Slot.dsl).Nodup := by
  have hslots := List.Nodup.of_map _ (nodup_bases b)
  refine (List.nodup_map_iff_inj_on hslots).2 fun s hs t ht heq => ?_
  have hbase := Identifier.quoted_inj (head?_base_ne hnames hs) (head?_base_ne hnames ht) heq
  cases s
  cases t
  exact congrArg Slot.mk hbase

theorem nodup_configure_iff (slots : List Slot) :
    (slots.map Slot.configure).Nodup ↔
      (slots.map fun slot => Identifier.capitalized slot.base).Nodup := by
  have hmap : slots.map Slot.configure =
      (slots.map fun slot => Identifier.capitalized slot.base).map ("configure" ++ ·) := by
    rw [List.map_map]
    rfl
  rw [hmap, List.nodup_map_iff fun _ _ h => by simpa using h]

/-- The names of the generated classes are told apart exactly if the subject declares no property
    twice, no slot has the base of another with an underscore in front, and no two bases are the same
    with a capital. -/
theorem hasDistinctNames_iff {options : FileOptions} {b : Blueprint} {file : FakeFile}
    (h : FakeFile.generate options b = .ok file) :
    HasDistinctNames b ↔
      (b.properties.map Blueprint.Property.name).Nodup ∧
        (∀ slot ∈ (ofBlueprint b).slots, "_" ++ slot.base ∉ (ofBlueprint b).slots.map Slot.base) ∧
        ((ofBlueprint b).slots.map fun slot => Identifier.capitalized slot.base).Nodup := by
  constructor
  · intro hdistinct
    obtain ⟨hproperties, hunderscore⟩ := (nodup_propertyNames_iff b).1 hdistinct.properties
    exact ⟨hproperties, hunderscore, (nodup_configure_iff _).1 hdistinct.configures⟩
  · rintro ⟨hproperties, hunderscore, hcapitals⟩
    exact
      { properties := (nodup_propertyNames_iff b).2 ⟨hproperties, hunderscore⟩
        configures := (nodup_configure_iff _).2 hcapitals
        overrides := fun _ hslot => configure_not_mem hslot
        methods := nodup_dsl (FakeFile.isValid_of_generate h) }

/-- An interface `Box` with properties of the given names. -/
def box (names : List String) : Blueprint where
  id := "Box"
  supertype := .interface
  package := ""
  name := "Box"
  typeParams := []
  functions := []
  properties := names.map fun name => ⟨name, .primitive .int, true, false, .abstract⟩
  generics := .absent

/-- Two variables of unlike names get names that are all different. -/
theorem hasDistinctNames_box :
    ∃ file, FakeFile.generate ⟨true⟩ (box ["width", "height"]) = .ok file ∧
      HasDistinctNames (box ["width", "height"]) :=
  have hfile : FakeFile.generate ⟨true⟩ (box ["width", "height"]) = .ok _ := rfl
  ⟨_, hfile, (hasDistinctNames_iff hfile).2 (by decide)⟩

/-- Names that differ in the case of their first letter get the same method to configure them. -/
theorem not_hasDistinctNames_capital :
    ∃ file, FakeFile.generate ⟨true⟩ (box ["x", "X"]) = .ok file ∧
      ¬HasDistinctNames (box ["x", "X"]) :=
  ⟨_, rfl, fun h => absurd h.configures (by decide +kernel)⟩

end SlotTable

end KotlinFakes
