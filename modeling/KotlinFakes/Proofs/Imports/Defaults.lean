import KotlinFakes.Proofs.Callees.Capture
import KotlinFakes.Proofs.Default.Flows
import KotlinFakes.Proofs.Default.Synthesis
import KotlinFakes.Proofs.Imports.Resolution

/-!
# Imports for default values

The imports of a file are fixed before it is known how it writes names, in a first pass over the members
that start with a default value. The first pass finds all that the defaults of the file need. It can find
more than that: the factory of flows is imported for a flow that is met in a type without a safe value,
and then nothing calls it.
-/

namespace KotlinFakes

open Fake

namespace Blueprint

/-- Whether a behavior starts with the default of a type, with the given parameters erased. -/
inductive Synthesizes (b : Blueprint) : Behavior → List String → Ty → Prop where
  | function {s : FunctionSlot} (hs : s ∈ (SlotTable.ofBlueprint b).functions)
      (h : functionSource b s.function = .synthesized) :
      Synthesizes b (FunctionMember.ofSlot b s).behavior (b.erasedNames s.function)
        s.function.signatureType
  | getter {s : PropertySlots} (hs : s ∈ (SlotTable.ofBlueprint b).properties)
      (h : propertySource b s.property = .synthesized) :
      Synthesizes b (PropertyMember.ofSlots b s).getter [] s.property.getterType

variable {b : Blueprint} {behavior : Behavior} {erased : List String} {t : Ty}

theorem mem_behaviors_ofBlueprint :
    behavior ∈ (Implementation.ofBlueprint b (.ofBlueprint b)).behaviors ↔
      (∃ s ∈ (SlotTable.ofBlueprint b).properties, behavior ∈ (PropertyMember.ofSlots b s).behaviors) ∨
        ∃ s ∈ (SlotTable.ofBlueprint b).functions, (FunctionMember.ofSlot b s).behavior = behavior := by
  simp only [Implementation.behaviors, Implementation.ofBlueprint, List.mem_append, List.mem_flatMap,
    List.mem_map, exists_exists_and_eq_and]

theorem Synthesizes.mem_behaviors (h : b.Synthesizes behavior erased t) :
    behavior ∈ (Implementation.ofBlueprint b (.ofBlueprint b)).behaviors := by
  rw [mem_behaviors_ofBlueprint]
  cases h with
  | function hs => exact .inr ⟨_, hs, rfl⟩
  | getter hs => exact .inl ⟨_, hs, List.mem_cons_self⟩

theorem Synthesizes.initial_eq (h : b.Synthesizes behavior erased t) :
    behavior.initial = .value (Default.ofTy erased t) := by
  cases h with
  | function hs h =>
      show functionInitial b _ = _
      rw [functionInitial, h]
  | getter hs h =>
      show getterInitial b _ = _
      rw [getterInitial, h]

theorem functionSource_of_value {f : Function} {d : Default} (h : functionInitial b f = .value d) :
    functionSource b f = .synthesized := by
  unfold functionInitial at h
  split at h
  · cases h
  · cases h
  · assumption

theorem propertySource_of_value {p : Property} {d : Default} (h : getterInitial b p = .value d) :
    propertySource b p = .synthesized := by
  unfold getterInitial at h
  split at h
  · cases h
  · cases h
  · assumption

theorem setterInitial_ne_value (getter : Slot) (p : Property) (d : Default) :
    setterInitial getter p ≠ .value d := by
  unfold setterInitial
  split <;> nofun

theorem exists_synthesizes {d : Default}
    (h : behavior ∈ (Implementation.ofBlueprint b (.ofBlueprint b)).behaviors)
    (hd : behavior.initial = .value d) : ∃ erased t, b.Synthesizes behavior erased t := by
  obtain ⟨s, hs, h⟩ | ⟨s, hs, rfl⟩ := mem_behaviors_ofBlueprint.1 h
  · obtain rfl | h := List.mem_cons.1 h
    · exact ⟨_, _, .getter hs (propertySource_of_value hd)⟩
    · obtain ⟨slot, -, rfl⟩ := Option.map_eq_some_iff.1 (Option.mem_toList.1 h)
      exact absurd hd (setterInitial_ne_value s.getter s.property d)
  · exact ⟨_, _, .function hs (functionSource_of_value hd)⟩

/-- The first pass over a blueprint collects the imports of the members that start with a default. -/
theorem mem_defaultImports {name : QualifiedName} : name ∈ defaultImports b ↔
    ∃ behavior erased t, b.Synthesizes behavior erased t ∧ name ∈ Default.importsOf erased t := by
  have hproperties := SlotTable.map_property_ofBlueprint b
  have hfunctions := SlotTable.map_function_ofBlueprint b
  rw [defaultImports, ← hproperties, ← hfunctions]
  simp only [List.mem_append, List.mem_flatMap, List.mem_filter, List.mem_map, decide_eq_true_eq]
  constructor
  · rintro (⟨_, ⟨⟨s, hs, rfl⟩, hsource⟩, hname⟩ | ⟨_, ⟨⟨s, hs, rfl⟩, hsource⟩, hname⟩)
    · exact ⟨_, _, _, .function hs hsource, hname⟩
    · exact ⟨_, _, _, .getter hs hsource, hname⟩
  · rintro ⟨_, _, _, h, hname⟩
    cases h with
    | function hs hsource => exact .inl ⟨_, ⟨⟨_, hs, rfl⟩, hsource⟩, hname⟩
    | getter hs hsource => exact .inr ⟨_, ⟨⟨_, hs, rfl⟩, hsource⟩, hname⟩

theorem exists_synthesizes_of_callee {factory : Factory}
    (h : behavior ∈ (Implementation.ofBlueprint b (.ofBlueprint b)).behaviors)
    (hcall : .container factory ∈ behavior.initial.callees) :
    ∃ erased t, b.Synthesizes behavior erased t := by
  cases hinitial : behavior.initial with
  | value d => exact exists_synthesizes h hinitial
  | failing | readSuper | writeSuper | remember | callSuper => simp [hinitial, Initial.callees] at hcall

theorem Synthesizes.emptyFlow_mem_callees_iff (h : b.Synthesizes behavior erased t) :
    .container .emptyFlow ∈ behavior.initial.callees ↔ t.MeetsFlow erased ∧ ¬ t.Fails erased := by
  rw [h.initial_eq, Initial.callees, Default.emptyFlow_mem_callees_iff]

theorem flowImport_mem_defaultImports : Factory.flowImport ∈ defaultImports b ↔
    ∃ behavior erased t, b.Synthesizes behavior erased t ∧ t.MeetsFlow erased := by
  simp only [mem_defaultImports, Default.mem_importsOf_iff, true_and]

theorem flowImport_mem_imports (hpackage : b.package ≠ Factory.flowImport.package)
    (h : Factory.flowImport ∈ defaultImports b) :
    Factory.flowImport.importPath ∈ (ImportSet.resolve b (defaultImports b)).imports :=
  ImportSet.mem_imports.2 (.inr (.inr ⟨_, h, ⟨hpackage.symm, by decide⟩, rfl⟩))

theorem flowImport_mem_defaultImports_of_mem_imports
    (hnone : ∀ name ∈ b.mentionedClasses, name.importPath ≠ Factory.flowImport.importPath)
    (h : Factory.flowImport.importPath ∈ (ImportSet.resolve b (defaultImports b)).imports) :
    b.package ≠ Factory.flowImport.package ∧ Factory.flowImport ∈ defaultImports b := by
  cases ImportSet.needs_of_mem_imports h with
  | runtimeClass h =>
      have hother : ∀ name ∈ ImportSet.runtimeClasses,
          name.importPath ≠ Factory.flowImport.importPath := by decide
      obtain ⟨name, hname, hpath⟩ := h
      exact absurd hpath (hother name hname)
  | runtimeFunction h => exact absurd h (by decide)
  | function h =>
      obtain ⟨name, hname, -, hpackage, -⟩ := h
      obtain ⟨_, _, _, -, himport⟩ := mem_defaultImports.1 hname
      obtain ⟨rfl, -⟩ := (Default.mem_importsOf_iff _).1 himport
      exact ⟨hpackage.symm, hname⟩
  | mentioned h =>
      obtain ⟨name, hname, hpath, -⟩ := h
      exact absurd hpath (hnone name hname)

end Blueprint

namespace FakeFile

variable {options : FileOptions} {b : Blueprint} {file : FakeFile}

/-- The first pass agrees with the file. A pass over a type yields the same imports and the same mark
    however names are written and whatever the message is. The imports of the first pass are those of
    the members that start with a default, which the file writes as a pass with its own policy yields
    them. Every member that calls the factory of flows is one of these, asks for its import, and the
    file has the import unless it stands in that package. -/
theorem synthesis_agrees (h : generate options b = .ok file) :
    (∀ (erased : List String) (t : Ty) (policy other : NamePolicy) (message message' : String),
      (Default.synthesize policy message erased [] t).imports =
          (Default.synthesize other message' erased [] t).imports ∧
        (Default.synthesize policy message erased [] t).isSafe =
          (Default.synthesize other message' erased [] t).isSafe) ∧
    (∀ name, name ∈ Fake.defaultImports b ↔ ∃ behavior erased t, b.Synthesizes behavior erased t ∧
      name ∈ (Default.synthesize .plain "" erased [] t).imports) ∧
    (∀ behavior erased t, b.Synthesizes behavior erased t →
      behavior ∈ file.implementation.behaviors ∧
        behavior.initial.write file.policy behavior.message =
          (Default.synthesize file.policy behavior.message erased [] t).text) ∧
    ∀ behavior ∈ file.implementation.behaviors, .container .emptyFlow ∈ behavior.initial.callees →
      (∃ erased t, b.Synthesizes behavior erased t ∧
        Factory.flowImport ∈ (Default.synthesize .plain "" erased [] t).imports) ∧
      (b.package ≠ Factory.flowImport.package → Factory.flowImport.importPath ∈ file.imports) := by
  rw [implementation_of_generate h, imports_of_generate h]
  simp only [Default.synthesize_eq, List.nil_append, and_self, implies_true, true_and]
  refine ⟨fun name => Blueprint.mem_defaultImports, fun behavior erased t hsynthesizes => ?_,
    fun behavior hbehavior hcall => ?_⟩
  · refine ⟨hsynthesizes.mem_behaviors, ?_⟩
    rw [hsynthesizes.initial_eq]
    rfl
  · obtain ⟨erased, t, hsynthesizes⟩ := Blueprint.exists_synthesizes_of_callee hbehavior hcall
    obtain ⟨hmeets, -⟩ := hsynthesizes.emptyFlow_mem_callees_iff.1 hcall
    have himport := (Default.mem_importsOf_iff t).2 ⟨rfl, hmeets⟩
    refine ⟨⟨erased, t, hsynthesizes, himport⟩, fun hpackage => ?_⟩
    exact Blueprint.flowImport_mem_imports hpackage
      (Blueprint.mem_defaultImports.2 ⟨_, _, _, hsynthesizes, himport⟩)

/-- The blueprint of an interface with one property. -/
def feed (property : String) (type : Ty) : Blueprint :=
  ⟨"app.Feed", .interface, "app", "Feed", [], [], [⟨property, type, false, false, .abstract⟩], .absent⟩

def flowOfInts : Ty := .apply ⟨"kotlinx.coroutines.flow", "Flow"⟩ [.primitive .int]

def flowFeed : Blueprint := feed "latest" flowOfInts

/-- The file of a property with a flow has a call of the factory, and so the import of it. -/
theorem synthesis_agrees_flowFeed : ∃ file, generate ⟨true⟩ flowFeed = .ok file ∧
    (∃ behavior ∈ file.implementation.behaviors, .container .emptyFlow ∈ behavior.initial.callees) ∧
    Factory.flowImport.importPath ∈ file.imports := by
  have hfile : generate ⟨true⟩ flowFeed = .ok _ := rfl
  have hcall : ∃ behavior ∈ (build ⟨true⟩ flowFeed).implementation.behaviors,
      .container .emptyFlow ∈ behavior.initial.callees := by decide
  obtain ⟨behavior, hbehavior, hcallee⟩ := hcall
  obtain ⟨-, -, -, hcalls⟩ := synthesis_agrees hfile
  exact ⟨_, hfile, ⟨behavior, hbehavior, hcallee⟩, (hcalls behavior hbehavior hcallee).2 (by decide)⟩

/-- When the factory of flows is imported for nothing. The file of another package has the import if a
    flow is met in the default of some member, and a member calls the factory if it meets a flow and has
    a safe value. So the import is always used if and only if a blueprint that meets a flow has a member
    that does both. -/
theorem flowImport_mem_imports_iff (h : generate options b = .ok file)
    (hnone : ∀ name ∈ b.mentionedClasses, name.importPath ≠ Factory.flowImport.importPath) :
    (Factory.flowImport.importPath ∈ file.imports ↔ b.package ≠ Factory.flowImport.package ∧
      ∃ behavior erased t, b.Synthesizes behavior erased t ∧ t.MeetsFlow erased) ∧
    (.container .emptyFlow ∈ file.implementation.callees ↔
      ∃ behavior erased t, b.Synthesizes behavior erased t ∧ t.MeetsFlow erased ∧
        ¬ t.Fails erased) ∧
    ((Factory.flowImport.importPath ∈ file.imports →
        .container .emptyFlow ∈ file.implementation.callees) ↔
      (b.package ≠ Factory.flowImport.package →
        (∃ behavior erased t, b.Synthesizes behavior erased t ∧ t.MeetsFlow erased) →
        ∃ behavior erased t, b.Synthesizes behavior erased t ∧ t.MeetsFlow erased ∧
          ¬ t.Fails erased)) := by
  have himport : Factory.flowImport.importPath ∈ file.imports ↔
      b.package ≠ Factory.flowImport.package ∧
        ∃ behavior erased t, b.Synthesizes behavior erased t ∧ t.MeetsFlow erased := by
    rw [imports_of_generate h, ← Blueprint.flowImport_mem_defaultImports]
    exact ⟨Blueprint.flowImport_mem_defaultImports_of_mem_imports hnone,
      fun ⟨hpackage, h⟩ => Blueprint.flowImport_mem_imports hpackage h⟩
  have hcalls : .container .emptyFlow ∈ file.implementation.callees ↔
      ∃ behavior erased t, b.Synthesizes behavior erased t ∧ t.MeetsFlow erased ∧
        ¬ t.Fails erased := by
    rw [implementation_of_generate h, Fake.Implementation.callees, List.mem_flatMap]
    constructor
    · rintro ⟨behavior, hbehavior, hcall⟩
      obtain ⟨erased, t, hsynthesizes⟩ := Blueprint.exists_synthesizes_of_callee hbehavior hcall
      exact ⟨behavior, erased, t, hsynthesizes, hsynthesizes.emptyFlow_mem_callees_iff.1 hcall⟩
    · rintro ⟨behavior, erased, t, hsynthesizes, hmeets⟩
      exact ⟨behavior, hsynthesizes.mem_behaviors, hsynthesizes.emptyFlow_mem_callees_iff.2 hmeets⟩
  exact ⟨himport, hcalls, by rw [himport, hcalls, and_imp]⟩

/-- The import is used for a flow that stands for itself. -/
theorem flowImport_mem_imports_iff_flowFeed : ∃ file, generate ⟨true⟩ flowFeed = .ok file ∧
    (∀ name ∈ flowFeed.mentionedClasses, name.importPath ≠ Factory.flowImport.importPath) ∧
    Factory.flowImport.importPath ∈ file.imports ∧
    ∃ behavior erased t, flowFeed.Synthesizes behavior erased t ∧ t.MeetsFlow erased ∧
      ¬ t.Fails erased := by
  have hfile : generate ⟨true⟩ flowFeed = .ok _ := rfl
  have hnone : ∀ name ∈ flowFeed.mentionedClasses,
      name.importPath ≠ Factory.flowImport.importPath := by decide
  obtain ⟨himport, hcalls, -⟩ := flowImport_mem_imports_iff hfile hnone
  obtain ⟨behavior, erased, t, hsynthesizes, hmeets, hsafe⟩ := hcalls.1 (by decide)
  exact ⟨_, hfile, hnone, himport.2 ⟨by decide, behavior, erased, t, hsynthesizes, hmeets⟩,
    behavior, erased, t, hsynthesizes, hmeets, hsafe⟩

/-- The blueprint of an interface with a pair of a flow and an item. -/
def pairFeed : Blueprint :=
  feed "latest" (.apply ⟨"kotlin", "Pair"⟩ [flowOfInts, .named ⟨"app", "Item"⟩])

/-- The import stays when a pair is found to have no safe value after its flow was met. -/
theorem exists_unused_import : ∃ (options : FileOptions) (b : Blueprint) (file : FakeFile),
    generate options b = .ok file ∧
    (∀ name ∈ b.mentionedClasses, name.importPath ≠ Factory.flowImport.importPath) ∧
    Factory.flowImport.importPath ∈ file.imports ∧
    .container .emptyFlow ∉ file.implementation.callees := by
  have hfile : generate ⟨true⟩ pairFeed = .ok _ := rfl
  have himports := imports_of_generate hfile
  refine ⟨⟨true⟩, pairFeed, _, hfile, by decide, ?_, by decide⟩
  rw [himports]
  exact Blueprint.flowImport_mem_imports (by decide) (by decide)

end FakeFile

end KotlinFakes
