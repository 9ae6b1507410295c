import KotlinFakes.Proofs.Default.Safety
import KotlinFakes.Proofs.Fake.Storage

/-!
# Functions that cannot delegate

An open function forwards to what it overrides, unless its own type parameters are bounded. The
analysis warns of those that do not, and the implementation class gives them another behavior. Both
decide by themselves; the warnings are about exactly these functions, in order. What such a function
does instead depends on its type as soon as the fake implements an interface.
-/

namespace KotlinFakes

namespace Fake

/-! ## Initial behaviors -/

namespace Initial

/-- Whether a behavior forwards to what the member overrides. -/
def forwards : Initial → Bool
  | .readSuper _ | .writeSuper _ | .callSuper _ => true
  | .remember _ | .failing _ | .value _ => false

/-- Whether a behavior of the given arity ignores its arguments and fails with its message. -/
inductive FailsLoudly : Nat → Initial → Prop where
  | failing (arity : Nat) : FailsLoudly arity (.failing arity)
  | closure (arity : Nat) : FailsLoudly arity (.value (.closure arity .failure))

theorem FailsLoudly.write_eq {arity : Nat} {initial : Initial} (h : FailsLoudly arity initial)
    (policy : NamePolicy) (message : String) :
    initial.write policy message = Default.closureText arity (Default.failureText message) := by
  cases h with
  | failing => rfl
  | closure =>
      change Default.write policy message (.closure arity .failure) = _
      rw [Default.write, Default.write]

end Initial

variable {b : Blueprint} {f : Blueprint.Function}

theorem forwards_functionInitial :
    (functionInitial b f).forwards = (f.inherited = .implemented && !f.hasBounds) := by
  unfold functionInitial functionSource
  by_cases h : f.inherited = .implemented && !f.hasBounds
  · simp [h, Initial.forwards]
  · rw [if_neg h, Bool.eq_false_iff.2 h]
    by_cases hclass : b.supertype = .baseClass <;> simp [hclass, Initial.forwards]

theorem failsLoudly_value_iff {erased : List String} :
    (Initial.value (Default.ofTy erased f.signatureType)).FailsLoudly f.parameters.length ↔
      f.signatureType.Fails erased ∧ ¬ f.result.isFunction := by
  have hlength : f.valueTypes.length = f.parameters.length := List.length_map _
  rw [Blueprint.Function.signatureType, Ty.fails_function_iff, Default.ofTy]
  split
  · next h =>
      refine ⟨fun hloud => ?_, fun hfails => absurd h hfails.1.1⟩
      cases hloud
  · next hidentity =>
      split
      · next h =>
          refine ⟨fun hloud => ?_, fun hfails => absurd h hfails.1.2.1⟩
          cases hloud
      · next hrun =>
          split
          · next h =>
              refine ⟨fun hloud => ?_, fun hfails => absurd h hfails.1.2.2.1⟩
              cases hloud
          · next hunit =>
              simp only [ne_eq, hidentity, hrun, hunit, not_false_eq_true, Bool.false_eq_true, true_and]
              rw [← Default.ofTy_eq_failure_iff, hlength]
              constructor
              · intro h
                generalize hbody : Default.ofTy erased f.result = body at h
                cases h
                rfl
              · intro h
                rw [h]
                exact .closure _

/-- A function that does not forward fails at once in a class; in an interface its type decides. -/
theorem failsLoudly_functionInitial_iff (h : ¬ (functionInitial b f).forwards) :
    (functionInitial b f).FailsLoudly f.parameters.length ↔
      b.supertype = .baseClass ∨
        f.signatureType.Fails (b.erasedNames f) ∧ ¬ f.result.isFunction := by
  rw [forwards_functionInitial] at h
  unfold functionInitial functionSource
  rw [if_neg h]
  by_cases hclass : b.supertype = .baseClass
  · simp only [hclass, if_true, true_or, iff_true]
    exact .failing _
  · simp only [hclass, if_false, false_or]
    exact failsLoudly_value_iff

/-- Whether a function has an implementation to fall back on that its fake does not forward to. -/
def FunctionMember.isCutOff (m : FunctionMember) : Bool :=
  m.function.inherited = .implemented && !m.behavior.initial.forwards

theorem FunctionMember.isCutOff_ofSlot (b : Blueprint) (s : FunctionSlot) :
    (ofSlot b s).isCutOff = (s.function.inherited = .implemented && s.function.hasBounds) := by
  have hforwards : (ofSlot b s).behavior.initial.forwards = _ :=
    forwards_functionInitial (b := b) (f := s.function)
  rw [isCutOff, hforwards]
  change (decide (s.function.inherited = .implemented) && _) = _
  cases decide (s.function.inherited = .implemented) <;> simp

end Fake

/-! ## Warnings -/

namespace Draft

/-- The warning about a function that cannot forward. -/
def delegationWarning (declaration function : String) : Diagnostic :=
  warn declaration .cannotDelegate
    ("open function `" ++ function ++
      "` has bounded type parameters and cannot forward to its supertype implementation")
    ["its default behavior fails until it is configured"]

theorem filter_functionWarnings (declaration : String) (fs : List Blueprint.Function) :
    (fs.flatMap (functionWarnings declaration)).filter (fun w => w.code = .cannotDelegate) =
      (fs.filter fun f => f.inherited = .implemented && f.hasBounds).map
        fun f => delegationWarning declaration f.name := by
  induction fs with
  | nil => rfl
  | cons f fs ih =>
      have hunused (ps : List TypeParam) (text : TypeParam → String) :
          (ps.map fun p => warn declaration .unusedTypeParam (text p) []).filter
            (fun w => w.code = .cannotDelegate) = [] := by
        simp [List.filter_map, Function.comp_def, warn]
      rw [List.flatMap_cons, List.filter_append, ih, functionWarnings, List.filter_append, hunused,
        List.nil_append, List.filter_cons]
      split <;> rfl

theorem filter_warnings (d : Draft) :
    d.warnings.filter (fun w => w.code = .cannotDelegate) =
      (d.blueprint.functions.filter fun f => f.inherited = .implemented && f.hasBounds).map
        fun f => delegationWarning d.blueprint.qualifiedName f.name := by
  have hbounds : (d.unresolvedBounds.map (unresolvedBoundWarning d.blueprint.qualifiedName)).filter
      (fun w => w.code = .cannotDelegate) = [] := by
    simp [List.filter_map, Function.comp_def, unresolvedBoundWarning, warn]
  have hdeclaration : (declarationWarnings d.blueprint).filter
      (fun w => w.code = .cannotDelegate) = [] := by
    simp [declarationWarnings, List.filter_map, Function.comp_def, warn]
  rw [warnings, List.filter_append, List.filter_append, hbounds, hdeclaration,
    filter_functionWarnings, List.nil_append, List.append_nil]

end Draft

namespace Subject

open Fake

theorem exists_draft_of_analyze {s : Subject} {analysis : Analysis} (h : s.analyze = .ok analysis) :
    ∃ d, s.draft = .ok d ∧ analysis.blueprint = { d.blueprint with generics := d.generics } ∧
      analysis.warnings = d.warnings := by
  unfold analyze at h
  split at h
  · cases h
  · next d hdraft =>
      obtain rfl := Except.ok.inj h
      exact ⟨d, hdraft, rfl, rfl⟩

variable {s : Subject} {analysis : Analysis} {options : FileOptions} {file : FakeFile}

/-- The warnings about functions that cannot forward are one for each function of the implementation
    class that is open and does not forward, in order. What such a function does instead fails at once if
    the subject is a class; in an interface it fails if its type has no safe value, unless its result
    is a function. -/
theorem delegationWarnings_iff (ha : s.analyze = .ok analysis)
    (hg : FakeFile.generate options analysis.blueprint = .ok file) :
    analysis.warnings.filter (fun w => w.code = .cannotDelegate) =
      (file.implementation.functions.filter FunctionMember.isCutOff).map (fun m =>
        Draft.delegationWarning analysis.blueprint.qualifiedName m.function.name) ∧
    ∀ m ∈ file.implementation.functions, m.isCutOff →
      (m.behavior.initial.FailsLoudly m.function.parameters.length ↔
        analysis.blueprint.supertype = .baseClass ∨
          m.function.signatureType.Fails m.function.typeParamNames ∧
            ¬ m.function.result.isFunction) ∧
      (m.behavior.initial.FailsLoudly m.function.parameters.length →
        m.behavior.initial.write file.policy m.behavior.message =
          Default.closureText m.function.parameters.length
            (Default.failureText m.behavior.message)) := by
  obtain ⟨d, -, hblueprint, hwarnings⟩ := exists_draft_of_analyze ha
  have hfunctions : file.implementation.functions =
      (SlotTable.ofBlueprint analysis.blueprint).functions.map (.ofSlot analysis.blueprint) := by
    rw [FakeFile.eq_build_of_generate hg]
    rfl
  constructor
  · have hslots := SlotTable.map_function_ofBlueprint analysis.blueprint
    have hsame : d.blueprint.functions = analysis.blueprint.functions := by rw [hblueprint]
    have hname : d.blueprint.qualifiedName = analysis.blueprint.qualifiedName := by
      rw [hblueprint]
      rfl
    rw [hwarnings, Draft.filter_warnings, hsame, hname, ← hslots, hfunctions, List.filter_map,
      List.filter_map, List.map_map, List.map_map]
    simp only [Function.comp_def, FunctionMember.isCutOff_ofSlot]
    rfl
  · intro m hm hcut
    rw [hfunctions] at hm
    obtain ⟨slot, hslot, rfl⟩ := List.mem_map.1 hm
    have herased := Blueprint.erasedNames_eq (by rw [hblueprint]; rfl)
      (SlotTable.function_mem_of_mem hslot)
    have hforwards : ¬ (functionInitial analysis.blueprint slot.function).forwards := by
      rw [Bool.not_eq_true, ← Bool.not_eq_true']
      exact (Bool.and_eq_true_iff.1 hcut).2
    have hiff := failsLoudly_functionInitial_iff hforwards
    rw [herased] at hiff
    exact ⟨hiff, fun hfails => hfails.write_eq _ _⟩

/-- An open function that compares two things of a bounded type. -/
def comparing (name : String) (result : TypeRef) : Function where
  name := name
  typeParams := [⟨"T", [.ofClass "kotlin.Comparable" [.ofParam "T" false] false], false⟩]
  parameters := [⟨"item", .ofParam "T" false, false, false⟩, ⟨"other", .ofParam "T" false, false, false⟩]
  result := result
  isSuspend := false
  isInline := false
  modality := .overridable
  origin := .declared

def pick : Function := comparing "pick" (.ofParam "T" false)

def rank : Function := comparing "rank" (.ofClass "kotlin.Int" [] false)

/-- An interface with a function that picks one of two things and one that ranks them. -/
def sorter : Subject :=
  ⟨"app", "Sorter", .interface, [], [.function pick, .function rank], ["Fake"], 0, none⟩

/-- There is a warning about each function, and the one whose type has no safe value fails. -/
theorem delegationWarnings_iff_sorter : ∃ analysis file, sorter.analyze = .ok analysis ∧
    FakeFile.generate ⟨true⟩ analysis.blueprint = .ok file ∧
    analysis.warnings.filter (fun w => w.code = .cannotDelegate) =
      [Draft.delegationWarning "app.Sorter" "pick", Draft.delegationWarning "app.Sorter" "rank"] ∧
    ∀ m ∈ file.implementation.functions, m.isCutOff →
      (m.behavior.initial.FailsLoudly m.function.parameters.length ↔
        m.function = pick.lower .implemented) := by
  have hanalysis : sorter.analyze = .ok _ := rfl
  obtain ⟨hwarnings, hfails⟩ := @delegationWarnings_iff sorter _ ⟨true⟩ _ hanalysis rfl
  refine ⟨_, _, hanalysis, rfl, hwarnings.trans (by decide +kernel), fun m hm hcut => ?_⟩
  rw [(hfails m hm hcut).1]
  have hfunction : m.function ∈ [pick.lower .implemented, rank.lower .implemented] :=
    List.mem_map_of_mem hm
  rw [List.mem_cons, List.mem_singleton] at hfunction
  obtain h | h := hfunction
  · rw [h]
    exact iff_of_true (.inr ⟨.function (by decide) (by decide) (by decide) (.param "T"), by decide⟩) rfl
  · rw [h]
    refine iff_of_false ?_ (by decide)
    rintro (hclass | ⟨hfails, -⟩)
    · cases hclass
    · have hresult : Ty.Fails _ (.primitive .int) := (Ty.fails_function_iff.1 hfails).2.2.2
      cases hresult

/-- The function that ranks is reported as failing, and returns zero. -/
theorem exists_not_failsLoudly : ∃ analysis file, sorter.analyze = .ok analysis ∧
    FakeFile.generate ⟨true⟩ analysis.blueprint = .ok file ∧
    Draft.delegationWarning "app.Sorter" "rank" ∈ analysis.warnings ∧
    ∃ m ∈ file.implementation.functions, m.function = rank.lower .implemented ∧ m.isCutOff ∧
      m.behavior.initial.write file.policy m.behavior.message = "{ _, _ -> 0 }" ∧
      ¬ m.behavior.initial.FailsLoudly m.function.parameters.length := by
  have hanalysis : sorter.analyze = .ok _ := rfl
  refine ⟨_, _, hanalysis, rfl, by decide +kernel, _, List.mem_cons_of_mem _ List.mem_cons_self, rfl,
    rfl, by decide +kernel, nofun⟩

end Subject

end KotlinFakes
