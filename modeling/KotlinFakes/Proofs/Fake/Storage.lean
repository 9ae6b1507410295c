import KotlinFakes.Fake.Implementation
import KotlinFakes.Proofs.Fake.Scope

/-!
# Stored behaviors

The behavior of a function is stored under its type without the function's own type parameters. The
override passes its arguments on to that type and its result back, and the configure method stores what
it is given. Each of them decides by itself whether to cast; this module shows that they agree.
-/

namespace KotlinFakes

namespace Blueprint

theorem Parameter.erase_valueType (p : Parameter) (names : List String) :
    p.valueType.erase names =
      if p.isVararg then (p.type.erase names).varargArray else p.type.erase names := by
  unfold valueType
  split
  · exact Ty.erase_varargArray p.type names
  · rfl

theorem Parameter.isMarkedOnce_valueType {p : Parameter} (h : p.type.isMarkedOnce) :
    p.valueType.isMarkedOnce := by
  unfold valueType
  split
  · exact Ty.isMarkedOnce_varargArray h
  · exact h

/-- Whether no nullability mark stands on another one in the types of a function. -/
def Function.IsMarkedOnce (f : Function) : Prop :=
  (∀ p ∈ f.parameters, p.type.isMarkedOnce) ∧ f.result.isMarkedOnce

theorem Function.erase_signatureType (f : Function) (names : List String) :
    f.signatureType.erase names =
      .function (f.parameters.map fun p => p.valueType.erase names) f.isSuspend
        (f.result.erase names) := by
  rw [signatureType, Ty.erase_function, valueTypes, List.map_map]
  rfl

theorem Function.erase_signatureType_eq_iff (f : Function) (names : List String) :
    f.signatureType.erase names = f.signatureType ↔
      (∀ p ∈ f.parameters, p.valueType.erase names = p.valueType) ∧
        f.result.erase names = f.result := by
  rw [erase_signatureType, signatureType, valueTypes, Ty.function.injEq, List.map_inj_left]
  simp

end Blueprint

namespace Subject

theorem isMarkedOnce_of_analyze {s : Subject} {analysis : Analysis} (h : s.analyze = .ok analysis)
    {f : Blueprint.Function} (hf : f ∈ analysis.blueprint.functions) : f.IsMarkedOnce := by
  obtain ⟨supertype, properties, -, -, hb⟩ := blueprint_of_analyze h
  rw [hb] at hf
  obtain ⟨⟨inherited, g⟩, -, rfl⟩ := List.mem_map.1 hf
  refine ⟨fun p hp => ?_, TypeRef.isMarkedOnce_toTy g.result⟩
  obtain ⟨q, -, rfl⟩ := List.mem_map.1 hp
  exact TypeRef.isMarkedOnce_toTy q.type

end Subject

namespace Fake

/-- Whether an argument passes a parameter on to its stored type: with a cast to that type if it is
    another one, else as it is. -/
inductive Argument.Passes (policy : NamePolicy) (stored : Ty → Ty) (p : Blueprint.Parameter)
    (a : Argument) : Prop where
  | cast (hne : stored p.valueType ≠ p.valueType) (hcast : a.cast = some (stored p.valueType))
      (htext : a.write policy = Identifier.quoted p.name ++ " as " ++ policy.write (stored p.valueType))
  | plain (heq : stored p.valueType = p.valueType) (hcast : a.cast = none)
      (htext : a.write policy = Identifier.quoted p.name)

/-- Whether an override and its configure method agree with the type that the behavior is stored
    under. -/
structure FunctionMember.Bridges (policy : NamePolicy) (stored : Ty → Ty) (m : FunctionMember) :
    Prop where
  type_eq : m.behavior.type = stored m.function.signatureType
  signature_eq : stored m.function.signatureType =
    .function (m.function.parameters.map fun p => stored p.valueType) m.function.isSuspend
      (stored m.function.result)
  vararg_eq : ∀ p ∈ m.function.parameters,
    stored p.valueType = if p.isVararg then (stored p.type).varargArray else stored p.type
  arguments : List.Forall₂ (Argument.Passes policy stored) m.function.parameters m.arguments
  resultCast_eq : m.resultCast =
    if stored m.function.result = m.function.result then none else some m.function.result
  lastLine_eq : m.lastLine policy =
    (if m.function.result.isUnit then "" else "return ") ++ m.call policy ++
      if stored m.function.result = m.function.result then ""
      else " as " ++ policy.write m.function.result
  configure_eq : m.configure.cast = if m.casts then some m.behavior.type else none

namespace FunctionMember

theorem cast_argument {p : Blueprint.Parameter} (h : p.type.isMarkedOnce) (names : List String) :
    (argument names p).cast =
      if p.valueType.erase names = p.valueType then none else some (p.valueType.erase names) := by
  have hiff := Ty.erase_eq_self_iff (Blueprint.Parameter.isMarkedOnce_valueType h) names
  unfold argument
  by_cases heq : p.valueType.erase names = p.valueType
  · rw [if_pos heq, if_neg (hiff.1 heq)]
  · rw [if_neg heq, if_pos (not_not.1 (mt hiff.2 heq))]

theorem passes_argument {p : Blueprint.Parameter} (h : p.type.isMarkedOnce) (policy : NamePolicy)
    (names : List String) :
    Argument.Passes policy (fun t => t.erase names) p (argument names p) := by
  by_cases heq : p.valueType.erase names = p.valueType
  · have hcast := cast_argument h names
    rw [if_pos heq] at hcast
    exact .plain heq hcast (by rw [Argument.write, hcast]; rfl)
  · have hcast := cast_argument h names
    rw [if_neg heq] at hcast
    exact .cast heq hcast (by rw [Argument.write, hcast]; rfl)

variable {b : Blueprint} {s : FunctionSlot}

theorem resultCast_ofSlot (h : s.function.IsMarkedOnce) :
    (ofSlot b s).resultCast =
      if s.function.result.erase (b.erasedNames s.function) = s.function.result then none
      else some s.function.result := by
  have hmentions := Ty.erase_eq_self_iff h.2 (b.erasedNames s.function)
  unfold ofSlot
  dsimp only
  by_cases hunit : s.function.result.isUnit
  · have heq : s.function.result = .primitive .unit := of_decide_eq_true hunit
    simp [heq, Ty.isUnit, Ty.unit, Ty.erase_primitive]
  · by_cases heq : s.function.result.erase (b.erasedNames s.function) = s.function.result
    · simp [heq, hmentions.1 heq]
    · simp [heq, hunit, not_not.1 (mt hmentions.2 heq)]

theorem casts_ofSlot (h : s.function.IsMarkedOnce) :
    (ofSlot b s).casts ↔ (ofSlot b s).behavior.type ≠ s.function.signatureType := by
  have hbehavior : (ofSlot b s).behavior.type =
      s.function.signatureType.erase (b.erasedNames s.function) := rfl
  have harguments : (ofSlot b s).arguments =
      s.function.parameters.map (argument (b.erasedNames s.function)) := rfl
  have hparameter : ∀ p ∈ s.function.parameters,
      ((argument (b.erasedNames s.function) p).cast.isSome ↔
        p.valueType.erase (b.erasedNames s.function) ≠ p.valueType) := fun p hp => by
    rw [cast_argument (h.1 p hp)]
    split <;> simp_all
  rw [hbehavior, Ne, Blueprint.Function.erase_signatureType_eq_iff, not_and_or, casts, Bool.or_eq_true,
    resultCast_ofSlot h, harguments, List.any_map, List.any_eq_true]
  refine or_congr ?_ ?_
  · simp only [Function.comp_apply, not_forall, exists_prop]
    exact exists_congr fun p => and_congr_right (hparameter p)
  · split <;> simp_all

/-- The cast decisions of a faked function agree with each other and with the stored type. -/
theorem bridges_ofSlot (h : s.function.IsMarkedOnce) (policy : NamePolicy) :
    (ofSlot b s).Bridges policy fun t => t.erase (b.erasedNames s.function) where
  type_eq := rfl
  signature_eq := s.function.erase_signatureType _
  vararg_eq p _ := p.erase_valueType _
  arguments := by
    change List.Forall₂ _ s.function.parameters (s.function.parameters.map (argument _))
    rw [List.forall₂_map_right_iff, List.forall₂_same]
    exact fun p hp => passes_argument (h.1 p hp) policy _
  resultCast_eq := resultCast_ofSlot h
  lastLine_eq := by
    have hfunction : (ofSlot b s).function = s.function := rfl
    rw [lastLine, resultCast_ofSlot h, hfunction]
    by_cases hunit : s.function.result.isUnit
    · have heq : s.function.result = .primitive .unit := of_decide_eq_true hunit
      rw [heq] at hunit
      simp [hunit, heq, Ty.erase_primitive]
    · by_cases heq : s.function.result.erase (b.erasedNames s.function) = s.function.result
      · simp [hunit, heq]
      · simp [hunit, heq, String.append_assoc]
  configure_eq := by
    have hcasts := casts_ofSlot (b := b) h
    change (if (ofSlot b s).behavior.type = s.function.signatureType then none
      else some (ofSlot b s).behavior.type) = _
    by_cases hcast : (ofSlot b s).casts
    · rw [if_neg (hcasts.1 hcast), if_pos hcast]
    · rw [if_pos (not_not.1 (mt hcasts.2 hcast)), if_neg hcast]

end FunctionMember

theorem map_function_ofBlueprint (b : Blueprint) :
    (Implementation.ofBlueprint b (.ofBlueprint b)).functions.map FunctionMember.function =
      b.functions := by
  change ((SlotTable.ofBlueprint b).functions.map (FunctionMember.ofSlot b)).map
    FunctionMember.function = b.functions
  rw [List.map_map]
  exact SlotTable.map_function_ofBlueprint b

end Fake

namespace Subject

open Fake

/-- Every function of an analysed subject has an override whose casts agree with the type that its
    behavior is stored under. -/
theorem bridges_of_analyze {s : Subject} {analysis : Analysis} (h : s.analyze = .ok analysis)
    (policy : NamePolicy) :
    (Implementation.ofBlueprint analysis.blueprint (.ofBlueprint analysis.blueprint)).functions.map
        FunctionMember.function = analysis.blueprint.functions ∧
      ∀ m ∈ (Implementation.ofBlueprint analysis.blueprint
          (.ofBlueprint analysis.blueprint)).functions,
        m.Bridges policy fun t => t.erase (analysis.blueprint.erasedNames m.function) := by
  have hfunctions := map_function_ofBlueprint analysis.blueprint
  refine ⟨hfunctions, fun m hm => ?_⟩
  have hmarked : m.function.IsMarkedOnce :=
    isMarkedOnce_of_analyze h (hfunctions ▸ List.mem_map_of_mem hm)
  obtain ⟨slot, -, rfl⟩ := List.mem_map.1 hm
  exact FunctionMember.bridges_ofSlot hmarked policy

/-- The generic function casts and the other one does not. -/
theorem bridges_of_analyze_collector : ∃ analysis, collector.analyze = .ok analysis ∧
    (Implementation.ofBlueprint analysis.blueprint (.ofBlueprint analysis.blueprint)).functions.map
        (fun m => (m.call .plain, m.lastLine .plain, m.configure.cast.isSome)) =
      [("collectBehavior(first as Any?, count, rest as Array<out Any?>)",
          "return collectBehavior(first as Any?, count, rest as Array<out Any?>) as List<T>",
          true),
        ("lastBehavior()", "return lastBehavior()", false)] ∧
      ∀ m ∈ (Implementation.ofBlueprint analysis.blueprint
          (.ofBlueprint analysis.blueprint)).functions,
        m.Bridges .plain fun t => t.erase (analysis.blueprint.erasedNames m.function) := by
  have hanalysis : collector.analyze = .ok _ := rfl
  exact ⟨_, hanalysis, by decide +kernel, (bridges_of_analyze hanalysis .plain).2⟩

end Subject

end KotlinFakes
