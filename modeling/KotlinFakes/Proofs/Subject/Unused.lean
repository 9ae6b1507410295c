import KotlinFakes.Proofs.Ty.Erasure
import KotlinFakes.Subject.Analysis

/-!
# Type parameters without a use

A warning is due for each type parameter that nothing refers to. Inside a function that has a type
parameter of the same name, a name stands for the parameter of the function and not for that of the
declaration. The search for uses goes by names alone. That does no harm for the parameters of a
function, but a function can make a parameter of the declaration look used that is not, and then its
warning is missing. No warning is given that is not due.
-/

namespace KotlinFakes

/-! ## References -/

namespace Ty

/-- Whether a type refers to a type parameter, at any depth. -/
inductive RefersTo (name : String) : Ty → Prop where
  | param : RefersTo name (.param name)
  | nullable {inner : Ty} (h : RefersTo name inner) : RefersTo name (.nullable inner)
  | argument {cls : QualifiedName} {args : List Ty} {arg : Ty} (harg : arg ∈ args)
      (h : RefersTo name arg) : RefersTo name (.apply cls args)
  | input {params : List Ty} {isSuspend : Bool} {result p : Ty} (hp : p ∈ params)
      (h : RefersTo name p) : RefersTo name (.function params isSuspend result)
  | result {params : List Ty} {isSuspend : Bool} {result : Ty} (h : RefersTo name result) :
      RefersTo name (.function params isSuspend result)

mutual
theorem refersTo_iff_mem_params {name : String} : ∀ t : Ty, t.RefersTo name ↔ name ∈ t.params
  | .primitive p => by
      rw [params]
      exact ⟨nofun, nofun⟩
  | .named n => by
      rw [params]
      exact ⟨nofun, nofun⟩
  | .param other => by
      rw [params, List.mem_singleton]
      constructor
      · rintro ⟨⟩
        rfl
      · rintro rfl
        exact .param
  | .nullable inner => by
      rw [params, ← refersTo_iff_mem_params inner]
      constructor
      · rintro (_ | ⟨h⟩)
        exact h
      · exact .nullable
  | .apply n args => by
      rw [params, ← exists_refersTo_iff_mem_paramsAll args]
      constructor
      · rintro (_ | _ | ⟨harg, h⟩)
        exact ⟨_, harg, h⟩
      · rintro ⟨arg, harg, h⟩
        exact .argument harg h
  | .function ps isSuspend result => by
      rw [params, List.mem_append, ← exists_refersTo_iff_mem_paramsAll ps,
        ← refersTo_iff_mem_params result]
      constructor
      · rintro (_ | _ | _ | ⟨hp, h⟩ | ⟨h⟩)
        · exact .inl ⟨_, hp, h⟩
        · exact .inr h
      · rintro (⟨p, hp, h⟩ | h)
        · exact .input hp h
        · exact .result h
theorem exists_refersTo_iff_mem_paramsAll {name : String} :
    ∀ ts : List Ty, (∃ t ∈ ts, t.RefersTo name) ↔ name ∈ paramsAll ts
  | [] => by simp [paramsAll]
  | t :: ts => by
      rw [paramsAll, List.mem_append, ← refersTo_iff_mem_params t,
        ← exists_refersTo_iff_mem_paramsAll ts]
      simp only [List.mem_cons, exists_eq_or_imp]
end

instance (t : Ty) (name : String) : Decidable (t.RefersTo name) :=
  decidable_of_iff _ t.refersTo_iff_mem_params.symm

theorem mentions_iff_refersTo {t : Ty} {name : String} : t.mentions name ↔ t.RefersTo name := by
  rw [mentions, List.contains_iff_mem, refersTo_iff_mem_params]

end Ty

namespace Blueprint

/-- Who has declared a type parameter. -/
inductive Level where
  | declaration
  | function
  deriving Repr, DecidableEq

namespace Function

variable (f : Function) (name : String)

/-- Whose type parameter a name stands for inside a function. -/
def level : Level := if name ∈ f.typeParamNames then .function else .declaration

/-- Whether the type of a parameter or the result refers to a type parameter. -/
def InSignature : Prop := (∃ p ∈ f.parameters, p.type.RefersTo name) ∨ f.result.RefersTo name

/-- Whether a bound of one of the function's own type parameters refers to a type parameter. -/
def InBounds : Prop := ∃ p ∈ f.typeParams, ∃ bound ∈ p.bounds, bound.RefersTo name

instance : Decidable (f.InSignature name) := inferInstanceAs (Decidable (_ ∨ _))

instance : Decidable (f.InBounds name) := inferInstanceAs (Decidable (∃ p ∈ f.typeParams, _))

end Function

variable (b : Blueprint) (name : String)

/-- Whether anything refers to a type parameter of the declaration. The parameter's own bounds do not
    count. -/
inductive Uses : Prop where
  | signature {f : Function} (hf : f ∈ b.functions) (hlevel : f.level name = .declaration)
      (h : f.InSignature name)
  | functionBound {f : Function} (hf : f ∈ b.functions) (hlevel : f.level name = .declaration)
      (h : f.InBounds name)
  | property {p : Property} (hp : p ∈ b.properties) (h : p.type.RefersTo name)
  | bound {p : TypeParam} {bound : Ty} (hp : p ∈ b.typeParams) (hother : p.name ≠ name)
      (hbound : bound ∈ p.bounds) (h : bound.RefersTo name)

/-- Whether some function refers to a type parameter of its own that has the given name. -/
def IsHidden : Prop :=
  ∃ f ∈ b.functions, f.level name = .function ∧ (f.InSignature name ∨ f.InBounds name)

variable {b name}

theorem uses_iff : b.Uses name ↔
    (∃ f ∈ b.functions, f.level name = .declaration ∧ (f.InSignature name ∨ f.InBounds name)) ∨
      (∃ p ∈ b.properties, p.type.RefersTo name) ∨
      ∃ p ∈ b.typeParams, p.name ≠ name ∧ ∃ bound ∈ p.bounds, bound.RefersTo name := by
  constructor
  · intro h
    cases h with
    | signature hf hlevel h => exact .inl ⟨_, hf, hlevel, .inl h⟩
    | functionBound hf hlevel h => exact .inl ⟨_, hf, hlevel, .inr h⟩
    | property hp h => exact .inr (.inl ⟨_, hp, h⟩)
    | bound hp hother hbound h => exact .inr (.inr ⟨_, hp, hother, _, hbound, h⟩)
  · rintro (⟨f, hf, hlevel, h | h⟩ | ⟨p, hp, h⟩ | ⟨p, hp, hother, bound, hbound, h⟩)
    · exact .signature hf hlevel h
    · exact .functionBound hf hlevel h
    · exact .property hp h
    · exact .bound hp hother hbound h

instance : Decidable (b.Uses name) := decidable_of_iff _ uses_iff.symm

instance : Decidable (b.IsHidden name) := inferInstanceAs (Decidable (∃ f ∈ b.functions, _))

/-- The type parameters of the declaration that nothing refers to. -/
def unusedParams (b : Blueprint) : List TypeParam := b.typeParams.filter fun p => ¬ b.Uses p.name

end Blueprint

/-! ## What the search finds -/

namespace Draft

variable {b : Blueprint} {f : Blueprint.Function} {name : String}

theorem usesInSignature_iff : usesInSignature f name ↔ f.InSignature name := by
  simp only [usesInSignature, Bool.or_eq_true, List.any_eq_true, Ty.mentions_iff_refersTo]
  rfl

theorem usesInBounds_iff {params : List TypeParam} :
    usesInBounds params name ↔ ∃ p ∈ params, ∃ bound ∈ p.bounds, bound.RefersTo name := by
  simp only [usesInBounds, List.any_eq_true, Ty.mentions_iff_refersTo]

/-- The search finds the uses of a parameter of the declaration, and what only looks like one. -/
theorem uses_iff_or_isHidden : uses b name ↔ b.Uses name ∨ b.IsHidden name := by
  have hfunctions : (∃ f ∈ b.functions, f.InSignature name ∨ f.InBounds name) ↔
      (∃ f ∈ b.functions, f.level name = .declaration ∧ (f.InSignature name ∨ f.InBounds name)) ∨
        b.IsHidden name := by
    constructor
    · rintro ⟨f, hf, h⟩
      cases hlevel : f.level name with
      | declaration => exact .inl ⟨f, hf, hlevel, h⟩
      | function => exact .inr ⟨f, hf, hlevel, h⟩
    · rintro (⟨f, hf, -, h⟩ | ⟨f, hf, -, h⟩) <;> exact ⟨f, hf, h⟩
  have hbounds : usesInBounds (b.typeParams.filter fun p => p.name != name) name ↔
      ∃ p ∈ b.typeParams, p.name ≠ name ∧ ∃ bound ∈ p.bounds, bound.RefersTo name := by
    simp only [usesInBounds_iff, List.mem_filter, bne_iff_ne, and_assoc]
  have hfound : uses b name ↔ (∃ f ∈ b.functions, f.InSignature name ∨ f.InBounds name) ∨
      (∃ p ∈ b.properties, p.type.RefersTo name) ∨
      ∃ p ∈ b.typeParams, p.name ≠ name ∧ ∃ bound ∈ p.bounds, bound.RefersTo name := by
    rw [← hbounds]
    simp only [uses, Bool.or_eq_true, List.any_eq_true, usesInSignature_iff, usesInBounds_iff,
      Ty.mentions_iff_refersTo, or_assoc]
    rfl
  rw [hfound, hfunctions, Blueprint.uses_iff]
  exact or_right_comm

/-! ## Warnings -/

/-- The warning about a type parameter of a function. -/
def unusedInFunction (declaration : String) (f : Blueprint.Function) (p : TypeParam) : Diagnostic :=
  warn declaration .unusedTypeParam
    ("type parameter `" ++ p.name ++ "` of `" ++ f.name ++
      "` is not used by any parameter or the return type") []

/-- The warning about a type parameter of the declaration. -/
def unusedInDeclaration (declaration : String) (p : TypeParam) : Diagnostic :=
  warn declaration .unusedTypeParam
    ("type parameter `" ++ p.name ++ "` is not used by any member") []

/-- The warnings that are due about the type parameters of functions: those that the signature of their
    function does not refer to. -/
def dueAboutFunctions (b : Blueprint) : List Diagnostic :=
  b.functions.flatMap fun f =>
    (f.typeParams.filter fun p => ¬ f.InSignature p.name).map (unusedInFunction b.qualifiedName f)

/-- The warnings that are due about type parameters without a use. -/
def dueAboutUnused (d : Draft) : List Diagnostic :=
  dueAboutFunctions d.blueprint ++
    d.blueprint.unusedParams.map (unusedInDeclaration d.blueprint.qualifiedName)

theorem filter_unused_functionWarnings (declaration : String) (f : Blueprint.Function) :
    (functionWarnings declaration f).filter (fun w => w.code = .unusedTypeParam) =
      (f.typeParams.filter fun p => ¬ f.InSignature p.name).map (unusedInFunction declaration f) := by
  have hsearch (p : TypeParam) : (!usesInSignature f p.name) = decide (¬ f.InSignature p.name) := by
    rw [Bool.eq_iff_iff, Bool.not_eq_true', decide_eq_true_iff, ← usesInSignature_iff,
      Bool.not_eq_true]
  have hall : ∀ w ∈ (f.typeParams.filter fun p => ¬ f.InSignature p.name).map
      (unusedInFunction declaration f), w.code = .unusedTypeParam := by
    intro w hw
    obtain ⟨p, -, rfl⟩ := List.mem_map.1 hw
    rfl
  unfold functionWarnings
  simp only [hsearch]
  rw [List.filter_append]
  change List.filter _ (List.map (unusedInFunction declaration f) _) ++ _ = _
  rw [List.filter_eq_self.2 fun w hw => decide_eq_true (hall w hw)]
  split <;> simp [warn]

theorem declarationWarnings_eq (b : Blueprint) :
    declarationWarnings b =
      (b.unusedParams.filter fun p => ¬ b.IsHidden p.name).map
        (unusedInDeclaration b.qualifiedName) := by
  have hsearch (p : TypeParam) :
      (!uses b p.name) = (decide (¬ b.IsHidden p.name) && decide (¬ b.Uses p.name)) := by
    rw [← Bool.decide_and, Bool.eq_iff_iff, Bool.not_eq_true', decide_eq_true_iff, ← not_or, or_comm,
      ← uses_iff_or_isHidden, Bool.not_eq_true]
  unfold declarationWarnings
  rw [Blueprint.unusedParams, List.filter_filter]
  simp only [hsearch]
  rfl

/-- For every draft, the warnings about type parameters without a use are in order: one for each type
    parameter of a function that the signature of the function does not refer to, and then one for each
    type parameter of the declaration that nothing refers to, unless a function hides it where it seems to
    be used. They are the ones that are due if and only if no parameter without a use is hidden. -/
theorem unused_warnings_eq_due_iff (d : Draft) :
    d.warnings.filter (fun w => w.code = .unusedTypeParam) =
      dueAboutFunctions d.blueprint ++
        (d.blueprint.unusedParams.filter fun p => ¬ d.blueprint.IsHidden p.name).map
          (unusedInDeclaration d.blueprint.qualifiedName) ∧
    (d.warnings.filter (fun w => w.code = .unusedTypeParam) = d.dueAboutUnused ↔
      ∀ p ∈ d.blueprint.unusedParams, ¬ d.blueprint.IsHidden p.name) := by
  have hbounds : (d.unresolvedBounds.map (unresolvedBoundWarning d.blueprint.qualifiedName)).filter
      (fun w => w.code = .unusedTypeParam) = [] := by
    simp [List.filter_map, Function.comp_def, unresolvedBoundWarning, warn]
  have hfunctions : (d.blueprint.functions.flatMap
        (functionWarnings d.blueprint.qualifiedName)).filter (fun w => w.code = .unusedTypeParam) =
      dueAboutFunctions d.blueprint := by
    rw [List.filter_flatMap]
    simp only [filter_unused_functionWarnings]
    rfl
  have hdeclaration : (declarationWarnings d.blueprint).filter (fun w => w.code = .unusedTypeParam) =
      declarationWarnings d.blueprint := by
    rw [List.filter_eq_self]
    intro w hw
    obtain ⟨p, -, rfl⟩ := List.mem_map.1 hw
    rfl
  rw [warnings, List.filter_append, List.filter_append, hbounds, hfunctions, hdeclaration,
    List.nil_append, declarationWarnings_eq]
  refine ⟨rfl, ?_⟩
  rw [dueAboutUnused, List.append_cancel_left_eq]
  constructor
  · -- A warning that is missing is not made up for: there are too few.
    intro hsame p hp
    have hlength := congrArg List.length hsame
    rw [List.length_map, List.length_map] at hlength
    exact of_decide_eq_true (List.length_filter_eq_length_iff.1 hlength p hp)
  · intro hnone
    rw [List.filter_eq_self.2 fun p hp => decide_eq_true (hnone p hp)]

end Draft

namespace Subject

/-- A function that returns what it gets, for any type. -/
def wrap : Function where
  name := "wrap"
  typeParams := [⟨"T", [], false⟩]
  parameters := [⟨"value", .ofParam "T" false, false, false⟩]
  result := .ofParam "T" false
  isSuspend := false
  isInline := false
  modality := .abstract
  origin := .declared

/-- An interface with a type parameter, and a function with one of the same name. -/
def wrapper : Subject :=
  ⟨"app", "Wrapper", .interface, [⟨"T", [], false⟩], [.function wrap], ["Fake"], 0, none⟩

/-- Nothing refers to the type parameter of the interface, and there is no warning. -/
theorem exists_unused_unreported : ∃ d analysis, wrapper.draft = .ok d ∧ ¬ d.blueprint.Uses "T" ∧
    d.dueAboutUnused = [Draft.unusedInDeclaration "app.Wrapper" ⟨"T", [], false⟩] ∧
    wrapper.analyze = .ok analysis ∧ analysis.warnings = [] :=
  ⟨_, _, rfl, by decide +kernel, by decide +kernel, rfl, by decide +kernel⟩

end Subject

end KotlinFakes
