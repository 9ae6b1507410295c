import KotlinFakes.Proofs.Callees.OfTy
import Mathlib.Logic.Relation

/-!
# Classes of default values

The expression of a default value builds values at several places of its type: payloads of results,
parts of tuples, results of functions. With what the functions of the standard library return, the value
at such a place is of the class that stands there or of a subclass. The exceptions are `ArrayList`,
`HashSet` and `HashMap`: they get a mutable list, set or map of no particular class.
-/

namespace KotlinFakes

/-! ## Classes -/

/-- The class of a value. -/
inductive ValueClass where
  /-- A class with a name. -/
  | named (full : String)
  /-- The functions of a number of arguments. -/
  | function (arity : Nat)
  deriving Repr, DecidableEq

namespace ValueClass

/-- The classes of containers with those they extend, as the standard library declares them. -/
def supertypes : List (String × String) := [
  ("kotlin.collections.Collection", "kotlin.collections.Iterable"),
  ("kotlin.collections.List", "kotlin.collections.Collection"),
  ("kotlin.collections.Set", "kotlin.collections.Collection"),
  ("kotlin.collections.MutableIterable", "kotlin.collections.Iterable"),
  ("kotlin.collections.MutableCollection", "kotlin.collections.Collection"),
  ("kotlin.collections.MutableCollection", "kotlin.collections.MutableIterable"),
  ("kotlin.collections.MutableList", "kotlin.collections.List"),
  ("kotlin.collections.MutableList", "kotlin.collections.MutableCollection"),
  ("kotlin.collections.MutableSet", "kotlin.collections.Set"),
  ("kotlin.collections.MutableSet", "kotlin.collections.MutableCollection"),
  ("kotlin.collections.MutableMap", "kotlin.collections.Map"),
  ("kotlin.collections.ArrayList", "kotlin.collections.MutableList"),
  ("kotlin.collections.HashSet", "kotlin.collections.MutableSet"),
  ("kotlin.collections.HashMap", "kotlin.collections.MutableMap")]

/-- Whether a class is declared to extend another one. -/
inductive Extends : ValueClass → ValueClass → Prop where
  | named {sub super : String} (h : (sub, super) ∈ supertypes) : Extends (.named sub) (.named super)

/-- Whether a class is another one or extends it, over any number of classes between them. -/
def IsSubclass : ValueClass → ValueClass → Prop := Relation.ReflTransGen Extends

/-- The classes that one class extends over at most the given number of steps. -/
def ancestors : Nat → String → List String
  | 0, full => [full]
  | steps + 1, full => full :: (supertypes.filter (·.1 = full)).flatMap (ancestors steps ·.2)

theorem isSubclass_of_mem_ancestors {steps : Nat} {sub super : String} (h : super ∈ ancestors steps sub) :
    IsSubclass (.named sub) (.named super) := by
  induction steps generalizing sub with
  | zero =>
      obtain rfl := List.mem_singleton.1 h
      exact .refl
  | succ steps ih =>
      rw [ancestors, List.mem_cons, List.mem_flatMap] at h
      obtain rfl | ⟨⟨full, next⟩, hnext, hsuper⟩ := h
      · exact .refl
      · obtain ⟨hmem, hfull⟩ := List.mem_filter.1 hnext
        obtain rfl := of_decide_eq_true hfull
        exact .head (.named hmem) (ih hsuper)

/-- The containers with an implementation of their own, which nothing else extends. -/
def concrete : List String :=
  ["kotlin.collections.ArrayList", "kotlin.collections.HashSet", "kotlin.collections.HashMap"]

theorem eq_of_isSubclass_concrete {c : ValueClass} {full : String} (hfull : full ∈ concrete)
    (h : IsSubclass c (.named full)) : c = .named full := by
  obtain rfl | ⟨d, -, hlast⟩ := Relation.ReflTransGen.cases_tail h
  · rfl
  · cases hlast with
    | named hmem =>
        have hleaf : ∀ entry ∈ supertypes, entry.2 ∉ concrete := by decide
        exact absurd hfull (hleaf _ hmem)

end ValueClass

namespace Factory

/-- The class that a factory is declared to return. -/
def returned : Factory → String
  | emptyList => "kotlin.collections.List"
  | mutableListOf => "kotlin.collections.MutableList"
  | emptySet => "kotlin.collections.Set"
  | mutableSetOf => "kotlin.collections.MutableSet"
  | emptyMap => "kotlin.collections.Map"
  | mutableMapOf => "kotlin.collections.MutableMap"
  | emptySequence => "kotlin.sequences.Sequence"
  | emptyArray => "kotlin.Array"
  | emptyFlow => "kotlinx.coroutines.flow.Flow"

end Factory

/-- The class of the values of a type. A type parameter has none, and neither has a nullable type, to
    which `null` belongs. -/
def Ty.valueClass? : Ty → Option ValueClass
  | .primitive p => some (.named ("kotlin." ++ p.name))
  | .apply name _ | .named name => some (.named name.full)
  | .function params _ _ => some (.function params.length)
  | .nullable _ | .param _ => none

namespace Default

/-- The class that a value is built with. -/
def valueClass? : Default → Option ValueClass
  | .zero p => p.zero?.map fun _ => .named ("kotlin." ++ p.name)
  | .emptyArray simple => some (.named ("kotlin." ++ simple))
  | .call factory _ => some (.named factory.returned)
  | .success _ _ => some (.named "kotlin.Result")
  | .tuple name _ => some (.named name.full)
  | .identity | .runBlock => some (.function 1)
  | .idle arity | .closure arity _ => some (.function arity)
  | .null | .failure => none

/-- Whether a value is of the class of a type or of a subclass. -/
inductive Conforms : Default → Ty → Prop where
  | null (inner : Ty) : Conforms .null (.nullable inner)
  | subclass {d : Default} {t : Ty} {c super : ValueClass} (hd : d.valueClass? = some c)
      (ht : t.valueClass? = some super) (h : c.IsSubclass super) : Conforms d t

/-- The places of a type at which an expression builds a value, each with the expression that builds
    it. -/
inductive BuildsAt : Ty → Default → Ty → Default → Prop where
  | whole (t : Ty) (d : Default) : BuildsAt t d t d
  | payload {first : Ty} {payload : Default} {place : Ty} {value : Default}
      (name other : QualifiedName) (rest : List Ty) (h : BuildsAt first payload place value) :
      BuildsAt (.apply name (first :: rest)) (.success other payload) place value
  | part {args : List Ty} {parts : List Default} {arg : Ty} {part : Default} {place : Ty}
      {value : Default} (name other : QualifiedName) (hpart : (arg, part) ∈ args.zip parts)
      (h : BuildsAt arg part place value) :
      BuildsAt (.apply name args) (.tuple other parts) place value
  | result {result : Ty} {body : Default} {place : Ty} {value : Default} (params : List Ty)
      (isSuspend : Bool) (arity : Nat) (h : BuildsAt result body place value) :
      BuildsAt (.function params isSuspend result) (.closure arity body) place value

end Default

/-- Whether a type is a container with an implementation of its own. -/
def Ty.IsConcrete (t : Ty) : Prop := ∃ full ∈ ValueClass.concrete, t.valueClass? = some (.named full)

/-! ## The classes of containers -/

open ValueClass

theorem Factory.isSubclass_returned_iff {full : String} {factory : Factory}
    (h : Factory.containers.lookup full = some factory) :
    IsSubclass (.named factory.returned) (.named full) ↔ full ∉ concrete := by
  have habstract : ∀ entry ∈ Factory.containers, entry.1 ∉ concrete →
      entry.1 ∈ ancestors 2 entry.2.returned := by decide +kernel
  have hreturned : ∀ entry ∈ Factory.containers, entry.2.returned ∉ concrete := by decide +kernel
  obtain ⟨before, after, heq, -⟩ := List.lookup_eq_some_iff.1 h
  have hmem : (full, factory) ∈ Factory.containers := by simp [heq]
  constructor
  · intro hsub hconcrete
    have hsame := ValueClass.named.inj (eq_of_isSubclass_concrete hconcrete hsub)
    exact hreturned _ hmem (hsame ▸ hconcrete)
  · intro hnone
    exact isSubclass_of_mem_ancestors (habstract _ hmem hnone)

namespace DefaultShape

variable {full : String} {factory : Factory}

theorem cases_of_ofName? {shape : DefaultShape} (h : ofName? full = some shape) :
    full = "kotlin.Result" ∧ shape = .result ∨
    (full = "kotlin.Pair" ∨ full = "kotlin.Triple") ∧ shape = .tuple ∨
    full = "kotlin.Array" ∧ shape = .array ∨
    full = "kotlinx.coroutines.flow.Flow" ∧ shape = .container .emptyFlow ∨
    ∃ factory, Factory.containers.lookup full = some factory ∧ shape = .container factory := by
  unfold ofName? at h
  split at h
  · next hfull => exact .inl ⟨hfull, (Option.some.inj h).symm⟩
  · split at h
    · next hfull => exact .inr (.inl ⟨by simpa using hfull, (Option.some.inj h).symm⟩)
    · split at h
      · next hfull => exact .inr (.inr (.inl ⟨hfull, (Option.some.inj h).symm⟩))
      · split at h
        · next hfull => exact .inr (.inr (.inr (.inl ⟨hfull, (Option.some.inj h).symm⟩)))
        · obtain ⟨factory, hlookup, hshape⟩ := Option.map_eq_some_iff.1 h
          exact .inr (.inr (.inr (.inr ⟨factory, hlookup, hshape.symm⟩)))

theorem isSubclass_returned_iff {shape : DefaultShape} (h : ofName? full = some shape)
    (hfactory : shape.factory? = some factory) :
    IsSubclass (.named factory.returned) (.named full) ↔ full ∉ concrete := by
  obtain ⟨-, rfl⟩ | ⟨-, rfl⟩ | ⟨rfl, rfl⟩ | ⟨rfl, rfl⟩ | ⟨_, hlookup, rfl⟩ := cases_of_ofName? h
  · cases hfactory
  · cases hfactory
  · cases hfactory
    exact iff_of_true .refl (by decide)
  · cases hfactory
    exact iff_of_true .refl (by decide)
  · cases hfactory
    exact Factory.isSubclass_returned_iff hlookup

theorem eq_of_result (h : ofName? full = some .result) : full = "kotlin.Result" := by
  obtain ⟨hfull, -⟩ | ⟨-, hshape⟩ | ⟨-, hshape⟩ | ⟨-, hshape⟩ | ⟨_, -, hshape⟩ := cases_of_ofName? h
  · exact hfull
  all_goals cases hshape

theorem not_mem_concrete_of_tuple (h : ofName? full = some .tuple) : full ∉ concrete := by
  obtain ⟨-, hshape⟩ | ⟨hfull, -⟩ | ⟨-, hshape⟩ | ⟨-, hshape⟩ | ⟨_, -, hshape⟩ := cases_of_ofName? h
  · cases hshape
  · obtain rfl | rfl := hfull <;> decide
  all_goals cases hshape

end DefaultShape

theorem QualifiedName.IsArrayClass.full_not_mem_concrete {name : QualifiedName} (h : name.IsArrayClass) :
    name.full = "kotlin." ++ name.simple ∧ name.full ∉ concrete := by
  obtain ⟨hpackage, -, harray⟩ := h
  have hfull : name.full = "kotlin." ++ name.simple := by
    rw [full, within, hpackage]
    rfl
  have hends : "Array".toList <:+ name.full.toList := by
    rw [hfull, String.toList_append]
    exact harray.trans (List.suffix_append _ _)
  have hconcrete : ∀ full ∈ concrete, ¬ "Array".toList <:+ full.toList := by decide +kernel
  exact ⟨hfull, fun hmem => hconcrete _ hmem hends⟩

/-! ## The classes of default values -/

namespace Default

variable {erased : List String}

theorem conforms_iff_of_eq {d : Default} {t : Ty} {c : ValueClass} (hd : d.valueClass? = some c)
    (ht : t.valueClass? = some c) (hc : ∀ full ∈ concrete, c ≠ .named full) :
    d.Conforms t ↔ ¬ t.IsConcrete := by
  refine iff_of_true (.subclass hd ht .refl) ?_
  rintro ⟨full, hfull, heq⟩
  exact hc full hfull (Option.some.inj (ht.symm.trans heq))

/-- A container conforms to a class unless that is a concrete one. -/
theorem conforms_call_iff {factory : Factory} {typeArgs : List Ty} {t : Ty} {full : String}
    (ht : t.valueClass? = some (.named full))
    (h : IsSubclass (.named factory.returned) (.named full) ↔ full ∉ concrete) :
    (Default.call factory typeArgs).Conforms t ↔ ¬ t.IsConcrete := by
  have hconforms : (Default.call factory typeArgs).Conforms t ↔
      IsSubclass (.named factory.returned) (.named full) := by
    constructor
    · intro hconforms
      cases hconforms with
      | subclass hd htype hsub =>
          cases hd
          cases ht.symm.trans htype
          exact hsub
    · exact fun hsub => .subclass rfl ht hsub
  have hconcrete : t.IsConcrete ↔ full ∈ concrete := by
    constructor
    · rintro ⟨other, hother, heq⟩
      cases ht.symm.trans heq
      exact hother
    · exact fun hmem => ⟨full, hmem, ht⟩
  rw [hconforms, h, hconcrete]

theorem conforms_ofName_iff {name : QualifiedName} (hsafe : (ofName name).isSafe) :
    (ofName name).Conforms (.named name) ↔ ¬ (Ty.named name).IsConcrete := by
  unfold ofName at hsafe ⊢
  split
  · next harray =>
      obtain ⟨hfull, hconcrete⟩ := (isArrayClass_iff.2 harray).full_not_mem_concrete
      refine conforms_iff_of_eq rfl (congrArg (some ∘ ValueClass.named) hfull) ?_
      rintro full hmem ⟨⟩
      exact hconcrete (hfull ▸ hmem)
  · next harray =>
      rw [if_neg harray] at hsafe
      split
      · next factory hlookup =>
          exact conforms_call_iff rfl (Factory.isSubclass_returned_iff hlookup)
      · next hlookup =>
          rw [hlookup] at hsafe
          cases hsafe

theorem conforms_function_iff {d : Default} {params : List Ty} {isSuspend : Bool} {result : Ty}
    (hd : d.valueClass? = some (.function params.length)) :
    d.Conforms (.function params isSuspend result) ↔
      ¬ (Ty.function params isSuspend result).IsConcrete :=
  conforms_iff_of_eq hd rfl nofun

theorem callFor_eq (erased : List String) (factory : Factory) (args : List Ty) :
    ∃ typeArgs, callFor erased factory args = .call factory typeArgs := by
  unfold callFor
  split
  · exact ⟨_, rfl⟩
  · exact ⟨[], rfl⟩

/-- At every place where a safe default builds a value, the value is of the class that stands there or
    of a subclass, unless that is one of the concrete containers. -/
theorem conforms_iff {t place : Ty} {value : Default} (hsafe : (ofTy erased t).isSafe)
    (h : BuildsAt t (ofTy erased t) place value) : value.Conforms place ↔ ¬ place.IsConcrete := by
  revert hsafe place value
  -- The places are those of the expression, so the cases are the ways in which one is made.
  refine ofTy_induction (motive := fun t d => ∀ {place : Ty} {value : Default}, d.isSafe →
      BuildsAt t d place value → (value.Conforms place ↔ ¬ place.IsConcrete))
    ?failure ?null ?zero ?named ?success ?tuple ?call ?identity ?runBlock ?idle ?closure t
  case failure => exact fun _ _ _ hsafe => absurd hsafe Bool.false_ne_true
  case null =>
    rintro inner _ _ - ⟨⟩
    exact iff_of_true (.null inner) (by rintro ⟨_, -, ⟨⟩⟩)
  case zero =>
    rintro p hzero _ _ - ⟨⟩
    obtain ⟨text, htext⟩ := Option.isSome_iff_exists.1 hzero
    refine conforms_iff_of_eq (by rw [valueClass?, htext]; rfl) rfl ?_
    cases p <;> decide
  case named =>
    rintro name _ _ hsafe ⟨⟩
    exact conforms_ofName_iff hsafe
  case success =>
    intro name first rest hshape hfirst ih _ _ _ h
    cases h with
    | whole =>
        refine conforms_iff_of_eq rfl ?_ (by decide)
        exact congrArg (some ∘ ValueClass.named) (DefaultShape.eq_of_result hshape)
    | payload _ _ _ h => exact ih hfirst h
  case tuple =>
    intro name args hshape hall ih _ _ _ h
    cases h with
    | whole =>
        refine conforms_iff_of_eq rfl rfl ?_
        rintro full hmem ⟨⟩
        exact DefaultShape.not_mem_concrete_of_tuple hshape hmem
    | part _ _ hpart h =>
        rw [ofTys_eq_map] at hall hpart
        rw [← List.map_prod_left_eq_zip, List.mem_map] at hpart
        obtain ⟨arg, harg, hpair⟩ := hpart
        obtain ⟨rfl, rfl⟩ := Prod.mk.inj hpair
        exact ih arg harg (allSafe_iff.1 hall _ (List.mem_map_of_mem harg)) h
  case call =>
    intro name shape factory args hshape hfactory _ _ _ h
    obtain ⟨typeArgs, hcall⟩ := callFor_eq erased factory args
    rw [hcall] at h
    cases h
    exact conforms_call_iff rfl (DefaultShape.isSubclass_returned_iff hshape hfactory)
  case identity =>
    rintro params isSuspend result rfl _ _ - ⟨⟩
    exact conforms_function_iff rfl
  case runBlock =>
    rintro params isSuspend result hrun _ _ - ⟨⟩
    refine conforms_function_iff ?_
    unfold runsBlock at hrun
    split at hrun
    · rfl
    · cases hrun
  case idle =>
    rintro params isSuspend result _ _ - ⟨⟩
    exact conforms_function_iff rfl
  case closure =>
    intro params isSuspend result ih _ _ hsafe h
    cases h with
    | whole => exact conforms_function_iff rfl
    | result _ _ _ h => exact ih hsafe h

/-- A container class applied to one argument. -/
def container (simple : String) (arg : Ty) : Ty := .apply ⟨"kotlin.collections", simple⟩ [arg]

/-- The type `Pair<MutableCollection<String>, () -> HashSet<Int>>`. -/
def shelf : Ty := .apply ⟨"kotlin", "Pair"⟩ [container "MutableCollection" (.primitive .string),
  .function [] false (container "HashSet" (.primitive .int))]

/-- The first part is a collection, and what the second one returns is no hash set. -/
theorem conforms_iff_shelf :
    (ofTy [] shelf).isSafe ∧
    BuildsAt shelf (ofTy [] shelf) (container "MutableCollection" (.primitive .string))
      (.call .mutableListOf []) ∧
    (Default.call .mutableListOf []).Conforms (container "MutableCollection" (.primitive .string)) ∧
    BuildsAt shelf (ofTy [] shelf) (container "HashSet" (.primitive .int)) (.call .mutableSetOf []) ∧
    ¬ (Default.call .mutableSetOf []).Conforms (container "HashSet" (.primitive .int)) := by
  have hsafe : (ofTy [] shelf).isSafe := by decide
  have hfirst : BuildsAt shelf (ofTy [] shelf) (container "MutableCollection" (.primitive .string))
      (.call .mutableListOf []) :=
    .part _ _ List.mem_cons_self (.whole _ _)
  have hsecond : BuildsAt shelf (ofTy [] shelf) (container "HashSet" (.primitive .int))
      (.call .mutableSetOf []) :=
    .part _ _ (List.mem_cons_of_mem _ List.mem_cons_self) (.result _ _ _ (.whole _ _))
  refine ⟨hsafe, hfirst, (conforms_iff hsafe hfirst).2 ?_, hsecond, fun h => ?_⟩
  · rintro ⟨full, hfull, ⟨⟩⟩
    revert hfull
    decide
  · exact (conforms_iff hsafe hsecond).1 h ⟨_, by decide, rfl⟩

/-- The default of an `ArrayList` is safe, and is a mutable list that need not be one. -/
theorem exists_not_conforms : ∃ t place value, (ofTy [] t).isSafe ∧
    (ofTy [] t).write .plain "no value" = "mutableListOf()" ∧
    BuildsAt t (ofTy [] t) place value ∧ ¬ value.Conforms place := by
  refine ⟨container "ArrayList" (.primitive .string), _, _, by decide, by decide, .whole _ _, ?_⟩
  intro h
  cases h with
  | subclass hd ht hsub =>
      cases hd
      cases ht
      have hsame := ValueClass.named.inj (eq_of_isSubclass_concrete (by decide) hsub)
      exact absurd hsame (by decide)

end Default

end KotlinFakes
