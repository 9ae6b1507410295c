import KotlinFakes.Ty.Substitution
import KotlinFakes.TypeRef

/-!
# Erased types

Erasing takes the given type parameters out of a type and nothing else. In the types that references
denote no nullability mark stands on another one, and such a type is changed by erasing if and only if
it mentions one of the parameters.
-/

namespace KotlinFakes

namespace Ty

theorem substituteAll_eq_map (replace : String → Option Ty) (ts : List Ty) :
    substituteAll replace ts = ts.map (substitute replace) := by
  induction ts with
  | nil => rw [substituteAll, List.map_nil]
  | cons t ts ih => rw [substituteAll, ih, List.map_cons]

theorem paramsAll_eq_flatMap (ts : List Ty) : paramsAll ts = ts.flatMap params := by
  induction ts with
  | nil => rw [paramsAll, List.flatMap_nil]
  | cons t ts ih => rw [paramsAll, ih, List.flatMap_cons]

@[simp] theorem params_orNull (t : Ty) : t.orNull.params = t.params := by
  cases t <;> simp [orNull, params]

@[simp] theorem params_out (t : Ty) : t.out.params = t.params := by
  simp [out, params, paramsAll]

theorem params_top : top.params = [] := by
  simp [top, params]

theorem params_varargArray (t : Ty) : t.varargArray.params = t.params := by
  have hgeneral : (Ty.apply ⟨"kotlin", "Array"⟩ [t.out]).params = t.params := by
    simp [params, paramsAll]
  cases t with
  | primitive p =>
      unfold varargArray
      dsimp only
      split
      · simp [params]
      · exact hgeneral
  | nullable | apply | function | param | named => exact hgeneral

theorem params_subset_of_projected? {t inner : Ty} (h : t.projected? = some inner) :
    inner.params ⊆ t.params := by
  unfold projected? at h
  split at h
  · next name args =>
      split at h
      · rw [params, paramsAll_eq_flatMap]
        exact fun name hname => List.mem_flatMap.2 ⟨inner, List.mem_of_head? h, hname⟩
      · cases h
  · cases h

theorem mentionsAny_iff {t : Ty} {names : List String} :
    t.mentionsAny names ↔ ∃ name ∈ t.params, name ∈ names := by
  simp [mentionsAny]

/-! ## Parameters of erased types -/

section Substitute

variable {replace : String → Option Ty}

mutual
theorem mem_params_substitute (h : ∀ name u, replace name = some u → u.params = []) {name : String} :
    ∀ t : Ty, name ∈ (t.substitute replace).params ↔ name ∈ t.params ∧ replace name = none
  | .primitive p => by simp [substitute, params]
  | .named n => by simp [substitute, params]
  | .param other => by
      rw [substitute, params, List.mem_singleton]
      cases hreplace : replace other with
      | none =>
          rw [Option.getD_none, params, List.mem_singleton]
          exact ⟨fun heq => ⟨heq, heq ▸ hreplace⟩, And.left⟩
      | some u =>
          rw [Option.getD_some, h other u hreplace]
          refine ⟨nofun, fun ⟨heq, hnone⟩ => ?_⟩
          rw [heq, hreplace] at hnone
          cases hnone
  | .nullable inner => by
      rw [substitute, params_orNull, params]
      exact mem_params_substitute h inner
  | .apply n args => by
      rw [substitute, params, params]
      exact mem_paramsAll_substituteAll h args
  | .function ps isSuspend result => by
      rw [substitute, params, params, List.mem_append, List.mem_append,
        mem_paramsAll_substituteAll h ps, mem_params_substitute h result, or_and_right]
theorem mem_paramsAll_substituteAll (h : ∀ name u, replace name = some u → u.params = [])
    {name : String} : ∀ ts : List Ty,
      name ∈ paramsAll (substituteAll replace ts) ↔ name ∈ paramsAll ts ∧ replace name = none
  | [] => by simp [substituteAll, paramsAll]
  | t :: ts => by
      rw [substituteAll, paramsAll, paramsAll, List.mem_append, List.mem_append,
        mem_params_substitute h t, mem_paramsAll_substituteAll h ts, or_and_right]
end

end Substitute

/-- An erased type mentions the parameters of the type that are not erased. -/
theorem mem_params_erase {t : Ty} {names : List String} {name : String} :
    name ∈ (t.erase names).params ↔ name ∈ t.params ∧ name ∉ names := by
  unfold erase
  split
  · next h => simp [List.isEmpty_iff.1 h]
  · rw [mem_params_substitute]
    · simp
    · intro other u hu
      split at hu
      · rw [← Option.some.inj hu, params_top]
      · cases hu

/-! ## Marks -/

mutual
/-- Whether no nullability mark in a type stands on another one. -/
def isMarkedOnce : Ty → Bool
  | .nullable inner => !inner.isNullable && inner.isMarkedOnce
  | .apply _ args => allMarkedOnce args
  | .function params _ result => allMarkedOnce params && result.isMarkedOnce
  | .primitive _ | .param _ | .named _ => true
def allMarkedOnce : List Ty → Bool
  | [] => true
  | t :: ts => t.isMarkedOnce && allMarkedOnce ts
end

theorem isMarkedOnce_orNull {t : Ty} (h : t.isMarkedOnce) : t.orNull.isMarkedOnce := by
  cases t with
  | nullable inner => exact h
  | primitive | apply | function | param | named =>
      rw [orNull, isMarkedOnce, h]
      · rfl
      · nofun

theorem isMarkedOnce_varargArray {t : Ty} (h : t.isMarkedOnce) : t.varargArray.isMarkedOnce := by
  have hgeneral : (Ty.apply ⟨"kotlin", "Array"⟩ [t.out]).isMarkedOnce := by
    simp [isMarkedOnce, allMarkedOnce, out, h]
  cases t with
  | primitive p =>
      unfold varargArray
      dsimp only
      split
      · rw [isMarkedOnce]
      · exact hgeneral
  | nullable | apply | function | param | named => exact hgeneral

theorem orNull_eq_nullable {t : Ty} (h : t.isNullable = false) : t.orNull = .nullable t := by
  cases t with
  | nullable => cases h
  | primitive | apply | function | param | named => rfl

mutual
theorem substitute_eq_self {replace : String → Option Ty} : ∀ {t : Ty}, t.isMarkedOnce →
    (∀ name ∈ t.params, replace name = none) → t.substitute replace = t
  | .primitive p, _, _ => by rw [substitute]
  | .named n, _, _ => by rw [substitute]
  | .param name, _, h => by
      rw [substitute, h name (by simp [params]), Option.getD_none]
  | .nullable inner, hmarked, h => by
      rw [isMarkedOnce, Bool.and_eq_true, Bool.not_eq_true'] at hmarked
      rw [params] at h
      rw [substitute, substitute_eq_self hmarked.2 h, orNull_eq_nullable hmarked.1]
  | .apply n args, hmarked, h => by
      rw [isMarkedOnce] at hmarked
      rw [params] at h
      rw [substitute, substituteAll_eq_self hmarked h]
  | .function ps isSuspend result, hmarked, h => by
      rw [isMarkedOnce, Bool.and_eq_true] at hmarked
      rw [params, List.forall_mem_append] at h
      rw [substitute, substituteAll_eq_self hmarked.1 h.1, substitute_eq_self hmarked.2 h.2]
theorem substituteAll_eq_self {replace : String → Option Ty} : ∀ {ts : List Ty}, allMarkedOnce ts →
    (∀ name ∈ paramsAll ts, replace name = none) → substituteAll replace ts = ts
  | [], _, _ => by rw [substituteAll]
  | t :: ts, hmarked, h => by
      rw [allMarkedOnce, Bool.and_eq_true] at hmarked
      rw [paramsAll, List.forall_mem_append] at h
      rw [substituteAll, substitute_eq_self hmarked.1 h.1, substituteAll_eq_self hmarked.2 h.2]
end

/-- Erasing changes a type if and only if it mentions what is erased. -/
theorem erase_eq_self_iff {t : Ty} (h : t.isMarkedOnce) (names : List String) :
    t.erase names = t ↔ ¬ t.mentionsAny names := by
  rw [mentionsAny_iff]
  constructor
  · rintro heq ⟨name, hname, hmem⟩
    rw [← heq, mem_params_erase] at hname
    exact hname.2 hmem
  · intro hnone
    unfold erase
    split
    · rfl
    · refine substitute_eq_self h fun name hname => if_neg ?_
      simpa using fun hmem => hnone ⟨name, hname, hmem⟩

theorem erase_apply (name : QualifiedName) (args : List Ty) (names : List String) :
    (Ty.apply name args).erase names = .apply name (args.map fun t => t.erase names) := by
  cases h : names.isEmpty <;> simp [erase, h, substitute, substituteAll_eq_map]

theorem erase_function (params : List Ty) (isSuspend : Bool) (result : Ty) (names : List String) :
    (Ty.function params isSuspend result).erase names =
      .function (params.map fun t => t.erase names) isSuspend (result.erase names) := by
  cases h : names.isEmpty <;> simp [erase, h, substitute, substituteAll_eq_map]

theorem erase_primitive (p : Primitive) (names : List String) :
    (Ty.primitive p).erase names = .primitive p := by
  unfold erase
  split
  · rfl
  · rw [substitute]

theorem erase_named (name : QualifiedName) (names : List String) :
    (Ty.named name).erase names = .named name := by
  unfold erase
  split
  · rfl
  · rw [substitute]

theorem varargArray_of_ne_primitive {t : Ty} (h : ∀ p, t ≠ .primitive p) :
    t.varargArray = .apply ⟨"kotlin", "Array"⟩ [t.out] := by
  cases t with
  | primitive p => exact absurd rfl (h p)
  | nullable | apply | function | param | named => rfl

theorem varargArray_cases (t : Ty) :
    (∃ p simple, t = .primitive p ∧ p.arrayClass? = some simple ∧
      t.varargArray = .named ⟨"kotlin", simple⟩) ∨
    t.varargArray = .apply ⟨"kotlin", "Array"⟩ [t.out] := by
  by_cases hprimitive : ∃ p, t = .primitive p
  · obtain ⟨p, rfl⟩ := hprimitive
    unfold varargArray
    dsimp only
    cases hclass : p.arrayClass? with
    | none => exact .inr rfl
    | some simple => exact .inl ⟨p, simple, rfl, hclass, rfl⟩
  · exact .inr (varargArray_of_ne_primitive (not_exists.1 hprimitive))

theorem varargArray_ne_self (t : Ty) : t.varargArray ≠ t := by
  intro h
  obtain ⟨p, simple, rfl, -, harray⟩ | harray := t.varargArray_cases
  · rw [h] at harray
    cases harray
  · -- A type has no room for itself.
    have hsize := congrArg sizeOf (harray.symm.trans h)
    simp only [out, apply.sizeOf_spec, List.cons.sizeOf_spec] at hsize
    omega

theorem varargArray_inj {s t : Ty} : s.varargArray = t.varargArray ↔ s = t := by
  refine ⟨fun h => ?_, congrArg varargArray⟩
  obtain ⟨p, simple, rfl, hp, hs⟩ | hs := s.varargArray_cases <;>
    obtain ⟨q, other, rfl, hq, ht⟩ | ht := t.varargArray_cases <;>
    rw [hs, ht] at h
  · obtain rfl : simple = other := by injection h with h; injection h
    have hclasses : ∀ p q : Primitive, p.arrayClass?.isSome →
        p.arrayClass? = q.arrayClass? → p = q := by
      intro p q
      cases p <;> cases q <;> decide
    rw [hclasses p q (by rw [hp]; rfl) (hp.trans hq.symm)]
  · cases h
  · cases h
  · injection h with _ hargs
    injection hargs with hout
    injection hout with _ hargs
    injection hargs

theorem orNull_ne_primitive (t : Ty) (p : Primitive) : t.orNull ≠ .primitive p := by
  cases t <;> nofun

theorem erase_ne_primitive {t : Ty} (h : ∀ p, t ≠ .primitive p) (names : List String)
    (p : Primitive) : t.erase names ≠ .primitive p := by
  unfold erase
  split
  · exact h p
  · cases t with
    | primitive q => exact absurd rfl (h q)
    | nullable inner =>
        rw [substitute]
        exact orNull_ne_primitive _ p
    | param name =>
        rw [substitute]
        split <;> nofun
    | apply | function | named =>
        rw [substitute]
        nofun

theorem erase_varargArray (t : Ty) (names : List String) :
    t.varargArray.erase names = (t.erase names).varargArray := by
  have hgeneral : (Ty.apply ⟨"kotlin", "Array"⟩ [t.out]).erase names =
      .apply ⟨"kotlin", "Array"⟩ [(t.erase names).out] := by
    simp [out, erase_apply]
  by_cases hprimitive : ∃ p, t = .primitive p
  · obtain ⟨p, rfl⟩ := hprimitive
    rw [erase_primitive] at hgeneral ⊢
    unfold varargArray
    dsimp only
    split
    · rw [erase_named]
    · exact hgeneral
  · have hne : ∀ p, t ≠ .primitive p := not_exists.1 hprimitive
    rw [varargArray_of_ne_primitive hne, hgeneral,
      varargArray_of_ne_primitive (erase_ne_primitive hne names)]

end Ty

namespace TypeRef

theorem isMarkedOnce_marked {t : Ty} (isNullable : Bool) (h : t.isMarkedOnce) :
    (marked isNullable t).isMarkedOnce := by
  cases isNullable with
  | false => exact h
  | true => exact Ty.isMarkedOnce_orNull h

theorem isMarkedOnce_classTy (fullName : String) : (classTy fullName).isMarkedOnce := by
  unfold classTy
  split <;> rw [Ty.isMarkedOnce]

mutual
theorem isMarkedOnce_toTy : ∀ r : TypeRef, r.toTy.isMarkedOnce
  | .ofClass fullName args isNullable => by
      have hargs := isMarkedOnce_toTys args
      rw [toTy]
      apply isMarkedOnce_marked
      split
      · exact isMarkedOnce_classTy fullName
      · next first rest heq => rwa [Ty.isMarkedOnce, ← heq]
  | .ofParam name isNullable => by
      rw [toTy]
      exact isMarkedOnce_marked _ (by rw [Ty.isMarkedOnce])
  | .ofFunction params result isSuspend isNullable => by
      rw [toTy]
      apply isMarkedOnce_marked
      rw [Ty.isMarkedOnce, isMarkedOnce_toTys params, isMarkedOnce_toTy result, Bool.and_self]
  | .star => by rw [toTy, Ty.star, Ty.isMarkedOnce]
  | .unresolved text => by rw [toTy, Ty.isMarkedOnce]
theorem isMarkedOnce_toTys : ∀ rs : List TypeRef, Ty.allMarkedOnce (toTys rs)
  | [] => by rw [toTys, Ty.allMarkedOnce]
  | r :: rs => by
      rw [toTys, Ty.allMarkedOnce, isMarkedOnce_toTy r, isMarkedOnce_toTys rs, Bool.and_self]
end

end TypeRef

end KotlinFakes
