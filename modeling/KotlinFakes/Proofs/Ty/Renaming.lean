import KotlinFakes.Proofs.Ty.Erasure

/-!
# Renamed type parameters

Renaming the type parameters of a type changes nothing else in it. What a renaming does to a type depends
on the parameters that the type mentions only.
-/

namespace KotlinFakes.Ty

mutual
/-- The type with its type parameters renamed. -/
def rename (r : String → String) : Ty → Ty
  | .param name => .param (r name)
  | .nullable inner => .nullable (inner.rename r)
  | .apply name args => .apply name (renameAll r args)
  | .function params isSuspend result =>
    .function (renameAll r params) isSuspend (result.rename r)
  | .primitive p => .primitive p
  | .named name => .named name
def renameAll (r : String → String) : List Ty → List Ty
  | [] => []
  | t :: ts => t.rename r :: renameAll r ts
end

variable {r s : String → String}

mutual
theorem params_rename (r : String → String) : ∀ t : Ty, (t.rename r).params = t.params.map r
  | .primitive _ | .named _ | .param _ => by simp [rename, params]
  | .nullable inner => by rw [rename, params, params, params_rename r inner]
  | .apply _ args => by rw [rename, params, params, paramsAll_renameAll r args]
  | .function ps _ result => by
      rw [rename, params, params, paramsAll_renameAll r ps, params_rename r result, List.map_append]
theorem paramsAll_renameAll (r : String → String) :
    ∀ ts : List Ty, paramsAll (renameAll r ts) = (paramsAll ts).map r
  | [] => by rw [renameAll, paramsAll, List.map_nil]
  | t :: ts => by
      rw [renameAll, paramsAll, paramsAll, params_rename r t, paramsAll_renameAll r ts,
        List.map_append]
end

mutual
theorem rename_congr : ∀ {t : Ty}, (∀ name ∈ t.params, r name = s name) → t.rename r = t.rename s
  | .primitive _, _ | .named _, _ => by rw [rename, rename]
  | .param name, h => by rw [rename, rename, h name (by simp [params])]
  | .nullable inner, h => by
      rw [params] at h
      rw [rename, rename, rename_congr h]
  | .apply _ args, h => by
      rw [params] at h
      rw [rename, rename, renameAll_congr h]
  | .function ps _ result, h => by
      rw [params, List.forall_mem_append] at h
      rw [rename, rename, renameAll_congr h.1, rename_congr h.2]
theorem renameAll_congr :
    ∀ {ts : List Ty}, (∀ name ∈ paramsAll ts, r name = s name) → renameAll r ts = renameAll s ts
  | [], _ => by rw [renameAll, renameAll]
  | t :: ts, h => by
      rw [paramsAll, List.forall_mem_append] at h
      rw [renameAll, renameAll, rename_congr h.1, renameAll_congr h.2]
end

mutual
theorem rename_rename (r s : String → String) : ∀ t : Ty, (t.rename r).rename s = t.rename (s ∘ r)
  | .primitive _ | .named _ | .param _ => by simp [rename]
  | .nullable inner => by rw [rename, rename, rename, rename_rename r s inner]
  | .apply _ args => by rw [rename, rename, rename, renameAll_renameAll r s args]
  | .function ps _ result => by
      rw [rename, rename, rename, renameAll_renameAll r s ps, rename_rename r s result]
theorem renameAll_renameAll (r s : String → String) :
    ∀ ts : List Ty, renameAll s (renameAll r ts) = renameAll (s ∘ r) ts
  | [] => by rw [renameAll, renameAll, renameAll]
  | t :: ts => by
      rw [renameAll, renameAll, renameAll, rename_rename r s t, renameAll_renameAll r s ts]
end

mutual
theorem rename_eq_self : ∀ {t : Ty}, (∀ name ∈ t.params, r name = name) → t.rename r = t
  | .primitive _, _ | .named _, _ => by rw [rename]
  | .param name, h => by rw [rename, h name (by simp [params])]
  | .nullable inner, h => by
      rw [params] at h
      rw [rename, rename_eq_self h]
  | .apply _ args, h => by
      rw [params] at h
      rw [rename, renameAll_eq_self h]
  | .function ps _ result, h => by
      rw [params, List.forall_mem_append] at h
      rw [rename, renameAll_eq_self h.1, rename_eq_self h.2]
theorem renameAll_eq_self :
    ∀ {ts : List Ty}, (∀ name ∈ paramsAll ts, r name = name) → renameAll r ts = ts
  | [], _ => by rw [renameAll]
  | t :: ts, h => by
      rw [paramsAll, List.forall_mem_append] at h
      rw [renameAll, rename_eq_self h.1, renameAll_eq_self h.2]
end

end KotlinFakes.Ty
