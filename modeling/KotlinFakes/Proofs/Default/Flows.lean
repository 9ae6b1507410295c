import KotlinFakes.Proofs.Callees.OfTy

/-!
# Flows in default values

The one factory that a file imports is that of flows. The imports of a type are collected on the way
through it, while it may still turn out that the type has no safe value; then the flows that were met so
far are not built. So a type without a safe value can ask for an import that its default does not use.
-/

namespace KotlinFakes

namespace Ty

/-- Whether a flow is met in a type before it is known that the type has no safe value. -/
inductive MeetsFlow (erased : List String) : Ty → Prop where
  | flow {name : QualifiedName} (args : List Ty)
      (h : DefaultShape.ofName? name.full = some (.container .emptyFlow)) :
      MeetsFlow erased (.apply name args)
  | payload {name : QualifiedName} {first : Ty} (rest : List Ty)
      (h : DefaultShape.ofName? name.full = some .result) (hfirst : MeetsFlow erased first) :
      MeetsFlow erased (.apply name (first :: rest))
  | part {name : QualifiedName} {before after : List Ty} {part : Ty}
      (h : DefaultShape.ofName? name.full = some .tuple) (hbefore : ∀ t ∈ before, ¬ t.Fails erased)
      (hpart : MeetsFlow erased part) : MeetsFlow erased (.apply name (before ++ part :: after))
  | function {params : List Ty} {isSuspend : Bool} {result : Ty} (hidentity : params ≠ [result])
      (hrun : ¬ Default.runsBlock erased params isSuspend result) (hunit : ¬ result.isUnit)
      (hresult : MeetsFlow erased result) : MeetsFlow erased (.function params isSuspend result)

section Shapes

variable {erased : List String} {name : QualifiedName} {args : List Ty}

theorem meetsFlow_payload_iff (h : DefaultShape.ofName? name.full = some .result) :
    MeetsFlow erased (.apply name args) ↔
      ∃ first rest, args = first :: rest ∧ MeetsFlow erased first := by
  constructor
  · intro hmeets
    cases hmeets with
    | payload rest _ hfirst => exact ⟨_, rest, rfl, hfirst⟩
    | flow _ h' | part h' => rw [h] at h'; cases h'
  · rintro ⟨first, rest, rfl, hfirst⟩
    exact .payload rest h hfirst

theorem meetsFlow_tuple_iff (h : DefaultShape.ofName? name.full = some .tuple) :
    MeetsFlow erased (.apply name args) ↔ ∃ before part after, args = before ++ part :: after ∧
      (∀ t ∈ before, ¬ t.Fails erased) ∧ MeetsFlow erased part := by
  constructor
  · intro hmeets
    cases hmeets with
    | part _ hbefore hpart => exact ⟨_, _, _, rfl, hbefore, hpart⟩
    | flow _ h' | payload _ h' => rw [h] at h'; cases h'
  · rintro ⟨before, part, after, rfl, hbefore, hpart⟩
    exact .part h hbefore hpart

theorem meetsFlow_container_iff {factory : Factory}
    (h : DefaultShape.ofName? name.full = some (.container factory)) :
    MeetsFlow erased (.apply name args) ↔ factory = .emptyFlow := by
  constructor
  · intro hmeets
    cases hmeets with
    | flow _ h' => rw [h] at h'; cases h'; rfl
    | payload _ h' | part h' => rw [h] at h'; cases h'
  · rintro rfl
    exact .flow args h

theorem not_meetsFlow_apply (h : DefaultShape.ofName? name.full = none ∨
    DefaultShape.ofName? name.full = some .array) : ¬ MeetsFlow erased (.apply name args) := by
  intro hmeets
  cases hmeets with
  | flow _ h' | payload _ h' | part h' => rw [h'] at h; simp at h

theorem meetsFlow_function_iff {params : List Ty} {isSuspend : Bool} {result : Ty} :
    MeetsFlow erased (.function params isSuspend result) ↔ params ≠ [result] ∧
      ¬ Default.runsBlock erased params isSuspend result ∧ ¬ result.isUnit ∧
        MeetsFlow erased result := by
  constructor
  · intro hmeets
    cases hmeets with
    | function hidentity hrun hunit h => exact ⟨hidentity, hrun, hunit, h⟩
  · rintro ⟨hidentity, hrun, hunit, h⟩
    exact .function hidentity hrun hunit h

end Shapes

variable {erased : List String}

theorem meetsFlow_tuple_iff_of_not_fails {name : QualifiedName} {args : List Ty}
    (h : DefaultShape.ofName? name.full = some .tuple) (hsafe : ∀ t ∈ args, ¬ t.Fails erased) :
    MeetsFlow erased (.apply name args) ↔ ∃ part ∈ args, MeetsFlow erased part := by
  rw [meetsFlow_tuple_iff h]
  constructor
  · rintro ⟨before, part, after, rfl, -, hpart⟩
    exact ⟨part, by simp, hpart⟩
  · rintro ⟨part, hmem, hpart⟩
    obtain ⟨before, after, rfl⟩ := List.append_of_mem hmem
    exact ⟨before, part, after, rfl, fun t ht => hsafe t (List.mem_append_left _ ht), hpart⟩

mutual
/-- A flow is built for a type if one is met and the type has a safe value. -/
theorem builds_emptyFlow_iff : ∀ t : Ty,
    t.Builds erased .emptyFlow ↔ t.MeetsFlow erased ∧ ¬ t.Fails erased
  | .primitive p => iff_of_false (not_builds_primitive p) nofun
  | .nullable _ => iff_of_false nofun nofun
  | .param _ => iff_of_false nofun nofun
  | .named name => by
      refine iff_of_false (fun hbuilds => ?_) nofun
      have hother : ∀ entry ∈ Factory.containers, entry.2 ≠ .emptyFlow := by decide
      obtain ⟨-, hlookup⟩ := builds_named_iff.1 hbuilds
      obtain ⟨before, after, heq, -⟩ := List.lookup_eq_some_iff.1 hlookup
      exact hother (name.full, .emptyFlow) (by simp [heq]) rfl
  | .apply name args => by
      have hargs := builds_emptyFlow_iff_all args
      cases h : DefaultShape.ofName? name.full with
      | none => simp [not_builds_of_shape_none h, not_meetsFlow_apply (.inl h)]
      | some shape =>
          cases shape with
          | result =>
              cases args with
              | nil => simp [not_builds_noPayload h, meetsFlow_payload_iff h]
              | cons first rest =>
                  rw [builds_payload_iff h, meetsFlow_payload_iff h, fails_payload_iff h,
                    hargs first List.mem_cons_self]
                  simp
          | tuple =>
              rw [builds_tuple_iff h, fails_tuple_iff h]
              constructor
              · rintro ⟨hsafe, part, hmem, hbuilds⟩
                have hmeets := ((hargs part hmem).1 hbuilds).1
                exact ⟨(meetsFlow_tuple_iff_of_not_fails h hsafe).2 ⟨part, hmem, hmeets⟩,
                  fun ⟨t, ht, hfails⟩ => hsafe t ht hfails⟩
              · rintro ⟨hmeets, hnone⟩
                have hsafe (t : Ty) (ht : t ∈ args) : ¬ t.Fails erased := fun hfails =>
                  hnone ⟨t, ht, hfails⟩
                obtain ⟨part, hmem, hpart⟩ := (meetsFlow_tuple_iff_of_not_fails h hsafe).1 hmeets
                exact ⟨hsafe, part, hmem, (hargs part hmem).2 ⟨hpart, hsafe part hmem⟩⟩
          | array => simp [builds_array_iff h, not_meetsFlow_apply (.inr h)]
          | container factory =>
              simp [builds_container_iff h, meetsFlow_container_iff h, not_fails_container h, eq_comm]
  | .function params isSuspend result => by
      rw [builds_function_iff, meetsFlow_function_iff, fails_function_iff,
        builds_emptyFlow_iff result]
      constructor
      · rintro ⟨hidentity, hrun, hunit, hmeets, hsafe⟩
        exact ⟨⟨hidentity, hrun, hunit, hmeets⟩, fun hfails => hsafe hfails.2.2.2⟩
      · rintro ⟨⟨hidentity, hrun, hunit, hmeets⟩, hsafe⟩
        exact ⟨hidentity, hrun, hunit, hmeets, fun h => hsafe ⟨hidentity, hrun, hunit, h⟩⟩
theorem builds_emptyFlow_iff_all : ∀ ts : List Ty, ∀ t ∈ ts,
    (t.Builds erased .emptyFlow ↔ t.MeetsFlow erased ∧ ¬ t.Fails erased)
  | [] => by simp
  | t :: ts => List.forall_mem_cons.2 ⟨builds_emptyFlow_iff t, builds_emptyFlow_iff_all ts⟩
end

end Ty

namespace Default

variable {erased : List String}

theorem isSafe_ofTy_iff {t : Ty} : (ofTy erased t).isSafe ↔ ¬ t.Fails erased := by
  obtain ⟨hfails, -, hunsafe, -⟩ | ⟨hsafe, hmark, -, -⟩ := fits_ofTy erased t
  · simp [hfails, hunsafe]
  · simp [hsafe, hmark]

/-- The imports of a list of types are those of the types up to the first without a safe value. -/
theorem mem_importsWhileSafe_iff {ts : List Ty} {name : QualifiedName} :
    name ∈ importsWhileSafe erased ts ↔ ∃ before t after, ts = before ++ t :: after ∧
      (∀ s ∈ before, ¬ s.Fails erased) ∧ name ∈ importsOf erased t := by
  induction ts with
  | nil => simp [importsWhileSafe]
  | cons t ts ih =>
      rw [importsWhileSafe, List.mem_append]
      constructor
      · rintro (hname | hname)
        · exact ⟨[], t, ts, rfl, nofun, hname⟩
        · split at hname
          · next hsafe =>
              obtain ⟨before, other, after, rfl, hbefore, hname⟩ := ih.1 hname
              exact ⟨t :: before, other, after, rfl,
                List.forall_mem_cons.2 ⟨isSafe_ofTy_iff.1 hsafe, hbefore⟩, hname⟩
          · cases hname
      · rintro ⟨before, other, after, heq, hbefore, hname⟩
        cases before with
        | nil =>
            obtain ⟨rfl, -⟩ := List.cons.inj heq
            exact .inl hname
        | cons first before =>
            obtain ⟨rfl, rfl⟩ := List.cons.inj heq
            obtain ⟨hfirst, hrest⟩ := List.forall_mem_cons.1 hbefore
            rw [if_pos (isSafe_ofTy_iff.2 hfirst)]
            exact .inr (ih.2 ⟨before, other, after, rfl, hrest, hname⟩)

mutual
theorem mem_importsOf_iff {name : QualifiedName} : ∀ t : Ty,
    name ∈ importsOf erased t ↔ name = Factory.flowImport ∧ t.MeetsFlow erased
  | .primitive _ | .nullable _ | .param _ | .named _ =>
      iff_of_false (by simp [importsOf]) nofun
  | .apply cls args => by
      have hargs : ∀ t ∈ args, (name ∈ importsOf erased t ↔ _) := mem_importsOf_iff_all args
      rw [importsOf]
      split
      · next h =>
          rw [Ty.meetsFlow_payload_iff h]
          cases args with
          | nil => simp [importsOfFirst]
          | cons first rest => simp [importsOfFirst, hargs first List.mem_cons_self]
      · next h =>
          rw [Ty.meetsFlow_tuple_iff h, mem_importsWhileSafe_iff]
          constructor
          · rintro ⟨before, part, after, rfl, hbefore, hname⟩
            obtain ⟨rfl, hpart⟩ := (hargs part (by simp)).1 hname
            exact ⟨rfl, before, part, after, rfl, hbefore, hpart⟩
          · rintro ⟨rfl, before, part, after, rfl, hbefore, hpart⟩
            exact ⟨before, part, after, rfl, hbefore, (hargs part (by simp)).2 ⟨rfl, hpart⟩⟩
      · next h => simp [Ty.meetsFlow_container_iff h]
      · next hresult htuple hflow =>
          refine iff_of_false nofun fun ⟨_, hmeets⟩ => ?_
          cases hmeets with
          | flow _ h => exact hflow h
          | payload _ h => exact hresult h
          | part h => exact htuple h
  | .function params isSuspend result => by
      rw [importsOf, Ty.meetsFlow_function_iff]
      split
      · next h => simp [h]
      · next hidentity =>
          split
          · next h => simp [h]
          · next hrun =>
              split
              · next h => simp [h]
              · next hunit => simp [hidentity, hrun, hunit, mem_importsOf_iff result]
theorem mem_importsOf_iff_all {name : QualifiedName} : ∀ ts : List Ty, ∀ t ∈ ts,
    (name ∈ importsOf erased t ↔ name = Factory.flowImport ∧ t.MeetsFlow erased)
  | [] => by simp
  | t :: ts => List.forall_mem_cons.2 ⟨mem_importsOf_iff t, mem_importsOf_iff_all ts⟩
end

theorem emptyFlow_mem_callees_iff {t : Ty} : .container .emptyFlow ∈ (ofTy erased t).callees ↔
    t.MeetsFlow erased ∧ ¬ t.Fails erased := by
  rw [container_mem_callees_ofTy, Ty.builds_emptyFlow_iff]

end Default

end KotlinFakes
