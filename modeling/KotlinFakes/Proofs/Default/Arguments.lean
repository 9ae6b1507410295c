import KotlinFakes.Proofs.Default.Conformance
import KotlinFakes.Proofs.Fake.Scope

/-!
# Type arguments of default values

The call of a factory is written with type arguments where one of them mentions an erased parameter. A
call takes no projection there. The default takes `out` off an argument, but leaves `*` as it is, so a
projection is written just where `*` stands beside an erased parameter.
-/

namespace KotlinFakes

/-! ## Projections -/

namespace Ty

/-- Whether a type argument is a projection: `*`, or `out` with a type. -/
def isProjection (t : Ty) : Bool := t = star || t.projected?.isSome

theorem isProjection_apply (name : QualifiedName) (args : List Ty) :
    (apply name args).isProjection = (decide (name = outName) && !args.isEmpty) := by
  rw [isProjection, decide_eq_false (by rw [star]; nofun), Bool.false_or, projected?]
  by_cases h : name = outName <;> cases args <;> simp [h]

theorem isProjection_erase (t : Ty) (names : List String) :
    (t.erase names).isProjection = t.isProjection := by
  cases t with
  | primitive p => rw [erase_primitive]
  | named name => rw [erase_named]
  | apply name args =>
      rw [erase_apply, isProjection_apply, isProjection_apply, List.isEmpty_map]
  | function params isSuspend result => rw [erase_function]; rfl
  | param name =>
      unfold erase
      split
      · rfl
      · rw [substitute]
        split <;> rfl
  | nullable inner =>
      unfold erase
      split
      · rfl
      · rw [substitute]
        cases inner.substitute _ <;> rfl

theorem isProjection_unprojected_iff {t : Ty} : (t.projected?.getD t).isProjection ↔
    t = star ∨ ∃ inner, t.projected? = some inner ∧ inner.isProjection := by
  cases h : t.projected? with
  | none => simp [isProjection, h]
  | some inner =>
      have hstar : t ≠ star := by
        rintro rfl
        cases h
      simp [hstar]

theorem write_of_isProjection (policy : NamePolicy) {t : Ty} (h : t.isProjection) :
    policy.write t = "*" ∨ ∃ inner, policy.write t = "out " ++ policy.write inner := by
  rw [isProjection, Bool.or_eq_true, decide_eq_true_eq] at h
  obtain rfl | h := h
  · left
    rfl
  · right
    unfold projected? at h
    split at h
    · next name args =>
        split at h
        · next hname =>
            cases args with
            | nil => cases h
            | cons inner rest =>
                refine ⟨inner, ?_⟩
                rw [NamePolicy.write, NamePolicy.writeAll]
                exact if_pos hname
        · cases h
    · cases h

end Ty

namespace Default

/-! ## Calls at their places -/

section Places

variable {erased : List String} {t place : Ty} {d value : Default}

theorem writeAll_eq_map (policy : NamePolicy) (message : String) (ds : List Default) :
    writeAll policy message ds = ds.map (write policy message) := by
  induction ds with
  | nil => rw [writeAll, List.map_nil]
  | cons d ds ih => rw [writeAll, ih, List.map_cons]

theorem BuildsAt.infix_write (policy : NamePolicy) (message : String) (h : BuildsAt t d place value) :
    (value.write policy message).toList <:+: (d.write policy message).toList := by
  induction h with
  | whole => exact List.infix_refl _
  | payload _ _ _ _ ih =>
      rw [write]
      exact ih.trans (infix_append _ _ _)
  | part _ _ hpart _ ih =>
      rw [write, writeAll_eq_map]
      have hmem := List.mem_map_of_mem (f := write policy message) (List.of_mem_zip hpart).2
      exact (ih.trans (infix_joinWith hmem)).trans (infix_append _ _ _)
  | result _ _ _ _ ih =>
      rw [write]
      exact ih.trans (infix_closureText _ _)

theorem BuildsAt.typeArgs_subset (h : BuildsAt t d place value) : value.typeArgs ⊆ d.typeArgs := by
  induction h with
  | whole => exact List.Subset.refl _
  | payload _ _ _ _ ih => rwa [typeArgs]
  | part _ _ hpart _ ih =>
      rw [typeArgs]
      exact fun arg harg => mem_allTypeArgs.2 ⟨_, (List.of_mem_zip hpart).2, ih harg⟩
  | result _ _ _ _ ih => rwa [typeArgs]

end Places

section OfTy

variable {erased : List String} {t place : Ty} {value : Default}

theorem mem_zip_ofTys {args : List Ty} {arg : Ty} {part : Default} :
    (arg, part) ∈ args.zip (ofTys erased args) ↔ arg ∈ args ∧ part = ofTy erased arg := by
  rw [ofTys_eq_map, ← List.map_prod_left_eq_zip, List.mem_map]
  constructor
  · rintro ⟨other, hother, hpair⟩
    obtain ⟨rfl, rfl⟩ := Prod.mk.inj hpair
    exact ⟨hother, rfl⟩
  · rintro ⟨harg, rfl⟩
    exact ⟨arg, harg, rfl⟩

theorem BuildsAt.eq_ofTy (h : BuildsAt t (ofTy erased t) place value) : value = ofTy erased place := by
  suffices hall : ofTy erased t = ofTy erased t → ∀ place value,
      BuildsAt t (ofTy erased t) place value → value = ofTy erased place from hall rfl _ _ h
  -- What the whole expression is has to be known where the place is the whole type.
  refine ofTy_induction (motive := fun t d => d = ofTy erased t → ∀ place value,
      BuildsAt t d place value → value = ofTy erased place)
    ?failure ?null ?zero ?named ?success ?tuple ?call ?identity ?runBlock ?idle ?closure t
  case failure | null | named | idle | zero | identity | runBlock =>
    intros
    rename_i hd _ _ h
    cases h
    exact hd
  case success =>
    intro name first rest _ _ ih hd _ _ h
    cases h with
    | whole => exact hd
    | payload _ _ _ h => exact ih rfl _ _ h
  case tuple =>
    intro name args _ _ ih hd _ _ h
    cases h with
    | whole => exact hd
    | part _ _ hpart h =>
        obtain ⟨harg, rfl⟩ := mem_zip_ofTys.1 hpart
        exact ih _ harg rfl _ _ h
  case call =>
    intro name shape factory args _ _ hd _ _ h
    obtain ⟨typeArgs, hcall⟩ := callFor_eq erased factory args
    rw [hcall] at hd h
    cases h
    exact hd
  case closure =>
    intro params isSuspend result ih hd _ _ h
    cases h with
    | whole => exact hd
    | result _ _ _ h => exact ih rfl _ _ h

theorem exists_call_of_mem_typeArgs {arg : Ty} (h : arg ∈ (ofTy erased t).typeArgs) :
    ∃ place factory typeArgs, BuildsAt t (ofTy erased t) place (.call factory typeArgs) ∧
      arg ∈ typeArgs := by
  revert h
  refine ofTy_induction (motive := fun t d => arg ∈ d.typeArgs → ∃ place factory typeArgs,
      BuildsAt t d place (.call factory typeArgs) ∧ arg ∈ typeArgs)
    ?failure ?null ?zero ?named ?success ?tuple ?call ?identity ?runBlock ?idle ?closure t
  case failure | null | zero | identity | runBlock | idle =>
    intros
    rename_i h
    cases h
  case named =>
    intro name h
    rw [typeArgs_ofName] at h
    cases h
  case success =>
    intro name first rest _ _ ih h
    rw [typeArgs] at h
    obtain ⟨place, factory, typeArgs, hplace, harg⟩ := ih h
    exact ⟨place, factory, typeArgs, .payload name name rest hplace, harg⟩
  case tuple =>
    intro name args _ _ ih h
    rw [typeArgs, mem_allTypeArgs, ofTys_eq_map] at h
    obtain ⟨_, hmem, h⟩ := h
    obtain ⟨part, hpart, rfl⟩ := List.mem_map.1 hmem
    obtain ⟨place, factory, typeArgs, hplace, harg⟩ := ih part hpart h
    exact ⟨place, factory, typeArgs, .part name name (mem_zip_ofTys.2 ⟨hpart, rfl⟩) hplace, harg⟩
  case call =>
    intro name shape factory args _ _ h
    obtain ⟨typeArgs, hcall⟩ := callFor_eq erased factory args
    rw [hcall] at h ⊢
    exact ⟨_, factory, typeArgs, .whole _ _, h⟩
  case closure =>
    intro params isSuspend result ih h
    rw [typeArgs] at h
    obtain ⟨place, factory, typeArgs, hplace, harg⟩ := ih h
    exact ⟨place, factory, typeArgs, .result params isSuspend _ hplace, harg⟩

end OfTy

/-! ## The arguments of a call -/

theorem mem_typeArgs_callFor (factory : Factory) {erased : List String} {args : List Ty} {arg : Ty} :
    arg ∈ (callFor erased factory args).typeArgs ↔ (∃ a ∈ args, a.mentionsAny erased) ∧
      ∃ a ∈ args, (a.projected?.getD a).erase erased = arg := by
  unfold callFor
  split
  · next hany =>
      rw [typeArgs, List.mem_map]
      exact (and_iff_right (List.any_eq_true.1 hany)).symm
  · next hnone =>
      rw [typeArgs]
      exact iff_of_false List.not_mem_nil fun h => hnone (List.any_eq_true.2 h.1)

/-- The default of a type is a call if the type is a container, with or without arguments. -/
theorem call_cases {erased : List String} {place : Ty} {factory : Factory} {args : List Ty}
    (h : ofTy erased place = .call factory args) :
    (∃ name typeArgs, place = .apply name typeArgs ∧
      callFor erased factory typeArgs = .call factory args) ∨
    ∃ name, place = .named name ∧ args = [] := by
  revert h
  refine ofTy_induction (motive := fun t d => d = .call factory args →
      (∃ name typeArgs, t = .apply name typeArgs ∧
        callFor erased factory typeArgs = .call factory args) ∨ ∃ name, t = .named name ∧ args = [])
    ?failure ?null ?zero ?named ?success ?tuple ?call ?identity ?runBlock ?idle ?closure place
  case failure | null | zero | success | tuple | identity | runBlock | idle | closure =>
    intros
    rename_i h
    cases h
  case named =>
    intro name h
    refine .inr ⟨name, rfl, ?_⟩
    have hargs := typeArgs_ofName name
    rwa [h, typeArgs] at hargs
  case call =>
    intro name shape other typeArgs _ _ h
    obtain ⟨written, hcall⟩ := callFor_eq erased other typeArgs
    obtain ⟨rfl, -⟩ := Default.call.inj (hcall.symm.trans h)
    exact .inl ⟨name, typeArgs, rfl, h⟩

/-- The arguments of a call are written where one of those in the type mentions an erased parameter: all
    of these, erased and without `out`. -/
theorem BuildsAt.mem_written_iff {erased : List String} {t : Ty} {name : QualifiedName} {args : List Ty}
    {factory : Factory} {written : List Ty} {arg : Ty}
    (h : BuildsAt t (ofTy erased t) (.apply name args) (.call factory written)) :
    arg ∈ written ↔ (∃ a ∈ args, a.mentionsAny erased) ∧
      ∃ a ∈ args, (a.projected?.getD a).erase erased = arg := by
  obtain ⟨_, _, hplace, hcall⟩ | ⟨_, hplace, -⟩ := call_cases h.eq_ofTy.symm
  · cases hplace
    rw [← mem_typeArgs_callFor factory, hcall, typeArgs]
  · cases hplace

/-- The calls of a default value stand in its text with their type arguments, the projections among them
    as `*` or with `out`. No argument is a projection if and only if, wherever an empty container is
    built for a type with an erased parameter in its arguments, none of these is `*` or the projection
    of a projection. -/
theorem typeArgs_not_isProjection_iff (erased : List String) (t : Ty) :
    (∀ policy message place factory args, BuildsAt t (ofTy erased t) place (.call factory args) →
      (factory.name ++ NamePolicy.bracketed (policy.writeAll args) ++ "()").toList <:+:
        ((ofTy erased t).write policy message).toList) ∧
    (∀ policy : NamePolicy, ∀ arg ∈ (ofTy erased t).typeArgs, arg.isProjection →
      policy.write arg = "*" ∨ ∃ inner, policy.write arg = "out " ++ policy.write inner) ∧
    ((∀ arg ∈ (ofTy erased t).typeArgs, ¬ arg.isProjection) ↔
      ∀ name args factory written,
        BuildsAt t (ofTy erased t) (.apply name args) (.call factory written) →
        (∃ arg ∈ args, arg.mentionsAny erased) →
        ∀ arg ∈ args, arg ≠ .star ∧ ∀ inner, arg.projected? = some inner → ¬ inner.isProjection) := by
  refine ⟨fun policy message place factory args h => ?_,
    fun policy arg _ hprojection => Ty.write_of_isProjection policy hprojection, fun hnone => ?_,
    fun hnone => ?_⟩
  · have htext := h.infix_write policy message
    rwa [write] at htext
  · intro name args factory written hplace hmentions arg harg
    have hwritten := hplace.mem_written_iff.2 ⟨hmentions, arg, harg, rfl⟩
    have hproper := hnone _ (hplace.typeArgs_subset (by rwa [typeArgs]))
    rw [Ty.isProjection_erase, Ty.isProjection_unprojected_iff, not_or] at hproper
    exact ⟨hproper.1, fun inner hinner hprojection => hproper.2 ⟨inner, hinner, hprojection⟩⟩
  · intro arg harg hprojection
    obtain ⟨place, factory, written, hplace, hwritten⟩ := exists_call_of_mem_typeArgs harg
    obtain ⟨name, args, rfl, -⟩ | ⟨_, -, rfl⟩ := call_cases hplace.eq_ofTy.symm
    · obtain ⟨hmentions, a, ha, rfl⟩ := hplace.mem_written_iff.1 hwritten
      obtain ⟨hstar, hinner⟩ := hnone name args factory written hplace hmentions a ha
      rw [Ty.isProjection_erase, Ty.isProjection_unprojected_iff] at hprojection
      obtain heq | ⟨inner, heq, hprojection⟩ := hprojection
      · exact hstar heq
      · exact hinner inner heq hprojection
    · cases hwritten

/-- The default of a map from anything to an erased type is written with `*`. -/
theorem exists_isProjection_typeArgs : ∃ erased t, (ofTy erased t).isSafe ∧
    (ofTy erased t).write .plain "no value" = "emptyMap<*, Any?>()" ∧
    ∃ arg ∈ (ofTy erased t).typeArgs, arg.isProjection :=
  ⟨["R"], .apply ⟨"kotlin.collections", "Map"⟩ [.star, .param "R"], by decide, by decide, .star,
    by decide, by decide⟩

end Default

end KotlinFakes
