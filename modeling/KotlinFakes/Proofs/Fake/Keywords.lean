import KotlinFakes.Proofs.Callees.Capture
import KotlinFakes.Proofs.Fake.Script

/-!
# Keywords in generated files

Not every name that a file takes from its declaration is quoted: packages, imports, classes and type
parameters stand as they are. All keywords of a file are between backquotes if and only if there are
none in these names.
-/

namespace KotlinFakes

/-! ## Class names -/

theorem Text.segments_append_dot (before after : String) :
    segments (before ++ "." ++ after) = segments before ++ segments after := by
  have hdot : ".".toList = ['.'] := rfl
  simp [segments, hdot, pieces_append_cons]

theorem noKeyword_within {package path : String} : NoKeyword (QualifiedName.within package path) ↔
    (package ≠ "" → NoKeyword package) ∧ NoKeyword path := by
  unfold QualifiedName.within
  split
  · next h => simp [h]
  · next h =>
      simp only [NoKeyword, Text.segments_append_dot, List.forall_mem_append, ne_eq, h,
        not_false_eq_true, forall_const]

theorem NamePolicy.noKeyword_writeName {policy : NamePolicy} {name : QualifiedName} :
    NoKeyword (policy.writeName name) ↔
      (policy.isQualified name = true → NoKeyword name.package) ∧ NoKeyword name.simple := by
  unfold writeName
  split
  · next h =>
      have hne : name.package ≠ "" := by
        simp only [isQualified, Bool.and_eq_true, bne_iff_ne] at h
        exact h.1
      simp [h, QualifiedName.full, noKeyword_within, hne]
  · next h => simp [h]

theorem NamePolicy.noKeyword_writeName_kotlin {policy : NamePolicy} {simple : String} :
    NoKeyword (policy.writeName ⟨"kotlin", simple⟩) ↔ NoKeyword simple := by
  have hkotlin : NoKeyword "kotlin" := by decide
  simp [noKeyword_writeName, hkotlin]

/-! ## Types that are made from others -/

namespace Ty

variable {policy : NamePolicy} {t : Ty}

/-- Whether there is no keyword in the class names and type parameters of a written type. -/
abbrev NoKeyword (policy : NamePolicy) (t : Ty) : Prop := (t.script policy).IsEscaped

@[simp] theorem noKeyword_primitive (p : Primitive) : (Ty.primitive p).NoKeyword policy := by
  simp [NoKeyword, script]

@[simp] theorem noKeyword_nullable : (Ty.nullable t).NoKeyword policy ↔ t.NoKeyword policy := by
  unfold NoKeyword
  rw [script]
  split <;> simp

@[simp] theorem noKeyword_orNull : t.orNull.NoKeyword policy ↔ t.NoKeyword policy := by
  cases t <;> simp [orNull]

@[simp] theorem noKeyword_function {params : List Ty} {isSuspend : Bool} {result : Ty} :
    (Ty.function params isSuspend result).NoKeyword policy ↔
      (∀ p ∈ params, p.NoKeyword policy) ∧ result.NoKeyword policy := by
  simp [NoKeyword, script, scripts_eq_map]

@[simp] theorem noKeyword_named {name : QualifiedName} :
    (Ty.named name).NoKeyword policy ↔ KotlinFakes.NoKeyword (policy.writeName name) := by
  simp [NoKeyword, script]

@[simp] theorem noKeyword_out : t.out.NoKeyword policy ↔ t.NoKeyword policy := by
  simp [NoKeyword, out, script, scripts]

theorem noKeyword_apply {name : QualifiedName} {args : List Ty} (hname : name ≠ outName) :
    (Ty.apply name args).NoKeyword policy ↔
      KotlinFakes.NoKeyword (policy.writeName name) ∧ ∀ t ∈ args, t.NoKeyword policy := by
  cases args with
  | nil => simp [NoKeyword, script, scripts]
  | cons first rest => simp [NoKeyword, script, scripts, hname, scripts_eq_map]

theorem noKeyword_apply_out {first : Ty} {rest : List Ty} :
    (Ty.apply outName (first :: rest)).NoKeyword policy ↔ first.NoKeyword policy := by
  simp [NoKeyword, script, scripts]

mutual
theorem NoKeyword.substitute {replace : String → Option Ty}
    (hreplace : ∀ name r, replace name = some r → r.NoKeyword policy) :
    ∀ {t : Ty}, t.NoKeyword policy → (t.substitute replace).NoKeyword policy
  | .primitive p, h => h
  | .nullable inner, h => by
      rw [Ty.substitute, noKeyword_orNull]
      exact NoKeyword.substitute hreplace (noKeyword_nullable.1 h)
  | .apply name args, h => by
      rw [Ty.substitute]
      by_cases hname : name = outName
      · subst hname
        cases args with
        | nil => exact h
        | cons first rest =>
            rw [Ty.substituteAll, noKeyword_apply_out]
            exact NoKeyword.substitute hreplace (noKeyword_apply_out.1 h)
      · rw [noKeyword_apply hname] at h ⊢
        exact ⟨h.1, NoKeyword.substituteAll hreplace h.2⟩
  | .function params isSuspend result, h => by
      rw [noKeyword_function] at h
      rw [Ty.substitute, noKeyword_function]
      exact ⟨NoKeyword.substituteAll hreplace h.1, NoKeyword.substitute hreplace h.2⟩
  | .param name, h => by
      rw [Ty.substitute]
      cases hname : replace name with
      | none => exact h
      | some r => exact hreplace name r hname
  | .named name, h => h
theorem NoKeyword.substituteAll {replace : String → Option Ty}
    (hreplace : ∀ name r, replace name = some r → r.NoKeyword policy) :
    ∀ {ts : List Ty}, (∀ t ∈ ts, t.NoKeyword policy) →
      ∀ t ∈ Ty.substituteAll replace ts, t.NoKeyword policy
  | [], _ => by simp [Ty.substituteAll]
  | t :: ts, h => by
      rw [List.forall_mem_cons] at h
      rw [Ty.substituteAll, List.forall_mem_cons]
      exact ⟨NoKeyword.substitute hreplace h.1, NoKeyword.substituteAll hreplace h.2⟩
end

theorem NoKeyword.erase (h : t.NoKeyword policy) (names : List String) :
    (t.erase names).NoKeyword policy := by
  unfold Ty.erase
  split
  · exact h
  · refine h.substitute fun name r hr => ?_
    split at hr
    · obtain rfl := Option.some.inj hr
      simp [top]
    · cases hr

theorem NoKeyword.projected? {inner : Ty} (h : t.NoKeyword policy)
    (hprojected : t.projected? = some inner) : inner.NoKeyword policy := by
  cases t with
  | apply name args =>
      unfold Ty.projected? at hprojected
      obtain ⟨rfl, hhead⟩ := Option.ite_none_right_eq_some.1 hprojected
      cases args with
      | nil => cases hhead
      | cons first rest =>
          obtain rfl := Option.some.inj hhead
          exact noKeyword_apply_out.1 h
  | primitive | nullable | function | param | named => cases hprojected

theorem NoKeyword.varargArray (h : t.NoKeyword policy) : t.varargArray.NoKeyword policy := by
  have hgeneral : (Ty.apply ⟨"kotlin", "Array"⟩ [t.out]).NoKeyword policy := by
    rw [noKeyword_apply (by decide), NamePolicy.noKeyword_writeName_kotlin]
    exact ⟨by decide, by simpa using h⟩
  unfold Ty.varargArray
  cases t with
  | primitive p =>
      cases hclass : p.arrayClass? with
      | none => simpa [hclass] using hgeneral
      | some simple =>
          have hsimple : KotlinFakes.NoKeyword simple := by
            revert hclass
            cases p <;> simp [Primitive.arrayClass?] <;> rintro rfl <;> decide
          simpa [hclass, NamePolicy.noKeyword_writeName_kotlin] using hsimple
  | nullable | apply | function | param | named => exact hgeneral

end Ty

/-! ## Default values -/

namespace Default

variable {policy : NamePolicy} {erased : List String} {message : String}

@[simp] theorem isEscaped_closureScript {arity : Nat} {body : Script} :
    (closureScript arity body).IsEscaped ↔ body.IsEscaped := by
  simp [closureScript]

theorem isEscaped_callFor (factory : Factory) {args : List Ty} (h : ∀ t ∈ args, t.NoKeyword policy) :
    ((callFor erased factory args).script policy message).IsEscaped := by
  unfold callFor
  split
  · simp only [script, Ty.scripts_eq_map, List.cons_append, Script.isEscaped_cons,
      Script.isEscaped_append, Script.isEscaped_bracketed, Piece.isEscaped_fixed, true_and,
      Script.isEscaped_nil, and_true, List.forall_mem_map]
    intro t ht
    refine Ty.NoKeyword.erase ?_ erased
    cases hprojected : t.projected? with
    | none => exact h t ht
    | some inner => exact (h t ht).projected? hprojected
  · simp [script, Ty.scripts]

theorem isEscaped_ofName {name : QualifiedName} (h : KotlinFakes.NoKeyword (policy.writeName name)) :
    ((ofName name).script policy message).IsEscaped := by
  unfold ofName
  split
  · simpa [script] using (NamePolicy.noKeyword_writeName.1 h).2
  · split <;> simp [script, Ty.scripts]

theorem ne_outName_of_shape {name : QualifiedName} {shape : DefaultShape}
    (h : DefaultShape.ofName? name.full = some shape) : name ≠ Ty.outName := by
  rintro rfl
  exact absurd h (by decide +revert)

theorem isEscaped_ofTy {t : Ty} :
    t.NoKeyword policy → ((ofTy erased t).script policy message).IsEscaped := by
  refine ofTy_induction
    (motive := fun t d => t.NoKeyword policy → (d.script policy message).IsEscaped)
    ?failure ?null ?zero ?named ?success ?tuple ?call ?identity ?runBlock ?idle ?closure t
  case failure | null | zero | identity | runBlock | idle => intros; simp [script]
  case named => exact fun name h => isEscaped_ofName (Ty.noKeyword_named.1 h)
  case success =>
    intro name first rest hshape _ ih h
    rw [Ty.noKeyword_apply (ne_outName_of_shape hshape), List.forall_mem_cons] at h
    simpa [script] using ⟨h.1, ih h.2.1⟩
  case tuple =>
    intro name args hshape _ ih h
    rw [Ty.noKeyword_apply (ne_outName_of_shape hshape)] at h
    have hparts : ∀ s ∈ scripts policy message (ofTys erased args), s.IsEscaped := by
      rw [scripts_eq_map, ofTys_eq_map, List.forall_mem_map, List.forall_mem_map]
      exact fun t ht => ih t ht (h.2 t ht)
    simpa [script] using ⟨h.1, hparts⟩
  case call =>
    intro name shape factory args hshape _ h
    rw [Ty.noKeyword_apply (ne_outName_of_shape hshape)] at h
    exact isEscaped_callFor factory h.2
  case closure =>
    intro params isSuspend result ih h
    simpa [script] using ih (Ty.noKeyword_function.1 h).2

end Default

/-! ## Members -/

namespace Blueprint

/-- Whether there are no keywords in the type parameters and the types of a function. -/
structure Function.NoKeyword (policy : NamePolicy) (f : Function) : Prop where
  typeParams : ∀ param ∈ f.typeParams, param.NoKeyword policy
  parameters : ∀ p ∈ f.parameters, p.type.NoKeyword policy
  result : f.result.NoKeyword policy

variable {policy : NamePolicy}

theorem Parameter.noKeyword_valueType {p : Parameter} (h : p.type.NoKeyword policy) :
    p.valueType.NoKeyword policy := by
  unfold valueType
  split
  · exact h.varargArray
  · exact h

theorem Function.NoKeyword.signatureType {f : Function} (h : f.NoKeyword policy) :
    f.signatureType.NoKeyword policy :=
  Ty.noKeyword_function.2
    ⟨List.forall_mem_map.2 fun p hp => Parameter.noKeyword_valueType (h.parameters p hp), h.result⟩

@[simp] theorem Property.noKeyword_getterType {p : Property} :
    p.getterType.NoKeyword policy ↔ p.type.NoKeyword policy := by
  simp [Property.getterType]

@[simp] theorem Property.noKeyword_setterType {p : Property} :
    p.setterType.NoKeyword policy ↔ p.type.NoKeyword policy := by
  simp [Property.setterType, Ty.unit]

end Blueprint

namespace Fake

open Layout Sheet

variable {policy : NamePolicy} {level : Nat} {b : Blueprint}

theorem SuperCall.isEscaped_script (call : SuperCall) : call.script.IsEscaped := by
  unfold script
  dsimp only
  split <;> simp

theorem isEscaped_functionInitial {f : Blueprint.Function} (h : f.signatureType.NoKeyword policy)
    (message : String) : ((functionInitial b f).script policy message).IsEscaped := by
  unfold functionInitial
  split
  · exact SuperCall.isEscaped_script _
  · simp [Initial.script]
  · exact Default.isEscaped_ofTy h

theorem isEscaped_getterInitial {p : Blueprint.Property} (h : p.type.NoKeyword policy)
    (message : String) : ((getterInitial b p).script policy message).IsEscaped := by
  unfold getterInitial
  split
  · simp [Initial.script]
  · simp [Initial.script]
  · exact Default.isEscaped_ofTy (by simpa using h)

theorem isEscaped_setterInitial (getter : Slot) (p : Blueprint.Property) (message : String) :
    ((setterInitial getter p).script policy message).IsEscaped := by
  unfold setterInitial
  split <;> simp [Initial.script]

theorem Behavior.isEscaped_sheet {behavior : Behavior} :
    ((behavior.sheet policy).script level).IsEscaped ↔
      behavior.type.NoKeyword policy ∧
        (behavior.initial.script policy behavior.message).IsEscaped := by
  simp [sheet]

@[simp] theorem isEscaped_methodParamScript {params : List TypeParam} :
    (methodParamScript policy params).IsEscaped ↔
      (TypeParam.listScript policy false params).IsEscaped := by
  cases params <;> simp [methodParamScript, TypeParam.listScript]

@[simp] theorem isEscaped_methodScript {keywords : String} {name : Piece} {params : List TypeParam}
    {type : Ty} : (methodScript policy keywords name params type).IsEscaped ↔
      name.IsEscaped ∧ (∀ param ∈ params, param.NoKeyword policy) ∧ type.NoKeyword policy := by
  rw [← TypeParam.isEscaped_listed policy false]
  simp only [methodScript, List.cons_append, List.append_assoc, Script.isEscaped_cons,
    Script.isEscaped_append, Piece.isEscaped_fixed, isEscaped_methodParamScript,
    true_and]
  tauto

theorem Configure.isEscaped_sheets {c : Configure} :
    (∀ s ∈ c.sheets policy, (s.script level).IsEscaped) ↔
      (∀ param ∈ c.typeParams, param.NoKeyword policy) ∧ c.type.NoKeyword policy ∧
        ∀ t ∈ c.cast, t.NoKeyword policy := by
  unfold sheets headerScript
  cases c.cast <;> simp [uncheckedCastSheet, Ty.NoKeyword, and_assoc]

theorem isEscaped_counterSheets (slot : Slot) :
    ∀ s ∈ counterSheets slot, (s.script level).IsEscaped := by
  simp [counterSheets]

theorem PropertyMember.isEscaped_sheets {s : PropertySlots} :
    (∀ sheet ∈ (ofSlots b s).sheets policy, (sheet.script level).IsEscaped) ↔
      s.property.type.NoKeyword policy := by
  have hoverride : (∀ sheet ∈ (ofSlots b s).overrideSheets policy, (sheet.script level).IsEscaped) ↔
      s.property.type.NoKeyword policy := by
    cases hsetter : s.setter <;> simp [overrideSheets, ofSlots, countSheet, hsetter, Ty.NoKeyword]
  have hfield (h : s.property.type.NoKeyword policy) (behavior : Behavior)
      (hbehavior : behavior ∈ (ofSlots b s).behaviors) :
      behavior.type.NoKeyword policy ∧
        (behavior.initial.script policy behavior.message).IsEscaped := by
    obtain rfl | hbehavior := List.mem_cons.1 hbehavior
    · exact ⟨by simpa [ofSlots] using h, isEscaped_getterInitial h _⟩
    · obtain ⟨slot, -, rfl⟩ := Option.map_eq_some_iff.1 (Option.mem_toList.1 hbehavior)
      exact ⟨by simpa using h, isEscaped_setterInitial _ _ _⟩
  simp only [sheets, isEscaped_spaced, List.forall_mem_cons, List.forall_mem_append,
    List.forall_mem_flatMap, List.forall_mem_map, hoverride, Behavior.isEscaped_sheet, configures,
    Configure.isEscaped_sheets]
  constructor
  · exact fun h => h.2.1
  · refine fun h => ⟨⟨fun behavior _ => isEscaped_counterSheets _, hfield h⟩, h, fun behavior hb => ?_⟩
    exact ⟨List.forall_mem_nil _, (hfield h behavior hb).1, by simp⟩

theorem FunctionMember.isEscaped_headerScript {m : FunctionMember} :
    (m.headerScript policy).IsEscaped ↔ m.function.NoKeyword policy := by
  have hresult : (if m.function.result.isUnit then []
      else .fixed ": " :: m.function.result.script policy : Script).IsEscaped ↔
        m.function.result.NoKeyword policy := by
    by_cases hunit : m.function.result.isUnit
    · rw [if_pos hunit, of_decide_eq_true hunit]
      simp [Ty.unit]
    · simp [hunit, Ty.NoKeyword]
  have hparameters : (Script.joinWith ", "
      (m.function.parameters.map (parameterScript policy))).IsEscaped ↔
        ∀ p ∈ m.function.parameters, p.type.NoKeyword policy := by
    simp [parameterScript, Ty.NoKeyword]
  simp only [headerScript, List.cons_append, List.append_assoc, Script.isEscaped_cons,
    Script.isEscaped_append, Piece.isEscaped_fixed, Piece.isEscaped_quoted,
    isEscaped_methodParamScript, hresult, hparameters, true_and]
  constructor
  · rintro ⟨hlist, hparams, hresult, hwhere⟩
    exact ⟨(TypeParam.isEscaped_listed policy false).1 ⟨hlist, hwhere⟩, hparams, hresult⟩
  · rintro ⟨htypeParams, hparams, hresult⟩
    obtain ⟨hlist, hwhere⟩ := (TypeParam.isEscaped_listed policy false).2 htypeParams
    exact ⟨hlist, hparams, hresult, hwhere⟩

theorem FunctionMember.isEscaped_lastScript {s : FunctionSlot} (h : s.function.NoKeyword policy) :
    ((ofSlot b s).lastScript policy).IsEscaped := by
  have hargument (p : Blueprint.Parameter) (hp : p ∈ s.function.parameters) :
      ((argument (b.erasedNames s.function) p).script policy).IsEscaped := by
    unfold Argument.script argument
    split
    · simp
    · next type hcast =>
        obtain rfl := Option.some.inj (Option.ite_none_right_eq_some.1 hcast).2
        simpa using (Blueprint.Parameter.noKeyword_valueType (h.parameters p hp)).erase _
  have hcall : ((ofSlot b s).callScript policy).IsEscaped := by
    simpa [callScript, ofSlot] using hargument
  unfold lastScript
  split
  · exact hcall
  · split
    · simpa using hcall
    · next type hcast =>
        obtain rfl := Option.some.inj (Option.ite_none_right_eq_some.1 hcast).2
        simpa using ⟨hcall, h.result⟩

theorem FunctionMember.isEscaped_sheets {s : FunctionSlot} :
    (∀ sheet ∈ (ofSlot b s).sheets policy, (sheet.script level).IsEscaped) ↔
      s.function.NoKeyword policy := by
  simp only [sheets, isEscaped_spaced, List.forall_mem_cons, List.forall_mem_append,
    Behavior.isEscaped_sheet, Configure.isEscaped_sheets]
  constructor
  · intro h
    have hoverride := h.2.1
    simp only [overrideSheets, List.forall_mem_append, List.forall_mem_cons, isEscaped_block,
      isEscaped_headerScript] at hoverride
    exact hoverride.2.1.1
  · intro h
    have hsignature := h.signatureType
    have herased := hsignature.erase (b.erasedNames s.function)
    have hcast : ∀ t ∈ (ofSlot b s).configure.cast, t.NoKeyword policy := by
      intro t ht
      obtain rfl := Option.some.inj (Option.ite_none_left_eq_some.1 ht).2
      exact herased
    have hoverride : ∀ sheet ∈ (ofSlot b s).overrideSheets policy,
        (sheet.script level).IsEscaped := by
      simp only [overrideSheets, List.forall_mem_append, List.forall_mem_cons, isEscaped_block,
        isEscaped_headerScript]
      refine ⟨?_, ⟨h, ?_⟩, List.forall_mem_nil _⟩
      · split <;> simp [uncheckedCastSheet]
      · simpa [countSheet] using isEscaped_lastScript h
    exact ⟨⟨isEscaped_counterSheets _, ⟨herased, isEscaped_functionInitial hsignature _⟩,
        List.forall_mem_nil _⟩, hoverride, ⟨h.typeParams, hsignature, hcast⟩, List.forall_mem_nil _⟩

end Fake

/-! ## Files -/

/-- Whether there are no keywords in the names of a blueprint that a file writes as they stand, but for
    the paths of its imports. -/
structure Blueprint.NoKeyword (policy : NamePolicy) (b : Blueprint) : Prop where
  package : KotlinFakes.NoKeyword b.package
  subject : KotlinFakes.NoKeyword (policy.writeName b.subject)
  typeParams : ∀ param ∈ b.classTypeParams, param.NoKeyword policy
  properties : ∀ p ∈ b.properties, p.type.NoKeyword policy
  functions : ∀ f ∈ b.functions, f.NoKeyword policy

namespace Fake

open Layout Sheet

variable {policy : NamePolicy} {level : Nat} {b : Blueprint}

theorem isEscaped_argumentScript_of_noKeyword {params : List TypeParam}
    (h : ∀ param ∈ params, param.NoKeyword policy) : (TypeParam.argumentScript params).IsEscaped :=
  TypeParam.isEscaped_argumentScript.2 fun param hparam => (h param hparam).1

theorem Implementation.isEscaped_sheets :
    (∀ sheet ∈ (ofBlueprint b (.ofBlueprint b)).sheets policy, (sheet.script level).IsEscaped) ↔
      NoKeyword (policy.writeName b.subject) ∧ (∀ param ∈ b.classTypeParams, param.NoKeyword policy) ∧
        (∀ p ∈ b.properties, p.type.NoKeyword policy) ∧ ∀ f ∈ b.functions, f.NoKeyword policy := by
  have hmembers : (∀ group ∈ (SlotTable.ofBlueprint b).properties.map
        (fun s => (PropertyMember.ofSlots b s).sheets policy) ++
          (SlotTable.ofBlueprint b).functions.map (fun s => (FunctionMember.ofSlot b s).sheets policy),
        ∀ sheet ∈ group, (sheet.script (level + 1)).IsEscaped) ↔
      (∀ p ∈ b.properties, p.type.NoKeyword policy) ∧ ∀ f ∈ b.functions, f.NoKeyword policy := by
    rw [← SlotTable.map_property_ofBlueprint b, ← SlotTable.map_function_ofBlueprint b]
    simp only [List.forall_mem_append, List.forall_mem_map, PropertyMember.isEscaped_sheets,
      FunctionMember.isEscaped_sheets]
  have hheader : ((ofBlueprint b (.ofBlueprint b)).headerScript policy).IsEscaped ↔
      NoKeyword (policy.writeName b.subject) ∧ ∀ param ∈ b.classTypeParams, param.NoKeyword policy := by
    simp only [headerScript, ofBlueprint, List.cons_append, List.append_assoc, Script.isEscaped_cons,
      Script.isEscaped_append, Piece.isEscaped_fixed, Piece.isEscaped_bare, true_and]
    constructor
    · rintro ⟨hlist, hsubject, -, hwhere⟩
      exact ⟨hsubject, (TypeParam.isEscaped_listed policy false).1 ⟨hlist, hwhere⟩⟩
    · rintro ⟨hsubject, hparams⟩
      obtain ⟨hlist, hwhere⟩ := (TypeParam.isEscaped_listed policy false).2 hparams
      exact ⟨hlist, hsubject, isEscaped_argumentScript_of_noKeyword hparams, hwhere⟩
  simp only [sheets, List.forall_mem_singleton, isEscaped_block, isEscaped_scriptAll,
    isEscaped_spaced, hheader, ← hmembers, and_assoc]
  simp [ofBlueprint]

theorem Maker.isEscaped_sheets (h : ∀ param ∈ b.classTypeParams, param.NoKeyword policy) :
    ∀ sheet ∈ (ofBlueprint b).sheets policy, (sheet.script level).IsEscaped := by
  obtain ⟨hlist, hwhere⟩ := (TypeParam.isEscaped_listed policy true).2 h
  have hargs := isEscaped_argumentScript_of_noKeyword h
  have hfake : (ofBlueprint b).fakeTypeScript.IsEscaped := by
    simpa [fakeTypeScript, ofBlueprint] using hargs
  have hconfiguration : (ofBlueprint b).configurationTypeScript.IsEscaped := by
    simpa [configurationTypeScript, ofBlueprint] using hargs
  have hheader : ((ofBlueprint b).headerScript policy).IsEscaped := by
    simp only [headerScript, Script.isEscaped_append, Script.isEscaped_cons, Piece.isEscaped_fixed,
      List.cons_append, hfake, hconfiguration, true_and]
    refine ⟨?_, hwhere⟩
    split
    · simpa [ofBlueprint] using hlist
    · simp
  simp [sheets, hheader, hfake, hconfiguration]

theorem Configuration.isEscaped_sheets (h : b.NoKeyword policy) :
    ∀ sheet ∈ (ofBlueprint b (.ofBlueprint b)).sheets policy, (sheet.script level).IsEscaped := by
  obtain ⟨hlist, hwhere⟩ := (TypeParam.isEscaped_listed policy false).2 h.typeParams
  have hheader : ((ofBlueprint b (.ofBlueprint b)).headerScript policy).IsEscaped := by
    simpa [headerScript, ofBlueprint, hlist] using
      ⟨fun param hparam => (h.typeParams param hparam).1, hwhere⟩
  have hmethods : ∀ m ∈ (ofBlueprint b (.ofBlueprint b)).methods,
      (∀ param ∈ m.typeParams, param.NoKeyword policy) ∧ m.type.NoKeyword policy := by
    simp only [ofBlueprint, List.forall_mem_append, List.forall_mem_flatMap, List.forall_mem_map]
    refine ⟨fun s hs m hm => ?_, fun s hs => ?_⟩
    · have hproperty := h.properties s.property (SlotTable.property_mem_of_mem hs)
      obtain rfl | hm := List.mem_cons.1 hm
      · exact ⟨List.forall_mem_nil _, by simpa using hproperty⟩
      · obtain ⟨slot, -, rfl⟩ := List.mem_map.1 hm
        exact ⟨List.forall_mem_nil _, by simpa using hproperty⟩
    · have hfunction := h.functions s.function (SlotTable.function_mem_of_mem hs)
      exact ⟨hfunction.typeParams, hfunction.signatureType⟩
  simp only [sheets, List.forall_mem_singleton, isEscaped_block, hheader, isEscaped_scriptAll,
    isEscaped_spaced, List.forall_mem_map, ConfigurationMethod.sheets, isEscaped_methodScript,
    Piece.isEscaped_quoted, true_and]
  intro m hm
  exact ⟨hmethods m hm, by simp⟩

end Fake

namespace FakeFile

open Fake Layout

variable {options : FileOptions} {b : Blueprint} {file : FakeFile}

theorem isEscaped_preambleScript : file.preambleScript.IsEscaped ↔
    NoKeyword file.package ∧ ∀ path ∈ file.imports, NoKeyword path := by
  have himports : Script.IsEscaped
      (file.imports.flatMap fun path => [.fixed "import ", .bare path, .fixed "\n"]) ↔
        ∀ path ∈ file.imports, NoKeyword path := by
    rw [Script.IsEscaped, List.forall_mem_flatMap]
    simp
  have hempty : NoKeyword "" := by decide
  unfold preambleScript
  by_cases hpackage : file.package = "" <;> by_cases hnil : file.imports = [] <;>
    simp [hpackage, hnil, himports, hempty]

/-- The script of a file is its text, and every name in it reads as its segments are written. All keywords
    in the names that it takes from the declaration are between backquotes if and only if there are none
    in its package, its imports, the class names and the type parameters, which are never quoted. Names
    of properties, functions and parameters may be keywords. -/
theorem isEscaped_script_iff (h : generate options b = .ok file) :
    file.script.text = file.text ∧
      (∀ p ∈ file.script, p.segments ≠ [] → Text.joinWith "." p.written = p.text) ∧
      (file.script.IsEscaped ↔
        b.NoKeyword file.policy ∧ ∀ path ∈ file.imports, NoKeyword path) := by
  refine ⟨file.text_script, fun p _ => Piece.joinWith_written, ?_⟩
  obtain rfl := eq_build_of_generate h
  simp only [script, List.append_assoc, List.cons_append, Script.isEscaped_append,
    Script.isEscaped_cons, Piece.isEscaped_fixed, true_and, isEscaped_preambleScript,
    Sheet.isEscaped_scriptAll]
  constructor
  · rintro ⟨⟨hpackage, himports⟩, himplementation, -, -⟩
    obtain ⟨hsubject, hparams, hproperties, hfunctions⟩ :=
      Implementation.isEscaped_sheets.1 himplementation
    exact ⟨⟨hpackage, hsubject, hparams, hproperties, hfunctions⟩, himports⟩
  · rintro ⟨hb, himports⟩
    exact ⟨⟨hb.package, himports⟩, Implementation.isEscaped_sheets.2
        ⟨hb.subject, hb.typeParams, hb.properties, hb.functions⟩,
      Maker.isEscaped_sheets hb.typeParams, Configuration.isEscaped_sheets hb⟩

/-- An interface with keywords for the names of its members. -/
def gate : Blueprint :=
  ⟨"app.Gate", .interface, "app", "Gate", [⟨"T", [], false⟩],
    [⟨"when", [⟨"in", .param "T", false, false⟩, ⟨"is", .primitive .int, true, false⟩],
      .apply ⟨"kotlin.collections", "List"⟩ [.named ⟨"app.inner", "Key"⟩], false, false, [],
      .abstract⟩],
    [⟨"object", .param "T", true, false, .abstract⟩], .onClass⟩

theorem isEscaped_script_iff_gate : ∃ file, generate ⟨true⟩ gate = .ok file ∧
    file.script.text = file.text ∧ file.script.IsEscaped := by
  have hfile : generate ⟨true⟩ gate = .ok _ := rfl
  obtain ⟨htext, -, hiff⟩ := isEscaped_script_iff hfile
  refine ⟨_, hfile, htext, hiff.2 ⟨⟨by decide, by decide, ?_, by decide, ?_⟩, by decide⟩⟩
  · exact List.forall_mem_singleton.2 ⟨by decide, List.forall_mem_nil _⟩
  · exact List.forall_mem_singleton.2 ⟨List.forall_mem_nil _, by decide, by decide⟩

/-- The blueprint of an interface without members. -/
def acmeBox : Blueprint :=
  ⟨"in.co.acme.Box", .interface, "in.co.acme", "Box", [], [], [], .absent⟩

/-- The package of a file is not quoted. -/
theorem not_isEscaped_script : ¬ ∀ (options : FileOptions) (b : Blueprint) (file : FakeFile),
    generate options b = .ok file → Identifier.isDotted b.package →
      (∀ name ∈ b.subject :: b.mentionedTypes.flatMap Ty.classNames, Identifier.isDotted name.full) →
        file.script.IsEscaped := by
  intro h
  have hescaped := h ⟨false⟩ acmeBox _ rfl (by decide) (by decide)
  simp only [script, Script.isEscaped_append] at hescaped
  exact absurd (isEscaped_preambleScript.1 hescaped.1.1.1).1 (by decide)

end FakeFile

end KotlinFakes
