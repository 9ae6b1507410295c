import KotlinFakes.Proofs.TypeText.Reading
import KotlinFakes.Ty.NamePolicy

/-!
# Written types are read back

A reference is read back from the type it denotes, if that is written with every class in full and no
name in it can be taken for another: classes have a package, and no type parameter is called like a
primitive.
-/

namespace KotlinFakes

open Identifier Text

/-! ## Names -/

namespace TypeText

/-- Whether a class name has a package in front of it that starts with a small letter. -/
def isPackaged (fullName : String) : Bool :=
  isDotted fullName && decide (2 ≤ (segments fullName).length) &&
    (segments fullName).head?.any Scope.startsSmall

theorem isDotted_of_isPackaged {fullName : String} (h : isPackaged fullName) :
    isDotted fullName := by
  simp only [isPackaged, Bool.and_eq_true] at h
  exact h.1.1

theorem exists_append_of_isPackaged {fullName : String} (h : isPackaged fullName) :
    ∃ first rest, fullName.toList = first ++ '.' :: rest ∧ '.' ∉ first ∧
      Scope.startsSmall (String.ofList first) := by
  simp only [isPackaged, Bool.and_eq_true, decide_eq_true_eq] at h
  by_cases hdot : '.' ∈ fullName.toList
  · obtain ⟨first, rest, hname, hfirst⟩ := List.eq_append_cons_of_mem hdot
    refine ⟨first, rest, hname, hfirst, ?_⟩
    have hsmall := h.2
    rw [segments, hname, pieces_append_cons, pieces_of_not_mem hfirst] at hsmall
    simpa using hsmall
  · rw [segments, pieces_of_not_mem hdot] at h
    simp at h

theorem not_isValid_of_isPackaged {fullName : String} (h : isPackaged fullName) :
    isValid fullName = false := by
  obtain ⟨first, rest, hname, -⟩ := exists_append_of_isPackaged h
  refine Bool.eq_false_iff.2 fun hvalid => ?_
  exact not_mem_of_isValid hvalid (c := '.') (by decide) (by simp [hname])

theorem resolveClass_of_isPackaged {scope : Scope} {fullName : String} (h : isPackaged fullName)
    (himports : scope.imports = []) : scope.resolveClass fullName = fullName := by
  obtain ⟨first, rest, hname, hfirst, hsmall⟩ := exists_append_of_isPackaged h
  have hsplit : Scope.splitFirst fullName = (String.ofList first, some (String.ofList rest)) := by
    rw [Scope.splitFirst, hname, cut_append_cons hfirst]
  have himport : scope.importOf? (String.ofList first) = none := by
    rw [Scope.importOf?, himports, List.find?_nil]
  -- The standard classes start with a capital.
  have hbuiltin : builtins.lookup (String.ofList first) = none := by
    have hall : ∀ entry ∈ builtins, Scope.startsSmall entry.1 = false := by decide
    rw [List.lookup_eq_none_iff]
    intro entry hentry
    rw [bne_iff_ne]
    intro heq
    simpa [← heq, hsmall] using hall entry hentry
  simp only [Scope.resolveClass, hsplit, himport, hbuiltin, Option.isSome_some, hsmall, Bool.and_self,
    ↓reduceIte]

theorem resolveClass_name {scope : Scope} (p : Primitive) (himports : scope.imports = []) :
    scope.resolveClass p.name = "kotlin." ++ p.name := by
  have himport (segment : String) : scope.importOf? segment = none := by
    rw [Scope.importOf?, himports, List.find?_nil]
  simp only [Scope.resolveClass, himport]
  cases p <;> rfl

end TypeText

namespace NamePolicy

variable {policy : NamePolicy}

theorem writeName_eq_full {name : QualifiedName} (h : name.importPath ∈ policy.qualified) :
    policy.writeName name = name.full := by
  unfold writeName isQualified
  by_cases hpackage : name.package = ""
  · simp [hpackage, QualifiedName.full, QualifiedName.within]
  · simp [hpackage, h]

theorem write_marked {t : Ty} (isNullable : Bool) (h : t.orNull = .nullable t)
    (hfunction : t.isFunction = false) :
    policy.write (TypeRef.marked isNullable t) =
      policy.write t ++ if isNullable then "?" else "" := by
  cases isNullable with
  | false => simp [TypeRef.marked]
  | true => simp [TypeRef.marked, h, write, hfunction]

theorem write_star : policy.write .star = "*" := by
  simp [Ty.star, write, writeName, isQualified, QualifiedName.unpackaged]

end NamePolicy

namespace TypeRef

open TypeText

/-! ## The names and the tokens of a reference -/

mutual
/-- Whether nothing in a reference is unresolved, and no name in it can be taken for another. -/
def isUnmistakable : TypeRef → Bool
  | .ofClass fullName args _ => isPackaged fullName && allUnmistakable args
  | .ofParam name _ => isValid name && (Primitive.ofName? name).isNone
  | .ofFunction params result _ _ => allUnmistakable params && result.isUnmistakable
  | .star => true
  | .unresolved _ => false
def allUnmistakable : List TypeRef → Bool
  | [] => true
  | r :: rs => r.isUnmistakable && allUnmistakable rs
end

mutual
/-- The full names of the classes in a reference. -/
def classes : TypeRef → List String
  | .ofClass fullName args _ => fullName :: allClasses args
  | .ofFunction params result _ _ => allClasses params ++ result.classes
  | .ofParam .. | .star | .unresolved _ => []
def allClasses : List TypeRef → List String
  | [] => []
  | r :: rs => r.classes ++ allClasses rs
end

mutual
/-- The type parameters in a reference. -/
def params : TypeRef → List String
  | .ofClass _ args _ => allParams args
  | .ofParam name _ => [name]
  | .ofFunction params result _ _ => allParams params ++ result.params
  | .star | .unresolved _ => []
def allParams : List TypeRef → List String
  | [] => []
  | r :: rs => r.params ++ allParams rs
end

/-- How a class is spelled: a primitive by its simple name, any other class in full. -/
def spelling (fullName : String) : List TypeRef → String
  | [] => ((Primitive.ofFullName? fullName).map Primitive.name).getD fullName
  | _ :: _ => fullName

mutual
/-- The tokens of a reference that is written with every class in full. -/
def tokens : TypeRef → List Token
  | .ofClass fullName args isNullable =>
    nameTokens (segments (spelling fullName args)) ++ argumentTokens (allTokens args) ++
      markTokens isNullable
  | .ofParam name isNullable => nameTokens [name] ++ argumentTokens [] ++ markTokens isNullable
  | .ofFunction params result isSuspend isNullable =>
    let inner := functionTokens isSuspend (allTokens params) result.tokens
    if isNullable then .leftParen :: inner ++ [.rightParen, .question] else inner
  | .star => [.star]
  | .unresolved _ => []
def allTokens : List TypeRef → List (List Token)
  | [] => []
  | r :: rs => r.tokens :: allTokens rs
end

theorem spelling_cases (fullName : String) (args : List TypeRef) :
    (∃ p : Primitive, args = [] ∧ fullName = "kotlin." ++ p.name ∧ spelling fullName args = p.name) ∨
      spelling fullName args = fullName := by
  cases args with
  | cons first rest => exact .inr rfl
  | nil =>
      cases hfull : Primitive.ofFullName? fullName with
      | none => exact .inr (by simp [spelling, hfull])
      | some p =>
          have hname : "kotlin." ++ p.name = fullName := by simpa using List.find?_some hfull
          exact .inl ⟨p, rfl, hname.symm, by simp [spelling, hfull]⟩

/-! ## Scanning what was written -/

section Scans

variable {policy : NamePolicy}

theorem scans_bracketed {texts : List String} {items : List (List Token)}
    (h : List.Forall₂ (fun text tokens => Scans text.toList tokens) texts items) :
    Stops mayFollow (NamePolicy.bracketed texts).toList ∧
      Scans (NamePolicy.bracketed texts).toList (argumentTokens items) := by
  by_cases hitems : items = []
  · subst hitems
    cases h
    exact ⟨by simp [NamePolicy.bracketed], scans_nil⟩
  · have htexts : texts.isEmpty = false := by
      cases h with
      | nil => exact absurd rfl hitems
      | cons => rfl
    have hlist := scans_mark (c := '<') rfl
      (scans_append (scans_separated h) (stops_cons.2 (by decide)) (scans_mark (c := '>') rfl scans_nil))
    refine ⟨?_, by simpa [NamePolicy.bracketed, htexts, argumentTokens, hitems] using hlist⟩
    simp only [NamePolicy.bracketed, htexts, Bool.false_eq_true, ↓reduceIte, String.toList_append]
    exact stops_cons.2 (by decide)

theorem scans_named {name : String} {texts : List String} {items : List (List Token)}
    (isNullable : Bool) (hname : isDotted name)
    (h : List.Forall₂ (fun text tokens => Scans text.toList tokens) texts items) :
    Scans (name ++ NamePolicy.bracketed texts ++ if isNullable then "?" else "").toList
      (nameTokens (segments name) ++ argumentTokens items ++ markTokens isNullable) := by
  obtain ⟨hstops, harguments⟩ := scans_bracketed h
  have hplain := scans_append (scans_dotted hname) hstops harguments
  cases isNullable with
  | false => simpa [markTokens] using hplain
  | true =>
      have hmark := scans_append hplain (stops_cons.2 (by decide))
        (scans_mark (c := '?') rfl scans_nil)
      simpa [markTokens] using hmark

theorem isDotted_spelling {fullName : String} (h : isPackaged fullName) (args : List TypeRef) :
    isDotted (spelling fullName args) := by
  obtain ⟨p, -, -, hp⟩ | hfull := spelling_cases fullName args
  · rw [hp]
    cases p <;> decide
  · rw [hfull]
    exact isDotted_of_isPackaged h

theorem parse_ne_outName {fullName : String} (h : isPackaged fullName) :
    QualifiedName.parse fullName ≠ Ty.outName := by
  intro hout
  have hfull := QualifiedName.full_parse_of_isDotted (isDotted_of_isPackaged h)
  rw [hout] at hfull
  subst hfull
  exact absurd h (by decide)

theorem write_class {fullName : String} (h : isPackaged fullName)
    (hpolicy : (QualifiedName.parse fullName).importPath ∈ policy.qualified) (args : List TypeRef)
    (isNullable : Bool) :
    policy.write (TypeRef.ofClass fullName args isNullable).toTy =
      spelling fullName args ++ NamePolicy.bracketed (policy.writeAll (toTys args)) ++
        if isNullable then "?" else "" := by
  have hname : policy.writeName (.parse fullName) = fullName :=
    (NamePolicy.writeName_eq_full hpolicy).trans
      (QualifiedName.full_parse_of_isDotted (isDotted_of_isPackaged h))
  rw [toTy]
  cases args with
  | nil =>
      rw [toTys, classTy]
      cases hfull : Primitive.ofFullName? fullName with
      | none =>
          dsimp only
          rw [NamePolicy.write_marked isNullable rfl rfl]
          simp [NamePolicy.write, NamePolicy.writeAll, NamePolicy.bracketed, spelling, hfull, hname]
      | some p =>
          dsimp only
          rw [NamePolicy.write_marked isNullable rfl rfl]
          simp [NamePolicy.write, NamePolicy.writeAll, NamePolicy.bracketed, spelling, hfull]
  | cons first rest =>
      rw [toTys]
      dsimp only
      rw [NamePolicy.write_marked isNullable rfl rfl]
      simp [NamePolicy.write, NamePolicy.writeAll, spelling, hname, parse_ne_outName h]

mutual
/-- What a reference denotes is written as its tokens. -/
theorem scans_write : ∀ r : TypeRef, r.isUnmistakable →
    (∀ c ∈ r.classes, (QualifiedName.parse c).importPath ∈ policy.qualified) →
    Scans (policy.write r.toTy).toList r.tokens
  | .ofClass fullName args isNullable, h, hpolicy => by
      rw [isUnmistakable, Bool.and_eq_true] at h
      rw [classes, List.forall_mem_cons] at hpolicy
      rw [write_class h.1 hpolicy.1, tokens]
      exact scans_named isNullable (isDotted_spelling h.1 args)
        (scans_writeAll args h.2 hpolicy.2)
  | .ofParam name isNullable, h, _ => by
      rw [isUnmistakable, Bool.and_eq_true] at h
      have hsegments : segments name = [name] := by
        rw [segments, pieces_of_not_mem (not_mem_of_isValid h.1 (by decide))]
        simp
      have hname : isDotted name := by simp [isDotted, hsegments, h.1]
      have hscans := scans_named isNullable hname .nil
      rw [hsegments] at hscans
      rw [toTy, tokens, NamePolicy.write_marked isNullable rfl rfl]
      simpa [NamePolicy.write, NamePolicy.bracketed] using hscans
  | .ofFunction params result isSuspend isNullable, h, hpolicy => by
      rw [isUnmistakable, Bool.and_eq_true] at h
      rw [classes, List.forall_mem_append] at hpolicy
      have hplain := scans_function isSuspend (scans_writeAll params h.1 hpolicy.1)
        (scans_write result h.2 hpolicy.2)
      rw [toTy, tokens]
      cases isNullable with
      | false => simpa [marked, NamePolicy.write] using hplain
      | true =>
          have hmarked := scans_mark (c := '(') rfl (scans_append hplain (stops_cons.2 (by decide))
            (scans_mark (c := ')') rfl (scans_mark (c := '?') rfl scans_nil)))
          have hfunction : (Ty.function (toTys params) isSuspend result.toTy).isFunction := rfl
          simpa [marked, Ty.orNull, NamePolicy.write, hfunction] using hmarked
  | .star, _, _ => by
      rw [toTy, tokens, NamePolicy.write_star]
      exact scans_mark (c := '*') rfl scans_nil
  | .unresolved text, h, _ => by simp [isUnmistakable] at h
theorem scans_writeAll : ∀ rs : List TypeRef, allUnmistakable rs →
    (∀ c ∈ allClasses rs, (QualifiedName.parse c).importPath ∈ policy.qualified) →
    List.Forall₂ (fun text tokens => Scans text.toList tokens) (policy.writeAll (toTys rs))
      (allTokens rs)
  | [], _, _ => by
      rw [toTys, NamePolicy.writeAll, allTokens]
      exact .nil
  | r :: rs, h, hpolicy => by
      rw [allUnmistakable, Bool.and_eq_true] at h
      rw [allClasses, List.forall_mem_append] at hpolicy
      rw [toTys, NamePolicy.writeAll, allTokens]
      exact .cons (scans_write r h.1 hpolicy.1) (scans_writeAll rs h.2 hpolicy.2)
end

end Scans

/-! ## Reading the tokens -/

section Reads

variable {scope : Scope} {stop : Nat}

/-- Whether nothing is imported in a scope, and no type parameter has the name of a primitive or of a
    class with a package. -/
structure IsClear (scope : Scope) : Prop where
  imports : scope.imports = []
  typeParams : ∀ name, scope.isTypeParam name → isValid name ∧ Primitive.ofName? name = none

theorem ofName?_name (p : Primitive) : Primitive.ofName? p.name = some p := by
  cases p <;> rfl

theorem IsClear.applied_spelling (hscope : IsClear scope) {fullName : String}
    (h : isPackaged fullName) (args : List TypeRef) (offset : Nat) :
    applied scope offset (spelling fullName args) args = .ok (.ofClass fullName args false) := by
  obtain ⟨p, rfl, rfl, hspelling⟩ | hspelling := spelling_cases fullName args
  · have hparam : scope.isTypeParam p.name = false := Bool.eq_false_iff.2 fun hparam => by
      simpa [ofName?_name] using (hscope.typeParams _ hparam).2
    rw [hspelling, applied, hparam, resolveClass_name p hscope.imports]
    rfl
  · have hparam : scope.isTypeParam fullName = false := Bool.eq_false_iff.2 fun hparam => by
      simpa [not_isValid_of_isPackaged h] using (hscope.typeParams _ hparam).1
    rw [hspelling, applied, hparam, resolveClass_of_isPackaged h hscope.imports]
    rfl

theorem reads_named {written : String} {items : List (List Token)} {args : List TypeRef}
    {r : TypeRef} (isNullable : Bool) (hargs : List.Forall₂ (Reads scope stop) items args)
    (happlied : ∀ offset, applied scope offset written args = .ok r) :
    Reads scope stop
      (nameTokens (segments written) ++ argumentTokens items ++ markTokens isNullable)
      (if isNullable then r.orNull else r) := by
  obtain ⟨name, names, hnames⟩ := List.exists_cons_of_ne_nil (segments_ne_nil written)
  rw [hnames]
  refine Reads.named isNullable hargs fun offset => ?_
  rw [← hnames, joinWith_segments]
  exact happlied offset

mutual
/-- A reference is read from its tokens. -/
theorem reads_tokens (hscope : IsClear scope) : ∀ r : TypeRef, r.isUnmistakable →
    (∀ name ∈ r.params, scope.isTypeParam name) → Reads scope stop r.tokens r
  | .ofClass fullName args isNullable, h, hparams => by
      rw [isUnmistakable, Bool.and_eq_true] at h
      rw [params] at hparams
      have hread := reads_named isNullable (reads_allTokens hscope args h.2 hparams)
        (hscope.applied_spelling h.1 args)
      rw [tokens]
      cases isNullable <;> exact hread
  | .ofParam name isNullable, h, hparams => by
      rw [params, List.forall_mem_singleton] at hparams
      have hread : Reads scope stop (nameTokens [name] ++ argumentTokens [] ++ markTokens isNullable)
          (if isNullable then (ofParam name false).orNull else .ofParam name false) :=
        Reads.named isNullable .nil fun offset => by
          rw [joinWith, applied, hparams]
          rfl
      rw [tokens]
      cases isNullable <;> exact hread
  | .ofFunction ps result isSuspend isNullable, h, hparams => by
      rw [isUnmistakable, Bool.and_eq_true] at h
      rw [params, List.forall_mem_append] at hparams
      have hps := (reads_allTokens hscope ps h.1 hparams.1).imp fun _ _ hread => hread.param
      have hread := Reads.function isSuspend hps (reads_tokens hscope result h.2 hparams.2)
      rw [tokens]
      cases isNullable with
      | false => exact hread
      | true => exact hread.param.group true
  | .star, _, _ => by
      rw [tokens]
      exact Reads.star
  | .unresolved text, h, _ => by simp [isUnmistakable] at h
theorem reads_allTokens (hscope : IsClear scope) : ∀ rs : List TypeRef, allUnmistakable rs →
    (∀ name ∈ allParams rs, scope.isTypeParam name) →
    List.Forall₂ (Reads scope stop) (allTokens rs) rs
  | [], _, _ => by
      rw [allTokens]
      exact .nil
  | r :: rs, h, hparams => by
      rw [allUnmistakable, Bool.and_eq_true] at h
      rw [allParams, List.forall_mem_append] at hparams
      rw [allTokens]
      exact .cons (reads_tokens hscope r h.1 hparams.1) (reads_allTokens hscope rs h.2 hparams.2)
end

mutual
theorem isValid_of_mem_params : ∀ r : TypeRef, r.isUnmistakable → ∀ name ∈ r.params,
    isValid name ∧ Primitive.ofName? name = none
  | .ofClass _ args _, h => by
      rw [isUnmistakable, Bool.and_eq_true] at h
      rw [params]
      exact isValid_of_mem_allParams args h.2
  | .ofParam name _, h => by
      rw [isUnmistakable, Bool.and_eq_true, Option.isNone_iff_eq_none] at h
      rw [params, List.forall_mem_singleton]
      exact h
  | .ofFunction ps result _ _, h => by
      rw [isUnmistakable, Bool.and_eq_true] at h
      rw [params, List.forall_mem_append]
      exact ⟨isValid_of_mem_allParams ps h.1, isValid_of_mem_params result h.2⟩
  | .star, _ => by simp [params]
  | .unresolved _, _ => by simp [params]
theorem isValid_of_mem_allParams : ∀ rs : List TypeRef, allUnmistakable rs →
    ∀ name ∈ allParams rs, isValid name ∧ Primitive.ofName? name = none
  | [], _ => by simp [allParams]
  | r :: rs, h => by
      rw [allUnmistakable, Bool.and_eq_true] at h
      rw [allParams, List.forall_mem_append]
      exact ⟨isValid_of_mem_params r h.1, isValid_of_mem_allParams rs h.2⟩
end

end Reads

/-! ## Both together -/

/-- An unmistakable reference is read back from the type it denotes, in a scope that knows just its type
    parameters, if the type is written with all of its classes in full. -/
theorem parse_write_toTy {scope : Scope} {policy : NamePolicy} {r : TypeRef}
    (hr : r.isUnmistakable) (himports : scope.imports = [])
    (hscope : ∀ name, scope.isTypeParam name ↔ name ∈ r.params)
    (hpolicy : ∀ c ∈ r.classes, (QualifiedName.parse c).importPath ∈ policy.qualified) :
    TypeText.parse scope (policy.write r.toTy) = .ok r := by
  have hclear : IsClear scope :=
    ⟨himports, fun name hname => isValid_of_mem_params r hr name ((hscope name).1 hname)⟩
  obtain ⟨located, offset, hlocated, hscan⟩ := scans_write r hr hpolicy (stops_nil _) 0
  have htokens : scan 0 (policy.write r.toTy).toList = .ok located := by
    rw [List.append_nil] at hscan
    rw [hscan, scan]
    simp
  have hfuel : 3 * r.tokens.length ≤ enoughFuel located := by
    rw [← hlocated, List.length_map, enoughFuel]
    omega
  have hread : parseType scope (policy.write r.toTy).utf8ByteSize (enoughFuel located)
      (located ++ []) = .ok (r, []) :=
    (reads_tokens hclear r hr fun name hname => (hscope name).2 hname).parseType hlocated rfl hfuel
  rw [List.append_nil] at hread
  simp [TypeText.parse, htokens, parseTokens, hread, bind, Except.bind, pure, Except.pure]

/-- A suspending function type and its parts are read back. -/
theorem parse_write_toTy_handler :
    let r : TypeRef := .ofFunction
      [.ofClass "kotlin.collections.Map" [.ofParam "K" false, .ofClass "kotlin.Int" [] true] false,
        .ofFunction [.ofParam "suspend" true] (.ofClass "app.Outer.Inner" [.star] true) false true]
      (.ofClass "kotlin.Unit" [] false) true true
    let scope : Scope := ⟨"app", [], ["K", "suspend"]⟩
    let policy : NamePolicy := ⟨["kotlin.collections.Map", "kotlin.Int", "app.Outer", "kotlin.Unit"]⟩
    policy.write r.toTy = "(suspend (kotlin.collections.Map<K, Int?>, " ++
        "((suspend?) -> app.Outer.Inner<*>?)?) -> Unit)?" ∧
      TypeText.parse scope (policy.write r.toTy) = .ok r := by
  intro r scope policy
  refine ⟨by decide, parse_write_toTy (by decide) rfl (fun name => ?_) (by decide)⟩
  simp [scope, r, Scope.isTypeParam, params, allParams]

end TypeRef

end KotlinFakes
