import KotlinFakes.Proofs.Callees.OfTy
import KotlinFakes.Proofs.Written.Outline

/-!
# Defaults in one pass

One pass over a type can yield everything about its default: the text, whether it is safe, and the
functions to import. Such a pass has to be told how names are written and what the message is, and it
looks at texts to see which closures have a body. Its results are the text of the default value, the
mark of the value, and the imports of the type, so only the text depends on names and message.
-/

namespace KotlinFakes.Default

/-- What a pass over a type yields. -/
structure Synthesis where
  text : String
  isSafe : Bool
  /-- The functions to import, behind those that were there before. -/
  imports : List QualifiedName
  deriving Repr, DecidableEq

section Synthesize

variable (policy : NamePolicy) (message : String) (erased : List String)

/-- The call of a factory for the given type arguments, which are written where one of them mentions an
    erased parameter. -/
def emptyCall (factory : Factory) (args : List Ty) : String :=
  if args.any fun arg => arg.mentionsAny erased then
    factory.name ++ "<" ++
      Text.joinWith ", " (args.map fun arg => policy.write ((arg.projected?.getD arg).erase erased)) ++
        ">()"
  else factory.name ++ "()"

mutual
/-- The default of a type in one pass. -/
def synthesize (imports : List QualifiedName) : Ty → Synthesis
  | .nullable _ => ⟨"null", true, imports⟩
  | .primitive p =>
    match p.zero? with
    | some text => ⟨text, true, imports⟩
    | none => ⟨failureText message, false, imports⟩
  | .named name =>
    if name.package = "kotlin" && name.simple != "Array" &&
        "Array".toList.isSuffixOf name.simple.toList then
      ⟨name.simple ++ "(0)", true, imports⟩
    else
      match Factory.containers.lookup name.full with
      | some factory => ⟨factory.name ++ "()", true, imports⟩
      | none => ⟨failureText message, false, imports⟩
  | .param _ => ⟨failureText message, false, imports⟩
  | .apply name args =>
    match DefaultShape.ofName? name.full with
    | none => ⟨failureText message, false, imports⟩
    | some .result =>
      let payload := synthesizeFirst imports args
      if payload.isSafe then
        ⟨policy.writeName name ++ ".success(" ++ payload.text ++ ")", true, payload.imports⟩
      else ⟨failureText message, false, payload.imports⟩
    | some .tuple =>
      match synthesizeParts imports args with
      | (some texts, imports) =>
        ⟨policy.writeName name ++ "(" ++ Text.joinWith ", " texts ++ ")", true, imports⟩
      | (none, imports) => ⟨failureText message, false, imports⟩
    | some .array =>
      if args.any (mentionsKept erased) then ⟨failureText message, false, imports⟩
      else ⟨emptyCall policy erased .emptyArray args, true, imports⟩
    | some (.container factory) =>
      ⟨emptyCall policy erased factory args, true,
        imports ++ if factory = .emptyFlow then [Factory.flowImport] else []⟩
  | .function params isSuspend result =>
    if params = [result] then ⟨"\x7b it \x7d", true, imports⟩
    else if runsBlock erased params isSuspend result then ⟨"\x7b block -> block() \x7d", true, imports⟩
    else
      let body := if result.isUnit then ⟨"", true, imports⟩ else synthesize imports result
      { body with
        text :=
          if body.text = "" then idleText params.length else closureText params.length body.text }
/-- The default of the first type of a list; without one there is no value. -/
def synthesizeFirst (imports : List QualifiedName) : List Ty → Synthesis
  | [] => ⟨failureText message, false, imports⟩
  | t :: _ => synthesize imports t
/-- The texts of the defaults of a list, as long as all of them are safe. -/
def synthesizeParts (imports : List QualifiedName) :
    List Ty → Option (List String) × List QualifiedName
  | [] => (some [], imports)
  | t :: ts =>
    let part := synthesize imports t
    if part.isSafe then
      let (texts, imports) := synthesizeParts part.imports ts
      (texts.map (part.text :: ·), imports)
    else (none, part.imports)
end

end Synthesize

/-! ## The pass and its results -/

variable (policy : NamePolicy) (message : String)

theorem write_ne_empty (d : Default) : d.write policy message ≠ "" := by
  cases d with
  | zero p =>
      rw [write]
      cases p <;> simp [Primitive.zero?, failureText]
  | idle arity =>
      rw [write, idleText]
      split <;> simp
  | closure arity body =>
      rw [write, closureText]
      split <;> simp
  | null | emptyArray | call | success | tuple | identity | runBlock | failure =>
      simp [write, failureText]

theorem write_call_nil (factory : Factory) :
    (call factory []).write policy message = factory.name ++ "()" := by
  rw [write, NamePolicy.writeAll, NamePolicy.bracketed]
  exact congrArg (· ++ "()") String.append_empty

theorem emptyCall_eq (erased : List String) (factory : Factory) (args : List Ty) :
    emptyCall policy erased factory args = (callFor erased factory args).write policy message := by
  unfold emptyCall callFor
  split
  · next h =>
      have hargs : (args.map fun arg => policy.write ((arg.projected?.getD arg).erase erased)) ≠ [] := by
        rintro hnil
        rw [List.map_eq_nil_iff.1 hnil] at h
        cases h
      rw [write, policy.writeAll_eq_map, List.map_map, NamePolicy.bracketed]
      simp only [Function.comp_def, List.isEmpty_iff, if_neg hargs, String.append_assoc]
      rfl
  · exact (write_call_nil policy message factory).symm

theorem synthesize_named (erased : List String) (imports : List QualifiedName) (name : QualifiedName) :
    synthesize policy message erased imports (.named name) =
      ⟨(ofName name).write policy message, (ofName name).isSafe, imports⟩ := by
  rw [synthesize, ofName]
  split
  · simp [write, isSafe]
  · cases Factory.containers.lookup name.full with
    | some factory => simp [write_call_nil, isSafe]
    | none => simp [write, isSafe]

theorem importsOf_container (erased : List String) {name : QualifiedName} {factory : Factory}
    (h : DefaultShape.ofName? name.full = some (.container factory)) (args : List Ty) :
    importsOf erased (.apply name args) =
      if factory = .emptyFlow then [Factory.flowImport] else [] := by
  rw [importsOf, h]
  cases factory <;> rfl

mutual
/-- A pass gives the text of the default value, its mark, and the imports of the type behind those that
    were there. -/
theorem synthesize_eq (erased : List String) (imports : List QualifiedName) : ∀ t : Ty,
    synthesize policy message erased imports t =
      ⟨(ofTy erased t).write policy message, (ofTy erased t).isSafe, imports ++ importsOf erased t⟩
  | .nullable inner => by simp [synthesize, ofTy, write, isSafe, importsOf]
  | .primitive p => by
      cases hzero : p.zero? <;> simp [synthesize, ofTy, write, isSafe, importsOf, hzero]
  | .named name => by simp [synthesize_named, ofTy, importsOf]
  | .param name => by simp [synthesize, ofTy, write, isSafe, importsOf]
  | .apply name args => by
      rw [synthesize, ofTy]
      cases h : DefaultShape.ofName? name.full with
      | none => simp [importsOf, h, write, isSafe]
      | some shape =>
          cases shape with
          | result =>
              dsimp only
              rw [synthesizeFirst_eq erased imports args, importsOf, h]
              cases args with
              | nil => simp [ofTys, importsOfFirst, write, isSafe]
              | cons first rest =>
                  by_cases hsafe : (ofTy erased first).isSafe <;>
                    simp [ofTys, importsOfFirst, hsafe, write, isSafe]
          | tuple =>
              dsimp only
              rw [synthesizeParts_eq erased imports args, importsOf, h]
              by_cases hsafe : allSafe (ofTys erased args) <;> simp [hsafe, write, isSafe]
          | array =>
              by_cases hkept : args.any (mentionsKept erased) <;>
                simp [importsOf, h, hkept, write, isSafe, emptyCall_eq policy message, callFor_spec]
          | container factory =>
              simp [importsOf_container erased h, emptyCall_eq policy message, callFor_spec]
  | .function params isSuspend result => by
      rw [synthesize, ofTy, importsOf]
      split
      · simp [write, isSafe]
      · split
        · simp [write, isSafe]
        · split
          · simp [write, isSafe]
          · rw [synthesize_eq erased imports result]
            simp [write, isSafe, write_ne_empty]
theorem synthesizeFirst_eq (erased : List String) (imports : List QualifiedName) : ∀ ts : List Ty,
    synthesizeFirst policy message erased imports ts =
      match ts with
      | [] => ⟨failureText message, false, imports⟩
      | t :: _ =>
        ⟨(ofTy erased t).write policy message, (ofTy erased t).isSafe, imports ++ importsOf erased t⟩
  | [] => by rw [synthesizeFirst]
  | t :: _ => by rw [synthesizeFirst, synthesize_eq erased imports t]
theorem synthesizeParts_eq (erased : List String) (imports : List QualifiedName) : ∀ ts : List Ty,
    synthesizeParts policy message erased imports ts =
      (if allSafe (ofTys erased ts) then some (writeAll policy message (ofTys erased ts)) else none,
        imports ++ importsWhileSafe erased ts)
  | [] => by simp [synthesizeParts, ofTys, allSafe, writeAll, importsWhileSafe]
  | t :: ts => by
      rw [synthesizeParts, synthesize_eq erased imports t, ofTys, allSafe, writeAll, importsWhileSafe]
      by_cases hsafe : (ofTy erased t).isSafe
      · simp only [hsafe, if_true, Bool.true_and]
        rw [synthesizeParts_eq erased (imports ++ importsOf erased t) ts]
        by_cases hrest : allSafe (ofTys erased ts) <;> simp [hrest]
      · simp [hsafe]
end

end KotlinFakes.Default
