import KotlinFakes.Default.OfTy

/-!
# Callees of default values

A default value calls functions of the standard library by their simple names: `error` where there is no
safe value, and the factories of empty containers. Which of them the default of a type calls can be
told from the type.
-/

namespace KotlinFakes

/-- A function that default values call by its simple name. -/
inductive Callee where
  /-- The function that fails with a message. -/
  | error
  /-- A function that builds an empty container. -/
  | container (factory : Factory)
  deriving Repr, DecidableEq

namespace Callee

def name : Callee → String
  | .error => "error"
  | .container factory => factory.name

/-- Whether a text is a call of the callee. -/
inductive IsCall (policy : NamePolicy) (message : String) : Callee → String → Prop where
  | error : IsCall policy message .error (Default.failureText message)
  | container (factory : Factory) (typeArgs : List Ty) :
      IsCall policy message (.container factory)
        (factory.name ++ NamePolicy.bracketed (policy.writeAll typeArgs) ++ "()")

end Callee

/-- The factory that a shape calls, if it calls one. -/
def DefaultShape.factory? : DefaultShape → Option Factory
  | .result | .tuple => none
  | .array => some .emptyArray
  | .container factory => some factory

namespace Default

mutual
/-- The callees that a default value calls. -/
def callees : Default → List Callee
  | .zero p => if p.zero?.isSome then [] else [.error]
  | .call factory _ => [.container factory]
  | .success _ payload | .closure _ payload => payload.callees
  | .tuple _ parts => allCallees parts
  | .failure => [.error]
  | .null | .emptyArray _ | .identity | .runBlock | .idle _ => []
def allCallees : List Default → List Callee
  | [] => []
  | d :: ds => d.callees ++ allCallees ds
end

theorem mem_allCallees {callee : Callee} {ds : List Default} :
    callee ∈ allCallees ds ↔ ∃ d ∈ ds, callee ∈ d.callees := by
  induction ds with
  | nil => simp [allCallees]
  | cons d ds ih => simp [allCallees, ih]

theorem allSafe_iff {ds : List Default} : allSafe ds ↔ ∀ d ∈ ds, d.isSafe := by
  induction ds with
  | nil => simp [allSafe]
  | cons d ds ih => simp [allSafe, ih]

theorem ofTys_eq_map (erased : List String) (ts : List Ty) : ofTys erased ts = ts.map (ofTy erased) := by
  induction ts with
  | nil => rw [ofTys, List.map_nil]
  | cons t ts ih => rw [ofTys, ih, List.map_cons]

/-- Induction on types along the default values that they have, with a case for each way in which one is
    made. -/
theorem ofTy_induction {erased : List String} {motive : Ty → Default → Prop}
    (failure : ∀ t, motive t .failure) (null : ∀ inner, motive (.nullable inner) .null)
    (zero : ∀ p : Primitive, p.zero?.isSome → motive (.primitive p) (.zero p))
    (named : ∀ name, motive (.named name) (ofName name))
    (success : ∀ name first rest, DefaultShape.ofName? name.full = some .result →
      (ofTy erased first).isSafe → motive first (ofTy erased first) →
        motive (.apply name (first :: rest)) (.success name (ofTy erased first)))
    (tuple : ∀ name args, DefaultShape.ofName? name.full = some .tuple →
      allSafe (ofTys erased args) → (∀ t ∈ args, motive t (ofTy erased t)) →
        motive (.apply name args) (.tuple name (ofTys erased args)))
    (call : ∀ name shape factory args, DefaultShape.ofName? name.full = some shape →
      shape.factory? = some factory → motive (.apply name args) (callFor erased factory args))
    (identity : ∀ params isSuspend result, params = [result] →
      motive (.function params isSuspend result) .identity)
    (runBlock : ∀ params isSuspend result, runsBlock erased params isSuspend result →
      motive (.function params isSuspend result) .runBlock)
    (idle : ∀ params isSuspend result,
      motive (.function params isSuspend result) (.idle params.length))
    (closure : ∀ params isSuspend result, motive result (ofTy erased result) →
      motive (.function params isSuspend result) (.closure params.length (ofTy erased result)))
    (t : Ty) : motive t (ofTy erased t) := by
  refine @Ty.rec (fun t => motive t (ofTy erased t)) (fun ts => ∀ t ∈ ts, motive t (ofTy erased t))
    (fun p => ?primitive) (fun inner _ => null inner) (fun name args ih => ?apply)
    (fun params isSuspend result _ ih => ?function) (fun name => failure _) named
    (List.forall_mem_nil _) (fun _ _ ih ihs => List.forall_mem_cons.2 ⟨ih, ihs⟩) t
  case primitive =>
    rw [ofTy]
    split
    · next hzero => exact zero p hzero
    · exact failure _
  case apply =>
    rw [ofTy]
    split
    · exact failure _
    · next hshape =>
        cases args with
        | nil => exact failure _
        | cons first rest =>
            rw [ofTys]
            dsimp only
            split
            · next hsafe => exact success name first rest hshape hsafe (ih first List.mem_cons_self)
            · exact failure _
    · next hshape =>
        split
        · next hsafe => exact tuple name args hshape hsafe ih
        · exact failure _
    · next hshape =>
        split
        · exact failure _
        · exact call name _ _ args hshape rfl
    · next hshape => exact call name _ _ args hshape rfl
  case function =>
    rw [ofTy]
    split
    · next hidentity => exact identity params isSuspend result hidentity
    · split
      · next hrun => exact runBlock params isSuspend result hrun
      · split
        · exact idle params isSuspend result
        · exact closure params isSuspend result ih

/-! ## The calls in the text -/

theorem infix_append (before text after : String) :
    text.toList <:+: (before ++ text ++ after).toList := by
  rw [String.toList_append, String.toList_append]
  exact ⟨before.toList, after.toList, rfl⟩

theorem infix_joinWith {separator text : String} {texts : List String} (h : text ∈ texts) :
    text.toList <:+: (Text.joinWith separator texts).toList := by
  induction texts with
  | nil => cases h
  | cons first rest ih =>
      by_cases hrest : rest = []
      · subst hrest
        obtain rfl : text = first := by simpa using h
        exact List.infix_refl _
      · rw [Text.joinWith_cons separator hrest]
        obtain rfl | h := List.mem_cons.1 h
        · have := infix_append "" text (separator ++ Text.joinWith separator rest)
          rwa [String.empty_append, ← String.append_assoc] at this
        · refine (ih h).trans ?_
          have := infix_append (first ++ separator) (Text.joinWith separator rest) ""
          rwa [String.append_empty] at this

theorem infix_closureText (arity : Nat) (body : String) :
    body.toList <:+: (closureText arity body).toList := by
  unfold closureText
  split
  · exact infix_append _ _ _
  · exact infix_append _ _ _

mutual
theorem exists_call_of_mem_callees (policy : NamePolicy) (message : String) {callee : Callee} :
    ∀ d : Default, callee ∈ d.callees → ∃ text, Callee.IsCall policy message callee text ∧
      text.toList <:+: (d.write policy message).toList
  | .zero p, h => by
      cases hzero : p.zero? with
      | some text => simp [callees, hzero] at h
      | none =>
          obtain rfl : callee = .error := by simpa [callees, hzero] using h
          exact ⟨_, .error, by simp [write, hzero]⟩
  | .call factory typeArgs, h => by
      obtain rfl : callee = .container factory := by simpa [callees] using h
      exact ⟨_, .container factory typeArgs, by simp [write]⟩
  | .success name payload, h => by
      obtain ⟨text, hcall, htext⟩ := exists_call_of_mem_callees policy message payload h
      rw [write]
      exact ⟨text, hcall, htext.trans (infix_append _ _ _)⟩
  | .closure arity body, h => by
      obtain ⟨text, hcall, htext⟩ := exists_call_of_mem_callees policy message body h
      rw [write]
      exact ⟨text, hcall, htext.trans (infix_closureText _ _)⟩
  | .tuple name parts, h => by
      obtain ⟨text, hcall, part, hpart, htext⟩ := exists_call_of_mem_allCallees policy message parts h
      rw [write]
      exact ⟨text, hcall, (htext.trans (infix_joinWith hpart)).trans (infix_append _ _ _)⟩
  | .failure, h => by
      obtain rfl : callee = .error := by simpa [callees] using h
      exact ⟨_, .error, by simp [write]⟩
  | .null, h | .emptyArray _, h | .identity, h | .runBlock, h | .idle _, h => by simp [callees] at h
theorem exists_call_of_mem_allCallees (policy : NamePolicy) (message : String) {callee : Callee} :
    ∀ ds : List Default, callee ∈ allCallees ds → ∃ text, Callee.IsCall policy message callee text ∧
      ∃ part ∈ writeAll policy message ds, text.toList <:+: part.toList
  | [], h => by simp [allCallees] at h
  | d :: ds, h => by
      rw [allCallees, List.mem_append] at h
      rw [writeAll]
      obtain h | h := h
      · obtain ⟨text, hcall, htext⟩ := exists_call_of_mem_callees policy message d h
        exact ⟨text, hcall, _, List.mem_cons_self, htext⟩
      · obtain ⟨text, hcall, part, hpart, htext⟩ := exists_call_of_mem_allCallees policy message ds h
        exact ⟨text, hcall, part, List.mem_cons_of_mem _ hpart, htext⟩
end

end Default

end KotlinFakes
