import KotlinFakes.Proofs.Callees.OfTy

/-!
# Safe defaults

A default value is marked as safe or not. One that is safe does not depend on the message and does not
fail, however often it is called. One that is not is the failing expression under as many closures as
there are functions in the type, one the result of the other, so it fails at the last call and not
before.
-/

namespace KotlinFakes

/-- The numbers of arguments of the functions that a type consists of, each the result of the one before
    it. -/
def Ty.arities : Ty → List Nat
  | .function params _ result => params.length :: result.arities
  | .primitive _ | .nullable _ | .apply .. | .param _ | .named _ => []

namespace Default

theorem isSafe_or_eq_failure (erased : List String) {t : Ty} (h : ¬ t.isFunction) :
    (ofTy erased t).isSafe ∨ ofTy erased t = .failure := by
  revert h
  refine ofTy_induction (motive := fun t d => ¬ t.isFunction → d.isSafe ∨ d = .failure)
    ?failure ?null ?zero ?named ?success ?tuple ?call ?identity ?runBlock ?idle ?closure t
  case failure => exact fun _ _ => .inr rfl
  case null | zero => intros; exact .inl rfl
  case named =>
    intro name _
    rw [ofName]
    split
    · exact .inl rfl
    · split
      · exact .inl rfl
      · exact .inr rfl
  case success => exact fun _ _ _ _ hsafe _ _ => .inl hsafe
  case tuple => exact fun _ _ _ hsafe _ _ => .inl hsafe
  case call => exact fun _ _ factory args _ _ _ => .inl (callFor_spec erased factory args).1
  case identity | runBlock => exact fun _ _ _ _ h => absurd rfl h
  case idle => exact fun _ _ _ h => absurd rfl h
  case closure => exact fun _ _ _ _ h => absurd rfl h

/-- A type fails at once if it has no safe value and is no function type: a function without a safe
    result fails only when it is called. -/
theorem ofTy_eq_failure_iff {erased : List String} {t : Ty} :
    ofTy erased t = .failure ↔ t.Fails erased ∧ ¬ t.isFunction := by
  constructor
  · intro h
    refine ⟨error_mem_callees_ofTy.1 (by simp [h, callees]), fun hfunction => ?_⟩
    cases t with
    | function params isSuspend result =>
        rw [ofTy] at h
        split at h
        · cases h
        · split at h
          · cases h
          · split at h <;> cases h
    | nullable => rw [ofTy] at h; cases h
    | primitive | apply | param | named => cases hfunction
  · rintro ⟨hfails, hfunction⟩
    obtain hsafe | hfailure := isSafe_or_eq_failure erased hfunction
    · obtain ⟨-, -, hunsafe, -⟩ | ⟨hno, -⟩ := fits_ofTy erased t
      · rw [hsafe] at hunsafe
        cases hunsafe
      · exact absurd hfails hno
    · exact hfailure

/-! ## Defaults that fail when they are called -/

mutual
/-- Whether a value fails when it is evaluated and the result is called the given number of times. A
    closure does nothing before it is called; what is done with the result of a call is up to the
    caller. -/
def fails : Default → Nat → Bool
  | .failure, _ => true
  | .zero p, _ => p.zero?.isNone
  | .success _ payload, _ => payload.fails 0
  | .tuple _ parts, _ => anyFails parts
  | .closure _ body, calls + 1 => body.fails calls
  | .closure _ _, 0 => false
  | .null, _ | .emptyArray _, _ | .call .., _ | .identity, _ | .runBlock, _ | .idle _, _ => false
def anyFails : List Default → Bool
  | [] => false
  | d :: ds => d.fails 0 || anyFails ds
end

section NoError

variable (policy : NamePolicy) (message other : String)

mutual
theorem write_eq_of_no_error : ∀ d : Default, .error ∉ d.callees →
    d.write policy message = d.write policy other
  | .null, _ | .emptyArray _, _ | .call .., _ | .identity, _ | .runBlock, _ | .idle _, _ => by
      simp only [write]
  | .zero p, h => by
      rw [callees] at h
      split at h
      · next hzero =>
          obtain ⟨text, htext⟩ := Option.isSome_iff_exists.1 hzero
          rw [write, write, htext, Option.getD_some, Option.getD_some]
      · simp at h
  | .success _ payload, h => by
      rw [callees] at h
      rw [write, write, write_eq_of_no_error payload h]
  | .tuple _ parts, h => by
      rw [callees] at h
      rw [write, write, writeAll_eq_of_no_error parts h]
  | .closure _ body, h => by
      rw [callees] at h
      rw [write, write, write_eq_of_no_error body h]
  | .failure, h => by simp [callees] at h
theorem writeAll_eq_of_no_error : ∀ ds : List Default, .error ∉ allCallees ds →
    writeAll policy message ds = writeAll policy other ds
  | [], _ => by rw [writeAll, writeAll]
  | d :: ds, h => by
      rw [allCallees, List.mem_append, not_or] at h
      rw [writeAll, writeAll, write_eq_of_no_error d h.1, writeAll_eq_of_no_error ds h.2]
end

end NoError

mutual
theorem fails_eq_false_of_no_error : ∀ (d : Default) (calls : Nat), .error ∉ d.callees →
    d.fails calls = false
  | .null, _, _ | .emptyArray _, _, _ | .call .., _, _ | .identity, _, _ | .runBlock, _, _
  | .idle _, _, _ | .closure _ _, 0, _ => by rw [fails]
  | .zero p, _, h => by
      rw [callees] at h
      split at h
      · next hzero => rw [fails, Option.isNone_eq_false_iff.2 hzero]
      · simp at h
  | .success _ payload, _, h => by
      rw [callees] at h
      rw [fails, fails_eq_false_of_no_error payload 0 h]
  | .tuple _ parts, _, h => by
      rw [callees] at h
      rw [fails, anyFails_eq_false_of_no_error parts h]
  | .closure _ body, calls + 1, h => by
      rw [callees] at h
      rw [fails, fails_eq_false_of_no_error body calls h]
  | .failure, _, h => by simp [callees] at h
theorem anyFails_eq_false_of_no_error : ∀ ds : List Default, .error ∉ allCallees ds →
    anyFails ds = false
  | [], _ => by rw [anyFails]
  | d :: ds, h => by
      rw [allCallees, List.mem_append, not_or] at h
      rw [anyFails, fails_eq_false_of_no_error d 0 h.1, anyFails_eq_false_of_no_error ds h.2,
        Bool.or_self]
end

theorem error_not_mem_of_isSafe {erased : List String} {t : Ty} (h : (ofTy erased t).isSafe) :
    .error ∉ (ofTy erased t).callees := by
  obtain ⟨-, -, hunsafe, -⟩ | ⟨-, -, herror, -⟩ := fits_ofTy erased t
  · rw [h] at hunsafe
    cases hunsafe
  · exact herror

/-! ## Unsafe defaults -/

/-- The failing expression under closures of the given arities. -/
def nested (arities : List Nat) : Default := arities.foldr .closure .failure

/-- An unsafe default fails under as many closures as there are functions in the type. -/
theorem ofTy_eq_nested {erased : List String} :
    ∀ {t : Ty}, ¬ (ofTy erased t).isSafe → ofTy erased t = nested t.arities
  | .function params isSuspend result, h => by
      rw [ofTy] at h ⊢
      split at h
      · exact absurd rfl h
      · next hidentity =>
          rw [if_neg hidentity]
          split at h
          · exact absurd rfl h
          · next hrun =>
              rw [if_neg hrun]
              split at h
              · exact absurd rfl h
              · next hunit =>
                  rw [if_neg hunit, ofTy_eq_nested (t := result) h]
                  rfl
  | .nullable _, h => absurd (by rw [ofTy]; rfl) h
  | .primitive _, h | .apply .., h | .param _, h | .named _, h => by
      refine (isSafe_or_eq_failure erased ?_).resolve_left h
      nofun

theorem write_nested (policy : NamePolicy) (message : String) (arities : List Nat) :
    (nested arities).write policy message = arities.foldr closureText (failureText message) := by
  induction arities with
  | nil => rw [nested, List.foldr_nil, write, List.foldr_nil]
  | cons arity arities ih =>
      rw [nested, List.foldr_cons, write, List.foldr_cons, ← ih]
      rfl

theorem fails_nested_iff (arities : List Nat) (calls : Nat) :
    (nested arities).fails calls ↔ arities.length ≤ calls := by
  induction arities generalizing calls with
  | nil => simp [nested, fails]
  | cons arity arities ih =>
      cases calls with
      | zero => simp [nested, fails]
      | succ calls =>
          have hstep : (nested (arity :: arities)).fails (calls + 1) = (nested arities).fails calls := by
            rw [nested, List.foldr_cons, fails]
            rfl
          rw [hstep, ih, List.length_cons, Nat.add_le_add_iff_right]

theorem arities_eq_nil {t : Ty} (h : ¬ t.isFunction) : t.arities = [] := by
  cases t with
  | function => exact absurd rfl h
  | primitive | nullable | apply | param | named => rfl

theorem not_fails_of_isFunction {erased : List String} {t : Ty} (h : t.isFunction) :
    ¬ (ofTy erased t).fails 0 := by
  by_cases hsafe : (ofTy erased t).isSafe
  · rw [fails_eq_false_of_no_error _ 0 (error_not_mem_of_isSafe hsafe)]
    exact Bool.false_ne_true
  · cases t with
    | function params isSuspend result =>
        rw [ofTy_eq_nested hsafe, fails_nested_iff]
        exact Nat.not_succ_le_zero _
    | nullable inner => exact absurd (by rw [ofTy]; rfl) hsafe
    | primitive | apply | param | named => cases h

/-- A safe default is written alike with any two messages, calls no `error` and never fails. One that
    is not safe is the failing expression, under as many closures as functions follow one another in
    its type; it fails as soon as all of these have been called. A function never fails before it is
    called. -/
theorem isSafe_exact (erased : List String) (t : Ty) (policy : NamePolicy) :
    ((ofTy erased t).isSafe →
      (∀ message other,
        (ofTy erased t).write policy message = (ofTy erased t).write policy other) ∧
      .error ∉ (ofTy erased t).callees ∧
      ∀ calls, ¬ (ofTy erased t).fails calls) ∧
    (¬ (ofTy erased t).isSafe →
      (∀ message, (ofTy erased t).write policy message =
        t.arities.foldr closureText (failureText message)) ∧
      (¬ t.isFunction → ∀ message, (ofTy erased t).write policy message = failureText message) ∧
      ∀ calls, (ofTy erased t).fails calls ↔ t.arities.length ≤ calls) ∧
    (t.isFunction → ¬ (ofTy erased t).fails 0) := by
  refine ⟨fun hsafe => ?_, fun hunsafe => ?_, not_fails_of_isFunction⟩
  · have herror := error_not_mem_of_isSafe hsafe
    refine ⟨fun message other => write_eq_of_no_error policy message other _ herror, herror, ?_⟩
    intro calls
    rw [fails_eq_false_of_no_error _ calls herror]
    exact Bool.false_ne_true
  · rw [ofTy_eq_nested hunsafe]
    refine ⟨fun message => write_nested policy message t.arities, ?_, fails_nested_iff t.arities⟩
    intro hfunction message
    rw [write_nested, arities_eq_nil hfunction, List.foldr_nil]

/-- The type `(String) -> () -> T`. -/
def supplier : Ty := .function [.primitive .string] false (.function [] false (.param "T"))

/-- A pair of a list and a function is safe whatever the message is, and a supplier of values of an
    unknown type fails when what it returns is called. -/
theorem isSafe_exact_supplier :
    let pair := Ty.apply ⟨"kotlin", "Pair"⟩
      [.apply ⟨"kotlin.collections", "List"⟩ [.param "T"], .function [] false (.primitive .int)]
    ((ofTy [] pair).isSafe ∧
      ∀ message other, (ofTy [] pair).write .plain message = (ofTy [] pair).write .plain other) ∧
    ¬ (ofTy [] supplier).isSafe ∧
    (ofTy [] supplier).write .plain "no value" = "\x7b _ -> \x7b error(\"no value\") \x7d \x7d" ∧
    ∀ calls, (ofTy [] supplier).fails calls ↔ 2 ≤ calls := by
  obtain ⟨hsafe, -, -⟩ := isSafe_exact [] (.apply ⟨"kotlin", "Pair"⟩
    [.apply ⟨"kotlin.collections", "List"⟩ [.param "T"], .function [] false (.primitive .int)]) .plain
  obtain ⟨-, hunsafe, -⟩ := isSafe_exact [] supplier .plain
  obtain ⟨hwrite, -, hfails⟩ := hunsafe (by decide)
  exact ⟨⟨by decide, (hsafe (by decide)).1⟩, by decide, (hwrite "no value").trans (by decide), hfails⟩

end Default

end KotlinFakes
