import KotlinFakes.Proofs.Ty.Erasure

/-!
# Composed substitutions

Two substitutions one after the other are one substitution: what the first puts in is substituted in by
the second. Marks of nullability may meet on the way and become one, and it makes no difference after
which of the two they do. Erasing in two steps therefore erases what either of them names.
-/

namespace KotlinFakes.Ty

/-- What becomes of a parameter under two substitutions, one after the other. -/
def composed (first next : String → Option Ty) (name : String) : Option Ty :=
  match first name with
  | some t => some (t.substitute next)
  | none => next name

theorem orNull_orNull (t : Ty) : t.orNull.orNull = t.orNull := by
  cases t <;> rfl

theorem substitute_orNull (replace : String → Option Ty) (t : Ty) :
    t.orNull.substitute replace = (t.substitute replace).orNull := by
  by_cases h : t.isNullable
  · cases t with
    | nullable inner => rw [orNull, substitute, orNull_orNull]
    | primitive | apply | function | param | named => cases h
  · rw [orNull_eq_nullable (Bool.eq_false_iff.2 h), substitute]

section

variable (first next : String → Option Ty)

mutual
theorem substitute_substitute : ∀ t : Ty,
    (t.substitute first).substitute next = t.substitute (composed first next)
  | .primitive _ | .named _ => by simp only [substitute]
  | .param name => by
      rw [substitute, substitute, composed]
      cases first name with
      | none => rw [Option.getD_none, substitute]
      | some t => rw [Option.getD_some, Option.getD_some]
  | .nullable inner => by
      rw [substitute, substitute, substitute_orNull, substitute_substitute inner]
  | .apply _ args => by
      rw [substitute, substitute, substitute, substituteAll_substituteAll args]
  | .function params _ result => by
      rw [substitute, substitute, substitute, substituteAll_substituteAll params,
        substitute_substitute result]
theorem substituteAll_substituteAll : ∀ ts : List Ty,
    substituteAll next (substituteAll first ts) = substituteAll (composed first next) ts
  | [] => by rw [substituteAll, substituteAll, substituteAll]
  | t :: ts => by
      rw [substituteAll, substituteAll, substituteAll, substitute_substitute t,
        substituteAll_substituteAll ts]
end

end

/-! ## Marks -/

section

variable {replace : String → Option Ty}

mutual
theorem isMarkedOnce_substitute (h : ∀ name u, replace name = some u → u.isMarkedOnce) :
    ∀ {t : Ty}, t.isMarkedOnce → (t.substitute replace).isMarkedOnce
  | .primitive _, hmarked | .named _, hmarked => by rwa [substitute]
  | .param name, _ => by
      rw [substitute]
      cases hreplace : replace name with
      | none => rw [Option.getD_none, isMarkedOnce]
      | some u => exact h name u hreplace
  | .nullable inner, hmarked => by
      rw [isMarkedOnce, Bool.and_eq_true] at hmarked
      rw [substitute]
      exact isMarkedOnce_orNull (isMarkedOnce_substitute h hmarked.2)
  | .apply _ args, hmarked => by
      rw [isMarkedOnce] at hmarked
      rw [substitute, isMarkedOnce]
      exact allMarkedOnce_substituteAll h hmarked
  | .function params _ result, hmarked => by
      rw [isMarkedOnce, Bool.and_eq_true] at hmarked
      rw [substitute, isMarkedOnce, Bool.and_eq_true]
      exact ⟨allMarkedOnce_substituteAll h hmarked.1, isMarkedOnce_substitute h hmarked.2⟩
theorem allMarkedOnce_substituteAll (h : ∀ name u, replace name = some u → u.isMarkedOnce) :
    ∀ {ts : List Ty}, allMarkedOnce ts → allMarkedOnce (substituteAll replace ts)
  | [], _ => by rw [substituteAll, allMarkedOnce]
  | t :: ts, hmarked => by
      rw [allMarkedOnce, Bool.and_eq_true] at hmarked
      rw [substituteAll, allMarkedOnce, Bool.and_eq_true]
      exact ⟨isMarkedOnce_substitute h hmarked.1, allMarkedOnce_substituteAll h hmarked.2⟩
end

end

/-! ## Erasing in steps -/

/-- The substitution by which parameters are erased. -/
def erasing (names : List String) (name : String) : Option Ty :=
  if names.contains name then some top else none

/-- Erasing nothing is a substitution like any other, as long as no mark is doubled: only a doubled
    mark would be changed by it. -/
theorem erase_eq_substitute {t : Ty} (h : t.isMarkedOnce) (names : List String) :
    t.erase names = t.substitute (erasing names) := by
  unfold erase
  split
  · next hempty =>
      refine (substitute_eq_self h fun name _ => ?_).symm
      rw [erasing, List.isEmpty_iff.1 hempty]
      rfl
  · rfl

theorem isMarkedOnce_erase {t : Ty} (h : t.isMarkedOnce) (names : List String) :
    (t.erase names).isMarkedOnce := by
  rw [erase_eq_substitute h]
  refine isMarkedOnce_substitute (fun name u hu => ?_) h
  unfold erasing at hu
  split at hu
  · rw [← Option.some.inj hu]
    rfl
  · cases hu

theorem erase_erase {t : Ty} (h : t.isMarkedOnce) {names more all : List String}
    (hall : ∀ name, name ∈ all ↔ name ∈ names ∨ name ∈ more) :
    (t.erase names).erase more = t.erase all := by
  have hcomposed : composed (erasing names) (erasing more) = erasing all := by
    funext name
    have hmem := hall name
    by_cases hnames : name ∈ names
    · -- What is put in first mentions nothing that the second step could erase.
      have htop : top.substitute (erasing more) = top := by simp only [top, substitute, orNull]
      simp [composed, erasing, hnames, hmem, htop]
    · simp [composed, erasing, hnames, hmem]
  rw [erase_eq_substitute (isMarkedOnce_erase h names), erase_eq_substitute h,
    substitute_substitute, hcomposed, ← erase_eq_substitute h]

/-- Substituting twice is substituting once. In a type without a doubled mark, erasing leaves exactly
    the parameters that are not named, doubles no mark, changes nothing exactly where nothing is
    named, and may be done in steps. -/
theorem substitute_and_erase_lawful (t : Ty) :
    (∀ first next,
      (t.substitute first).substitute next = t.substitute (composed first next)) ∧
    (t.isMarkedOnce → ∀ names,
      (∀ name, (t.erase names).mentions name ↔ t.mentions name ∧ name ∉ names) ∧
      (t.erase names).isMarkedOnce ∧
      (t.erase names = t ↔ ∀ name ∈ names, ¬ t.mentions name) ∧
      ∀ more all, (∀ name, name ∈ all ↔ name ∈ names ∨ name ∈ more) →
        (t.erase names).erase more = t.erase all) := by
  refine ⟨fun first next => substitute_substitute first next t, fun h names => ?_⟩
  have hmentions (t : Ty) (name : String) : t.mentions name ↔ name ∈ t.params := by
    rw [mentions, List.contains_iff_mem]
  refine ⟨fun name => ?_, isMarkedOnce_erase h names, ?_, fun more all hall => erase_erase h hall⟩
  · rw [hmentions, hmentions, mem_params_erase]
  · rw [erase_eq_self_iff h, mentionsAny_iff]
    constructor
    · intro hnone name hname hmention
      exact hnone ⟨name, (hmentions t name).1 hmention, hname⟩
    · rintro hnone ⟨name, hmention, hname⟩
      exact hnone name hname ((hmentions t name).2 hmention)

/-- The type `(T?) -> List<U>`. -/
def finder : Ty :=
  .function [.nullable (.param "T")] false (.apply ⟨"kotlin.collections", "List"⟩ [.param "U"])

/-- The substitution of one parameter. -/
def replacing (param : String) (t : Ty) (name : String) : Option Ty :=
  if name = param then some t else none

/-- With `X?` for `T` and then `Int?` for `X` the argument has one mark of three; erasing `T` and then
    `U` erases both. -/
theorem substitute_and_erase_lawful_finder :
    (finder.substitute (replacing "T" (.nullable (.param "X")))).substitute
        (replacing "X" (.nullable (.primitive .int))) =
      .function [.nullable (.primitive .int)] false
        (.apply ⟨"kotlin.collections", "List"⟩ [.param "U"]) ∧
    finder.isMarkedOnce ∧ finder.erase ["T"] ≠ finder ∧ finder.erase ["X"] = finder ∧
    (finder.erase ["T"]).erase ["U"] =
      .function [top] false (.apply ⟨"kotlin.collections", "List"⟩ [top]) := by
  obtain ⟨hcomposed, herase⟩ := substitute_and_erase_lawful finder
  have hmarked : finder.isMarkedOnce := by decide
  obtain ⟨-, -, hchanged, hsteps⟩ := herase hmarked ["T"]
  obtain ⟨-, -, hkept, -⟩ := herase hmarked ["X"]
  refine ⟨(hcomposed _ _).trans (by decide), hmarked, fun h => ?_, hkept.2 (by decide), ?_⟩
  · exact hchanged.1 h "T" (by decide) (by decide)
  · exact (hsteps ["U"] ["U", "T"] (by simp [or_comm])).trans (by decide)

end KotlinFakes.Ty
