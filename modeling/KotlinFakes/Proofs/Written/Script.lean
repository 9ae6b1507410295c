import KotlinFakes.Layout
import KotlinFakes.Proofs.Written.Outline

/-!
# Scripts of generated texts

A script is a text in pieces, with the names that it takes from a declaration marked. A name is written as
it stands or between backquotes if it is a keyword, and it is escaped if each of its keywords is written
between backquotes.
-/

namespace KotlinFakes

open Identifier

/-! ## Pieces -/

/-- A piece of a generated text. -/
inductive Piece where
  /-- A text in which names of the declaration stand only inside longer names, literals and comments. -/
  | fixed (text : String)
  /-- A dotted name as it stands. -/
  | bare (path : String)
  /-- A single name, quoted if it is a keyword. -/
  | quoted (name : String)
  deriving Repr, DecidableEq

namespace Piece

def text : Piece → String
  | .fixed text => text
  | .bare path => path
  | .quoted name => Identifier.quoted name

/-- The segments of the name in a piece. -/
def segments : Piece → List String
  | .fixed _ => []
  | .bare path => Text.segments path
  | .quoted name => [name]

/-- The segments of the name in a piece as they are written. -/
def written : Piece → List String
  | .fixed _ => []
  | .bare path => Text.segments path
  | .quoted name => [Identifier.quoted name]

/-- Whether every keyword in the name of a piece is written between backquotes. -/
def IsEscaped (p : Piece) : Prop :=
  List.Forall₂ (fun segment written => segment ∈ hardKeywords → written = "`" ++ segment ++ "`")
    p.segments p.written

instance : DecidablePred IsEscaped := fun p =>
  inferInstanceAs (Decidable (List.Forall₂ _ p.segments p.written))

end Piece

/-- Whether no segment of a dotted name is a keyword. -/
def NoKeyword (path : String) : Prop := ∀ segment ∈ Text.segments path, segment ∉ hardKeywords

instance (path : String) : Decidable (NoKeyword path) := List.decidableBAll ..

theorem backquoted_ne (segment : String) : segment ≠ "`" ++ segment ++ "`" := by
  intro h
  have hlength := congrArg (fun text : String => text.toList.length) h
  simp only [String.toList_append, List.length_append] at hlength
  have hquote : "`".toList.length = 1 := rfl
  omega

namespace Piece

theorem joinWith_written {p : Piece} (h : p.segments ≠ []) : Text.joinWith "." p.written = p.text := by
  cases p with
  | fixed text => exact absurd rfl h
  | bare path => exact Text.joinWith_segments path
  | quoted name => rfl

@[simp] theorem isEscaped_fixed (text : String) : (fixed text).IsEscaped := .nil

@[simp] theorem isEscaped_quoted (name : String) : (quoted name).IsEscaped := by
  refine .cons (fun h => ?_) .nil
  simp [Identifier.quoted, h]

@[simp] theorem isEscaped_bare (path : String) : (bare path).IsEscaped ↔ NoKeyword path := by
  simp only [IsEscaped, segments, written, List.forall₂_same, backquoted_ne, imp_false, NoKeyword]

end Piece

/-! ## Scripts -/

abbrev Script := List Piece

namespace Script

def text : Script → String
  | [] => ""
  | p :: ps => p.text ++ text ps

/-- The scripts of a list with a separator between each two of them. -/
def joinWith (separator : String) : List Script → Script
  | [] => []
  | [s] => s
  | s :: next :: rest => s ++ .fixed separator :: joinWith separator (next :: rest)

/-- Scripts between angle brackets, or nothing for an empty list. -/
def bracketed (scripts : List Script) : Script :=
  if scripts.isEmpty then [] else .fixed "<" :: joinWith ", " scripts ++ [.fixed ">"]

/-- Whether all keywords in the names of a script are written between backquotes. -/
def IsEscaped (s : Script) : Prop := ∀ p ∈ s, p.IsEscaped

instance : DecidablePred IsEscaped := fun _ => List.decidableBAll ..

@[simp] theorem text_nil : text [] = "" := rfl

@[simp] theorem text_cons (p : Piece) (s : Script) : text (p :: s) = p.text ++ text s := rfl

@[simp] theorem text_append (s s' : Script) : text (s ++ s') = text s ++ text s' := by
  induction s with
  | nil => simp
  | cons p s ih => simp [ih, String.append_assoc]

@[simp] theorem text_joinWith (separator : String) (scripts : List Script) :
    text (joinWith separator scripts) = Text.joinWith separator (scripts.map text) := by
  induction scripts with
  | nil => rfl
  | cons s rest ih =>
      cases rest with
      | nil => rfl
      | cons next rest => simpa [joinWith, Text.joinWith, Piece.text, String.append_assoc] using ih

@[simp] theorem text_bracketed (scripts : List Script) :
    text (bracketed scripts) = NamePolicy.bracketed (scripts.map text) := by
  cases scripts with
  | nil => rfl
  | cons s rest => simp [bracketed, NamePolicy.bracketed, Piece.text, String.append_assoc]

@[simp] theorem isEscaped_nil : IsEscaped [] := by simp [IsEscaped]

@[simp] theorem isEscaped_cons {p : Piece} {s : Script} :
    IsEscaped (p :: s) ↔ p.IsEscaped ∧ IsEscaped s := List.forall_mem_cons

@[simp] theorem isEscaped_append {s s' : Script} :
    IsEscaped (s ++ s') ↔ IsEscaped s ∧ IsEscaped s' := List.forall_mem_append

@[simp] theorem isEscaped_joinWith {separator : String} {scripts : List Script} :
    IsEscaped (joinWith separator scripts) ↔ ∀ s ∈ scripts, IsEscaped s := by
  induction scripts with
  | nil => simp [joinWith]
  | cons s rest ih =>
      cases rest with
      | nil => simp [joinWith]
      | cons next rest => rw [joinWith, isEscaped_append, isEscaped_cons, ih]; simp

@[simp] theorem isEscaped_bracketed {scripts : List Script} :
    IsEscaped (bracketed scripts) ↔ ∀ s ∈ scripts, IsEscaped s := by
  cases scripts with
  | nil => simp [bracketed]
  | cons s rest => simp [bracketed]

end Script

/-! ## Types and type parameters -/

namespace Ty

mutual
/-- The script of a written type. -/
def script (policy : NamePolicy) : Ty → Script
  | .primitive p => [.fixed p.name]
  | .nullable inner =>
    if inner.isFunction then .fixed "(" :: script policy inner ++ [.fixed ")?"]
    else script policy inner ++ [.fixed "?"]
  | .apply name args =>
    match scripts policy args with
    | [] => [.bare (policy.writeName name)]
    | first :: rest =>
      if name = outName then .fixed "out " :: first
      else .bare (policy.writeName name) :: Script.bracketed (first :: rest)
  | .function params isSuspend result =>
    .fixed (if isSuspend then "suspend (" else "(") :: Script.joinWith ", " (scripts policy params) ++
      .fixed ") -> " :: script policy result
  | .param name => [.bare name]
  | .named name => [.bare (policy.writeName name)]
def scripts (policy : NamePolicy) : List Ty → List Script
  | [] => []
  | t :: ts => script policy t :: scripts policy ts
end

variable (policy : NamePolicy)

theorem scripts_eq_map (ts : List Ty) : scripts policy ts = ts.map (script policy) := by
  induction ts with
  | nil => rw [scripts, List.map_nil]
  | cons t ts ih => rw [scripts, ih, List.map_cons]

mutual
@[simp] theorem text_script : ∀ t : Ty, (t.script policy).text = policy.write t
  | .primitive p => by simp [script, NamePolicy.write, Piece.text]
  | .nullable inner => by
      rw [script, NamePolicy.write, ← text_script inner]
      split <;> simp [Piece.text, String.append_assoc]
  | .apply name args => by
      rw [script, NamePolicy.write, ← text_scripts args]
      cases scripts policy args with
      | nil => simp [Piece.text]
      | cons first rest =>
          dsimp only [List.map_cons]
          split <;> simp [Piece.text]
  | .function params isSuspend result => by
      rw [script, NamePolicy.write, ← text_scripts params, ← text_script result]
      cases isSuspend <;> simp [Piece.text, String.append_assoc]
  | .param name => by simp [script, NamePolicy.write, Piece.text]
  | .named name => by simp [script, NamePolicy.write, Piece.text]
theorem text_scripts : ∀ ts : List Ty, (scripts policy ts).map Script.text = policy.writeAll ts
  | [] => by rw [scripts, NamePolicy.writeAll, List.map_nil]
  | t :: ts => by rw [scripts, NamePolicy.writeAll, List.map_cons, text_script t, text_scripts ts]
end

end Ty

namespace TypeParam

/-- The script of a type parameter in a list of them. -/
def script (policy : NamePolicy) (isReified : Bool) (param : TypeParam) : Script :=
  .fixed (if isReified then "reified " else "") :: .bare param.name ::
    match param.bounds with
    | [bound] => .fixed " : " :: bound.script policy
    | _ => []

/-- The script of a list of type parameters between angle brackets. -/
def listScript (policy : NamePolicy) (isReified : Bool) (params : List TypeParam) : Script :=
  Script.bracketed (params.map (script policy isReified))

/-- The scripts of the constraints in a `where` clause. -/
def constraintScripts (policy : NamePolicy) (param : TypeParam) : List Script :=
  if param.needsWhere then
    param.bounds.map fun bound => .bare param.name :: .fixed " : " :: bound.script policy
  else []

def whereScript (policy : NamePolicy) (params : List TypeParam) : Script :=
  let all := params.flatMap (constraintScripts policy)
  if all.isEmpty then [] else .fixed " where " :: Script.joinWith ", " all

/-- The script of the type arguments that name the parameters themselves. -/
def argumentScript (params : List TypeParam) : Script :=
  Script.bracketed (params.map fun param => [.bare param.name])

/-- Whether there are no keywords in the name of a type parameter and in its bounds. -/
def NoKeyword (policy : NamePolicy) (param : TypeParam) : Prop :=
  KotlinFakes.NoKeyword param.name ∧ ∀ bound ∈ param.bounds, (bound.script policy).IsEscaped

variable (policy : NamePolicy)

theorem text_script (isReified : Bool) (param : TypeParam) :
    (param.script policy isReified).text = policy.writeTypeParam isReified param := by
  obtain ⟨name, bounds, _⟩ := param
  match bounds with
  | [] => simp [script, NamePolicy.writeTypeParam, Piece.text]
  | [bound] => simp [script, NamePolicy.writeTypeParam, Piece.text, String.append_assoc]
  | bound :: next :: rest => simp [script, NamePolicy.writeTypeParam, Piece.text]

@[simp] theorem text_listScript (isReified : Bool) (params : List TypeParam) :
    (listScript policy isReified params).text = policy.writeTypeParams isReified params := by
  simp [listScript, NamePolicy.writeTypeParams, text_script, Function.comp_def]

theorem text_constraintScripts (param : TypeParam) :
    (param.constraintScripts policy).map Script.text = policy.constraints param := by
  unfold constraintScripts NamePolicy.constraints
  split <;> simp [Piece.text, String.append_assoc]

@[simp] theorem text_whereScript (params : List TypeParam) :
    (whereScript policy params).text = policy.writeWhere params := by
  have hall : (params.flatMap (constraintScripts policy)).map Script.text =
      params.flatMap policy.constraints := by
    simp [List.map_flatMap, text_constraintScripts]
  simp only [whereScript, NamePolicy.writeWhere, ← hall, List.isEmpty_map]
  split <;> simp [Piece.text]

@[simp] theorem text_argumentScript (params : List TypeParam) :
    (argumentScript params).text = NamePolicy.writeArguments params := by
  simp [argumentScript, NamePolicy.writeArguments, Piece.text, Function.comp_def]

@[simp] theorem isEscaped_argumentScript {params : List TypeParam} :
    (argumentScript params).IsEscaped ↔ ∀ param ∈ params, KotlinFakes.NoKeyword param.name := by
  simp [argumentScript]

/-- A single bound is written in the list and several are in the `where` clause, so together they show
    all bounds. -/
theorem isEscaped_script_and_constraints (isReified : Bool) (param : TypeParam) :
    (param.script policy isReified).IsEscaped ∧
        (∀ s ∈ param.constraintScripts policy, s.IsEscaped) ↔ param.NoKeyword policy := by
  obtain ⟨name, bounds, _⟩ := param
  by_cases hname : KotlinFakes.NoKeyword name
  · match bounds with
    | [] | [bound] | bound :: next :: rest =>
        simp [script, constraintScripts, NoKeyword, needsWhere, hname]
  · simp [script, NoKeyword, hname]

theorem isEscaped_whereScript {params : List TypeParam} :
    (whereScript policy params).IsEscaped ↔
      ∀ param ∈ params, ∀ s ∈ param.constraintScripts policy, s.IsEscaped := by
  simp only [whereScript]
  split
  · next hempty =>
      rw [List.isEmpty_iff, List.flatMap_eq_nil_iff] at hempty
      simp +contextual [hempty]
  · simp [List.mem_flatMap]
    tauto

theorem isEscaped_listed (isReified : Bool) {params : List TypeParam} :
    (listScript policy isReified params).IsEscaped ∧ (whereScript policy params).IsEscaped ↔
      ∀ param ∈ params, param.NoKeyword policy := by
  rw [listScript, Script.isEscaped_bracketed, List.forall_mem_map, isEscaped_whereScript]
  simp only [← isEscaped_script_and_constraints policy isReified]
  exact ⟨fun h param hp => ⟨h.1 param hp, h.2 param hp⟩,
    fun h => ⟨fun param hp => (h param hp).1, fun param hp => (h param hp).2⟩⟩

end TypeParam

end KotlinFakes
