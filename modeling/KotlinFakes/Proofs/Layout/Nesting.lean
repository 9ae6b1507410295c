import KotlinFakes.Layout

/-!
# Nesting

A fragment can also be written call by call. Each call moves the indentation by itself, and nothing but
the order of the calls keeps the braces in pairs. A writer that is told to leave level zero stops there.
It never stops at the calls that blocks stand for: these end at the level where they begin, and each
header is closed by a brace at its own indentation.
-/

namespace KotlinFakes.Layout

/-- A call that writes or moves the indentation. -/
inductive Call where
  | line (text : String)
  | blank
  /-- One level more, without a header. -/
  | indent
  /-- One level less, without a brace. -/
  | dedent
  /-- A header with a brace behind it, and one level more. -/
  | openBlock (header : String)
  /-- One level less, and a brace on a line of its own. -/
  | closeBlock
  deriving Repr, DecidableEq

namespace Call

def steps : Call → List Step
  | .line text => [.line text]
  | .blank => [.blank]
  | .indent => [.enter]
  | .dedent => [.leave]
  | .openBlock header => openSteps header
  | .closeBlock => closeSteps

/-- Whether a call goes back one level. -/
def leaves : Call → Bool
  | .dedent | .closeBlock => true
  | .line _ | .blank | .indent | .openBlock _ => false

/-- The call that goes back where a call went one level on. -/
def counterpart? : Call → Option Call
  | .indent => some .dedent
  | .openBlock _ => some .closeBlock
  | .line _ | .blank | .dedent | .closeBlock => none

theorem leaves_counterpart {c d : Call} (h : c.counterpart? = some d) :
    c.leaves = false ∧ d.leaves = true := by
  cases c <;> cases h <;> exact ⟨rfl, rfl⟩

end Call

namespace Writer

/-- Do one step, but stop where a level is to be left and there is none. -/
def step? (w : Writer) (s : Step) : Option Writer :=
  if s = .leave ∧ w.level = 0 then none else some (w.step s)

def call (w : Writer) (c : Call) : Writer := w.run c.steps

def call? (w : Writer) (c : Call) : Option Writer := c.steps.foldlM step? w

/-- What calls make of a writer that does not stop. -/
def callAll (w : Writer) (calls : List Call) : Writer := calls.foldl call w

def callAll? (w : Writer) (calls : List Call) : Option Writer := calls.foldlM call? w

theorem callAll_cons (w : Writer) (c : Call) (calls : List Call) :
    w.callAll (c :: calls) = (w.call c).callAll calls := rfl

theorem callAll?_cons (w : Writer) (c : Call) (calls : List Call) :
    w.callAll? (c :: calls) = (w.call? c).bind (callAll? · calls) := rfl

theorem callAll_append (w : Writer) (calls more : List Call) :
    w.callAll (calls ++ more) = (w.callAll calls).callAll more := List.foldl_append

theorem callAll?_append (w : Writer) (calls more : List Call) :
    w.callAll? (calls ++ more) = (w.callAll? calls).bind (callAll? · more) := List.foldlM_append

theorem level_call_of_flat (w : Writer) {c : Call} (hcounterpart : c.counterpart? = none)
    (hleaves : c.leaves = false) : (w.call c).level = w.level := by
  cases c with
  | line | blank => rfl
  | indent | openBlock => cases hcounterpart
  | dedent | closeBlock => cases hleaves

theorem level_call_of_counterpart (w : Writer) {c d : Call} (h : c.counterpart? = some d) :
    (w.call c).level = w.level + 1 := by
  cases c with
  | indent | openBlock => rfl
  | line | blank | dedent | closeBlock => cases h

theorem level_call_of_leaves (w : Writer) {c : Call} (h : c.leaves) :
    (w.call c).level = w.level - 1 := by
  cases c with
  | dedent | closeBlock => rfl
  | line | blank | indent | openBlock => cases h

theorem call?_eq (w : Writer) (c : Call) :
    w.call? c = if c.leaves ∧ w.level = 0 then none else some (w.call c) := by
  by_cases hlevel : w.level = 0 <;>
    cases c <;>
    simp [call?, call, Call.steps, Call.leaves, openSteps, closeSteps, run, step?, step, hlevel]

theorem call?_of_not_leaves (w : Writer) {c : Call} (h : c.leaves = false) :
    w.call? c = some (w.call c) := by
  rw [call?_eq, if_neg (by simp [h])]

theorem call?_of_level_ne_zero {w : Writer} (h : w.level ≠ 0) (c : Call) :
    w.call? c = some (w.call c) := by
  rw [call?_eq, if_neg (by simp [h])]

theorem eq_callAll_of_callAll? {w w' : Writer} {calls : List Call} (h : w.callAll? calls = some w') :
    w' = w.callAll calls := by
  induction calls generalizing w with
  | nil => exact (Option.some.inj h).symm
  | cons c calls ih =>
      rw [callAll?_cons, call?_eq] at h
      split at h
      · cases h
      · exact ih h

end Writer

/-- Calls that come back from every level to which they go, from each by the right call. -/
inductive WellNested : List Call → Prop where
  | nil : WellNested []
  | flat {c : Call} {rest : List Call} (hcounterpart : c.counterpart? = none)
      (hleaves : c.leaves = false) (hrest : WellNested rest) : WellNested (c :: rest)
  | pair {c d : Call} {body rest : List Call} (hcounterpart : c.counterpart? = some d)
      (hbody : WellNested body) (hrest : WellNested rest) : WellNested (c :: (body ++ d :: rest))

namespace WellNested

variable {calls : List Call}

theorem append {more : List Call} (h : WellNested calls) (hmore : WellNested more) :
    WellNested (calls ++ more) := by
  induction h with
  | nil => exact hmore
  | flat hcounterpart hleaves _ ih => exact .flat hcounterpart hleaves ih
  | pair hcounterpart hbody _ _ ih =>
      rw [List.cons_append, List.append_assoc]
      exact .pair hcounterpart hbody ih

theorem level_callAll (h : WellNested calls) (w : Writer) : (w.callAll calls).level = w.level := by
  induction h generalizing w with
  | nil => rfl
  | flat hcounterpart hleaves _ ih =>
      rw [Writer.callAll_cons, ih, w.level_call_of_flat hcounterpart hleaves]
  | pair hcounterpart _ _ ihbody ihrest =>
      have hclose := (Call.leaves_counterpart hcounterpart).2
      rw [Writer.callAll_cons, Writer.callAll_append, Writer.callAll_cons, ihrest,
        Writer.level_call_of_leaves _ hclose, ihbody, w.level_call_of_counterpart hcounterpart,
        Nat.add_sub_cancel]

/-- No writer stops at well nested calls. -/
theorem callAll?_eq (h : WellNested calls) (w : Writer) :
    w.callAll? calls = some (w.callAll calls) := by
  induction h generalizing w with
  | nil => rfl
  | flat _ hleaves _ ih =>
      have hcall := w.call?_of_not_leaves hleaves
      rw [Writer.callAll?_cons, hcall, Option.bind_some, ih, Writer.callAll_cons]
  | @pair c d body rest hcounterpart hbody _ ihbody ihrest =>
      have hcall := w.call?_of_not_leaves (Call.leaves_counterpart hcounterpart).1
      have hlevel : ((w.call c).callAll body).level ≠ 0 := by
        rw [hbody.level_callAll, w.level_call_of_counterpart hcounterpart]
        omega
      have hback := Writer.call?_of_level_ne_zero hlevel d
      rw [Writer.callAll?_cons, hcall, Option.bind_some, Writer.callAll?_append, ihbody,
        Option.bind_some, Writer.callAll?_cons, hback, Option.bind_some, ihrest, Writer.callAll_cons,
        Writer.callAll_append, Writer.callAll_cons]

theorem level_le_callAll (h : WellNested calls) (w : Writer) {part : List Call} (hpart : part <+: calls) :
    w.level ≤ (w.callAll part).level := by
  induction h generalizing w part with
  | nil =>
      obtain rfl := List.prefix_nil.1 hpart
      exact Nat.le_refl _
  | @flat c rest hcounterpart hleaves _ ih =>
      obtain rfl | ⟨more, rfl, hmore⟩ := List.prefix_cons_iff.1 hpart
      · exact Nat.le_refl _
      · have hfloor := ih (w.call c) hmore
        rw [w.level_call_of_flat hcounterpart hleaves] at hfloor
        exact hfloor
  | @pair c d body rest hcounterpart hbody _ ihbody ihrest =>
      have hclose := (Call.leaves_counterpart hcounterpart).2
      have hopen := w.level_call_of_counterpart hcounterpart
      have hback := hbody.level_callAll (w.call c)
      obtain rfl | ⟨more, rfl, hmore⟩ := List.prefix_cons_iff.1 hpart
      · exact Nat.le_refl _
      rw [Writer.callAll_cons]
      -- The part ends within the body or behind it.
      obtain hinside | ⟨behind, rfl⟩ := List.prefix_or_prefix_of_prefix hmore (List.prefix_append ..)
      · have hfloor := ihbody (w.call c) hinside
        omega
      · rw [List.prefix_append_right_inj] at hmore
        rw [Writer.callAll_append]
        obtain rfl | ⟨last, rfl, hlast⟩ := List.prefix_cons_iff.1 hmore
        · rw [Writer.callAll, List.foldl_nil]
          omega
        · have hfloor := ihrest (((w.call c).callAll body).call d) hlast
          rw [Writer.level_call_of_leaves _ hclose] at hfloor
          rw [Writer.callAll_cons]
          omega

/-- Wherever well nested calls go one level on, they come back by the right call. -/
theorem exists_body (h : WellNested calls) {before after : List Call} {c d : Call}
    (hcalls : calls = before ++ c :: after) (hcounterpart : c.counterpart? = some d) :
    ∃ body rest, after = body ++ d :: rest ∧ WellNested body := by
  have hopen := (Call.leaves_counterpart hcounterpart).1
  induction h generalizing before after with
  | nil => simp at hcalls
  | @flat c' rest hnone _ _ ih =>
      obtain ⟨rfl, heq⟩ | ⟨before', rfl, heq⟩ := List.cons_eq_append_iff.1 hcalls
      · obtain ⟨rfl, rfl⟩ := List.cons.inj heq
        rw [hnone] at hcounterpart
        cases hcounterpart
      · exact ih heq
  | @pair c' d' body' rest' hcounterpart' hbody' _ ihbody ihrest =>
      have hclose := (Call.leaves_counterpart hcounterpart').2
      have hne : c ≠ d' := by
        rintro rfl
        rw [hopen] at hclose
        cases hclose
      obtain ⟨rfl, heq⟩ | ⟨before', rfl, heq⟩ := List.cons_eq_append_iff.1 hcalls
      · obtain ⟨rfl, rfl⟩ := List.cons.inj heq
        rw [hcounterpart, Option.some.injEq] at hcounterpart'
        exact ⟨body', rest', by rw [hcounterpart'], hbody'⟩
      -- The call stands behind this body or within it, and it is not the one that ends the body.
      obtain ⟨between, rfl, hbehind⟩ | ⟨ahead, rfl, hwithin⟩ := List.append_eq_append_iff.1 heq
      · obtain ⟨rfl, hhead⟩ | ⟨between', rfl, hrest⟩ := List.cons_eq_append_iff.1 hbehind
        · exact absurd (List.cons.inj hhead).1 hne
        · exact ihrest hrest
      · obtain ⟨rfl, hhead⟩ | ⟨ahead', rfl, rfl⟩ := List.cons_eq_append_iff.1 hwithin
        · exact absurd (List.cons.inj hhead).1.symm hne
        · obtain ⟨body, rest, rfl, hbody⟩ := ihbody rfl
          exact ⟨body, rest ++ d' :: rest', by simp, hbody⟩

end WellNested

namespace Block

mutual
/-- The calls that a block stands for. -/
def calls : Block → List Call
  | .line text => [.line text]
  | .blank => [.blank]
  | .block header body => .openBlock header :: (callsAll body ++ [.closeBlock])
  | .nested body => .indent :: (callsAll body ++ [.dedent])
def callsAll : List Block → List Call
  | [] => []
  | b :: bs => b.calls ++ callsAll bs
end

@[simp] theorem calls_line (text : String) : (line text).calls = [.line text] := by rw [calls]

@[simp] theorem calls_blank : blank.calls = [.blank] := by rw [calls]

@[simp] theorem calls_block (header : String) (body : List Block) :
    (block header body).calls = .openBlock header :: (callsAll body ++ [.closeBlock]) := by rw [calls]

@[simp] theorem calls_nested (body : List Block) :
    (nested body).calls = .indent :: (callsAll body ++ [.dedent]) := by rw [calls]

@[simp] theorem callsAll_nil : callsAll [] = [] := by rw [callsAll]

@[simp] theorem callsAll_cons (b : Block) (bs : List Block) :
    callsAll (b :: bs) = b.calls ++ callsAll bs := by rw [callsAll]

@[simp] theorem callsAll_append (bs cs : List Block) :
    callsAll (bs ++ cs) = callsAll bs ++ callsAll cs := by
  induction bs with
  | nil => simp
  | cons b bs ih => simp [ih]

mutual
theorem wellNested_calls : ∀ b : Block, WellNested b.calls
  | .line _ => by
      rw [calls_line]
      exact .flat rfl rfl .nil
  | .blank => by
      rw [calls_blank]
      exact .flat rfl rfl .nil
  | .block _ body => by
      rw [calls_block]
      exact .pair rfl (wellNested_callsAll body) .nil
  | .nested body => by
      rw [calls_nested]
      exact .pair rfl (wellNested_callsAll body) .nil
theorem wellNested_callsAll : ∀ bs : List Block, WellNested (callsAll bs)
  | [] => by
      rw [callsAll_nil]
      exact .nil
  | b :: bs => by
      rw [callsAll_cons]
      exact (wellNested_calls b).append (wellNested_callsAll bs)
end

mutual
theorem flatMap_steps_calls : ∀ b : Block, b.calls.flatMap Call.steps = b.steps
  | .line _ | .blank => by simp [steps, Call.steps]
  | .block _ body | .nested body => by simp [steps, Call.steps, flatMap_steps_callsAll body]
theorem flatMap_steps_callsAll : ∀ bs : List Block,
    (callsAll bs).flatMap Call.steps = stepsAll bs
  | [] => by simp [stepsAll]
  | b :: bs => by
      simp [stepsAll, flatMap_steps_calls b, flatMap_steps_callsAll bs]
end

theorem output_callAll (bs : List Block) :
    (Writer.start.callAll (callsAll bs)).output = text bs := by
  have hcalls : Writer.start.callAll (callsAll bs) =
      Writer.start.run ((callsAll bs).flatMap Call.steps) := List.foldl_flatMap.symm
  rw [hcalls, flatMap_steps_callsAll, text]

end Block

/-- A writer with the calls that brought it where it is. It did not stop at any of them. -/
structure Context where
  calls : List Call
  writer : Writer
  written : Writer.start.callAll? calls = some writer

namespace Context

def start : Context := ⟨[], .start, rfl⟩

/-- One more call, unless the writer stops at it. -/
def call? (ctx : Context) (c : Call) : Option Context :=
  match h : ctx.writer.call? c with
  | none => none
  | some writer =>
    some ⟨ctx.calls ++ [c], writer, by
      rw [Writer.callAll?_append, ctx.written, Option.bind_some, Writer.callAll?_cons, h]
      rfl⟩

theorem writer_eq (ctx : Context) : ctx.writer = Writer.start.callAll ctx.calls :=
  Writer.eq_callAll_of_callAll? ctx.written

theorem exists_call? {ctx : Context} {c : Call} {writer : Writer}
    (h : ctx.writer.call? c = some writer) :
    ∃ next, ctx.call? c = some next ∧ next.calls = ctx.calls ++ [c] ∧ next.writer = writer := by
  unfold call?
  split
  · next hnone =>
      rw [hnone] at h
      cases h
  · next writer' hsome =>
      rw [hsome] at h
      exact ⟨_, rfl, rfl, Option.some.inj h⟩

theorem level_pos (ctx : Context) {before after : List Call} {c : Call}
    (hcalls : ctx.calls = before ++ c :: after) (hleaves : c.leaves) :
    0 < (Writer.start.callAll before).level := by
  have hwritten := ctx.written
  rw [hcalls, Writer.callAll?_append, Option.bind_eq_some_iff] at hwritten
  obtain ⟨between, hbefore, hrest⟩ := hwritten
  rw [Writer.callAll?_cons, Option.bind_eq_some_iff] at hrest
  obtain ⟨next, hcall, -⟩ := hrest
  obtain rfl := Writer.eq_callAll_of_callAll? hbefore
  refine Nat.pos_of_ne_zero fun hzero => ?_
  rw [Writer.call?_eq, if_pos ⟨hleaves, hzero⟩] at hcall
  cases hcall

end Context

/-- Whether all that a body makes of a writer at a header stands between this header and the brace that
    closes it. -/
structure IsClosed (w : Writer) (header : String) (body : List Call) : Prop where
  opening : (w.call (.openBlock header)).output =
    w.output ++ Writer.marginOf w.level ++ (header ++ " \x7b") ++ "\n"
  /-- The body is at deeper levels, from its first call to its last. -/
  deeper : ∀ part, part <+: body → w.level < (w.callAll (.openBlock header :: part)).level
  /-- The brace stands at the level of the header. -/
  closing : (w.callAll (.openBlock header :: (body ++ [.closeBlock]))).output =
    (w.callAll (.openBlock header :: body)).output ++ Writer.marginOf w.level ++ "\x7d" ++ "\n"

/-- Whether a fragment came out of a context with all its blocks closed. -/
structure Context.Nests (ctx : Context) : Prop where
  /-- Wherever a level was left there was one to leave. -/
  above : ∀ before c after, ctx.calls = before ++ c :: after → c.leaves →
    0 < (Writer.start.callAll before).level
  ends : ctx.writer.level = 0
  closed : ∀ before header after, ctx.calls = before ++ .openBlock header :: after →
    ∃ body rest, after = body ++ .closeBlock :: rest ∧
      IsClosed (Writer.start.callAll before) header body

theorem WellNested.isClosed {body : List Call} (h : WellNested body) (w : Writer) (header : String) :
    IsClosed w header body where
  opening := rfl
  deeper := by
    intro part hpart
    exact h.level_le_callAll (w.call (.openBlock header)) hpart
  closing := by
    have hlevel := h.level_callAll (w.call (.openBlock header))
    have hclose (w : Writer) : (w.callAll [.closeBlock]).output =
        w.output ++ Writer.marginOf (w.level - 1) ++ "\x7d" ++ "\n" := rfl
    rw [Writer.callAll_cons, Writer.callAll_append, hclose, hlevel, Writer.callAll_cons]
    rfl

theorem WellNested.nests {ctx : Context} (h : WellNested ctx.calls) : ctx.Nests where
  above := by
    intro before c after hcalls hleaves
    exact ctx.level_pos hcalls hleaves
  ends := by
    rw [ctx.writer_eq]
    exact h.level_callAll .start
  closed := by
    intro before header after hcalls
    obtain ⟨body, rest, hafter, hbody⟩ := h.exists_body hcalls rfl
    exact ⟨body, rest, hafter, hbody.isClosed _ header⟩

end KotlinFakes.Layout
