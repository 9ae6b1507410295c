import KotlinFakes.CommandLine.Options
import KotlinFakes.Proofs.Names
import KotlinFakes.Proofs.Sequence

/-!
# What arguments say

Arguments are read in groups: an option with its value, an option that takes none, or the manifest. Each group
says one thing, whatever stands around it, and reading takes what the groups say one after the other.
-/

namespace KotlinFakes.CommandLine

/-! ## Groups and what they say -/

/-- What a group of arguments says. -/
inductive Item where
  | setting (setting : Setting) (value : String)
  | switch (switch : Switch)
  | manifest (path : String)
  deriving Repr, DecidableEq

/-- What arguments say, if they are one complete group. -/
def item? : List String → Option Item
  | [argument] =>
    match Argument.read argument with
    | .setting setting (some value) => some (.setting setting value)
    | .switch switch => some (.switch switch)
    | .positional => some (.manifest argument)
    | .setting _ none | .unknown => none
  | [argument, value] =>
    match Argument.read argument with
    | .setting setting none => some (.setting setting value)
    | _ => none
  | _ => none

/-- Take what a group says. Only one manifest can be taken. -/
def Draft.take (draft : Draft) : Item → Except OptionsError Draft
  | .setting setting value => .ok (draft.set value setting)
  | .switch switch => .ok (draft.turn switch)
  | .manifest path =>
    if draft.manifest.isSome then .error (.unexpectedArgument path)
    else .ok { draft with manifest := some ⟨path⟩ }

namespace Draft

variable {draft final : Draft} {group rest : List String} {item : Item}

theorem readAll_append (draft : Draft) (hgroup : item? group = some item) (rest : List String) :
    draft.readAll (group ++ rest) = draft.take item >>= fun next => next.readAll rest := by
  unfold item? at hgroup
  split at hgroup
  · next argument =>
      rw [List.singleton_append, readAll]
      split at hgroup
      · next setting value hread =>
          cases hgroup
          rw [hread]
          rfl
      · next switch hread =>
          cases hgroup
          rw [hread]
          rfl
      · next hread =>
          cases hgroup
          rw [hread]
          dsimp only [take]
          split <;> rfl
      · cases hgroup
      · cases hgroup
  · next argument value =>
      rw [List.cons_append, List.singleton_append, readAll]
      split at hgroup
      · next setting hread =>
          cases hgroup
          rw [hread]
          rfl
      · cases hgroup
  · cases hgroup

theorem exists_group {argument : String} (h : draft.readAll (argument :: rest) = .ok final) :
    ∃ group left item, argument :: rest = group ++ left ∧ item? group = some item := by
  rw [readAll] at h
  cases hread : Argument.read argument with
  | setting setting value? =>
      cases value? with
      | some value => exact ⟨[argument], rest, .setting setting value, rfl, by simp [item?, hread]⟩
      | none =>
          cases rest with
          | nil => simp [hread] at h
          | cons value left =>
              exact ⟨[argument, value], left, .setting setting value, rfl, by simp [item?, hread]⟩
  | switch switch => exact ⟨[argument], rest, .switch switch, rfl, by simp [item?, hread]⟩
  | unknown => simp [hread] at h
  | positional => exact ⟨[argument], rest, .manifest argument, rfl, by simp [item?, hread]⟩

/-- Arguments that are read to their end are divided into complete groups. -/
theorem exists_groups {arguments : List String} (h : draft.readAll arguments = .ok final) :
    ∃ groups : List (List String), (∀ group ∈ groups, (item? group).isSome) ∧
      groups.flatten = arguments := by
  -- On the number of arguments that are left.
  induction hlength : arguments.length using Nat.strongRecOn generalizing draft arguments with
  | _ n ih =>
      cases arguments with
      | nil => exact ⟨[], fun _ hgroup => absurd hgroup List.not_mem_nil, rfl⟩
      | cons argument rest =>
          obtain ⟨group, left, item, hsplit, hitem⟩ := exists_group h
          rw [hsplit, readAll_append draft hitem] at h
          obtain ⟨next, -, hleft⟩ := exists_of_bind_eq_ok h
          have hshort : left.length < n := by
            have hlengths := congrArg List.length hsplit
            have hgroup : group ≠ [] := by
              rintro rfl
              cases hitem
            have hpos := List.length_pos_iff.2 hgroup
            rw [List.length_append] at hlengths
            omega
          obtain ⟨groups, hgroups, hflatten⟩ := ih _ hshort hleft rfl
          refine ⟨group :: groups, List.forall_mem_cons.2 ⟨by rw [hitem]; rfl, hgroups⟩, ?_⟩
          rw [List.flatten_cons, hflatten, hsplit]

theorem readAll_flatten (draft : Draft) {groups : List (List String)}
    (hgroups : ∀ group ∈ groups, (item? group).isSome) :
    draft.readAll groups.flatten = (groups.filterMap item?).foldlM take draft := by
  induction groups generalizing draft with
  | nil => rfl
  | cons group groups ih =>
      obtain ⟨hgroup, hgroups⟩ := List.forall_mem_cons.1 hgroups
      obtain ⟨item, hitem⟩ := Option.isSome_iff_exists.1 hgroup
      rw [List.flatten_cons, readAll_append draft hitem, List.filterMap_cons_some hitem,
        List.foldlM_cons]
      exact congrArg (draft.take item >>= ·) (funext fun next => ih next hgroups)

end Draft

/-! ## Where reading stands -/

/-- Whether reading comes to some of the arguments with a draft: what stands before them was taken. -/
inductive Reaches (arguments : List String) : Draft → List String → Prop where
  | start : Reaches arguments .start arguments
  | step {draft next : Draft} {group rest : List String} {item : Item} :
    Reaches arguments draft (group ++ rest) → item? group = some item →
      draft.take item = .ok next → Reaches arguments next rest

namespace Reaches

variable {arguments rest : List String} {draft : Draft}

theorem readAll_eq (h : Reaches arguments draft rest) :
    Draft.start.readAll arguments = draft.readAll rest := by
  induction h with
  | start => rfl
  | step _ hitem htake ih =>
      rw [ih, Draft.readAll_append _ hitem, htake]
      rfl

theorem exists_before (h : Reaches arguments draft rest) :
    ∃ before, arguments = before ++ rest ∧ ∀ rest', Reaches (before ++ rest') draft rest' := by
  induction h with
  | start => exact ⟨[], rfl, fun _ => .start⟩
  | @step _ _ group rest _ _ hitem htake ih =>
      obtain ⟨before, hbefore, hreaches⟩ := ih
      refine ⟨before ++ group, by rw [hbefore, List.append_assoc], fun rest' => ?_⟩
      have hgroup := hreaches (group ++ rest')
      rw [← List.append_assoc] at hgroup
      exact hgroup.step hitem htake

/-- Groups that say the same may take the place of each other, wherever one of them is read. -/
theorem parse_replace {before group group' after : List String} {item : Item}
    (h : Reaches (before ++ (group ++ after)) draft (group ++ after)) (hgroup : item? group = some item)
    (hgroup' : item? group' = some item) :
    Options.parse (before ++ (group' ++ after)) = Options.parse (before ++ (group ++ after)) := by
  have hreplaced : Reaches (before ++ (group' ++ after)) draft (group' ++ after) := by
    obtain ⟨start, hstart, hreaches⟩ := h.exists_before
    obtain rfl := List.append_cancel_right hstart
    exact hreaches _
  have hsame : draft.readAll (group' ++ after) = draft.readAll (group ++ after) := by
    rw [Draft.readAll_append _ hgroup, Draft.readAll_append _ hgroup']
  rw [Options.parse, Options.parse, hreplaced.readAll_eq, h.readAll_eq, hsame]

end Reaches

/-! ## Options with values -/

theorem splitValue_append {option : String} {name : List Char} (hdashes : option.toList = '-' :: '-' :: name)
    (hname : '=' ∉ name) (value : String) : splitValue (option ++ "=" ++ value) = (option, some value) := by
  have htext : (option ++ "=" ++ value).toList = ('-' :: '-' :: name) ++ '=' :: value.toList := by
    simp [hdashes]
  have hoption : String.ofList ('-' :: '-' :: name) = option := by rw [← hdashes, String.ofList_toList]
  rw [splitValue, htext, Text.cut_append_cons (by simp [hname])]
  show (String.ofList ('-' :: '-' :: name), some (String.ofList value.toList)) = (option, some value)
  rw [hoption, String.ofList_toList]

namespace Setting

theorem item?_spaced (setting : Setting) (value : String) :
    item? [setting.text, value] = some (.setting setting value) := by
  cases setting <;> rfl

theorem splitValue_joined (setting : Setting) (value : String) :
    splitValue (setting.text ++ "=" ++ value) = (setting.text, some value) := by
  cases setting <;> exact splitValue_append rfl (by decide) value

theorem item?_joined (setting : Setting) (value : String) :
    item? [setting.text ++ "=" ++ value] = some (.setting setting value) := by
  rw [item?, Argument.read, splitValue_joined]
  cases setting <;> rfl

end Setting

end KotlinFakes.CommandLine
