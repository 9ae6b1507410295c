import KotlinFakes.Proofs.CommandLine.Items
import Mathlib.Data.List.Perm.Basic

/-!
# Options in any spelling and order

Different options, switches and the manifest are kept in different places of the options, so it makes no
difference in which order they are given.
-/

namespace KotlinFakes.CommandLine

/-! ## Steps in any order -/

section Steps

variable {σ ε α : Type} {f : σ → α → Except ε σ}

/-- Whether two steps come to the same in either order. -/
def Commute (f : σ → α → Except ε σ) (a b : α) : Prop :=
  ∀ s, (f s a >>= fun t => f t b) = f s b >>= fun t => f t a

theorem Commute.symm {a b : α} (h : Commute f a b) : Commute f b a := fun s => (h s).symm

theorem foldlM_of_perm {l l' : List α} (hperm : l.Perm l') (hcommute : l.Pairwise (Commute f)) (s : σ) :
    l.foldlM f s = l'.foldlM f s := by
  induction hperm generalizing s with
  | nil => rfl
  | cons a _ ih =>
      rw [List.foldlM_cons, List.foldlM_cons]
      exact congrArg (f s a >>= ·) (funext fun t => ih hcommute.of_cons t)
  | swap a b rest =>
      have hfirst : Commute f b a := List.rel_of_pairwise_cons hcommute List.mem_cons_self
      have hboth := congrArg (· >>= fun t => rest.foldlM f t) (hfirst s)
      simp only [bind_assoc] at hboth
      simpa only [List.foldlM_cons] using hboth
  | trans hfirst _ ih ih' =>
      exact (ih hcommute s).trans (ih' ((hfirst.pairwise_iff Commute.symm).1 hcommute) s)

end Steps

/-! ## What is kept in different places -/

namespace Item

/-- The option that an item gives a value to. -/
def setting? : Item → Option Setting
  | .setting option _ => some option
  | .switch _ | .manifest _ => none

/-- Whether two items are kept in the same place: two values of one option, or two manifests. -/
def Clashes : Item → Item → Prop
  | .setting option _, .setting option' _ => option = option'
  | .manifest _, .manifest _ => True
  | _, _ => False

theorem commute_setting {option option' : Setting} (h : option ≠ option') (value value' : String) :
    Commute Draft.take (.setting option value) (.setting option' value') := by
  intro draft
  cases option <;> cases option'
  -- An option does not commute with itself: the second value would be kept.
  case output.output | cache.cache | marker.marker => exact absurd rfl h
  all_goals rfl

theorem commute_setting_switch (option : Setting) (value : String) (switch : Switch) :
    Commute Draft.take (.setting option value) (.switch switch) := by
  intro draft
  cases option <;> cases switch <;> rfl

theorem commute_switch (switch switch' : Switch) :
    Commute Draft.take (.switch switch) (.switch switch') := by
  intro draft
  cases switch <;> cases switch' <;> rfl

theorem commute_manifest {item : Item} {change : Draft → Draft}
    (htake : ∀ draft : Draft, draft.take item = .ok (change draft))
    (hchange : ∀ (draft : Draft) (manifest : Option Path),
      change { draft with manifest := manifest } = { change draft with manifest := manifest })
    (path : String) : Commute Draft.take item (.manifest path) := by
  intro draft
  have hmanifest : (change draft).manifest = draft.manifest :=
    (congrArg Draft.manifest (hchange draft draft.manifest) :)
  rw [htake]
  show Draft.take (change draft) (.manifest path) = draft.take (.manifest path) >>= fun t => t.take item
  rw [Draft.take, Draft.take, hmanifest]
  split
  · rfl
  · exact (congrArg Except.ok (hchange draft _)).symm.trans (htake _).symm

theorem commute_setting_manifest (option : Setting) (value path : String) :
    Commute Draft.take (.setting option value) (.manifest path) :=
  commute_manifest (fun _ => rfl) (fun _ _ => by cases option <;> rfl) path

theorem commute_switch_manifest (switch : Switch) (path : String) :
    Commute Draft.take (.switch switch) (.manifest path) :=
  commute_manifest (fun _ => rfl) (fun _ _ => by cases switch <;> rfl) path

/-- Items that are kept in different places may be taken in either order. -/
theorem commute_of_not_clashes {item item' : Item} (h : ¬ item.Clashes item') :
    Commute Draft.take item item' := by
  cases item with
  | setting option value =>
      cases item' with
      | setting option' value' => exact commute_setting h value value'
      | switch switch => exact commute_setting_switch option value switch
      | manifest path => exact commute_setting_manifest option value path
  | switch switch =>
      cases item' with
      | setting option value => exact (commute_setting_switch option value switch).symm
      | switch switch' => exact commute_switch switch switch'
      | manifest path => exact commute_switch_manifest switch path
  | manifest path =>
      cases item' with
      | setting option value => exact (commute_setting_manifest option value path).symm
      | switch switch => exact (commute_switch_manifest switch path).symm
      | manifest path' => exact absurd trivial h

end Item

namespace Draft

variable {draft final : Draft} {items : List Item}

theorem manifest_of_take {next : Draft} {item : Item} (h : draft.take item = .ok next)
    (hsome : draft.manifest.isSome) : next.manifest.isSome := by
  cases item with
  | setting option value =>
      cases h
      cases option <;> exact hsome
  | switch switch =>
      cases h
      cases switch <;> exact hsome
  | manifest path =>
      rw [take, if_pos hsome] at h
      cases h

theorem manifest_not_mem (h : items.foldlM take draft = .ok final) (hsome : draft.manifest.isSome)
    (path : String) : .manifest path ∉ items := by
  induction items generalizing draft with
  | nil => exact List.not_mem_nil
  | cons item items ih =>
      rw [List.foldlM_cons] at h
      obtain ⟨next, htake, hrest⟩ := exists_of_bind_eq_ok h
      have hmore := ih hrest (manifest_of_take htake hsome)
      intro hmem
      obtain rfl | hmem := List.mem_cons.1 hmem
      · rw [take, if_pos hsome] at htake
        cases htake
      · exact hmore hmem

theorem pairwise_not_clashes (h : items.foldlM take draft = .ok final)
    (hsettings : (items.filterMap Item.setting?).Nodup) :
    items.Pairwise fun item item' => ¬ item.Clashes item' := by
  induction items generalizing draft with
  | nil => exact .nil
  | cons item items ih =>
      rw [List.foldlM_cons] at h
      obtain ⟨next, htake, hrest⟩ := exists_of_bind_eq_ok h
      cases item with
      | setting option value =>
          obtain ⟨hnew, hsettings⟩ := List.nodup_cons.1 hsettings
          refine .cons (fun item' hitem' hclash => ?_) (ih hrest hsettings)
          cases item' with
          | setting option' value' =>
              exact hnew (List.mem_filterMap.2 ⟨_, hitem', congrArg some hclash.symm⟩)
          | switch => exact hclash
          | manifest => exact hclash
      | switch switch => exact .cons (fun _ _ hclash => hclash) (ih hrest hsettings)
      | manifest path =>
          have hsome : next.manifest.isSome := by
            rw [take] at htake
            split at htake <;> cases htake
            rfl
          refine .cons (fun item' hitem' hclash => ?_) (ih hrest hsettings)
          cases item' with
          | setting => exact hclash
          | switch => exact hclash
          | manifest path' => exact manifest_not_mem hrest hsome path' hitem'

end Draft

/-- Wherever reading comes to an option that takes a value, the value may as well be written behind an equals
    sign, and the result is the same. And arguments that are accepted are made of complete groups, which may
    be put into any order without a change of the options if no option is given two values. -/
theorem parse_spelling_and_order :
    (∀ (before after : List String) (setting : Setting) (value : String) (draft : Draft),
      Reaches (before ++ setting.text :: value :: after) draft (setting.text :: value :: after) →
        Options.parse (before ++ (setting.text ++ "=" ++ value) :: after) =
          Options.parse (before ++ setting.text :: value :: after)) ∧
    ∀ arguments options, Options.parse arguments = .ok options →
      (∃ groups : List (List String), (∀ group ∈ groups, (item? group).isSome) ∧
        groups.flatten = arguments) ∧
      ∀ groups groups' : List (List String), (∀ group ∈ groups, (item? group).isSome) →
        groups.flatten = arguments → ((groups.filterMap item?).filterMap Item.setting?).Nodup →
        groups'.Perm groups → Options.parse groups'.flatten = .ok options := by
  constructor
  · intro before after setting value draft hreaches
    have hspaced : Reaches (before ++ ([setting.text, value] ++ after)) draft
        ([setting.text, value] ++ after) := hreaches
    exact hspaced.parse_replace (setting.item?_spaced value) (setting.item?_joined value)
  · intro arguments options hparse
    obtain ⟨draft, hread⟩ : ∃ draft, Draft.start.readAll arguments = .ok draft := by
      rw [Options.parse] at hparse
      split at hparse
      · cases hparse
      · next draft hread => exact ⟨draft, hread⟩
    refine ⟨Draft.exists_groups hread, fun groups groups' hgroups hflatten hsettings hperm => ?_⟩
    subst hflatten
    have hgroups' : ∀ group ∈ groups', (item? group).isSome :=
      fun group hgroup => hgroups group (hperm.mem_iff.1 hgroup)
    have htaken : (groups.filterMap item?).foldlM Draft.take Draft.start = .ok draft := by
      rw [← Draft.readAll_flatten _ hgroups, hread]
    have hcommute := (Draft.pairwise_not_clashes htaken hsettings).imp Item.commute_of_not_clashes
    have hsame : Draft.start.readAll groups'.flatten = Draft.start.readAll groups.flatten := by
      rw [Draft.readAll_flatten _ hgroups, Draft.readAll_flatten _ hgroups']
      exact (foldlM_of_perm (hperm.symm.filterMap item?) hcommute _).symm
    rw [← hparse, Options.parse, Options.parse, hsame]

/-- A value that looks like an option is joined to its own, and the groups are read in another order. -/
theorem parse_spelling_and_order_dashed :
    Options.parse ["a.json", "--cache=-x=y", "--out", "gen", "-v"] =
      Options.parse ["a.json", "--cache", "-x=y", "--out", "gen", "-v"] ∧
    Options.parse ["-v", "--out", "gen", "a.json", "--cache", "-x=y"] =
      .ok ⟨⟨"a.json"⟩, { Pass.Config.standard with output := ⟨"gen"⟩, cache := some ⟨"-x=y"⟩ }, true⟩ := by
  constructor
  · have hreaches : Reaches (["a.json"] ++ Setting.cache.text :: "-x=y" :: ["--out", "gen", "-v"])
        { Draft.start with manifest := some ⟨"a.json"⟩ }
        (Setting.cache.text :: "-x=y" :: ["--out", "gen", "-v"]) :=
      Reaches.start.step (show item? ["a.json"] = some (.manifest "a.json") by decide) rfl
    exact parse_spelling_and_order.1 ["a.json"] ["--out", "gen", "-v"] .cache "-x=y" _ hreaches
  · exact (parse_spelling_and_order.2 ["a.json", "--cache", "-x=y", "--out", "gen", "-v"] _
      (by decide)).2 [["a.json"], ["--cache", "-x=y"], ["--out", "gen"], ["-v"]]
      [["-v"], ["--out", "gen"], ["a.json"], ["--cache", "-x=y"]] (by decide) rfl (by decide) (by decide)

end KotlinFakes.CommandLine
