import KotlinFakes.Proofs.CommandLine.Items

/-!
# Values behind an equals sign

What an argument says behind an equals sign is stored for the option in front of it, and stays there unless the
option is given again. Only behind an option that takes no value it is dropped: such an argument is read as the
option alone.
-/

namespace KotlinFakes.CommandLine

/-! ## Values that are stored -/

/-- The value that is stored for an option while arguments are read. -/
def Draft.value? (draft : Draft) : Setting → Option String
  | .output => draft.output.map Path.text
  | .cache => draft.config.cache.map Path.text
  | .marker => some draft.config.marker

/-- The value that is stored for an option in the end. -/
def Options.value? (options : Options) : Setting → Option String
  | .output => some options.config.output.text
  | .cache => options.config.cache.map Path.text
  | .marker => some options.config.marker

/-- Whether arguments, read in groups, give an option a value. -/
def Gives (arguments : List String) (setting : Setting) : Prop :=
  ∃ groups : List (List String), (∀ group ∈ groups, (item? group).isSome) ∧ groups.flatten = arguments ∧
    ∃ value, .setting setting value ∈ groups.filterMap item?

namespace Draft

variable {draft next final : Draft} {setting : Setting} {value : String}

theorem value?_set (draft : Draft) (value : String) (setting : Setting) :
    (draft.set value setting).value? setting = some value := by
  cases setting <;> rfl

theorem value?_take {item : Item} (htake : draft.take item = .ok next)
    (hother : ∀ value, item ≠ .setting setting value) : next.value? setting = draft.value? setting := by
  cases item with
  | setting other value =>
      cases htake
      have hne : other ≠ setting := fun heq => hother value (by rw [heq])
      cases other <;> cases setting
      case output.output | cache.cache | marker.marker => exact absurd rfl hne
      all_goals rfl
  | switch switch =>
      cases htake
      cases switch <;> cases setting <;> rfl
  | manifest path =>
      rw [take] at htake
      split at htake <;> cases htake
      cases setting <;> rfl

theorem value?_foldlM {items : List Item} (htake : items.foldlM take draft = .ok final)
    (hother : ∀ value, .setting setting value ∉ items) : final.value? setting = draft.value? setting := by
  induction items generalizing draft with
  | nil =>
      cases htake
      rfl
  | cons item items ih =>
      rw [List.foldlM_cons] at htake
      obtain ⟨next, hfirst, hrest⟩ := exists_of_bind_eq_ok htake
      rw [ih hrest fun value hmem => hother value (List.mem_cons_of_mem _ hmem)]
      exact value?_take hfirst fun value heq => hother value (heq ▸ List.mem_cons_self)

/-- What is stored for an option is still there after further arguments, unless they give the option a value. -/
theorem value?_readAll {arguments : List String} (hread : draft.readAll arguments = .ok final)
    (hother : ¬ Gives arguments setting) : final.value? setting = draft.value? setting := by
  obtain ⟨groups, hgroups, rfl⟩ := exists_groups hread
  rw [readAll_flatten _ hgroups] at hread
  exact value?_foldlM hread fun value hmem => hother ⟨groups, hgroups, rfl, value, hmem⟩

theorem value?_options {options : Options} (h : draft.options = .ok options) (setting : Setting) :
    options.value? setting = draft.value? setting := by
  unfold Draft.options at h
  split at h
  · cases h
  · cases h
  · next output manifest houtput hmanifest =>
      cases h
      cases setting
      case output => rw [value?, houtput]; rfl
      all_goals rfl

end Draft

theorem Options.exists_of_parse {arguments : List String} {options : Options}
    (h : Options.parse arguments = .ok options) :
    ∃ draft, Draft.start.readAll arguments = .ok draft ∧ draft.options = .ok options := by
  rw [Options.parse] at h
  split at h
  · cases h
  · next draft hread => exact ⟨draft, hread, h⟩

/-! ## Arguments with a value of their own -/

theorem mem_of_lookup {α : Type} {entries : List (String × α)} {name : String} {found : α}
    (h : entries.lookup name = some found) : (name, found) ∈ entries := by
  obtain ⟨before, after, rfl, -⟩ := List.lookup_eq_some_iff.1 h
  simp

theorem Setting.not_mem_switches (setting : Setting) (switch : Switch) :
    (setting.text, switch) ∉ switches := by
  cases setting <;> cases switch <;> decide

theorem Switch.lookup_of_mem {name : String} {switch : Switch} (h : (name, switch) ∈ switches) :
    settings.lookup name = none ∧ switches.lookup name = some switch := by
  have hall : ∀ entry ∈ switches,
      settings.lookup entry.1 = none ∧ switches.lookup entry.1 = some entry.2 := by decide
  exact hall _ h

theorem Switch.item?_of_mem {name : String} {switch : Switch} (h : (name, switch) ∈ switches) :
    item? [name] = some (.switch switch) := by
  simp only [switches, List.mem_cons, Prod.mk.injEq, List.not_mem_nil, or_false] at h
  obtain ⟨rfl, rfl⟩ | ⟨rfl, rfl⟩ | ⟨rfl, rfl⟩ | ⟨rfl, rfl⟩ | ⟨rfl, rfl⟩ | ⟨rfl, rfl⟩ := h <;> rfl

section Dashed

variable {name value : String}

theorem text_of_lookup {setting : Setting} (h : settings.lookup ("--" ++ name) = some setting) :
    setting.text = "--" ++ name := by
  have hall : ∀ entry ∈ settings, entry.2.text = entry.1 ∨ entry.1 = "-o" := by decide
  refine (hall _ (mem_of_lookup h)).resolve_right fun hshort => ?_
  have hlists := congrArg String.toList hshort
  rw [String.toList_append] at hlists
  exact absurd (List.cons.inj (List.cons.inj hlists).2).1 (by decide)

theorem read_dashed (hname : '=' ∉ name.toList) (value : String) :
    Argument.read ("--" ++ name ++ "=" ++ value) =
      match settings.lookup ("--" ++ name) with
      | some setting => .setting setting (some value)
      | none =>
        match switches.lookup ("--" ++ name) with
        | some switch => .switch switch
        | none => .unknown := by
  have hhead : ("--" ++ name).toList.head? = some '-' := by rw [String.toList_append]; rfl
  rw [Argument.read, splitValue_append (by simp) hname]
  dsimp only
  cases settings.lookup ("--" ++ name) with
  | some setting => rfl
  | none =>
      cases switches.lookup ("--" ++ name) with
      | some switch => rfl
      | none => exact if_pos hhead

theorem item?_dashed_setting (hname : '=' ∉ name.toList) {setting : Setting}
    (hlookup : settings.lookup ("--" ++ name) = some setting) (value : String) :
    item? ["--" ++ name ++ "=" ++ value] = some (.setting setting value) := by
  rw [item?, read_dashed hname, hlookup]

theorem item?_dashed_switch (hname : '=' ∉ name.toList) {switch : Switch}
    (hmem : ("--" ++ name, switch) ∈ switches) (value : String) :
    item? ["--" ++ name ++ "=" ++ value] = some (.switch switch) := by
  obtain ⟨hsetting, hswitch⟩ := Switch.lookup_of_mem hmem
  rw [item?, read_dashed hname, hsetting]
  dsimp only
  rw [hswitch]

theorem readAll_dashed_unknown (hname : '=' ∉ name.toList) (hsetting : settings.lookup ("--" ++ name) = none)
    (hswitch : ∀ switch, ("--" ++ name, switch) ∉ switches) (draft final : Draft) (rest : List String) :
    draft.readAll (("--" ++ name ++ "=" ++ value) :: rest) ≠ .ok final := by
  have hnone : switches.lookup ("--" ++ name) = none :=
    Option.eq_none_iff_forall_ne_some.2 fun switch hlookup => hswitch switch (mem_of_lookup hlookup)
  have hread := read_dashed hname value
  rw [hsetting] at hread
  dsimp only at hread
  rw [hnone] at hread
  intro haccepted
  rw [Draft.readAll, hread] at haccepted
  cases haccepted

end Dashed

/-! ## What becomes of the value -/

/-- Whether a value is heeded that is given to an option by name: the option takes a value, and the given one is
    stored unless later arguments give it another one. -/
def Heeds (options : Options) (name value : String) (later : List String) : Prop :=
  ∃ setting : Setting, setting.text = name ∧ (options.value? setting = some value ∨ Gives later setting)

/-- Wherever an argument with two dashes and a value of its own is read, the value is heeded if and only if the
    argument does not name an option that takes none. If it does, the value says nothing: the options are
    those of the arguments without it. -/
theorem heeds_iff {arguments rest : List String} {options : Options} {draft : Draft} {name value : String}
    (hparse : Options.parse arguments = .ok options) (hname : '=' ∉ name.toList)
    (hreaches : Reaches arguments draft (("--" ++ name ++ "=" ++ value) :: rest)) :
    (Heeds options ("--" ++ name) value rest ↔ ∀ switch, ("--" ++ name, switch) ∉ switches) ∧
      ∀ switch, ("--" ++ name, switch) ∈ switches →
        ∃ before, arguments = before ++ ("--" ++ name ++ "=" ++ value) :: rest ∧
          Options.parse (before ++ ("--" ++ name) :: rest) = .ok options := by
  obtain ⟨final, hread, hoptions⟩ := Options.exists_of_parse hparse
  rw [hreaches.readAll_eq] at hread
  refine ⟨⟨?_, fun hswitch => ?_⟩, fun switch hmem => ?_⟩
  · rintro ⟨setting, htext, -⟩ switch
    rw [← htext]
    exact setting.not_mem_switches switch
  · cases hlookup : settings.lookup ("--" ++ name) with
    | none => exact absurd hread (readAll_dashed_unknown hname hlookup hswitch draft final rest)
    | some setting =>
        refine ⟨setting, text_of_lookup hlookup, or_iff_not_imp_right.2 fun hlater => ?_⟩
        rw [← List.singleton_append, Draft.readAll_append _ (item?_dashed_setting hname hlookup value)] at hread
        obtain ⟨next, htake, hrest⟩ := exists_of_bind_eq_ok hread
        cases htake
        rw [Draft.value?_options hoptions, Draft.value?_readAll hrest hlater, Draft.value?_set]
  · obtain ⟨before, rfl, -⟩ := hreaches.exists_before
    refine ⟨before, rfl, ?_⟩
    have hsame : Options.parse (before ++ (["--" ++ name] ++ rest)) =
        Options.parse (before ++ (["--" ++ name ++ "=" ++ value] ++ rest)) :=
      hreaches.parse_replace (item?_dashed_switch hname hmem value) (Switch.item?_of_mem hmem)
    exact hsame.trans hparse

/-- The arguments `a.json --out=gen --cache=-x=y --force=false`. -/
def valuedArguments : List String := ["a.json", "--out=gen", "--cache=-x=y", "--force=false"]

/-- The options of the arguments, with the cache as it is written and with force. -/
def valuedOptions : Options :=
  ⟨⟨"a.json"⟩,
    { Pass.Config.standard with output := ⟨"gen"⟩, cache := some ⟨"-x=y"⟩, isForced := true }, false⟩

theorem reaches_valued :
    Reaches valuedArguments { Draft.start with manifest := some ⟨"a.json"⟩, output := some ⟨"gen"⟩ }
      ["--cache=-x=y", "--force=false"] := by
  have hfirst : Reaches valuedArguments { Draft.start with manifest := some ⟨"a.json"⟩ }
      (["--out=gen"] ++ ["--cache=-x=y", "--force=false"]) :=
    Reaches.start.step (show item? ["a.json"] = some (.manifest "a.json") by decide) rfl
  exact hfirst.step (show item? ["--out=gen"] = some (.setting .output "gen") by decide) rfl

/-- The value of the option is heeded, and that of the switch behind it makes no difference. -/
theorem heeds_iff_valued : Options.parse valuedArguments = .ok valuedOptions ∧
    Heeds valuedOptions "--cache" "-x=y" ["--force=false"] ∧
    ∃ before, valuedArguments = before ++ "--force=false" :: [] ∧
      Options.parse (before ++ "--force" :: []) = .ok valuedOptions := by
  have hparse : Options.parse valuedArguments = .ok valuedOptions := by decide
  have hcache : "--cache=-x=y" = "--" ++ "cache" ++ "=" ++ "-x=y" := by decide
  have hforce : "--force=false" = "--" ++ "force" ++ "=" ++ "false" := by decide
  have hnext := reaches_valued.step
    (show item? ["--cache=-x=y"] = some (.setting .cache "-x=y") by decide) rfl
  obtain ⟨hheeds, -⟩ := heeds_iff hparse (by decide) (hcache ▸ reaches_valued)
  obtain ⟨-, hdropped⟩ := heeds_iff hparse (by decide) (hforce ▸ hnext)
  obtain ⟨before, hsplit, hsame⟩ := hdropped .force (by decide)
  rw [← hforce] at hsplit
  exact ⟨hparse, hheeds.2 fun switch => by cases switch <;> decide, before, hsplit, hsame⟩

/-- A switch is on although its argument spells a value against it. -/
theorem exists_not_heeds : ∃ options draft,
    Options.parse ["a.json", "--out", "gen", "--force=false"] = .ok options ∧
      Reaches ["a.json", "--out", "gen", "--force=false"] draft ["--force=false"] ∧
      options.config.isForced ∧ ¬ Heeds options "--force" "false" [] := by
  have hfirst : Reaches ["a.json", "--out", "gen", "--force=false"]
      { Draft.start with manifest := some ⟨"a.json"⟩ } (["--out", "gen"] ++ ["--force=false"]) :=
    Reaches.start.step (show item? ["a.json"] = some (.manifest "a.json") by decide) rfl
  have hreaches := hfirst.step (show item? ["--out", "gen"] = some (.setting .output "gen") by decide) rfl
  refine ⟨_, _, rfl, hreaches, rfl, ?_⟩
  rintro ⟨setting, htext, -⟩
  cases setting <;> exact absurd htext (by decide)

end KotlinFakes.CommandLine
