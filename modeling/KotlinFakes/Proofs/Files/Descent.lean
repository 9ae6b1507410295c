import KotlinFakes.Proofs.Files.Directories
import KotlinFakes.Proofs.Files.Lineage

/-!
# Making directories

A directory is made together with those above it by trying the path first and then the paths above it,
until one can be made. On a disk where everything stands in a directory this comes to the same as going
down the path and making what is missing.
-/

namespace KotlinFakes

/-- What is wrong with a path on every disk. -/
def Path.fault? (p : Path) : Option FileFault :=
  if p.text.toList.contains '\x00' then some .invalidName
  else if p.text = "" then some .missing
  else if p.text.utf8ByteSize > Disk.maxPath then some .nameTooLong
  else none

namespace Disk

/-- Whether everything on a disk stands in a directory. -/
def IsTree (disk : Disk) : Prop :=
  ∀ place name, disk.node? (place ++ [name]) ≠ none → disk.node? place = some .directory

/-- Whether a path goes up only from directories that are there. -/
def IsFirm (disk : Disk) (p : Path) : Prop :=
  ∀ before after, p.segments = before ++ ".." :: after →
    ∃ target, disk.follow (p.root disk.home) (before ++ [".."]) = .ok target

/-- Go through directories. -/
def enter (disk : Disk) (here : Place) : List String → Except FileFault Place
  | [] => .ok here
  | name :: rest =>
    if name = ".." then enter disk here.dropLast rest
    else if name.utf8ByteSize > maxName then .error .nameTooLong
    else
      match disk.node? (here ++ [name]) with
      | some .directory => enter disk (here ++ [name]) rest
      | some (.file _) => .error .notDirectory
      | none => .error .missing

/-- Make a directory in a directory, and take one that is there already for made. -/
def ensureIn (disk : Disk) (here : Place) (name : String) : Except FileFault Disk :=
  if name.utf8ByteSize > maxName then .error .nameTooLong
  else
    match disk.node? (here ++ [name]) with
    | some .directory => .ok disk
    | some (.file _) => .error .alreadyExists
    | none => .ok (disk.insert (here ++ [name]) .directory)

/-- Go down from a directory and make the directories that are missing. -/
def descend (disk : Disk) (here : Place) : List String → Except FileFault Unit × Disk
  | [] => (.ok (), disk)
  | name :: rest =>
    if name.utf8ByteSize > maxName then (.error .nameTooLong, disk)
    else
      match disk.node? (here ++ [name]) with
      | some .directory => descend disk (here ++ [name]) rest
      | some (.file _) => (.error (if rest.isEmpty then .alreadyExists else .notDirectory), disk)
      | none => descend (disk.insert (here ++ [name]) .directory) (here ++ [name]) rest

variable {disk changed : Disk} {here : Place} {name : String}

/-! ## Trees -/

theorem isTree_of_nodes (h : ∀ entry ∈ disk.nodes, disk.node? entry.1.dropLast = some .directory) :
    disk.IsTree := by
  intro place name hnode
  unfold node? at hnode
  split at hnode
  · next hprefix =>
      unfold node?
      rw [List.isPrefixOf_iff_prefix] at hprefix
      rw [if_pos (List.isPrefixOf_iff_prefix.2 ((List.prefix_append _ _).trans hprefix))]
  · by_contra hnone
    refine hnode (List.lookup_eq_none_iff.2 fun entry hentry => ?_)
    rw [bne_iff_ne]
    intro heq
    have habove := h entry hentry
    rw [← heq, List.dropLast_concat] at habove
    exact hnone habove

theorem IsTree.node?_append (h : disk.IsTree) {place : Place} (hnone : disk.node? place = none)
    (below : List String) : disk.node? (place ++ below) = none := by
  induction below using List.reverseRecOn with
  | nil => simpa using hnone
  | append_singleton below name ih =>
      by_contra hnode
      rw [← List.append_assoc] at hnode
      rw [h _ _ hnode] at ih
      cases ih

theorem IsTree.directory_above (h : disk.IsTree) {place : Place} {below : List String}
    (hnode : disk.node? (place ++ below) ≠ none) (hbelow : below ≠ []) :
    disk.node? place = some .directory := by
  obtain ⟨name, rest, rfl⟩ := List.exists_cons_of_ne_nil hbelow
  refine h place name fun hnone => hnode ?_
  simpa using h.node?_append hnone rest

theorem IsTree.dropLast (h : disk.IsTree) (hnode : disk.node? here = some .directory) :
    disk.node? here.dropLast = some .directory := by
  by_cases hnil : here = []
  · rw [hnil] at hnode ⊢
    exact hnode
  · refine h _ (here.getLast hnil) ?_
    rw [List.dropLast_append_getLast, hnode]
    exact Option.some_ne_none _

theorem node?_root (disk : Disk) (p : Path) : disk.node? (p.root disk.home) = some .directory := by
  unfold node? Path.root
  split <;> simp

/-! ## Following paths -/

theorem isFirm_of_not_mem {p : Path} (h : ".." ∉ p.segments) (disk : Disk) : disk.IsFirm p := by
  intro before after hsegments
  exact absurd (by simp [hsegments]) h

theorem target_eq (disk : Disk) (p : Path) : disk.target p =
    match p.fault? with
    | some fault => .error fault
    | none => disk.follow (p.root disk.home) p.segments := by
  unfold target Path.fault? Path.root
  split
  · rfl
  · split
    · rfl
    · split <;> rfl

theorem enter_append (disk : Disk) (here : Place) (before after : List String) :
    disk.enter here (before ++ after) =
      (disk.enter here before).bind fun there => disk.enter there after := by
  induction before generalizing here with
  | nil => rfl
  | cons name rest ih =>
      simp only [List.cons_append, enter]
      split
      · exact ih _
      · split
        · rfl
        · split
          · exact ih _
          · rfl
          · rfl

theorem enter_directory (htree : disk.IsTree) {names : List String} {there : Place}
    (h : disk.enter here names = .ok there) (hhere : disk.node? here = some .directory) :
    disk.node? there = some .directory := by
  induction names generalizing here with
  | nil => exact Except.ok.inj h ▸ hhere
  | cons name rest ih =>
      unfold enter at h
      split at h
      · exact ih h (htree.dropLast hhere)
      · split at h
        · cases h
        · split at h
          · next hnode => exact ih h hnode
          · cases h
          · cases h

theorem KeepsDirectories.enter (hkeeps : KeepsDirectories disk changed) {names : List String}
    {there : Place} (h : disk.enter here names = .ok there) :
    changed.enter here names = .ok there := by
  induction names generalizing here with
  | nil => exact h
  | cons name rest ih =>
      unfold Disk.enter at h ⊢
      split at h
      · next hdots => rw [if_pos hdots, ih h]
      · next hdots =>
          split at h
          · cases h
          · next hlong =>
              split at h
              · next hnode => rw [if_neg hdots, if_neg hlong, hkeeps.directories _ hnode, ih h]
              · cases h
              · cases h

theorem follow_concat (disk : Disk) (here : Place) (before : List String) (h : Path.IsPlain name) :
    disk.follow here (before ++ [name]) =
      (disk.enter here (before.filter fun segment => !Path.isIdle segment)).bind fun there =>
        if name.utf8ByteSize > maxName then .error .nameTooLong
        else .ok ⟨there ++ [name], false, true⟩ := by
  induction before generalizing here with
  | nil =>
      simp only [List.nil_append, follow, h.ne_empty, h.ne_dot, h.ne_dots, if_false, List.all_nil,
        if_true, List.filter_nil, enter]
      rfl
  | cons segment rest ih =>
      have hrest : (rest ++ [name]).all (· = "") = false := by simp [h.ne_empty]
      rw [List.cons_append, List.filter_cons]
      cases hidle : Path.isIdle segment with
      | true =>
          rw [if_neg (by simp), ← ih]
          obtain rfl | rfl := Path.isIdle_iff.1 hidle
          · rfl
          · simp [follow]
      | false =>
          have hne := mt Path.isIdle_iff.2 (Bool.eq_false_iff.1 hidle)
          rw [not_or] at hne
          simp only [follow, hne.1, hne.2, if_false, Bool.not_false, if_true, hrest, enter,
            Bool.false_eq_true]
          split
          · exact ih _
          · split
            · rfl
            · cases disk.node? (here ++ [segment]) with
              | none => rfl
              | some node =>
                  cases node with
                  | directory => exact ih _
                  | file content => rfl

theorem filter_idle_eq_nil {segments : List String} (h : segments.all (· = "")) :
    segments.filter (fun segment => !Path.isIdle segment) = [] := by
  rw [List.filter_eq_nil_iff]
  intro segment hmem
  simp [Path.isIdle, of_decide_eq_true (List.all_eq_true.1 h segment hmem)]

theorem follow_of_enter {segments : List String} {there : Place}
    (h : disk.enter here (segments.filter fun segment => !Path.isIdle segment) = .ok there) :
    ∃ target, disk.follow here segments = .ok target ∧ target.place = there := by
  induction segments generalizing here with
  | nil =>
      obtain rfl := Except.ok.inj h
      exact ⟨_, rfl, rfl⟩
  | cons segment rest ih =>
      rw [List.filter_cons] at h
      cases hidle : Path.isIdle segment with
      | true =>
          rw [hidle, if_neg (by simp)] at h
          obtain ⟨target, htarget, hplace⟩ := ih h
          refine ⟨target, ?_, hplace⟩
          obtain rfl | rfl := Path.isIdle_iff.1 hidle <;> simpa [follow] using htarget
      | false =>
          have hne := mt Path.isIdle_iff.2 (Bool.eq_false_iff.1 hidle)
          rw [not_or] at hne
          simp only [hidle, Bool.not_false, if_true, enter] at h
          simp only [follow, hne.1, hne.2, if_false]
          split at h
          · next hdots => exact if_pos hdots ▸ ih h
          · next hdots =>
              rw [if_neg hdots]
              split at h
              · cases h
              · next hlong =>
                  rw [if_neg hlong]
                  cases hnode : disk.node? (here ++ [segment]) with
                  | none =>
                      rw [hnode] at h
                      cases h
                  | some node =>
                      rw [hnode] at h
                      cases node with
                      | file content => cases h
                      | directory =>
                          split
                          · next hrest =>
                              rw [filter_idle_eq_nil hrest] at h
                              exact ⟨_, rfl, Except.ok.inj h⟩
                          · exact ih h

theorem enter_of_follow {before : List String} {target : Target}
    (h : disk.follow here (before ++ [".."]) = .ok target) :
    disk.enter here ((before ++ [".."]).filter fun segment => !Path.isIdle segment) =
      .ok target.place := by
  induction before generalizing here with
  | nil =>
      obtain rfl := Except.ok.inj h
      rfl
  | cons segment rest ih =>
      have hrest : (rest ++ [".."]).all (· = "") = false := by simp
      rw [List.cons_append] at h ⊢
      rw [List.filter_cons]
      cases hidle : Path.isIdle segment with
      | true =>
          rw [if_neg (by simp)]
          obtain rfl | rfl := Path.isIdle_iff.1 hidle <;> exact ih (by simpa [follow] using h)
      | false =>
          have hne := mt Path.isIdle_iff.2 (Bool.eq_false_iff.1 hidle)
          rw [not_or] at hne
          simp only [follow, hne.1, hne.2, if_false, hrest, Bool.false_eq_true] at h
          simp only [Bool.not_false, if_true, enter]
          split at h
          · next hdots => rw [if_pos hdots, ih h]
          · next hdots =>
              rw [if_neg hdots]
              split at h
              · cases h
              · next hlong =>
                  rw [if_neg hlong]
                  cases hnode : disk.node? (here ++ [segment]) with
                  | none =>
                      rw [hnode] at h
                      cases h
                  | some node =>
                      rw [hnode] at h
                      cases node with
                      | directory => exact ih h
                      | file content => cases h

theorem eq_foldl_of_enter {names : List String} {there : Place}
    (hnames : ∀ name ∈ names, Path.isIdle name = false) (h : disk.enter here names = .ok there) :
    there = names.foldl Path.step here := by
  induction names generalizing here with
  | nil => exact (Except.ok.inj h).symm
  | cons name rest ih =>
      have hidle : ¬ (name = "" ∨ name = ".") := by
        rw [← Path.isIdle_iff, hnames name List.mem_cons_self]
        simp
      rw [List.foldl_cons]
      refine ih (fun name hmem => hnames name (List.mem_cons_of_mem _ hmem)) ?_
      unfold Path.step
      rw [if_neg hidle]
      unfold enter at h
      split at h
      · next hdots => rwa [if_pos hdots]
      · next hdots =>
          rw [if_neg hdots]
          split at h
          · cases h
          · split at h
            · exact h
            · cases h
            · cases h

theorem KeepsDirectories.isFirm {p : Path} (h : KeepsDirectories disk changed)
    (hfirm : disk.IsFirm p) : changed.IsFirm p := by
  intro before after hsegments
  obtain ⟨target, htarget⟩ := hfirm before after hsegments
  rw [h.home]
  exact ⟨target, h.follow htarget⟩

/-! ## Routes -/

/-- A way along a path: through directories to a place, and from there down by names. -/
structure Route (disk : Disk) (p : Path) (there : Place) (names : List String) : Prop where
  exists_above : ∃ above, p.names = above ++ names ∧ disk.enter (p.root disk.home) above = .ok there
  plain : ∀ name ∈ names, Path.IsPlain name

namespace Route

variable {p : Path} {there : Place} {names : List String}

theorem enter_names (h : disk.Route p there names) :
    disk.enter (p.root disk.home) p.names = disk.enter there names := by
  obtain ⟨above, hnames, henter⟩ := h.exists_above
  rw [hnames, enter_append, henter]
  rfl

theorem directory (h : disk.Route p there names) (htree : disk.IsTree) :
    disk.node? there = some .directory := by
  obtain ⟨above, -, henter⟩ := h.exists_above
  exact enter_directory htree henter (disk.node?_root p)

theorem place_eq (h : disk.Route p there names) : p.place disk.home = there ++ names := by
  obtain ⟨above, hnames, henter⟩ := h.exists_above
  have hidle : ∀ name ∈ above, Path.isIdle name = false := by
    intro name hmem
    have hname : name ∈ p.names := hnames ▸ List.mem_append_left names hmem
    simpa using (List.mem_filter.1 hname).2
  rw [Path.place_eq_names, hnames, List.foldl_append, ← eq_foldl_of_enter hidle henter,
    Path.foldl_step_of_isPlain h.plain]

theorem of_keepsDirectories (h : disk.Route p there names) (hkeeps : KeepsDirectories disk changed) :
    changed.Route p there names := by
  obtain ⟨above, hnames, henter⟩ := h.exists_above
  refine ⟨⟨above, hnames, ?_⟩, h.plain⟩
  rw [hkeeps.home]
  exact hkeeps.enter henter

theorem join {name : String} (h : disk.Route p there names) (hname : Path.IsPlain name) :
    disk.Route (p.join name) there (names ++ [name]) := by
  obtain ⟨above, hnames, henter⟩ := h.exists_above
  refine ⟨⟨above, ?_, ?_⟩, fun other hmem => ?_⟩
  · rw [Path.names_join p hname, hnames, List.append_assoc]
  · rwa [Path.root_join p hname]
  · obtain hmem | hmem := List.mem_append.1 hmem
    · exact h.plain other hmem
    · exact List.mem_singleton.1 hmem ▸ hname

theorem joinAll {segments : List String} (h : disk.Route p there names)
    (hplain : ∀ segment ∈ segments, Path.IsPlain segment) :
    disk.Route (p.joinAll segments) there (names ++ segments) := by
  induction segments generalizing p names with
  | nil => simpa [Path.joinAll] using h
  | cons segment rest ih =>
      have hrest : ∀ segment ∈ rest, Path.IsPlain segment :=
        fun segment hmem => hplain segment (List.mem_cons_of_mem _ hmem)
      rw [List.append_cons, Path.joinAll, List.foldl_cons, ← Path.joinAll]
      exact ih (h.join (hplain segment (by simp))) hrest

theorem of_segments {before after : List String} (hsegments : p.segments = before ++ after)
    (hafter : ".." ∉ after) (henter : disk.enter (p.root disk.home)
      (before.filter fun segment => !Path.isIdle segment) = .ok there) :
    disk.Route p there (after.filter fun segment => !Path.isIdle segment) := by
  refine ⟨⟨_, by rw [Path.names, hsegments, List.filter_append], henter⟩, fun name hmem => ?_⟩
  obtain ⟨hmem, hidle⟩ := List.mem_filter.1 hmem
  have hslash := Path.not_mem_of_mem_segments (hsegments ▸ List.mem_append_right before hmem)
  simp only [Path.isIdle, Bool.not_eq_true', Bool.or_eq_false_iff, decide_eq_false_iff_not] at hidle
  exact ⟨hidle.1, hidle.2, fun hdots => hafter (hdots ▸ hmem), hslash⟩

end Route

/-- A path leads through directories that are there up to its last `..`, and then down. -/
theorem IsFirm.exists_route {p : Path} (h : disk.IsFirm p) :
    ∃ there names, disk.Route p there names := by
  by_cases hdots : ".." ∈ p.segments
  · obtain ⟨after, before, hreverse, hafter⟩ := List.eq_append_cons_of_mem (List.mem_reverse.2 hdots)
    have hsegments : p.segments = before.reverse ++ ".." :: after.reverse := by
      simpa using congrArg List.reverse hreverse
    obtain ⟨target, htarget⟩ := h _ _ hsegments
    rw [List.append_cons] at hsegments
    exact ⟨_, _, .of_segments hsegments (by simpa using hafter) (enter_of_follow htarget)⟩
  · exact ⟨_, _, .of_segments (List.nil_append p.segments).symm hdots rfl⟩

/-! ## Single directories -/

variable {p : Path} {before : List String}

theorem ensureDir_of_fault {fault : FileFault} (h : p.fault? = some fault) :
    disk.ensureDir p = .error fault := by
  have htarget : disk.target p = .error fault := by rw [target_eq, h]
  simp [ensureDir, makeDir, hasDirectory, find, htarget, bind, Except.bind]

theorem ensureDir_of_enter {there : Place} (hfault : p.fault? = none)
    (henter : disk.enter (p.root disk.home) p.names = .ok there)
    (hthere : disk.node? there = some .directory) : disk.ensureDir p = .ok disk := by
  obtain ⟨target, hfollow, rfl⟩ := follow_of_enter henter
  have htarget : disk.target p = .ok target := by rw [target_eq, hfault]; exact hfollow
  simp [ensureDir, makeDir, hasDirectory, find, htarget, hthere, bind, Except.bind, pure, Except.pure]

theorem ensureDir_eq (hfault : p.fault? = none) (hsegments : p.segments = before ++ [name])
    (hplain : Path.IsPlain name) :
    disk.ensureDir p =
      (disk.enter (p.root disk.home) (before.filter fun segment => !Path.isIdle segment)).bind
        fun there => disk.ensureIn there name := by
  have htarget := disk.target_eq p
  rw [hfault, hsegments] at htarget
  dsimp only at htarget
  rw [follow_concat disk _ before hplain] at htarget
  unfold ensureDir makeDir hasDirectory find
  rw [htarget]
  cases disk.enter (p.root disk.home) (before.filter fun segment => !Path.isIdle segment) with
  | error fault => rfl
  | ok there =>
      by_cases hlong : name.utf8ByteSize > maxName
      · simp only [Except.bind, ensureIn, if_pos hlong]
        rfl
      · simp only [Except.bind, ensureIn, if_neg hlong]
        cases hnode : disk.node? (there ++ [name]) with
        | none => simp [bind, Except.bind, pure, Except.pure, hnode]
        | some node => cases node <;> simp [bind, Except.bind, pure, Except.pure, hnode]

/-! ## Going down -/

theorem descend_directories (disk : Disk) (here : Place) (names : List String) :
    KeepsDirectories disk (disk.descend here names).2 := by
  induction names generalizing disk here with
  | nil => exact .rfl
  | cons name rest ih =>
      unfold descend
      split
      · exact .rfl
      · split
        · exact ih _ _
        · exact .rfl
        · next hnode => exact (keepsDirectories_insert _ (by simp [hnode])).trans (ih _ _)

theorem enter_of_descend {names : List String} (hplain : ∀ name ∈ names, Path.IsPlain name)
    (h : disk.descend here names = (.ok (), changed)) :
    changed.enter here names = .ok (here ++ names) := by
  have hnext {disk : Disk} {here : Place} {name : String} {rest : List String}
      (ih : changed.enter (here ++ [name]) rest = .ok (here ++ [name] ++ rest))
      (hname : Path.IsPlain name) (hlong : ¬ name.utf8ByteSize > maxName)
      (hkeeps : KeepsDirectories disk changed)
      (hnode : disk.node? (here ++ [name]) = some .directory) :
      changed.enter here (name :: rest) = .ok (here ++ name :: rest) := by
    simp only [enter, if_neg hname.ne_dots, if_neg hlong, hkeeps.directories _ hnode, ih]
    rw [List.append_assoc, List.singleton_append]
  induction names generalizing disk here with
  | nil => simp [enter]
  | cons name rest ih =>
      have hname := hplain name List.mem_cons_self
      have hrest : ∀ name ∈ rest, Path.IsPlain name :=
        fun name hmem => hplain name (List.mem_cons_of_mem _ hmem)
      unfold descend at h
      split at h
      · cases h
      · next hlong =>
          split at h
          · next hnode =>
              have hkeeps := descend_directories disk (here ++ [name]) rest
              rw [h] at hkeeps
              exact hnext (ih hrest h) hname hlong hkeeps hnode
          · cases h
          · next hnode =>
              have hkeeps := descend_directories (disk.insert (here ++ [name]) .directory)
                (here ++ [name]) rest
              rw [h] at hkeeps
              refine hnext (ih hrest h) hname hlong hkeeps ?_
              exact disk.node?_insert_self _ (not_isPrefixOf_home (by simp [hnode]))

theorem descend_concat_of_ne_missing {names : List String}
    (hplain : ∀ name ∈ names, Path.IsPlain name) (h : disk.enter here names ≠ .error .missing) :
    disk.descend here (names ++ [name]) =
      disk.settle ((disk.enter here names).bind fun there => disk.ensureIn there name) := by
  induction names generalizing here with
  | nil =>
      simp only [List.nil_append, descend, enter, Except.bind, ensureIn]
      split
      · rfl
      · split <;> rfl
  | cons next rest ih =>
      have hrest : ∀ name ∈ rest, Path.IsPlain name :=
        fun name hmem => hplain name (List.mem_cons_of_mem _ hmem)
      simp only [List.cons_append, descend, enter, if_neg (hplain next List.mem_cons_self).ne_dots] at h ⊢
      split
      · rfl
      · next hlong =>
          rw [if_neg hlong] at h
          cases hnode : disk.node? (here ++ [next]) with
          | none => simp [hnode] at h
          | some node =>
              rw [hnode] at h
              cases node with
              | directory => exact ih hrest h
              | file content => simp [settle, Except.bind]

theorem descend_concat (name : String) {names : List String}
    (hfiles : ∀ above, above ≠ [] → above <+: names → disk.file? (here ++ above) = none) :
    disk.descend here (names ++ [name]) =
      match disk.descend here names with
      | (.error fault, made) => (.error fault, made)
      | (.ok (), made) => made.settle (made.ensureIn (here ++ names) name) := by
  induction names generalizing disk here with
  | nil =>
      simp only [List.nil_append, descend, ensureIn, List.append_nil]
      split
      · rfl
      · split <;> rfl
  | cons next rest ih =>
      have hfirst := hfiles [next] (by simp) (by simp)
      have hbelow {above : List String} (habove : above ≠ []) (hrest : above <+: rest) :
          disk.file? (here ++ [next] ++ above) = none := by
        simpa using hfiles (next :: above) (by simp) (List.cons_prefix_cons.2 ⟨rfl, hrest⟩)
      simp only [List.cons_append, descend]
      split
      · rfl
      · cases hnode : disk.node? (here ++ [next]) with
        | none =>
            dsimp only
            rw [List.append_cons here next rest]
            refine ih fun above habove hprefix => ?_
            rw [file?, node?_insert_of_ne _ _ (by simp [habove])]
            exact hbelow habove hprefix
        | some node =>
            cases node with
            | directory =>
                dsimp only
                rw [List.append_cons here next rest]
                exact ih fun above habove hprefix => hbelow habove hprefix
            | file content => simp [file?, hnode] at hfirst

theorem no_file_of_missing (htree : disk.IsTree) {names : List String}
    (hplain : ∀ name ∈ names, Path.IsPlain name) (h : disk.enter here names = .error .missing) :
    ∀ above, above ≠ [] → above <+: names → disk.file? (here ++ above) = none := by
  induction names generalizing here with
  | nil => cases h
  | cons name rest ih =>
      intro above habove hprefix
      obtain ⟨first, more, rfl⟩ := List.exists_cons_of_ne_nil habove
      obtain ⟨rfl, hmore⟩ := List.cons_prefix_cons.1 hprefix
      have hrest : ∀ name ∈ rest, Path.IsPlain name :=
        fun name hmem => hplain name (List.mem_cons_of_mem _ hmem)
      simp only [enter, if_neg (hplain first List.mem_cons_self).ne_dots] at h
      rw [List.append_cons here first more]
      split at h
      · cases h
      · split at h
        · next hnode =>
            by_cases hnil : more = []
            · simp [hnil, file?, hnode]
            · exact ih hrest h more hnil hmore
        · cases h
        · next hnode => rw [file?, htree.node?_append hnode]

/-! ## Lineages -/

theorem text_ne_empty_of_fault (h : p.fault? = none) : p.text ≠ "" := by
  intro htext
  simp [Path.fault?, htext] at h

theorem fault?_of_append {q : Path} {rest : String} (htext : p.text = q.text ++ rest)
    (hq : q.text ≠ "") (h : p.fault? = none) : q.fault? = none := by
  unfold Path.fault? at h ⊢
  rw [htext] at h
  simp only [String.toList_append, List.contains_eq_mem, List.mem_append, String.utf8ByteSize_append]
    at h ⊢
  split at h
  · cases h
  · next hzero =>
      split at h
      · cases h
      · split at h
        · cases h
        · next hlong =>
            rw [if_neg (by simpa using fun hmem => hzero (by simp [hmem])), if_neg hq,
              if_neg (by omega)]

theorem makeLineage_of_ne_missing (h : disk.ensureDir p ≠ .error .missing) (above : List Path) :
    disk.makeLineage (p :: above) = disk.settle (disk.ensureDir p) := by
  unfold makeLineage
  split
  · next hmade => rw [hmade]; rfl
  · next hmissing => exact absurd hmissing h
  · next hfault => rw [hfault]; rfl

theorem ensureIn_ne_missing (disk : Disk) (here : Place) (name : String) :
    disk.ensureIn here name ≠ .error .missing := by
  unfold ensureIn
  split
  · simp
  · split <;> simp

theorem exists_upward_eq_cons (h : p.text ≠ "") (count : Nat) :
    ∃ above, p.upward (count + 1) = p :: above := by
  unfold Path.upward
  rw [if_neg h]
  split
  · exact ⟨_, rfl⟩
  · exact ⟨_, rfl⟩

theorem Route.above {q : Path} {there : Place} {names : List String}
    (h : disk.Route p there (names ++ [name])) (habove : p.IsAbove q) : disk.Route q there names := by
  obtain ⟨above, hnames, henter⟩ := h.exists_above
  refine ⟨⟨above, ?_, ?_⟩, fun name hmem => h.plain name (by simp [hmem])⟩
  · rw [habove.names, hnames, ← List.append_assoc, List.dropLast_concat]
  · rwa [Path.root, habove.isAbsolute]

theorem Route.exists_segments {there : Place} {names : List String}
    (h : disk.Route p there (names ++ [name])) (hclean : Path.EndsClean p.segments) :
    ∃ before, p.segments = before ++ [name] ∧ disk.enter (p.root disk.home)
      (before.filter fun segment => !Path.isIdle segment) = disk.enter there names := by
  obtain ⟨above, hnames, henter⟩ := h.exists_above
  rw [← List.append_assoc] at hnames
  obtain ⟨before, hsegments, hbefore⟩ := Path.exists_segments_of_names hclean hnames
  refine ⟨before, hsegments, ?_⟩
  rw [hbefore, enter_append, henter]
  rfl

theorem Route.ensureDir_eq {there : Place} {names : List String}
    (h : disk.Route p there (names ++ [name])) (hclean : Path.EndsClean p.segments)
    (hfault : p.fault? = none) :
    disk.ensureDir p = (disk.enter there names).bind fun there => disk.ensureIn there name := by
  obtain ⟨before, hsegments, henter⟩ := h.exists_segments hclean
  rw [Disk.ensureDir_eq hfault hsegments (h.plain name (by simp)), henter]

theorem Route.exists_parent {there : Place} {names : List String}
    (h : disk.Route p there (names ++ [name])) (hne : names ≠ [])
    (hclean : Path.EndsClean p.segments) (hfault : p.fault? = none) :
    ∃ q, p.parent? = some q ∧ disk.Route q there names ∧ q.text.length < p.text.length ∧
      Path.EndsClean q.segments ∧ q.fault? = none := by
  obtain ⟨before, hsegments, -⟩ := h.exists_segments hclean
  obtain ⟨q, hparent, habove⟩ := Path.exists_isAbove hsegments (h.plain name (by simp)).not_idle
  have hroute := h.above habove
  obtain ⟨above, hqnames, -⟩ := hroute.exists_above
  obtain ⟨rest, hmore, htext⟩ := habove.text
  have hq : q.text ≠ "" := Path.text_ne_empty_of_names (by simp [hqnames, hne])
  have hpositive : rest.length ≠ 0 := mt String.length_eq_zero_iff.1 hmore
  refine ⟨q, hparent, hroute, ?_, habove.endsClean, fault?_of_append htext hq hfault⟩
  rw [htext, String.length_append]
  omega

/-- Making a path and what is missing above it comes to going down its names. -/
theorem makeLineage_upward (htree : disk.IsTree) {there : Place} {names : List String} {count : Nat}
    (hroute : disk.Route p there names) (hcount : p.text.length < count)
    (hclean : Path.EndsClean p.segments) (hfault : p.fault? = none) :
    disk.makeLineage (p.upward count) = disk.descend there names := by
  induction names using List.reverseRecOn generalizing p count with
  | nil =>
      obtain ⟨count, rfl⟩ := Nat.exists_eq_add_one_of_ne_zero (Nat.ne_zero_of_lt hcount)
      obtain ⟨more, hcons⟩ := exists_upward_eq_cons (text_ne_empty_of_fault hfault) count
      have hmade := ensureDir_of_enter hfault hroute.enter_names (hroute.directory htree)
      rw [hcons, makeLineage_of_ne_missing (by simp [hmade]), hmade]
      rfl
  | append_singleton names name ih =>
      have hrest : ∀ name ∈ names, Path.IsPlain name :=
        fun name hmem => hroute.plain name (by simp [hmem])
      have hensure := hroute.ensureDir_eq hclean hfault
      obtain ⟨count, rfl⟩ := Nat.exists_eq_add_one_of_ne_zero (Nat.ne_zero_of_lt hcount)
      by_cases hmissing : disk.enter there names = .error .missing
      · have hconcat := descend_concat name (no_file_of_missing htree hrest hmissing)
        have hne : names ≠ [] := by
          rintro rfl
          cases hmissing
        obtain ⟨q, hparent, hroute', hlength, hclean', hfault'⟩ :=
          hroute.exists_parent hne hclean hfault
        have hupward : p.upward (count + 1) = p :: q.upward count := by
          rw [Path.upward, if_neg (text_ne_empty_of_fault hfault), hparent]
        have hmade := ih hroute' (Nat.lt_of_lt_of_le hlength (Nat.le_of_lt_succ hcount)) hclean' hfault'
        have hfirst : disk.ensureDir p = .error .missing := by rw [hensure, hmissing]; rfl
        rw [hconcat, hupward, makeLineage, hfirst]
        dsimp only
        rw [hmade]
        cases hdescend : disk.descend there names with
        | mk result made =>
            cases result with
            | error fault => rfl
            | ok _ =>
                -- What was missing is there now, and only the last name is left.
                have hkeeps := descend_directories disk there names
                rw [hdescend] at hkeeps
                have hlast : made.ensureDir p = made.ensureIn (there ++ names) name := by
                  rw [(hroute.of_keepsDirectories hkeeps).ensureDir_eq hclean hfault,
                    enter_of_descend hrest hdescend]
                  rfl
                dsimp only
                rw [hlast]
                cases made.ensureIn (there ++ names) name <;> rfl
      · rw [descend_concat_of_ne_missing hrest hmissing, ← hensure]
        obtain ⟨more, hcons⟩ := exists_upward_eq_cons (text_ne_empty_of_fault hfault) count
        rw [hcons, makeLineage_of_ne_missing]
        rw [hensure]
        cases hreach : disk.enter there names with
        | error fault => simpa [Except.bind, hreach] using hmissing
        | ok reached => exact ensureIn_ne_missing _ _ _

end Disk

end KotlinFakes
