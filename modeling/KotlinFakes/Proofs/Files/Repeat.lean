import KotlinFakes.Proofs.Files.Deposit
import KotlinFakes.Proofs.Files.Target

/-!
# Repeating a change

Replacing a file comes out the same, and changes the same, on a disk where other files have been replaced
before: that may have made directories above the file, but it left the file, its draft and everything
else on the way alone.
-/

namespace KotlinFakes

namespace Disk

/-- Whether a place is that of a file or of its draft. -/
def IsOwn (directory : Place) (name : String) (place : Place) : Prop :=
  place = directory ++ [name] ∨ place = directory ++ [name ++ ".tmp"]

/-- Whether a disk is as another one where a file is concerned, but for directories above the file that
    have been made already. -/
structure Ahead (directory : Place) (name : String) (disk ahead : Disk) : Prop where
  home : ahead.home = disk.home
  above : ∀ place, place <+: directory → ahead.node? place = disk.node? place ∨
    disk.node? place = none ∧ ahead.node? place = some .directory
  own : ∀ place, IsOwn directory name place → ahead.node? place = disk.node? place

/-- Whether what is changed in replacing a file is the file, its draft and the directories above them
    that were missing. -/
structure Touches (directory : Place) (name : String) (disk changed : Disk) : Prop where
  tree : changed.IsTree
  quiet : changed.refusals = []
  keeps : KeepsDirectories disk changed
  changes : ∀ place, changed.node? place ≠ disk.node? place →
    (disk.node? place = none ∧ changed.node? place = some .directory ∧ place <+: directory) ∨
      IsOwn directory name place

/-- Whether the change of a disk is repeated on another one: where the disks agreed they still do, and
    where they did not the other one is as it was. -/
structure Repeats (disk changed ahead changed' : Disk) : Prop where
  same : ∀ place, ahead.node? place = disk.node? place → changed'.node? place = changed.node? place
  kept : ∀ place, ahead.node? place ≠ disk.node? place → changed'.node? place = ahead.node? place

theorem Repeats.rfl {disk ahead : Disk} : Repeats disk disk ahead ahead :=
  ⟨fun _ h => h, fun _ _ => Eq.refl _⟩

variable {disk changed ahead : Disk} {p : Path} {here there directory place : Place} {name : String}
  {names : List String} {bytes : ByteArray}

/-! ## Trees that stay trees -/

theorem node?_erase_self (h : disk.node? place ≠ some .directory) :
    (disk.erase place).node? place = none := by
  have hhome := not_isPrefixOf_home h
  rw [node?, erase, if_neg (by simp [hhome]), lookup_filter_self]

theorem IsTree.insert (htree : disk.IsTree) (node : Node)
    (hdirectory : disk.node? directory = some .directory)
    (hnode : disk.node? (directory ++ [name]) ≠ some .directory) :
    (disk.insert (directory ++ [name]) node).IsTree := by
  intro place other hother
  have hkeeps : KeepsDirectories disk (disk.insert (directory ++ [name]) node) :=
    keepsDirectories_insert node hnode
  by_cases heq : place ++ [other] = directory ++ [name]
  · obtain rfl := (List.append_inj' heq rfl).1
    exact hkeeps.directories _ hdirectory
  · rw [node?_insert_of_ne _ _ heq] at hother
    exact hkeeps.directories _ (htree _ _ hother)

theorem IsTree.erase (htree : disk.IsTree) (hnode : disk.node? place ≠ some .directory) :
    (disk.erase place).IsTree := by
  intro above other hother
  by_cases heq : above ++ [other] = place
  · rw [heq, node?_erase_self hnode] at hother
    exact absurd rfl hother
  · rw [node?_erase_of_ne _ heq] at hother
    exact (keepsDirectories_erase hnode).directories _ (htree _ _ hother)

theorem IsTree.descend (htree : disk.IsTree) (hhere : disk.node? here = some .directory) :
    (disk.descend here names).2.IsTree := by
  induction names generalizing disk here with
  | nil => exact htree
  | cons name rest ih =>
      unfold Disk.descend
      split
      · exact htree
      · split
        · next hnode => exact ih htree hnode
        · exact htree
        · next hnode =>
            have hne : disk.node? (here ++ [name]) ≠ some .directory := by simp [hnode]
            exact ih (htree.insert .directory hhere hne)
              (disk.node?_insert_self _ (not_isPrefixOf_home hne))

theorem keepsDirectories_deposit (disk : Disk) (directory : Place) (name : String)
    (bytes : ByteArray) : KeepsDirectories disk (disk.deposit directory name bytes).2 := by
  unfold deposit
  split
  · exact .rfl
  · next hdraft =>
      split
      · exact keepsDirectories_erase hdraft
      · next htarget =>
          refine (keepsDirectories_erase hdraft).trans (keepsDirectories_insert _ ?_)
          rwa [node?_erase_of_ne _ (draft_ne_name directory name).symm]

theorem IsTree.deposit (htree : disk.IsTree)
    (hdirectory : disk.node? directory = some .directory) :
    (disk.deposit directory name bytes).2.IsTree := by
  unfold Disk.deposit
  split
  · exact htree
  · next hdraft =>
      have herased := htree.erase hdraft
      split
      · exact herased
      · next htarget =>
          refine herased.insert _ ((keepsDirectories_erase hdraft).directories _ hdirectory) ?_
          rwa [node?_erase_of_ne _ (draft_ne_name directory name).symm]

/-! ## What is changed -/

theorem descend_changes (h : (disk.descend here names).2.node? place ≠ disk.node? place) :
    disk.node? place = none ∧ (disk.descend here names).2.node? place = some .directory ∧
      place <+: here ++ names := by
  induction names generalizing disk here with
  | nil => exact absurd rfl h
  | cons name rest ih =>
      rw [List.append_cons]
      unfold descend at h ⊢
      split
      · next hlong =>
          rw [if_pos hlong] at h
          exact absurd rfl h
      · next hlong =>
          rw [if_neg hlong] at h
          split
          · next hnode =>
              rw [hnode] at h
              exact ih h
          · next hnode =>
              rw [hnode] at h
              exact absurd rfl h
          · next hnode =>
              rw [hnode] at h
              have hinserted := disk.node?_insert_self .directory
                (not_isPrefixOf_home (by simp [hnode] : disk.node? (here ++ [name]) ≠ some .directory))
              by_cases hplace : place = here ++ [name]
              · subst hplace
                refine ⟨hnode, ?_, List.prefix_append _ _⟩
                exact (descend_directories _ _ _).directories _ hinserted
              · rw [← disk.node?_insert_of_ne .directory hplace] at h ⊢
                exact ih h

theorem deposit_node?_of_not_own (hown : ¬ IsOwn directory name place) :
    (disk.deposit directory name bytes).2.node? place = disk.node? place := by
  rw [IsOwn, not_or] at hown
  unfold deposit
  split
  · rfl
  · split
    · exact node?_erase_of_ne _ hown.2
    · rw [node?_insert_of_ne _ _ hown.1, node?_erase_of_ne _ hown.2]

theorem deposit_refusals (disk : Disk) (directory : Place) (name : String) (bytes : ByteArray) :
    (disk.deposit directory name bytes).2.refusals = disk.refusals := by
  unfold deposit
  split
  · rfl
  · split <;> rfl

namespace Touches

theorem rfl (htree : disk.IsTree) (hquiet : disk.refusals = []) : Touches directory name disk disk :=
  ⟨htree, hquiet, .rfl, fun _ hne => absurd (Eq.refl _) hne⟩

theorem trans {made : Disk} (h : Touches directory name disk made)
    (h' : Touches directory name made changed) : Touches directory name disk changed := by
  refine ⟨h'.tree, h'.quiet, h.keeps.trans h'.keeps, fun place hne => ?_⟩
  by_cases hmade : made.node? place = disk.node? place
  · rw [← hmade] at hne ⊢
    exact h'.changes place hne
  · obtain ⟨hnone, hdirectory, hprefix⟩ | hown := h.changes place hmade
    · exact .inl ⟨hnone, h'.keeps.directories _ hdirectory, hprefix⟩
    · exact .inr hown

end Touches

theorem touches_descend (htree : disk.IsTree) (hquiet : disk.refusals = [])
    (hthere : disk.node? there = some .directory) :
    Touches (there ++ names) name disk (disk.descend there names).2 where
  tree := htree.descend hthere
  quiet := (descend_refusals disk there names).trans hquiet
  keeps := descend_directories disk there names
  changes _ hne := .inl (descend_changes hne)

theorem touches_deposit (htree : disk.IsTree) (hquiet : disk.refusals = [])
    (hdirectory : disk.node? directory = some .directory) (bytes : ByteArray) :
    Touches directory name disk (disk.deposit directory name bytes).2 where
  tree := htree.deposit hdirectory
  quiet := (deposit_refusals disk directory name bytes).trans hquiet
  keeps := keepsDirectories_deposit disk directory name bytes
  changes _ hne := .inr (by_contra fun hown => hne (deposit_node?_of_not_own hown))

/-! ## What is repeated -/

theorem exists_descend_cons (names : List String) (hlong : ¬ name.utf8ByteSize > maxName)
    (h : disk.node? (here ++ [name]) = none ∨ disk.node? (here ++ [name]) = some .directory) :
    ∃ made : Disk, disk.descend here (name :: names) = made.descend (here ++ [name]) names ∧
      made.home = disk.home ∧ made.node? (here ++ [name]) = some .directory ∧
      ∀ place, place ≠ here ++ [name] → made.node? place = disk.node? place := by
  obtain hnode | hnode := h
  · refine ⟨disk.insert (here ++ [name]) .directory, ?_, rfl, ?_, ?_⟩
    · rw [descend, if_neg hlong, hnode]
    · exact disk.node?_insert_self _ (not_isPrefixOf_home (by simp [hnode]))
    · exact fun place hplace => disk.node?_insert_of_ne _ hplace
  · refine ⟨disk, ?_, rfl, hnode, fun _ _ => rfl⟩
    rw [descend, if_neg hlong, hnode]

theorem descend_repeats (hhome : ahead.home = disk.home)
    (habove : ∀ place, place <+: here ++ names → ahead.node? place = disk.node? place ∨
      disk.node? place = none ∧ ahead.node? place = some .directory) :
    (ahead.descend here names).1 = (disk.descend here names).1 ∧
      Repeats disk (disk.descend here names).2 ahead (ahead.descend here names).2 := by
  induction names generalizing disk ahead here with
  | nil => exact ⟨rfl, .rfl⟩
  | cons name rest ih =>
      rw [List.append_cons] at habove
      have hfirst := habove (here ++ [name]) (List.prefix_append _ _)
      by_cases hlong : name.utf8ByteSize > maxName
      · simp only [descend, if_pos hlong]
        exact ⟨trivial, .rfl⟩
      by_cases hfile : ∃ content, disk.node? (here ++ [name]) = some (.file content)
      · obtain ⟨content, hnode⟩ := hfile
        simp only [descend, if_neg hlong, hfirst.resolve_right (by simp [hnode]), hnode]
        exact ⟨trivial, .rfl⟩
      -- Both disks go on below a directory, which one of them may have had to make.
      have hpass : disk.node? (here ++ [name]) = none ∨
          disk.node? (here ++ [name]) = some .directory := by
        cases hnode : disk.node? (here ++ [name]) with
        | none => exact .inl rfl
        | some node =>
            cases node with
            | directory => exact .inr rfl
            | file content => exact absurd ⟨content, hnode⟩ hfile
      have hpass' : ahead.node? (here ++ [name]) = none ∨
          ahead.node? (here ++ [name]) = some .directory := by
        obtain hfirst | ⟨-, hfirst⟩ := hfirst
        · rwa [hfirst]
        · exact .inr hfirst
      obtain ⟨made, hdescend, hmade, hthere, hothers⟩ := exists_descend_cons rest hlong hpass
      obtain ⟨made', hdescend', hmade', hthere', hothers'⟩ := exists_descend_cons rest hlong hpass'
      have hkeeps := descend_directories made' (here ++ [name]) rest
      have hmadeAbove : ∀ place, place <+: here ++ [name] ++ rest →
          made'.node? place = made.node? place ∨
            made.node? place = none ∧ made'.node? place = some .directory := by
        intro place hprefix
        by_cases hplace : place = here ++ [name]
        · exact .inl (by rw [hplace, hthere, hthere'])
        · rw [hothers place hplace, hothers' place hplace]
          exact habove place hprefix
      obtain ⟨hresult, hrepeats⟩ := ih (by rw [hmade, hmade', hhome]) hmadeAbove
      rw [hdescend, hdescend']
      refine ⟨hresult, fun place hsame => hrepeats.same place ?_, fun place hother => ?_⟩
      · by_cases hplace : place = here ++ [name]
        · rw [hplace, hthere, hthere']
        · rwa [hothers place hplace, hothers' place hplace]
      · by_cases hplace : place = here ++ [name]
        · subst hplace
          rw [hkeeps.directories _ hthere', (hfirst.resolve_left hother).2]
        · have hkept := hrepeats.kept place
          rw [hothers place hplace, hothers' place hplace] at hkept
          exact hkept hother

theorem deposit_repeats (bytes : ByteArray) (hown : ∀ place, IsOwn directory name place →
    ahead.node? place = disk.node? place) :
    (ahead.deposit directory name bytes).1 = (disk.deposit directory name bytes).1 ∧
      ∀ place, IsOwn directory name place →
        (ahead.deposit directory name bytes).2.node? place =
          (disk.deposit directory name bytes).2.node? place := by
  have hname := hown _ (.inl rfl)
  have hdraft := hown _ (.inr rfl)
  unfold deposit
  rw [hname, hdraft]
  split
  · exact ⟨rfl, hown⟩
  · next hdirectory =>
      have herased := node?_erase_self hdirectory
      have herased' : (ahead.erase (directory ++ [name ++ ".tmp"])).node?
          (directory ++ [name ++ ".tmp"]) = none := node?_erase_self (hdraft ▸ hdirectory)
      have hkept := disk.node?_erase_of_ne (draft_ne_name directory name).symm
      have hkept' := ahead.node?_erase_of_ne (draft_ne_name directory name).symm
      split
      · refine ⟨rfl, ?_⟩
        rintro place (rfl | rfl)
        · rw [hkept, hkept', hname]
        · rw [herased, herased']
      · next htarget =>
          refine ⟨rfl, ?_⟩
          rintro place (rfl | rfl)
          · have hfree := not_isPrefixOf_home (hkept.symm ▸ htarget)
            have hfree' := not_isPrefixOf_home (hkept'.trans hname ▸ htarget)
            rw [node?_insert_self _ _ hfree', node?_insert_self _ _ hfree]
          · rw [node?_insert_of_ne _ _ (draft_ne_name directory name),
              node?_insert_of_ne _ _ (draft_ne_name directory name), herased, herased']

theorem enter_of_directories (hplain : ∀ name ∈ names, Path.IsPlain name)
    (h : ahead.enter here names = .ok there)
    (hdirectories : ∀ place, place <+: here ++ names → disk.node? place = some .directory) :
    disk.enter here names = .ok there := by
  induction names generalizing here with
  | nil => exact h
  | cons name rest ih =>
      rw [List.append_cons] at hdirectories
      have hdots := (hplain name List.mem_cons_self).ne_dots
      have hnode := hdirectories (here ++ [name]) (List.prefix_append _ _)
      simp only [enter, if_neg hdots, hnode] at h ⊢
      split at h
      · cases h
      · next hlong =>
          rw [if_neg hlong]
          split at h
          · exact ih (fun name hmem => hplain name (List.mem_cons_of_mem _ hmem)) h hdirectories
          · cases h
          · cases h

/-! ## Replacing files -/

section Replacing

variable (hname : Path.IsPlain name) (hroute : disk.Route p there names)

include hname hroute

theorem touches_of_replaceCleanly (htree : disk.IsTree) (hquiet : disk.refusals = []) {text : String}
    {result : Except FileFault Unit}
    (h : (FileSystem.replaceCleanly (m := StateM Disk) (p.join name) text).run disk =
      (result, changed)) : Touches (there ++ names) name disk changed := by
  rw [replaceCleanly_run htree hquiet hname hroute] at h
  have hthere := hroute.directory htree
  have hdescended : Touches (there ++ names) name disk (disk.descend there names).2 :=
    touches_descend htree hquiet hthere
  cases hparent : (p.join name).parentFault? with
  | some fault =>
      rw [hparent] at h
      obtain ⟨-, rfl⟩ := Prod.mk.inj h
      exact .rfl htree hquiet
  | none =>
      rw [hparent] at h
      dsimp only at h
      cases hdescend : disk.descend there names with
      | mk ended made =>
          rw [hdescend] at h hdescended
          cases ended with
          | error fault =>
              obtain ⟨-, rfl⟩ := Prod.mk.inj h
              exact hdescended
          | ok _ =>
              dsimp only at h
              cases hfault : p.nameFault? (name ++ ".tmp") with
              | some fault =>
                  rw [hfault] at h
                  obtain ⟨-, rfl⟩ := Prod.mk.inj h
                  exact hdescended
              | none =>
                  rw [hfault] at h
                  have hdirectory := enter_directory hdescended.tree
                    (enter_of_descend hroute.plain hdescend) (hdescended.keeps.directories _ hthere)
                  obtain rfl : (made.deposit (there ++ names) name text.toUTF8).2 = changed :=
                    congrArg Prod.snd h
                  exact hdescended.trans
                    (touches_deposit hdescended.tree hdescended.quiet hdirectory text.toUTF8)

/-- Replacing a file is repeated on a disk that is ahead. -/
theorem replaceCleanly_repeats (htree : disk.IsTree) (hquiet : disk.refusals = [])
    (htree' : ahead.IsTree) (hquiet' : ahead.refusals = []) (hkeeps : KeepsDirectories disk ahead)
    (hahead : Ahead (there ++ names) name disk ahead) (text : String) :
    ((FileSystem.replaceCleanly (m := StateM Disk) (p.join name) text).run ahead).1 =
        ((FileSystem.replaceCleanly (m := StateM Disk) (p.join name) text).run disk).1 ∧
      Repeats disk ((FileSystem.replaceCleanly (m := StateM Disk) (p.join name) text).run disk).2
        ahead ((FileSystem.replaceCleanly (m := StateM Disk) (p.join name) text).run ahead).2 := by
  rw [replaceCleanly_run htree hquiet hname hroute,
    replaceCleanly_run htree' hquiet' hname (hroute.of_keepsDirectories hkeeps)]
  cases (p.join name).parentFault? with
  | some fault => exact ⟨rfl, .rfl⟩
  | none =>
      obtain ⟨hresult, hrepeats⟩ := descend_repeats hahead.home hahead.above
      dsimp only
      cases hdescend : disk.descend there names with
      | mk ended made =>
          cases hdescend' : ahead.descend there names with
          | mk ended' made' =>
              rw [hdescend, hdescend'] at hresult hrepeats
              obtain rfl : ended' = ended := hresult
              cases ended' with
              | error fault => exact ⟨rfl, hrepeats⟩
              | ok _ =>
                  cases p.nameFault? (name ++ ".tmp") with
                  | some fault => exact ⟨rfl, hrepeats⟩
                  | none =>
                      obtain ⟨hdeposit, hown⟩ := deposit_repeats text.toUTF8
                        fun place hplace => hrepeats.same place (hahead.own place hplace)
                      refine ⟨hdeposit, fun place hsame => ?_, fun place hother => ?_⟩
                      · by_cases hplace : IsOwn (there ++ names) name place
                        · exact hown place hplace
                        · rw [deposit_node?_of_not_own hplace, deposit_node?_of_not_own hplace,
                            hrepeats.same place hsame]
                      · have hplace : ¬ IsOwn (there ++ names) name place :=
                          fun hplace => hother (hahead.own place hplace)
                        rw [deposit_node?_of_not_own hplace, hrepeats.kept place hother]

theorem enter_of_target {target : Target} (htarget : disk.target (p.join name) = .ok target) :
    disk.enter there names = .ok (there ++ names) ∧
      target = ⟨there ++ names ++ [name], false, true⟩ := by
  obtain ⟨before, hsegments, hbefore, -⟩ := p.segments_join hname
  have hentered := hroute.enter_names
  cases hthere : disk.enter there names with
  | error fault =>
      rw [target_eq, hsegments, Path.root_join p hname, follow_concat disk _ before hname, hbefore,
        hentered, hthere] at htarget
      split at htarget <;> cases htarget
  | ok reached =>
      have hidle : ∀ name ∈ names, Path.isIdle name = false :=
        fun name hmem => (hroute.plain name hmem).not_idle
      obtain rfl : reached = there ++ names := by
        rw [eq_foldl_of_enter hidle hthere, Path.foldl_step_of_isPlain hroute.plain]
      rw [target_join hname (hentered.trans hthere)] at htarget
      split at htarget
      · cases htarget
      · exact ⟨rfl, (Except.ok.inj htarget).symm⟩

theorem hasFile_of_ahead (htree : disk.IsTree) (hkeeps : KeepsDirectories disk ahead)
    (hsame : ahead.node? (there ++ names ++ [name]) = disk.node? (there ++ names ++ [name])) :
    ahead.hasFile (p.join name) = disk.hasFile (p.join name) := by
  have hfile : ahead.file? (there ++ names ++ [name]) = disk.file? (there ++ names ++ [name]) := by
    rw [file?, file?, hsame]
  have hroute' := hroute.of_keepsDirectories hkeeps
  rw [Bool.eq_iff_iff, hasFile_iff, hasFile_iff]
  constructor
  · rintro ⟨target, content, htarget, -, hcontent⟩
    obtain ⟨hentered, rfl⟩ := enter_of_target hname hroute' htarget
    rw [hfile] at hcontent
    have hnode : disk.node? (there ++ names ++ [name]) ≠ none := by
      intro hnone
      rw [file?, hnone] at hcontent
      cases hcontent
    have hdirectories : ∀ place, place <+: there ++ names → disk.node? place = some .directory := by
      rintro place ⟨rest, hrest⟩
      rw [← hrest, List.append_assoc] at hnode
      exact htree.directory_above hnode (by simp)
    have hreached := hroute.enter_names.trans
      (enter_of_directories hroute.plain hentered hdirectories)
    rw [target_join hname (hroute'.enter_names.trans hentered), ← target_join hname hreached] at htarget
    exact ⟨_, content, htarget, rfl, hcontent⟩
  · rintro ⟨target, content, htarget, hdirectory, hcontent⟩
    obtain ⟨-, rfl⟩ := enter_of_target hname hroute htarget
    exact ⟨_, content, hkeeps.target htarget, hdirectory, hfile.trans hcontent⟩

end Replacing

end Disk

end KotlinFakes
