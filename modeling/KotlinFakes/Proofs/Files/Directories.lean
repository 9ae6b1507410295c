import KotlinFakes.Proofs.Files.System

/-!
# Directories that stay

No operation takes a directory away or puts a file in its place, also if it is refused or goes wrong. A
path that leads to a file therefore leads there as long as the file is there.
-/

namespace KotlinFakes

namespace Disk

/-- Whether a changed disk has the working directory of another disk and all its directories. -/
structure KeepsDirectories (disk changed : Disk) : Prop where
  home : changed.home = disk.home
  directories : ∀ place, disk.node? place = some .directory →
    changed.node? place = some .directory

variable {disk changed : Disk}

namespace KeepsDirectories

theorem rfl : KeepsDirectories disk disk := ⟨Eq.refl _, fun _ h => h⟩

theorem trans {between : Disk} (h : KeepsDirectories disk between)
    (h' : KeepsDirectories between changed) : KeepsDirectories disk changed :=
  ⟨h'.home.trans h.home, fun place hp => h'.directories place (h.directories place hp)⟩

/-- A path that leads to a target still does, for it goes through directories. -/
theorem follow (h : KeepsDirectories disk changed) {here : Place} {names : List String}
    {target : Target} (ht : disk.follow here names = .ok target) :
    changed.follow here names = .ok target := by
  induction names generalizing here with
  | nil => exact ht
  | cons name rest ih =>
      unfold Disk.follow at ht ⊢
      split at ht
      · next hname => rw [if_pos hname, ih ht]
      · next hempty =>
          rw [if_neg hempty]
          split at ht
          · next hname => rw [if_pos hname, ih ht]
          · next hdot =>
              rw [if_neg hdot]
              split at ht
              · next hname => rw [if_pos hname, ih ht]
              · next hdots =>
                  rw [if_neg hdots]
                  split at ht
                  · cases ht
                  · next hlong =>
                      rw [if_neg hlong]
                      split at ht
                      · next hrest => rw [if_pos hrest, ht]
                      · next hrest =>
                          rw [if_neg hrest]
                          split at ht
                          · next hnode => rw [h.directories _ hnode, ih ht]
                          · cases ht
                          · cases ht

theorem target (h : KeepsDirectories disk changed) {path : Path} {target : Target}
    (ht : disk.target path = .ok target) : changed.target path = .ok target := by
  unfold Disk.target at ht ⊢
  rw [h.home]
  split at ht
  · cases ht
  · split at ht
    · cases ht
    · split at ht
      · cases ht
      · next hzero hempty hlong => rw [if_neg hzero, if_neg hempty, if_neg hlong, h.follow ht]

end KeepsDirectories

theorem hasFile_iff {path : Path} : disk.hasFile path ↔
    ∃ target content, disk.target path = .ok target ∧ target.asDirectory = false ∧
      disk.file? target.place = some content := by
  unfold hasFile find
  cases htarget : disk.target path with
  | error fault => simp [bind, Except.bind]
  | ok target =>
      cases hnode : disk.node? target.place with
      | none => simp [bind, Except.bind, hnode, file?]
      | some node =>
          cases node with
          | directory => simp [bind, Except.bind, pure, Except.pure, hnode, file?]
          | file content =>
              cases hdirectory : target.asDirectory <;>
                simp [bind, Except.bind, pure, Except.pure, hnode, hdirectory, file?]

theorem KeepsDirectories.hasFile (h : KeepsDirectories disk changed) {path : Path}
    {content : ByteArray} (hbefore : disk.hasFile path)
    (hfile : changed.file? (path.place disk.home) = some content) : changed.hasFile path := by
  obtain ⟨target, -, htarget, hdirectory, -⟩ := hasFile_iff.1 hbefore
  rw [← place_of_target htarget] at hfile
  exact hasFile_iff.2 ⟨target, content, h.target htarget, hdirectory, hfile⟩

/-! ## Operations -/

theorem keepsDirectories_insert {place : Place} (node : Node)
    (h : disk.node? place ≠ some .directory) : KeepsDirectories disk (disk.insert place node) := by
  refine ⟨rfl, fun other hother => ?_⟩
  have hne : other ≠ place := by
    rintro rfl
    exact h hother
  rw [disk.node?_insert_of_ne _ hne, hother]

theorem keepsDirectories_erase {place : Place} (h : disk.node? place ≠ some .directory) :
    KeepsDirectories disk (disk.erase place) := by
  refine ⟨rfl, fun other hother => ?_⟩
  have hne : other ≠ place := by
    rintro rfl
    exact h hother
  rw [disk.node?_erase_of_ne hne, hother]

theorem makeDir_directories {made : Disk} {path : Path} (h : disk.makeDir path = .ok made) :
    KeepsDirectories disk made := by
  obtain ⟨target, -, h⟩ := exists_of_bind_eq_ok h
  split at h
  · cases h
  · next hnode =>
      obtain rfl := Except.ok.inj h
      exact keepsDirectories_insert _ (by simp [hnode])

theorem ensureDir_directories {made : Disk} {path : Path} (h : disk.ensureDir path = .ok made) :
    KeepsDirectories disk made := by
  unfold ensureDir at h
  split at h
  · next hmade => exact Except.ok.inj h ▸ makeDir_directories hmade
  · split at h
    · exact Except.ok.inj h ▸ .rfl
    · cases h

theorem makeLineage_directories (disk : Disk) (lineage : List Path) :
    KeepsDirectories disk (disk.makeLineage lineage).2 := by
  induction lineage with
  | nil => exact .rfl
  | cons path above ih =>
      unfold makeLineage
      split
      · next h => exact ensureDir_directories h
      · split
        · next hmade => simpa [hmade] using ih
        · next after hmade =>
            have hkept : KeepsDirectories disk after := by simpa [hmade] using ih
            split
            · next h => exact hkept.trans (ensureDir_directories h)
            · exact hkept
      · exact .rfl

theorem openFile_not_directory {path : Path} {place : Place} {content : ByteArray}
    (h : disk.openFile path = .ok (place, content)) : disk.node? place ≠ some .directory := by
  obtain ⟨target, -, h⟩ := exists_of_bind_eq_ok h
  dsimp only at h
  split at h
  · cases h
  · split at h
    · cases h
    · next hnode =>
        obtain ⟨rfl, -⟩ := Prod.mk.inj (Except.ok.inj h)
        simp [hnode]
    · next hnode =>
        obtain ⟨rfl, -⟩ := Prod.mk.inj (Except.ok.inj h)
        simp [hnode]

theorem write_directories {written : Disk} {path : Path} {bytes : ByteArray}
    (h : disk.write path bytes = .ok written) : KeepsDirectories disk written := by
  obtain ⟨⟨place, content⟩, hopen, h⟩ := exists_of_bind_eq_ok h
  obtain rfl := Except.ok.inj h
  exact keepsDirectories_insert _ (openFile_not_directory hopen)

theorem append_directories {written : Disk} {path : Path} {bytes : ByteArray}
    (h : disk.append path bytes = .ok written) : KeepsDirectories disk written := by
  obtain ⟨⟨place, content⟩, hopen, h⟩ := exists_of_bind_eq_ok h
  obtain rfl := Except.ok.inj h
  exact keepsDirectories_insert _ (openFile_not_directory hopen)

theorem move_directories {moved : Disk} {source destination : Path}
    (h : disk.move source destination = .ok moved) :
    KeepsDirectories disk moved ∧ moved.hasFile destination := by
  obtain ⟨origin, horigin, h⟩ := exists_of_bind_eq_ok h
  obtain ⟨goal, hgoal, h⟩ := exists_of_bind_eq_ok h
  dsimp only at h
  split at h
  · cases h
  · split at h
    · cases h
    · cases h
    · next content hcontent =>
        split at h
        · cases h
        · next hasFile =>
            split at h
            · cases h
            · next hdirectory =>
                obtain rfl := Except.ok.inj h
                have hkept : KeepsDirectories disk
                    ((disk.erase origin.place).insert goal.place (.file content)) := by
                  refine ⟨rfl, fun place hplace => ?_⟩
                  have hgoal : place ≠ goal.place := fun heq => hdirectory (heq ▸ hplace)
                  have horigin : place ≠ origin.place := by
                    rintro rfl
                    rw [hcontent] at hplace
                    cases hplace
                  rw [node?_insert_of_ne _ _ hgoal, node?_erase_of_ne _ horigin, hplace]
                refine ⟨hkept, hasFile_iff.2 ⟨goal, content, hkept.target hgoal, ?_, ?_⟩⟩
                · simp only [Bool.or_eq_true, not_or, Bool.not_eq_true] at hasFile
                  exact hasFile.2
                · have hhome := not_isPrefixOf_home hdirectory
                  exact ((disk.erase origin.place).insert_file_spec content hhome).2

theorem remove_directories {removed : Disk} {path : Path} (h : disk.remove path = .ok removed) :
    KeepsDirectories disk removed := by
  obtain ⟨target, -, h⟩ := exists_of_bind_eq_ok h
  split at h
  · cases h
  · cases h
  · next content hcontent =>
      split at h
      · cases h
      · obtain rfl := Except.ok.inj h
        exact keepsDirectories_erase (by simp [hcontent])

theorem later_directories (disk : Disk) : KeepsDirectories disk disk.later := ⟨rfl, fun _ h => h⟩

/-! ## Programs -/

/-- Whether a program keeps the directories of every disk that it is run on. -/
def Keeping {α : Type} (x : StateM Disk α) : Prop :=
  ∀ disk a changed, x disk = (a, changed) → KeepsDirectories disk changed

section Programs

variable {α β : Type}

theorem keeping_pure (a : α) : Keeping (pure a) := by
  intro disk b changed h
  obtain ⟨-, rfl⟩ := Prod.mk.inj h
  exact .rfl

theorem Keeping.bind {x : StateM Disk α} {f : α → StateM Disk β} (hx : Keeping x)
    (hf : ∀ a, Keeping (f a)) : Keeping (x >>= f) :=
  fun disk b changed h => (hx disk _ _ rfl).trans (hf _ _ b changed h)

theorem Keeping.run_bind {x : ExceptT FileFault (StateM Disk) α}
    {f : α → ExceptT FileFault (StateM Disk) β} (hx : Keeping x.run) (hf : ∀ a, Keeping (f a).run) :
    Keeping (x >>= f).run := by
  intro disk b changed h
  obtain ⟨fault, hfirst, -⟩ | ⟨a, between, hfirst, hrest⟩ := run_bind_cases h
  · exact hx _ _ _ hfirst
  · exact (hx _ _ _ hfirst).trans (hf a _ _ _ hrest)

theorem Keeping.run_tryCatch {x : ExceptT FileFault (StateM Disk) α}
    {handler : FileFault → ExceptT FileFault (StateM Disk) α} (hx : Keeping x.run)
    (hhandler : ∀ fault, Keeping (handler fault).run) : Keeping (tryCatch x handler).run := by
  intro disk b changed h
  obtain ⟨a, hfirst, -⟩ | ⟨fault, between, hfirst, hrest⟩ := run_tryCatch_cases h
  · exact hx _ _ _ hfirst
  · exact (hx _ _ _ hfirst).trans (hhandler fault _ _ _ hrest)

theorem keeping_askWhether (question : Disk → Bool) : Keeping (askWhether question) := by
  intro disk answer changed h
  obtain ⟨rfl, -⟩ := askWhether_cases h
  exact later_directories disk

theorem keeping_change {operation : Disk → Except FileFault Unit × Disk}
    (hkeeps : ∀ disk, KeepsDirectories disk (operation disk).2) : Keeping (change operation).run := by
  intro disk result changed h
  obtain hdone | ⟨rfl, -⟩ := change_cases h
  · obtain rfl : changed = (operation disk.later).2 := congrArg Prod.snd hdone
    exact (later_directories disk).trans (hkeeps disk.later)
  · exact later_directories disk

theorem keepsDirectories_settle {result : Except FileFault Disk}
    (h : ∀ changed, result = .ok changed → KeepsDirectories disk changed) :
    KeepsDirectories disk (disk.settle result).2 := by
  cases result with
  | error fault => exact .rfl
  | ok changed => exact h changed rfl

theorem keeping_changeBytes {write : ByteArray → Disk → Except FileFault Disk} {bytes : ByteArray}
    (hkeeps : ∀ part disk changed, write part disk = .ok changed → KeepsDirectories disk changed) :
    Keeping (changeBytes write bytes).run := by
  intro disk result changed h
  have hlater := later_directories disk
  obtain ⟨-, hwrite⟩ | ⟨-, rfl | ⟨part, hwrite⟩⟩ := changeBytes_cases h
  · exact hlater.trans (hkeeps _ _ _ hwrite)
  · exact hlater
  · exact hlater.trans (hkeeps _ _ _ hwrite)

end Programs

end Disk

namespace FileSystem

open Disk

theorem keeping_isFile (path : Path) : Keeping (isFile (m := StateM Disk) path) :=
  keeping_askWhether _

theorem keeping_isPresent (path : Path) : Keeping (isPresent (m := StateM Disk) path) :=
  keeping_askWhether _

theorem keeping_makeDirs (path : Path) : Keeping (makeDirs (m := StateM Disk) path).run :=
  keeping_change fun disk => makeLineage_directories disk path.lineage

theorem keeping_writeText (path : Path) (text : String) :
    Keeping (writeText (m := StateM Disk) path text).run :=
  keeping_changeBytes fun _ _ _ => write_directories

theorem keeping_appendText (path : Path) (text : String) :
    Keeping (appendText (m := StateM Disk) path text).run :=
  keeping_changeBytes fun _ _ _ => append_directories

theorem keeping_rename (source destination : Path) :
    Keeping (rename (m := StateM Disk) source destination).run :=
  keeping_change fun _ => keepsDirectories_settle fun _ h => (move_directories h).1

theorem keeping_removeFile (path : Path) : Keeping (removeFile (m := StateM Disk) path).run :=
  keeping_change fun _ => keepsDirectories_settle fun _ h => remove_directories h

theorem keeping_makeParent (path : Path) : Keeping (makeParent (m := StateM Disk) path).run := by
  unfold makeParent
  split
  · split
    · exact keeping_pure _
    · exact keeping_makeDirs _
  · exact keeping_pure _

theorem keeping_replaceText (path : Path) (text : String) :
    Keeping (replaceText (m := StateM Disk) path text).run := by
  unfold replaceText
  refine (keeping_makeParent path).run_bind fun _ => ?_
  exact (keeping_writeText path.draft text).run_bind fun _ => keeping_rename path.draft path

theorem keeping_replaceCleanly (path : Path) (text : String) :
    Keeping (replaceCleanly (m := StateM Disk) path text).run := by
  unfold replaceCleanly
  refine (keeping_makeParent path).run_bind fun _ => ?_
  refine (keeping_writeText path.draft text).run_bind fun _ => ?_
  refine (keeping_rename path.draft path).run_tryCatch fun fault => ?_
  refine Keeping.run_bind ?_ fun _ => keeping_pure (Except.error fault)
  exact (keeping_removeFile path.draft).run_tryCatch fun _ => keeping_pure (Except.ok ())

variable {disk changed : Disk} {path : Path} {text : String}

theorem hasFile_of_rename {source destination : Path}
    (h : (rename (m := StateM Disk) source destination).run disk = (.ok (), changed)) :
    changed.hasFile destination := by
  obtain hmoved | ⟨-, fault, hfault⟩ := change_cases h
  · cases hmove : disk.later.move source destination with
    | error fault =>
        rw [hmove] at hmoved
        cases hmoved
    | ok moved =>
        rw [hmove] at hmoved
        obtain ⟨-, rfl⟩ := Prod.mk.inj hmoved
        exact (move_directories hmove).2
  · cases hfault

theorem hasFile_of_replaceCleanly
    (h : (replaceCleanly (m := StateM Disk) path text).run disk = (.ok (), changed)) :
    changed.hasFile path := by
  obtain ⟨_, made, -, h⟩ := exists_of_run_bind_eq_ok h
  obtain ⟨_, written, -, htry⟩ := exists_of_run_bind_eq_ok h
  obtain ⟨_, hrenamed, -⟩ | ⟨fault, failed, -, h⟩ := run_tryCatch_cases htry
  · exact hasFile_of_rename hrenamed
  · obtain ⟨_, removed, -, hthrow⟩ := exists_of_run_bind_eq_ok h
    cases hthrow

end FileSystem

end KotlinFakes
