import KotlinFakes.Proofs.Files.Operations

/-!
# Disks as file systems

What the operations of a file system do to a disk. A file that is replaced has its new content or, if
anything goes wrong, keeps the old one; only its draft may be left behind.
-/

namespace KotlinFakes

namespace FileSystem

open Disk

variable {disk changed : Disk} {path : Path} {text : String} {result : Except FileFault Unit}

theorem readText_spec {result : Except FileFault String}
    (h : (readText (m := StateM Disk) path).run disk = (result, changed)) :
    SameFilesBut [] disk changed ∧
      ∀ text, result = .ok text → changed.file? (path.place disk.home) = some text.toUTF8 := by
  obtain ⟨rfl, hresult⟩ := ask_cases h
  refine ⟨later_files disk, fun text htext => ?_⟩
  obtain hresult | ⟨fault, hfault⟩ := hresult
  · exact file?_of_text (hresult.symm.trans htext)
  · exact absurd (hfault.symm.trans htext) (by simp)

theorem isFile_spec {answer : Bool} (h : isFile (m := StateM Disk) path disk = (answer, changed)) :
    SameFilesBut [] disk changed ∧ (answer = true → changed.hasFile path) := by
  obtain ⟨rfl, hanswer⟩ := askWhether_cases h
  refine ⟨later_files disk, fun htrue => ?_⟩
  obtain hanswer | hanswer := hanswer
  · exact hanswer.symm.trans htrue
  · exact absurd (hanswer.symm.trans htrue) Bool.false_ne_true

theorem isPresent_files {answer : Bool}
    (h : isPresent (m := StateM Disk) path disk = (answer, changed)) :
    SameFilesBut [] disk changed := by
  obtain ⟨rfl, -⟩ := askWhether_cases h
  exact later_files disk

theorem makeDirs_files (h : (makeDirs (m := StateM Disk) path).run disk = (result, changed)) :
    SameFilesBut [] disk changed := by
  obtain hmade | ⟨rfl, -⟩ := change_cases h
  · obtain rfl : changed = (disk.later.makeDirs path).2 := congrArg Prod.snd hmade
    exact (later_files disk).trans (makeLineage_files _ _)
  · exact later_files disk

theorem writeText_spec (h : (writeText (m := StateM Disk) path text).run disk = (result, changed)) :
    SameFilesBut [path.place disk.home] disk changed ∧
      (result = .ok () → changed.file? (path.place disk.home) = some text.toUTF8) := by
  have hlater := (later_files disk).mono (List.nil_subset [path.place disk.home])
  obtain ⟨rfl, hwrite⟩ | ⟨⟨fault, rfl⟩, rfl | ⟨part, hwrite⟩⟩ := changeBytes_cases h
  · obtain ⟨hfiles, hfile⟩ := write_spec hwrite
    exact ⟨hlater.trans hfiles, fun _ => hfile⟩
  · exact ⟨hlater, nofun⟩
  · exact ⟨hlater.trans (write_spec hwrite).1, nofun⟩

theorem appendText_spec
    (h : (appendText (m := StateM Disk) path text).run disk = (result, changed)) :
    SameFilesBut [path.place disk.home] disk changed ∧
      (result = .ok () → changed.file? (path.place disk.home) =
        some ((disk.file? (path.place disk.home)).getD .empty ++ text.toUTF8)) := by
  have hlater := (later_files disk).mono (List.nil_subset [path.place disk.home])
  obtain ⟨rfl, happend⟩ | ⟨⟨fault, rfl⟩, rfl | ⟨part, happend⟩⟩ := changeBytes_cases h
  · obtain ⟨hfiles, hfile⟩ := append_spec happend
    exact ⟨hlater.trans hfiles, fun _ => hfile⟩
  · exact ⟨hlater, nofun⟩
  · exact ⟨hlater.trans (append_spec happend).1, nofun⟩

theorem rename_spec {source destination : Path}
    (h : (rename (m := StateM Disk) source destination).run disk = (result, changed)) :
    SameFilesBut [destination.place disk.home, source.place disk.home] disk changed ∧
      (result = .ok () →
        changed.file? (destination.place disk.home) = disk.file? (source.place disk.home)) ∧
      (result ≠ .ok () → SameFilesBut [] disk changed) := by
  have hlater := later_files disk
  obtain hmoved | ⟨rfl, fault, rfl⟩ := change_cases h
  · cases hmove : disk.later.move source destination with
    | error fault =>
        rw [hmove] at hmoved
        obtain ⟨rfl, rfl⟩ := Prod.mk.inj hmoved
        exact ⟨hlater.mono (List.nil_subset _), nofun, fun _ => hlater⟩
    | ok moved =>
        rw [hmove] at hmoved
        obtain ⟨rfl, rfl⟩ := Prod.mk.inj hmoved
        obtain ⟨hfiles, hfile⟩ := move_spec hmove
        exact ⟨(hlater.mono (List.nil_subset _)).trans hfiles, fun _ => hfile,
          fun hne => absurd rfl hne⟩
  · exact ⟨hlater.mono (List.nil_subset _), nofun, fun _ => hlater⟩

theorem removeFile_files (h : (removeFile (m := StateM Disk) path).run disk = (result, changed)) :
    SameFilesBut [path.place disk.home] disk changed := by
  have hlater := (later_files disk).mono (List.nil_subset [path.place disk.home])
  obtain hremoved | ⟨rfl, -⟩ := change_cases h
  · cases hremove : disk.later.remove path with
    | error fault =>
        rw [hremove] at hremoved
        obtain ⟨-, rfl⟩ := Prod.mk.inj hremoved
        exact hlater
    | ok removed =>
        rw [hremove] at hremoved
        obtain ⟨-, rfl⟩ := Prod.mk.inj hremoved
        exact hlater.trans (remove_files hremove)
  · exact hlater

theorem makeParent_files (h : (makeParent (m := StateM Disk) path).run disk = (result, changed)) :
    SameFilesBut [] disk changed := by
  unfold makeParent at h
  split at h
  · split at h
    · obtain ⟨-, rfl⟩ := Prod.mk.inj h
      exact .rfl
    · exact makeDirs_files h
  · obtain ⟨-, rfl⟩ := Prod.mk.inj h
    exact .rfl

/-! ## Replacing files -/

/-- How the replacement of a file can end: with the new content, or with the old one. -/
structure Replaces (path : Path) (text : String) (disk : Disk) (result : Except FileFault Unit)
    (changed : Disk) : Prop where
  files : SameFilesBut [path.place disk.home, path.draft.place disk.home] disk changed
  written : result = .ok () → changed.file? (path.place disk.home) = some text.toUTF8
  kept : result ≠ .ok () → SameFilesBut [path.draft.place disk.home] disk changed

theorem Replaces.of_kept {fault : FileFault}
    (h : SameFilesBut [path.draft.place disk.home] disk changed) :
    Replaces path text disk (.error fault) changed :=
  ⟨h.mono (by simp), nofun, fun _ => h⟩

theorem Replaces.of_renamed {made written : Disk}
    (hmade : (makeParent (m := StateM Disk) path).run disk = (.ok (), made))
    (hwritten : (writeText (m := StateM Disk) path.draft text).run made = (.ok (), written))
    (hrenamed : (rename (m := StateM Disk) path.draft path).run written = (result, changed)) :
    Replaces path text disk result changed := by
  have hfiles := makeParent_files hmade
  obtain ⟨hdraft, htext⟩ := writeText_spec hwritten
  obtain ⟨hrename, hmoved, hkept⟩ := rename_spec hrenamed
  rw [hdraft.home, hfiles.home] at hrename hmoved
  rw [hfiles.home] at hdraft htext
  have hdraft := (hfiles.mono (List.nil_subset _)).trans hdraft
  exact
    { files := (hdraft.mono (by simp)).trans hrename
      written := fun hok => (hmoved hok).trans (htext rfl)
      kept := fun hne => hdraft.trans ((hkept hne).mono (List.nil_subset _)) }

theorem replaceText_spec
    (h : (replaceText (m := StateM Disk) path text).run disk = (result, changed)) :
    Replaces path text disk result changed := by
  obtain ⟨fault, hmade, rfl⟩ | ⟨_, made, hmade, h⟩ := run_bind_cases h
  · exact .of_kept ((makeParent_files hmade).mono (List.nil_subset _))
  · obtain ⟨fault, hwritten, rfl⟩ | ⟨_, written, hwritten, hrenamed⟩ := run_bind_cases h
    · have hfiles := makeParent_files hmade
      refine .of_kept ((hfiles.mono (List.nil_subset _)).trans ?_)
      exact hfiles.home ▸ (writeText_spec hwritten).1
    · exact .of_renamed hmade hwritten hrenamed

theorem tryRemoveFile_files
    (h : (tryCatch (removeFile (m := StateM Disk) path) fun _ => pure ()).run disk =
      (result, changed)) : SameFilesBut [path.place disk.home] disk changed := by
  obtain ⟨_, hremove, -⟩ | ⟨fault, between, hremove, h⟩ := run_tryCatch_cases h
  · exact removeFile_files hremove
  · obtain ⟨-, rfl⟩ := Prod.mk.inj h
    exact removeFile_files hremove

/-- Removing the draft after a failure changes nothing else. -/
theorem replaceCleanly_spec
    (h : (replaceCleanly (m := StateM Disk) path text).run disk = (result, changed)) :
    Replaces path text disk result changed := by
  obtain ⟨fault, hmade, rfl⟩ | ⟨_, made, hmade, h⟩ := run_bind_cases h
  · exact .of_kept ((makeParent_files hmade).mono (List.nil_subset _))
  · obtain ⟨fault, hwritten, rfl⟩ | ⟨_, written, hwritten, htry⟩ := run_bind_cases h
    · have hfiles := makeParent_files hmade
      refine .of_kept ((hfiles.mono (List.nil_subset _)).trans ?_)
      exact hfiles.home ▸ (writeText_spec hwritten).1
    · obtain ⟨_, hrenamed, rfl⟩ | ⟨fault, failed, hrenamed, h⟩ := run_tryCatch_cases htry
      · exact .of_renamed hmade hwritten hrenamed
      · have hkept := (Replaces.of_renamed hmade hwritten hrenamed).kept (by simp)
        obtain ⟨_, hremove, rfl⟩ | ⟨_, removed, hremove, hthrow⟩ := run_bind_cases h
        · exact .of_kept (hkept.trans (hkept.home ▸ tryRemoveFile_files hremove))
        · obtain ⟨rfl, rfl⟩ := Prod.mk.inj hthrow
          exact .of_kept (hkept.trans (hkept.home ▸ tryRemoveFile_files hremove))

end FileSystem

end KotlinFakes
