import KotlinFakes.Proofs.Files.System
import KotlinFakes.Store.Basic

/-!
# Stores on disks

What a store does to a disk when it is loaded, when a digest is recorded and when it is saved. It
touches no file but its own and that one's draft, and it is degraded whenever its own file is not as it
should be.
-/

namespace KotlinFakes

namespace SignatureStore

open Disk

variable {disk changed : Disk}

theorem load_spec {path : Path} {mode : PersistMode} {store : SignatureStore}
    (h : load (m := StateM Disk) path mode disk = (store, changed)) :
    SameFilesBut [] disk changed ∧ store.path = path ∧ store.mode = mode ∧
      (store.entries = .empty ∨ ∃ text, store.entries = .parse text ∧
        disk.file? (path.place disk.home) = some text.toUTF8) := by
  obtain ⟨result, between, hread, h⟩ := exists_of_bind h
  obtain ⟨hfiles, htext⟩ := FileSystem.readText_spec hread
  cases result with
  | ok text =>
      obtain ⟨rfl, rfl⟩ := Prod.mk.inj h
      refine ⟨hfiles, rfl, rfl, .inr ⟨text, rfl, ?_⟩⟩
      exact (hfiles.files _ (by simp)).symm.trans (htext text rfl)
  | error fault =>
      have hdone : changed = between ∧ store.path = path ∧ store.mode = mode ∧
          store.entries = .empty := by
        cases fault <;> (obtain ⟨rfl, rfl⟩ := Prod.mk.inj h; exact ⟨rfl, rfl, rfl, rfl⟩)
      obtain ⟨rfl, hpath, hmode, hentries⟩ := hdone
      exact ⟨hfiles, hpath, hmode, .inl hentries⟩

theorem appendEntry_cases {path : Path} {id : String} {signature : Signature}
    {result : Except FileFault Unit}
    (h : (appendEntry (m := StateM Disk) path id signature).run disk = (result, changed)) :
    (∃ fault, (FileSystem.makeParent (m := StateM Disk) path).run disk = (.error fault, changed) ∧
      result = .error fault) ∨
    ∃ made isPresent asked,
      (FileSystem.makeParent (m := StateM Disk) path).run disk = (.ok (), made) ∧
      FileSystem.isPresent (m := StateM Disk) path made = (isPresent, asked) ∧
      (FileSystem.appendText (m := StateM Disk) path
        ((if isPresent then "" else Entries.header ++ "\n") ++ Entries.line id signature.digest)).run
          asked = (result, changed) := by
  obtain ⟨fault, hmade, rfl⟩ | ⟨_, made, hmade, h⟩ := run_bind_cases h
  · exact .inl ⟨fault, hmade, rfl⟩
  · obtain ⟨fault, hpresent, -⟩ | ⟨isPresent, asked, hpresent, h⟩ := run_bind_cases h
    · exact absurd (congrArg Prod.fst hpresent) nofun
    · obtain ⟨hanswer, hasked⟩ := Prod.mk.inj hpresent
      refine .inr ⟨made, isPresent, asked, hmade, Prod.ext (Except.ok.inj hanswer) hasked, ?_⟩
      cases isPresent with
      | true => simpa using h
      | false => exact h

theorem appendEntry_spec {path : Path} {id : String} {signature : Signature}
    {result : Except FileFault Unit}
    (h : (appendEntry (m := StateM Disk) path id signature).run disk = (result, changed)) :
    SameFilesBut [path.place disk.home] disk changed ∧
      (result = .ok () → ∃ above, (above = "" ∨ above = Entries.header ++ "\n") ∧
        changed.file? (path.place disk.home) =
          some ((disk.file? (path.place disk.home)).getD .empty ++
            (above ++ Entries.line id signature.digest).toUTF8)) := by
  obtain ⟨fault, hmade, rfl⟩ | ⟨made, isPresent, asked, hmade, hasked, happend⟩ := appendEntry_cases h
  · exact ⟨(FileSystem.makeParent_files hmade).mono (List.nil_subset _), nofun⟩
  · have hbefore := (FileSystem.makeParent_files hmade).trans (FileSystem.isPresent_files hasked)
    obtain ⟨hfiles, hfile⟩ := FileSystem.appendText_spec happend
    rw [hbefore.home, hbefore.files _ (by simp)] at hfile
    rw [hbefore.home] at hfiles
    refine ⟨(hbefore.mono (List.nil_subset _)).trans hfiles, fun hok => ⟨_, ?_, hfile hok⟩⟩
    cases isPresent with
    | true => exact .inl rfl
    | false => exact .inr rfl

/-- Recording a digest puts it into the entries. The file is then changed at once or not at all. -/
theorem record_spec {store recorded : SignatureStore} {id : String} {signature : Signature}
    (h : store.record (m := StateM Disk) id signature disk = (recorded, changed)) :
    recorded.path = store.path ∧ recorded.mode = store.mode ∧
      recorded.entries = store.entries.insert id signature.digest ∧
      (recorded.isDegraded = false → store.isDegraded = false) ∧
      SameFilesBut [store.path.place disk.home] disk changed ∧
      (store.mode = .perEntry → recorded.isDegraded = false →
        ∃ above, (above = "" ∨ above = Entries.header ++ "\n") ∧
          changed.file? (store.path.place disk.home) =
            some ((disk.file? (store.path.place disk.home)).getD .empty ++
              (above ++ Entries.line id signature.digest).toUTF8)) := by
  unfold record at h
  cases hmode : store.mode with
  | onFlush =>
      simp only [remember, hmode] at h
      obtain ⟨rfl, rfl⟩ := Prod.mk.inj h
      exact ⟨rfl, rfl, rfl, fun h => h, .rfl, nofun⟩
  | perEntry =>
      simp only [remember, hmode] at h
      obtain ⟨result, between, happend, h⟩ := exists_of_bind h
      obtain ⟨hfiles, hfile⟩ := appendEntry_spec happend
      cases result with
      | ok _ =>
          obtain ⟨rfl, rfl⟩ := Prod.mk.inj h
          exact ⟨rfl, rfl, rfl, fun h => h, hfiles, fun _ _ => hfile rfl⟩
      | error fault =>
          obtain ⟨rfl, rfl⟩ := Prod.mk.inj h
          exact ⟨rfl, rfl, rfl, nofun, hfiles, fun _ => nofun⟩

/-- A store that is saved and is not degraded has all its entries in its file, unless they were put
    there one by one. -/
theorem flush_spec {store saved : SignatureStore} {result : Except StoreError Unit}
    (h : store.flush (m := StateM Disk) disk = ((result, saved), changed)) :
    SameFilesBut [store.path.place disk.home, store.path.draft.place disk.home] disk changed ∧
      (saved.isDegraded = false → store.isDegraded = false) ∧
      (store.mode = .perEntry → SameFilesBut [] disk changed) ∧
      (store.mode = .onFlush → saved.isDegraded = false →
        changed.file? (store.path.place disk.home) = some store.entries.render.toUTF8) := by
  unfold flush at h
  cases hmode : store.mode with
  | perEntry =>
      simp only [hmode] at h
      obtain ⟨hresult, rfl⟩ := Prod.mk.inj h
      obtain ⟨-, rfl⟩ := Prod.mk.inj hresult
      exact ⟨.rfl, id, fun _ => .rfl, nofun⟩
  | onFlush =>
      simp only [hmode] at h
      obtain ⟨replaced, between, hreplace, h⟩ := exists_of_bind h
      have hreplaces := FileSystem.replaceText_spec hreplace
      cases replaced with
      | ok _ =>
          obtain ⟨hresult, rfl⟩ := Prod.mk.inj h
          obtain ⟨-, rfl⟩ := Prod.mk.inj hresult
          exact ⟨hreplaces.files, id, nofun, fun _ _ => hreplaces.written rfl⟩
      | error fault =>
          obtain ⟨hresult, rfl⟩ := Prod.mk.inj h
          obtain ⟨-, rfl⟩ := Prod.mk.inj hresult
          exact ⟨hreplaces.files, nofun, nofun, fun _ => nofun⟩

theorem flush_entries {store saved : SignatureStore} {result : Except StoreError Unit}
    (h : store.flush (m := StateM Disk) disk = ((result, saved), changed)) :
    saved.path = store.path ∧ saved.entries = store.entries := by
  unfold flush at h
  cases hmode : store.mode with
  | perEntry =>
      simp only [hmode] at h
      obtain ⟨hresult, -⟩ := Prod.mk.inj h
      obtain ⟨-, rfl⟩ := Prod.mk.inj hresult
      exact ⟨rfl, rfl⟩
  | onFlush =>
      simp only [hmode] at h
      obtain ⟨replaced, between, -, h⟩ := exists_of_bind h
      cases replaced with
      | ok _ =>
          obtain ⟨hresult, -⟩ := Prod.mk.inj h
          obtain ⟨-, rfl⟩ := Prod.mk.inj hresult
          exact ⟨rfl, rfl⟩
      | error fault =>
          obtain ⟨hresult, -⟩ := Prod.mk.inj h
          obtain ⟨-, rfl⟩ := Prod.mk.inj hresult
          exact ⟨rfl, rfl⟩

end SignatureStore

end KotlinFakes
