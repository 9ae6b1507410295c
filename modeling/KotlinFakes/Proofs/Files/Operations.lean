import KotlinFakes.Proofs.Files.Place
import KotlinFakes.Proofs.Sequence

/-!
# Operations on disks

What each operation does to the files of a disk, also if it is refused or goes wrong: it touches no
file but those at the places of its paths.
-/

namespace KotlinFakes

namespace Disk

/-- The content of the file at a place, if there is one. -/
def file? (disk : Disk) (place : Place) : Option ByteArray :=
  match disk.node? place with
  | some (.file content) => some content
  | _ => none

/-- Whether two disks have the same working directory and the same files, but for some places. -/
structure SameFilesBut (touched : List Place) (disk changed : Disk) : Prop where
  home : changed.home = disk.home
  files : ∀ place, place ∉ touched → changed.file? place = disk.file? place

namespace SameFilesBut

variable {touched more : List Place} {disk disk₁ disk₂ : Disk}

theorem rfl : SameFilesBut touched disk disk := ⟨Eq.refl _, fun _ _ => Eq.refl _⟩

theorem trans (h : SameFilesBut touched disk disk₁) (h' : SameFilesBut touched disk₁ disk₂) :
    SameFilesBut touched disk disk₂ :=
  ⟨h'.home.trans h.home, fun place hp => (h'.files place hp).trans (h.files place hp)⟩

theorem mono (h : SameFilesBut touched disk disk₁) (hsub : touched ⊆ more) :
    SameFilesBut more disk disk₁ :=
  ⟨h.home, fun place hp => h.files place fun hmem => hp (hsub hmem)⟩

end SameFilesBut

theorem sameFilesBut_of_node? {touched : List Place} {disk changed : Disk}
    (hhome : changed.home = disk.home)
    (h : ∀ place, place ∉ touched → changed.node? place = disk.node? place) :
    SameFilesBut touched disk changed :=
  ⟨hhome, fun place hp => by rw [file?, file?, h place hp]⟩

theorem not_isPrefixOf_home {disk : Disk} {place : Place}
    (h : disk.node? place ≠ some .directory) : place.isPrefixOf disk.home = false := by
  unfold node? at h
  split at h
  · exact absurd rfl h
  · next hprefix => exact Bool.eq_false_iff.2 hprefix

theorem file?_of_no_nodes {disk : Disk} (h : disk.nodes = []) (place : Place) :
    disk.file? place = none := by
  unfold file? node?
  rw [h]
  split
  · next hnode => split at hnode <;> cases hnode
  · rfl

/-! ## Single operations -/

theorem makeDir_files {disk made : Disk} {path : Path} (h : disk.makeDir path = .ok made) :
    SameFilesBut [] disk made := by
  obtain ⟨target, -, h⟩ := exists_of_bind_eq_ok h
  cases hnode : disk.node? target.place with
  | some node => simp [hnode] at h
  | none =>
      rw [hnode] at h
      obtain rfl := Except.ok.inj h
      refine ⟨rfl, fun place _ => ?_⟩
      by_cases hplace : place = target.place
      · have hhome : target.place.isPrefixOf disk.home = false :=
          not_isPrefixOf_home (by simp [hnode])
        have hdirectory := disk.node?_insert_self .directory hhome
        simp [file?, hplace, hdirectory, hnode]
      · rw [file?, file?, node?_insert_of_ne _ _ hplace]

theorem ensureDir_files {disk made : Disk} {path : Path} (h : disk.ensureDir path = .ok made) :
    SameFilesBut [] disk made := by
  unfold ensureDir at h
  split at h
  · next hmade => exact Except.ok.inj h ▸ makeDir_files hmade
  · split at h
    · exact Except.ok.inj h ▸ .rfl
    · cases h

theorem makeLineage_files (disk : Disk) (lineage : List Path) :
    SameFilesBut [] disk (disk.makeLineage lineage).2 := by
  induction lineage with
  | nil => exact .rfl
  | cons path above ih =>
      unfold makeLineage
      split
      · next h => exact ensureDir_files h
      · split
        · next hmade => simpa [hmade] using ih
        · next after hmade =>
            have hfiles : SameFilesBut [] disk after := by simpa [hmade] using ih
            split
            · next h => exact hfiles.trans (ensureDir_files h)
            · exact hfiles
      · exact .rfl

/-- A file can be opened at a place that no directory above the working directory takes, with what
    stands there as its content. -/
theorem openFile_spec {disk : Disk} {path : Path} {place : Place} {content : ByteArray}
    (h : disk.openFile path = .ok (place, content)) :
    place = path.place disk.home ∧ place.isPrefixOf disk.home = false ∧
      content = (disk.file? place).getD .empty := by
  obtain ⟨target, ht, h⟩ := exists_of_bind_eq_ok h
  have hplace := place_of_target ht
  dsimp only at h
  split at h
  · cases h
  · split at h
    · cases h
    · next hnode =>
        obtain ⟨rfl, rfl⟩ := Prod.mk.inj (Except.ok.inj h)
        exact ⟨hplace, not_isPrefixOf_home (by simp [hnode]), by simp [file?, hnode]⟩
    · next hnode =>
        obtain ⟨rfl, rfl⟩ := Prod.mk.inj (Except.ok.inj h)
        exact ⟨hplace, not_isPrefixOf_home (by simp [hnode]), by simp [file?, hnode]⟩

theorem insert_file_spec (disk : Disk) {place : Place} (content : ByteArray)
    (h : place.isPrefixOf disk.home = false) :
    SameFilesBut [place] disk (disk.insert place (.file content)) ∧
      (disk.insert place (.file content)).file? place = some content := by
  refine ⟨sameFilesBut_of_node? rfl fun other hother => ?_, ?_⟩
  · exact disk.node?_insert_of_ne _ (by simpa using hother)
  · rw [file?, disk.node?_insert_self _ h]

theorem write_spec {disk written : Disk} {path : Path} {bytes : ByteArray}
    (h : disk.write path bytes = .ok written) :
    SameFilesBut [path.place disk.home] disk written ∧
      written.file? (path.place disk.home) = some bytes := by
  obtain ⟨⟨place, content⟩, hopen, h⟩ := exists_of_bind_eq_ok h
  obtain ⟨rfl, hhome, -⟩ := openFile_spec hopen
  obtain rfl := Except.ok.inj h
  exact disk.insert_file_spec bytes hhome

theorem append_spec {disk written : Disk} {path : Path} {bytes : ByteArray}
    (h : disk.append path bytes = .ok written) :
    SameFilesBut [path.place disk.home] disk written ∧
      written.file? (path.place disk.home) =
        some ((disk.file? (path.place disk.home)).getD .empty ++ bytes) := by
  obtain ⟨⟨place, content⟩, hopen, h⟩ := exists_of_bind_eq_ok h
  obtain ⟨rfl, hhome, rfl⟩ := openFile_spec hopen
  obtain rfl := Except.ok.inj h
  exact disk.insert_file_spec _ hhome

theorem erase_files (disk : Disk) (place : Place) :
    SameFilesBut [place] disk (disk.erase place) :=
  sameFilesBut_of_node? rfl fun _ hother => disk.node?_erase_of_ne (by simpa using hother)

theorem move_spec {disk moved : Disk} {source destination : Path}
    (h : disk.move source destination = .ok moved) :
    SameFilesBut [destination.place disk.home, source.place disk.home] disk moved ∧
      moved.file? (destination.place disk.home) = disk.file? (source.place disk.home) := by
  obtain ⟨origin, horigin, h⟩ := exists_of_bind_eq_ok h
  obtain ⟨goal, hgoal, h⟩ := exists_of_bind_eq_ok h
  rw [← place_of_target horigin, ← place_of_target hgoal]
  dsimp only at h
  split at h
  · cases h
  · split at h
    · cases h
    · cases h
    · next content hcontent =>
        split at h
        · cases h
        · split at h
          · cases h
          · next hdirectory =>
              obtain rfl := Except.ok.inj h
              have hhome := not_isPrefixOf_home hdirectory
              obtain ⟨hfiles, hfile⟩ := (disk.erase origin.place).insert_file_spec content hhome
              refine ⟨?_, hfile.trans (by simp [file?, hcontent])⟩
              exact ((disk.erase_files origin.place).mono (by simp)).trans (hfiles.mono (by simp))

theorem remove_files {disk removed : Disk} {path : Path} (h : disk.remove path = .ok removed) :
    SameFilesBut [path.place disk.home] disk removed := by
  obtain ⟨target, ht, h⟩ := exists_of_bind_eq_ok h
  rw [← place_of_target ht]
  cases hnode : disk.node? target.place with
  | none => simp [hnode] at h
  | some node =>
      cases node with
      | directory => simp [hnode] at h
      | file content =>
          rw [hnode] at h
          simp only at h
          split at h
          · cases h
          · obtain rfl := Except.ok.inj h
            exact erase_files disk target.place

/-! ## Reading -/

theorem file?_of_find {disk : Disk} {path : Path} {content : ByteArray}
    (h : disk.find path = .ok (.file content)) :
    disk.file? (path.place disk.home) = some content := by
  obtain ⟨target, ht, h⟩ := exists_of_bind_eq_ok h
  rw [← place_of_target ht, file?]
  split at h
  · cases h
  · cases h
  · next hnode =>
      split at h
      · cases h
      · cases h
        rw [hnode]

theorem fromUTF8?_toUTF8 (text : String) : String.fromUTF8? text.toUTF8 = some text := by
  unfold String.fromUTF8?
  exact dif_pos text.isValidUTF8

theorem eq_toUTF8_of_fromUTF8? {bytes : ByteArray} {text : String}
    (h : String.fromUTF8? bytes = some text) : bytes = text.toUTF8 := by
  unfold String.fromUTF8? at h
  split at h
  · obtain rfl := Option.some.inj h
    rfl
  · cases h

theorem file?_of_text {disk : Disk} {path : Path} {text : String} (h : disk.text path = .ok text) :
    disk.file? (path.place disk.home) = some text.toUTF8 := by
  obtain ⟨node, hfind, h⟩ := exists_of_bind_eq_ok h
  split at h
  · cases h
  · next content =>
      rw [file?_of_find hfind]
      split at h
      · next hdecoded =>
          obtain rfl := Except.ok.inj h
          rw [eq_toUTF8_of_fromUTF8? hdecoded]
      · cases h

theorem exists_file?_of_hasFile {disk : Disk} {path : Path} (h : disk.hasFile path) :
    ∃ content, disk.file? (path.place disk.home) = some content := by
  unfold hasFile at h
  split at h
  · next content hfind => exact ⟨content, file?_of_find hfind⟩
  · cases h

theorem text_of_hasFile {disk : Disk} {path : Path} {text : String} (h : disk.hasFile path)
    (hfile : disk.file? (path.place disk.home) = some text.toUTF8) : disk.text path = .ok text := by
  unfold hasFile at h
  split at h
  · next content hfind =>
      rw [file?_of_find hfind, Option.some.injEq] at hfile
      subst hfile
      simp only [Disk.text, hfind, fromUTF8?_toUTF8, bind, Except.bind, pure, Except.pure]
  · cases h

/-! ## Operations that may be refused -/

section Refusals

variable {α : Type} {disk changed : Disk}

/-- The disk after it was settled what becomes of an operation. -/
def later (disk : Disk) : Disk := { disk with refusals := disk.refusals.tail }

theorem later_files (disk : Disk) : SameFilesBut [] disk disk.later := ⟨rfl, fun _ _ => rfl⟩

theorem ask_cases {question : Disk → Except FileFault α} {result : Except FileFault α}
    (h : (ask question).run disk = (result, changed)) :
    changed = disk.later ∧ (result = question changed ∨ ∃ fault, result = .error fault) := by
  obtain ⟨home, nodes, refusals⟩ := disk
  match refusals with
  | [] =>
      obtain ⟨rfl, rfl⟩ := Prod.mk.inj h
      exact ⟨rfl, .inl rfl⟩
  | none :: rest =>
      obtain ⟨rfl, rfl⟩ := Prod.mk.inj h
      exact ⟨rfl, .inl rfl⟩
  | some refusal :: rest =>
      obtain ⟨rfl, rfl⟩ := Prod.mk.inj h
      exact ⟨rfl, .inr ⟨refusal.fault, rfl⟩⟩

theorem askWhether_cases {question : Disk → Bool} {answer : Bool}
    (h : askWhether question disk = (answer, changed)) :
    changed = disk.later ∧ (answer = question changed ∨ answer = false) := by
  obtain ⟨home, nodes, refusals⟩ := disk
  match refusals with
  | [] =>
      obtain ⟨rfl, rfl⟩ := Prod.mk.inj h
      exact ⟨rfl, .inl rfl⟩
  | none :: rest =>
      obtain ⟨rfl, rfl⟩ := Prod.mk.inj h
      exact ⟨rfl, .inl rfl⟩
  | some refusal :: rest =>
      obtain ⟨rfl, rfl⟩ := Prod.mk.inj h
      exact ⟨rfl, .inr rfl⟩

theorem askWhether_of_no_refusals {question : Disk → Bool} (h : disk.refusals = []) :
    askWhether question disk = (question disk, disk) := by
  obtain ⟨home, nodes, refusals⟩ := disk
  obtain rfl : refusals = [] := h
  rfl

theorem change_cases {operation : Disk → Except FileFault Unit × Disk}
    {result : Except FileFault Unit} (h : (change operation).run disk = (result, changed)) :
    (result, changed) = operation disk.later ∨
      changed = disk.later ∧ ∃ fault, result = .error fault := by
  obtain ⟨home, nodes, refusals⟩ := disk
  match refusals with
  | [] => exact .inl h.symm
  | none :: rest => exact .inl h.symm
  | some refusal :: rest =>
      obtain ⟨rfl, rfl⟩ := Prod.mk.inj h
      exact .inr ⟨rfl, refusal.fault, rfl⟩

/-- If bytes are refused, they are written in part or not at all. -/
theorem changeBytes_cases {write : ByteArray → Disk → Except FileFault Disk} {bytes : ByteArray}
    {result : Except FileFault Unit} (h : (changeBytes write bytes).run disk = (result, changed)) :
    result = .ok () ∧ write bytes disk.later = .ok changed ∨
      (∃ fault, result = .error fault) ∧
        (changed = disk.later ∨ ∃ part, write part disk.later = .ok changed) := by
  have hsettle {part : ByteArray} {result : Except FileFault Unit} {changed : Disk}
      (h : disk.later.settle (write part disk.later) = (result, changed)) :
      result = .ok () ∧ write part disk.later = .ok changed ∨
        (∃ fault, result = .error fault) ∧ changed = disk.later := by
    cases hwrite : write part disk.later with
    | error fault =>
        rw [hwrite] at h
        obtain ⟨rfl, rfl⟩ := Prod.mk.inj h
        exact .inr ⟨⟨fault, rfl⟩, rfl⟩
    | ok written =>
        rw [hwrite] at h
        obtain ⟨rfl, rfl⟩ := Prod.mk.inj h
        exact .inl ⟨rfl, rfl⟩
  obtain ⟨home, nodes, refusals⟩ := disk
  match refusals with
  | [] => exact (hsettle h).imp_right fun ⟨hfault, hsame⟩ => ⟨hfault, .inl hsame⟩
  | none :: rest => exact (hsettle h).imp_right fun ⟨hfault, hsame⟩ => ⟨hfault, .inl hsame⟩
  | some ⟨fault, none⟩ :: rest =>
      obtain ⟨rfl, rfl⟩ := Prod.mk.inj h
      exact .inr ⟨⟨fault, rfl⟩, .inl rfl⟩
  | some ⟨fault, some count⟩ :: rest =>
      let disk : Disk := ⟨home, nodes, some ⟨fault, some count⟩ :: rest⟩
      let part : ExceptT FileFault (StateM Disk) Unit :=
        ExceptT.mk fun disk => disk.settle (write (bytes.extract 0 count) disk)
      have h : (part >>= fun _ => throw fault).run disk.later = (result, changed) := h
      obtain ⟨first, hfirst, rfl⟩ | ⟨_, between, hfirst, hthrow⟩ := run_bind_cases h
      · obtain ⟨hok, -⟩ | ⟨-, hsame⟩ := hsettle hfirst
        · cases hok
        · exact .inr ⟨⟨first, rfl⟩, .inl hsame⟩
      · obtain ⟨rfl, rfl⟩ := Prod.mk.inj hthrow
        obtain ⟨-, hwrite⟩ | ⟨⟨_, hfault⟩, -⟩ := hsettle hfirst
        · exact .inr ⟨⟨fault, rfl⟩, .inr ⟨_, hwrite⟩⟩
        · cases hfault

end Refusals

end Disk

end KotlinFakes
