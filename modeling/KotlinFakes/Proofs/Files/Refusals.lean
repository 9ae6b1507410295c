import KotlinFakes.Proofs.Files.System

/-!
# Refusals

An action that ends well was refused none of its operations, except for questions, which have an answer
all the same.
-/

namespace KotlinFakes

namespace Disk

variable {disk made changed : Disk} {path : Path}

/-! ## What operations leave alone -/

theorem makeDir_refusals (h : disk.makeDir path = .ok made) : made.refusals = disk.refusals := by
  obtain ⟨target, -, h⟩ := exists_of_bind_eq_ok h
  split at h
  · cases h
  · obtain rfl := Except.ok.inj h
    rfl

theorem ensureDir_refusals (h : disk.ensureDir path = .ok made) : made.refusals = disk.refusals := by
  unfold ensureDir at h
  split at h
  · next hmade => exact Except.ok.inj h ▸ makeDir_refusals hmade
  · split at h
    · exact Except.ok.inj h ▸ rfl
    · cases h

theorem makeLineage_refusals (disk : Disk) (lineage : List Path) :
    (disk.makeLineage lineage).2.refusals = disk.refusals := by
  induction lineage with
  | nil => rfl
  | cons path above ih =>
      unfold makeLineage
      split
      · next h => exact ensureDir_refusals h
      · split
        · next hmade => simpa [hmade] using ih
        · next after hmade =>
            have hafter : after.refusals = disk.refusals := by simpa [hmade] using ih
            split
            · next h => exact (ensureDir_refusals h).trans hafter
            · exact hafter
      · rfl

theorem write_refusals {bytes : ByteArray} (h : disk.write path bytes = .ok changed) :
    changed.refusals = disk.refusals := by
  obtain ⟨_, -, h⟩ := exists_of_bind_eq_ok h
  obtain rfl := Except.ok.inj h
  rfl

theorem append_refusals {bytes : ByteArray} (h : disk.append path bytes = .ok changed) :
    changed.refusals = disk.refusals := by
  obtain ⟨_, -, h⟩ := exists_of_bind_eq_ok h
  obtain rfl := Except.ok.inj h
  rfl

theorem move_refusals {source destination : Path} (h : disk.move source destination = .ok changed) :
    changed.refusals = disk.refusals := by
  obtain ⟨origin, -, h⟩ := exists_of_bind_eq_ok h
  obtain ⟨goal, -, h⟩ := exists_of_bind_eq_ok h
  dsimp only at h
  split at h
  · cases h
  · split at h
    · cases h
    · cases h
    · split at h
      · cases h
      · split at h
        · cases h
        · obtain rfl := Except.ok.inj h
          rfl

theorem settle_eq_ok {result : Except FileFault Disk} (h : disk.settle result = (.ok (), changed)) :
    result = .ok changed := by
  cases result with
  | error fault => cases (Prod.mk.inj h).1
  | ok settled => rw [← (Prod.mk.inj h).2]

/-! ## Operations that are not refused -/

theorem change_allowed {operation : Disk → Except FileFault Unit × Disk}
    (h : (change operation).run disk = (.ok (), changed)) :
    disk.refusals.head?.join = none ∧ operation disk.later = (.ok (), changed) := by
  obtain ⟨home, nodes, refusals⟩ := disk
  match refusals with
  | [] => exact ⟨rfl, h⟩
  | none :: rest => exact ⟨rfl, h⟩
  | some refusal :: rest => cases (Prod.mk.inj h).1

theorem changeBytes_allowed {write : ByteArray → Disk → Except FileFault Disk} {bytes : ByteArray}
    (h : (changeBytes write bytes).run disk = (.ok (), changed)) :
    disk.refusals.head?.join = none ∧ write bytes disk.later = .ok changed := by
  obtain ⟨home, nodes, refusals⟩ := disk
  match refusals with
  | [] => exact ⟨rfl, settle_eq_ok h⟩
  | none :: rest => exact ⟨rfl, settle_eq_ok h⟩
  | some ⟨fault, none⟩ :: rest => cases (Prod.mk.inj h).1
  | some ⟨fault, some count⟩ :: rest =>
      -- Some of the bytes are written, and the fault is thrown all the same.
      let part : ExceptT FileFault (StateM Disk) Unit :=
        ExceptT.mk fun disk => disk.settle (write (bytes.extract 0 count) disk)
      have h : (part >>= fun _ => throw fault).run ⟨home, nodes, rest⟩ = (.ok (), changed) := h
      obtain ⟨_, between, -, hthrow⟩ := exists_of_run_bind_eq_ok h
      cases (Prod.mk.inj hthrow).1

end Disk

/-- What a file system is asked to do. -/
inductive Operation where
  | isPresent
  | makeDirs
  | writeText
  | appendText
  | rename
  deriving DecidableEq

/-- The operations by which the directory of a file is made. -/
def parentOperations (path : Path) : List Operation :=
  match path.parent? with
  | some parent => if parent.text = "" then [] else [.makeDirs]
  | none => []

namespace Disk

variable {disk changed : Disk} {path : Path}

/-- Whether a disk gets from one state to another by some operations of which none is refused, except
    for questions. -/
structure Admits (operations : List Operation) (disk changed : Disk) : Prop where
  refusals : changed.refusals = disk.refusals.drop operations.length
  admitted : ∀ operation refusal, (operation, some refusal) ∈ operations.zip disk.refusals →
    operation = .isPresent

theorem zip_append_drop {α β : Type} (before after : List α) (others : List β) :
    (before ++ after).zip others = before.zip others ++ after.zip (others.drop before.length) := by
  induction before generalizing others with
  | nil => rfl
  | cons a before ih =>
      cases others with
      | nil => simp
      | cons b others => simp [ih]

theorem admits_nil : Admits [] disk disk := ⟨rfl, nofun⟩

theorem Admits.append {before after : List Operation} {between : Disk}
    (h : Admits before disk between) (h' : Admits after between changed) :
    Admits (before ++ after) disk changed := by
  refine ⟨?_, fun operation refusal hmem => ?_⟩
  · rw [h'.refusals, h.refusals, List.drop_drop, List.length_append]
  · rw [zip_append_drop, List.mem_append, ← h.refusals] at hmem
    exact hmem.elim (h.admitted operation refusal) (h'.admitted operation refusal)

theorem admits_of_allowed {operation : Operation} (hallowed : disk.refusals.head?.join = none)
    (hrefusals : changed.refusals = disk.later.refusals) : Admits [operation] disk changed := by
  obtain ⟨home, nodes, refusals⟩ := disk
  refine ⟨hrefusals.trans List.drop_one.symm, fun other refusal hmem => ?_⟩
  match refusals with
  | [] => cases hmem
  | none :: rest => simp at hmem
  | some first :: rest => cases hallowed

theorem admits_question (disk : Disk) : Admits [.isPresent] disk disk.later := by
  refine ⟨List.drop_one.symm, fun operation refusal hmem => ?_⟩
  exact List.mem_singleton.1 (List.of_mem_zip hmem).1

end Disk

namespace FileSystem

open Disk

variable {disk changed : Disk} {path : Path} {text : String}

theorem isPresent_admits {answer : Bool}
    (h : isPresent (m := StateM Disk) path disk = (answer, changed)) :
    Admits [.isPresent] disk changed := by
  obtain ⟨rfl, -⟩ := askWhether_cases h
  exact admits_question disk

theorem makeDirs_admits (h : (makeDirs (m := StateM Disk) path).run disk = (.ok (), changed)) :
    Admits [.makeDirs] disk changed := by
  obtain ⟨hallowed, hmade⟩ := change_allowed h
  obtain rfl : (disk.later.makeDirs path).2 = changed := congrArg Prod.snd hmade
  exact admits_of_allowed hallowed (makeLineage_refusals disk.later path.lineage)

theorem writeText_admits (h : (writeText (m := StateM Disk) path text).run disk = (.ok (), changed)) :
    Admits [.writeText] disk changed := by
  obtain ⟨hallowed, hwritten⟩ := changeBytes_allowed h
  exact admits_of_allowed hallowed (write_refusals hwritten)

theorem appendText_admits
    (h : (appendText (m := StateM Disk) path text).run disk = (.ok (), changed)) :
    Admits [.appendText] disk changed := by
  obtain ⟨hallowed, happended⟩ := changeBytes_allowed h
  exact admits_of_allowed hallowed (append_refusals happended)

theorem rename_admits {source destination : Path}
    (h : (rename (m := StateM Disk) source destination).run disk = (.ok (), changed)) :
    Admits [.rename] disk changed := by
  obtain ⟨hallowed, hmoved⟩ := change_allowed h
  exact admits_of_allowed hallowed (move_refusals (settle_eq_ok hmoved))

theorem makeParent_admits (h : (makeParent (m := StateM Disk) path).run disk = (.ok (), changed)) :
    Admits (parentOperations path) disk changed := by
  unfold makeParent at h
  unfold parentOperations
  cases hparent : path.parent? with
  | none =>
      rw [hparent] at h
      obtain ⟨-, rfl⟩ := Prod.mk.inj h
      exact admits_nil
  | some parent =>
      rw [hparent] at h
      dsimp only at h ⊢
      by_cases hempty : parent.text = ""
      · rw [if_pos hempty] at h
        obtain ⟨-, rfl⟩ := Prod.mk.inj h
        rw [if_pos hempty]
        exact admits_nil
      · rw [if_neg hempty] at h
        rw [if_neg hempty]
        exact makeDirs_admits h

/-- A file is replaced if nothing on the way is refused. -/
theorem replaceText_admits
    (h : (replaceText (m := StateM Disk) path text).run disk = (.ok (), changed)) :
    Admits (parentOperations path ++ [.writeText, .rename]) disk changed := by
  obtain ⟨_, made, hmade, h⟩ := exists_of_run_bind_eq_ok h
  obtain ⟨_, written, hwritten, hrenamed⟩ := exists_of_run_bind_eq_ok h
  exact (makeParent_admits hmade).append
    ((writeText_admits hwritten).append (rename_admits hrenamed))

end FileSystem

end KotlinFakes
