import KotlinFakes.Proofs.Files.Deposit

/-!
# Disks of one shape

Whether a file can be replaced, and what goes wrong otherwise, depends on where there are files and
directories, and not on what the files hold.
-/

namespace KotlinFakes

def Node.isDirectory : Node → Bool
  | .directory => true
  | .file _ => false

namespace Disk

/-- Whether two disks have files at the same places and directories at the same places. -/
structure SameShape (disk other : Disk) : Prop where
  home : other.home = disk.home
  refusals : other.refusals = disk.refusals
  nodes : ∀ place, (other.node? place).map Node.isDirectory =
    (disk.node? place).map Node.isDirectory

/-- Whether two changes fail alike, or lead to disks of one shape. -/
inductive SameEnd : Except FileFault Disk → Except FileFault Disk → Prop where
  | error (fault : FileFault) : SameEnd (.error fault) (.error fault)
  | ok {changed changed' : Disk} (h : SameShape changed changed') : SameEnd (.ok changed) (.ok changed')

variable {disk other : Disk} {p : Path} {place : Place}

theorem SameEnd.cases {result result' : Except FileFault Disk} (h : SameEnd result result') :
    (∃ fault, result = .error fault ∧ result' = .error fault) ∨
      ∃ changed changed', result = .ok changed ∧ result' = .ok changed' ∧
        SameShape changed changed' := by
  cases h with
  | error fault => exact .inl ⟨fault, rfl, rfl⟩
  | ok h => exact .inr ⟨_, _, rfl, rfl, h⟩

namespace SameShape

theorem node?_cases (h : SameShape disk other) (place : Place) :
    disk.node? place = none ∧ other.node? place = none ∨
      disk.node? place = some .directory ∧ other.node? place = some .directory ∨
        ∃ content content', disk.node? place = some (.file content) ∧
          other.node? place = some (.file content') := by
  have hnode := h.nodes place
  match hdisk : disk.node? place, hother : other.node? place with
  | none, none => exact .inl ⟨rfl, rfl⟩
  | some .directory, some .directory => exact .inr (.inl ⟨rfl, rfl⟩)
  | some (.file content), some (.file content') => exact .inr (.inr ⟨content, content', rfl, rfl⟩)
  | none, some node => simp [hdisk, hother] at hnode
  | some node, none => simp [hdisk, hother] at hnode
  | some .directory, some (.file content) => simp [hdisk, hother, Node.isDirectory] at hnode
  | some (.file content), some .directory => simp [hdisk, hother, Node.isDirectory] at hnode

theorem follow (h : SameShape disk other) (here : Place) (names : List String) :
    other.follow here names = disk.follow here names := by
  induction names generalizing here with
  | nil => rfl
  | cons name rest ih =>
      unfold Disk.follow
      simp only [ih]
      obtain ⟨hdisk, hother⟩ | ⟨hdisk, hother⟩ | ⟨content, content', hdisk, hother⟩ :=
        h.node?_cases (here ++ [name]) <;> simp only [hdisk, hother]

theorem target (h : SameShape disk other) (p : Path) : other.target p = disk.target p := by
  rw [target_eq, target_eq, h.home, h.follow]

theorem hasDirectory (h : SameShape disk other) (p : Path) :
    other.hasDirectory p = disk.hasDirectory p := by
  unfold Disk.hasDirectory find
  rw [h.target]
  cases disk.target p with
  | error fault => rfl
  | ok target =>
      simp only [bind, Except.bind]
      obtain ⟨hdisk, hother⟩ | ⟨hdisk, hother⟩ | ⟨content, content', hdisk, hother⟩ :=
        h.node?_cases target.place <;> simp only [hdisk, hother]
      cases target.asDirectory <;> rfl

theorem insert (h : SameShape disk other) (place : Place) {node node' : Node}
    (hnode : node'.isDirectory = node.isDirectory) :
    SameShape (disk.insert place node) (other.insert place node') := by
  refine ⟨h.home, h.refusals, fun there => ?_⟩
  by_cases hthere : there = place
  · subst hthere
    unfold node? Disk.insert
    rw [h.home]
    split
    · rfl
    · simp [hnode]
  · rw [node?_insert_of_ne _ _ hthere, node?_insert_of_ne _ _ hthere, h.nodes]

theorem erase (h : SameShape disk other) (place : Place) :
    SameShape (disk.erase place) (other.erase place) := by
  refine ⟨h.home, h.refusals, fun there => ?_⟩
  by_cases hthere : there = place
  · subst hthere
    unfold node? Disk.erase
    rw [h.home]
    split
    · rfl
    · rw [lookup_filter_self, lookup_filter_self]
  · rw [node?_erase_of_ne _ hthere, node?_erase_of_ne _ hthere, h.nodes]

/-! ## Operations -/

theorem makeDir (h : SameShape disk other) (p : Path) :
    SameEnd (disk.makeDir p) (other.makeDir p) := by
  unfold Disk.makeDir
  rw [h.target]
  cases disk.target p with
  | error fault => exact .error fault
  | ok target =>
      simp only [bind, Except.bind]
      obtain ⟨hdisk, hother⟩ | ⟨hdisk, hother⟩ | ⟨content, content', hdisk, hother⟩ :=
        h.node?_cases target.place <;> simp only [hdisk, hother]
      · exact .ok (h.insert _ rfl)
      · exact .error _
      · exact .error _

theorem ensureDir (h : SameShape disk other) (p : Path) :
    SameEnd (disk.ensureDir p) (other.ensureDir p) := by
  unfold Disk.ensureDir
  rw [h.hasDirectory]
  obtain ⟨fault, hdisk, hother⟩ | ⟨made, made', hdisk, hother, hmade⟩ := (h.makeDir p).cases <;>
    simp only [hdisk, hother]
  · split
    · exact .ok h
    · exact .error fault
  · exact .ok hmade

theorem makeLineage (h : SameShape disk other) (lineage : List Path) :
    (other.makeLineage lineage).1 = (disk.makeLineage lineage).1 ∧
      SameShape (disk.makeLineage lineage).2 (other.makeLineage lineage).2 := by
  induction lineage with
  | nil => exact ⟨rfl, h⟩
  | cons p above ih =>
      unfold Disk.makeLineage
      obtain ⟨fault, hdisk, hother⟩ | ⟨made, made', hdisk, hother, hmade⟩ := (h.ensureDir p).cases <;>
        rw [hdisk, hother]
      · cases fault with
        | missing =>
            obtain ⟨hresult, hmade⟩ := ih
            cases habove : disk.makeLineage above with
            | mk result made =>
                cases habove' : other.makeLineage above with
                | mk result' made' =>
                    rw [habove, habove'] at hresult hmade
                    obtain rfl : result' = result := hresult
                    cases result' with
                    | error fault => exact ⟨rfl, hmade⟩
                    | ok _ =>
                        dsimp only at hmade ⊢
                        obtain ⟨fault, hlast, hlast'⟩ | ⟨last, last', hlast, hlast', hdone⟩ :=
                          (hmade.ensureDir p).cases <;> rw [hlast, hlast']
                        · exact ⟨rfl, hmade⟩
                        · exact ⟨rfl, hdone⟩
        | notDirectory | isDirectory | alreadyExists | busy | nameTooLong | invalidName | notText
        | other description => exact ⟨rfl, h⟩
      · exact ⟨rfl, hmade⟩

theorem write (h : SameShape disk other) (p : Path) (bytes bytes' : ByteArray) :
    SameEnd (disk.write p bytes) (other.write p bytes') := by
  unfold Disk.write openFile
  rw [h.target]
  cases disk.target p with
  | error fault => exact .error fault
  | ok target =>
      simp only [bind, Except.bind]
      cases target.asDirectory with
      | true => exact .error _
      | false =>
          obtain ⟨hdisk, hother⟩ | ⟨hdisk, hother⟩ | ⟨content, content', hdisk, hother⟩ :=
            h.node?_cases target.place <;> simp only [hdisk, hother]
          · exact .ok (h.insert _ rfl)
          · exact .error _
          · exact .ok (h.insert _ rfl)

theorem move (h : SameShape disk other) (source destination : Path) :
    SameEnd (disk.move source destination) (other.move source destination) := by
  unfold Disk.move
  rw [h.target, h.target]
  cases disk.target source with
  | error fault => exact .error fault
  | ok start =>
      cases disk.target destination with
      | error fault => exact .error fault
      | ok goal =>
          simp only [bind, Except.bind]
          split
          · exact .error _
          · obtain ⟨hdisk, hother⟩ | ⟨hdisk, hother⟩ | ⟨content, content', hdisk, hother⟩ :=
              h.node?_cases start.place <;> simp only [hdisk, hother]
            · exact .error _
            · exact .error _
            · split
              · exact .error _
              · have hmoved : SameShape ((disk.erase start.place).insert goal.place (.file content))
                    ((other.erase start.place).insert goal.place (.file content')) :=
                  (h.erase start.place).insert goal.place rfl
                obtain ⟨hdisk, hother⟩ | ⟨hdisk, hother⟩ | ⟨_, _, hdisk, hother⟩ :=
                  h.node?_cases goal.place <;> simp only [hdisk, hother]
                · exact .ok hmoved
                · exact .error _
                · exact .ok hmoved

theorem settle {result result' : Except FileFault Disk} (h : SameShape disk other)
    (hresult : SameEnd result result') :
    (other.settle result').1 = (disk.settle result).1 ∧
      SameShape (disk.settle result).2 (other.settle result').2 := by
  cases hresult with
  | error fault => exact ⟨rfl, h⟩
  | ok hchanged => exact ⟨rfl, hchanged⟩

end SameShape

/-! ## Programs -/

/-- Whether two programs have the same result on disks of one shape and leave disks of one shape. -/
def Alike {α : Type} (x y : ExceptT FileFault (StateM Disk) α) : Prop :=
  ∀ disk other, SameShape disk other →
    (y.run other).1 = (x.run disk).1 ∧ SameShape (x.run disk).2 (y.run other).2

section Programs

variable {α β : Type}

theorem alike_pure (a : α) : Alike (pure a) (pure a) := fun _ _ h => ⟨rfl, h⟩

theorem Alike.bind {x y : ExceptT FileFault (StateM Disk) α}
    {f g : α → ExceptT FileFault (StateM Disk) β} (hxy : Alike x y) (hfg : ∀ a, Alike (f a) (g a)) :
    Alike (x >>= f) (y >>= g) := by
  intro disk other h
  obtain ⟨hresult, hshape⟩ := hxy disk other h
  cases hx : x.run disk with
  | mk result changed =>
      cases hy : y.run other with
      | mk result' changed' =>
          rw [hx, hy] at hresult hshape
          obtain rfl : result' = result := hresult
          cases result' with
          | error fault =>
              rw [run_bind_error hx, run_bind_error hy]
              exact ⟨rfl, hshape⟩
          | ok a =>
              rw [run_bind_ok hx, run_bind_ok hy]
              exact hfg a _ _ hshape

theorem alike_change {operation : Disk → Except FileFault Unit × Disk}
    (hsame : ∀ disk other, SameShape disk other → (operation other).1 = (operation disk).1 ∧
      SameShape (operation disk).2 (operation other).2) :
    Alike (change operation) (change operation) := by
  rintro ⟨home, nodes, refusals⟩ ⟨home', nodes', refusals'⟩ h
  obtain rfl : refusals' = refusals := h.refusals
  have hlater (rest : List (Option Refusal)) :
      SameShape ⟨home, nodes, rest⟩ ⟨home', nodes', rest⟩ := ⟨h.home, rfl, h.nodes⟩
  match refusals' with
  | [] => exact hsame _ _ h
  | none :: rest => exact hsame _ _ (hlater rest)
  | some refusal :: rest => exact ⟨rfl, hlater rest⟩

theorem alike_changeBytes {write : ByteArray → Disk → Except FileFault Disk}
    (hsame : ∀ part part' disk other, SameShape disk other →
      SameEnd (write part disk) (write part' other)) (bytes bytes' : ByteArray) :
    Alike (changeBytes write bytes) (changeBytes write bytes') := by
  rintro ⟨home, nodes, refusals⟩ ⟨home', nodes', refusals'⟩ h
  obtain rfl : refusals' = refusals := h.refusals
  have hlater (rest : List (Option Refusal)) :
      SameShape ⟨home, nodes, rest⟩ ⟨home', nodes', rest⟩ := ⟨h.home, rfl, h.nodes⟩
  match refusals' with
  | [] => exact h.settle (hsame _ _ _ _ h)
  | none :: rest => exact (hlater rest).settle (hsame _ _ _ _ (hlater rest))
  | some ⟨fault, none⟩ :: rest => exact ⟨rfl, hlater rest⟩
  | some ⟨fault, some count⟩ :: rest =>
      let part (bytes : ByteArray) : ExceptT FileFault (StateM Disk) Unit :=
        ExceptT.mk fun disk => disk.settle (write (bytes.extract 0 count) disk)
      have hpart : Alike (part bytes) (part bytes') := fun _ _ h => h.settle (hsame _ _ _ _ h)
      have hthrow : Alike (throw fault) (throw fault : ExceptT FileFault (StateM Disk) Unit) :=
        fun _ _ h => ⟨rfl, h⟩
      exact hpart.bind (fun _ => hthrow) _ _ (hlater rest)

end Programs

end Disk

namespace FileSystem

open Disk

theorem alike_makeDirs (p : Path) : Alike (makeDirs (m := StateM Disk) p) (makeDirs p) :=
  alike_change fun _ _ h => h.makeLineage p.lineage

theorem alike_writeText (p : Path) (text text' : String) :
    Alike (writeText (m := StateM Disk) p text) (writeText p text') :=
  alike_changeBytes (fun part part' _ _ h => h.write p part part') text.toUTF8 text'.toUTF8

theorem alike_rename (source destination : Path) :
    Alike (rename (m := StateM Disk) source destination) (rename source destination) :=
  alike_change fun _ _ h => h.settle (h.move source destination)

theorem alike_makeParent (p : Path) : Alike (makeParent (m := StateM Disk) p) (makeParent p) := by
  unfold makeParent
  split
  · split
    · exact alike_pure ()
    · exact alike_makeDirs _
  · exact alike_pure ()

/-- A file is replaced, or not, for the same reason, whatever is written to it. -/
theorem alike_replaceText (p : Path) (text text' : String) :
    Alike (replaceText (m := StateM Disk) p text) (replaceText p text') :=
  (alike_makeParent p).bind fun _ =>
    (alike_writeText p.draft text text').bind fun _ => alike_rename p.draft p

end FileSystem

end KotlinFakes
