import KotlinFakes.Proofs.Files.Descent

/-!
# Replacing files where nothing is refused

On a disk that refuses nothing, a file is replaced in three steps: its directory is made, and then the
file is put there by way of its draft, unless a directory is in the way or there is something wrong with
the path.
-/

namespace KotlinFakes

namespace Path

/-- What is wrong with the path above a path on every disk. -/
def parentFault? (p : Path) : Option FileFault :=
  match p.parent? with
  | some parent => if parent.text = "" then none else parent.fault?
  | none => none

/-- What is wrong with a name below a path on every disk. -/
def nameFault? (p : Path) (name : String) : Option FileFault :=
  match (p.join name).fault? with
  | some fault => some fault
  | none => if name.utf8ByteSize > Disk.maxName then some .nameTooLong else none

end Path

namespace Disk

/-- Put a file into a directory by way of its draft. -/
def deposit (disk : Disk) (directory : Place) (name : String) (bytes : ByteArray) :
    Except FileFault Unit × Disk :=
  match disk.node? (directory ++ [name ++ ".tmp"]) with
  | some .directory => (.error .isDirectory, disk)
  | _ =>
    match disk.node? (directory ++ [name]) with
    | some .directory => (.error .isDirectory, disk.erase (directory ++ [name ++ ".tmp"]))
    | _ =>
      (.ok (), (disk.erase (directory ++ [name ++ ".tmp"])).insert (directory ++ [name]) (.file bytes))

variable {disk changed : Disk} {p : Path} {name : String} {there : Place} {names : List String}

/-! ## Programs where nothing is refused -/

theorem change_of_quiet (hquiet : disk.refusals = [])
    (operation : Disk → Except FileFault Unit × Disk) :
    (change operation).run disk = operation disk := by
  obtain ⟨home, nodes, refusals⟩ := disk
  obtain rfl : refusals = [] := hquiet
  rfl

theorem changeBytes_of_quiet (hquiet : disk.refusals = [])
    (write : ByteArray → Disk → Except FileFault Disk) (bytes : ByteArray) :
    (changeBytes write bytes).run disk = disk.settle (write bytes disk) := by
  obtain ⟨home, nodes, refusals⟩ := disk
  obtain rfl : refusals = [] := hquiet
  rfl

theorem descend_refusals (disk : Disk) (here : Place) (names : List String) :
    (disk.descend here names).2.refusals = disk.refusals := by
  induction names generalizing disk here with
  | nil => rfl
  | cons name rest ih =>
      unfold descend
      split
      · rfl
      · split
        · exact ih _ _
        · rfl
        · exact ih _ _

/-! ## Making the directory -/

theorem fault?_ne_missing (h : p.text ≠ "") : p.fault? ≠ some .missing := by
  unfold Path.fault?
  rw [if_neg h]
  split
  · simp
  · split <;> simp

theorem makeDirs_run (hquiet : disk.refusals = []) (p : Path) :
    (FileSystem.makeDirs (m := StateM Disk) p).run disk = disk.makeLineage p.lineage :=
  change_of_quiet hquiet fun disk => disk.makeDirs p

theorem makeParent_run (htree : disk.IsTree) (hquiet : disk.refusals = [])
    (hname : Path.IsPlain name) (hroute : disk.Route p there names) :
    (FileSystem.makeParent (m := StateM Disk) (p.join name)).run disk =
      match (p.join name).parentFault? with
      | some fault => (.error fault, disk)
      | none => disk.descend there names := by
  obtain ⟨before, hsegments, -, -⟩ := p.segments_join hname
  obtain ⟨q, hparent, habove⟩ := Path.exists_isAbove hsegments hname.not_idle
  have hroute' : disk.Route q there names := (hroute.join hname).above habove
  unfold FileSystem.makeParent Path.parentFault?
  rw [hparent]
  dsimp only
  split
  · next htext =>
      obtain ⟨above, hqnames, -⟩ := hroute'.exists_above
      have hnil : q.names = [] := by
        by_contra hne
        exact Path.text_ne_empty_of_names hne htext
      rw [hqnames, List.append_eq_nil_iff] at hnil
      rw [hnil.2]
      rfl
  · next htext =>
      rw [makeDirs_run hquiet, Path.lineage]
      cases hfault : q.fault? with
      | some fault =>
          obtain ⟨more, hcons⟩ := exists_upward_eq_cons htext q.text.length
          have hmade : disk.ensureDir q = .error fault := ensureDir_of_fault hfault
          have hne : disk.ensureDir q ≠ .error .missing := by
            intro hmissing
            obtain rfl := Except.error.inj (hmade.symm.trans hmissing)
            exact fault?_ne_missing htext hfault
          rw [hcons, makeLineage_of_ne_missing hne, hmade]
          rfl
      | none =>
          exact makeLineage_upward htree hroute' (Nat.lt_succ_self _) habove.endsClean hfault

/-! ## Putting the file there -/

theorem target_join (hname : Path.IsPlain name)
    (henter : disk.enter (p.root disk.home) p.names = .ok there) :
    disk.target (p.join name) =
      match p.nameFault? name with
      | some fault => .error fault
      | none => .ok ⟨there ++ [name], false, true⟩ := by
  obtain ⟨before, hsegments, hbefore, -⟩ := p.segments_join hname
  rw [target_eq, Path.nameFault?, hsegments, Path.root_join p hname,
    follow_concat disk _ before hname, hbefore, henter]
  cases (p.join name).fault? with
  | some fault => rfl
  | none =>
      simp only [Except.bind]
      split
      · rfl
      · rfl

theorem nameFault?_of_draft (hname : Path.IsPlain name)
    (h : p.nameFault? (name ++ ".tmp") = none) : p.nameFault? name = none := by
  have htext : (p.join (name ++ ".tmp")).text = (p.join name).text ++ ".tmp" := by
    rw [← Path.draft_join p hname.ne_empty]
    rfl
  have hne : (p.join name).text ≠ "" :=
    Path.text_ne_empty_of_names (by simp [Path.names_join p hname])
  unfold Path.nameFault? at h ⊢
  cases hfault : (p.join (name ++ ".tmp")).fault? with
  | some fault => simp [hfault] at h
  | none =>
      rw [hfault] at h
      rw [fault?_of_append htext hne hfault]
      dsimp only at h ⊢
      split at h
      · cases h
      · next hlong =>
          rw [String.utf8ByteSize_append] at hlong
          rw [if_neg (by omega)]

theorem write_join (hname : Path.IsPlain name)
    (henter : disk.enter (p.root disk.home) p.names = .ok there) (bytes : ByteArray) :
    disk.write (p.join name) bytes =
      match p.nameFault? name with
      | some fault => .error fault
      | none =>
        match disk.node? (there ++ [name]) with
        | some .directory => .error .isDirectory
        | _ => .ok (disk.insert (there ++ [name]) (.file bytes)) := by
  unfold write openFile
  rw [target_join hname henter]
  cases p.nameFault? name with
  | some fault => rfl
  | none =>
      cases hnode : disk.node? (there ++ [name]) with
      | none => simp [bind, Except.bind, pure, Except.pure, hnode]
      | some node => cases node <;> simp [bind, Except.bind, pure, Except.pure, hnode]

theorem draft_ne_name (there : Place) (name : String) : there ++ [name ++ ".tmp"] ≠ there ++ [name] := by
  intro heq
  have hlength := congrArg String.length (List.cons.inj (List.append_cancel_left heq)).1
  simp [String.length_append] at hlength

theorem lookup_filter_self (place : Place) (nodes : List (Place × Node)) :
    (nodes.filter fun entry => entry.1 ≠ place).lookup place = none := by
  rw [List.lookup_eq_none_iff]
  intro entry hentry
  have hne := of_decide_eq_true (List.mem_filter.1 hentry).2
  simpa using Ne.symm hne

theorem erase_insert (disk : Disk) (place : Place) (node : Node) :
    (disk.insert place node).erase place = disk.erase place := by
  simp [erase, insert, List.filter_filter]

theorem move_of_target {source destination : Path} {start goal : Place} {content : ByteArray}
    (hsource : disk.target source = .ok ⟨start, false, true⟩)
    (hdestination : disk.target destination = .ok ⟨goal, false, true⟩)
    (hcontent : disk.node? start = some (.file content)) :
    disk.move source destination =
      match disk.node? goal with
      | some .directory => .error .isDirectory
      | _ => .ok ((disk.erase start).insert goal (.file content)) := by
  unfold move
  rw [hsource, hdestination]
  simp only [bind, Except.bind, hcontent]
  rfl

theorem remove_of_target {place : Place} {content : ByteArray}
    (htarget : disk.target p = .ok ⟨place, false, true⟩)
    (hcontent : disk.node? place = some (.file content)) : disk.remove p = .ok (disk.erase place) := by
  unfold remove
  rw [htarget]
  simp only [bind, Except.bind, hcontent]
  rfl

theorem renameDraft_run (hquiet : disk.refusals = []) (hname : Path.IsPlain name)
    (henter : disk.enter (p.root disk.home) p.names = .ok there)
    (hfault : p.nameFault? (name ++ ".tmp") = none) {bytes : ByteArray}
    (hcontent : disk.node? (there ++ [name ++ ".tmp"]) = some (.file bytes)) :
    (tryCatch (FileSystem.rename (m := StateM Disk) (p.join (name ++ ".tmp")) (p.join name))
      fun fault => do
        tryCatch (FileSystem.removeFile (p.join (name ++ ".tmp"))) fun _ => pure ()
        throw fault).run disk =
      match disk.node? (there ++ [name]) with
      | some .directory => (.error .isDirectory, disk.erase (there ++ [name ++ ".tmp"]))
      | _ =>
        (.ok (), (disk.erase (there ++ [name ++ ".tmp"])).insert (there ++ [name]) (.file bytes)) := by
  have hsource : disk.target (p.join (name ++ ".tmp")) =
      .ok ⟨there ++ [name ++ ".tmp"], false, true⟩ := by
    rw [target_join (.draft hname.not_mem) henter, hfault]
  have hgoal : disk.target (p.join name) = .ok ⟨there ++ [name], false, true⟩ := by
    rw [target_join hname henter, nameFault?_of_draft hname hfault]
  have hrename : (FileSystem.rename (m := StateM Disk) (p.join (name ++ ".tmp"))
      (p.join name)).run disk =
        disk.settle (disk.move (p.join (name ++ ".tmp")) (p.join name)) :=
    change_of_quiet hquiet fun disk =>
      disk.settle (disk.move (p.join (name ++ ".tmp")) (p.join name))
  have hremove : (FileSystem.removeFile (m := StateM Disk) (p.join (name ++ ".tmp"))).run disk =
      (.ok (), disk.erase (there ++ [name ++ ".tmp"])) := by
    refine (change_of_quiet hquiet fun disk =>
      disk.settle (disk.remove (p.join (name ++ ".tmp")))).trans ?_
    rw [remove_of_target hsource hcontent]
    rfl
  rw [move_of_target hsource hgoal hcontent] at hrename
  by_cases htarget : disk.node? (there ++ [name]) = some .directory
  · simp only [htarget] at hrename ⊢
    rw [run_tryCatch_error hrename, run_bind_ok (run_tryCatch_ok hremove)]
    rfl
  · split
    · next hnode => exact absurd hnode htarget
    · refine run_tryCatch_ok (hrename.trans ?_)
      split
      · next hnode => exact absurd hnode htarget
      · rfl

theorem deposit_run (hquiet : disk.refusals = []) (hname : Path.IsPlain name)
    (henter : disk.enter (p.root disk.home) p.names = .ok there) (text : String) :
    (do
      FileSystem.writeText (m := StateM Disk) (p.join name).draft text
      tryCatch (FileSystem.rename (p.join name).draft (p.join name)) fun fault => do
        tryCatch (FileSystem.removeFile (p.join name).draft) fun _ => pure ()
        throw fault).run disk =
      match p.nameFault? (name ++ ".tmp") with
      | some fault => (.error fault, disk)
      | none => disk.deposit there name text.toUTF8 := by
  have hwrite : (FileSystem.writeText (m := StateM Disk) (p.join (name ++ ".tmp")) text).run disk =
      disk.settle (disk.write (p.join (name ++ ".tmp")) text.toUTF8) :=
    changeBytes_of_quiet hquiet _ _
  rw [Path.draft_join p hname.ne_empty]
  rw [write_join (.draft hname.not_mem) henter] at hwrite
  cases hfault : p.nameFault? (name ++ ".tmp") with
  | some fault =>
      rw [hfault] at hwrite
      exact run_bind_error hwrite
  | none =>
      rw [hfault] at hwrite
      unfold deposit
      by_cases hdirectory : disk.node? (there ++ [name ++ ".tmp"]) = some .directory
      · simp only [hdirectory] at hwrite ⊢
        exact run_bind_error hwrite
      · have hwritten : (FileSystem.writeText (m := StateM Disk) (p.join (name ++ ".tmp")) text).run
            disk = (.ok (), disk.insert (there ++ [name ++ ".tmp"]) (.file text.toUTF8)) := by
          rw [hwrite]
          dsimp only
          split
          · next hnode => exact absurd hnode hdirectory
          · rfl
        have hkeeps := keepsDirectories_insert (.file text.toUTF8) hdirectory
        have hquiet' : (disk.insert (there ++ [name ++ ".tmp"])
          (.file text.toUTF8)).refusals = [] := hquiet
        rw [run_bind_ok hwritten, renameDraft_run hquiet' hname (hkeeps.enter henter) hfault
          (disk.node?_insert_self _ (not_isPrefixOf_home hdirectory)), erase_insert,
          disk.node?_insert_of_ne _ (draft_ne_name there name).symm]
        symm
        dsimp only
        split
        · next hnode => exact absurd hnode hdirectory
        · rfl

/-- The file is put into its directory if that could be made. -/
theorem replaceCleanly_run (htree : disk.IsTree) (hquiet : disk.refusals = [])
    (hname : Path.IsPlain name) (hroute : disk.Route p there names) (text : String) :
    (FileSystem.replaceCleanly (m := StateM Disk) (p.join name) text).run disk =
      match (p.join name).parentFault? with
      | some fault => (.error fault, disk)
      | none =>
        match disk.descend there names with
        | (.error fault, made) => (.error fault, made)
        | (.ok (), made) =>
          match p.nameFault? (name ++ ".tmp") with
          | some fault => (.error fault, made)
          | none => made.deposit (there ++ names) name text.toUTF8 := by
  have hparent := makeParent_run htree hquiet hname hroute
  unfold FileSystem.replaceCleanly
  cases hfault : (p.join name).parentFault? with
  | some fault =>
      rw [hfault] at hparent
      exact run_bind_error hparent
  | none =>
      rw [hfault] at hparent
      dsimp only at hparent ⊢
      cases hdescend : disk.descend there names with
      | mk result made =>
          rw [hdescend] at hparent
          cases result with
          | error fault => exact run_bind_error hparent
          | ok _ =>
              have hkeeps := descend_directories disk there names
              have hreached := enter_of_descend hroute.plain hdescend
              have hrefusals := descend_refusals disk there names
              rw [hdescend] at hkeeps hrefusals
              have hroot : made.enter (p.root made.home) p.names = .ok (there ++ names) := by
                rw [(hroute.of_keepsDirectories hkeeps).enter_names, hreached]
              rw [run_bind_ok hparent]
              exact deposit_run (hrefusals.trans hquiet) hname hroot text

end Disk

end KotlinFakes
