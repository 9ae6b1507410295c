import KotlinFakes.Proofs.Files.Draft
import KotlinFakes.Proofs.Files.Refusals
import KotlinFakes.Proofs.Store.Files

/-!
# The course of a store

What a store answers after any sequence of commands, whatever goes wrong with its file and whatever
others do to the disk in between. Every answer is told from what was recorded and from what went wrong.
-/

namespace KotlinFakes

open Disk

theorem Path.place_ne_place_draft (path : Path) (home : Place) :
    path.place home ≠ path.draft.place home := by
  obtain ⟨before, directory, name, -, hplace, hdraft⟩ := path.exists_place_draft home
  rw [hplace, hdraft, Path.step]
  intro heq
  split at heq
  · simp at heq
  · split at heq
    · have hlength := congrArg List.length heq
      simp only [List.length_dropLast, List.length_append, List.length_singleton] at hlength
      omega
    · exact draft_ne_name directory name heq.symm

namespace SignatureStore

/-- What a store can be told, and what else can happen between two commands. -/
inductive Command where
  | record (id : String) (signature : Signature)
  /-- Ask whether the fake of a declaration has to be generated. -/
  | ask (id : String) (signature : Signature)
  | flush
  | takeErrors
  /-- The disk is changed by others. -/
  | meanwhile (disk : Disk)

/-- What is answered to a command. -/
inductive Answer where
  | nothing
  | needed (isNeeded : Bool)
  | flushed (result : Except StoreError Unit)
  | taken (errors : List StoreError)

def perform (store : SignatureStore) : Command → StateM Disk (Answer × SignatureStore)
  | .record id signature => do return (.nothing, ← store.record id signature)
  | .ask id signature => return (.needed (store.needsGeneration id signature), store)
  | .flush => do
    let (result, store) ← store.flush
    return (.flushed result, store)
  | .takeErrors => return (.taken store.takeErrors.1, store.takeErrors.2)
  | .meanwhile disk => fun _ => ((.nothing, store), disk)

/-- A command at the time when it is given. -/
structure Turn where
  store : SignatureStore
  disk : Disk
  command : Command

/-- The fault that an operation ends with, if it ends with one. -/
def fault? {α : Type} : Except FileFault α → Option FileFault
  | .ok _ => none
  | .error fault => some fault

namespace Turn

def answer (t : Turn) : Answer := (t.store.perform t.command t.disk).1.1

/-- The store after the command. -/
def next (t : Turn) : SignatureStore := (t.store.perform t.command t.disk).1.2

/-- The disk after the command. -/
def changed (t : Turn) : Disk := (t.store.perform t.command t.disk).2

/-- What goes wrong when an entry is appended to the file. -/
def appendFailure? (t : Turn) : Option StoreError :=
  match t.command, t.store.mode with
  | .record id signature, .perEntry =>
    (fault? ((appendEntry (m := StateM Disk) t.store.path id signature).run t.disk).1).map
      (.unwritable t.store.path)
  | _, _ => none

/-- What goes wrong when the file is replaced. -/
def flushFailure? (t : Turn) : Option StoreError :=
  match t.command, t.store.mode with
  | .flush, .onFlush =>
    (fault? ((FileSystem.replaceText (m := StateM Disk) t.store.path t.store.entries.render).run
      t.disk).1).map (.unwritable t.store.path)
  | _, _ => none

/-- Whether something goes wrong with the file. -/
def fails (t : Turn) : Bool := t.appendFailure?.isSome || t.flushFailure?.isSome

/-- What the file system is asked to do, as long as nothing fails. -/
def operations (t : Turn) : List Operation :=
  match t.command, t.store.mode with
  | .record _ _, .perEntry => parentOperations t.store.path ++ [.isPresent, .appendText]
  | .flush, .onFlush => parentOperations t.store.path ++ [.writeText, .rename]
  | _, _ => []

/-- The digest that is recorded for a declaration. -/
def recorded? (id : String) (t : Turn) : Option String :=
  match t.command with
  | .record other signature => if other = id then some signature.digest else none
  | _ => none

/-- The failures that are handed out. -/
def taken (t : Turn) : List StoreError :=
  match t.answer with
  | .taken errors => errors
  | _ => []

end Turn

/-- The turns of some commands, and the store after them. -/
def carryOut (store : SignatureStore) (disk : Disk) : List Command → List Turn × SignatureStore
  | [] => ([], store)
  | command :: rest =>
    let t : Turn := ⟨store, disk, command⟩
    let (more, final) := carryOut t.next t.changed rest
    (t :: more, final)

/-- What a turn does to the store and the disk. -/
structure Turn.Does (t : Turn) : Prop where
  path : t.next.path = t.store.path
  entries : ∀ id, t.next.digest? id = (t.recorded? id).or (t.store.digest? id)
  isDegraded : t.next.isDegraded = (t.store.isDegraded || t.fails)
  errors : t.taken ++ t.next.errors = t.store.errors ++ t.appendFailure?.toList
  emptied : t.command = .takeErrors → t.next.errors = []
  flushed : t.command = .flush → t.answer = .flushed (t.flushFailure?.elim (.ok ()) .error)
  kept : t.flushFailure?.isSome → t.changed.file? (t.store.path.place t.disk.home) =
    t.disk.file? (t.store.path.place t.disk.home)

variable {store : SignatureStore} {disk : Disk}

theorem digest?_remember (store : SignatureStore) (id other : String) (signature : Signature) :
    (store.remember id signature).digest? other =
      (if id = other then some signature.digest else none).or (store.digest? other) := by
  rw [digest?, remember, Entries.get?_insert]
  split
  · next h => rw [if_pos h.symm, Option.some_or]
  · next h => rw [if_neg (Ne.symm h), Option.none_or, digest?]

theorem turn_record {id : String} {signature : Signature} {result : Except FileFault Unit}
    {changed : Disk} (hmode : store.mode = .perEntry)
    (happend : (appendEntry (m := StateM Disk) store.path id signature).run disk =
      (result, changed)) :
    let t : Turn := ⟨store, disk, .record id signature⟩
    t.appendFailure? = (fault? result).map (.unwritable store.path) ∧
      t.next = (fault? result).elim (store.remember id signature) (fun fault =>
        (store.remember id signature).degrade (.unwritable store.path fault)) ∧
      t.changed = changed := by
  obtain ⟨path, mode, entries, isDegraded, errors⟩ := store
  obtain rfl : mode = .perEntry := hmode
  refine ⟨?_, ?_, ?_⟩
  · simp only [Turn.appendFailure?, happend]
  · simp only [Turn.next, perform, record, remember, bind, StateT.bind, happend]
    cases result <;> rfl
  · simp only [Turn.changed, perform, record, remember, bind, StateT.bind, happend]
    cases result <;> rfl

theorem turn_flush {result : Except FileFault Unit} {changed : Disk}
    (hmode : store.mode = .onFlush)
    (hreplace : (FileSystem.replaceText (m := StateM Disk) store.path store.entries.render).run disk =
      (result, changed)) :
    let t : Turn := ⟨store, disk, .flush⟩
    t.flushFailure? = (fault? result).map (.unwritable store.path) ∧
      t.answer = .flushed (t.flushFailure?.elim (.ok ()) .error) ∧
      t.next = { store with isDegraded := store.isDegraded || t.flushFailure?.isSome } ∧
      t.changed = changed := by
  obtain ⟨path, mode, entries, isDegraded, errors⟩ := store
  obtain rfl : mode = .onFlush := hmode
  intro t
  have hfailure : t.flushFailure? = (fault? result).map (.unwritable path) := by
    simp only [t, Turn.flushFailure?, hreplace]
  have hperform : t.store.perform t.command t.disk =
      ((.flushed (t.flushFailure?.elim (.ok ()) .error),
        { t.store with isDegraded := isDegraded || t.flushFailure?.isSome }), changed) := by
    rw [hfailure]
    simp only [t, perform, flush, bind, StateT.bind, hreplace]
    cases result <;> simp [fault?] <;> rfl
  rw [Turn.answer, Turn.next, Turn.changed, hperform]
  exact ⟨hfailure, rfl, rfl, rfl⟩

theorem does_record (store : SignatureStore) (disk : Disk) (id : String) (signature : Signature) :
    Turn.Does ⟨store, disk, .record id signature⟩ := by
  have htakes : Command.record id signature ≠ .takeErrors := Command.noConfusion
  have hflushes : Command.record id signature ≠ .flush := Command.noConfusion
  let t : Turn := ⟨store, disk, .record id signature⟩
  cases hmode : store.mode with
  | onFlush =>
      obtain ⟨path, mode, entries, isDegraded, errors⟩ := store
      obtain rfl : mode = .onFlush := hmode
      exact ⟨rfl, fun other => digest?_remember _ id other signature, (Bool.or_false _).symm,
        (List.append_nil _).symm, htakes.elim, hflushes.elim, Bool.false_ne_true.elim⟩
  | perEntry =>
      obtain ⟨result, changed, happend⟩ : ∃ result changed,
        (appendEntry (m := StateM Disk) store.path id signature).run disk = (result, changed) :=
          ⟨_, _, rfl⟩
      obtain ⟨hfailure, hnext, -⟩ := turn_record hmode happend
      have hentries : t.next.entries = store.entries.insert id signature.digest := by
        rw [hnext]
        cases fault? result <;> rfl
      have hflush : t.flushFailure? = none := rfl
      refine ⟨?_, fun other => ?_, ?_, ?_, htakes.elim, hflushes.elim, Bool.false_ne_true.elim⟩
      · rw [hnext]
        cases fault? result <;> rfl
      · change t.next.entries.get? other = _
        rw [hentries]
        exact digest?_remember store id other signature
      · rw [Turn.fails, hflush, hnext, hfailure, Option.isSome_none, Bool.or_false]
        cases fault? result with
        | none => exact (Bool.or_false _).symm
        | some fault => exact (Bool.or_true _).symm
      · change t.next.errors = store.errors ++ t.appendFailure?.toList
        rw [hnext, hfailure]
        cases fault? result with
        | none => exact (List.append_nil _).symm
        | some fault => rfl

theorem does_flush (store : SignatureStore) (disk : Disk) : Turn.Does ⟨store, disk, .flush⟩ := by
  cases hmode : store.mode with
  | perEntry =>
      obtain ⟨path, mode, entries, isDegraded, errors⟩ := store
      obtain rfl : mode = .perEntry := hmode
      exact ⟨rfl, fun _ => rfl, (Bool.or_false _).symm, (List.append_nil _).symm, nofun,
        fun _ => rfl, nofun⟩
  | onFlush =>
      let t : Turn := ⟨store, disk, .flush⟩
      obtain ⟨result, changed, hreplace⟩ : ∃ result changed,
        (FileSystem.replaceText (m := StateM Disk) store.path store.entries.render).run disk =
          (result, changed) := ⟨_, _, rfl⟩
      obtain ⟨hfailure, hanswer, hnext, hchanged⟩ := turn_flush hmode hreplace
      refine ⟨?_, fun id => ?_, ?_, ?_, nofun, fun _ => hanswer, fun hfails => ?_⟩
      · rw [hnext]
      · rw [hnext]
        rfl
      · change t.next.isDegraded = (store.isDegraded || (false || t.flushFailure?.isSome))
        rw [hnext, Bool.false_or]
      · change t.taken ++ t.next.errors = store.errors ++ []
        rw [Turn.taken, hanswer, hnext, List.append_nil]
        rfl
      · have hne : result ≠ .ok () := by
          rintro rfl
          rw [hfailure] at hfails
          cases hfails
        have hkept := (FileSystem.replaceText_spec hreplace).kept hne
        rw [hchanged]
        exact hkept.files _ (by simp [Path.place_ne_place_draft])

theorem Turn.does (t : Turn) : t.Does := by
  obtain ⟨store, disk, command⟩ := t
  cases command with
  | record id signature => exact does_record store disk id signature
  | flush => exact does_flush store disk
  | ask id signature =>
      exact ⟨rfl, fun _ => rfl, (Bool.or_false _).symm, (List.append_nil _).symm, nofun, nofun, nofun⟩
  | takeErrors =>
      exact ⟨rfl, fun _ => rfl, (Bool.or_false _).symm, rfl, fun _ => rfl, nofun, nofun⟩
  | meanwhile other =>
      exact ⟨rfl, fun _ => rfl, (Bool.or_false _).symm, (List.append_nil _).symm, nofun, nofun, nofun⟩

/-! ## Refused operations -/

theorem appendEntry_admits {path : Path} {id : String} {signature : Signature} {changed : Disk}
    (h : (appendEntry (m := StateM Disk) path id signature).run disk = (.ok (), changed)) :
    Admits (parentOperations path ++ [.isPresent, .appendText]) disk changed := by
  obtain ⟨_, -, hfault⟩ | ⟨made, isPresent, asked, hmade, hasked, happend⟩ := appendEntry_cases h
  · cases hfault
  · exact (FileSystem.makeParent_admits hmade).append
      ((FileSystem.isPresent_admits hasked).append (FileSystem.appendText_admits happend))

theorem eq_ok_of_fault? {α : Type} {result : Except FileFault α} (h : fault? result = none) :
    ∃ a, result = .ok a := by
  cases result with
  | ok a => exact ⟨a, rfl⟩
  | error fault => cases h

/-- In a turn without a failure the operations are carried out, and none of them is refused. -/
theorem Turn.admits (t : Turn) (hcommand : ∀ other, t.command ≠ .meanwhile other)
    (hfine : t.fails = false) : Admits t.operations t.disk t.changed := by
  obtain ⟨store, disk, command⟩ := t
  obtain ⟨hrecorded, hflushed⟩ := Bool.or_eq_false_iff.1 hfine
  cases command with
  | record id signature =>
      cases hmode : store.mode with
      | onFlush =>
          obtain ⟨path, mode, entries, isDegraded, errors⟩ := store
          obtain rfl : mode = .onFlush := hmode
          exact admits_nil
      | perEntry =>
          obtain ⟨result, changed, happend⟩ : ∃ result changed,
            (appendEntry (m := StateM Disk) store.path id signature).run disk = (result, changed) :=
              ⟨_, _, rfl⟩
          obtain ⟨hfailure, -, hchanged⟩ := turn_record hmode happend
          rw [hfailure] at hrecorded
          obtain ⟨_, rfl⟩ := eq_ok_of_fault? (by simpa using hrecorded)
          rw [operations, hmode, hchanged]
          exact appendEntry_admits happend
  | flush =>
      cases hmode : store.mode with
      | perEntry =>
          obtain ⟨path, mode, entries, isDegraded, errors⟩ := store
          obtain rfl : mode = .perEntry := hmode
          exact admits_nil
      | onFlush =>
          obtain ⟨result, changed, hreplace⟩ : ∃ result changed,
            (FileSystem.replaceText (m := StateM Disk) store.path store.entries.render).run disk =
              (result, changed) := ⟨_, _, rfl⟩
          obtain ⟨hfailure, -, -, hchanged⟩ := turn_flush hmode hreplace
          rw [hfailure] at hflushed
          obtain ⟨_, rfl⟩ := eq_ok_of_fault? (by simpa using hflushed)
          rw [operations, hmode, hchanged]
          exact FileSystem.replaceText_admits hreplace
  | ask id signature => exact admits_nil
  | takeErrors => exact admits_nil
  | meanwhile other => exact absurd rfl (hcommand other)

theorem Turn.refused (t : Turn) {operation : Operation} {refusal : Refusal}
    (h : (operation, some refusal) ∈ t.operations.zip t.disk.refusals) :
    operation = .isPresent ∨ t.fails := by
  by_cases hcommand : ∃ other, t.command = .meanwhile other
  · obtain ⟨other, hother⟩ := hcommand
    rw [operations, hother] at h
    cases h
  · cases hfails : t.fails with
    | true => exact .inr rfl
    | false =>
        have hadmits := t.admits (fun other hother => hcommand ⟨other, hother⟩) hfails
        exact .inl (hadmits.admitted operation refusal h)

/-! ## Loading -/

/-- What goes wrong when a store is loaded. That there is no file is no failure. -/
def loadFailure? (path : Path) (disk : Disk) : Option StoreError :=
  match ((FileSystem.readText (m := StateM Disk) path).run disk).1 with
  | .ok _ | .error .missing => none
  | .error fault => some (.unreadable path fault)

/-- The digest that a declaration has in the file of a store. -/
def loadedDigest? (path : Path) (disk : Disk) (id : String) : Option String :=
  match ((FileSystem.readText (m := StateM Disk) path).run disk).1 with
  | .ok text => (Entries.parse text).get? id
  | .error _ => none

theorem load_eq {path : Path} {mode : PersistMode} {loaded : Disk}
    (h : load (m := StateM Disk) path mode disk = (store, loaded)) :
    store.path = path ∧ (∀ id, store.digest? id = loadedDigest? path disk id) ∧
      store.isDegraded = (loadFailure? path disk).isSome ∧
      store.errors = (loadFailure? path disk).toList := by
  obtain ⟨result, between, hread, h⟩ := exists_of_bind h
  have hread : ((FileSystem.readText (m := StateM Disk) path).run disk).1 = result :=
    congrArg Prod.fst hread
  rw [loadFailure?, hread]
  simp only [loadedDigest?, hread]
  cases result with
  | ok text =>
      obtain ⟨rfl, -⟩ := Prod.mk.inj h
      exact ⟨rfl, fun _ => rfl, rfl, rfl⟩
  | error fault =>
      cases fault <;> (obtain ⟨rfl, -⟩ := Prod.mk.inj h; exact ⟨rfl, fun _ => rfl, rfl, rfl⟩)

theorem loadFailure?_of_refused {path : Path} {refusal : Refusal}
    (h : disk.refusals.head? = some (some refusal)) (hfault : refusal.fault ≠ .missing) :
    loadFailure? path disk = some (.unreadable path refusal.fault) := by
  have hread : ((FileSystem.readText (m := StateM Disk) path).run disk).1 =
      .error refusal.fault := by
    obtain ⟨home, nodes, refusals⟩ := disk
    obtain ⟨rest, rfl⟩ := List.head?_eq_some_iff.1 h
    rfl
  rw [loadFailure?, hread]
  split
  · next heq => cases heq
  · next heq => exact absurd (Except.error.inj heq) hfault
  · next heq => rw [Except.error.inj heq]

/-! ## The whole course -/

/-- The digest that was recorded last for a declaration. -/
def lastDigest? (id : String) (turns : List Turn) : Option String :=
  (turns.filterMap (Turn.recorded? id)).getLast?

theorem lastDigest?_cons (id : String) (t : Turn) (turns : List Turn) :
    lastDigest? id (t :: turns) = (lastDigest? id turns).or (t.recorded? id) := by
  rw [lastDigest?, List.filterMap_cons]
  cases t.recorded? id with
  | none => exact (Option.or_none).symm
  | some digest =>
      rw [lastDigest?]
      cases (turns.filterMap (Turn.recorded? id)).eq_nil_or_concat with
      | inl hnil => simp [hnil]
      | inr hlast =>
          obtain ⟨before, last, hlast⟩ := hlast
          simp [hlast, List.getLast?_cons]

/-- What the turns of a store have to do with its state after them. -/
structure Follows (store : SignatureStore) (turns : List Turn) (final : SignatureStore) : Prop where
  digest : ∀ id, final.digest? id = (lastDigest? id turns).or (store.digest? id)
  isDegraded : final.isDegraded = (store.isDegraded || turns.any Turn.fails)
  stays : ∀ t ∈ turns, t.store.isDegraded → final.isDegraded
  errors : turns.flatMap Turn.taken ++ final.errors =
    store.errors ++ turns.flatMap fun t => t.appendFailure?.toList
  emptied : ∀ t, turns.getLast? = some t → t.command = .takeErrors → final.errors = []
  path : ∀ t ∈ turns, t.store.path = store.path

theorem follows_nil (store : SignatureStore) : Follows store [] store :=
  ⟨fun _ => rfl, (Bool.or_false _).symm, nofun, (List.append_nil _).symm, nofun, nofun⟩

theorem Follows.cons {t : Turn} {turns : List Turn} {final : SignatureStore}
    (h : Follows t.next turns final) (hnone : turns = [] → final = t.next) :
    Follows t.store (t :: turns) final := by
  have hdoes := t.does
  have hdegraded : final.isDegraded = (t.store.isDegraded || (t :: turns).any Turn.fails) := by
    rw [h.isDegraded, hdoes.isDegraded, List.any_cons, Bool.or_assoc]
  refine ⟨fun id => ?_, hdegraded, ?_, ?_, ?_, ?_⟩
  · rw [h.digest, hdoes.entries, lastDigest?_cons, Option.or_assoc]
  · refine List.forall_mem_cons.2 ⟨fun ht => ?_, h.stays⟩
    rw [hdegraded, ht, Bool.true_or]
  · rw [List.flatMap_cons, List.flatMap_cons, List.append_assoc, h.errors, ← List.append_assoc,
      hdoes.errors, List.append_assoc]
  · intro last hlast hcommand
    cases turns with
    | nil =>
        obtain rfl := Option.some.inj hlast
        rw [hnone rfl]
        exact hdoes.emptied hcommand
    | cons other more => exact h.emptied last hlast hcommand
  · exact List.forall_mem_cons.2 ⟨rfl, fun u hu => (h.path u hu).trans hdoes.path⟩

theorem follows_carryOut (store : SignatureStore) (disk : Disk) (commands : List Command) :
    Follows store (carryOut store disk commands).1 (carryOut store disk commands).2 := by
  induction commands generalizing store disk with
  | nil => exact follows_nil store
  | cons command rest ih =>
      let t : Turn := ⟨store, disk, command⟩
      refine Follows.cons (t := t) (ih t.next t.changed) fun hnone => ?_
      cases rest with
      | nil => rfl
      | cons other more => cases hnone

/-- What can be told about a store from the disk it was loaded from and its turns since. -/
structure Faithful (path : Path) (disk : Disk) (turns : List Turn) (final : SignatureStore) : Prop where
  /-- A fake is not generated again if nothing has gone wrong, that of loading included, and the digest
      that was recorded last, or else the loaded one, is that of its signature. -/
  needs : ∀ id signature, final.needsGeneration id signature = false ↔
    loadFailure? path disk = none ∧ (∀ t ∈ turns, t.fails = false) ∧
      (lastDigest? id turns).or (loadedDigest? path disk id) = some signature.digest
  /-- Loading goes wrong if reading the file is refused, unless because there is none. -/
  unread : ∀ refusal, disk.refusals.head? = some (some refusal) → refusal.fault ≠ .missing →
    loadFailure? path disk = some (.unreadable path refusal.fault)
  /-- A turn goes wrong if one of its operations is refused, unless it is the question whether there is
      a file. -/
  refused : ∀ t ∈ turns, ∀ operation refusal,
    (operation, some refusal) ∈ t.operations.zip t.disk.refusals → operation = .isPresent ∨ t.fails
  /-- A turn that does not go wrong does these operations and no others. -/
  performed : ∀ t ∈ turns, t.fails = false → (∀ other, t.command ≠ .meanwhile other) →
    t.changed.refusals = t.disk.refusals.drop t.operations.length
  /-- A question is answered as the store is at the time. -/
  asked : ∀ t ∈ turns, ∀ id signature, t.command = .ask id signature →
    t.answer = .needed (t.store.needsGeneration id signature)
  /-- A degraded store stays degraded. -/
  stays : ∀ t ∈ turns, t.store.isDegraded → final.isDegraded
  /-- What went wrong when the store was loaded or an entry was appended is handed out once and in
      order, as far as it is not pending. -/
  reported : turns.flatMap Turn.taken ++ final.errors =
    (loadFailure? path disk).toList ++ turns.flatMap fun t => t.appendFailure?.toList
  /-- Nothing is pending when the failures were handed out. -/
  emptied : ∀ t, turns.getLast? = some t → t.command = .takeErrors → final.errors = []
  /-- What goes wrong when the store is saved is the answer. -/
  flushed : ∀ t ∈ turns, t.command = .flush →
    t.answer = .flushed (t.flushFailure?.elim (.ok ()) .error)
  /-- Then the file is what it was before. -/
  unchanged : ∀ t ∈ turns, t.flushFailure?.isSome →
    t.changed.file? (path.place t.disk.home) = t.disk.file? (path.place t.disk.home)

/-- Whatever is done with a store, whatever goes wrong with its file and whatever others do to the disk,
    the store can be told from what was recorded and what went wrong. -/
theorem faithful_carryOut (path : Path) (mode : PersistMode) (disk : Disk) (commands : List Command) :
    let loaded := load (m := StateM Disk) path mode disk
    let course := carryOut loaded.1 loaded.2 commands
    Faithful path disk course.1 course.2 := by
  intro loaded course
  obtain ⟨hpath, hdigest, hdegraded, herrors⟩ :=
    load_eq (show load (m := StateM Disk) path mode disk = (loaded.1, loaded.2) from rfl)
  have hcourse : Follows loaded.1 course.1 course.2 := follows_carryOut loaded.1 loaded.2 commands
  refine ⟨fun id signature => ?_, fun _ => loadFailure?_of_refused, fun t _ _ _ => t.refused,
    fun t _ hfine hcommand => (t.admits hcommand hfine).refusals, ?_, hcourse.stays, ?_,
    hcourse.emptied, fun t _ => t.does.flushed, fun t ht hfails => ?_⟩
  · rw [needsGeneration, Bool.or_eq_false_iff, bne_eq_false_iff_eq, hcourse.digest, hcourse.isDegraded,
      hdigest, hdegraded, Bool.or_eq_false_iff, List.any_eq_false, Option.isSome_eq_false_iff,
      Option.isNone_iff_eq_none, and_assoc]
    simp only [Bool.not_eq_true]
  · rintro ⟨store, now, command⟩ - id signature ⟨⟩
    rfl
  · rw [hcourse.errors, herrors]
  · rw [← hpath, ← hcourse.path t ht]
    exact t.does.kept hfails

end SignatureStore

end KotlinFakes
