import KotlinFakes.Proofs.Files.Directories
import KotlinFakes.Proofs.Store.Files
import KotlinFakes.Proofs.Store.Tidy

/-!
# Stores that are saved and loaded again

A store that was saved as a whole is loaded with the entries it had, whatever its file looked like
before: what was read from an untidy text is written in a tidy one.
-/

namespace KotlinFakes

namespace Entries

/-- The entries after the digests of some signatures were recorded, one after the other. -/
def recordAll (entries : Entries) (signed : List (String × Signature)) : Entries :=
  signed.foldl (fun entries entry => entries.insert entry.1 entry.2.digest) entries

@[simp] theorem recordAll_nil (entries : Entries) : entries.recordAll [] = entries := rfl

@[simp] theorem recordAll_cons (entries : Entries) (id : String) (signature : Signature)
    (rest : List (String × Signature)) :
    entries.recordAll ((id, signature) :: rest) =
      (entries.insert id signature.digest).recordAll rest := rfl

theorem IsReadable.recordAll {entries : Entries} (h : entries.IsReadable)
    {signed : List (String × Signature)} (hdotted : ∀ entry ∈ signed, Identifier.isDotted entry.1) :
    (entries.recordAll signed).IsReadable := by
  induction signed generalizing entries with
  | nil => exact h
  | cons entry rest ih =>
      refine ih (h.insert ?_) fun other hother => hdotted other (List.mem_cons_of_mem _ hother)
      exact (isTidy_of_isDotted (hdotted entry (by simp)) entry.2).isEntry

theorem get?_recordAll_of_not_mem (entries : Entries) {signed : List (String × Signature)}
    {id : String} (h : id ∉ signed.map Prod.fst) :
    (entries.recordAll signed).get? id = entries.get? id := by
  induction signed generalizing entries with
  | nil => rfl
  | cons entry rest ih =>
      simp only [List.map_cons, List.mem_cons, not_or] at h
      exact (ih _ h.2).trans (by rw [get?_insert, if_neg h.1])

end Entries

namespace Disk

theorem follow_later (disk : Disk) (here : Place) (names : List String) :
    disk.later.follow here names = disk.follow here names := by
  induction names generalizing here with
  | nil => rfl
  | cons name rest ih =>
      simp only [follow, ih]
      rfl

theorem find_later (disk : Disk) (path : Path) : disk.later.find path = disk.find path := by
  have htarget : disk.later.target path = disk.target path := by
    simp only [target, follow_later]
    rfl
  rw [find, find, htarget]
  rfl

theorem text_later (disk : Disk) (path : Path) : disk.later.text path = disk.text path := by
  rw [text, text, find_later]

end Disk

namespace FileSystem

open Disk

variable {disk changed : Disk} {path : Path}

theorem readText_run (path : Path) (hgranted : (nextRefusal disk).1 = none) :
    (readText (m := StateM Disk) path).run disk = (disk.text path, disk.later) := by
  rw [← text_later]
  obtain ⟨home, nodes, refusals⟩ := disk
  match refusals with
  | [] => rfl
  | none :: rest => rfl
  | some refusal :: rest => cases hgranted

theorem text_of_replaceText {text : String}
    (h : (replaceText (m := StateM Disk) path text).run disk = (.ok (), changed)) :
    changed.text path = .ok text := by
  have hfile := (replaceText_spec h).written rfl
  have hthere : changed.hasFile path := by
    obtain ⟨_, made, -, h⟩ := exists_of_run_bind_eq_ok h
    obtain ⟨_, written, -, hrenamed⟩ := exists_of_run_bind_eq_ok h
    exact hasFile_of_rename hrenamed
  rw [← (replaceText_spec h).files.home] at hfile
  exact text_of_hasFile hthere hfile

end FileSystem

namespace SignatureStore

section Recording

variable {m : Type → Type} [Monad m] [FileSystem m]

/-- Record that the fakes of some declarations were generated, one after the other. -/
def recordAll (store : SignatureStore) : List (String × Signature) → m SignatureStore
  | [] => return store
  | (id, signature) :: rest => do
    let store ← store.record id signature
    store.recordAll rest

end Recording

open Disk

variable {path : Path} {mode : PersistMode} {disk changed : Disk}

/-- The store that is loaded when reading its file has some result. -/
def ofRead (path : Path) (mode : PersistMode) : Except FileFault String → SignatureStore
  | .ok text => { fresh path mode with entries := .parse text }
  | .error .missing => fresh path mode
  | .error fault => (fresh path mode).degrade (.unreadable path fault)

theorem load_run (hgranted : (nextRefusal disk).1 = none) :
    load (m := StateM Disk) path mode disk = (ofRead path mode (disk.text path), disk.later) := by
  have hread := FileSystem.readText_run path hgranted
  simp only [load, bind, StateT.bind, hread]
  cases disk.text path with
  | ok text => rfl
  | error fault => cases fault <;> rfl

theorem load_quiet (hquiet : disk.refusals = []) :
    load (m := StateM Disk) path mode disk = (ofRead path mode (disk.text path), disk) := by
  obtain ⟨home, nodes, refusals⟩ := disk
  obtain rfl : refusals = [] := hquiet
  exact load_run rfl

/-- Whatever the file of a store holds, the entries of the store can be written and read again. -/
theorem isReadable_of_load {store : SignatureStore}
    (h : load (m := StateM Disk) path mode disk = (store, changed)) : store.entries.IsReadable := by
  obtain ⟨-, -, -, hempty | ⟨text, hparsed, -⟩⟩ := load_spec h
  · rw [hempty]
    exact Entries.isReadable_empty
  · rw [hparsed]
    exact Entries.isReadable_parse text

theorem recordAll_onFlush {store recorded : SignatureStore} {signed : List (String × Signature)}
    (hmode : store.mode = .onFlush)
    (h : store.recordAll (m := StateM Disk) signed disk = (recorded, changed)) :
    recorded.path = store.path ∧ recorded.mode = .onFlush ∧
      recorded.entries = store.entries.recordAll signed ∧ changed = disk := by
  induction signed generalizing store with
  | nil =>
      obtain ⟨rfl, rfl⟩ := Prod.mk.inj h
      exact ⟨rfl, hmode, rfl, rfl⟩
  | cons entry rest ih =>
      obtain ⟨next, between, hrecord, h⟩ := exists_of_bind h
      simp only [record, remember, hmode] at hrecord
      obtain ⟨rfl, rfl⟩ := Prod.mk.inj hrecord
      refine ih ?_ h
      rfl

theorem flush_cases {store saved : SignatureStore} {result : Except StoreError Unit}
    (hmode : store.mode = .onFlush)
    (h : store.flush (m := StateM Disk) disk = ((result, saved), changed)) :
    ∃ replaced, (FileSystem.replaceText (m := StateM Disk) store.path store.entries.render).run disk =
        (replaced, changed) ∧
      (replaced = .ok () ∧ saved = store ∨ saved.isDegraded = true ∧ result ≠ .ok ()) := by
  simp only [flush, hmode] at h
  obtain ⟨replaced, between, hreplace, h⟩ := exists_of_bind h
  refine ⟨replaced, ?_⟩
  cases replaced with
  | ok _ =>
      obtain ⟨hresult, rfl⟩ := Prod.mk.inj h
      obtain ⟨-, rfl⟩ := Prod.mk.inj hresult
      exact ⟨hreplace, .inl ⟨rfl, rfl⟩⟩
  | error fault =>
      obtain ⟨hresult, rfl⟩ := Prod.mk.inj h
      obtain ⟨rfl, rfl⟩ := Prod.mk.inj hresult
      exact ⟨hreplace, .inr ⟨rfl, nofun⟩⟩

theorem flush_onFlush {store saved : SignatureStore} {result : Except StoreError Unit}
    (hmode : store.mode = .onFlush)
    (h : store.flush (m := StateM Disk) disk = ((result, saved), changed))
    (hgood : result = .ok () ∨ saved.isDegraded = false) :
    saved = store ∧ changed.text store.path = .ok store.entries.render := by
  obtain ⟨replaced, hreplace, ⟨rfl, rfl⟩ | ⟨hdegraded, hresult⟩⟩ := flush_cases hmode h
  · exact ⟨rfl, FileSystem.text_of_replaceText hreplace⟩
  · obtain hgood | hgood := hgood
    · exact absurd hgood hresult
    · rw [hdegraded] at hgood
      cases hgood

/-- A store that is loaded from any file, takes note of some digests and is saved, is loaded with
    exactly its entries, those of other declarations among them. Entries of any text at all can be
    rendered and parsed again. -/
theorem reload_of_flush {loaded between flushed after : Disk}
    {store recorded saved reloaded : SignatureStore} {signed : List (String × Signature)}
    (hload : load (m := StateM Disk) path .onFlush disk = (store, loaded))
    (hdotted : ∀ entry ∈ signed, Identifier.isDotted entry.1)
    (hrecord : store.recordAll (m := StateM Disk) signed loaded = (recorded, between))
    (hflush : recorded.flush (m := StateM Disk) between = ((.ok (), saved), flushed))
    (hgranted : (nextRefusal flushed).1 = none)
    (hreload : load (m := StateM Disk) path mode flushed = (reloaded, after)) :
    (reloaded.isDegraded = false ∧ reloaded.entries = saved.entries ∧
      saved.entries = store.entries.recordAll signed ∧
      ∀ id ∉ signed.map Prod.fst, reloaded.digest? id = store.digest? id) ∧
    ∀ text, Entries.parse (Entries.parse text).render = Entries.parse text := by
  obtain ⟨-, hpath, hmode, -⟩ := load_spec hload
  have hreadable := (isReadable_of_load hload).recordAll hdotted
  obtain ⟨hpath', hmode', hentries, -⟩ := recordAll_onFlush hmode hrecord
  obtain ⟨rfl, htext⟩ := flush_onFlush hmode' hflush (.inl rfl)
  rw [hpath', hpath, hentries] at htext
  rw [load_run hgranted, htext, ofRead, Entries.parse_render hreadable] at hreload
  obtain ⟨rfl, -⟩ := Prod.mk.inj hreload
  exact ⟨⟨rfl, hentries.symm, hentries,
    fun id hid => Entries.get?_recordAll_of_not_mem store.entries hid⟩, Entries.parse_render_parse⟩

/-- A file with a remark, blanks around an entry, lines that say nothing, a lone carriage return, a
    digest with a mark in it, two entries of one declaration and a last line without an end. -/
def untidyDisk : Disk where
  home := ["work"]
  nodes := [(["work", "cache"], .file ("# by hand\n  app.Clock = 01=2 \r\n=x\n\napp.Box\ra=b=c\n" ++
    "app.Timer=ab\napp.Timer=cd").toUTF8)]
  refusals := []

/-- The entries of an untidy file come back, and the one that was recorded. -/
theorem reload_of_flush_untidy :
    ∃ store loaded recorded between saved flushed reloaded after,
      load (m := StateM Disk) ⟨"cache"⟩ .onFlush untidyDisk = (store, loaded) ∧
      store.recordAll (m := StateM Disk) [("app.Timer", ⟨"timer"⟩)] loaded = (recorded, between) ∧
      recorded.flush (m := StateM Disk) between = ((.ok (), saved), flushed) ∧
      load (m := StateM Disk) ⟨"cache"⟩ .onFlush flushed = (reloaded, after) ∧
      reloaded.entries = saved.entries ∧
      saved.digest? "app.Timer" = some (Signature.digest ⟨"timer"⟩) ∧
      reloaded.digest? "app.Clock" = some "01=2" ∧ reloaded.digest? "app.Box\ra" = some "b=c" := by
  let update : StateM Disk (Except StoreError Unit × SignatureStore) := do
    let store ← load ⟨"cache"⟩ .onFlush
    let recorded ← store.recordAll [("app.Timer", ⟨"timer"⟩)]
    recorded.flush
  have hok : (update untidyDisk).1.1 = .ok () := by decide +kernel
  have hgranted : (nextRefusal (update untidyDisk).2).1 = none := by decide +kernel
  have hknown : (load (m := StateM Disk) ⟨"cache"⟩ .onFlush untidyDisk).1.digest? "app.Clock" =
      some "01=2" ∧
      (load (m := StateM Disk) ⟨"cache"⟩ .onFlush untidyDisk).1.digest? "app.Box\ra" =
        some "b=c" := by decide +kernel
  obtain ⟨⟨result, saved⟩, flushed, hrun⟩ : ∃ result flushed, update untidyDisk = (result, flushed) :=
    ⟨_, _, rfl⟩
  rw [hrun] at hok hgranted
  obtain rfl : result = .ok () := hok
  obtain ⟨store, loaded, hload, hrun⟩ := exists_of_bind hrun
  obtain ⟨recorded, between, hrecord, hflush⟩ := exists_of_bind hrun
  obtain ⟨reloaded, after, hreload⟩ : ∃ reloaded after,
      load (m := StateM Disk) ⟨"cache"⟩ .onFlush flushed = (reloaded, after) := ⟨_, _, rfl⟩
  obtain ⟨⟨-, hsame, hsaved, hother⟩, -⟩ :=
    reload_of_flush hload (by decide) hrecord hflush hgranted hreload
  rw [hload] at hknown
  refine ⟨store, loaded, recorded, between, saved, flushed, reloaded, after, hload, hrecord, hflush,
    hreload, hsame, ?_, (hother _ (by decide)).trans hknown.1, (hother _ (by decide)).trans hknown.2⟩
  rw [digest?, hsaved]
  exact (Entries.get?_insert _ _ _ _).trans (if_pos rfl)

end SignatureStore

end KotlinFakes
