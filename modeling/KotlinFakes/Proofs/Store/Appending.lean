import KotlinFakes.Proofs.Files.Deposit
import KotlinFakes.Proofs.Files.Refusals
import KotlinFakes.Proofs.Store.LastLine

/-!
# Stores that are saved one entry at a time

What such a store appends to its file on a disk where nothing is refused, and when a store that is
loaded from that file has all its entries.
-/

namespace KotlinFakes

namespace Disk

variable {disk changed : Disk} {path : Path}

theorem append_present {bytes : ByteArray} (h : disk.append path bytes = .ok changed) :
    (disk.find path).toBool = (disk.file? (path.place disk.home)).isSome ∧ changed.hasFile path ∧
      changed.refusals = disk.refusals := by
  have hkept := append_directories h
  have hfile := (append_spec h).2
  obtain ⟨⟨place, content⟩, hopen, h⟩ := exists_of_bind_eq_ok h
  obtain rfl := Except.ok.inj h
  obtain ⟨target, htarget, hopen⟩ := exists_of_bind_eq_ok hopen
  have hplace := place_of_target htarget
  dsimp only at hopen
  split at hopen
  · cases hopen
  · next hdirectory =>
      have hthere : (disk.insert place (.file (content ++ bytes))).hasFile path :=
        hasFile_iff.2 ⟨target, _, hkept.target htarget, by simpa using hdirectory, hplace ▸ hfile⟩
      refine ⟨?_, hthere, rfl⟩
      rw [← hplace]
      split at hopen
      · cases hopen
      · next hnode =>
          simp [find, htarget, bind, Except.bind, hnode, hdirectory, file?, pure, Except.pure,
            Except.toBool]
      · next hnode =>
          simp [find, htarget, bind, Except.bind, hnode, file?, Except.toBool]

end Disk

namespace FileSystem

open Disk

variable {disk changed : Disk} {path : Path}

theorem makeParent_quiet {result : Except FileFault Unit} (hquiet : disk.refusals = [])
    (h : (makeParent (m := StateM Disk) path).run disk = (result, changed)) :
    changed.refusals = [] := by
  unfold makeParent at h
  split at h
  · split at h
    · obtain ⟨-, rfl⟩ := Prod.mk.inj h
      exact hquiet
    · next parent _ _ =>
        have hmade : (makeDirs (m := StateM Disk) parent).run disk = disk.makeDirs parent :=
          change_of_quiet hquiet _
        rw [hmade] at h
        obtain rfl : (disk.makeDirs parent).2 = changed := congrArg Prod.snd h
        exact (makeLineage_refusals disk parent.lineage).trans hquiet
  · obtain ⟨-, rfl⟩ := Prod.mk.inj h
    exact hquiet

end FileSystem

namespace SignatureStore

open Disk

variable {path : Path} {mode : PersistMode} {disk changed : Disk}

/-- On a disk where nothing is refused, the header is written if and only if there is no file. -/
theorem appendEntry_quiet {id : String} {signature : Signature} {text : Option String}
    (hquiet : disk.refusals = []) (hfile : disk.file? (path.place disk.home) = text.map String.toUTF8)
    (h : (appendEntry (m := StateM Disk) path id signature).run disk = (.ok (), changed)) :
    changed.refusals = [] ∧ changed.home = disk.home ∧
      changed.text path = .ok (Entries.appendAll text [(id, signature)]) := by
  obtain ⟨fault, -, hfault⟩ | ⟨made, isPresent, asked, hmade, hasked, h⟩ := appendEntry_cases h
  · cases hfault
  · have hmadeQuiet := FileSystem.makeParent_quiet hquiet hmade
    have hfiles := FileSystem.makeParent_files hmade
    have hanswer : FileSystem.isPresent (m := StateM Disk) path made =
        ((made.find path).toBool, made) := askWhether_of_no_refusals hmadeQuiet
    obtain ⟨rfl, rfl⟩ := Prod.mk.inj (hasked.symm.trans hanswer)
    -- What is appended stands behind what was in the file before.
    have hrun {more : String} : (FileSystem.appendText (m := StateM Disk) path more).run asked =
        asked.settle (asked.append path more.toUTF8) := changeBytes_of_quiet hmadeQuiet _ _
    have happended := settle_eq_ok (hrun.symm.trans h)
    obtain ⟨hpresent, hthere, hrefusals⟩ := append_present happended
    obtain ⟨hother, hcontent⟩ := append_spec happended
    have hbefore : asked.file? (path.place asked.home) = text.map String.toUTF8 := by
      rw [hfiles.home, hfiles.files _ (by simp), hfile]
    rw [hbefore] at hpresent hcontent
    refine ⟨hrefusals.trans hmadeQuiet, hother.home.trans hfiles.home, text_of_hasFile hthere ?_⟩
    rw [hother.home, hcontent, hpresent]
    cases text <;> simp [Entries.appendAll, String.toByteArray_append, String.append_assoc]

theorem record_quiet {store recorded : SignatureStore} {id : String} {signature : Signature}
    {text : Option String} (hmode : store.mode = .perEntry) (hquiet : disk.refusals = [])
    (hfile : disk.file? (store.path.place disk.home) = text.map String.toUTF8)
    (h : store.record (m := StateM Disk) id signature disk = (recorded, changed))
    (hgood : recorded.isDegraded = false) :
    changed.refusals = [] ∧ changed.home = disk.home ∧
      changed.text store.path = .ok (Entries.appendAll text [(id, signature)]) := by
  unfold record at h
  simp only [remember, hmode] at h
  obtain ⟨result, between, happend, h⟩ := exists_of_bind h
  cases result with
  | ok _ =>
      obtain ⟨-, rfl⟩ := Prod.mk.inj h
      exact appendEntry_quiet hquiet hfile happend
  | error fault =>
      obtain ⟨rfl, -⟩ := Prod.mk.inj h
      cases hgood

theorem recordAll_isDegraded {store recorded : SignatureStore} {signed : List (String × Signature)}
    (h : store.recordAll (m := StateM Disk) signed disk = (recorded, changed))
    (hgood : recorded.isDegraded = false) : store.isDegraded = false := by
  induction signed generalizing store disk with
  | nil =>
      obtain ⟨rfl, -⟩ := Prod.mk.inj h
      exact hgood
  | cons entry rest ih =>
      obtain ⟨next, between, hrecord, h⟩ := exists_of_bind h
      exact (record_spec hrecord).2.2.2.1 (ih h)

/-- All that is recorded is appended to what the file holds. -/
theorem recordAll_perEntry {store recorded : SignatureStore} {signed : List (String × Signature)}
    {text : Option String} (hmode : store.mode = .perEntry) (hquiet : disk.refusals = [])
    (hfile : disk.file? (store.path.place disk.home) = text.map String.toUTF8)
    (h : store.recordAll (m := StateM Disk) signed disk = (recorded, changed))
    (hgood : recorded.isDegraded = false) :
    changed.refusals = [] ∧ recorded.entries = store.entries.recordAll signed ∧
      (signed = [] → changed = disk) ∧
      (signed ≠ [] → changed.text store.path = .ok (Entries.appendAll text signed)) := by
  induction signed generalizing store disk text with
  | nil =>
      obtain ⟨rfl, rfl⟩ := Prod.mk.inj h
      exact ⟨hquiet, rfl, fun _ => rfl, fun hne => absurd rfl hne⟩
  | cons entry rest ih =>
      obtain ⟨next, between, hrecord, h⟩ := exists_of_bind h
      have hnext := recordAll_isDegraded h hgood
      obtain ⟨hpath, hmode', hentries, -⟩ := record_spec hrecord
      obtain ⟨hquiet', hhome, htext⟩ := record_quiet hmode hquiet hfile hrecord hnext
      have hfile' : between.file? (next.path.place between.home) =
          (some (Entries.appendAll text [entry])).map String.toUTF8 := by
        rw [hpath]
        exact file?_of_text htext
      obtain ⟨hquiet'', hentries', hnone, hlast⟩ := ih (hmode'.trans hmode) hquiet' hfile' h
      refine ⟨hquiet'', by rw [hentries', hentries]; rfl, nofun, fun _ => ?_⟩
      cases rest with
      | nil => exact hnone rfl ▸ htext
      | cons other others => exact hpath ▸ hlast (by simp)

/-- Whether a path leads to a file with some text, or there is no file where it leads. -/
def HasText (disk : Disk) (path : Path) : Option String → Prop
  | some text => disk.text path = .ok text
  | none => disk.file? (path.place disk.home) = none

theorem HasText.file?_eq {text : Option String} (h : HasText disk path text) :
    disk.file? (path.place disk.home) = text.map String.toUTF8 := by
  cases text with
  | none => exact h
  | some text => exact file?_of_text h

theorem HasText.entries_eq {text : Option String} (h : HasText disk path text) :
    (ofRead path mode (disk.text path)).entries = .parse (text.getD "") := by
  cases text with
  | some text =>
      rw [show disk.text path = .ok text from h]
      rfl
  | none =>
      have hnone : disk.file? (path.place disk.home) = none := h
      cases hread : disk.text path with
      | ok text => simp [file?_of_text hread] at hnone
      | error fault => cases fault <;> rfl

theorem ofRead_congr (path : Path) (mode mode' : PersistMode) (result : Except FileFault String) :
    (ofRead path mode result).entries = (ofRead path mode' result).entries ∧
      (ofRead path mode result).isDegraded = (ofRead path mode' result).isDegraded := by
  cases result with
  | ok text => exact ⟨rfl, rfl⟩
  | error fault => cases fault <;> exact ⟨rfl, rfl⟩

/-- A store that saves its entries one at a time is loaded with all of them, if the last line of its
    file was blank or ended. If it was not, the digest that was recorded first is lost, unless it is
    recorded again or known from the lines above. -/
theorem reload_of_recordAll {loaded between after : Disk} {store recorded reloaded : SignatureStore}
    {signed : List (String × Signature)} {text : Option String} (hquiet : disk.refusals = [])
    (htext : HasText disk path text) (hdotted : ∀ entry ∈ signed, Identifier.isDotted entry.1)
    (hload : load (m := StateM Disk) path .perEntry disk = (store, loaded))
    (hrecord : store.recordAll (m := StateM Disk) signed loaded = (recorded, between))
    (hgood : recorded.isDegraded = false)
    (hreload : load (m := StateM Disk) path mode between = (reloaded, after)) :
    reloaded.isDegraded = false ∧
    ((∀ c ∈ Entries.lastLine (text.getD ""), Text.isBlank c) → reloaded.entries = recorded.entries) ∧
    ∀ id signature rest, signed = (id, signature) :: rest → id ∉ rest.map Prod.fst →
      (Entries.above (text.getD "")).get? id ≠ some signature.digest →
      (∃ c ∈ Entries.lastLine (text.getD ""), Text.isBlank c = false) →
      recorded.digest? id = some signature.digest ∧ reloaded.digest? id ≠ some signature.digest := by
  have hfresh := recordAll_isDegraded hrecord hgood
  obtain ⟨-, hpath, hmode, -⟩ := load_spec hload
  rw [load_quiet hquiet] at hload
  obtain ⟨rfl, rfl⟩ := Prod.mk.inj hload
  have hfile := htext.file?_eq
  rw [← hpath] at hfile
  obtain ⟨hquiet', hentries, hnone, hlast⟩ := recordAll_perEntry hmode hquiet hfile hrecord hgood
  rw [htext.entries_eq] at hentries
  rw [load_quiet hquiet'] at hreload
  obtain ⟨rfl, -⟩ := Prod.mk.inj hreload
  cases signed with
  | nil =>
      rw [hnone rfl]
      obtain ⟨hsame, hdegraded⟩ := ofRead_congr path mode .perEntry (disk.text path)
      refine ⟨hdegraded.trans hfresh, fun _ => ?_, nofun⟩
      rw [hsame, htext.entries_eq, hentries, Entries.recordAll_nil]
  | cons entry rest =>
      obtain ⟨id, signature⟩ := entry
      have hentry := (Entries.isTidy_of_isDotted (hdotted (id, signature) (by simp)) signature).isEntry
      have happended := hlast (by simp)
      rw [hpath] at happended
      rw [happended, ofRead, Entries.parse_appendAll_cons text hdotted]
      rw [Entries.recordAll_cons, Entries.parse_eq_above] at hentries
      refine ⟨rfl, fun hblank => ?_, ?_⟩
      · rw [hentries, Entries.addLine_of_blank _ hblank, Entries.addLine_append_of_blank _ hblank,
          hentry.addLine]
      · rintro _ _ _ ⟨⟩ hid hunknown hbegun
        refine ⟨?_, ?_⟩
        · rw [digest?, hentries, Entries.get?_recordAll_of_not_mem _ hid, Entries.get?_insert,
            if_pos rfl]
        · rw [digest?, Entries.get?_recordAll_of_not_mem _ hid]
          exact Entries.get?_addLine_append_ne _ hbegun hunknown

/-- A disk with a file of some text. -/
def diskWith (text : String) : Disk := ⟨["work"], [(["work", "cache"], .file text.toUTF8)], []⟩

/-- Behind a line that is ended, nothing is lost. -/
theorem reload_of_recordAll_ended :
    ∃ store loaded recorded between reloaded after,
      load (m := StateM Disk) ⟨"cache"⟩ .perEntry (diskWith "app.Clock=0123\n") = (store, loaded) ∧
      store.recordAll (m := StateM Disk) [("app.Timer", ⟨"a"⟩)] loaded = (recorded, between) ∧
      load (m := StateM Disk) ⟨"cache"⟩ .perEntry between = (reloaded, after) ∧
      recorded.isDegraded = false ∧ reloaded.isDegraded = false ∧
      reloaded.entries = recorded.entries := by
  let records : StateM Disk SignatureStore := do
    let store ← load ⟨"cache"⟩ .perEntry
    store.recordAll [("app.Timer", ⟨"a"⟩)]
  have htext : HasText (diskWith "app.Clock=0123\n") ⟨"cache"⟩ (some "app.Clock=0123\n") := by
    change Disk.text _ _ = _
    decide +kernel
  have hgood : (records (diskWith "app.Clock=0123\n")).1.isDegraded = false := by decide +kernel
  obtain ⟨recorded, between, hrun⟩ : ∃ recorded between,
      records (diskWith "app.Clock=0123\n") = (recorded, between) := ⟨_, _, rfl⟩
  rw [hrun] at hgood
  obtain ⟨store, loaded, hload, hrecord⟩ := exists_of_bind hrun
  obtain ⟨reloaded, after, hreload⟩ : ∃ reloaded after,
      load (m := StateM Disk) ⟨"cache"⟩ .perEntry between = (reloaded, after) := ⟨_, _, rfl⟩
  obtain ⟨hfine, hsame, -⟩ :=
    reload_of_recordAll rfl htext (by decide) hload hrecord hgood hreload
  have hended : Entries.lastLine "app.Clock=0123\n" = [] := by decide +kernel
  exact ⟨store, loaded, recorded, between, reloaded, after, hload, hrecord, hreload, hgood, hfine,
    hsame (by simp [hended])⟩

/-- Behind a line that is not ended, a digest is lost and another one spoilt. -/
theorem exists_reload_ne :
    ∃ store loaded recorded between reloaded after,
      (diskWith "app.Clock=0123").text ⟨"cache"⟩ = .ok "app.Clock=0123" ∧
      load (m := StateM Disk) ⟨"cache"⟩ .perEntry (diskWith "app.Clock=0123") = (store, loaded) ∧
      store.recordAll (m := StateM Disk) [("app.Timer", ⟨"a"⟩)] loaded = (recorded, between) ∧
      load (m := StateM Disk) ⟨"cache"⟩ .perEntry between = (reloaded, after) ∧
      recorded.isDegraded = false ∧ reloaded.isDegraded = false ∧
      recorded.digest? "app.Timer" = some (Signature.digest ⟨"a"⟩) ∧
      reloaded.digest? "app.Timer" = none ∧
      recorded.digest? "app.Clock" = some "0123" ∧
      reloaded.digest? "app.Clock" = some ("0123app.Timer=" ++ Signature.digest ⟨"a"⟩) :=
  ⟨_, _, _, _, _, _, by decide +kernel, rfl, rfl, rfl, by decide +kernel⟩

end SignatureStore

end KotlinFakes
