import KotlinFakes.Proofs.Files.Repeat
import KotlinFakes.Proofs.Pass.Account

/-!
# Attempts

What processing a subject comes to where no operation is refused and digests are saved at the end only.
It depends on whether the store knows the subject and on what the disk has at the file of the subject and
above it, and on nothing else.
-/

namespace KotlinFakes

open Disk

/-- Where the directory of the file of a subject is. -/
def Subject.directory (output : Path) (home : Place) (s : Subject) : Place :=
  output.place home ++ Blueprint.packageDirs s.package

namespace Pass

/-- Whether a store knows a subject by its present signature. -/
def isKnown (config : Config) (store : Option SignatureStore) (s : Subject) : Bool :=
  match s.analyze with
  | .ok analysis =>
    State.isCurrent ⟨store, .empty⟩ s.qualifiedName (signatureOf config analysis.blueprint)
  | .error _ => false

/-- The outcome of a subject and the disk after it. -/
def attempt (config : Config) (s : Subject) (isKnown : Bool) (disk : Disk) : Outcome × Disk :=
  match s.analyze with
  | .error r => (rejectedOutcome r, disk)
  | .ok analysis =>
    let path := s.targetPath config.output
    if !config.isForced && isKnown && disk.hasFile path then (.upToDate path, disk)
    else
      match FakeFile.generate config.fileOptions analysis.blueprint with
      | .error e => (.failed (.unrenderable e), disk)
      | .ok file =>
        match (FileSystem.replaceCleanly (m := StateM Disk) path file.text).run disk with
        | (.error fault, changed) => (.failed (.unwritable path fault), changed)
        | (.ok _, changed) => (.generated path, changed)

variable {config : Config} {s : Subject} {state state' : State} {disk ahead changed : Disk}
  {outcome : Outcome}

/-! ## Processing and attempts -/

theorem isUpToDate_of_quiet (hquiet : disk.refusals = []) (b : Blueprint) (signature : Signature) :
    isUpToDate (m := StateM Disk) config state b signature disk =
      (!config.isForced && state.isCurrent b.id signature && disk.hasFile (b.targetPath config.output),
        disk) := by
  unfold isUpToDate
  split
  · next hcurrent =>
      rw [hcurrent, Bool.true_and]
      exact askWhether_of_no_refusals hquiet
  · next hcurrent =>
      rw [Bool.eq_false_iff.2 hcurrent, Bool.false_and]
      rfl

theorem record_of_onFlush {known : SignatureStore} (hmode : known.mode = .onFlush) (id : String)
    (signature : Signature) (disk : Disk) :
    known.record (m := StateM Disk) id signature disk = (known.remember id signature, disk) := by
  unfold SignatureStore.record
  simp only [SignatureStore.remember, hmode]
  rfl

theorem disk_of_record (state : State) {recorded : State} {id : String} {signature : Signature}
    (hmode : ∀ known, state.store = some known → known.mode = .onFlush)
    (h : state.record (m := StateM Disk) id signature disk = (recorded, changed)) :
    changed = disk := by
  obtain ⟨-, -, hdisk⟩ | ⟨known, remembered, hknown, -, hrecord⟩ := record_cases h
  · exact hdisk
  · rw [record_of_onFlush (hmode known hknown)] at hrecord
    exact (Prod.mk.inj hrecord).2.symm

theorem exists_entries (store : Option SignatureStore) :
    ∃ entries, store = store.map fun known => { known with entries := entries } := by
  cases store with
  | none => exact ⟨.empty, rfl⟩
  | some known => exact ⟨known.entries, rfl⟩

theorem store_of_process (hmode : ∀ known, state.store = some known → known.mode = .onFlush)
    (h : process (m := StateM Disk) config s state disk = ((outcome, state'), changed)) :
    (∃ entries, state'.store = state.store.map fun known => { known with entries := entries }) ∧
      ∀ id, id ≠ s.qualifiedName → knownDigest state'.store id = knownDigest state.store id := by
  have hstep := process_step h
  revert hmode
  generalize state.store = store at hstep
  generalize state'.store = store' at hstep
  intro hmode
  cases hstep with
  | rejected r => exact ⟨exists_entries _, fun _ _ => rfl⟩
  | upToDate hr hstore hdegraded hdigest hfiles hfile => exact ⟨exists_entries _, fun _ _ => rfl⟩
  | failed failure hr hfiles => exact ⟨exists_entries _, fun _ _ => rfl⟩
  | generated hr hrender hfiles hfile hrecord =>
      obtain ⟨rfl, rfl, -⟩ | ⟨known, remembered, rfl, rfl, hrecord⟩ := hrecord
      · exact ⟨exists_entries _, fun _ _ => rfl⟩
      · rw [record_of_onFlush (hmode known rfl)] at hrecord
        obtain rfl := (Prod.mk.inj hrecord).1
        refine ⟨⟨_, rfl⟩, fun id hid => ?_⟩
        have hother := (request?_spec hr).2 ▸ hid
        exact (known.entries.get?_insert _ _ _).trans (if_neg hother)

theorem onFlush_of_entries {store store' : Option SignatureStore} {entries : Entries}
    (hentries : store' = store.map fun known => { known with entries := entries })
    (hmode : ∀ known, store = some known → known.mode = .onFlush) :
    ∀ known, store' = some known → known.mode = .onFlush := by
  intro known hknown
  rw [hentries] at hknown
  obtain ⟨before, hbefore, rfl⟩ := Option.map_eq_some_iff.1 hknown
  exact hmode before hbefore

theorem isKnown_congr {store store' : Option SignatureStore} {entries : Entries}
    (hentries : store' = store.map fun known => { known with entries := entries })
    (hdigest : knownDigest store' s.qualifiedName = knownDigest store s.qualifiedName) :
    isKnown config store' s = isKnown config store s := by
  subst hentries
  unfold isKnown
  cases s.analyze with
  | error r => rfl
  | ok analysis =>
      cases store with
      | none => rfl
      | some known =>
          have hdigest : entries.get? s.qualifiedName = known.entries.get? s.qualifiedName := hdigest
          change (!(known.isDegraded || entries.get? _ != _)) =
            !(known.isDegraded || known.entries.get? _ != _)
          rw [hdigest]

/-- Processing a subject is an attempt. -/
theorem attempt_of_process (hquiet : disk.refusals = [])
    (hmode : ∀ known, state.store = some known → known.mode = .onFlush)
    (h : process (m := StateM Disk) config s state disk = ((outcome, state'), changed)) :
    attempt config s (isKnown config state.store s) disk = (outcome, changed) := by
  have hasked {analysis : Analysis} {answer : Bool} {asked : Disk} (ha : s.analyze = .ok analysis)
      (h : isUpToDate (m := StateM Disk) config (state.report analysis.warnings)
        analysis.blueprint (signatureOf config analysis.blueprint) disk = (answer, asked)) :
      (!config.isForced && isKnown config state.store s &&
        disk.hasFile (s.targetPath config.output)) = answer ∧ asked = disk := by
    rw [isUpToDate_of_quiet hquiet, id_of_analyze ha, targetPath_of_analyze ha] at h
    obtain ⟨hanswer, hdisk⟩ := Prod.mk.inj h
    rw [isKnown, ha]
    exact ⟨hanswer, hdisk.symm⟩
  unfold attempt
  cases process_exit h with
  | rejected ha => simp only [ha]
  | upToDate ha hasked' =>
      obtain ⟨hanswer, rfl⟩ := hasked ha hasked'
      simp only [ha, hanswer, if_true, targetPath_of_analyze ha]
  | unrenderable ha hasked' hrender =>
      obtain ⟨hanswer, rfl⟩ := hasked ha hasked'
      simp only [ha, hanswer, Bool.false_eq_true, if_false, hrender]
  | unwritable ha hasked' hrender hreplace =>
      obtain ⟨hanswer, rfl⟩ := hasked ha hasked'
      rw [targetPath_of_analyze ha] at hreplace
      simp only [ha, hanswer, Bool.false_eq_true, if_false, hrender, hreplace, targetPath_of_analyze ha]
  | generated ha hasked' hrender hreplace hrecord =>
      obtain ⟨hanswer, rfl⟩ := hasked ha hasked'
      obtain rfl := disk_of_record (state.report _) hmode hrecord
      rw [targetPath_of_analyze ha] at hreplace
      simp only [ha, hanswer, Bool.false_eq_true, if_false, hrender, hreplace, targetPath_of_analyze ha]

theorem attempt_of_processAll {rest : List Subject} {outcomes : List (String × Outcome)}
    (hquiet : disk.refusals = [])
    (hmode : ∀ known, state.store = some known → known.mode = .onFlush)
    (h : processAll (m := StateM Disk) config (s :: rest) state disk = ((outcomes, state'), changed)) :
    ∃ between more, (∃ entries, between.store =
        state.store.map fun known => { known with entries := entries }) ∧
      (∀ id, id ≠ s.qualifiedName → knownDigest between.store id = knownDigest state.store id) ∧
      outcomes =
        (s.qualifiedName, (attempt config s (isKnown config state.store s) disk).1) :: more ∧
      processAll (m := StateM Disk) config rest between
        (attempt config s (isKnown config state.store s) disk).2 = ((more, state'), changed) := by
  obtain ⟨outcome, between, written, more, hprocess, hrest, rfl⟩ := exists_of_processAll_cons h
  obtain ⟨hentries, hdigest⟩ := store_of_process hmode hprocess
  rw [attempt_of_process hquiet hmode hprocess]
  exact ⟨between, more, hentries, hdigest, rfl, hrest⟩

theorem ends_attempt (known : Bool) : Ends s (attempt config s known disk).1 := by
  unfold attempt
  cases ha : s.analyze with
  | error r => exact .rejected ha
  | ok analysis =>
      dsimp only
      split
      · exact .done ha rfl rfl
      · split
        · exact .failed ha nofun
        · split
          · exact .failed ha nofun
          · exact .done ha rfl rfl

/-! ## The file of a subject -/

theorem exists_route (hs : IsAddress s.package s.name) (hfirm : disk.IsFirm config.output) :
    ∃ p there names, s.targetPath config.output = p.join (Fake.fileName s.name) ∧
      disk.Route p there names ∧ there ++ names = s.directory config.output disk.home := by
  obtain ⟨there, names, hroute⟩ := hfirm.exists_route
  refine ⟨_, there, _, rfl, hroute.joinAll (Blueprint.isPlain_of_mem_packageDirs hs.package), ?_⟩
  rw [Subject.directory, hroute.place_eq, List.append_assoc]

theorem touches_attempt (hs : IsAddress s.package s.name) (htree : disk.IsTree)
    (hfirm : disk.IsFirm config.output) (hquiet : disk.refusals = []) (known : Bool) :
    Touches (s.directory config.output disk.home) (Fake.fileName s.name) disk
      (attempt config s known disk).2 := by
  obtain ⟨p, there, names, hpath, hroute, hdirectory⟩ := exists_route hs hfirm
  have hname := Blueprint.isPlain_fileName hs.name
  have hreplace {text : String} {result : Except FileFault Unit} {written : Disk}
      (h : (FileSystem.replaceCleanly (m := StateM Disk) (s.targetPath config.output) text).run disk =
        (result, written)) :
      Touches (s.directory config.output disk.home) (Fake.fileName s.name) disk written := by
    rw [hpath] at h
    exact hdirectory ▸ touches_of_replaceCleanly hname hroute htree hquiet h
  unfold attempt
  split
  · exact .rfl htree hquiet
  · dsimp only
    split
    · exact .rfl htree hquiet
    · split
      · exact .rfl htree hquiet
      · split
        · next hdone => exact hreplace hdone
        · next hdone => exact hreplace hdone

/-- An attempt has the same outcome on a disk that is ahead, and its change is repeated there. -/
theorem attempt_repeats (hs : IsAddress s.package s.name) (htree : disk.IsTree)
    (hfirm : disk.IsFirm config.output) (hquiet : disk.refusals = []) (htree' : ahead.IsTree)
    (hquiet' : ahead.refusals = []) (hkeeps : KeepsDirectories disk ahead)
    (hahead : Ahead (s.directory config.output disk.home) (Fake.fileName s.name) disk ahead)
    (known : Bool) :
    (attempt config s known ahead).1 = (attempt config s known disk).1 ∧
      Repeats disk (attempt config s known disk).2 ahead (attempt config s known ahead).2 := by
  obtain ⟨p, there, names, hpath, hroute, hdirectory⟩ := exists_route hs hfirm
  have hname := Blueprint.isPlain_fileName hs.name
  rw [← hdirectory] at hahead
  have hpresent := hasFile_of_ahead hname hroute htree hkeeps (hahead.own _ (.inl rfl))
  have hreplace := replaceCleanly_repeats hname hroute htree hquiet htree' hquiet' hkeeps hahead
  unfold attempt
  rw [hpath]
  split
  · exact ⟨rfl, .rfl⟩
  · dsimp only
    rw [hpresent]
    split
    · exact ⟨rfl, .rfl⟩
    · split
      · exact ⟨rfl, .rfl⟩
      · next file _ =>
          obtain ⟨hresult, hrepeats⟩ := hreplace file.text
          cases hdone : (FileSystem.replaceCleanly (m := StateM Disk) (p.join (Fake.fileName s.name))
              file.text).run disk with
          | mk result written =>
              cases hdone' : (FileSystem.replaceCleanly (m := StateM Disk)
                  (p.join (Fake.fileName s.name)) file.text).run ahead with
              | mk result' written' =>
                  rw [hdone, hdone'] at hresult hrepeats
                  obtain rfl : result' = result := hresult
                  cases result' with
                  | error fault => exact ⟨rfl, hrepeats⟩
                  | ok _ => exact ⟨rfl, hrepeats⟩

end Pass

end KotlinFakes
