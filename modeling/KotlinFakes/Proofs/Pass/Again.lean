import KotlinFakes.Proofs.Files.Draft
import KotlinFakes.Proofs.Pass.Attempt
import KotlinFakes.Proofs.Store.Reload

/-!
# Passes that are run again

After a pass in which no operation failed, a second one over the same subjects finds everything as it
is to be: it generates nothing and leaves all files as they are. Its outcomes are known from the first
pass.
-/

namespace KotlinFakes

open Disk

theorem Disk.hasFile_of_text {disk : Disk} {path : Path} {text : String}
    (h : disk.text path = .ok text) : disk.hasFile path := by
  obtain ⟨node, hfind, h⟩ := exists_of_bind_eq_ok h
  cases node with
  | directory => cases h
  | file content => simp [hasFile, hfind]

namespace Pass

variable {config : Config} {s : Subject} {store : Option SignatureStore} {state state' final : State}
  {disk changed : Disk} {cache : Path}

/-- The settings of a pass with which nothing is generated again that is up to date. -/
def Config.unforced (config : Config) : Config := { config with isForced := false }

/-- The outcome of a subject in a second pass, from its outcome in the first one, the store that this
    one began with and the disk that it left. A failure is repeated, unless the store knew the subject
    although it has no file. -/
def again (config : Config) (store : Option SignatureStore) (disk : Disk) (s : Subject) :
    Outcome → Outcome
  | .generated path | .upToDate path => .upToDate path
  | .skipped reason => .skipped reason
  | .failed failure =>
    if isKnown config store s && disk.hasFile (s.targetPath config.output) then
      .upToDate (s.targetPath config.output)
    else .failed failure

/-! ## One subject -/

theorem isKnown_iff (hgood : ∀ known, store = some known → known.isDegraded = false)
    {analysis : Analysis} (ha : s.analyze = .ok analysis) :
    isKnown config store s = true ↔
      knownDigest store s.qualifiedName = some (signatureOf config analysis.blueprint).digest := by
  rw [isKnown, ha]
  cases store with
  | none => simp [State.isCurrent, knownDigest]
  | some known =>
      simp [State.isCurrent, SignatureStore.needsGeneration, hgood known rfl, knownDigest]

theorem attempt_of_isKnown (hforced : config.isForced = false) {analysis : Analysis}
    (ha : s.analyze = .ok analysis) (hfile : disk.hasFile (s.targetPath config.output)) :
    attempt config s true disk = (.upToDate (s.targetPath config.output), disk) := by
  simp only [attempt, ha, hforced, hfile]
  rfl

theorem attempt_again {between next : State} {reached written : Disk} {outcome : Outcome}
    (hs : IsAddress s.package s.name) (happart : Apart config disk.home store)
    (hgood : ∀ known, store = some known → known.isDegraded = false)
    (hgood' : ∀ known, final.store = some known → known.isDegraded = false)
    (hstore : final.store.isSome) (hbefore : Untouched config s store between.store disk reached)
    (hprocess : process (m := StateM Disk) config s between reached = ((outcome, next), written))
    (hafter : Untouched config s next.store final.store written changed)
    (hkept : KeepsDirectories written changed)
    (hwritable : ∀ path fault, outcome ≠ .failed (.unwritable path fault)) :
    attempt config.unforced s (isKnown config final.store s) changed =
      (again config store changed s outcome, changed) := by
  have hfile (hpresent : written.hasFile (s.targetPath config.output)) :
      changed.hasFile (s.targetPath config.output) := by
    obtain ⟨content, hcontent⟩ := exists_file?_of_hasFile hpresent
    exact hkept.hasFile hpresent (hafter.file.trans hcontent)
  cases process_exit hprocess with
  | rejected ha =>
      have hagain (r : Rejection) (ha : s.analyze = .error r) :
          again config store changed s (rejectedOutcome r) = rejectedOutcome r := by
        unfold rejectedOutcome
        split
        · rfl
        · simp [again, isKnown, ha]
      rw [hagain _ ha]
      simp only [attempt, ha]
  | upToDate ha hasked =>
      obtain ⟨hcurrent, hpresent⟩ := (isUpToDate_spec hasked).2 rfl
      rw [targetPath_of_analyze ha] at hpresent ⊢
      obtain ⟨known, hknown, -, hdigest⟩ := exists_store_of_isCurrent hcurrent
      have hagain : isKnown config final.store s = true := by
        rw [isKnown_iff hgood' ha, hafter.digest, ← id_of_analyze ha, knownDigest, hknown]
        exact hdigest
      rw [hagain]
      exact attempt_of_isKnown rfl ha (hfile hpresent)
  | @unrenderable analysis _ e ha hasked hrender =>
      have hsame : isKnown config final.store s = isKnown config store s := by
        rw [Bool.eq_iff_iff, isKnown_iff hgood' ha, isKnown_iff hgood ha, hafter.digest]
        exact hbefore.digest ▸ Iff.rfl
      rw [hsame]
      cases hknown : isKnown config store s && changed.hasFile (s.targetPath config.output) with
      | true =>
          rw [Bool.and_eq_true] at hknown
          rw [hknown.1, again, hknown.1, hknown.2]
          exact attempt_of_isKnown rfl ha hknown.2
      | false =>
          have hrender : FakeFile.generate config.unforced.fileOptions analysis.blueprint = .error e :=
            hrender
          have hoff : (!config.unforced.isForced && isKnown config store s &&
              changed.hasFile (s.targetPath config.unforced.output)) = false := hknown
          simp only [attempt, ha, hoff, hrender, again, hknown]
          rfl
  | unwritable => exact absurd rfl (hwritable _ _)
  | generated ha hasked hrender hreplace hrecord =>
      obtain ⟨analysis, file, ha', -, hpath, hpresent, -, hdigest⟩ :=
        (generated_of_process hs (hbefore.apart happart) hprocess).of_untouched hafter hkept
      have hagain : isKnown config final.store s = true := by
        rw [isKnown_iff hgood' ha']
        exact hdigest hstore
      rw [hagain, hpath]
      exact attempt_of_isKnown rfl ha' (hpath ▸ hpresent)

theorem again_isGenerated (outcome : Outcome) :
    (again config store disk s outcome).isGenerated = false := by
  cases outcome with
  | generated path | upToDate path | skipped reason => rfl
  | failed failure =>
      simp only [again]
      split <;> rfl

/-! ## All subjects -/

theorem Step.store_of_not_generated {outcome : Outcome} {store' : Option SignatureStore}
    (h : Step config s store disk outcome store' changed) (hnot : outcome.isGenerated = false) :
    store' = store := by
  cases h with
  | rejected | upToDate | failed => rfl
  | generated => cases hnot

theorem processAll_of_attempts {subjects : List Subject} {outcomes : List (String × Outcome)}
    (hquiet : disk.refusals = [])
    (hmode : ∀ known, state.store = some known → known.mode = .onFlush)
    (hstill : ∀ s ∈ subjects, ∀ outcome changed,
      attempt config s (isKnown config state.store s) disk = (outcome, changed) →
        outcome.isGenerated = false ∧ changed = disk)
    (h : processAll (m := StateM Disk) config subjects state disk = ((outcomes, state'), changed)) :
    outcomes = subjects.map (fun s =>
        (s.qualifiedName, (attempt config s (isKnown config state.store s) disk).1)) ∧
      state'.store = state.store ∧ changed = disk := by
  induction subjects generalizing state outcomes with
  | nil =>
      obtain ⟨hresult, rfl⟩ := Prod.mk.inj h
      obtain ⟨rfl, rfl⟩ := Prod.mk.inj hresult
      exact ⟨rfl, rfl, rfl⟩
  | cons s rest ih =>
      obtain ⟨outcome, between, written, more, hprocess, hrest, rfl⟩ := exists_of_processAll_cons h
      have hattempt := attempt_of_process hquiet hmode hprocess
      obtain ⟨hnot, rfl⟩ := hstill s (by simp) _ _ hattempt
      have hstore := (process_step hprocess).store_of_not_generated hnot
      rw [← hstore] at hmode hstill ⊢
      obtain ⟨rfl, hfinal, rfl⟩ :=
        ih hmode (fun s hs => hstill s (List.mem_cons_of_mem _ hs)) hrest
      refine ⟨?_, hfinal, rfl⟩
      rw [List.map_cons, hstore, hattempt]

/-! ## Stores -/

/-- Whether a store belongs to a file, which it saves as a whole, and can be read again from there. -/
def Lasting (cache : Path) (store : Option SignatureStore) : Prop :=
  ∃ known, store = some known ∧ known.path = cache ∧ known.mode = .onFlush ∧
    known.entries.IsReadable

theorem Lasting.step {outcome : Outcome} {store' : Option SignatureStore} (hs : IsAddress s.package s.name)
    (h : Lasting cache store) (hstep : Step config s store disk outcome store' changed) :
    Lasting cache store' := by
  cases hstep with
  | rejected | upToDate | failed => exact h
  | generated hr hrender hfiles hfile hrecord =>
      obtain ⟨known, rfl, hpath, hmode, hreadable⟩ := h
      obtain ⟨hnone, -⟩ | ⟨before, remembered, hbefore, rfl, hrecord⟩ := hrecord
      · cases hnone
      · obtain rfl := Option.some.inj hbefore
        obtain ⟨hpath', hmode', hentries, -⟩ := SignatureStore.record_spec hrecord
        refine ⟨remembered, rfl, hpath'.trans hpath, hmode'.trans hmode, ?_⟩
        rw [hentries, (request?_spec hr).2]
        exact hreadable.insert (Entries.isTidy_within hs.package hs.name _).isEntry

theorem Lasting.processAll {subjects : List Subject} {outcomes : List (String × Outcome)}
    (haddress : ∀ s ∈ subjects, IsAddress s.package s.name) (h : Lasting cache store)
    (hprocess : processAll (m := StateM Disk) config subjects (.start store) disk =
      ((outcomes, state), changed)) : Lasting cache state.store :=
  processAll_induction (fun _ store _ => Lasting cache store)
    (fun s hs _ _ _ _ _ _ hlasting hstep => hlasting.step (haddress s hs) hstep) hprocess [] h

theorem Lasting.apart {home : Place} (h : Lasting cache store)
    (houtside : ¬ config.output.place home <+: cache.place home) : Apart config home store := by
  obtain ⟨known, rfl, rfl, -⟩ := h
  intro known' hknown
  obtain rfl := Option.some.inj hknown
  exact houtside

theorem lasting_of_openStore {loaded : Disk} (hcache : config.cache = some cache)
    (hmode : config.mode = .onFlush) (hopen : config.openStore (m := StateM Disk) disk = (store, loaded)) :
    SameFilesBut [] disk loaded ∧ Lasting cache store := by
  unfold Config.openStore at hopen
  rw [hcache] at hopen
  obtain ⟨known, between, hload, hopen⟩ := exists_of_bind hopen
  obtain ⟨rfl, rfl⟩ := Prod.mk.inj hopen
  obtain ⟨hfiles, hpath, hmode', -⟩ := SignatureStore.load_spec hload
  exact ⟨hfiles, known, rfl, hpath, hmode'.trans hmode, SignatureStore.isReadable_of_load hload⟩

/-- A store that was saved at the end of a pass is loaded as it is. -/
structure Saved (cache : Path) (store : Option SignatureStore) (disk : Disk) (known : SignatureStore) :
    Prop where
  store_eq : store = some known
  known_eq : known = { SignatureStore.fresh cache .onFlush with entries := known.entries }
  text : disk.text cache = .ok known.entries.render
  readable : known.entries.IsReadable

theorem Lasting.finish (h : Lasting cache state.store)
    (hfinish : finish (m := StateM Disk) state disk = (final, changed))
    (hgood : ∀ known, final.store = some known → known.isDegraded = false) :
    ∃ known, Saved cache final.store changed known := by
  obtain ⟨known, hstore, hpath, hmode, hreadable⟩ := h
  obtain ⟨hnone, -⟩ | ⟨known', saved, result, hknown, hsaved, hflush⟩ := finish_cases hfinish
  · rw [hstore] at hnone
    cases hnone
  · obtain rfl := Option.some.inj (hstore.symm.trans hknown)
    have hmode' : known.takeErrors.2.mode = .onFlush := hmode
    have hgood := hgood saved hsaved
    obtain ⟨rfl, htext⟩ := SignatureStore.flush_onFlush hmode' hflush (.inr hgood)
    obtain ⟨path, mode, entries, isDegraded, errors⟩ := known
    obtain rfl : path = cache := hpath
    obtain rfl : mode = .onFlush := hmode
    obtain rfl : isDegraded = false := hgood
    exact ⟨_, hsaved, rfl, htext, hreadable⟩

namespace Saved

variable {known : SignatureStore}

theorem mode (h : Saved cache store disk known) :
    ∀ known', store = some known' → known'.mode = .onFlush := by
  intro known' hknown'
  obtain rfl := Option.some.inj (h.store_eq.symm.trans hknown')
  rw [h.known_eq]
  rfl

theorem openStore (h : Saved cache store disk known) (hquiet : disk.refusals = [])
    (hcache : config.cache = some cache) (hmode : config.mode = .onFlush) :
    config.openStore (m := StateM Disk) disk = (store, disk) := by
  have hload : SignatureStore.load (m := StateM Disk) cache .onFlush disk = _ :=
    SignatureStore.load_quiet hquiet
  rw [h.text, SignatureStore.ofRead, Entries.parse_render h.readable, ← h.known_eq] at hload
  unfold Config.openStore
  rw [hcache, hmode, h.store_eq]
  simp only [bind, StateT.bind, hload]
  rfl

theorem finish (h : Saved cache state.store disk known)
    (hfinish : finish (m := StateM Disk) state disk = (final, changed)) :
    changed.file? (cache.place disk.home) = disk.file? (cache.place disk.home) ∧
      ∀ directory : Place, ¬ directory <+: cache.place disk.home → ∀ names, names ≠ [] →
        changed.file? (directory ++ names) = disk.file? (directory ++ names) := by
  have hthere := hasFile_of_text h.text
  obtain ⟨hnone, -⟩ | ⟨known', saved, result, hknown, hsaved, hflush⟩ := finish_cases hfinish
  · rw [h.store_eq] at hnone
    cases hnone
  · obtain rfl := Option.some.inj (h.store_eq.symm.trans hknown)
    have hmode : known.takeErrors.2.mode = .onFlush := by rw [h.known_eq]; rfl
    have hpath : known.takeErrors.2.path = cache := by rw [h.known_eq]; rfl
    obtain ⟨replaced, hreplace, -⟩ := SignatureStore.flush_cases hmode hflush
    rw [hpath] at hreplace
    have hreplaces := FileSystem.replaceText_spec hreplace
    have hcache : changed.file? (cache.place disk.home) = disk.file? (cache.place disk.home) := by
      by_cases hok : replaced = .ok ()
      · exact (hreplaces.written hok).trans (file?_of_text h.text).symm
      · refine (hreplaces.kept hok).files _ ?_
        rw [List.mem_singleton]
        exact place_ne_draft_of_hasFile hthere
    refine ⟨hcache, fun directory houtside names hne => ?_⟩
    by_cases hsame : directory ++ names = cache.place disk.home
    · rw [hsame, hcache]
    · refine hreplaces.files.files _ ?_
      simp only [List.mem_cons, List.not_mem_nil, or_false, not_or]
      exact ⟨hsame, draft_outside_of_hasFile hthere houtside hne⟩

end Saved

/-! ## Whole passes -/

theorem exists_report_of_run {subjects : List Subject} {report : Report}
    (h : run (m := StateM Disk) config store subjects disk = ((.ok report, final), changed))
    {config' : Config} (houtput : config'.output = config.output)
    (hmarker : config'.marker = config.marker) (store' : Option SignatureStore) (disk' : Disk) :
    ∃ report' final' changed',
      run (m := StateM Disk) config' store' subjects disk' = ((.ok report', final'), changed') := by
  refine exists_report_iff.2 ?_
  rw [annotated, houtput, hmarker]
  exact exists_report_iff.1 ⟨report, final, changed, h⟩

/-- Whether no operation on files failed in a pass, neither on the file of the store nor on that of a
    subject. -/
structure Undisturbed (store : Option SignatureStore) (report : Report) (final : State) : Prop where
  loaded : ∀ known, store = some known → known.isDegraded = false
  written : ∀ entry ∈ report.outcomes, ∀ path fault, entry.2 ≠ .failed (.unwritable path fault)
  saved : ∀ known, final.store = some known → known.isDegraded = false

theorem attempt_of_mem_zip {subjects : List Subject} {outcomes : List (String × Outcome)}
    {middle : Disk} (haddress : ∀ s ∈ subjects, IsAddress s.package s.name)
    (hdistinct : (subjects.map Subject.qualifiedName).Nodup) (happart : Apart config disk.home store)
    (h : processAll (m := StateM Disk) config subjects (.start store) disk =
      ((outcomes, state), middle))
    (hfinish : Pass.finish (m := StateM Disk) state middle = (final, changed))
    (hgood : Undisturbed store ⟨outcomes⟩ final) (hstore : final.store.isSome)
    {name : String} {outcome : Outcome} (hentry : (s, name, outcome) ∈ subjects.zip outcomes) :
    name = s.qualifiedName ∧
      attempt config.unforced s (isKnown config final.store s) changed =
        (again config store changed s outcome, changed) := by
  have hs := (List.of_mem_zip hentry).1
  obtain ⟨between, reached, outcome', next, written, hzip, hbefore, hprocess, hafter, hkept⟩ :=
    exists_passage haddress hdistinct happart h hfinish hs
  have hsame := eq_of_mem_zip hdistinct h hzip hentry rfl
  simp only [Prod.mk.injEq] at hsame
  obtain ⟨-, rfl, rfl⟩ := hsame
  exact ⟨rfl, attempt_again (haddress _ hs) happart hgood.loaded hgood.saved hstore hbefore hprocess
    hafter hkept (hgood.written _ (List.of_mem_zip hentry).2)⟩

/-- What a second pass comes to as a whole. It generates nothing and leaves the disk as it is. -/
theorem attempts_again {subjects : List Subject} {outcomes : List (String × Outcome)}
    (hlength : subjects.length = outcomes.length)
    (hattempt : ∀ s name outcome, (s, name, outcome) ∈ subjects.zip outcomes →
      name = s.qualifiedName ∧
        attempt config.unforced s (isKnown config final.store s) changed =
          (again config store changed s outcome, changed)) :
    (∀ s ∈ subjects, ∀ outcome disk',
      attempt config.unforced s (isKnown config final.store s) changed = (outcome, disk') →
        outcome.isGenerated = false ∧ disk' = changed) ∧
    subjects.map (fun s => (s.qualifiedName,
        (attempt config.unforced s (isKnown config final.store s) changed).1)) =
      (subjects.zip outcomes).map fun entry =>
        (entry.2.1, again config store changed entry.1 entry.2.2) := by
  have hsubjects : (subjects.zip outcomes).map Prod.fst = subjects :=
    List.map_fst_zip (Nat.le_of_eq hlength)
  constructor
  · intro s hs outcome disk' hresult
    rw [← hsubjects, List.mem_map] at hs
    obtain ⟨⟨_, name, first⟩, hentry, rfl⟩ := hs
    obtain ⟨rfl, rfl⟩ := Prod.mk.inj ((hattempt _ _ _ hentry).2.symm.trans hresult)
    exact ⟨again_isGenerated first, rfl⟩
  · conv_lhs => rw [← hsubjects, List.map_map]
    refine List.map_congr_left fun ⟨s, name, first⟩ hentry => ?_
    obtain ⟨rfl, hsecond⟩ := hattempt _ _ _ hentry
    simp only [Function.comp_apply, hsecond]

/-- After an undisturbed pass the store is loaded as it is, and a second pass over the same subjects,
    which is not forced, generates nothing: what was generated or up to date is up to date, what was
    skipped is skipped, and a failure is repeated, unless the store had known the subject beforehand.
    The file of the store and all files in the output directory stay as they are. -/
theorem run_again {subjects : List Subject} {report : Report} {loaded : Disk}
    (hcache : config.cache = some cache) (hmode : config.mode = .onFlush)
    (haddress : ∀ s ∈ annotated config subjects, IsAddress s.package s.name)
    (hdistinct : ((annotated config subjects).map Subject.qualifiedName).Nodup)
    (houtside : ¬ config.output.place disk.home <+: cache.place disk.home)
    (hopen : config.openStore (m := StateM Disk) disk = (store, loaded))
    (h : run (m := StateM Disk) config store subjects loaded = ((.ok report, final), changed))
    (hgood : Undisturbed store report final) (hquiet : changed.refusals = []) :
    config.unforced.openStore (m := StateM Disk) changed = (final.store, changed) ∧
    ∃ final' changed',
      run (m := StateM Disk) config.unforced final.store subjects changed =
        ((.ok ⟨((annotated config subjects).zip report.outcomes).map fun entry =>
          (entry.2.1, again config store changed entry.1 entry.2.2)⟩, final'), changed') ∧
      changed'.file? (cache.place disk.home) = changed.file? (cache.place disk.home) ∧
      ∀ names, names ≠ [] → changed'.file? (config.output.place disk.home ++ names) =
        changed.file? (config.output.place disk.home ++ names) := by
  obtain ⟨hfiles, hlasting⟩ := lasting_of_openStore hcache hmode hopen
  rw [← hfiles.home] at houtside ⊢
  obtain ⟨e, herror, -⟩ | ⟨outcomes, state, middle, hprocess, hreport, hfinish⟩ := run_cases h
  · cases herror
  obtain rfl := Except.ok.inj hreport
  -- The first pass leaves a store that has its own text in its file.
  obtain ⟨known, hsaved⟩ := (hlasting.processAll haddress hprocess).finish hfinish hgood.saved
  have hstore : final.store.isSome := by rw [hsaved.store_eq]; rfl
  obtain ⟨hstill, houtcomes⟩ := attempts_again (processAll_reports hprocess).1.length_eq
    fun s name outcome => attempt_of_mem_zip haddress hdistinct (hlasting.apart houtside) hprocess
      hfinish hgood hstore
  refine ⟨hsaved.openStore hquiet hcache hmode, ?_⟩
  -- The second pass finds all as it is to be, and saves what is saved already.
  obtain ⟨report', final', changed', hrun⟩ :=
    exists_report_of_run h (rfl : config.unforced.output = _) rfl final.store changed
  obtain ⟨e, herror, -⟩ | ⟨outcomes', state', middle', hprocess', hreport', hfinish'⟩ := run_cases hrun
  · cases herror
  obtain rfl := Except.ok.inj hreport'
  have hmode' : ∀ known', (State.start final.store).store = some known' → known'.mode = .onFlush :=
    hsaved.mode
  obtain ⟨rfl, hsame, rfl⟩ := processAll_of_attempts hquiet hmode' hstill hprocess'
  have hsaved' : Saved cache state'.store middle' known := by rw [hsame]; exact hsaved
  obtain ⟨hfile, hother⟩ := hsaved'.finish hfinish'
  rw [((processAll_steady hprocess).trans (finish_steady hfinish)).home] at hfile hother
  refine ⟨final', changed', ?_, hfile, hother _ houtside⟩
  rw [hrun, ← houtcomes]
  rfl

/-- A pass with the store of the file `cache`. -/
def cachedConfig (output : String) : Config :=
  { Config.standard with output := ⟨output⟩, cache := some ⟨"cache"⟩ }

/-- An interface that declares a function twice. -/
def doubled : Subject :=
  let f : Subject.Function :=
    { name := "f"
      typeParams := []
      parameters := []
      result := .ofClass "kotlin.Unit" [] false
      isSuspend := false
      isInline := false
      modality := .abstract
      origin := .declared }
  { bare "Box" .interface with members := [.function f, .function f] }

theorem isDegraded_of_map (h : store.map SignatureStore.isDegraded = some false) :
    ∀ known, store = some known → known.isDegraded = false := by
  rintro known rfl
  exact Option.some.inj h

theorem eq_ok_of_toOption {result : Except Error Report} {outcomes : List (String × Outcome)}
    (h : result.toOption.map Report.outcomes = some outcomes) : result = .ok ⟨outcomes⟩ := by
  cases result with
  | error e => cases h
  | ok report =>
      obtain rfl := Option.some.inj h
      rfl

/-- What cannot be rendered fails again, what was generated is up to date, and what was skipped is
    skipped. -/
theorem run_again_bare :
    let config := cachedConfig "out"
    let subjects := [bare "Clock" .interface, doubled, bare "Color" .enumClass]
    let skipped := Outcome.skipped (Rejection.unsupportedShape "app.Color" .enumClass).message
    let failed := Outcome.failed (.unrenderable (.duplicateFunction "app.Box" "f"))
    ∃ final changed,
      run (m := StateM Disk) config (some bareStore) subjects (.empty ["work"]) =
        ((.ok ⟨[("app.Clock", .generated ⟨"out/app/FakeClockImpl.kt"⟩), ("app.Box", failed),
          ("app.Color", skipped)]⟩, final), changed) ∧
      config.openStore (m := StateM Disk) changed = (final.store, changed) ∧
      ∃ final' changed', run (m := StateM Disk) config final.store subjects changed =
        ((.ok ⟨[("app.Clock", .upToDate ⟨"out/app/FakeClockImpl.kt"⟩), ("app.Box", failed),
          ("app.Color", skipped)]⟩, final'), changed') ∧
      changed'.file? ["work", "cache"] = changed.file? ["work", "cache"] ∧
      ∀ names, names ≠ [] →
        changed'.file? (["work", "out"] ++ names) = changed.file? (["work", "out"] ++ names) := by
  intro config subjects skipped failed
  have hchosen : annotated config subjects = subjects := rfl
  have hopen : config.openStore (m := StateM Disk) (.empty ["work"]) =
      (some bareStore, .empty ["work"]) := rfl
  obtain ⟨⟨⟨result, final⟩, changed⟩, hrun⟩ : ∃ ended,
      run (m := StateM Disk) config (some bareStore) subjects (.empty ["work"]) = ended := ⟨_, rfl⟩
  have hall : (
      let first := run (m := StateM Disk) config (some bareStore) subjects (.empty ["work"])
      (first.1.2.store.map SignatureStore.isDegraded = some false ∧ first.2.refusals = [] ∧
        first.2.hasFile ⟨"out/app/FakeBoxImpl.kt"⟩ = false) ∧
      first.1.1.toOption.map Report.outcomes = some
        [("app.Clock", .generated ⟨"out/app/FakeClockImpl.kt"⟩), ("app.Box", failed),
          ("app.Color", skipped)]) := by
    decide +kernel
  simp only [hrun] at hall
  obtain ⟨⟨hsaved, hquiet, hnone⟩, hfirst⟩ := hall
  obtain rfl := eq_ok_of_toOption hfirst
  have haddress : ∀ s ∈ subjects, IsAddress s.package s.name := by
    intro s hs
    obtain rfl | rfl | rfl : s = bare "Clock" .interface ∨ s = doubled ∨ s = bare "Color" .enumClass := by
      simpa [subjects] using hs
    all_goals exact ⟨by decide, by decide⟩
  obtain ⟨hreopen, final', changed', hagain, hcache, hfiles⟩ :=
    run_again rfl rfl (hchosen ▸ haddress) (hchosen ▸ by decide) (by decide +kernel) hopen hrun
      { loaded := isDegraded_of_map rfl
        written := by simp [failed, skipped]
        saved := isDegraded_of_map hsaved } hquiet
  have hplaces : config.output.place ["work"] = ["work", "out"] ∧
      (Path.mk "cache").place ["work"] = ["work", "cache"] := by decide +kernel
  have hhome : (Disk.empty ["work"]).home = ["work"] := rfl
  rw [hhome, hplaces.1] at hfiles
  rw [hhome, hplaces.2] at hcache
  have hfailed : again config (some bareStore) changed doubled failed = failed := by
    have hpath : doubled.targetPath config.output = ⟨"out/app/FakeBoxImpl.kt"⟩ := by decide +kernel
    simp [again, failed, hpath, hnone]
  refine ⟨final, changed, hrun, hreopen, final', changed', hagain.trans ?_, hcache, hfiles⟩
  rw [hchosen]
  change ((Except.ok (Report.mk [_, ("app.Box", again config (some bareStore) changed doubled failed), _]),
    final'), changed') = _
  rw [hfailed]
  rfl

/-- A disk with a file for an interface `Box` and its digest, as the file of a store has it. -/
def boxDisk : Disk where
  home := ["work"]
  nodes :=
    [(["work", "out"], .directory), (["work", "out", "app"], .directory),
      (["work", "out", "app", "FakeBoxImpl.kt"], .file .empty),
      (["work", "cache"], .file
        "app.Box=e072eb569b90521282ee3342232b909f7dc27d5f2d8b1acefc2e2517e86ee816\n".toUTF8)]
  refusals := []

/-- A subject that has no file of its own fails at first. It is up to date as soon as its path leads to a
    file: the output path does not lead anywhere until a directory is made for another subject. -/
theorem exists_not_again :
    let subjects := [doubled, bare "Clock" .interface]
    let config := cachedConfig "m/../out"
    ((∀ s ∈ subjects, IsAddress s.package s.name) ∧ (subjects.map Subject.qualifiedName).Nodup ∧
      ¬ config.output.place boxDisk.home <+: (Path.mk "cache").place boxDisk.home) ∧
    ∃ store loaded report final changed report' final' changed',
      config.openStore (m := StateM Disk) boxDisk = (store, loaded) ∧
      run (m := StateM Disk) config store subjects loaded = ((.ok report, final), changed) ∧
      Undisturbed store report final ∧ changed.refusals = [] ∧
      run (m := StateM Disk) config final.store subjects changed = ((.ok report', final'), changed') ∧
      report.outcomes =
        [("app.Box", .failed (.unrenderable (.duplicateFunction "app.Box" "f"))),
          ("app.Clock", .generated ⟨"m/../out/app/FakeClockImpl.kt"⟩)] ∧
      report'.outcomes =
        [("app.Box", .upToDate ⟨"m/../out/app/FakeBoxImpl.kt"⟩),
          ("app.Clock", .upToDate ⟨"m/../out/app/FakeClockImpl.kt"⟩)] := by
  intro subjects config
  refine ⟨⟨?_, by decide, by decide +kernel⟩, ?_⟩
  · intro s hs
    obtain rfl | rfl : s = doubled ∨ s = bare "Clock" .interface := by simpa [subjects] using hs
    all_goals exact ⟨by decide, by decide⟩
  obtain ⟨⟨store, loaded⟩, hopen⟩ : ∃ opened, config.openStore (m := StateM Disk) boxDisk = opened :=
    ⟨_, rfl⟩
  obtain ⟨⟨⟨result, final⟩, changed⟩, hrun⟩ : ∃ ended,
      run (m := StateM Disk) config store subjects loaded = ended := ⟨_, rfl⟩
  obtain ⟨⟨⟨result', final'⟩, changed'⟩, hrun'⟩ : ∃ ended,
      run (m := StateM Disk) config final.store subjects changed = ended := ⟨_, rfl⟩
  have hall : (
      let opened := config.openStore (m := StateM Disk) boxDisk
      let first := run (m := StateM Disk) config opened.1 subjects opened.2
      let second := run (m := StateM Disk) config first.1.2.store subjects first.2
      (opened.1.map SignatureStore.isDegraded = some false ∧
        first.1.2.store.map SignatureStore.isDegraded = some false ∧ first.2.refusals = []) ∧
      first.1.1.toOption.map Report.outcomes = some
        [("app.Box", .failed (.unrenderable (.duplicateFunction "app.Box" "f"))),
          ("app.Clock", .generated ⟨"m/../out/app/FakeClockImpl.kt"⟩)] ∧
      second.1.1.toOption.map Report.outcomes = some
        [("app.Box", .upToDate ⟨"m/../out/app/FakeBoxImpl.kt"⟩),
          ("app.Clock", .upToDate ⟨"m/../out/app/FakeClockImpl.kt"⟩)]) := by
    decide +kernel
  simp only [hopen, hrun, hrun'] at hall
  obtain ⟨⟨hloaded, hsaved, hquiet⟩, hfirst, hsecond⟩ := hall
  obtain rfl := eq_ok_of_toOption hfirst
  obtain rfl := eq_ok_of_toOption hsecond
  refine ⟨store, loaded, _, final, changed, _, final', changed', hopen, hrun, ?_, hquiet, hrun', rfl, rfl⟩
  exact
    { loaded := isDegraded_of_map hloaded
      written := by simp
      saved := isDegraded_of_map hsaved }

end Pass

end KotlinFakes
