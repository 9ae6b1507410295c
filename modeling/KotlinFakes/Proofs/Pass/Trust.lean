import KotlinFakes.Proofs.Pass.Session
import KotlinFakes.Proofs.Store.Tidy

/-!
# Trusted entries

The invariant behind skipping: whenever an entry is the digest of a request, the file of the request is
missing or holds just its text. It is kept while files are written and recorded, and it survives in
the file of the store as long as the store can be saved.
-/

namespace KotlinFakes.Pass

open Disk

/-- Whether entries can be trusted: a request whose digest they have is renderable, and if its file is
    there, it holds the text of the request. -/
structure Trusted (home : Place) (output : Path) (requests : List Request) (entries : Entries)
    (disk : Disk) : Prop where
  ascending : entries.Ascending
  tidy : entries.AllTidy
  fresh : ∀ r ∈ requests, entries.get? r.id = some r.signature.digest →
    r.blueprint.renderError? = none ∧
      ∀ content, disk.file? ((r.path output).place home) = some content →
        content = r.text.toUTF8

/-- Whether the file of the store holds whole lines with entries that can be trusted. A missing file
    holds none. -/
def CacheTrusted (home : Place) (output cache : Path) (requests : List Request) (disk : Disk) :
    Prop :=
  ∃ text, (disk.file? (cache.place home)).getD .empty = text.toUTF8 ∧ Entries.EndsLine text ∧
    Trusted home output requests (.parse text) disk

variable {home : Place} {output cache : Path} {requests : List Request} {disk changed : Disk}

theorem trusted_empty : Trusted home output requests .empty disk :=
  ⟨List.Pairwise.nil, by simp [Entries.AllTidy, Entries.empty], fun _ _ h => nomatch h⟩

theorem cacheTrusted_of_missing (h : disk.file? (cache.place home) = none) :
    CacheTrusted home output cache requests disk := by
  refine ⟨"", ?_, .inl rfl, trusted_empty⟩
  rw [h]
  rfl

theorem Trusted.same {entries : Entries} {touched : List Place}
    (h : Trusted home output requests entries disk) (hfiles : SameFilesBut touched disk changed)
    (htouched : ∀ r ∈ requests, (r.path output).place home ∉ touched) :
    Trusted home output requests entries changed := by
  refine ⟨h.ascending, h.tidy, fun r hr hget => ?_⟩
  rw [hfiles.files _ (htouched r hr)]
  exact h.fresh r hr hget

theorem CacheTrusted.same {touched : List Place}
    (h : CacheTrusted home output cache requests disk) (hfiles : SameFilesBut touched disk changed)
    (hcache : cache.place home ∉ touched)
    (htouched : ∀ r ∈ requests, (r.path output).place home ∉ touched) :
    CacheTrusted home output cache requests changed := by
  obtain ⟨text, hfile, hlines, htrusted⟩ := h
  refine ⟨text, ?_, hlines, htrusted.same hfiles htouched⟩
  rw [hfiles.files _ hcache, hfile]

theorem Trusted.insert {entries : Entries} {r : Request} {touched : List Place}
    (hsetting : Setting home output cache requests) (hfree : CollisionFree requests)
    (h : Trusted home output requests entries disk) (hr : r ∈ requests)
    (hrender : r.blueprint.renderError? = none)
    (hfile : changed.file? ((r.path output).place home) = some r.text.toUTF8)
    (hfiles : SameFilesBut touched disk changed)
    (htouched : ∀ r' ∈ requests, r'.id ≠ r.id → (r'.path output).place home ∉ touched) :
    Trusted home output requests (entries.insert r.id r.signature.digest) changed := by
  refine ⟨h.ascending.insert _ _, h.tidy.insert ((hsetting.wellNamed r hr).isTidy _),
    fun r' hr' hget => ?_⟩
  rw [Entries.get?_insert] at hget
  split at hget
  · -- The entry is the new one, so that it is the request itself that is asked about.
    obtain rfl := hsetting.eq_of_digest_eq hfree hr hr' (Option.some.inj hget)
    refine ⟨hrender, fun content hcontent => ?_⟩
    rw [hfile] at hcontent
    exact (Option.some.inj hcontent).symm
  · next hne =>
      rw [hfiles.files _ (htouched r' hr' hne)]
      exact h.fresh r' hr' hget

/-! ## Stores -/

/-- Whether the entries of a store can be trusted, and also those in its file if they are put there one
    by one. After a failure to put them there, nothing is said about the file. -/
structure StoreTrusted (home : Place) (output cache : Path) (requests : List Request)
    (store : SignatureStore) (disk : Disk) : Prop where
  path_eq : store.path = cache
  entries : Trusted home output requests store.entries disk
  file : store.mode = .perEntry → store.isDegraded = false →
    CacheTrusted home output cache requests disk

theorem storeTrusted_of_load {mode : PersistMode} {store : SignatureStore}
    (hhome : disk.home = home) (h : CacheTrusted home output cache requests disk)
    (hload : SignatureStore.load (m := StateM Disk) cache mode disk = (store, changed)) :
    SameFilesBut [] disk changed ∧ StoreTrusted home output cache requests store changed := by
  obtain ⟨hfiles, hpath, -, hentries⟩ := SignatureStore.load_spec hload
  have hcache := h.same hfiles (by simp) (by simp)
  refine ⟨hfiles, hpath, ?_, fun _ _ => hcache⟩
  obtain hempty | ⟨text, hparse, hfile⟩ := hentries
  · rw [hempty]
    exact trusted_empty
  · obtain ⟨written, hwritten, -, htrusted⟩ := hcache
    rw [hfiles.files _ (by simp), ← hhome, hfile] at hwritten
    obtain rfl : text = written := String.toByteArray_inj.1 hwritten
    rwa [hparse]

theorem StoreTrusted.record {known remembered : SignatureStore} {r : Request} {written : Disk}
    (hsetting : Setting home output cache requests) (hfree : CollisionFree requests)
    (hhome : disk.home = home) (h : StoreTrusted home output cache requests known disk)
    (hr : r ∈ requests)
    (hrender : r.blueprint.renderError? = none)
    (hfiles : SameFilesBut [(r.path output).place home, (r.path output).draft.place home] disk
      written)
    (hfile : written.file? ((r.path output).place home) = some r.text.toUTF8)
    (hrecord : known.record (m := StateM Disk) r.id r.signature written = (remembered, changed)) :
    StoreTrusted home output cache requests remembered changed := by
  obtain ⟨hpath, hmode, hentries, hdegraded, hcache, happended⟩ :=
    SignatureStore.record_spec hrecord
  rw [h.path_eq, hfiles.home, hhome] at hcache happended
  obtain ⟨htouched, hnew⟩ := hsetting.files_of_record hr hfiles hfile hcache
  have hother : ∀ r' ∈ requests, r'.id ≠ r.id → (r'.path output).place home ∉
      [(r.path output).place home, (r.path output).draft.place home, cache.place home] :=
    fun _ hr' hne => hsetting.place_not_mem_recorded hr hr' hne
  refine ⟨hpath.trans h.path_eq, ?_, fun hper hgood => ?_⟩
  · rw [hentries]
    exact h.entries.insert hsetting hfree hr hrender hnew htouched hother
  · -- The file of the store has got the same entry as the memory.
    have hper := hmode ▸ hper
    obtain ⟨text, htext, hlines, htrusted⟩ := h.file hper (hdegraded hgood)
    obtain ⟨above, habove, happended⟩ := happended hper hgood
    have hold : written.file? (cache.place home) = disk.file? (cache.place home) := by
      refine hfiles.files _ ?_
      simp only [List.mem_cons, List.not_mem_nil, or_false, not_or]
      exact ⟨(hsetting.place_ne_cache hr).symm, (hsetting.place_draft_ne_cache hr).symm⟩
    have htidy : Entries.IsTidy r.id r.signature.digest :=
      (hsetting.wellNamed r hr).isTidy r.signature
    rw [hold, htext] at happended
    refine ⟨text ++ (above ++ Entries.line r.id r.signature.digest), ?_, ?_, ?_⟩
    · rw [happended]
      simp [String.toByteArray_append]
    · rw [← String.append_assoc]
      exact Entries.endsLine_append_line _ _ _
    · have hparse : Entries.parse (text ++ (above ++ Entries.line r.id r.signature.digest)) =
          (Entries.parse text).insert r.id r.signature.digest := by
        rw [← String.append_assoc]
        obtain rfl | rfl := habove
        · rw [String.append_empty]
          exact Entries.parse_append_line hlines htidy.isEntry
        · rw [Entries.parse_append_line (Entries.endsLine_append_header text) htidy.isEntry,
            Entries.parse_append_header hlines]
      rw [hparse]
      exact htrusted.insert hsetting hfree hr hrender hnew htouched hother

theorem StoreTrusted.same {known : SignatureStore} {touched : List Place}
    (h : StoreTrusted home output cache requests known disk)
    (hfiles : SameFilesBut touched disk changed) (hcache : cache.place home ∉ touched)
    (htouched : ∀ r ∈ requests, (r.path output).place home ∉ touched) :
    StoreTrusted home output cache requests known changed :=
  ⟨h.path_eq, h.entries.same hfiles htouched,
    fun hper hgood => (h.file hper hgood).same hfiles hcache htouched⟩

/-! ## Passes -/

/-- A pass whose store can be trusted. -/
def PassTrusted (home : Place) (output cache : Path) (requests : List Request)
    (store : Option SignatureStore) (disk : Disk) : Prop :=
  disk.home = home ∧ ∃ known, store = some known ∧
    StoreTrusted home output cache requests known disk

theorem PassTrusted.content_eq {store : Option SignatureStore} {known : SignatureStore}
    {r : Request} {content : ByteArray} (h : PassTrusted home output cache requests store disk)
    (hstore : store = some known) (hr : r ∈ requests)
    (hdigest : known.digest? r.id = some r.signature.digest)
    (hfile : disk.file? ((r.path output).place disk.home) = some content) :
    r.blueprint.renderError? = none ∧ content = r.text.toUTF8 := by
  obtain ⟨rfl, known', hstore', htrusted⟩ := h
  obtain rfl := Option.some.inj (hstore.symm.trans hstore')
  exact (htrusted.entries.fresh r hr hdigest).imp_right fun hcontent => hcontent content hfile

/-- No step of a pass takes the trust away. -/
theorem PassTrusted.step {config : Config} {s : Subject} {store recorded : Option SignatureStore}
    {outcome : Outcome} (hsetting : Setting home config.output cache requests)
    (hfree : CollisionFree requests)
    (hs : ∀ r, request? config s = some r → r ∈ requests)
    (h : PassTrusted home config.output cache requests store disk)
    (hstep : Step config s store disk outcome recorded changed) :
    PassTrusted home config.output cache requests recorded changed := by
  obtain ⟨hhome, known, rfl, htrusted⟩ := h
  cases hstep with
  | rejected r => exact ⟨hhome, known, rfl, htrusted⟩
  | upToDate hr hstore hdegraded hdigest hfiles hfile =>
      exact ⟨hfiles.home.trans hhome, known, rfl, htrusted.same hfiles (by simp) (by simp)⟩
  | failed failure hr hfiles =>
      rw [hhome] at hfiles
      refine ⟨hfiles.home.trans hhome, known, rfl, htrusted.same hfiles ?_ fun r' hr' => ?_⟩
      · simpa using (hsetting.place_draft_ne_cache (hs _ hr)).symm
      · simpa using hsetting.place_ne_draft hr' _
  | generated hr hrender hfiles hfile hrecord =>
      obtain ⟨hnone, -⟩ | ⟨store, remembered, hstore, rfl, hrecord⟩ := hrecord
      · cases hnone
      · obtain rfl := Option.some.inj hstore
        rw [hhome] at hfiles hfile
        obtain ⟨-, -, -, -, hrecorded, -⟩ := SignatureStore.record_spec hrecord
        refine ⟨hrecorded.home.trans (hfiles.home.trans hhome), remembered, rfl, ?_⟩
        exact htrusted.record hsetting hfree hhome (hs _ hr) hrender hfiles hfile hrecord

theorem StoreTrusted.flush {known saved : SignatureStore} {result : Except StoreError Unit}
    (hsetting : Setting home output cache requests) (hhome : disk.home = home)
    (h : StoreTrusted home output cache requests known disk)
    (hflush : known.flush (m := StateM Disk) disk = ((result, saved), changed))
    (hgood : saved.isDegraded = false) : CacheTrusted home output cache requests changed := by
  obtain ⟨hfiles, hdegraded, hper, hflushed⟩ := SignatureStore.flush_spec hflush
  cases hmode : known.mode with
  | perEntry => exact (h.file hmode (hdegraded hgood)).same (hper hmode) (by simp) (by simp)
  | onFlush =>
      have hfile := hflushed hmode hgood
      rw [h.path_eq, hhome] at hfile hfiles
      refine ⟨known.entries.render, by rw [hfile]; rfl, Entries.endsLine_render _, ?_⟩
      rw [Entries.parse_render ⟨h.entries.ascending, fun entry hentry =>
        (h.entries.tidy entry hentry).isEntry⟩]
      exact h.entries.same hfiles fun _ hr => hsetting.place_not_mem_saved hr

theorem PassTrusted.processAll {config : Config} {subjects : List Subject} {state state' : State}
    {outcomes : List (String × Outcome)} (hsetting : Setting home config.output cache requests)
    (hfree : CollisionFree requests)
    (hsubjects : ∀ s ∈ subjects, ∀ r, request? config s = some r → r ∈ requests)
    (h : PassTrusted home config.output cache requests state.store disk)
    (hrun : processAll (m := StateM Disk) config subjects state disk =
      ((outcomes, state'), changed)) :
    PassTrusted home config.output cache requests state'.store changed :=
  processAll_induction (fun _ => PassTrusted home config.output cache requests)
    (fun s hs _ _ _ _ _ _ htrusted hstep => htrusted.step hsetting hfree (hsubjects s hs) hstep)
    hrun [] h

theorem passTrusted_of_open {config : Config} {store : Option SignatureStore}
    (hcache : config.cache = some cache) (hhome : disk.home = home)
    (h : CacheTrusted home output cache requests disk)
    (hopen : config.openStore (m := StateM Disk) disk = (store, changed)) :
    SameFilesBut [] disk changed ∧ PassTrusted home output cache requests store changed := by
  unfold Config.openStore at hopen
  rw [hcache] at hopen
  obtain ⟨known, loaded, hload, hopen⟩ := exists_of_bind hopen
  obtain ⟨rfl, rfl⟩ := Prod.mk.inj hopen
  obtain ⟨hfiles, htrusted⟩ := storeTrusted_of_load hhome h hload
  exact ⟨hfiles, hfiles.home.trans hhome, known, rfl, htrusted⟩

/-- The file of the store can be trusted after a pass, unless the store of the pass is degraded. -/
theorem CacheTrusted.run {job : Job} {result : Result}
    (hsetting : Setting home output cache requests) (hfree : CollisionFree requests)
    (hrequests : job.requests ⊆ requests)
    (houtput : job.config.output = output) (hcache : job.config.cache = some cache)
    (hhome : disk.home = home) (h : CacheTrusted home output cache requests disk)
    (hrun : job.run disk = (result, changed))
    (hgood : ∀ saved, result.2.store = some saved → saved.isDegraded = false) :
    changed.home = home ∧ CacheTrusted home output cache requests changed := by
  subst houtput
  obtain ⟨result, final⟩ := result
  obtain ⟨store, loaded, hopen, hrun⟩ := exists_of_bind hrun
  obtain ⟨hfiles, hpass⟩ := passTrusted_of_open hcache hhome h hopen
  obtain ⟨e, -, -, rfl⟩ | ⟨outcomes, state, between, hprocess, -, hfinish⟩ := run_cases hrun
  · exact ⟨hpass.1, h.same hfiles (by simp) (by simp)⟩
  · obtain ⟨hbetween, known, hstore, htrusted⟩ := hpass.processAll hsetting hfree
      (fun s hs r hr => hrequests (Job.mem_requests hs hr)) hprocess
    obtain ⟨hnone, -⟩ | ⟨known', saved, flushed, hstore', hfinal, hflush⟩ := finish_cases hfinish
    · rw [hstore] at hnone
      cases hnone
    · obtain rfl := Option.some.inj (hstore.symm.trans hstore')
      have htaken : StoreTrusted home job.config.output cache requests known.takeErrors.2 between :=
        ⟨htrusted.path_eq, htrusted.entries, htrusted.file⟩
      obtain ⟨hsaved, -⟩ := SignatureStore.flush_spec hflush
      exact ⟨hsaved.home.trans hbetween,
        htaken.flush hsetting hbetween hflush (hgood saved hfinal)⟩

/-! ## Moments -/

namespace Moment

variable {t : Moment}

theorem Regular.passTrusted (h : t.Regular output cache) (hfree : CollisionFree t.requests)
    (horder : t.InOrder) :
    PassTrusted t.start.home output cache t.requests t.reached.1.2.store t.reached.2 := by
  obtain ⟨hhome, hbegun⟩ := runAll_induction (fun _ disk => disk.home = t.start.home ∧
    CacheTrusted t.start.home output cache t.requests disk) (by
      rintro job hjob result hresult - disk changed ⟨hhome, htrusted⟩ hrun
      have hjob : job ∈ t.jobs := List.mem_append_left _ hjob
      exact htrusted.run h.setting hfree (requests_subset hjob) (h.outputs job hjob)
        (h.caches job hjob) hhome hrun (horder result hresult)) t.begun_eq []
    ⟨rfl, cacheTrusted_of_missing h.noCache⟩
  obtain ⟨-, hloaded⟩ := passTrusted_of_open (h.caches _ job_mem_jobs) hhome hbegun t.loaded_eq
  have hsetting := h.setting
  obtain rfl := h.outputs _ job_mem_jobs
  exact PassTrusted.processAll hsetting hfree (fun s hs r hr => request_mem_requests (.inl hs) hr)
    hloaded t.reached_eq

/-- What a hit rests on: the store is in order and knows the digest of the request, whose file is there
    already and stays as it is. -/
theorem Regular.hit (h : t.Regular output cache) {path : Path} (hhit : t.outcome = .upToDate path) :
    ∃ analysis r known content, t.subject.analyze = .ok analysis ∧
      r = ⟨t.job.config.fileOptions, analysis.blueprint⟩ ∧ r ∈ t.requests ∧
      path = analysis.blueprint.targetPath output ∧
      t.reached.1.2.store = some known ∧ known.isDegraded = false ∧
      known.digest? r.id = some r.signature.digest ∧
      t.reached.2.file? ((r.path output).place t.reached.2.home) = some content ∧
      ∀ text, content = text.toUTF8 ↔ t.disk.text path = .ok text := by
  obtain ⟨r, known, hr, rfl, hstore, hgood, hdigest, hfiles, hfile⟩ :=
    (process_step t.next_eq).of_upToDate hhit
  obtain ⟨content, hplace⟩ := exists_file?_of_hasFile hfile
  obtain ⟨analysis, hanalysis, rfl⟩ := exists_of_request? hr
  rw [h.outputs _ job_mem_jobs] at hfile hplace ⊢
  refine ⟨analysis, _, known, content, hanalysis, rfl, request_mem_requests (.inr rfl) hr, rfl,
    hstore, hgood, hdigest, ?_, fun text => ⟨?_, fun htext => ?_⟩⟩
  · rw [← hfiles.files _ (by simp), ← hfiles.home, hplace]
  · rintro rfl
    exact text_of_hasFile hfile hplace
  · rw [file?_of_text htext] at hplace
    exact (Option.some.inj hplace).symm

/-- A subject that is found to be up to date has just the file that would be generated for it, as
    long as no earlier pass has failed to read or write its store. The report of the pass says so. -/
theorem text_of_upToDate (h : t.Regular output cache) (hfree : CollisionFree t.requests)
    (horder : t.InOrder) {path : Path} (hhit : t.outcome = .upToDate path) :
    (∃ analysis file, t.subject.analyze = .ok analysis ∧
      FakeFile.generate t.job.config.fileOptions analysis.blueprint = .ok file ∧
      path = analysis.blueprint.targetPath output ∧ t.disk.text path = .ok file.text) ∧
    ∀ report final changed, t.job.run t.begun = ((.ok report, final), changed) →
      (t.subject.qualifiedName, .upToDate path) ∈ report.outcomes := by
  refine ⟨?_, fun report final changed hrun => ?_⟩
  · obtain ⟨analysis, r, known, content, hanalysis, rfl, hr, rfl, hstore, -, hdigest, hplace,
      htext⟩ := h.hit hhit
    obtain ⟨hrender, hcontent⟩ := (h.passTrusted hfree horder).content_eq hstore hr hdigest hplace
    refine ⟨analysis, _, hanalysis, ?_, rfl, (htext _).1 hcontent⟩
    rw [FakeFile.generate, hrender]
  · rw [← hhit]
    exact outcome_mem_report hrun

end Moment

/-- An interface `Clock` with some members. -/
def clock (members : List Subject.Member) : Subject where
  package := ""
  name := "Clock"
  shape := .interface
  typeParams := []
  members
  annotations := ["Fake"]
  requiredArguments := 0
  sourceFile := none

/-- A property `now : Int`. -/
def nowProperty : Subject.Member :=
  .property
    { name := "now"
      getterType := some (.ofClass "kotlin.Int" [] false)
      fieldType := none
      isMutable := false
      modality := .abstract
      origin := .declared }

/-- A pass that writes below `out` and has its store in the file `cache`. -/
def storedJob (isForced : Bool) (subjects : List Subject) : Job where
  config := { Config.standard with output := ⟨"out"⟩, cache := some ⟨"cache"⟩, isForced }
  subjects

namespace Moment

/-- A member is added between the first two passes, and the third one comes to the same subject as
    the second. -/
def renewed : Moment where
  start := .empty ["work"]
  earlier := [storedJob false [clock []], storedJob false [clock [nowProperty]]]
  job := storedJob false [clock [nowProperty]]
  before := []
  subject := clock [nowProperty]
  after := []
  subjects_eq := rfl

theorem collisionFree_renewed : CollisionFree renewed.requests := by
  obtain ⟨old, new, hrequests, hdigest⟩ : ∃ old new, renewed.requests = [old, new, new] ∧
      old.signature.digest ≠ new.signature.digest := ⟨_, _, rfl, by decide +kernel⟩
  intro r h r' h' heq
  rw [hrequests] at h h'
  simp only [List.mem_cons, List.not_mem_nil, or_false, or_self] at h h'
  obtain rfl | rfl := h <;> obtain rfl | rfl := h'
  · rfl
  · exact absurd heq hdigest
  · exact absurd heq.symm hdigest
  · rfl

theorem regular_renewed : renewed.Regular ⟨"out"⟩ ⟨"cache"⟩ := by
  have hjobs : renewed.jobs = [storedJob false [clock []], storedJob false [clock [nowProperty]],
      storedJob false [clock [nowProperty]]] := rfl
  exact
    { outputs := by rw [hjobs]; simp [storedJob]
      caches := by rw [hjobs]; simp [storedJob]
      apart := by decide
      noCache := file?_of_no_nodes rfl _
      noFiles := fun _ _ => file?_of_no_nodes rfl _
      wellNamed := by rw [hjobs]; decide }

/-- How the passes end. They are run in one evaluation, as each of them starts where the one before
    has ended. -/
theorem passes_renewed :
    (renewed.results.map fun result => result.2.store.map SignatureStore.isDegraded) =
        [some false, some false] ∧
      renewed.outcome = .upToDate ⟨"out/FakeClockImpl.kt"⟩ ∧
      (renewed.job.run renewed.begun).1.1.isOk := by
  decide +kernel

theorem inOrder_renewed : renewed.InOrder := by
  intro result hresult saved hsaved
  have hends := List.mem_map_of_mem (f := fun result : Result =>
    result.2.store.map SignatureStore.isDegraded) hresult
  rw [passes_renewed.1] at hends
  simpa [hsaved] using hends

/-- The third pass finds the file of the second one by the digest in the file of the store. -/
theorem text_of_upToDate_renewed :
    ∃ analysis file report final changed, renewed.subject.analyze = .ok analysis ∧
      FakeFile.generate ⟨true⟩ analysis.blueprint = .ok file ∧
      renewed.disk.text ⟨"out/FakeClockImpl.kt"⟩ = .ok file.text ∧
      renewed.job.run renewed.begun = ((.ok report, final), changed) ∧
      ("Clock", .upToDate ⟨"out/FakeClockImpl.kt"⟩) ∈ report.outcomes := by
  obtain ⟨-, hhit, hends⟩ := passes_renewed
  obtain ⟨⟨analysis, file, hanalysis, hfile, -, htext⟩, hreports⟩ :=
    text_of_upToDate regular_renewed collisionFree_renewed inOrder_renewed hhit
  obtain ⟨⟨⟨result, final⟩, changed⟩, hrun⟩ : ∃ third, renewed.job.run renewed.begun = third :=
    ⟨_, rfl⟩
  rw [hrun] at hends
  cases result with
  | error e => cases hends
  | ok report =>
      exact ⟨analysis, file, report, final, changed, hanalysis, hfile, htext, hrun,
        hreports report final changed hrun⟩

end Moment

end KotlinFakes.Pass
