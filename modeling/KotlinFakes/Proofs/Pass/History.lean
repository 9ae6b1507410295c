import KotlinFakes.Proofs.Pass.Trust

/-!
# Histories

Whatever fails in a session, the file of a declaration holds what was generated for it last. A store
that could not be saved may lead a later pass to take an older signature for the present one, and then
the two are not the same.
-/

namespace KotlinFakes.Pass

open Disk

/-- What was generated last for a declaration. -/
def latest? (id : String) (made : List Request) : Option Request :=
  made.reverse.find? fun r => r.id = id

theorem latest?_append (id : String) (before after : List Request) :
    latest? id (before ++ after) = (latest? id after).or (latest? id before) := by
  rw [latest?, List.reverse_append, List.find?_append]
  rfl

theorem latest?_singleton (id : String) (r : Request) :
    latest? id [r] = if r.id = id then some r else none := by
  by_cases h : r.id = id <;> simp [latest?, h]

theorem mem_of_latest? {id : String} {made : List Request} {r : Request}
    (h : latest? id made = some r) : r ∈ made ∧ r.id = id :=
  ⟨List.mem_reverse.1 (List.mem_of_find?_eq_some h), by simpa using List.find?_some h⟩

theorem generated_eq_nil {config : Config} {s : Subject} {outcome : Outcome}
    (h : outcome.isGenerated = false) : generated config s outcome = [] := by
  rw [generated, h, if_neg Bool.false_ne_true]

/-! ## Files -/

/-- Whether the file of each request holds what was generated last for its declaration. -/
structure Written (home : Place) (output : Path) (requests made : List Request) (disk : Disk) :
    Prop where
  home_eq : disk.home = home
  files : ∀ r ∈ requests, disk.file? ((r.path output).place home) =
    (latest? r.id made).map fun g => g.text.toUTF8

variable {home : Place} {output cache : Path} {requests made : List Request} {disk changed : Disk}

theorem Written.same {touched : List Place} (h : Written home output requests made disk)
    (hfiles : SameFilesBut touched disk changed)
    (htouched : ∀ r ∈ requests, (r.path output).place home ∉ touched) :
    Written home output requests made changed :=
  ⟨hfiles.home.trans h.home_eq,
    fun r hr => (hfiles.files _ (htouched r hr)).trans (h.files r hr)⟩

theorem Written.generated {r : Request} {touched : List Place}
    (hsetting : Setting home output cache requests) (h : Written home output requests made disk)
    (hr : r ∈ requests) (hfiles : SameFilesBut touched disk changed)
    (hfile : changed.file? ((r.path output).place home) = some r.text.toUTF8)
    (htouched : ∀ r' ∈ requests, r'.id ≠ r.id → (r'.path output).place home ∉ touched) :
    Written home output requests (made ++ [r]) changed := by
  refine ⟨hfiles.home.trans h.home_eq, fun r' hr' => ?_⟩
  rw [latest?_append, latest?_singleton]
  by_cases hid : r'.id = r.id
  · have hpath : r'.path output = r.path output :=
      (hsetting.wellNamed r' hr').targetPath_eq_of_id_eq (hsetting.wellNamed r hr) hid
    rw [hpath, hfile, if_pos hid.symm]
    rfl
  · rw [hfiles.files _ (htouched r' hr' hid), h.files r' hr', if_neg (Ne.symm hid), Option.none_or]

/-! ## Passes -/

/-- Whether a pass has written what it has generated, and has recorded the digests over those that it
    had loaded. -/
structure Recorded (home : Place) (output cache : Path) (requests past : List Request)
    (loaded : SignatureStore) (made : List Request) (store : Option SignatureStore) (disk : Disk) :
    Prop where
  written : Written home output requests (past ++ made) disk
  known : ∃ known, store = some known ∧ known.path = cache ∧ ∀ id, known.digest? id =
    ((latest? id made).map fun g => g.signature.digest).or (loaded.digest? id)

theorem Recorded.step {config : Config} {s : Subject} {past : List Request} {loaded : SignatureStore}
    {store recorded : Option SignatureStore} {outcome : Outcome}
    (hsetting : Setting home config.output cache requests)
    (hs : ∀ r, request? config s = some r → r ∈ requests)
    (h : Recorded home config.output cache requests past loaded made store disk)
    (hstep : Step config s store disk outcome recorded changed) :
    Recorded home config.output cache requests past loaded (made ++ generated config s outcome)
      recorded changed := by
  obtain ⟨hwritten, hknown⟩ := h
  have hhome := hwritten.home_eq
  cases hstep with
  | rejected r =>
      have hrejected : (rejectedOutcome r).isGenerated = false := by
        obtain ⟨_, hr⟩ | ⟨_, hr⟩ := rejectedOutcome_cases r <;> rw [hr] <;> rfl
      rw [generated_eq_nil hrejected, List.append_nil]
      exact ⟨hwritten, hknown⟩
  | upToDate hr hstore hdegraded hdigest hfiles hfile =>
      rw [generated_eq_nil rfl, List.append_nil]
      exact ⟨hwritten.same hfiles (by simp), hknown⟩
  | failed failure hr hfiles =>
      rw [hhome] at hfiles
      rw [generated_eq_nil rfl, List.append_nil]
      exact ⟨hwritten.same hfiles fun r' hr' => by simpa using hsetting.place_ne_draft hr' _, hknown⟩
  | @generated r written _ _ hr hrender hfiles hfile hrecord =>
      obtain ⟨known, rfl, hpath, hdigests⟩ := hknown
      have hmade : generated config s (.generated (r.path config.output)) = [r] := by
        rw [generated, hr]
        rfl
      have hmem := hs r hr
      rw [hhome] at hfiles hfile
      obtain ⟨hnone, -⟩ | ⟨known', remembered, hstore, rfl, hrecord⟩ := hrecord
      · cases hnone
      · obtain rfl := Option.some.inj hstore
        obtain ⟨hpath', -, hentries, -, hcache, -⟩ := SignatureStore.record_spec hrecord
        rw [hpath, hfiles.home, hhome] at hcache
        obtain ⟨htouched, hnew⟩ := hsetting.files_of_record hmem hfiles hfile hcache
        rw [hmade]
        refine ⟨?_, remembered, rfl, hpath'.trans hpath, fun id => ?_⟩
        · rw [← List.append_assoc]
          exact hwritten.generated hsetting hmem htouched hnew fun _ hr' hne =>
            hsetting.place_not_mem_recorded hmem hr' hne
        · rw [SignatureStore.digest?, hentries, Entries.get?_insert, latest?_append,
            latest?_singleton]
          by_cases hid : id = r.id
          · rw [if_pos hid, if_pos hid.symm]
            rfl
          · rw [if_neg hid, if_neg (Ne.symm hid), Option.none_or]
            exact hdigests id

theorem Recorded.processAll {config : Config} {subjects : List Subject} {state state' : State}
    {outcomes : List (String × Outcome)} {past : List Request} {loaded : SignatureStore}
    (hsetting : Setting home config.output cache requests)
    (hsubjects : ∀ s ∈ subjects, ∀ r, request? config s = some r → r ∈ requests)
    (h : Recorded home config.output cache requests past loaded [] state.store disk)
    (hrun : processAll (m := StateM Disk) config subjects state disk =
      ((outcomes, state'), changed)) :
    Recorded home config.output cache requests past loaded (generations config subjects outcomes)
      state'.store changed :=
  processAll_induction (Recorded home config.output cache requests past loaded)
    (fun s hs _ _ _ _ _ _ hrecorded hstep => hrecorded.step hsetting (hsubjects s hs) hstep) hrun
    [] h

theorem recorded_of_open {config : Config} {store : Option SignatureStore}
    (hcache : config.cache = some cache) (h : Written home output requests made disk)
    (hopen : config.openStore (m := StateM Disk) disk = (store, changed)) :
    ∃ loaded, store = some loaded ∧
      Recorded home output cache requests made loaded [] store changed := by
  unfold Config.openStore at hopen
  rw [hcache] at hopen
  obtain ⟨loaded, between, hload, hopen⟩ := exists_of_bind hopen
  obtain ⟨rfl, rfl⟩ := Prod.mk.inj hopen
  obtain ⟨hfiles, hpath, -, -⟩ := SignatureStore.load_spec hload
  refine ⟨loaded, rfl, ?_, loaded, rfl, hpath, fun id => rfl⟩
  rw [List.append_nil]
  exact h.same hfiles (by simp)

/-- After a pass the files are those that were generated last, whatever has failed. -/
theorem Written.run {job : Job} {result : Result}
    (hsetting : Setting home output cache requests) (hrequests : job.requests ⊆ requests)
    (houtput : job.config.output = output) (hcache : job.config.cache = some cache)
    (h : Written home output requests made disk) (hrun : job.run disk = (result, changed)) :
    Written home output requests (made ++ job.generations result) changed := by
  subst houtput
  obtain ⟨result, final⟩ := result
  obtain ⟨store, begun, hopen, hrun⟩ := exists_of_bind hrun
  obtain ⟨loaded, rfl, hrecorded⟩ := recorded_of_open hcache h hopen
  obtain ⟨e, rfl, -, rfl⟩ | ⟨outcomes, state, between, hprocess, rfl, hfinish⟩ := run_cases hrun
  · exact hrecorded.written
  · obtain ⟨hwritten, known, hstore, hpath, -⟩ := hrecorded.processAll hsetting
      (fun s hs r hr => hrequests (Job.mem_requests hs hr)) hprocess
    obtain ⟨hnone, -⟩ | ⟨known', saved, flushed, hstore', -, hflush⟩ := finish_cases hfinish
    · rw [hstore] at hnone
      cases hnone
    · obtain rfl := Option.some.inj (hstore.symm.trans hstore')
      obtain ⟨hfiles, -⟩ := SignatureStore.flush_spec hflush
      have hsame : known.takeErrors.2.path = cache := hpath
      rw [hsame, hwritten.home_eq] at hfiles
      exact hwritten.same hfiles fun _ hr => hsetting.place_not_mem_saved hr

/-! ## Moments -/

namespace Moment

variable {t : Moment}

theorem Regular.recorded (h : t.Regular output cache) :
    ∃ loaded, t.loaded.1 = some loaded ∧
      Recorded t.start.home output cache t.requests t.past loaded t.present t.reached.1.2.store
        t.reached.2 := by
  have hstart : Written t.start.home output t.requests [] t.start := by
    refine ⟨rfl, fun r hr => ?_⟩
    have hprefix : output.place t.start.home <+: (r.path output).place t.start.home :=
      (h.setting.wellNamed r hr).prefix_place
    rw [h.noFiles _ hprefix]
    rfl
  have hbegun : Written t.start.home output t.requests ([] ++ t.past) t.begun := by
    refine runAll_induction (Written t.start.home output t.requests) ?_ t.begun_eq [] hstart
    rintro job hjob result - made disk changed hwritten hrun
    have hjob : job ∈ t.jobs := List.mem_append_left _ hjob
    exact hwritten.run h.setting (requests_subset hjob) (h.outputs job hjob) (h.caches job hjob) hrun
  rw [List.nil_append] at hbegun
  obtain ⟨loaded, hloaded, hrecorded⟩ :=
    recorded_of_open (h.caches _ job_mem_jobs) hbegun t.loaded_eq
  have hsetting := h.setting
  obtain rfl := h.outputs _ job_mem_jobs
  exact ⟨loaded, hloaded, Recorded.processAll hsetting
    (fun s hs r hr => request_mem_requests (.inl hs) hr) hrecorded t.reached_eq⟩

/-- At a hit the file holds what was generated last. -/
theorem Regular.hit_latest (h : t.Regular output cache) {path : Path}
    (hhit : t.outcome = .upToDate path) {analysis : Analysis}
    (hanalysis : t.subject.analyze = .ok analysis) :
    ∃ g, latest? analysis.blueprint.id (t.past ++ t.present) = some g ∧
      t.disk.text path = .ok g.text := by
  obtain ⟨analysis', r, known, content, hanalysis', rfl, hmem, rfl, -, -, -, hplace, htext⟩ :=
    h.hit hhit
  obtain rfl := Except.ok.inj (hanalysis.symm.trans hanalysis')
  obtain ⟨loaded, -, hwritten, -⟩ := h.recorded
  rw [hwritten.home_eq, hwritten.files _ hmem] at hplace
  obtain ⟨g, hlatest, rfl⟩ := Option.map_eq_some_iff.1 hplace
  exact ⟨g, hlatest, (htext g.text).1 rfl⟩

theorem Regular.hit_present (h : t.Regular output cache) (hfree : CollisionFree t.requests)
    {path : Path} (hhit : t.outcome = .upToDate path) {analysis : Analysis} {g : Request}
    (hanalysis : t.subject.analyze = .ok analysis)
    (hlatest : latest? analysis.blueprint.id t.present = some g) :
    g = ⟨t.job.config.fileOptions, analysis.blueprint⟩ := by
  obtain ⟨analysis', r, known, content, hanalysis', rfl, hmem, -, hstore, -, hdigest, -⟩ := h.hit hhit
  obtain rfl := Except.ok.inj (hanalysis.symm.trans hanalysis')
  obtain ⟨loaded, -, -, known', hstore', -, hdigests⟩ := h.recorded
  obtain rfl := Option.some.inj (hstore.symm.trans hstore')
  obtain ⟨s, hs, hg⟩ := exists_of_mem_generations (mem_of_latest? hlatest).1
  have hid : (⟨t.job.config.fileOptions, analysis.blueprint⟩ : Request).id = analysis.blueprint.id :=
    rfl
  rw [hdigests, hid, hlatest] at hdigest
  exact h.setting.eq_of_digest_eq hfree (request_mem_requests (.inl hs) hg) hmem
    (Option.some.inj hdigest)

/-- A hit is right if and only if the file that was generated last for the declaration is the one that
    would be generated now. It is never a store that has failed which hits, but one that was loaded
    after a failure: a wrong hit comes from a pass that ended with its store degraded, and is about a
    declaration that was not generated since the store was loaded. -/
theorem upToDate_iff_latest (h : t.Regular output cache) (hfree : CollisionFree t.requests)
    {path : Path} (hhit : t.outcome = .upToDate path) {analysis : Analysis} {file : FakeFile}
    (hanalysis : t.subject.analyze = .ok analysis)
    (hfile : FakeFile.generate t.job.config.fileOptions analysis.blueprint = .ok file) :
    path = analysis.blueprint.targetPath output ∧
      (∃ known, t.reached.1.2.store = some known ∧ known.isDegraded = false) ∧
      (t.disk.text path = .ok file.text ↔
        (latest? analysis.blueprint.id (t.past ++ t.present)).map Request.text = some file.text) ∧
      (t.disk.text path ≠ .ok file.text →
        latest? analysis.blueprint.id t.present = none ∧ ¬t.InOrder) := by
  obtain ⟨analysis', r, known, content, hanalysis', rfl, hmem, hpath, hstore, hgood, hdigest,
    hplace, htext⟩ := h.hit hhit
  obtain rfl := Except.ok.inj (hanalysis.symm.trans hanalysis')
  obtain ⟨g, hlatest, hg⟩ := h.hit_latest hhit hanalysis
  have hnew := Request.text_eq_of_generate hfile
  refine ⟨hpath, ⟨known, hstore, hgood⟩, ?_, fun hstale => ⟨?_, fun horder => ?_⟩⟩
  · rw [hlatest, hg, Option.map_some, Except.ok.injEq, Option.some.injEq]
  · cases hpresent : latest? analysis.blueprint.id t.present with
    | none => rfl
    | some g' =>
        have hg' := h.hit_present hfree hhit hanalysis hpresent
        rw [latest?_append, hpresent, hg'] at hlatest
        obtain rfl := Option.some.inj hlatest
        exact absurd (hg.trans (congrArg Except.ok hnew)) hstale
  · obtain ⟨-, hcontent⟩ := (h.passTrusted hfree horder).content_eq hstore hmem hdigest hplace
    exact hstale (((htext _).1 hcontent).trans (congrArg Except.ok hnew))

/-- The hit after a member was added is right, as the file with the member was generated last. -/
theorem upToDate_iff_latest_renewed :
    ∃ analysis file, renewed.subject.analyze = .ok analysis ∧
      FakeFile.generate ⟨true⟩ analysis.blueprint = .ok file ∧
      renewed.disk.text ⟨"out/FakeClockImpl.kt"⟩ = .ok file.text ∧
      (latest? analysis.blueprint.id (renewed.past ++ renewed.present)).map Request.text =
        some file.text := by
  refine ⟨_, _, rfl, rfl, ?_⟩
  obtain ⟨-, -, hiff, hstale⟩ :=
    upToDate_iff_latest regular_renewed collisionFree_renewed passes_renewed.2.1 rfl rfl
  have htext := by_contra fun hne => (hstale hne).2 inOrder_renewed
  exact ⟨htext, hiff.1 htext⟩

/-- A member is added and the store cannot be saved; then the member is removed again. -/
def back : Moment where
  start := ⟨["work"], [], List.replicate 10 none ++ [some ⟨.isDirectory, none⟩]⟩
  earlier := [storedJob false [clock []], storedJob true [clock [nowProperty]]]
  job := storedJob false [clock []]
  before := []
  subject := clock []
  after := []
  subjects_eq := rfl

theorem regular_back : back.Regular ⟨"out"⟩ ⟨"cache"⟩ := by
  have hjobs : back.jobs = [storedJob false [clock []], storedJob true [clock [nowProperty]],
      storedJob false [clock []]] := rfl
  exact
    { outputs := by rw [hjobs]; simp [storedJob]
      caches := by rw [hjobs]; simp [storedJob]
      apart := by decide
      noCache := file?_of_no_nodes rfl _
      noFiles := fun _ _ => file?_of_no_nodes rfl _
      wellNamed := by rw [hjobs]; decide }

theorem latest?_back : (latest? "Clock" back.past).map some =
    some (request? back.job.config (clock [nowProperty])) := by
  decide +kernel

/-- The pass after a failure to save the store takes the file with the member for up to date. -/
theorem not_text_of_upToDate_back :
    ∃ analysis file, back.subject.analyze = .ok analysis ∧
      FakeFile.generate ⟨true⟩ analysis.blueprint = .ok file ∧
      back.outcome = .upToDate ⟨"out/FakeClockImpl.kt"⟩ ∧
      back.disk.text ⟨"out/FakeClockImpl.kt"⟩ ≠ .ok file.text := by
  have hhit : back.outcome = .upToDate ⟨"out/FakeClockImpl.kt"⟩ := by decide +kernel
  refine ⟨_, _, rfl, rfl, hhit, ?_⟩
  obtain ⟨g, hlatest, htext⟩ := regular_back.hit_latest hhit rfl
  have hpresent : back.present = [] := rfl
  rw [hpresent, List.append_nil] at hlatest
  have hg := latest?_back
  rw [show latest? "Clock" back.past = some g from hlatest, Option.map_some] at hg
  have hother : (request? back.job.config (clock [nowProperty])).map Request.text ≠
      (request? back.job.config (clock [])).map Request.text := by decide +kernel
  rw [← Option.some.inj hg] at hother
  intro hsame
  rw [htext] at hsame
  exact hother (congrArg some (Except.ok.inj hsame))

end Moment

end KotlinFakes.Pass
