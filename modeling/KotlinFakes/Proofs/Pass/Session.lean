import KotlinFakes.Proofs.Files.Target
import KotlinFakes.Proofs.Pass.Step
import KotlinFakes.Proofs.Signature.Blueprint

/-!
# Sessions

Passes that are run one after the other on one disk, each with a store that it loads from its file
first, and the moments between two subjects of a pass.
-/

namespace KotlinFakes.Pass

open Disk

/-- A pass that is to be run. -/
structure Job where
  config : Config
  subjects : List Subject

/-- What a pass ends with. -/
abbrev Result := Except Error Report × State

namespace Job

def annotated (job : Job) : List Subject := Pass.annotated job.config job.subjects

/-- What files of the pass are generated from. -/
def requests (job : Job) : List Request := job.annotated.filterMap (request? job.config)

/-- Load the store and run the pass. -/
def run (job : Job) : StateM Disk Result := do
  let store ← job.config.openStore
  Pass.run job.config store job.subjects

/-- What was generated in the pass, in order. -/
def generations (job : Job) (result : Result) : List Request :=
  match result.1 with
  | .ok report => Pass.generations job.config job.annotated report.outcomes
  | .error _ => []

theorem mem_requests {job : Job} {s : Subject} {r : Request} (hs : s ∈ job.annotated)
    (hr : request? job.config s = some r) : r ∈ job.requests :=
  List.mem_filterMap.2 ⟨s, hs, hr⟩

end Job

/-- Run passes one after the other. -/
def runAll : List Job → StateM Disk (List Result)
  | [] => return []
  | job :: rest => do
    let result ← job.run
    let results ← runAll rest
    return result :: results

/-- What was generated in passes, in order. -/
def history (jobs : List Job) (results : List Result) : List Request :=
  (jobs.zip results).flatMap fun entry => entry.1.generations entry.2

/-- What every pass keeps, given what was generated up to it, is kept by passes one after the other. -/
theorem runAll_induction {jobs : List Job} {results : List Result} {disk changed : Disk}
    (kept : List Request → Disk → Prop)
    (hjob : ∀ job ∈ jobs, ∀ result ∈ results, ∀ made disk changed, kept made disk →
      job.run disk = (result, changed) → kept (made ++ job.generations result) changed)
    (h : runAll jobs disk = (results, changed)) (made : List Request) (hkept : kept made disk) :
    kept (made ++ history jobs results) changed := by
  induction jobs generalizing disk results made with
  | nil =>
      obtain ⟨rfl, rfl⟩ := Prod.mk.inj h
      simpa [history] using hkept
  | cons job rest ih =>
      obtain ⟨result, between, hrun, h⟩ := exists_of_bind h
      obtain ⟨more, after, hrest, h⟩ := exists_of_bind h
      obtain ⟨rfl, rfl⟩ := Prod.mk.inj h
      have hfirst := hjob job (by simp) result (by simp) _ _ _ hkept hrun
      have := ih (fun job hj result hr => hjob job (List.mem_cons_of_mem _ hj) result
        (List.mem_cons_of_mem _ hr)) hrest _ hfirst
      simpa [history, List.append_assoc] using this

/-! ## Requests of a session -/

/-- What is known of the requests of a session: their blueprints are well named, and the file of the
    store is not where files are generated. -/
structure Setting (home : Place) (output cache : Path) (requests : List Request) : Prop where
  wellNamed : ∀ r ∈ requests, r.blueprint.WellNamed
  apart : ¬output.place home <+: cache.place home

/-- Whether no two signatures of requests have the same digest. -/
def CollisionFree (requests : List Request) : Prop :=
  ∀ r ∈ requests, ∀ r' ∈ requests, r.signature.digest = r'.signature.digest →
    r.signature.text = r'.signature.text

namespace Setting

variable {home : Place} {output cache : Path} {requests : List Request} {r r' : Request}

theorem eq_of_digest_eq (h : Setting home output cache requests) (hfree : CollisionFree requests)
    (hr : r ∈ requests) (hr' : r' ∈ requests) (heq : r.signature.digest = r'.signature.digest) :
    r = r' := by
  obtain ⟨hoptions, hblueprint⟩ := Signature.file_inj (h.wellNamed r hr) (h.wellNamed r' hr')
    (hfree r hr r' hr' heq)
  cases r
  cases r'
  exact Request.mk.injEq .. ▸ ⟨hoptions, hblueprint⟩

theorem place_ne (h : Setting home output cache requests) (hr : r ∈ requests) (hr' : r' ∈ requests)
    (hne : r'.id ≠ r.id) : (r'.path output).place home ≠ (r.path output).place home :=
  fun heq => hne ((h.wellNamed r' hr').id_eq_of_place_eq (h.wellNamed r hr) heq)

theorem place_ne_draft (h : Setting home output cache requests) (hr : r ∈ requests) (path : Path) :
    (r.path output).place home ≠ path.draft.place home :=
  (h.wellNamed r hr).place_ne_draft path

theorem place_ne_cache (h : Setting home output cache requests) (hr : r ∈ requests) :
    (r.path output).place home ≠ cache.place home :=
  fun heq => h.apart (heq ▸ (h.wellNamed r hr).prefix_place)

theorem place_draft_ne_cache (h : Setting home output cache requests) (hr : r ∈ requests) :
    (r.path output).draft.place home ≠ cache.place home :=
  fun heq => h.apart (heq ▸ (h.wellNamed r hr).prefix_place_draft)

theorem place_not_mem_saved (h : Setting home output cache requests) (hr : r ∈ requests) :
    (r.path output).place home ∉ [cache.place home, cache.draft.place home] := by
  simp only [List.mem_cons, List.not_mem_nil, or_false, not_or]
  exact ⟨h.place_ne_cache hr, h.place_ne_draft hr _⟩

theorem place_not_mem_recorded (h : Setting home output cache requests) (hr : r ∈ requests)
    (hr' : r' ∈ requests) (hne : r'.id ≠ r.id) :
    (r'.path output).place home ∉
      [(r.path output).place home, (r.path output).draft.place home, cache.place home] := by
  simp only [List.mem_cons, List.not_mem_nil, or_false, not_or]
  exact ⟨h.place_ne hr hr' hne, h.place_ne_draft hr' _, h.place_ne_cache hr'⟩

theorem files_of_record {disk written changed : Disk} {content : ByteArray}
    (h : Setting home output cache requests) (hr : r ∈ requests)
    (hfiles : SameFilesBut [(r.path output).place home, (r.path output).draft.place home] disk
      written)
    (hfile : written.file? ((r.path output).place home) = some content)
    (hcache : SameFilesBut [cache.place home] written changed) :
    SameFilesBut [(r.path output).place home, (r.path output).draft.place home, cache.place home]
        disk changed ∧
      changed.file? ((r.path output).place home) = some content := by
  refine ⟨(hfiles.mono (by simp)).trans (hcache.mono (by simp)), ?_⟩
  rw [hcache.files _ (by simpa using h.place_ne_cache hr), hfile]

end Setting

/-! ## Moments -/

/-- A moment of a session: some passes have ended, and another one has come to a subject. -/
structure Moment where
  /-- The disk at the start of the session. -/
  start : Disk
  /-- The passes that have ended. -/
  earlier : List Job
  /-- The present pass. -/
  job : Job
  /-- Its subjects that have been processed. -/
  before : List Subject
  subject : Subject
  after : List Subject
  subjects_eq : job.annotated = before ++ subject :: after

namespace Moment

def jobs (t : Moment) : List Job := t.earlier ++ [t.job]

/-- What files of these passes are generated from. -/
def requests (t : Moment) : List Request := t.jobs.flatMap Job.requests

def results (t : Moment) : List Result := (runAll t.earlier t.start).1

def begun (t : Moment) : Disk := (runAll t.earlier t.start).2

def loaded (t : Moment) : Option SignatureStore × Disk :=
  t.job.config.openStore (m := StateM Disk) t.begun

/-- What the present pass has done up to now. -/
def reached (t : Moment) : (List (String × Outcome) × State) × Disk :=
  processAll (m := StateM Disk) t.job.config t.before (.start t.loaded.1) t.loaded.2

/-- What it does with the subject. -/
def next (t : Moment) : (Outcome × State) × Disk :=
  process (m := StateM Disk) t.job.config t.subject t.reached.1.2 t.reached.2

def outcome (t : Moment) : Outcome := t.next.1.1

def disk (t : Moment) : Disk := t.next.2

theorem begun_eq (t : Moment) : runAll t.earlier t.start = (t.results, t.begun) := rfl

theorem loaded_eq (t : Moment) :
    t.job.config.openStore (m := StateM Disk) t.begun = (t.loaded.1, t.loaded.2) := rfl

theorem reached_eq (t : Moment) :
    processAll (m := StateM Disk) t.job.config t.before (.start t.loaded.1) t.loaded.2 =
      ((t.reached.1.1, t.reached.1.2), t.reached.2) := rfl

theorem next_eq (t : Moment) : process (m := StateM Disk) t.job.config t.subject t.reached.1.2
    t.reached.2 = ((t.outcome, t.next.1.2), t.disk) := rfl

def past (t : Moment) : List Request := history t.earlier t.results

def present (t : Moment) : List Request :=
  generations t.job.config t.before t.reached.1.1

/-- A pass that processes its subjects passes through the moment, and its report says what became of
    the subject. -/
theorem outcome_mem_report {t : Moment} {report : Report} {final : State} {changed : Disk}
    (h : t.job.run t.begun = ((.ok report, final), changed)) :
    (t.subject.qualifiedName, t.outcome) ∈ report.outcomes := by
  obtain ⟨store, loaded, hload, hrun⟩ := exists_of_bind h
  obtain ⟨e, herror, -⟩ | ⟨outcomes, state, between, hprocess, hreport, -⟩ := run_cases hrun
  · cases herror
  · obtain rfl := Except.ok.inj hreport
    rw [← Job.annotated, t.subjects_eq] at hprocess
    have hloaded : t.loaded = (store, loaded) := hload
    obtain ⟨done, between, reached, outcome, next, written, rest, hbefore, hnext, -, rfl⟩ :=
      exists_of_processAll_append hprocess
    have houtcome : t.outcome = outcome := by
      rw [Moment.outcome, Moment.next, Moment.reached, hloaded, hbefore]
      exact congrArg (·.1.1) hnext
    rw [houtcome]
    exact List.mem_append_right _ List.mem_cons_self

/-- Whether all earlier passes have ended with their stores in order. -/
def InOrder (t : Moment) : Prop :=
  ∀ result ∈ t.results, ∀ saved, result.2.store = some saved → saved.isDegraded = false

/-- A session of passes that generate files below one directory and have their stores in one file
    elsewhere, with no files there at the start. All names in their subjects are in order. -/
structure Regular (t : Moment) (output cache : Path) : Prop where
  outputs : ∀ job ∈ t.jobs, job.config.output = output
  caches : ∀ job ∈ t.jobs, job.config.cache = some cache
  apart : ¬output.place t.start.home <+: cache.place t.start.home
  noCache : t.start.file? (cache.place t.start.home) = none
  noFiles : ∀ place, output.place t.start.home <+: place → t.start.file? place = none
  wellNamed : ∀ job ∈ t.jobs, ∀ s ∈ job.annotated, s.WellNamed

variable {t : Moment} {output cache : Path}

theorem requests_subset {job : Job} (h : job ∈ t.jobs) : job.requests ⊆ t.requests :=
  fun _ hr => List.mem_flatMap.2 ⟨job, h, hr⟩

theorem job_mem_jobs : t.job ∈ t.jobs := List.mem_append_right _ (List.mem_singleton_self _)

theorem request_mem_requests {s : Subject} {r : Request} (hs : s ∈ t.before ∨ s = t.subject)
    (hr : request? t.job.config s = some r) : r ∈ t.requests := by
  refine requests_subset job_mem_jobs (Job.mem_requests ?_ hr)
  rw [t.subjects_eq]
  obtain hs | rfl := hs
  · exact List.mem_append_left _ hs
  · exact List.mem_append_right _ List.mem_cons_self

theorem Regular.setting (h : t.Regular output cache) :
    Setting t.start.home output cache t.requests where
  wellNamed r hr := by
    obtain ⟨job, hjob, hr⟩ := List.mem_flatMap.1 hr
    obtain ⟨s, hs, hr⟩ := List.mem_filterMap.1 hr
    obtain ⟨analysis, hanalysis, rfl⟩ := exists_of_request? hr
    exact (h.wellNamed job hjob s hs).blueprint hanalysis
  apart := h.apart

end Moment

end KotlinFakes.Pass
