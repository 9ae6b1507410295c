import KotlinFakes.Diagnostic.Queue
import KotlinFakes.Pass.Config
import KotlinFakes.Pass.Placement
import KotlinFakes.Subject.Analysis

/-!
# Running a pass

First the directory for each annotated subject is looked up. Then each of them is analysed, and its file
is written unless the store knows the signature and the file is there. What is written is recorded in
the store, never the other way round. At the end the store is saved, and its failures are reported as
warnings.
-/

namespace KotlinFakes.Pass

/-- What a pass carries from one subject to the next. -/
structure State where
  store : Option SignatureStore
  reports : DiagnosticQueue
  deriving Repr, DecidableEq

namespace State

/-- A pass that begins. -/
def start (store : Option SignatureStore) : State := ⟨store, .empty⟩

def report (state : State) (ds : List Diagnostic) : State :=
  { state with reports := state.reports.addAll ds }

/-- Whether the store knows a declaration by its present signature. -/
def isCurrent (state : State) (id : String) (signature : Signature) : Bool :=
  match state.store with
  | none => false
  | some store => !store.needsGeneration id signature

end State

/-- The warning about a failure of the store. -/
def storeWarning (e : StoreError) : Diagnostic where
  code := .cacheUnavailable
  severity := .warning
  message := e.message
  declaration := none
  notes := ["every declaration is regenerated until the cache is usable"]

/-- What becomes of a subject that is rejected. -/
def rejectedOutcome (r : Rejection) : Outcome :=
  if r.isSkip then .skipped r.message else .failed (.rejected r)

def fail (s : Subject) (state : State) (failure : Failure) : Outcome × State :=
  (.failed failure, state.report [failure.diagnostic s.qualifiedName])

section Files

variable {m : Type → Type} [Monad m] [FileSystem m]

/-- Record in the store, if there is one, that a declaration was generated. -/
def State.record (state : State) (id : String) (signature : Signature) : m State := do
  match state.store with
  | none => return state
  | some store => return { state with store := some (← store.record id signature) }

/-- Whether the file of a blueprint is there and belongs to the present signature. -/
def isUpToDate (config : Config) (state : State) (b : Blueprint) (signature : Signature) :
    m Bool := do
  if !config.isForced && state.isCurrent b.id signature then
    FileSystem.isFile (b.targetPath config.output)
  else return false

/-- Write the file of a blueprint and record its signature. -/
def write (config : Config) (s : Subject) (state : State) (b : Blueprint)
    (signature : Signature) : m (Outcome × State) := do
  match FakeFile.generate config.fileOptions b with
  | .error e => return fail s state (.unrenderable e)
  | .ok file =>
    let path := b.targetPath config.output
    match ← (FileSystem.replaceCleanly path file.text).run with
    | .error fault => return fail s state (.unwritable path fault)
    | .ok () => return (.generated path, ← state.record b.id signature)

def process (config : Config) (s : Subject) (state : State) : m (Outcome × State) := do
  match s.analyze with
  | .error r => return (rejectedOutcome r, state.report [r.diagnostic])
  | .ok analysis =>
    let b := analysis.blueprint
    let state := state.report analysis.warnings
    let signature := Signature.compute generatorVersion config.fileOptions.fingerprint b
    if ← isUpToDate config state b signature then
      return (.upToDate (b.targetPath config.output), state)
    else write config s state b signature

/-- Process subjects one after the other, each for its own directory. -/
def processEach (config : Config) :
    List Placement → State → m (List (String × Outcome) × State)
  | [], state => return ([], state)
  | p :: rest, state => do
    let (outcome, state) ← process { config with output := p.output } p.subject state
    let (outcomes, state) ← processEach config rest state
    return ((p.subject.qualifiedName, outcome) :: outcomes, state)

/-- Process subjects one after the other for the directory of the settings. -/
def processAll (config : Config) (subjects : List Subject) (state : State) :
    m (List (String × Outcome) × State) :=
  processEach config (subjects.map (⟨·, config.output⟩)) state

/-- Process subjects, several at the same time if that is allowed: then each is a step of its own, and
    the pool orders the steps. Either way the outcomes are in the order of the subjects. -/
def processPooled (config : Config) (pool : Pool) (placements : List Placement) (state : State) :
    m (List (String × Outcome) × State) := do
  if config.isParallel && 1 < placements.length then
    let (outcomes, state) ← processEach config (pool.take placements) state
    return (pool.restore outcomes, state)
  else processEach config placements state

/-- Save the store and report its failures. -/
def finish (state : State) : m State := do
  match state.store with
  | none => return state
  | some store =>
    let (errors, store) := store.takeErrors
    let (saved, store) ← store.flush
    let last := match saved with
      | .ok () => []
      | .error e => [e]
    return ({ state with store := some store }).report ((errors ++ last).map storeWarning)

def annotated (config : Config) (subjects : List Subject) : List Subject :=
  subjects.filter fun s => s.hasAnnotation config.marker

/-- Run a pass over the annotated subjects. If there is no directory for one of them, nothing is done at
    all. -/
def runWith (locator : Locator) (pool : Pool) (config : Config) (store : Option SignatureStore)
    (subjects : List Subject) : m (Except Error Report × State) := do
  match locator.place (annotated config subjects) with
  | .error e => return (.error e, .start store)
  | .ok placements =>
    let (outcomes, state) ← processPooled config pool placements (.start store)
    return (.ok ⟨outcomes⟩, ← finish state)

/-- Run a pass for the directory of its settings. -/
def run (config : Config) (store : Option SignatureStore) (subjects : List Subject) :
    m (Except Error Report × State) :=
  runWith (.fixed config.output) .inOrder config store subjects

end Files

end KotlinFakes.Pass
