import KotlinFakes.Diagnostic.Basic

/-!
# The diagnostic queue

Reports are collected during a pass, each once, and handed out in order at its end. The queue keeps three
things in step: the reports, what a further report is looked up in, and how many of them are errors.
-/

namespace KotlinFakes

/-- The reports collected since the last flush. -/
structure DiagnosticQueue where
  /-- The reports in order of arrival. -/
  pending : List Diagnostic
  /-- The reports again, to tell a new one by. -/
  seen : List Diagnostic
  /-- How many of them are errors. -/
  errors : Nat
  nodup_pending : pending.Nodup
  mem_seen : ∀ d, d ∈ seen ↔ d ∈ pending
  errors_eq : errors = pending.countP Diagnostic.isError
  deriving Repr, DecidableEq

namespace DiagnosticQueue

def empty : DiagnosticQueue where
  pending := []
  seen := []
  errors := 0
  nodup_pending := .nil
  mem_seen _ := .rfl
  errors_eq := rfl

/-- Whether a report would be collected. -/
def isNew (queue : DiagnosticQueue) (d : Diagnostic) : Bool := !queue.seen.contains d

theorem isNew_iff {queue : DiagnosticQueue} {d : Diagnostic} :
    queue.isNew d ↔ d ∉ queue.pending := by
  simp [isNew, queue.mem_seen]

/-- Collect a report unless it is there already. -/
def add (queue : DiagnosticQueue) (d : Diagnostic) : DiagnosticQueue :=
  if hnew : queue.isNew d then {
    pending := queue.pending ++ [d]
    seen := d :: queue.seen
    errors := if d.isError then queue.errors + 1 else queue.errors
    nodup_pending := by
      have hd : d ∉ queue.pending := isNew_iff.1 hnew
      refine List.nodup_append.2 ⟨queue.nodup_pending, List.nodup_cons.2 ⟨List.not_mem_nil, .nil⟩, ?_⟩
      intro e he e' he' heq
      rw [List.mem_singleton.1 he'] at heq
      exact hd (heq ▸ he)
    mem_seen e := by simp [queue.mem_seen, or_comm]
    errors_eq := by
      rw [List.countP_append, List.countP_singleton, queue.errors_eq]
      split <;> rfl }
  else queue

/-- Collect the reports of a list, one after the other. -/
def addAll (queue : DiagnosticQueue) (ds : List Diagnostic) : DiagnosticQueue := ds.foldl add queue

def size (queue : DiagnosticQueue) : Nat := queue.pending.length

def errorCount (queue : DiagnosticQueue) : Nat := queue.errors

/-- The pending reports in the order of `Diagnostic.order`; reports that tie stay in order of
    arrival. -/
def flush (queue : DiagnosticQueue) : List Diagnostic :=
  queue.pending.mergeSort fun a b => (a.order b).isLE

/-- Hand out the pending reports and start again. -/
def drain (queue : DiagnosticQueue) : List Diagnostic × DiagnosticQueue := (queue.flush, empty)

end DiagnosticQueue

end KotlinFakes
