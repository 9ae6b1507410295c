import KotlinFakes.Proofs.Diagnostic.Queue
import Mathlib.Data.Finset.Card
import Mathlib.Data.Finset.Filter
import Mathlib.Data.Finset.Dedup

/-!
# The books of a queue

However calls to add a report and to flush follow each other, the reports in a queue, what a further one is
looked up in and the number of errors stay in step: all three tell what was added since the last flush.
-/

namespace KotlinFakes.DiagnosticQueue

/-- A call of a queue. -/
inductive Call where
  | add (d : Diagnostic)
  | flush

/-- What a call answers. -/
inductive Answer where
  /-- Whether the report was collected. -/
  | added (isNew : Bool)
  | flushed (reports : List Diagnostic)

def call (queue : DiagnosticQueue) : Call → Answer × DiagnosticQueue
  | .add d => (.added (queue.isNew d), queue.add d)
  | .flush => (.flushed queue.drain.1, queue.drain.2)

/-- The queue after a sequence of calls. -/
def after (calls : List Call) : DiagnosticQueue :=
  calls.foldl (fun queue c => (queue.call c).2) empty

/-- The reports that a sequence of calls adds after its last flush, with their repetitions. -/
def sinceFlush (calls : List Call) : List Diagnostic :=
  calls.foldl (fun ds c =>
    match c with
    | .add d => ds ++ [d]
    | .flush => []) []

theorem after_concat (calls : List Call) (c : Call) :
    after (calls ++ [c]) = ((after calls).call c).2 := by
  rw [after, List.foldl_append, List.foldl_cons, List.foldl_nil, after]

theorem sinceFlush_add (calls : List Call) (d : Diagnostic) :
    sinceFlush (calls ++ [.add d]) = sinceFlush calls ++ [d] := by
  rw [sinceFlush, List.foldl_append, List.foldl_cons, List.foldl_nil, sinceFlush]

theorem sinceFlush_flush (calls : List Call) : sinceFlush (calls ++ [.flush]) = [] := by
  rw [sinceFlush, List.foldl_append, List.foldl_cons, List.foldl_nil]

/-- A queue forgets all but what was added since the last flush. -/
theorem after_eq (calls : List Call) : after calls = empty.addAll (sinceFlush calls) := by
  induction calls using List.reverseRecOn with
  | nil => rfl
  | append_singleton calls c ih =>
      rw [after_concat]
      cases c with
      | add d => rw [sinceFlush_add, addAll_append, ← ih]; rfl
      | flush => rw [sinceFlush_flush]; rfl

theorem mem_after {calls : List Call} {d : Diagnostic} :
    d ∈ (after calls).pending ↔ d ∈ sinceFlush calls := by
  rw [after_eq, mem_addAll]
  exact or_iff_right List.not_mem_nil

section Counting

variable {queue : DiagnosticQueue} {ds : List Diagnostic} (h : ∀ d, d ∈ queue.pending ↔ d ∈ ds)

include h

theorem toFinset_pending : queue.pending.toFinset = ds.toFinset := by
  ext d
  rw [List.mem_toFinset, List.mem_toFinset, h]

theorem size_eq : queue.size = ds.toFinset.card := by
  rw [← toFinset_pending h, List.toFinset_card_of_nodup queue.nodup_pending, size]

theorem errorCount_eq :
    queue.errorCount = (ds.toFinset.filter fun d => d.severity = .error).card := by
  have herrors : (queue.pending.filter Diagnostic.isError).toFinset =
      ds.toFinset.filter fun d => d.severity = .error := by
    rw [← toFinset_pending h]
    ext d
    simp [Diagnostic.isError]
  rw [← herrors, List.toFinset_card_of_nodup (queue.nodup_pending.filter _), errorCount,
    queue.errors_eq, List.countP_eq_length_filter]

end Counting

/-- After any calls, a report is collected just if it was not added since the last flush; the size and the
    number of errors are those of the different reports added since then; and a flush hands out each of
    these once and in order, and leaves nothing behind. -/
theorem books_of_calls (calls : List Call) :
    (∀ d, ((after calls).call (.add d)).1 = .added (d ∉ sinceFlush calls)) ∧
    (after calls).size = (sinceFlush calls).toFinset.card ∧
    (after calls).errorCount =
      ((sinceFlush calls).toFinset.filter fun d => d.severity = .error).card ∧
    (∃ reports, ((after calls).call .flush).1 = .flushed reports ∧ reports.Nodup ∧
      (∀ d, d ∈ reports ↔ d ∈ sinceFlush calls) ∧ reports.Pairwise Diagnostic.MayPrecede) ∧
    (after (calls ++ [.flush])).pending = [] ∧ (after (calls ++ [.flush])).seen = [] ∧
      (after (calls ++ [.flush])).errors = 0 := by
  refine ⟨fun d => ?_, size_eq fun _ => mem_after, errorCount_eq fun _ => mem_after,
    ⟨(after calls).flush, rfl, ?_, fun d => ?_, ?_⟩, ?_⟩
  · have hnew : (after calls).isNew d = decide (d ∉ sinceFlush calls) := by
      rw [Bool.eq_iff_iff, isNew_iff, mem_after, decide_eq_true_iff]
    exact congrArg Answer.added hnew
  · exact (perm_flush _).nodup_iff.2 (after calls).nodup_pending
  · rw [mem_flush, mem_after]
  · exact (pairwise_flush _).imp Diagnostic.isLE_order_iff.1
  · rw [after_concat]
    exact ⟨rfl, rfl, rfl⟩

end KotlinFakes.DiagnosticQueue
