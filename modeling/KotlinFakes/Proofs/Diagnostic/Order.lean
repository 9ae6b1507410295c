import KotlinFakes.Diagnostic.Basic
import Mathlib.Data.List.Perm.Basic
import Mathlib.Data.String.Basic
import Mathlib.Order.Compare

/-!
# The order of reports

Sorting keeps elements that tie in order, so the result of sorting is known from the elements that tie with
each one. Two reports tie just if they differ in their notes at most.
-/

namespace KotlinFakes

section Sorting

variable {α : Type} {le : α → α → Bool}

/-- Whether an order leaves it open which of two elements comes first. -/
def ties (le : α → α → Bool) (a b : α) : Bool := le a b && le b a

variable (htrans : ∀ a b c, le a b → le b c → le a c) (htotal : ∀ a b, le a b || le b a)

include htrans htotal

theorem filter_ties_mergeSort (l : List α) (a : α) :
    (l.mergeSort le).filter (ties le a) = l.filter (ties le a) := by
  have hsorted : (l.filter (ties le a)).Pairwise (fun b c => le b c) := by
    refine List.Pairwise.imp_of_mem (fun {b c} hb hc _ => ?_) (List.pairwise_of_forall fun _ _ => trivial)
    have hb := Bool.and_eq_true_iff.1 (List.mem_filter.1 hb).2
    have hc := Bool.and_eq_true_iff.1 (List.mem_filter.1 hc).2
    exact htrans b a c hb.2 hc.1
  have hsub := (List.sublist_mergeSort htrans htotal hsorted List.filter_sublist).filter (ties le a)
  rw [List.filter_filter] at hsub
  simp only [Bool.and_self] at hsub
  exact (hsub.eq_of_length ((List.mergeSort_perm l le).filter _).length_eq.symm).symm

omit htrans in
theorem ties_self (a : α) : ties le a a := by
  have hself := htotal a a
  rw [Bool.or_self] at hself
  rw [ties, hself, Bool.and_self]

omit htrans in
theorem mem_iff_of_filter_ties {l l' : List α}
    (h : ∀ a, l.filter (ties le a) = l'.filter (ties le a)) (a : α) : a ∈ l ↔ a ∈ l' := by
  have hself := ties_self htotal a
  rw [← and_iff_left (a := a ∈ l) hself, ← List.mem_filter, h a, List.mem_filter, and_iff_left hself]

omit htrans in
/-- A sorted list is determined by its elements that tie. -/
theorem eq_of_filter_ties {l l' : List α} (hl : l.Pairwise (fun a b => le a b))
    (hl' : l'.Pairwise (fun a b => le a b))
    (h : ∀ a, l.filter (ties le a) = l'.filter (ties le a)) : l = l' := by
  induction l generalizing l' with
  | nil =>
      refine (List.eq_nil_iff_forall_not_mem.2 fun a ha => ?_).symm
      exact List.not_mem_nil ((mem_iff_of_filter_ties htotal h a).2 ha)
  | cons a rest ih =>
      have hmem := mem_iff_of_filter_ties htotal h
      cases l' with
      | nil => exact absurd ((hmem a).1 List.mem_cons_self) List.not_mem_nil
      | cons b rest' =>
          have hfirst {c d : α} {more : List α} (hmore : (c :: more).Pairwise (fun a b => le a b))
              (hd : d ∈ c :: more) : le c d := by
            obtain rfl | hd := List.mem_cons.1 hd
            · exact (Bool.and_eq_true_iff.1 (ties_self htotal d)).1
            · exact List.rel_of_pairwise_cons hmore hd
          -- The first elements come before each other, and the first of those that tie is the same.
          have hab : ties le a b := Bool.and_eq_true_iff.2
            ⟨hfirst hl ((hmem b).2 List.mem_cons_self), hfirst hl' ((hmem a).1 List.mem_cons_self)⟩
          have hheads := h a
          rw [List.filter_cons_of_pos (ties_self htotal a), List.filter_cons_of_pos hab] at hheads
          obtain rfl := (List.cons.inj hheads).1
          have htails (c : α) : rest.filter (ties le c) = rest'.filter (ties le c) := by
            have hc := h c
            rw [List.filter_cons, List.filter_cons] at hc
            split at hc
            · exact (List.cons.inj hc).2
            · exact hc
          rw [ih (List.Pairwise.of_cons hl) (List.Pairwise.of_cons hl') htails]

theorem mergeSort_eq_of_filter_ties {l l' : List α}
    (h : ∀ a, l.filter (ties le a) = l'.filter (ties le a)) : l.mergeSort le = l'.mergeSort le := by
  refine eq_of_filter_ties htotal (List.pairwise_mergeSort htrans htotal l)
    (List.pairwise_mergeSort htrans htotal l') fun a => ?_
  rw [filter_ties_mergeSort htrans htotal, filter_ties_mergeSort htrans htotal, h a]

end Sorting

theorem Severity.rank_inj {a b : Severity} : a.rank = b.rank ↔ a = b := by
  cases a <;> cases b <;> simp [rank]

theorem Code.rank_inj {a b : Code} : a.rank = b.rank ↔ a = b := by
  cases a <;> cases b <;> simp [rank]

namespace Diagnostic

variable {a b : Diagnostic}

/-- Whether a report may be handed out before another: by declaration, none before any, then by severity,
    the gravest first, by code and by message. -/
def MayPrecede (a b : Diagnostic) : Prop :=
  a.declaration < b.declaration ∨ a.declaration = b.declaration ∧
    (a.severity.rank < b.severity.rank ∨ a.severity = b.severity ∧
      (a.code.rank < b.code.rank ∨ a.code = b.code ∧ a.message ≤ b.message))

theorem compareDeclaration_eq (a b : Option String) : compareDeclaration a b = compare a b := by
  cases a <;> cases b <;> rfl

theorem compareDeclaration_eq_lt_iff {a b : Option String} :
    compareDeclaration a b = .lt ↔ a < b := by
  cases a <;> cases b <;> simp [compareDeclaration, compare_lt_iff_lt]

theorem compareDeclaration_eq_eq_iff {a b : Option String} :
    compareDeclaration a b = .eq ↔ a = b := by
  cases a <;> cases b <;> simp [compareDeclaration]

instance : Std.TransCmp order := by
  have hlex : order = compareLex (compareOn Diagnostic.declaration)
      (compareLex (compareOn fun d => d.severity.rank)
        (compareLex (compareOn fun d => d.code.rank) (compareOn Diagnostic.message))) := by
    funext a b
    unfold order
    rw [compareDeclaration_eq]
    rfl
  rw [hlex]
  infer_instance

theorem order_trans (a b c : Diagnostic) (hab : (a.order b).isLE) (hbc : (b.order c).isLE) :
    (a.order c).isLE := Std.TransCmp.isLE_trans hab hbc

theorem order_total (a b : Diagnostic) : (a.order b).isLE || (b.order a).isLE := by
  have hswap : b.order a = (a.order b).swap := Std.OrientedCmp.eq_swap
  rw [hswap]
  cases a.order b <;> rfl

theorem isLE_order_iff : (a.order b).isLE ↔ a.MayPrecede b := by
  have hmessage : (compare a.message b.message).isLE ↔ a.message ≤ b.message := by
    rw [Ordering.isLE_iff_ne_gt]
    exact compare_le_iff_le
  rw [order, Ordering.isLE_then_iff_or, Ordering.isLE_then_iff_or, Ordering.isLE_then_iff_or,
    compareDeclaration_eq_lt_iff, compareDeclaration_eq_eq_iff, compare_lt_iff_lt, compare_eq_iff_eq,
    compare_lt_iff_lt, compare_eq_iff_eq, Severity.rank_inj, Code.rank_inj, hmessage]
  rfl

/-- Whether two reports agree in everything but their notes. -/
def AgreesWith (a b : Diagnostic) : Prop :=
  a.declaration = b.declaration ∧ a.severity = b.severity ∧ a.code = b.code ∧ a.message = b.message

theorem order_eq_eq_iff : a.order b = .eq ↔ a.AgreesWith b := by
  rw [order, Ordering.then_eq_eq, Ordering.then_eq_eq, Ordering.then_eq_eq,
    compareDeclaration_eq_eq_iff, compare_eq_iff_eq, compare_eq_iff_eq, compare_eq_iff_eq,
    Severity.rank_inj, Code.rank_inj]
  rfl

theorem ties_iff : ties (fun a b => (order a b).isLE) a b ↔ a.AgreesWith b := by
  rw [← order_eq_eq_iff, ties, Bool.and_eq_true]
  constructor
  · rintro ⟨hab, hba⟩
    exact Std.OrientedCmp.isLE_antisymm hab hba
  · intro heq
    have hswap : b.order a = (a.order b).swap := Std.OrientedCmp.eq_swap
    rw [hswap, heq]
    exact ⟨rfl, rfl⟩

theorem AgreesWith.eq (h : a.AgreesWith b) (hnotes : a.notes = b.notes) : a = b := by
  cases a
  cases b
  obtain ⟨rfl, rfl, rfl, rfl⟩ := h
  obtain rfl := hnotes
  rfl

end Diagnostic

end KotlinFakes
