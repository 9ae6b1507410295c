import KotlinFakes.ImportSet

/-!
# Contests for short names

Of the contenders for a short name one gets it, wherever it stands among them: the one that no other
goes before.
-/

namespace KotlinFakes

theorem Ground.rank_inj {g h : Ground} (heq : g.rank = h.rank) : g = h := by
  cases g <;> cases h <;> first | rfl | cases heq

namespace Contender

variable {a b c : Contender} {all : List Contender}

theorem precedes_iff : a.precedes b ↔ a.ground.rank < b.ground.rank ∨
    a.ground.rank = b.ground.rank ∧ a.path < b.path := by
  simp [precedes]

theorem rank_le_of_not_precedes (h : ¬ b.precedes a) : a.ground.rank ≤ b.ground.rank := by
  rw [precedes_iff] at h
  omega

theorem not_precedes_self : ¬ a.precedes a := by
  rw [precedes_iff]
  rintro (h | ⟨-, h⟩)
  · exact Nat.lt_irrefl _ h
  · exact String.lt_irrefl _ h

theorem not_precedes_trans (h : ¬ b.precedes a) (h' : ¬ c.precedes b) : ¬ c.precedes a := by
  have hrank := rank_le_of_not_precedes h
  have hrank' := rank_le_of_not_precedes h'
  rw [precedes_iff] at h h' ⊢
  rintro (hlt | ⟨heq, hlt⟩)
  · omega
  · -- All three have the same rank, so the paths decide.
    have hab : ¬ b.path < a.path := fun hpath => h (.inr ⟨by omega, hpath⟩)
    have hbc : ¬ c.path < b.path := fun hpath => h' (.inr ⟨by omega, hpath⟩)
    exact String.not_lt.2 (String.le_trans (String.not_lt.1 hab) (String.not_lt.1 hbc)) hlt

theorem eq_of_not_precedes (hname : a.shortName = b.shortName) (h : ¬ a.precedes b)
    (h' : ¬ b.precedes a) : a = b := by
  have hrank := Nat.le_antisymm (rank_le_of_not_precedes h') (rank_le_of_not_precedes h)
  rw [precedes_iff] at h h'
  have hpath : ¬ a.path < b.path := fun hpath => h (.inr ⟨hrank, hpath⟩)
  have hpath' : ¬ b.path < a.path := fun hpath => h' (.inr ⟨hrank.symm, hpath⟩)
  obtain ⟨shortName, ground, path⟩ := a
  obtain ⟨shortName', ground', path'⟩ := b
  rw [mk.injEq]
  exact ⟨hname, Ground.rank_inj hrank,
    String.le_antisymm (String.not_lt.1 hpath') (String.not_lt.1 hpath)⟩

theorem first_mem (a : Contender) (rest : List Contender) : first a rest ∈ a :: rest := by
  induction rest generalizing a with
  | nil => exact List.mem_singleton_self a
  | cons b rest ih =>
      rw [first]
      split
      · exact List.mem_cons_of_mem _ (ih b)
      · obtain h | h := List.mem_cons.1 (ih a)
        · rw [h]
          exact List.mem_cons_self
        · exact List.mem_cons_of_mem _ (List.mem_cons_of_mem _ h)

theorem not_precedes_first (a : Contender) (rest : List Contender) :
    ∀ b ∈ a :: rest, ¬ b.precedes (first a rest) := by
  induction rest generalizing a with
  | nil => simp [first, not_precedes_self]
  | cons d rest ih =>
      rw [first]
      split
      · next h =>
          -- What goes before the first one goes before nothing that comes later.
          have ha : ¬ a.precedes d := by
            rw [precedes_iff] at h ⊢
            rintro (hlt | ⟨heq, hlt⟩) <;> obtain h | ⟨h, hpath⟩ := h
            · omega
            · omega
            · omega
            · exact String.lt_irrefl _ (String.lt_trans hlt hpath)
          intro b hb
          obtain rfl | hb := List.mem_cons.1 hb
          · exact not_precedes_trans (ih d d List.mem_cons_self) ha
          · exact ih d b hb
      · next h =>
          intro b hb
          obtain rfl | hb := List.mem_cons.1 hb
          · exact ih b b List.mem_cons_self
          · obtain rfl | hb := List.mem_cons.1 hb
            · exact not_precedes_trans (ih a a List.mem_cons_self) h
            · exact ih a b (List.mem_cons_of_mem _ hb)

/-- Whether a contender gets its short name. -/
structure Wins (all : List Contender) (c : Contender) : Prop where
  mem : c ∈ all
  least : ∀ d ∈ all, d.shortName = c.shortName → ¬ d.precedes c

/-- A short name is won once. -/
theorem Wins.unique (h : Wins all a) (h' : Wins all b) (hname : a.shortName = b.shortName) :
    a = b :=
  eq_of_not_precedes hname (h'.least a h.mem hname) (h.least b h'.mem hname.symm)

theorem winner_cases (all : List Contender) (a : Contender) :
    winner all a = a ∨ winner all a ∈ all ∧ (winner all a).shortName = a.shortName := by
  refine (List.mem_cons.1 (first_mem a _)).imp_right fun h => ?_
  rw [List.mem_filter, decide_eq_true_eq] at h
  exact h

theorem shortName_winner (all : List Contender) (a : Contender) :
    (winner all a).shortName = a.shortName := by
  obtain h | ⟨-, h⟩ := winner_cases all a
  · rw [h]
  · exact h

theorem wins_winner (h : a ∈ all) : Wins all (winner all a) where
  mem := by
    obtain heq | ⟨hmem, -⟩ := winner_cases all a
    · rwa [heq]
    · exact hmem
  least d hd hname := by
    refine not_precedes_first a _ d (List.mem_cons_of_mem _ (List.mem_filter.2 ⟨hd, ?_⟩))
    simpa [shortName_winner] using hname

theorem winner_eq_of_wins (hb : Wins all b) (h : a ∈ all) (hname : b.shortName = a.shortName) :
    winner all a = b :=
  (wins_winner h).unique hb ((shortName_winner all a).trans hname.symm)

end Contender

end KotlinFakes
