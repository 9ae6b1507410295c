import KotlinFakes.Identifier
import KotlinFakes.Proofs.Names

/-!
# Capital letters in names

A name that is put behind another one gets a capital letter. The capital of a letter is a letter, but
that of some letters with an accent is written as a letter with the accent behind it as a mark of its
own, and no name can have such a mark. So it depends on the first letter of a name whether the name can
be capitalized.
-/

namespace KotlinFakes

namespace Text

/-! ## Runs inside runs -/

namespace Run

/-- Whether a run goes along one run of a list, the first one that reaches it. -/
def goesAlong (runs : List Run) (run : Run) : Bool :=
  match runs.find? fun other => run.first ≤ other.last with
  | none => false
  | some other =>
    other.first ≤ run.first && run.last ≤ other.last && (run.first - other.first) % other.step == 0 &&
      run.step % other.step == 0

/-- Whether all code points of a run are on the runs of a list. Few runs do not go along a single one, and
    they are short. -/
def liesOn (runs : List Run) (run : Run) : Bool :=
  run.goesAlong runs || run.codes.all (anyHolds runs)

variable {runs : List Run} {run : Run} {n : Nat}

theorem holds_iff : run.holds n ↔ run.first ≤ n ∧ n ≤ run.last ∧ run.step ∣ n - run.first := by
  simp [holds, and_assoc, Nat.dvd_iff_mod_eq_zero]

theorem anyHolds_of_goesAlong (h : run.goesAlong runs) (hn : run.holds n) : anyHolds runs n := by
  rw [holds_iff] at hn
  obtain ⟨hfirst, hlast, hstep⟩ := hn
  induction runs with
  | nil => cases h
  | cons other rest ih =>
      unfold goesAlong at h
      rw [List.find?_cons] at h
      rw [anyHolds]
      by_cases hreaches : run.first ≤ other.last
      · simp only [hreaches, decide_true, Bool.and_eq_true, decide_eq_true_iff, beq_iff_eq] at h
        obtain ⟨⟨⟨hlow, hhigh⟩, hoffset⟩, hstride⟩ := h
        rw [if_pos (by omega), holds_iff]
        refine ⟨by omega, by omega, ?_⟩
        have hsplit : n - other.first = (n - run.first) + (run.first - other.first) := by omega
        have hstride := Nat.dvd_trans (Nat.dvd_of_mod_eq_zero hstride) hstep
        rw [hsplit]
        exact Nat.dvd_add hstride (Nat.dvd_of_mod_eq_zero hoffset)
      · simp only [hreaches, decide_false] at h
        rw [if_neg (by omega)]
        exact ih h

theorem mem_codes_of_holds (h : run.holds n) : n ∈ run.codes := by
  have hany : anyHolds [run] n := by
    rw [anyHolds, if_pos (holds_iff.1 h).2.1]
    exact h
  simpa using mem_codes_of_anyHolds hany

theorem anyHolds_of_liesOn (h : run.liesOn runs) (hn : run.holds n) : anyHolds runs n := by
  rw [liesOn, Bool.or_eq_true] at h
  obtain h | h := h
  · exact anyHolds_of_goesAlong h hn
  · exact List.all_eq_true.1 h n (mem_codes_of_holds hn)

theorem exists_holds_of_anyHolds (h : anyHolds runs n) : ∃ run ∈ runs, run.holds n := by
  induction runs with
  | nil => cases h
  | cons run rest ih =>
      rw [anyHolds] at h
      split at h
      · exact ⟨run, List.mem_cons_self, h⟩
      · obtain ⟨other, hother, hholds⟩ := ih h
        exact ⟨other, List.mem_cons_of_mem _ hother, hholds⟩

end Run

/-! ## Capitals of one character -/

namespace CapitalRun

/-- The capitals of a run. -/
def image (c : CapitalRun) : Run :=
  ⟨(Int.ofNat c.run.first + c.distance).toNat, (Int.ofNat c.run.last + c.distance).toNat, c.run.step⟩

variable {c : CapitalRun} {n : Nat}

theorem holds_image (hfirst : 0 ≤ Int.ofNat c.run.first + c.distance) (h : c.run.holds n) :
    c.image.holds (Int.ofNat n + c.distance).toNat := by
  rw [Run.holds_iff] at h ⊢
  obtain ⟨hlow, hhigh, hstep⟩ := h
  simp only [image, Int.ofNat_eq_natCast] at hfirst ⊢
  have hoffset : ((n : Int) + c.distance).toNat - ((c.run.first : Int) + c.distance).toNat =
      n - c.run.first := by omega
  rw [hoffset]
  exact ⟨by omega, by omega, hstep⟩

/-- What has a capital is a letter, and so is the capital. -/
theorem letters : ∀ c ∈ capitalRuns, 0 ≤ Int.ofNat c.run.first + c.distance ∧
    c.run.liesOn alphabeticRuns ∧ c.image.liesOn alphabeticRuns := by
  decide +kernel

end CapitalRun

theorem capitalOf_cases (runs : List CapitalRun) (n : Nat) :
    capitalOf runs n = n ∨
      ∃ c ∈ runs, c.run.holds n ∧ capitalOf runs n = (Int.ofNat n + c.distance).toNat := by
  induction runs with
  | nil => exact .inl rfl
  | cons c rest ih =>
      unfold capitalOf
      split
      · split
        · next hholds => exact .inr ⟨c, List.mem_cons_self, hholds, rfl⟩
        · exact .inl rfl
      · obtain hsame | ⟨other, hother, hholds, heq⟩ := ih
        · exact .inl hsame
        · exact .inr ⟨other, List.mem_cons_of_mem _ hother, hholds, heq⟩

theorem isValidChar_of_anyHolds {n : Nat} (h : Run.anyHolds alphabeticRuns n) : n.isValidChar := by
  have hruns : ∀ run ∈ alphabeticRuns,
      run.last < 0xD800 ∨ 0xDFFF < run.first ∧ run.last < 0x110000 := by
    decide +kernel
  obtain ⟨run, hrun, hholds⟩ := Run.exists_holds_of_anyHolds h
  obtain ⟨hlow, hhigh, -⟩ := Run.holds_iff.1 hholds
  obtain hbelow | ⟨habove, hbound⟩ := hruns run hrun
  · exact .inl (by omega)
  · exact .inr ⟨by omega, by omega⟩

theorem isAlphabetic_ofNat {n : Nat} (h : Run.anyHolds alphabeticRuns n) :
    isAlphabetic (Char.ofNat n) := by
  have hcode : (Char.ofNat n).toNat = n := by
    rw [Char.ofNat, dif_pos (isValidChar_of_anyHolds h)]
    rfl
  rw [isAlphabetic, hcode]
  exact h

/-! ## Capitals of several characters -/

/-- The letters whose capital has marks of its own. -/
def markedCapitals : List Nat :=
  [0x1F0, 0x390, 0x3B0, 0x1E96, 0x1E97, 0x1E98, 0x1E99, 0x1F50, 0x1F52, 0x1F54, 0x1F56, 0x1FB6, 0x1FB7,
    0x1FC6, 0x1FC7, 0x1FD2, 0x1FD3, 0x1FD6, 0x1FD7, 0x1FE2, 0x1FE3, 0x1FE4, 0x1FE6, 0x1FE7, 0x1FF6,
    0x1FF7]

end Text

namespace Identifier

open Text

theorem mayFollow_of_isAlphabetic {c : Char} (h : isAlphabetic c) : mayFollow c := by
  rw [mayFollow, isAlphanumeric, h]
  rfl

theorem all_mayFollow_upperCase {c : Char} :
    (upperCase c).all mayFollow ↔ mayFollow c ∧ c.toNat ∉ markedCapitals := by
  have hexpansions : ∀ e ∈ capitalExpansions, (e.2.map Char.ofNat).all mayFollow =
      (mayFollow (Char.ofNat e.1) && !markedCapitals.contains e.1) := by
    decide +kernel
  have hmarked : ∀ n ∈ markedCapitals, (capitalExpansions.lookup n).isSome := by decide +kernel
  unfold upperCase
  cases hlookup : capitalExpansions.lookup c.toNat with
  | some codes =>
      obtain ⟨before, after, heq, -⟩ := List.lookup_eq_some_iff.1 hlookup
      have he := hexpansions (c.toNat, codes) (by simp [heq])
      dsimp only at he ⊢
      rw [he, Char.ofNat_toNat, Bool.and_eq_true, Bool.not_eq_true', Bool.eq_false_iff, ne_eq,
        List.contains_iff_mem]
  | none =>
      have hplain : c.toNat ∉ markedCapitals := by
        intro hmem
        have hsome := hmarked _ hmem
        rw [hlookup] at hsome
        cases hsome
      simp only [List.all_cons, List.all_nil, Bool.and_true, hplain, not_false_eq_true, and_true]
      obtain hsame | ⟨run, hrun, hholds, heq⟩ := capitalOf_cases capitalRuns c.toNat
      · rw [hsame, Char.ofNat_toNat]
      · obtain ⟨hfirst, hletter, hcapital⟩ := CapitalRun.letters run hrun
        have hcapital := Run.anyHolds_of_liesOn hcapital (run.holds_image hfirst hholds)
        rw [heq]
        exact iff_of_true (mayFollow_of_isAlphabetic (isAlphabetic_ofNat hcapital))
          (mayFollow_of_isAlphabetic (Run.anyHolds_of_liesOn hletter hholds))

/-! ## Names from parts -/

/-- Whether every character of a text may follow in a name. -/
def fits (text : String) : Bool := text.toList.all mayFollow

/-- Whether a text begins with a letter whose capital has marks of its own. -/
def beginsMarked (text : String) : Bool :=
  match text.toList with
  | [] => false
  | c :: _ => markedCapitals.contains c.toNat

variable {name text : String}

theorem fits_of_isValid (h : isValid name) : fits name :=
  List.all_eq_true.2 fun _ hc => mayFollow_of_isValid h hc

@[simp] theorem fits_append (first second : String) :
    fits (first ++ second) = (fits first && fits second) := by
  simp [fits]

theorem fits_join {texts : List String} : fits (String.join texts) ↔ ∀ text ∈ texts, fits text := by
  simp [fits]

theorem isValid_append (h : isValid name) : isValid (name ++ text) ↔ fits text := by
  obtain ⟨c, rest, hname, hstart, hrest⟩ := exists_cons_of_isValid h
  have hall := List.all_eq_true.2 hrest
  simp [isValid, fits, hname, hstart, hall]

theorem isValid_of_isValid_append (hname : name ≠ "") (h : isValid (name ++ text)) : isValid name := by
  cases hlist : name.toList with
  | nil => exact absurd (String.toList_inj.1 hlist) hname
  | cons c rest =>
      simp only [isValid, String.toList_append, hlist, List.cons_append, List.all_append,
        Bool.and_eq_true] at h ⊢
      exact ⟨h.1, h.2.1⟩

theorem beginsMarked_append (h : name ≠ "") : beginsMarked (name ++ text) = beginsMarked name := by
  cases hname : name.toList with
  | nil => exact absurd (String.toList_inj.1 hname) h
  | cons c rest => simp [beginsMarked, hname]

theorem fits_capitalized : fits (capitalized text) ↔ fits text ∧ ¬ beginsMarked text := by
  unfold fits capitalized beginsMarked
  cases text.toList with
  | nil => simp
  | cons c rest =>
      simp only [String.toList_ofList, List.all_append, List.all_cons, Bool.and_eq_true,
        all_mayFollow_upperCase, List.contains_iff_mem]
      tauto

end Identifier

end KotlinFakes
