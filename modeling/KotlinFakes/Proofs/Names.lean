import KotlinFakes.Identifier
import KotlinFakes.Proofs.Text.Readable
import KotlinFakes.QualifiedName
import KotlinFakes.Text.Blank

/-!
# Names and dotted names

Which characters names are made of, and how a dotted name is cut into package and class path without
anything being lost.
-/

namespace KotlinFakes

namespace Identifier

/-- Whether a text is made of names with dots between them. -/
def isDotted (text : String) : Bool := (Text.segments text).all isValid

/-- Whether a character can occur in a dotted name. -/
def inDotted (c : Char) : Bool := mayFollow c || c = '.'

/-- The characters with which generated texts and file names part names from what is around them. -/
def separators : List Char :=
  ['\n', ' ', '.', '<', '>', '(', ')', ':', ',', '?', '&', '=', '$', '*', '-', '#', '/', '`', '\x00']

theorem mayFollow_of_mayStart {c : Char} (h : mayStart c) : mayFollow c := by
  simp only [mayStart, mayFollow, Text.isAlphanumeric, Bool.or_eq_true] at h ⊢
  exact h.imp_left Or.inl

theorem not_mayFollow_of_mem_separators : ∀ c ∈ separators, mayFollow c = false := by
  have hall : separators.all fun c => !mayFollow c := by decide
  simpa using hall

theorem exists_cons_of_isValid {name : String} (h : isValid name) :
    ∃ c rest, name.toList = c :: rest ∧ mayStart c ∧ ∀ d ∈ rest, mayFollow d := by
  unfold isValid at h
  split at h
  · exact absurd h Bool.false_ne_true
  · next c rest hc =>
      rw [Bool.and_eq_true, List.all_eq_true] at h
      exact ⟨c, rest, hc, h⟩

theorem isValid_ne_empty {name : String} (h : isValid name) : name ≠ "" := by
  rintro rfl
  simp [isValid] at h

theorem mayFollow_of_isValid {name : String} (h : isValid name) {c : Char} (hc : c ∈ name.toList) :
    mayFollow c := by
  obtain ⟨d, rest, hname, hd, hrest⟩ := exists_cons_of_isValid h
  rw [hname, List.mem_cons] at hc
  obtain rfl | hc := hc
  · exact mayFollow_of_mayStart hd
  · exact hrest c hc

theorem not_mem_of_isValid {name : String} (h : isValid name) {c : Char} (hc : c ∈ separators) :
    c ∉ name.toList := fun hmem => by
  simpa [mayFollow_of_isValid h hmem] using not_mayFollow_of_mem_separators c hc

end Identifier

namespace Text

theorem exists_pieces_eq_cons (separator : Char) (text : List Char) :
    ∃ piece more, pieces separator text = piece :: more :=
  List.exists_cons_of_ne_nil (pieces_ne_nil separator text)

@[simp] theorem pieces_cons_self (separator : Char) (rest : List Char) :
    pieces separator (separator :: rest) = [] :: pieces separator rest := by
  simp [pieces]

theorem pieces_cons_of_ne {separator c : Char} {rest piece : List Char} {more : List (List Char)}
    (hc : c ≠ separator) (h : pieces separator rest = piece :: more) :
    pieces separator (c :: rest) = (c :: piece) :: more := by
  simp [pieces, hc, h]

theorem mem_of_mem_pieces (separator : Char) {c : Char} {text : List Char} (h : c ∈ text) :
    c = separator ∨ ∃ piece ∈ pieces separator text, c ∈ piece := by
  induction text with
  | nil => simp at h
  | cons d rest ih =>
      by_cases hd : d = separator
      · subst hd
        obtain rfl | h := List.mem_cons.1 h
        · exact .inl rfl
        · exact (ih h).imp_right fun ⟨piece, hpiece, hc⟩ => ⟨piece, by simp [hpiece], hc⟩
      · obtain ⟨piece, more, hp⟩ := exists_pieces_eq_cons separator rest
        rw [pieces_cons_of_ne hd hp]
        rw [hp] at ih
        obtain rfl | h := List.mem_cons.1 h
        · exact .inr ⟨c :: piece, by simp⟩
        · refine (ih h).imp_right fun ⟨other, hother, hc⟩ => ?_
          obtain rfl | hother := List.mem_cons.1 hother
          · exact ⟨d :: other, by simp, List.mem_cons_of_mem _ hc⟩
          · exact ⟨other, List.mem_cons_of_mem _ hother, hc⟩

theorem not_mem_of_mem_pieces {separator : Char} {text piece : List Char}
    (h : piece ∈ pieces separator text) : separator ∉ piece := by
  induction text generalizing piece with
  | nil => simp_all [pieces]
  | cons c rest ih =>
      by_cases hc : c = separator
      · subst hc
        rw [pieces_cons_self, List.mem_cons] at h
        obtain rfl | h := h
        · simp
        · exact ih h
      · obtain ⟨first, more, hp⟩ := exists_pieces_eq_cons separator rest
        rw [hp] at ih
        rw [pieces_cons_of_ne hc hp, List.mem_cons] at h
        obtain rfl | h := h
        · exact List.not_mem_cons_of_ne_of_not_mem (Ne.symm hc) (ih List.mem_cons_self)
        · exact ih (List.mem_cons_of_mem _ h)

theorem subset_of_mem_pieces {separator : Char} {text piece : List Char}
    (h : piece ∈ pieces separator text) : piece ⊆ text := by
  induction text generalizing piece with
  | nil => simp_all [pieces]
  | cons c rest ih =>
      by_cases hc : c = separator
      · subst hc
        rw [pieces_cons_self, List.mem_cons] at h
        obtain rfl | h := h
        · exact List.nil_subset _
        · exact List.subset_cons_of_subset c (ih h)
      · obtain ⟨first, more, hp⟩ := exists_pieces_eq_cons separator rest
        rw [hp] at ih
        rw [pieces_cons_of_ne hc hp, List.mem_cons] at h
        obtain rfl | h := h
        · exact List.cons_subset_cons c (ih List.mem_cons_self)
        · exact List.subset_cons_of_subset c (ih (List.mem_cons_of_mem _ h))

theorem pieces_of_not_mem {separator : Char} {text : List Char} (h : separator ∉ text) :
    pieces separator text = [text] := by
  induction text with
  | nil => rfl
  | cons c rest ih =>
      obtain ⟨hc, hrest⟩ := List.ne_and_not_mem_of_not_mem_cons h
      exact pieces_cons_of_ne (Ne.symm hc) (ih hrest)

theorem pieces_append_cons (separator : Char) (before after : List Char) :
    pieces separator (before ++ separator :: after) =
      pieces separator before ++ pieces separator after := by
  induction before with
  | nil => simp [pieces]
  | cons c rest ih =>
      by_cases hc : c = separator
      · subst hc
        simp [ih]
      · obtain ⟨piece, more, hp⟩ := exists_pieces_eq_cons separator rest
        rw [hp, List.cons_append] at ih
        rw [List.cons_append, pieces_cons_of_ne hc ih, pieces_cons_of_ne hc hp, List.cons_append]

theorem cut_append_cons {separator : Char} {before after : List Char} (h : separator ∉ before) :
    cut separator (before ++ separator :: after) = some (before, after) := by
  induction before with
  | nil => simp [cut]
  | cons c rest ih =>
      obtain ⟨hc, hrest⟩ := List.ne_and_not_mem_of_not_mem_cons h
      simp [cut, Ne.symm hc, ih hrest]

theorem getLast?_append (text ending : String) {c : Char}
    (h : ending.toList.getLast? = some c) : (text ++ ending).toList.getLast? = some c := by
  rw [String.toList_append, List.getLast?_append, h, Option.some_or]

theorem joinWith_append (separator : String) {before after : List String} (hb : before ≠ [])
    (ha : after ≠ []) :
    joinWith separator (before ++ after) =
      joinWith separator before ++ separator ++ joinWith separator after := by
  induction before with
  | nil => exact absurd rfl hb
  | cons text rest ih =>
      by_cases hrest : rest = []
      · subst hrest
        exact joinWith_cons separator ha
      · rw [List.cons_append, joinWith_cons separator (by simp [ha]), ih hrest,
          joinWith_cons separator hrest]
        simp only [String.append_assoc]

theorem segments_ne_nil (text : String) : segments text ≠ [] := by
  simpa [segments] using pieces_ne_nil '.' text.toList

theorem not_mem_of_mem_segments {text segment : String} (h : segment ∈ segments text) :
    '.' ∉ segment.toList := by
  obtain ⟨piece, hpiece, rfl⟩ := List.mem_map.1 h
  rw [String.toList_ofList]
  exact not_mem_of_mem_pieces hpiece

theorem joinWith_segments (text : String) : joinWith "." (segments text) = text :=
  (joinWith_pieces '.' text.toList).trans (String.ofList_toList ..)

theorem pieces_joinWith (separator : Char) {texts : List String} (hne : texts ≠ [])
    (h : ∀ text ∈ texts, separator ∉ text.toList) :
    (pieces separator (joinWith (String.singleton separator) texts).toList).map String.ofList =
      texts := by
  induction texts with
  | nil => exact absurd rfl hne
  | cons text rest ih =>
      have htext := h text List.mem_cons_self
      cases rest with
      | nil =>
          rw [joinWith, pieces_of_not_mem htext]
          simp
      | cons next rest =>
          have hrest := ih (by simp) fun text hmem => h text (List.mem_cons_of_mem _ hmem)
          have hjoined : (joinWith (String.singleton separator) (text :: next :: rest)).toList =
              text.toList ++
                separator :: (joinWith (String.singleton separator) (next :: rest)).toList := by
            simp [joinWith]
          rw [hjoined, pieces_append_cons, pieces_of_not_mem htext, List.map_append, hrest]
          simp

theorem segments_joinWith {names : List String} (hne : names ≠ [])
    (h : ∀ name ∈ names, '.' ∉ name.toList) : segments (joinWith "." names) = names :=
  pieces_joinWith '.' hne h

end Text

namespace Identifier

theorem inDotted_of_isDotted {text : String} (h : isDotted text) {c : Char}
    (hc : c ∈ text.toList) : inDotted c := by
  unfold inDotted
  obtain rfl | ⟨piece, hpiece, hc⟩ := Text.mem_of_mem_pieces '.' hc
  · simp
  · have hvalid := List.all_eq_true.1 h _ (List.mem_map_of_mem hpiece)
    rw [mayFollow_of_isValid hvalid (by simpa using hc), Bool.true_or]

theorem exists_cons_of_isDotted {text : String} (h : isDotted text) :
    ∃ c rest, text.toList = c :: rest ∧ mayStart c := by
  unfold isDotted Text.segments at h
  cases htext : text.toList with
  | nil => simp [htext, Text.pieces, isValid] at h
  | cons c rest =>
      rw [htext] at h
      by_cases hc : c = '.'
      · simp [hc, isValid] at h
      · obtain ⟨piece, more, hp⟩ := Text.exists_pieces_eq_cons '.' rest
        simp only [Text.pieces_cons_of_ne hc hp, List.map_cons, List.all_cons, Bool.and_eq_true] at h
        obtain ⟨d, others, hd, hstart, -⟩ := exists_cons_of_isValid h.1
        simp only [String.toList_ofList, List.cons.injEq] at hd
        exact ⟨c, rest, rfl, hd.1 ▸ hstart⟩

end Identifier

namespace Text

/-- The code points from the first to the last of a run. -/
def Run.codes (run : Run) : List Nat := (List.range (run.last + 1 - run.first)).map (run.first + ·)

theorem Run.mem_codes_of_anyHolds {runs : List Run} {n : Nat} (h : Run.anyHolds runs n) :
    n ∈ runs.flatMap Run.codes := by
  induction runs with
  | nil => simp [Run.anyHolds] at h
  | cons run rest ih =>
      rw [List.flatMap_cons, List.mem_append]
      unfold Run.anyHolds at h
      split at h
      · simp only [Run.holds, Bool.and_eq_true, decide_eq_true_iff] at h
        refine .inl (List.mem_map.2 ⟨n - run.first, ?_, by omega⟩)
        rw [List.mem_range]
        omega
      · exact .inr (ih h)

theorem isBlank_eq_false_of_inDotted {c : Char} (h : Identifier.inDotted c) : isBlank c = false := by
  have hblank : ∀ n ∈ blankRuns.flatMap Run.codes, Identifier.inDotted (Char.ofNat n) = false := by
    decide +kernel
  refine Bool.eq_false_iff.2 fun hc => ?_
  have hnot := hblank _ (Run.mem_codes_of_anyHolds hc)
  rw [Char.ofNat_toNat, h] at hnot
  cases hnot

end Text

namespace QualifiedName

theorem packageLength_lt {segments : List String} (h : segments ≠ []) :
    packageLength segments < segments.length := by
  have hpos := List.length_pos_iff.2 h
  unfold packageLength
  cases hfind : segments.findIdx? startsClass with
  | none => simpa using Nat.sub_one_lt_of_lt hpos
  | some i => exact (List.findIdx?_eq_some_iff_getElem.1 hfind).1

/-- Segments joined in two parts make the whole again, unless the first part is lost because it is one empty
    segment. -/
theorem within_joinWith {segments : List String} {n : Nat} (hn : n < segments.length)
    (h : Text.joinWith "." (segments.take n) = "" → n = 0) :
    within (Text.joinWith "." (segments.take n)) (Text.joinWith "." (segments.drop n)) =
      Text.joinWith "." segments := by
  have hdrop : segments.drop n ≠ [] := by simpa using hn
  unfold within
  split
  · next hempty => rw [h hempty, List.drop_zero]
  · next hne =>
      have htake : segments.take n ≠ [] := fun hnil => hne (by rw [hnil]; rfl)
      rw [← Text.joinWith_append "." htake hdrop, List.take_append_drop]

/-- Cutting a dotted name and putting it together again gives it back, unless the package is lost. -/
theorem full_parse_of_package {dotted : String}
    (h : (parse dotted).package = "" → packageLength (Text.segments dotted) = 0) :
    (parse dotted).full = dotted :=
  (within_joinWith (packageLength_lt (Text.segments_ne_nil dotted)) h).trans
    (Text.joinWith_segments dotted)

theorem full_parse {dotted : String} (h : (Text.segments dotted).head? ≠ some "") :
    (parse dotted).full = dotted := by
  refine full_parse_of_package fun hempty => ?_
  obtain ⟨first, rest, hsegments⟩ := List.exists_cons_of_ne_nil (Text.segments_ne_nil dotted)
  rw [parse, hsegments] at hempty
  rw [hsegments] at h ⊢
  cases hlength : packageLength (first :: rest) with
  | zero => rfl
  | succ n =>
      rw [hlength, List.take_succ_cons] at hempty
      have hjoined := congrArg String.toList hempty
      rw [Text.toList_joinWith] at hjoined
      obtain rfl : first = "" := String.toList_inj.1 (List.append_eq_nil_iff.1 hjoined).1
      exact absurd rfl h

theorem full_parse_of_isDotted {dotted : String} (h : Identifier.isDotted dotted) :
    (parse dotted).full = dotted := by
  refine full_parse fun hempty => ?_
  have := List.all_eq_true.1 h "" (List.mem_of_head? hempty)
  exact Identifier.isValid_ne_empty this rfl

theorem segments_simple_parse (dotted : String) :
    Text.segments (parse dotted).simple =
      (Text.segments dotted).drop (packageLength (Text.segments dotted)) := by
  have hlt := packageLength_lt (Text.segments_ne_nil dotted)
  exact Text.segments_joinWith (by simpa using hlt) fun name hname =>
    Text.not_mem_of_mem_segments (List.mem_of_mem_drop hname)

theorem packageLength_drop {segments : List String} (h : segments ≠ []) :
    packageLength (segments.drop (packageLength segments)) = 0 := by
  have hlt := packageLength_lt h
  cases hfind : segments.findIdx? startsClass with
  | none =>
      have hlength : packageLength segments = segments.length - 1 := by simp [packageLength, hfind]
      have hdrop : segments.drop (packageLength segments) ≠ [] := by simpa using hlt
      have hlast := packageLength_lt hdrop
      rw [List.length_drop] at hlast
      omega
  | some i =>
      have hi : packageLength segments = i := by simp [packageLength, hfind]
      obtain ⟨hlength, hclass, -⟩ := List.findIdx?_eq_some_iff_getElem.1 hfind
      rw [hi, packageLength, List.drop_eq_getElem_cons hlength, List.findIdx?_cons, hclass]
      rfl

/-- Whether a name is cut from a dotted name. -/
def IsCut (name : QualifiedName) : Prop := ∃ dotted, Identifier.isDotted dotted ∧ name = parse dotted

namespace IsCut

variable {name other : QualifiedName}

theorem isDotted_full (h : name.IsCut) : Identifier.isDotted name.full := by
  obtain ⟨dotted, hdotted, rfl⟩ := h
  rwa [full_parse_of_isDotted hdotted]

theorem eq_of_full_eq (h : name.IsCut) (ho : other.IsCut) (heq : name.full = other.full) :
    name = other := by
  obtain ⟨dotted, hdotted, rfl⟩ := h
  obtain ⟨dotted', hdotted', rfl⟩ := ho
  rw [full_parse_of_isDotted hdotted, full_parse_of_isDotted hdotted'] at heq
  rw [heq]

theorem isDotted_simple (h : name.IsCut) : Identifier.isDotted name.simple := by
  obtain ⟨dotted, hdotted, rfl⟩ := h
  rw [Identifier.isDotted, segments_simple_parse]
  exact List.all_eq_true.2 fun segment hsegment =>
    List.all_eq_true.1 hdotted segment (List.mem_of_mem_drop hsegment)

theorem simple_ne_full (h : name.IsCut) (ho : other.IsCut) (hpackage : other.package ≠ "") :
    name.simple ≠ other.full := by
  obtain ⟨dotted, hdotted, rfl⟩ := h
  obtain ⟨dotted', hdotted', rfl⟩ := ho
  intro heq
  rw [full_parse_of_isDotted hdotted'] at heq
  apply hpackage
  have hlength : packageLength (Text.segments dotted') = 0 := by
    rw [← heq, segments_simple_parse]
    exact packageLength_drop (Text.segments_ne_nil dotted)
  simp [parse, hlength, Text.joinWith]

end IsCut

theorem inDotted_within {package name : String} (hpackage : package = "" ∨ Identifier.isDotted package)
    (hname : Identifier.isValid name) :
    ∀ c ∈ (within package name).toList, Identifier.inDotted c := by
  have hname : ∀ c ∈ name.toList, Identifier.inDotted c := fun c hc => by
    rw [Identifier.inDotted, Identifier.mayFollow_of_isValid hname hc, Bool.true_or]
  unfold within
  split
  · exact hname
  · next hne =>
      have hpackage := hpackage.resolve_left hne
      simp only [String.toList_append, List.forall_mem_append]
      have hdot : ∀ c ∈ ".".toList, Identifier.inDotted c := List.all_eq_true.1 (by decide)
      exact ⟨⟨fun c hc => Identifier.inDotted_of_isDotted hpackage hc, hdot⟩, hname⟩

theorem within_inj {package package' name name' : String} (hname : '.' ∉ name.toList)
    (hname' : '.' ∉ name'.toList) (h : within package name = within package' name') :
    package = package' ∧ name = name' := by
  have hdot (package : String) {name : String} : '.' ∈ (package ++ "." ++ name).toList := by simp
  unfold within at h
  split at h
  · next hempty =>
      split at h
      · next hempty' => exact ⟨hempty.trans hempty'.symm, h⟩
      · exact absurd (h ▸ hdot package') hname
  · split at h
    · exact absurd (h.symm ▸ hdot package) hname'
    · -- Read from the right, the name ends at the first dot.
      have h := congrArg (fun text : String => text.toList.reverse) h
      simp only [String.toList_append, List.reverse_append, List.append_assoc] at h
      have hrun {name : String} (hname : '.' ∉ name.toList) :
          ∀ c ∈ name.toList.reverse, (c != '.') = true :=
        fun c hc => bne_iff_ne.2 (ne_of_mem_of_not_mem (List.mem_reverse.1 hc) hname)
      obtain ⟨hnames, hpackages⟩ :=
        Text.run_append_inj (hrun hname) (hrun hname') (by simp) (by simp) h
      exact ⟨String.toList_inj.1 (by simpa using hpackages),
        String.toList_inj.1 (by simpa using hnames)⟩

end QualifiedName

end KotlinFakes
