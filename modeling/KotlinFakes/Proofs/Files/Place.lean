import KotlinFakes.Files.Disk
import KotlinFakes.Proofs.Names

/-!
# Places of paths

The place that a path leads to, if it leads anywhere, can be read from the path and the working
directory alone. Appending plain names to a path appends them to its place, and the draft of a path is
always somewhere else than the path.
-/

namespace KotlinFakes

namespace Path

/-- Where a segment leads from a place. -/
def step (here : Place) (segment : String) : Place :=
  if segment = "" ∨ segment = "." then here
  else if segment = ".." then here.dropLast
  else here ++ [segment]

/-- Where a path leads from a working directory, if nothing is in the way. -/
def place (home : Place) (p : Path) : Place :=
  p.segments.foldl step (if p.isAbsolute then [] else home)

/-- The segments of a path that say something. -/
def names (p : Path) : List String := p.segments.filter fun segment => !isIdle segment

/-- Where the names of a path start. -/
def root (home : Place) (p : Path) : Place := if p.isAbsolute then [] else home

/-- Whether a segment is the name of a file or a directory. -/
structure IsPlain (segment : String) : Prop where
  ne_empty : segment ≠ ""
  ne_dot : segment ≠ "."
  ne_dots : segment ≠ ".."
  not_mem : '/' ∉ segment.toList

theorem IsPlain.step {segment : String} (h : IsPlain segment) (here : Place) :
    Path.step here segment = here ++ [segment] := by
  simp [Path.step, h.ne_empty, h.ne_dot, h.ne_dots]

theorem isIdle_iff {segment : String} : isIdle segment ↔ segment = "" ∨ segment = "." := by
  simp [isIdle]

theorem IsPlain.not_idle {segment : String} (h : IsPlain segment) : isIdle segment = false := by
  simp [isIdle, h.ne_empty, h.ne_dot]

theorem place_eq_names (home : Place) (p : Path) :
    p.place home = p.names.foldl step (p.root home) := by
  rw [place, names, root]
  generalize (if p.isAbsolute then [] else home) = here
  induction p.segments generalizing here with
  | nil => rfl
  | cons segment rest ih =>
      cases hidle : isIdle segment with
      | true =>
          have hstep : step here segment = here := if_pos (isIdle_iff.1 hidle)
          rw [List.foldl_cons, hstep, ih, List.filter_cons_of_neg (by simp [hidle])]
      | false => rw [List.foldl_cons, ih, List.filter_cons_of_pos (by simp [hidle]), List.foldl_cons]

theorem segments_of_not_mem {segment : String} (h : '/' ∉ segment.toList) :
    segments ⟨segment⟩ = [segment] := by
  simp [segments, Text.pieces_of_not_mem h]

theorem segments_slash_append (before after : String) :
    segments ⟨before ++ "/" ++ after⟩ = segments ⟨before⟩ ++ segments ⟨after⟩ := by
  have htext : (before ++ "/" ++ after).toList = before.toList ++ '/' :: after.toList := by simp
  rw [segments, htext, Text.pieces_append_cons, List.map_append]
  rfl

theorem segments_slash (before : String) {segment : String} (h : '/' ∉ segment.toList) :
    segments ⟨before ++ "/" ++ segment⟩ = segments ⟨before⟩ ++ [segment] := by
  rw [segments_slash_append, segments_of_not_mem h]

theorem isAbsolute_append {before : String} (h : before ≠ "") (after : String) :
    isAbsolute ⟨before ++ after⟩ = isAbsolute ⟨before⟩ := by
  cases hbefore : before.toList with
  | nil => exact absurd (String.toList_inj.1 hbefore) h
  | cons c rest => simp [isAbsolute, hbefore]

theorem isAbsolute_of_not_mem {segment : String} (h : '/' ∉ segment.toList) :
    isAbsolute ⟨segment⟩ = false := by
  rw [isAbsolute, decide_eq_false_iff_not]
  exact fun hhead => h (List.mem_of_head? hhead)

theorem segments_join_of_relative (p : Path) {segment : String} (h : isAbsolute ⟨segment⟩ = false) :
    ∃ before, (p.join segment).segments = before ++ segments ⟨segment⟩ ∧
      before.filter (fun other => !isIdle other) = p.names ∧
      (p.join segment).isAbsolute = p.isAbsolute := by
  unfold join
  rw [h, if_neg Bool.false_ne_true]
  obtain ⟨text⟩ := p
  by_cases hempty : text = ""
  · subst hempty
    refine ⟨[], ?_, rfl, ?_⟩
    · simp
    · simp only [decide_true, Bool.true_or, if_true, String.empty_append]
      exact h
  · by_cases hslash : text.toList.getLast? = some '/'
    · obtain ⟨before, rfl⟩ : ∃ before : String, text = before ++ "/" := by
        obtain ⟨cs, hcs⟩ := List.getLast?_eq_some_iff.1 hslash
        exact ⟨String.ofList cs, String.toList_inj.1 (by simp [hcs])⟩
      have hsegments : segments ⟨before ++ "/"⟩ = segments ⟨before⟩ ++ [""] := by
        simpa using segments_slash before (by simp : '/' ∉ "".toList)
      simp only [hempty, hslash, decide_true, Bool.or_true, if_true]
      refine ⟨segments ⟨before⟩, segments_slash_append before segment, ?_, isAbsolute_append hempty _⟩
      rw [names, hsegments, List.filter_append]
      exact (List.append_nil _).symm
    · simp only [hempty, hslash, decide_false, Bool.or_self, if_false, Bool.false_eq_true]
      refine ⟨segments ⟨text⟩, segments_slash_append text segment, rfl, ?_⟩
      rw [String.append_assoc]
      exact isAbsolute_append hempty _

theorem segments_join (p : Path) {segment : String} (h : IsPlain segment) :
    ∃ before, (p.join segment).segments = before ++ [segment] ∧
      before.filter (fun other => !isIdle other) = p.names ∧
      (p.join segment).isAbsolute = p.isAbsolute := by
  rw [← segments_of_not_mem h.not_mem]
  exact p.segments_join_of_relative (isAbsolute_of_not_mem h.not_mem)

theorem names_join (p : Path) {segment : String} (h : IsPlain segment) :
    (p.join segment).names = p.names ++ [segment] := by
  obtain ⟨before, hsegments, hnames, -⟩ := p.segments_join h
  rw [names, hsegments, List.filter_append, hnames]
  simp [h.not_idle]

theorem root_join (p : Path) {segment : String} (h : IsPlain segment) (home : Place) :
    (p.join segment).root home = p.root home := by
  obtain ⟨before, -, -, habsolute⟩ := p.segments_join h
  rw [root, root, habsolute]

theorem place_join {p : Path} {segment : String} (h : IsPlain segment) (home : Place) :
    (p.join segment).place home = p.place home ++ [segment] := by
  rw [place_eq_names, place_eq_names, names_join p h, root_join p h, List.foldl_append,
    List.foldl_cons, List.foldl_nil, h.step]

theorem names_joinAll {segments : List String} (h : ∀ segment ∈ segments, IsPlain segment)
    (p : Path) : (p.joinAll segments).names = p.names ++ segments := by
  induction segments generalizing p with
  | nil => simp [joinAll]
  | cons segment rest ih =>
      have hrest := ih (fun s hs => h s (List.mem_cons_of_mem _ hs)) (p.join segment)
      rw [joinAll, List.foldl_cons, ← joinAll, hrest, names_join p (h segment (by simp))]
      simp

theorem root_joinAll {segments : List String} (h : ∀ segment ∈ segments, IsPlain segment)
    (p : Path) (home : Place) : (p.joinAll segments).root home = p.root home := by
  induction segments generalizing p with
  | nil => rfl
  | cons segment rest ih =>
      have hrest := ih (fun s hs => h s (List.mem_cons_of_mem _ hs)) (p.join segment)
      rw [joinAll, List.foldl_cons, ← joinAll, hrest, root_join p (h segment (by simp))]

theorem foldl_step_of_isPlain {names : List String} (h : ∀ name ∈ names, IsPlain name)
    (here : Place) : names.foldl step here = here ++ names := by
  induction names generalizing here with
  | nil => simp
  | cons name rest ih =>
      rw [List.foldl_cons, (h name (by simp)).step, ih fun s hs => h s (List.mem_cons_of_mem _ hs)]
      simp

theorem place_joinAll {segments : List String} (h : ∀ segment ∈ segments, IsPlain segment)
    (p : Path) (home : Place) : (p.joinAll segments).place home = p.place home ++ segments := by
  rw [place_eq_names, place_eq_names, names_joinAll h, root_joinAll h, List.foldl_append,
    foldl_step_of_isPlain h]

/-! ## Drafts -/

theorem draft_join (p : Path) {segment : String} (h : segment ≠ "") :
    (p.join segment).draft = p.join (segment ++ ".tmp") := by
  have habsolute := isAbsolute_append h ".tmp"
  unfold join draft extended
  rw [habsolute]
  split
  · rfl
  · split <;> simp [String.append_assoc]

theorem IsPlain.draft {segment : String} (h : '/' ∉ segment.toList) :
    IsPlain (segment ++ ".tmp") := by
  have hlast (other : String) (hother : other.toList.getLast? ≠ some 'p') :
      segment ++ ".tmp" ≠ other := fun heq => by
    apply hother
    rw [← heq]
    exact Text.getLast?_append segment _ (by decide)
  refine ⟨hlast _ (by decide), hlast _ (by decide), hlast _ (by decide), ?_⟩
  simpa using h

theorem exists_segments_eq (text : String) :
    ∃ before last : String, '/' ∉ last.toList ∧
      (text = last ∨ text = before ++ "/" ++ last) := by
  by_cases h : '/' ∈ text.toList.reverse
  · obtain ⟨after, before, heq, hafter⟩ := List.eq_append_cons_of_mem h
    refine ⟨String.ofList before.reverse, String.ofList after.reverse, by simpa using hafter,
      .inr (String.toList_inj.1 ?_)⟩
    simpa using congrArg List.reverse heq
  · exact ⟨"", text, by simpa using h, .inl rfl⟩

/-- A draft has a name that ends in `.tmp`, where the path itself ends without that. -/
theorem exists_place_draft (p : Path) (home : Place) :
    ∃ before directory name, p.segments = before ++ [name] ∧ p.place home = step directory name ∧
      p.draft.place home = directory ++ [name ++ ".tmp"] := by
  obtain ⟨text⟩ := p
  obtain ⟨before, last, hlast, htext⟩ := exists_segments_eq text
  have hplain : IsPlain (last ++ ".tmp") := .draft hlast
  obtain rfl | rfl := htext
  · refine ⟨[], home, text, segments_of_not_mem hlast, ?_, ?_⟩
    · simp [place, segments_of_not_mem hlast, isAbsolute_of_not_mem hlast]
    · simp [draft, extended, place, segments_of_not_mem hplain.not_mem,
        isAbsolute_of_not_mem hplain.not_mem, hplain.step]
  · have hne : before ++ "/" ≠ "" := by simp
    refine ⟨segments ⟨before⟩, (segments ⟨before⟩).foldl step
      (if isAbsolute ⟨before ++ "/"⟩ then [] else home), last, segments_slash before hlast, ?_, ?_⟩
    · simp only [place, segments_slash before hlast, isAbsolute_append hne, List.foldl_append,
        List.foldl_cons, List.foldl_nil]
    · have hsegments := segments_slash before hplain.not_mem
      have habsolute := isAbsolute_append hne (last ++ ".tmp")
      rw [← String.append_assoc] at hsegments habsolute
      simp only [draft, extended, place, hsegments, habsolute, List.foldl_append, List.foldl_cons,
        List.foldl_nil, hplain.step]

theorem place_draft_join {p : Path} {segment : String} (h : IsPlain segment) (home : Place) :
    (p.join segment).draft.place home = p.place home ++ [segment ++ ".tmp"] := by
  rw [draft_join p h.ne_empty, place_join (.draft h.not_mem)]

end Path

namespace Disk

theorem foldl_step_of_all_empty {rest : List String} (h : rest.all (· = "")) (here : Place) :
    rest.foldl Path.step here = here := by
  induction rest with
  | nil => rfl
  | cons name rest ih =>
      simp only [List.all_cons, Bool.and_eq_true, decide_eq_true_iff] at h
      simp [h.1, Path.step, ih h.2]

theorem place_of_follow {disk : Disk} {here : Place} {names : List String} {target : Target}
    (h : disk.follow here names = .ok target) : target.place = names.foldl Path.step here := by
  induction names generalizing here with
  | nil =>
      rw [follow, Except.ok.injEq] at h
      rw [← h, List.foldl_nil]
  | cons name rest ih =>
      rw [follow] at h
      rw [List.foldl_cons]
      split at h
      · next hname => simpa [Path.step, hname] using ih h
      · split at h
        · next hname => simpa [Path.step, hname] using ih h
        · split at h
          · next hname => simpa [Path.step, hname] using ih h
          · next hempty hdot hdots =>
              have hstep : Path.step here name = here ++ [name] := by
                simp [Path.step, hempty, hdot, hdots]
              rw [hstep]
              split at h
              · cases h
              · split at h
                · next hrest =>
                    rw [foldl_step_of_all_empty hrest, ← Except.ok.inj h]
                · split at h
                  · exact ih h
                  · cases h
                  · cases h

/-- A path leads to its place or nowhere. -/
theorem place_of_target {disk : Disk} {path : Path} {target : Target}
    (h : disk.target path = .ok target) : target.place = path.place disk.home := by
  unfold Disk.target at h
  split at h
  · cases h
  · split at h
    · cases h
    · split at h
      · cases h
      · exact place_of_follow h

end Disk

end KotlinFakes
