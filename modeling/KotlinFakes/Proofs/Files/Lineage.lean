import KotlinFakes.Proofs.Files.Place
import Mathlib.Data.List.Induction

/-!
# Names of paths

The names of a path are its segments without those that count for nothing. The path above a path has
the same names but the last one, and what a path leads to depends on its names alone, unless the path
is written so that only a directory can be there.
-/

namespace KotlinFakes

namespace Path

/-- Whether a list of segments does not end with an idle one, unless all of them are idle. -/
def EndsClean (segments : List String) : Prop :=
  (∀ segment ∈ segments, isIdle segment) ∨
    ∃ before name, segments = before ++ [name] ∧ isIdle name = false

/-! ## Segments and texts -/

theorem segments_ne_nil (p : Path) : p.segments ≠ [] := by
  simpa [segments] using Text.pieces_ne_nil '/' p.text.toList

theorem not_mem_of_mem_segments {p : Path} {segment : String} (h : segment ∈ p.segments) :
    '/' ∉ segment.toList := by
  obtain ⟨piece, hpiece, rfl⟩ := List.mem_map.1 h
  simpa using Text.not_mem_of_mem_pieces hpiece

theorem joinWith_segments (p : Path) : Text.joinWith "/" p.segments = p.text :=
  (Text.joinWith_pieces '/' p.text.toList).trans (String.ofList_toList ..)

theorem segments_joinWith {segs : List String} (hne : segs ≠ [])
    (h : ∀ segment ∈ segs, '/' ∉ segment.toList) : segments ⟨Text.joinWith "/" segs⟩ = segs :=
  Text.pieces_joinWith '/' hne h

theorem isAbsolute_iff {p : Path} : p.isAbsolute ↔ ∃ rest, rest ≠ [] ∧ p.segments = "" :: rest := by
  unfold isAbsolute segments
  rw [decide_eq_true_iff]
  cases htext : p.text.toList with
  | nil => simp [Text.pieces]
  | cons c rest =>
      rw [List.head?_cons, Option.some.injEq]
      by_cases hc : c = '/'
      · subst hc
        simp [Text.pieces_ne_nil]
      · obtain ⟨piece, more, hp⟩ := Text.exists_pieces_eq_cons '/' rest
        rw [Text.pieces_cons_of_ne hc hp]
        simp [hc]

theorem text_ne_empty_of_names {p : Path} (h : p.names ≠ []) : p.text ≠ "" := by
  intro htext
  apply h
  rw [names, segments, htext]
  decide

theorem exists_segments_of_names {p : Path} {above : List String} {name : String}
    (hclean : EndsClean p.segments) (hnames : p.names = above ++ [name]) :
    ∃ before, p.segments = before ++ [name] ∧
      before.filter (fun segment => !isIdle segment) = above := by
  obtain hidle | ⟨before, last, hsegments, hlast⟩ := hclean
  · have hnone : p.names = [] := by
      rw [names, List.filter_eq_nil_iff]
      intro segment hmem
      simp [hidle segment hmem]
    rw [hnone] at hnames
    simp at hnames
  · have hfilter : p.names = before.filter (fun segment => !isIdle segment) ++ [last] := by
      rw [names, hsegments, List.filter_append]
      simp [hlast]
    obtain ⟨hbefore, heq⟩ := List.append_inj' (hfilter.symm.trans hnames) rfl
    obtain rfl := (List.cons.inj heq).1
    exact ⟨before, hsegments, hbefore⟩

/-! ## The path above a path -/

theorem withoutIdleEnd_concat (segs : List String) (segment : String) :
    withoutIdleEnd (segs ++ [segment]) =
      if isIdle segment then withoutIdleEnd segs else segs ++ [segment] := by
  rw [withoutIdleEnd, List.reverse_append, List.reverse_singleton, List.singleton_append,
    List.dropWhile_cons]
  split
  · rfl
  · simp

theorem withoutIdleEnd_spec (segs : List String) :
    (∃ idle, segs = withoutIdleEnd segs ++ idle ∧ ∀ segment ∈ idle, isIdle segment) ∧
      (withoutIdleEnd segs = [] ∨ ∃ before name, withoutIdleEnd segs = before ++ [name] ∧
        isIdle name = false) := by
  induction segs using List.reverseRecOn with
  | nil => exact ⟨⟨[], rfl, nofun⟩, .inl rfl⟩
  | append_singleton segs segment ih =>
      obtain ⟨⟨idle, hsegs, hidle⟩, hends⟩ := ih
      rw [withoutIdleEnd_concat]
      split
      · next hsegment =>
          refine ⟨⟨idle ++ [segment], ?_, ?_⟩, hends⟩
          · rw [← List.append_assoc, ← hsegs]
          · simpa [or_imp, forall_and, hsegment] using hidle
      · next hsegment =>
          exact ⟨⟨[], by simp, nofun⟩, .inr ⟨segs, segment, rfl, Bool.eq_false_iff.2 hsegment⟩⟩

theorem withoutIdleEnd_cons {segment : String} (h : isIdle segment = false) (segs : List String) :
    withoutIdleEnd (segment :: segs) = segment :: withoutIdleEnd segs := by
  induction segs using List.reverseRecOn with
  | nil => simp [withoutIdleEnd, h]
  | append_singleton segs last ih =>
      rw [← List.cons_append, withoutIdleEnd_concat, withoutIdleEnd_concat, ih]
      split <;> rfl

/-- What the path above a path is. -/
structure IsAbove (p q : Path) : Prop where
  names : q.names = p.names.dropLast
  isAbsolute : q.isAbsolute = p.isAbsolute
  endsClean : EndsClean q.segments
  text : ∃ rest, rest ≠ "" ∧ p.text = q.text ++ rest

theorem isAbove_of_kept {p : Path} {first name : String} {kept idle : List String}
    (hsegments : p.segments = first :: kept ++ idle ++ [name]) (hname : isIdle name = false)
    (hidle : ∀ segment ∈ idle, isIdle segment) (hclean : EndsClean (first :: kept))
    (hne : first = "" → kept ≠ []) : IsAbove p ⟨Text.joinWith "/" (first :: kept)⟩ := by
  have hkept : segments ⟨Text.joinWith "/" (first :: kept)⟩ = first :: kept := by
    refine segments_joinWith (List.cons_ne_nil _ _) fun segment hmem => ?_
    refine not_mem_of_mem_segments (p := p) ?_
    rw [hsegments, List.append_assoc]
    exact List.mem_append_left _ hmem
  refine ⟨?_, ?_, hkept.symm ▸ hclean, ?_⟩
  · have hnone : idle.filter (fun segment => !isIdle segment) = [] := by
      rw [List.filter_eq_nil_iff]
      intro segment hmem
      simp [hidle segment hmem]
    have hlast : [name].filter (fun segment => !isIdle segment) = [name] := by simp [hname]
    rw [Path.names, hkept, Path.names, hsegments, List.filter_append, List.filter_append, hnone, hlast,
      List.append_nil, List.dropLast_concat]
  · rw [Bool.eq_iff_iff, isAbsolute_iff, isAbsolute_iff, hkept, hsegments]
    constructor
    · rintro ⟨_, -, heq⟩
      obtain ⟨rfl, -⟩ := List.cons.inj heq
      exact ⟨kept ++ idle ++ [name], by simp, rfl⟩
    · rintro ⟨_, -, heq⟩
      obtain ⟨rfl, -⟩ := List.cons.inj heq
      exact ⟨kept, hne rfl, rfl⟩
  · rw [← joinWith_segments, hsegments, List.append_assoc, Text.joinWith_append "/" (by simp) (by simp),
      String.append_assoc]
    exact ⟨_, by simp, rfl⟩

theorem splitStart_of_not_idle {segment : String} (h : isIdle segment = false)
    (rest : List String) : splitStart (segment :: rest) = (none, segment :: rest) := by
  unfold splitStart
  split
  · next heq =>
      obtain ⟨rfl, -⟩ := List.cons.inj heq
      cases h
  · next heq =>
      obtain ⟨rfl, -⟩ := List.cons.inj heq
      cases h
  · rfl

theorem parent?_eq {p : Path} {start : Option String} {before : List String} {name : String}
    (h : splitStart p.segments = (start, before ++ [name])) (hname : isIdle name = false) :
    p.parent? = some (ofSegments start (withoutIdleEnd before)) := by
  obtain ⟨first, more, hcons⟩ := List.exists_cons_of_ne_nil (l := before ++ [name]) (by simp)
  have hends : withoutIdleEnd (before ++ [name]) = first :: more := by
    rw [withoutIdleEnd_concat, if_neg (by simp [hname]), hcons]
  have hlast : (first :: more).dropLast = before := by rw [← hcons, List.dropLast_concat]
  simp only [parent?, h, hends, hlast]

theorem isAbove_root {p : Path} {rest : List String} {name : String}
    (hsegments : p.segments = "" :: rest ++ [name]) (hname : isIdle name = false)
    (hrest : ∀ segment ∈ rest, isIdle segment) : IsAbove p ⟨"/"⟩ := by
  have hnames : p.names = [name] := by
    have hnone : ("" :: rest).filter (fun segment => !isIdle segment) = [] := by
      rw [List.filter_eq_nil_iff]
      intro segment hmem
      obtain rfl | hmem := List.mem_cons.1 hmem
      · decide
      · simp [hrest segment hmem]
    rw [names, hsegments, List.filter_append, hnone]
    simp [hname]
  have habsolute : p.isAbsolute := isAbsolute_iff.2 ⟨rest ++ [name], by simp, hsegments⟩
  refine ⟨?_, ?_, .inl (by decide), Text.joinWith "/" (rest ++ [name]), ?_, ?_⟩
  · rw [hnames]
    change names ⟨"/"⟩ = []
    decide
  · rw [habsolute]
    rfl
  · by_cases hnil : rest = []
    · rw [hnil]
      rintro rfl
      cases hname
    · rw [Text.joinWith_append "/" hnil (by simp)]
      simp
  · rw [← joinWith_segments, hsegments, List.cons_append, Text.joinWith_cons "/" (by simp)]
    simp

theorem exists_isAbove {p : Path} {before : List String} {name : String}
    (hsegments : p.segments = before ++ [name]) (hname : isIdle name = false) :
    ∃ q, p.parent? = some q ∧ IsAbove p q := by
  cases before with
  | nil =>
      have hsplit : splitStart p.segments = (none, [] ++ [name]) := by
        rw [hsegments]
        exact splitStart_of_not_idle hname []
      have hnames : p.names = [name] := by simp [names, hsegments, hname]
      have habsolute : p.isAbsolute = false := by
        rw [Bool.eq_false_iff, Ne, isAbsolute_iff, hsegments]
        simp
      refine ⟨_, parent?_eq hsplit hname, ?_, habsolute.symm, .inl (by decide), p.text, ?_, ?_⟩
      · rw [hnames]
        rfl
      · exact text_ne_empty_of_names (by simp [hnames])
      · exact (String.empty_append ..).symm
  | cons first rest =>
      obtain ⟨⟨idle, hrest, hidle⟩, hends⟩ := withoutIdleEnd_spec rest
      have habove (hne : first = "" → withoutIdleEnd rest ≠ []) :
          IsAbove p ⟨Text.joinWith "/" (first :: withoutIdleEnd rest)⟩ := by
        have hparts : p.segments = first :: withoutIdleEnd rest ++ idle ++ [name] := by
          rw [List.cons_append, ← hrest, hsegments]
        refine isAbove_of_kept hparts hname hidle ?_ hne
        obtain hnil | ⟨above, last, hlast, hnot⟩ := hends
        · rw [hnil]
          cases hfirst : isIdle first with
          | true => exact .inl (by simpa using hfirst)
          | false => exact .inr ⟨[], first, rfl, hfirst⟩
        · exact .inr ⟨first :: above, last, by rw [hlast, List.cons_append], hnot⟩
      cases hfirst : isIdle first with
      | false =>
          have hsplit : splitStart p.segments = (none, (first :: rest) ++ [name]) := by
            rw [hsegments]
            exact splitStart_of_not_idle hfirst _
          refine ⟨_, parent?_eq hsplit hname, ?_⟩
          rw [withoutIdleEnd_cons hfirst]
          refine habove ?_
          rintro rfl
          cases hfirst
      | true =>
          obtain rfl | rfl := isIdle_iff.1 hfirst
          · have hsplit : splitStart p.segments = (some "", rest ++ [name]) := by
              rw [hsegments, List.cons_append, splitStart, if_neg (by simp)]
            refine ⟨_, parent?_eq hsplit hname, ?_⟩
            by_cases hnil : withoutIdleEnd rest = []
            · rw [hnil]
              exact isAbove_root hsegments hname (by rwa [hrest, hnil, List.nil_append])
            · obtain ⟨kept, more, hcons⟩ := List.exists_cons_of_ne_nil hnil
              have hparent : ofSegments (some "") (withoutIdleEnd rest) =
                  ⟨Text.joinWith "/" ("" :: withoutIdleEnd rest)⟩ := by rw [hcons]; rfl
              rw [hparent]
              exact habove fun _ => hnil
          · have hsplit : splitStart p.segments = (some ".", rest ++ [name]) := by
              rw [hsegments]
              rfl
            refine ⟨_, parent?_eq hsplit hname, ?_⟩
            exact habove fun hempty => absurd hempty (by decide)

end Path

end KotlinFakes
