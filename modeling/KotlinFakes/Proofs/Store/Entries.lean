import KotlinFakes.Proofs.Text.Trimming
import KotlinFakes.Store.Entries

/-!
# Reading entries back

Entries are written so that they can be read back: one that is appended to a text of whole lines is
read as recorded last, and the entries that were rendered are parsed as they were. This takes ids and
digests without the characters that have a meaning in the text.
-/

namespace KotlinFakes

namespace Entries

open Text

/-! ## Lines -/

/-- Whether an entry is read back from its line: there is no blank in it, and no mark in its id. -/
structure IsTidy (id digest : String) : Prop where
  id_ne_empty : id ≠ ""
  digest_ne_empty : digest ≠ ""
  id_chars : ∀ c ∈ id.toList, c ≠ '=' ∧ c ≠ '#' ∧ isBlank c = false
  digest_chars : ∀ c ∈ digest.toList, isBlank c = false

/-- Whether an entry can be read back from its line: there are no blanks at the ends of its id and its
    digest, and its line is neither broken, nor cut within the id, nor taken for a remark. -/
structure IsEntry (id digest : String) : Prop where
  id_ne_empty : id ≠ ""
  digest_ne_empty : digest ≠ ""
  id_trimmed : IsTrimmed id.toList
  digest_trimmed : IsTrimmed digest.toList
  unmarked : id.toList.head? ≠ some '#'
  uncut : '=' ∉ id.toList
  unbroken : '\n' ∉ id.toList ++ '=' :: digest.toList

theorem IsTidy.isEntry {id digest : String} (h : IsTidy id digest) : IsEntry id digest where
  id_ne_empty := h.id_ne_empty
  digest_ne_empty := h.digest_ne_empty
  id_trimmed := isTrimmed_of_not_blank fun c hc => (h.id_chars c hc).2.2
  digest_trimmed := isTrimmed_of_not_blank h.digest_chars
  unmarked hmark := (h.id_chars '#' (List.mem_of_head? hmark)).2.1 rfl
  uncut hmem := (h.id_chars '=' hmem).1 rfl
  unbroken hmem := by
    simp only [List.mem_append, List.mem_cons] at hmem
    obtain hmem | hmem | hmem := hmem
    · exact absurd (h.id_chars _ hmem).2.2 (by decide)
    · exact absurd hmem (by decide)
    · exact absurd (h.digest_chars _ hmem) (by decide)

theorem readLine?_eq_some_iff {text : List Char} {id digest : String} :
    readLine? text = some (id, digest) ↔
      (trim text).head? ≠ some '#' ∧ ∃ before after, cut '=' (trim text) = some (before, after) ∧
        trim before = id.toList ∧ trim after = digest.toList ∧ id ≠ "" ∧ digest ≠ "" := by
  have hempty (text : String) : text ≠ "" ↔ text.toList ≠ [] := by
    rw [ne_eq, ← String.toList_inj]
    rfl
  rw [hempty, hempty]
  unfold readLine?
  split
  · next htrim => simp [htrim, cut]
  · next htrim => simp [htrim]
  · next htrim hmark =>
      have hhead : (trim text).head? ≠ some '#' := by
        intro h
        obtain ⟨rest, hrest⟩ := List.head?_eq_some_iff.1 h
        exact hmark rest hrest
      simp only [hhead, ne_eq, not_false_eq_true, true_and]
      cases hcut : cut '=' (trim text) with
      | none => simp
      | some parts =>
          obtain ⟨before, after⟩ := parts
          simp only [Option.some.injEq, Prod.mk.injEq]
          constructor
          · intro h
            split at h
            · cases h
            · cases h
            · next hid hdigest =>
                obtain ⟨rfl, rfl⟩ := Prod.mk.inj (Option.some.inj h)
                exact ⟨before, after, ⟨rfl, rfl⟩, by simp, by simp, by simpa using hid,
                  by simpa using hdigest⟩
          · rintro ⟨_, _, ⟨rfl, rfl⟩, hid, hdigest, hne, hne'⟩
            rw [hid, hdigest]
            split
            · next h => exact absurd h hne
            · next h _ => exact absurd h hne'
            · simp

theorem IsEntry.readLine? {id digest : String} (h : IsEntry id digest) :
    readLine? (id.toList ++ '=' :: digest.toList) = some (id, digest) := by
  have hid : id.toList ≠ [] := by simpa using h.id_ne_empty
  have hdigest : digest.toList ≠ [] := by simpa using h.digest_ne_empty
  have hline : trim (id.toList ++ '=' :: digest.toList) = id.toList ++ '=' :: digest.toList := by
    simpa using (h.id_trimmed.append h.digest_trimmed hid hdigest ['=']).trim_eq
  rw [readLine?_eq_some_iff, hline]
  refine ⟨?_, id.toList, digest.toList, cut_append_cons h.uncut, h.id_trimmed.trim_eq,
    h.digest_trimmed.trim_eq, h.id_ne_empty, h.digest_ne_empty⟩
  rw [List.head?_append_of_ne_nil _ hid]
  exact h.unmarked

theorem isEntry_of_readLine? {text : List Char} {id digest : String}
    (h : Entries.readLine? text = some (id, digest)) (hline : '\n' ∉ text) : IsEntry id digest := by
  obtain ⟨hmark, before, after, hcut, hid, hdigest, hne, hne'⟩ := readLine?_eq_some_iff.1 h
  obtain ⟨htext, hsep⟩ := cut_eq_some hcut
  have hmem {c : Char} (hc : c ∈ before ++ '=' :: after) : c ∈ text :=
    mem_of_mem_trim (htext ▸ hc)
  have hidne : trim before ≠ [] := by simpa [hid] using hne
  have hbefore : before ≠ [] := by
    rintro rfl
    exact hidne rfl
  -- The line begins with its id, because there is no blank at its start.
  have hstart : Stops isBlank before := (isTrimmed_trim text).1.of_isPrefix ⟨_, htext.symm⟩
  have hhead : id.toList.head? = (trim text).head? := by
    rw [htext, List.head?_append_of_ne_nil _ hbefore, ← hid, head?_trim hstart hidne]
  exact
    { id_ne_empty := hne
      digest_ne_empty := hne'
      id_trimmed := hid ▸ isTrimmed_trim before
      digest_trimmed := hdigest ▸ isTrimmed_trim after
      unmarked := hhead ▸ hmark
      uncut := fun hin => hsep (mem_of_mem_trim (hid ▸ hin))
      unbroken := by
        simp only [List.mem_append, List.mem_cons, not_or]
        refine ⟨fun hin => ?_, by decide, fun hin => ?_⟩
        · exact hline (hmem (List.mem_append_left _ (mem_of_mem_trim (hid ▸ hin))))
        · exact hline (hmem (List.mem_append_right _
            (List.mem_cons_of_mem _ (mem_of_mem_trim (hdigest ▸ hin))))) }

theorem addLine_header (entries : Entries) : entries.addLine header.toList = entries := by
  have h : readLine? header.toList = none := by decide
  rw [addLine, h]

theorem IsEntry.addLine {id digest : String} (h : IsEntry id digest) (entries : Entries) :
    entries.addLine (id.toList ++ '=' :: digest.toList) = entries.insert id digest := by
  rw [Entries.addLine, h.readLine?]

/-! ## Whole lines -/

/-- Whether a text is made of whole lines. -/
def EndsLine (text : String) : Prop := text = "" ∨ ∃ before, text = before ++ "\n"

theorem endsLine_append_line (text id digest : String) : EndsLine (text ++ line id digest) :=
  .inr ⟨text ++ (id ++ "=" ++ digest), by simp [line, String.append_assoc]⟩

theorem endsLine_append_header (text : String) : EndsLine (text ++ (header ++ "\n")) :=
  .inr ⟨text ++ header, by simp [String.append_assoc]⟩

/-- What is appended to whole lines is read after them. -/
theorem parse_append {text : String} (h : EndsLine text) (more : String) :
    parse (text ++ more) = (pieces '\n' more.toList).foldl addLine (parse text) := by
  obtain rfl | ⟨before, rfl⟩ := h
  · rw [String.empty_append]
    rfl
  · have htext : (before ++ "\n" ++ more).toList = before.toList ++ '\n' :: more.toList := by simp
    have hbefore : (before ++ "\n").toList = before.toList ++ ['\n'] := by simp
    rw [parse, parse, htext, hbefore, pieces_append_cons, pieces_append_cons, List.foldl_append,
      List.foldl_append]
    rfl

theorem parse_append_line {text id digest : String} (h : EndsLine text) (hentry : IsEntry id digest) :
    parse (text ++ line id digest) = (parse text).insert id digest := by
  have hline : (line id digest).toList = (id.toList ++ '=' :: digest.toList) ++ ['\n'] := by
    simp [line]
  rw [parse_append h, hline, pieces_append_cons, pieces_of_not_mem hentry.unbroken]
  exact hentry.addLine _

theorem parse_append_header {text : String} (h : EndsLine text) :
    parse (text ++ (header ++ "\n")) = parse text := by
  have hheader : (header ++ "\n").toList = header.toList ++ ['\n'] := by simp
  rw [parse_append h, hheader, pieces_append_cons, pieces_of_not_mem (by decide)]
  exact addLine_header _

/-! ## Ascending entries -/

/-- Whether the entries are in ascending order of their ids, each of which occurs once. -/
def Ascending (entries : Entries) : Prop := entries.toList.Pairwise fun a b => a.1 < b.1

theorem mem_insertInto {id digest : String} {entries : List (String × String)}
    {entry : String × String} (h : entry ∈ insertInto id digest entries) :
    entry = (id, digest) ∨ entry ∈ entries := by
  induction entries with
  | nil => exact .inl (by simpa [insertInto] using h)
  | cons first rest ih =>
      unfold insertInto at h
      split at h
      · simpa using h
      · split at h
        · exact (List.mem_cons.1 h).imp_right (List.mem_cons_of_mem _)
        · obtain rfl | h := List.mem_cons.1 h
          · exact .inr (by simp)
          · exact (ih h).imp_right (List.mem_cons_of_mem _)

theorem Ascending.insert {entries : Entries} (h : entries.Ascending) (id digest : String) :
    (entries.insert id digest).Ascending := by
  obtain ⟨entries⟩ := entries
  unfold Ascending Entries.insert at *
  dsimp only at *
  induction entries with
  | nil => simp [insertInto]
  | cons first rest ih =>
      obtain ⟨other, old⟩ := first
      obtain ⟨hfirst, hrest⟩ := List.pairwise_cons.1 h
      unfold insertInto
      split
      · next hlt =>
          refine List.pairwise_cons.2 ⟨fun entry hentry => ?_, h⟩
          obtain rfl | hentry := List.mem_cons.1 hentry
          · exact hlt
          · exact String.lt_trans hlt (hfirst entry hentry)
      · next hlt =>
          split
          · next heq => exact heq ▸ List.pairwise_cons.2 ⟨hfirst, hrest⟩
          · next hne =>
              have hgt : other < id := Decidable.byContradiction fun hle =>
                hne (String.le_antisymm (String.not_lt.1 hle) (String.not_lt.1 hlt))
              refine List.pairwise_cons.2 ⟨fun entry hentry => ?_, ih hrest⟩
              obtain rfl | hentry := mem_insertInto hentry
              · exact hgt
              · exact hfirst entry hentry

/-- Whether entries are the same again when they are rendered and parsed. -/
structure IsReadable (entries : Entries) : Prop where
  ascending : entries.Ascending
  isEntry : ∀ entry ∈ entries.toList, IsEntry entry.1 entry.2

theorem isReadable_empty : IsReadable .empty := ⟨List.Pairwise.nil, fun _ h => by cases h⟩

theorem IsReadable.insert {entries : Entries} (h : entries.IsReadable) {id digest : String}
    (hentry : IsEntry id digest) : (entries.insert id digest).IsReadable := by
  refine ⟨h.ascending.insert id digest, fun entry hmem => ?_⟩
  obtain rfl | hmem := mem_insertInto hmem
  · exact hentry
  · exact h.isEntry entry hmem

theorem IsReadable.addLine {entries : Entries} (h : entries.IsReadable) {text : List Char}
    (hline : '\n' ∉ text) : (entries.addLine text).IsReadable := by
  unfold Entries.addLine
  split
  · next hread => exact h.insert (isEntry_of_readLine? hread hline)
  · exact h

theorem isReadable_parse (text : String) : (parse text).IsReadable := by
  have hlines : ∀ line ∈ pieces '\n' text.toList, '\n' ∉ line := fun _ => not_mem_of_mem_pieces
  unfold parse
  generalize pieces '\n' text.toList = lines at hlines
  suffices h : ∀ entries : Entries, entries.IsReadable → (lines.foldl addLine entries).IsReadable from
    h .empty isReadable_empty
  induction lines with
  | nil => exact fun _ h => h
  | cons line rest ih =>
      intro entries h
      exact ih (fun other hother => hlines other (List.mem_cons_of_mem _ hother)) _
        (h.addLine (hlines line (by simp)))

theorem insertInto_of_lt {id digest : String} {entries : List (String × String)}
    (h : ∀ entry ∈ entries, entry.1 < id) :
    insertInto id digest entries = entries ++ [(id, digest)] := by
  induction entries with
  | nil => rfl
  | cons first rest ih =>
      have hlt : first.1 < id := h first (by simp)
      have hne : id ≠ first.1 := by
        rintro rfl
        exact String.lt_irrefl _ hlt
      rw [insertInto, if_neg (String.lt_asymm hlt), if_neg hne,
        ih fun entry hentry => h entry (List.mem_cons_of_mem _ hentry)]
      rfl

/-- Whether all entries are read back from their lines. -/
def AllTidy (entries : Entries) : Prop := ∀ entry ∈ entries.toList, IsTidy entry.1 entry.2

theorem AllTidy.insert {entries : Entries} (h : entries.AllTidy) {id digest : String}
    (htidy : IsTidy id digest) : (entries.insert id digest).AllTidy := by
  intro entry hentry
  obtain rfl | hentry := mem_insertInto hentry
  · exact htidy
  · exact h entry hentry

theorem parse_append_lines {text : String} (h : EndsLine text) {before after : List (String × String)}
    (hparse : parse text = ⟨before⟩) (hascending : Ascending ⟨before ++ after⟩)
    (hentries : ∀ entry ∈ after, IsEntry entry.1 entry.2) :
    parse (text ++ String.join (after.map fun entry => line entry.1 entry.2)) =
      ⟨before ++ after⟩ := by
  induction after generalizing text before with
  | nil => simpa using hparse
  | cons entry rest ih =>
      have hlast : ∀ other ∈ before, other.1 < entry.1 := fun other hother =>
        (List.pairwise_append.1 hascending).2.2 other hother entry (by simp)
      have hline : parse (text ++ line entry.1 entry.2) = ⟨before ++ [entry]⟩ := by
        rw [parse_append_line h (hentries entry (by simp)), hparse, Entries.insert,
          insertInto_of_lt hlast]
      have := ih (endsLine_append_line text entry.1 entry.2) hline (by simpa using hascending)
        fun other hother => hentries other (List.mem_cons_of_mem _ hother)
      simpa [String.append_assoc] using this

/-- Entries that were rendered are parsed as they were. -/
theorem parse_render {entries : Entries} (h : entries.IsReadable) : parse entries.render = entries := by
  have hheader : parse (header ++ "\n") = ⟨[]⟩ := by
    have h : parse ("" ++ (header ++ "\n")) = parse "" := parse_append_header (.inl rfl)
    rwa [String.empty_append] at h
  exact parse_append_lines (.inr ⟨header, rfl⟩) hheader h.ascending h.isEntry

theorem parse_render_parse (text : String) : parse (parse text).render = parse text :=
  parse_render (isReadable_parse text)

theorem EndsLine.append_lines {text : String} (h : EndsLine text)
    (entries : List (String × String)) :
    EndsLine (text ++ String.join (entries.map fun entry => line entry.1 entry.2)) := by
  induction entries generalizing text with
  | nil => simpa using h
  | cons entry rest ih =>
      simpa [String.append_assoc] using ih (endsLine_append_line text entry.1 entry.2)

theorem endsLine_render (entries : Entries) : EndsLine entries.render :=
  .append_lines (.inr ⟨header, rfl⟩) entries.toList

end Entries

end KotlinFakes
