import KotlinFakes.Text.Quoted
import Mathlib.Logic.Function.Basic

/-!
# Reading string literals

A reader of literals goes from left to right, takes an escape for one character and stops at the first quote
that is no part of an escape. What it reads from the literal of a text is that text, whatever stands behind the
literal.
-/

namespace KotlinFakes.Text.Quoted

/-- The character that a backslash and the given character stand for. -/
def unescape? : Char → Option Char
  | '\\' => some '\\'
  | '"' => some '"'
  | '$' => some '$'
  | 'n' => some '\n'
  | _ => none

/-- Replace the escapes of a text, from left to right. -/
def decode : List Char → Option (List Char)
  | [] => some []
  | '\\' :: [] => none
  | '\\' :: c :: rest => unescape? c >>= fun d => (decode rest).map (d :: ·)
  | c :: rest => (decode rest).map (c :: ·)

/-- What stands before the closing quote of a literal that was opened already, and what stands behind it. A
    line feed or an interpolation is no part of a literal. -/
def inside? : List Char → Option (List Char × List Char)
  | [] | '\\' :: [] | '\n' :: _ | '$' :: _ => none
  | '"' :: rest => some ([], rest)
  | '\\' :: c :: rest => (inside? rest).map fun (inside, after) => ('\\' :: c :: inside, after)
  | c :: rest => (inside? rest).map fun (inside, after) => (c :: inside, after)

/-- The text of the literal at the start of some text, and what stands behind the literal. -/
def read? : List Char → Option (String × List Char)
  | '"' :: rest => inside? rest >>= fun (inside, after) =>
    (decode inside).map fun text => (String.ofList text, after)
  | _ => none

/-- Whether a backslash begins an escape at the end of a text, so that the next character belongs to it. -/
def isPending : List Char → Bool
  | [] => false
  | '\\' :: [] => true
  | '\\' :: _ :: rest => isPending rest
  | _ :: rest => isPending rest

/-! ## Escapes -/

/-- The characters that cannot stand for themselves. -/
def special : List Char := ['\\', '"', '$', '\n']

theorem escape_of_not_mem {c : Char} (h : c ∉ special) : escape c = [c] := by
  simp only [special, List.mem_cons, List.not_mem_nil, or_false, not_or] at h
  simp [escape, h]

theorem escape_cases (c : Char) :
    (∃ d, escape c = ['\\', d] ∧ d ≠ '\n' ∧ unescape? d = some c) ∨ escape c = [c] ∧ c ∉ special := by
  by_cases h : c ∈ special
  · simp only [special, List.mem_cons, List.not_mem_nil, or_false] at h
    obtain rfl | rfl | rfl | rfl := h
    · exact .inl ⟨'\\', rfl, by decide, rfl⟩
    · exact .inl ⟨'"', rfl, by decide, rfl⟩
    · exact .inl ⟨'$', rfl, by decide, rfl⟩
    · exact .inl ⟨'n', rfl, by decide, rfl⟩
  · exact .inr ⟨escape_of_not_mem h, h⟩

@[simp] theorem encode_cons (c : Char) (text : List Char) : encode (c :: text) = escape c ++ encode text :=
  List.flatMap_cons

/-! ## What is read -/

theorem inside?_cons {c : Char} (h : c ∉ special) (rest : List Char) :
    inside? (c :: rest) = (inside? rest).map fun (inside, after) => (c :: inside, after) := by
  simp only [special, List.mem_cons, List.not_mem_nil, or_false, not_or] at h
  rw [inside?] <;> simp [h]

theorem decode_cons {c : Char} (h : c ∉ special) (rest : List Char) :
    decode (c :: rest) = (decode rest).map (c :: ·) := by
  simp only [special, List.mem_cons, not_or] at h
  rw [decode] <;> simp [h.1]

/-- The first quote that is no part of an escape is the closing one. -/
theorem inside?_encode (text rest : List Char) :
    inside? (encode text ++ '"' :: rest) = some (encode text, rest) := by
  induction text with
  | nil => rfl
  | cons c text ih =>
      obtain ⟨d, hescape, -, -⟩ | ⟨hescape, hplain⟩ := escape_cases c
      · rw [encode_cons, hescape, List.append_assoc, List.cons_append, List.singleton_append,
          inside?, ih]
        rfl
      · rw [encode_cons, hescape, List.append_assoc, List.singleton_append, inside?_cons hplain, ih]
        rfl

theorem decode_encode (text : List Char) : decode (encode text) = some text := by
  induction text with
  | nil => rfl
  | cons c text ih =>
      obtain ⟨d, hescape, -, hd⟩ | ⟨hescape, hplain⟩ := escape_cases c
      · rw [encode_cons, hescape, List.cons_append, List.singleton_append, decode, hd, ih]
        rfl
      · rw [encode_cons, hescape, List.singleton_append, decode_cons hplain, ih]
        rfl

theorem toList_literal (text : String) :
    (literal text).toList = '"' :: encode text.toList ++ ['"'] := by
  simp [literal]

theorem read?_literal (text : String) (rest : List Char) :
    read? ((literal text).toList ++ rest) = some (text, rest) := by
  rw [toList_literal, List.append_assoc, List.singleton_append, List.cons_append, read?,
    inside?_encode, Option.bind_eq_bind, Option.bind_some]
  show (decode (encode text.toList)).map (fun text => (String.ofList text, rest)) = some (text, rest)
  rw [decode_encode, Option.map_some, String.ofList_toList]

theorem literal_injective : Function.Injective literal := by
  intro text text' h
  have hread := read?_literal text []
  rw [h, read?_literal] at hread
  exact (congrArg Prod.fst (Option.some.inj hread)).symm

/-! ## What is written -/

theorem not_mem_encode (text : List Char) : '\n' ∉ encode text := by
  induction text with
  | nil => exact List.not_mem_nil
  | cons c text ih =>
      rw [encode_cons, List.mem_append, not_or]
      refine ⟨?_, ih⟩
      obtain ⟨d, hescape, hd, -⟩ | ⟨hescape, hplain⟩ := escape_cases c
      · simp [hescape, Ne.symm hd]
      · rw [hescape, List.mem_singleton]
        exact ne_of_mem_of_not_mem (by decide) hplain

theorem isPending_cons {c : Char} (h : c ∉ special) (text : List Char) :
    isPending (c :: text) = isPending text := by
  simp only [special, List.mem_cons, not_or] at h
  rw [isPending] <;> simp [h.1]

/-- A quote or a dollar sign is always the second character of an escape. -/
theorem isPending_of_encode_eq {mark : Char} (hmark : mark = '"' ∨ mark = '$') {text before after : List Char}
    (h : encode text = before ++ mark :: after) : isPending before := by
  induction text generalizing before with
  | nil => exact absurd h (by simp [encode])
  | cons c text ih =>
      rw [encode_cons] at h
      obtain ⟨d, hescape, -, -⟩ | ⟨hescape, hplain⟩ := escape_cases c
      · rw [hescape] at h
        -- The mark begins the escape, ends it or comes behind it.
        match before, h with
        | [], h =>
            obtain rfl := (List.cons.inj h).1
            exact absurd hmark (by decide)
        | [b], h =>
            obtain rfl := (List.cons.inj h).1
            rfl
        | b :: e :: before, h =>
            obtain ⟨rfl, hrest⟩ := List.cons.inj h
            rw [isPending]
            exact ih (List.cons.inj hrest).2
      · rw [hescape] at h
        cases before with
        | nil =>
            obtain rfl := (List.cons.inj h).1
            obtain rfl | rfl := hmark <;> exact absurd (by decide) hplain
        | cons b before =>
            obtain ⟨rfl, hrest⟩ := List.cons.inj h
            rw [isPending_cons hplain]
            exact ih hrest

/-- The literal of a text stands between two quotes. Between them is no line feed, and no quote or dollar sign
    without a backslash that escapes it; with its escapes replaced it is the text. The literal is read as one
    piece, whatever stands behind it, and no other text has the same literal. -/
theorem literal_lawful :
    (∀ text, ∃ inside : List Char, (literal text).toList = '"' :: inside ++ ['"'] ∧
      '\n' ∉ inside ∧
      (∀ before mark after, inside = before ++ mark :: after → mark = '"' ∨ mark = '$' →
        isPending before) ∧
      decode inside = some text.toList ∧
      ∀ rest, read? ((literal text).toList ++ rest) = some (text, rest)) ∧
    Function.Injective literal :=
  ⟨fun text => ⟨encode text.toList, toList_literal text, not_mem_encode _,
    fun _ _ _ h hmark => isPending_of_encode_eq hmark h, decode_encode _, read?_literal text⟩,
    literal_injective⟩

/-- A backslash before a quote and one before a dollar sign, each of them escaped. -/
theorem literal_lawful_backslashes :
    ∃ inside : List Char, (literal "\\\"$\n").toList = '"' :: inside ++ ['"'] ∧
      inside = ['\\', '\\', '\\', '"', '\\'] ++ '$' :: ['\\', 'n'] ∧
      isPending ['\\', '\\', '\\', '"', '\\'] ∧
      read? ((literal "\\\"$\n").toList ++ [')']) = some ("\\\"$\n", [')']) := by
  obtain ⟨inside, hliteral, -, hpending, -, hread⟩ := literal_lawful.1 "\\\"$\n"
  have hinside : inside = ['\\', '\\', '\\', '"', '\\'] ++ '$' :: ['\\', 'n'] := by
    have hliteral' := hliteral.symm.trans (toList_literal _)
    exact List.append_cancel_right (List.cons.inj hliteral').2
  exact ⟨inside, hliteral, hinside, hpending _ _ _ hinside (.inr rfl), hread _⟩

end KotlinFakes.Text.Quoted
