import KotlinFakes.Proofs.Names
import KotlinFakes.Ty.NamePolicy
import Mathlib.Data.List.Forall2

/-!
# Outlines of written types

A written type is a tree of names. Its outline tells which names stand where and what is marked
nullable, without saying how the names are written. A legible type has an outline that determines it.
-/

namespace KotlinFakes

/-- What a name in a written type stands for. -/
inductive Head where
  | primitive (p : Primitive)
  | param (name : String)
  | cls (name : QualifiedName)
  deriving Repr, DecidableEq

def Head.text (policy : NamePolicy) : Head → String
  | .primitive p => p.name
  | .param name => name
  | .cls name => policy.writeName name

/-- The outline of a written type. -/
inductive Outline where
  | named (head : Head) (args : List Outline) (isNullable : Bool)
  | function (params : List Outline) (isSuspend : Bool) (result : Outline) (isNullable : Bool)
  | out (inner : Outline)

namespace Outline

/-- The outline with a nullability mark. A projection takes none. -/
def orNull : Outline → Outline
  | .named head args _ => .named head args true
  | .function params isSuspend result _ => .function params isSuspend result true
  | .out inner => .out inner

mutual
def text (policy : NamePolicy) : Outline → String
  | .named head args isNullable =>
    head.text policy ++ NamePolicy.bracketed (texts policy args) ++ if isNullable then "?" else ""
  | .function params isSuspend result isNullable =>
    (if isNullable then "(" else "") ++
      ((if isSuspend then "suspend " else "") ++ "(" ++ Text.joinWith ", " (texts policy params) ++
        ") -> " ++ text policy result) ++
      if isNullable then ")?" else ""
  | .out inner => "out " ++ text policy inner
def texts (policy : NamePolicy) : List Outline → List String
  | [] => []
  | s :: ss => text policy s :: texts policy ss
end

mutual
/-- Whether two outlines are of the same form, with related names at the same places. -/
def Alike (rel : Head → Head → Prop) : Outline → Outline → Prop
  | .named head args isNullable, .named head' args' isNullable' =>
    rel head head' ∧ AlikeAll rel args args' ∧ isNullable = isNullable'
  | .function params isSuspend result isNullable,
      .function params' isSuspend' result' isNullable' =>
    AlikeAll rel params params' ∧ isSuspend = isSuspend' ∧ Alike rel result result' ∧
      isNullable = isNullable'
  | .out inner, .out inner' => Alike rel inner inner'
  | _, _ => False
def AlikeAll (rel : Head → Head → Prop) : List Outline → List Outline → Prop
  | [], [] => True
  | s :: ss, t :: ts => Alike rel s t ∧ AlikeAll rel ss ts
  | _, _ => False
end

/-- Whether every name in an outline is as it should be. -/
inductive Each (P : Head → Prop) : Outline → Prop where
  | named {head : Head} {args : List Outline} (isNullable : Bool) (hhead : P head)
      (hargs : ∀ s ∈ args, Each P s) : Each P (.named head args isNullable)
  | function {params : List Outline} {result : Outline} (isSuspend isNullable : Bool)
      (hparams : ∀ s ∈ params, Each P s) (hresult : Each P result) :
      Each P (.function params isSuspend result isNullable)
  | out {inner : Outline} (h : Each P inner) : Each P (.out inner)

/-- The type that a name with arguments stands for. -/
def headTy : Head → List Ty → Ty
  | .primitive p, _ => .primitive p
  | .param name, _ => .param name
  | .cls name, [] => .named name
  | .cls name, first :: rest => .apply name (first :: rest)

mutual
def ty : Outline → Ty
  | .named head args isNullable =>
    let plain := headTy head (tys args)
    if isNullable then .nullable plain else plain
  | .function params isSuspend result isNullable =>
    let plain := Ty.function (tys params) isSuspend result.ty
    if isNullable then .nullable plain else plain
  | .out inner => inner.ty.out
def tys : List Outline → List Ty
  | [] => []
  | s :: ss => s.ty :: tys ss
end

end Outline

theorem NamePolicy.writeAll_eq_map (policy : NamePolicy) (ts : List Ty) :
    policy.writeAll ts = ts.map policy.write := by
  induction ts with
  | nil => rw [writeAll, List.map_nil]
  | cons t ts ih => rw [writeAll, ih, List.map_cons]

namespace Ty

mutual
/-- The outline in which a type is written. -/
def outline : Ty → Outline
  | .primitive p => .named (.primitive p) [] false
  | .nullable inner => inner.outline.orNull
  | .apply name args =>
    match outlines args with
    | [] => .named (.cls name) [] false
    | first :: rest =>
      if name = outName then .out first else .named (.cls name) (first :: rest) false
  | .function params isSuspend result => .function (outlines params) isSuspend result.outline false
  | .param name => .named (.param name) [] false
  | .named name => .named (.cls name) [] false
def outlines : List Ty → List Outline
  | [] => []
  | t :: ts => t.outline :: outlines ts
end

/-- Whether a mark behind a type belongs to the type itself. -/
def takesMark (t : Ty) : Bool := !t.isNullable && t.projected?.isNone

/-- A type that can be written so that it is understood: its classes are cut from dotted names, its type
    parameters are names, classes with arguments have some, and no type is marked nullable twice. -/
inductive Legible : Ty → Prop where
  | primitive (p : Primitive) : Legible (.primitive p)
  | param {name : String} (h : Identifier.isValid name) : Legible (.param name)
  | star : Legible .star
  | named {name : QualifiedName} (h : name.IsCut) : Legible (.named name)
  | apply {name : QualifiedName} {args : List Ty} (h : name.IsCut) (hout : name ≠ outName)
      (hne : args ≠ []) (hargs : ∀ t ∈ args, Legible t) : Legible (.apply name args)
  | out {inner : Ty} (h : Legible inner) : Legible inner.out
  | function {params : List Ty} {result : Ty} (isSuspend : Bool) (hparams : ∀ t ∈ params, Legible t)
      (hresult : Legible result) : Legible (.function params isSuspend result)
  | nullable {inner : Ty} (h : Legible inner) (hmark : inner.takesMark) : Legible (.nullable inner)

theorem outlines_eq_map (ts : List Ty) : outlines ts = ts.map outline := by
  induction ts with
  | nil => rw [outlines, List.map_nil]
  | cons t ts ih => rw [outlines, ih, List.map_cons]

theorem outline_apply {name : QualifiedName} {args : List Ty} (hout : name ≠ outName) :
    (Ty.apply name args).outline = .named (.cls name) (args.map outline) false := by
  rw [outline, outlines_eq_map]
  cases args <;> simp [hout]

theorem outline_out (inner : Ty) : inner.out.outline = .out inner.outline := by
  rw [out, outline, outlines_eq_map]
  simp

end Ty

namespace Outline

theorem tys_eq_map (ss : List Outline) : tys ss = ss.map ty := by
  induction ss with
  | nil => rw [tys, List.map_nil]
  | cons s ss ih => rw [tys, ih, List.map_cons]

theorem texts_eq_map (policy : NamePolicy) (ss : List Outline) :
    texts policy ss = ss.map (text policy) := by
  induction ss with
  | nil => rw [texts, List.map_nil]
  | cons s ss ih => rw [texts, ih, List.map_cons]

theorem alikeAll_iff {rel : Head → Head → Prop} {ss ts : List Outline} :
    AlikeAll rel ss ts ↔ List.Forall₂ (Alike rel) ss ts := by
  induction ss generalizing ts with
  | nil => cases ts <;> simp [AlikeAll]
  | cons s ss ih => cases ts <;> simp [AlikeAll, ih]

theorem Each.imp {P Q : Head → Prop} (h : ∀ head, P head → Q head) {s : Outline} (hs : Each P s) :
    Each Q s := by
  induction hs with
  | named isNullable hhead _ ih => exact .named isNullable (h _ hhead) ih
  | function isSuspend isNullable _ _ ihparams ihresult =>
      exact .function isSuspend isNullable ihparams ihresult
  | out _ ih => exact .out ih

theorem Each.orNull {P : Head → Prop} {s : Outline} (h : Each P s) : Each P s.orNull := by
  cases h with
  | named isNullable hhead hargs => exact .named true hhead hargs
  | function isSuspend isNullable hparams hresult => exact .function isSuspend true hparams hresult
  | out hinner => exact .out hinner

theorem AlikeAll.imp {rel rel' : Head → Head → Prop} {ss ts : List Outline}
    (h : ∀ s ∈ ss, ∀ t ∈ ts, Alike rel s t → Alike rel' s t) (hall : AlikeAll rel ss ts) :
    AlikeAll rel' ss ts := by
  induction ss generalizing ts with
  | nil => cases ts <;> exact hall
  | cons s ss ih =>
      cases ts with
      | nil => exact hall
      | cons t ts =>
          exact ⟨h s List.mem_cons_self t List.mem_cons_self hall.1,
            ih (fun s hs t ht => h s (List.mem_cons_of_mem _ hs) t (List.mem_cons_of_mem _ ht)) hall.2⟩

theorem Alike.imp {P : Head → Prop} {rel rel' : Head → Head → Prop}
    (h : ∀ a b, P a → P b → rel a b → rel' a b) {s : Outline} (hs : Each P s) {t : Outline}
    (ht : Each P t) (halike : Alike rel s t) : Alike rel' s t := by
  induction hs generalizing t with
  | named isNullable hhead _ ih =>
      cases ht with
      | named isNullable' hhead' hargs' =>
          obtain ⟨hrel, hall, hmark⟩ := halike
          exact ⟨h _ _ hhead hhead' hrel,
            hall.imp fun s hs t ht => ih s hs (hargs' t ht), hmark⟩
      | function | out => exact halike.elim
  | function isSuspend isNullable _ _ ihparams ihresult =>
      cases ht with
      | function isSuspend' isNullable' hparams' hresult' =>
          obtain ⟨hall, hsuspend, hresult, hmark⟩ := halike
          exact ⟨hall.imp fun s hs t ht => ihparams s hs (hparams' t ht), hsuspend,
            ihresult hresult' hresult, hmark⟩
      | named | out => exact halike.elim
  | out _ ih =>
      cases ht with
      | out hinner' => exact ih hinner' halike
      | named | function => exact halike.elim

mutual
/-- Outlines that are alike with the same names are the same. -/
theorem eq_of_alike : ∀ s t : Outline, Alike (· = ·) s t → s = t
  | .named head args isNullable, .named head' args' isNullable', ⟨hhead, hall, hmark⟩ => by
      rw [hhead, eq_of_alikeAll args args' hall, hmark]
  | .function params isSuspend result isNullable, .function params' isSuspend' result' isNullable',
      ⟨hall, hsuspend, hresult, hmark⟩ => by
      rw [eq_of_alikeAll params params' hall, hsuspend, eq_of_alike result result' hresult, hmark]
  | .out inner, .out inner', halike => by rw [eq_of_alike inner inner' halike]
theorem eq_of_alikeAll : ∀ ss ts : List Outline, AlikeAll (· = ·) ss ts → ss = ts
  | [], [], _ => rfl
  | s :: ss, t :: ts, ⟨halike, hall⟩ => by
      rw [eq_of_alike s t halike, eq_of_alikeAll ss ts hall]
end

mutual
theorem text_eq_of_alike {policy : NamePolicy} {rel : Head → Head → Prop}
    (h : ∀ a b, rel a b → a.text policy = b.text policy) : ∀ s t : Outline, Alike rel s t →
      text policy s = text policy t
  | .named head args isNullable, .named head' args' isNullable', ⟨hrel, hall, hmark⟩ => by
      rw [text, text, h head head' hrel, texts_eq_of_alike h args args' hall, hmark]
  | .function params isSuspend result isNullable, .function params' isSuspend' result' isNullable',
      ⟨hall, hsuspend, hresult, hmark⟩ => by
      rw [text, text, texts_eq_of_alike h params params' hall, hsuspend,
        text_eq_of_alike h result result' hresult, hmark]
  | .out inner, .out inner', halike => by rw [text, text, text_eq_of_alike h inner inner' halike]
theorem texts_eq_of_alike {policy : NamePolicy} {rel : Head → Head → Prop}
    (h : ∀ a b, rel a b → a.text policy = b.text policy) : ∀ ss ts : List Outline,
      AlikeAll rel ss ts → texts policy ss = texts policy ts
  | [], [], _ => rfl
  | s :: ss, t :: ts, ⟨halike, hall⟩ => by
      rw [texts, texts, text_eq_of_alike h s t halike, texts_eq_of_alike h ss ts hall]
end

/-- Whether a mark can be put behind an outline. -/
def takesMark : Outline → Bool
  | .named _ _ isNullable | .function _ _ _ isNullable => !isNullable
  | .out _ => false

def isFunction : Outline → Bool
  | .function .. => true
  | .named .. | .out _ => false

theorem ty_orNull {s : Outline} (h : s.takesMark) : s.orNull.ty = .nullable s.ty := by
  cases s with
  | named head args isNullable =>
      obtain rfl : isNullable = false := by simpa [takesMark] using h
      simp [orNull, ty]
  | function params isSuspend result isNullable =>
      obtain rfl : isNullable = false := by simpa [takesMark] using h
      simp [orNull, ty]
  | out inner => simp [takesMark] at h

theorem text_orNull (policy : NamePolicy) {s : Outline} (h : s.takesMark) :
    s.orNull.text policy =
      if s.isFunction then "(" ++ s.text policy ++ ")?" else s.text policy ++ "?" := by
  cases s with
  | named head args isNullable =>
      obtain rfl : isNullable = false := by simpa [takesMark] using h
      simp [orNull, text, isFunction]
  | function params isSuspend result isNullable =>
      obtain rfl : isNullable = false := by simpa [takesMark] using h
      simp [orNull, text, isFunction]
  | out inner => simp [takesMark] at h

end Outline

namespace Ty.Legible

/-! ## What an outline tells -/

theorem takesMark_outline {t : Ty} (h : t.Legible) (hmark : t.takesMark) :
    t.outline.takesMark ∧ t.outline.isFunction = t.isFunction := by
  cases h with
  | primitive | param | star | named | function => exact ⟨rfl, rfl⟩
  | apply _ hout => rw [outline_apply hout]; exact ⟨rfl, rfl⟩
  | out | nullable => cases hmark

theorem ty_outline {t : Ty} (h : t.Legible) : t.outline.ty = t := by
  have hall {ts : List Ty} (h : ∀ t ∈ ts, t.outline.ty = t) : Outline.tys (ts.map outline) = ts := by
    rw [Outline.tys_eq_map, List.map_map]
    exact List.map_congr_left h |>.trans (List.map_id ts)
  induction h with
  | primitive | param | star | named => rfl
  | @apply name args _ hout hne _ ih =>
      obtain ⟨first, rest, rfl⟩ := List.exists_cons_of_ne_nil hne
      rw [outline_apply hout, Outline.ty, hall ih]
      rfl
  | out _ ih => rw [outline_out, Outline.ty, ih]
  | function isSuspend _ _ ihparams ihresult =>
      rw [outline, outlines_eq_map, Outline.ty, hall ihparams, ihresult]
      rfl
  | nullable hinner hmark ih =>
      rw [outline, Outline.ty_orNull (hinner.takesMark_outline hmark).1, ih]

theorem eq_of_alike {s t : Ty} (hs : s.Legible) (ht : t.Legible)
    (h : Outline.Alike (· = ·) s.outline t.outline) : s = t := by
  rw [← hs.ty_outline, ← ht.ty_outline, Outline.eq_of_alike _ _ h]

theorem write_eq {t : Ty} (policy : NamePolicy) (h : t.Legible) :
    policy.write t = t.outline.text policy := by
  have hall {ts : List Ty} (h : ∀ t ∈ ts, policy.write t = t.outline.text policy) :
      policy.writeAll ts = Outline.texts policy (ts.map outline) := by
    rw [Outline.texts_eq_map, List.map_map, NamePolicy.writeAll_eq_map]
    exact List.map_congr_left h
  induction h with
  | primitive | param | star | named =>
      simp [Ty.star, outline, Outline.text, Outline.texts, NamePolicy.write, NamePolicy.bracketed,
        Head.text]
  | @apply name args _ hout hne _ ih =>
      obtain ⟨first, rest, rfl⟩ := List.exists_cons_of_ne_nil hne
      rw [outline_apply hout, Outline.text, ← hall ih]
      simp [NamePolicy.write, NamePolicy.writeAll, hout, Head.text]
  | out _ ih =>
      rw [outline_out, Outline.text, ← ih]
      simp [Ty.out, NamePolicy.write, NamePolicy.writeAll]
  | function isSuspend _ _ ihparams ihresult =>
      rw [outline, outlines_eq_map, Outline.text, ← hall ihparams, ← ihresult]
      simp [NamePolicy.write]
  | nullable hinner hmark ih =>
      obtain ⟨houtline, hfunction⟩ := hinner.takesMark_outline hmark
      rw [outline, Outline.text_orNull policy houtline, hfunction, ← ih, NamePolicy.write]

end Ty.Legible

end KotlinFakes
