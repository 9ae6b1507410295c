import KotlinFakes.Proofs.Signature.Types

/-!
# Reading members in signatures

The texts of type parameters, parameters, properties and functions are readable, each up to the
characters that can follow it in a signature. A member is read from left to right: every part is
readable and ends where the next one begins.
-/

namespace KotlinFakes

def TypeParam.WellNamed (p : TypeParam) : Prop :=
  Identifier.isValid p.name ∧ ∀ bound ∈ p.bounds, bound.WellNamed

namespace Blueprint

def Parameter.WellNamed (p : Parameter) : Prop := Identifier.isValid p.name ∧ p.type.WellNamed

def Property.WellNamed (p : Property) : Prop := Identifier.isValid p.name ∧ p.type.WellNamed

/-- Whether a function and its parameters of both kinds have names and well-named types. -/
structure Function.WellNamed (f : Function) : Prop where
  name : Identifier.isValid f.name
  typeParams : ∀ p ∈ f.typeParams, p.WellNamed
  parameters : ∀ p ∈ f.parameters, p.WellNamed
  result : f.result.WellNamed

end Blueprint

namespace Signature

open Text Identifier

/-- Whether a text cannot go on with a name, nor with a blank and a name. -/
def EndsName (text : List Char) : Prop :=
  Stops mayFollow text ∧ ∀ c rest, text = ' ' :: c :: rest → mayStart c = false

theorem endsName_cons {c : Char} {rest : List Char} (h : mayFollow c = false) (hblank : c ≠ ' ') :
    EndsName (c :: rest) :=
  ⟨stops_cons.2 h, fun _ _ heq => absurd (List.cons.inj heq).1 hblank⟩

theorem marked_name_inj (mark : String) (hmark : ∀ c ∈ mark.toList, mayFollow c) {b b' : Bool}
    {name name' : String} (hname : isValid name) (hname' : isValid name') {r r' : List Char}
    (hr : EndsName r) (hr' : EndsName r')
    (h : (if b then mark ++ " " else "").toList ++ (name.toList ++ r) =
      (if b' then mark ++ " " else "").toList ++ (name'.toList ++ r')) :
    b = b' ∧ name = name' ∧ r = r' := by
  have hsame {r r' : List Char} (hr : EndsName r) (hr' : EndsName r')
      (h : name.toList ++ r = name'.toList ++ r') : name = name' ∧ r = r' := by
    have := run_append_inj (fun c hc => mayFollow_of_isValid hname hc)
      (fun c hc => mayFollow_of_isValid hname' hc) hr.1 hr'.1 h
    exact ⟨String.toList_inj.1 this.1, this.2⟩
  -- With a mark on one side only, that mark would be the name of the other side.
  have hother {name name' : String} (hname : isValid name) (hname' : isValid name')
      {r r' : List Char} (hr' : EndsName r') :
      (mark ++ " ").toList ++ (name.toList ++ r) ≠ name'.toList ++ r' := by
    intro h
    rw [String.toList_append, List.append_assoc] at h
    obtain ⟨-, rfl⟩ := run_append_inj hmark (fun c hc => mayFollow_of_isValid hname' hc)
      (by simp; decide) hr'.1 h
    obtain ⟨c, rest, hc, hstart, -⟩ := exists_cons_of_isValid hname
    have := hr'.2 c (rest ++ r) (by simp [hc])
    simp [hstart] at this
  cases b <;> cases b'
  · exact ⟨rfl, hsame hr hr' (by simpa using h)⟩
  · exact absurd (by simpa using h.symm) (hother hname' hname hr)
  · exact absurd (by simpa using h) (hother hname hname' hr')
  · exact ⟨rfl, hsame hr hr' (List.append_cancel_left h)⟩

/-- Whether a text begins as it may behind a type parameter: with a comma, with a bracket that closes
    the list of type parameters, or with the end of the line. -/
def EndsTypeParam (text : List Char) : Prop := ∃ c rest, text = c :: rest ∧ c ∈ [',', '>', '\n']

/-- The bounds of a type parameter as they are written. -/
def boundsText (p : TypeParam) : List Char :=
  if p.bounds.isEmpty then [] else (" : " ++ joinWith " & " (typeTexts p.bounds)).toList

theorem endsType_of_endsTypeParam {r : List Char} (hr : EndsTypeParam r) :
    EndsType r ∧ r.head? ≠ some ' ' := by
  obtain ⟨c, rest, rfl, hc⟩ := hr
  obtain ⟨hstops, hblank⟩ : mayExtend c = false ∧ c ≠ ' ' := by
    simp only [List.mem_cons, List.not_mem_nil, or_false] at hc
    rcases hc with rfl | rfl | rfl <;> decide
  exact ⟨endsType_cons hstops hblank, by simpa using hblank⟩

theorem boundsText_cases (p : TypeParam) :
    p.bounds = [] ∧ boundsText p = [] ∨
      p.bounds ≠ [] ∧ boundsText p = " : ".toList ++ (joinWith " & " (p.bounds.map typeText)).toList := by
  unfold boundsText
  cases hbounds : p.bounds with
  | nil => exact .inl ⟨rfl, rfl⟩
  | cons t ts =>
      refine .inr ⟨by simp, ?_⟩
      rw [if_neg (by simp), typeTexts_eq_map, String.toList_append]

theorem endsName_boundsText {p : TypeParam} {r : List Char} (hr : EndsTypeParam r) :
    EndsName (boundsText p ++ r) := by
  obtain ⟨-, htext⟩ | ⟨-, htext⟩ := boundsText_cases p
  · obtain ⟨c, rest, rfl, hc⟩ := hr
    obtain ⟨hstops, hblank⟩ : mayFollow c = false ∧ c ≠ ' ' := by
      simp only [List.mem_cons, List.not_mem_nil, or_false] at hc
      rcases hc with rfl | rfl | rfl <;> decide
    rw [htext]
    exact endsName_cons hstops hblank
  · rw [htext]
    refine ⟨by simp; decide, fun c rest heq => ?_⟩
    rw [List.append_assoc] at heq
    obtain ⟨rfl, -⟩ := List.cons.inj (List.cons.inj heq).2
    decide

theorem boundsText_inj {p q : TypeParam} (hp : ∀ bound ∈ p.bounds, bound.WellNamed)
    (hq : ∀ bound ∈ q.bounds, bound.WellNamed) {r r' : List Char} (hr : EndsTypeParam r)
    (hr' : EndsTypeParam r') (h : boundsText p ++ r = boundsText q ++ r') :
    p.bounds = q.bounds ∧ r = r' := by
  have hnone {bounds r r' : List Char} (hr : EndsTypeParam r) :
      r ≠ " : ".toList ++ bounds ++ r' := by
    rintro rfl
    exact (endsType_of_endsTypeParam hr).2 rfl
  have hends {r : List Char} (hr : EndsTypeParam r) :
      EndsType r ∧ r.head? ≠ some ' ' ∧ Stops mayExtend r := by
    obtain ⟨htype, hblank⟩ := endsType_of_endsTypeParam hr
    exact ⟨htype, hblank, htype.1⟩
  obtain ⟨hbounds, htext⟩ | ⟨hbounds, htext⟩ := boundsText_cases p
  · obtain ⟨hbounds', htext'⟩ | ⟨-, htext'⟩ := boundsText_cases q
    · rw [htext, htext'] at h
      exact ⟨hbounds.trans hbounds'.symm, h⟩
    · rw [htext, htext'] at h
      exact absurd h (hnone hr)
  · obtain ⟨-, htext'⟩ | ⟨-, htext'⟩ := boundsText_cases q
    · rw [htext, htext'] at h
      exact absurd h.symm (hnone hr')
    · rw [htext, htext', List.append_assoc, List.append_assoc] at h
      exact joinWith_readable " & " ' ' rfl
        (fun _ => ⟨by simp; decide, by simp⟩) (fun _ => exists_cons_typeText) hp
        (fun t ht => typeText_readable (hp t ht)) hq (hends hr) (hends hr')
        (List.append_cancel_left h)

theorem toList_typeParamText (p : TypeParam) :
    (typeParamText p).toList =
      (if p.isReified then "reified" ++ " " else "").toList ++ (p.name.toList ++ boundsText p) := by
  unfold typeParamText boundsText
  cases p.isReified <;> cases p.bounds.isEmpty <;> simp

theorem typeParamText_readable {p : TypeParam} (hp : p.WellNamed) :
    Readable TypeParam.WellNamed (fun p => (typeParamText p).toList) EndsTypeParam p := by
  intro q hq r r' hr hr' h
  simp only [toList_typeParamText, List.append_assoc] at h
  obtain ⟨hreified, hname, h⟩ := marked_name_inj "reified" (List.all_eq_true.1 (by decide)) hp.1 hq.1
    (endsName_boundsText hr) (endsName_boundsText hr') h
  obtain ⟨hbounds, rfl⟩ := boundsText_inj hp.2 hq.2 hr hr' h
  cases p
  cases q
  simp_all

/-- Whether a text begins as it may behind a parameter: with a comma or a closing parenthesis. -/
def EndsParameter (text : List Char) : Prop := ∃ c rest, text = c :: rest ∧ c ∈ [',', ')']

/-- What a parameter says behind its type. -/
def defaultMark (hasDefault : Bool) : List Char := if hasDefault then " = default".toList else []

theorem endsType_defaultMark (hasDefault : Bool) {r : List Char} (hr : EndsParameter r) :
    EndsType (defaultMark hasDefault ++ r) := by
  cases hasDefault with
  | false =>
      obtain ⟨c, rest, rfl, hc⟩ := hr
      obtain ⟨hstops, hblank⟩ : mayExtend c = false ∧ c ≠ ' ' := by
        simp only [List.mem_cons, List.not_mem_nil, or_false] at hc
        rcases hc with rfl | rfl <;> decide
      exact endsType_cons hstops hblank
  | true => exact ⟨by simp [defaultMark]; decide, by simp [defaultMark]⟩

theorem defaultMark_inj {b b' : Bool} {r r' : List Char} (hr : EndsParameter r)
    (hr' : EndsParameter r') (h : defaultMark b ++ r = defaultMark b' ++ r') : b = b' ∧ r = r' := by
  have hnone {r r' : List Char} (hr : EndsParameter r) : r ≠ " = default".toList ++ r' := by
    rintro rfl
    obtain ⟨c, rest, heq, hc⟩ := hr
    rw [← (List.cons.inj heq).1] at hc
    exact absurd hc (by decide)
  cases b <;> cases b'
  · exact ⟨rfl, h⟩
  · exact absurd h (hnone hr)
  · exact absurd h.symm (hnone hr')
  · exact ⟨rfl, List.append_cancel_left h⟩

theorem toList_parameterText (p : Blueprint.Parameter) :
    (parameterText p).toList =
      (if p.isVararg then "vararg" ++ " " else "").toList ++
        (p.name.toList ++ (": ".toList ++ ((typeText p.type).toList ++ defaultMark p.hasDefault))) := by
  unfold parameterText defaultMark
  cases p.isVararg <;> cases p.hasDefault <;> simp

theorem parameterText_readable {p : Blueprint.Parameter} (hp : p.WellNamed) :
    Readable Blueprint.Parameter.WellNamed (fun p => (parameterText p).toList) EndsParameter p := by
  intro q hq r r' hr hr' h
  have hcolon (text : List Char) : EndsName (": ".toList ++ text) :=
    endsName_cons (by decide) (by decide)
  simp only [toList_parameterText, List.append_assoc] at h
  obtain ⟨hvararg, hname, h⟩ := marked_name_inj "vararg" (List.all_eq_true.1 (by decide)) hp.1 hq.1
    (hcolon _) (hcolon _) h
  obtain ⟨htype, h⟩ := typeText_readable hp.2 hq.2 (endsType_defaultMark _ hr)
    (endsType_defaultMark _ hr') (List.append_cancel_left h)
  obtain ⟨hdefault, rfl⟩ := defaultMark_inj hr hr' h
  cases p
  cases q
  simp_all

def propertyLine (p : Blueprint.Property) : List Char := (propertyText p).toList ++ ['\n']

/-- What the line of a property says behind the type. -/
def propertyMarks (isMutable : Bool) (inherited : Inherited) (isNullable : Bool) : List Char :=
  (if isMutable then " var " else " val ").toList ++ inherited.text.toList ++
    (if isNullable then " nullable" else " nonnull").toList ++ ['\n']

theorem endsType_propertyMarks (isMutable : Bool) (inherited : Inherited) (isNullable : Bool)
    (r : List Char) : EndsType (propertyMarks isMutable inherited isNullable ++ r) := by
  unfold propertyMarks
  cases isMutable <;> exact ⟨by simp; decide, by simp⟩

theorem propertyMarks_inj {a a' b b' : Bool} {i i' : Inherited} {r r' : List Char}
    (h : propertyMarks a i b ++ r = propertyMarks a' i' b' ++ r') :
    a = a' ∧ i = i' ∧ b = b' ∧ r = r' := by
  unfold propertyMarks at h
  cases a <;> cases a' <;> cases i <;> cases i' <;> cases b <;> cases b' <;>
    simp_all [Inherited.text]

theorem propertyLine_eq (p : Blueprint.Property) :
    propertyLine p = "prop ".toList ++ (p.name.toList ++ (" : ".toList ++
      ((typeText p.type).toList ++ propertyMarks p.isMutable p.inherited p.isNullable))) := by
  simp [propertyLine, propertyText, propertyMarks]

theorem propertyLine_readable {p : Blueprint.Property} (hp : p.WellNamed) :
    Readable Blueprint.Property.WellNamed propertyLine (fun _ => True) p := by
  intro q hq r r' _ _ h
  simp only [propertyLine_eq, List.append_assoc] at h
  obtain ⟨hname, h⟩ := run_append_inj (fun c hc => mayFollow_of_isValid hp.1 hc)
    (fun c hc => mayFollow_of_isValid hq.1 hc) (by simp; decide) (by simp; decide)
    (List.append_cancel_left h)
  obtain ⟨htype, h⟩ := typeText_readable hp.2 hq.2 (endsType_propertyMarks ..)
    (endsType_propertyMarks ..) (List.append_cancel_left h)
  obtain ⟨hmutable, hinherited, hnullable, rfl⟩ := propertyMarks_inj h
  cases p
  cases q
  simp_all [String.toList_inj]

def functionLine (f : Blueprint.Function) : List Char := (functionText f).toList ++ ['\n']

/-- What the line of a function says behind the result type. -/
def functionMarks (isSuspend isInline : Bool) (inherited : Inherited) : List Char :=
  (if isSuspend then " suspend" else "").toList ++ (if isInline then " inline" else "").toList ++
    ' ' :: inherited.text.toList ++ ['\n']

theorem endsType_functionMarks (isSuspend isInline : Bool) (inherited : Inherited) (r : List Char) :
    EndsType (functionMarks isSuspend isInline inherited ++ r) := by
  unfold functionMarks
  cases isSuspend <;> cases isInline <;> cases inherited <;>
    exact ⟨by simp; decide, by simp [Inherited.text]⟩

theorem functionMarks_inj {a a' b b' : Bool} {i i' : Inherited} {r r' : List Char}
    (h : functionMarks a b i ++ r = functionMarks a' b' i' ++ r') :
    a = a' ∧ b = b' ∧ i = i' ∧ r = r' := by
  unfold functionMarks at h
  cases a <;> cases a' <;> cases b <;> cases b' <;> cases i <;> cases i' <;>
    simp_all [Inherited.text]

/-- The type parameters of a function as they are written before its name. -/
def typeParamsText (params : List TypeParam) : List Char :=
  if params.isEmpty then [] else '<' :: ((joinWith ", " (params.map typeParamText)).toList ++ "> ".toList)

theorem functionLine_eq (f : Blueprint.Function) :
    functionLine f = "fun ".toList ++ (typeParamsText f.typeParams ++ (f.name.toList ++
      '(' :: ((joinWith ", " (f.parameters.map parameterText)).toList ++
        ')' :: (": ".toList ++ ((typeText f.result).toList ++
          functionMarks f.isSuspend f.isInline f.inherited))))) := by
  unfold functionLine functionText typeParamsText functionMarks
  cases f.typeParams.isEmpty <;> simp

theorem exists_cons_typeParamText {p : TypeParam} (hp : p.WellNamed) :
    ∃ c rest, (typeParamText p).toList = c :: rest ∧ mayFollow c := by
  obtain ⟨c, rest, hc, hstart, -⟩ := exists_cons_of_isValid hp.1
  rw [toList_typeParamText]
  cases p.isReified with
  | false => exact ⟨c, rest ++ boundsText p, by simp [hc], mayFollow_of_mayStart hstart⟩
  | true => exact ⟨'r', "eified ".toList ++ (p.name.toList ++ boundsText p), by simp, by decide⟩

theorem exists_cons_parameterText {p : Blueprint.Parameter} (hp : p.WellNamed) :
    ∃ c rest, (parameterText p).toList = c :: rest ∧ mayFollow c := by
  obtain ⟨c, rest, hc, hstart, -⟩ := exists_cons_of_isValid hp.1
  rw [toList_parameterText, hc]
  generalize ": ".toList ++ _ = tail
  cases p.isVararg with
  | false => exact ⟨c, rest ++ tail, by simp, mayFollow_of_mayStart hstart⟩
  | true => exact ⟨'v', "ararg ".toList ++ (c :: (rest ++ tail)), by simp, by decide⟩

theorem typeParamsText_inj {ps qs : List TypeParam} (hps : ∀ p ∈ ps, p.WellNamed)
    (hqs : ∀ q ∈ qs, q.WellNamed) {name name' : String} (hname : isValid name)
    (hname' : isValid name') {r r' : List Char}
    (h : typeParamsText ps ++ (name.toList ++ r) = typeParamsText qs ++ (name'.toList ++ r')) :
    ps = qs ∧ name.toList ++ r = name'.toList ++ r' := by
  have hnone {name : String} (hname : isValid name) {r : List Char} (t : List Char) :
      name.toList ++ r ≠ '<' :: t := by
    obtain ⟨c, rest, hc, hstart, -⟩ := exists_cons_of_isValid hname
    intro heq
    rw [hc, List.cons_append] at heq
    rw [(List.cons.inj heq).1] at hstart
    exact absurd hstart (by decide)
  unfold typeParamsText at h
  cases ps with
  | nil =>
      cases qs with
      | nil => exact ⟨rfl, h⟩
      | cons q qs => exact absurd (by simpa using h) (hnone hname _)
  | cons p ps =>
      cases qs with
      | nil => exact absurd (by simpa using h.symm) (hnone hname' _)
      | cons q qs =>
          simp only [List.isEmpty_cons, Bool.false_eq_true, if_false, List.cons_append,
            List.append_assoc, List.cons.injEq, true_and] at h
          have hend (r : List Char) : EndsTypeParam ("> ".toList ++ r) ∧
              ("> ".toList ++ r).head? ≠ some ',' ∧ Stops mayFollow ("> ".toList ++ r) :=
            ⟨⟨'>', ' ' :: r, rfl, by decide⟩, by simp, by simp; decide⟩
          obtain ⟨hpq, h⟩ := joinWith_readable ", " ',' rfl
            (fun text => ⟨',', ' ' :: text, rfl, by decide⟩) (fun _ => exists_cons_typeParamText) hps
            (fun p hp => typeParamText_readable (hps p hp)) hqs (hend _) (hend _) h
          exact ⟨hpq, List.append_cancel_left h⟩

theorem functionLine_readable {f : Blueprint.Function} (hf : f.WellNamed) :
    Readable Blueprint.Function.WellNamed functionLine (fun _ => True) f := by
  intro g hg r r' _ _ h
  have hend (r : List Char) : EndsParameter (')' :: r) ∧ (')' :: r).head? ≠ some ',' ∧
      Stops mayFollow (')' :: r) :=
    ⟨⟨')', r, rfl, by decide⟩, by simp, stops_cons.2 (by decide)⟩
  simp only [functionLine_eq, List.append_assoc, List.cons_append] at h
  obtain ⟨htypeParams, h⟩ := typeParamsText_inj hf.typeParams hg.typeParams hf.name hg.name
    (List.append_cancel_left h)
  obtain ⟨hname, h⟩ := run_append_inj (fun c hc => mayFollow_of_isValid hf.name hc)
    (fun c hc => mayFollow_of_isValid hg.name hc) (stops_cons.2 (by decide))
    (stops_cons.2 (by decide)) h
  obtain ⟨hparameters, h⟩ := joinWith_readable ", " ',' rfl
    (fun text => ⟨',', ' ' :: text, rfl, by decide⟩) (fun _ => exists_cons_parameterText)
    hf.parameters (fun p hp => parameterText_readable (hf.parameters p hp)) hg.parameters (hend _)
    (hend _) (List.cons.inj h).2
  obtain ⟨hresult, h⟩ := typeText_readable hf.result hg.result (endsType_functionMarks ..)
    (endsType_functionMarks ..) (List.append_cancel_left (List.cons.inj h).2)
  obtain ⟨hsuspend, hinline, hinherited, rfl⟩ := functionMarks_inj h
  cases f
  cases g
  simp_all [String.toList_inj]

end Signature

end KotlinFakes
