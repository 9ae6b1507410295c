import KotlinFakes.Proofs.Names

/-!
# Names from their dotted forms

A name that was cut from a dotted text is found again by cutting what it is written as, and a name's import
tells its package from its outermost class.
-/

namespace KotlinFakes

namespace QualifiedName

/-! ## Cutting again -/

theorem parse_of_packageLength_eq_zero {dotted : String} (h : packageLength (Text.segments dotted) = 0) :
    parse dotted = ⟨"", dotted⟩ := by
  rw [parse, h, List.take_zero, List.drop_zero, Text.joinWith_segments]
  rfl

theorem parse_simple (dotted : String) : parse (parse dotted).simple = ⟨"", (parse dotted).simple⟩ := by
  apply parse_of_packageLength_eq_zero
  rw [segments_simple_parse]
  exact packageLength_drop (Text.segments_ne_nil dotted)

theorem parse_full (dotted : String) : parse (parse dotted).full = parse dotted := by
  by_cases h : (parse dotted).package = ""
  · -- What is left of the text is the class path alone, and its package is lost if it was one empty segment.
    have hfull : (parse dotted).full = (parse dotted).simple := by rw [full, within, if_pos h]
    rw [hfull, parse_simple, ← h]
  · rw [full_parse_of_package fun hempty => absurd hempty h]

/-! ## Packages -/

theorem startsClass_of_mem_take {segments : List String} {segment : String}
    (h : segment ∈ segments.take (packageLength segments)) : startsClass segment = false := by
  obtain ⟨i, hi, rfl⟩ := List.mem_take_iff_getElem.1 h
  unfold packageLength at hi
  cases hfind : segments.findIdx? startsClass with
  | none => exact List.findIdx?_eq_none_iff.1 hfind _ (List.getElem_mem _)
  | some n =>
      obtain ⟨hn, -, hbefore⟩ := List.findIdx?_eq_some_iff_getElem.1 hfind
      simp only [hfind, Option.getD_some, Nat.lt_min] at hi
      exact Bool.eq_false_iff.2 (hbefore i hi.1)

theorem segments_package_parse {dotted : String} (h : (parse dotted).package ≠ "") :
    Text.segments (parse dotted).package =
      (Text.segments dotted).take (packageLength (Text.segments dotted)) := by
  refine Text.segments_joinWith (fun hnil => h ?_) fun name hname =>
    Text.not_mem_of_mem_segments (List.mem_of_mem_take hname)
  rw [parse, hnil]
  rfl

theorem startsClass_of_mem_package {dotted segment : String}
    (h : segment ∈ Text.segments (parse dotted).package) : startsClass segment = false := by
  by_cases hpackage : (parse dotted).package = ""
  · rw [hpackage] at h
    obtain rfl := List.mem_singleton.1 h
    rfl
  · rw [segments_package_parse hpackage] at h
    exact startsClass_of_mem_take h

theorem not_mem_topLevel (name : QualifiedName) : '.' ∉ name.topLevel.toList := by
  obtain ⟨first, rest, hsegments⟩ := List.exists_cons_of_ne_nil (Text.segments_ne_nil name.simple)
  have hmem : name.topLevel ∈ Text.segments name.simple := by
    rw [topLevel, hsegments, List.headD_cons]
    exact List.mem_cons_self
  exact Text.not_mem_of_mem_segments hmem

/-- Cutting what a cut name is written as gives the name again, and it is written as the text that it was cut
    from unless that begins with a dot. No package has a capitalised segment. An import tells the package from
    the outermost class, with or without a package. -/
theorem dotted_forms_determine :
    (∀ dotted, parse (parse dotted).full = parse dotted) ∧
    (∀ dotted, (Text.segments dotted).head? ≠ some "" → (parse dotted).full = dotted) ∧
    (∀ dotted, ∀ segment ∈ Text.segments (parse dotted).package, ∀ c,
      segment.toList.head? = some c → Text.isUppercase c = false) ∧
    ∀ name other : QualifiedName, name.importPath = other.importPath →
      name.package = other.package ∧ name.topLevel = other.topLevel := by
  refine ⟨parse_full, fun _ => full_parse, fun dotted segment hsegment c hc => ?_, fun name other h =>
    within_inj name.not_mem_topLevel other.not_mem_topLevel h⟩
  have hstarts := startsClass_of_mem_package hsegment
  obtain ⟨rest, hrest⟩ := List.head?_eq_some_iff.1 hc
  rwa [startsClass, hrest] at hstarts

/-- A nested class and its outermost class share their import. -/
theorem dotted_forms_determine_nested :
    parse (parse ".Outer.Inner").full = parse ".Outer.Inner" ∧ (parse ".Outer.Inner").full = "Outer.Inner" ∧
    (Text.segments "app.data.Outer.Inner").head? ≠ some "" ∧
    (parse "app.data.Outer.Inner").full = "app.data.Outer.Inner" ∧
    "data" ∈ Text.segments (parse "app.data.Outer.Inner").package ∧ Text.isUppercase 'd' = false ∧
    (parse "app.data.Outer.Inner").importPath = (parse "app.data.Outer").importPath ∧
    (parse "app.data.Outer.Inner").package = (parse "app.data.Outer").package ∧
    (parse "app.data.Outer.Inner").topLevel = (parse "app.data.Outer").topLevel := by
  obtain ⟨hagain, hfull, hpackage, himport⟩ := dotted_forms_determine
  have hhead : (Text.segments "app.data.Outer.Inner").head? ≠ some "" := by decide
  have hdata : "data" ∈ Text.segments (parse "app.data.Outer.Inner").package := by decide
  have hpath : (parse "app.data.Outer.Inner").importPath = (parse "app.data.Outer").importPath := by decide
  exact ⟨hagain _, by decide, hhead, hfull _ hhead, hdata, hpackage _ _ hdata 'd' rfl, hpath,
    himport _ _ hpath⟩

end QualifiedName

end KotlinFakes
