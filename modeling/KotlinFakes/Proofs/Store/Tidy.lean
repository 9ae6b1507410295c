import KotlinFakes.Proofs.Signature.Blueprint
import KotlinFakes.Proofs.Store.Entries

/-!
# Entries of well-named declarations

Dotted names hold no blanks and digests are hexadecimal, so what is recorded about a well-named
blueprint can always be read back.
-/

namespace KotlinFakes

namespace Sha256

theorem mem_digits_of_mem_digest {message : List UInt8} {c : Char}
    (h : c ∈ (digest message).toList) : c ∈ "0123456789abcdef".toList := by
  have hdigit : ∀ n < 16, hexDigit n ∈ "0123456789abcdef".toList := by decide
  simp only [digest, String.toList_ofList, List.mem_flatMap, hexWord, List.mem_map] at h
  obtain ⟨w, -, i, -, rfl⟩ := h
  exact hdigit _ (Nat.mod_lt _ (by decide))

theorem digest_ne_empty (message : List UInt8) : digest message ≠ "" := by
  intro h
  have hlength := congrArg (fun text => text.toList.length) h
  simp [digest, State.words, hexWord] at hlength

end Sha256

namespace Entries

theorem isTidy_of_inDotted {id : String} (hne : id ≠ "")
    (hchars : ∀ c ∈ id.toList, Identifier.inDotted c) (signature : Signature) :
    IsTidy id signature.digest where
  id_ne_empty := hne
  digest_ne_empty := Sha256.digest_ne_empty _
  id_chars c hc := by
    refine ⟨?_, ?_, Text.isBlank_eq_false_of_inDotted (hchars c hc)⟩
    · rintro rfl
      exact absurd (hchars _ hc) (by decide)
    · rintro rfl
      exact absurd (hchars _ hc) (by decide)
  digest_chars c hc := by
    have hhex : "0123456789abcdef".toList.all fun c => !Text.isBlank c := by decide
    simpa using List.all_eq_true.1 hhex c (Sha256.mem_digits_of_mem_digest hc)

theorem isTidy_of_isDotted {id : String} (h : Identifier.isDotted id) (signature : Signature) :
    IsTidy id signature.digest := by
  refine isTidy_of_inDotted ?_ (fun _ => Identifier.inDotted_of_isDotted h) signature
  rintro rfl
  obtain ⟨c, rest, hchars, -⟩ := Identifier.exists_cons_of_isDotted h
  cases hchars

theorem isTidy_within {package name : String} (hpackage : package = "" ∨ Identifier.isDotted package)
    (hname : Identifier.isValid name) (signature : Signature) :
    IsTidy (QualifiedName.within package name) signature.digest := by
  refine isTidy_of_inDotted ?_ (QualifiedName.inDotted_within hpackage hname) signature
  rw [QualifiedName.within]
  split
  · exact Identifier.isValid_ne_empty hname
  · simp

end Entries

theorem Blueprint.WellNamed.isTidy {b : Blueprint} (h : b.WellNamed) (signature : Signature) :
    Entries.IsTidy b.id signature.digest :=
  h.id_eq ▸ Entries.isTidy_within h.package h.name signature

end KotlinFakes
