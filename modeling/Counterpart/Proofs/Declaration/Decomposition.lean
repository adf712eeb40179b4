import Counterpart.Proofs.Declaration.WellFormed
import Counterpart.Proofs.Naming.Qualified

/-!
# Full names and their parts

The package of a type is cut off its full name at the last dot in front of any nesting separator,
the local name is what stays behind the package, and the simple name of a type that is known by its
full name alone is what comes after the last dot or separator.  These cuts agree on every text: the
full name of a type that states its package as the cut finds it is put together from package and
local name again.

* `exists_packagePart_append`: a package that is not empty is divided off by a dot.
* `TypeDecl.isDecomposed_of_package`: the cuts agree.
* `TypeDecl.defect?_named_eq_none_iff`: which full names make an accepted type.
* `accepted_names_are_decomposed`: the parts of accepted types, and of types known by their names.
-/

namespace Counterpart

namespace Text

theorem exists_eq_append_afterLast
    (separates : Char → Bool) (s : String) :
    ∃ front, s = front ++ afterLast separates s := by
  refine ⟨String.ofList (s.toList.reverse.dropWhile fun c => !separates c).reverse, ?_⟩
  apply String.toList_injective
  rw [afterLast, String.toList_append, String.toList_ofList, String.toList_ofList,
    ← List.reverse_append, List.takeWhile_append_dropWhile, List.reverse_reverse]

/-- Nothing comes after the last separating character if this is the last one of all. -/
theorem afterLast_eq_empty_iff
    {separates : Char → Bool} {s : String} (nonempty : s ≠ "") :
    afterLast separates s = "" ↔
      ∃ front c, separates c = true ∧ s = front ++ String.singleton c := by
  obtain ⟨front, last, hsplit⟩ : ∃ front last, s.toList = front ++ [last] :=
    (List.eq_nil_or_concat' s.toList).resolve_left (String.toList_eq_nil_iff.not.mpr nonempty)
  have hs : s = String.ofList front ++ String.singleton last := by
    apply String.toList_injective
    simpa using hsplit
  have hlast : afterLast separates s = "" ↔ separates last = true := by
    rw [afterLast, hsplit, ← String.toList_eq_nil_iff]
    cases h : separates last <;> simp [h]
  rw [hlast]
  constructor
  · intro h
    exact ⟨String.ofList front, last, h, hs⟩
  · rintro ⟨front', c, h, hs'⟩
    have hsame := congrArg (fun text => text.toList.getLast?) (hs.symm.trans hs')
    obtain rfl : last = c := by simpa using hsame
    exact h

theorem ne_empty_of_not_isBlank
    {s : String} (h : isBlank s = false) :
    s ≠ "" := by
  rintro rfl
  exact Bool.noConfusion h

end Text

/-- There is a last name unless the full name ends in a dot or separator. -/
theorem lastName_ne_empty_iff
    {side : Side} {fullName : String} (nonempty : fullName ≠ "") :
    lastName fullName side ≠ "" ↔
      (∀ front, fullName ≠ front ++ ".") ∧
        ∀ front, fullName ≠ front ++ String.singleton side.separator := by
  rw [lastName, ne_eq, Text.afterLast_eq_empty_iff nonempty]
  constructor
  · intro h
    constructor
    · intro front hfront
      exact h ⟨front, '.', by simp, hfront⟩
    · intro front hfront
      exact h ⟨front, side.separator, by simp, hfront⟩
  · rintro ⟨hdot, hseparator⟩ ⟨front, c, hc, hfront⟩
    rw [Bool.or_eq_true, beq_iff_eq, beq_iff_eq] at hc
    rcases hc with rfl | rfl
    · exact hdot front hfront
    · exact hseparator front hfront

/-- A package that is not empty is divided off the full name by a dot. -/
theorem exists_packagePart_append
    {side : Side} {fullName : String} (h : packagePart fullName side ≠ "") :
    ∃ name,
      fullName = packagePart fullName side ++ "." ++ name ∧
        side.separator ∉ (packagePart fullName side).toList ∧
          '.' ∉ (Text.before side.separator name).toList := by
  have hdot : '.' ∈ (Text.before side.separator fullName).toList := by
    by_contra undotted
    exact h (Text.beforeLast_of_not_mem undotted)
  obtain ⟨front, back, houter, hback⟩ := Text.exists_eq_append_of_mem hdot
  obtain ⟨rest, hsplit, hrest⟩ := Text.exists_eq_before_append side.separator fullName
  have hpackage : packagePart fullName side = front := by
    rw [packagePart, houter, Text.beforeLast_append hback]
  have hunnested := Text.not_mem_before side.separator fullName
  rw [houter, String.toList_append, String.toList_append, List.mem_append, List.mem_append,
    not_or, not_or] at hunnested
  refine ⟨back ++ rest, ?_, ?_, ?_⟩
  · rw [hpackage, ← String.append_assoc]
    exact hsplit.trans (by rw [houter]; rfl)
  · rw [hpackage]
    exact hunnested.1.1
  · rw [Text.before_append hunnested.2, hrest, String.append_empty]
    exact hback

namespace TypeDecl

/-- The full name of a type is put together from its package and its local name. -/
structure IsDecomposed (side : Side) (decl : TypeDecl) : Prop where
  fullName : decl.fullName = Naming.qualified decl.package decl.localName
  /-- The local name is what stays behind the package, never the simple name in its place. -/
  behind :
    decl.package ≠ "" →
      Text.afterStart? (decl.package ++ ".") decl.fullName = some decl.localName
  unnested : side.separator ∉ decl.package.toList
  undotted :
    decl.package ≠ "" → '.' ∉ (Text.before side.separator decl.localName).toList

variable {side : Side}

/-- A type that states the package that is cut off its full name is decomposed. -/
theorem isDecomposed_of_package
    {decl : TypeDecl} (h : decl.package = packagePart decl.fullName side) :
    decl.IsDecomposed side := by
  by_cases hempty : decl.package = ""
  · have hlocal : decl.localName = decl.fullName := by
      rw [localName, if_pos hempty]
    constructor
    case fullName =>
      rw [Naming.qualified, if_pos hempty, hlocal]
    case behind | undotted =>
      exact fun hpackage => absurd hempty hpackage
    case unnested =>
      simp [hempty]
  · rw [h] at hempty
    obtain ⟨name, hsplit, hunnested, hundotted⟩ := exists_packagePart_append hempty
    rw [← h] at hsplit hunnested hempty
    have hbehind : Text.afterStart? (decl.package ++ ".") decl.fullName = some name := by
      rw [hsplit, Text.afterStart?_append]
    have hlocal : decl.localName = name := by
      rw [localName, if_neg hempty, hbehind, Option.getD_some]
    constructor
    case fullName =>
      rw [Naming.qualified, if_neg hempty, hlocal]
      exact hsplit
    case behind =>
      exact fun _ => hlocal ▸ hbehind
    case unnested =>
      exact hunnested
    case undotted =>
      exact fun _ => hlocal ▸ hundotted

theorem IsDecomposed.fullName_eq
    {first second : TypeDecl} (h : first.IsDecomposed side) (h' : second.IsDecomposed side)
    (package : first.package = second.package) (localName : first.localName = second.localName) :
    first.fullName = second.fullName := by
  rw [h.fullName, h'.fullName, package, localName]

/-- A full name makes an accepted type unless it is blank or ends in a dot or separator. -/
theorem defect?_named_eq_none_iff
    {kind : TypeDecl.Kind} {fullName : String} :
    (named side kind fullName).defect? side = none ↔
      Text.isBlank fullName = false ∧
        (∀ front, fullName ≠ front ++ ".") ∧
          ∀ front, fullName ≠ front ++ String.singleton side.separator := by
  rw [defect?_eq_none_iff]
  constructor
  · intro h
    have hblank : Text.isBlank fullName = false := h.fullName
    have hsimpleName : lastName fullName side ≠ "" := h.simpleName
    exact ⟨hblank, (lastName_ne_empty_iff (Text.ne_empty_of_not_isBlank hblank)).mp hsimpleName⟩
  · rintro ⟨hblank, hends⟩
    constructor
    case fullName =>
      exact hblank
    case package =>
      rfl
    case simpleName =>
      exact (lastName_ne_empty_iff (Text.ne_empty_of_not_isBlank hblank)).mpr hends
    case ending =>
      exact Text.exists_eq_append_afterLast _ fullName
    case members =>
      exact Nat.zero_le _

end TypeDecl

/-- The full name of an accepted type is put together from its package and its local name, and so it
is fixed by the two.  A type that is known by its full name alone is decomposed as well, whatever
the name; it is accepted exactly if the name is not blank and does not end in a dot or separator. -/
theorem accepted_names_are_decomposed
    (side : Side) :
    (∀ decl : TypeDecl, decl.defect? side = none → decl.IsDecomposed side) ∧
      (∀ first second : TypeDecl,
        first.defect? side = none → second.defect? side = none →
          first.package = second.package → first.localName = second.localName →
            first.fullName = second.fullName) ∧
      ∀ (kind : TypeDecl.Kind) (fullName : String),
        (TypeDecl.named side kind fullName).IsDecomposed side ∧
          ((TypeDecl.named side kind fullName).defect? side = none ↔
            Text.isBlank fullName = false ∧
              (∀ front, fullName ≠ front ++ ".") ∧
                ∀ front, fullName ≠ front ++ String.singleton side.separator) := by
  have hdecomposed {decl : TypeDecl} (h : decl.defect? side = none) : decl.IsDecomposed side :=
    TypeDecl.isDecomposed_of_package (TypeDecl.defect?_eq_none_iff.mp h).package
  refine ⟨fun _ => hdecomposed, ?_, ?_⟩
  · intro first second hfirst hsecond package localName
    exact (hdecomposed hfirst).fullName_eq (hdecomposed hsecond) package localName
  · intro kind fullName
    exact ⟨TypeDecl.isDecomposed_of_package rfl, TypeDecl.defect?_named_eq_none_iff⟩

section Samples

/-- A full name with an empty segment, an empty level and a dot in its innermost level. -/
def knottedType : TypeDecl :=
  .named .reference .classType "a..b.Outer$$In.ner"

/-- The same name with another simple name. -/
def knottedTwin : TypeDecl :=
  { TypeDecl.named .reference .interfaceType "a..b.Outer$$In.ner" with simpleName := "$In.ner" }

theorem accepted_names_are_decomposed_knotted :
    knottedType.defect? .reference = none ∧ knottedTwin.defect? .reference = none ∧
      knottedType.IsDecomposed .reference ∧
      knottedType.package = "a..b" ∧ knottedType.localName = "Outer$$In.ner" ∧
      knottedTwin.package = "a..b" ∧ knottedTwin.localName = "Outer$$In.ner" ∧
      knottedType.fullName = knottedTwin.fullName := by
  obtain ⟨decomposed, fixed, -⟩ := accepted_names_are_decomposed .reference
  have hfirst : knottedType.defect? .reference = none := by decide +kernel
  have hsecond : knottedTwin.defect? .reference = none := by decide +kernel
  refine ⟨hfirst, hsecond, decomposed _ hfirst, by decide +kernel, by decide +kernel,
    by decide +kernel, by decide +kernel, ?_⟩
  exact fixed _ _ hfirst hsecond (by decide +kernel) (by decide +kernel)

end Samples

end Counterpart
