import Counterpart.Proofs.Correspondence.Mapping
import Counterpart.Proofs.Text.Lines

/-!
# The longest mapping that covers a package

The namespace of a package is that of the longest mapping that covers it, the first listed of
several.  All mappings that cover a package start with the same characters, so the longest one is
the same whether characters or bytes are counted.  What is left of the package is capitalized
segment by segment.

* `decides_iff`: the mapping that is chosen is the one that decides.
* `Decides.of_append_cons`: other mappings may be taken out.
* `namespace_by_longest_cover`: the namespace of a package, and what it does not depend on.
-/

namespace Counterpart

namespace Text

theorem length_pos_iff_utf8ByteSize_pos
    {s : String} :
    0 < s.length ↔ 0 < s.utf8ByteSize := by
  rw [Nat.pos_iff_ne_zero, Nat.pos_iff_ne_zero, Ne, Ne, String.utf8ByteSize_eq_zero_iff,
    ← String.length_toList, List.length_eq_zero_iff, String.toList_eq_nil_iff]

/-- Of two starts of a text, one has fewer characters exactly if it has fewer bytes. -/
theorem length_lt_iff_utf8ByteSize_lt
    {first second s : String}
    (hfirst : first.toList <+: s.toList) (hsecond : second.toList <+: s.toList) :
    first.length < second.length ↔ first.utf8ByteSize < second.utf8ByteSize := by
  rcases List.prefix_or_prefix_of_prefix hfirst hsecond with ⟨more, hmore⟩ | ⟨more, hmore⟩
  · obtain rfl : second = first ++ String.ofList more := by
      apply String.toList_injective
      simpa using hmore.symm
    have hpos : 0 < (String.ofList more).length ↔ 0 < (String.ofList more).utf8ByteSize :=
      length_pos_iff_utf8ByteSize_pos
    rw [String.length_append, String.utf8ByteSize_append]
    omega
  · obtain rfl : first = second ++ String.ofList more := by
      apply String.toList_injective
      simpa using hmore.symm
    rw [String.length_append, String.utf8ByteSize_append]
    omega

end Text

/-- Capitalizing goes segment by segment. -/
theorem Naming.capitalizeSegments_append
    (front back : String) :
    capitalizeSegments (front ++ "." ++ back) =
      capitalizeSegments front ++ "." ++ capitalizeSegments back := by
  have hpieces := Text.pieces_append '.' front back
  have hdot : String.singleton '.' = "." := rfl
  rw [hdot] at hpieces
  rw [capitalizeSegments, hpieces, List.map_append,
    Text.join_append "." (by simp [Text.pieces_ne_nil]) (by simp [Text.pieces_ne_nil])]
  rfl

namespace PackageMapping

/-- The mapping that decides on a package, with what it leaves of it: the first listed of the
longest mappings that cover the package. -/
structure Decides
    (mappings : List PackageMapping) (chosen : PackageMapping) (package rest : String) :
    Prop where
  covers : chosen.Covers package rest
  first_longest :
    ∃ before after,
      mappings = before ++ chosen :: after ∧
        (∀ other ∈ before, ∀ left, other.Covers package left →
          other.referencePrefix.length < chosen.referencePrefix.length) ∧
        ∀ other ∈ after, ∀ left, other.Covers package left →
          other.referencePrefix.length ≤ chosen.referencePrefix.length

theorem longest?_append_cons
    {before after : List PackageMapping} {chosen : PackageMapping}
    (hbefore : ∀ other ∈ before, other.referencePrefix.length < chosen.referencePrefix.length)
    (hafter : ∀ other ∈ after, other.referencePrefix.length ≤ chosen.referencePrefix.length) :
    longest? (before ++ chosen :: after) = some chosen := by
  induction before with
  | nil =>
      cases hbest : longest? after with
      | none =>
          simp [longest?, hbest]
      | some best =>
          have hle := hafter best (mem_of_longest?_eq_some hbest)
          rw [List.nil_append, longest?, hbest]
          exact if_neg (Nat.not_lt.mpr hle)
  | cons first rest ih =>
      obtain ⟨hfirst, hrest⟩ := List.forall_mem_cons.mp hbefore
      simp [longest?, ih hrest, hfirst]

/-- The mapping that is chosen is the one that decides. -/
theorem decides_iff
    {mappings : List PackageMapping} {chosen : PackageMapping} {package rest : String} :
    Decides mappings chosen package rest ↔
      longest? (mappings.filter (·.appliesTo package)) = some chosen ∧
        chosen.remainder? package = some rest := by
  rw [remainder?_eq_some_iff]
  constructor
  · rintro ⟨hcovers, before, after, rfl, hbefore, hafter⟩
    refine ⟨?_, hcovers⟩
    have happlies : chosen.appliesTo package = true := appliesTo_iff.mpr ⟨rest, hcovers⟩
    rw [List.filter_append, List.filter_cons, if_pos happlies]
    apply longest?_append_cons
    · intro other hother
      obtain ⟨hmem, happlies⟩ := List.mem_filter.mp hother
      obtain ⟨left, hleft⟩ := appliesTo_iff.mp happlies
      exact hbefore other hmem left hleft
    · intro other hother
      obtain ⟨hmem, happlies⟩ := List.mem_filter.mp hother
      obtain ⟨left, hleft⟩ := appliesTo_iff.mp happlies
      exact hafter other hmem left hleft
  · rintro ⟨hchosen, hcovers⟩
    refine ⟨hcovers, ?_⟩
    obtain ⟨shorter, others, hsplit, hshorter, hothers⟩ :=
      exists_split_of_longest?_eq_some hchosen
    obtain ⟨front, back, rfl, rfl, hback⟩ := List.filter_eq_append_iff.mp hsplit
    obtain ⟨skipped, after, rfl, hskipped, _, rfl⟩ := List.filter_eq_cons_iff.mp hback
    refine ⟨front ++ skipped, after, by simp, ?_, ?_⟩
    · intro other hother left hleft
      have happlies := appliesTo_iff.mpr ⟨left, hleft⟩
      rcases List.mem_append.mp hother with hother | hother
      · exact hshorter other (List.mem_filter.mpr ⟨hother, happlies⟩)
      · exact absurd happlies (hskipped other hother)
    · intro other hother left hleft
      exact hothers other (List.mem_filter.mpr ⟨hother, appliesTo_iff.mpr ⟨left, hleft⟩⟩)

theorem longest?_filter_eq_none_iff
    {mappings : List PackageMapping} {package : String} :
    longest? (mappings.filter (·.appliesTo package)) = none ↔
      ∀ mapping ∈ mappings, ∀ rest, ¬ mapping.Covers package rest := by
  simp only [longest?_eq_none_iff, List.filter_eq_nil_iff, appliesTo_iff, not_exists]

/-- A package that some mapping covers is decided on. -/
theorem exists_decides
    {mappings : List PackageMapping} {package : String}
    (h : ∃ mapping ∈ mappings, ∃ rest, mapping.Covers package rest) :
    ∃ chosen rest, Decides mappings chosen package rest := by
  cases hchosen : longest? (mappings.filter (·.appliesTo package)) with
  | none =>
      obtain ⟨mapping, hmapping, rest, hcovers⟩ := h
      exact absurd hcovers (longest?_filter_eq_none_iff.mp hchosen mapping hmapping rest)
  | some chosen =>
      obtain ⟨_, happlies⟩ := List.mem_filter.mp (mem_of_longest?_eq_some hchosen)
      obtain ⟨rest, hcovers⟩ := appliesTo_iff.mp happlies
      exact ⟨chosen, rest, decides_iff.mpr ⟨hchosen, remainder?_eq_some_iff.mpr hcovers⟩⟩

theorem Decides.length_le
    {mappings : List PackageMapping} {chosen other : PackageMapping} {package rest left : String}
    (h : Decides mappings chosen package rest) (hother : other ∈ mappings)
    (hcovers : other.Covers package left) :
    other.referencePrefix.length ≤ chosen.referencePrefix.length := by
  obtain ⟨before, after, rfl, hbefore, hafter⟩ := h.first_longest
  rcases List.mem_append.mp hother with hother | hother
  · exact Nat.le_of_lt (hbefore other hother left hcovers)
  · rcases List.mem_cons.mp hother with rfl | hother
    · exact Nat.le_refl _
    · exact hafter other hother left hcovers

/-- A mapping other than the one that decides may be taken out. -/
theorem Decides.of_append_cons
    {before after : List PackageMapping} {mapping chosen : PackageMapping} {package rest : String}
    (h : Decides (before ++ mapping :: after) chosen package rest) (hne : mapping ≠ chosen) :
    Decides (before ++ after) chosen package rest := by
  refine ⟨h.covers, ?_⟩
  obtain ⟨front, back, hsplit, hfront, hback⟩ := h.first_longest
  rcases List.append_eq_append_iff.mp hsplit with ⟨between, rfl, htail⟩ | ⟨between, rfl, htail⟩
  · cases between with
    | nil =>
        exact absurd (List.cons.inj htail).1 hne
    | cons first between =>
        obtain ⟨rfl, rfl⟩ := List.cons.inj htail
        refine ⟨before ++ between, back, by simp, ?_, hback⟩
        intro other hother
        have hsublist := (List.sublist_cons_self mapping between).append_left before
        exact hfront other (hsublist.subset hother)
  · cases between with
    | nil =>
        exact absurd (List.cons.inj htail).1.symm hne
    | cons first between =>
        obtain ⟨rfl, rfl⟩ := List.cons.inj htail
        refine ⟨front, between ++ after, by simp, hfront, ?_⟩
        intro other hother
        have hsublist := (List.sublist_cons_self mapping after).append_left between
        exact hback other (hsublist.subset hother)

/-- A mapping does not cover a package, or is shorter than another that does. -/
def Outdone (mapping : PackageMapping) (others : List PackageMapping) (package : String) : Prop :=
  (∀ rest, ¬ mapping.Covers package rest) ∨
    ∃ other ∈ others, (∃ rest, other.Covers package rest) ∧
      mapping.referencePrefix.length < other.referencePrefix.length

end PackageMapping

theorem targetNamespace_of_uncovered
    {mappings : List PackageMapping} {package : String}
    (h : ∀ mapping ∈ mappings, ∀ rest, ¬ mapping.Covers package rest) :
    targetNamespace package mappings = Naming.capitalizeSegments package := by
  rw [targetNamespace, PackageMapping.longest?_filter_eq_none_iff.mpr h]

theorem PackageMapping.Decides.targetNamespace_eq
    {mappings : List PackageMapping} {chosen : PackageMapping} {package rest : String}
    (h : Decides mappings chosen package rest) :
    targetNamespace package mappings =
      chosen.targetPrefix ++ Naming.capitalizeSegments rest := by
  obtain ⟨hchosen, hrest⟩ := decides_iff.mp h
  simp only [targetNamespace, hchosen, hrest, Option.getD_some]

/-- A mapping that is outdone by the others does not matter. -/
theorem targetNamespace_of_outdone
    {before after : List PackageMapping} {mapping : PackageMapping} {package : String}
    (h : mapping.Outdone (before ++ after) package) :
    targetNamespace package (before ++ mapping :: after) =
      targetNamespace package (before ++ after) := by
  have hsubset : before ++ after ⊆ before ++ mapping :: after :=
    ((List.sublist_cons_self mapping after).append_left before).subset
  by_cases hcovered :
      ∃ other ∈ before ++ mapping :: after, ∃ rest, other.Covers package rest
  · obtain ⟨chosen, rest, hdecides⟩ := PackageMapping.exists_decides hcovered
    have hne : mapping ≠ chosen := by
      rintro rfl
      rcases h with huncovered | ⟨other, hother, ⟨left, hleft⟩, hshorter⟩
      · exact huncovered rest hdecides.covers
      · exact absurd (hdecides.length_le (hsubset hother) hleft) (Nat.not_le.mpr hshorter)
    rw [hdecides.targetNamespace_eq, (hdecides.of_append_cons hne).targetNamespace_eq]
  · have huncovered :
        ∀ other ∈ before ++ mapping :: after, ∀ rest, ¬ other.Covers package rest := by
      intro other hother rest hcovers
      exact hcovered ⟨other, hother, rest, hcovers⟩
    rw [targetNamespace_of_uncovered huncovered, targetNamespace_of_uncovered]
    intro other hother
    exact huncovered other (hsubset hother)

/-- How the namespace of a package depends on the mappings. -/
structure NamespaceByLongestCover (package : String) (mappings : List PackageMapping) : Prop where
  uncovered :
    (∀ mapping ∈ mappings, ∀ rest, ¬ mapping.Covers package rest) →
      targetNamespace package mappings = Naming.capitalizeSegments package
  covered :
    (∃ mapping ∈ mappings, ∃ rest, mapping.Covers package rest) →
      ∃ chosen rest, PackageMapping.Decides mappings chosen package rest
  decided :
    ∀ chosen rest, PackageMapping.Decides mappings chosen package rest →
      targetNamespace package mappings = chosen.targetPrefix ++ Naming.capitalizeSegments rest
  /-- The longest in characters is the longest in bytes. -/
  measured :
    ∀ first second : PackageMapping, ∀ left right,
      first.Covers package left → second.Covers package right →
        (first.referencePrefix.length < second.referencePrefix.length ↔
          first.referencePrefix.utf8ByteSize < second.referencePrefix.utf8ByteSize)
  unordered :
    ∀ others : List PackageMapping, (mappings.map PackageMapping.referencePrefix).Nodup →
      others.Perm mappings → targetNamespace package others = targetNamespace package mappings
  undisturbed :
    ∀ before mapping after, mappings = before ++ after → mapping.Outdone mappings package →
      targetNamespace package (before ++ mapping :: after) = targetNamespace package mappings

/-- The namespace of a package is that of the longest mapping that covers it, and capitalizing goes
segment by segment. -/
theorem namespace_by_longest_cover
    (package : String) (mappings : List PackageMapping) :
    NamespaceByLongestCover package mappings ∧
      ∀ front back,
        Naming.capitalizeSegments (front ++ "." ++ back) =
          Naming.capitalizeSegments front ++ "." ++ Naming.capitalizeSegments back := by
  refine ⟨?_, Naming.capitalizeSegments_append⟩
  constructor
  case uncovered =>
    exact targetNamespace_of_uncovered
  case covered =>
    exact PackageMapping.exists_decides
  case decided =>
    intro chosen rest h
    exact h.targetNamespace_eq
  case measured =>
    intro first second left right hfirst hsecond
    exact Text.length_lt_iff_utf8ByteSize_lt
      (PackageMapping.prefix_of_appliesTo (PackageMapping.appliesTo_iff.mpr ⟨left, hfirst⟩))
      (PackageMapping.prefix_of_appliesTo (PackageMapping.appliesTo_iff.mpr ⟨right, hsecond⟩))
  case unordered =>
    intro others distinct h
    exact targetNamespace_eq_of_perm distinct h package
  case undisturbed =>
    rintro before mapping after rfl h
    exact targetNamespace_of_outdone h

section ByTask

/-- Mappings of one package and of packages below it, one of which is listed twice. -/
def benchmarkMappings : List PackageMapping :=
  [{ referencePrefix := "org.example", targetPrefix := "Example" },
    { referencePrefix := "org.example.benchmark", targetPrefix := "Example.Benchmarks" },
    { referencePrefix := "org.example.benchmark.by", targetPrefix := "Example.By" },
    { referencePrefix := "org.example.benchmark", targetPrefix := "Benchmarks" }]

theorem namespace_by_longest_cover_by_task :
    PackageMapping.Decides benchmarkMappings
        { referencePrefix := "org.example.benchmark", targetPrefix := "Example.Benchmarks" }
        "org.example.benchmark.byTask" ".byTask" ∧
      targetNamespace "org.example.benchmark.byTask" benchmarkMappings =
        "Example.Benchmarks" ++ Naming.capitalizeSegments ".byTask" := by
  have hdecides :
      PackageMapping.Decides benchmarkMappings
        { referencePrefix := "org.example.benchmark", targetPrefix := "Example.Benchmarks" }
        "org.example.benchmark.byTask" ".byTask" :=
    PackageMapping.decides_iff.mpr ⟨by decide +kernel, by decide +kernel⟩
  exact ⟨hdecides, (namespace_by_longest_cover _ _).1.decided _ _ hdecides⟩

end ByTask

end Counterpart
