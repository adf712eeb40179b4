import Counterpart.Proofs.Difference.Contracts
import Counterpart.Proofs.Difference.Members
import Counterpart.Proofs.Matching.Schedule
import Counterpart.Proofs.Report.Assembly
import Counterpart.Proofs.Text.Lines
import Counterpart.Report.Table
import Mathlib.Tactic.MkIffOfInductiveProp

/-!
# What a table shows comes from the documents

The cells of a table are put together from the name of the library, from texts that the documents
declare, and from words and separators of the table's own.  None of the latter has a control
character, so a control character in a cell stands in one of the texts.

* `Surface.Lacks`: no text of a surface that a table may show has a character.
* `Scope.mem_target_of_mem_candidates`: what an ambiguous type lists are types of the other side.
* `Scope.lacks_of_difference_eq_ok`: what is said of a pair comes from its two types.
* `LibraryReport.lacks_of_mem_cells`: the cells of a table come from the documents and the name.
-/

namespace Counterpart

/-- No text of a member that a table may show has a character; the return type of a method is not
shown. -/
@[mk_iff]
structure Member.Lacks (c : Char) (member : Member) : Prop where
  name : Text.Lacks c member.name
  modifiers : ∀ token ∈ member.modifiers, Text.Lacks c token
  parameters : ∀ type ∈ member.parameters, Text.Lacks c type
  declaredType : member.kind.holdsValue = true → ∀ type ∈ member.resultType?, Text.Lacks c type

/-- No text of a type that a table may show has a character. -/
@[mk_iff]
structure TypeDecl.Lacks (c : Char) (decl : TypeDecl) : Prop where
  fullName : Text.Lacks c decl.fullName
  modifiers : ∀ token ∈ decl.modifiers, Text.Lacks c token
  baseType : ∀ name ∈ decl.baseType, Text.Lacks c name
  contracts : ∀ name ∈ decl.contracts, Text.Lacks c name
  members : ∀ member ∈ decl.members, member.Lacks c

/-- No text of a surface that a table may show has a character. -/
def Surface.Lacks (c : Char) (surface : Surface) : Prop :=
  ∀ decl ∈ surface.types, decl.Lacks c

instance (c : Char) (member : Member) : Decidable (member.Lacks c) :=
  decidable_of_iff' _ (Member.lacks_iff c member)

instance (c : Char) (decl : TypeDecl) : Decidable (decl.Lacks c) :=
  decidable_of_iff' _ (TypeDecl.lacks_iff c decl)

instance (c : Char) (surface : Surface) : Decidable (surface.Lacks c) :=
  inferInstanceAs (Decidable (∀ decl ∈ surface.types, decl.Lacks c))

/-- No text that a difference shows has a character. -/
structure TypeDifference.Lacks (c : Char) (difference : TypeDifference) : Prop where
  modifiers : ∀ mismatch ∈ difference.modifiers,
    (∀ token ∈ mismatch.reference, Text.Lacks c token) ∧
      ∀ token ∈ mismatch.target, Text.Lacks c token
  baseType : ∀ mismatch ∈ difference.baseType,
    (∀ name ∈ mismatch.reference, Text.Lacks c name) ∧
      ∀ name ∈ mismatch.target, Text.Lacks c name
  contracts : ∀ mismatch ∈ difference.contracts,
    (∀ name ∈ mismatch.referenceOnly, Text.Lacks c name) ∧
      ∀ name ∈ mismatch.targetOnly, Text.Lacks c name
  referenceOnly : ∀ entry ∈ difference.members.referenceOnly, Text.Lacks c entry.line
  targetOnly : ∀ entry ∈ difference.members.targetOnly, Text.Lacks c entry.line
  mismatches : ∀ mismatch ∈ difference.members.mismatches, Text.Lacks c mismatch.line

/-! ## What differs is declared -/

theorem TypeDecl.mem_members_of_mem_group
    {decl : TypeDecl} {kind : Member.Kind} {member : Member} (h : member ∈ decl.group kind) :
    member ∈ decl.members := by
  rw [members_eq]
  cases kind <;> simp_all [group]

namespace Scope

variable {scope : Scope} {reference target : TypeDecl}

theorem exists_member_of_mem_referenceOnly
    {entry : MemberEntry} (h : entry ∈ (scope.memberDifference reference target).referenceOnly) :
    ∃ member ∈ reference.members, member.entry .reference = entry := by
  simp only [memberDifference, MemberEntry.sort, List.mem_mergeSort, List.mem_flatMap,
    List.mem_map] at h
  obtain ⟨_, ⟨kind, _, rfl⟩, member, hmember, hentry⟩ := h
  exact
    ⟨member, TypeDecl.mem_members_of_mem_group (GreedyPairing.mem_of_mem_leftOnly hmember), hentry⟩

theorem exists_member_of_mem_targetOnly
    {entry : MemberEntry} (h : entry ∈ (scope.memberDifference reference target).targetOnly) :
    ∃ member ∈ target.members, member.entry .target = entry := by
  simp only [memberDifference, MemberEntry.sort, List.mem_mergeSort, List.mem_flatMap,
    List.mem_map] at h
  obtain ⟨_, ⟨kind, _, rfl⟩, member, hmember, hentry⟩ := h
  exact
    ⟨member, TypeDecl.mem_members_of_mem_group (GreedyPairing.mem_of_mem_rightOnly hmember),
      hentry⟩

theorem exists_members_of_mem_mismatches
    {mismatch : ValueTypeMismatch}
    (h : mismatch ∈ (scope.memberDifference reference target).mismatches) :
    ∃ first ∈ reference.members, ∃ second ∈ target.members,
      scope.membersAgree first second = true ∧
        scope.typeMismatch? first second = some mismatch := by
  simp only [memberDifference, ValueTypeMismatch.sort, List.mem_mergeSort, List.mem_flatMap,
    List.mem_map, List.mem_filterMap] at h
  obtain ⟨_, ⟨kind, _, rfl⟩, pair, hpair, hmismatch⟩ := h
  obtain ⟨hfirst, hsecond⟩ := GreedyPairing.mem_of_mem_pairs hpair
  exact
    ⟨pair.1, TypeDecl.mem_members_of_mem_group hfirst, pair.2,
      TypeDecl.mem_members_of_mem_group hsecond, GreedyPairing.meets_of_mem_pairs hpair,
      hmismatch⟩

theorem mem_contracts_of_contractDifference?_eq_some
    {first second : List String} {mismatch : ContractDifference}
    (h : scope.contractDifference? first second = some mismatch) :
    (∀ name ∈ mismatch.referenceOnly, name ∈ first) ∧
      ∀ name ∈ mismatch.targetOnly, name ∈ second := by
  simp only [contractDifference?] at h
  split at h
  · contradiction
  · obtain rfl := Option.some.inj h
    simp only [sortNames, List.mem_mergeSort]
    exact ⟨fun _ => GreedyPairing.mem_of_mem_leftOnly, fun _ => GreedyPairing.mem_of_mem_rightOnly⟩

end Scope

/-! ## What is listed is declared -/

namespace Pool

variable {accepts : TypeDecl → TypeDecl → Option Reason}

/-- A type that is pending after a run was so before, or lists targets that were free. -/
theorem candidates_free_of_mem_settle
    {pending : List Pending} {free : List TypeDecl} {entry : Pending}
    (h : entry ∈ (settle accepts pending free).pending) :
    entry ∈ pending ∨ ∀ target ∈ entry.candidates, target ∈ free := by
  obtain ⟨before, origin, after, rfl, hturn⟩ := exists_turn_of_mem_pending h
  obtain ⟨_, ⟨_, rfl⟩ | ⟨_, hcandidates, _⟩⟩ :=
    (turn_settle accepts origin _).candidates_of_mem_pending hturn
  · exact .inl (List.mem_append_right _ List.mem_cons_self)
  · refine .inr fun target htarget => ?_
    rw [hcandidates, map_fst_candidates] at htarget
    exact (free_settle_sublist _ _).subset (List.mem_filter.mp htarget).1

end Pool

namespace Scope

variable {scope : Scope}

/-- What an ambiguous type lists are types of the other side. -/
theorem mem_target_of_mem_candidates
    {entry : Pending} (h : entry ∈ scope.settled.pending) :
    ∀ target ∈ entry.candidates, target ∈ scope.target := by
  intro target htarget
  rcases Pool.candidates_free_of_mem_settle h with hearlier | hfree
  · rcases Pool.candidates_free_of_mem_settle hearlier with hfirst | hfree
    · rw [scope.beforeSteps_overridden.plain entry hfirst] at htarget
      contradiction
    · exact scope.reached_overridden.target_mem_of_mem_free (hfree target htarget)
  · exact scope.reached_overridden.advance.target_mem_of_mem_free (hfree target htarget)

theorem shown_of_mem_unmatchedReference
    {unmatched : Unmatched} (h : unmatched ∈ scope.matching.unmatchedReference) :
    unmatched.decl ∈ scope.reference ∧
      ∀ name ∈ unmatched.candidates, ∃ target ∈ scope.target, target.fullName = name := by
  obtain ⟨entry, hentry, rfl⟩ := List.mem_map.mp h
  refine ⟨scope.reached_settled.reference_mem_of_mem_pending hentry, fun name hname => ?_⟩
  obtain ⟨target, htarget, hfullName⟩ := List.mem_map.mp hname
  exact ⟨target, mem_target_of_mem_candidates hentry target htarget, hfullName⟩

theorem shown_of_mem_unmatchedTarget
    {unmatched : Unmatched} (h : unmatched ∈ scope.matching.unmatchedTarget) :
    unmatched.decl ∈ scope.target ∧
      ∀ name ∈ unmatched.candidates, ∃ reference ∈ scope.reference, reference.fullName = name := by
  obtain ⟨target, htarget, rfl⟩ := List.mem_map.mp h
  refine ⟨scope.reached_settled.target_mem_of_mem_free htarget, fun name hname => ?_⟩
  obtain ⟨entry, hentry, hfullName⟩ := List.mem_map.mp hname
  exact
    ⟨entry.decl, scope.reached_settled.reference_mem_of_mem_pending (List.mem_filter.mp hentry).1,
      hfullName⟩

end Scope

/-! ## Control characters come from the documents -/

variable {c : Char}

namespace Member

variable {member : Member}

theorem Lacks.signature
    (h : member.Lacks c) (hc : c.toNat < 32) :
    Text.Lacks c member.signature := by
  have hlist : Text.Lacks c (Text.join ", " member.parameters) :=
    Text.lacks_join (Text.lacks_of_control hc (by decide)) h.parameters
  have hopen : Text.Lacks c "(" := Text.lacks_of_control hc (by decide)
  have hclose : Text.Lacks c ")" := Text.lacks_of_control hc (by decide)
  rw [Member.signature]
  split
  · simp only [Text.lacks_append]
    exact ⟨⟨⟨h.name, hopen⟩, hlist⟩, hclose⟩
  · exact h.name

theorem Kind.lacks_label
    (hc : c.toNat < 32) (kind : Member.Kind) :
    Text.Lacks c kind.label :=
  Text.lacks_of_control hc (by cases kind <;> decide)

theorem Lacks.line
    (h : member.Lacks c) (hc : c.toNat < 32) (side : Side) :
    Text.Lacks c (member.entry side).line := by
  have hblank : Text.Lacks c " " := Text.lacks_of_control hc (by decide)
  have hmodifiers : Text.Lacks c (Text.join " " (member.entry side).modifiers) :=
    Text.lacks_join hblank fun token htoken =>
      h.modifiers token (Modifier.mem_sorted_iff.mp htoken)
  refine Text.lacks_join hblank ?_
  simp only [MemberEntry.line.modifierText, List.mem_append, List.mem_singleton]
  rintro part ((rfl | hpart) | rfl)
  · exact Kind.lacks_label hc member.kind
  · split at hpart
    · contradiction
    · rwa [List.mem_singleton.mp hpart]
  · exact h.signature hc

end Member

namespace Scope

variable {scope : Scope} {reference target : TypeDecl}

theorem lacks_of_typeMismatch?_eq_some
    {first second : Member} {mismatch : ValueTypeMismatch} (hc : c.toNat < 32)
    (hfirst : first.Lacks c) (hsecond : second.Lacks c)
    (hagree : scope.membersAgree first second = true)
    (h : scope.typeMismatch? first second = some mismatch) :
    Text.Lacks c mismatch.line := by
  have hblank : Text.Lacks c " " := Text.lacks_of_control hc (by decide)
  have hcolon : Text.Lacks c ": " := Text.lacks_of_control hc (by decide)
  have hversus : Text.Lacks c " vs " := Text.lacks_of_control hc (by decide)
  have hkind := kind_eq_of_membersAgree hagree
  unfold typeMismatch? at h
  split at h
  next firstType secondType hholds hfirstType hsecondType =>
    split at h
    · cases h
    · obtain rfl := Option.some.inj h
      simp only [ValueTypeMismatch.line, Text.lacks_append]
      exact
        ⟨⟨⟨⟨⟨⟨Member.Kind.lacks_label hc _, hblank⟩, hfirst.name⟩, hcolon⟩,
          hfirst.declaredType hholds _ hfirstType⟩, hversus⟩,
          hsecond.declaredType (hkind ▸ hholds) _ hsecondType⟩
  next =>
    cases h

/-- The modifiers that a difference shows are declared. -/
theorem mem_modifiers_of_modifierDifference?_eq_ok
    {mismatch : ModifierDifference}
    (h : modifierDifference? reference target = .ok (some mismatch)) :
    (∀ token ∈ mismatch.reference, token ∈ reference.modifiers) ∧
      ∀ token ∈ mismatch.target, token ∈ target.modifiers := by
  unfold modifierDifference? at h
  split at h
  · cases h
  · cases h
  · split at h
    · cases h
    · cases h
      exact ⟨fun _ => Modifier.mem_sorted_iff.mp, fun _ => Modifier.mem_sorted_iff.mp⟩

/-- The base types that a difference shows are declared. -/
theorem eq_of_baseTypeDifference?_eq_some
    {mismatch : BaseTypeDifference}
    (h : scope.baseTypeDifference? reference target = some mismatch) :
    mismatch = ⟨reference.baseType, target.baseType⟩ := by
  unfold baseTypeDifference? at h
  split at h
  · contradiction
  · exact (Option.some.inj h).symm

theorem contractDifference?_of_difference_eq_ok
    {difference : TypeDifference} {mismatch : ContractDifference}
    (h : scope.difference reference target = .ok difference)
    (hmismatch : difference.contracts = some mismatch) :
    scope.contractDifference? reference.contracts target.contracts = some mismatch := by
  rw [contracts_of_difference_eq_ok h] at hmismatch
  split at hmismatch
  · cases hmismatch
  · exact hmismatch

/-- What differs between two types comes from them. -/
theorem lacks_of_difference_eq_ok
    {difference : TypeDifference} (hc : c.toNat < 32) (hreference : reference.Lacks c)
    (htarget : target.Lacks c) (h : scope.difference reference target = .ok difference) :
    difference.Lacks c := by
  obtain ⟨modifiers, hmodifiers, hdifference⟩ := exists_modifiers_of_difference_eq_ok h
  constructor
  case modifiers =>
    rintro mismatch hmismatch
    obtain rfl : modifiers = some mismatch := by
      rw [← hmismatch, hdifference]
    obtain ⟨hfirst, hsecond⟩ := mem_modifiers_of_modifierDifference?_eq_ok hmodifiers
    exact
      ⟨fun token htoken => hreference.modifiers token (hfirst token htoken),
        fun token htoken => htarget.modifiers token (hsecond token htoken)⟩
  case baseType =>
    rintro mismatch hmismatch
    rw [hdifference] at hmismatch
    obtain rfl := eq_of_baseTypeDifference?_eq_some hmismatch
    exact ⟨hreference.baseType, htarget.baseType⟩
  case contracts =>
    rintro mismatch hmismatch
    obtain ⟨hfirst, hsecond⟩ :=
      mem_contracts_of_contractDifference?_eq_some
        (contractDifference?_of_difference_eq_ok h hmismatch)
    exact
      ⟨fun name hname => hreference.contracts name (hfirst name hname),
        fun name hname => htarget.contracts name (hsecond name hname)⟩
  case referenceOnly =>
    rw [hdifference]
    rintro entry hentry
    obtain ⟨member, hmember, rfl⟩ := exists_member_of_mem_referenceOnly hentry
    exact (hreference.members member hmember).line hc .reference
  case targetOnly =>
    rw [hdifference]
    rintro entry hentry
    obtain ⟨member, hmember, rfl⟩ := exists_member_of_mem_targetOnly hentry
    exact (htarget.members member hmember).line hc .target
  case mismatches =>
    rw [hdifference]
    rintro mismatch hmismatch
    obtain ⟨first, hfirst, second, hsecond, hagree, hmismatch⟩ :=
      exists_members_of_mem_mismatches hmismatch
    exact
      lacks_of_typeMismatch?_eq_some hc (hreference.members first hfirst)
        (htarget.members second hsecond) hagree hmismatch

end Scope

/-- The findings on a difference show nothing else. -/
theorem TypeDifference.Lacks.findings
    {difference : TypeDifference} (h : difference.Lacks c) (hc : c.toNat < 32) :
    ∀ finding ∈ difference.findings, Text.Lacks c finding.1 ∧ Text.Lacks c finding.2 := by
  have hblank : Text.Lacks c " " := Text.lacks_of_control hc (by decide)
  have hversus : Text.Lacks c " vs " := Text.lacks_of_control hc (by decide)
  rintro finding hfinding
  simp only [TypeDifference.findings, List.mem_append, Option.mem_toList,
    Option.map_eq_some_iff, List.mem_flatMap, List.mem_map] at hfinding
  rcases hfinding with
    ((((⟨mismatch, hmismatch, rfl⟩ | ⟨mismatch, hmismatch, rfl⟩) |
      ⟨mismatch, hmismatch, ⟨name, hname, rfl⟩ | ⟨name, hname, rfl⟩⟩) |
      ⟨entry, hentry, rfl⟩) | ⟨entry, hentry, rfl⟩) | ⟨mismatch, hmismatch, rfl⟩
  all_goals
    dsimp only
    refine ⟨Text.lacks_of_control hc (by decide), ?_⟩
  -- The modifiers and the base types of both sides are put side by side.
  · obtain ⟨hreference, htarget⟩ := h.modifiers mismatch hmismatch
    simp only [Text.lacks_append]
    exact ⟨⟨Text.lacks_join hblank hreference, hversus⟩, Text.lacks_join hblank htarget⟩
  · obtain ⟨hreference, htarget⟩ := h.baseType mismatch hmismatch
    simp only [Text.lacks_append]
    exact ⟨⟨Text.lacks_getD hreference, hversus⟩, Text.lacks_getD htarget⟩
  -- Contracts and members are listed one by one.
  · exact (h.contracts mismatch hmismatch).1 name hname
  · exact (h.contracts mismatch hmismatch).2 name hname
  · exact h.referenceOnly entry hentry
  · exact h.targetOnly entry hentry
  · exact h.mismatches mismatch hmismatch

theorem Surface.Lacks.reference_between
    {reference target : Surface} {settings : Settings} (h : reference.Lacks c) :
    ∀ decl ∈ (Scope.between reference target settings).reference, decl.Lacks c :=
  fun decl hdecl => h decl (List.mem_filter.mp hdecl).1

theorem Surface.Lacks.target_between
    {reference target : Surface} {settings : Settings} (h : target.Lacks c) :
    ∀ decl ∈ (Scope.between reference target settings).target, decl.Lacks c :=
  fun decl hdecl => h decl (List.mem_filter.mp hdecl).1

/-- The cells about a pair come from its two types. -/
theorem PairEntry.lacks_of_mem_rows
    {scope : Scope} {pairing : Pairing} {entry : PairEntry} {library : String} {row : Row}
    (hc : c.toNat < 32) (hlibrary : Text.Lacks c library) (hreference : pairing.reference.Lacks c)
    (htarget : pairing.target.Lacks c) (h : scope.pairEntry pairing = .ok entry)
    (hrow : row ∈ entry.rows library) :
    ∀ cell ∈ row.cells, Text.Lacks c cell := by
  obtain ⟨difference, hdifference, rfl⟩ := Scope.exists_difference_of_pairEntry_eq_ok h
  obtain ⟨finding, hfinding, rfl⟩ := List.mem_map.mp hrow
  obtain ⟨hcategory, hdetail⟩ :=
    (Scope.lacks_of_difference_eq_ok hc hreference htarget hdifference).findings hc finding
      hfinding
  simp only [Row.cells, List.forall_mem_cons]
  exact
    ⟨hlibrary, hcategory, hreference.fullName, htarget.fullName, hdetail, List.forall_mem_nil _⟩

/-- Names that are listed come from the types that have them. -/
theorem lacks_join_fullNames
    {decls : List TypeDecl} {names : List String} (hc : c.toNat < 32)
    (hdecls : ∀ decl ∈ decls, decl.Lacks c)
    (hnames : ∀ name ∈ names, ∃ decl ∈ decls, decl.fullName = name) :
    Text.Lacks c (Text.join "," names) := by
  refine Text.lacks_join (Text.lacks_of_control hc (by decide)) fun name hname => ?_
  obtain ⟨decl, hdecl, rfl⟩ := hnames name hname
  exact (hdecls decl hdecl).fullName

/-- The cells of a table come from the documents and from the name of the library. -/
theorem LibraryReport.lacks_of_mem_cells
    {name : String} {reference target : Surface} {settings : Settings} {report : LibraryReport}
    (hc : c.toNat < 32) (hname : Text.Lacks c name) (hreference : reference.Lacks c)
    (htarget : target.Lacks c) (h : ofSurfaces name reference target settings = .ok report) :
    ∀ row ∈ report.rows, ∀ cell ∈ row.cells, Text.Lacks c cell := by
  obtain ⟨pairs, hpairs, rfl⟩ := exists_pairs_of_ofSurfaces_eq_ok h
  simp only [rows, assembled, List.mem_append, List.mem_map, List.mem_flatMap, UnmatchedEntry.sort,
    PairEntry.sort, List.mem_mergeSort]
  rintro row
    ((⟨entry, ⟨unmatched, hunmatched, rfl⟩, rfl⟩ | ⟨entry, ⟨unmatched, hunmatched, rfl⟩, rfl⟩) |
      ⟨entry, hentry, hrow⟩)
  -- A reference type that is left over, with the target types that it may be.
  · obtain ⟨hdecl, hcandidates⟩ := Scope.shown_of_mem_unmatchedReference hunmatched
    simp only [Row.cells, List.forall_mem_cons]
    exact
      ⟨hname, Text.lacks_of_control hc (by decide),
        (hreference.reference_between unmatched.decl hdecl).fullName, Text.lacks_empty,
        lacks_join_fullNames hc htarget.target_between hcandidates, List.forall_mem_nil _⟩
  -- A target type that is left over, with the reference types that may be it.
  · obtain ⟨hdecl, hcandidates⟩ := Scope.shown_of_mem_unmatchedTarget hunmatched
    simp only [Row.cells, List.forall_mem_cons]
    exact
      ⟨hname, Text.lacks_of_control hc (by decide), Text.lacks_empty,
        (htarget.target_between unmatched.decl hdecl).fullName,
        lacks_join_fullNames hc hreference.reference_between hcandidates, List.forall_mem_nil _⟩
  -- A finding on a pair.
  · obtain ⟨pairing, hpairing, hpair⟩ := exists_of_mem_of_mapM_eq_ok hpairs hentry
    obtain ⟨hfirst, hsecond⟩ := Scope.reached_settled _ |>.mem_of_mem_pairs hpairing
    exact
      PairEntry.lacks_of_mem_rows hc hname (hreference.reference_between _ hfirst)
        (htarget.target_between _ hsecond) hpair hrow

end Counterpart
