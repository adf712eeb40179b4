import Counterpart.Proofs.Difference.Contracts
import Counterpart.Proofs.Difference.Members
import Counterpart.Proofs.Text.Cuts
import Mathlib.Logic.Relation

/-!
# Members that belong to their types

A member states that it belongs to its type by a flag or by the token `static`, and a reference
member also by the affix of its name.  What the comparison of members reads is whether one of these
is there, and nothing else of them: the token means nothing beside the other modifiers, and the
affix is not a part of the name that is compared.  The affix is read in all names, though, also in
the names of constructors, which are not compared.

* `Scope.membersAgree_eq`: members are compared by what is read of them.
* `constructor_names_count_by_affix`: what the names of constructors count for.
* `reading_eq_of_recoded`: it is all the same how a member states that it belongs to its type.
* `static_marks_are_alike`: so members are paired alike, however they state it.
-/

namespace Counterpart

namespace Modifier

theorem meaning_static
    (usage : Usage) (side : Side) :
    meaning usage side "static" = none :=
  rfl

/-- The token `static` means nothing beside other modifiers. -/
theorem meanings_filter_static
    (usage : Usage) (side : Side) (tokens : List String) :
    meanings usage side (tokens.filter (· != "static")) = meanings usage side tokens := by
  have himplied :
      implied usage side (tokens.filter (· != "static")) = implied usage side tokens := by
    cases usage <;> cases side <;> simp [implied, visibilityTokens]
  have hstated :
      (tokens.filter (· != "static")).filterMap (meaning usage side) =
        tokens.filterMap (meaning usage side) := by
    rw [List.filterMap_filter]
    refine List.filterMap_congr fun token _ => ?_
    by_cases hstatic : token = "static"
    · rw [hstatic, meaning_static]
      rfl
    · simp [hstatic]
  rw [meanings, himplied, hstated, meanings]

end Modifier

namespace Naming

/-- A name behind the static affix is the name that is compared. -/
theorem bareName_affixed
    {name : String} (nonempty : name ≠ "") :
    bareName ("s_" ++ name) = ⟨name, true⟩ := by
  have hrest : afterAffix? "s_" ("s_" ++ name) = some name := by
    rw [afterAffix?, Text.afterStart?_append, Option.filter_some, if_pos (by simpa using nonempty)]
  rw [bareName, hrest]

/-- A name without affix is compared as it is. -/
theorem bareName_of_plain
    {name : String} (plain : ∀ affix ∈ ["s_", "m_", "_"], afterAffix? affix name = none) :
    bareName name = ⟨name, false⟩ := by
  simp only [List.forall_mem_cons] at plain
  obtain ⟨hstatic, hinstance, hunderscore, _⟩ := plain
  rw [bareName, hstatic, hinstance, hunderscore, Option.getD_none]

end Naming

namespace Member

/-- What the comparison of members reads of a member. -/
structure Reading where
  shape : Member.Shape
  /-- The name, less its affix on the reference side; none for a constructor. -/
  name? : Option String
  belongsToType : Bool
  acknowledged : Option String
  meanings : List String

/-- The name that a member is compared by, if it is compared by name. -/
def comparedName? (side : Side) (member : Member) : Option String :=
  if member.kind = .constructor then none
  else
    match side with
    | .reference => some (Naming.bareName member.name).canonical
    | .target => some member.name

/-- What is read of a member on a side. -/
def reading (side : Side) (member : Member) : Reading :=
  { shape := member.shape
    name? := member.comparedName? side
    belongsToType := member.belongsToType side
    acknowledged := member.acknowledgedModifiers
    meanings := Modifier.meanings .onMember side member.modifiers }

/-- Whether a member states by its flag or by the token that it belongs to its type. -/
def marksStatic (member : Member) : Bool :=
  member.isStatic || member.modifiers.contains "static"

theorem comparedName?_of_constructor
    (side : Side) (member : Member) (constructs : member.kind = .constructor) :
    member.comparedName? side = none :=
  if_pos constructs

theorem belongsToType_target
    (member : Member) :
    member.belongsToType .target = member.marksStatic := by
  simp [belongsToType, marksStatic]

theorem belongsToType_reference
    (member : Member) :
    member.belongsToType .reference =
      (member.marksStatic || (Naming.bareName member.name).hasStaticAffix) := by
  simp [belongsToType, marksStatic]

end Member

namespace Scope

/-- Whether what is read of two members is the same declaration. -/
def readingsAgree (scope : Scope) (reference target : Member.Reading) : Bool :=
  reference.shape.kind == target.shape.kind &&
    reference.name? == target.name? &&
    reference.belongsToType == target.belongsToType &&
    (target.acknowledged.isSome || Modifier.sameTokens reference.meanings target.meanings) &&
    scope.parametersAgree reference.shape.parameters target.shape.parameters

/-- Members are compared by what is read of them. -/
theorem membersAgree_eq
    (scope : Scope) (reference target : Member) :
    scope.membersAgree reference target =
      scope.readingsAgree (reference.reading .reference) (target.reading .target) := by
  unfold membersAgree readingsAgree Modifier.agreeOnMembers Member.parameters
  by_cases hkind : reference.kind = target.kind
  · have hname :
        (reference.kind == .constructor ||
            (Naming.bareName reference.name).canonical == target.name) =
          ((reference.reading .reference).name? == (target.reading .target).name?) := by
      by_cases hconstructs : target.kind = .constructor <;>
        simp [Member.reading, Member.comparedName?, hkind, hconstructs]
    rw [hname]
    rfl
  · have hdeclared : (reference.kind == target.kind) = false := beq_false_of_ne hkind
    have hread :
        ((reference.reading .reference).shape.kind == (target.reading .target).shape.kind) =
          false :=
      hdeclared
    simp only [hdeclared, hread, Bool.false_and]

section Constructors

variable {scope : Scope} {reference target : Member}

theorem belongsToType_eq_of_membersAgree
    (h : scope.membersAgree reference target = true) :
    reference.belongsToType .reference = target.belongsToType .target := by
  simp only [membersAgree, Bool.and_eq_true, beq_iff_eq] at h
  exact h.1.1.2

/-- The name of a target constructor is not read. -/
theorem reading_target_of_constructor
    (constructs : target.kind = .constructor) (name : String) :
    ({ target with name } : Member).reading .target = target.reading .target := by
  have hname := Member.comparedName?_of_constructor .target { target with name } constructs
  have htarget := Member.comparedName?_of_constructor .target target constructs
  simp only [Member.reading, hname, htarget, Member.belongsToType_target]
  rfl

/-- Of the name of a reference constructor only the static affix is read. -/
theorem reading_reference_of_constructor
    (constructs : reference.kind = .constructor) {name : String}
    (belongs :
      ({ reference with name } : Member).belongsToType .reference =
        reference.belongsToType .reference) :
    ({ reference with name } : Member).reading .reference = reference.reading .reference := by
  have hname := Member.comparedName?_of_constructor .reference { reference with name } constructs
  have hreference := Member.comparedName?_of_constructor .reference reference constructs
  simp only [Member.reading, hname, hreference, belongs]

end Constructors

/-- Other names leave the comparison of two constructors as it is, as long as the reference name
keeps or lacks the static affix.  It is the same for all names exactly if the reference constructor
is marked static in another way, or the constructors differ whatever they are called. -/
theorem constructor_names_count_by_affix
    (scope : Scope) {reference target : Member}
    (constructs : reference.kind = .constructor) (constructs' : target.kind = .constructor) :
    (∀ name name',
      (Naming.bareName name).hasStaticAffix = (Naming.bareName reference.name).hasStaticAffix →
        scope.membersAgree { reference with name } { target with name := name' } =
          scope.membersAgree reference target) ∧
      ((∀ name name',
          scope.membersAgree { reference with name } { target with name := name' } =
            scope.membersAgree reference target) ↔
        reference.marksStatic = true ∨
          ∀ name name',
            scope.membersAgree { reference with name } { target with name := name' } = false) := by
  have hread {name : String} (name' : String)
      (belongs :
        ({ reference with name } : Member).belongsToType .reference =
          reference.belongsToType .reference) :
      scope.membersAgree { reference with name } { target with name := name' } =
        scope.membersAgree reference target := by
    rw [membersAgree_eq, membersAgree_eq, reading_reference_of_constructor constructs belongs,
      reading_target_of_constructor constructs']
  refine ⟨fun name name' affix => hread name' ?_, ?_, ?_⟩
  · rw [Member.belongsToType_reference, Member.belongsToType_reference, affix]
    rfl
  · intro same
    rw [or_iff_not_imp_left, Bool.not_eq_true]
    intro unmarked name name'
    -- Two names of which one has the affix cannot both agree with one target.
    by_contra hagree
    rw [Bool.not_eq_false, same] at hagree
    have hplain := belongsToType_eq_of_membersAgree ((same "x" target.name).trans hagree)
    have haffixed := belongsToType_eq_of_membersAgree ((same "s_x" target.name).trans hagree)
    rw [← hplain, Member.belongsToType_reference, Member.belongsToType_reference] at haffixed
    have hmarks (other : String) :
        ({ reference with name := other } : Member).marksStatic = false :=
      unmarked
    have hbare : (Naming.bareName "x").hasStaticAffix = false := by decide
    have hbareAffixed : (Naming.bareName "s_x").hasStaticAffix = true := by decide
    simp [hmarks, hbare, hbareAffixed] at haffixed
  · rintro (marked | differs)
    · intro name name'
      apply hread
      have hmarks : ({ reference with name } : Member).marksStatic = true := marked
      rw [Member.belongsToType_reference, Member.belongsToType_reference, hmarks, marked,
        Bool.true_or, Bool.true_or]
    · intro name name'
      rw [differs]
      exact (differs reference.name target.name).symm

section Samples

/-- A constructor of a type that is not named after static fields. -/
def widgetConstructor : Member :=
  { Member.constructor "Widget" ["int"] with modifiers := ["public"] }

/-- The counterpart, called as constructors are on the target side. -/
def widgetInitializer : Member :=
  { Member.constructor ".ctor" ["System.Int32"] with modifiers := ["public"] }

theorem constructor_names_count_by_affix_gadget :
    widgetConstructor.kind = .constructor ∧ widgetInitializer.kind = .constructor ∧
      (Naming.bareName "m_Gadget").hasStaticAffix = (Naming.bareName "Widget").hasStaticAffix ∧
      unpopulated.membersAgree widgetConstructor widgetInitializer = true ∧
      unpopulated.membersAgree { widgetConstructor with name := "m_Gadget" }
          { widgetInitializer with name := "Gadget" } =
        unpopulated.membersAgree widgetConstructor widgetInitializer :=
  ⟨rfl, rfl, by decide, by decide +kernel,
    (constructor_names_count_by_affix unpopulated rfl rfl).1 "m_Gadget" "Gadget" (by decide)⟩

/-- The constructors of a type whose name starts like that of a static field differ, though the
names of constructors are not compared. -/
theorem affixed_constructor_misses_counterpart :
    unpopulated.membersAgree widgetConstructor widgetInitializer = true ∧
      unpopulated.membersAgree { widgetConstructor with name := "s_Widget" }
          { widgetInitializer with name := "s_Widget" } =
        false ∧
      ¬ ∀ (scope : Scope) (reference target : Member),
          reference.kind = .constructor → target.kind = .constructor →
            ∀ name name',
              scope.membersAgree { reference with name } { target with name := name' } =
                scope.membersAgree reference target := by
  have hplain : unpopulated.membersAgree widgetConstructor widgetInitializer = true := by
    decide +kernel
  have haffixed :
      unpopulated.membersAgree { widgetConstructor with name := "s_Widget" }
          { widgetInitializer with name := "s_Widget" } =
        false := by
    decide +kernel
  refine ⟨hplain, haffixed, fun same => ?_⟩
  have hsame := same unpopulated widgetConstructor widgetInitializer rfl rfl "s_Widget" "s_Widget"
  rw [hplain, haffixed] at hsame
  exact Bool.noConfusion hsame

end Samples

end Scope

namespace Member

/-- Two members that are alike but for their names and for what marks them as static. -/
structure AlikeButStatic (member other : Member) : Prop where
  shape : other.shape = member.shape
  acknowledged : other.acknowledgedModifiers = member.acknowledgedModifiers
  modifiers : other.modifiers.filter (· != "static") = member.modifiers.filter (· != "static")

/-- The second member may state in another way than the first that it belongs to its type. -/
inductive Restates (side : Side) (member other : Member) : Prop
  /-- By the flag, by the token or by both. -/
  | marked
      (alike : member.AlikeButStatic other)
      (name : other.name = member.name)
      (marks : other.marksStatic = member.marksStatic)
  /-- By the affix of a reference name that had none, in place of flag and token. -/
  | affixed
      (alike : member.AlikeButStatic other)
      (onReference : side = .reference)
      (kind : member.kind ≠ .constructor)
      (nonempty : member.name ≠ "")
      (plain : ∀ affix ∈ ["s_", "m_", "_"], Naming.afterAffix? affix member.name = none)
      (name : other.name = "s_" ++ member.name)
      (marks : member.marksStatic = true)
      (unmarked : other.marksStatic = false)

/-- Two members that differ only in how they state that they belong to their types.  One becomes the
other by changes of the way, back or forth. -/
abbrev Recoded (side : Side) : Member → Member → Prop :=
  Relation.EqvGen (Restates side)

theorem AlikeButStatic.reading_eq
    {side : Side} {member other : Member} (alike : member.AlikeButStatic other)
    (name : other.comparedName? side = member.comparedName? side)
    (belongs : other.belongsToType side = member.belongsToType side) :
    other.reading side = member.reading side := by
  have hmeanings :
      Modifier.meanings .onMember side other.modifiers =
        Modifier.meanings .onMember side member.modifiers := by
    rw [← Modifier.meanings_filter_static, alike.modifiers, Modifier.meanings_filter_static]
  simp only [reading, alike.shape, alike.acknowledged, name, belongs, hmeanings]

/-- It is all the same how a member states that it belongs to its type. -/
theorem Restates.reading_eq
    {side : Side} {member other : Member} (h : Restates side member other) :
    other.reading side = member.reading side := by
  cases h with
  | marked alike name marks =>
      have hkind : other.kind = member.kind := congrArg Shape.kind alike.shape
      apply alike.reading_eq
      · simp only [comparedName?, hkind, name]
      · cases side with
        | reference =>
            rw [belongsToType_reference, belongsToType_reference, name, marks]
        | target =>
            rw [belongsToType_target, belongsToType_target, marks]
  | affixed alike onReference kind nonempty plain name marks unmarked =>
      subst onReference
      have hkind : other.kind ≠ .constructor := by
        rwa [Member.kind, alike.shape]
      have hother : Naming.bareName other.name = ⟨member.name, true⟩ := by
        rw [name, Naming.bareName_affixed nonempty]
      have hmember : Naming.bareName member.name = ⟨member.name, false⟩ :=
        Naming.bareName_of_plain plain
      apply alike.reading_eq
      · rw [comparedName?, if_neg hkind, hother, comparedName?, if_neg kind, hmember]
      · rw [belongsToType_reference, belongsToType_reference, hother, marks, Bool.or_true,
          Bool.true_or]

theorem reading_eq_of_recoded
    {side : Side} {member other : Member} (h : Recoded side member other) :
    other.reading side = member.reading side := by
  induction h with
  | rel _ _ restates =>
      exact restates.reading_eq
  | refl _ =>
      rfl
  | symm _ _ _ ih =>
      exact ih.symm
  | trans _ _ _ _ _ first second =>
      exact second.trans first

end Member

namespace Scope

section Recoded

variable (scope : Scope)

theorem membersAgree_eq_of_recoded
    {first first' second second' : Member}
    (hfirst : first.Recoded .reference first') (hsecond : second.Recoded .target second') :
    scope.membersAgree first' second' = scope.membersAgree first second := by
  rw [membersAgree_eq, membersAgree_eq, Member.reading_eq_of_recoded hfirst,
    Member.reading_eq_of_recoded hsecond]

/-- Two types have the same members in the same order, but for how each of these states that it
belongs to its type. -/
def SameMembers (side : Side) (decl other : TypeDecl) : Prop :=
  ∀ kind, List.Forall₂ (Member.Recoded side) (decl.group kind) (other.group kind)

variable {reference reference' target target' : TypeDecl}

/-- Members that are recoded are paired as before. -/
theorem memberPositions_of_recoded
    (hreference : SameMembers .reference reference reference')
    (htarget : SameMembers .target target target')
    (kind : Member.Kind)
    {i : Fin (reference.group kind).length} {i' : Fin (reference'.group kind).length}
    (same : i'.val = i.val) :
    (scope.memberPositions reference' target' kind i').map Fin.val =
      (scope.memberPositions reference target kind i).map Fin.val := by
  obtain ⟨hleft, hfirst⟩ := List.forall₂_iff_get.mp (hreference kind)
  obtain ⟨hright, hsecond⟩ := List.forall₂_iff_get.mp (htarget kind)
  obtain rfl : i' = i.cast hleft := Fin.ext same
  rw [memberPositions, GreedyPairing.pairing_cast hleft hright, Option.map_map]
  · rfl
  · intro i j
    exact scope.membersAgree_eq_of_recoded (hfirst i i.isLt _) (hsecond j j.isLt _)

end Recoded

/-- Two members are the same declaration or not, however they state that they belong to their types.
So two types whose members state it in other ways, some of them or all, have the same positions
paired, and the difference of the types is what these pairings leave over. -/
theorem static_marks_are_alike
    (scope : Scope) :
    (∀ reference reference' target target' : Member,
      reference.Recoded .reference reference' → target.Recoded .target target' →
        scope.membersAgree reference' target' = scope.membersAgree reference target) ∧
      ∀ reference reference' target target' : TypeDecl,
        SameMembers .reference reference reference' → SameMembers .target target target' →
          (∀ kind i i', i'.val = i.val →
            (scope.memberPositions reference' target' kind i').map Fin.val =
              (scope.memberPositions reference target kind i).map Fin.val) ∧
          scope.MadeUpOf (scope.memberPositions reference target)
            (scope.memberDifference reference target) ∧
          scope.MadeUpOf (scope.memberPositions reference' target')
            (scope.memberDifference reference' target') := by
  refine ⟨fun _ _ _ _ => scope.membersAgree_eq_of_recoded, ?_⟩
  intro reference reference' target target' hreference htarget
  exact ⟨fun kind _ _ => scope.memberPositions_of_recoded hreference htarget kind,
    scope.madeUpOf_memberPositions reference target,
    scope.madeUpOf_memberPositions reference' target'⟩

section Samples

/-- A static field by its token, and the same field by its affix. -/
def cacheField : Member :=
  { Member.field "cache" "int" with modifiers := ["private", "static"] }

def affixedCacheField : Member :=
  { Member.field "s_cache" "int" with modifiers := ["private"] }

/-- The counterpart by its token, and the same counterpart by its flag. -/
def cacheCounterpart : Member :=
  { Member.field "cache" "System.Int32" with modifiers := ["static", "private"] }

def flaggedCacheCounterpart : Member :=
  { Member.field "cache" "System.Int32" with modifiers := ["private"], isStatic := true }

theorem recoded_cacheField :
    cacheField.Recoded .reference affixedCacheField :=
  .rel _ _
    (.affixed ⟨rfl, rfl, by decide⟩ rfl (by decide) (by decide) (by decide) rfl rfl rfl)

theorem recoded_cacheCounterpart :
    cacheCounterpart.Recoded .target flaggedCacheCounterpart :=
  .rel _ _ (.marked ⟨rfl, rfl, by decide⟩ rfl rfl)

/-- A type with an instance field of the same name in front of a given one. -/
def storeReference (static : Member) : TypeDecl :=
  { TypeDecl.named .reference .classType "a.Store" with
    fields := [{ Member.field "cache" "int" with modifiers := ["private"] }, static] }

/-- A counterpart with a given field in front of the instance field. -/
def storeTarget (static : Member) : TypeDecl :=
  { TypeDecl.named .target .classType "A.Store" with
    fields := [static, { Member.field "cache" "System.Int32" with modifiers := ["private"] }] }

/-- Fields of one name that are paired crosswise stay so. -/
theorem static_marks_are_alike_cache :
    cacheField.Recoded .reference affixedCacheField ∧
      cacheCounterpart.Recoded .target flaggedCacheCounterpart ∧
      unpopulated.membersAgree cacheField cacheCounterpart = true ∧
      unpopulated.membersAgree affixedCacheField flaggedCacheCounterpart =
        unpopulated.membersAgree cacheField cacheCounterpart ∧
      SameMembers .reference (storeReference cacheField) (storeReference affixedCacheField) ∧
      SameMembers .target (storeTarget cacheCounterpart) (storeTarget flaggedCacheCounterpart) ∧
      (∀ i i', i'.val = i.val →
        (unpopulated.memberPositions (storeReference affixedCacheField)
            (storeTarget flaggedCacheCounterpart) .field i').map Fin.val =
          (unpopulated.memberPositions (storeReference cacheField)
            (storeTarget cacheCounterpart) .field i).map Fin.val) ∧
      (List.finRange 2).map (fun i =>
          (unpopulated.memberPositions (storeReference cacheField)
            (storeTarget cacheCounterpart) .field i).map Fin.val) =
        [some 1, some 0] := by
  have hreference :
      SameMembers .reference (storeReference cacheField) (storeReference affixedCacheField) := by
    intro kind
    cases kind with
    | field =>
        exact .cons (.refl _) (.cons recoded_cacheField .nil)
    | property | method | constructor =>
        exact .nil
  have htarget :
      SameMembers .target (storeTarget cacheCounterpart) (storeTarget flaggedCacheCounterpart) := by
    intro kind
    cases kind with
    | field =>
        exact .cons recoded_cacheCounterpart (.cons (.refl _) .nil)
    | property | method | constructor =>
        exact .nil
  obtain ⟨members, types⟩ := static_marks_are_alike unpopulated
  exact ⟨recoded_cacheField, recoded_cacheCounterpart, by decide +kernel,
    members _ _ _ _ recoded_cacheField recoded_cacheCounterpart, hreference, htarget,
    (types _ _ _ _ hreference htarget).1 .field, by decide +kernel⟩

end Samples

end Scope
end Counterpart
