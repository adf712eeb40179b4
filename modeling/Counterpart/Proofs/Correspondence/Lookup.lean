import Counterpart.Proofs.Matching.Order

/-!
# Look-ups by distinct keys

A scope looks types up by their full names and platform types by their targets.  Where the keys
of a list are distinct, a look-up finds the only entry with the key, so the order of the list
does not matter.

* `findRev?_eq_some_iff_of_nodup`: what a look-up finds.
* `findRev?_eq_of_perm`: it finds the same in any order.
-/

namespace Counterpart

section Keys

variable {α : Type} {key : α → String} {l : List α} (distinct : (l.map key).Nodup)
include distinct

theorem findRev?_eq_some_iff_of_nodup
    {name : String} {a : α} :
    l.findRev? (fun b => key b == name) = some a ↔ a ∈ l ∧ key a = name := by
  rw [List.findRev?_eq_find?_reverse]
  constructor
  · intro h
    exact ⟨List.mem_reverse.mp (List.mem_of_find?_eq_some h), by simpa using List.find?_some h⟩
  · rintro ⟨hmem, rfl⟩
    cases hfound : l.reverse.find? (fun b => key b == key a) with
    | none =>
        have hnone := List.find?_eq_none.mp hfound a (List.mem_reverse.mpr hmem)
        simp at hnone
    | some b =>
        have hb : b ∈ l := List.mem_reverse.mp (List.mem_of_find?_eq_some hfound)
        have hkey : key b = key a := by
          simpa using List.find?_some hfound
        rw [List.inj_on_of_nodup_map distinct hb hmem hkey]

/-- A look-up by distinct keys finds the same entry in any order of the list. -/
theorem findRev?_eq_of_perm
    {l' : List α} (h : l'.Perm l) (name : String) :
    l'.findRev? (fun b => key b == name) = l.findRev? (fun b => key b == name) := by
  have distinct' : (l'.map key).Nodup := (h.map key).nodup_iff.mpr distinct
  ext a
  rw [findRev?_eq_some_iff_of_nodup distinct', findRev?_eq_some_iff_of_nodup distinct, h.mem_iff]

end Keys

namespace Scope

/-- A scope without types: names are only compared by the naming rules and the platform types. -/
def unpopulated : Scope :=
  { settings := {}, reference := [], target := [] }

section Distinct

variable {scope : Scope} (distinct : scope.DistinctNames)
include distinct

theorem reference?_eq_some_iff
    {name : String} {decl : TypeDecl} :
    scope.reference? name = some decl ↔ decl ∈ scope.reference ∧ decl.fullName = name :=
  findRev?_eq_some_iff_of_nodup distinct.reference

theorem target?_eq_some_iff
    {name : String} {decl : TypeDecl} :
    scope.target? name = some decl ↔ decl ∈ scope.target ∧ decl.fullName = name :=
  findRev?_eq_some_iff_of_nodup distinct.target

end Distinct

end Scope
end Counterpart
