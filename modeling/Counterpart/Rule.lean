/-!
# Naming rules and reasons

The four naming rules under which a reference name leads to a target name, and the reason
recorded with every pair of types.
-/

namespace Counterpart

/-- A naming rule.

A class that ends in the implementation suffix is only met through a rule that drops the
suffix, every other type only through a rule that does not. -/
inductive Rule
  /-- The same nesting path, up to namespace and interface marker. -/
  | exactName
  /-- The same, with the implementation suffix dropped. -/
  | implementationSuffix
  /-- One side nests the type and the other does not. -/
  | flattenedNesting
  /-- The same, with the implementation suffix dropped. -/
  | flattenedImplementationSuffix
  deriving DecidableEq

namespace Rule

/-- All rules; the first that accepts a pair is the one recorded. -/
def all : List Rule :=
  [exactName, implementationSuffix, flattenedNesting, flattenedImplementationSuffix]

/-- Whether a rule drops the implementation suffix of the reference name. -/
def dropsSuffix : Rule → Bool
  | exactName => false
  | implementationSuffix => true
  | flattenedNesting => false
  | flattenedImplementationSuffix => true

/-- Whether a rule relates a nested type to one that is not. -/
def flattens : Rule → Bool
  | exactName => false
  | implementationSuffix => false
  | flattenedNesting => true
  | flattenedImplementationSuffix => true

def label : Rule → String
  | exactName => "exact name"
  | implementationSuffix => "implementation suffix"
  | flattenedNesting => "flattened nesting"
  | flattenedImplementationSuffix => "flattened nesting, implementation suffix"

def key : Rule → String
  | exactName => "exact_name"
  | implementationSuffix => "implementation_suffix"
  | flattenedNesting => "flattened_nesting"
  | flattenedImplementationSuffix => "flattened_implementation_suffix"

def ofKey? (word : String) : Option Rule :=
  all.find? (fun rule => rule.key == word)

theorem ofKey?_key (rule : Rule) :
    ofKey? rule.key = some rule := by
  cases rule <;> decide

theorem mem_all (rule : Rule) : rule ∈ all := by
  cases rule <;> decide

end Rule

/-- The step that established a pair of types. -/
inductive Reason
  /-- An override of the settings names the pair. -/
  | override
  /-- The target type declares the reference type as its equivalent. -/
  | declaredEquivalent
  /-- A naming rule leads from one name to the other. -/
  | heuristic (rule : Rule)
  deriving DecidableEq

def Reason.label : Reason → String
  | override => "override"
  | declaredEquivalent => "declared equivalent"
  | heuristic rule => s!"heuristic ({rule.label})"

end Counterpart
