/-!
# Settings of a comparison

Mappings of packages to namespaces, explicit pairs of types, and the table of platform types
that correspond without any relation of their names.  A settings document may also list
libraries with the paths of their two surfaces.
-/

namespace Counterpart

/-- The start of a reference package, and the start of the target namespace in its place. -/
structure PackageMapping where
  referencePrefix : String
  targetPrefix : String
  justification : Option String := none
  deriving DecidableEq

/-- An explicit pair of full names. -/
structure Override where
  reference : String
  target : String
  justification : Option String := none
  deriving DecidableEq

/-- A platform type of the target side, with the reference names that correspond to it. -/
structure PlatformType where
  /-- The full name without arity, its levels joined with dots. -/
  target : String
  references : List String
  deriving DecidableEq

/-- The built-in platform types. -/
def PlatformType.builtIn : List PlatformType :=
  [ ⟨"System.Object", ["java.lang.Object"]⟩,
    ⟨"System.ValueType", ["java.lang.Object"]⟩,
    ⟨"System.Enum", ["java.lang.Enum"]⟩,
    ⟨"System.Exception", ["java.lang.Exception", "java.lang.RuntimeException"]⟩,
    ⟨"System.IO.IOException", ["java.io.IOException"]⟩,
    ⟨"System.IO.FileNotFoundException", ["java.io.FileNotFoundException"]⟩,
    ⟨"System.String", ["java.lang.String"]⟩,
    ⟨"System.Boolean", ["boolean", "java.lang.Boolean"]⟩,
    ⟨"System.Char", ["char", "java.lang.Character"]⟩,
    ⟨"System.SByte", ["byte", "java.lang.Byte"]⟩,
    ⟨"System.Byte", ["byte", "java.lang.Byte"]⟩,
    ⟨"System.Int16", ["short", "java.lang.Short"]⟩,
    ⟨"System.Int32", ["int", "java.lang.Integer"]⟩,
    ⟨"System.Int64", ["long", "java.lang.Long"]⟩,
    ⟨"System.Single", ["float", "java.lang.Float"]⟩,
    ⟨"System.Double", ["double", "java.lang.Double"]⟩,
    ⟨"System.Void", ["void"]⟩,
    ⟨"System.IComparable", ["java.lang.Comparable"]⟩,
    ⟨"System.ICloneable", ["java.lang.Cloneable"]⟩,
    ⟨"System.IDisposable", ["java.io.Closeable", "java.lang.AutoCloseable"]⟩,
    ⟨"System.Collections.Generic.IEnumerable", ["java.lang.Iterable"]⟩ ]

/-- The settings of one comparison. -/
structure Settings where
  mappings : List PackageMapping := []
  overrides : List Override := []
  platformTypes : List PlatformType := PlatformType.builtIn
  deriving DecidableEq

/-- A library of a batch, with the paths of the documents of its surfaces. -/
structure LibraryPlan where
  name : String
  reference : String
  target : String
  deriving DecidableEq

/-- A settings document: settings, and the libraries of a batch. -/
structure Project where
  settings : Settings := {}
  libraries : List LibraryPlan := []
  deriving DecidableEq

end Counterpart
