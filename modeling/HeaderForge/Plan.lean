import HeaderForge.Path
import HeaderForge.Stub

/-! The plan of a generation: the files it will write, first the default header, then one header
for each common type of the catalog in its order. -/

namespace HeaderForge

structure Destination where
  outDir : Path
  defaultHeader : Path
  /-- The path in the `#include` of every type's header. -/
  includePath : Text
  deriving DecidableEq, Repr

structure PlannedFile where
  path : Path
  contents : Text
  deriving DecidableEq, Repr

namespace Destination

def standard : Destination where
  outDir := .ofString "typed-geometry/object-functions"
  defaultHeader := .ofString "typed-geometry/object_functions.hh"
  includePath := "typed-geometry/object_functions.hh".toList

def headerPath (d : Destination) (type : Text) : Path :=
  d.outDir.join ⟨type ++ ".hh".toList⟩

end Destination

def plan (c : Catalog) (d : Destination) : Except CatalogFault (List PlannedFile) :=
  match c.validate with
  | .error fault => .error fault
  | .ok () =>
      .ok (⟨d.defaultHeader, Stub.defaultHeader⟩ ::
        c.generatedTypes.map fun type => ⟨d.headerPath type, Stub.header type c d.includePath⟩)

end HeaderForge
