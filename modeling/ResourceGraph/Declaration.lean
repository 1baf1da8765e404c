import ResourceGraph.Kind

/-!
Declarations: the named things that configuration files declare. A declaration is addressed by its
type and its name with a point between them, and other blocks refer to it by that address.
-/

namespace ResourceGraph

/-- Something that a configuration file declares. -/
structure Declaration where
  kind : Kind
  /-- The type, with the address word of the kind in front of it or in place of it. -/
  type : String
  name : String
  /-- The file that declares it. -/
  file : String
  deriving DecidableEq

namespace Declaration

/-- A declaration of some kind. Only resources and data sources keep the type they are written
with. -/
def make (kind : Kind) (type name file : String) : Declaration :=
  let type := match kind.addressWord? with
    | none => type
    | some word => if kind = .data then word ++ "." ++ type else word
  ⟨kind, type, name, file⟩

/-- The address of a declaration. -/
def id (d : Declaration) : String :=
  d.type ++ "." ++ d.name

end Declaration

end ResourceGraph
