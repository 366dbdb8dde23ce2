import Mathlib.Data.List.Basic

/-! Values as an interface keeps them: with the type they have, which a program can ask for. -/

namespace OcneProvider.Data.Interfaces

structure Concrete where
  name : String
  methods : List String
  deriving DecidableEq

inductive GoType where
  | concrete (type : Concrete)
  | interface (methods : List String)
  deriving DecidableEq

/-- A declared type keeps the methods of an interface, and none of a concrete type. -/
def GoType.declared (name : String) : GoType → GoType
  | .concrete _ => .concrete ⟨name, []⟩
  | .interface methods => .interface methods

structure Value (methods : List String) (α : Type) where
  type : Concrete
  implements : methods ⊆ type.methods
  content : α

variable {methods needed : List String} {α : Type}

/-- A concrete type asks for itself, an interface for its methods. -/
def Value.is (value : Value methods α) : GoType → Bool
  | .concrete type => value.type == type
  | .interface needed => needed.all (· ∈ value.type.methods)

/-- The conversion to an interface keeps the value and its type. -/
def Value.convert (value : Value methods α) (has : needed ⊆ methods) : Value needed α :=
  ⟨value.type, List.Subset.trans has value.implements, value.content⟩

/-- The assertion of an interface that the value is kept in tells nothing. -/
theorem Value.is_interface (value : Value methods α) (has : needed ⊆ methods) :
    value.is (.interface needed) = true := by
  rw [Value.is, List.all_eq_true]
  intro method mem
  exact decide_eq_true (value.implements (has mem))

end OcneProvider.Data.Interfaces
