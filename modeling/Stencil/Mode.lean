import Stencil.Error

/-! Which stages a pass has. -/
namespace Stencil

/-- The stages of a pass, of which at least one is on. -/
structure Mode where
  expand : Bool
  template : Bool
  some_on : (expand || template) = true

namespace Mode

/-- The mode with some stages, unless both are off. -/
def of (expand template : Bool) : Except Error Mode :=
  if h : (expand || template) = true then .ok ⟨expand, template, h⟩
  else .error (.options "must expand or template")

/-- Both stages. -/
def both : Mode := ⟨true, true, rfl⟩

end Mode
end Stencil
