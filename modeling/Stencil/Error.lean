import Stencil.Template.Cause

/-! What can go wrong in a run, and its words. -/
namespace Stencil

/-- Why a run stops. -/
inductive Error where
  | io (reason : String)
  | template (flaw : Template.Fault)
  | utf8 (flaw : Text.Utf8.Flaw)
  | process (reason : String)
  | options (reason : String)
  deriving Inhabited

/-- The words for a failure. -/
def Error.message : Error → String
  | .io reason => "IO error: " ++ reason ++ "."
  | .template flaw => "input is invalid: " ++ flaw.message
  | .utf8 flaw => "input is invalid: " ++ flaw.message
  | .process reason => "Process error: " ++ reason ++ "."
  | .options reason => "invalid options: " ++ reason

/-- The runtime ends the program where it fails, and no words are told. -/
def Error.aborts : Error → Bool
  | .template flaw => flaw.aborts
  | _ => false

end Stencil
