/-!
What can go wrong with quantity systems and units.
-/

set_option autoImplicit false

namespace Dimensional

inductive UnitError where
  | notInitialized
  | alreadyInitialized
  | quantityMismatch (quantity unit unitQuantity : String)
  | foreignUnit (unit : String)
deriving DecidableEq

def UnitError.message : UnitError → String
  | .notInitialized => "quantity system was not initialized"
  | .alreadyInitialized =>
    "can't perform this operation after the quantity system is initialized"
  | .quantityMismatch quantity unit unitQuantity =>
    "unit '" ++ unit ++ "' measures '" ++ unitQuantity ++ "', not '" ++ quantity ++ "'"
  | .foreignUnit unit => "unit '" ++ unit ++ "' belongs to a different quantity system"

end Dimensional
