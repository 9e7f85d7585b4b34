import PrismaNest.Number.Binary64

/-! JSON documents.

Numbers written without fraction and exponent are whole and exact; all others are
double-precision numbers. The entries of an object keep their order.
-/

set_option autoImplicit false

namespace PrismaNest

inductive Json where
  | null
  | bool (flag : Bool)
  | int (number : Int)
  | float (number : Binary64)
  | string (text : String)
  | array (items : List Json)
  | object (entries : List (String × Json))
  deriving Repr

def Json.field? (key : String) : Json → Option Json
  | .object entries => entries.lookup key
  | _ => none

end PrismaNest
