import Mishap.Number.Binary64

/-!
JSON texts as trees.
-/

namespace Mishap

/-- A JSON value. A number without a fraction and an exponent is an integer as long as 64 bits hold it; the members of
an object keep their order and may repeat a name. -/
inductive Json
  | null
  | bool (b : Bool)
  | integer (n : Int)
  | float (x : Binary64)
  | text (s : String)
  | array (items : List Json)
  | object (members : List (String × Json))

instance : Inhabited Json := ⟨.null⟩

end Mishap
