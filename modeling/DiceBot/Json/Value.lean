import DiceBot.Json.Binary64

/-!
# JSON values

A string that escapes have left with half of a surrogate pair is no text, and
stands as `none`. An object keeps all its members; of several with one key the
last counts.
-/

namespace DiceBot.Json

inductive Value where
  | null
  | bool (b : Bool)
  | int (i : Int)
  | real (x : Binary64)
  | str (t : Option Text)
  | arr (items : List Value)
  | obj (members : List (Option Text × Value))
deriving Repr

abbrev Members := List (Option Text × Value)

namespace Members

def get? : Members → Text → Option Value
  | [], _ => none
  | (k, v) :: ms, key => (get? ms key).or (if k = some key then some v else none)

end Members

namespace Value

/-- Null, false, zero, and what is empty. -/
def isVoid : Value → Bool
  | .null => true
  | .bool b => !b
  | .int i => i = 0
  | .real x => x.isZero
  | .str t => t = some []
  | .arr items => items.isEmpty
  | .obj members => members.isEmpty

end Value
end DiceBot.Json
