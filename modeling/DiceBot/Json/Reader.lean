import DiceBot.Json.Token

/-!
# Reading JSON

A reader takes one token at a time and keeps the arrays and objects that are
still open on a stack, so that values may be nested to any depth.
-/

namespace DiceBot.Json

/-- An open array, or an open object with the key whose value is read. What they hold so far
stands latest first. -/
inductive Frame where
  | array (items : List Value)
  | object (members : Members) (key : Option Text)

inductive Place where
  | value (stack : List Frame)
  | firstItem (stack : List Frame)
  | firstKey (stack : List Frame)
  | key (members : Members) (stack : List Frame)
  | colon (members : Members) (key : Option Text) (stack : List Frame)
  | afterItem (items : List Value) (stack : List Frame)
  | afterMember (members : Members) (stack : List Frame)
  | finished (v : Value)

namespace Place

def behind (v : Value) : List Frame → Place
  | [] => .finished v
  | .array items :: stack => .afterItem (v :: items) stack
  | .object members k :: stack => .afterMember ((k, v) :: members) stack

def enter (stack : List Frame) : Token → Option Place
  | .scalar v => some (behind v stack)
  | .beginArray => some (.firstItem stack)
  | .beginObject => some (.firstKey stack)
  | _ => none

def next : Place → Token → Option Place
  | .value stack, t => enter stack t
  | .firstItem stack, .endArray => some (behind (.arr []) stack)
  | .firstItem stack, t => enter (.array [] :: stack) t
  | .firstKey stack, .endObject => some (behind (.obj []) stack)
  | .firstKey stack, .scalar (.str k) => some (.colon [] k stack)
  | .key members stack, .scalar (.str k) => some (.colon members k stack)
  | .colon members k stack, .colon => some (.value (.object members k :: stack))
  | .afterItem items stack, .comma => some (.value (.array items :: stack))
  | .afterItem items stack, .endArray => some (behind (.arr items.reverse) stack)
  | .afterMember members stack, .comma => some (.key members stack)
  | .afterMember members stack, .endObject => some (behind (.obj members.reverse) stack)
  | _, _ => none

def value? : Place → Option Value
  | .finished v => some v
  | _ => none

end Place

def read? (t : Text) : Option Value := do
  let ts ← tokens? t
  (← ts.foldlM Place.next (.value [])).value?

end DiceBot.Json
