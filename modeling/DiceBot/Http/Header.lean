import DiceBot.Text.Basic

/-!
# Headers

Headers are listed in the order in which their names first came up. A name that
comes up again keeps its place and takes the new value. Names are looked up
without regard to the case of ASCII letters, which are all that the names asked
for have.
-/

namespace DiceBot

abbrev Headers := List (Text × Option Text)

namespace Headers

def put : Headers → Text → Option Text → Headers
  | [], name, value => [(name, value)]
  | (n, v) :: hs, name, value =>
    if n = name then (n, value) :: hs else (n, v) :: put hs name value

def ofPairs (pairs : List (Text × Option Text)) : Headers :=
  pairs.foldl (fun hs p => put hs p.1 p.2) []

def lowerCase (t : Text) : Text := t.map Char.toLower

/-- The same headers with names equal but for case taken as one. -/
def folded (hs : Headers) : Headers := ofPairs (hs.map fun h => (lowerCase h.1, h.2))

def get? (hs : Headers) (name : Text) : Option Text :=
  ((hs.find? fun h => lowerCase h.1 = name).map Prod.snd).join

def userId? (hs : Headers) : Option Text := hs.get? "x-user-id".toList

theorem get?_cons (h : Text × Option Text) (hs : Headers) (name : Text) :
    get? (h :: hs) name = if lowerCase h.1 = name then h.2 else get? hs name := by
  by_cases e : lowerCase h.1 = name
  · simp [get?, e]
  · simp [get?, e]

end Headers
end DiceBot
