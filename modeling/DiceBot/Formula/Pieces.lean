import DiceBot.Text.Basic

/-!
# The pieces of a formula

The repeats stand before the first number sign, and the command after it. The
command is cut before every sign past its first character, so that each piece
begins with its own sign and no character is lost.
-/

namespace DiceBot.Pieces

def isSign (c : Char) : Bool := c = '+' || c = '-'

/-- Without a number sign the formula is all command, to be run once. -/
def splitRepeats (t : Text) : Text × Text :=
  match t.dropWhile (· ≠ '#') with
  | [] => (['1'], t)
  | _ :: command => (t.takeWhile (· ≠ '#'), command)

def signed : Text → Text
  | [] => ['+']
  | c :: cs => if isSign c then c :: cs else '+' :: c :: cs

def cutAtSigns : Text → Text × List Text
  | [] => ([], [])
  | c :: cs =>
    let (before, pieces) := cutAtSigns cs
    if isSign c then ([], (c :: before) :: pieces) else (c :: before, pieces)

def ofCommand : Text → List Text
  | [] => [[]]
  | c :: cs =>
    let (before, pieces) := cutAtSigns cs
    (c :: before) :: pieces

theorem flatten_cutAtSigns (t : Text) : (cutAtSigns t).1 ++ (cutAtSigns t).2.flatten = t := by
  induction t with
  | nil => rfl
  | cons c cs ih =>
    by_cases h : isSign c
    · simp [cutAtSigns, h, ih]
    · simp [cutAtSigns, h, ih]

theorem flatten_ofCommand (t : Text) : (ofCommand t).flatten = t := by
  cases t with
  | nil => rfl
  | cons c cs => simp [ofCommand, flatten_cutAtSigns]

theorem ofCommand_ne_nil (t : Text) : ofCommand t ≠ [] := by cases t <;> simp [ofCommand]

end DiceBot.Pieces
