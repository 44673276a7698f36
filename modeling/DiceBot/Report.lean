import DiceBot.Dice.Kept
import DiceBot.Dice.Play

/-!
# Reports

One pass over a formula scores each of its terms once. A term's score is its
signed contribution to the total and, for dice, the trace of the roll: the
term's expression and the faces in ascending order. A report holds a pass for
each repeat.
-/

namespace DiceBot

structure Score where
  contribution : Int
  trace : Option Text
deriving DecidableEq, Repr

structure Pass where
  total : Int
  traces : List Text
deriving DecidableEq, Repr

structure Report where
  formula : Text
  passes : List Pass
deriving DecidableEq, Repr

namespace Pass

def ofScores (scores : List Score) : Pass where
  total := scores.foldr (fun s total => s.contribution + total) 0
  traces := scores.filterMap Score.trace

def render (p : Pass) : Text :=
  match p.traces with
  | [] => '[' :: Decimal.ofInt p.total ++ [']']
  | ts => '[' :: Decimal.ofInt p.total ++ ' ' :: [';', ' '].intercalate ts ++ [']']

end Pass

namespace Report

def totals (r : Report) : List Int := r.passes.map Pass.total

def render (r : Report) : Text :=
  r.formula ++ ':' :: ' ' :: [' '].intercalate (r.passes.map Pass.render)

end Report

namespace Dice

def pips (faces : List Nat) : Nat := faces.foldr (· + ·) 0

def trace (d : Dice) (sorted : List Nat) : Text :=
  d.expression ++ '=' :: [','].intercalate (sorted.map Decimal.ofNat)

/-- The score of a roll, whose faces may come in any order. -/
def score (sign : Sign) (d : Dice) (faces : List Nat) : Score :=
  let sorted := faces.mergeSort
  ⟨sign.value * pips (kept d.keep sorted), some (d.trace sorted)⟩

end Dice

variable {σ : Type} [DieSource σ]

def Term.roll (t : Term) : Play σ Score :=
  match t.amount with
  | .flat v => return ⟨t.sign.value * v.value, none⟩
  | .dice d => return d.score t.sign (← Play.throwDice d.count.value d.sides.value)

def Pass.roll (terms : List Term) : Play σ Pass := do
  return .ofScores (← terms.mapM Term.roll)

/-- Every repeat throws its own dice. -/
def Formula.roll (f : Formula) : Play σ Report := do
  return ⟨f.text, ← (List.replicate f.repeats.value f.terms).mapM Pass.roll⟩

end DiceBot
