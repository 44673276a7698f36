import DiceBot.Formula.Numeral

/-!
# Formulas

A formula is a number of repeats and a sum of signed terms. A term is a flat
number or a roll of several equal dice, of which the highest or the lowest may
be kept. A term's expression is its spelling without the sign.
-/

namespace DiceBot

inductive Sign where
  | plus
  | minus
deriving DecidableEq, Repr

namespace Sign

def mark : Sign → Char
  | .plus => '+'
  | .minus => '-'

def value : Sign → Int
  | .plus => 1
  | .minus => -1

def ofValue? (v : Int) : Option Sign :=
  if v = 1 then some .plus else if v = -1 then some .minus else none

theorem ofValue?_value (s : Sign) : ofValue? s.value = some s := by cases s <;> rfl

end Sign

inductive Extreme where
  | highest
  | lowest
deriving DecidableEq, Repr

namespace Extreme

def mark : Extreme → Char
  | .highest => 'h'
  | .lowest => 'l'

def ofMark? (c : Char) : Option Extreme :=
  if c = 'h' then some .highest else if c = 'l' then some .lowest else none

theorem ofMark?_mark (e : Extreme) : ofMark? e.mark = some e := by cases e <;> rfl

end Extreme

structure Keep where
  extreme : Extreme
  count : Numeral 2
deriving DecidableEq, Repr

def Keep.suffix (k : Keep) : Text := k.extreme.mark :: k.count.text

structure Dice where
  count : Numeral 2
  sides : Numeral 4
  keep : Option Keep
deriving DecidableEq, Repr

def Dice.expression (d : Dice) : Text :=
  d.count.text ++ 'd' :: d.sides.text ++ (d.keep.map Keep.suffix).getD []

inductive Amount where
  | flat (value : Numeral 4)
  | dice (dice : Dice)
deriving DecidableEq, Repr

def Amount.expression : Amount → Text
  | .flat v => v.text
  | .dice d => d.expression

structure Term where
  sign : Sign
  amount : Amount
deriving DecidableEq, Repr

def Term.expression (t : Term) : Text := t.amount.expression

structure Formula where
  text : Text
  repeats : Numeral 2
  terms : List Term
  terms_ne_nil : terms ≠ []
deriving DecidableEq, Repr

end DiceBot
