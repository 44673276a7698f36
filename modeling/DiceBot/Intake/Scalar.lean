import DiceBot.Formula.Term
import DiceBot.Intake.Integer

/-!
# Checking numbers and texts

Numerals and signs come as integers of every kind. Texts come as themselves
alone.
-/

namespace DiceBot.Intake

open Json

def numeral (digits : Nat) (v : Value) : Checked (Numeral digits) := do
  let i ← integer v
  match Numeral.ofNat? digits i.toNat with
  | some n => return n
  | none => fail (if i < 1 then .below 1 else .above (Numeral.bound digits))

def sign (v : Value) : Checked Sign := do
  let i ← integer v
  match Sign.ofValue? i with
  | some s => return s
  | none => fail (.refused "sign must be 1 or -1".toList)

def text : Value → Checked Text
  | .str (some t) => .ok t
  | .str none => fail .brokenText
  | _ => fail .notText

def textUpTo (most : Nat) (v : Value) : Checked Text := do
  let t ← text v
  if t.length ≤ most then return t else fail (.longerThan most)

def extreme : Value → Checked Extreme
  | .str (some [c]) =>
    match Extreme.ofMark? c with
    | some e => .ok e
    | none => fail .notExtreme
  | _ => fail .notExtreme

/-- The length counts the blanks at both ends, which are then dropped. -/
def channelName (v : Value) : Checked Text := do
  let t ← textUpTo 200 v
  if t = [] then fail .emptyText
  else
    let name := Text.trimmed Text.isBlank t
    if name = [] then fail (.refused "channel cannot be blank".toList) else return name

end DiceBot.Intake
