import DiceBot.Intake.Checked
import DiceBot.Text.Blank

/-!
# Integers

An integer comes as a whole number, as a number whose fraction is zero, as a
truth value, or as a text. A text is made plain first: a plus sign, zeros in
front, zeros behind a point, and underscores between digits go. Whole numbers
alone may have any size.
-/

namespace DiceBot.Intake.Integer

open Json

/-- Without the zeros in front and the underscores after them. The last of them stays before a
point, and at the end. -/
def withoutZeros : Text → Text
  | c :: d :: t =>
    if (c = '0' ∨ c = '_') ∧ d ≠ '.' then withoutZeros (d :: t) else c :: d :: t
  | t => t

def withoutDecimals (t : Text) : Text :=
  match t.dropWhile (· ≠ '.') with
  | '.' :: '0' :: zeros => if zeros.all (· = '0') then t.takeWhile (· ≠ '.') else t
  | _ => t

def isGrouped : Text → Bool
  | [] => false
  | [c] => c ≠ '_'
  | c :: d :: t => c ≠ '_' && (if d = '_' then isGrouped t else isGrouped (d :: t))

def ungrouped (t : Text) : Text := if isGrouped t then t.filter (· ≠ '_') else t

def plain (t : Text) : Text := ungrouped (withoutDecimals (withoutZeros t))

def digitLimit : Nat := 4300

def natural? (t : Text) : Option Nat :=
  if t = ['0'] ∨ (Decimal.isCanonical t ∧ t.length ≤ digitLimit) then some (Decimal.value t)
  else none

def ofPlain? : Text → Option Int
  | '-' :: t => (natural? t).map fun n => -(n : Int)
  | t => (natural? t).map fun n => (n : Int)

/-- A sign stands right before a digit. Making the rest plain can bring another minus sign to its
front, which counts if it is the only one. -/
def ofSigned? (sign t : Text) : Option Int :=
  if t.head?.any Char.isDigit then ofPlain? (sign ++ plain t) else none

def ofText? (t : Text) : Option Int :=
  match Text.trimmed Text.isSpace t with
  | '-' :: t => ofSigned? ['-'] t
  | '+' :: t => ofSigned? [] t
  | t => ofSigned? [] t

def overflows (t : Text) : Bool :=
  let digits := (if t.head? = some '-' then t.tail else t).takeWhile Char.isDigit
  Decimal.isCanonical digits && digitLimit < digits.length

def ofText (t : Text) : Checked Int :=
  match ofText? t with
  | some i => return i
  | none => fail (if overflows t then .oversized else .unreadableInteger)

/-- A number with a fraction stands for an integer that is nearer to zero than the 63rd power
of two. -/
def ofReal (x : Binary64) : Checked Int :=
  match x.toInt? with
  | some i => if i.natAbs < 1 <<< 63 then return i else fail .oversized
  | none => fail (if x.isFinite then .fractional else .notFinite)

end Integer

open Json in
def integer : Value → Checked Int
  | .int i => .ok i
  | .bool b => .ok (if b then 1 else 0)
  | .real x => Integer.ofReal x
  | .str (some t) => Integer.ofText t
  | .str none => fail .unreadableInteger
  | _ => fail .notInteger

end DiceBot.Intake
