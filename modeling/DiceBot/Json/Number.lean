import DiceBot.Json.Value

/-!
# Words and numbers in JSON

What stands bare between the punctuation: the words for null, truth and the
numbers beyond the finite ones, and numbers. A number with a fraction or an
exponent is a binary64 number, any other a whole number of up to 4300 digits.
-/

namespace DiceBot.Json

def wholeDigitLimit : Nat := 4300

namespace Number

def fraction? : Text → Option (Option Text × Text)
  | '.' :: t =>
    let digits := t.takeWhile Char.isDigit
    if digits = [] then none else some (some digits, t.dropWhile Char.isDigit)
  | t => some (none, t)

def signed : Text → Bool × Text
  | '-' :: t => (true, t)
  | '+' :: t => (false, t)
  | t => (false, t)

/-- The exponent, if there is one; nothing may follow. -/
def exponent? : Text → Option (Option Int)
  | [] => some none
  | c :: t =>
    if c = 'e' ∨ c = 'E' then
      let (negative, digits) := signed t
      if digits ≠ [] ∧ digits.all Char.isDigit then
        let e : Int := Decimal.value digits
        some (some (if negative then -e else e))
      else none
    else none

def ofUnsigned? (negative : Bool) (t : Text) : Option Value := do
  let whole := t.takeWhile Char.isDigit
  if whole = ['0'] ∨ Decimal.isCanonical whole then
    let (fraction, t) ← fraction? (t.dropWhile Char.isDigit)
    match fraction, ← exponent? t with
    | none, none =>
      if whole.length ≤ wholeDigitLimit then
        let i : Int := Decimal.value whole
        some (.int (if negative then -i else i))
      else none
    | fraction, exponent =>
      let decimals := fraction.getD []
      some (.real (.ofDecimal negative (whole ++ decimals) (exponent.getD 0 - decimals.length)))
  else none

end Number

def bareWords : List (Text × Value) :=
  [("null".toList, .null), ("true".toList, .bool true), ("false".toList, .bool false),
    ("NaN".toList, .real .nan), ("Infinity".toList, .real (.infinite false)),
    ("-Infinity".toList, .real (.infinite true))]

def bare? (t : Text) : Option Value :=
  (bareWords.lookup t).or <|
    match t with
    | '-' :: t => Number.ofUnsigned? true t
    | t => Number.ofUnsigned? false t

end DiceBot.Json
