import DiceBot.Text.Decimal

/-!
# Binary64 numbers

A finite number is a whole number of units in a power of two. A decimal numeral
is read as the nearest number of 53 bits, ties going to the even one, and as
infinite from the point where 1024 bits no longer hold it.
-/

namespace DiceBot.Json

inductive Binary64 where
  | finite (negative : Bool) (units : Nat) (exponent : Int)
  | infinite (negative : Bool)
  | nan
deriving DecidableEq, Repr

namespace Binary64

def roundedQuotient (n d : Nat) : Nat :=
  if d < 2 * (n % d) ∨ (d = 2 * (n % d) ∧ n / d % 2 = 1) then n / d + 1 else n / d

def inUnits (n d : Nat) : Int → Nat × Nat
  | .ofNat e => (n, d <<< e)
  | .negSucc e => (n <<< (e + 1), d)

/-- The exponent at which a positive quotient has 53 bits, or the least exponent there is. -/
def unitExponent (n d : Nat) : Int :=
  let e : Int := n.log2 - d.log2
  let (a, b) := inUnits n d e
  max (if b ≤ a then e - 52 else e - 53) (-1074)

def ofRatio (negative : Bool) (n d : Nat) : Binary64 :=
  let e := unitExponent n d
  let (a, b) := inUnits n d e
  let units := roundedQuotient a b
  if 0 ≤ e ∧ 1 <<< 1024 ≤ units <<< e.toNat then .infinite negative else .finite negative units e

/-- Digits as a whole number, times a power of ten. Sizes that no number comes near are told by
the place of the first digit alone. -/
def ofDecimal (negative : Bool) (digits : Text) (exponent : Int) : Binary64 :=
  let digits := digits.dropWhile (· = '0')
  let places := digits.length + exponent
  if digits = [] ∨ places < -330 then .finite negative 0 0
  else if 310 < places then .infinite negative
  else
    let n := Decimal.value digits
    match exponent with
    | .ofNat e => ofRatio negative (n * Nat.pow 10 e) 1
    | .negSucc e => ofRatio negative n (Nat.pow 10 (e + 1))

def isZero : Binary64 → Bool
  | .finite _ units _ => units = 0
  | _ => false

def isFinite : Binary64 → Bool
  | .finite .. => true
  | _ => false

def toInt? : Binary64 → Option Int
  | .finite negative units (.ofNat e) => some (sign negative * (units <<< e : Nat))
  | .finite negative units (.negSucc e) =>
    let whole := units >>> (e + 1)
    if units = whole <<< (e + 1) then some (sign negative * whole) else none
  | _ => none
where
  sign (negative : Bool) : Int := if negative then -1 else 1

end Binary64
end DiceBot.Json
