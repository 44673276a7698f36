import DiceBot.Text.Decimal

/-!
# Numerals of bounded length

A formula holds numbers of one digit or more, up to a fixed length, without
leading zeros. These are the positive numbers below a power of ten.
-/

namespace DiceBot

structure Numeral (digits : Nat) where
  value : Nat
  pos : 0 < value
  lt : value < Nat.pow 10 digits
deriving DecidableEq, Repr

namespace Numeral

def bound (digits : Nat) : Nat := Nat.pow 10 digits - 1

def ofNat? (digits v : Nat) : Option (Numeral digits) :=
  if h : 0 < v ∧ v < Nat.pow 10 digits then some ⟨v, h.1, h.2⟩ else none

def text {digits : Nat} (n : Numeral digits) : Text := Decimal.ofNat n.value

/-- The same number, if it is short enough for a smaller length. -/
def narrow? {digits : Nat} (n : Numeral digits) (fewer : Nat) : Option (Numeral fewer) :=
  ofNat? fewer n.value

def ofDigits {digits : Nat} (ds : Text) (canonical : Decimal.isCanonical ds)
    (short : ds.length ≤ digits) : Numeral digits where
  value := Decimal.value ds
  pos := Decimal.value_pos canonical
  lt := Nat.lt_of_lt_of_le (Decimal.value_lt (Decimal.isDigit_of_isCanonical canonical))
    (Nat.pow_le_pow_right (by decide) short)

theorem ext_value {digits : Nat} {m n : Numeral digits} (h : m.value = n.value) : m = n := by
  cases m; cases n; cases h; rfl

theorem ofNat?_value {digits : Nat} (n : Numeral digits) : ofNat? digits n.value = some n :=
  dif_pos ⟨n.pos, n.lt⟩

theorem value_of_ofNat?_eq_some {digits v : Nat} {n : Numeral digits}
    (h : ofNat? digits v = some n) : n.value = v := by
  simp only [ofNat?] at h
  split at h
  · cases h; rfl
  · cases h

theorem value_le_bound {digits : Nat} (n : Numeral digits) : n.value ≤ bound digits := by
  have := n.lt
  unfold bound
  omega

end Numeral
end DiceBot
