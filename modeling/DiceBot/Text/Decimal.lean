import DiceBot.Text.Basic

/-!
# Decimal numerals

Numbers are written in base ten without leading zeros, a negative one after a
minus sign, and a run of digits is read by place value.
-/

namespace DiceBot.Decimal

def ofNat (n : Nat) : Text := Nat.toDigits 10 n

def ofInt : Int → Text
  | .ofNat n => ofNat n
  | .negSucc n => '-' :: ofNat (n + 1)

def value (digits : Text) : Nat := Nat.ofDigitChars 10 digits 0

def isCanonical : Text → Bool
  | [] => false
  | d :: ds => d ≠ '0' && (d :: ds).all Char.isDigit

theorem value_ofNat (n : Nat) : value (ofNat n) = n := Nat.ofDigitChars_ten_toDigits

theorem value_append (s t : Text) : value (s ++ t) = Nat.pow 10 t.length * value s + value t := by
  simp only [value, Nat.ofDigitChars_append]
  exact Nat.ofDigitChars_eq_ofDigitChars_zero

theorem digit_lt {c : Char} (h : c.isDigit) : c.toNat - 48 < 10 := by
  simp only [Char.isDigit, Bool.and_eq_true, decide_eq_true_eq, UInt32.le_iff_toNat_le] at h
  have h1 : c.val.toNat ≤ 57 := h.2
  have h2 : c.toNat = c.val.toNat := rfl
  omega

theorem digit_pos {c : Char} (h : c.isDigit) (h0 : c ≠ '0') : 0 < c.toNat - 48 := by
  simp only [Char.isDigit, Bool.and_eq_true, decide_eq_true_eq, UInt32.le_iff_toNat_le] at h
  have h1 : 48 ≤ c.val.toNat := h.1
  have h2 : c.toNat = c.val.toNat := rfl
  have h3 : c.val.toNat ≠ 48 := fun e => h0 (Char.ext (UInt32.toNat_inj.1 e))
  omega

theorem value_cons (c : Char) (cs : Text) :
    value (c :: cs) = Nat.pow 10 cs.length * (c.toNat - 48) + value cs := by
  have h := value_append [c] cs
  simpa [value, Nat.ofDigitChars_cons] using h

theorem value_lt {ds : Text} (h : ds.all Char.isDigit) : value ds < Nat.pow 10 ds.length := by
  induction ds with
  | nil => simp [value]
  | cons c cs ih =>
    simp only [List.all_cons, Bool.and_eq_true] at h
    have hc := digit_lt h.1
    have hs := ih h.2
    rw [value_cons]
    change _ < Nat.pow 10 cs.length * 10
    have := Nat.mul_le_mul_left (Nat.pow 10 cs.length) (show c.toNat - 48 ≤ 9 by omega)
    omega

theorem isDigit_of_isCanonical {ds : Text} (h : isCanonical ds) : ds.all Char.isDigit := by
  cases ds with
  | nil => rfl
  | cons c cs => exact (Bool.and_eq_true_iff.1 h).2

theorem value_pos {ds : Text} (h : isCanonical ds) : 0 < value ds := by
  cases ds with
  | nil => simp [isCanonical] at h
  | cons c cs =>
    simp only [isCanonical, List.all_cons, Bool.and_eq_true, decide_eq_true_eq] at h
    have : 0 < Nat.pow 10 cs.length * (c.toNat - 48) :=
      Nat.mul_pos (Nat.pow_pos (show 0 < 10 by decide)) (digit_pos h.2.1 h.1)
    rw [value_cons]
    omega

end DiceBot.Decimal
