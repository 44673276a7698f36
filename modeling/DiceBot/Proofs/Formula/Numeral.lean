import Mathlib.Data.List.Basic
import Mathlib.Data.List.Induction
import Mathlib.Data.Nat.Init
import DiceBot.Formula.Numeral

/-!
# The digits of numerals

A positive number has exactly one spelling by digits without leading zeros,
which is the one that is written for it. Reading and writing are inverse to each
other on these spellings, and the number of digits bounds the value. So numerals
are told apart by their texts, and none is too wide for its length.
-/

namespace DiceBot.Decimal

theorem isCanonical_iff {ds : Text} :
    isCanonical ds ↔ ds ≠ [] ∧ ds.head? ≠ some '0' ∧ ∀ c ∈ ds, c.isDigit := by
  cases ds with
  | nil => simp [isCanonical]
  | cons d ds => simp [isCanonical]

theorem isDigit_of_mem_ofNat {n : Nat} {c : Char} (h : c ∈ ofNat n) : c.isDigit :=
  Nat.isDigit_of_mem_toDigits (by decide) (by decide) h

def digitChars : Text := (List.range 10).map Nat.digitChar

theorem ofNat_ne_nil (n : Nat) : ofNat n ≠ [] := Nat.toDigits_ne_nil

theorem ofNat_of_lt_ten {n : Nat} (h : n < 10) : ofNat n = [n.digitChar] :=
  Nat.toDigits_of_lt_base h

theorem ofNat_ten_mul_add {n d : Nat} (hn : 0 < n) (hd : d < 10) :
    ofNat (10 * n + d) = ofNat n ++ [d.digitChar] := by
  rw [← ofNat_of_lt_ten hd]
  exact (Nat.toDigits_append_toDigits (by decide) hn hd).symm

theorem digitChar_of_isDigit {c : Char} (h : c.isDigit) : (c.toNat - 48).digitChar = c := by
  have hlt := digit_lt h
  have hge : 48 ≤ c.toNat := by
    simp only [Char.isDigit, Bool.and_eq_true, decide_eq_true_eq, UInt32.le_iff_toNat_le] at h
    exact h.1
  apply Char.toNat_inj.1
  rw [Nat.toNat_digitChar_of_lt_ten hlt]
  omega

theorem ofNat_subset (n : Nat) : ofNat n ⊆ digitChars := by
  intro c hc
  have hd := isDigit_of_mem_ofNat hc
  exact List.mem_map.2 ⟨c.toNat - 48, List.mem_range.2 (digit_lt hd), digitChar_of_isDigit hd⟩

theorem head?_ofNat_ne_zero {n : Nat} (h : 0 < n) : (ofNat n).head? ≠ some '0' := by
  induction n using Nat.strong_induction_on with
  | _ n ih =>
    by_cases hlt : n < 10
    · rw [ofNat_of_lt_ten hlt]
      simp only [List.head?_cons, ne_eq, Option.some.injEq, Nat.digitChar_eq_zero]
      omega
    · have hn : 0 < n / 10 := by omega
      have he : n = 10 * (n / 10) + n % 10 := by omega
      rw [he, ofNat_ten_mul_add hn (Nat.mod_lt _ (by decide)),
        List.head?_append_of_ne_nil _ (ofNat_ne_nil _)]
      exact ih (n / 10) (by omega) hn

theorem isCanonical_ofNat {n : Nat} (h : 0 < n) : isCanonical (ofNat n) :=
  isCanonical_iff.2 ⟨ofNat_ne_nil n, head?_ofNat_ne_zero h, fun _ hc => isDigit_of_mem_ofNat hc⟩

theorem ofNat_value {ds : Text} (h : isCanonical ds) : ofNat (value ds) = ds := by
  induction ds using List.reverseRecOn with
  | nil => simp [isCanonical] at h
  | append_singleton ds c ih =>
    obtain ⟨-, h0, hd⟩ := isCanonical_iff.1 h
    have hc : c.isDigit := hd c (by simp)
    have hv : value [c] = c.toNat - 48 := by simp [value, Nat.ofDigitChars_cons]
    have ha : value (ds ++ [c]) = 10 * value ds + (c.toNat - 48) := by
      rw [value_append, hv]
      rfl
    by_cases hn : ds = []
    · subst hn
      rw [List.nil_append, hv, ofNat_of_lt_ten (digit_lt hc), digitChar_of_isDigit hc]
    · rw [List.head?_append_of_ne_nil _ hn] at h0
      have hs : isCanonical ds :=
        isCanonical_iff.2 ⟨hn, h0, fun x hx => hd x (List.mem_append_left _ hx)⟩
      rw [ha, ofNat_ten_mul_add (value_pos hs) (digit_lt hc), ih hs, digitChar_of_isDigit hc]

theorem isCanonical_iff_exists_ofNat {ds : Text} :
    isCanonical ds ↔ ∃ v, 0 < v ∧ ds = ofNat v := by
  constructor
  · intro h
    exact ⟨value ds, value_pos h, (ofNat_value h).symm⟩
  · intro h
    obtain ⟨v, hv, rfl⟩ := h
    exact isCanonical_ofNat hv

theorem ofNat_injective : Function.Injective ofNat := by
  intro m n h
  rw [← value_ofNat m, h, value_ofNat]

theorem length_ofNat_le_iff {n k : Nat} (hk : 0 < k) :
    (ofNat n).length ≤ k ↔ n < Nat.pow 10 k :=
  Nat.length_toDigits_le_iff (by decide) hk

end DiceBot.Decimal

namespace DiceBot.Numeral

variable {digits : Nat}

theorem digits_pos (n : Numeral digits) : 0 < digits := by
  have hp := n.pos
  have hl := n.lt
  by_contra h
  obtain rfl : digits = 0 := by omega
  have : n.value < 1 := hl
  omega

theorem isCanonical_text (n : Numeral digits) : Decimal.isCanonical n.text :=
  Decimal.isCanonical_ofNat n.pos

theorem length_text_le (n : Numeral digits) : n.text.length ≤ digits :=
  (Decimal.length_ofNat_le_iff n.digits_pos).2 n.lt

theorem text_ne_nil (n : Numeral digits) : n.text ≠ [] := Decimal.ofNat_ne_nil n.value

theorem text_subset (n : Numeral digits) : n.text ⊆ Decimal.digitChars :=
  Decimal.ofNat_subset n.value

theorem text_injective : Function.Injective (text : Numeral digits → Text) := fun _ _ h =>
  ext_value (Decimal.ofNat_injective h)

theorem text_ofDigits {ds : Text} (canonical : Decimal.isCanonical ds)
    (short : ds.length ≤ digits) : (ofDigits ds canonical short).text = ds :=
  Decimal.ofNat_value canonical

theorem ofDigits_text (n : Numeral digits) :
    ofDigits n.text n.isCanonical_text n.length_text_le = n :=
  ext_value (Decimal.value_ofNat n.value)

theorem narrow?_eq_some_iff {n : Numeral digits} {fewer : Nat} {m : Numeral fewer} :
    n.narrow? fewer = some m ↔ m.text = n.text := by
  constructor
  · intro h
    exact congrArg Decimal.ofNat (value_of_ofNat?_eq_some h)
  · intro h
    rw [narrow?, ← Decimal.ofNat_injective h]
    exact ofNat?_value m

theorem exists_ofNat?_eq_some_iff {v : Nat} :
    (∃ n, ofNat? digits v = some n) ↔ 0 < v ∧ (Decimal.ofNat v).length ≤ digits := by
  constructor
  · intro h
    obtain ⟨n, hn⟩ := h
    rw [← value_of_ofNat?_eq_some hn]
    exact ⟨n.pos, n.length_text_le⟩
  · intro h
    have hpos : 0 < digits :=
      Nat.lt_of_lt_of_le (List.length_pos_of_ne_nil (Decimal.ofNat_ne_nil v)) h.2
    have hlt := (Decimal.length_ofNat_le_iff hpos).1 h.2
    exact ⟨⟨v, h.1, hlt⟩, dif_pos ⟨h.1, hlt⟩⟩

theorem exists_text_eq {fewer : Nat} (m : Numeral fewer) (h : fewer ≤ digits) :
    ∃ n : Numeral digits, n.text = m.text :=
  ⟨⟨m.value, m.pos, Nat.lt_of_lt_of_le m.lt (Nat.pow_le_pow_right (by decide) h)⟩, rfl⟩

end DiceBot.Numeral
