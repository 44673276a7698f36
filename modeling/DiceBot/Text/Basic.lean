/-!
# Texts

A text is the list of its code points, so lengths and positions count code
points. Classes of characters are given by ranges of code points.
-/

namespace DiceBot

abbrev Text := List Char

/-- Ranges of code points, both ends included. -/
abbrev CodeRanges := List (Nat × Nat)

def CodeRanges.covers (ranges : CodeRanges) (c : Char) : Bool :=
  ranges.any fun r => r.1 ≤ c.toNat && c.toNat ≤ r.2

namespace Text

def trimmed (inClass : Char → Bool) (t : Text) : Text :=
  ((t.dropWhile inClass).reverse.dropWhile inClass).reverse

def after? : Text → Text → Option Text
  | [], t => some t
  | _ :: _, [] => none
  | b :: bs, c :: cs => if b = c then after? bs cs else none

theorem after?_eq_some_iff {b t r : Text} : after? b t = some r ↔ t = b ++ r := by
  induction b generalizing t with
  | nil => simp [after?, eq_comm]
  | cons x xs ih =>
    cases t with
    | nil => simp [after?]
    | cons c cs =>
      by_cases h : x = c
      · subst h; simp [after?, ih]
      · simp [after?, h, Ne.symm h]

end Text
end DiceBot
