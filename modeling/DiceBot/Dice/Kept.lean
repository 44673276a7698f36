import DiceBot.Formula.Term

/-!
# Keeping dice

A keep leaves the highest or the lowest dice of a roll that is sorted upwards,
and all of them when it asks for more than there are.
-/

namespace DiceBot

def Keep.take {α : Type} (k : Keep) (sorted : List α) : List α :=
  match k.extreme with
  | .highest => sorted.drop (sorted.length - k.count.value)
  | .lowest => sorted.take k.count.value

def kept {α : Type} (keep : Option Keep) (sorted : List α) : List α :=
  match keep with
  | none => sorted
  | some k => k.take sorted

theorem Keep.length_take {α : Type} (k : Keep) (sorted : List α) :
    (k.take sorted).length = min k.count.value sorted.length := by
  unfold Keep.take
  cases k.extreme with
  | highest => simp only [List.length_drop]; omega
  | lowest => exact List.length_take

end DiceBot
