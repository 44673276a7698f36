import DiceBot.Text.Basic

/-!
# Blanks

The white space of a chat line: the white space of Unicode together with the
four information separators. A formula means the same with all its blanks
removed, and a name is trimmed of them at both ends.
-/

namespace DiceBot.Text

def blankRanges : CodeRanges :=
  [(0x09, 0x0D), (0x1C, 0x20), (0x85, 0x85), (0xA0, 0xA0), (0x1680, 0x1680), (0x2000, 0x200A),
    (0x2028, 0x2029), (0x202F, 0x202F), (0x205F, 0x205F), (0x3000, 0x3000)]

def isBlank (c : Char) : Bool := blankRanges.covers c

/-- The white space of Unicode has no information separators. -/
def isSpace (c : Char) : Bool := isBlank c && !(0x1C ≤ c.toNat && c.toNat ≤ 0x1F)

def squeezed (t : Text) : Text := t.filter fun c => !isBlank c

theorem squeezed_append (s t : Text) : squeezed (s ++ t) = squeezed s ++ squeezed t :=
  List.filter_append ..

theorem squeezed_squeezed (t : Text) : squeezed (squeezed t) = squeezed t := by
  simp [squeezed, List.filter_filter]

theorem squeezed_eq_self_iff {t : Text} : squeezed t = t ↔ ∀ c ∈ t, isBlank c = false := by
  simp [squeezed, List.filter_eq_self]

theorem squeezed_eq_nil_iff {t : Text} : squeezed t = [] ↔ ∀ c ∈ t, isBlank c := by
  simp [squeezed]

theorem notMem_squeezed {t : Text} {c : Char} (h : c ∉ t) : c ∉ squeezed t :=
  fun hc => h (List.mem_filter.1 hc).1

def first? (t : Text) : Option Char := t.find? fun c => !isBlank c

theorem head?_squeezed (t : Text) : (squeezed t).head? = first? t := List.head?_filter ..

end DiceBot.Text
