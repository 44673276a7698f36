import Mathlib.Data.List.TakeWhile
import DiceBot.Formula.Pieces

/-!
# Cutting a formula

Texts that can be pieces are found again when they are put one behind another,
whatever their number, since a sign stands at the front of each and nowhere else.
In the same way what stands before the first number sign is found again. So the
cuts of a formula are decided by its characters alone, and there is no other way
to cut a command into pieces.
-/

namespace DiceBot.Pieces

def IsUncut (p : Text) : Prop := p ≠ [] ∧ ∀ c ∈ p.tail, isSign c = false

def IsSigned (p : Text) : Prop := IsUncut p ∧ ∀ c ∈ p.head?, isSign c

theorem isSigned_cons {c : Char} {cs : Text} :
    IsSigned (c :: cs) ↔ isSign c ∧ ∀ x ∈ cs, isSign x = false := by
  simp [IsSigned, IsUncut, and_comm]

theorem cutAtSigns_append {s : Text} (hs : ∀ c ∈ s, isSign c = false) (t : Text) :
    cutAtSigns (s ++ t) = (s ++ (cutAtSigns t).1, (cutAtSigns t).2) := by
  induction s with
  | nil => rfl
  | cons c s ih =>
    have hc : isSign c = false := hs c (by simp)
    have hs' := ih fun x hx => hs x (List.mem_cons_of_mem _ hx)
    simp [cutAtSigns, hs', hc]

theorem cutAtSigns_flatten {ps : List Text} (h : ∀ p ∈ ps, IsSigned p) :
    cutAtSigns ps.flatten = ([], ps) := by
  induction ps with
  | nil => rfl
  | cons p ps ih =>
    have ht := ih fun q hq => h q (List.mem_cons_of_mem _ hq)
    have hp := h p (by simp)
    cases p with
    | nil => exact absurd rfl hp.1.1
    | cons c cs =>
      obtain ⟨hc, hcs⟩ := isSigned_cons.1 hp
      simp [cutAtSigns, cutAtSigns_append hcs, ht, hc]

theorem ofCommand_flatten {p : Text} {ps : List Text} (hp : IsUncut p)
    (hps : ∀ q ∈ ps, IsSigned q) : ofCommand (p :: ps).flatten = p :: ps := by
  cases p with
  | nil => exact absurd rfl hp.1
  | cons c cs =>
    have hcs : ∀ x ∈ cs, isSign x = false := hp.2
    simp [ofCommand, cutAtSigns_append hcs, cutAtSigns_flatten hps]

theorem isSign_eq_false_of_mem_cutAtSigns {t : Text} {c : Char} (h : c ∈ (cutAtSigns t).1) :
    isSign c = false := by
  induction t with
  | nil => cases h
  | cons x xs ih =>
    by_cases hx : isSign x
    · simp [cutAtSigns, hx] at h
    · simp only [cutAtSigns, hx, Bool.false_eq_true, ↓reduceIte, List.mem_cons] at h
      rcases h with rfl | h
      · simpa using hx
      · exact ih h

theorem isSigned_of_mem_cutAtSigns {t p : Text} (h : p ∈ (cutAtSigns t).2) : IsSigned p := by
  induction t with
  | nil => cases h
  | cons x xs ih =>
    by_cases hx : isSign x
    · simp only [cutAtSigns, hx, ↓reduceIte, List.mem_cons] at h
      rcases h with rfl | h
      · exact isSigned_cons.2 ⟨hx, fun _ => isSign_eq_false_of_mem_cutAtSigns⟩
      · exact ih h
    · simp only [cutAtSigns, hx, Bool.false_eq_true, ↓reduceIte] at h
      exact ih h

theorem cutAtSigns_append_cons {c : Char} (hc : isSign c) (s t : Text) :
    cutAtSigns (s ++ c :: t) =
      ((cutAtSigns s).1, (cutAtSigns s).2 ++ ofCommand (c :: t)) := by
  induction s with
  | nil => simp [cutAtSigns, ofCommand, hc]
  | cons x s ih =>
    by_cases hx : isSign x
    · simp [cutAtSigns, ih, hx]
    · simp [cutAtSigns, ih, hx]

theorem ofCommand_append_cons {s : Text} (hs : s ≠ []) {c : Char} (hc : isSign c) (t : Text) :
    ofCommand (s ++ c :: t) = ofCommand s ++ ofCommand (c :: t) := by
  cases s with
  | nil => exact absurd rfl hs
  | cons x s => simp only [List.cons_append, ofCommand, cutAtSigns_append_cons hc]

theorem splitRepeats_append {r : Text} (h : '#' ∉ r) (c : Text) :
    splitRepeats (r ++ '#' :: c) = (r, c) := by
  have hr : ∀ x ∈ r, decide (x ≠ '#') = true := fun x hx =>
    decide_eq_true fun e => h (e ▸ hx)
  rw [splitRepeats, List.dropWhile_append_of_pos hr, List.takeWhile_append_of_pos hr]
  simp

theorem splitRepeats_of_notMem {t : Text} (h : '#' ∉ t) : splitRepeats t = (['1'], t) := by
  have ht : t.dropWhile (· ≠ '#') = [] :=
    List.dropWhile_eq_nil_iff.2 fun x hx => decide_eq_true fun e => h (e ▸ hx)
  rw [splitRepeats, ht]

theorem splitRepeats_cases (t : Text) :
    ('#' ∉ t ∧ splitRepeats t = (['1'], t)) ∨
      ∃ r c, '#' ∉ r ∧ t = r ++ '#' :: c ∧ splitRepeats t = (r, c) := by
  by_cases h : '#' ∈ t
  · obtain ⟨r, c, rfl, hr⟩ := List.eq_append_cons_of_mem h
    exact Or.inr ⟨r, c, hr, rfl, splitRepeats_append hr c⟩
  · exact Or.inl ⟨h, splitRepeats_of_notMem h⟩

theorem signed_of_isSign {c : Char} (h : isSign c) (cs : Text) : signed (c :: cs) = c :: cs :=
  if_pos h

theorem signed_of_head? {t : Text} (h : ∀ c ∈ t.head?, isSign c = false) :
    signed t = '+' :: t := by
  cases t with
  | nil => rfl
  | cons c cs => simp [signed, h c rfl]

theorem eq_or_eq_of_signed (t : Text) : t = signed t ∨ signed t = '+' :: t := by
  cases t with
  | nil => exact Or.inr rfl
  | cons c cs =>
    by_cases h : isSign c
    · exact Or.inl (signed_of_isSign h cs).symm
    · exact Or.inr (signed_of_head? (by simpa using h))

theorem exists_signed_eq_cons (t : Text) : ∃ c cs, signed t = c :: cs ∧ isSign c := by
  cases t with
  | nil => exact ⟨'+', [], rfl, rfl⟩
  | cons c cs =>
    by_cases h : isSign c
    · exact ⟨c, cs, signed_of_isSign h cs, h⟩
    · exact ⟨'+', c :: cs, signed_of_head? (by simpa using h), rfl⟩

theorem isSigned_of_mem_ofCommand_signed {t p : Text} (h : p ∈ ofCommand (signed t)) :
    IsSigned p := by
  obtain ⟨c, cs, hsigned, hc⟩ := exists_signed_eq_cons t
  rw [hsigned, ofCommand, List.mem_cons] at h
  rcases h with rfl | h
  · exact isSigned_cons.2 ⟨hc, fun _ => isSign_eq_false_of_mem_cutAtSigns⟩
  · exact isSigned_of_mem_cutAtSigns h

theorem signed_append {s : Text} (hs : s ≠ []) (t : Text) : signed (s ++ t) = signed s ++ t := by
  cases s with
  | nil => exact absurd rfl hs
  | cons c s =>
    by_cases h : isSign c
    · simp [signed, h]
    · simp [signed, h]

theorem isSigned_iff {p : Text} :
    IsSigned p ↔ (∃ c ∈ p.head?, isSign c) ∧ ∀ c ∈ p.tail, isSign c = false := by
  cases p with
  | nil => simp [IsSigned, IsUncut]
  | cons c cs => simp [isSigned_cons]

/-- Pieces that make up a text. Each of them but the first begins with a sign, no sign stands past
the first character of a piece, and no piece is empty unless the text is. -/
structure IsCutting (t : Text) (ps : List Text) : Prop where
  ne_nil : ps ≠ []
  flatten_eq : ps.flatten = t
  begins : ∀ p ∈ ps.tail, ∃ c ∈ p.head?, isSign c
  uncut : ∀ p ∈ ps, ∀ c ∈ p.tail, isSign c = false
  eq_nil : [] ∈ ps → t = []

theorem isCutting_ofCommand (t : Text) : IsCutting t (ofCommand t) := by
  cases t with
  | nil => constructor <;> simp [ofCommand]
  | cons c cs =>
    have hsigned : ∀ p ∈ (cutAtSigns cs).2, IsSigned p := fun p => isSigned_of_mem_cutAtSigns
    refine ⟨ofCommand_ne_nil _, flatten_ofCommand _, fun p hp => ?_, fun p hp => ?_, fun hnil => ?_⟩
    · exact (isSigned_iff.1 (hsigned p hp)).1
    · rw [ofCommand, List.mem_cons] at hp
      rcases hp with rfl | hp
      · exact fun x hx => isSign_eq_false_of_mem_cutAtSigns hx
      · exact (isSigned_iff.1 (hsigned p hp)).2
    · rw [ofCommand, List.mem_cons] at hnil
      rcases hnil with hnil | hnil
      · cases hnil
      · exact absurd rfl (hsigned [] hnil).1.1

theorem isCutting_nil_iff {ps : List Text} : IsCutting [] ps ↔ ps = [[]] := by
  constructor
  · intro h
    have hnil : ∀ p ∈ ps, p = [] := List.flatten_eq_nil_iff.1 h.flatten_eq
    cases ps with
    | nil => exact absurd rfl h.ne_nil
    | cons p ps =>
      cases ps with
      | nil => simp [hnil p]
      | cons q ps =>
        -- a second piece would have to begin with a sign
        obtain ⟨c, hc, -⟩ := h.begins q (by simp)
        simp [hnil q] at hc
  · intro h
    subst h
    exact isCutting_ofCommand []

theorem IsCutting.eq_ofCommand {t : Text} {ps : List Text} (h : IsCutting t ps) :
    ps = ofCommand t := by
  by_cases ht : t = []
  · subst ht
    exact isCutting_nil_iff.1 h
  · have hne : ∀ p ∈ ps, p ≠ [] := fun p hp hnil => ht (h.eq_nil (hnil ▸ hp))
    cases ps with
    | nil => exact absurd rfl h.ne_nil
    | cons p ps =>
      have hsigned : ∀ q ∈ ps, IsSigned q := fun q hq =>
        isSigned_iff.2 ⟨h.begins q hq, h.uncut q (List.mem_cons_of_mem p hq)⟩
      rw [← h.flatten_eq]
      exact (ofCommand_flatten ⟨hne p (by simp), h.uncut p (by simp)⟩ hsigned).symm

/-- There is one cutting of a text, and it is how a command is cut. Once the first sign of a command
is written out, each piece begins with a sign of its own, and the pieces together are the command
with this sign. -/
theorem ofCommand_only_cutting (t : Text) :
    (∀ ps, IsCutting t ps ↔ ps = ofCommand t) ∧
      ([] ∈ ofCommand t → t = [] ∧ ofCommand t = [[]]) ∧
      (∀ p ∈ ofCommand (signed t), ∃ c ∈ p.head?, isSign c) ∧
      (ofCommand (signed t)).flatten = if t.head?.any isSign then t else '+' :: t := by
  refine ⟨fun ps => ⟨IsCutting.eq_ofCommand, ?_⟩, fun hnil => ?_, fun p hp => ?_, ?_⟩
  · intro h
    subst h
    exact isCutting_ofCommand t
  · obtain rfl := (isCutting_ofCommand t).eq_nil hnil
    exact ⟨rfl, isCutting_nil_iff.1 (isCutting_ofCommand [])⟩
  · exact (isSigned_iff.1 (isSigned_of_mem_ofCommand_signed hp)).1
  · rw [flatten_ofCommand]
    cases t with
    | nil => rfl
    | cons c cs =>
      by_cases h : isSign c
      · simp [signed, h]
      · simp [signed, h]

theorem ofCommand_only_cutting_dangling_signs :
    let t := "3d6++2-".toList
    let pieces := ["3d6".toList, "+".toList, "+2".toList, "-".toList]
    (IsCutting t pieces ∧ pieces = ofCommand t) ∧
      ([] ∈ ofCommand [] ∧ ofCommand [] = [[]]) ∧
      "+3d6".toList ∈ ofCommand (signed t) ∧ (∃ c ∈ "+3d6".toList.head?, isSign c) ∧
      (ofCommand (signed t)).flatten = '+' :: t := by
  intro t pieces
  obtain ⟨hcutting, -, hbegins, hflatten⟩ := ofCommand_only_cutting t
  obtain ⟨-, hempty, -⟩ := ofCommand_only_cutting []
  have hpieces : pieces = ofCommand t := by decide
  have hnil : [] ∈ ofCommand [] := by decide
  have hfirst : "+3d6".toList ∈ ofCommand (signed t) := by decide
  exact ⟨⟨(hcutting pieces).2 hpieces, hpieces⟩, ⟨hnil, (hempty hnil).2⟩, hfirst,
    hbegins _ hfirst, hflatten⟩

end DiceBot.Pieces
