import Mathlib
import DiceBot.Proofs.Report.Rolling

/-!
# The highest and the lowest dice

Of all dice that can be picked from a roll, as many as a keep asks for, the ones that it leaves add
up to the most or to the least. A roll is scored by its faces alone, in whatever order they came.
-/

namespace DiceBot

def Dice.pickedSums (faces : List Nat) (n : Nat) : Set Nat :=
  {v | ∃ picked : List Nat, picked.Subperm faces ∧ picked.length = n ∧ picked.sum = v}

section Picked

variable {sorted picked : List Nat}

theorem sum_take_cons_le {a n : Nat} (ha : ∀ b ∈ sorted, a ≤ b) (hn : n ≤ sorted.length) :
    ((a :: sorted).take n).sum ≤ (sorted.take n).sum := by
  cases n with
  | zero => exact Nat.le_refl _
  | succ n =>
    have hlt : n < sorted.length := hn
    have hnext : a ≤ sorted[n] := ha _ (List.getElem_mem hlt)
    rw [List.take_succ_cons, List.take_succ_eq_append_getElem hlt, List.sum_cons,
      List.sum_append_nat, List.sum_singleton]
    omega

theorem sum_take_le_of_sublist (hsorted : sorted.Pairwise (· ≤ ·)) (h : picked.Sublist sorted) :
    (sorted.take picked.length).sum ≤ picked.sum := by
  induction h with
  | slnil => exact Nat.le_refl _
  | @cons picked sorted a h ih =>
    obtain ⟨ha, hsorted⟩ := List.pairwise_cons.1 hsorted
    exact Nat.le_trans (sum_take_cons_le ha h.length_le) (ih hsorted)
  | @cons_cons picked sorted a h ih =>
    obtain ⟨-, hsorted⟩ := List.pairwise_cons.1 hsorted
    rw [List.length_cons, List.take_succ_cons, List.sum_cons, List.sum_cons]
    exact Nat.add_le_add_left (ih hsorted) a

theorem sum_take_le_of_subperm (hsorted : sorted.Pairwise (· ≤ ·)) (h : picked.Subperm sorted) :
    (sorted.take picked.length).sum ≤ picked.sum := by
  obtain ⟨picked', hperm, hsub⟩ := h
  rw [← hperm.length_eq, ← hperm.sum_nat]
  exact sum_take_le_of_sublist hsorted hsub

theorem exists_others_of_subperm {faces : List Nat} (h : picked.Subperm faces) :
    ∃ others : List Nat, faces.Perm (picked ++ others) ∧
      others.length = faces.length - picked.length ∧ picked.sum + others.sum = faces.sum := by
  obtain ⟨faces', hperm, hsub⟩ := List.subperm_iff.1 h
  obtain ⟨others, hall⟩ := hsub.exists_perm_append
  have hfaces : faces.Perm (picked ++ others) := hperm.symm.trans hall
  refine ⟨others, hfaces, ?_, ?_⟩
  · rw [hfaces.length_eq, List.length_append, Nat.add_sub_cancel_left]
  · rw [hfaces.sum_nat, List.sum_append_nat]

theorem sum_le_sum_drop_of_subperm (hsorted : sorted.Pairwise (· ≤ ·))
    (h : picked.Subperm sorted) :
    picked.sum ≤ (sorted.drop (sorted.length - picked.length)).sum := by
  obtain ⟨others, hperm, hlength, hsum⟩ := exists_others_of_subperm h
  -- the dice that are not picked add up to no less than the lowest of their number
  have hothers : others.Subperm sorted :=
    (List.sublist_append_right picked others).subperm.trans hperm.symm.subperm
  have hleast := sum_take_le_of_subperm hsorted hothers
  have hcut : (sorted.take (sorted.length - picked.length)).sum +
      (sorted.drop (sorted.length - picked.length)).sum = sorted.sum := by
    rw [← List.sum_append_nat, List.take_append_drop]
  rw [hlength] at hleast
  omega

end Picked

section Kept

variable (k : Keep) (faces : List Nat)

theorem Keep.take_sublist {α : Type} (sorted : List α) : (k.take sorted).Sublist sorted := by
  unfold Keep.take
  cases k.extreme with
  | highest => exact List.drop_sublist _ _
  | lowest => exact List.take_sublist _ _

theorem kept_subperm : (kept (some k) faces.mergeSort).Subperm faces :=
  (k.take_sublist _).subperm.trans (List.mergeSort_perm faces _).subperm

theorem length_kept : (kept (some k) faces.mergeSort).length = min k.count.value faces.length :=
  (k.length_take _).trans (by rw [List.length_mergeSort])

theorem pairwise_kept : (kept (some k) faces.mergeSort).Pairwise (· ≤ ·) :=
  (pairwise_mergeSort_le faces).sublist (k.take_sublist _)

variable {k faces}

theorem sum_le_sum_kept_of_highest (hk : k.extreme = .highest) {picked : List Nat}
    (h : picked.Subperm faces) (hlen : picked.length = min k.count.value faces.length) :
    picked.sum ≤ (kept (some k) faces.mergeSort).sum := by
  have hsorted := sum_le_sum_drop_of_subperm (pairwise_mergeSort_le faces)
    (h.trans (List.mergeSort_perm faces _).symm.subperm)
  have hcut : faces.length - min k.count.value faces.length = faces.length - k.count.value := by
    omega
  rw [hlen, List.length_mergeSort, hcut] at hsorted
  simpa only [kept, Keep.take, hk, List.length_mergeSort] using hsorted

theorem sum_kept_le_sum_of_lowest (hk : k.extreme = .lowest) {picked : List Nat}
    (h : picked.Subperm faces) (hlen : picked.length = min k.count.value faces.length) :
    (kept (some k) faces.mergeSort).sum ≤ picked.sum := by
  have hsorted := sum_take_le_of_subperm (pairwise_mergeSort_le faces)
    (h.trans (List.mergeSort_perm faces _).symm.subperm)
  have hcut : faces.mergeSort.take (min k.count.value faces.length) =
      faces.mergeSort.take k.count.value := by
    rw [show faces.length = faces.mergeSort.length from (List.length_mergeSort faces).symm,
      ← List.take_take, List.take_length]
  rw [hlen, hcut] at hsorted
  simpa only [kept, Keep.take, hk] using hsorted

end Kept

theorem Term.exists_score_of_perm (t : Term) {faces : List Nat}
    (hlen : faces.length = t.demand.length) :
    ∃ score, ∀ (σ : Type) [DieSource σ] (s : σ), (DieSource.answer s t.demand).1.Perm faces →
      ((t.roll : Play σ Score).run s).result = .ok score := by
  refine ⟨⟨t.worth faces, t.shown faces⟩, fun σ _ s hperm => ?_⟩
  have hfull : (DieSource.answer s t.demand).1.length = t.demand.length :=
    hperm.length_eq.trans hlen
  rw [t.follows_roll s, Play.followed, if_pos hfull, t.worth_eq_of_perm hperm,
    t.shown_eq_of_perm hperm]

/-- What a keep leaves of a roll are dice of the roll, as many as it asks for or all of them, in
ascending order. They add up to the most, or to the least, that so many dice of the roll can add up
to. Whatever source shows the faces of a roll, and in whatever order, the score is the same. -/
theorem Keep.extreme_sums (k : Keep) (faces : List Nat) :
    let left := kept (some k) faces.mergeSort
    left.Subperm faces ∧ left.length = min k.count.value faces.length ∧
    left.Pairwise (· ≤ ·) ∧
    (k.extreme = .highest → IsGreatest (Dice.pickedSums faces left.length) left.sum) ∧
    (k.extreme = .lowest → IsLeast (Dice.pickedSums faces left.length) left.sum) ∧
    ∀ t : Term, faces.length = t.demand.length →
      ∃ score, ∀ (σ : Type) [DieSource σ] (s : σ), (DieSource.answer s t.demand).1.Perm faces →
        ((t.roll : Play σ Score).run s).result = .ok score := by
  intro left
  have hsub : left.Subperm faces := kept_subperm k faces
  have hlen : left.length = min k.count.value faces.length := length_kept k faces
  refine ⟨hsub, hlen, pairwise_kept k faces, fun hk => ⟨⟨left, hsub, rfl, rfl⟩, ?_⟩,
    fun hk => ⟨⟨left, hsub, rfl, rfl⟩, ?_⟩, fun t => t.exists_score_of_perm⟩
  · intro v hv
    obtain ⟨picked, hpicked, hlength, rfl⟩ := hv
    exact sum_le_sum_kept_of_highest hk hpicked (hlength.trans hlen)
  · intro v hv
    obtain ⟨picked, hpicked, hlength, rfl⟩ := hv
    exact sum_kept_le_sum_of_lowest hk hpicked (hlength.trans hlen)

theorem Keep.extreme_sums_four_dice :
    let two : Numeral 2 := ⟨2, by decide, by decide⟩
    let high : Keep := ⟨.highest, two⟩
    let low : Keep := ⟨.lowest, two⟩
    let faces := [6, 3, 1, 6]
    let t : Term := ⟨.minus, .dice ⟨⟨4, by decide, by decide⟩, ⟨6, by decide, by decide⟩, high⟩⟩
    kept (some high) faces.mergeSort = [6, 6] ∧ IsGreatest (Dice.pickedSums faces 2) 12 ∧
      kept (some low) faces.mergeSort = [1, 3] ∧ IsLeast (Dice.pickedSums faces 2) 4 ∧
      faces.length = t.demand.length ∧
      (t.roll.run (⟨[1, 6, 6, 3]⟩ : ScriptedFaces)).result =
        (t.roll.run (⟨[6, 3, 1, 6]⟩ : ScriptedFaces)).result := by
  intro two high low faces t
  have hsorted : faces.mergeSort = [1, 3, 6, 6] := by cbv
  have hhigh : kept (some high) faces.mergeSort = [6, 6] := by rw [hsorted]; decide
  have hlow : kept (some low) faces.mergeSort = [1, 3] := by rw [hsorted]; decide
  have hlength : faces.length = t.demand.length := by decide
  obtain ⟨-, -, -, hmost, -, hscore⟩ := high.extreme_sums faces
  obtain ⟨-, -, -, -, hleast, -⟩ := low.extreme_sums faces
  have hmost := hmost rfl
  have hleast := hleast rfl
  rw [hhigh] at hmost
  rw [hlow] at hleast
  obtain ⟨score, hscore⟩ := hscore t hlength
  have hshuffled := hscore ScriptedFaces ⟨[1, 6, 6, 3]⟩ (by decide)
  have hscripted := hscore ScriptedFaces ⟨[6, 3, 1, 6]⟩ (by decide)
  exact ⟨hhigh, hmost, hlow, hleast, hlength, hshuffled.trans hscripted.symm⟩

end DiceBot
