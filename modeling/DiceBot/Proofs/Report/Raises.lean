import Mathlib
import DiceBot.Proofs.Dice.Extremes

/-!
# Raised faces

When the faces of a roll are raised, die by die, the dice that count add up to no less than before,
and to more by no more than the whole raise: what is kept of either roll could be picked from the
other one too. More dice to keep add up to more, until all of them count.
-/

namespace DiceBot

/-- By how much the faces of a second roll exceed those of a first one, die by die. -/
def Dice.raise (low high : List Nat) : Int :=
  (List.zipWith (fun (a b : Nat) => (b : Int) - a) low high).sum

namespace Dice

theorem raise_eq_sub {low high : List Nat} (h : low.length = high.length) :
    raise low high = high.sum - low.sum := by
  induction low generalizing high with
  | nil =>
    obtain rfl := List.length_eq_zero_iff.1 h.symm
    rfl
  | cons a low ih =>
    cases high with
    | nil => cases h
    | cons b high =>
      have hrest := ih (Nat.succ.inj h)
      simp only [raise, List.zipWith_cons_cons, List.sum_cons] at hrest ⊢
      omega

theorem raise_take_add_raise_drop (n : Nat) (low high : List Nat) :
    raise (low.take n) (high.take n) + raise (low.drop n) (high.drop n) = raise low high := by
  rw [raise, raise, raise, ← List.take_zipWith, ← List.drop_zipWith]
  exact List.sum_take_add_sum_drop _ n

end Dice

section Pairs

variable {α : Type} {ps qs : List (Nat × Nat)}

theorem sum_snd_add_sum_fst_le (hsub : qs.Sublist ps) (h : ∀ p ∈ ps, p.1 ≤ p.2) :
    (qs.map Prod.snd).sum + (ps.map Prod.fst).sum ≤
      (qs.map Prod.fst).sum + (ps.map Prod.snd).sum := by
  induction hsub with
  | slnil => exact Nat.le_refl _
  | @cons qs ps p hsub ih =>
    obtain ⟨hp, hps⟩ := List.forall_mem_cons.1 h
    have hrest := ih hps
    simp only [List.map_cons, List.sum_cons]
    omega
  | @cons_cons qs ps p hsub ih =>
    obtain ⟨-, hps⟩ := List.forall_mem_cons.1 h
    have hrest := ih hps
    simp only [List.map_cons, List.sum_cons]
    omega

theorem exists_sublist_sum_kept (k : Keep) (f : α → Nat) (xs : List α) :
    ∃ ys : List α, ys.Sublist xs ∧ ys.length = min k.count.value xs.length ∧
      (kept (some k) (xs.map f).mergeSort).sum = (ys.map f).sum := by
  obtain ⟨picked, hperm, hsub⟩ := kept_subperm k (xs.map f)
  obtain ⟨ys, hys, rfl⟩ := List.sublist_map_iff.1 hsub
  have hlength := length_kept k (xs.map f)
  rw [← hperm.length_eq, List.length_map, List.length_map] at hlength
  exact ⟨ys, hys, hlength, hperm.sum_nat.symm⟩

theorem sum_kept_of_raises (k : Keep) (h : ∀ p ∈ ps, p.1 ≤ p.2) :
    let low := (kept (some k) (ps.map Prod.fst).mergeSort).sum
    let high := (kept (some k) (ps.map Prod.snd).mergeSort).sum
    low ≤ high ∧ high + (ps.map Prod.fst).sum ≤ low + (ps.map Prod.snd).sum := by
  intro low high
  obtain ⟨below, hbelow, hlengthBelow, hlow⟩ := exists_sublist_sum_kept k Prod.fst ps
  obtain ⟨above, habove, hlengthAbove, hhigh⟩ := exists_sublist_sum_kept k Prod.snd ps
  have hraised : (below.map Prod.fst).sum ≤ (below.map Prod.snd).sum ∧
      (above.map Prod.fst).sum ≤ (above.map Prod.snd).sum :=
    ⟨List.sum_le_sum fun p hp => h p (hbelow.subset hp),
      List.sum_le_sum fun p hp => h p (habove.subset hp)⟩
  have hbound := sum_snd_add_sum_fst_le hbelow h
  have hbound' := sum_snd_add_sum_fst_le habove h
  cases hk : k.extreme with
  | highest =>
    have hpicked := sum_le_sum_kept_of_highest hk (hbelow.map Prod.snd).subperm
      (by rw [List.length_map, List.length_map, hlengthBelow])
    have hpicked' := sum_le_sum_kept_of_highest hk (habove.map Prod.fst).subperm
      (by rw [List.length_map, List.length_map, hlengthAbove])
    omega
  | lowest =>
    have hpicked := sum_kept_le_sum_of_lowest hk (hbelow.map Prod.snd).subperm
      (by rw [List.length_map, List.length_map, hlengthBelow])
    have hpicked' := sum_kept_le_sum_of_lowest hk (habove.map Prod.fst).subperm
      (by rw [List.length_map, List.length_map, hlengthAbove])
    omega

end Pairs

namespace Dice

variable {low high : List Nat}

theorem pips_kept_of_raised (keep : Option Keep) (h : List.Forall₂ (· ≤ ·) low high) :
    let gain : Int := pips (kept keep high.mergeSort) - pips (kept keep low.mergeSort)
    0 ≤ gain ∧ gain ≤ raise low high := by
  obtain ⟨hlength, hzip⟩ := List.forall₂_iff_zip.1 h
  have hps : ∀ p ∈ low.zip high, p.1 ≤ p.2 := fun p hp => hzip hp
  have hfst : (low.zip high).map Prod.fst = low := List.map_fst_zip (Nat.le_of_eq hlength)
  have hsnd : (low.zip high).map Prod.snd = high := List.map_snd_zip (Nat.le_of_eq hlength.symm)
  rw [raise_eq_sub hlength, pips_eq_sum, pips_eq_sum]
  cases keep with
  | none =>
    have hsum : ((low.zip high).map Prod.fst).sum ≤ ((low.zip high).map Prod.snd).sum :=
      List.sum_le_sum hps
    rw [hfst, hsnd] at hsum
    have hlow : (kept none low.mergeSort).sum = low.sum := (List.mergeSort_perm low _).sum_nat
    have hhigh : (kept none high.mergeSort).sum = high.sum := (List.mergeSort_perm high _).sum_nat
    intro gain
    omega
  | some k =>
    have hkept := sum_kept_of_raises k hps
    rw [hfst, hsnd] at hkept
    intro gain
    omega

end Dice

section Worth

variable {low high : List Nat}

theorem Term.worth_of_raised (t : Term) (hlen : low.length = t.demand.length)
    (h : List.Forall₂ (· ≤ ·) low high) :
    (t.sign = .plus → t.worth low ≤ t.worth high) ∧
      (t.sign = .minus → t.worth high ≤ t.worth low) ∧
      |t.worth high - t.worth low| ≤ Dice.raise low high := by
  obtain ⟨s, a⟩ := t
  cases a with
  | flat v =>
    obtain rfl : low = [] := List.length_eq_zero_iff.1 hlen
    obtain rfl := List.forall₂_nil_left_iff.1 h
    simp [worth, Dice.raise]
  | dice d =>
    have hcount : low.length = d.count.value := by simpa [demand] using hlen
    have hgain := Dice.pips_kept_of_raised d.keep h
    rw [d.pips_kept_mergeSort hcount, d.pips_kept_mergeSort (h.length_eq ▸ hcount)] at hgain
    rw [abs_le]
    cases s with
    | plus =>
      simp only [worth, Sign.value]
      refine ⟨fun _ => by omega, fun h => ?_, by omega, by omega⟩
      cases h
    | minus =>
      simp only [worth, Sign.value]
      refine ⟨fun h => ?_, fun _ => by omega, by omega, by omega⟩
      cases h

theorem Pass.abs_total_sub_le (ts : List Term) (hlen : low.length = (ts.flatMap Term.demand).length)
    (h : List.Forall₂ (· ≤ ·) low high) :
    |(ofHand (deal Term.demand ts high)).total - (ofHand (deal Term.demand ts low)).total| ≤
      Dice.raise low high := by
  induction ts generalizing low high with
  | nil =>
    obtain rfl : low = [] := List.length_eq_zero_iff.1 hlen
    obtain rfl := List.forall₂_nil_left_iff.1 h
    exact Int.le_refl _
  | cons t ts ih =>
    rw [List.flatMap_cons, List.length_append] at hlen
    let n := t.demand.length
    have hfirst : (low.take n).length = n := by rw [List.length_take]; omega
    have hothers : (low.drop n).length = (ts.flatMap Term.demand).length := by
      rw [List.length_drop]
      omega
    obtain ⟨-, -, hterm⟩ := t.worth_of_raised hfirst (List.forall₂_take n h)
    have hrest := ih hothers (List.forall₂_drop n h)
    have hraise := Dice.raise_take_add_raise_drop n low high
    have htotal (faces : List Nat) : (ofHand (deal Term.demand (t :: ts) faces)).total =
        t.worth (faces.take n) + (ofHand (deal Term.demand ts (faces.drop n))).total := rfl
    rw [abs_le] at hterm hrest ⊢
    rw [htotal, htotal]
    omega

end Worth

section Counts

variable {extreme : Extreme} {m n : Numeral 2}

theorem sum_kept_le_of_count_le (h : m.value ≤ n.value) (sorted : List Nat) :
    (kept (some ⟨extreme, m⟩) sorted).sum ≤ (kept (some ⟨extreme, n⟩) sorted).sum := by
  have hsub : (kept (some ⟨extreme, m⟩) sorted).Sublist (kept (some ⟨extreme, n⟩) sorted) := by
    cases extreme with
    | highest => exact List.drop_sublist_drop_left sorted (by dsimp only; omega)
    | lowest => exact List.take_sublist_take_left h
  exact hsub.sum_le_sum fun _ _ => Nat.zero_le _

theorem kept_of_length_le {sorted : List Nat} (h : sorted.length ≤ n.value) :
    kept (some ⟨extreme, n⟩) sorted = sorted := by
  cases extreme with
  | highest =>
    have hall : sorted.length - n.value = 0 := by omega
    simp only [kept, Keep.take, hall, List.drop_zero]
  | lowest => exact List.take_of_length_le h

end Counts

/-- When faces are raised, die by die in the order of the throws, what counts of them grows by no
more than the raise, or not at all, whatever is kept. So a term behind a plus contributes no less
and one behind a minus no more, and the total of a pass changes by no more than the raise. Of the
same faces a greater number to keep leaves no less, and all of them once it is their number. -/
theorem Dice.raised_faces :
    (∀ (d : Dice) (low high : List Nat), low.length = d.count.value →
      List.Forall₂ (· ≤ ·) low high →
        let gain : Int := pips (kept d.keep high.mergeSort) - pips (kept d.keep low.mergeSort)
        0 ≤ gain ∧ gain ≤ raise low high) ∧
    (∀ (σ τ : Type) [DieSource σ] [DieSource τ] (s : σ) (s' : τ) (t : Term) (x y : Score),
      (t.roll.run s).result = .ok x → (t.roll.run s').result = .ok y →
        let low := (t.roll.run s).journal.draws.map Draw.face
        let high := (t.roll.run s').journal.draws.map Draw.face
        List.Forall₂ (· ≤ ·) low high →
          (t.sign = .plus → x.contribution ≤ y.contribution) ∧
          (t.sign = .minus → y.contribution ≤ x.contribution)) ∧
    (∀ (σ τ : Type) [DieSource σ] [DieSource τ] (s : σ) (s' : τ) (ts : List Term) (p q : Pass),
      ((Pass.roll ts).run s).result = .ok p → ((Pass.roll ts).run s').result = .ok q →
        let low := ((Pass.roll ts).run s).journal.draws.map Draw.face
        let high := ((Pass.roll ts).run s').journal.draws.map Draw.face
        List.Forall₂ (· ≤ ·) low high → |q.total - p.total| ≤ raise low high) ∧
    ∀ (extreme : Extreme) (faces : List Nat) (n : Numeral 2),
      (∀ m : Numeral 2, m.value ≤ n.value →
        pips (kept (some ⟨extreme, m⟩) faces.mergeSort) ≤
          pips (kept (some ⟨extreme, n⟩) faces.mergeSort)) ∧
      (faces.length ≤ n.value → pips (kept (some ⟨extreme, n⟩) faces.mergeSort) = pips faces) := by
  refine ⟨fun d _ _ _ => pips_kept_of_raised d.keep, ?_, ?_, fun extreme faces n => ⟨?_, ?_⟩⟩
  · intro σ τ _ _ s s' t x y hx hy low high h
    obtain ⟨-, hlen, rfl⟩ := t.follows_roll.eq_of_result_eq_ok hx
    obtain ⟨-, -, rfl⟩ := t.follows_roll.eq_of_result_eq_ok hy
    obtain ⟨hplus, hminus, -⟩ := t.worth_of_raised hlen h
    exact ⟨hplus, hminus⟩
  · intro σ τ _ _ s s' ts p q hp hq low high h
    obtain ⟨-, hlen, rfl⟩ := (Pass.follows_roll ts).eq_of_result_eq_ok hp
    obtain ⟨-, -, rfl⟩ := (Pass.follows_roll ts).eq_of_result_eq_ok hq
    exact Pass.abs_total_sub_le ts hlen h
  · intro m hm
    exact sum_kept_le_of_count_le hm faces.mergeSort
  · intro hn
    rw [kept_of_length_le (by rw [List.length_mergeSort]; exact hn)]
    exact (List.mergeSort_perm faces _).sum_nat

theorem Dice.raised_faces_kept_dice :
    let two : Numeral 2 := ⟨2, by decide, by decide⟩
    let three : Numeral 2 := ⟨3, by decide, by decide⟩
    let d : Dice := ⟨three, ⟨6, by decide, by decide⟩, some ⟨.highest, two⟩⟩
    let t : Term := ⟨.minus, .dice d⟩
    let low : ScriptedFaces := ⟨[3, 1, 6]⟩
    let high : ScriptedFaces := ⟨[4, 5, 6]⟩
    List.Forall₂ (· ≤ ·) [3, 1, 6] [4, 5, 6] ∧ [3, 1, 6].length = d.count.value ∧
      (0 : Int) ≤ pips (kept d.keep [4, 5, 6].mergeSort) - pips (kept d.keep [3, 1, 6].mergeSort) ∧
      (pips (kept d.keep [4, 5, 6].mergeSort) : Int) -
        pips (kept d.keep [3, 1, 6].mergeSort) ≤ 5 ∧
      (∃ x y, (t.roll.run low).result = .ok x ∧ (t.roll.run high).result = .ok y ∧
        y.contribution ≤ x.contribution) ∧
      (∃ p q, ((Pass.roll [t]).run low).result = .ok p ∧
        ((Pass.roll [t]).run high).result = .ok q ∧ |q.total - p.total| ≤ 5) ∧
      two.value ≤ three.value ∧ [3, 1, 6].length ≤ three.value ∧
      pips (kept (some ⟨.lowest, two⟩) [3, 1, 6].mergeSort) ≤
        pips (kept (some ⟨.lowest, three⟩) [3, 1, 6].mergeSort) ∧
      pips (kept (some ⟨.lowest, three⟩) [3, 1, 6].mergeSort) = 10 := by
  intro two three d t low high
  obtain ⟨hkept, hterm, hpass, hcount⟩ := raised_faces
  have hraised : List.Forall₂ (· ≤ ·) [3, 1, 6] [4, 5, 6] := by decide
  obtain ⟨hgrows, hbound⟩ := hkept d [3, 1, 6] [4, 5, 6] rfl hraised
  obtain ⟨hmore, hall⟩ := hcount .lowest [3, 1, 6] three
  have hx : (t.roll.run low).result = .ok ⟨-9, some "3d6h2=1,3,6".toList⟩ := by cbv
  have hy : (t.roll.run high).result = .ok ⟨-11, some "3d6h2=4,5,6".toList⟩ := by cbv
  have hp : ((Pass.roll [t]).run low).result = .ok ⟨-9, ["3d6h2=1,3,6".toList]⟩ := by cbv
  have hq : ((Pass.roll [t]).run high).result = .ok ⟨-11, ["3d6h2=4,5,6".toList]⟩ := by cbv
  refine ⟨hraised, rfl, hgrows, hbound, ⟨_, _, hx, hy, ?_⟩, ⟨_, _, hp, hq, ?_⟩, by decide,
    by decide, hmore two (by decide), hall (by decide)⟩
  · exact (hterm ScriptedFaces ScriptedFaces low high t _ _ hx hy (by cbv; exact hraised)).2 rfl
  · exact hpass ScriptedFaces ScriptedFaces low high [t] _ _ hp hq (by cbv; exact hraised)

end DiceBot
