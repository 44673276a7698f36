import Mathlib
import DiceBot.Proofs.Dice.Extremes
import DiceBot.Proofs.Report.Replay

/-!
# What a pass can add up to

The faces of a term can make each number between its least and its greatest contribution, and no
other, and the terms of a formula are rolled independently of each other. So a pass can have each
total between two bounds, which add up those of the terms.
-/

namespace DiceBot

open DieSource (FaceOf)

def Dice.countedDice (d : Dice) : Nat :=
  match d.keep with
  | none => d.count.value
  | some k => min k.count.value d.count.value

namespace Term

def least (t : Term) : Int :=
  match t.amount, t.sign with
  | .flat v, s => s.value * v.value
  | .dice d, .plus => d.countedDice
  | .dice d, .minus => -(d.countedDice * d.sides.value)

def greatest (t : Term) : Int :=
  match t.amount, t.sign with
  | .flat v, s => s.value * v.value
  | .dice d, .plus => d.countedDice * d.sides.value
  | .dice d, .minus => -d.countedDice

end Term

namespace Formula

def least (f : Formula) : Int := (f.terms.map Term.least).sum

def greatest (f : Formula) : Int := (f.terms.map Term.greatest).sum

end Formula

section Counted

variable {faces : List Nat} {sides : Nat}

theorem sum_mem_of_faceOf (h : ∀ face ∈ faces, FaceOf face sides) :
    faces.length ≤ faces.sum ∧ faces.sum ≤ faces.length * sides := by
  have hlow := List.card_nsmul_le_sum faces 1 fun face hface => (h face hface).1
  have hhigh := List.sum_le_card_nsmul faces sides fun face hface => (h face hface).2
  rw [smul_eq_mul, Nat.mul_one] at hlow
  exact ⟨hlow, hhigh⟩

theorem exists_faces_sum_eq {n v : Nat} (hsides : 0 < sides) (hlow : n ≤ v)
    (hhigh : v ≤ n * sides) :
    ∃ faces : List Nat, faces.length = n ∧ (∀ face ∈ faces, FaceOf face sides) ∧ faces.sum = v := by
  induction n generalizing v with
  | zero => exact ⟨[], rfl, by simp, by simp at hhigh; exact hhigh.symm⟩
  | succ n ih =>
    rw [Nat.succ_mul] at hhigh
    have hones : n ≤ n * sides := Nat.le_mul_of_pos_right n hsides
    -- the first die shows as much as it can, as long as there is one left for each of the others
    obtain ⟨faces, hlen, hfaces, hsum⟩ := ih (v := v - min sides (v - n)) (by omega) (by omega)
    refine ⟨min sides (v - n) :: faces, by rw [List.length_cons, hlen], ?_, ?_⟩
    · intro face hface
      rcases List.mem_cons.1 hface with rfl | hface
      · exact ⟨by omega, Nat.min_le_left _ _⟩
      · exact hfaces face hface
    · rw [List.sum_cons, hsum]
      omega

variable {d : Dice}

theorem Dice.kept_subperm_of_length (h : faces.length = d.count.value) :
    (kept d.keep faces.mergeSort).Subperm faces ∧
      (kept d.keep faces.mergeSort).length = d.countedDice := by
  rw [countedDice]
  cases d.keep with
  | none => exact ⟨(List.mergeSort_perm faces _).subperm, (List.length_mergeSort _).trans h⟩
  | some k => exact ⟨kept_subperm k faces, h ▸ length_kept k faces⟩

theorem Dice.sum_counted_mem (hlen : faces.length = d.count.value)
    (h : ∀ face ∈ faces, FaceOf face d.sides.value) :
    d.countedDice ≤ (d.counted faces).sum ∧
      (d.counted faces).sum ≤ d.countedDice * d.sides.value := by
  obtain ⟨hsub, hlength⟩ := kept_subperm_of_length hlen
  rw [← d.pips_kept_mergeSort hlen, pips_eq_sum, ← hlength]
  exact sum_mem_of_faceOf fun face hface => h face (hsub.subset hface)

/-- The picked faces and as many others, all the same, as there are dice left. -/
def Dice.filled (d : Dice) (picked : List Nat) (face : Nat) : List Nat :=
  picked ++ List.replicate (d.count.value - d.countedDice) face

theorem Dice.countedDice_le_count (d : Dice) : d.countedDice ≤ d.count.value := by
  rw [countedDice]
  cases d.keep with
  | none => exact Nat.le_refl _
  | some k => exact Nat.min_le_right _ _

theorem Dice.length_filled {picked : List Nat} (h : picked.length = d.countedDice) (face : Nat) :
    (d.filled picked face).length = d.count.value := by
  have hle := d.countedDice_le_count
  rw [filled, List.length_append, List.length_replicate, h]
  omega

theorem Dice.faceOf_filled {picked : List Nat} {face : Nat} (hface : FaceOf face d.sides.value)
    (h : ∀ face ∈ picked, FaceOf face d.sides.value) :
    ∀ x ∈ d.filled picked face, FaceOf x d.sides.value := by
  intro x hx
  rcases List.mem_append.1 hx with hx | hx
  · exact h x hx
  · rw [List.eq_of_mem_replicate hx]
    exact hface

theorem Dice.exists_others_filled {picked : List Nat} {face : Nat}
    (hlen : picked.length = d.countedDice) (hface : FaceOf face d.sides.value)
    (hpicked : ∀ face ∈ picked, FaceOf face d.sides.value) :
    ∃ others : List Nat, others.length = d.count.value - d.countedDice ∧
      (∀ x ∈ others, FaceOf x d.sides.value) ∧
      (d.counted (d.filled picked face)).sum + others.sum =
        picked.sum + (d.count.value - d.countedDice) * face := by
  have hlength := length_filled hlen face
  obtain ⟨hsub, hkept⟩ := kept_subperm_of_length hlength
  obtain ⟨others, hperm, hothers, hsum⟩ := exists_others_of_subperm hsub
  refine ⟨others, by rw [hothers, hkept, hlength], fun x hx => ?_, ?_⟩
  · exact faceOf_filled hface hpicked x (hperm.mem_iff.2 (List.mem_append_right _ hx))
  · rw [← d.pips_kept_mergeSort hlength, pips_eq_sum, hsum]
    simp [filled]

theorem Dice.exists_faces_counted (d : Dice) {picked : List Nat}
    (hlen : picked.length = d.countedDice) (hpicked : ∀ face ∈ picked, FaceOf face d.sides.value) :
    ∃ faces : List Nat, faces.length = d.count.value ∧
      (∀ face ∈ faces, FaceOf face d.sides.value) ∧ (d.counted faces).sum = picked.sum := by
  cases hkeep : d.keep with
  | none =>
    refine ⟨picked, ?_, hpicked, by rw [counted, hkeep]⟩
    rw [hlen, countedDice, hkeep]
  | some k =>
    have hsub (face : Nat) : picked.Subperm (d.filled picked face) :=
      (List.sublist_append_left _ _).subperm
    have hcount (face : Nat) :
        picked.length = min k.count.value (d.filled picked face).length := by
      rw [length_filled hlen, hlen, countedDice, hkeep]
    have hcounted (face : Nat) : (kept (some k) (d.filled picked face).mergeSort).sum =
        (d.counted (d.filled picked face)).sum := by
      rw [← hkeep, ← d.pips_kept_mergeSort (length_filled hlen face), pips_eq_sum]
    cases hk : k.extreme with
    | highest =>
      have hface : FaceOf 1 d.sides.value := ⟨Nat.le_refl _, d.sides.pos⟩
      obtain ⟨others, hothers, hfaces, hsum⟩ := exists_others_filled hlen hface hpicked
      have hmost := sum_le_sum_kept_of_highest hk (hsub 1) (hcount 1)
      have hleast := (sum_mem_of_faceOf hfaces).1
      rw [hcounted] at hmost
      exact ⟨_, length_filled hlen 1, faceOf_filled hface hpicked, by omega⟩
    | lowest =>
      have hface : FaceOf d.sides.value d.sides.value := ⟨d.sides.pos, Nat.le_refl _⟩
      obtain ⟨others, hothers, hfaces, hsum⟩ := exists_others_filled hlen hface hpicked
      have hleast := sum_kept_le_sum_of_lowest hk (hsub d.sides.value) (hcount _)
      have hmost := (sum_mem_of_faceOf hfaces).2
      rw [hcounted] at hleast
      rw [hothers] at hmost
      exact ⟨_, length_filled hlen _, faceOf_filled hface hpicked, by omega⟩

theorem Dice.exists_sum_counted_eq_iff (d : Dice) {v : Nat} :
    (∃ faces, List.Forall₂ FaceOf faces (List.replicate d.count.value d.sides.value) ∧
        (d.counted faces).sum = v) ↔
      d.countedDice ≤ v ∧ v ≤ d.countedDice * d.sides.value := by
  constructor
  · intro h
    obtain ⟨faces, hfaces, rfl⟩ := h
    obtain ⟨hlen, hfaces⟩ := forall₂_replicate_iff.1 hfaces
    exact sum_counted_mem hlen hfaces
  · intro h
    obtain ⟨picked, hlen, hpicked, hsum⟩ := exists_faces_sum_eq d.sides.pos h.1 h.2
    obtain ⟨faces, hlength, hfaces, hcounted⟩ := d.exists_faces_counted hlen hpicked
    exact ⟨faces, forall₂_replicate_iff.2 ⟨hlength, hfaces⟩, hcounted.trans hsum⟩

end Counted

theorem Term.exists_worth_eq_iff (t : Term) {v : Int} :
    (∃ faces, List.Forall₂ FaceOf faces t.demand ∧ t.worth faces = v) ↔
      t.least ≤ v ∧ v ≤ t.greatest := by
  obtain ⟨s, a⟩ := t
  cases a with
  | flat n =>
    constructor
    · intro h
      obtain ⟨-, -, rfl⟩ := h
      exact ⟨Int.le_refl _, Int.le_refl _⟩
    · intro h
      exact ⟨[], .nil, Int.le_antisymm h.1 h.2⟩
  | dice d =>
    constructor
    · intro h
      obtain ⟨faces, hfaces, rfl⟩ := h
      obtain ⟨hlow, hhigh⟩ := d.exists_sum_counted_eq_iff.1 ⟨faces, hfaces, rfl⟩
      cases s <;> simp only [least, greatest, worth, Sign.value] <;> omega
    · intro h
      obtain ⟨n, hn, hlow, hhigh⟩ : ∃ n : Nat, s.value * (n : Int) = v ∧
          d.countedDice ≤ n ∧ n ≤ d.countedDice * d.sides.value := by
        cases s <;> simp only [least, greatest] at h
        · exact ⟨v.toNat, by simp only [Sign.value]; omega, by omega, by omega⟩
        · exact ⟨(-v).toNat, by simp only [Sign.value]; omega, by omega, by omega⟩
      obtain ⟨faces, hfaces, hsum⟩ := d.exists_sum_counted_eq_iff.2 ⟨hlow, hhigh⟩
      refine ⟨faces, hfaces, ?_⟩
      rw [← hn, ← hsum]
      rfl

structure IsHand (ts : List Term) (hand : List (Term × List Nat)) : Prop where
  terms : hand.map Prod.fst = ts
  faces : ∀ h ∈ hand, List.Forall₂ FaceOf h.2 h.1.demand

theorem Term.least_le_greatest (t : Term) : t.least ≤ t.greatest := by
  obtain ⟨s, a⟩ := t
  cases a with
  | flat n => exact Int.le_refl _
  | dice d =>
    have hone : d.countedDice ≤ d.countedDice * d.sides.value :=
      Nat.le_mul_of_pos_right _ d.sides.pos
    cases s <;> simp only [least, greatest] <;> omega

theorem Pass.exists_total_eq_iff (ts : List Term) {v : Int} :
    (∃ hand, IsHand ts hand ∧ (ofHand hand).total = v) ↔
      (ts.map Term.least).sum ≤ v ∧ v ≤ (ts.map Term.greatest).sum := by
  induction ts generalizing v with
  | nil =>
    constructor
    · intro h
      obtain ⟨hand, ⟨hterms, -⟩, rfl⟩ := h
      obtain rfl := List.map_eq_nil_iff.1 hterms
      exact ⟨Int.le_refl _, Int.le_refl _⟩
    · intro h
      exact ⟨[], ⟨rfl, by simp⟩, Int.le_antisymm h.1 h.2⟩
  | cons t ts ih =>
    rw [List.map_cons, List.map_cons, List.sum_cons, List.sum_cons]
    constructor
    · intro h
      obtain ⟨hand, ⟨hterms, hfaces⟩, rfl⟩ := h
      obtain ⟨x, hand, rfl, rfl, hrest⟩ := List.map_eq_cons_iff.1 hterms
      obtain ⟨hx, hhand⟩ := List.forall_mem_cons.1 hfaces
      have hterm := x.1.exists_worth_eq_iff.1 ⟨x.2, hx, rfl⟩
      have hsum := ih.1 ⟨hand, ⟨hrest, hhand⟩, rfl⟩
      change _ ≤ x.1.worth x.2 + (ofHand hand).total ∧ x.1.worth x.2 + (ofHand hand).total ≤ _
      omega
    · intro h
      have hterm := t.least_le_greatest
      have hrest : (ts.map Term.least).sum ≤ (ts.map Term.greatest).sum :=
        List.sum_le_sum fun u _ => u.least_le_greatest
      -- the first term makes the least it can, or what the others at their most leave to it
      let first := max t.least (v - (ts.map Term.greatest).sum)
      obtain ⟨faces, hfaces, hworth⟩ :=
        t.exists_worth_eq_iff.2 (show t.least ≤ first ∧ first ≤ t.greatest by omega)
      have hothers : (ts.map Term.least).sum ≤ v - first ∧
          v - first ≤ (ts.map Term.greatest).sum := by omega
      obtain ⟨hand, ⟨hterms, hhand⟩, htotal⟩ := ih.2 hothers
      refine ⟨(t, faces) :: hand, ⟨congrArg (t :: ·) hterms,
        List.forall_mem_cons.2 ⟨hfaces, hhand⟩⟩, ?_⟩
      change t.worth faces + (ofHand hand).total = v
      omega

section Rolls

variable {f : Formula} {faces : List Nat}

theorem IsHand.forall₂_faceOf {ts : List Term} {hand : List (Term × List Nat)}
    (h : IsHand ts hand) :
    List.Forall₂ FaceOf (hand.flatMap Prod.snd) (ts.flatMap Term.demand) := by
  rw [← h.terms, List.flatMap_map]
  exact forall₂_flatMap h.faces

theorem isHand_deal {ts : List Term} (h : List.Forall₂ FaceOf faces (ts.flatMap Term.demand)) :
    IsHand ts (deal Term.demand ts faces) :=
  ⟨map_fst_deal _ _ _, fun _ hx => forall₂_snd_of_mem_deal h hx⟩

theorem Pass.run_roll_scripted {ts : List Term}
    (h : List.Forall₂ FaceOf faces (ts.flatMap Term.demand)) :
    ((Pass.roll ts : Play ScriptedFaces Pass).run ⟨faces.map Int.ofNat⟩).result =
      .ok (ofHand (deal Term.demand ts faces)) := by
  rw [Pass.follows_roll ts, Play.followed, DieSource.answer_scripted h, if_pos h.length_eq]

theorem Pass.exists_scripted_total_iff (ts : List Term) {v : Int} :
    (∃ faces, List.Forall₂ FaceOf faces (ts.flatMap Term.demand) ∧
      ∃ p, ((Pass.roll ts : Play ScriptedFaces Pass).run ⟨faces.map Int.ofNat⟩).result = .ok p ∧
        p.total = v) ↔ (ts.map Term.least).sum ≤ v ∧ v ≤ (ts.map Term.greatest).sum := by
  rw [← Pass.exists_total_eq_iff]
  constructor
  · intro h
    obtain ⟨faces, hfaces, p, hp, rfl⟩ := h
    rw [run_roll_scripted hfaces] at hp
    cases hp
    exact ⟨_, isHand_deal hfaces, rfl⟩
  · intro h
    obtain ⟨hand, hhand, htotal⟩ := h
    have hdeal : deal Term.demand ts (hand.flatMap Prod.snd) = hand := by
      rw [← hhand.terms]
      exact deal_flatMap_snd fun h hh => (hhand.faces h hh).length_eq
    refine ⟨_, hhand.forall₂_faceOf, _, run_roll_scripted hhand.forall₂_faceOf, ?_⟩
    rw [hdeal, htotal]

theorem Formula.isHand_of_mem_hands (h : List.Forall₂ FaceOf faces f.demand)
    {hand : List (Term × List Nat)} (hhand : hand ∈ f.hands faces) : IsHand f.terms hand := by
  obtain ⟨-, hhands, -⟩ := f.hands_spec h.length_eq
  exact ⟨(hhands hand hhand).1, fun _ hx => forall₂_faceOf_of_mem_hands h hhand hx⟩

theorem exists_hands_of_totals {ts : List Term} {totals : List Int}
    (h : ∀ v ∈ totals, (ts.map Term.least).sum ≤ v ∧ v ≤ (ts.map Term.greatest).sum) :
    ∃ hands : List (List (Term × List Nat)), (∀ hand ∈ hands, IsHand ts hand) ∧
      hands.map (fun hand => (Pass.ofHand hand).total) = totals := by
  induction totals with
  | nil => exact ⟨[], by simp, rfl⟩
  | cons v totals ih =>
    obtain ⟨hv, hrest⟩ := List.forall_mem_cons.1 h
    obtain ⟨hand, hhand, htotal⟩ := (Pass.exists_total_eq_iff ts).2 hv
    obtain ⟨hands, hhands, htotals⟩ := ih hrest
    exact ⟨hand :: hands, List.forall_mem_cons.2 ⟨hhand, hhands⟩, by
      rw [List.map_cons, htotal, htotals]⟩

theorem Formula.exists_faces_of_totals (f : Formula) {totals : List Int}
    (hlen : totals.length = f.repeats.value)
    (h : ∀ v ∈ totals, f.least ≤ v ∧ v ≤ f.greatest) :
    ∃ faces, List.Forall₂ FaceOf faces f.demand ∧ (f.report faces).totals = totals := by
  obtain ⟨hands, hhands, rfl⟩ := exists_hands_of_totals h
  have hterms : hands.map (List.map Prod.fst) = List.replicate f.repeats.value f.terms := by
    refine List.eq_replicate_iff.2 ⟨?_, fun ts hts => ?_⟩
    · rw [List.length_map, ← hlen, List.length_map]
    · obtain ⟨hand, hhand, rfl⟩ := List.mem_map.1 hts
      exact (hhands hand hhand).terms
  refine ⟨hands.flatMap fun hand => hand.flatMap Prod.snd, ?_, ?_⟩
  · rw [demand_eq_flatMap, ← hterms, List.flatMap_map]
    refine forall₂_flatMap fun hand hhand => ?_
    have hfaces := (hhands hand hhand).forall₂_faceOf
    rwa [(hhands hand hhand).terms]
  · have hdealt := hands_flatMap_snd hterms fun hand hhand h hh =>
      ((hhands hand hhand).faces h hh).length_eq
    rw [Report.totals, report, hdealt, List.map_map]
    rfl

/-- The totals that the faces of its dice can give a pass are all the numbers between two bounds. A
flat number counts for both bounds as it is, and dice count, as many as a keep leaves, with one for
each or all sides of each, the other way round behind a minus. No pass of a report exceeds the
bounds, and the passes of a report can have any totals between them, whatever the others have. -/
theorem Formula.totals_between (f : Formula) :
    {v | ∃ faces, List.Forall₂ FaceOf faces (f.terms.flatMap Term.demand) ∧
      ∃ p, ((Pass.roll f.terms : Play ScriptedFaces Pass).run ⟨faces.map Int.ofNat⟩).result =
        .ok p ∧ p.total = v} = Set.Icc f.least f.greatest ∧
    (∀ (σ : Type) [DieSource σ] [LawfulDieSource σ] (s : σ) (r : Report),
      (f.roll.run s).result = .ok r → ∀ v ∈ r.totals, v ∈ Set.Icc f.least f.greatest) ∧
    ∀ totals : List Int, totals.length = f.repeats.value →
      (∀ v ∈ totals, v ∈ Set.Icc f.least f.greatest) →
      ∃ faces, List.Forall₂ FaceOf faces f.demand ∧
        ∃ r, (f.roll.run (⟨faces.map Int.ofNat⟩ : ScriptedFaces)).result = .ok r ∧
          r.totals = totals := by
  refine ⟨Set.ext fun v => Pass.exists_scripted_total_iff f.terms, ?_, ?_⟩
  · intro σ _ _ s r hr v hv
    obtain ⟨hfaces, hlen, rfl⟩ := f.follows_roll.eq_of_result_eq_ok hr
    rw [hfaces] at hlen hv
    have hfaceOf : List.Forall₂ FaceOf (DieSource.answer s f.demand).1 f.demand :=
      DieSource.forall₂_faceOf_answer (fun _ => f.pos_of_mem_demand) hlen
    rw [Report.totals, report, List.map_map] at hv
    obtain ⟨hand, hhand, rfl⟩ := List.mem_map.1 hv
    exact (Pass.exists_total_eq_iff f.terms).1 ⟨hand, isHand_of_mem_hands hfaceOf hhand, rfl⟩
  · intro totals hlen htotals
    obtain ⟨faces, hfaces, hreport⟩ := f.exists_faces_of_totals hlen htotals
    exact ⟨faces, hfaces, _, (run_roll_scripted hfaces).1, hreport⟩

theorem Formula.totals_between_kept_dice :
    let f : Formula := ⟨"2#3d6h2-1d4".toList, ⟨2, by decide, by decide⟩,
      [⟨.plus, .dice ⟨⟨3, by decide, by decide⟩, ⟨6, by decide, by decide⟩,
        some ⟨.highest, ⟨2, by decide, by decide⟩⟩⟩⟩,
        ⟨.minus, .dice ⟨⟨1, by decide, by decide⟩, ⟨4, by decide, by decide⟩, none⟩⟩], by decide⟩
    let faces : ScriptedFaces := ⟨[6, 1, 5, 3, 2, 2, 1, 4]⟩
    let r : Report := ⟨f.text, [⟨8, ["3d6h2=1,5,6".toList, "1d4=3".toList]⟩,
      ⟨0, ["3d6h2=1,2,2".toList, "1d4=4".toList]⟩]⟩
    f.least = -2 ∧ f.greatest = 11 ∧ (f.roll.run faces).result = .ok r ∧
      (0 : Int) ∈ r.totals ∧ (0 : Int) ∈ Set.Icc f.least f.greatest ∧
      [11, -2].length = f.repeats.value ∧ (∀ v ∈ [11, -2], v ∈ Set.Icc f.least f.greatest) ∧
      ∃ faces, List.Forall₂ FaceOf faces f.demand ∧
        ∃ r, (f.roll.run (⟨faces.map Int.ofNat⟩ : ScriptedFaces)).result = .ok r ∧
          r.totals = [11, -2] := by
  intro f faces r
  have hleast : f.least = -2 := by decide
  have hgreatest : f.greatest = 11 := by decide
  have hr : (f.roll.run faces).result = .ok r := by cbv
  have hmem : (0 : Int) ∈ r.totals := by decide
  have hextremes : ∀ v ∈ [11, -2], v ∈ Set.Icc f.least f.greatest := by
    rw [hleast, hgreatest]
    decide
  obtain ⟨-, hrun, hany⟩ := f.totals_between
  exact ⟨hleast, hgreatest, hr, hmem, hrun ScriptedFaces faces r hr 0 hmem, rfl, hextremes,
    hany [11, -2] rfl hextremes⟩

end Rolls

end DiceBot
