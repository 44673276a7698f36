import Mathlib.Algebra.Ring.Int.Defs
import Mathlib.Algebra.Ring.Nat
import DiceBot.Proofs.Dice.Throws
import DiceBot.Report

/-!
# What a roll reports

In each pass a formula asks for the dice of its terms, one term after another,
and in no other way. The faces that are shown are dealt out in this order. The
report is a function of the hands that are dealt: each dice term shows its own
faces sorted upwards, and counts the greatest or the least of them.
-/

namespace DiceBot

def Term.demand (t : Term) : List Nat :=
  match t.amount with
  | .flat _ => []
  | .dice d => List.replicate d.count.value d.sides.value

def Dice.counted (d : Dice) (faces : List Nat) : List Nat :=
  match d.keep with
  | none => faces
  | some k =>
    match k.extreme with
    | .highest => (faces.mergeSort fun a b => b ≤ a).take (min k.count.value d.count.value)
    | .lowest => (faces.mergeSort fun a b => a ≤ b).take (min k.count.value d.count.value)

namespace Term

def worth (t : Term) (faces : List Nat) : Int :=
  match t.amount with
  | .flat v => t.sign.value * v.value
  | .dice d => t.sign.value * (d.counted faces).sum

def shown (t : Term) (faces : List Nat) : Option Text :=
  match t.amount with
  | .flat _ => none
  | .dice d =>
    some (d.expression ++ '=' ::
      [','].intercalate ((faces.mergeSort fun a b => a ≤ b).map Decimal.ofNat))

end Term

def Pass.ofHand (hand : List (Term × List Nat)) : Pass where
  total := (hand.map fun h => h.1.worth h.2).sum
  traces := hand.filterMap fun h => h.1.shown h.2

namespace Formula

def demand (f : Formula) : List Nat :=
  (List.replicate f.repeats.value (f.terms.flatMap Term.demand)).flatten

def hands (f : Formula) (faces : List Nat) : List (List (Term × List Nat)) :=
  (deal (fun ts => ts.flatMap Term.demand) (List.replicate f.repeats.value f.terms) faces).map
    fun h => deal Term.demand h.1 h.2

def report (f : Formula) (faces : List Nat) : Report where
  formula := f.text
  passes := (f.hands faces).map Pass.ofHand

end Formula

theorem pairwise_mergeSort_le (faces : List Nat) : faces.mergeSort.Pairwise (· ≤ ·) := by
  have h : faces.mergeSort.Pairwise fun a b => decide (a ≤ b) = true :=
    List.pairwise_mergeSort (fun a b c => by simpa using Nat.le_trans)
      (fun a b => by simpa using Nat.le_total a b) faces
  simpa using h

theorem mergeSort_ge_eq_reverse (faces : List Nat) :
    (faces.mergeSort fun a b => b ≤ a) = faces.mergeSort.reverse := by
  have hdown : (faces.mergeSort fun a b => b ≤ a).Pairwise (· ≥ ·) := by
    have h : (faces.mergeSort fun a b => b ≤ a).Pairwise fun a b => decide (b ≤ a) = true :=
      List.pairwise_mergeSort (fun a b c => by simpa using fun hab hbc => Nat.le_trans hbc hab)
        (fun a b => by simpa using Nat.le_total b a) faces
    simpa using h
  have hup : faces.mergeSort.reverse.Pairwise (· ≥ ·) :=
    List.pairwise_reverse.2 (pairwise_mergeSort_le faces)
  have hperm : (faces.mergeSort fun a b => b ≤ a).Perm faces.mergeSort.reverse :=
    (List.mergeSort_perm _ _).trans
      ((List.mergeSort_perm _ _).symm.trans (List.reverse_perm _).symm)
  exact hperm.eq_of_pairwise (fun a b _ _ hab hba => Nat.le_antisymm hba hab) hdown hup

theorem Dice.pips_eq_sum (faces : List Nat) : pips faces = faces.sum := rfl

theorem Dice.pips_kept_mergeSort (d : Dice) {faces : List Nat}
    (hlen : faces.length = d.count.value) :
    pips (kept d.keep faces.mergeSort) = (d.counted faces).sum := by
  rw [pips_eq_sum, counted]
  cases d.keep with
  | none => exact (List.mergeSort_perm _ _).sum_nat
  | some k =>
    have hmin : ∀ xs : List Nat, xs.length = d.count.value →
        xs.take (min k.count.value d.count.value) = xs.take k.count.value := by
      intro xs hxs
      rw [← hxs, ← List.take_take, List.take_length]
    dsimp only [kept, Keep.take]
    cases k.extreme with
    | highest =>
      dsimp only
      rw [hmin _ (by rw [List.length_mergeSort, hlen]), mergeSort_ge_eq_reverse, List.take_reverse,
        List.sum_reverse]
    | lowest => exact congrArg List.sum (hmin _ (by rw [List.length_mergeSort, hlen])).symm

theorem mergeSort_eq_of_perm {faces faces' : List Nat} (h : faces.Perm faces') :
    faces.mergeSort = faces'.mergeSort :=
  (((List.mergeSort_perm _ _).trans h).trans (List.mergeSort_perm _ _).symm).eq_of_pairwise
    (fun _ _ _ _ => Nat.le_antisymm) (pairwise_mergeSort_le faces) (pairwise_mergeSort_le faces')

theorem Dice.sum_counted_eq_of_perm (d : Dice) {faces faces' : List Nat} (h : faces.Perm faces') :
    (d.counted faces).sum = (d.counted faces').sum := by
  rw [counted, counted]
  cases d.keep with
  | none => exact h.sum_nat
  | some k =>
    dsimp only
    rw [mergeSort_ge_eq_reverse, mergeSort_ge_eq_reverse, mergeSort_eq_of_perm h]

namespace Term

variable {t : Term} {faces faces' : List Nat}

theorem worth_eq_of_perm (h : faces.Perm faces') : t.worth faces = t.worth faces' := by
  rw [worth, worth]
  split
  · rfl
  · rw [Dice.sum_counted_eq_of_perm _ h]

theorem shown_eq_of_perm (h : faces.Perm faces') : t.shown faces = t.shown faces' := by
  rw [shown, shown]
  split
  · rfl
  · rw [mergeSort_eq_of_perm h]

end Term

theorem Formula.demand_eq_flatMap (f : Formula) : f.demand =
    (List.replicate f.repeats.value f.terms).flatMap fun ts => ts.flatMap Term.demand := by
  change f.demand = ((List.replicate f.repeats.value f.terms).map _).flatten
  rw [List.map_replicate, demand]

theorem Formula.pos_of_mem_demand {f : Formula} {n : Nat} (h : n ∈ f.demand) : 0 < n := by
  rw [demand_eq_flatMap] at h
  obtain ⟨ts, -, hts⟩ := List.mem_flatMap.1 h
  obtain ⟨t, -, ht⟩ := List.mem_flatMap.1 hts
  obtain ⟨s, a⟩ := t
  cases a with
  | flat v => cases ht
  | dice d =>
    rw [List.eq_of_mem_replicate ht]
    exact d.sides.pos

section Follows

variable {σ : Type} [DieSource σ]

theorem Term.follows_roll (t : Term) :
    Play.Follows (t.roll : Play σ Score) t.demand fun faces => ⟨t.worth faces, t.shown faces⟩ := by
  obtain ⟨s, a⟩ := t
  cases a with
  | flat v => exact Play.follows_pure _
  | dice d =>
    have hroll : (roll ⟨s, .dice d⟩ : Play σ Score) =
        d.score s <$> Play.throwDice d.count.value d.sides.value := bind_pure_comp _ _
    rw [hroll]
    refine (Play.follows_throwDice d.count.value d.sides.value).map.congr fun faces hlen => ?_
    have hcount : faces.length = d.count.value := by simpa [demand] using hlen
    simp only [id, Dice.score, d.pips_kept_mergeSort hcount]
    rfl

theorem Pass.ofScores_eq (scores : List Score) :
    Pass.ofScores scores = ⟨(scores.map Score.contribution).sum, scores.filterMap Score.trace⟩ := by
  rw [ofScores, List.sum, List.foldr_map]

theorem Pass.follows_roll (ts : List Term) :
    Play.Follows (Pass.roll ts : Play σ Pass) (ts.flatMap Term.demand) fun faces =>
      Pass.ofHand (deal Term.demand ts faces) := by
  have hroll : (Pass.roll ts : Play σ Pass) = Pass.ofScores <$> ts.mapM Term.roll :=
    bind_pure_comp _ _
  rw [hroll]
  refine (Play.Follows.mapM Term.follows_roll ts).map.congr fun faces _ => ?_
  rw [ofScores_eq, List.map_map, List.filterMap_map]
  rfl

theorem Formula.follows_roll (f : Formula) :
    Play.Follows (f.roll : Play σ Report) f.demand f.report := by
  have hroll : (f.roll : Play σ Report) =
      Report.mk f.text <$> (List.replicate f.repeats.value f.terms).mapM Pass.roll :=
    bind_pure_comp _ _
  rw [hroll, demand_eq_flatMap]
  refine (Play.Follows.mapM Pass.follows_roll _).map.congr fun faces _ => ?_
  rw [report, hands, List.map_map]
  rfl

end Follows

theorem Formula.hands_spec (f : Formula) {faces : List Nat}
    (hlen : faces.length = f.demand.length) :
    (f.hands faces).length = f.repeats.value ∧
      (∀ hand ∈ f.hands faces, hand.map Prod.fst = f.terms ∧
        ∀ h ∈ hand, h.2.length = h.1.demand.length) ∧
      (f.hands faces).flatten.flatMap Prod.snd = faces := by
  let asked : List Term → List Nat := fun ts => ts.flatMap Term.demand
  let passes := deal asked (List.replicate f.repeats.value f.terms) faces
  rw [demand_eq_flatMap] at hlen
  have hfst : passes.map Prod.fst = List.replicate f.repeats.value f.terms :=
    map_fst_deal asked _ faces
  have hsnd : ∀ h ∈ passes, h.2.length = (asked h.1).length := fun h hh =>
    length_snd_of_mem_deal hlen hh
  refine ⟨?_, ?_, ?_⟩
  · rw [hands, List.length_map, ← List.length_map Prod.fst, map_fst_deal, List.length_replicate]
  · intro hand hhand
    obtain ⟨h, hh, rfl⟩ := List.mem_map.1 hhand
    have hterms : h.1 = f.terms :=
      List.eq_of_mem_replicate (hfst ▸ List.mem_map_of_mem hh)
    refine ⟨by rw [map_fst_deal, hterms], fun x hx => ?_⟩
    exact length_snd_of_mem_deal (hsnd h hh) hx
  · calc (f.hands faces).flatten.flatMap Prod.snd
        = passes.flatMap fun h => (deal Term.demand h.1 h.2).flatMap Prod.snd :=
          List.flatMap_assoc ..
      _ = passes.flatMap Prod.snd := by
          rw [List.flatMap_def, List.flatMap_def]
          exact congrArg List.flatten
            (List.map_congr_left fun h hh => flatMap_snd_deal (hsnd h hh))
      _ = faces := flatMap_snd_deal hlen

/-- A roll throws the dice that the formula asks for, in order, and nothing else. When the source
shows them all, every term of every pass has its own faces, cut off the front one after another,
and the report is made of these hands. When it does not, the roll fails where the source does. -/
theorem Formula.run_roll {σ : Type} [DieSource σ] (f : Formula) (s : σ) :
    let faces := (DieSource.answer s f.demand).1
    let o := (f.roll : Play σ Report).run s
    o.journal = List.zipWith (fun n face => Event.drew ⟨n, face⟩) f.demand faces ∧
      (faces.length = f.demand.length ∧ o.result = .ok (f.report faces) ∧
          (f.hands faces).length = f.repeats.value ∧
          (∀ hand ∈ f.hands faces, hand.map Prod.fst = f.terms ∧
            ∀ h ∈ hand, h.2.length = h.1.demand.length) ∧
          (f.hands faces).flatten.flatMap Prod.snd = faces ∨
        faces.length < f.demand.length ∧ o.result = .error .noFaceLeft ∧
          ∃ n, f.demand[faces.length]? = some n ∧
            DieSource.FailsAfter s (f.demand.take faces.length) n o.source) := by
  intro faces o
  have ho : o = Play.followed f.demand f.report s := f.follows_roll s
  have hle : faces.length ≤ f.demand.length := DieSource.length_answer_le s f.demand
  refine ⟨by rw [ho]; rfl, ?_⟩
  rcases Nat.lt_or_eq_of_le hle with hlt | heq
  · refine Or.inr ⟨hlt, ?_, ?_⟩
    · rw [ho]
      exact if_neg (Nat.ne_of_lt hlt)
    · rw [ho]
      exact DieSource.failsAfter_of_length_lt hlt
  · refine Or.inl ⟨heq, ?_, f.hands_spec heq⟩
    rw [ho]
    exact if_pos heq

end DiceBot
