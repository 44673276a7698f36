import DiceBot.Proofs.Http.Contents
import DiceBot.Proofs.Http.Interrupted

/-!
# How many dice a text asks for

A term brings at most 99 dice, for which it needs five characters with its sign, and a formula is
rolled at most 99 times. So the length of a formula bounds the draws of its roll. Formulas that
repeat 99 dice as often as they can be written reach the bound.
-/

namespace DiceBot

open Play

def Formula.HasDice (f : Formula) : Prop := ∃ t ∈ f.terms, ∃ d, t.amount = .dice d

namespace Term

theorem length_spelled_dice {t : Term} {d : Dice} (h : t.amount = .dice d) :
    0 < d.count.text.length ∧ d.count.text.length + 3 ≤ t.spelled.length := by
  have hcount : 0 < d.count.text.length := List.length_pos_iff.2 d.count.text_ne_nil
  have hsides : 0 < d.sides.text.length := List.length_pos_iff.2 d.sides.text_ne_nil
  rw [spelled, expression, h, Amount.expression, d.expression_eq]
  simp only [List.length_cons, List.length_append]
  omega

theorem five_mul_diceCount_le (t : Term) : 5 * t.diceCount ≤ 99 * t.spelled.length := by
  cases h : t.amount with
  | flat v =>
    have hnone : t.diceCount = 0 := by rw [diceCount, h]
    omega
  | dice d =>
    obtain ⟨hpos, hlength⟩ := length_spelled_dice h
    have hall : t.diceCount = d.count.value := by rw [diceCount, h]
    by_cases hone : d.count.text.length ≤ 1
    · have hlt : d.count.value < 10 := (Decimal.length_ofNat_le_iff (by decide)).1 hone
      omega
    · have hlt : d.count.value < 100 := d.count.lt
      omega

theorem five_mul_sum_diceCount_le (ts : List Term) :
    5 * (ts.map diceCount).sum ≤ 99 * (ts.flatMap spelled).length := by
  induction ts with
  | nil => exact Nat.le_refl _
  | cons t ts ih =>
    have ht := t.five_mul_diceCount_le
    rw [List.map_cons, List.sum_cons, List.flatMap_cons, List.length_append]
    omega

theorem length_spelled_le_of_mem {t : Term} {ts : List Term} (h : t ∈ ts) :
    t.spelled.length ≤ (ts.flatMap spelled).length :=
  (List.sublist_flatten_of_mem (List.mem_map_of_mem h)).length_le

end Term

theorem SpellsSum.length_le {ts : List Term} {c : Text} (h : SpellsSum ts c) :
    (ts.flatMap Term.spelled).length ≤ c.length + 1 := by
  cases h with
  | signed => exact Nat.le_succ _
  | unsigned a ts =>
    rw [List.flatMap_cons, Term.spelled, List.length_append, List.length_append, List.length_cons]
    exact Nat.le_of_eq (Nat.succ_add ..)

theorem Spells.five_mul_draws_le {n : Numeral 2} {ts : List Term} {t : Text} (h : Spells n ts t)
    (hdice : ∃ u ∈ ts, ∃ d, u.amount = .dice d) :
    2 < t.length ∧ 5 * (n.value * (ts.map Term.diceCount).sum) ≤ 9801 * (t.length - 2) := by
  obtain ⟨u, hu, d, hd⟩ := hdice
  obtain ⟨hcount, hspelled⟩ := Term.length_spelled_dice hd
  have hterm := Term.length_spelled_le_of_mem hu
  have hsum := Term.five_mul_sum_diceCount_le ts
  generalize (ts.map Term.diceCount).sum = total at hsum ⊢
  cases h with
  | uncounted hc =>
    have hlength := hc.length_le
    have honce : Intake.once.value * total = total := Nat.one_mul total
    omega
  | @counted _ c n hc =>
    have hlength := hc.length_le
    rw [List.length_append, List.length_cons]
    by_cases hone : n.text.length ≤ 1
    · -- the sign that the first term can do without is made up for by the repeats that are missing
      have hrepeats : n.value ≤ 9 :=
        Nat.le_of_lt_succ ((Decimal.length_ofNat_le_iff (by decide)).1 hone)
      have hproduct := Nat.mul_le_mul_right total hrepeats
      have hpos : 0 < n.text.length := List.length_pos_iff.2 n.text_ne_nil
      omega
    · have hproduct : n.value * total ≤ 99 * total := Nat.mul_le_mul_right total n.value_le_bound
      omega

section Crowded

def Dice.crowd : Dice := ⟨⟨99, by decide, by decide⟩, ⟨1, Nat.one_pos, by decide⟩, none⟩

def Dice.crowdText : Text := ['9', '9', 'd', '1']

def Formula.crowdedText (more : Nat) : Text :=
  ['9', '9'] ++ '#' :: (Dice.crowdText ++ (List.replicate more ('+' :: Dice.crowdText)).flatten)

/-- A crowd and as many more crowds as given, rolled 99 times. -/
def Formula.crowded (more : Nat) : Formula where
  text := crowdedText more
  repeats := ⟨99, by decide, by decide⟩
  terms := ⟨.plus, .dice .crowd⟩ :: List.replicate more ⟨.plus, .dice .crowd⟩
  terms_ne_nil := List.cons_ne_nil _ _

theorem Dice.expression_crowd : crowd.expression = crowdText := by decide

namespace Formula

theorem hasDice_crowded (more : Nat) : (crowded more).HasDice :=
  ⟨_, List.mem_cons_self, .crowd, rfl⟩

theorem length_crowdedText (more : Nat) : (crowdedText more).length = 5 * more + 7 := by
  simp only [crowdedText, Dice.crowdText, List.length_append, List.length_cons, List.length_nil,
    List.length_flatten, List.map_replicate, List.sum_replicate_nat]
  omega

theorem length_demand_crowded (more : Nat) :
    (crowded more).demand.length = 9801 * (more + 1) := by
  have hcount : Term.diceCount ⟨.plus, .dice .crowd⟩ = 99 := rfl
  simp only [length_demand, crowded, List.map_cons, List.sum_cons, List.map_replicate,
    List.sum_replicate_nat, hcount]
  omega

theorem spells_crowdedText (more : Nat) :
    Spells (crowded more).repeats (crowded more).terms (crowdedText more) := by
  have hrepeats : (crowded more).repeats.text = ['9', '9'] := by
    change Decimal.ofNat 99 = _
    decide
  have hspelled : Term.spelled ⟨.plus, .dice .crowd⟩ = '+' :: Dice.crowdText :=
    congrArg ('+' :: ·) Dice.expression_crowd
  have htail : (List.replicate more (⟨.plus, .dice .crowd⟩ : Term)).flatMap Term.spelled =
      (List.replicate more ('+' :: Dice.crowdText)).flatten := by
    rw [List.flatMap_def, List.map_replicate, hspelled]
  rw [crowdedText, ← hrepeats, ← htail, ← Dice.expression_crowd]
  exact .counted _ (.unsigned (.dice .crowd) _)

theorem parse_crowdedText (more : Nat) : parse (crowdedText more) = .ok (crowded more) :=
  parse_eq_ok_iff.2 ⟨(spells_crowdedText more).squeezed.symm, spells_crowdedText more⟩

end Formula
end Crowded

theorem Formula.length_demand_eq_zero {f : Formula} (h : ¬ f.HasDice) : f.demand.length = 0 := by
  rw [f.length_demand, Nat.mul_eq_zero]
  refine Or.inr (List.sum_eq_zero fun n hn => ?_)
  obtain ⟨t, ht, rfl⟩ := List.mem_map.1 hn
  cases hd : t.amount with
  | flat v => rw [Term.diceCount, hd]
  | dice d => exact absurd ⟨t, ht, d, hd⟩ h

theorem Formula.five_mul_length_demand_le {raw : Text} {f : Formula} (hf : parse raw = .ok f)
    (hdice : f.HasDice) :
    2 < (Text.squeezed raw).length ∧
      5 * f.demand.length ≤ 9801 * ((Text.squeezed raw).length - 2) := by
  obtain ⟨htext, hspells⟩ := parse_eq_ok_iff.1 hf
  rw [f.length_demand, ← htext]
  exact hspells.five_mul_draws_le hdice

section Draws

variable {σ : Type} [DieSource σ]

theorem Play.Asks.length_draws_le {α : Type} {p : Play σ α} {asked : List Nat} (hp : Asks p asked)
    (s : σ) : (p.run s).journal.draws.length ≤ asked.length := by
  rw [(hp s).1, List.length_zipWith]
  exact Nat.min_le_left _ _

theorem Play.Asks.length_draws_of_result_eq_ok {α : Type} {p : Play σ α} {asked : List Nat}
    (hp : Asks p asked) {s : σ} {a : α} (h : (p.run s).result = .ok a) :
    (p.run s).journal.draws.length = asked.length := by
  rw [← hp.sides_of_result_eq_ok h, List.length_map]

theorem CongruentialGenerator.not_fails (g : CongruentialGenerator) (dice : List Nat) :
    ¬ DieSource.Fails g dice := by
  rw [DieSource.not_fails_iff]
  induction dice generalizing g with
  | nil => rfl
  | cons sides dice ih => exact congrArg (· + 1) (ih _)

theorem Responder.asks_roll {raw : Text} {f : Formula} (hf : Formula.parse raw = .ok f) :
    Asks (roll raw : Play σ (Except Rejection Report)) f.demand := by
  have hasks := (throwsFirst_roll (σ := σ) raw).asks
  rwa [hf] at hasks

theorem Responder.parse_eq_ok_of_rolled? {r : Responder} {raw : Text} {f : Formula}
    (h : r.rolled? raw = some f) : Formula.parse raw = .ok f := by
  rw [rolled?] at h
  split at h
  · cases h
  · cases hparse : Formula.parse raw with
    | error e =>
      rw [hparse] at h
      cases h
    | ok f' =>
      rw [hparse] at h
      exact congrArg Except.ok (Option.some.inj h)

theorem Request.five_mul_length_dice_le {r : Request}
    (hroute : Route.find? r.method r.path = some .roll) (st : Session) :
    5 * (HttpStep.dice st (.request r)).length ≤ 9801 * 498 := by
  cases hformula : r.formula? with
  | none =>
    have hturn : r.turn? = none := by rw [turn?, hroute, hformula]; rfl
    rw [HttpStep.dice, HttpStep.turn?, hturn]
    exact Nat.zero_le _
  | some raw =>
    rw [HttpStep.dice, HttpStep.turn?, turn?_of_roll hroute hformula, Option.map_some,
      Option.getD_some, Session.diceOf]
    cases st.supply with
    | error e => exact Nat.zero_le _
    | ok b =>
      change 5 * (Formula.demand? (b.responder.rolled? raw)).length ≤ _
      cases hrolled : b.responder.rolled? raw with
      | none => exact Nat.zero_le _
      | some f =>
        have hf := Responder.parse_eq_ok_of_rolled? hrolled
        have hlength : raw.length ≤ 500 := (formula?_eq_some_iff.1 hformula).2
        have hsqueezed : (Text.squeezed raw).length ≤ raw.length := List.length_filter_le ..
        change 5 * f.demand.length ≤ _
        by_cases hdice : f.HasDice
        · have hbound := (Formula.five_mul_length_demand_le hf hdice).2
          omega
        · have hnone := Formula.length_demand_eq_zero hdice
          omega

/-- The draws for a formula with dice are bounded by the number of its characters but for blanks,
and every length that is two more than a multiple of five has a formula that reaches the bound on
every source that does not fail it, such as a generator. So no request for a roll, whose formula has
at most 500 characters, makes more than 976179 draws. -/
theorem draws_bounded_by_length :
    (∀ raw f, Formula.parse raw = .ok f → f.HasDice → ∀ s : σ,
      let length := (Text.squeezed raw).length
      let o := (Responder.roll raw : Play σ (Except Rejection Report)).run s
      2 < length ∧ 5 * o.journal.draws.length ≤ 9801 * (length - 2)) ∧
    (∀ length, 7 ≤ length → length % 5 = 2 → ∃ raw f, Formula.parse raw = .ok f ∧ f.HasDice ∧
      (Text.squeezed raw).length = length ∧
      (∀ s : σ, let o := (Responder.roll raw : Play σ (Except Rejection Report)).run s
        (∃ r, o.result = .ok r) → 5 * o.journal.draws.length = 9801 * (length - 2)) ∧
      ∀ g : CongruentialGenerator, let o := (Responder.roll raw : Play _ _).run g
        (∃ r, o.result = .ok r) ∧ 5 * o.journal.draws.length = 9801 * (length - 2)) ∧
    ∀ (st : Session) (r : Request) (s : σ), Route.find? r.method r.path = some .roll →
      ((st.step (.request r)).2.run s).journal.draws.length ≤ 976179 := by
  refine ⟨fun raw f hf hdice s => ?_, fun length hseven hrest => ?_, fun st r s hroute => ?_⟩
  · intro length o
    obtain ⟨hlength, hbound⟩ := Formula.five_mul_length_demand_le hf hdice
    have hdraws : o.journal.draws.length ≤ _ := (Responder.asks_roll hf).length_draws_le s
    exact ⟨hlength, by omega⟩
  · obtain ⟨more, rfl⟩ : ∃ more, length = 5 * more + 7 := ⟨(length - 7) / 5, by omega⟩
    have hf := Formula.parse_crowdedText more
    have hlength : (Text.squeezed (Formula.crowdedText more)).length = 5 * more + 7 := by
      rw [(Formula.spells_crowdedText more).squeezed, Formula.length_crowdedText]
    have hreached : ∀ n, n = (Formula.crowded more).demand.length →
        5 * n = 9801 * (5 * more + 7 - 2) := by
      intro n hn
      rw [hn, Formula.length_demand_crowded]
      omega
    refine ⟨_, _, hf, Formula.hasDice_crowded more, hlength, fun s => ?_, fun g => ?_⟩
    · intro o hok
      obtain ⟨r, hr⟩ := hok
      exact hreached _ ((Responder.asks_roll hf).length_draws_of_result_eq_ok hr)
    · intro o
      obtain ⟨r, hr⟩ := ((Responder.asks_roll hf) g).2.2.2
        (DieSource.not_fails_iff.1 (g.not_fails _))
      exact ⟨⟨r, hr⟩, hreached _ ((Responder.asks_roll hf).length_draws_of_result_eq_ok hr)⟩
  · have hdice := r.five_mul_length_dice_le hroute st
    have hdraws := (st.throwsFirst_step (.request r)).asks.length_draws_le s
    omega

theorem draws_bounded_by_length_crowd :
    let raw := "99#99d1".toList
    let g : CongruentialGenerator := ⟨1⟩
    let request : Request := ⟨"POST".toList, "/roll".toList, [],
      some "\x7b\"formula\": \"99#99d1\"\x7d".toList, false⟩
    (∃ f, Formula.parse raw = .ok f ∧ f.HasDice) ∧
      5 * ((Responder.roll raw : Play _ (Except Rejection Report)).run g).journal.draws.length ≤
        9801 * (7 - 2) ∧
      (∃ raw', (Text.squeezed raw').length = 12 ∧ 5 * ((Responder.roll raw' :
        Play _ (Except Rejection Report)).run g).journal.draws.length = 9801 * (12 - 2)) ∧
      Route.find? request.method request.path = some .roll ∧
      ((Session.initial.step (.request request)).2.run g).journal.draws.length ≤ 976179 := by
  intro raw g request
  obtain ⟨hbound, hreached, hrequest⟩ := draws_bounded_by_length (σ := CongruentialGenerator)
  have hraw : raw = Formula.crowdedText 0 := by decide
  have hf : Formula.parse raw = .ok (Formula.crowded 0) := hraw ▸ Formula.parse_crowdedText 0
  have hdice := Formula.hasDice_crowded 0
  obtain ⟨raw', f', -, -, hlength, -, hdraws⟩ := hreached 12 (by decide) (by decide)
  have hroute : Route.find? request.method request.path = some .roll := by decide
  exact ⟨⟨_, hf, hdice⟩, (hbound raw _ hf hdice g).2, ⟨raw', hlength, (hdraws g).2⟩, hroute,
    hrequest .initial request g hroute⟩

end Draws
end DiceBot
