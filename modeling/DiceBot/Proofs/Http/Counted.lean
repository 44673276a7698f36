import DiceBot.Proofs.Http.Statuses
import DiceBot.Proofs.Http.Workload

/-!
# What is counted as a roll

Every formula that is rolled is reported and counted, the flat ones as well. Draws are made for
those alone that have the mark of a die in their text, so a roll can be counted for which nothing
was thrown.
-/

namespace DiceBot

open Play

section DieMark

theorem Numeral.die_notMem_text {digits : Nat} (n : Numeral digits) : 'd' ∉ n.text :=
  fun h => absurd (n.text_subset h) (by decide)

theorem Amount.die_mem_expression_iff {a : Amount} : 'd' ∈ a.expression ↔ ∃ d, a = .dice d := by
  cases a with
  | flat v => simp [expression, v.die_notMem_text]
  | dice d => simp [expression, d.expression_eq]

theorem Term.die_mem_spelled_iff {t : Term} : 'd' ∈ t.spelled ↔ ∃ d, t.amount = .dice d := by
  have hmark : 'd' ≠ t.sign.mark := by cases t.sign <;> decide
  rw [spelled, List.mem_cons, or_iff_right hmark]
  exact Amount.die_mem_expression_iff

theorem SpellsSum.die_mem_iff {ts : List Term} {c : Text} (h : SpellsSum ts c) :
    'd' ∈ c ↔ ∃ t ∈ ts, ∃ d, t.amount = .dice d := by
  cases h with
  | signed => simp only [List.mem_flatMap, Term.die_mem_spelled_iff]
  | unsigned a ts =>
    simp only [List.mem_append, List.mem_flatMap, Term.die_mem_spelled_iff,
      Amount.die_mem_expression_iff, List.exists_mem_cons_iff]

theorem Spells.die_mem_iff {n : Numeral 2} {ts : List Term} {t : Text} (h : Spells n ts t) :
    'd' ∈ t ↔ ∃ u ∈ ts, ∃ d, u.amount = .dice d := by
  cases h with
  | counted n hc =>
    rw [List.mem_append, or_iff_right n.die_notMem_text, List.mem_cons, or_iff_right (by decide),
      hc.die_mem_iff]
  | uncounted hc => exact hc.die_mem_iff

theorem Formula.hasDice_iff_die_mem {raw : Text} {f : Formula} (hf : parse raw = .ok f) :
    f.HasDice ↔ 'd' ∈ raw := by
  obtain ⟨htext, hspells⟩ := parse_eq_ok_iff.1 hf
  rw [HasDice, ← hspells.die_mem_iff, htext, Text.squeezed, List.mem_filter]
  exact and_iff_left (by decide)

theorem Formula.demand_ne_nil_iff {f : Formula} : f.demand ≠ [] ↔ f.HasDice := by
  constructor
  · intro h
    by_contra hnone
    exact h (List.length_eq_zero_iff.1 (length_demand_eq_zero hnone))
  · intro h
    obtain ⟨t, ht, d, hd⟩ := h
    have hcount : 0 < t.diceCount := by rw [Term.diceCount, hd]; exact d.count.pos
    have hsum : 0 < (f.terms.map Term.diceCount).sum :=
      List.sum_pos_iff_exists_pos_nat.2 ⟨_, List.mem_map_of_mem ht, hcount⟩
    rw [← List.length_pos_iff, f.length_demand]
    exact Nat.mul_pos f.repeats.pos hsum

end DieMark

section Counted

variable {σ : Type} [DieSource σ]

theorem Play.Asks.draws_ne_nil_iff {α : Type} {p : Play σ α} {asked : List Nat} (hp : Asks p asked)
    {s : σ} {a : α} (h : (p.run s).result = .ok a) :
    (p.run s).journal.draws ≠ [] ↔ asked ≠ [] := by
  rw [← List.length_pos_iff, ← List.length_pos_iff, hp.length_draws_of_result_eq_ok h]

namespace Responder

variable {service : Responder} {raw : Text} {s : σ} {a : Answer}

theorem isSome_report_iff (ha : ((service.answer raw).run s).result = .ok a) : a.report.isSome ↔
    Text.squeezed raw ≠ service.helpTrigger ∧ ∃ f, Formula.parse raw = .ok f := by
  rw [ne_eq, ← isHelp_iff]
  rcases service.isHelp_or_error_or_ok raw with hhelp | ⟨hhelp, e, he⟩ | ⟨hhelp, f, hf⟩
  · rw [run_answer_of_isHelp hhelp] at ha
    obtain rfl := Except.ok.inj ha
    simp [hhelp]
  · rw [run_answer_of_parse_eq_error hhelp he] at ha
    obtain rfl := Except.ok.inj ha
    simp [he]
  · rw [(run_answer_eq_reported hhelp hf).1] at ha
    cases hr : ((f.roll : Play σ Report).run s).result with
    | error e =>
      rw [hr] at ha
      cases ha
    | ok r =>
      rw [hr] at ha
      obtain rfl := Except.ok.inj ha
      simp [hhelp, hf, reported]

theorem draws_ne_nil_iff (ha : ((service.answer raw).run s).result = .ok a) :
    ((service.answer raw).run s).journal.draws ≠ [] ↔ a.report.isSome ∧ 'd' ∈ raw := by
  have hasks := (throwsFirst_answer (σ := σ) service raw).asks
  rw [hasks.draws_ne_nil_iff ha, isSome_report_iff ha, rolled?]
  by_cases hhelp : Text.squeezed raw = service.helpTrigger
  · simp [hhelp, Formula.demand?]
  · cases hf : Formula.parse raw with
    | error e => simp [hhelp, Formula.demand?, Except.toOption]
    | ok f =>
      have hdice := Formula.demand_ne_nil_iff.trans (Formula.hasDice_iff_die_mem hf)
      simpa [hhelp, Formula.demand?, Except.toOption] using hdice

end Responder

theorem Request.Served.exists_answer {r : Request} {b : Bot} {raw : Text} {s : σ}
    {o : Outcome σ HttpResult}
    (h : r.Served (.ask (.answer raw)) ((b.take (.ask (.answer raw))).run s) o)
    {result : HttpResult} (hresult : o.result = .ok result) :
    ∃ a, ((b.responder.answer raw).run s).result = .ok a ∧
      o.journal.draws = ((b.responder.answer raw).run s).journal.draws ∧
      o.journal.metrics = if a.report.isSome then [.rollsEvaluated] else [] := by
  obtain ⟨-, hdraws, hfailed, htold⟩ := h
  rw [Bot.take, run_map, Responder.ask, run_map] at hdraws hfailed htold
  cases ha : ((b.responder.answer raw).run s).result with
  | error e =>
    rw [ha] at hfailed
    cases hresult.symm.trans (hfailed e rfl).1
  | ok a =>
    rw [ha] at htold
    obtain ⟨response, -, htells⟩ := htold _ rfl
    refine ⟨a, rfl, hdraws, ?_⟩
    generalize o.journal.metrics = counted at htells ⊢
    cases htells with
    | rolled raw a report h => simp [h]
    | unrolled raw a h => simp [h]

namespace Session

variable {st : Session} {r : Request} {s : σ}

theorem exists_answer_of_formula (hroute : Route.find? r.method r.path = some .roll) {raw : Text}
    (hbrings : r.BringsFormula raw) {response : Response}
    (hresult : ((st.respond r).2.run s).result = .ok (.response response)) :
    let journal := ((st.respond r).2.run s).journal
    ∃ b a, st.supply = .ok b ∧ ((b.responder.answer raw).run s).result = .ok a ∧
      journal.draws = ((b.responder.answer raw).run s).journal.draws ∧
      journal.metrics = if a.report.isSome then [.rollsEvaluated] else [] := by
  intro journal
  have ht := Request.turn?_of_roll hroute (Request.formula?_eq_some_iff.2 hbrings)
  cases hb : st.supply with
  | error e =>
    rw [respond_of_supply_eq_error ht hb] at hresult
    cases hresult
  | ok b =>
    obtain ⟨a, hanswer⟩ := ((st.respond_of_supply_eq_ok ht hb).2 s).exists_answer hresult
    exact ⟨b, a, rfl, hanswer⟩

theorem exists_response_of_formula (hroute : Route.find? r.method r.path = some .roll) {raw : Text}
    (hbrings : r.BringsFormula raw) {b : Bot} (hb : st.supply = .ok b)
    (hfaces : ¬ DieSource.Fails s (Formula.demand? (b.responder.rolled? raw))) :
    ∃ response, ((st.respond r).2.run s).result = .ok (.response response) := by
  have ht := Request.turn?_of_roll hroute (Request.formula?_eq_some_iff.2 hbrings)
  have hdice : HttpStep.dice st (.request r) = Formula.demand? (b.responder.rolled? raw) := by
    rw [HttpStep.dice, HttpStep.turn?, ht, Option.map_some, Option.getD_some, diceOf, hb]
    rfl
  obtain ⟨response, hresult, -⟩ := exists_response hb (hdice ▸ hfaces)
  exact ⟨response, hresult⟩

theorem journal_of_no_formula (hroute : Route.find? r.method r.path = some .roll)
    (hnone : ∀ raw, ¬ r.BringsFormula raw) : ((st.respond r).2.run s).journal = [] := by
  have ht : r.turn? = none := by
    rw [Request.turn?, hroute, Request.formula?_eq_none_iff.2 hnone]
    rfl
  obtain ⟨plain, -, hrun⟩ := (st.respond_of_idle ht).2 s
  exact congrArg Outcome.journal hrun

/-- When a request for a roll has got its response, the answer to its text has a report, and the
roll is counted once, exactly if the text is a formula and does not ask for help. Dice were drawn
exactly if the text has the mark of a die besides. So reports and counts tell of draws unless the
formula is flat, and a request without a formula leaves nothing behind. -/
theorem counted_iff_reported (hroute : Route.find? r.method r.path = some .roll)
    {response : Response}
    (hresult : ((st.respond r).2.run s).result = .ok (.response response)) :
    let journal := ((st.respond r).2.run s).journal
    ((∀ raw, ¬ r.BringsFormula raw) → journal = []) ∧
      ∀ raw, r.BringsFormula raw → ∃ b a, st.supply = .ok b ∧
        ((b.responder.answer raw).run s).result = .ok a ∧
        journal.draws = ((b.responder.answer raw).run s).journal.draws ∧
        (a.report.isSome ↔ Text.squeezed raw ≠ b.responder.helpTrigger ∧
          ∃ f, Formula.parse raw = .ok f) ∧
        journal.metrics = (if a.report.isSome then [.rollsEvaluated] else []) ∧
        (journal.draws ≠ [] ↔ a.report.isSome ∧ 'd' ∈ raw) ∧
        ((a.report.isSome ∧ .rollsEvaluated ∈ journal.metrics ↔ journal.draws ≠ []) ↔
          (a.report.isSome → 'd' ∈ raw)) := by
  intro journal
  refine ⟨journal_of_no_formula hroute, fun raw hbrings => ?_⟩
  obtain ⟨b, a, hb, ha, hdraws, hmetrics⟩ := exists_answer_of_formula hroute hbrings hresult
  have hreport := Responder.isSome_report_iff ha
  have hdrawn : journal.draws ≠ [] ↔ a.report.isSome ∧ 'd' ∈ raw := by
    rw [← Responder.draws_ne_nil_iff ha, ← hdraws]
  have hcounted : .rollsEvaluated ∈ journal.metrics ↔ a.report.isSome := by
    rw [hmetrics]
    split <;> simp [*]
  refine ⟨b, a, hb, ha, hdraws, hreport, hmetrics, hdrawn, ?_⟩
  rw [hcounted, hdrawn]
  tauto

theorem counted_iff_reported_one_die :
    let bot : Bot := ⟨⟨defaultHelpTrigger⟩, [defaultMarker], []⟩
    let face : ScriptedFaces := ⟨[6]⟩
    let raw := "1d6".toList
    let request : Request :=
      ⟨"POST".toList, "/roll".toList, [], some "\x7b\"formula\": \"1d6\"\x7d".toList, false⟩
    let o := (Session.initial.respond request).2.run face
    (Route.find? request.method request.path = some .roll ∧
      (∃ response, o.result = .ok (.response response)) ∧ request.BringsFormula raw) ∧
    ∃ a, ((bot.responder.answer raw).run face).result = .ok a ∧ a.report.isSome ∧
      o.journal.metrics = [.rollsEvaluated] ∧ o.journal.draws ≠ [] := by
  intro bot face raw request o
  have hroute : Route.find? request.method request.path = some .roll := by decide
  have hcontent : request.content? = some (some (.obj
      [(some "formula".toList, .str (some raw))])) := by cbv
  have hbrings : request.BringsFormula raw := ⟨⟨_, hcontent, by rfl⟩, by decide⟩
  have hsupply : Session.initial.supply = .ok bot := by rfl
  have hfaces : ¬ DieSource.Fails face (Formula.demand? (bot.responder.rolled? raw)) := by decide
  obtain ⟨response, hresult⟩ := exists_response_of_formula hroute hbrings hsupply hfaces
  obtain ⟨-, htold⟩ := counted_iff_reported hroute hresult
  obtain ⟨b, a, hb, ha, -, hreport, hmetrics, hdrawn, -⟩ := htold raw hbrings
  obtain rfl := Except.ok.inj (hsupply.symm.trans hb)
  have hformula : ∃ f, Formula.parse raw = .ok f := ⟨⟨raw, Intake.once, [⟨.plus, .dice
    ⟨⟨1, by decide, by decide⟩, ⟨6, by decide, by decide⟩, none⟩⟩], by decide⟩, by decide⟩
  have hsome : a.report.isSome := hreport.2 ⟨by decide, hformula⟩
  rw [hsome, if_pos rfl] at hmetrics
  exact ⟨⟨hroute, ⟨_, hresult⟩, hbrings⟩, a, ha, hsome, hmetrics, hdrawn.2 ⟨hsome, by decide⟩⟩

theorem not_drawn_of_flat_formula :
    ¬ ∀ (st : Session) (r : Request) (s : ScriptedFaces) (response : Response) (raw : Text)
        (b : Bot) (a : Answer),
      let o := (st.respond r).2.run s
      Route.find? r.method r.path = some .roll → o.result = .ok (.response response) →
      r.BringsFormula raw → st.supply = .ok b → ((b.responder.answer raw).run s).result = .ok a →
      (a.report.isSome ∧ .rollsEvaluated ∈ o.journal.metrics ↔ o.journal.draws ≠ []) := by
  intro hclaim
  let raw : Text := "5".toList
  let flat : Request :=
    ⟨"POST".toList, "/roll".toList, [], some "\x7b\"formula\": \"5\"\x7d".toList, false⟩
  have hroute : Route.find? flat.method flat.path = some .roll := by decide
  have hcontent : flat.content? = some (some (.obj
      [(some "formula".toList, .str (some raw))])) := by cbv
  have hbrings : flat.BringsFormula raw := ⟨⟨_, hcontent, by rfl⟩, by decide⟩
  let bot : Bot := ⟨⟨defaultHelpTrigger⟩, [defaultMarker], []⟩
  have hsupply : Session.initial.supply = .ok bot := by rfl
  have hfaces : ¬ DieSource.Fails (⟨[]⟩ : ScriptedFaces)
      (Formula.demand? (bot.responder.rolled? raw)) := by decide
  obtain ⟨response, hresult⟩ := exists_response_of_formula hroute hbrings hsupply hfaces
  obtain ⟨b, a, hb, ha, hdraws, hmetrics⟩ := exists_answer_of_formula hroute hbrings hresult
  obtain rfl := Except.ok.inj (hsupply.symm.trans hb)
  have hformula : ∃ f, Formula.parse raw = .ok f := ⟨⟨raw, Intake.once,
    [⟨.plus, .flat ⟨5, by decide, by decide⟩⟩], by decide⟩, by decide⟩
  have hsome := (Responder.isSome_report_iff ha).2 ⟨by decide, hformula⟩
  rw [hsome, if_pos rfl] at hmetrics
  have hdrawn := (hclaim _ _ _ _ _ _ _ hroute hresult hbrings hb ha).1 ⟨hsome, by simp [hmetrics]⟩
  rw [hdraws] at hdrawn
  have hmark : 'd' ∈ raw := ((Responder.draws_ne_nil_iff ha).1 hdrawn).2
  exact absurd hmark (by decide)

end Session
end Counted
end DiceBot
