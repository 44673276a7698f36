import DiceBot.Proofs.Dice.Asks
import DiceBot.Proofs.Report.Replay

/-!
# What a responder answers

A text is a request for help, or it is refused, or it is rolled. Only the roll throws
dice, so only there can a source fail the responder. The two fixed messages are told
from every report by what stands before the first colon.
-/

namespace DiceBot

theorem exists_helpMessage_eq :
    ∃ rest, helpMessage = "here is some help".toList ++ ':' :: rest := by
  -- for any texts, since joining the lines of the message itself is slow to check
  have hfirst : ∀ a b c d e : String, ∃ rest,
      (a ++ b ++ c ++ d ++ e).toList = a.toList ++ rest := by
    intro a b c d e
    simp only [String.toList_append, List.append_assoc]
    exact ⟨_, rfl⟩
  have hline : "here is some help:\n".toList = "here is some help".toList ++ [':', '\n'] := by
    decide
  unfold helpMessage
  obtain ⟨rest, hrest⟩ := hfirst _ _ _ _ _
  refine ⟨'\n' :: rest, hrest.trans ?_⟩
  rw [hline, List.append_assoc]
  rfl

theorem helpMessage_ne_invalidMessage : helpMessage ≠ invalidMessage := by
  intro h
  obtain ⟨rest, hrest⟩ := exists_helpMessage_eq
  have hcolon : ':' ∈ invalidMessage := by rw [← h, hrest]; simp
  exact absurd hcolon (by decide)

namespace Report

variable {r : Report}

theorem render_ne_helpMessage (h : r.formula ⊆ formulaChars) : r.render ≠ helpMessage := by
  intro he
  obtain ⟨rest, hrest⟩ := exists_helpMessage_eq
  have htitle : ':' ∉ "here is some help".toList := by decide
  have hcolon : ':' ∉ r.formula := fun hm => absurd (h hm) (by decide)
  obtain ⟨hformula, -⟩ := Text.eq_and_eq_of_append_cons hcolon htitle (he.trans hrest)
  have hmem : 'e' ∈ r.formula := by rw [hformula]; decide
  exact absurd (h hmem) (by decide)

theorem render_ne_invalidMessage (r : Report) : r.render ≠ invalidMessage := by
  intro h
  have hcolon : ':' ∈ r.render := by simp [render]
  rw [h] at hcolon
  exact absurd hcolon (by decide)

end Report

section Roll

variable {σ : Type} [DieSource σ] {f : Formula} {s : σ} {r : Report}

theorem Formula.formula_of_run_roll (h : (f.roll.run s).result = .ok r) : r.formula = f.text := by
  obtain ⟨-, -, rfl⟩ := f.follows_roll.eq_of_result_eq_ok h
  rfl

theorem Formula.render_ne_messages {raw : Text} (hf : Formula.parse raw = .ok f)
    (hr : (f.roll.run s).result = .ok r) : r.render ≠ helpMessage ∧ r.render ≠ invalidMessage := by
  obtain ⟨-, hs⟩ := Formula.parse_eq_ok_iff.1 hf
  refine ⟨Report.render_ne_helpMessage ?_, r.render_ne_invalidMessage⟩
  rw [formula_of_run_roll hr]
  exact hs.subset

end Roll

namespace Responder

variable {σ : Type} [DieSource σ] {service : Responder} {raw : Text} {s : σ}

theorem isHelp_iff : service.isHelp raw ↔ Text.squeezed raw = service.helpTrigger := by
  simp [isHelp]

theorem isHelp_eq_false_iff :
    service.isHelp raw = false ↔ Text.squeezed raw ≠ service.helpTrigger := by
  rw [ne_eq, ← isHelp_iff, Bool.not_eq_true]

theorem isHelp_or_error_or_ok (service : Responder) (raw : Text) :
    service.isHelp raw ∨ service.isHelp raw = false ∧ (∃ e, Formula.parse raw = .error e) ∨
      service.isHelp raw = false ∧ ∃ f, Formula.parse raw = .ok f := by
  cases service.isHelp raw <;> cases Formula.parse raw <;> simp

theorem run_answer_of_isHelp (h : service.isHelp raw) :
    (service.answer raw).run s = ⟨.ok ⟨helpMessage, none⟩, s, []⟩ := by
  rw [answer, if_pos h, Play.run_pure]

theorem run_answer_of_parse_eq_error {e : Rejection} (hhelp : service.isHelp raw = false)
    (he : Formula.parse raw = .error e) :
    (service.answer raw).run s = ⟨.ok ⟨invalidMessage, none⟩, s,
      [.logged (.failedValidation e.text e.pieces), .logged (.rejected raw e.pieces)]⟩ := by
  simp [answer, hhelp, roll, he, Play.run_bind, Play.run_map, Play.andThen, Play.log, Play.tell,
    Except.map]

theorem run_answer_of_parse_eq_ok {f : Formula} (hhelp : service.isHelp raw = false)
    (hf : Formula.parse raw = .ok f) :
    (service.answer raw).run s = Play.andThen (f.roll.run s) fun r => do
      Play.log (.evaluated r.formula r.totals r.render)
      return ⟨r.render, some r⟩ := by
  rw [answer, hhelp, roll_of_parse hf]
  simp only [Bool.false_eq_true, ↓reduceIte, Play.run_bind, Play.run_map, Play.andThen]
  cases (f.roll.run s).result <;> rfl

def reported (r : Report) : Answer := ⟨r.render, some r⟩

theorem run_answer_eq_reported {f : Formula} (hhelp : service.isHelp raw = false)
    (hf : Formula.parse raw = .ok f) :
    let o := (service.answer raw).run s
    let rolled := (f.roll : Play σ Report).run s
    o.result = rolled.result.map reported ∧ o.source = rolled.source ∧
      o.journal.draws = rolled.journal.draws := by
  intro o rolled
  have ho : o = Play.andThen rolled _ := run_answer_of_parse_eq_ok hhelp hf
  rw [ho, Play.andThen]
  cases rolled.result with
  | error e => exact ⟨rfl, rfl, rfl⟩
  | ok r => exact ⟨rfl, rfl, by rw [Journal.draws_append]; exact List.append_nil _⟩

theorem text_ne_messages {f : Formula} {a : Answer} (hhelp : service.isHelp raw = false)
    (hf : Formula.parse raw = .ok f) (ha : ((service.answer raw).run s).result = .ok a) :
    a.text ≠ helpMessage ∧ a.text ≠ invalidMessage := by
  rw [(run_answer_eq_reported hhelp hf).1] at ha
  cases hr : (f.roll.run s).result with
  | error e =>
    rw [hr] at ha
    cases ha
  | ok r =>
    rw [hr] at ha
    cases ha
    exact Formula.render_ne_messages hf hr

theorem failsAfter_of_answer_eq_error {x : Exhausted}
    (h : ((service.answer raw).run s).result = .error x) :
    let o := (service.answer raw).run s
    ∃ n, DieSource.FailsAfter s (o.journal.draws.map Draw.sides) n o.source := by
  intro o
  rcases service.isHelp_or_error_or_ok raw with hhelp | ⟨hhelp, e, he⟩ | ⟨hhelp, f, hf⟩
  · rw [run_answer_of_isHelp hhelp] at h
    cases h
  · rw [run_answer_of_parse_eq_error hhelp he] at h
    cases h
  · obtain ⟨hresult, hsource, hdraws⟩ := run_answer_eq_reported (s := s) hhelp hf
    rw [hresult] at h
    rw [hsource, hdraws]
    cases hr : (f.roll.run s).result with
    | error y =>
      obtain ⟨n, -, hn⟩ := f.follows_roll.throwsFirst.asks.failsAfter_of_result_eq_error hr
      exact ⟨n, hn⟩
    | ok r =>
      rw [hr] at h
      cases h

theorem text_tells_case {a : Answer} (ha : ((service.answer raw).run s).result = .ok a) :
    (a.text = helpMessage ↔ service.isHelp raw) ∧
      (a.text = invalidMessage ↔
        service.isHelp raw = false ∧ ∃ e, Formula.parse raw = .error e) := by
  rcases service.isHelp_or_error_or_ok raw with hhelp | ⟨hhelp, e, he⟩ | ⟨hhelp, f, hf⟩
  · rw [run_answer_of_isHelp hhelp] at ha
    obtain rfl := Except.ok.inj ha
    simp [hhelp, helpMessage_ne_invalidMessage]
  · rw [run_answer_of_parse_eq_error hhelp he] at ha
    obtain rfl := Except.ok.inj ha
    simp [hhelp, he, helpMessage_ne_invalidMessage.symm]
  · obtain ⟨hhelpText, hinvalidText⟩ := text_ne_messages hhelp hf ha
    simp [hhelp, hf, hhelpText, hinvalidText]

/-- Every text is answered in one of three ways, and only a source without a face for some die is
in the way of an answer. Help and refusal leave the source alone, and the text of an answer tells
which of the three it was, since no report reads like one of the fixed messages. The usual trigger
of help is no formula. -/
theorem answer_cases (service : Responder) (raw : Text) (s : σ) :
    let o := (service.answer raw : Play σ Answer).run s
    (Text.squeezed raw = service.helpTrigger ∧
        o.result = .ok ⟨helpMessage, none⟩ ∧ o.source = s ∧ o.journal.draws = [] ∨
      Text.squeezed raw ≠ service.helpTrigger ∧ (∃ e, Formula.parse raw = .error e) ∧
        o.result = .ok ⟨invalidMessage, none⟩ ∧ o.source = s ∧ o.journal.draws = [] ∨
      Text.squeezed raw ≠ service.helpTrigger ∧ ∃ f, Formula.parse raw = .ok f ∧
        let rolled := (f.roll : Play σ Report).run s
        o.result = rolled.result.map (fun r => ⟨r.render, some r⟩) ∧
          o.source = rolled.source ∧ o.journal.draws = rolled.journal.draws) ∧
    (∀ e, o.result = .error e →
      ∃ n, DieSource.FailsAfter s (o.journal.draws.map Draw.sides) n o.source) ∧
    (∀ a, o.result = .ok a →
      (a.text = helpMessage ↔ Text.squeezed raw = service.helpTrigger) ∧
      (a.text = invalidMessage ↔
        Text.squeezed raw ≠ service.helpTrigger ∧ ∃ e, Formula.parse raw = .error e)) ∧
    ∀ f, Formula.parse raw = .ok f → Text.squeezed raw ≠ defaultHelpTrigger ∧
      ∀ (τ : Type) [DieSource τ] (t : τ) (r : Report), (f.roll.run t).result = .ok r →
        r.render ≠ helpMessage ∧ r.render ≠ invalidMessage := by
  intro o
  refine ⟨?_, fun e => failsAfter_of_answer_eq_error, fun a ha => ?_, fun f hf => ⟨?_, ?_⟩⟩
  · rcases service.isHelp_or_error_or_ok raw with hhelp | ⟨hhelp, e, he⟩ | ⟨hhelp, f, hf⟩
    · have ho : o = ⟨.ok ⟨helpMessage, none⟩, s, []⟩ := run_answer_of_isHelp hhelp
      rw [ho]
      exact Or.inl ⟨isHelp_iff.1 hhelp, rfl, rfl, rfl⟩
    · have ho : o = ⟨.ok ⟨invalidMessage, none⟩, s, _⟩ := run_answer_of_parse_eq_error hhelp he
      rw [ho]
      exact Or.inr (Or.inl ⟨isHelp_eq_false_iff.1 hhelp, ⟨e, he⟩, rfl, rfl, rfl⟩)
    · exact Or.inr (Or.inr ⟨isHelp_eq_false_iff.1 hhelp, f, hf, run_answer_eq_reported hhelp hf⟩)
  · rw [← isHelp_iff, ← isHelp_eq_false_iff]
    exact text_tells_case ha
  · intro htrigger
    have hhelp : isHelp ⟨defaultHelpTrigger⟩ raw := isHelp_iff.2 htrigger
    rw [isHelp_default hf] at hhelp
    cases hhelp
  · exact fun τ _ t r hr => Formula.render_ne_messages hf hr

theorem answer_cases_two_dice :
    let service : Responder := ⟨defaultHelpTrigger⟩
    let raw := " 2d6h1 - 3".toList
    let f : Formula := ⟨"2d6h1-3".toList, ⟨1, by decide, by decide⟩,
      [⟨.plus, .dice ⟨⟨2, by decide, by decide⟩, ⟨6, by decide, by decide⟩,
        some ⟨.highest, ⟨1, by decide, by decide⟩⟩⟩⟩,
        ⟨.minus, .flat ⟨3, by decide, by decide⟩⟩], by decide⟩
    let r : Report := ⟨"2d6h1-3".toList, [⟨1, ["2d6h1=2,4".toList]⟩]⟩
    let full : ScriptedFaces := ⟨[4, 2]⟩
    let short : ScriptedFaces := ⟨[4]⟩
    Formula.parse raw = .ok f ∧ (f.roll.run full).result = .ok r ∧
      ((service.answer raw).run full).result = .ok ⟨r.render, some r⟩ ∧
      r.render ≠ helpMessage ∧ r.render ≠ invalidMessage ∧
      Text.squeezed raw ≠ service.helpTrigger ∧
      ((service.answer raw).run short).result = .error .noFaceLeft ∧
      let o := (service.answer raw).run short
      ∃ n, DieSource.FailsAfter short (o.journal.draws.map Draw.sides) n o.source := by
  intro service raw f r full short
  have hf : Formula.parse raw = .ok f := by decide
  have hr : (f.roll.run full).result = .ok r := by cbv
  have hempty : (f.roll.run short).result = .error .noFaceLeft := by cbv
  have hfull : ((service.answer raw).run full).result = .ok ⟨r.render, some r⟩ := by
    rw [(run_answer_eq_reported (isHelp_default hf) hf).1, hr]
    rfl
  have hshort : ((service.answer raw).run short).result = .error .noFaceLeft := by
    rw [(run_answer_eq_reported (isHelp_default hf) hf).1, hempty]
    rfl
  obtain ⟨-, -, htext, hformula⟩ := answer_cases service raw full
  obtain ⟨-, hfault, -, -⟩ := answer_cases service raw short
  obtain ⟨hhelp, hrender⟩ := hformula f hf
  have htold := (htext _ hfull).1
  exact ⟨hf, hr, hfull, fun h => hhelp (htold.1 h), (hrender _ full r hr).2, hhelp, hshort,
    hfault _ hshort⟩

end Responder
end DiceBot
