import Mathlib.Logic.Relation
import DiceBot.Proofs.Responder.Answers

/-!
# Blanks in a formula

Blanks can be put in and taken out one at a time, anywhere, until two texts are
the same, exactly if the texts are the same without their blanks. Texts that are
so related ask for the same: help, the same roll, or the same refusal. The
formula that a report shows is the one that was asked for without its blanks, so
asking for it again asks for the same.
-/

namespace DiceBot

namespace Text

inductive BlankPut : Text → Text → Prop where
  | intro (s r : Text) {c : Char} (hc : isBlank c) : BlankPut (s ++ r) (s ++ c :: r)

def BlanksApart : Text → Text → Prop := Relation.EqvGen BlankPut

variable {f g : Text}

theorem squeezed_cons_of_isBlank {c : Char} (hc : isBlank c) (t : Text) :
    squeezed (c :: t) = squeezed t := by
  simp [squeezed, hc]

theorem squeezed_cons_of_not_isBlank {c : Char} (hc : ¬ isBlank c) (t : Text) :
    squeezed (c :: t) = c :: squeezed t := by
  simp [squeezed, hc]

theorem squeezed_eq_of_blankPut (h : BlankPut f g) : squeezed f = squeezed g := by
  obtain ⟨s, r, hc⟩ := h
  rw [squeezed_append, squeezed_append, squeezed_cons_of_isBlank hc]

theorem squeezed_eq_of_blanksApart (h : BlanksApart f g) : squeezed f = squeezed g := by
  induction h with
  | rel f g h => exact squeezed_eq_of_blankPut h
  | refl f => rfl
  | symm f g _ ih => exact ih.symm
  | trans f g k _ _ ihfg ihgk => exact ihfg.trans ihgk

theorem blankPut_cons (c : Char) (h : BlankPut f g) : BlankPut (c :: f) (c :: g) := by
  obtain ⟨s, r, hd⟩ := h
  exact .intro (c :: s) r hd

theorem blanksApart_cons (c : Char) (h : BlanksApart f g) : BlanksApart (c :: f) (c :: g) := by
  induction h with
  | rel f g h => exact .rel _ _ (blankPut_cons c h)
  | refl f => exact .refl _
  | symm f g _ ih => exact .symm _ _ ih
  | trans f g k _ _ ihfg ihgk => exact .trans _ _ _ ihfg ihgk

theorem blanksApart_squeezed (t : Text) : BlanksApart t (squeezed t) := by
  induction t with
  | nil => exact .refl _
  | cons c t ih =>
    by_cases hc : isBlank c
    · rw [squeezed_cons_of_isBlank hc]
      have hput : BlankPut t (c :: t) := .intro [] t hc
      exact .trans _ _ _ (.symm _ _ (.rel _ _ hput)) ih
    · rw [squeezed_cons_of_not_isBlank hc]
      exact blanksApart_cons c ih

theorem blanksApart_iff : BlanksApart f g ↔ squeezed f = squeezed g := by
  constructor
  · exact squeezed_eq_of_blanksApart
  · intro h
    have hg : BlanksApart (squeezed f) g := h ▸ .symm _ _ (blanksApart_squeezed g)
    exact .trans _ _ _ (blanksApart_squeezed f) hg

end Text

theorem Formula.parse_eq_of_squeezed_eq {f g : Text} (h : Text.squeezed f = Text.squeezed g) :
    parse f = parse g := by
  rw [parse, parse, h]

namespace Responder

variable {σ : Type} [DieSource σ] {service : Responder} {f g : Text} {s : σ}

/-- Two texts that ask a responder for the same on a source: for help or not, for the same formula
or the same refusal, with its message and its pieces, and for the same throws. Only the record of a
refusal, which quotes the text as it came, can tell them apart. -/
structure AsksSame (service : Responder) (s : σ) (f g : Text) : Prop where
  help : service.isHelp f = service.isHelp g
  parse : Formula.parse f = Formula.parse g
  roll : (roll f : Play σ (Except Rejection Report)).run s = (roll g).run s
  result : ((service.answer f).run s).result = ((service.answer g).run s).result
  source : ((service.answer f).run s).source = ((service.answer g).run s).source
  draws : ((service.answer f).run s).journal.draws = ((service.answer g).run s).journal.draws

theorem isHelp_eq_of_squeezed_eq (service : Responder) (h : Text.squeezed f = Text.squeezed g) :
    service.isHelp f = service.isHelp g := by
  rw [isHelp, isHelp, h]

theorem answer_eq_of_squeezed_eq (service : Responder) (s : σ)
    (h : Text.squeezed f = Text.squeezed g) :
    let o := (service.answer f).run s
    let o' := (service.answer g).run s
    o.result = o'.result ∧ o.source = o'.source ∧ o.journal.draws = o'.journal.draws := by
  have hhelp := service.isHelp_eq_of_squeezed_eq h
  have hparse := Formula.parse_eq_of_squeezed_eq h
  rcases service.isHelp_or_error_or_ok f with hf | ⟨hf, e, he⟩ | ⟨hf, p, hp⟩
  · rw [run_answer_of_isHelp hf, run_answer_of_isHelp (hhelp ▸ hf)]
    exact ⟨rfl, rfl, rfl⟩
  · rw [run_answer_of_parse_eq_error hf he,
      run_answer_of_parse_eq_error (hhelp ▸ hf) (hparse ▸ he)]
    exact ⟨rfl, rfl, rfl⟩
  · rw [run_answer_of_parse_eq_ok hf hp, run_answer_of_parse_eq_ok (hhelp ▸ hf) (hparse ▸ hp)]
    exact ⟨rfl, rfl, rfl⟩

theorem asksSame_of_squeezed_eq (service : Responder) (s : σ)
    (h : Text.squeezed f = Text.squeezed g) : service.AsksSame s f g where
  help := service.isHelp_eq_of_squeezed_eq h
  parse := Formula.parse_eq_of_squeezed_eq h
  roll := by rw [roll, roll, Formula.parse_eq_of_squeezed_eq h]
  result := (service.answer_eq_of_squeezed_eq s h).1
  source := (service.answer_eq_of_squeezed_eq s h).2.1
  draws := (service.answer_eq_of_squeezed_eq s h).2.2

theorem formula_eq_of_run_roll {report : Report}
    (h : ((roll f : Play σ (Except Rejection Report)).run s).result = .ok (.ok report)) :
    report.formula = Text.squeezed f := by
  cases hparse : Formula.parse f with
  | error e =>
    rw [roll, hparse] at h
    cases h
  | ok p =>
    rw [roll_of_parse hparse, Play.run_map] at h
    cases hrolled : (p.roll.run s).result with
    | error x =>
      rw [hrolled] at h
      cases h
    | ok r =>
      rw [hrolled] at h
      cases h
      rw [Formula.formula_of_run_roll hrolled]
      exact (Formula.parse_eq_ok_iff.1 hparse).1

theorem run_roll_of_run_answer {a : Answer} {report : Report}
    (h : ((service.answer f).run s).result = .ok a) (hreport : a.report = some report) :
    ((roll f : Play σ (Except Rejection Report)).run s).result = .ok (.ok report) := by
  rcases service.isHelp_or_error_or_ok f with hf | ⟨hf, e, he⟩ | ⟨hf, p, hp⟩
  · rw [run_answer_of_isHelp hf] at h
    obtain rfl := Except.ok.inj h
    exact absurd hreport (Option.some_ne_none report).symm
  · rw [run_answer_of_parse_eq_error hf he] at h
    obtain rfl := Except.ok.inj h
    exact absurd hreport (Option.some_ne_none report).symm
  · rw [(run_answer_eq_reported hf hp).1] at h
    rw [roll_of_parse hp, Play.run_map]
    cases hrolled : (p.roll.run s).result with
    | error x =>
      rw [hrolled] at h
      cases h
    | ok r =>
      rw [hrolled] at h
      cases h
      cases hreport
      rfl

/-- Texts that are apart by blanks ask for the same, and so does a text and the formula of a report
that was made for it. -/
theorem blanks_never_matter (service : Responder) (s : σ) (f : Text) :
    (∀ g, Text.BlanksApart f g → service.AsksSame s f g) ∧
    (∀ report, ((roll f : Play σ (Except Rejection Report)).run s).result = .ok (.ok report) →
      service.AsksSame s f report.formula) ∧
    ∀ a report, ((service.answer f).run s).result = .ok a → a.report = some report →
      service.AsksSame s f report.formula := by
  have hagain (report : Report) (h : report.formula = Text.squeezed f) :
      service.AsksSame s f report.formula := by
    apply asksSame_of_squeezed_eq
    rw [h, Text.squeezed_squeezed]
  refine ⟨fun g hg => ?_, fun report h => ?_, fun a report h hreport => ?_⟩
  · exact asksSame_of_squeezed_eq service s (Text.blanksApart_iff.1 hg)
  · exact hagain report (formula_eq_of_run_roll h)
  · exact hagain report (formula_eq_of_run_roll (run_roll_of_run_answer h hreport))

theorem blanks_never_matter_wide_blanks :
    let service : Responder := ⟨defaultHelpTrigger⟩
    let plain := "2#1d6-3".toList
    let wide := "\t2 #\u2003 1 d 6-3\n".toList
    let s : ScriptedFaces := ⟨[4, 2]⟩
    let report : Report := ⟨plain, [⟨1, ["1d6=4".toList]⟩, ⟨-1, ["1d6=2".toList]⟩]⟩
    (Text.BlanksApart plain wide ∧ service.AsksSame s plain wide) ∧
    (((roll wide : Play _ (Except Rejection Report)).run s).result = .ok (.ok report) ∧
      service.AsksSame s wide report.formula) ∧
    ((service.answer wide).run s).result = .ok (reported report) ∧
      service.AsksSame s wide report.formula := by
  intro service plain wide s report
  let f : Formula := ⟨plain, ⟨2, by decide, by decide⟩,
    [⟨.plus, .dice ⟨⟨1, by decide, by decide⟩, ⟨6, by decide, by decide⟩, none⟩⟩,
      ⟨.minus, .flat ⟨3, by decide, by decide⟩⟩], by decide⟩
  have hf : Formula.parse wide = .ok f := by decide
  have hr : ((f.roll : Play _ Report).run s).result = .ok report := by cbv
  have hapart : Text.BlanksApart plain wide := Text.blanksApart_iff.2 (by decide)
  have hroll :
      ((roll wide : Play _ (Except Rejection Report)).run s).result = .ok (.ok report) := by
    rw [roll_of_parse hf, Play.run_map, hr]
    rfl
  have hanswer : ((service.answer wide).run s).result = .ok (reported report) := by
    rw [(run_answer_eq_reported (isHelp_default hf) hf).1, hr]
    rfl
  obtain ⟨hsame, -, -⟩ := blanks_never_matter service s plain
  obtain ⟨-, hrolled, hanswered⟩ := blanks_never_matter service s wide
  exact ⟨⟨hapart, hsame wide hapart⟩, ⟨hroll, hrolled report hroll⟩, hanswer,
    hanswered _ report hanswer rfl⟩

end Responder
end DiceBot
