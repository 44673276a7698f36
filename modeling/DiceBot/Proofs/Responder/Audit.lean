import DiceBot.Proofs.Chat.Interrupted
import DiceBot.Proofs.Responder.Blanks

/-!
# Records and replies

The records of a responder are what a log keeps of its answers. They are made in two places: the
one that refuses a formula notes its pieces, and the one that answers notes what it has said. Both
agree with the reply, for every query of a run.
-/

namespace DiceBot

namespace LogRecord

def SaysEvaluated (l : LogRecord) : Prop := l.message = "Dice roll evaluated".toList

def SaysRejected (l : LogRecord) : Prop := l.message = "Rejected dice formula".toList

variable {l : LogRecord}

-- the messages are unfolded as they are, since their equations take long to make

theorem saysEvaluated_iff :
    l.SaysEvaluated ↔ ∃ formula totals result, l = .evaluated formula totals result := by
  unfold SaysEvaluated message
  cases l with
  | evaluated formula totals result =>
    dsimp only
    exact iff_of_true rfl ⟨formula, totals, result, rfl⟩
  | _ =>
    dsimp only
    exact iff_of_false (by decide) fun ⟨_, _, _, h⟩ => by cases h

theorem saysRejected_iff : l.SaysRejected ↔ ∃ formula pieces, l = .rejected formula pieces := by
  unfold SaysRejected message
  cases l with
  | rejected formula pieces =>
    dsimp only
    exact iff_of_true rfl ⟨formula, pieces, rfl⟩
  | _ =>
    dsimp only
    exact iff_of_false (by decide) fun ⟨_, _, h⟩ => by cases h

def NotesRoll (l : LogRecord) (formula : Text) (totals : List Int) (result : Text) : Prop :=
  l.entry = ⟨.service, .info, "Dice roll evaluated".toList,
    [("formula".toList, .text formula), ("totals".toList, .ints totals),
      ("result".toList, .text result)]⟩

def NotesRefusal (l : LogRecord) (raw : Text) (pieces : List Text) : Prop :=
  l.entry = ⟨.service, .info, "Rejected dice formula".toList,
    [("formula".toList, .text raw), ("rejected".toList, .texts pieces)]⟩

def NotesFault (l : LogRecord) (formula : Text) (pieces : List Text) : Prop :=
  l.entry = ⟨.grammar, .debug, "Formula failed validation".toList,
    [("formula".toList, .text formula), ("rejected".toList, .texts pieces)]⟩

theorem entry_injective : Function.Injective entry := by
  intro l l' h
  cases l <;> cases l' <;> simp_all [entry, origin, fields]

theorem notesRoll_iff {formula result : Text} {totals : List Int} :
    l.NotesRoll formula totals result ↔ l = .evaluated formula totals result :=
  entry_injective.eq_iff (b := .evaluated formula totals result)

theorem notesRefusal_iff {raw : Text} {pieces : List Text} :
    l.NotesRefusal raw pieces ↔ l = .rejected raw pieces :=
  entry_injective.eq_iff (b := .rejected raw pieces)

theorem notesFault_iff {formula : Text} {pieces : List Text} :
    l.NotesFault formula pieces ↔ l = .failedValidation formula pieces :=
  entry_injective.eq_iff (b := .failedValidation formula pieces)

end LogRecord

theorem Outcome.map_map {σ α β γ : Type} (f : α → β) (g : β → γ) (o : Outcome σ α) :
    (o.map f).map g = o.map fun a => g (f a) := by
  rw [Outcome.map, Outcome.map, Outcome.map]
  cases o.result <;> rfl

def Query.answered? : Query → Option Text
  | .reply raw | .answer raw => some raw
  | .roll _ | .isHelp _ => none

namespace Responder

variable {σ : Type}

structure Audit (service : Responder) (raw : Text) (o : Outcome σ Answer) : Prop where
  evaluated_iff : (∃ l ∈ o.journal.records, l.SaysEvaluated) ↔
    ∃ a report, o.result = .ok a ∧ a.report = some report
  evaluated : ∀ a report, o.result = .ok a → a.report = some report →
    (∃ f, Formula.parse raw = .ok f) ∧ report.formula = Text.squeezed raw ∧
      ∃ l, o.journal.records = [l] ∧ l.NotesRoll report.formula report.totals a.text
  rejected_iff : (∃ l ∈ o.journal.records, l.SaysRejected) ↔
    ∃ a, o.result = .ok a ∧ a.text = invalidMessage
  rejected : ∀ a, o.result = .ok a → a.text = invalidMessage →
    ∃ e, Formula.parse raw = .error e ∧
      ∃ l l', o.journal = [.logged l, .logged l'] ∧
        l.NotesFault (Text.squeezed raw) e.pieces ∧ l'.NotesRefusal raw e.pieces
  silent_iff : o.journal.records = [] ↔
    Text.squeezed raw = service.helpTrigger ∨ ∃ x, o.result = .error x
  one_info : o.journal.records ≠ [] →
    ∃ l, l.origin = .service ∧ o.journal.records.filter (fun l => l.level = .info) = [l]

namespace Audit

variable {service : Responder} {raw : Text} {o : Outcome σ Answer}

theorem of_silent (hreport : ∀ a, o.result = .ok a → a.report = none)
    (htext : ∀ a, o.result = .ok a → a.text ≠ invalidMessage)
    (hwhy : Text.squeezed raw = service.helpTrigger ∨ ∃ x, o.result = .error x)
    (hrecords : o.journal.records = []) : service.Audit raw o where
  evaluated_iff := iff_of_false (by simp [hrecords]) fun ⟨a, report, ha, hsome⟩ => by
    cases (hreport a ha).symm.trans hsome
  evaluated a report ha hsome := by cases (hreport a ha).symm.trans hsome
  rejected_iff := iff_of_false (by simp [hrecords]) fun ⟨a, ha, hinvalid⟩ => htext a ha hinvalid
  rejected a ha hinvalid := absurd hinvalid (htext a ha)
  silent_iff := iff_of_true hrecords hwhy
  one_info h := absurd hrecords h

theorem of_rejection {e : Rejection} (hhelp : Text.squeezed raw ≠ service.helpTrigger)
    (he : Formula.parse raw = .error e) (hresult : o.result = .ok ⟨invalidMessage, none⟩)
    (hjournal : o.journal = [.logged (.failedValidation (Text.squeezed raw) e.pieces),
      .logged (.rejected raw e.pieces)]) : service.Audit raw o := by
  have hrecords : o.journal.records =
      [.failedValidation (Text.squeezed raw) e.pieces, .rejected raw e.pieces] := by
    rw [hjournal]
    rfl
  exact {
    evaluated_iff := by simp [hresult, hrecords, LogRecord.saysEvaluated_iff]
    evaluated := fun a report ha hreport => by
      obtain rfl := Except.ok.inj (hresult.symm.trans ha)
      cases hreport
    rejected_iff := by simp [hresult, hrecords, LogRecord.saysRejected_iff]
    rejected := fun _ _ _ => ⟨e, he, _, _, hjournal, rfl, rfl⟩
    silent_iff := by simp [hresult, hrecords, hhelp]
    one_info := fun _ => ⟨.rejected raw e.pieces, rfl, by rw [hrecords]; rfl⟩ }

theorem of_report {f : Formula} {r : Report} (hhelp : Text.squeezed raw ≠ service.helpTrigger)
    (hf : Formula.parse raw = .ok f) (hformula : r.formula = Text.squeezed raw)
    (hresult : o.result = .ok (reported r))
    (hrecords : o.journal.records = [.evaluated r.formula r.totals r.render]) :
    service.Audit raw o where
  evaluated_iff := by simp [hresult, hrecords, LogRecord.saysEvaluated_iff, reported]
  evaluated a report ha hreport := by
    obtain rfl := Except.ok.inj (hresult.symm.trans ha)
    obtain rfl := Option.some.inj hreport
    exact ⟨⟨f, hf⟩, hformula, _, hrecords, rfl⟩
  rejected_iff := by
    simp [hresult, hrecords, LogRecord.saysRejected_iff, reported, r.render_ne_invalidMessage]
  rejected a ha htext := by
    obtain rfl := Except.ok.inj (hresult.symm.trans ha)
    exact absurd htext r.render_ne_invalidMessage
  silent_iff := by simp [hresult, hrecords, hhelp]
  one_info _ := ⟨.evaluated r.formula r.totals r.render, rfl, by rw [hrecords]; rfl⟩

theorem of_notesRoll {l : LogRecord} {formula result : Text} {totals : List Int}
    (h : service.Audit raw o) (hl : l ∈ o.journal.records)
    (hnotes : l.NotesRoll formula totals result) :
    Text.squeezed raw = formula ∧ ∃ f, Formula.parse raw = .ok f := by
  obtain rfl := LogRecord.notesRoll_iff.1 hnotes
  obtain ⟨a, report, ha, hreport⟩ :=
    h.evaluated_iff.1 ⟨_, hl, LogRecord.saysEvaluated_iff.2 ⟨_, _, _, rfl⟩⟩
  obtain ⟨hf, hformula, l, hrecords, hown⟩ := h.evaluated a report ha hreport
  obtain rfl := LogRecord.notesRoll_iff.1 hown
  rw [hrecords, List.mem_singleton] at hl
  cases hl
  exact ⟨hformula.symm, hf⟩

theorem of_notesRefusal {l : LogRecord} {text : Text} {pieces : List Text}
    (h : service.Audit raw o) (hl : l ∈ o.journal.records) (hnotes : l.NotesRefusal text pieces) :
    raw = text ∧ ∃ e, Formula.parse raw = .error e ∧ e.pieces = pieces := by
  obtain rfl := LogRecord.notesRefusal_iff.1 hnotes
  obtain ⟨a, ha, htext⟩ := h.rejected_iff.1 ⟨_, hl, LogRecord.saysRejected_iff.2 ⟨_, _, rfl⟩⟩
  obtain ⟨e, he, l, l', hjournal, hfault, hrefusal⟩ := h.rejected a ha htext
  obtain rfl := LogRecord.notesFault_iff.1 hfault
  obtain rfl := LogRecord.notesRefusal_iff.1 hrefusal
  rw [hjournal] at hl
  cases hl with
  | tail _ hl =>
    cases List.mem_singleton.1 hl
    exact ⟨rfl, e, he, rfl⟩

end Audit

section Ask

variable [DieSource σ] {service : Responder} {raw : Text} {s : σ}

theorem run_roll_of_parse_eq_error {e : Rejection} (he : Formula.parse raw = .error e) :
    (roll raw : Play σ (Except Rejection Report)).run s =
      ⟨.ok (.error e), s, [.logged (.failedValidation (Text.squeezed raw) e.pieces)]⟩ := by
  rw [roll, he, ← (Formula.of_parse_eq_error he).1]
  rfl

theorem records_run_roll (f : Formula) (s : σ) :
    ((f.roll : Play σ Report).run s).journal.records = [] := by
  have hwrites : Play.Writes (fun e => e.record? = none) (f.roll : Play σ Report) :=
    f.follows_roll.writes fun _ => rfl
  exact List.filterMap_eq_nil_iff.2 (hwrites s)

theorem audit_answer (service : Responder) (raw : Text) (s : σ) :
    service.Audit raw ((service.answer raw : Play σ Answer).run s) := by
  rcases service.isHelp_or_error_or_ok raw with hhelp | ⟨hhelp, e, he⟩ | ⟨hhelp, f, hf⟩
  · rw [run_answer_of_isHelp hhelp]
    refine .of_silent (fun a ha => ?_) (fun a ha => ?_) (.inl (isHelp_iff.1 hhelp)) rfl
    · obtain rfl := Except.ok.inj ha
      rfl
    · obtain rfl := Except.ok.inj ha
      dsimp only
      exact helpMessage_ne_invalidMessage
  · rw [run_answer_of_parse_eq_error hhelp he, (Formula.of_parse_eq_error he).1]
    exact .of_rejection (isHelp_eq_false_iff.1 hhelp) he rfl rfl
  · rw [run_answer_of_parse_eq_ok hhelp hf, Play.andThen]
    have hrecords := records_run_roll f s
    cases hr : (f.roll.run s).result with
    | error x =>
      refine .of_silent (fun a ha => ?_) (fun a ha => ?_) (.inr ⟨x, rfl⟩) hrecords <;> cases ha
    | ok r =>
      have hformula : r.formula = Text.squeezed raw :=
        (Formula.formula_of_run_roll hr).trans (Formula.parse_eq_ok_iff.1 hf).1
      refine .of_report (isHelp_eq_false_iff.1 hhelp) hf hformula rfl ?_
      rw [Journal.records_append, hrecords]
      rfl

/-- The outcome of a query agrees with its records. A bare roll leaves its answer to others, and
only notes that it has refused; whether a text asks for help is told without a record. -/
def Audited (service : Responder) (s : σ) : Query → Outcome σ QueryResult → Prop
  | .reply raw, o =>
    let own := (service.answer raw).run s
    o = own.map (fun a => .reply a.text) ∧ service.Audit raw own
  | .answer raw, o =>
    let own := (service.answer raw).run s
    o = own.map .answer ∧ service.Audit raw own
  | .roll raw, o =>
    (∀ e, o.result = .ok (.roll (.error e)) → Formula.parse raw = .error e ∧
      ∃ l, o.journal = [.logged l] ∧ l.NotesFault (Text.squeezed raw) e.pieces) ∧
    (o.journal.records = [] ↔ ∀ e, o.result ≠ .ok (.roll (.error e)))
  | .isHelp raw, o =>
    o.result = .ok (.isHelp (decide (Text.squeezed raw = service.helpTrigger))) ∧ o.journal = []

theorem audited_roll (service : Responder) (raw : Text) (s : σ) :
    service.Audited s (.roll raw)
      (((roll raw : Play σ (Except Rejection Report)).run s).map .roll) := by
  cases hparse : Formula.parse raw with
  | error e =>
    rw [run_roll_of_parse_eq_error hparse]
    refine ⟨fun e' he' => ?_, iff_of_false (by rintro ⟨⟩) fun h => h e rfl⟩
    cases he'
    exact ⟨hparse, _, rfl, rfl⟩
  | ok f =>
    have hrun : (roll raw : Play σ (Except Rejection Report)).run s = (f.roll.run s).map .ok := by
      rw [roll_of_parse hparse]
      rfl
    rw [hrun, Outcome.map_map]
    have hresult : ∀ e, ((f.roll.run s).map fun r => QueryResult.roll (.ok r)).result ≠
        .ok (.roll (.error e)) := by
      intro e h
      rw [Outcome.map] at h
      cases hr : (f.roll.run s).result <;> simp [hr, Except.map] at h
    exact ⟨fun e he => absurd he (hresult e), iff_of_true (records_run_roll f s) hresult⟩

theorem audited_ask (service : Responder) (s : σ) (q : Query) :
    service.Audited s q ((service.ask q).run s) := by
  cases q with
  | reply raw =>
    have ho : (service.ask (.reply raw)).run s =
      (((service.answer raw).run s).map Answer.text).map .reply := rfl
    exact ⟨ho.trans (Outcome.map_map _ _ _), service.audit_answer raw s⟩
  | answer raw => exact ⟨rfl, service.audit_answer raw s⟩
  | isHelp raw => exact ⟨rfl, rfl⟩
  | roll raw => exact service.audited_roll raw s

theorem exists_audit_of_audited {q : Query} {o : Outcome σ QueryResult} {l : LogRecord}
    (h : service.Audited s q o) (hl : l ∈ o.journal.records) (hlevel : l.level = .info) :
    ∃ raw, ∃ own : Outcome σ Answer,
      q.answered? = some raw ∧ own.journal = o.journal ∧ service.Audit raw own := by
  cases q with
  | reply raw =>
    obtain ⟨rfl, haudit⟩ := h
    exact ⟨raw, _, rfl, rfl, haudit⟩
  | answer raw =>
    obtain ⟨rfl, haudit⟩ := h
    exact ⟨raw, _, rfl, rfl, haudit⟩
  | isHelp raw =>
    rw [h.2] at hl
    cases hl
  | roll raw =>
    obtain ⟨hrefused, hsilent⟩ := h
    by_cases hresult : ∃ e, o.result = .ok (.roll (.error e))
    · obtain ⟨e, he⟩ := hresult
      obtain ⟨-, l', hjournal, hfault⟩ := hrefused e he
      obtain rfl := LogRecord.notesFault_iff.1 hfault
      rw [hjournal] at hl
      cases List.mem_singleton.1 hl
      cases hlevel
    · rw [hsilent.2 fun e he => hresult ⟨e, he⟩] at hl
      cases hl

theorem exists_audited_of_mem_transcript {queries : List Query} {o : Outcome σ QueryResult}
    (h : o ∈ service.transcript s queries) : ∃ q ∈ queries, ∃ now, service.Audited now q o := by
  induction queries generalizing s with
  | nil => cases h
  | cons q queries ih =>
    rcases List.mem_cons.1 h with rfl | h
    · exact ⟨q, by simp, s, service.audited_ask s q⟩
    · obtain ⟨q', hq', now, haudited⟩ := ih h
      exact ⟨q', List.mem_cons_of_mem _ hq', now, haudited⟩

def records (service : Responder) (s : σ) (queries : List Query) : List LogRecord :=
  (service.transcript s queries).flatMap fun o => o.journal.records

theorem exists_audit_of_mem_records {queries : List Query} {l : LogRecord}
    (hl : l ∈ service.records s queries) (hlevel : l.level = .info) :
    ∃ q ∈ queries, ∃ raw, ∃ own : Outcome σ Answer,
      q.answered? = some raw ∧ l ∈ own.journal.records ∧ service.Audit raw own := by
  obtain ⟨o, ho, hlo⟩ := List.mem_flatMap.1 hl
  obtain ⟨q, hq, now, haudited⟩ := exists_audited_of_mem_transcript ho
  obtain ⟨raw, own, hraw, hjournal, haudit⟩ := exists_audit_of_audited haudited hlo hlevel
  exact ⟨q, hq, raw, own, hraw, hjournal ▸ hlo, haudit⟩

/-- Every query of a run agrees with its records. So a formula that is recorded as rolled was asked
for and is one, a text that is recorded as refused was asked for and is none, with these pieces,
and no text is ever recorded as both. -/
theorem records_agree_with_replies (service : Responder) (s : σ) (queries : List Query) :
    (∀ before q after, queries = before ++ q :: after →
      let now := (Play.reached (fun (r : Responder) q => (r, (r.ask q : Play σ QueryResult)))
        service s before).2
      ∃ o, (service.transcript s queries)[before.length]? = some o ∧ service.Audited now q o) ∧
    (∀ l ∈ service.records s queries, ∀ formula totals result, l.NotesRoll formula totals result →
      ∃ q ∈ queries, ∃ raw, q.answered? = some raw ∧ Text.squeezed raw = formula ∧
        ∃ f, Formula.parse raw = .ok f) ∧
    (∀ l ∈ service.records s queries, ∀ raw pieces, l.NotesRefusal raw pieces →
      ∃ q ∈ queries, q.answered? = some raw ∧ ∃ e, Formula.parse raw = .error e ∧
        e.pieces = pieces) ∧
    ∀ l ∈ service.records s queries, ∀ formula totals result, l.NotesRoll formula totals result →
      ∀ l' ∈ service.records s queries, ∀ raw pieces, l'.NotesRefusal raw pieces →
        Text.squeezed raw ≠ formula := by
  have hroll : ∀ l ∈ service.records s queries, ∀ formula totals result,
      l.NotesRoll formula totals result →
      ∃ q ∈ queries, ∃ raw, q.answered? = some raw ∧ Text.squeezed raw = formula ∧
        ∃ f, Formula.parse raw = .ok f := by
    intro l hl formula totals result hnotes
    have hlevel : l.level = .info := congrArg LogEntry.level hnotes
    obtain ⟨q, hq, raw, own, hraw, hown, haudit⟩ := exists_audit_of_mem_records hl hlevel
    exact ⟨q, hq, raw, hraw, haudit.of_notesRoll hown hnotes⟩
  have hrefusal : ∀ l ∈ service.records s queries, ∀ raw pieces, l.NotesRefusal raw pieces →
      ∃ q ∈ queries, q.answered? = some raw ∧ ∃ e, Formula.parse raw = .error e ∧
        e.pieces = pieces := by
    intro l hl raw pieces hnotes
    have hlevel : l.level = .info := congrArg LogEntry.level hnotes
    obtain ⟨q, hq, raw', own, hraw, hown, haudit⟩ := exists_audit_of_mem_records hl hlevel
    obtain ⟨rfl, he⟩ := haudit.of_notesRefusal hown hnotes
    exact ⟨q, hq, hraw, he⟩
  refine ⟨?_, hroll, hrefusal, ?_⟩
  · rintro before q after rfl now
    have hget := Play.getElem?_transcript
      (fun (r : Responder) q => (r, (r.ask q : Play σ QueryResult))) service s before q after
    rw [service.reached_ask] at hget
    exact ⟨_, hget, service.audited_ask now q⟩
  · intro l hl formula totals result hnotes l' hl' raw pieces hnotes' hsame
    obtain ⟨-, -, raw', -, hraw', f, hf⟩ := hroll l hl formula totals result hnotes
    obtain ⟨-, -, -, e, he, -⟩ := hrefusal l' hl' raw pieces hnotes'
    rw [Formula.parse_eq_of_squeezed_eq (hsame.trans hraw'.symm), hf] at he
    cases he

theorem records_agree_with_replies_five_queries :
    let service : Responder := ⟨defaultHelpTrigger⟩
    let s : ScriptedFaces := ⟨[4, 2]⟩
    let before : List Query := [.answer "2d6h1 ".toList]
    let after : List Query := [.roll "1d".toList, .isHelp "help".toList, .answer "1d6".toList]
    let queries := before ++ .reply " 1d6+x".toList :: after
    let rolled : LogRecord := .evaluated "2d6h1".toList [4] "2d6h1: [4 2d6h1=2,4]".toList
    let refused : LogRecord := .rejected " 1d6+x".toList ["+x".toList]
    service.records s queries =
        [rolled, .failedValidation "1d6+x".toList ["+x".toList], refused,
          .failedValidation "1d".toList ["+1d".toList]] ∧
      rolled.NotesRoll "2d6h1".toList [4] "2d6h1: [4 2d6h1=2,4]".toList ∧
      refused.NotesRefusal " 1d6+x".toList ["+x".toList] ∧
      (∃ o, (service.transcript s queries)[1]? = some o ∧
        service.Audited ⟨[]⟩ (.reply " 1d6+x".toList) o) ∧
      (∃ q ∈ queries, ∃ raw, q.answered? = some raw ∧ Text.squeezed raw = "2d6h1".toList ∧
        ∃ f, Formula.parse raw = .ok f) ∧
      (∃ q ∈ queries, q.answered? = some " 1d6+x".toList ∧
        ∃ e, Formula.parse " 1d6+x".toList = .error e ∧ e.pieces = ["+x".toList]) ∧
      Text.squeezed " 1d6+x".toList ≠ "2d6h1".toList := by
  intro service s before after queries rolled refused
  have hrecords : service.records s queries =
      [rolled, .failedValidation "1d6+x".toList ["+x".toList], refused,
        .failedValidation "1d".toList ["+1d".toList]] := by cbv
  obtain ⟨hstep, hroll, hrefusal, hapart⟩ := records_agree_with_replies service s queries
  have hrolled : rolled ∈ service.records s queries := by rw [hrecords]; simp
  have hrefused : refused ∈ service.records s queries := by rw [hrecords]; simp
  exact ⟨hrecords, rfl, rfl, hstep before _ after rfl, hroll _ hrolled _ _ _ rfl,
    hrefusal _ hrefused _ _ rfl, hapart _ hrolled _ _ _ rfl _ hrefused _ _ rfl⟩

end Ask
end Responder
end DiceBot
