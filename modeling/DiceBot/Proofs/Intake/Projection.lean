import Mathlib.Data.List.DropRight
import DiceBot.Proofs.Intake.Terms

/-!
# Records that are read again

A record that was accepted is written out as plain members, one for each of its fields. Reading
these gives the same record, so that checking data is a projection. What is written of a flat
number is never taken for dice, nor the other way round.
-/

namespace DiceBot

open Json Intake

theorem Text.trimmed_trimmed (inClass : Char → Bool) (t : Text) :
    trimmed inClass (trimmed inClass t) = trimmed inClass t := by
  have hback : ∀ u : Text, trimmed inClass u = (u.dropWhile inClass).rdropWhile inClass :=
    fun _ => rfl
  have hfront : (trimmed inClass t).dropWhile inClass = trimmed inClass t := by
    have hbegins : trimmed inClass t <+: t.dropWhile inClass := List.rdropWhile_prefix _ _
    rw [List.dropWhile_eq_self_iff]
    intro hlen
    rw [hbegins.getElem hlen]
    exact List.dropWhile_get_zero_not inClass t (hlen.trans_le hbegins.length_le)
  rw [hback (trimmed inClass t), hfront, hback, List.rdropWhile_idempotent]

theorem Text.length_trimmed_le (inClass : Char → Bool) (t : Text) :
    (trimmed inClass t).length ≤ t.length := by
  rw [trimmed, List.length_reverse]
  refine (List.dropWhile_sublist _).length_le.trans ?_
  rw [List.length_reverse]
  exact (List.dropWhile_sublist _).length_le

def Sign.fields (s : Sign) : Members := [(some "sign".toList, .int s.value)]

def Score.fields (s : Score) : Members :=
  [(some "contribution".toList, .int s.contribution),
    (some "fragment".toList, (s.trace.map fun t => Value.str (some t)).getD .null)]

def Pass.fields (p : Pass) : Members :=
  [(some "total".toList, .int p.total),
    (some "fragments".toList, .arr (p.traces.map fun t => .str (some t)))]

def Report.fields (r : Report) : Members :=
  [(some "formula".toList, .str (some r.formula)),
    (some "passes".toList, .arr (r.passes.map fun p => .obj p.fields))]

namespace Intake

def RollRequest.fields (r : RollRequest) : Members :=
  [(some "formula".toList, .str (some r.formula))]

def ChatRequest.fields (r : ChatRequest) : Members :=
  [(some "channel".toList, .str (some r.channel)), (some "text".toList, .str (some r.text))]

section Fields

theorem termSign_sign_fields (s : Sign) : termSign s.fields = .ok s := by
  rw [termSign]
  exact field_eq_ok rfl (sign_value s)

theorem text_str (t : Text) : text (.str (some t)) = .ok t := rfl

theorem score_fields (s : Score) : score s.fields = .ok s := by
  have hcontribution : required "contribution".toList integer s.fields = .ok s.contribution :=
    field_eq_ok rfl rfl
  have htrace : defaulted "fragment".toList none (orNull text) s.fields = .ok s.trace := by
    apply field_eq_ok rfl
    cases s.trace <;> rfl
  rw [score, both_eq_ok_iff.2 ⟨hcontribution, htrace⟩]
  rfl

theorem pass_fields (p : Pass) : pass p.fields = .ok p := by
  have htotal : required "total".toList integer p.fields = .ok p.total := field_eq_ok rfl rfl
  have htraces : defaulted "fragments".toList [] (list text) p.fields = .ok p.traces :=
    field_eq_ok rfl (items_map text_str 0 p.traces)
  rw [pass, both_eq_ok_iff.2 ⟨htotal, htraces⟩]
  rfl

theorem report_fields {r : Report} (h : r.passes ≠ []) : report r.fields = .ok r := by
  have hformula : required "formula".toList text r.fields = .ok r.formula := field_eq_ok rfl rfl
  have hpasses : required "passes".toList (nonemptyList (record "PassResult".toList pass))
      r.fields = .ok ⟨r.passes, h⟩ :=
    field_eq_ok rfl (nonemptyList_map pass_fields h)
  rw [report, both_eq_ok_iff.2 ⟨hformula, hpasses⟩]
  rfl

theorem passes_ne_nil_of_report_eq_ok {ms : Members} {r : Report} (h : report ms = .ok r) :
    r.passes ≠ [] := by
  obtain ⟨⟨formula, passes⟩, -, rfl⟩ := map_eq_ok_iff.1 h
  exact passes.property

theorem text_eq_ok_iff {v : Value} {t : Text} : text v = .ok t ↔ v = .str (some t) := by
  refine ⟨fun h => ?_, fun h => h ▸ rfl⟩
  unfold text at h
  split at h
  · rw [Except.ok.inj h]
  all_goals cases h

theorem textUpTo_eq_ok_iff {most : Nat} {v : Value} {t : Text} :
    textUpTo most v = .ok t ↔ v = .str (some t) ∧ t.length ≤ most := by
  rw [textUpTo, bind_eq_ok_iff]
  simp only [text_eq_ok_iff]
  constructor
  · rintro ⟨u, rfl, h⟩
    split at h
    next hle =>
      obtain rfl := Except.ok.inj h
      exact ⟨rfl, hle⟩
    next => cases h
  · rintro ⟨rfl, hle⟩
    exact ⟨t, rfl, if_pos hle⟩

theorem channelName_eq_ok_iff {v : Value} {name : Text} :
    channelName v = .ok name ↔ ∃ t, v = .str (some t) ∧ t.length ≤ 200 ∧
      name = Text.trimmed Text.isBlank t ∧ name ≠ [] := by
  rw [channelName, bind_eq_ok_iff]
  simp only [textUpTo_eq_ok_iff]
  constructor
  · rintro ⟨t, ⟨rfl, hle⟩, h⟩
    split at h
    · cases h
    · split at h
      · cases h
      · obtain rfl := Except.ok.inj h
        exact ⟨t, rfl, hle, rfl, by assumption⟩
  · rintro ⟨t, rfl, hle, rfl, hne⟩
    refine ⟨t, ⟨rfl, hle⟩, ?_⟩
    have ht : t ≠ [] := by
      rintro rfl
      exact hne rfl
    rw [if_neg ht]
    exact if_neg hne

theorem rollRequest_eq_ok_iff {ms : Members} {r : RollRequest} :
    rollRequest ms = .ok r ↔
      ms.get? "formula".toList = some (.str (some r.formula)) ∧ r.formula.length ≤ 500 := by
  obtain ⟨f⟩ := r
  rw [rollRequest, map_eq_ok_iff]
  simp only [RollRequest.mk.injEq, exists_eq_right, required_eq_ok_iff, textUpTo_eq_ok_iff]
  constructor
  · rintro ⟨v, hv, rfl, hle⟩
    exact ⟨hv, hle⟩
  · rintro ⟨hv, hle⟩
    exact ⟨_, hv, rfl, hle⟩

theorem chatRequest_eq_ok_iff {ms : Members} {r : ChatRequest} :
    chatRequest ms = .ok r ↔
      (∃ t, ms.get? "channel".toList = some (.str (some t)) ∧ t.length ≤ 200 ∧
        r.channel = Text.trimmed Text.isBlank t ∧ r.channel ≠ []) ∧
      ms.get? "text".toList = some (.str (some r.text)) ∧ r.text.length ≤ 2000 := by
  obtain ⟨c, t⟩ := r
  have hfields : chatRequest ms = .ok ⟨c, t⟩ ↔
      required "channel".toList channelName ms = .ok c ∧
        required "text".toList (textUpTo 2000) ms = .ok t :=
    map_both_eq_ok_iff fun _ _ => by simp
  rw [hfields, required_eq_ok_iff, required_eq_ok_iff]
  simp only [channelName_eq_ok_iff, textUpTo_eq_ok_iff]
  refine and_congr ⟨?_, ?_⟩ ⟨?_, ?_⟩
  · rintro ⟨_, hv, u, rfl, hu⟩
    exact ⟨u, hv, hu⟩
  · rintro ⟨u, hv, hu⟩
    exact ⟨_, hv, u, rfl, hu⟩
  · rintro ⟨_, hv, rfl, hle⟩
    exact ⟨hv, hle⟩
  · rintro ⟨hv, hle⟩
    exact ⟨_, hv, rfl, hle⟩

end Fields

/-- A kind of records: its name, how data is checked for it, and its fields as plain members. -/
structure Schema (α : Type) where
  name : Text
  check : Members → Checked α
  fields : α → Members

namespace Schema

variable {α : Type}

def read (m : Schema α) : Value → Checked α := record m.name m.check

def write (m : Schema α) (a : α) : Value := .obj (m.fields a)

def IsProjection (m : Schema α) : Prop := ∀ v a, m.read v = .ok a → m.read (m.write a) = .ok a

theorem read_eq_ok_iff {m : Schema α} {v : Value} {a : α} :
    m.read v = .ok a ↔ ∃ ms, v = .obj ms ∧ m.check ms = .ok a :=
  record_eq_ok_iff

theorem isProjection_of_check {m : Schema α}
    (h : ∀ ms a, m.check ms = .ok a → m.check (m.fields a) = .ok a) : m.IsProjection := by
  intro v a hread
  obtain ⟨ms, -, hcheck⟩ := read_eq_ok_iff.1 hread
  exact h ms a hcheck

def keep : Schema Keep := ⟨"KeepModifier".toList, Intake.keep, Keep.fields⟩

def signed : Schema Sign := ⟨"_SignedTerm".toList, termSign, Sign.fields⟩

def flatTerm : Schema Term := ⟨"FlatTerm".toList, Intake.flatTerm, Term.fields⟩

def diceTerm : Schema Term := ⟨"DiceTerm".toList, Intake.diceTerm, Term.fields⟩

def formula : Schema Formula := ⟨"ParsedFormula".toList, Intake.formula, Formula.fields⟩

def score : Schema Score := ⟨"TermResult".toList, Intake.score, Score.fields⟩

def pass : Schema Pass := ⟨"PassResult".toList, Intake.pass, Pass.fields⟩

def report : Schema Report := ⟨"RollReport".toList, Intake.report, Report.fields⟩

def rollRequest : Schema RollRequest :=
  ⟨"RollRequest".toList, Intake.rollRequest, RollRequest.fields⟩

def chatRequest : Schema ChatRequest :=
  ⟨"ChatMessageRequest".toList, Intake.chatRequest, ChatRequest.fields⟩

theorem isProjection_keep : keep.IsProjection :=
  isProjection_of_check fun _ k _ => keep_fields k

theorem isProjection_signed : signed.IsProjection :=
  isProjection_of_check fun _ s _ => termSign_sign_fields s

theorem isProjection_flatTerm : flatTerm.IsProjection := by
  refine isProjection_of_check fun ms t h => ?_
  obtain ⟨⟨n, hn⟩, -⟩ := flatTerm_eq_ok_iff.1 h
  obtain ⟨s, a⟩ := t
  obtain rfl : a = .flat n := hn
  exact flatTerm_fields s n

theorem isProjection_diceTerm : diceTerm.IsProjection := by
  refine isProjection_of_check fun ms t h => ?_
  obtain ⟨⟨d, hd⟩, -⟩ := diceTerm_eq_ok_iff.1 h
  obtain ⟨s, a⟩ := t
  obtain rfl : a = .dice d := hd
  exact diceTerm_fields s d

theorem isProjection_formula : formula.IsProjection :=
  isProjection_of_check fun _ f _ => formula_fields f

theorem isProjection_score : score.IsProjection :=
  isProjection_of_check fun _ s _ => score_fields s

theorem isProjection_pass : pass.IsProjection :=
  isProjection_of_check fun _ p _ => pass_fields p

theorem isProjection_report : report.IsProjection :=
  isProjection_of_check fun _ _ h => report_fields (passes_ne_nil_of_report_eq_ok h)

theorem isProjection_rollRequest : rollRequest.IsProjection :=
  isProjection_of_check fun _ _ h =>
    rollRequest_eq_ok_iff.2 ⟨rfl, (rollRequest_eq_ok_iff.1 h).2⟩

/-- The name of a channel has been trimmed already, and has become no longer by that. -/
theorem isProjection_chatRequest : chatRequest.IsProjection := by
  refine isProjection_of_check fun ms r h => ?_
  obtain ⟨⟨t, -, hle, htrimmed, hne⟩, -, htext⟩ := chatRequest_eq_ok_iff.1 h
  have hlength : r.channel.length ≤ 200 :=
    htrimmed ▸ (Text.length_trimmed_le Text.isBlank t).trans hle
  have hagain : r.channel = Text.trimmed Text.isBlank r.channel := by
    rw [htrimmed, Text.trimmed_trimmed]
  exact chatRequest_eq_ok_iff.2 ⟨⟨r.channel, rfl, hlength, hagain, hne⟩, rfl, htext⟩

end Schema

theorem flatTerm_fields_dice (s : Sign) (d : Dice) :
    ∃ is, flatTerm (Term.fields ⟨s, .dice d⟩) = .error is := by
  have hvalue : required "value".toList (numeral 4) (Term.fields ⟨s, .dice d⟩) =
      .error [⟨[.field "value".toList], .missing⟩] := required_eq_error rfl
  exact ⟨_, by rw [flatTerm, termSign_fields, hvalue]; rfl⟩

def TellsKind (t : Term) : Prop :=
  match t.amount with
  | .flat _ => Schema.flatTerm.read (.obj t.fields) = .ok t ∧
      ∃ is, Schema.diceTerm.read (.obj t.fields) = .error is
  | .dice _ => Schema.diceTerm.read (.obj t.fields) = .ok t ∧
      ∃ is, Schema.flatTerm.read (.obj t.fields) = .error is

theorem tellsKind (t : Term) : TellsKind t := by
  obtain ⟨s, a⟩ := t
  cases a with
  | flat n => exact ⟨flatTerm_fields s n, diceTerm_fields_flat s n⟩
  | dice d => exact ⟨diceTerm_fields s d, flatTerm_fields_dice s d⟩

theorem terms_of_formula_eq_ok {ms : Members} {f : Formula} (h : formula ms = .ok f) :
    ∃ vs, ms.get? "terms".toList = some (.arr vs) ∧
      List.Forall₂ (fun v t => term v = .ok t) vs f.terms := by
  obtain ⟨⟨t, n, ts⟩, hboth, rfl⟩ := map_eq_ok_iff.1 h
  obtain ⟨-, hterms⟩ := both_eq_ok_iff.1 (both_eq_ok_iff.1 hboth).2
  obtain ⟨v, hv, hlist⟩ := required_eq_ok_iff.1 hterms
  obtain ⟨vs, rfl, hvs⟩ := nonemptyList_eq_ok_iff.1 hlist
  exact ⟨vs, hv, hvs⟩

/-- For every kind of records, what has been read is read again from its own fields as the same.
The terms of a formula are read one by one, and each of them is written in its place, as members
that are read as this term again and are refused for the other kind. A term that has been read, by
itself or as one of either kind, is what its members give, within the bounds of its fields. -/
theorem reading_is_projection :
    (Schema.keep.IsProjection ∧ Schema.signed.IsProjection ∧ Schema.flatTerm.IsProjection ∧
      Schema.diceTerm.IsProjection ∧ Schema.formula.IsProjection ∧ Schema.score.IsProjection ∧
      Schema.pass.IsProjection ∧ Schema.report.IsProjection ∧ Schema.rollRequest.IsProjection ∧
      Schema.chatRequest.IsProjection) ∧
    (∀ v f, Schema.formula.read v = .ok f → ∃ (ms : Members) (vs : List Value), v = .obj ms ∧
      ms.get? "terms".toList = some (.arr vs) ∧
      List.Forall₂ (fun v t => term v = .ok t) vs f.terms ∧
      (Schema.formula.fields f).get? "terms".toList =
        some (.arr (f.terms.map fun t => .obj t.fields)) ∧
      ∀ t ∈ f.terms, term (.obj t.fields) = .ok t ∧ TellsKind t) ∧
    (∀ v t, term v = .ok t → ∃ ms, v = .obj ms ∧ t.GivenBy ms ∧
      ((∃ d : Dice, d.GivenBy ms) → ∃ d, t.amount = .dice d) ∧ t.InBounds) ∧
    ∀ v t, Schema.flatTerm.read v = .ok t ∨ Schema.diceTerm.read v = .ok t →
      ∃ ms, v = .obj ms ∧ t.GivenBy ms ∧ t.InBounds := by
  refine ⟨⟨Schema.isProjection_keep, Schema.isProjection_signed, Schema.isProjection_flatTerm,
    Schema.isProjection_diceTerm, Schema.isProjection_formula, Schema.isProjection_score,
    Schema.isProjection_pass, Schema.isProjection_report, Schema.isProjection_rollRequest,
    Schema.isProjection_chatRequest⟩, fun v f h => ?_, fun v t h => ?_, fun v t h => ?_⟩
  · obtain ⟨ms, rfl, hcheck⟩ := Schema.read_eq_ok_iff.1 h
    obtain ⟨vs, hget, hvs⟩ := terms_of_formula_eq_ok hcheck
    exact ⟨ms, vs, rfl, hget, hvs, rfl, fun t _ => ⟨term_fields t, tellsKind t⟩⟩
  · obtain ⟨ms, rfl, hgiven, hdice⟩ := term_eq_ok_iff.1 h
    exact ⟨ms, rfl, hgiven, hdice, t.inBounds⟩
  · rcases h with h | h
    · obtain ⟨ms, rfl, hcheck⟩ := Schema.read_eq_ok_iff.1 h
      exact ⟨ms, rfl, (flatTerm_eq_ok_iff.1 hcheck).2, t.inBounds⟩
    · obtain ⟨ms, rfl, hcheck⟩ := Schema.read_eq_ok_iff.1 h
      exact ⟨ms, rfl, (diceTerm_eq_ok_iff.1 hcheck).2, t.inBounds⟩

theorem reading_is_projection_odd_data :
    let dice : Value := .obj [(some "value".toList, .real (.finite false 3 0)),
      (some "count".toList, .bool true), (some "sides".toList, .str (some " 1_0 ".toList)),
      (some "keep".toList, .obj [(some "kind".toList, .str (some ['h'])),
        (some "count".toList, .int 2)])]
    let flat : Value := .obj [(some "sign".toList, .int (-1)), (none, .null),
      (some "value".toList, .str (some "+07.00".toList)), (some "keep".toList, .null)]
    let data : Value := .obj [(some "text".toList, .str (some "x".toList)),
      (some "terms".toList, .arr [dice, flat])]
    let message : Value := .obj [(some "channel".toList, .str (some " #ops\t".toList)),
      (some "text".toList, .str (some []))]
    let rolled : Term := ⟨.plus, .dice ⟨⟨1, by decide, by decide⟩, ⟨10, by decide, by decide⟩,
      some ⟨.highest, ⟨2, by decide, by decide⟩⟩⟩⟩
    let f : Formula := ⟨"x".toList, once, [rolled, ⟨.minus, .flat ⟨7, by decide, by decide⟩⟩],
      by decide⟩
    let request : ChatRequest := ⟨"#ops".toList, []⟩
    (Schema.formula.read data = .ok f ∧
      Schema.formula.read (Schema.formula.write f) = .ok f ∧
      ∀ t ∈ f.terms, term (.obj t.fields) = .ok t ∧ TellsKind t) ∧
    (Schema.chatRequest.read message = .ok request ∧
      Schema.chatRequest.read (Schema.chatRequest.write request) = .ok request) ∧
    term dice = .ok rolled ∧ Term.InBounds rolled := by
  intro dice flat data message rolled f request
  have hf : Schema.formula.read data = .ok f := by decide
  have hrequest : Schema.chatRequest.read message = .ok request := by decide
  have hrolled : term dice = .ok rolled := by decide
  obtain ⟨⟨-, -, -, -, hformula, -, -, -, -, hchat⟩, hterms, hunion, -⟩ := reading_is_projection
  obtain ⟨-, -, -, -, -, -, hkinds⟩ := hterms data f hf
  obtain ⟨-, -, -, -, hbounds⟩ := hunion dice rolled hrolled
  exact ⟨⟨hf, hformula data f hf, hkinds⟩, ⟨hrequest, hchat message request hrequest⟩, hrolled,
    hbounds⟩

end Intake
end DiceBot
