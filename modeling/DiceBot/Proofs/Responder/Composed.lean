import DiceBot.Proofs.Formula.Composed
import DiceBot.Proofs.Report.Replay

/-!
# Rolling sums and repeats

A sum is rolled like its two commands one after the other, in a single pass. Repeats
of a command are rolled like the command as often, each time with dice of its own.
-/

namespace DiceBot

open Intake (once)

section Passes

variable {σ : Type} [DieSource σ]

theorem Pass.ofScores_append (xs ys : List Score) :
    Pass.ofScores (xs ++ ys) =
      ⟨(ofScores xs).total + (ofScores ys).total,
        (ofScores xs).traces ++ (ofScores ys).traces⟩ := by
  simp [ofScores_eq]

theorem Pass.roll_terms_append (ts us : List Term) :
    (Pass.roll (ts ++ us) : Play σ Pass) = do
      let p ← Pass.roll ts
      let q ← Pass.roll us
      return ⟨p.total + q.total, p.traces ++ q.traces⟩ := by
  simp [Pass.roll, List.mapM_append, ofScores_append]

theorem Formula.roll_eq_map (f : Formula) : (f.roll : Play σ Report) =
    Report.mk f.text <$> (List.replicate f.repeats.value f.terms).mapM Pass.roll :=
  bind_pure_comp _ _

theorem Formula.roll_of_once {f : Formula} (h : f.repeats = once) :
    (f.roll : Play σ Report) = (fun p => ⟨f.text, [p]⟩) <$> Pass.roll f.terms := by
  rw [roll_eq_map, h]
  simp [once, List.mapM_cons]

theorem Responder.roll_of_notMem {c : Text} {f : Formula} (hc : '#' ∉ c)
    (hf : Formula.parse c = .ok f) :
    (roll c : Play σ (Except Rejection Report)) =
      (fun p => .ok ⟨f.text, [p]⟩) <$> Pass.roll f.terms := by
  rw [roll_of_parse hf, Formula.roll_of_once (Formula.repeats_eq_once hc hf), Functor.map_map]

end Passes

theorem Play.run_both {σ α β γ : Type} (p : Play σ α) (q : Play σ β) (f : α → β → γ) (s : σ) :
    let first := p.run s
    let second := q.run first.source
    let o := (do
      let a ← p
      let b ← q
      return f a b : Play σ γ).run s
    (∃ e, first.result = .error e ∧ o = ⟨.error e, first.source, first.journal⟩) ∨
    ∃ a, first.result = .ok a ∧
      ((∃ e, second.result = .error e ∧
          o = ⟨.error e, second.source, first.journal ++ second.journal⟩) ∨
        ∃ b, second.result = .ok b ∧
          o = ⟨.ok (f a b), second.source, first.journal ++ second.journal⟩) := by
  intro first second o
  cases ha : first.result with
  | error e => exact Or.inl ⟨e, rfl, run_bind_of_error ha _⟩
  | ok a =>
    refine Or.inr ⟨a, rfl, ?_⟩
    have ho := run_bind_of_ok ha fun a => do
      let b ← q
      return f a b
    cases hb : second.result with
    | error e =>
      rw [run_bind_of_error hb] at ho
      exact Or.inl ⟨e, rfl, ho⟩
    | ok b =>
      rw [run_bind_of_ok hb] at ho
      refine Or.inr ⟨b, rfl, ho.trans ?_⟩
      simp [first, second]

section Sum

variable {σ : Type} [DieSource σ] {a b : Text}

theorem Responder.roll_append_eq {f g : Formula} (h : Formula.Joins a b)
    (hf : Formula.parse a = .ok f) (hg : Formula.parse b = .ok g) :
    (roll (a ++ b) : Play σ (Except Rejection Report)) = do
      let p ← Pass.roll f.terms
      let q ← Pass.roll g.terms
      return .ok ⟨f.text ++ g.text, [⟨p.total + q.total, p.traces ++ q.traces⟩]⟩ := by
  rw [roll_of_notMem h.notMem_append (Formula.parse_append h hf hg), Formula.plus,
    Pass.roll_terms_append]
  simp

/-- A command and one behind it that begins with a sign are accepted together exactly if each is,
and are refused for the pieces of the first and then those of the second. The sum has the terms of
both, and its roll is the roll of the first and then that of the second on the same source, in one
pass with the sum of the totals and all traces; it fails where one of the two fails. -/
theorem Responder.roll_append (ha : '#' ∉ a) (hb : '#' ∉ b)
    (hblank : ∃ c ∈ a, Text.isBlank c = false) (hsign : ∃ c ∈ b.first?, Pieces.isSign c) :
    ((∃ h, Formula.parse (a ++ b) = .ok h) ↔
      (∃ f, Formula.parse a = .ok f) ∧ ∃ g, Formula.parse b = .ok g) ∧
    Formula.rejected (a ++ b) = Formula.rejected a ++ Formula.rejected b ∧
    ∀ f g, Formula.parse a = .ok f → Formula.parse b = .ok g →
      (∃ h, Formula.parse (a ++ b) = .ok h ∧ h.terms = f.terms ++ g.terms) ∧
      ∀ (σ : Type) [DieSource σ] (s : σ),
        let first := (roll a : Play σ (Except Rejection Report)).run s
        let second := (roll b : Play σ (Except Rejection Report)).run first.source
        let o := (roll (a ++ b) : Play σ (Except Rejection Report)).run s
        (∃ e, first.result = .error e ∧ o = ⟨.error e, first.source, first.journal⟩) ∨
        ∃ p, first.result = .ok (.ok ⟨Text.squeezed a, [p]⟩) ∧
          ((∃ e, second.result = .error e ∧
              o = ⟨.error e, second.source, first.journal ++ second.journal⟩) ∨
            ∃ q, second.result = .ok (.ok ⟨Text.squeezed b, [q]⟩) ∧
              o = ⟨.ok (.ok ⟨Text.squeezed (a ++ b),
                [⟨p.total + q.total, p.traces ++ q.traces⟩]⟩), second.source,
                first.journal ++ second.journal⟩) := by
  have hjoins : Formula.Joins a b := ⟨ha, hb, hblank, hsign⟩
  have hrejected := Formula.rejected_append hjoins
  refine ⟨?_, hrejected, fun f g hf hg => ⟨?_, fun σ _ s => ?_⟩⟩
  · simp only [Formula.exists_parse_eq_ok_iff_rejected, hrejected, List.append_eq_nil_iff]
  · exact ⟨f.plus g, Formula.parse_append hjoins hf hg, rfl⟩
  · have hftext : f.text = Text.squeezed a := (Formula.parse_eq_ok_iff.1 hf).1
    have hgtext : g.text = Text.squeezed b := (Formula.parse_eq_ok_iff.1 hg).1
    have hsum : Text.squeezed (a ++ b) = f.text ++ g.text := by
      rw [Text.squeezed_append, hftext, hgtext]
    rw [← hftext, ← hgtext, hsum, roll_of_notMem ha hf, roll_of_notMem hb hg,
      roll_append_eq hjoins hf hg]
    intro first second o
    rcases Play.run_both (Pass.roll f.terms) (Pass.roll g.terms) _ s with
      ⟨e, he, ho⟩ | ⟨p, hp, ⟨e, he, ho⟩ | ⟨q, hq, ho⟩⟩
    · exact Or.inl ⟨e, by simp [first, Play.run_map, he, Except.map], ho⟩
    · refine Or.inr ⟨p, by simp [first, Play.run_map, hp, Except.map], Or.inl ⟨e, ?_, ho⟩⟩
      simp [second, first, Play.run_map, he, Except.map]
    · refine Or.inr ⟨p, by simp [first, Play.run_map, hp, Except.map], Or.inr ⟨q, ?_, ho⟩⟩
      simp [second, first, Play.run_map, hq, Except.map]

theorem Responder.roll_append_two_commands :
    let a := " 2d6 ".toList
    let b := "-\t1d4+3".toList
    let f : Formula := ⟨"2d6".toList, once, [⟨.plus, .dice ⟨⟨2, by decide, by decide⟩,
      ⟨6, by decide, by decide⟩, none⟩⟩], by decide⟩
    let g : Formula := ⟨"-1d4+3".toList, once, [⟨.minus, .dice ⟨⟨1, by decide, by decide⟩,
      ⟨4, by decide, by decide⟩, none⟩⟩, ⟨.plus, .flat ⟨3, by decide, by decide⟩⟩], by decide⟩
    let p : Pass := ⟨8, ["2d6=2,6".toList]⟩
    let q : Pass := ⟨-1, ["1d4=4".toList]⟩
    let first := (roll a : Play ScriptedFaces (Except Rejection Report)).run ⟨[6, 2, 4]⟩
    let second := (roll b : Play ScriptedFaces (Except Rejection Report)).run first.source
    let o := (roll (a ++ b) : Play ScriptedFaces (Except Rejection Report)).run ⟨[6, 2, 4]⟩
    Formula.parse a = .ok f ∧ Formula.parse b = .ok g ∧
      first.result = .ok (.ok ⟨"2d6".toList, [p]⟩) ∧
      second.result = .ok (.ok ⟨"-1d4+3".toList, [q]⟩) ∧
      o = ⟨.ok (.ok ⟨Text.squeezed (a ++ b), [⟨7, ["2d6=2,6".toList, "1d4=4".toList]⟩]⟩),
        second.source, first.journal ++ second.journal⟩ := by
  intro a b f g p q first second o
  have hf : Formula.parse a = .ok f := by decide
  have hg : Formula.parse b = .ok g := by decide
  have hthrown : (f.roll.run (⟨[6, 2, 4]⟩ : ScriptedFaces)).result = .ok ⟨"2d6".toList, [p]⟩ := by
    cbv
  have hrest : (f.roll.run (⟨[6, 2, 4]⟩ : ScriptedFaces)).source = ⟨[4]⟩ := by cbv
  have hthrown' : (g.roll.run (⟨[4]⟩ : ScriptedFaces)).result =
      .ok ⟨"-1d4+3".toList, [q]⟩ := by cbv
  have hfirst : first.result = .ok (.ok ⟨"2d6".toList, [p]⟩) := by
    simp only [first, roll_of_parse hf, Play.run_map, hthrown, Except.map]
  have hsecond : second.result = .ok (.ok ⟨"-1d4+3".toList, [q]⟩) := by
    simp only [second, first, roll_of_parse hf, roll_of_parse hg, Play.run_map, hrest, hthrown',
      Except.map]
  have hroll := ((roll_append (a := a) (b := b) (by decide) (by decide) ⟨'2', by decide⟩
    ⟨'-', by decide⟩).2.2 f g hf hg).2 ScriptedFaces ⟨[6, 2, 4]⟩
  rcases hroll with ⟨e, he, -⟩ | ⟨p', hp, ⟨e, he, -⟩ | ⟨q', hq, ho⟩⟩
  · cases hfirst.symm.trans he
  · cases hsecond.symm.trans he
  · cases hfirst.symm.trans hp
    cases hsecond.symm.trans hq
    exact ⟨hf, hg, hfirst, hsecond, ho⟩

end Sum

section Repeated

theorem Play.mapM_replicate_of_eq_map {σ ι κ α β : Type} {p : ι → Play σ β} {q : κ → Play σ α}
    {g : α → β} {x : ι} {y : κ} (h : p x = g <$> q y) (k : Nat) :
    (List.replicate k x).mapM p = List.map g <$> (List.replicate k y).mapM q := by
  induction k with
  | zero => simp
  | succ k ih => simp [List.replicate_succ, List.mapM_cons, h, ih]

variable {σ : Type} [DieSource σ]

def Pass.rolls (k : Nat) (ts : List Term) : Play σ (List Pass) :=
  (List.replicate k ts).mapM Pass.roll

theorem Pass.exists_shares_of_rolls {k : Nat} {ts : List Term} {s : σ} {ps : List Pass}
    (h : ((Pass.rolls k ts).run s).result = .ok ps) :
    ∃ shares : List (List Nat), shares.length = k ∧
      (∀ own ∈ shares, own.length = (ts.flatMap Term.demand).length) ∧
      ((Pass.rolls k ts).run s).journal.draws.map Draw.face = shares.flatten ∧
      ps = shares.map fun own => Pass.ofHand (deal Term.demand ts own) := by
  have hrolls := Play.Follows.mapM (σ := σ) Pass.follows_roll (List.replicate k ts)
  obtain ⟨-, hlen, hps⟩ := hrolls.eq_of_result_eq_ok h
  let faces := ((Pass.rolls k ts).run s).journal.draws.map Draw.face
  let dealt := deal (fun ts => ts.flatMap Term.demand) (List.replicate k ts) faces
  have hfst : dealt.map Prod.fst = List.replicate k ts := map_fst_deal _ _ _
  have hterms : ∀ x ∈ dealt, x.1 = ts := fun x hx =>
    List.eq_of_mem_replicate (hfst ▸ List.mem_map_of_mem hx)
  refine ⟨dealt.map Prod.snd, ?_, ?_, ?_, ?_⟩
  · have hlength := congrArg List.length hfst
    simpa using hlength
  · intro own hown
    obtain ⟨x, hx, rfl⟩ := List.mem_map.1 hown
    rw [length_snd_of_mem_deal hlen hx, hterms x hx]
  · exact (flatMap_snd_deal hlen).symm
  · rw [hps, List.map_map]
    exact List.map_congr_left fun x hx => by rw [Function.comp, hterms x hx]

namespace Formula

variable {f : Formula}

theorem demand_of_once (h : f.repeats = once) : f.demand = f.terms.flatMap Term.demand := by
  rw [demand, h]
  simp [once]

theorem report_of_once {own : List Nat} (h : f.repeats = once)
    (hlen : own.length = (f.terms.flatMap Term.demand).length) :
    f.report own = ⟨f.text, [Pass.ofHand (deal Term.demand f.terms own)]⟩ := by
  rw [report, hands, h]
  simp [once, deal, ← hlen]

theorem exists_shares_of_rolls {σ : Type} [DieSource σ] (f : Formula) {k : Nat} {s : σ}
    {ps : List Pass} (h : f.repeats = once)
    (hps : ((Pass.rolls k f.terms).run s).result = .ok ps) :
    ∃ shares : List (List Nat), shares.length = k ∧
      (ps.map fun p => (⟨f.text, [p]⟩ : Report)) = shares.map f.report ∧
      (∀ own ∈ shares, own.length = f.demand.length) ∧
      ((Pass.rolls k f.terms).run s).journal.draws.map Draw.face = shares.flatten := by
  obtain ⟨shares, hlength, hlen, hfaces, rfl⟩ := Pass.exists_shares_of_rolls hps
  refine ⟨shares, hlength, ?_, demand_of_once h ▸ hlen, hfaces⟩
  rw [List.map_map]
  exact List.map_congr_left fun own hown => (report_of_once h (hlen own hown)).symm

end Formula

namespace Responder

theorem roll_repeated_eq {n : Numeral 2} {c : Text} {f : Formula} (hc : '#' ∉ c)
    (hf : Formula.parse c = .ok f) :
    (roll (n.text ++ '#' :: c) : Play σ (Except Rejection Report)) =
      (fun ps => .ok ⟨n.text ++ '#' :: f.text, ps⟩) <$> Pass.rolls n.value f.terms := by
  rw [roll_of_parse (Formula.parse_repeated n hc hf), Formula.roll_eq_map, Functor.map_map]
  rfl

/-- Repeats before a command neither help nor harm it. They are rolled like the command as often,
with the same throws, and it is the same passes that are reported. Each of them is made of faces of
its own, one share after another. -/
theorem roll_repeated {k : Nat} {c : Text} (hpos : 1 ≤ k) (hle : k ≤ 99) (hc : '#' ∉ c) :
    let raw := Decimal.ofNat k ++ '#' :: c
    ((∃ f, Formula.parse raw = .ok f) ↔ ∃ f, Formula.parse c = .ok f) ∧
    Formula.rejected raw = Formula.rejected c ∧
    ∀ f, Formula.parse c = .ok f → ∀ (σ : Type) [DieSource σ] (s : σ),
      let o := (roll raw : Play σ (Except Rejection Report)).run s
      let calls := ((List.replicate k c).mapM roll : Play σ (List (Except Rejection Report))).run s
      o.source = calls.source ∧ o.journal = calls.journal ∧
      ((∃ e, o.result = .error e ∧ calls.result = .error e) ∨
        ∃ reports : List Report, calls.result = .ok (reports.map .ok) ∧
          o.result = .ok (.ok ⟨Text.squeezed raw, reports.flatMap Report.passes⟩) ∧
          ∃ shares : List (List Nat), shares.length = k ∧ reports = shares.map f.report ∧
            (∀ own ∈ shares, own.length = f.demand.length) ∧
            o.journal.draws.map Draw.face = shares.flatten) := by
  intro raw
  let n : Numeral 2 := ⟨k, hpos, Nat.lt_of_le_of_lt hle (by decide)⟩
  have hraw : raw = n.text ++ '#' :: c := rfl
  have hrejected : Formula.rejected raw = Formula.rejected c := Formula.rejected_repeated n hc
  refine ⟨?_, hrejected, fun f hf σ _ s => ?_⟩
  · simp only [Formula.exists_parse_eq_ok_iff_rejected, hrejected]
  · have honce := Formula.repeats_eq_once hc hf
    have htext : Text.squeezed raw = n.text ++ '#' :: f.text := by
      rw [hraw, Formula.squeezed_repeated, (Formula.parse_eq_ok_iff.1 hf).1]
    have hcalls := Play.mapM_replicate_of_eq_map (roll_of_notMem (σ := σ) hc hf) k
    rw [hcalls, htext, hraw, roll_repeated_eq hc hf]
    intro o calls
    let passes := (Pass.rolls k f.terms : Play σ (List Pass)).run s
    have ho : o.result = passes.result.map fun ps => .ok ⟨n.text ++ '#' :: f.text, ps⟩ := rfl
    have hc : calls.result = passes.result.map (List.map fun p => .ok ⟨f.text, [p]⟩) := rfl
    refine ⟨rfl, rfl, ?_⟩
    rw [ho, hc]
    cases hps : passes.result with
    | error e => exact Or.inl ⟨e, rfl, rfl⟩
    | ok ps =>
      refine Or.inr ⟨ps.map fun p => ⟨f.text, [p]⟩, ?_, ?_, f.exists_shares_of_rolls honce hps⟩
      · rw [List.map_map]
        rfl
      · rw [List.flatMap_map, List.flatMap_singleton']
        rfl

theorem roll_repeated_two_dice :
    let c := "2d6h1 ".toList
    let raw := "3#2d6h1 ".toList
    let f : Formula := ⟨"2d6h1".toList, once, [⟨.plus, .dice ⟨⟨2, by decide, by decide⟩,
      ⟨6, by decide, by decide⟩, some ⟨.highest, ⟨1, by decide, by decide⟩⟩⟩⟩], by decide⟩
    let script : ScriptedFaces := ⟨[6, 2, 4, 1, 5, 5]⟩
    let o := (roll raw : Play ScriptedFaces (Except Rejection Report)).run script
    let calls := ((List.replicate 3 c).mapM roll :
      Play ScriptedFaces (List (Except Rejection Report))).run script
    Formula.parse c = .ok f ∧ o.source = calls.source ∧ o.journal = calls.journal ∧
      ∃ reports : List Report, calls.result = .ok (reports.map .ok) ∧
        o.result = .ok (.ok ⟨Text.squeezed raw, reports.flatMap Report.passes⟩) ∧
        ∃ shares : List (List Nat), shares.length = 3 ∧ reports = shares.map f.report ∧
          shares.flatten = [6, 2, 4, 1, 5, 5] := by
  intro c raw f script o calls
  let whole : Formula := f.repeated ⟨3, by decide, by decide⟩
  let r : Report := ⟨"3#2d6h1".toList,
    [⟨6, ["2d6h1=2,6".toList]⟩, ⟨4, ["2d6h1=1,4".toList]⟩, ⟨5, ["2d6h1=5,5".toList]⟩]⟩
  have hf : Formula.parse c = .ok f := by decide
  have hraw : Formula.parse raw = .ok whole := by decide
  have hrolled : (whole.roll.run script).result = .ok r := by cbv
  have hdraws : (whole.roll.run script).journal.draws.map Draw.face = [6, 2, 4, 1, 5, 5] := by cbv
  have ho : o.result = .ok (.ok r) := by
    simp only [o, roll_of_parse hraw, Play.run_map, hrolled, Except.map]
  have hthrown : o.journal.draws.map Draw.face = [6, 2, 4, 1, 5, 5] := by
    simp only [o, roll_of_parse hraw, Play.run_map, hdraws]
  obtain ⟨hsource, hjournal, hresult⟩ :=
    (roll_repeated (k := 3) (c := c) (by decide) (by decide) (by decide)).2.2 f hf
      ScriptedFaces script
  refine ⟨hf, hsource, hjournal, ?_⟩
  rcases hresult with ⟨e, he, -⟩ | ⟨reports, hcalls, hreport, shares, hlength, hshares, -, hfaces⟩
  · cases ho.symm.trans he
  · exact ⟨reports, hcalls, hreport, shares, hlength, hshares, hfaces.symm.trans hthrown⟩

end Responder

end Repeated

end DiceBot
