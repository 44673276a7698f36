import Mathlib.Data.List.Forall2
import DiceBot.Proofs.Formula.RoundTrip
import DiceBot.Proofs.Report.Rolling
import DiceBot.Proofs.Text.Joined

/-!
# Telling reports apart

Each part of a report is written in few characters, so that the marks between the
parts are found again. The text of a report of a formula that can be read gives
away the formula, the totals, and the sorted faces of every hand.
-/

namespace DiceBot

theorem Decimal.ofInt_subset (i : Int) : ofInt i ⊆ '-' :: digitChars := by
  cases i with
  | ofNat n => exact List.subset_cons_of_subset _ (ofNat_subset n)
  | negSucc n => exact List.cons_subset_cons _ (ofNat_subset (n + 1))

theorem Decimal.minus_notMem_ofNat (n : Nat) : '-' ∉ ofNat n := fun h =>
  absurd (ofNat_subset n h) (by decide)

theorem Decimal.ofInt_injective : Function.Injective ofInt := by
  intro i j h
  cases i with
  | ofNat m =>
    cases j with
    | ofNat n => rw [ofNat_injective h]
    | negSucc n =>
      have hm : ofNat m = '-' :: ofNat (n + 1) := h
      exact absurd (hm ▸ List.mem_cons_self) (minus_notMem_ofNat m)
  | negSucc m =>
    cases j with
    | ofNat n =>
      have hn : '-' :: ofNat (m + 1) = ofNat n := h
      exact absurd (hn ▸ List.mem_cons_self) (minus_notMem_ofNat n)
    | negSucc n =>
      have hmn : ofNat (m + 1) = ofNat (n + 1) := (List.cons.inj h).2
      rw [Nat.succ.inj (ofNat_injective hmn)]

def traceChars : Text := ['=', ','] ++ expressionChars

def bodyChars : Text := ['[', ' ', ';', '-'] ++ traceChars

theorem intercalate_map_ofNat_subset (faces : List Nat) :
    [','].intercalate (faces.map Decimal.ofNat) ⊆ ',' :: Decimal.digitChars := by
  refine Text.intercalate_subset (by simp) fun x hx => ?_
  obtain ⟨n, -, rfl⟩ := List.mem_map.1 hx
  exact List.subset_cons_of_subset _ (Decimal.ofNat_subset n)

theorem Term.shown_subset {t : Term} {faces : List Nat} {trace : Text}
    (h : t.shown faces = some trace) : trace ⊆ traceChars := by
  obtain ⟨s, a⟩ := t
  cases a with
  | flat v => cases h
  | dice d =>
    cases h
    refine List.append_subset.2
      ⟨List.subset_append_of_subset_right _ d.expression_subset, List.cons_subset.2 ⟨by decide, ?_⟩⟩
    exact List.Subset.trans (intercalate_map_ofNat_subset _) (by decide)

namespace Pass

def body (p : Pass) : Text :=
  match p.traces with
  | [] => '[' :: Decimal.ofInt p.total
  | ts => '[' :: Decimal.ofInt p.total ++ ' ' :: [';', ' '].intercalate ts

theorem render_eq_body (p : Pass) : p.render = p.body ++ [']'] := by
  obtain ⟨total, traces⟩ := p
  cases traces with
  | nil => rfl
  | cons t ts => simp [render, body]

theorem body_subset {p : Pass} (h : ∀ t ∈ p.traces, t ⊆ traceChars) : p.body ⊆ bodyChars := by
  obtain ⟨total, traces⟩ := p
  have htotal : '[' :: Decimal.ofInt total ⊆ bodyChars := by
    refine List.cons_subset.2 ⟨by decide, ?_⟩
    exact List.Subset.trans (Decimal.ofInt_subset total) (by decide)
  cases traces with
  | nil => exact htotal
  | cons t ts =>
    refine List.append_subset.2 ⟨htotal, List.cons_subset.2 ⟨by decide, ?_⟩⟩
    exact Text.intercalate_subset (by decide) fun x hx =>
      List.subset_append_of_subset_right _ (h x hx)

theorem eq_of_body_eq {p q : Pass} (hlen : p.traces.length = q.traces.length)
    (hp : ∀ t ∈ p.traces, t ⊆ traceChars) (hq : ∀ t ∈ q.traces, t ⊆ traceChars)
    (h : p.body = q.body) : p = q := by
  obtain ⟨total, traces⟩ := p
  obtain ⟨total', traces'⟩ := q
  dsimp only at hlen hp hq
  cases traces with
  | nil =>
    obtain rfl : traces' = [] := List.length_eq_zero_iff.1 hlen.symm
    obtain rfl : total = total' := Decimal.ofInt_injective (List.cons.inj h).2
    rfl
  | cons t ts =>
    cases traces' with
    | nil => cases hlen
    | cons t' ts' =>
      -- the total ends at the first blank, the traces are cut at semicolons
      have hspace : ∀ i, ' ' ∉ Decimal.ofInt i := fun i hi =>
        absurd (Decimal.ofInt_subset i hi) (by decide)
      obtain ⟨htotal, htraces⟩ :=
        Text.eq_and_eq_of_append_cons (hspace total) (hspace total') (List.cons.inj h).2
      have hmark : ';' ∉ traceChars := by decide
      have hts : t :: ts = t' :: ts' := Text.eq_of_intercalate_eq hlen
        (fun x hx hm => hmark (hp x hx hm)) (fun x hx hm => hmark (hq x hx hm)) htraces
      obtain rfl : total = total' := Decimal.ofInt_injective htotal
      rw [hts]

theorem eq_of_map_body_eq {ps qs : List Pass}
    (hshape : ps.map (·.traces.length) = qs.map (·.traces.length))
    (hps : ∀ p ∈ ps, ∀ t ∈ p.traces, t ⊆ traceChars)
    (hqs : ∀ q ∈ qs, ∀ t ∈ q.traces, t ⊆ traceChars)
    (h : ps.map body = qs.map body) : ps = qs := by
  induction ps generalizing qs with
  | nil => exact (List.map_eq_nil_iff.1 h.symm).symm
  | cons p ps ih =>
    cases qs with
    | nil => cases h
    | cons q qs =>
      obtain ⟨hlen, hshape⟩ := List.cons.inj hshape
      obtain ⟨hbody, h⟩ := List.cons.inj h
      rw [eq_of_body_eq hlen (hps p (by simp)) (hqs q (by simp)) hbody,
        ih hshape (fun p hp => hps p (List.mem_cons_of_mem _ hp))
          (fun q hq => hqs q (List.mem_cons_of_mem _ hq)) h]

end Pass

structure Report.IsPlain (r : Report) : Prop where
  formula : r.formula ⊆ formulaChars
  traces : ∀ p ∈ r.passes, ∀ t ∈ p.traces, t ⊆ traceChars

namespace Report

variable {r r' : Report}

theorem formula_eq_of_render_eq (hr : r.IsPlain) (hr' : r'.IsPlain) (h : r.render = r'.render) :
    r.formula = r'.formula ∧ [' '].intercalate (r.passes.map Pass.render) =
      [' '].intercalate (r'.passes.map Pass.render) := by
  have hcolon : ':' ∉ formulaChars := by decide
  obtain ⟨hformula, hrest⟩ := Text.eq_and_eq_of_append_cons
    (fun hm => hcolon (hr.formula hm)) (fun hm => hcolon (hr'.formula hm)) h
  exact ⟨hformula, (List.cons.inj hrest).2⟩

theorem eq_of_render_eq (hr : r.IsPlain) (hr' : r'.IsPlain)
    (hshape : r.passes.map (·.traces.length) = r'.passes.map (·.traces.length))
    (h : r.render = r'.render) : r = r' := by
  obtain ⟨hformula, hjoin⟩ := formula_eq_of_render_eq hr hr' h
  -- a pass ends at its closing bracket, since blanks stand inside passes too
  have hbracket : ']' ∉ bodyChars := by decide
  have hbodies : ∀ {r : Report}, r.IsPlain → ∀ b ∈ r.passes.map Pass.body, ']' ∉ b := by
    intro r hr b hb hm
    obtain ⟨p, hp, rfl⟩ := List.mem_map.1 hb
    exact hbracket (Pass.body_subset (hr.traces p hp) hm)
  have hrender : ∀ r : Report,
      r.passes.map Pass.render = (r.passes.map Pass.body).map (· ++ [']']) := by
    intro r
    rw [List.map_map]
    exact List.map_congr_left fun p _ => p.render_eq_body
  have hlen : (r.passes.map Pass.body).length = (r'.passes.map Pass.body).length := by
    simpa using congrArg List.length hshape
  rw [hrender, hrender] at hjoin
  have hbody := Text.eq_of_intercalate_map_append_eq hlen (hbodies hr) (hbodies hr') hjoin
  have hpasses : r.passes = r'.passes := Pass.eq_of_map_body_eq hshape hr.traces hr'.traces hbody
  obtain ⟨formula, passes⟩ := r
  obtain ⟨formula', passes'⟩ := r'
  exact congrArg₂ Report.mk hformula hpasses

end Report

def SameHand (hand hand' : List (Term × List Nat)) : Prop :=
  List.Forall₂ (fun h h' => h.1 = h'.1 ∧ h.2.Perm h'.2) hand hand'

theorem Term.isSome_shown (t : Term) (faces : List Nat) :
    (t.shown faces).isSome = (t.shown []).isSome := by
  rw [shown, shown]
  split <;> rfl

theorem Term.perm_of_shown_eq {t : Term} {faces faces' : List Nat}
    (hlen : faces.length = t.demand.length) (hlen' : faces'.length = t.demand.length)
    (h : t.shown faces = t.shown faces') : faces.Perm faces' := by
  obtain ⟨s, a⟩ := t
  cases a with
  | flat v =>
    obtain rfl : faces = [] := List.length_eq_zero_iff.1 hlen
    obtain rfl : faces' = [] := List.length_eq_zero_iff.1 hlen'
    exact List.Perm.refl _
  | dice d =>
    have hjoin := (List.cons.inj (List.append_cancel_left (Option.some.inj h))).2
    have hcomma : ∀ faces : List Nat, ∀ x ∈ faces.map Decimal.ofNat, ',' ∉ x := by
      intro faces x hx hm
      obtain ⟨n, -, rfl⟩ := List.mem_map.1 hx
      exact absurd (Decimal.ofNat_subset n hm) (by decide)
    have hmap := Text.eq_of_intercalate_eq
      (by simp only [List.length_map, List.length_mergeSort, hlen, hlen'])
      (hcomma _) (hcomma _) hjoin
    have hsort : faces.mergeSort = faces'.mergeSort :=
      List.map_injective_iff.2 Decimal.ofNat_injective hmap
    calc faces.Perm faces.mergeSort := (List.mergeSort_perm _ _).symm
      _ = faces'.mergeSort := hsort
      List.Perm _ faces' := List.mergeSort_perm _ _

namespace Pass

variable {hand hand' : List (Term × List Nat)}

theorem ofHand_eq_of_sameHand (h : SameHand hand hand') : ofHand hand = ofHand hand' := by
  have hworth : hand.map (fun h => h.1.worth h.2) = hand'.map fun h => h.1.worth h.2 := by
    induction h with
    | nil => rfl
    | cons hx _ ih => rw [List.map_cons, List.map_cons, ih, hx.1, Term.worth_eq_of_perm hx.2]
  have hshown : hand.filterMap (fun h => h.1.shown h.2) =
      hand'.filterMap fun h => h.1.shown h.2 := by
    clear hworth
    induction h with
    | nil => rfl
    | cons hx _ ih =>
      rw [List.filterMap_cons, List.filterMap_cons, ih, hx.1, Term.shown_eq_of_perm hx.2]
  rw [ofHand, ofHand, hworth, hshown]

theorem length_traces_ofHand (hand : List (Term × List Nat)) :
    (ofHand hand).traces.length =
      (hand.map Prod.fst).countP fun t => (t.shown []).isSome := by
  rw [ofHand, List.length_filterMap_eq_countP, List.countP_map]
  exact List.countP_congr fun h _ => by rw [h.1.isSome_shown]; rfl

theorem sameHand_of_traces_eq (hterms : hand.map Prod.fst = hand'.map Prod.fst)
    (hlen : ∀ h ∈ hand, h.2.length = h.1.demand.length)
    (hlen' : ∀ h ∈ hand', h.2.length = h.1.demand.length)
    (h : (ofHand hand).traces = (ofHand hand').traces) : SameHand hand hand' := by
  induction hand generalizing hand' with
  | nil =>
    obtain rfl : hand' = [] := List.map_eq_nil_iff.1 hterms.symm
    exact .nil
  | cons x hand ih =>
    cases hand' with
    | nil => cases hterms
    | cons x' hand' =>
      obtain ⟨t, faces⟩ := x
      obtain ⟨t', faces'⟩ := x'
      obtain ⟨ht, hrest⟩ := List.cons.inj hterms
      obtain rfl : t = t' := ht
      have hx : faces.length = t.demand.length := hlen (t, faces) (by simp)
      have hx' : faces'.length = t.demand.length := hlen' (t, faces') (by simp)
      -- a term leaves a trace in both hands or in none
      have hparts : t.shown faces = t.shown faces' ∧
          (ofHand hand).traces = (ofHand hand').traces := by
        have hsome := t.isSome_shown faces
        rw [← t.isSome_shown faces'] at hsome
        simp only [ofHand, List.filterMap_cons] at h ⊢
        cases hs : t.shown faces <;> cases hs' : t.shown faces' <;> simp_all
      exact .cons ⟨rfl, Term.perm_of_shown_eq hx hx' hparts.1⟩
        (ih hrest (fun y hy => hlen y (List.mem_cons_of_mem _ hy))
          (fun y hy => hlen' y (List.mem_cons_of_mem _ hy)) hparts.2)

theorem forall₂_sameHand_of_map_eq {hands hands' : List (List (Term × List Nat))} {ts : List Term}
    (hdealt : ∀ hand ∈ hands, hand.map Prod.fst = ts ∧ ∀ h ∈ hand, h.2.length = h.1.demand.length)
    (hdealt' : ∀ hand ∈ hands', hand.map Prod.fst = ts ∧ ∀ h ∈ hand, h.2.length = h.1.demand.length)
    (h : hands.map ofHand = hands'.map ofHand) : List.Forall₂ SameHand hands hands' := by
  induction hands generalizing hands' with
  | nil =>
    obtain rfl : hands' = [] := List.map_eq_nil_iff.1 h.symm
    exact .nil
  | cons hand hands ih =>
    cases hands' with
    | nil => cases h
    | cons hand' hands' =>
      obtain ⟨hpass, hrest⟩ := List.cons.inj h
      obtain ⟨hterms, hlen⟩ := hdealt hand (by simp)
      obtain ⟨hterms', hlen'⟩ := hdealt' hand' (by simp)
      exact .cons
        (sameHand_of_traces_eq (hterms.trans hterms'.symm) hlen hlen' (congrArg traces hpass))
        (ih (fun y hy => hdealt y (List.mem_cons_of_mem _ hy))
          (fun y hy => hdealt' y (List.mem_cons_of_mem _ hy)) hrest)

end Pass

namespace Formula

variable {f f' : Formula} {faces faces' : List Nat}

theorem map_fst_hands (f : Formula) (faces : List Nat) :
    (f.hands faces).map (List.map Prod.fst) = List.replicate f.repeats.value f.terms := by
  rw [hands, List.map_map]
  have hterms : ∀ h : List Term × List Nat,
      (List.map Prod.fst ∘ fun h => deal Term.demand h.1 h.2) h = h.1 := fun h => map_fst_deal _ _ _
  rw [funext hterms]
  exact map_fst_deal _ _ _

theorem isPlain_report (hf : Spells f.repeats f.terms f.text) : (f.report faces).IsPlain where
  formula := hf.subset
  traces := by
    intro p hp t ht
    obtain ⟨hand, -, rfl⟩ := List.mem_map.1 hp
    obtain ⟨h, -, hshown⟩ := List.mem_filterMap.1 ht
    exact Term.shown_subset hshown

theorem traces_length_report (f : Formula) (faces : List Nat) :
    (f.report faces).passes.map (·.traces.length) =
      List.replicate f.repeats.value (f.terms.countP fun t => (t.shown []).isSome) := by
  rw [report, List.map_map, ← List.map_replicate, ← map_fst_hands f faces, List.map_map]
  exact List.map_congr_left fun hand _ => Pass.length_traces_ofHand hand

theorem eq_of_render_eq (hf : Spells f.repeats f.terms f.text)
    (hf' : Spells f'.repeats f'.terms f'.text)
    (h : (f.report faces).render = (f'.report faces').render) : f = f' := by
  obtain ⟨text, repeats, terms, hterms⟩ := f
  obtain ⟨text', repeats', terms', hterms'⟩ := f'
  obtain rfl : text = text' :=
    (Report.formula_eq_of_render_eq (isPlain_report hf) (isPlain_report hf') h).1
  obtain ⟨rfl, rfl⟩ := Spells.unique hterms hterms' hf hf'
  rfl

theorem report_eq_of_render_eq (hf : Spells f.repeats f.terms f.text)
    (h : (f.report faces).render = (f.report faces').render) : f.report faces = f.report faces' :=
  Report.eq_of_render_eq (isPlain_report hf) (isPlain_report hf)
    (by rw [traces_length_report, traces_length_report]) h

theorem sameHand_of_report_eq (hlen : faces.length = f.demand.length)
    (hlen' : faces'.length = f.demand.length) (h : f.report faces = f.report faces') :
    List.Forall₂ SameHand (f.hands faces) (f.hands faces') :=
  Pass.forall₂_sameHand_of_map_eq (f.hands_spec hlen).2.1 (f.hands_spec hlen').2.1
    (congrArg Report.passes h)

end Formula

end DiceBot
