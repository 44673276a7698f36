import DiceBot.Proofs.Formula.Pieces
import DiceBot.Proofs.Formula.Spelling
import DiceBot.Proofs.Intake.Fields

/-!
# Writing and reading formulas

A formula is written as its repeats, a number sign and its terms, each behind its
sign. One repeat and a plus sign at the front may be left out. Reading accepts
these spellings and no other texts, up to blanks, and gives back what was spelled.
-/

namespace DiceBot

open Intake (once)

/-- The spellings of a sum. A plus sign at the front may be left out. -/
inductive SpellsSum : List Term → Text → Prop where
  | signed (ts : List Term) : SpellsSum ts (ts.flatMap Term.spelled)
  | unsigned (a : Amount) (ts : List Term) :
    SpellsSum (⟨.plus, a⟩ :: ts) (a.expression ++ ts.flatMap Term.spelled)

/-- The spellings of a formula. The repeats may be left out when there is one. -/
inductive Spells : Numeral 2 → List Term → Text → Prop where
  | counted {ts : List Term} {c : Text} (n : Numeral 2) :
    SpellsSum ts c → Spells n ts (n.text ++ '#' :: c)
  | uncounted {ts : List Term} {c : Text} : SpellsSum ts c → Spells once ts c

def formulaChars : Text := ['#', '+', '-'] ++ expressionChars

theorem isSign_of_mem_expressionChars {c : Char} (h : c ∈ expressionChars) :
    Pieces.isSign c = false := by
  have hall : expressionChars.all fun x => !Pieces.isSign x := by decide
  simpa using List.all_eq_true.1 hall c h

theorem Sign.isSign_mark (s : Sign) : Pieces.isSign s.mark := by cases s <;> rfl

theorem Term.isSigned_spelled (t : Term) : Pieces.IsSigned t.spelled :=
  Pieces.isSigned_cons.2 ⟨t.sign.isSign_mark, fun _ hc =>
    isSign_of_mem_expressionChars (t.amount.expression_subset hc)⟩

theorem Term.spelled_injective : Function.Injective Term.spelled := by
  intro t u h
  have ht := Term.parse_eq_ok_iff.2 (rfl : t.spelled = t.spelled)
  have hu := Term.parse_eq_ok_iff.2 h
  exact Except.ok.inj (ht.symm.trans hu)

theorem sift_eq_iff {ps : List Text} {ts : List Term} :
    sift ps = ([], ts) ↔ ps = ts.map Term.spelled := by
  induction ps generalizing ts with
  | nil => simp [sift, eq_comm]
  | cons p ps ih =>
    simp only [sift]
    cases hp : Term.parse p with
    | error e =>
      simp only [Prod.mk.injEq, reduceCtorEq, false_and, false_iff]
      intro h
      cases ts with
      | nil => cases h
      | cons t ts =>
        have ht := Term.parse_eq_ok_iff.2 (List.cons.inj h).1
        rw [hp] at ht
        cases ht
    | ok t =>
      cases ts with
      | nil => simp
      | cons u us =>
        have htail : (sift ps).1 = [] ∧ (sift ps).2 = us ↔ ps = us.map Term.spelled := by
          rw [← ih, Prod.ext_iff]
        rw [Term.parse_eq_ok_iff.1 hp, List.map_cons, List.cons.injEq, Prod.mk.injEq,
          List.cons.injEq, Term.spelled_injective.eq_iff, ← htail]
        exact and_left_comm

theorem Formula.parse_eq_ok_iff_sift {raw : Text} {f : Formula} :
    Formula.parse raw = .ok f ↔ f.text = Text.squeezed raw ∧
      readRepeats (Pieces.splitRepeats f.text).1 = .ok f.repeats ∧
      sift (Pieces.ofCommand (Pieces.signed (Pieces.splitRepeats f.text).2)) = ([], f.terms) := by
  obtain ⟨text, repeats, terms, hterms⟩ := f
  simp only [parse]
  constructor
  · intro h
    split at h
    · cases h
    · rename_i n hn
      split at h
      · rename_i hbad
        cases h
        exact ⟨rfl, hn, Prod.ext hbad rfl⟩
      · cases h
  · intro h
    obtain ⟨rfl, hn, hs⟩ := h
    simp [hn, hs]

theorem Formula.of_parse_eq_error {raw : Text} {r : Rejection} (h : Formula.parse raw = .error r) :
    r.text = Text.squeezed raw ∧ r.pieces ≠ [] := by
  simp only [parse] at h
  split at h
  · cases h
    exact ⟨rfl, List.cons_ne_nil _ _⟩
  · split at h
    · cases h
    · rename_i hbad
      cases h
      exact ⟨rfl, hbad⟩

theorem signed_append_of_expression (a : Amount) (t : Text) :
    Pieces.signed (a.expression ++ t) = '+' :: (a.expression ++ t) := by
  apply Pieces.signed_of_head?
  rw [List.head?_append_of_ne_nil _ a.expression_ne_nil]
  intro c hc
  exact isSign_of_mem_expressionChars (a.expression_subset (List.mem_of_mem_head? hc))

theorem ofCommand_flatMap_spelled {ts : List Term} (hts : ts ≠ []) :
    Pieces.ofCommand (ts.flatMap Term.spelled) = ts.map Term.spelled := by
  cases ts with
  | nil => exact absurd rfl hts
  | cons t ts =>
    rw [List.flatMap_def, List.map_cons]
    apply Pieces.ofCommand_flatten t.isSigned_spelled.1
    intro p hp
    obtain ⟨u, -, rfl⟩ := List.mem_map.1 hp
    exact u.isSigned_spelled

theorem ofCommand_signed_eq_iff {c : Text} {ts : List Term} (hts : ts ≠ []) :
    Pieces.ofCommand (Pieces.signed c) = ts.map Term.spelled ↔ SpellsSum ts c := by
  constructor
  · intro h
    have hc : Pieces.signed c = ts.flatMap Term.spelled := by
      rw [← Pieces.flatten_ofCommand (Pieces.signed c), h, List.flatMap_def]
    rcases Pieces.eq_or_eq_of_signed c with he | he
    · rw [he, hc]
      exact .signed ts
    · rw [he] at hc
      cases ts with
      | nil => exact absurd rfl hts
      | cons t ts =>
        rw [List.flatMap_cons, Term.spelled, List.cons_append, List.cons.injEq] at hc
        obtain ⟨hsign, rfl⟩ := hc
        obtain ⟨s, a⟩ := t
        obtain rfl : Sign.plus = s := Sign.mark_injective hsign
        exact .unsigned a ts
  · intro h
    cases h with
    | signed =>
      cases ts with
      | nil => exact absurd rfl hts
      | cons t ts =>
        rw [← ofCommand_flatMap_spelled hts]
        exact congrArg _ (Pieces.signed_of_isSign t.sign.isSign_mark _)
    | unsigned a ts =>
      rw [signed_append_of_expression]
      exact ofCommand_flatMap_spelled hts

theorem Term.spelled_subset (t : Term) : t.spelled ⊆ ['+', '-'] ++ expressionChars := by
  refine List.cons_subset.2 ⟨?_, List.subset_append_of_subset_right _ t.amount.expression_subset⟩
  cases t.sign <;> decide

theorem SpellsSum.subset {ts : List Term} {c : Text} (h : SpellsSum ts c) :
    c ⊆ ['+', '-'] ++ expressionChars := by
  have hall : ∀ us : List Term, us.flatMap Term.spelled ⊆ ['+', '-'] ++ expressionChars := by
    intro us x hx
    obtain ⟨u, -, hxu⟩ := List.mem_flatMap.1 hx
    exact u.spelled_subset hxu
  cases h with
  | signed => exact hall ts
  | unsigned a ts =>
    exact List.append_subset.2
      ⟨List.subset_append_of_subset_right _ a.expression_subset, hall ts⟩

theorem Spells.subset {n : Numeral 2} {ts : List Term} {t : Text} (h : Spells n ts t) :
    t ⊆ formulaChars := by
  have hsum : ∀ {c}, SpellsSum ts c → c ⊆ formulaChars := fun hc =>
    List.Subset.trans hc.subset (List.subset_cons_self ..)
  cases h with
  | counted n hc =>
    refine List.append_subset.2 ⟨?_, List.cons_subset.2 ⟨by decide, hsum hc⟩⟩
    exact List.subset_append_of_subset_right _ n.text_subset_expressionChars
  | uncounted hc => exact hsum hc

theorem Numeral.separator_notMem_text {digits : Nat} (n : Numeral digits) : '#' ∉ n.text :=
  fun h => absurd (n.text_subset h) (by decide)

theorem SpellsSum.separator_notMem {ts : List Term} {c : Text} (h : SpellsSum ts c) : '#' ∉ c :=
  fun hc => absurd (h.subset hc) (by decide)

theorem spells_iff {n : Numeral 2} {ts : List Term} {t : Text} :
    Spells n ts t ↔
      (Pieces.splitRepeats t).1 = n.text ∧ SpellsSum ts (Pieces.splitRepeats t).2 := by
  constructor
  · intro h
    cases h with
    | counted n hc =>
      rw [Pieces.splitRepeats_append n.separator_notMem_text]
      exact ⟨rfl, hc⟩
    | uncounted hc =>
      rw [Pieces.splitRepeats_of_notMem hc.separator_notMem]
      exact ⟨rfl, hc⟩
  · intro h
    rcases Pieces.splitRepeats_cases t with ⟨-, he⟩ | ⟨r, c, -, rfl, he⟩
    · rw [he] at h
      obtain rfl : once = n := Numeral.text_injective h.1
      exact .uncounted h.2
    · rw [he] at h
      obtain ⟨rfl, hc⟩ := h
      exact .counted n hc

theorem Spells.unique {n n' : Numeral 2} {ts ts' : List Term} {t : Text} (hts : ts ≠ [])
    (hts' : ts' ≠ []) (h : Spells n ts t) (h' : Spells n' ts' t) : n = n' ∧ ts = ts' := by
  obtain ⟨hn, hc⟩ := spells_iff.1 h
  obtain ⟨hn', hc'⟩ := spells_iff.1 h'
  have hmap : ts.map Term.spelled = ts'.map Term.spelled := by
    rw [← (ofCommand_signed_eq_iff hts).2 hc, (ofCommand_signed_eq_iff hts').2 hc']
  exact ⟨Numeral.text_injective (hn.symm.trans hn'),
    List.map_injective_iff.2 Term.spelled_injective hmap⟩

theorem Formula.parse_eq_ok_iff {raw : Text} {f : Formula} :
    Formula.parse raw = .ok f ↔ f.text = Text.squeezed raw ∧ Spells f.repeats f.terms f.text := by
  rw [parse_eq_ok_iff_sift, readRepeats_eq_ok_iff, sift_eq_iff,
    ofCommand_signed_eq_iff f.terms_ne_nil, spells_iff]

theorem isBlank_of_mem_formulaChars {c : Char} (h : c ∈ formulaChars) :
    Text.isBlank c = false := by
  have hall : formulaChars.all fun x => !Text.isBlank x := by decide
  simpa using List.all_eq_true.1 hall c h

theorem Spells.squeezed {n : Numeral 2} {ts : List Term} {t : Text} (h : Spells n ts t) :
    Text.squeezed t = t :=
  Text.squeezed_eq_self_iff.2 fun _ hc => isBlank_of_mem_formulaChars (h.subset hc)

/-- Data that pass the checks of a formula are read back from each of their spellings, a number
being in bounds exactly if it has few enough digits. What is read passes the checks and spells its
own text, so texts of one meaning differ in blanks, in repeats left out when there is one, and in
a plus sign left out at the front. -/
theorem parse_spelling :
    (∀ (ms : Json.Members) (given : Formula) (t : Text), Intake.formula ms = .ok given →
      Spells given.repeats given.terms t →
        Formula.parse t = .ok ⟨t, given.repeats, given.terms, given.terms_ne_nil⟩) ∧
    (∀ (digits : Nat) (i : Int), (∃ n, Intake.numeral digits (.int i) = .ok n) ↔
      0 < i ∧ (Decimal.ofInt i).length ≤ digits) ∧
    (∀ (raw : Text) (f : Formula), Formula.parse raw = .ok f →
      Intake.formula f.fields = .ok f ∧ f.text = Text.squeezed raw ∧
        Spells f.repeats f.terms f.text) ∧
    ∀ (raw raw' : Text) (f f' : Formula), Formula.parse raw = .ok f →
      Formula.parse raw' = .ok f' → f.repeats = f'.repeats → f.terms = f'.terms →
        Spells f.repeats f.terms (Text.squeezed raw) ∧
          Spells f.repeats f.terms (Text.squeezed raw') := by
  refine ⟨fun _ given t _ ht => ?_, fun _ _ => Intake.exists_numeral_eq_ok_iff,
    fun raw f hf => ?_, fun raw raw' f f' hf hf' hn hts => ?_⟩
  · exact Formula.parse_eq_ok_iff.2 ⟨ht.squeezed.symm, ht⟩
  · exact ⟨Intake.formula_fields f, Formula.parse_eq_ok_iff.1 hf⟩
  · obtain ⟨htext, hs⟩ := Formula.parse_eq_ok_iff.1 hf
    obtain ⟨htext', hs'⟩ := Formula.parse_eq_ok_iff.1 hf'
    rw [htext] at hs
    rw [htext', ← hn, ← hts] at hs'
    exact ⟨hs, hs'⟩

theorem parse_spelling_kept_dice :
    let given : Formula := ⟨[], once, [⟨.plus, .dice ⟨⟨3, by decide, by decide⟩,
      ⟨6, by decide, by decide⟩, some ⟨.highest, ⟨2, by decide, by decide⟩⟩⟩⟩,
      ⟨.minus, .flat ⟨10, by decide, by decide⟩⟩], by decide⟩
    let short := "3d6h2-10".toList
    let long := " 1#+3d6h2 -10".toList
    Intake.formula given.fields = .ok given ∧ Spells given.repeats given.terms short ∧
      Formula.parse short = .ok ⟨short, given.repeats, given.terms, given.terms_ne_nil⟩ ∧
      Formula.parse long = .ok
        ⟨Text.squeezed long, given.repeats, given.terms, given.terms_ne_nil⟩ ∧
      Spells given.repeats given.terms (Text.squeezed long) := by
  intro given short long
  have hgiven := Intake.formula_fields given
  have hs : Spells given.repeats given.terms short := .uncounted (.unsigned _ _)
  have hshort := parse_spelling.1 _ given short hgiven hs
  have hl : Spells given.repeats given.terms (Text.squeezed long) := .counted once (.signed _)
  have hlong : Formula.parse long = .ok
      ⟨Text.squeezed long, given.repeats, given.terms, given.terms_ne_nil⟩ := by decide
  exact ⟨hgiven, hs, hshort, hlong, (parse_spelling.2.2.2 _ _ _ _ hlong hshort rfl rfl).1⟩

end DiceBot
