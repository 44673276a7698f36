import DiceBot.Proofs.Formula.Scans

/-!
# The spelling of terms

A term is spelled by its sign and its expression. Reading a piece inverts this:
a piece is a term exactly if it is the spelling of one, and that of no other.
The same holds of the repeats and their decimal text.
-/

namespace DiceBot

theorem Sign.mark_injective : Function.Injective Sign.mark := by
  intro s t h
  cases s <;> cases t <;> first | rfl | exact absurd h (by decide)

theorem Sign.exists_mark_eq_iff {c : Char} : (∃ s : Sign, s.mark = c) ↔ c ∈ ['+', '-'] := by
  constructor
  · intro h
    obtain ⟨s, rfl⟩ := h
    cases s <;> decide
  · intro h
    simp only [List.mem_cons, List.not_mem_nil, or_false] at h
    rcases h with rfl | rfl
    · exact ⟨.plus, rfl⟩
    · exact ⟨.minus, rfl⟩

theorem Sign.eq_of_mark (s : Sign) : (if s.mark = '+' then Sign.plus else Sign.minus) = s := by
  cases s <;> rfl

theorem Extreme.exists_mark_eq_of_mem {c : Char} (h : c ∈ ['h', 'l']) :
    ∃ e : Extreme, c = e.mark := by
  simp only [List.mem_cons, List.not_mem_nil, or_false] at h
  rcases h with rfl | rfl
  · exact ⟨.highest, rfl⟩
  · exact ⟨.lowest, rfl⟩

theorem Extreme.mark_mem (e : Extreme) : e.mark ∈ ['h', 'l'] := by cases e <;> decide

theorem Extreme.isDigit_mark (e : Extreme) : e.mark.isDigit = false := by cases e <;> rfl

def Dice.keepText (d : Dice) : Text := (d.keep.map Keep.suffix).getD []

theorem Dice.expression_eq (d : Dice) :
    d.expression = d.count.text ++ 'd' :: (d.sides.text ++ d.keepText) := by
  simp [expression, keepText]

def Term.spelled (t : Term) : Text := t.sign.mark :: t.expression

def expressionChars : Text := ['d', 'h', 'l'] ++ Decimal.digitChars

theorem Numeral.text_subset_expressionChars {digits : Nat} (n : Numeral digits) :
    n.text ⊆ expressionChars := List.subset_append_of_subset_right _ n.text_subset

theorem Dice.keepText_subset (d : Dice) : d.keepText ⊆ expressionChars := by
  obtain ⟨count, sides, keep⟩ := d
  cases keep with
  | none => exact List.nil_subset _
  | some k =>
    refine List.cons_subset.2 ⟨?_, k.count.text_subset_expressionChars⟩
    cases k.extreme <;> decide

theorem Dice.expression_subset (d : Dice) : d.expression ⊆ expressionChars := by
  rw [expression_eq]
  refine List.append_subset.2 ⟨d.count.text_subset_expressionChars, ?_⟩
  refine List.cons_subset.2 ⟨by decide, ?_⟩
  exact List.append_subset.2 ⟨d.sides.text_subset_expressionChars, d.keepText_subset⟩

theorem Amount.expression_subset (a : Amount) : a.expression ⊆ expressionChars := by
  cases a with
  | flat v => exact v.text_subset_expressionChars
  | dice d => exact d.expression_subset

theorem Amount.expression_ne_nil (a : Amount) : a.expression ≠ [] := by
  cases a with
  | flat v => exact v.text_ne_nil
  | dice d => simp [expression, Dice.expression_eq]

theorem readRepeats_eq_ok_iff {t : Text} {n : Numeral 2} : readRepeats t = .ok n ↔ t = n.text := by
  simp only [readRepeats, Scan.read_eq_ok_iff, scanRepeats, Scan.run_bind_eq_ok_iff,
    Scan.run_expectEnd_eq_ok_iff, Scan.run_pure_eq_ok_iff]
  constructor
  · intro h
    obtain ⟨c, m, c₁, hm, u, c₂, ⟨hend, rfl⟩, rfl, rfl⟩ := h
    obtain ⟨hrest, -, -⟩ := Scan.run_number_eq_ok_iff.1 hm
    rwa [hend, List.append_nil] at hrest
  · intro h
    subst h
    refine ⟨⟨n.text, []⟩, n, ⟨n.text, []⟩, ?_, (), _, ⟨rfl, rfl⟩, rfl, rfl⟩
    exact Scan.run_number_eq_ok_iff.2 ⟨by simp [Cursor.start], rfl, Text.startsPlain_nil⟩

def scanKeep (count : Numeral 2) (sides : Numeral 4) : Scan Dice := do
  match (← Scan.accept ['h', 'l']).bind Extreme.ofMark? with
  | none =>
    Scan.expectEnd
    return ⟨count, sides, none⟩
  | some extreme =>
    let kept ← Scan.number 2
    Scan.expectEnd
    return ⟨count, sides, some ⟨extreme, kept⟩⟩

theorem scanDice_of_narrow?_eq_none {count : Numeral 4} (h : count.narrow? 2 = none) :
    scanDice count = Scan.refuse .tooManyDice := by
  simp only [scanDice, h]

theorem scanDice_of_narrow?_eq_some {count : Numeral 4} {few : Numeral 2}
    (h : count.narrow? 2 = some few) :
    scanDice count = (Scan.expect ['d'] >>= fun _ => Scan.number 4 >>= scanKeep few) := by
  simp only [scanDice, h]
  rfl

theorem Cursor.eq_of_rest_eq_nil {c : Cursor} (h : c.rest = []) : c = ⟨c.text, []⟩ :=
  Cursor.ext (by simp [text, h]) h

theorem run_scanKeep_eq_ok_iff {count : Numeral 2} {sides : Numeral 4} {c c' : Cursor} {d : Dice} :
    (scanKeep count sides).run c = (.ok d, c') ↔
      d.count = count ∧ d.sides = sides ∧ c.rest = d.keepText ∧ c' = ⟨c.text, []⟩ := by
  rw [scanKeep, Scan.run_bind_eq_ok_iff]
  constructor
  · intro h
    obtain ⟨o, c₁, ho, h⟩ := h
    cases o with
    | none =>
      obtain ⟨rfl, -⟩ := Scan.run_accept_eq_none_iff.1 ho
      obtain ⟨u, c₂, hend, hpure⟩ := Scan.run_bind_eq_ok_iff.1 h
      obtain ⟨hnil, rfl⟩ := Scan.run_expectEnd_eq_ok_iff.1 hend
      obtain ⟨rfl, rfl⟩ := Scan.run_pure_eq_ok_iff.1 hpure
      exact ⟨rfl, rfl, hnil, Cursor.eq_of_rest_eq_nil hnil⟩
    | some x =>
      obtain ⟨hx, hrest, hread⟩ := Scan.run_accept_eq_some_iff.1 ho
      obtain ⟨e, rfl⟩ := Extreme.exists_mark_eq_of_mem hx
      rw [Option.bind_some, Extreme.ofMark?_mark] at h
      obtain ⟨kept, c₂, hkept, hlast⟩ := Scan.run_bind_eq_ok_iff.1 h
      obtain ⟨u, c₃, hend, hpure⟩ := Scan.run_bind_eq_ok_iff.1 hlast
      obtain ⟨hnil, rfl⟩ := Scan.run_expectEnd_eq_ok_iff.1 hend
      obtain ⟨rfl, rfl⟩ := Scan.run_pure_eq_ok_iff.1 hpure
      obtain ⟨hrest₂, hread₂, -⟩ := Scan.run_number_eq_ok_iff.1 hkept
      rw [hnil, List.append_nil] at hrest₂
      refine ⟨rfl, rfl, by rw [hrest, hrest₂]; rfl, Cursor.ext ?_ hnil⟩
      rw [hread₂, hread, Cursor.text, hrest, hrest₂, List.append_assoc, List.singleton_append]
  · intro h
    obtain ⟨rfl, rfl, hrest, rfl⟩ := h
    obtain ⟨count, sides, keep⟩ := d
    cases keep with
    | none =>
      replace hrest : c.rest = [] := hrest
      refine ⟨none, c, Scan.run_accept_eq_none_iff.2 ⟨rfl, by simp [hrest]⟩, ?_⟩
      rw [Option.bind_none, ← Cursor.eq_of_rest_eq_nil hrest]
      exact Scan.run_bind_eq_ok_iff.2 ⟨(), c, Scan.run_expectEnd_eq_ok_iff.2 ⟨hrest, rfl⟩, rfl⟩
    | some k =>
      replace hrest : c.rest = k.extreme.mark :: k.count.text := hrest
      have ht : c.text = c.read ++ [k.extreme.mark] ++ k.count.text := by
        rw [Cursor.text, hrest, List.append_assoc, List.singleton_append]
      refine ⟨some k.extreme.mark, ⟨c.read ++ [k.extreme.mark], k.count.text⟩,
        Scan.run_accept_eq_some_iff.2 ⟨k.extreme.mark_mem, hrest, rfl⟩, ?_⟩
      rw [Option.bind_some, Extreme.ofMark?_mark]
      refine Scan.run_bind_eq_ok_iff.2 ⟨k.count, ⟨c.text, []⟩, Scan.run_number_eq_ok_iff.2 ?_, ?_⟩
      · exact ⟨(List.append_nil _).symm, ht, Text.startsPlain_nil⟩
      · exact Scan.run_bind_eq_ok_iff.2
          ⟨(), _, Scan.run_expectEnd_eq_ok_iff.2 ⟨rfl, rfl⟩, rfl⟩

theorem Dice.startsPlain_keepText (d : Dice) : Text.StartsPlain d.keepText := by
  obtain ⟨count, sides, keep⟩ := d
  cases keep with
  | none => exact Text.startsPlain_nil
  | some k => exact Text.startsPlain_cons.2 k.extreme.isDigit_mark

theorem run_scanDice_eq_ok_iff {count : Numeral 4} {c c' : Cursor} {d : Dice} :
    (scanDice count).run c = (.ok d, c') ↔
      count.narrow? 2 = some d.count ∧ c.rest = 'd' :: (d.sides.text ++ d.keepText) ∧
        c' = ⟨c.text, []⟩ := by
  cases hcount : count.narrow? 2 with
  | none =>
    rw [scanDice_of_narrow?_eq_none hcount]
    simp [Scan.run_refuse_ne_ok]
  | some few =>
    rw [scanDice_of_narrow?_eq_some hcount, Scan.run_bind_eq_ok_iff]
    constructor
    · intro h
      obtain ⟨x, c₁, hx, hrun⟩ := h
      obtain ⟨sides, c₂, hsides, hkeep⟩ := Scan.run_bind_eq_ok_iff.1 hrun
      obtain ⟨hmem, hrest, hread⟩ := Scan.run_expect_eq_ok_iff.1 hx
      obtain rfl : x = 'd' := List.mem_singleton.1 hmem
      obtain ⟨hrest₁, hread₁, -⟩ := Scan.run_number_eq_ok_iff.1 hsides
      obtain ⟨rfl, rfl, hrest₂, rfl⟩ := run_scanKeep_eq_ok_iff.1 hkeep
      refine ⟨rfl, by rw [hrest, hrest₁, hrest₂], Cursor.ext ?_ rfl⟩
      simp [Cursor.text, hread, hread₁, hrest, hrest₁]
    · intro h
      obtain ⟨hfew, hrest, rfl⟩ := h
      obtain rfl : few = d.count := Option.some.inj hfew
      refine ⟨'d', ⟨c.read ++ ['d'], d.sides.text ++ d.keepText⟩,
        Scan.run_expect_eq_ok_iff.2 ⟨by simp, hrest, rfl⟩, ?_⟩
      refine Scan.run_bind_eq_ok_iff.2
        ⟨d.sides, ⟨c.read ++ ['d'] ++ d.sides.text, d.keepText⟩, ?_, ?_⟩
      · exact Scan.run_number_eq_ok_iff.2 ⟨rfl, rfl, d.startsPlain_keepText⟩
      · refine run_scanKeep_eq_ok_iff.2 ⟨rfl, rfl, rfl, Cursor.ext ?_ rfl⟩
        simp [Cursor.text, hrest]

theorem run_scanTerm_eq_ok_iff {c c' : Cursor} {t : Term} :
    scanTerm.run c = (.ok t, c') ↔ c.rest = t.spelled ∧ c' = ⟨c.text, []⟩ := by
  rw [scanTerm, Scan.run_bind_eq_ok_iff]
  constructor
  · intro h
    obtain ⟨x, c₁, hx, hsigned⟩ := h
    obtain ⟨hmem, hrest, hread⟩ := Scan.run_expect_eq_ok_iff.1 hx
    obtain ⟨s, rfl⟩ := Sign.exists_mark_eq_iff.2 hmem
    rw [Sign.eq_of_mark] at hsigned
    obtain ⟨leading, c₂, hleading, hamount⟩ := Scan.run_bind_eq_ok_iff.1 hsigned
    obtain ⟨hrest₁, hread₁, -⟩ := Scan.run_number_eq_ok_iff.1 hleading
    obtain ⟨b, c₃, hb, hrun⟩ := Scan.run_bind_eq_ok_iff.1 hamount
    obtain ⟨hend, rfl⟩ := Scan.run_atEnd_eq_ok_iff.1 hb
    cases b with
    | true =>
      have hnil : c₃.rest = [] := List.isEmpty_iff.1 hend.symm
      obtain ⟨rfl, rfl⟩ := Scan.run_pure_eq_ok_iff.1 hrun
      refine ⟨by rw [hrest, hrest₁, hnil, List.append_nil]; rfl, Cursor.ext ?_ hnil⟩
      simp [Cursor.text, hread, hread₁, hrest, hrest₁, hnil]
    | false =>
      obtain ⟨d, c₄, hd, hpure⟩ := Scan.run_bind_eq_ok_iff.1 hrun
      obtain ⟨rfl, rfl⟩ := Scan.run_pure_eq_ok_iff.1 hpure
      obtain ⟨hcount, hrest₂, rfl⟩ := run_scanDice_eq_ok_iff.1 hd
      have ht := Numeral.narrow?_eq_some_iff.1 hcount
      refine ⟨?_, Cursor.ext ?_ rfl⟩
      · rw [hrest, hrest₁, hrest₂, ← ht]
        exact congrArg (s.mark :: ·) d.expression_eq.symm
      · simp [Cursor.text, hread, hread₁, hrest, hrest₁]
  · intro h
    obtain ⟨hrest, rfl⟩ := h
    obtain ⟨s, a⟩ := t
    refine ⟨s.mark, ⟨c.read ++ [s.mark], a.expression⟩,
      Scan.run_expect_eq_ok_iff.2 ⟨Sign.exists_mark_eq_iff.1 ⟨s, rfl⟩, hrest, rfl⟩, ?_⟩
    rw [Sign.eq_of_mark]
    have htext : c.text = c.read ++ [s.mark] ++ a.expression := by
      simp [Cursor.text, hrest, Term.spelled, Term.expression]
    cases a with
    | flat v =>
      refine Scan.run_bind_eq_ok_iff.2 ⟨v, ⟨c.text, []⟩, Scan.run_number_eq_ok_iff.2 ?_, rfl⟩
      exact ⟨(List.append_nil _).symm, htext, Text.startsPlain_nil⟩
    | dice d =>
      -- The count is read as a number of up to four digits and narrowed afterwards.
      obtain ⟨leading, hleading⟩ : ∃ n : Numeral 4, n.text = d.count.text :=
        d.count.exists_text_eq (by decide)
      have hcount := Numeral.narrow?_eq_some_iff.2 hleading.symm
      let c₁ : Cursor := ⟨c.read ++ [s.mark] ++ leading.text, 'd' :: (d.sides.text ++ d.keepText)⟩
      refine Scan.run_bind_eq_ok_iff.2 ⟨leading, c₁, Scan.run_number_eq_ok_iff.2 ?_, ?_⟩
      · refine ⟨?_, rfl, Text.startsPlain_cons.2 rfl⟩
        rw [hleading]
        exact d.expression_eq
      · refine Scan.run_bind_eq_ok_iff.2 ⟨false, c₁, Scan.run_atEnd_eq_ok_iff.2 ⟨rfl, rfl⟩, ?_⟩
        refine Scan.run_bind_eq_ok_iff.2 ⟨d, ⟨c.text, []⟩, run_scanDice_eq_ok_iff.2 ?_, rfl⟩
        refine ⟨hcount, rfl, Cursor.ext ?_ rfl⟩
        rw [htext, Amount.expression, d.expression_eq, ← hleading, ← List.append_assoc]
        rfl

theorem Term.parse_eq_ok_iff {p : Text} {t : Term} : Term.parse p = .ok t ↔ p = t.spelled := by
  simp only [parse, Scan.read_eq_ok_iff, run_scanTerm_eq_ok_iff]
  constructor
  · intro h
    obtain ⟨c, hp, -⟩ := h
    exact hp
  · intro h
    exact ⟨_, h, rfl⟩

end DiceBot
