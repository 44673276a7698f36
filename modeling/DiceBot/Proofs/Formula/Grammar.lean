import DiceBot.Proofs.Formula.RoundTrip

/-!
# The grammar of formulas

A derivation is a tree whose leaves spell a text. The productions are

    formula   := [number(2) "#"] command
    command   := [sign] term {sign term}
    term      := number(4) | number(2) "d" number(4) [("h" | "l") number(2)]
    number(n) := 1 to n decimal digits, no leading zero

Each tree denotes a formula. Every text has at most one derivation, and reading
a text gives what its derivation denotes.
-/

namespace DiceBot.Grammar

/-- The first digit is counted from one on. -/
structure Number (n : Nat) where
  first : Fin 9
  rest : List (Fin 10)
  short : rest.length < n

inductive Term where
  | flat (value : Number 4)
  | dice (count : Number 2) (sides : Number 4)
  | keptDice (count : Number 2) (sides : Number 4) (extreme : Extreme) (kept : Number 2)

inductive Tail where
  | done
  | more (sign : Sign) (term : Term) (tail : Tail)

inductive Command where
  | unsigned (term : Term) (tail : Tail)
  | signed (sign : Sign) (term : Term) (tail : Tail)

inductive Sentence where
  | uncounted (command : Command)
  | counted (repeats : Number 2) (command : Command)

def digitText (x : Fin 10) : Char := x.val.digitChar

theorem digitText_injective : Function.Injective digitText :=
  (by decide : ∀ x y : Fin 10, digitText x = digitText y → x = y)

namespace Number

variable {n : Nat}

def text (d : Number n) : Text := digitText d.first.succ :: d.rest.map digitText

def value (d : Number n) : Nat := d.rest.foldl (fun v x => 10 * v + x.val) (d.first.val + 1)

theorem text_injective : Function.Injective (text : Number n → Text) := by
  intro d d' h
  obtain ⟨first, rest, short⟩ := d
  obtain ⟨first', rest', short'⟩ := d'
  obtain ⟨hfirst, hrest⟩ := List.cons.inj h
  obtain rfl : first = first' := Fin.succ_inj.1 (digitText_injective hfirst)
  obtain rfl : rest = rest' := List.map_injective_iff.2 digitText_injective hrest
  rfl

theorem isDigit_digitText (x : Fin 10) : (digitText x).isDigit := by
  rw [digitText, Nat.isDigit_digitChar]
  exact decide_eq_true x.isLt

theorem isCanonical_text (d : Number n) : Decimal.isCanonical d.text := by
  refine Decimal.isCanonical_iff.2 ⟨List.cons_ne_nil _ _, ?_, ?_⟩
  · simp [text, digitText]
  · intro c hc
    rcases List.mem_cons.1 hc with rfl | hc
    · exact isDigit_digitText _
    · obtain ⟨x, -, rfl⟩ := List.mem_map.1 hc
      exact isDigit_digitText x

theorem ofDigitChars_map_digitText (xs : List (Fin 10)) (v : Nat) :
    Nat.ofDigitChars 10 (xs.map digitText) v = xs.foldl (fun v x => 10 * v + x.val) v := by
  induction xs generalizing v with
  | nil => rfl
  | cons x xs ih =>
    rw [List.map_cons, digitText, Nat.ofDigitChars_cons_digitChar_of_lt_ten x.isLt, ih]
    rfl

theorem value_text (d : Number n) : Decimal.value d.text = d.value := by
  have h := ofDigitChars_map_digitText (d.first.succ :: d.rest) 0
  simpa [Decimal.value, text, value] using h

theorem value_pos (d : Number n) : 0 < d.value :=
  d.value_text ▸ Decimal.value_pos d.isCanonical_text

theorem value_lt (d : Number n) : d.value < Nat.pow 10 n := by
  have h := Decimal.value_lt (Decimal.isDigit_of_isCanonical d.isCanonical_text)
  rw [value_text] at h
  refine Nat.lt_of_lt_of_le h (Nat.pow_le_pow_right (by decide) ?_)
  rw [text, List.length_cons, List.length_map]
  exact d.short

def numeral (d : Number n) : Numeral n := ⟨d.value, d.value_pos, d.value_lt⟩

theorem text_numeral (d : Number n) : d.numeral.text = d.text := by
  change Decimal.ofNat d.value = d.text
  rw [← value_text]
  exact Decimal.ofNat_value d.isCanonical_text

theorem numeral_injective : Function.Injective (numeral : Number n → Numeral n) := by
  intro d d' h
  apply text_injective
  rw [← text_numeral, h, text_numeral]

theorem exists_map_digitText {cs : Text} (h : ∀ c ∈ cs, c.isDigit) :
    ∃ xs : List (Fin 10), xs.map digitText = cs := by
  induction cs with
  | nil => exact ⟨[], rfl⟩
  | cons c cs ih =>
    obtain ⟨xs, rfl⟩ := ih fun x hx => h x (List.mem_cons_of_mem _ hx)
    have hc := h c (by simp)
    refine ⟨⟨c.toNat - 48, Decimal.digit_lt hc⟩ :: xs, ?_⟩
    rw [List.map_cons, digitText, Decimal.digitChar_of_isDigit hc]

theorem exists_numeral_eq (m : Numeral n) : ∃ d : Number n, d.numeral = m := by
  obtain ⟨hne, hzero, hdigits⟩ := Decimal.isCanonical_iff.1 m.isCanonical_text
  obtain ⟨xs, hxs⟩ := exists_map_digitText hdigits
  cases xs with
  | nil => exact absurd hxs.symm hne
  | cons x xs =>
    have hx : x ≠ 0 := by
      intro h
      subst h
      exact hzero (by rw [← hxs]; rfl)
    have hshort : xs.length < n := by
      have hl := m.length_text_le
      rw [← hxs, List.length_map, List.length_cons] at hl
      exact hl
    refine ⟨⟨x.pred hx, xs, hshort⟩, Numeral.text_injective ?_⟩
    rw [text_numeral, text, Fin.succ_pred]
    exact hxs

end Number

namespace Term

def text : Term → Text
  | .flat v => v.text
  | .dice c s => c.text ++ 'd' :: s.text
  | .keptDice c s e k => c.text ++ 'd' :: (s.text ++ e.mark :: k.text)

def amount : Term → Amount
  | .flat v => .flat v.numeral
  | .dice c s => .dice ⟨c.numeral, s.numeral, none⟩
  | .keptDice c s e k => .dice ⟨c.numeral, s.numeral, some ⟨e, k.numeral⟩⟩

theorem expression_amount (t : Term) : t.amount.expression = t.text := by
  cases t with
  | flat v => exact v.text_numeral
  | dice c s => simp [amount, text, Amount.expression, Dice.expression, Number.text_numeral]
  | keptDice c s e k =>
    simp [amount, text, Amount.expression, Dice.expression, Keep.suffix, Number.text_numeral]

theorem amount_injective : Function.Injective amount := by
  intro t t' h
  cases t <;> cases t' <;>
    simp_all [amount, Number.numeral_injective.eq_iff]

theorem exists_amount_eq (a : Amount) : ∃ t : Term, t.amount = a := by
  cases a with
  | flat v =>
    obtain ⟨d, rfl⟩ := Number.exists_numeral_eq v
    exact ⟨.flat d, rfl⟩
  | dice d =>
    obtain ⟨count, sides, keep⟩ := d
    obtain ⟨c, rfl⟩ := Number.exists_numeral_eq count
    obtain ⟨s, rfl⟩ := Number.exists_numeral_eq sides
    cases keep with
    | none => exact ⟨.dice c s, rfl⟩
    | some k =>
      obtain ⟨n, hn⟩ := Number.exists_numeral_eq k.count
      exact ⟨.keptDice c s k.extreme n, by simp [amount, hn]⟩

end Term

namespace Tail

def text : Tail → Text
  | .done => []
  | .more s t l => s.mark :: t.text ++ l.text

def terms : Tail → List DiceBot.Term
  | .done => []
  | .more s t l => ⟨s, t.amount⟩ :: l.terms

theorem flatMap_terms (l : Tail) : l.terms.flatMap Term.spelled = l.text := by
  induction l with
  | done => rfl
  | more s t l ih =>
    rw [terms, List.flatMap_cons, ih, text, ← t.expression_amount]
    rfl

theorem terms_injective : Function.Injective terms := by
  intro l l' h
  induction l generalizing l' with
  | done =>
    cases l' with
    | done => rfl
    | more => cases h
  | more s t l ih =>
    cases l' with
    | done => cases h
    | more s' t' l' =>
      simp only [terms, List.cons.injEq, DiceBot.Term.mk.injEq] at h
      obtain ⟨⟨rfl, ht⟩, hl⟩ := h
      rw [Term.amount_injective ht, ih hl]

theorem exists_terms_eq (ts : List DiceBot.Term) : ∃ l : Tail, l.terms = ts := by
  induction ts with
  | nil => exact ⟨.done, rfl⟩
  | cons t ts ih =>
    obtain ⟨l, rfl⟩ := ih
    obtain ⟨u, hu⟩ := Term.exists_amount_eq t.amount
    exact ⟨.more t.sign u l, by rw [terms, hu]⟩

end Tail

namespace Command

def text : Command → Text
  | .unsigned t l => t.text ++ l.text
  | .signed s t l => s.mark :: t.text ++ l.text

def terms : Command → List DiceBot.Term
  | .unsigned t l => ⟨.plus, t.amount⟩ :: l.terms
  | .signed s t l => ⟨s, t.amount⟩ :: l.terms

theorem terms_ne_nil (c : Command) : c.terms ≠ [] := by cases c <;> exact List.cons_ne_nil _ _

theorem spellsSum (c : Command) : SpellsSum c.terms c.text := by
  cases c with
  | unsigned t l =>
    rw [text, ← t.expression_amount, ← l.flatMap_terms]
    exact .unsigned t.amount l.terms
  | signed s t l =>
    have ht : s.mark :: t.text ++ l.text =
        (⟨s, t.amount⟩ :: l.terms : List DiceBot.Term).flatMap Term.spelled := by
      rw [List.flatMap_cons, l.flatMap_terms, ← t.expression_amount]
      rfl
    rw [text, ht]
    exact .signed _

theorem text_unsigned_ne_signed (t : Term) (l : Text) (s : Sign) (r : Text) :
    t.text ++ l ≠ s.mark :: r := by
  intro h
  have hs := s.isSign_mark
  cases ht : t.text with
  | nil => exact t.amount.expression_ne_nil (by rw [t.expression_amount, ht])
  | cons c cs =>
    rw [ht, List.cons_append, List.cons.injEq] at h
    have hc : c ∈ t.amount.expression := by
      rw [t.expression_amount, ht]
      exact List.mem_cons_self
    rw [← h.1, isSign_of_mem_expressionChars (t.amount.expression_subset hc)] at hs
    exact Bool.false_ne_true hs

theorem eq_of_terms_eq {c c' : Command} (ht : c.terms = c'.terms) (h : c.text = c'.text) :
    c = c' := by
  cases c with
  | unsigned t l =>
    cases c' with
    | unsigned t' l' =>
      simp only [terms, List.cons.injEq, DiceBot.Term.mk.injEq, true_and] at ht
      rw [Term.amount_injective ht.1, Tail.terms_injective ht.2]
    | signed s' t' l' => exact absurd h (text_unsigned_ne_signed t _ s' _)
  | signed s t l =>
    cases c' with
    | unsigned t' l' => exact absurd h.symm (text_unsigned_ne_signed t' _ s _)
    | signed s' t' l' =>
      simp only [terms, List.cons.injEq, DiceBot.Term.mk.injEq] at ht
      rw [ht.1.1, Term.amount_injective ht.1.2, Tail.terms_injective ht.2]

theorem exists_of_spellsSum {ts : List DiceBot.Term} {t : Text} (hts : ts ≠ [])
    (h : SpellsSum ts t) : ∃ c : Command, c.terms = ts ∧ c.text = t := by
  cases h with
  | signed =>
    cases ts with
    | nil => exact absurd rfl hts
    | cons u us =>
      obtain ⟨v, hv⟩ := Term.exists_amount_eq u.amount
      obtain ⟨l, rfl⟩ := Tail.exists_terms_eq us
      refine ⟨.signed u.sign v l, by rw [terms, hv], ?_⟩
      rw [text, List.flatMap_cons, l.flatMap_terms, ← v.expression_amount, hv]
      rfl
  | unsigned a us =>
    obtain ⟨v, rfl⟩ := Term.exists_amount_eq a
    obtain ⟨l, rfl⟩ := Tail.exists_terms_eq us
    exact ⟨.unsigned v l, rfl, by rw [text, v.expression_amount, l.flatMap_terms]⟩

end Command

namespace Sentence

def text : Sentence → Text
  | .uncounted c => c.text
  | .counted n c => n.text ++ '#' :: c.text

def command : Sentence → Command
  | .uncounted c => c
  | .counted _ c => c

def repeats : Sentence → Numeral 2
  | .uncounted _ => Intake.once
  | .counted n _ => n.numeral

def formula (s : Sentence) : Formula :=
  ⟨s.text, s.repeats, s.command.terms, s.command.terms_ne_nil⟩

theorem spells (s : Sentence) : Spells s.repeats s.command.terms s.text := by
  cases s with
  | uncounted c => exact .uncounted c.spellsSum
  | counted n c =>
    rw [text, ← n.text_numeral]
    exact .counted n.numeral c.spellsSum

theorem text_injective : Function.Injective text := by
  intro s s' h
  obtain ⟨hn, hts⟩ := s.spells.unique s.command.terms_ne_nil s'.command.terms_ne_nil
    (h ▸ s'.spells)
  cases s with
  | uncounted c =>
    cases s' with
    | uncounted c' => exact congrArg uncounted (Command.eq_of_terms_eq hts h)
    | counted n' c' =>
      refine absurd ?_ c.spellsSum.separator_notMem
      rw [show c.text = n'.text ++ '#' :: c'.text from h]
      simp
  | counted n c =>
    cases s' with
    | uncounted c' =>
      refine absurd ?_ c'.spellsSum.separator_notMem
      rw [show c'.text = n.text ++ '#' :: c.text from h.symm]
      simp
    | counted n' c' =>
      obtain rfl : n = n' := Number.numeral_injective hn
      have hc : '#' :: c.text = '#' :: c'.text := List.append_cancel_left h
      exact congrArg (counted n) (Command.eq_of_terms_eq hts (List.cons.inj hc).2)

theorem exists_of_spells {n : Numeral 2} {ts : List DiceBot.Term} {t : Text} (hts : ts ≠ [])
    (h : Spells n ts t) : ∃ s : Sentence, s.text = t := by
  cases h with
  | counted n hc =>
    obtain ⟨d, rfl⟩ := Number.exists_numeral_eq n
    obtain ⟨c, -, rfl⟩ := Command.exists_of_spellsSum hts hc
    exact ⟨.counted d c, by rw [text, d.text_numeral]⟩
  | uncounted hc =>
    obtain ⟨c, -, rfl⟩ := Command.exists_of_spellsSum hts hc
    exact ⟨.uncounted c, rfl⟩

theorem parse_eq_ok {raw : Text} {s : Sentence} (h : s.text = Text.squeezed raw) :
    Formula.parse raw = .ok s.formula :=
  Formula.parse_eq_ok_iff.2 ⟨h, s.spells⟩

end Sentence

/-- A text is accepted exactly if it has a derivation without its blanks. The derivation is the only
one, what is read is what it denotes, and its numbers are within the bounds that are checked. Other
texts are refused, and there are pieces at fault. -/
theorem parse_derivation (raw : Text) :
    ((∃ f, Formula.parse raw = .ok f) ↔ ∃ s : Sentence, s.text = Text.squeezed raw) ∧
    (∀ s : Sentence, s.text = Text.squeezed raw →
      Formula.parse raw = .ok s.formula ∧ (∀ s' : Sentence, s'.text = Text.squeezed raw → s' = s) ∧
        Intake.formula s.formula.fields = .ok s.formula) ∧
    ((¬∃ s : Sentence, s.text = Text.squeezed raw) →
      ∃ r, Formula.parse raw = .error r ∧ r.text = Text.squeezed raw ∧ r.pieces ≠ []) := by
  have hsome : ∀ f, Formula.parse raw = .ok f → ∃ s : Sentence, s.text = Text.squeezed raw := by
    intro f hf
    obtain ⟨htext, hs⟩ := Formula.parse_eq_ok_iff.1 hf
    exact htext ▸ Sentence.exists_of_spells f.terms_ne_nil hs
  refine ⟨⟨fun ⟨f, hf⟩ => hsome f hf, fun ⟨s, hs⟩ => ⟨_, Sentence.parse_eq_ok hs⟩⟩, ?_, ?_⟩
  · intro s hs
    refine ⟨Sentence.parse_eq_ok hs, fun s' hs' => Sentence.text_injective (hs'.trans hs.symm), ?_⟩
    exact Intake.formula_fields s.formula
  · intro hnone
    cases hparse : Formula.parse raw with
    | ok f => exact absurd (hsome f hparse) hnone
    | error r => exact ⟨r, rfl, Formula.of_parse_eq_error hparse⟩

theorem parse_derivation_two_rolls :
    let roll : Sentence := .counted ⟨1, [], by decide⟩ (.unsigned
      (.keptDice ⟨2, [], by decide⟩ ⟨5, [], by decide⟩ .highest ⟨1, [], by decide⟩)
      (.more .minus (.flat ⟨0, [0], by decide⟩) .done))
    let raw := " 2#3d6 h2\t-10".toList
    let zero := "2#3d06".toList
    roll.text = Text.squeezed raw ∧ Formula.parse raw = .ok roll.formula ∧
      (¬∃ s : Sentence, s.text = Text.squeezed zero) ∧ ∃ r, Formula.parse zero = .error r := by
  intro roll raw zero
  have hroll : roll.text = Text.squeezed raw := by decide
  have hzero : ¬∃ s : Sentence, s.text = Text.squeezed zero := by
    intro h
    obtain ⟨f, hf⟩ := (parse_derivation zero).1.2 h
    have hno : (Formula.parse zero).isOk = false := by decide
    rw [hf] at hno
    cases hno
  obtain ⟨r, hr, -⟩ := (parse_derivation zero).2.2 hzero
  exact ⟨hroll, ((parse_derivation raw).2.1 roll hroll).1, hzero, r, hr⟩

end DiceBot.Grammar
