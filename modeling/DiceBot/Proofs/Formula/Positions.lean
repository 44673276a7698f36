import DiceBot.Proofs.Formula.Viable
import DiceBot.Proofs.Formula.Faults

/-!
# The positions of refusals

What is left of a piece at each point of its scan is a language of its own:
after the sign an amount, after the count the end or the sides, after the sides
the end or a keep. Every step is exact for its language, so a refused piece is
refused at the end of its longest viable beginning, or behind the run of digits
in which that beginning ends.
-/

namespace DiceBot

def keepTexts : Set Text := {t | t = [] ∨ ∃ k : Keep, t = k.suffix}

def sidesTexts : Set Text := numbered fun _ : Numeral 4 => keepTexts

/-- What may follow the leading number: nothing, or the rest of some dice if it is short enough to
be their number. -/
def restTexts (count : Numeral 4) : Set Text :=
  {t | t = [] ∨ (count.narrow? 2).isSome ∧ ∃ y ∈ sidesTexts, t = 'd' :: y}

def amountTexts : Set Text := numbered restTexts

def termTexts : Set Text := {t | ∃ s : Sign, ∃ y ∈ amountTexts, t = s.mark :: y}

def repeatsTexts : Set Text := numbered fun _ : Numeral 2 => {[]}

theorem follows_singleton_nil {digits : Nat} : Follows fun _ : Numeral digits => {[]} where
  nonempty _ := Set.singleton_nonempty _
  plain _ y hy := by
    rw [Set.mem_singleton_iff.1 hy]
    exact Text.startsPlain_nil

theorem follows_keepTexts {digits : Nat} : Follows fun _ : Numeral digits => keepTexts where
  nonempty _ := ⟨[], .inl rfl⟩
  plain _ y hy := by
    rcases hy with rfl | ⟨k, rfl⟩
    · exact Text.startsPlain_nil
    · exact Text.startsPlain_cons.2 k.extreme.isDigit_mark

theorem follows_restTexts : Follows restTexts where
  nonempty _ := ⟨[], .inl rfl⟩
  plain _ y hy := by
    rcases hy with rfl | ⟨-, z, -, rfl⟩
    · exact Text.startsPlain_nil
    · exact Text.startsPlain_cons.2 rfl

theorem mem_repeatsTexts_iff {t : Text} : t ∈ repeatsTexts ↔ ∃ n : Numeral 2, t = n.text := by
  simp [repeatsTexts, numbered]

theorem isRepeats_iff_mem {t : Text} : isRepeats t ↔ t ∈ repeatsTexts := by
  simp only [isRepeats_iff, readRepeats_eq_ok_iff, mem_repeatsTexts_iff]

theorem mem_sidesTexts_iff {t : Text} :
    t ∈ sidesTexts ↔ ∃ (sides : Numeral 4) (keep : Option Keep),
      t = sides.text ++ (keep.map Keep.suffix).getD [] := by
  constructor
  · intro h
    obtain ⟨sides, y, rfl | ⟨k, rfl⟩, rfl⟩ := h
    · exact ⟨sides, none, rfl⟩
    · exact ⟨sides, some k, rfl⟩
  · intro h
    obtain ⟨sides, _ | k, rfl⟩ := h
    · exact ⟨sides, [], .inl rfl, rfl⟩
    · exact ⟨sides, k.suffix, .inr ⟨k, rfl⟩, rfl⟩

theorem mem_amountTexts_iff {t : Text} : t ∈ amountTexts ↔ ∃ a : Amount, t = a.expression := by
  constructor
  · intro h
    obtain ⟨leading, y, rfl | ⟨hcount, z, hz, rfl⟩, rfl⟩ := h
    · exact ⟨.flat leading, List.append_nil _⟩
    · obtain ⟨count, hcount⟩ := Option.isSome_iff_exists.1 hcount
      obtain ⟨sides, keep, rfl⟩ := mem_sidesTexts_iff.1 hz
      refine ⟨.dice ⟨count, sides, keep⟩, ?_⟩
      rw [Amount.expression, Dice.expression_eq, Numeral.narrow?_eq_some_iff.1 hcount]
      rfl
  · intro h
    obtain ⟨v | d, rfl⟩ := h
    · exact ⟨v, [], .inl rfl, (List.append_nil _).symm⟩
    · obtain ⟨leading, hleading⟩ : ∃ n : Numeral 4, n.text = d.count.text :=
        d.count.exists_text_eq (by decide)
      have hcount := Numeral.narrow?_eq_some_iff.2 hleading.symm
      refine ⟨leading, 'd' :: (d.sides.text ++ d.keepText), .inr ⟨by simp [hcount], _, ?_, rfl⟩, ?_⟩
      · exact mem_sidesTexts_iff.2 ⟨d.sides, d.keep, rfl⟩
      · rw [Amount.expression, Dice.expression_eq, hleading]

theorem isTerm_iff_mem {t : Text} : isTerm t ↔ t ∈ termTexts := by
  rw [isTerm_iff]
  constructor
  · intro h
    obtain ⟨u, hu⟩ := h
    exact ⟨u.sign, _, mem_amountTexts_iff.2 ⟨u.amount, rfl⟩, Term.parse_eq_ok_iff.1 hu⟩
  · intro h
    obtain ⟨s, y, hy, rfl⟩ := h
    obtain ⟨a, rfl⟩ := mem_amountTexts_iff.1 hy
    exact ⟨⟨s, a⟩, Term.parse_eq_ok_iff.2 rfl⟩

theorem mark_cons_mem_keepTexts_iff {e : Extreme} {t : Text} :
    e.mark :: t ∈ keepTexts ↔ t ∈ repeatsTexts := by
  rw [mem_repeatsTexts_iff]
  constructor
  · intro h
    obtain h | ⟨k, h⟩ := h
    · cases h
    · exact ⟨k.count, (List.cons.inj h).2⟩
  · intro h
    obtain ⟨n, rfl⟩ := h
    exact .inr ⟨⟨e, n⟩, rfl⟩

theorem viable_keepTexts_iff {t : Text} (h : ∀ x ∈ t.head?, x ∉ ['h', 'l']) :
    Viable keepTexts t ↔ t = [] := by
  constructor
  · intro hviable
    obtain ⟨more, hmore | ⟨k, hk⟩⟩ := hviable
    · exact (List.append_eq_nil_iff.1 hmore).1
    · cases t with
      | nil => rfl
      | cons x xs =>
        obtain ⟨rfl, -⟩ := List.cons.inj hk
        exact absurd k.extreme.mark_mem (h _ rfl)
  · intro hnil
    exact ⟨[], .inl (by simp [hnil])⟩

theorem restTexts_of_narrow?_eq_none {count : Numeral 4} (h : count.narrow? 2 = none) :
    restTexts count = {[]} := by
  ext t
  simp [restTexts, h]

theorem cons_mem_restTexts_iff {count : Numeral 4} {few : Numeral 2}
    (h : count.narrow? 2 = some few) {x : Char} {y : Text} :
    x :: y ∈ restTexts count ↔ x = 'd' ∧ y ∈ sidesTexts := by
  simp [restTexts, h, and_comm]

theorem cons_mem_termTexts_iff {x : Char} {y : Text} :
    x :: y ∈ termTexts ↔ x ∈ ['+', '-'] ∧ y ∈ amountTexts := by
  rw [← Sign.exists_mark_eq_iff]
  constructor
  · intro h
    obtain ⟨s, z, hz, he⟩ := h
    obtain ⟨rfl, rfl⟩ := List.cons.inj he
    exact ⟨⟨s, rfl⟩, hz⟩
  · intro h
    obtain ⟨⟨s, rfl⟩, hy⟩ := h
    exact ⟨s, y, hy, rfl⟩

theorem termTexts_nonempty : termTexts.Nonempty := by
  obtain ⟨t, ht⟩ := numbered_nonempty follows_restTexts (by decide)
  exact ⟨'+' :: t, cons_mem_termTexts_iff.2 ⟨by decide, ht⟩⟩

theorem exact_number_expectEnd {α : Type} (f : Numeral 2 → α) :
    (do
      let n ← Scan.number 2
      Scan.expectEnd
      return f n).Exact repeatsTexts := by
  apply Scan.exact_bind (Scan.exact_number follows_singleton_nil (by decide))
  intro c n c' hn
  exact ⟨{[]}, Scan.leads_number follows_singleton_nil hn,
    Scan.exact_bind_pure _ Scan.exact_expectEnd⟩

theorem exact_scanRepeats : scanRepeats.Exact repeatsTexts := exact_number_expectEnd id

theorem exact_scanKeep (count : Numeral 2) (sides : Numeral 4) :
    (scanKeep count sides).Exact keepTexts := by
  apply Scan.exact_bind (Scan.exact_accept _)
  intro c o c' ho
  cases o with
  | none =>
    obtain ⟨rfl, hnone⟩ := Scan.run_accept_eq_none_iff.1 ho
    refine ⟨{[]}, ⟨[], by simp, rfl, fun x hx => ?_⟩, Scan.exact_bind_pure _ Scan.exact_expectEnd⟩
    have hhead : ∀ d ∈ x.head?, d ∉ ['h', 'l'] := fun d hd => hnone d (mem_head?_of_isPrefix hx hd)
    rw [List.nil_append, viable_keepTexts_iff hhead, viable_singleton_nil_iff]
  | some x =>
    obtain ⟨hx, hrest, hread⟩ := Scan.run_accept_eq_some_iff.1 ho
    obtain ⟨e, rfl⟩ := Extreme.exists_mark_eq_of_mem hx
    have hleads := Cursor.leads_of_rest_eq_cons hread hrest fun _ => mark_cons_mem_keepTexts_iff
    refine ⟨repeatsTexts, hleads, ?_⟩
    rw [Option.bind_some, Extreme.ofMark?_mark]
    exact exact_number_expectEnd _

theorem exact_scanDice (count : Numeral 4) : (scanDice count).Exact (restTexts count) := by
  cases hcount : count.narrow? 2 with
  | none =>
    -- A longer count can only be a flat value, which ends here.
    rw [scanDice_of_narrow?_eq_none hcount, restTexts_of_narrow?_eq_none hcount]
    exact Scan.exact_refuse isGreatest_viableLengths_singleton_nil
  | some few =>
    rw [scanDice_of_narrow?_eq_some hcount]
    apply Scan.exact_bind
    · apply Scan.exact_expect ⟨[], .inl rfl⟩
      intro x y hxy
      exact List.mem_singleton.2 ((cons_mem_restTexts_iff hcount).1 hxy).1
    · intro c x c' hx
      obtain ⟨hmem, hrest, hread⟩ := Scan.run_expect_eq_ok_iff.1 hx
      obtain rfl := List.mem_singleton.1 hmem
      have hcons (y : Text) : 'd' :: y ∈ restTexts count ↔ y ∈ sidesTexts := by
        rw [cons_mem_restTexts_iff hcount, eq_self, true_and]
      refine ⟨sidesTexts, Cursor.leads_of_rest_eq_cons hread hrest hcons, ?_⟩
      apply Scan.exact_bind (Scan.exact_number follows_keepTexts (by decide))
      intro c n c' hn
      exact ⟨keepTexts, Scan.leads_number follows_keepTexts hn, exact_scanKeep few n⟩

theorem exact_scanTerm : scanTerm.Exact termTexts := by
  apply Scan.exact_bind
  · exact Scan.exact_expect termTexts_nonempty fun x y hxy => (cons_mem_termTexts_iff.1 hxy).1
  · intro c x c' hx
    obtain ⟨hmem, hrest, hread⟩ := Scan.run_expect_eq_ok_iff.1 hx
    have hcons (y : Text) : x :: y ∈ termTexts ↔ y ∈ amountTexts := by
      rw [cons_mem_termTexts_iff, and_iff_right hmem]
    refine ⟨amountTexts, Cursor.leads_of_rest_eq_cons hread hrest hcons, ?_⟩
    apply Scan.exact_bind (Scan.exact_number follows_restTexts (by decide))
    intro c leading c' hleading
    refine ⟨restTexts leading, Scan.leads_number follows_restTexts hleading, ?_⟩
    apply Scan.exact_bind Scan.exact_atEnd
    intro c b c' hb
    obtain ⟨-, rfl⟩ := Scan.run_atEnd_eq_ok_iff.1 hb
    refine ⟨restTexts leading, Cursor.leads_refl c' _, ?_⟩
    cases b with
    | true => exact Scan.exact_pure _
    | false => exact Scan.exact_bind_pure _ (exact_scanDice leading)

/-- A piece that is refused as a term, and repeats that are refused, are refused exactly where their
longest viable beginning ends, or behind the digits in which it ends. -/
theorem refused_where_viable_ends (t : Text) (e : ScanError) :
    (Term.parse t = .error e →
      e.fault.fragments? = some [t] ∧ Explains {u | isTerm u} t e.position e.complaint) ∧
    (readRepeats t = .error e →
      e.fault.fragments? = some [t] ∧ Explains {u | isRepeats u} t e.position e.complaint) := by
  have hterms : {u | isTerm u} = termTexts := Set.ext fun _ => isTerm_iff_mem
  have hrepeats : {u | isRepeats u} = repeatsTexts := Set.ext fun _ => isRepeats_iff_mem
  constructor
  · intro h
    obtain ⟨htext, hexplains⟩ := exact_scanTerm.explains_of_read_eq_error h
    rw [hterms]
    exact ⟨congrArg (fun u => some [u]) htext, hexplains⟩
  · intro h
    obtain ⟨htext, hexplains⟩ := exact_scanRepeats.explains_of_read_eq_error h
    rw [hrepeats]
    exact ⟨congrArg (fun u => some [u]) htext, hexplains⟩

theorem refused_where_viable_ends_at_counts_and_zeros :
    (Term.parse "+123d6".toList = .error ⟨"+123d6".toList, 4, .tooManyDice⟩ ∧
      IsGreatest (viableLengths {u | isTerm u} "+123d6".toList) 4) ∧
    (Term.parse "-2d007h".toList = .error ⟨"-2d007h".toList, 6, .leadingZero⟩ ∧
      Overruns {u | isTerm u} "-2d007h".toList 6) ∧
    readRepeats "1000x".toList = .error ⟨"1000x".toList, 4, .tooLong 2⟩ ∧
      Overruns {u | isRepeats u} "1000x".toList 4 := by
  have hcount : Term.parse "+123d6".toList = .error ⟨"+123d6".toList, 4, .tooManyDice⟩ := by decide
  have hzero : Term.parse "-2d007h".toList = .error ⟨"-2d007h".toList, 6, .leadingZero⟩ := by decide
  have hlong : readRepeats "1000x".toList = .error ⟨"1000x".toList, 4, .tooLong 2⟩ := by decide
  exact ⟨⟨hcount, ((refused_where_viable_ends _ _).1 hcount).2⟩,
    ⟨hzero, ((refused_where_viable_ends _ _).1 hzero).2⟩,
    hlong, ((refused_where_viable_ends _ _).2 hlong).2⟩

end DiceBot
