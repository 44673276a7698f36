import DiceBot.Proofs.Formula.Viable

/-!
# The steps of a cursor

Seen from outside a cursor is a position in a text. The text and the position decide how a step can
go: what it replies, or why it has no reply, and which position it leaves. The text never changes.
What the steps of a run have taken from it, one character or one run of digits at a time, is all
that stands before the cursor.
-/

namespace DiceBot

/-- The whole run of digits at a position, up to another character or the end of the text. -/
structure Text.IsRunAt (t : Text) (position : Nat) (ds : Text) : Prop where
  isDigit : ∀ c ∈ ds, c.isDigit
  stands : t.drop position = ds ++ t.drop (position + ds.length)
  ends : Text.StartsPlain (t.drop (position + ds.length))

theorem Text.isRunAt_iff {t ds : Text} {i : Nat} :
    t.IsRunAt i ds ↔ (t.drop i).takeWhile Char.isDigit = ds := by
  constructor
  · intro h
    exact (Text.takeWhile_eq_and_dropWhile_eq_iff.2 ⟨h.stands, h.isDigit, h.ends⟩).1
  · intro h
    have happend : ds ++ (t.drop i).dropWhile Char.isDigit = t.drop i := by
      rw [← h, List.takeWhile_append_dropWhile]
    have hrest : (t.drop i).dropWhile Char.isDigit = t.drop (i + ds.length) := by
      rw [← List.drop_drop, ← congrArg (List.drop ds.length) happend, List.drop_left]
    obtain ⟨hstands, hdigit, hends⟩ := Text.takeWhile_eq_and_dropWhile_eq_iff.1 ⟨h, hrest⟩
    exact ⟨hdigit, hstands, hends⟩

theorem Text.IsRunAt.take_add {t ds : Text} {i : Nat} (h : t.IsRunAt i ds) :
    t.take (i + ds.length) = t.take i ++ ds := by
  rw [List.take_add, h.stands, List.take_left]

namespace Cursor

theorem take_text (c : Cursor) : c.text.take c.position = c.read := List.take_left

theorem drop_text (c : Cursor) : c.text.drop c.position = c.rest := List.drop_left

theorem getElem?_text (c : Cursor) : c.text[c.position]? = c.rest.head? := by
  rw [← List.head?_drop, drop_text]

theorem position_le (c : Cursor) : c.position ≤ c.text.length := by
  simp [position, text]

theorem eq_of_position_eq {c c' : Cursor} (ht : c.text = c'.text)
    (hp : c.position = c'.position) : c = c' := by
  apply Cursor.ext
  · rw [← take_text, ht, hp, take_text]
  · rw [← drop_text, ht, hp, drop_text]

/-- The second cursor stands behind some more of the same text. -/
structure Passes (c c' : Cursor) (s : Text) : Prop where
  rest : c.rest = s ++ c'.rest
  read : c'.read = c.read ++ s

theorem Passes.text_eq {c c' : Cursor} {s : Text} (h : c.Passes c' s) : c'.text = c.text := by
  rw [text, text, h.read, h.rest, List.append_assoc]

theorem Passes.position_eq {c c' : Cursor} {s : Text} (h : c.Passes c' s) :
    c'.position = c.position + s.length := by
  rw [position, position, h.read, List.length_append]

theorem passes_skip (c : Cursor) (inClass : Char → Bool) :
    c.Passes (c.skip inClass) (c.rest.takeWhile inClass) :=
  ⟨List.takeWhile_append_dropWhile.symm, rfl⟩

theorem isRunAt_takeWhile (c : Cursor) :
    c.text.IsRunAt c.position (c.rest.takeWhile Char.isDigit) := by
  rw [Text.isRunAt_iff, drop_text]

end Cursor

def Complaint.ofRun (limit : Int) (ds : Text) : Complaint :=
  if ds = [] then .expectedNumber
  else if Decimal.isCanonical ds then .tooLong limit
  else .leadingZero

namespace ScanStep

/-- How a step can go at a position of a text: what comes of it, and where it leaves the cursor. -/
inductive Goes (t : Text) (i : Nat) : ScanStep → Except StepError ScanReply → Nat → Prop
  | peeked : Goes t i .peek (.ok (.next t[i]?)) i
  | accepted {chars : Text} {c : Char} (hc : t[i]? = some c) (hmem : c ∈ chars) :
    Goes t i (.accept chars) (.ok (.accepted (some c))) (i + 1)
  | passed {chars : Text} (h : ∀ c ∈ t[i]?, c ∉ chars) :
    Goes t i (.accept chars) (.ok (.accepted none)) i
  | expected {chars : Text} {c : Char} (hc : t[i]? = some c) (hmem : c ∈ chars) :
    Goes t i (.expect chars) (.ok (.expected c)) (i + 1)
  | missed {chars : Text} (h : ∀ c ∈ t[i]?, c ∉ chars) :
    Goes t i (.expect chars) (.error (.refused ⟨t, i, .expectedOneOf chars⟩)) i
  | counted {limit : Int} {v : Nat} (hrun : t.IsRunAt i (Decimal.ofNat v)) (hpos : 0 < v)
      (hshort : (Decimal.ofNat v).length ≤ limit)
      (hwieldy : (Decimal.ofNat v).length ≤ StepError.digitLimit) :
    Goes t i (.number limit) (.ok (.number v)) (i + (Decimal.ofNat v).length)
  | unwieldy {limit : Int} {ds : Text} (hrun : t.IsRunAt i ds) (hshort : ds.length ≤ limit)
      (hlong : StepError.digitLimit < ds.length) :
    Goes t i (.number limit) (.error (.unwieldy ds.length)) (i + ds.length)
  | uncounted {limit : Int} {ds : Text} (hrun : t.IsRunAt i ds)
      (hbad : ¬ (Decimal.isCanonical ds ∧ ds.length ≤ limit)) :
    Goes t i (.number limit) (.error (.refused ⟨t, i + ds.length, .ofRun limit ds⟩))
      (i + ds.length)
  | asked : Goes t i .atEnd (.ok (.ended t[i]?.isNone)) i
  | finished (h : t[i]? = none) : Goes t i .expectEnd (.ok .done) i
  | unfinished (h : t[i]? ≠ none) :
    Goes t i .expectEnd (.error (.refused ⟨t, i, .trailing⟩)) i

section Run

variable {x : ScanStep} {c c' : Cursor} {α : Type} {scan : Scan α} {reply : α → ScanReply}

theorem run_of_ok (hx : x.perform = scan >>= fun a => pure (reply a)) {a : α}
    (h : scan.run c = (.ok a, c')) : x.run c = ((reply a).told, c') := by
  have hperform : x.perform.run c = (.ok (reply a), c') := by
    rw [hx]
    exact Scan.run_bind_eq_ok_iff.2 ⟨a, c', h, rfl⟩
  rw [run, hperform]

theorem run_of_error (hx : x.perform = scan >>= fun a => pure (reply a)) {e : ScanError}
    (h : scan.run c = (.error e, c')) : x.run c = (.error (.refused e), c') := by
  have hperform : x.perform.run c = (.error e, c') := by
    rw [hx]
    exact Scan.run_bind_eq_error_iff.2 (.inl h)
  rw [run, hperform]

end Run

section Proceeds

variable (c : Cursor)

theorem run_accept_cases (chars : Text) :
    (∃ y c', c.text[c.position]? = some y ∧ y ∈ chars ∧ c.Passes c' [y] ∧
      (Scan.accept chars).run c = (.ok (some y), c')) ∨
    (∀ y ∈ c.text[c.position]?, y ∉ chars) ∧ (Scan.accept chars).run c = (.ok none, c) := by
  rw [c.getElem?_text]
  by_cases h : ∃ y ∈ c.rest.head?, y ∈ chars
  · obtain ⟨y, hy, hmem⟩ := h
    obtain ⟨ys, hrest⟩ := List.head?_eq_some_iff.1 hy
    exact .inl ⟨y, ⟨c.read ++ [y], ys⟩, hy, hmem, ⟨hrest, rfl⟩,
      Scan.run_accept_eq_some_iff.2 ⟨hmem, hrest, rfl⟩⟩
  · have hnone : ∀ y ∈ c.rest.head?, y ∉ chars := fun y hy hmem => h ⟨y, hy, hmem⟩
    exact .inr ⟨hnone, Scan.run_accept_eq_none_iff.2 ⟨rfl, hnone⟩⟩

theorem run_number_cases (limit : Int) :
    let ds := c.rest.takeWhile Char.isDigit
    (∃ n, n.text = ds ∧ ds.length ≤ limit ∧
      (Scan.number limit).run c = (.ok n, c.skip Char.isDigit)) ∨
    ¬ (Decimal.isCanonical ds ∧ ds.length ≤ limit) ∧ (Scan.number limit).run c =
      (.error ⟨c.text, c.position + ds.length, .ofRun limit ds⟩, c.skip Char.isDigit) := by
  intro ds
  have hpasses : c.Passes (c.skip Char.isDigit) ds := c.passes_skip Char.isDigit
  by_cases hgood : Decimal.isCanonical ds ∧ ds.length ≤ limit
  · obtain ⟨hcanonical, hshort⟩ := hgood
    have htext := Numeral.text_ofDigits hcanonical (show ds.length ≤ limit.toNat by omega)
    refine .inl ⟨_, htext, hshort, Scan.run_number_eq_ok_iff.2 ?_⟩
    rw [htext]
    exact ⟨hpasses.rest, hpasses.read, (Text.takeWhile_eq_and_dropWhile_eq_iff.1 ⟨rfl, rfl⟩).2.2⟩
  · refine .inr ⟨hgood, ?_⟩
    rw [Scan.run_number, hpasses.position_eq, Complaint.ofRun]
    by_cases hnil : ds = []
    · simp [ds, hnil]
    · by_cases hcanonical : Decimal.isCanonical ds
      · have hlong : ¬ ds.length ≤ limit := fun hshort => hgood ⟨hcanonical, hshort⟩
        simp [ds, hnil, hcanonical, hlong]
      · simp [ds, hnil, hcanonical]

theorem run_peek : run .peek c = (.ok (.next c.text[c.position]?), c) := by
  rw [c.getElem?_text]
  rfl

theorem run_atEnd : run .atEnd c = (.ok (.ended c.text[c.position]?.isNone), c) := by
  rw [c.getElem?_text]
  rcases c with ⟨read, _ | ⟨y, ys⟩⟩ <;> rfl

def Proceeds (x : ScanStep) (c : Cursor) : Prop :=
  (x.run c).2.text = c.text ∧ x.Goes c.text c.position (x.run c).1 (x.run c).2.position

theorem proceeds_accept (chars : Text) : Proceeds (.accept chars) c := by
  rcases run_accept_cases c chars with ⟨y, c', hy, hmem, hpasses, haccept⟩ | ⟨hnone, haccept⟩
  · rw [Proceeds, run_of_ok rfl haccept, hpasses.position_eq]
    exact ⟨hpasses.text_eq, .accepted hy hmem⟩
  · rw [Proceeds, run_of_ok rfl haccept]
    exact ⟨rfl, .passed hnone⟩

theorem proceeds_expect (chars : Text) : Proceeds (.expect chars) c := by
  rcases run_accept_cases c chars with ⟨y, c', hy, hmem, hpasses, haccept⟩ | ⟨hnone, haccept⟩
  · have hexpect : (Scan.expect chars).run c = (.ok y, c') :=
      Scan.run_expect_eq_ok_iff.2 (Scan.run_accept_eq_some_iff.1 haccept)
    rw [Proceeds, run_of_ok rfl hexpect, hpasses.position_eq]
    exact ⟨hpasses.text_eq, .expected hy hmem⟩
  · have hexpect : (Scan.expect chars).run c =
        (.error ⟨c.text, c.position, .expectedOneOf chars⟩, c) :=
      Scan.run_bind_eq_error_iff.2 (.inr ⟨none, c, haccept, rfl⟩)
    rw [Proceeds, run_of_error rfl hexpect]
    exact ⟨rfl, .missed hnone⟩

theorem proceeds_number (limit : Int) : Proceeds (.number limit) c := by
  have hpasses := c.passes_skip Char.isDigit
  have hrun := c.isRunAt_takeWhile
  rcases run_number_cases c limit with ⟨n, htext, hshort, hnumber⟩ | ⟨hbad, hnumber⟩
  · rw [Proceeds, run_of_ok rfl hnumber, hpasses.position_eq]
    refine ⟨hpasses.text_eq, ?_⟩
    rw [← htext] at hrun hshort ⊢
    rw [ScanReply.told]
    split
    next hwieldy => exact .counted hrun n.pos hshort hwieldy
    next hlong => exact .unwieldy hrun hshort (Nat.lt_of_not_le hlong)
  · rw [Proceeds, run_of_error rfl hnumber, hpasses.position_eq]
    exact ⟨hpasses.text_eq, .uncounted hrun hbad⟩

theorem proceeds_expectEnd : Proceeds .expectEnd c := by
  have hnext := c.getElem?_text
  by_cases hend : c.rest = []
  · have hdone : Scan.expectEnd.run c = (.ok (), c) := Scan.run_expectEnd_eq_ok_iff.2 ⟨hend, rfl⟩
    rw [Proceeds, run_of_ok rfl hdone]
    exact ⟨rfl, .finished (by simp [hnext, hend])⟩
  · have hfalse : Scan.atEnd.run c = (.ok false, c) :=
      Scan.run_atEnd_eq_ok_iff.2 ⟨by simp [hend], rfl⟩
    have hrefused : Scan.expectEnd.run c = (.error ⟨c.text, c.position, .trailing⟩, c) :=
      Scan.run_bind_eq_error_iff.2 (.inr ⟨false, c, hfalse, rfl⟩)
    rw [Proceeds, run_of_error rfl hrefused]
    exact ⟨rfl, .unfinished (by simp [hnext, hend])⟩

theorem proceeds (x : ScanStep) : x.Proceeds c := by
  cases x with
  | peek =>
    rw [Proceeds, run_peek]
    exact ⟨rfl, .peeked⟩
  | accept chars => exact proceeds_accept c chars
  | expect chars => exact proceeds_expect c chars
  | number limit => exact proceeds_number c limit
  | atEnd =>
    rw [Proceeds, run_atEnd]
    exact ⟨rfl, .asked⟩
  | expectEnd => exact proceeds_expectEnd c

end Proceeds

def Fails (result : Except StepError ScanReply) : Prop :=
  result = .ok (.accepted none) ∨ ∃ e, result = .error e

def taken (t : Text) (i : Nat) : ScanStep → Except StepError ScanReply → Text
  | .number _, _ => (t.drop i).takeWhile Char.isDigit
  | .accept _, .ok (.accepted (some c)) => [c]
  | .expect _, .ok (.expected c) => [c]
  | _, _ => []

namespace Goes

variable {t : Text} {i j : Nat} {x : ScanStep} {result : Except StepError ScanReply}

theorem le (h : x.Goes t i result j) : i ≤ j := by
  cases h <;> omega

theorem eq_of_fails (h : x.Goes t i result j) (hfails : Fails result)
    (hx : ∀ limit, x ≠ .number limit) : j = i := by
  cases h with
  | accepted | expected => simp [Fails] at hfails
  | counted | unwieldy | uncounted => exact absurd rfl (hx _)
  | _ => rfl

theorem take_eq (h : x.Goes t i result j) : t.take j = t.take i ++ x.taken t i result := by
  cases h with
  | accepted hc | expected hc => rw [List.take_add_one, hc]; rfl
  | counted hrun | unwieldy hrun | uncounted hrun =>
    rw [hrun.take_add, taken, Text.isRunAt_iff.1 hrun]
  | _ => exact (List.append_nil _).symm

theorem exists_isRunAt {limit : Int} (h : Goes t i (.number limit) result j) :
    ∃ ds, t.IsRunAt i ds ∧ j = i + ds.length ∧ (limit ≤ StepError.digitLimit →
      (∀ v, result = .ok (.number v) ↔ 0 < v ∧ ds = Decimal.ofNat v ∧ ds.length ≤ limit) ∧
      ((∀ v, result ≠ .ok (.number v)) → ∃ e, result = .error (.refused e))) := by
  cases h with
  | @counted _ v hrun hpos hshort =>
    refine ⟨_, hrun, rfl, fun _ => ⟨fun w => ?_, fun hnone => absurd rfl (hnone v)⟩⟩
    constructor
    · intro h
      cases h
      exact ⟨hpos, rfl, hshort⟩
    · intro h
      rw [Decimal.ofNat_injective h.2.1]
  | @unwieldy _ ds hrun hshort hlong =>
    exact ⟨ds, hrun, rfl, fun hlimit => by omega⟩
  | @uncounted _ ds hrun hbad =>
    refine ⟨ds, hrun, rfl, fun _ => ⟨fun v => ?_, fun _ => ⟨_, rfl⟩⟩⟩
    refine iff_of_false (by simp) fun h => hbad ⟨?_, h.2.2⟩
    exact Decimal.isCanonical_iff_exists_ofNat.2 ⟨v, h.1, h.2.1⟩

end Goes
end ScanStep

namespace Cursor

def reached (c : Cursor) (steps : List ScanStep) : Cursor :=
  steps.foldl (fun c x => (x.run c).2) c

def taken : Cursor → List ScanStep → Text
  | _, [] => []
  | c, x :: xs =>
    let outcome := x.run c
    x.taken c.text c.position outcome.1 ++ taken outcome.2 xs

theorem getElem?_transcript (c : Cursor) (past : List ScanStep) (x : ScanStep)
    (rest : List ScanStep) :
    (c.transcript (past ++ x :: rest))[past.length]? = some (x.run (c.reached past)) := by
  induction past generalizing c with
  | nil => rfl
  | cons y past ih => simpa [transcript, reached] using ih (y.run c).2

theorem text_reached (c : Cursor) (steps : List ScanStep) : (c.reached steps).text = c.text := by
  induction steps generalizing c with
  | nil => rfl
  | cons x steps ih => exact (ih (x.run c).2).trans (x.proceeds c).1

theorem take_position_reached (c : Cursor) (steps : List ScanStep) :
    c.text.take (c.reached steps).position = c.text.take c.position ++ c.taken steps := by
  induction steps generalizing c with
  | nil => exact (List.append_nil _).symm
  | cons x steps ih =>
    obtain ⟨htext, hgoes⟩ := x.proceeds c
    have hsteps := ih (x.run c).2
    rw [htext, hgoes.take_eq, List.append_assoc] at hsteps
    exact hsteps

/-- After any steps of a run the next step finds the text as it was, goes no way back and not past
its end, and what has been taken until then is all that stands before. The character at the position
is seen there, and the end where there is none. A step that fails leaves the cursor alone, unless it
reads a number. Such a step passes the whole run of digits before it, and has a number just if the
run spells a positive one and is not too long, provided that numbers of the wanted length can be
told. -/
theorem transcript_keeps_text (t : Text) (past : List ScanStep) (x : ScanStep)
    (rest : List ScanStep) :
    let start := Cursor.start t
    let before := start.reached past
    ∃ result after,
      (start.transcript (past ++ x :: rest))[past.length]? = some (result, after) ∧
      (before.text = t ∧ after.text = t) ∧
      (before.position ≤ after.position ∧ after.position ≤ t.length) ∧
      start.taken (past ++ [x]) = t.take after.position ∧
      ((ScanStep.peek.run before).1 = .ok (.next t[before.position]?) ∧
        (ScanStep.atEnd.run before).1 = .ok (.ended t[before.position]?.isNone)) ∧
      (ScanStep.Fails result → (∀ limit, x ≠ .number limit) → after = before) ∧
      ∀ limit, x = .number limit → ∃ ds, t.IsRunAt before.position ds ∧
        after.position = before.position + ds.length ∧ (limit ≤ StepError.digitLimit →
          (∀ v, result = .ok (.number v) ↔ 0 < v ∧ ds = Decimal.ofNat v ∧ ds.length ≤ limit) ∧
          ((∀ v, result ≠ .ok (.number v)) → ∃ e, result = .error (.refused e))) := by
  intro start before
  have hbefore : before.text = t := start.text_reached past
  obtain ⟨htext, hgoes⟩ := x.proceeds before
  have hafter : (x.run before).2.text = t := htext.trans hbefore
  have hreached : start.reached (past ++ [x]) = (x.run before).2 := List.foldl_concat ..
  have htaken := start.take_position_reached (past ++ [x])
  rw [hbefore] at hgoes
  refine ⟨_, _, start.getElem?_transcript past x rest, ⟨hbefore, hafter⟩, ⟨hgoes.le, ?_⟩, ?_, ?_,
    fun hfails hx => ?_, fun limit hx => ?_⟩
  · exact hafter ▸ (x.run before).2.position_le
  · rw [hreached] at htaken
    exact htaken.symm
  · rw [ScanStep.run_peek, ScanStep.run_atEnd, hbefore]
    exact ⟨rfl, rfl⟩
  · exact eq_of_position_eq htext (hgoes.eq_of_fails hfails hx)
  · subst hx
    exact hgoes.exists_isRunAt

theorem transcript_keeps_text_zero_led :
    let t : Text := "+012d6x".toList
    let start := Cursor.start t
    let sign : ScanStep := .accept ['+', '-']
    let steps : List ScanStep :=
      [sign, .number 4, .expect ['h', 'l'], .expect ['d'], .number 4, .expectEnd]
    (∃ ds after, (start.transcript steps)[1]? =
        some (.error (.refused ⟨t, 4, .leadingZero⟩), after) ∧
      t.IsRunAt 1 ds ∧ after.position = 1 + ds.length ∧ ∀ v, 0 < v → ds ≠ Decimal.ofNat v) ∧
    (∃ after, (start.transcript steps)[2]? =
        some (.error (.refused ⟨t, 4, .expectedOneOf ['h', 'l']⟩), after) ∧
      after = start.reached [sign, .number 4]) ∧
    ∃ after, (start.transcript steps)[4]? = some (.ok (.number 6), after) ∧
      t.IsRunAt 5 (Decimal.ofNat 6) ∧ start.taken (steps.take 5) = t.take after.position := by
  intro t start sign steps
  have hzero : (start.transcript steps)[1]? = some (.error (.refused ⟨t, 4, .leadingZero⟩),
      ⟨"+012".toList, "d6x".toList⟩) := by decide
  have hexpect : (start.transcript steps)[2]? =
      some (.error (.refused ⟨t, 4, .expectedOneOf ['h', 'l']⟩),
        ⟨"+012".toList, "d6x".toList⟩) := by decide
  have hsix : (start.transcript steps)[4]? =
      some (.ok (.number 6), ⟨"+012d6".toList, "x".toList⟩) := by decide
  obtain ⟨result₁, after₁, h₁, -, -, -, -, -, hnumber₁⟩ :=
    transcript_keeps_text t [sign] (.number 4) (steps.drop 2)
  obtain ⟨result₂, after₂, h₂, -, -, -, -, hfails, -⟩ :=
    transcript_keeps_text t [sign, .number 4] (.expect ['h', 'l']) (steps.drop 3)
  obtain ⟨result₃, after₃, h₃, -, -, htaken, -, -, hnumber₃⟩ :=
    transcript_keeps_text t (steps.take 4) (.number 4) (steps.drop 5)
  obtain ⟨rfl, rfl⟩ := Prod.mk.inj (Option.some.inj (h₁.symm.trans hzero))
  obtain ⟨rfl, rfl⟩ := Prod.mk.inj (Option.some.inj (h₂.symm.trans hexpect))
  obtain ⟨rfl, rfl⟩ := Prod.mk.inj (Option.some.inj (h₃.symm.trans hsix))
  obtain ⟨ds₁, hrun₁, hposition₁, htold₁⟩ := hnumber₁ 4 rfl
  obtain ⟨ds₃, hrun₃, hposition₃, htold₃⟩ := hnumber₃ 4 rfl
  have hlimit : (4 : Int) ≤ StepError.digitLimit := by decide
  have hlength : 4 = 1 + ds₁.length := hposition₁
  refine ⟨⟨ds₁, _, hzero, hrun₁, hposition₁, fun v hv hds => ?_⟩,
    ⟨_, hexpect, hfails (.inr ⟨_, rfl⟩) (by simp)⟩, _, hsix, ?_, htaken⟩
  · have hnumber := (((htold₁ hlimit).1 v).2 ⟨hv, hds, by omega⟩)
    cases hnumber
  · obtain ⟨-, rfl, -⟩ := ((htold₃ hlimit).1 6).1 rfl
    exact hrun₃

end Cursor
end DiceBot
