import Mathlib.Data.List.TakeWhile
import DiceBot.Formula.Parse
import DiceBot.Proofs.Formula.Numeral

/-!
# What scans read

A scan that succeeds has read a certain text from the front of what remained.
For each step this text and what may follow it are stated exactly; a number is
followed by no digit, since it takes the whole run.
-/

namespace DiceBot

theorem Cursor.ext {c c' : Cursor} (hread : c.read = c'.read) (hrest : c.rest = c'.rest) :
    c = c' := by
  cases c; cases c'; cases hread; cases hrest; rfl

def Text.StartsPlain (t : Text) : Prop := ∀ c ∈ t.head?, c.isDigit = false

namespace Text

theorem startsPlain_nil : StartsPlain [] := by simp [StartsPlain]

theorem startsPlain_cons {c : Char} {t : Text} : StartsPlain (c :: t) ↔ c.isDigit = false := by
  simp [StartsPlain]

theorem takeWhile_eq_and_dropWhile_eq_iff {inClass : Char → Bool} {s t r : Text} :
    t.takeWhile inClass = s ∧ t.dropWhile inClass = r ↔
      t = s ++ r ∧ (∀ c ∈ s, inClass c) ∧ ∀ c ∈ r.head?, inClass c = false := by
  constructor
  · intro h
    obtain ⟨rfl, rfl⟩ := h
    refine ⟨List.takeWhile_append_dropWhile.symm, fun c hc => List.mem_takeWhile_imp hc, ?_⟩
    intro c hc
    have h := List.head?_dropWhile_not inClass t
    rw [Option.mem_def.1 hc] at h
    exact h
  · intro h
    obtain ⟨rfl, hs, hr⟩ := h
    rw [List.takeWhile_append_of_pos hs, List.dropWhile_append_of_pos hs]
    cases r with
    | nil => simp
    | cons c r =>
      have hc := hr c rfl
      simp [hc]

end Text

namespace Scan

variable {α β : Type}

theorem read_eq_ok_iff {p : Scan α} {t : Text} {a : α} :
    p.read t = .ok a ↔ ∃ c, p.run (.start t) = (.ok a, c) := by
  simp [read, Prod.ext_iff]

theorem run_pure_eq_ok_iff {a b : α} {c c' : Cursor} :
    (pure a : Scan α).run c = (.ok b, c') ↔ a = b ∧ c = c' := by
  simp [run_pure]

theorem run_bind_eq_ok_iff {p : Scan α} {f : α → Scan β} {c c' : Cursor} {b : β} :
    (p >>= f).run c = (.ok b, c') ↔
      ∃ a c₁, p.run c = (.ok a, c₁) ∧ (f a).run c₁ = (.ok b, c') := by
  rw [run_bind]
  rcases p.run c with ⟨_ | a, c₁⟩ <;> simp [andThen]

theorem run_refuse_ne_ok {complaint : Complaint} {c c' : Cursor} {a : α} :
    (refuse complaint : Scan α).run c ≠ (.ok a, c') := by
  simp [run_refuse]

theorem run_accept_eq_none_iff {chars : Text} {c c' : Cursor} :
    (accept chars).run c = (.ok none, c') ↔ c' = c ∧ ∀ x ∈ c.rest.head?, x ∉ chars := by
  rcases c with ⟨read, _ | ⟨x, xs⟩⟩
  · simp [run_accept_nil, eq_comm]
  · by_cases h : x ∈ chars
    · simp [run_accept_of_mem h, h]
    · simp [run_accept_of_not_mem h, h, eq_comm]

theorem run_accept_eq_some_iff {chars : Text} {c c' : Cursor} {x : Char} :
    (accept chars).run c = (.ok (some x), c') ↔
      x ∈ chars ∧ c.rest = x :: c'.rest ∧ c'.read = c.read ++ [x] := by
  rcases c with ⟨read, _ | ⟨y, ys⟩⟩
  · simp [run_accept_nil]
  · by_cases h : y ∈ chars
    · rw [run_accept_of_mem h]
      constructor
      · intro he
        cases he
        exact ⟨h, rfl, rfl⟩
      · intro h
        obtain ⟨-, hrest, hread⟩ := h
        cases hrest
        rw [← hread]
    · rw [run_accept_of_not_mem h]
      constructor
      · intro he
        cases he
      · intro h
        obtain ⟨hx, hrest, -⟩ := h
        cases hrest
        exact absurd hx h

theorem run_expect_eq_ok_iff {chars : Text} {c c' : Cursor} {x : Char} :
    (expect chars).run c = (.ok x, c') ↔
      x ∈ chars ∧ c.rest = x :: c'.rest ∧ c'.read = c.read ++ [x] := by
  rw [← run_accept_eq_some_iff, expect, run_bind_eq_ok_iff]
  constructor
  · intro h
    obtain ⟨_ | y, c₁, hy, h⟩ := h
    · exact absurd h run_refuse_ne_ok
    · obtain ⟨rfl, rfl⟩ := run_pure_eq_ok_iff.1 h
      exact hy
  · exact fun h => ⟨some x, c', h, rfl⟩

theorem run_atEnd_eq_ok_iff {c c' : Cursor} {b : Bool} :
    atEnd.run c = (.ok b, c') ↔ b = c.rest.isEmpty ∧ c' = c := by
  simp [atEnd, eq_comm]

theorem run_expectEnd_eq_ok_iff {c c' : Cursor} {u : Unit} :
    expectEnd.run c = (.ok u, c') ↔ c.rest = [] ∧ c' = c := by
  rcases c with ⟨read, _ | ⟨x, xs⟩⟩
  · simp [expectEnd, run_bind, atEnd, andThen, run_pure, eq_comm]
  · simp [expectEnd, run_bind, atEnd, andThen, run_refuse]

theorem run_number (limit : Int) (c : Cursor) :
    (number limit).run c =
      (if c.rest.takeWhile Char.isDigit = [] then
        .error ⟨c.text, (c.skip Char.isDigit).position, .expectedNumber⟩
      else if canonical : Decimal.isCanonical (c.rest.takeWhile Char.isDigit) then
        if short : (c.rest.takeWhile Char.isDigit).length ≤ limit then
          .ok (.ofDigits _ canonical (by omega))
        else .error ⟨c.text, (c.skip Char.isDigit).position, .tooLong limit⟩
      else .error ⟨c.text, (c.skip Char.isDigit).position, .leadingZero⟩,
      c.skip Char.isDigit) := by
  simp only [number, run_bind, digits, andThen]
  split
  · simp [run_refuse, Cursor.text_skip]
  · split
    · split <;> simp [run_refuse, run_pure, Cursor.text_skip]
    · simp [run_refuse, Cursor.text_skip]

theorem run_number_eq_ok_iff {limit : Int} {c c' : Cursor} {n : Numeral limit.toNat} :
    (number limit).run c = (.ok n, c') ↔
      c.rest = n.text ++ c'.rest ∧ c'.read = c.read ++ n.text ∧ c'.rest.StartsPlain := by
  have hd : ∀ x ∈ n.text, x.isDigit := fun _ => Decimal.isDigit_of_mem_ofNat
  constructor
  · intro h
    rw [run_number, Prod.mk.injEq] at h
    obtain ⟨hn, rfl⟩ := h
    have ht : c.rest.takeWhile Char.isDigit = n.text := by
      split at hn
      · cases hn
      · split at hn
        · split at hn
          · cases hn
            exact (Numeral.text_ofDigits _ _).symm
          · cases hn
        · cases hn
    obtain ⟨hrest, -, hplain⟩ := Text.takeWhile_eq_and_dropWhile_eq_iff.1 ⟨ht, rfl⟩
    exact ⟨hrest, congrArg (c.read ++ ·) ht, hplain⟩
  · intro h
    obtain ⟨hrest, hread, hplain⟩ := h
    obtain ⟨ht, hr⟩ := Text.takeWhile_eq_and_dropWhile_eq_iff.2 ⟨hrest, hd, hplain⟩
    have hc := n.isCanonical_text
    have hl := n.length_text_le
    have hp := n.digits_pos
    have hne : n.text ≠ [] := (Decimal.isCanonical_iff.1 hc).1
    have hs : c.skip Char.isDigit = c' :=
      Cursor.ext (by rw [hread, ← ht]; rfl) hr
    rw [run_number, hs]
    simp only [ht, hne, hc, ↓reduceIte, ↓reduceDIte, n.ofDigits_text]
    rw [dif_pos (by omega)]

end Scan
end DiceBot
