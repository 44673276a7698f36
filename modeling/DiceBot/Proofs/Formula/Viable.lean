import Mathlib.Data.List.DropRight
import Mathlib.Order.Lattice.Nat
import DiceBot.Fault
import DiceBot.Proofs.Formula.Scans

/-!
# Viable beginnings

A beginning is viable for a language if some text of the language starts with
it. The place that a refusal names is compared with the end of the longest
viable beginning of the text: most complaints name exactly that place, and a
complaint about a run of digits names the end of the run, although the run
stops being viable before. A scan whose refusals all do so is exact, and what
a scan leads to says which language is left for the scan behind it.
-/

namespace DiceBot

def Viable (K : Set Text) (t : Text) : Prop := ∃ more, t ++ more ∈ K

def viableLengths (K : Set Text) (t : Text) : Set Nat := {n | n ≤ t.length ∧ Viable K (t.take n)}

def Text.runStart (t : Text) (position : Nat) : Nat :=
  ((t.take position).rdropWhile Char.isDigit).length

/-- A run of digits ends at a position, and the longest viable beginning ends in it or at its
start. -/
structure Overruns (K : Set Text) (t : Text) (position : Nat) : Prop where
  within : position ≤ t.length
  not_viable : ¬ Viable K (t.take position)
  ends : Text.StartsPlain (t.drop position)
  longest : ∃ n, IsGreatest (viableLengths K t) n ∧ t.runStart position ≤ n ∧ n < position

/-- What a complaint means at a position of a text that should be of a language. -/
def Explains (K : Set Text) (t : Text) (position : Nat) : Complaint → Prop
  | .leadingZero | .tooLong _ => Overruns K t position
  | .expectedOneOf _ | .expectedNumber | .tooManyDice | .trailing =>
    IsGreatest (viableLengths K t) position

section
variable {K K' : Set Text} {s t r : Text}

theorem mem_head?_of_isPrefix {x : Char} (hs : s <+: t) (hx : x ∈ s.head?) : x ∈ t.head? := by
  obtain ⟨r, rfl⟩ := hs
  rw [List.head?_append, Option.mem_def.1 hx]
  rfl

theorem viable_nil_iff : Viable K [] ↔ K.Nonempty := Iff.rfl

theorem viable_of_isPrefix (hs : s <+: t) (ht : Viable K t) : Viable K s := by
  obtain ⟨r, rfl⟩ := hs
  obtain ⟨more, hmore⟩ := ht
  refine ⟨r ++ more, ?_⟩
  rwa [← List.append_assoc]

theorem viable_singleton_nil_iff : Viable {[]} t ↔ t = [] := by
  constructor
  · intro h
    obtain ⟨more, hmore⟩ := h
    exact (List.append_eq_nil_iff.1 hmore).1
  · intro h
    exact ⟨[], by simp [h]⟩

theorem exists_isGreatest_viableLengths (hK : K.Nonempty) (t : Text) :
    ∃ n, IsGreatest (viableLengths K t) n := by
  have hbdd : BddAbove (viableLengths K t) := ⟨t.length, fun n hn => hn.1⟩
  have hne : (viableLengths K t).Nonempty := ⟨0, Nat.zero_le _, viable_nil_iff.2 hK⟩
  exact ⟨sSup (viableLengths K t), Nat.sSup_mem hne hbdd, fun n hn => le_csSup hbdd hn⟩

theorem isGreatest_viableLengths_zero (hK : K.Nonempty) (h : ∀ x ∈ t.head?, ¬ Viable K [x]) :
    IsGreatest (viableLengths K t) 0 := by
  refine ⟨⟨Nat.zero_le _, viable_nil_iff.2 hK⟩, fun n hn => ?_⟩
  obtain ⟨hle, hviable⟩ := hn
  by_contra hpos
  cases t with
  | nil => exact hpos hle
  | cons x xs =>
    apply h x rfl
    apply viable_of_isPrefix _ hviable
    obtain ⟨m, rfl⟩ : ∃ m, n = m + 1 := ⟨n - 1, by omega⟩
    simp

theorem isGreatest_viableLengths_singleton_nil (t : Text) :
    IsGreatest (viableLengths {[]} t) 0 := by
  apply isGreatest_viableLengths_zero (Set.singleton_nonempty _)
  intro x hx hviable
  exact List.cons_ne_nil x [] (viable_singleton_nil_iff.1 hviable)

theorem overruns_of_not_viable (hK : K.Nonempty) (hs : ∀ x ∈ s, x.isDigit)
    (hr : r.StartsPlain) (hviable : ¬ Viable K s) : Overruns K (s ++ r) s.length := by
  obtain ⟨n, hn⟩ := exists_isGreatest_viableLengths hK (s ++ r)
  have htake : (s ++ r).take s.length = s := List.take_left
  have hstart : (s ++ r).runStart s.length = 0 := by
    rw [Text.runStart, htake, List.rdropWhile_eq_nil_iff.2 hs, List.length_nil]
  refine ⟨by simp, by rwa [htake], by rwa [List.drop_left], n, hn, by omega, ?_⟩
  by_contra hle
  apply hviable
  apply viable_of_isPrefix _ hn.1.2
  exact List.prefix_take_iff.2 ⟨List.prefix_append s r, by omega⟩

theorem runStart_append_le (s r : Text) (position : Nat) :
    (s ++ r).runStart (s.length + position) ≤ s.length + r.runStart position := by
  have htake : (s ++ r).take (s.length + position) = s ++ r.take position :=
    List.take_length_add_append ..
  rw [Text.runStart, htake, Text.runStart]
  simp only [List.rdropWhile, List.reverse_append, List.dropWhile_append, List.length_reverse]
  split
  · have hle := List.length_dropWhile_le Char.isDigit s.reverse
    rw [List.length_reverse] at hle
    omega
  · rw [List.length_append, List.length_reverse]
    omega

section
variable (hshift : ∀ x, x <+: r → (Viable K (s ++ x) ↔ Viable K' x))
include hshift

theorem isGreatest_viableLengths_append {n : Nat} (h : IsGreatest (viableLengths K' r) n) :
    IsGreatest (viableLengths K (s ++ r)) (s.length + n) := by
  obtain ⟨⟨hle, hviable⟩, hub⟩ := h
  have htake (m : Nat) : (s ++ r).take (s.length + m) = s ++ r.take m :=
    List.take_length_add_append ..
  refine ⟨⟨by simp [hle], ?_⟩, fun m hm => ?_⟩
  · rw [htake]
    exact (hshift _ (List.take_prefix n r)).2 hviable
  · obtain ⟨hmle, hmviable⟩ := hm
    by_cases hms : m ≤ s.length
    · omega
    · obtain ⟨i, rfl⟩ : ∃ i, m = s.length + i := ⟨m - s.length, by omega⟩
      rw [htake] at hmviable
      rw [List.length_append] at hmle
      have hi : i ≤ n := hub ⟨by omega, (hshift _ (List.take_prefix i r)).1 hmviable⟩
      omega

theorem Overruns.append {position : Nat} (h : Overruns K' r position) :
    Overruns K (s ++ r) (s.length + position) := by
  obtain ⟨n, hn, hstart, hlt⟩ := h.longest
  have hrun := runStart_append_le s r position
  refine ⟨?_, ?_, ?_, s.length + n, isGreatest_viableLengths_append hshift hn, by omega, by omega⟩
  · rw [List.length_append]
    exact Nat.add_le_add_left h.within _
  · rw [List.take_length_add_append, hshift _ (List.take_prefix position r)]
    exact h.not_viable
  · rw [List.drop_length_add_append]
    exact h.ends

theorem Explains.append {position : Nat} {complaint : Complaint}
    (h : Explains K' r position complaint) :
    Explains K (s ++ r) (s.length + position) complaint := by
  cases complaint with
  | leadingZero | tooLong _ => exact Overruns.append hshift h
  | expectedOneOf _ | expectedNumber | tooManyDice | trailing =>
    exact isGreatest_viableLengths_append hshift h

end
end

/-- The text between two cursors is read, and what may follow it is a language of its own. -/
def Cursor.Leads (c c' : Cursor) (K K' : Set Text) : Prop :=
  ∃ s, c'.read = c.read ++ s ∧ c.rest = s ++ c'.rest ∧
    ∀ x, x <+: c'.rest → (Viable K (s ++ x) ↔ Viable K' x)

theorem Cursor.leads_refl (c : Cursor) (K : Set Text) : c.Leads c K K :=
  ⟨[], (List.append_nil _).symm, rfl, fun _ _ => Iff.rfl⟩

theorem Cursor.leads_of_rest_eq_cons {c c' : Cursor} {x : Char} {K K' : Set Text}
    (hread : c'.read = c.read ++ [x]) (hrest : c.rest = x :: c'.rest)
    (h : ∀ y, x :: y ∈ K ↔ y ∈ K') : c.Leads c' K K' :=
  ⟨[x], hread, hrest, fun y _ => exists_congr fun more => h (y ++ more)⟩

theorem Cursor.Leads.text_eq {c c' : Cursor} {K K' : Set Text} (h : c.Leads c' K K') :
    c'.text = c.text := by
  obtain ⟨s, hread, hrest, -⟩ := h
  rw [Cursor.text, Cursor.text, hread, hrest, List.append_assoc]

namespace Scan

variable {α β : Type} {K : Set Text}

def Exact (p : Scan α) (K : Set Text) : Prop :=
  ∀ c e c', p.run c = (.error e, c') →
    e.text = c.text ∧ ∃ n, e.position = c.position + n ∧ Explains K c.rest n e.complaint

theorem Exact.explains_of_read_eq_error {p : Scan α} (hp : p.Exact K) {t : Text} {e : ScanError}
    (h : p.read t = .error e) : e.text = t ∧ Explains K t e.position e.complaint := by
  obtain ⟨htext, n, hn, hexplains⟩ := hp (.start t) e (p.run (.start t)).2 (Prod.ext h rfl)
  have hposition : e.position = n := hn.trans (Nat.zero_add n)
  rw [hposition]
  exact ⟨htext, hexplains⟩

theorem run_bind_eq_error_iff {p : Scan α} {f : α → Scan β} {c c' : Cursor} {e : ScanError} :
    (p >>= f).run c = (.error e, c') ↔
      p.run c = (.error e, c') ∨ ∃ a c₁, p.run c = (.ok a, c₁) ∧ (f a).run c₁ = (.error e, c') := by
  rw [run_bind]
  rcases p.run c with ⟨_ | a, c₁⟩ <;> simp [andThen]

theorem exact_of_forall_ne {p : Scan α} (h : ∀ c e c', p.run c ≠ (.error e, c')) : p.Exact K :=
  fun c e c' he => absurd he (h c e c')

theorem exact_pure (a : α) : (pure a : Scan α).Exact K :=
  exact_of_forall_ne (by simp [run_pure])

theorem exact_atEnd : atEnd.Exact K := exact_of_forall_ne (by simp [atEnd])

theorem exact_accept (chars : Text) : (accept chars).Exact K := by
  apply exact_of_forall_ne
  intro c e c'
  rcases c with ⟨read, _ | ⟨x, xs⟩⟩
  · simp [run_accept_nil]
  · by_cases h : x ∈ chars
    · simp [run_accept_of_mem h]
    · simp [run_accept_of_not_mem h]

theorem exact_bind {p : Scan α} {f : α → Scan β} (hp : p.Exact K)
    (hf : ∀ c a c', p.run c = (.ok a, c') → ∃ K', c.Leads c' K K' ∧ (f a).Exact K') :
    (p >>= f).Exact K := by
  intro c e c' h
  rcases run_bind_eq_error_iff.1 h with h | ⟨a, c₁, ha, h⟩
  · exact hp c e c' h
  · obtain ⟨K', hleads, hexact⟩ := hf c a c₁ ha
    obtain ⟨htext, n, hn, hexplains⟩ := hexact c₁ e c' h
    have hsame := hleads.text_eq
    obtain ⟨s, hread, hrest, hshift⟩ := hleads
    refine ⟨htext.trans hsame, s.length + n, ?_, ?_⟩
    · rw [hn, Cursor.position, Cursor.position, hread, List.length_append, Nat.add_assoc]
    · rw [hrest]
      exact hexplains.append hshift

theorem exact_bind_pure {p : Scan α} (f : α → β) (hp : p.Exact K) :
    (p >>= fun a => pure (f a)).Exact K := by
  intro c e c' h
  rcases run_bind_eq_error_iff.1 h with h | ⟨a, c₁, ha, h⟩
  · exact hp c e c' h
  · exact absurd h (by simp [run_pure])

theorem run_refuse_eq_error_iff {complaint : Complaint} {c c' : Cursor} {e : ScanError} :
    (refuse complaint : Scan α).run c = (.error e, c') ↔
      e = ⟨c.text, c.position, complaint⟩ ∧ c' = c := by
  simp [run_refuse, eq_comm]

theorem exact_refuse {complaint : Complaint} (h : ∀ t, Explains K t 0 complaint) :
    (refuse complaint : Scan α).Exact K := by
  intro c e c' he
  obtain ⟨rfl, -⟩ := run_refuse_eq_error_iff.1 he
  exact ⟨rfl, 0, rfl, h c.rest⟩

theorem exact_expect {chars : Text} (hK : K.Nonempty) (h : ∀ x y, x :: y ∈ K → x ∈ chars) :
    (expect chars).Exact K := by
  intro c e c' he
  rcases run_bind_eq_error_iff.1 he with haccept | ⟨o, c₁, ho, hrest⟩
  · exact exact_accept chars c e c' haccept
  · cases o with
    | some x => exact absurd hrest (by simp [run_pure])
    | none =>
      obtain ⟨rfl, hnone⟩ := run_accept_eq_none_iff.1 ho
      obtain ⟨rfl, -⟩ := run_refuse_eq_error_iff.1 hrest
      refine ⟨rfl, 0, rfl, isGreatest_viableLengths_zero hK fun x hx hviable => ?_⟩
      obtain ⟨more, hmore⟩ := hviable
      exact hnone x hx (h x more hmore)

theorem exact_expectEnd : expectEnd.Exact {[]} := by
  apply exact_bind exact_atEnd
  intro c b c' hb
  obtain ⟨-, rfl⟩ := run_atEnd_eq_ok_iff.1 hb
  refine ⟨{[]}, Cursor.leads_refl c' _, ?_⟩
  cases b with
  | true => exact exact_pure ()
  | false => exact exact_refuse isGreatest_viableLengths_singleton_nil

end Scan

def numbered {digits : Nat} (K' : Numeral digits → Set Text) : Set Text :=
  {t | ∃ n, ∃ y ∈ K' n, t = n.text ++ y}

structure Follows {digits : Nat} (K' : Numeral digits → Set Text) : Prop where
  nonempty : ∀ n, (K' n).Nonempty
  plain : ∀ n, ∀ y ∈ K' n, Text.StartsPlain y

section
variable {digits : Nat} {K' : Numeral digits → Set Text} {t : Text}

theorem numbered_nonempty (hK : Follows K') (hdigits : 0 < digits) : (numbered K').Nonempty := by
  have hlt : 1 < Nat.pow 10 digits := Nat.one_lt_pow (by omega) (by decide)
  obtain ⟨y, hy⟩ := hK.nonempty ⟨1, by decide, hlt⟩
  exact ⟨_, _, y, hy, rfl⟩

theorem Numeral.text_append_inj {m n : Numeral digits} {x y : Text} (hx : x.StartsPlain)
    (hy : y.StartsPlain) (h : m.text ++ x = n.text ++ y) : m = n ∧ x = y := by
  have hd (k : Numeral digits) : ∀ c ∈ k.text, c.isDigit := fun _ => Decimal.isDigit_of_mem_ofNat
  obtain ⟨hm, hmx⟩ := Text.takeWhile_eq_and_dropWhile_eq_iff.2 ⟨rfl, hd m, hx⟩
  obtain ⟨hn, hny⟩ := Text.takeWhile_eq_and_dropWhile_eq_iff.2 ⟨rfl, hd n, hy⟩
  rw [h] at hm hmx
  exact ⟨Numeral.text_injective (hm.symm.trans hn), hmx.symm.trans hny⟩

theorem exists_isPrefix_text_of_viable (hK : Follows K') (ht : ∀ c ∈ t, c.isDigit)
    (h : Viable (numbered K') t) : ∃ n : Numeral digits, t <+: n.text := by
  obtain ⟨more, n, y, hy, he⟩ := h
  refine ⟨n, ?_⟩
  rcases List.append_eq_append_iff.1 he with ⟨a, hn, -⟩ | ⟨a, htn, hya⟩
  · exact ⟨a, hn.symm⟩
  · cases a with
    | nil => simp [htn]
    | cons c a =>
      have hplain : c.isDigit = false := hK.plain n y hy c (by simp [hya])
      have hdigit : c.isDigit := ht c (by simp [htn])
      rw [hplain] at hdigit
      cases hdigit

theorem isCanonical_of_viable_numbered (hK : Follows K') (hne : t ≠ []) (ht : ∀ c ∈ t, c.isDigit)
    (h : Viable (numbered K') t) : Decimal.isCanonical t ∧ t.length ≤ digits := by
  obtain ⟨n, r, hr⟩ := exists_isPrefix_text_of_viable hK ht h
  have hlen := n.length_text_le
  obtain ⟨-, hhead, -⟩ := Decimal.isCanonical_iff.1 n.isCanonical_text
  rw [← hr] at hlen hhead
  rw [List.head?_append_of_ne_nil _ hne] at hhead
  rw [List.length_append] at hlen
  exact ⟨Decimal.isCanonical_iff.2 ⟨hne, hhead, ht⟩, by omega⟩

theorem isDigit_of_cons_mem_numbered {x : Char} (h : x :: t ∈ numbered K') : x.isDigit := by
  obtain ⟨n, y, -, he⟩ := h
  cases htext : n.text with
  | nil => exact absurd htext n.text_ne_nil
  | cons d ds =>
    rw [htext, List.cons_append, List.cons.injEq] at he
    have hmem : d ∈ n.text := by simp [htext]
    rw [he.1]
    exact Decimal.isDigit_of_mem_ofNat hmem

end

namespace Scan

theorem exists_run_of_run_number_eq_error {limit : Int} {c c' : Cursor} {e : ScanError}
    (h : (number limit).run c = (.error e, c')) :
    ∃ ds, (c.rest = ds ++ c'.rest ∧ (∀ x ∈ ds, x.isDigit) ∧ c'.rest.StartsPlain) ∧
      e.text = c.text ∧ e.position = c.position + ds.length ∧
      (ds = [] ∧ e.complaint = .expectedNumber ∨
        ds ≠ [] ∧ ¬ (Decimal.isCanonical ds ∧ ds.length ≤ limit) ∧
          (e.complaint = .leadingZero ∨ e.complaint = .tooLong limit)) := by
  rw [run_number, Prod.mk.injEq] at h
  obtain ⟨he, rfl⟩ := h
  have hposition : (c.skip Char.isDigit).position =
      c.position + (c.rest.takeWhile Char.isDigit).length := List.length_append
  refine ⟨_, Text.takeWhile_eq_and_dropWhile_eq_iff.1 ⟨rfl, rfl⟩, ?_⟩
  split at he
  next hnil =>
    cases he
    exact ⟨rfl, hposition, .inl ⟨hnil, rfl⟩⟩
  next hnil =>
    split at he
    next hcanonical =>
      split at he
      next => cases he
      next hlong =>
        cases he
        exact ⟨rfl, hposition, .inr ⟨hnil, fun h => hlong h.2, .inr rfl⟩⟩
    next hzero =>
      cases he
      exact ⟨rfl, hposition, .inr ⟨hnil, fun h => hzero h.1, .inl rfl⟩⟩

theorem exact_number {limit : Int} {K' : Numeral limit.toNat → Set Text} (hK : Follows K')
    (hlimit : 0 < limit) : (number limit).Exact (numbered K') := by
  intro c e c' h
  have hne := numbered_nonempty hK (by omega : 0 < limit.toNat)
  obtain ⟨ds, ⟨hrest, hdigits, hplain⟩, htext, hposition, hcause⟩ :=
    exists_run_of_run_number_eq_error h
  refine ⟨htext, ds.length, hposition, ?_⟩
  rcases hcause with ⟨rfl, hcomplaint⟩ | ⟨hnil, hbad, hcomplaint⟩
  · rw [hcomplaint]
    apply isGreatest_viableLengths_zero hne
    intro x hx hviable
    obtain ⟨more, hmore⟩ := hviable
    rw [hrest] at hx
    have hdigit : x.isDigit := isDigit_of_cons_mem_numbered hmore
    rw [hplain x hx] at hdigit
    cases hdigit
  · -- The run is read whole, although no text of the language starts with all of it.
    have hoverruns : Overruns (numbered K') c.rest ds.length := by
      rw [hrest]
      apply overruns_of_not_viable hne hdigits hplain
      intro hviable
      obtain ⟨hcanonical, hlen⟩ := isCanonical_of_viable_numbered hK hnil hdigits hviable
      exact hbad ⟨hcanonical, by omega⟩
    rcases hcomplaint with hcomplaint | hcomplaint <;> rw [hcomplaint] <;> exact hoverruns

theorem leads_number {limit : Int} {K' : Numeral limit.toNat → Set Text} (hK : Follows K')
    {c c' : Cursor} {n : Numeral limit.toNat} (h : (number limit).run c = (.ok n, c')) :
    c.Leads c' (numbered K') (K' n) := by
  obtain ⟨hrest, hread, hplain⟩ := run_number_eq_ok_iff.1 h
  refine ⟨n.text, hread, hrest, fun x hx => ?_⟩
  constructor
  · intro hviable
    by_cases hnil : x = []
    · rw [hnil]
      exact viable_nil_iff.2 (hK.nonempty n)
    · obtain ⟨more, m, y, hy, he⟩ := hviable
      have hplain' : Text.StartsPlain (x ++ more) := by
        intro d hd
        rw [List.head?_append_of_ne_nil _ hnil] at hd
        exact hplain d (mem_head?_of_isPrefix hx hd)
      rw [List.append_assoc] at he
      obtain ⟨rfl, rfl⟩ := Numeral.text_append_inj hplain' (hK.plain m y hy) he
      exact ⟨more, hy⟩
  · intro hviable
    obtain ⟨more, hmore⟩ := hviable
    exact ⟨more, n, x ++ more, hmore, List.append_assoc ..⟩

end Scan
end DiceBot
