import Mathlib.Data.List.Forall2
import DiceBot.Proofs.Intake.Fields

/-!
# The members of terms

A term is accepted just if its members give it: its sign, which may be left out, and either a value
or a number of dice with their sides and, if it is there, what is kept. Members that give dice are
never taken for a flat number.
-/

namespace DiceBot

open Json Intake

theorem Sign.ofValue?_eq_some_iff {i : Int} {s : Sign} : ofValue? i = some s ↔ s.value = i := by
  refine ⟨fun h => ?_, fun h => h ▸ ofValue?_value s⟩
  unfold ofValue? at h
  split at h
  · cases h
    exact Eq.symm ‹_›
  · split at h
    · cases h
      exact Eq.symm ‹_›
    · cases h

theorem Extreme.ofMark?_eq_some_iff {c : Char} {e : Extreme} : ofMark? c = some e ↔ e.mark = c := by
  refine ⟨fun h => ?_, fun h => h ▸ ofMark?_mark e⟩
  unfold ofMark? at h
  split at h
  · cases h
    exact Eq.symm ‹_›
  · split at h
    · cases h
      exact Eq.symm ‹_›
    · cases h

def Json.Members.Gives (ms : Members) (name : Text) (i : Int) : Prop :=
  ∃ v, ms.get? name = some v ∧ integer v = .ok i

/-- A sign that is left out is a plus. -/
def Sign.GivenBy (ms : Members) (s : Sign) : Prop :=
  ms.get? "sign".toList = none ∧ s = .plus ∨ ms.Gives "sign".toList s.value

def Keep.GivenBy (ms : Members) (k : Keep) : Prop :=
  ms.get? "kind".toList = some (.str (some [k.extreme.mark])) ∧
    ms.Gives "count".toList k.count.value

def Dice.GivenBy (ms : Members) (d : Dice) : Prop :=
  ms.Gives "count".toList d.count.value ∧ ms.Gives "sides".toList d.sides.value ∧
    match d.keep with
    | none => ∀ v, ms.get? "keep".toList = some v → v = .null
    | some k => ∃ ks, ms.get? "keep".toList = some (.obj ks) ∧ k.GivenBy ks

def Term.GivenBy (ms : Members) (t : Term) : Prop :=
  t.sign.GivenBy ms ∧
    match t.amount with
    | .flat n => ms.Gives "value".toList n.value
    | .dice d => d.GivenBy ms

def Term.InBounds (t : Term) : Prop :=
  (t.sign.value = 1 ∨ t.sign.value = -1) ∧
    match t.amount with
    | .flat n => 1 ≤ n.value ∧ n.value ≤ 9999
    | .dice d => (1 ≤ d.count.value ∧ d.count.value ≤ 99) ∧
      (1 ≤ d.sides.value ∧ d.sides.value ≤ 9999) ∧
      ∀ k ∈ d.keep, 1 ≤ k.count.value ∧ k.count.value ≤ 99

theorem Term.inBounds (t : Term) : t.InBounds := by
  obtain ⟨s, a⟩ := t
  refine ⟨by cases s <;> simp [Sign.value], ?_⟩
  cases a with
  | flat n => exact ⟨n.pos, n.value_le_bound⟩
  | dice d =>
    exact ⟨⟨d.count.pos, d.count.value_le_bound⟩, ⟨d.sides.pos, d.sides.value_le_bound⟩,
      fun k _ => ⟨k.count.pos, k.count.value_le_bound⟩⟩

namespace Intake

variable {α β γ : Type}

section Checks

theorem map_eq_ok_iff {f : α → β} {c : Checked α} {b : β} :
    f <$> c = .ok b ↔ ∃ a, c = .ok a ∧ f a = b := by
  cases c <;> simp [Functor.map, Except.map]

theorem bind_eq_ok_iff {f : α → Checked β} {c : Checked α} {b : β} :
    c >>= f = .ok b ↔ ∃ a, c = .ok a ∧ f a = .ok b := by
  cases c <;> simp [bind, Except.bind]

theorem map_both_eq_ok_iff {f : α × β → γ} {c : Checked α} {d : Checked β} {a : α} {b : β} {x : γ}
    (hf : ∀ a' b', f (a', b') = x ↔ a' = a ∧ b' = b) :
    f <$> both c d = .ok x ↔ c = .ok a ∧ d = .ok b := by
  rw [map_eq_ok_iff]
  constructor
  · rintro ⟨⟨a', b'⟩, hboth, hx⟩
    obtain ⟨rfl, rfl⟩ := (hf a' b').1 hx
    exact both_eq_ok_iff.1 hboth
  · intro h
    exact ⟨(a, b), both_eq_ok_iff.2 h, (hf a b).2 ⟨rfl, rfl⟩⟩

variable {name : Text} {ms : Members} {v : Value} {a : α}

theorem required_eq_ok_iff {check : Value → Checked α} :
    required name check ms = .ok a ↔ ∃ v, ms.get? name = some v ∧ check v = .ok a := by
  rw [required, field, within_eq_ok_iff]
  cases ms.get? name <;> simp [fail]

theorem defaulted_eq_ok_iff {check : Value → Checked α} {default : α} :
    defaulted name default check ms = .ok a ↔
      ms.get? name = none ∧ a = default ∨ ∃ v, ms.get? name = some v ∧ check v = .ok a := by
  rw [defaulted, field, within_eq_ok_iff]
  cases ms.get? name with
  | none => simp [eq_comm]
  | some v => simp

theorem record_eq_ok_iff {check : Members → Checked α} :
    record name check v = .ok a ↔ ∃ ms, v = .obj ms ∧ check ms = .ok a := by
  cases v <;> simp [record, fail]

theorem orNull_eq_ok_iff {check : Value → Checked α} {o : Option α} :
    orNull check v = .ok o ↔
      v = .null ∧ o = none ∨ v ≠ .null ∧ ∃ a, check v = .ok a ∧ some a = o := by
  cases v with
  | null => simp [orNull, eq_comm]
  | _ => simp [orNull, map_eq_ok_iff]

theorem items_eq_ok_iff {check : Value → Checked α} {i : Nat} {vs : List Value} {as : List α} :
    items check i vs = .ok as ↔ List.Forall₂ (fun v a => check v = .ok a) vs as := by
  induction vs generalizing i as with
  | nil => rw [items, List.forall₂_nil_left_iff, Except.ok.injEq, eq_comm]
  | cons v vs ih =>
    cases as with
    | nil =>
      refine iff_of_false (fun h => ?_) (fun h => ?_)
      · rw [items] at h
        obtain ⟨_, -, hcons⟩ := map_eq_ok_iff.1 h
        cases hcons
      · cases h
    | cons a as =>
      have hfields : items check i (v :: vs) = .ok (a :: as) ↔
          within (.index i) (check v) = .ok a ∧ items check (i + 1) vs = .ok as :=
        map_both_eq_ok_iff fun _ _ => by simp
      rw [hfields, within_eq_ok_iff, ih, List.forall₂_cons]

theorem list_eq_ok_iff {check : Value → Checked α} {as : List α} :
    list check v = .ok as ↔
      ∃ vs, v = .arr vs ∧ List.Forall₂ (fun v a => check v = .ok a) vs as := by
  cases v <;> simp [list, fail, items_eq_ok_iff]

theorem nonemptyList_eq_ok_iff {check : Value → Checked α} {as : { as : List α // as ≠ [] }} :
    nonemptyList check v = .ok as ↔
      ∃ vs, v = .arr vs ∧ List.Forall₂ (fun v a => check v = .ok a) vs as.val := by
  obtain ⟨as, hne⟩ := as
  rw [nonemptyList, bind_eq_ok_iff, ← list_eq_ok_iff]
  constructor
  · rintro ⟨as', hlist, h⟩
    cases as' with
    | nil => cases h
    | cons a as' =>
      cases h
      exact hlist
  · intro h
    refine ⟨as, h, ?_⟩
    cases as with
    | nil => exact absurd rfl hne
    | cons a as => rfl

end Checks

section Scalars

variable {v : Value}

theorem numeral_eq_ok_iff {digits : Nat} {n : Numeral digits} :
    numeral digits v = .ok n ↔ integer v = .ok (n.value : Int) := by
  rw [numeral, bind_eq_ok_iff]
  constructor
  · rintro ⟨i, hi, h⟩
    split at h
    next m hm =>
      obtain rfl := Except.ok.inj h
      have hvalue := Numeral.value_of_ofNat?_eq_some hm
      have hpos := m.pos
      rw [hi, hvalue, Int.toNat_of_nonneg (by omega)]
    next => cases h
  · intro h
    refine ⟨n.value, h, ?_⟩
    rw [Int.toNat_natCast, Numeral.ofNat?_value]
    rfl

theorem sign_eq_ok_iff {s : Sign} : sign v = .ok s ↔ integer v = .ok s.value := by
  rw [sign, bind_eq_ok_iff]
  constructor
  · rintro ⟨i, hi, h⟩
    split at h
    next s' hs =>
      obtain rfl := Except.ok.inj h
      rw [hi, Sign.ofValue?_eq_some_iff.1 hs]
    next => cases h
  · intro h
    refine ⟨s.value, h, ?_⟩
    rw [Sign.ofValue?_value]
    rfl

theorem extreme_eq_ok_iff {e : Extreme} : extreme v = .ok e ↔ v = .str (some [e.mark]) := by
  refine ⟨fun h => ?_, fun h => h ▸ extreme_mark e⟩
  unfold extreme at h
  split at h
  next c =>
    split at h
    next e' he =>
      obtain rfl := Except.ok.inj h
      rw [Extreme.ofMark?_eq_some_iff.1 he]
    next => cases h
  next => cases h

end Scalars

section Terms

variable {ms : Members} {v : Value} {name : Text}

theorem required_numeral_eq_ok_iff {digits : Nat} {n : Numeral digits} :
    required name (numeral digits) ms = .ok n ↔ ms.Gives name n.value := by
  rw [required_eq_ok_iff, Members.Gives]
  simp only [numeral_eq_ok_iff]

theorem termSign_eq_ok_iff {s : Sign} : termSign ms = .ok s ↔ s.GivenBy ms := by
  rw [termSign, defaulted_eq_ok_iff, Sign.GivenBy, Members.Gives]
  simp only [sign_eq_ok_iff]

theorem keep_eq_ok_iff {k : Keep} : keep ms = .ok k ↔ k.GivenBy ms := by
  obtain ⟨e, n⟩ := k
  have hfields : keep ms = .ok ⟨e, n⟩ ↔
      required "kind".toList extreme ms = .ok e ∧
        required "count".toList (numeral 2) ms = .ok n :=
    map_both_eq_ok_iff fun _ _ => by simp
  rw [hfields, required_numeral_eq_ok_iff, required_eq_ok_iff, Keep.GivenBy]
  simp only [extreme_eq_ok_iff, exists_eq_right]

theorem optionalKeep_eq_ok_iff {o : Option Keep} :
    defaulted name none (orNull (record "KeepModifier".toList keep)) ms = .ok o ↔
      match o with
      | none => ∀ v, ms.get? name = some v → v = .null
      | some k => ∃ ks, ms.get? name = some (.obj ks) ∧ k.GivenBy ks := by
  rw [defaulted_eq_ok_iff]
  cases ms.get? name with
  | none => cases o <;> simp
  | some v =>
    cases v <;> cases o <;> simp [orNull_eq_ok_iff, record_eq_ok_iff, keep_eq_ok_iff]

theorem dice_eq_ok_iff {d : Dice} : dice ms = .ok d ↔ d.GivenBy ms := by
  obtain ⟨c, s, k⟩ := d
  have hfields : dice ms = .ok ⟨c, s, k⟩ ↔
      required "count".toList (numeral 2) ms = .ok c ∧
        both (required "sides".toList (numeral 4) ms)
          (defaulted "keep".toList none (orNull (record "KeepModifier".toList keep)) ms) =
            .ok (s, k) :=
    map_both_eq_ok_iff fun _ _ => by simp [Prod.ext_iff]
  rw [hfields, both_eq_ok_iff, required_numeral_eq_ok_iff, required_numeral_eq_ok_iff,
    optionalKeep_eq_ok_iff, Dice.GivenBy]

theorem flatTerm_eq_ok_iff {t : Term} :
    flatTerm ms = .ok t ↔ (∃ n, t.amount = .flat n) ∧ t.GivenBy ms := by
  obtain ⟨s, a⟩ := t
  cases a with
  | flat n =>
    have hfields : flatTerm ms = .ok ⟨s, .flat n⟩ ↔
        termSign ms = .ok s ∧ required "value".toList (numeral 4) ms = .ok n :=
      map_both_eq_ok_iff fun _ _ => by simp
    rw [hfields, termSign_eq_ok_iff, required_numeral_eq_ok_iff]
    exact (and_iff_right ⟨n, rfl⟩).symm
  | dice d =>
    refine iff_of_false (fun h => ?_) ?_
    · obtain ⟨_, -, hflat⟩ := map_eq_ok_iff.1 h
      cases hflat
    · rintro ⟨⟨_, h⟩, -⟩
      cases h

theorem diceTerm_eq_ok_iff {t : Term} :
    diceTerm ms = .ok t ↔ (∃ d, t.amount = .dice d) ∧ t.GivenBy ms := by
  obtain ⟨s, a⟩ := t
  cases a with
  | dice d =>
    have hfields : diceTerm ms = .ok ⟨s, .dice d⟩ ↔ termSign ms = .ok s ∧ dice ms = .ok d :=
      map_both_eq_ok_iff fun _ _ => by simp
    rw [hfields, termSign_eq_ok_iff, dice_eq_ok_iff]
    exact (and_iff_right ⟨d, rfl⟩).symm
  | flat n =>
    refine iff_of_false (fun h => ?_) ?_
    · obtain ⟨_, -, hdice⟩ := map_eq_ok_iff.1 h
      cases hdice
    · rintro ⟨⟨_, h⟩, -⟩
      cases h

theorem either_eq_ok_iff {α : Type} {first second : Text × (Value → Checked α)} {a : α} :
    either first second v = .ok a ↔
      second.2 v = .ok a ∨ first.2 v = .ok a ∧ ∃ is, second.2 v = .error is := by
  rw [either]
  cases first.2 v <;> cases second.2 v <;> simp [within]

/-- Dice come before a flat number when the members give both. -/
theorem term_eq_ok_iff {t : Term} :
    term v = .ok t ↔ ∃ ms, v = .obj ms ∧ t.GivenBy ms ∧
      ((∃ d : Dice, d.GivenBy ms) → ∃ d, t.amount = .dice d) := by
  rw [term, either_eq_ok_iff]
  cases v with
  | obj ms =>
    change diceTerm ms = .ok t ∨ flatTerm ms = .ok t ∧ (∃ is, diceTerm ms = .error is) ↔ _
    rw [diceTerm_eq_ok_iff, flatTerm_eq_ok_iff]
    constructor
    · rintro (⟨hdice, ht⟩ | ⟨⟨-, ht⟩, is, his⟩)
      · exact ⟨ms, rfl, ht, fun _ => hdice⟩
      · -- both kinds have the same sign, so that dice fail only for want of their own members
        refine ⟨ms, rfl, ht, ?_⟩
        rintro ⟨d, hd⟩
        have hok : diceTerm ms = .ok ⟨t.sign, .dice d⟩ :=
          diceTerm_eq_ok_iff.2 ⟨⟨d, rfl⟩, ht.1, hd⟩
        cases his.symm.trans hok
    · rintro ⟨_, ⟨⟩, ht, hdice⟩
      cases hamount : t.amount with
      | dice d => exact .inl ⟨⟨d, rfl⟩, ht⟩
      | flat n =>
        refine .inr ⟨⟨⟨n, rfl⟩, ht⟩, ?_⟩
        cases hd : diceTerm ms with
        | error is => exact ⟨is, rfl⟩
        | ok u =>
          obtain ⟨⟨d, hu⟩, hgiven⟩ := diceTerm_eq_ok_iff.1 hd
          have hdgiven : d.GivenBy ms := by
            have h := hgiven.2
            rwa [hu] at h
          obtain ⟨d', hd'⟩ := hdice ⟨d, hdgiven⟩
          cases hamount.symm.trans hd'
  | _ => simp [record, fail]

end Terms
end Intake
end DiceBot
