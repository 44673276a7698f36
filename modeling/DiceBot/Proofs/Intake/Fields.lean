import DiceBot.Intake.Record
import DiceBot.Proofs.Formula.Numeral

/-!
# The fields of formulas

A formula, its terms and what they keep are written out as plain members of a
record. The checks accept these members and give back what was written, so no
formula is out of the bounds that are checked.
-/

namespace DiceBot

open Json Intake

def Keep.fields (k : Keep) : Members :=
  [(some "kind".toList, .str (some [k.extreme.mark])), (some "count".toList, .int k.count.value)]

def Dice.fields (d : Dice) : Members :=
  [(some "count".toList, .int d.count.value), (some "sides".toList, .int d.sides.value),
    (some "keep".toList, (d.keep.map fun k => Value.obj k.fields).getD .null)]

def Term.fields (t : Term) : Members :=
  (some "sign".toList, .int t.sign.value) ::
    match t.amount with
    | .flat v => [(some "value".toList, .int v.value)]
    | .dice d => d.fields

def Formula.fields (f : Formula) : Members :=
  [(some "text".toList, .str (some f.text)), (some "repeat".toList, .int f.repeats.value),
    (some "terms".toList, .arr (f.terms.map fun t => .obj t.fields))]

namespace Intake

variable {α : Type}

theorem field_eq_ok {name : Text} {check : Value → Checked α} {absent : Checked α} {ms : Members}
    {v : Value} {a : α} (hv : ms.get? name = some v) (ha : check v = .ok a) :
    field name check absent ms = .ok a := by
  rw [field, hv]
  exact within_eq_ok_iff.2 ha

theorem required_eq_error {name : Text} {check : Value → Checked α} {ms : Members}
    (hv : ms.get? name = none) : required name check ms = .error [⟨[.field name], .missing⟩] := by
  rw [required, field, hv]
  rfl

theorem numeral_value {digits : Nat} (n : Numeral digits) :
    numeral digits (.int n.value) = .ok n := by
  simp only [numeral, integer, bind, Except.bind, Int.toNat_natCast, Numeral.ofNat?_value]
  rfl

theorem exists_numeral_eq_ok_iff {digits : Nat} {i : Int} :
    (∃ n, numeral digits (.int i) = .ok n) ↔ 0 < i ∧ (Decimal.ofInt i).length ≤ digits := by
  have hcheck : (∃ n, numeral digits (.int i) = .ok n) ↔
      ∃ n, Numeral.ofNat? digits i.toNat = some n := by
    simp only [numeral, integer, bind, Except.bind]
    cases Numeral.ofNat? digits i.toNat <;> simp [fail, pure, Except.pure]
  rw [hcheck, Numeral.exists_ofNat?_eq_some_iff]
  cases i with
  | ofNat n => simp [Decimal.ofInt]
  | negSucc n => simp

theorem sign_value (s : Sign) : sign (.int s.value) = .ok s := by cases s <;> rfl

theorem extreme_mark (e : Extreme) : extreme (.str (some [e.mark])) = .ok e := by cases e <;> rfl

theorem keep_fields (k : Keep) : keep k.fields = .ok k := by
  have hkind : required "kind".toList extreme k.fields = .ok k.extreme :=
    field_eq_ok rfl (extreme_mark _)
  have hcount : required "count".toList (numeral 2) k.fields = .ok k.count :=
    field_eq_ok rfl (numeral_value _)
  rw [keep, both_eq_ok_iff.2 ⟨hkind, hcount⟩]
  rfl

theorem either_eq_ok_of_second {first second : Text × (Value → Checked α)} {v : Value} {a : α}
    (h : second.2 v = .ok a) : either first second v = .ok a := by
  simp only [either, within_eq_ok_iff.2 h]

theorem either_eq_ok_of_first {first second : Text × (Value → Checked α)} {v : Value} {a : α}
    {is : List Issue} (h : first.2 v = .ok a) (h' : second.2 v = .error is) :
    either first second v = .ok a := by
  rw [either, within_eq_ok_iff.2 h, h']
  rfl

theorem both_error_left {β : Type} {c : Checked α} {d : Checked β} {is : List Issue}
    (h : c = .error is) : ∃ js, both c d = .error js := by
  subst h
  cases d with
  | ok b => exact ⟨is, rfl⟩
  | error js => exact ⟨is ++ js, rfl⟩

theorem termSign_fields (t : Term) : termSign t.fields = .ok t.sign := by
  have hget : t.fields.get? "sign".toList = some (.int t.sign.value) := by
    obtain ⟨s, a⟩ := t
    cases a <;> rfl
  rw [termSign]
  exact field_eq_ok hget (sign_value t.sign)

theorem diceTerm_fields (s : Sign) (d : Dice) :
    diceTerm (Term.fields ⟨s, .dice d⟩) = .ok ⟨s, .dice d⟩ := by
  let ms := Term.fields ⟨s, .dice d⟩
  have hcount : required "count".toList (numeral 2) ms = .ok d.count :=
    field_eq_ok rfl (numeral_value _)
  have hsides : required "sides".toList (numeral 4) ms = .ok d.sides :=
    field_eq_ok rfl (numeral_value _)
  have hkeep : defaulted "keep".toList none (orNull (record "KeepModifier".toList keep)) ms =
      .ok d.keep := by
    apply field_eq_ok rfl
    cases d.keep with
    | none => rfl
    | some k =>
      change some <$> keep k.fields = _
      rw [keep_fields]
      rfl
  have hdice : dice ms = .ok d := by
    rw [dice, both_eq_ok_iff.2 ⟨hcount, both_eq_ok_iff.2 ⟨hsides, hkeep⟩⟩]
    rfl
  rw [diceTerm, both_eq_ok_iff.2 ⟨termSign_fields _, hdice⟩]
  rfl

theorem flatTerm_fields (s : Sign) (v : Numeral 4) :
    flatTerm (Term.fields ⟨s, .flat v⟩) = .ok ⟨s, .flat v⟩ := by
  have hvalue : required "value".toList (numeral 4) (Term.fields ⟨s, .flat v⟩) = .ok v :=
    field_eq_ok rfl (numeral_value v)
  rw [flatTerm, both_eq_ok_iff.2 ⟨termSign_fields _, hvalue⟩]
  rfl

theorem diceTerm_fields_flat (s : Sign) (v : Numeral 4) :
    ∃ is, diceTerm (Term.fields ⟨s, .flat v⟩) = .error is := by
  obtain ⟨is, hdice⟩ : ∃ is, dice (Term.fields ⟨s, .flat v⟩) = .error is := by
    have hcount : required "count".toList (numeral 2) (Term.fields ⟨s, .flat v⟩) =
        .error [⟨[.field "count".toList], .missing⟩] := required_eq_error rfl
    obtain ⟨js, hjs⟩ := both_error_left hcount
    exact ⟨js, by rw [dice, hjs]; rfl⟩
  exact ⟨is, by rw [diceTerm, termSign_fields, hdice]; rfl⟩

theorem term_fields (t : Term) : term (.obj t.fields) = .ok t := by
  obtain ⟨s, a⟩ := t
  cases a with
  | flat v =>
    obtain ⟨is, hdice⟩ := diceTerm_fields_flat s v
    exact either_eq_ok_of_first (flatTerm_fields s v) hdice
  | dice d => exact either_eq_ok_of_second (diceTerm_fields s d)

theorem items_map {check : Value → Checked α} {write : α → Value}
    (h : ∀ a, check (write a) = .ok a) (i : Nat) (as : List α) :
    items check i (as.map write) = .ok as := by
  induction as generalizing i with
  | nil => rfl
  | cons a as ih =>
    rw [List.map_cons, items, h a, ih (i + 1)]
    rfl

theorem nonemptyList_map {check : Value → Checked α} {write : α → Value}
    (h : ∀ a, check (write a) = .ok a) {as : List α} (hne : as ≠ []) :
    nonemptyList check (.arr (as.map write)) = .ok ⟨as, hne⟩ := by
  rw [nonemptyList, list, items_map h]
  cases as with
  | nil => exact absurd rfl hne
  | cons a as => rfl

theorem formula_fields (f : Formula) : formula f.fields = .ok f := by
  have htext : required "text".toList text f.fields = .ok f.text := field_eq_ok rfl rfl
  have hrepeats : defaulted "repeat".toList once (numeral 2) f.fields = .ok f.repeats :=
    field_eq_ok rfl (numeral_value _)
  have hterms : required "terms".toList (nonemptyList term) f.fields =
      .ok ⟨f.terms, f.terms_ne_nil⟩ :=
    field_eq_ok rfl (nonemptyList_map term_fields f.terms_ne_nil)
  rw [formula, both_eq_ok_iff.2 ⟨htext, both_eq_ok_iff.2 ⟨hrepeats, hterms⟩⟩]
  rfl

end Intake
end DiceBot
