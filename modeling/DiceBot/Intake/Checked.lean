import DiceBot.Intake.Issue
import DiceBot.Json.Value

/-!
# Checking data

A check turns a value into data of a type, or lists all that is wrong with it.
A record is checked field by field, and its issues stand in the order of the
fields. Members that no field asks for do not matter.
-/

namespace DiceBot.Intake

open Json

abbrev Checked (α : Type) := Except (List Issue) α

variable {α β : Type}

def fail (cause : Cause) : Checked α := .error [⟨[], cause⟩]

def within (step : Step) : Checked α → Checked α
  | .ok a => .ok a
  | .error issues => .error (issues.map fun i => ⟨step :: i.path, i.cause⟩)

def both : Checked α → Checked β → Checked (α × β)
  | .ok a, .ok b => .ok (a, b)
  | .ok _, .error js => .error js
  | .error is, .ok _ => .error is
  | .error is, .error js => .error (is ++ js)

theorem within_eq_ok_iff {step : Step} {c : Checked α} {a : α} :
    within step c = .ok a ↔ c = .ok a := by
  cases c <;> simp [within]

theorem both_eq_ok_iff {c : Checked α} {d : Checked β} {a : α} {b : β} :
    both c d = .ok (a, b) ↔ c = .ok a ∧ d = .ok b := by
  cases c <;> cases d <;> simp [both]

def field (name : Text) (check : Value → Checked α) (absent : Checked α) (ms : Members) :
    Checked α :=
  within (.field name) <|
    match ms.get? name with
    | none => absent
    | some v => check v

def required (name : Text) (check : Value → Checked α) (ms : Members) : Checked α :=
  field name check (fail .missing) ms

def defaulted (name : Text) (default : α) (check : Value → Checked α) (ms : Members) : Checked α :=
  field name check (.ok default) ms

def record (name : Text) (check : Members → Checked α) : Value → Checked α
  | .obj ms => check ms
  | _ => fail (.notRecord name)

def orNull (check : Value → Checked α) : Value → Checked (Option α)
  | .null => .ok none
  | v => some <$> check v

def items (check : Value → Checked α) : Nat → List Value → Checked (List α)
  | _, [] => .ok []
  | i, v :: vs =>
    (fun p => p.1 :: p.2) <$> both (within (.index i) (check v)) (items check (i + 1) vs)

def list (check : Value → Checked α) : Value → Checked (List α)
  | .arr vs => items check 0 vs
  | _ => fail .notList

/-- A list that is found to be empty has no other issues. -/
def nonemptyList (check : Value → Checked α) (v : Value) : Checked { as : List α // as ≠ [] } := do
  match ← list check v with
  | [] => fail .emptyList
  | a :: as => return ⟨a :: as, List.cons_ne_nil a as⟩

/-- Data of either kind; the second kind is preferred when both fit. -/
def either (first second : Text × (Value → Checked α)) (v : Value) : Checked α :=
  match within (.variant first.1) (first.2 v), within (.variant second.1) (second.2 v) with
  | _, .ok b => .ok b
  | .ok a, .error _ => .ok a
  | .error is, .error js => .error (is ++ js)

end DiceBot.Intake
