import DiceBot.Dice.Source
import DiceBot.Journal

/-!
# Plays

A play throws dice from a source on the way to its result, and keeps a journal.
It fails when the source fails a throw; what happened before stays in the
journal. Plays in sequence pass the source on and join their journals.
-/

namespace DiceBot

inductive Exhausted where
  | noFaceLeft
deriving DecidableEq, Repr

def Exhausted.message : Exhausted → Text
  | .noFaceLeft => "no scripted face left".toList

structure Outcome (σ α : Type) where
  result : Except Exhausted α
  source : σ
  journal : Journal

structure Play (σ α : Type) where
  run : σ → Outcome σ α

namespace Play

variable {σ α β γ : Type}

theorem ext {p q : Play σ α} (h : ∀ s, p.run s = q.run s) : p = q := by
  cases p; cases q
  exact congrArg Play.mk (funext h)

def andThen (o : Outcome σ α) (f : α → Play σ β) : Outcome σ β :=
  match o.result with
  | .error e => ⟨.error e, o.source, o.journal⟩
  | .ok a =>
    let o' := (f a).run o.source
    ⟨o'.result, o'.source, o.journal ++ o'.journal⟩

instance : Monad (Play σ) where
  pure a := ⟨fun s => ⟨.ok a, s, []⟩⟩
  bind p f := ⟨fun s => andThen (p.run s) f⟩
  map f p := ⟨fun s => let o := p.run s; ⟨o.result.map f, o.source, o.journal⟩⟩

@[simp] theorem run_pure (a : α) (s : σ) : (pure a : Play σ α).run s = ⟨.ok a, s, []⟩ := rfl

theorem run_bind (p : Play σ α) (f : α → Play σ β) (s : σ) :
    (p >>= f).run s = andThen (p.run s) f := rfl

theorem run_bind_of_error {p : Play σ α} {s : σ} {e : Exhausted} (h : (p.run s).result = .error e)
    (f : α → Play σ β) : (p >>= f).run s = ⟨.error e, (p.run s).source, (p.run s).journal⟩ := by
  rw [run_bind, andThen, h]

theorem run_bind_of_ok {p : Play σ α} {s : σ} {a : α} (h : (p.run s).result = .ok a)
    (f : α → Play σ β) :
    (p >>= f).run s =
      let next := (f a).run (p.run s).source
      ⟨next.result, next.source, (p.run s).journal ++ next.journal⟩ := by
  rw [run_bind, andThen, h]

theorem run_map (f : α → β) (p : Play σ α) (s : σ) :
    (f <$> p).run s = ⟨(p.run s).result.map f, (p.run s).source, (p.run s).journal⟩ := rfl

theorem id_map (p : Play σ α) : id <$> p = p :=
  ext fun s => by cases h : (p.run s).result <;> simp only [run_map, h, Except.map, id] <;> rw [← h]

theorem bind_assoc (p : Play σ α) (f : α → Play σ β) (g : β → Play σ γ) :
    p >>= f >>= g = p >>= fun a => f a >>= g :=
  ext fun s => by
    simp only [run_bind, andThen]
    cases (p.run s).result with
    | error e => rfl
    | ok a =>
      dsimp only
      cases ((f a).run (p.run s).source).result with
      | error e => rfl
      | ok b => simp only [List.append_assoc]

theorem bind_pure_comp (f : α → β) (p : Play σ α) : (p >>= fun a => pure (f a)) = f <$> p :=
  ext fun s => by
    simp only [run_bind, run_map, andThen, run_pure, List.append_nil]
    cases (p.run s).result <;> rfl

instance : LawfulMonad (Play σ) :=
  LawfulMonad.mk' (Play σ) id_map
    (fun a f => ext fun s => by simp only [run_bind, run_pure, andThen, List.nil_append])
    bind_assoc (fun _ _ => rfl) (fun _ _ => rfl) (fun _ _ => rfl) bind_pure_comp

def tell (e : Event) : Play σ Unit := ⟨fun s => ⟨.ok (), s, [e]⟩⟩

def log (r : LogRecord) : Play σ Unit := tell (.logged r)

def attempt (p : Play σ α) : Play σ (Except Exhausted α) :=
  ⟨fun s => let o := p.run s; ⟨.ok o.result, o.source, o.journal⟩⟩

def throwDie [DieSource σ] (sides : Nat) : Play σ Nat :=
  ⟨fun s =>
    match DieSource.throw? s sides with
    | (none, s') => ⟨.error .noFaceLeft, s', []⟩
    | (some face, s') => ⟨.ok face, s', [.drew ⟨sides, face⟩]⟩⟩

def throwDice [DieSource σ] (count sides : Nat) : Play σ (List Nat) :=
  (List.replicate count sides).mapM throwDie

/-- Runs steps on a state, each on the source as the one before left it. A step decides by the
state alone what it plays and how the state changes, so a failing play changes no state. -/
def transcript {State Step : Type} (next : State → Step → State × Play σ α) :
    State → σ → List Step → List (Outcome σ α)
  | _, _, [] => []
  | st, s, x :: xs =>
    let (st', p) := next st x
    let o := p.run s
    o :: transcript next st' o.source xs

end Play
end DiceBot
