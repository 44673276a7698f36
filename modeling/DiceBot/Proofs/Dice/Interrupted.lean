import DiceBot.Proofs.Dice.Runs

/-!
# Interrupted plays

A play that needs dice is interrupted when its source stops showing faces. It then fails with the
faces shown so far and nothing else in its journal, however it would have gone on. A play that needs
none does the same on every source. In a run whose states do not depend on what a step has played,
later steps that need no dice cannot tell whether it was made.
-/

namespace DiceBot

namespace Play

variable {σ α β S X : Type} [DieSource σ]

omit [DieSource σ] in
theorem filterMap_drawn {f : Event → Option β} (h : ∀ d, f (.drew d) = none)
    (dice faces : List Nat) : (drawn dice faces).filterMap f = [] := by
  rw [List.filterMap_eq_nil_iff]
  intro e he
  obtain ⟨d, rfl⟩ := exists_draw_of_mem_drawn he
  exact h d

section Runs

variable (next : S → X → S × Play σ α)

/-- A step `x` of a run fails just if the source does, and then with nothing but its draws. A later
step without dice has the outcome that it would have if `x` had not been made. -/
structure Traceless (dice : S → X → List Nat) (allowed : List X → Prop) (start : S) (s : σ)
    (past : List X) (x : X) : Prop where
  fails_iff : let now := reached next start s past
    (∃ e, ((next now.1 x).2.run now.2).result = .error e) ↔ DieSource.Fails now.2 (dice now.1 x)
  interrupted : let now := reached next start s past
    DieSource.Fails now.2 (dice now.1 x) → ∀ rest, ∃ o,
      (transcript next start s (past ++ x :: rest))[past.length]? = some o ∧
      o = interrupted now.2 (dice now.1 x) ∧
      o.journal.records = [] ∧ o.journal.posts = [] ∧ o.journal.metrics = []
  unaffected : ∀ before y after, allowed before →
    dice (reached next start s (past ++ before)).1 y = [] → ∃ a j,
      (transcript next start s (past ++ x :: before ++ y :: after))[(past ++ x :: before).length]? =
        some ⟨.ok a, (reached next start s (past ++ x :: before)).2, j⟩ ∧
      (transcript next start s (past ++ before ++ y :: after))[(past ++ before).length]? =
        some ⟨.ok a, (reached next start s (past ++ before)).2, j⟩

theorem traceless {dice : S → X → List Nat} {allowed : List X → Prop} {start : S} {s : σ}
    {past : List X} {x : X} (hstill : ∀ st y, dice st y = [] → Still (next st y).2)
    (hx : ∀ st, ThrowsFirst (next st x).2 (dice st x))
    (hsame : ∀ before, allowed before → ∀ y,
      (next (reached next start s (past ++ x :: before)).1 y).2 =
        (next (reached next start s (past ++ before)).1 y).2) :
    Traceless next dice allowed start s past x where
  fails_iff := (hx _).result_eq_error_iff _
  interrupted h rest := by
    refine ⟨_, getElem?_transcript next start s past x rest, (hx _).run_of_fails h, ?_⟩
    rw [(hx _).run_of_fails h]
    exact ⟨filterMap_drawn (fun _ => rfl) _ _, filterMap_drawn (fun _ => rfl) _ _,
      filterMap_drawn (fun _ => rfl) _ _⟩
  unaffected before y after hbefore hy := by
    obtain ⟨a, j, -, hrun⟩ := hstill _ y hy
    refine ⟨a, j, ?_, ?_⟩
    · rw [getElem?_transcript, hsame before hbefore, hrun]
    · rw [getElem?_transcript, hrun]

end Runs

end Play
end DiceBot
