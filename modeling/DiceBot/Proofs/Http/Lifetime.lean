import DiceBot.Proofs.Http.Serving
import DiceBot.Proofs.Settings.Readings

/-!
# How long a bot lasts

A session keeps its bot until it is reset, and the settings it has read until they are dropped. The
first request that needs a bot after a reset gets one with the settings that are kept, or else with
those of the environment as it is then. Unusable settings leave nothing behind.
-/

namespace DiceBot

def HttpStep.changed (e : Environment) : HttpStep → Environment
  | .assign changes => changes.foldl (fun e change => e.assign change.1 change.2) e
  | .dropSettings | .reset | .request _ => e

/-- What a request comes to, by the bot that the session can supply, and what then becomes of the
session. -/
structure Request.Handled {σ : Type} [DieSource σ] (r : Request) (before after : Session) (s : σ)
    (o : Outcome σ HttpResult) : Prop where
  settled : r.turn? = none → r.Settled s o ∧ after = before
  served : ∀ t b, r.turn? = some t → before.supply = .ok b →
    r.Served t ((b.take t).run s) o ∧ after.bot = some b ∧
      (before.bot = none →
        ∃ reading, after.configuration.kept = some reading ∧ reading.settings.bot = b)
  misconfigured : ∀ t e, r.turn? = some t → before.supply = .error e →
    o = ⟨.ok (.misconfigured e), s, []⟩ ∧ after = before ∧
      before.bot = none ∧ before.configuration.kept = none

namespace Session

def next (st : Session) : HttpStep → Session
  | .assign changes => { st with configuration := st.configuration.assignAll changes }
  | .dropSettings => { st with configuration := st.configuration.drop }
  | .reset => st.reset
  | .request r => if r.turn? = none then st else st.ready.1

section Next

variable {st : Session} {x : HttpStep}

end Next

section Steps

variable {st : Session} {steps : List HttpStep}

end Steps

open Play

variable {σ : Type} [DieSource σ]

theorem step_fst (st : Session) (x : HttpStep) : (st.step (σ := σ) x).1 = st.next x := by
  cases x with
  | request r =>
    rw [step, next]
    split
    · rename_i ht
      exact (respond_of_idle st ht).1
    · rename_i ht
      obtain ⟨t, ht⟩ := Option.ne_none_iff_exists'.1 ht
      cases h : st.supply with
      | error e => rw [respond_of_supply_eq_error ht h, (ready_of_supply_eq_error h).1]
      | ok b => exact (respond_of_supply_eq_ok ht h).1
  | _ => rfl

theorem reached_fst (st : Session) (s : σ) (steps : List HttpStep) :
    (reached step st s steps).1 = steps.foldl next st := by
  rw [Play.reached_fst, funext₂ (step_fst (σ := σ))]

theorem handled (st : Session) (r : Request) (s : σ) :
    r.Handled st (st.next (.request r)) s ((st.respond r).2.run s) where
  settled ht := by
    rw [next, if_pos ht]
    exact ⟨(respond_of_idle st ht).2 s, rfl⟩
  served t b ht hb := by
    obtain ⟨configuration, hready, -, -, hkept⟩ := ready_of_supply_eq_ok hb
    rw [next, if_neg (by simp [ht]), hready]
    exact ⟨(respond_of_supply_eq_ok ht hb).2 s, rfl, hkept⟩
  misconfigured t e ht he := by
    obtain ⟨hready, hbot, hkept⟩ := ready_of_supply_eq_error he
    rw [next, if_neg (by simp [ht]), hready, respond_of_supply_eq_error ht he]
    exact ⟨rfl, rfl, hbot, hkept⟩

end Session
end DiceBot
