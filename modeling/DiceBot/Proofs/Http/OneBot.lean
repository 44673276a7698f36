import DiceBot.Proofs.Http.Serving

/-!
# One bot behind HTTP

While the environment stays the same, a session answers its requests as one bot with the settings of
that environment takes its turns, one after another on the same source. Neither a reset nor a
request that is settled without a bot makes any difference to the turns.
-/

namespace DiceBot

theorem Tells.status {origin : Option Text} {t : Turn} {result : TurnResult} {response : Response}
    {ms : List Metric} (h : Tells origin t result response ms) :
    response.status = 200 ∨ response.status = 204 := by
  cases h with
  | rolled _ _ _ _ hresponse | unrolled _ _ _ hresponse | replied _ _ hresponse =>
    exact Or.inl hresponse.status
  | ignored _ hresponse => exact Or.inr hresponse.status

namespace HttpStep

/-- A step has the outcome of the turn that it comes to, if it comes to one. -/
inductive Answered {σ : Type} :
    HttpStep → Outcome σ HttpResult → List (Turn × Outcome σ TurnResult) → Prop
  | served {r : Request} {t : Turn} {own : Outcome σ TurnResult} {o : Outcome σ HttpResult}
    (ht : r.turn? = some t) (h : r.Served t own o) : Answered (.request r) o [(t, own)]
  | settled {r : Request} {s : σ} {o : Outcome σ HttpResult} (ht : r.turn? = none)
    (h : r.Settled s o) : Answered (.request r) o []
  | done {x : HttpStep} (h : ∀ r, x ≠ .request r) (s : σ) : Answered x ⟨.ok .done, s, []⟩ []

end HttpStep

namespace Session

structure Fits (settings : Settings) (st : Session) : Prop where
  environment : Settings.ofEnvironment st.configuration.environment = .ok settings
  kept : ∀ reading, st.configuration.kept = some reading → reading.settings.bot = settings.bot
  bot : ∀ b, st.bot = some b → b = settings.bot

variable {settings : Settings} {st : Session}

theorem Fits.supply (h : Fits settings st) : st.supply = .ok settings.bot := by
  rw [Session.supply]
  cases hbot : st.bot with
  | some b => exact congrArg _ (h.bot b hbot)
  | none =>
    cases hkept : st.configuration.kept with
    | some reading => exact congrArg _ (h.kept reading hkept)
    | none => dsimp only; rw [h.environment]; rfl

theorem Fits.ready (h : Fits settings st) : Fits settings st.ready.1 := by
  obtain ⟨configuration, hready, henv, hkept, -⟩ := ready_of_supply_eq_ok h.supply
  rw [hready]
  refine ⟨henv ▸ h.environment, fun reading hreading => ?_, fun b hb => (Option.some.inj hb).symm⟩
  obtain hkept | ⟨-, reading', hkept, hbot⟩ := hkept
  · exact h.kept reading (hkept ▸ hreading)
  · obtain rfl : reading' = reading := Option.some.inj (hkept.symm.trans hreading)
    exact hbot

open Play

variable {σ : Type} [DieSource σ]

theorem Fits.step (h : Fits settings st) {x : HttpStep} (hx : ∀ changes, x ≠ .assign changes)
    (s : σ) :
    x.Answered ((st.step x).2.run s) (series settings.bot.take s x.turn?.toList) ∧
      leftover settings.bot.take s x.turn?.toList = ((st.step x).2.run s).source ∧
      Fits settings (st.step (σ := σ) x).1 := by
  cases x with
  | assign changes => exact absurd rfl (hx changes)
  | dropSettings =>
    refine ⟨.done (by simp) s, rfl, h.environment, fun _ hkept => ?_, h.bot⟩
    cases hkept
  | reset => exact ⟨.done (by simp) s, rfl, h.environment, h.kept, fun _ hb => by cases hb⟩
  | request r =>
    rw [Session.step, HttpStep.turn?]
    cases ht : r.turn? with
    | none =>
      obtain ⟨hnext, hsettled⟩ := respond_of_idle (σ := σ) st ht
      obtain ⟨response, hintent, ho⟩ := hsettled s
      refine ⟨.settled ht ⟨response, hintent, ho⟩, ?_, hnext.symm ▸ h⟩
      rw [ho]
      rfl
    | some t =>
      obtain ⟨hnext, hserved⟩ := respond_of_supply_eq_ok (σ := σ) ht h.supply
      rw [hnext]
      exact ⟨.served ht (hserved s), (hserved s).source.symm, h.ready⟩

end Session
end DiceBot
