import DiceBot.Proofs.Chat.Interrupted
import DiceBot.Proofs.Http.Lifetime

/-!
# Interrupted requests

A request has its bot before it throws dice. If it is interrupted, all that stays is this bot, with
the settings it was made from, and a later request would have made the same one. A change of the
environment or settings that are dropped in the meantime could tell the difference.
-/

namespace DiceBot

def Session.diceOf (st : Session) (t : Turn) : List Nat :=
  match st.supply with
  | .error _ => []
  | .ok b => t.dice b

def HttpStep.dice (st : Session) (x : HttpStep) : List Nat := (x.turn?.map st.diceOf).getD []

namespace Session

theorem ready_snd (st : Session) : st.ready.2 = st.supply := by
  cases h : st.supply with
  | error e => rw [(ready_of_supply_eq_error h).1]
  | ok b =>
    obtain ⟨st', hready, -⟩ := exists_readied h
    rw [hready]

theorem supply_reset {st : Session} (h : st.bot = none) : st.reset.supply = st.supply := by
  rw [supply, supply, h]
  rfl

section Alike

/-- The sessions supply the same bot, now and after a reset. -/
structure Alike (st st' : Session) : Prop where
  environment : st'.configuration.environment = st.configuration.environment
  supply : st'.supply = st.supply
  renewed : st'.reset.supply = st.reset.supply

def UpToDate (st : Session) : Prop :=
  st.reset.supply = (Settings.ofEnvironment st.configuration.environment).map Settings.bot

variable {st st' st'' : Session}

theorem Alike.refl (st : Session) : Alike st st := ⟨rfl, rfl, rfl⟩

theorem Alike.symm (h : Alike st st') : Alike st' st :=
  ⟨h.environment.symm, h.supply.symm, h.renewed.symm⟩

theorem Alike.trans (h : Alike st st') (h' : Alike st' st'') : Alike st st'' :=
  ⟨h'.environment.trans h.environment, h'.supply.trans h.supply, h'.renewed.trans h.renewed⟩

theorem Alike.upToDate (h : Alike st st') (hst : st.UpToDate) : st'.UpToDate := by
  rw [UpToDate, h.renewed, h.environment]
  exact hst

theorem Readied.alike {b : Bot} (h : st.Readied b st') : Alike st st' := by
  cases h with
  | before b hbot => exact Alike.refl st
  | ofKept reading hbot hkept => exact ⟨rfl, (supply_of_kept hbot hkept).symm, rfl⟩
  | ofEnvironment settings hbot hkept henv =>
    have hmade : (Settings.ofEnvironment st.configuration.environment).map Settings.bot =
        .ok settings.bot := by rw [henv, Except.map]
    have hsupply : st.supply = .ok settings.bot := (supply_of_absent hbot hkept).trans hmade
    have hreset : st.reset.supply = .ok settings.bot :=
      (supply_of_absent (rfl : st.reset.bot = none) hkept).trans hmade
    exact ⟨rfl, hsupply.symm, hreset.symm⟩

theorem alike_request (st : Session) (r : Request) : Alike st (st.next (.request r)) := by
  rw [next]
  split
  · exact Alike.refl st
  · cases h : st.supply with
    | error e =>
      rw [(ready_of_supply_eq_error h).1]
      exact Alike.refl st
    | ok b =>
      obtain ⟨st', hready, hreadied⟩ := exists_readied h
      rw [hready]
      exact hreadied.alike

theorem alike_drop (h : st.UpToDate) : Alike st (st.next .dropSettings) := by
  refine ⟨rfl, ?_, h.symm⟩
  cases hbot : st.bot with
  | some b =>
    have hdrop : (st.next .dropSettings).supply = .ok b := supply_of_bot hbot
    exact hdrop.trans (supply_of_bot hbot).symm
  | none =>
    have hreset := supply_reset hbot
    have hdrop : (st.next .dropSettings).supply =
        (Settings.ofEnvironment st.configuration.environment).map Settings.bot :=
      supply_of_absent hbot rfl
    rw [hdrop, ← hreset, h]

theorem Alike.next {x : HttpStep} (h : Alike st st') (hassign : ∀ changes, x ≠ .assign changes)
    (hdrop : x = .dropSettings → st.UpToDate) : Alike (st.next x) (st'.next x) := by
  cases x with
  | assign changes => exact absurd rfl (hassign changes)
  | dropSettings =>
    have hst := hdrop rfl
    exact ((alike_drop hst).symm.trans h).trans (alike_drop (h.upToDate hst))
  | reset => exact ⟨h.environment, h.renewed, h.renewed⟩
  | request r => exact ((alike_request st r).symm.trans h).trans (alike_request st' r)

theorem UpToDate.next {x : HttpStep} (h : st.UpToDate) (hassign : ∀ changes, x ≠ .assign changes) :
    (st.next x).UpToDate := by
  cases x with
  | assign changes => exact absurd rfl (hassign changes)
  | dropSettings => exact (alike_drop h).upToDate h
  | reset => exact h
  | request r => exact (alike_request st r).upToDate h

theorem Alike.steps {steps : List HttpStep} (h : Alike st st')
    (hassign : ∀ changes, .assign changes ∉ steps)
    (hdrop : .dropSettings ∈ steps → st.UpToDate) :
    Alike (steps.foldl Session.next st) (steps.foldl Session.next st') := by
  induction steps generalizing st st' with
  | nil => exact h
  | cons x steps ih =>
    have hx : ∀ changes, x ≠ .assign changes := fun changes hx => hassign changes (by simp [hx])
    refine ih (h.next hx fun hx => hdrop (by simp [hx])) (fun changes hmem => ?_) fun hmem => ?_
    · exact hassign changes (List.mem_cons_of_mem _ hmem)
    · exact (hdrop (List.mem_cons_of_mem _ hmem)).next hx

end Alike

/-- The environment stays as it is, and settings are dropped only if that makes no difference to the
bot that the session supplies. -/
def Undisturbed (st : Session) (steps : List HttpStep) : Prop :=
  (∀ changes, .assign changes ∉ steps) ∧
    (.dropSettings ∈ steps → (st.next .dropSettings).supply = st.supply)

theorem next_request_of_bot {st : Session} {b : Bot} (h : st.bot = some b) (r : Request) :
    st.next (.request r) = st := by
  rw [next, ready, h]
  exact ite_self st

theorem upToDate_of_bot_eq_none {st : Session} (h : st.bot = none)
    (hdrop : (st.next .dropSettings).supply = st.supply) : st.UpToDate := by
  rw [UpToDate, supply_reset h, ← hdrop]
  exact supply_of_absent h rfl

theorem Undisturbed.supply_eq {st : Session} {steps : List HttpStep} (h : st.Undisturbed steps)
    (r : Request) :
    (steps.foldl next (st.next (.request r))).supply = (steps.foldl next st).supply := by
  obtain ⟨hassign, hdrop⟩ := h
  cases hbot : st.bot with
  | some b => rw [next_request_of_bot hbot]
  | none =>
    have hsteps := (alike_request st r).steps hassign fun hmem =>
      upToDate_of_bot_eq_none hbot (hdrop hmem)
    exact hsteps.supply

section Plays

open Play

variable {σ : Type} [DieSource σ]

omit [DieSource σ] in
theorem withBot_snd (st : Session) (play : Bot → Play σ Response) :
    (st.withBot play).2 =
      match st.supply with
      | .error e => return .misconfigured e
      | .ok b => .response <$> play b := by
  rw [← ready_snd, withBot]
  split <;> simp [*]

theorem step_snd_eq {st st' : Session} (h : st'.supply = st.supply) (x : HttpStep) :
    (st'.step (σ := σ) x).2 = (st.step x).2 := by
  cases x with
  | request r =>
    rw [step, step, respond, respond]
    cases r.intent with
    | settled response => rfl
    | roll q => exact (withBot_snd st' _).trans (by rw [h, withBot_snd])
    | message userId q => exact (withBot_snd st' _).trans (by rw [h, withBot_snd])
  | _ => rfl

omit [DieSource σ] in
theorem still_tally (a : Answer) : Still (tally a : Play σ Unit) := by
  rw [tally]
  cases a.report with
  | none => exact still_pure ()
  | some report => exact still_tell rfl

theorem throwsFirst_roll (b : Bot) (q : Intake.RollRequest) :
    ThrowsFirst (roll b q : Play σ Response) ((Turn.ask (.answer q.formula)).dice b) :=
  (b.responder.throwsFirst_answer q.formula).bind fun a =>
    (still_tally a).bind fun _ => still_pure _

theorem throwsFirst_message (b : Bot) (userId : Text) (q : Intake.ChatRequest) :
    ThrowsFirst (message b userId q : Play σ Response)
      ((Turn.hear ⟨userId, q.channel, q.text⟩).dice b) := by
  refine (b.throwsFirst_handle ⟨userId, q.channel, q.text⟩).bind fun reply => ?_
  cases reply with
  | none => exact still_pure _
  | some text => exact (still_tell rfl).bind fun _ => (still_tell rfl).bind fun _ => still_pure _

theorem throwsFirst_withBot (st : Session) {play : Bot → Play σ Response} {t : Turn}
    (h : ∀ b, ThrowsFirst (play b) (t.dice b)) :
    ThrowsFirst (st.withBot play).2 (st.diceOf t) := by
  rw [withBot_snd, diceOf]
  cases st.supply with
  | error e => exact (still_pure _).throwsFirst
  | ok b => exact (h b).map _

theorem throwsFirst_step (st : Session) (x : HttpStep) :
    ThrowsFirst (st.step (σ := σ) x).2 (x.dice st) := by
  cases x with
  | request r =>
    have ht : HttpStep.turn? (.request r) = r.intent.turn? := r.turn?_intent.symm
    rw [HttpStep.dice, ht, step, respond]
    cases r.intent with
    | settled response => exact (still_pure _).throwsFirst
    | roll q => exact throwsFirst_withBot st fun b => (throwsFirst_roll b q).map _
    | message userId q =>
      exact throwsFirst_withBot st fun b => (throwsFirst_message b userId q).map _
  | _ => exact (still_pure _).throwsFirst

theorem readied_of_fails {st : Session} {r : Request} {s : σ}
    (h : DieSource.Fails s (HttpStep.dice st (.request r))) :
    ∃ b, st.Readied b (st.next (.request r)) := by
  -- a source fails only at dice, so there is a turn, and a bot to take it
  cases ht : r.turn? with
  | none =>
    rw [HttpStep.dice, HttpStep.turn?, ht] at h
    exact absurd h (DieSource.not_fails_nil s)
  | some t =>
    rw [HttpStep.dice, HttpStep.turn?, ht, Option.map_some, Option.getD_some, diceOf] at h
    cases hsupply : st.supply with
    | error e =>
      rw [hsupply] at h
      exact absurd h (DieSource.not_fails_nil s)
    | ok b =>
      obtain ⟨st', hready, hreadied⟩ := exists_readied hsupply
      rw [next, if_neg (by simp [ht]), hready]
      exact ⟨b, hreadied⟩

theorem traceless_request (start : Session) (s : σ) (past : List HttpStep) (r : Request) :
    Traceless step (fun st x => x.dice st) (reached step start s past).1.Undisturbed start s past
      (.request r) := by
  refine traceless step (fun st x => (st.throwsFirst_step x).still)
    (fun st => st.throwsFirst_step _) ?_
  intro before hbefore y
  rw [reached_fst, reached_fst, List.foldl_append, List.foldl_append, List.foldl_cons]
  rw [reached_fst] at hbefore
  exact step_snd_eq (hbefore.supply_eq r) y

end Plays
end Session

open Play

/-- A source that fails a call leaves no trace of it but the faces that it had shown. The call
yields this failure and nothing is logged, posted or counted. A responder and a bot are as before,
and a session too but for its bot and the settings that this was made of. So whatever needs no dice
has later the result and the journal that it would have had without the call: after a request as
long as the environment is not changed, nor settings dropped that differ from it. The calls of a
delivery are messages one after another. -/
theorem interrupted_without_trace {σ : Type} [DieSource σ] (b : Bot) (start : Session) (s : σ) :
    (∀ past q, let next (r : Responder) (q : Query) : Responder × Play σ QueryResult := (r, r.ask q)
      Traceless next (fun r q => q.dice r) (fun _ => True) b.responder s past q ∧
        (reached next b.responder s (past ++ [q])).1 = b.responder) ∧
    (∀ past m,
      Traceless Bot.step (fun b x => x.dice b) (fun _ => True) b s past (.message m) ∧
        (reached Bot.step b s (past ++ [.message m])).1 = (reached Bot.step b s past).1) ∧
    (∀ past transport m rest,
      let now := reached Bot.step b s past
      let calls : List ChatStep := List.replicate (now.1.attached.count transport) (.message m)
      let own := now.1.transcript now.2 calls
      reached Bot.step b s (past ++ [.deliver transport m]) =
        reached Bot.step b s (past ++ calls) ∧
      ∃ o, (b.transcript s (past ++ .deliver transport m :: rest))[past.length]? = some o ∧
        ChatResult.returned o.result = (own.flatMap fun o => ChatResult.returned o.result) ∧
        o.journal = own.flatMap fun o => o.journal) ∧
    ∀ past r,
      let now := reached Session.step start s past
      Traceless Session.step (fun st x => x.dice st) now.1.Undisturbed start s past (.request r) ∧
        (DieSource.Fails now.2 (HttpStep.dice now.1 (.request r)) →
          ∃ b, now.1.Readied b (reached Session.step start s (past ++ [.request r])).1) := by
  refine ⟨fun past q => ⟨b.responder.traceless_ask s past q, b.responder.reached_ask s _⟩,
    fun past m => ⟨b.traceless_message s past m, ?_⟩, fun past transport m rest => ?_,
    fun past r => ⟨start.traceless_request s past r, fun hfails => ?_⟩⟩
  · rw [b.reached_message, List.append_nil]
  · intro now calls own
    obtain ⟨hreturned, hjournal, hreached⟩ := now.1.deliver_eq_messages now.2 transport m
    refine ⟨?_, _, getElem?_transcript Bot.step b s past _ rest, hreturned, hjournal⟩
    rw [reached_append, reached_append]
    exact hreached.symm
  · rw [reached_append]
    obtain ⟨b, hb⟩ := Session.readied_of_fails hfails
    exact ⟨b, by rw [← Session.step_fst (σ := σ)] at hb; exact hb⟩

theorem interrupted_without_trace_one_face :
    let bot : Bot := ⟨⟨defaultHelpTrigger⟩, [defaultMarker], ["irc".toList]⟩
    let face : ScriptedFaces := ⟨[6]⟩
    let drawn : Journal := [.drew ⟨6, 6⟩]
    let roll : Message := ⟨"ann".toList, "games".toList, "!2d6".toList⟩
    let flat : Message := ⟨"bob".toList, "games".toList, "!3-1".toList⟩
    let request : Request := ⟨"POST".toList, "/roll".toList, [],
      some "\x7b\"formula\": \"2d6\"\x7d".toList, false⟩
    let help : Request := ⟨"GET".toList, "/help".toList, [], none, false⟩
    let ask (queries : List Query) : List (Outcome ScriptedFaces QueryResult) :=
      bot.responder.transcript face queries
    let chat (steps : List ChatStep) : List (Outcome ScriptedFaces ChatResult) :=
      bot.transcript face steps
    let serve (steps : List HttpStep) : List (Outcome ScriptedFaces HttpResult) :=
      Session.initial.transcript face steps
    (ask [.answer "2d6".toList, .reply "help".toList])[0]? =
        some ⟨.error .noFaceLeft, ⟨[]⟩, drawn⟩ ∧
      (∃ a j s, (ask [.answer "2d6".toList, .reply "help".toList])[1]? = some ⟨.ok a, s, j⟩ ∧
        (ask [.reply "help".toList])[0]? = some ⟨.ok a, face, j⟩) ∧
      (chat [.message roll, .attach "web".toList, .message flat])[0]? =
        some ⟨.error .noFaceLeft, ⟨[]⟩, drawn⟩ ∧
      (∃ a j s, (chat [.message roll, .attach "web".toList, .message flat])[2]? =
          some ⟨.ok a, s, j⟩ ∧
        (chat [.attach "web".toList, .message flat])[1]? = some ⟨.ok a, face, j⟩) ∧
      (serve [.request request, .dropSettings, .request help])[0]? =
        some ⟨.error .noFaceLeft, ⟨[]⟩, drawn⟩ ∧
      (∃ a j s, (serve [.request request, .dropSettings, .request help])[2]? =
          some ⟨.ok a, s, j⟩ ∧
        (serve [.dropSettings, .request help])[1]? = some ⟨.ok a, face, j⟩) ∧
      ∃ b, Session.initial.Readied b (reached Session.step .initial face [.request request]).1 := by
  intro bot face drawn roll flat request help ask chat serve
  obtain ⟨hask, hchat, -, hserve⟩ := interrupted_without_trace bot .initial face
  obtain ⟨⟨-, haskFailed, haskLater⟩, -⟩ := hask [] (.answer "2d6".toList)
  obtain ⟨⟨-, hchatFailed, hchatLater⟩, -⟩ := hchat [] roll
  obtain ⟨⟨-, hserveFailed, hserveLater⟩, hready⟩ := hserve [] request
  have haskDice : Query.dice bot.responder (.answer "2d6".toList) = [6, 6] := by decide
  have hchatDice : ChatStep.dice bot (.message roll) = [6, 6] := by decide
  have hserveDice : HttpStep.dice .initial (.request request) = [6, 6] := by
    have hformula : request.formula? = some "2d6".toList := by cbv
    rw [HttpStep.dice, HttpStep.turn?, Request.turn?_of_roll (by decide) hformula]
    decide
  have hfails : DieSource.Fails face [6, 6] := by decide
  refine ⟨?_, ?_, ?_, ?_, ?_, ?_, ?_⟩
  · obtain ⟨o, ho, heq, -⟩ := haskFailed (haskDice.symm ▸ hfails) [.reply "help".toList]
    exact ho.trans (congrArg some (heq.trans (congrArg (interrupted face) haskDice)))
  · obtain ⟨a, j, hwith, hwithout⟩ := haskLater [] (.reply "help".toList) [] trivial (by decide)
    exact ⟨a, j, _, hwith, hwithout⟩
  · obtain ⟨o, ho, heq, -⟩ :=
      hchatFailed (hchatDice.symm ▸ hfails) [.attach "web".toList, .message flat]
    exact ho.trans (congrArg some (heq.trans (congrArg (interrupted face) hchatDice)))
  · obtain ⟨a, j, hwith, hwithout⟩ :=
      hchatLater [.attach "web".toList] (.message flat) [] trivial (by decide)
    exact ⟨a, j, _, hwith, hwithout⟩
  · obtain ⟨o, ho, heq, -⟩ :=
      hserveFailed (hserveDice.symm ▸ hfails) [.dropSettings, .request help]
    exact ho.trans (congrArg some (heq.trans (congrArg (interrupted face) hserveDice)))
  · obtain ⟨a, j, hwith, hwithout⟩ :=
      hserveLater [.dropSettings] (.request help) [] ⟨by simp, fun _ => by decide⟩ (by decide)
    exact ⟨a, j, _, hwith, hwithout⟩
  · exact hready (hserveDice.symm ▸ hfails)

end DiceBot
