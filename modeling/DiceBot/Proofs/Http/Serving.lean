import DiceBot.Proofs.Chat.Posts
import DiceBot.Proofs.Http.Requests
import DiceBot.Proofs.Json.Written

/-!
# Serving requests

A request that is a turn needs a bot: the one of the session, or a new one. It is then served as the
turn is taken, on the same source and with the same draws, and the response tells what came of the
turn to whoever reads its body. Nothing but a report or a reply is counted. Other requests are
settled without a trace.
-/

namespace DiceBot

/-- The response that goes back to an origin, as it is received: its status, the value that is read
from its body, and its headers. -/
structure Response.Carries (response : Response) (origin : Option Text) (code : Nat)
    (v : Json.Value) : Prop where
  status : response.status = code
  body : Json.read? response.body = some v
  headers : response.headers = ("Content-Type".toList, "application/json".toList) ::
    if origin.isSome then originHeaders else []

namespace Response

variable {origin : Option Text}

theorem carries_json {code : Nat} {body : Text} {v : Json.Value} (h : Json.read? body = some v) :
    ((json code body).forOrigin origin).Carries origin code v := by
  cases origin with
  | none => exact ⟨rfl, h, rfl⟩
  | some name => exact ⟨rfl, h, rfl⟩

theorem carries_object (members : List (Text × Text)) :
    ((object members).forOrigin origin).Carries origin 200 (.ofTexts members) :=
  carries_json (Json.read?_object members)

theorem carries_noReply : (noReply.forOrigin origin).Carries origin 204 .null :=
  carries_json rfl

end Response

/-- How a response to an origin tells what came of a turn, and what is counted with it. -/
inductive Tells (origin : Option Text) : Turn → TurnResult → Response → List Metric → Prop
  | rolled (raw : Text) (a : Answer) (report : Report) (h : a.report = some report)
    {response : Response} (hresponse : response.Carries origin 200
      (.ofTexts [("formula".toList, raw), ("result".toList, a.text)])) :
    Tells origin (.ask (.answer raw)) (.told (.answer a)) response [.rollsEvaluated]
  | unrolled (raw : Text) (a : Answer) (h : a.report = none)
    {response : Response} (hresponse : response.Carries origin 200
      (.ofTexts [("formula".toList, raw), ("result".toList, a.text)])) :
    Tells origin (.ask (.answer raw)) (.told (.answer a)) response []
  | replied (m : Message) (reply : Text) {response : Response}
    (hresponse : response.Carries origin 200
      (.ofTexts [("channel".toList, m.channel), ("reply".toList, reply)])) :
    Tells origin (.hear m) (.spoken (.reply (some reply))) response [.commandsHandled]
  | ignored (m : Message) {response : Response} (hresponse : response.Carries origin 204 .null) :
    Tells origin (.hear m) (.spoken (.reply none)) response []

namespace Tells

variable {origin : Option Text} {response : Response} {ms : List Metric}

end Tells

def Request.Settled {σ : Type} (r : Request) (s : σ) (o : Outcome σ HttpResult) : Prop :=
  ∃ response, r.intent = .settled response ∧
    o = ⟨.ok (.response (response.forOrigin (r.headerValue? "origin".toList))), s, []⟩

/-- The request has the outcome of its turn. -/
structure Request.Served {σ : Type} (r : Request) (t : Turn) (own : Outcome σ TurnResult)
    (o : Outcome σ HttpResult) : Prop where
  source : o.source = own.source
  draws : o.journal.draws = own.journal.draws
  failed : ∀ e, own.result = .error e → o.result = .error e ∧ o.journal.metrics = []
  told : ∀ result, own.result = .ok result → ∃ response, o.result = .ok (.response response) ∧
    Tells (r.headerValue? "origin".toList) t result response o.journal.metrics

def Session.supply (s : Session) : Except SettingsError Bot :=
  match s.bot, s.configuration.kept with
  | some b, _ => .ok b
  | none, some reading => .ok reading.settings.bot
  | none, none => (Settings.ofEnvironment s.configuration.environment).map Settings.bot

namespace Session

theorem supply_of_bot {st : Session} {b : Bot} (h : st.bot = some b) : st.supply = .ok b := by
  rw [supply, h]

theorem supply_of_kept {st : Session} {reading : Reading} (hbot : st.bot = none)
    (h : st.configuration.kept = some reading) : st.supply = .ok reading.settings.bot := by
  rw [supply, hbot, h]

theorem supply_of_absent {st : Session} (hbot : st.bot = none)
    (h : st.configuration.kept = none) :
    st.supply = (Settings.ofEnvironment st.configuration.environment).map Settings.bot := by
  rw [supply, hbot, h]

theorem ready_of_supply_eq_error {s : Session} {e : SettingsError} (h : s.supply = .error e) :
    s.ready = (s, .error e) ∧ s.bot = none ∧ s.configuration.kept = none := by
  obtain ⟨⟨env, kept, readings⟩, bot⟩ := s
  cases bot with
  | some b => cases h
  | none =>
    cases kept with
    | some reading => cases h
    | none =>
      have henv : Settings.ofEnvironment env = .error e := by
        rw [supply] at h
        cases henv : Settings.ofEnvironment env <;> simp_all [Except.map]
      refine ⟨?_, rfl, rfl⟩
      simp only [ready, Configuration.current, Configuration.read, henv]

/-- The session has its bot, which it had before, or made of the settings that it keeps or of the
environment, whose settings it then keeps. Nothing else is different. -/
inductive Readied (st : Session) : Bot → Session → Prop
  | before (b : Bot) (hbot : st.bot = some b) : Readied st b st
  | ofKept (reading : Reading) (hbot : st.bot = none)
      (hkept : st.configuration.kept = some reading) :
    Readied st reading.settings.bot { st with bot := some reading.settings.bot }
  | ofEnvironment (settings : Settings) (hbot : st.bot = none)
      (hkept : st.configuration.kept = none)
      (henv : Settings.ofEnvironment st.configuration.environment = .ok settings) :
    Readied st settings.bot
      ⟨{ st.configuration with
          kept := some ⟨st.configuration.readings, settings⟩
          readings := st.configuration.readings + 1 }, some settings.bot⟩

theorem exists_readied {st : Session} {b : Bot} (h : st.supply = .ok b) :
    ∃ st', st.ready = (st', .ok b) ∧ st.Readied b st' := by
  cases hbot : st.bot with
  | some b' =>
    obtain rfl := Except.ok.inj ((supply_of_bot hbot).symm.trans h)
    rw [ready, hbot]
    exact ⟨st, rfl, .before b' hbot⟩
  | none =>
    cases hkept : st.configuration.kept with
    | some reading =>
      obtain rfl := Except.ok.inj ((supply_of_kept hbot hkept).symm.trans h)
      rw [ready, hbot]
      simp only [Configuration.current, hkept]
      exact ⟨_, rfl, .ofKept reading hbot hkept⟩
    | none =>
      rw [supply_of_absent hbot hkept] at h
      cases henv : Settings.ofEnvironment st.configuration.environment with
      | error e =>
        rw [henv] at h
        cases h
      | ok settings =>
        rw [henv] at h
        obtain rfl := Except.ok.inj h
        rw [ready, hbot]
        simp only [Configuration.current, hkept, Configuration.read, henv]
        exact ⟨_, rfl, .ofEnvironment settings hbot hkept henv⟩

theorem ready_of_supply_eq_ok {s : Session} {b : Bot} (h : s.supply = .ok b) :
    ∃ configuration, s.ready = (⟨configuration, some b⟩, .ok b) ∧
      configuration.environment = s.configuration.environment ∧
      (configuration.kept = s.configuration.kept ∨ s.configuration.kept = none ∧
        ∃ reading, configuration.kept = some reading ∧ reading.settings.bot = b) ∧
      (s.bot = none → ∃ reading, configuration.kept = some reading ∧ reading.settings.bot = b) := by
  obtain ⟨s', hready, hreadied⟩ := exists_readied h
  cases hreadied with
  | before b hbot =>
    obtain ⟨configuration, bot⟩ := s
    obtain rfl : bot = some b := hbot
    exact ⟨configuration, hready, rfl, .inl rfl, fun hnone => by cases hnone⟩
  | ofKept reading hbot hkept =>
    exact ⟨_, hready, rfl, .inl rfl, fun _ => ⟨reading, hkept, rfl⟩⟩
  | ofEnvironment settings hbot hkept henv =>
    exact ⟨_, hready, rfl, .inr ⟨hkept, _, rfl, rfl⟩, fun _ => ⟨_, rfl, rfl⟩⟩

end Session

section Serving

open Play

variable {σ : Type} [DieSource σ]

theorem Responder.metrics_answer (r : Responder) (raw : Text) (s : σ) :
    ((r.answer raw).run s).journal.metrics = [] := by
  have hwrites : Writes (fun e => e.metric? = none) (r.answer raw : Play σ Answer) :=
    r.writes_answer raw (fun _ => rfl) fun _ => rfl
  exact List.filterMap_eq_nil_iff.2 (hwrites s)

theorem Bot.metrics_handle (b : Bot) (m : Message) (s : σ) :
    ((b.handle m).run s).journal.metrics = [] := by
  have hwrites : Writes (fun e => e.metric? = none) (b.handle m : Play σ (Option Text)) :=
    b.writes_handle m (fun _ => rfl) (fun _ => rfl) fun _ => rfl
  exact List.filterMap_eq_nil_iff.2 (hwrites s)

namespace Request

omit [DieSource σ] in
theorem served_bind {α : Type} (r : Request) {t : Turn} {p : Play σ α} {f : α → Play σ Response}
    {g : α → TurnResult} {s : σ} (hmetrics : (p.run s).journal.metrics = [])
    (hf : ∀ a s', ∃ plain j, (f a).run s' = ⟨.ok plain, s', j⟩ ∧ j.draws = [] ∧
      let origin := r.headerValue? "origin".toList
      Tells origin t (g a) (plain.forOrigin origin) j.metrics) :
    r.Served t ((g <$> p).run s) ((HttpResult.response <$>
      (·.forOrigin (r.headerValue? "origin".toList)) <$> (p >>= f)).run s) := by
  simp only [run_map]
  cases h : (p.run s).result with
  | error e =>
    rw [run_bind_of_error h]
    refine ⟨rfl, rfl, fun e' he => ?_, fun _ hresult => by cases hresult⟩
    cases he
    exact ⟨rfl, hmetrics⟩
  | ok a =>
    obtain ⟨plain, j, hrun, hdraws, htells⟩ := hf a (p.run s).source
    rw [run_bind_of_ok h, hrun]
    refine ⟨rfl, ?_, (fun _ he => by cases he), fun result hresult => ?_⟩
    · rw [Journal.draws_append, hdraws, List.append_nil]
    · cases hresult
      refine ⟨_, rfl, ?_⟩
      rwa [Journal.metrics_append, hmetrics, List.nil_append]

theorem served_roll (r : Request) (b : Bot) (q : Intake.RollRequest) (s : σ) :
    r.Served (.ask (.answer q.formula)) ((b.take (.ask (.answer q.formula))).run s)
      ((HttpResult.response <$>
        (·.forOrigin (r.headerValue? "origin".toList)) <$> Session.roll b q).run s) := by
  have htake : (b.take (.ask (.answer q.formula)) : Play σ TurnResult) =
      (fun a => .told (.answer a)) <$> b.responder.answer q.formula := Functor.map_map ..
  rw [htake]
  refine r.served_bind (b.responder.metrics_answer q.formula s) fun a s' => ?_
  cases hreport : a.report with
  | none =>
    refine ⟨_, [], ?_, rfl, .unrolled q.formula a hreport (Response.carries_object _)⟩
    rw [Session.tally, hreport]
    rfl
  | some report =>
    refine ⟨_, [.counted .rollsEvaluated], ?_, rfl,
      .rolled q.formula a report hreport (Response.carries_object _)⟩
    rw [Session.tally, hreport]
    rfl

theorem served_message (r : Request) (b : Bot) (userId : Text) (q : Intake.ChatRequest) (s : σ) :
    r.Served (.hear ⟨userId, q.channel, q.text⟩)
      ((b.take (.hear ⟨userId, q.channel, q.text⟩)).run s)
      ((HttpResult.response <$>
        (·.forOrigin (r.headerValue? "origin".toList)) <$> Session.message b userId q).run s) := by
  have htake : (b.take (.hear ⟨userId, q.channel, q.text⟩) : Play σ TurnResult) =
      (fun a => .spoken (.reply a)) <$> b.handle ⟨userId, q.channel, q.text⟩ := Functor.map_map ..
  rw [htake]
  refine r.served_bind (b.metrics_handle ⟨userId, q.channel, q.text⟩ s) fun reply s' => ?_
  cases reply with
  | none => exact ⟨_, [], rfl, rfl, .ignored _ Response.carries_noReply⟩
  | some text => exact ⟨_, _, rfl, rfl, .replied _ text (Response.carries_object _)⟩

end Request

namespace Session

theorem respond_of_idle (st : Session) {r : Request} (h : r.turn? = none) :
    (st.respond (σ := σ) r).1 = st ∧ ∀ s : σ, r.Settled s ((st.respond r).2.run s) := by
  rw [← r.turn?_intent] at h
  rw [respond]
  cases hintent : r.intent with
  | settled response => exact ⟨rfl, fun s => ⟨response, hintent, rfl⟩⟩
  | roll q => rw [hintent] at h; cases h
  | message userId q => rw [hintent] at h; cases h

theorem respond_of_supply_eq_error {st : Session} {r : Request} {t : Turn} {e : SettingsError}
    (ht : r.turn? = some t) (h : st.supply = .error e) :
    (st.respond r : Session × Play σ HttpResult) = (st, return .misconfigured e) := by
  have hready := (ready_of_supply_eq_error h).1
  rw [← r.turn?_intent] at ht
  rw [respond]
  cases hintent : r.intent with
  | settled response => rw [hintent] at ht; cases ht
  | roll q => dsimp only; rw [withBot, hready]
  | message userId q => dsimp only; rw [withBot, hready]

theorem respond_of_supply_eq_ok {st : Session} {r : Request} {t : Turn} {b : Bot}
    (ht : r.turn? = some t) (h : st.supply = .ok b) :
    (st.respond (σ := σ) r).1 = st.ready.1 ∧
      ∀ s : σ, r.Served t ((b.take t).run s) ((st.respond r).2.run s) := by
  obtain ⟨configuration, hready, -⟩ := ready_of_supply_eq_ok h
  rw [← r.turn?_intent] at ht
  rw [respond]
  cases hintent : r.intent with
  | settled response => rw [hintent] at ht; cases ht
  | roll q =>
    rw [hintent] at ht
    cases ht
    dsimp only
    rw [withBot, hready]
    exact ⟨rfl, r.served_roll b q⟩
  | message userId q =>
    rw [hintent] at ht
    cases ht
    dsimp only
    rw [withBot, hready]
    exact ⟨rfl, r.served_message b userId q⟩

end Session
end Serving
end DiceBot
