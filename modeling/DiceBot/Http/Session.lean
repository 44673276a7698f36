import DiceBot.Http.Request
import DiceBot.Settings

/-!
# The bot behind HTTP

A session makes its bot when the first request needs it, from the settings of
that moment, and uses the same bot until it is reset. A request that finds the
settings unusable leaves the session as it was.
-/

namespace DiceBot

structure Session where
  configuration : Configuration
  bot : Option Bot

inductive HttpStep where
  | assign (changes : List (Variable × Option Text))
  | dropSettings
  | reset
  | request (request : Request)

inductive HttpResult where
  | done
  | response (response : Response)
  | misconfigured (error : SettingsError)
deriving DecidableEq, Repr

namespace Session

variable {σ : Type} [DieSource σ]

def initial : Session := ⟨.initial, none⟩

def reset (s : Session) : Session := { s with bot := none }

def ready (s : Session) : Session × Except SettingsError Bot :=
  match s.bot with
  | some b => (s, .ok b)
  | none =>
    match s.configuration.current with
    | (c, .error e) => ({ s with configuration := c }, .error e)
    | (c, .ok r) => (⟨c, some r.settings.bot⟩, .ok r.settings.bot)

/-- Only answers with a report count as rolls. -/
def tally (a : Answer) : Play σ Unit :=
  match a.report with
  | none => return ()
  | some _ => Play.tell (.counted .rollsEvaluated)

def roll (b : Bot) (q : Intake.RollRequest) : Play σ Response := do
  let answer ← b.responder.answer q.formula
  tally answer
  return .object [("formula".toList, q.formula), ("result".toList, answer.text)]

def message (b : Bot) (userId : Text) (q : Intake.ChatRequest) : Play σ Response := do
  match ← b.handle ⟨userId, q.channel, q.text⟩ with
  | none => return .noReply
  | some reply =>
    Play.tell (.counted .commandsHandled)
    Play.log (.answered q.channel userId)
    return .object [("channel".toList, q.channel), ("reply".toList, reply)]

def withBot (s : Session) (play : Bot → Play σ Response) : Session × Play σ HttpResult :=
  match s.ready with
  | (s, .error e) => (s, return .misconfigured e)
  | (s, .ok b) => (s, .response <$> play b)

def respond (s : Session) (r : Request) : Session × Play σ HttpResult :=
  let origin := r.headerValue? "origin".toList
  match r.intent with
  | .settled response => (s, return .response (response.forOrigin origin))
  | .roll q => s.withBot fun b => (·.forOrigin origin) <$> roll b q
  | .message userId q => s.withBot fun b => (·.forOrigin origin) <$> message b userId q

def step (s : Session) : HttpStep → Session × Play σ HttpResult
  | .assign changes => ({ s with configuration := s.configuration.assignAll changes }, return .done)
  | .dropSettings => ({ s with configuration := s.configuration.drop }, return .done)
  | .reset => (s.reset, return .done)
  | .request r => s.respond r

def transcript (s : Session) : σ → List HttpStep → List (Outcome σ HttpResult) :=
  Play.transcript step s

end Session
end DiceBot
