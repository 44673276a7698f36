import DiceBot.Responder

/-!
# The chat bot

A message that begins with the bot's marker is a command, and the rest of it a
formula. The bot answers a command on the message's channel through the
transport it was attached to last. A transport that delivers a message calls
the bot as often as the bot has been attached to it.
-/

namespace DiceBot

structure Message where
  sender : Text
  channel : Text
  text : Text
deriving DecidableEq, Repr

/-- The transports stand in the order in which the bot was attached to them. -/
structure Bot where
  responder : Responder
  marker : Text
  attached : List Text
deriving DecidableEq, Repr

def defaultMarker : Char := '!'

namespace Bot

variable {σ : Type} [DieSource σ]

def attach (b : Bot) (transport : Text) : Bot := { b with attached := b.attached ++ [transport] }

def outlet? (b : Bot) : Option Text := b.attached.getLast?

def formula? (b : Bot) (text : Text) : Option Text := Text.after? b.marker text

def address (sender reply : Text) : Text := sender ++ ',' :: ' ' :: reply

def post (b : Bot) (channel text : Text) : Play σ Unit :=
  match b.outlet? with
  | none => return ()
  | some transport => Play.tell (.posted ⟨transport, channel, text⟩)

def handle (b : Bot) (m : Message) : Play σ (Option Text) :=
  match b.formula? m.text with
  | none => return none
  | some formula => do
    let text := address m.sender (← b.responder.reply formula)
    Play.log (.replying m.sender m.channel)
    b.post m.channel text
    return some text

/-- One result for each time the bot is called; a call that fails does not stop the next one. -/
def deliver (b : Bot) (transport : Text) (m : Message) :
    Play σ (List (Except Exhausted (Option Text))) :=
  (List.replicate (b.attached.count transport) m).mapM fun m => Play.attempt (b.handle m)

end Bot

inductive ChatStep where
  | extract (text : Text)
  | attach (transport : Text)
  | message (message : Message)
  | deliver (transport : Text) (message : Message)
deriving DecidableEq, Repr

inductive ChatResult where
  | formula (formula : Option Text)
  | attached
  | reply (reply : Option Text)
  | replies (replies : List (Except Exhausted (Option Text)))

namespace Bot

variable {σ : Type} [DieSource σ]

def step (b : Bot) : ChatStep → Bot × Play σ ChatResult
  | .extract text => (b, return .formula (b.formula? text))
  | .attach transport => (b.attach transport, return .attached)
  | .message m => (b, .reply <$> b.handle m)
  | .deliver transport m => (b, .replies <$> b.deliver transport m)

def transcript (b : Bot) : σ → List ChatStep → List (Outcome σ ChatResult) :=
  Play.transcript step b

end Bot
end DiceBot
