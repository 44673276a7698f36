import DiceBot.Http.Session
import DiceBot.Proofs.Chat.Turns

/-!
# Requests as turns

A request that is in order is a turn of the bot: a question about the formula in its body, or a
message of its user. All other requests are settled without a bot. The texts in a body are bounded,
and a channel is trimmed and must not be blank.
-/

namespace DiceBot

open Intake Json

def Json.Value.text? (v : Value) (most : Nat) : Option Text :=
  match v with
  | .str (some t) => if t.length ≤ most then some t else none
  | _ => none

def Json.Members.text? (ms : Members) (name : String) (most : Nat) : Option Text :=
  (ms.get? name.toList).bind fun v => v.text? most

def Text.name? (t : Text) : Option Text :=
  if trimmed isBlank t = [] then none else some (trimmed isBlank t)

namespace Request

def formula? (r : Request) : Option Text :=
  r.members.toOption.bind fun ms => ms.text? "formula" 500

def message? (r : Request) : Option Message := do
  let sender ← r.userId?
  let ms ← r.members.toOption
  let channel ← (ms.text? "channel" 200).bind Text.name?
  let text ← ms.text? "text" 2000
  return ⟨sender, channel, text⟩

def turn? (r : Request) : Option Turn :=
  match Route.find? r.method r.path with
  | some .roll => r.formula?.map fun raw => .ask (.answer raw)
  | some .messages => r.message?.map .hear
  | some .help | none => none

end Request

def HttpStep.turn? : HttpStep → Option Turn
  | .request r => r.turn?
  | .assign _ | .dropSettings | .reset => none

def Intent.turn? : Intent → Option Turn
  | .settled _ => none
  | .roll q => some (.ask (.answer q.formula))
  | .message userId q => some (.hear ⟨userId, q.channel, q.text⟩)

section Checks

variable {ε α β : Type}

theorem toOption_map (f : α → β) (c : Except ε α) : (f <$> c).toOption = c.toOption.map f := by
  cases c <;> rfl

theorem toOption_bind (c : Except ε α) (f : α → Except ε β) :
    (c >>= f).toOption = c.toOption.bind fun a => (f a).toOption := by
  cases c <;> rfl

namespace Intake

theorem toOption_within (step : Step) (c : Checked α) :
    (within step c).toOption = c.toOption := by
  cases c <;> rfl

theorem toOption_both (c : Checked α) (d : Checked β) :
    (both c d).toOption = c.toOption.bind fun a => d.toOption.map fun b => (a, b) := by
  cases c <;> cases d <;> rfl

theorem toOption_required (name : Text) (check : Value → Checked α) (ms : Members) :
    (required name check ms).toOption = (ms.get? name).bind fun v => (check v).toOption := by
  rw [required, field, toOption_within]
  cases ms.get? name <;> rfl

theorem toOption_textUpTo (most : Nat) (v : Value) :
    (textUpTo most v).toOption = v.text? most := by
  cases v with
  | str t? =>
    cases t? with
    | none => rfl
    | some t =>
      change (if t.length ≤ most then pure t else fail (.longerThan most)).toOption =
        if t.length ≤ most then some t else none
      split <;> rfl
  | _ => rfl

theorem toOption_channelName (v : Value) :
    (channelName v).toOption = (v.text? 200).bind Text.name? := by
  rw [channelName, toOption_bind, toOption_textUpTo]
  congr 1
  funext t
  rw [Text.name?]
  -- an empty text is refused first, and would be refused as blank
  by_cases hempty : t = []
  · subst hempty
    rfl
  · rw [if_neg hempty]
    dsimp only
    split <;> rfl

theorem toOption_rollRequest (ms : Members) :
    (rollRequest ms).toOption = (ms.text? "formula" 500).map RollRequest.mk := by
  rw [rollRequest, toOption_map, toOption_required, funext (toOption_textUpTo 500)]
  rfl

theorem toOption_chatRequest (ms : Members) :
    (chatRequest ms).toOption = ((ms.text? "channel" 200).bind Text.name?).bind fun channel =>
      (ms.text? "text" 2000).map fun text => ⟨channel, text⟩ := by
  rw [chatRequest, toOption_map, toOption_both, toOption_required, toOption_required,
    funext toOption_channelName, funext (toOption_textUpTo 2000)]
  simp only [Members.text?, Option.bind_assoc, Option.map_bind, Function.comp_def, Option.map_map]

end Intake
end Checks

namespace Request

theorem toOption_check {α : Type} (r : Request) (reader : Members → Checked α) :
    (r.check reader).toOption = r.members.toOption.bind fun ms => (reader ms).toOption := by
  rw [check, toOption_bind]
  congr 1
  funext ms
  cases reader ms <;> rfl

theorem toOption_check_rollRequest (r : Request) :
    (r.check rollRequest).toOption = r.formula?.map RollRequest.mk := by
  rw [toOption_check, funext toOption_rollRequest, formula?, Option.map_bind]
  rfl

theorem message?_eq (r : Request) {sender : Text} (h : r.userId? = some sender) :
    r.message? = (r.check chatRequest).toOption.map fun q => ⟨sender, q.channel, q.text⟩ := by
  rw [toOption_check, funext toOption_chatRequest, message?, h]
  simp only [Option.bind_eq_bind, Option.bind_some, Option.pure_def, Option.map_eq_bind,
    Option.bind_assoc, Function.comp_def]

theorem turn?_intent (r : Request) : r.intent.turn? = r.turn? := by
  rw [intent, turn?]
  cases Route.find? r.method r.path with
  | none => dsimp only; split <;> rfl
  | some route =>
    cases route with
    | help => rfl
    | roll =>
      have hformula := r.toOption_check_rollRequest
      cases hcheck : r.check rollRequest with
      | error e =>
        rw [hcheck] at hformula
        rw [Option.map_eq_none_iff.1 hformula.symm]
        rfl
      | ok q =>
        rw [hcheck] at hformula
        obtain ⟨raw, hraw, rfl⟩ := Option.map_eq_some_iff.1 hformula.symm
        rw [hraw]
        rfl
    | messages =>
      cases huser : r.userId? with
      | none => rw [message?, huser]; rfl
      | some sender =>
        rw [r.message?_eq huser]
        cases r.check chatRequest <;> rfl

theorem turn?_of_roll {r : Request} {raw : Text}
    (hroute : Route.find? r.method r.path = some .roll) (h : r.formula? = some raw) :
    r.turn? = some (.ask (.answer raw)) := by
  rw [turn?, hroute, h]
  rfl

theorem turn?_of_messages {r : Request}
    (hroute : Route.find? r.method r.path = some .messages) : r.turn? = r.message?.map .hear := by
  rw [turn?, hroute]

theorem turn?_of_message {r : Request} {m : Message}
    (hroute : Route.find? r.method r.path = some .messages) (h : r.message? = some m) :
    r.turn? = some (.hear m) := by
  rw [turn?_of_messages hroute, h]
  rfl

end Request
end DiceBot
