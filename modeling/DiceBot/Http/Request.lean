import DiceBot.Http.Base64
import DiceBot.Http.Response
import DiceBot.Intake.Record
import DiceBot.Json.Reader
import DiceBot.Responder

/-!
# Requests

A request is understood before anything is done about it: it asks for a roll,
brings a chat message, or is answered at once, be it with help or with a
refusal. A chat message needs a user before its body is looked at.
-/

namespace DiceBot

structure Request where
  method : Text
  path : Text
  headers : Headers
  body : Option Text
  isBase64 : Bool
deriving DecidableEq, Repr

inductive Route where
  | roll
  | messages
  | help
deriving DecidableEq, Repr

namespace Route

def all : List Route := [roll, messages, help]

def method : Route → Text
  | .roll | .messages => "POST".toList
  | .help => "GET".toList

def path : Route → Text
  | .roll => "/roll".toList
  | .messages => "/messages".toList
  | .help => "/help".toList

/-- The capitals of a letter, as far as they are letters of a method's name. -/
def capitals (c : Char) : Text :=
  if c = 'ı' then ['I']
  else if c = 'ſ' then ['S']
  else if c = 'ﬅ' ∨ c = 'ﬆ' then ['S', 'T']
  else [c.toUpper]

/-- Any number of slashes may follow the path of a route, and then one line end. -/
def fits (route : Route) (method path : Text) : Bool :=
  method.flatMap capitals = route.method &&
    match Text.after? route.path path with
    | none => false
    | some rest => let rest := rest.dropWhile (· = '/'); rest = [] || rest = ['\n']

def find? (method path : Text) : Option Route := all.find? fun r => r.fits method path

end Route

inductive Intent where
  | settled (response : Response)
  | roll (roll : Intake.RollRequest)
  | message (userId : Text) (chat : Intake.ChatRequest)

namespace Request

def headerValue? (r : Request) (name : Text) : Option Text := r.headers.folded.get? name

def userId? (r : Request) : Option Text := r.headers.folded.userId?.filter (· ≠ [])

/-- The body as a JSON value; `none` inside when there is no body. -/
def content? (r : Request) : Option (Option Json.Value) := do
  let written := r.body.getD []
  let text ← if r.isBase64 && written ≠ [] then Base64.decode? written else some written
  if text = [] then return none else return some (← Json.read? text)

/-- A body that is void counts as an object without members. -/
def members (r : Request) : Except Refusal Json.Members :=
  match r.content? with
  | none => .error (.badRequest "Request body must be valid JSON".toList)
  | some none => .ok []
  | some (some v) =>
    if v.isVoid then .ok []
    else match v with
      | .obj ms => .ok ms
      | _ => .error (.badRequest "Request body must be a JSON object".toList)

def check {α : Type} (r : Request) (reader : Json.Members → Intake.Checked α) :
    Except Refusal α := do
  match reader (← r.members) with
  | .ok a => return a
  | .error issues =>
    throw (.badRequest ((issues.head?.map fun i => i.cause.message).getD []))

def intent (r : Request) : Intent :=
  match Route.find? r.method r.path with
  | some .roll =>
    match r.check Intake.rollRequest with
    | .ok roll => .roll roll
    | .error e => .settled (.refusal e)
  | some .messages =>
    match r.userId? with
    | none => .settled (.refusal .unauthorized)
    | some userId =>
      match r.check Intake.chatRequest with
      | .ok chat => .message userId chat
      | .error e => .settled (.refusal e)
  | some .help => .settled (.object [("help".toList, helpMessage)])
  | none =>
    if r.method.flatMap Route.capitals = "OPTIONS".toList then .settled .allowedMethods
    else .settled (.refusal .notFound)

end Request
end DiceBot
