import DiceBot.Http.Header
import DiceBot.Json.Writer
import DiceBot.Text.Decimal

/-!
# Responses

Every response has a JSON body, but for the bare answer to a question about the
allowed methods. A request that names its origin is told that any origin may
ask, and with which headers.
-/

namespace DiceBot

structure Response where
  status : Nat
  body : Text
  headers : List (Text × Text)
deriving DecidableEq, Repr

inductive Refusal where
  | badRequest (message : Text)
  | unauthorized
  | notFound
deriving DecidableEq, Repr

namespace Refusal

def status : Refusal → Nat
  | .badRequest _ => 400
  | .unauthorized => 401
  | .notFound => 404

def message : Refusal → Text
  | .badRequest m => m
  | .unauthorized => "Missing or invalid X-User-Id header".toList
  | .notFound => "Not found".toList

end Refusal

namespace Response

def json (status : Nat) (body : Text) : Response :=
  ⟨status, body, [("Content-Type".toList, "application/json".toList)]⟩

def object (members : List (Text × Text)) : Response :=
  json 200 (Json.object (members.map fun m => (m.1, Json.string m.2)))

def refusal (r : Refusal) : Response :=
  json r.status <| Json.object
    [("statusCode".toList, Decimal.ofNat r.status), ("message".toList, Json.string r.message)]

/-- The answer to chat that is no command. -/
def noReply : Response := json 204 "null".toList

def allowedMethods : Response :=
  ⟨204, [], [("Access-Control-Allow-Methods".toList, "GET,OPTIONS,POST".toList)]⟩

def originHeaders : List (Text × Text) :=
  [("Access-Control-Allow-Origin".toList, ['*']),
    ("Access-Control-Allow-Headers".toList,
      "Authorization,Content-Type,X-Amz-Date,X-Amz-Security-Token,X-Api-Key,X-User-Id".toList),
    ("Access-Control-Max-Age".toList, "300".toList)]

def forOrigin (r : Response) (origin : Option Text) : Response :=
  if origin.isSome then { r with headers := r.headers ++ originHeaders } else r

end Response
end DiceBot
