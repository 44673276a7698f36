import DiceBot.Text.Basic

/-!
# What a step leaves behind

Besides its result a step may draw dice, write log records, post messages and
count metrics. Its journal lists these events in the order in which they
happened.
-/

namespace DiceBot

structure Draw where
  sides : Nat
  face : Nat
deriving DecidableEq, Repr

inductive LogLevel where
  | debug
  | info
deriving DecidableEq, Repr

inductive LogOrigin where
  | grammar
  | service
  | chat
  | handler
deriving DecidableEq, Repr

inductive LogValue where
  | text (t : Text)
  | texts (ts : List Text)
  | ints (is : List Int)
deriving DecidableEq, Repr

structure LogEntry where
  origin : LogOrigin
  level : LogLevel
  message : Text
  fields : List (Text × LogValue)
deriving DecidableEq, Repr

inductive LogRecord where
  | failedValidation (formula : Text) (rejected : List Text)
  | rejected (formula : Text) (rejected : List Text)
  | evaluated (formula : Text) (totals : List Int) (result : Text)
  | replying (sender channel : Text)
  | answered (channel userId : Text)
deriving DecidableEq, Repr

namespace LogRecord

def origin : LogRecord → LogOrigin
  | .failedValidation .. => .grammar
  | .rejected .. | .evaluated .. => .service
  | .replying .. => .chat
  | .answered .. => .handler

def level : LogRecord → LogLevel
  | .failedValidation .. | .replying .. => .debug
  | .rejected .. | .evaluated .. | .answered .. => .info

def message : LogRecord → Text
  | .failedValidation .. => "Formula failed validation".toList
  | .rejected .. => "Rejected dice formula".toList
  | .evaluated .. => "Dice roll evaluated".toList
  | .replying .. => "Replying to roll command".toList
  | .answered .. => "Roll command answered".toList

def fields : LogRecord → List (Text × LogValue)
  | .failedValidation formula pieces | .rejected formula pieces =>
    [("formula".toList, .text formula), ("rejected".toList, .texts pieces)]
  | .evaluated formula totals result =>
    [("formula".toList, .text formula), ("totals".toList, .ints totals),
      ("result".toList, .text result)]
  | .replying sender channel => [("sender".toList, .text sender), ("channel".toList, .text channel)]
  | .answered channel userId =>
    [("channel".toList, .text channel), ("user_id".toList, .text userId)]

def entry (r : LogRecord) : LogEntry := ⟨r.origin, r.level, r.message, r.fields⟩

end LogRecord

structure Post where
  transport : Text
  channel : Text
  text : Text
deriving DecidableEq, Repr

/-- Counters, each of which goes up by one at a time. -/
inductive Metric where
  | rollsEvaluated
  | commandsHandled
deriving DecidableEq, Repr

namespace Metric

def name : Metric → Text
  | .rollsEvaluated => "RollsEvaluated".toList
  | .commandsHandled => "CommandsHandled".toList

def publisher : Text := "Rollbot".toList

def unit : Text := "Count".toList

def increment : Nat := 1

end Metric

inductive Event where
  | drew (draw : Draw)
  | logged (record : LogRecord)
  | posted (post : Post)
  | counted (metric : Metric)
deriving DecidableEq, Repr

namespace Event

def draw? : Event → Option Draw
  | .drew d => some d
  | _ => none

def record? : Event → Option LogRecord
  | .logged r => some r
  | _ => none

def post? : Event → Option Post
  | .posted p => some p
  | _ => none

def metric? : Event → Option Metric
  | .counted m => some m
  | _ => none

end Event

abbrev Journal := List Event

namespace Journal

def draws (j : Journal) : List Draw := j.filterMap Event.draw?

def records (j : Journal) : List LogRecord := j.filterMap Event.record?

def posts (j : Journal) : List Post := j.filterMap Event.post?

def metrics (j : Journal) : List Metric := j.filterMap Event.metric?

theorem draws_append (i j : Journal) : draws (i ++ j) = draws i ++ draws j :=
  List.filterMap_append ..

theorem records_append (i j : Journal) : records (i ++ j) = records i ++ records j :=
  List.filterMap_append ..

theorem posts_append (i j : Journal) : posts (i ++ j) = posts i ++ posts j :=
  List.filterMap_append ..

theorem metrics_append (i j : Journal) : metrics (i ++ j) = metrics i ++ metrics j :=
  List.filterMap_append ..

end Journal
end DiceBot
