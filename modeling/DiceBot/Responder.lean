import DiceBot.Formula.Parse
import DiceBot.Report

/-!
# Answers to formulas

A responder answers every text: a request for help with the help message, a
formula with the report of its roll, and anything else with one fixed message.
Only a source without faces can keep it from answering.
-/

namespace DiceBot

def helpMessage : Text :=
  ("here is some help:\n" ++
    "!3d6 -> roll three six-sided die\n" ++
    "!3d6h2 -> roll three six-sided die and keep the two highest\n" ++
    "!3d6l2 -> roll three six-sided die and keep the two lowest\n" ++
    "!2#3d6 -> roll three six-sided die two times").toList

def invalidMessage : Text := "this command is invalid".toList

def defaultHelpTrigger : Text := "help".toList

structure Responder where
  helpTrigger : Text
deriving DecidableEq, Repr

/-- The reply, and the report when dice or flat numbers were added up for it. -/
structure Answer where
  text : Text
  report : Option Report
deriving DecidableEq, Repr

namespace Responder

variable {σ : Type} [DieSource σ]

def isHelp (r : Responder) (formula : Text) : Bool := Text.squeezed formula = r.helpTrigger

def roll (formula : Text) : Play σ (Except Rejection Report) :=
  match Formula.parse formula with
  | .error e => do
    Play.log (.failedValidation e.text e.pieces)
    return .error e
  | .ok f => return .ok (← f.roll)

def answer (r : Responder) (formula : Text) : Play σ Answer := do
  if r.isHelp formula then return ⟨helpMessage, none⟩
  match ← roll formula with
  | .error e =>
    Play.log (.rejected formula e.pieces)
    return ⟨invalidMessage, none⟩
  | .ok report =>
    let text := report.render
    Play.log (.evaluated report.formula report.totals text)
    return ⟨text, some report⟩

def reply (r : Responder) (formula : Text) : Play σ Text := Answer.text <$> r.answer formula

end Responder

inductive Query where
  | reply (formula : Text)
  | answer (formula : Text)
  | roll (formula : Text)
  | isHelp (formula : Text)
deriving DecidableEq, Repr

inductive QueryResult where
  | reply (text : Text)
  | answer (answer : Answer)
  | roll (result : Except Rejection Report)
  | isHelp (yes : Bool)

def Responder.ask {σ : Type} [DieSource σ] (r : Responder) : Query → Play σ QueryResult
  | .reply f => .reply <$> r.reply f
  | .answer f => .answer <$> r.answer f
  | .roll f => .roll <$> roll f
  | .isHelp f => return .isHelp (r.isHelp f)

def Responder.transcript {σ : Type} [DieSource σ] (r : Responder) :
    σ → List Query → List (Outcome σ QueryResult) :=
  Play.transcript (fun r q => (r, r.ask q)) r

end DiceBot
