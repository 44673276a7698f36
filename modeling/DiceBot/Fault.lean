import DiceBot.Settings

/-!
# Faults

The form in which errors of the bot reach its users: a message, and for a
refused formula its bad fragments, for unusable settings the variable at fault.
The bot's own faults are made of texts.
-/

namespace DiceBot

inductive Fault (α : Type) where
  | general (message : α)
  | grammar (message : α) (fragments : List α)
  | configuration (message : α) (key : Option α)
deriving DecidableEq, Repr

namespace Fault

variable {α : Type}

def defaultMessage : Text := "An error occurred".toList

def message : Fault α → α
  | .general m => m
  | .grammar m _ => m
  | .configuration m _ => m

def fragments? : Fault α → Option (List α)
  | .grammar _ fs => some fs
  | _ => none

def key? : Fault α → Option α
  | .configuration _ k => k
  | _ => none

end Fault

def ScanError.fault (e : ScanError) : Fault Text := .grammar e.message [e.text]

def Rejection.fault (r : Rejection) : Fault Text := .grammar r.message r.pieces

def SettingsError.fault (e : SettingsError) : Fault Text :=
  .configuration e.message (some e.atFault.name)

end DiceBot
