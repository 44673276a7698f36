import DiceBot.Chat

/-!
# Settings

The bot is set up by four variables of the environment, each with a default.
Its marker is a single character that is not blank, and its help trigger a word
without blanks. Settings once read can be kept, and then stay as they are until
they are dropped, whatever happens to the environment.
-/

namespace DiceBot

inductive Variable where
  | commandPrefix
  | helpTrigger
  | deployment
  | logLevel
deriving DecidableEq, Repr

namespace Variable

def name : Variable → Text
  | .commandPrefix => "COMMAND_PREFIX".toList
  | .helpTrigger => "HELP_TRIGGER".toList
  | .deployment => "ENVIRONMENT".toList
  | .logLevel => "POWERTOOLS_LOG_LEVEL".toList

def ofName? (t : Text) : Option Variable :=
  [commandPrefix, helpTrigger, deployment, logLevel].find? fun v => v.name = t

def default : Variable → Text
  | .commandPrefix => [defaultMarker]
  | .helpTrigger => defaultHelpTrigger
  | .deployment => "dev".toList
  | .logLevel => "INFO".toList

end Variable

abbrev Environment := Variable → Option Text

namespace Environment

def unset : Environment := fun _ => none

def value (e : Environment) (v : Variable) : Text := (e v).getD v.default

def assign (e : Environment) (v : Variable) (t : Option Text) : Environment :=
  fun w => if w = v then t else e w

end Environment

inductive SettingsError where
  | unusablePrefix
  | unusableTrigger
deriving DecidableEq, Repr

namespace SettingsError

def atFault : SettingsError → Variable
  | .unusablePrefix => .commandPrefix
  | .unusableTrigger => .helpTrigger

def message : SettingsError → Text
  | .unusablePrefix => "COMMAND_PREFIX must be a single non-whitespace character".toList
  | .unusableTrigger => "HELP_TRIGGER must be a non-empty word without whitespace".toList

end SettingsError

structure Settings where
  marker : Char
  helpTrigger : Text
  deployment : Text
  logLevel : Text
  marker_not_blank : Text.isBlank marker = false
  trigger_ne_nil : helpTrigger ≠ []
  trigger_not_blank : ∀ c ∈ helpTrigger, Text.isBlank c = false
deriving DecidableEq, Repr

namespace Settings

def isProduction (s : Settings) : Bool := s.deployment = "prod".toList

def bot (s : Settings) : Bot := ⟨⟨s.helpTrigger⟩, [s.marker], []⟩

def marker? : Text → Option { c : Char // Text.isBlank c = false }
  | [c] => if h : Text.isBlank c = false then some ⟨c, h⟩ else none
  | _ => none

/-- The prefix is looked at before the trigger. -/
def ofEnvironment (e : Environment) : Except SettingsError Settings :=
  match marker? (e.value .commandPrefix) with
  | none => .error .unusablePrefix
  | some marker =>
    let trigger := e.value .helpTrigger
    if h : trigger ≠ [] ∧ Text.squeezed trigger = trigger then
      .ok ⟨marker.val, trigger, e.value .deployment, e.value .logLevel, marker.property, h.1,
        Text.squeezed_eq_self_iff.1 h.2⟩
    else .error .unusableTrigger

end Settings

/-- Settings that were read, numbered in the order of reading. -/
structure Reading where
  serial : Nat
  settings : Settings
deriving DecidableEq, Repr

/-- The environment, the reading that is kept, and the number of readings so far. -/
structure Configuration where
  environment : Environment
  kept : Option Reading
  readings : Nat

namespace Configuration

def initial : Configuration := ⟨.unset, none, 0⟩

def assign (c : Configuration) (v : Variable) (t : Option Text) : Configuration :=
  { c with environment := c.environment.assign v t }

def drop (c : Configuration) : Configuration := { c with kept := none }

/-- Reads the environment anew and keeps nothing. -/
def read (c : Configuration) : Configuration × Except SettingsError Reading :=
  match Settings.ofEnvironment c.environment with
  | .error e => (c, .error e)
  | .ok s => ({ c with readings := c.readings + 1 }, .ok ⟨c.readings, s⟩)

/-- The reading that is kept, or else a new one, which is kept from then on. -/
def current (c : Configuration) : Configuration × Except SettingsError Reading :=
  match c.kept with
  | some r => (c, .ok r)
  | none =>
    match c.read with
    | (c, .error e) => (c, .error e)
    | (c, .ok r) => ({ c with kept := some r }, .ok r)

end Configuration

inductive ConfigurationStep where
  | assign (changes : List (Variable × Option Text))
  | drop
  | read
  | current
deriving DecidableEq, Repr

inductive ConfigurationResult where
  | done
  | reading (result : Except SettingsError Reading)

namespace Configuration

def assignAll (c : Configuration) (changes : List (Variable × Option Text)) : Configuration :=
  changes.foldl (fun c change => c.assign change.1 change.2) c

def step (c : Configuration) : ConfigurationStep → Configuration × ConfigurationResult
  | .assign changes => (c.assignAll changes, .done)
  | .drop => (c.drop, .done)
  | .read => (c.read.1, .reading c.read.2)
  | .current => (c.current.1, .reading c.current.2)

def results : Configuration → List ConfigurationStep → List ConfigurationResult
  | _, [] => []
  | c, x :: xs => (c.step x).2 :: results (c.step x).1 xs

end Configuration
end DiceBot
