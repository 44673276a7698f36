import DiceBot.Intake.Scalar
import DiceBot.Report

/-!
# Checking records

The records that can be handed in: the parts of a formula, the parts of a
report, and the bodies of requests. A term may be given as a flat number or as
dice; data that fit both are taken for dice.
-/

namespace DiceBot.Intake

open Json

structure RollRequest where
  formula : Text
deriving DecidableEq, Repr

structure ChatRequest where
  channel : Text
  text : Text
deriving DecidableEq, Repr

def keep (ms : Members) : Checked Keep :=
  (fun p => ⟨p.1, p.2⟩) <$>
    both (required "kind".toList extreme ms) (required "count".toList (numeral 2) ms)

def termSign (ms : Members) : Checked Sign := defaulted "sign".toList .plus sign ms

def flatTerm (ms : Members) : Checked Term :=
  (fun p => ⟨p.1, .flat p.2⟩) <$>
    both (termSign ms) (required "value".toList (numeral 4) ms)

def dice (ms : Members) : Checked Dice :=
  (fun p => ⟨p.1, p.2.1, p.2.2⟩) <$>
    both (required "count".toList (numeral 2) ms)
      (both (required "sides".toList (numeral 4) ms)
        (defaulted "keep".toList none (orNull (record "KeepModifier".toList keep)) ms))

def diceTerm (ms : Members) : Checked Term :=
  (fun p => ⟨p.1, .dice p.2⟩) <$> both (termSign ms) (dice ms)

def term : Value → Checked Term :=
  either ("FlatTerm".toList, record "FlatTerm".toList flatTerm)
    ("DiceTerm".toList, record "DiceTerm".toList diceTerm)

def once : Numeral 2 := ⟨1, by decide, by decide⟩

def formula (ms : Members) : Checked Formula :=
  (fun p => ⟨p.1, p.2.1, p.2.2.val, p.2.2.property⟩) <$>
    both (required "text".toList text ms)
      (both (defaulted "repeat".toList once (numeral 2) ms)
        (required "terms".toList (nonemptyList term) ms))

def score (ms : Members) : Checked Score :=
  (fun p => ⟨p.1, p.2⟩) <$>
    both (required "contribution".toList integer ms)
      (defaulted "fragment".toList none (orNull text) ms)

def pass (ms : Members) : Checked Pass :=
  (fun p => ⟨p.1, p.2⟩) <$>
    both (required "total".toList integer ms) (defaulted "fragments".toList [] (list text) ms)

def report (ms : Members) : Checked Report :=
  (fun p => ⟨p.1, p.2.val⟩) <$>
    both (required "formula".toList text ms)
      (required "passes".toList (nonemptyList (record "PassResult".toList pass)) ms)

def rollRequest (ms : Members) : Checked RollRequest :=
  RollRequest.mk <$> required "formula".toList (textUpTo 500) ms

def chatRequest (ms : Members) : Checked ChatRequest :=
  (fun p => ⟨p.1, p.2⟩) <$>
    both (required "channel".toList channelName ms) (required "text".toList (textUpTo 2000) ms)

end DiceBot.Intake
