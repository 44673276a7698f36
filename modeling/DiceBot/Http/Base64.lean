import DiceBot.Text.Basic

/-!
# Base64

Four digits of six bits make three bytes. Characters that are neither digits
nor padding are passed over, and so is padding where no byte can end. Padding
that completes a group of four ends the data; data that end within a group
without it are refused. The bytes are then read as UTF-8.
-/

namespace DiceBot.Base64

def alphabet : Text := "ABCDEFGHIJKLMNOPQRSTUVWXYZabcdefghijklmnopqrstuvwxyz0123456789+/".toList

def digit? (c : Char) : Option Nat := alphabet.idxOf? c

/-- What is open of a group of four: how many digits it has, the bits that wait for a byte to
become full, and behind two digits whether padding has begun. -/
inductive Group where
  | empty
  | one (bits : Nat)
  | two (bits : Nat) (padded : Bool)
  | three (bits : Nat)
deriving DecidableEq, Repr

def bytesFrom : Group → Text → Option (List Nat)
  | .empty, [] => some []
  | _, [] => none
  | g, c :: cs =>
    if c = '=' then
      match g with
      | .two bits false => bytesFrom (.two bits true) cs
      | .two _ true | .three _ => some []
      | g => bytesFrom g cs
    else match digit? c with
      | none => bytesFrom g cs
      | some d =>
        match g with
        | .empty => bytesFrom (.one d) cs
        | .one bits => (bytesFrom (.two (d % 16) false) cs).map ((bits * 4 + d / 16) :: ·)
        | .two bits _ => (bytesFrom (.three (d % 4)) cs).map ((bits * 16 + d / 4) :: ·)
        | .three bits => (bytesFrom .empty cs).map ((bits * 64 + d) :: ·)

def bytes? (t : Text) : Option (List Nat) := bytesFrom .empty t

def decode? (t : Text) : Option Text := do
  let bytes ← bytes? t
  let s ← String.fromUTF8? ⟨(bytes.map UInt8.ofNat).toArray⟩
  return s.toList

end DiceBot.Base64
