/-!
# Sources of dice

A source answers each throw with a face or fails it, and is in its next state
either way. A lawful source shows faces from one up to the number of sides.
-/

namespace DiceBot

class DieSource (σ : Type) where
  throw? : σ → (sides : Nat) → Option Nat × σ

class LawfulDieSource (σ : Type) [DieSource σ] : Prop where
  face_mem {s : σ} {sides face : Nat} :
    0 < sides → (DieSource.throw? s sides).1 = some face → 1 ≤ face ∧ face ≤ sides

/-- Faces written down beforehand. A number that the die does not have is counted around it. -/
structure ScriptedFaces where
  faces : List Int
deriving DecidableEq, Repr

def ScriptedFaces.throw? (s : ScriptedFaces) (sides : Nat) : Option Nat × ScriptedFaces :=
  match s.faces with
  | [] => (none, s)
  | f :: fs => (some (1 + ((f - 1) % sides).toNat), ⟨fs⟩)

instance : DieSource ScriptedFaces := ⟨ScriptedFaces.throw?⟩

instance : LawfulDieSource ScriptedFaces where
  face_mem {s sides face} hpos h := by
    simp only [DieSource.throw?, ScriptedFaces.throw?] at h
    split at h
    · cases h
    · simp only [Option.some.injEq] at h
      have := Int.emod_nonneg (‹Int› - 1) (show (sides : Int) ≠ 0 by omega)
      have := Int.emod_lt_of_pos (‹Int› - 1) (show 0 < (sides : Int) by omega)
      omega

/-- A linear congruential generator on words of 64 bits, whose low 33 bits are not used. -/
structure CongruentialGenerator where
  state : UInt64
deriving DecidableEq, Repr

namespace CongruentialGenerator

def next (g : CongruentialGenerator) : CongruentialGenerator :=
  ⟨g.state * 6364136223846793005 + 1442695040888963407⟩

def throw? (g : CongruentialGenerator) (sides : Nat) : Option Nat × CongruentialGenerator :=
  (some (1 + (g.next.state >>> 33).toNat % sides), g.next)

end CongruentialGenerator

instance : DieSource CongruentialGenerator := ⟨CongruentialGenerator.throw?⟩

instance : LawfulDieSource CongruentialGenerator where
  face_mem {s sides face} hpos h := by
    simp only [DieSource.throw?, CongruentialGenerator.throw?, Option.some.injEq] at h
    have := Nat.mod_lt (s.next.state >>> 33).toNat hpos
    omega

end DiceBot
