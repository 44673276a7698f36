import DiceBot.Formula.Pieces
import DiceBot.Formula.Scanner
import DiceBot.Formula.Term
import DiceBot.Text.Blank

/-!
# Reading formulas

A formula is read without its blanks. Its repeats and its pieces are read each
on their own, and a formula with bad ones is refused with the list of them, the
repeats first and the rest in order.
-/

namespace DiceBot

def scanRepeats : Scan (Numeral 2) := do
  let n ← Scan.number 2
  Scan.expectEnd
  return n

def scanDice (count : Numeral 4) : Scan Dice := do
  match count.narrow? 2 with
  | none => Scan.refuse .tooManyDice
  | some count =>
    let _ ← Scan.expect ['d']
    let sides ← Scan.number 4
    match (← Scan.accept ['h', 'l']).bind Extreme.ofMark? with
    | none =>
      Scan.expectEnd
      return ⟨count, sides, none⟩
    | some extreme =>
      let kept ← Scan.number 2
      Scan.expectEnd
      return ⟨count, sides, some ⟨extreme, kept⟩⟩

def scanTerm : Scan Term := do
  let mark ← Scan.expect ['+', '-']
  let sign := if mark = '+' then Sign.plus else Sign.minus
  let leading ← Scan.number 4
  if ← Scan.atEnd then return ⟨sign, .flat leading⟩
  else return ⟨sign, .dice (← scanDice leading)⟩

def readRepeats (t : Text) : Except ScanError (Numeral 2) := scanRepeats.read t

def Term.parse (t : Text) : Except ScanError Term := scanTerm.read t

def isRepeats (t : Text) : Bool := (readRepeats t).isOk

def isTerm (t : Text) : Bool := (Term.parse t).isOk

/-- A refused formula, without its blanks, and the pieces at fault. -/
structure Rejection where
  text : Text
  pieces : List Text
deriving DecidableEq, Repr

def Rejection.message (r : Rejection) : Text :=
  "Invalid dice formula: ".toList ++ Text.quoted r.text

def sift : List Text → List Text × List Term
  | [] => ([], [])
  | p :: ps =>
    let (bad, terms) := sift ps
    match Term.parse p with
    | .ok t => (bad, t :: terms)
    | .error _ => (p :: bad, terms)

theorem length_sift (ps : List Text) :
    (sift ps).1.length + (sift ps).2.length = ps.length := by
  induction ps with
  | nil => rfl
  | cons p ps ih =>
    simp only [sift]
    cases Term.parse p <;> simp only [List.length_cons] <;> omega

theorem sift_terms_ne_nil {ps : List Text} (hp : ps ≠ []) (hb : (sift ps).1 = []) :
    (sift ps).2 ≠ [] := by
  have h := length_sift ps
  have := List.length_pos_iff.2 hp
  intro ht
  simp only [hb, ht, List.length_nil] at h
  omega

namespace Formula

def parse (raw : Text) : Except Rejection Formula :=
  let text := Text.squeezed raw
  let (repeats, command) := Pieces.splitRepeats text
  let sifted := sift (Pieces.ofCommand (Pieces.signed command))
  match readRepeats repeats with
  | .error _ => .error ⟨text, repeats :: sifted.1⟩
  | .ok n =>
    if h : sifted.1 = [] then
      .ok ⟨text, n, sifted.2, sift_terms_ne_nil (Pieces.ofCommand_ne_nil _) h⟩
    else .error ⟨text, sifted.1⟩

end Formula
end DiceBot
