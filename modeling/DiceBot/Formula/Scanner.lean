import DiceBot.Formula.Numeral
import DiceBot.Text.Quoted

/-!
# Scanning a piece of a formula

A cursor stands between the characters of a text that are read and those that
are not. Reading a number takes the whole run of digits at the cursor, also
when the run is no number of the wanted length; every other step that fails
leaves the cursor where it was.
-/

namespace DiceBot

structure Cursor where
  read : Text
  rest : Text
deriving DecidableEq, Repr

namespace Cursor

def start (t : Text) : Cursor := ⟨[], t⟩

def text (c : Cursor) : Text := c.read ++ c.rest

def position (c : Cursor) : Nat := c.read.length

def skip (c : Cursor) (inClass : Char → Bool) : Cursor :=
  ⟨c.read ++ c.rest.takeWhile inClass, c.rest.dropWhile inClass⟩

theorem text_skip (c : Cursor) (inClass : Char → Bool) : (c.skip inClass).text = c.text := by
  simp [skip, text, List.takeWhile_append_dropWhile]

end Cursor

inductive Complaint where
  | expectedOneOf (chars : Text)
  | expectedNumber
  | leadingZero
  | tooLong (limit : Int)
  | tooManyDice
  | trailing
deriving DecidableEq, Repr

def Complaint.message : Complaint → Text
  | .expectedOneOf chars => "expected one of ".toList ++ Text.quoted chars
  | .expectedNumber => "expected a number".toList
  | .leadingZero => "numbers cannot start with 0".toList
  | .tooLong limit => "number longer than ".toList ++ Decimal.ofInt limit ++ " digits".toList
  | .tooManyDice => "dice count longer than 2 digits".toList
  | .trailing => "unexpected trailing characters".toList

structure ScanError where
  text : Text
  position : Nat
  complaint : Complaint
deriving DecidableEq, Repr

def ScanError.message (e : ScanError) : Text :=
  "Invalid ".toList ++ Text.quoted e.text ++ " at position ".toList ++ Decimal.ofNat e.position ++
    ": ".toList ++ e.complaint.message

/-- A reading of what stands at a cursor. It moves the cursor also when it fails. -/
structure Scan (α : Type) where
  run : Cursor → Except ScanError α × Cursor

namespace Scan

variable {α β : Type}

def andThen (f : α → Scan β) : Except ScanError α × Cursor → Except ScanError β × Cursor
  | (.error e, c) => (.error e, c)
  | (.ok a, c) => (f a).run c

instance : Monad Scan where
  pure a := ⟨fun c => (.ok a, c)⟩
  bind p f := ⟨fun c => andThen f (p.run c)⟩

theorem run_pure (a : α) (c : Cursor) : (pure a : Scan α).run c = (.ok a, c) := rfl

theorem run_bind (p : Scan α) (f : α → Scan β) (c : Cursor) :
    (p >>= f).run c = andThen f (p.run c) := rfl

def refuse (complaint : Complaint) : Scan α :=
  ⟨fun c => (.error ⟨c.text, c.position, complaint⟩, c)⟩

def peek : Scan (Option Char) := ⟨fun c => (.ok c.rest.head?, c)⟩

def accept (chars : Text) : Scan (Option Char) :=
  ⟨fun c =>
    match c.rest with
    | [] => (.ok none, c)
    | x :: xs => if x ∈ chars then (.ok (some x), ⟨c.read ++ [x], xs⟩) else (.ok none, c)⟩

def expect (chars : Text) : Scan Char := do
  match ← accept chars with
  | some x => return x
  | none => refuse (.expectedOneOf chars)

def digits : Scan Text :=
  ⟨fun c => (.ok (c.rest.takeWhile Char.isDigit), c.skip Char.isDigit)⟩

/-- A negative limit admits no number. -/
def number (limit : Int) : Scan (Numeral limit.toNat) := do
  let ds ← digits
  if ds = [] then refuse .expectedNumber
  else if canonical : Decimal.isCanonical ds then
    if short : ds.length ≤ limit then return .ofDigits ds canonical (by omega)
    else refuse (.tooLong limit)
  else refuse .leadingZero

def atEnd : Scan Bool := ⟨fun c => (.ok c.rest.isEmpty, c)⟩

def expectEnd : Scan Unit := do
  if ← atEnd then return () else refuse .trailing

def read (p : Scan α) (t : Text) : Except ScanError α := (p.run (.start t)).1

theorem run_refuse (complaint : Complaint) (c : Cursor) :
    (refuse complaint : Scan α).run c = (.error ⟨c.text, c.position, complaint⟩, c) := rfl

theorem run_accept_nil (chars read : Text) :
    (accept chars).run ⟨read, []⟩ = (.ok none, ⟨read, []⟩) := rfl

theorem run_accept_of_mem {chars : Text} {x : Char} (h : x ∈ chars) (read xs : Text) :
    (accept chars).run ⟨read, x :: xs⟩ = (.ok (some x), ⟨read ++ [x], xs⟩) := by
  simp [accept, h]

theorem run_accept_of_not_mem {chars : Text} {x : Char} (h : x ∉ chars) (read xs : Text) :
    (accept chars).run ⟨read, x :: xs⟩ = (.ok none, ⟨read, x :: xs⟩) := by
  simp [accept, h]

end Scan

inductive ScanStep where
  | peek
  | accept (chars : Text)
  | expect (chars : Text)
  | number (limit : Int)
  | atEnd
  | expectEnd
deriving DecidableEq, Repr

inductive ScanReply where
  | next (c : Option Char)
  | accepted (c : Option Char)
  | expected (c : Char)
  | number (value : Nat)
  | ended (yes : Bool)
  | done
deriving DecidableEq, Repr

def ScanStep.perform : ScanStep → Scan ScanReply
  | .peek => return .next (← Scan.peek)
  | .accept chars => return .accepted (← Scan.accept chars)
  | .expect chars => return .expected (← Scan.expect chars)
  | .number limit => return .number (← Scan.number limit).value
  | .atEnd => return .ended (← Scan.atEnd)
  | .expectEnd => do
    Scan.expectEnd
    return .done

/-- A step has no reply when its scan is refused, or when the number that it has read has too many
digits to be told. -/
inductive StepError where
  | refused (e : ScanError)
  | unwieldy (digits : Nat)
deriving DecidableEq, Repr

namespace StepError

def digitLimit : Nat := 4300

def message : StepError → Text
  | .refused e => e.message
  | .unwieldy digits =>
    "Exceeds the limit (".toList ++ Decimal.ofNat digitLimit ++
      " digits) for integer string conversion: value has ".toList ++ Decimal.ofNat digits ++
      " digits; use sys.set_int_max_str_digits() to increase the limit".toList

end StepError

def ScanReply.told : ScanReply → Except StepError ScanReply
  | .number value =>
    let digits := (Decimal.ofNat value).length
    if digits ≤ StepError.digitLimit then .ok (.number value) else .error (.unwieldy digits)
  | reply => .ok reply

def ScanStep.run (x : ScanStep) (c : Cursor) : Except StepError ScanReply × Cursor :=
  match x.perform.run c with
  | (.ok reply, c) => (reply.told, c)
  | (.error e, c) => (.error (.refused e), c)

/-- The result of each step, with the cursor after it. A step that fails does not stop the ones
behind it. -/
def Cursor.transcript : Cursor → List ScanStep → List (Except StepError ScanReply × Cursor)
  | _, [] => []
  | c, x :: xs =>
    let outcome := x.run c
    outcome :: transcript outcome.2 xs

end DiceBot
