import DiceBot.Json.Number

/-!
# JSON tokens

A lexer takes one character at a time. Between tokens stand spaces, tabs and
line ends; a bare word ends where one of them, a quote or punctuation follows;
a string has no bare control characters, and its escapes give code points or
halves of surrogate pairs, which are joined when the string is closed.
-/

namespace DiceBot.Json

inductive Token where
  | beginArray
  | endArray
  | beginObject
  | endObject
  | colon
  | comma
  | scalar (v : Value)
deriving Repr

namespace Token

def punctuation : List (Char × Token) :=
  [('[', beginArray), (']', endArray), ('{', beginObject), ('}', endObject), (':', colon),
    (',', comma)]

def isGap (c : Char) : Bool := c = ' ' || c = '\t' || c = '\n' || c = '\r'

def isHighSurrogate (u : Nat) : Bool := 0xD800 ≤ u && u < 0xDC00

def isLowSurrogate (u : Nat) : Bool := 0xDC00 ≤ u && u < 0xE000

/-- Joins each high surrogate with the low one behind it. A surrogate alone is no text. -/
def joinSurrogates : List Nat → Option Text
  | [] => some []
  | u :: us =>
    if isHighSurrogate u then
      match us with
      | v :: vs =>
        if isLowSurrogate v then
          (joinSurrogates vs).map (Char.ofNat (0x10000 + (u - 0xD800) * 0x400 + (v - 0xDC00)) :: ·)
        else none
      | [] => none
    else if isLowSurrogate u then none
    else (joinSurrogates us).map (Char.ofNat u :: ·)

def escapes : List (Char × Char) :=
  [('\x22', '\x22'), ('\\', '\\'), ('/', '/'), ('b', '\x08'), ('f', '\x0c'), ('n', '\n'),
    ('r', '\r'), ('t', '\t')]

def hexDigit? (c : Char) : Option Nat :=
  if c.isDigit then some (c.toNat - '0'.toNat)
  else if 'a' ≤ c ∧ c ≤ 'f' then some (c.toNat - 'a'.toNat + 10)
  else if 'A' ≤ c ∧ c ≤ 'F' then some (c.toNat - 'A'.toNat + 10)
  else none

end Token

/-- What the lexer is in the middle of. Characters and code points stand latest first. -/
inductive Lexing where
  | between
  | bare (word : Text)
  | string (units : List Nat)
  | escape (units : List Nat)
  | code (units : List Nat) (missing value : Nat)

structure Lexer where
  lexing : Lexing
  found : List Token

namespace Lexer

open Token

def start : Lexer := ⟨.between, []⟩

def between (found : List Token) (c : Char) : Lexer :=
  if isGap c then ⟨.between, found⟩
  else if c = '\x22' then ⟨.string [], found⟩
  else match punctuation.lookup c with
    | some t => ⟨.between, t :: found⟩
    | none => ⟨.bare [c], found⟩

def endsBare (c : Char) : Bool :=
  isGap c || c = '\x22' || (punctuation.lookup c).isSome

def next (l : Lexer) (c : Char) : Option Lexer :=
  match l.lexing with
  | .between => some (between l.found c)
  | .bare word =>
    if endsBare c then do
      let v ← bare? word.reverse
      return between (.scalar v :: l.found) c
    else some ⟨.bare (c :: word), l.found⟩
  | .string units =>
    if c = '\x22' then some ⟨.between, .scalar (.str (joinSurrogates units.reverse)) :: l.found⟩
    else if c = '\\' then some ⟨.escape units, l.found⟩
    else if c.toNat < 0x20 then none
    else some ⟨.string (c.toNat :: units), l.found⟩
  | .escape units =>
    if c = 'u' then some ⟨.code units 3 0, l.found⟩
    else do
      let e ← escapes.lookup c
      return ⟨.string (e.toNat :: units), l.found⟩
  | .code units missing value => do
    let d ← hexDigit? c
    match missing with
    | 0 => return ⟨.string ((16 * value + d) :: units), l.found⟩
    | n + 1 => return ⟨.code units n (16 * value + d), l.found⟩

def finish (l : Lexer) : Option (List Token) :=
  match l.lexing with
  | .between => some l.found.reverse
  | .bare word => do
    let v ← bare? word.reverse
    return (.scalar v :: l.found).reverse
  | _ => none

end Lexer

def tokens? (t : Text) : Option (List Token) := (t.foldlM Lexer.next .start).bind Lexer.finish

end DiceBot.Json
