import DiceBot.Text.Printable

/-!
# Quoted texts

How an error message shows a text of the user. The text stands between single
quotes, or between double quotes when it has single quotes and no double ones.
A backslash goes before the quote in use and before a backslash, and opens the
escape of every character that is not printable.
-/

namespace DiceBot.Text

def quoteMark (t : Text) : Char :=
  if '\x27' ∈ t ∧ '\x22' ∉ t then '\x22' else '\x27'

def hexadecimal (width n : Nat) : Text := (Nat.toDigits 16 n).leftpad width '0'

def codeEscape (n : Nat) : Text :=
  if n < 0x100 then '\\' :: 'x' :: hexadecimal 2 n
  else if n < 0x10000 then '\\' :: 'u' :: hexadecimal 4 n
  else '\\' :: 'U' :: hexadecimal 8 n

def escaped (mark c : Char) : Text :=
  if c = mark ∨ c = '\\' then ['\\', c]
  else if c = '\n' then ['\\', 'n']
  else if c = '\r' then ['\\', 'r']
  else if c = '\t' then ['\\', 't']
  else if isPrintable c then [c]
  else codeEscape c.toNat

def quoted (t : Text) : Text :=
  let mark := quoteMark t
  mark :: t.flatMap (escaped mark) ++ [mark]

end DiceBot.Text
