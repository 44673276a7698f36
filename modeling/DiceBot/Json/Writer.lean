import DiceBot.Text.Quoted

/-!
# Writing JSON

Strings are written in ASCII: a character without a short escape that is not
printable ASCII is escaped by its code, or by two when it is beyond the first
plane. Objects have no spaces, and their members stand in the given order.
-/

namespace DiceBot.Json

def shortEscapes : List (Char × Char) :=
  [('\x22', '\x22'), ('\\', '\\'), ('\n', 'n'), ('\r', 'r'), ('\t', 't'), ('\x08', 'b'),
    ('\x0c', 'f')]

def unitEscape (u : Nat) : Text := '\\' :: 'u' :: Text.hexadecimal 4 u

def charEscape (c : Char) : Text :=
  match shortEscapes.lookup c with
  | some e => ['\\', e]
  | none =>
    let n := c.toNat
    if 0x20 ≤ n ∧ n ≤ 0x7E then [c]
    else if n < 0x10000 then unitEscape n
    else unitEscape (0xD800 + (n - 0x10000) / 0x400) ++ unitEscape (0xDC00 + (n - 0x10000) % 0x400)

def string (t : Text) : Text := '\x22' :: t.flatMap charEscape ++ ['\x22']

/-- An object of values that are already written. -/
def object (members : List (Text × Text)) : Text :=
  '{' :: [','].intercalate (members.map fun m => string m.1 ++ ':' :: m.2) ++ ['}']

end DiceBot.Json
