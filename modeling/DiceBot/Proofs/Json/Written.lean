import DiceBot.Json.Reader
import DiceBot.Json.Writer

/-!
# Reading what was written

A reader gets every text back from the string that is written for it. The lexer comes to the code
units of a character by its short escape, by the character itself or by one or two hexadecimal
numbers, and joins them to the same character again. An object of such strings is read with all its
members, in the order in which they stand.
-/

namespace DiceBot.Json

open Token

section Units

/-- The code units of a character, of which there are two beyond the first plane. -/
def codeUnits (c : Char) : List Nat :=
  if c.toNat < 0x10000 then [c.toNat]
  else [0xD800 + (c.toNat - 0x10000) / 0x400, 0xDC00 + (c.toNat - 0x10000) % 0x400]

theorem toNat_lt_or_between (c : Char) : c.toNat < 0xD800 ∨ 0xDFFF < c.toNat ∧ c.toNat < 0x110000 :=
  c.valid

theorem joinSurrogates_codeUnits_append (c : Char) (us : List Nat) :
    joinSurrogates (codeUnits c ++ us) = (joinSurrogates us).map (c :: ·) := by
  have hvalid := toNat_lt_or_between c
  rw [codeUnits]
  split
  · have hhigh : isHighSurrogate c.toNat = false := by simp [isHighSurrogate]; omega
    have hlow : isLowSurrogate c.toNat = false := by simp [isLowSurrogate]; omega
    rw [List.singleton_append, joinSurrogates.eq_def]
    simp [hhigh, hlow]
  · let n := c.toNat - 0x10000
    have hn : n < 0x100000 := by omega
    have hhigh : isHighSurrogate (0xD800 + n / 0x400) := by simp [isHighSurrogate]; omega
    have hlow : isLowSurrogate (0xDC00 + n % 0x400) := by simp [isLowSurrogate]; omega
    have hjoined : 0x10000 + (0xD800 + n / 0x400 - 0xD800) * 0x400 + (0xDC00 + n % 0x400 - 0xDC00) =
        c.toNat := by omega
    change joinSurrogates (_ :: _ :: us) = _
    rw [joinSurrogates, if_pos hhigh, if_pos hlow, hjoined, Char.ofNat_toNat]

theorem joinSurrogates_flatMap_codeUnits (t : Text) :
    joinSurrogates (t.flatMap codeUnits) = some t := by
  induction t with
  | nil => rfl
  | cons c t ih => rw [List.flatMap_cons, joinSurrogates_codeUnits_append, ih, Option.map_some]

end Units

section Strings

theorem hexDigit?_digitChar {d : Nat} (h : d < 16) : hexDigit? d.digitChar = some d := by
  revert d
  decide

theorem hexadecimal_succ {width : Nat} (h : 0 < width) (n : Nat) :
    Text.hexadecimal (width + 1) n =
      Text.hexadecimal width (n / 16) ++ [(n % 16).digitChar] := by
  rw [Text.hexadecimal, Text.hexadecimal]
  by_cases hn : n < 16
  · obtain ⟨k, rfl⟩ := Nat.exists_eq_succ_of_ne_zero (Nat.ne_of_gt h)
    rw [Nat.toDigits_of_lt_base hn, Nat.div_eq_of_lt hn, Nat.mod_eq_of_lt hn]
    simp [List.leftpad, List.replicate_succ']
  · rw [Nat.toDigits_of_base_le (by decide) (Nat.le_of_not_lt hn)]
    simp [List.leftpad]

variable {units : List Nat} {found : List Token}

theorem next_digitChar {d : Nat} (h : d < 16) (missing value : Nat) :
    Lexer.next ⟨.code units (missing + 1) value, found⟩ d.digitChar =
      some ⟨.code units missing (16 * value + d), found⟩ := by
  simp [Lexer.next, hexDigit?_digitChar h]

theorem next_last_digitChar {d : Nat} (h : d < 16) (value : Nat) :
    Lexer.next ⟨.code units 0 value, found⟩ d.digitChar =
      some ⟨.string ((16 * value + d) :: units), found⟩ := by
  simp [Lexer.next, hexDigit?_digitChar h]

theorem foldlM_unitEscape {u : Nat} (h : u < 0x10000) :
    (unitEscape u).foldlM Lexer.next ⟨.string units, found⟩ =
      some ⟨.string (u :: units), found⟩ := by
  have hlast (n : Nat) (hn : n < 16) : Text.hexadecimal 1 n = [n.digitChar] := by
    rw [Text.hexadecimal, Nat.toDigits_of_lt_base hn]
    rfl
  have hvalue : 16 * (16 * (16 * (16 * 0 + u / 16 / 16 / 16) + u / 16 / 16 % 16) + u / 16 % 16) +
      u % 16 = u := by omega
  rw [unitEscape, hexadecimal_succ (by decide), hexadecimal_succ (by decide),
    hexadecimal_succ (by decide), hlast _ (by omega)]
  have hslash : Lexer.next ⟨.string units, found⟩ '\\' = some ⟨.escape units, found⟩ := rfl
  have hcode : Lexer.next ⟨.escape units, found⟩ 'u' = some ⟨.code units 3 0, found⟩ := rfl
  have hdigit (n : Nat) : n % 16 < 16 := Nat.mod_lt n (by decide)
  simp only [List.cons_append, List.nil_append, List.foldlM_cons, List.foldlM_nil,
    Option.bind_eq_bind, Option.bind_some, hslash, hcode]
  rw [next_digitChar (by omega), Option.bind_some, next_digitChar (hdigit _), Option.bind_some,
    next_digitChar (hdigit _), Option.bind_some, next_last_digitChar (hdigit _), hvalue]
  rfl

theorem foldlM_unitEscape_append {u v : Nat} (hu : u < 0x10000) (hv : v < 0x10000) :
    (unitEscape u ++ unitEscape v).foldlM Lexer.next ⟨.string units, found⟩ =
      some ⟨.string (v :: u :: units), found⟩ := by
  rw [List.foldlM_append, foldlM_unitEscape hu]
  exact foldlM_unitEscape hv

theorem codeUnits_of_lt {c : Char} (h : c.toNat < 0x10000) : codeUnits c = [c.toNat] := if_pos h

theorem escapes_lookup_of_lookup {c e : Char} (h : shortEscapes.lookup c = some e) :
    escapes.lookup e = some c ∧ e ≠ 'u' ∧ c.toNat < 0x80 := by
  have hall : ∀ p ∈ shortEscapes,
      escapes.lookup p.2 = some p.1 ∧ p.2 ≠ 'u' ∧ p.1.toNat < 0x80 := by decide
  obtain ⟨before, after, hsplit, -⟩ := List.lookup_eq_some_iff.1 h
  exact hall (c, e) (by rw [hsplit]; simp)

theorem foldlM_charEscape (c : Char) : (charEscape c).foldlM Lexer.next ⟨.string units, found⟩ =
    some ⟨.string ((codeUnits c).reverse ++ units), found⟩ := by
  rw [charEscape]
  cases hshort : shortEscapes.lookup c with
  | some e =>
    obtain ⟨hescape, hu, hlt⟩ := escapes_lookup_of_lookup hshort
    rw [codeUnits_of_lt (by omega)]
    simp [Lexer.next, hescape, hu]
  | none =>
    have hquote : c ≠ '\x22' := by
      intro hc
      rw [hc] at hshort
      exact absurd hshort (by decide)
    have hslash : c ≠ '\\' := by
      intro hc
      rw [hc] at hshort
      exact absurd hshort (by decide)
    have hvalid := toNat_lt_or_between c
    dsimp only
    split
    · have hcontrol : ¬ c.toNat < 0x20 := by omega
      rw [codeUnits_of_lt (by omega)]
      simp [Lexer.next, hquote, hslash, hcontrol]
    split
    · rename_i hlt
      rw [codeUnits_of_lt hlt]
      exact foldlM_unitEscape hlt
    · rename_i hlt
      rw [codeUnits, if_neg hlt]
      exact foldlM_unitEscape_append (by omega) (by omega)

theorem foldlM_flatMap_charEscape (t : Text) (units : List Nat) :
    (t.flatMap charEscape).foldlM Lexer.next ⟨.string units, found⟩ =
      some ⟨.string ((t.flatMap codeUnits).reverse ++ units), found⟩ := by
  induction t generalizing units with
  | nil => rfl
  | cons c t ih =>
    rw [List.flatMap_cons, List.foldlM_append, foldlM_charEscape, List.flatMap_cons,
      List.reverse_append, List.append_assoc]
    exact ih _

end Strings

/-- Between two tokens the text is read as these tokens. -/
def Lexes (w : Text) (ts : List Token) : Prop :=
  ∀ found, w.foldlM Lexer.next ⟨.between, found⟩ = some ⟨.between, ts.reverse ++ found⟩

namespace Lexes

variable {w w' : Text} {ts ts' : List Token}

theorem append (h : Lexes w ts) (h' : Lexes w' ts') : Lexes (w ++ w') (ts ++ ts') := by
  intro found
  rw [List.foldlM_append, h, List.reverse_append, List.append_assoc]
  exact h' _

theorem tokens?_eq (h : Lexes w ts) : tokens? w = some ts := by
  have hfinal := h []
  rw [tokens?, Lexer.start, hfinal, List.append_nil]
  exact congrArg some ts.reverse_reverse

theorem intercalate {α : Type} {write : α → Text} {read : α → List Token}
    (h : ∀ a, Lexes (write a) (read a)) (as : List α) :
    Lexes ([','].intercalate (as.map write)) ([comma].intercalate (as.map read)) := by
  have hcomma : Lexes [','] [comma] := fun _ => rfl
  induction as with
  | nil => exact fun _ => rfl
  | cons a as ih =>
    cases as with
    | nil => simpa using h a
    | cons b as =>
      simp only [List.map_cons, List.intercalate_cons_cons] at ih ⊢
      exact ((h a).append hcomma).append ih

end Lexes

theorem lexes_string (t : Text) : Lexes (string t) [.scalar (.str (some t))] := by
  intro found
  rw [string, List.cons_append, List.foldlM_cons]
  have hopen : Lexer.next ⟨.between, found⟩ '\x22' = some ⟨.string [], found⟩ := rfl
  rw [hopen, Option.bind_eq_bind, Option.bind_some, List.foldlM_append, foldlM_flatMap_charEscape,
    List.append_nil]
  simp [Lexer.next, joinSurrogates_flatMap_codeUnits]

section Objects

def Value.ofTexts (members : List (Text × Text)) : Value :=
  .obj (members.map fun m => (some m.1, .str (some m.2)))

def memberTokens (m : Text × Text) : List Token :=
  [.scalar (.str (some m.1)), colon, .scalar (.str (some m.2))]

theorem lexes_member (m : Text × Text) :
    Lexes (string m.1 ++ ':' :: string m.2) (memberTokens m) := by
  have hcolon : Lexes [':'] [colon] := fun _ => rfl
  exact (lexes_string m.1).append (hcolon.append (lexes_string m.2))

variable {p : Place} {members : Members} {stack : List Frame}

theorem foldlM_memberTokens (hp : ∀ k, p.next (.scalar (.str k)) = some (.colon members k stack))
    (m : Text × Text) : (memberTokens m).foldlM Place.next p =
      some (.afterMember ((some m.1, .str (some m.2)) :: members) stack) := by
  rw [memberTokens, List.foldlM_cons, hp]
  rfl

theorem foldlM_intercalate_memberTokens
    (hp : ∀ k, p.next (.scalar (.str k)) = some (.colon members k stack)) (m : Text × Text)
    (ms : List (Text × Text)) :
    ([comma].intercalate ((m :: ms).map memberTokens)).foldlM Place.next p =
      some (.afterMember
        (((m :: ms).map fun m => (some m.1, Value.str (some m.2))).reverse ++ members) stack) := by
  induction ms generalizing p m members with
  | nil => exact foldlM_memberTokens hp m
  | cons n ms ih =>
    let read : Members := (some m.1, .str (some m.2)) :: members
    have hcomma : Place.next (.afterMember read stack) .comma = some (.key read stack) := rfl
    have hrest := ih (p := .key read stack) (fun _ => rfl) n
    rw [List.map_cons, List.map_cons, List.intercalate_cons_cons, List.append_assoc,
      List.foldlM_append, foldlM_memberTokens hp, Option.bind_eq_bind, Option.bind_some,
      List.singleton_append, List.foldlM_cons, hcomma, Option.bind_eq_bind, Option.bind_some,
      ← List.map_cons, hrest]
    simp [read]

theorem foldlM_objectTokens (ms : List (Text × Text)) :
    ([beginObject] ++ [comma].intercalate (ms.map memberTokens) ++ [endObject]).foldlM Place.next
      (.value []) = some (.finished (.ofTexts ms)) := by
  cases ms with
  | nil => rfl
  | cons m ms =>
    have hopen : Place.next (.value []) .beginObject = some (.firstKey []) := rfl
    have hmembers := foldlM_intercalate_memberTokens (p := .firstKey []) (fun _ => rfl) m ms
    rw [List.foldlM_append, List.singleton_append, List.foldlM_cons, hopen, Option.bind_eq_bind,
      Option.bind_some, hmembers, List.append_nil]
    exact congrArg (fun ms => some (Place.finished (.obj ms))) (List.reverse_reverse _)

/-- What is written as an object of texts is read as this object. -/
theorem read?_object (ms : List (Text × Text)) :
    read? (object (ms.map fun m => (m.1, string m.2))) = some (.ofTexts ms) := by
  have hopen : Lexes ['\x7b'] [beginObject] := fun _ => rfl
  have hclose : Lexes ['\x7d'] [endObject] := fun _ => rfl
  have hlexes := (hopen.append (.intercalate lexes_member ms)).append hclose
  have hobject : object (ms.map fun m => (m.1, string m.2)) =
      ['\x7b'] ++ [','].intercalate (ms.map fun m => string m.1 ++ ':' :: string m.2) ++
        ['\x7d'] := by
    rw [object, List.map_map]
    rfl
  rw [hobject, read?, hlexes.tokens?_eq]
  simp only [Option.bind_eq_bind, Option.bind_some, foldlM_objectTokens]
  rfl

end Objects
end DiceBot.Json
