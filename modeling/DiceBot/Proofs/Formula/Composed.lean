import DiceBot.Proofs.Formula.Faults

/-!
# Sums and repeats of formulas

A command may be put behind another one when it begins with a sign, and repeats may
be put before a command. The parts of the whole are those of what it is made of, so
it is accepted with the same terms, or refused with the same faults.
-/

namespace DiceBot

open Intake (once)

theorem text_once : once.text = ['1'] := by decide

namespace Formula

def rejected (raw : Text) : List Text :=
  match parse raw with
  | .ok _ => []
  | .error e => e.pieces

theorem rejected_eq_faults (raw : Text) : rejected raw = (parts raw).faults := by
  rw [rejected]
  by_cases h : (parts raw).faults = []
  · obtain ⟨f, hf⟩ := exists_parse_of_faults_eq_nil h
    rw [hf, h]
  · rw [parse_of_faults_ne_nil h]

theorem exists_parse_eq_ok_iff_rejected {raw : Text} :
    (∃ f, parse raw = .ok f) ↔ rejected raw = [] := by
  rw [exists_parse_eq_ok_iff, rejected_eq_faults]

section Command

variable {c : Text}

theorem parts_of_notMem (hc : '#' ∉ c) :
    parts c = ⟨['1'], Pieces.ofCommand (Pieces.signed (Text.squeezed c))⟩ := by
  rw [parts, Pieces.splitRepeats_of_notMem (Text.notMem_squeezed hc)]

theorem faults_parts_of_notMem (hc : '#' ∉ c) :
    (parts c).faults = (parts c).pieces.filter fun t => !isTerm t := by
  rw [Parts.faults, parts_of_notMem hc]
  simp [isRepeats_one]

theorem repeats_eq_once {f : Formula} (hc : '#' ∉ c) (hf : parse c = .ok f) :
    f.repeats = once := by
  have hparts := (parse_eq_ok_iff_parts.1 hf).2
  rw [parts_of_notMem hc, Parts.mk.injEq] at hparts
  exact Numeral.text_injective (hparts.1.symm.trans text_once.symm)

end Command

/-- Two commands, the second of which begins with a sign, so that it may be put behind the first. -/
structure Joins (a b : Text) : Prop where
  left : '#' ∉ a
  right : '#' ∉ b
  nonblank : ∃ c ∈ a, Text.isBlank c = false
  sign : ∃ c ∈ b.first?, Pieces.isSign c

section Sum

variable {a b : Text}

theorem Joins.notMem_append (h : Joins a b) : '#' ∉ a ++ b := List.not_mem_append h.left h.right

theorem Joins.squeezed_ne_nil (h : Joins a b) : Text.squeezed a ≠ [] := by
  intro hnil
  obtain ⟨c, hc, hplain⟩ := h.nonblank
  rw [Text.squeezed_eq_nil_iff.1 hnil c hc] at hplain
  cases hplain

theorem Joins.exists_squeezed_eq_cons (h : Joins a b) :
    ∃ c cs, Text.squeezed b = c :: cs ∧ Pieces.isSign c := by
  obtain ⟨c, hc, hsign⟩ := h.sign
  rw [← Text.head?_squeezed] at hc
  obtain ⟨cs, hcs⟩ := List.head?_eq_some_iff.1 hc
  exact ⟨c, cs, hcs, hsign⟩

theorem parts_append (h : Joins a b) :
    parts (a ++ b) = ⟨['1'], (parts a).pieces ++ (parts b).pieces⟩ := by
  obtain ⟨c, cs, hcs, hsign⟩ := h.exists_squeezed_eq_cons
  have hne : Pieces.signed (Text.squeezed a) ≠ [] := by
    obtain ⟨x, xs, hx, -⟩ := Pieces.exists_signed_eq_cons (Text.squeezed a)
    simp [hx]
  -- the sign of the second command begins a piece, whatever the first command ends in
  have hcut := Pieces.ofCommand_append_cons hne hsign cs
  rw [parts_of_notMem h.notMem_append, parts_of_notMem h.left, parts_of_notMem h.right,
    Text.squeezed_append, Pieces.signed_append h.squeezed_ne_nil, hcs,
    Pieces.signed_of_isSign hsign, hcut]

theorem rejected_append (h : Joins a b) : rejected (a ++ b) = rejected a ++ rejected b := by
  rw [rejected_eq_faults, rejected_eq_faults, rejected_eq_faults,
    faults_parts_of_notMem h.notMem_append, faults_parts_of_notMem h.left,
    faults_parts_of_notMem h.right, parts_append h, List.filter_append]

def plus (f g : Formula) : Formula where
  text := f.text ++ g.text
  repeats := once
  terms := f.terms ++ g.terms
  terms_ne_nil := List.append_ne_nil_of_left_ne_nil f.terms_ne_nil _

theorem parse_append {f g : Formula} (h : Joins a b) (hf : parse a = .ok f)
    (hg : parse b = .ok g) : parse (a ++ b) = .ok (f.plus g) := by
  obtain ⟨hftext, hfparts⟩ := parse_eq_ok_iff_parts.1 hf
  obtain ⟨hgtext, hgparts⟩ := parse_eq_ok_iff_parts.1 hg
  refine parse_eq_ok_iff_parts.2 ⟨?_, ?_⟩
  · rw [plus, hftext, hgtext, Text.squeezed_append]
  · rw [parts_append h, hfparts, hgparts, plus, List.map_append, text_once]

end Sum

section Repeated

variable {n : Numeral 2} {c : Text}

theorem squeezed_repeated (n : Numeral 2) (c : Text) :
    Text.squeezed (n.text ++ '#' :: c) = n.text ++ '#' :: Text.squeezed c := by
  have hn : Text.squeezed n.text = n.text :=
    Text.squeezed_eq_self_iff.2
      (Parts.canBeRepeats_of_isRepeats (isRepeats_iff.2 ⟨n, readRepeats_eq_ok_iff.2 rfl⟩)).2
  rw [Text.squeezed_append, hn]
  rfl

theorem parts_repeated (n : Numeral 2) (hc : '#' ∉ c) :
    parts (n.text ++ '#' :: c) = ⟨n.text, (parts c).pieces⟩ := by
  rw [parts_eq n.separator_notMem_text (squeezed_repeated n c), parts_of_notMem hc]

theorem rejected_repeated (n : Numeral 2) (hc : '#' ∉ c) :
    rejected (n.text ++ '#' :: c) = rejected c := by
  have hn : isRepeats n.text := isRepeats_iff.2 ⟨n, readRepeats_eq_ok_iff.2 rfl⟩
  rw [rejected_eq_faults, rejected_eq_faults, parts_repeated n hc, faults_parts_of_notMem hc]
  simp [Parts.faults, hn]

def repeated (n : Numeral 2) (f : Formula) : Formula :=
  { f with text := n.text ++ '#' :: f.text, repeats := n }

theorem parse_repeated {f : Formula} (n : Numeral 2) (hc : '#' ∉ c) (hf : parse c = .ok f) :
    parse (n.text ++ '#' :: c) = .ok (f.repeated n) := by
  obtain ⟨htext, hparts⟩ := parse_eq_ok_iff_parts.1 hf
  refine parse_eq_ok_iff_parts.2 ⟨?_, ?_⟩
  · rw [repeated, htext, squeezed_repeated]
  · rw [parts_repeated n hc, hparts]
    rfl

end Repeated

end Formula

end DiceBot
