import Mathlib.Data.List.Forall2
import DiceBot.Proofs.Formula.RoundTrip

/-!
# The faults of a formula

A formula is cut into its repeats and its pieces, and each part is at fault or not
by itself. The cut is found again after parts are replaced, whatever stands in the
others, so mending some faults leaves exactly the rest of them.
-/

namespace DiceBot

theorem isRepeats_iff {t : Text} : isRepeats t ↔ ∃ n, readRepeats t = .ok n := by
  cases h : readRepeats t <;> simp [isRepeats, h, Except.isOk, Except.toBool]

theorem isTerm_iff {t : Text} : isTerm t ↔ ∃ u, Term.parse t = .ok u := by
  cases h : Term.parse t <;> simp [isTerm, h, Except.isOk, Except.toBool]

theorem isRepeats_one : isRepeats ['1'] := by decide

theorem sift_fst (ps : List Text) : (sift ps).1 = ps.filter fun p => !isTerm p := by
  induction ps with
  | nil => rfl
  | cons p ps ih =>
    cases h : Term.parse p <;> simp [sift, isTerm, h, ih, Except.isOk, Except.toBool]

theorem forall₂_parse_iff {ps : List Text} {ts : List Term} :
    List.Forall₂ (fun p t => Term.parse p = .ok t) ps ts ↔ ps = ts.map Term.spelled := by
  have heq : ps = ts.map Term.spelled ↔ List.Forall₂ (· = ·) ps (ts.map Term.spelled) := by
    rw [List.forall₂_eq_eq_eq]
  simp only [Term.parse_eq_ok_iff, heq, List.forall₂_map_right_iff]

structure Parts where
  repeats : Text
  pieces : List Text
deriving DecidableEq, Repr

namespace Parts

def text (p : Parts) : Text := p.repeats ++ '#' :: p.pieces.flatten

def faults (p : Parts) : List Text :=
  [p.repeats].filter (fun t => !isRepeats t) ++ p.pieces.filter fun t => !isTerm t

theorem faults_of_readRepeats_eq_ok {p : Parts} {n : Numeral 2}
    (h : readRepeats p.repeats = .ok n) : p.faults = (sift p.pieces).1 := by
  have hr : isRepeats p.repeats := isRepeats_iff.2 ⟨n, h⟩
  simp [faults, hr, sift_fst]

theorem faults_of_readRepeats_eq_error {p : Parts} {e : ScanError}
    (h : readRepeats p.repeats = .error e) : p.faults = p.repeats :: (sift p.pieces).1 := by
  have hr : isRepeats p.repeats = false := by simp [isRepeats, h, Except.isOk, Except.toBool]
  simp [faults, hr, sift_fst]

theorem faults_eq_nil_iff {p : Parts} :
    p.faults = [] ↔ isRepeats p.repeats ∧ ∀ t ∈ p.pieces, isTerm t := by
  simp [faults]

def CanBeRepeats (t : Text) : Prop := '#' ∉ t ∧ ∀ c ∈ t, Text.isBlank c = false

def CanBePiece (t : Text) : Prop := Pieces.IsSigned t ∧ ∀ c ∈ t, Text.isBlank c = false

structure IsCut (p : Parts) : Prop where
  repeats : CanBeRepeats p.repeats
  pieces_ne_nil : p.pieces ≠ []
  pieces : ∀ t ∈ p.pieces, CanBePiece t

theorem canBeRepeats_of_isRepeats {t : Text} (h : isRepeats t) : CanBeRepeats t := by
  obtain ⟨n, hn⟩ := isRepeats_iff.1 h
  obtain rfl := readRepeats_eq_ok_iff.1 hn
  refine ⟨n.separator_notMem_text, fun c hc => isBlank_of_mem_formulaChars ?_⟩
  exact List.mem_append_right _ (n.text_subset_expressionChars hc)

theorem canBePiece_of_isTerm {t : Text} (h : isTerm t) : CanBePiece t := by
  obtain ⟨u, hu⟩ := isTerm_iff.1 h
  obtain rfl := Term.parse_eq_ok_iff.1 hu
  refine ⟨u.isSigned_spelled, fun c hc => isBlank_of_mem_formulaChars ?_⟩
  exact List.mem_cons_of_mem _ (u.spelled_subset hc)

end Parts

namespace Formula

def parts (raw : Text) : Parts where
  repeats := (Pieces.splitRepeats (Text.squeezed raw)).1
  pieces := Pieces.ofCommand (Pieces.signed (Pieces.splitRepeats (Text.squeezed raw)).2)

theorem isCut_parts (raw : Text) : (parts raw).IsCut := by
  have hplain : ∀ c ∈ Text.squeezed raw, Text.isBlank c = false :=
    Text.squeezed_eq_self_iff.1 (Text.squeezed_squeezed raw)
  obtain ⟨hrepeats, hcommand⟩ :
      Parts.CanBeRepeats (Pieces.splitRepeats (Text.squeezed raw)).1 ∧
        ∀ c ∈ (Pieces.splitRepeats (Text.squeezed raw)).2, Text.isBlank c = false := by
    rcases Pieces.splitRepeats_cases (Text.squeezed raw) with ⟨-, he⟩ | ⟨r, c, hr, ht, he⟩
    · rw [he]
      exact ⟨Parts.canBeRepeats_of_isRepeats isRepeats_one, hplain⟩
    · rw [he]
      rw [ht] at hplain
      exact ⟨⟨hr, fun x hx => hplain x (by simp [hx])⟩, fun x hx => hplain x (by simp [hx])⟩
  refine ⟨hrepeats, Pieces.ofCommand_ne_nil _, fun t ht => ?_⟩
  refine ⟨Pieces.isSigned_of_mem_ofCommand_signed ht, fun c hc => ?_⟩
  have hsigned : c ∈ Pieces.signed (Pieces.splitRepeats (Text.squeezed raw)).2 := by
    rw [← Pieces.flatten_ofCommand (Pieces.signed _)]
    exact List.mem_flatten.2 ⟨t, ht, hc⟩
  rcases Pieces.eq_or_eq_of_signed (Pieces.splitRepeats (Text.squeezed raw)).2 with he | he
  · exact hcommand c (he ▸ hsigned)
  · rw [he, List.mem_cons] at hsigned
    rcases hsigned with rfl | hc
    · decide
    · exact hcommand c hc

theorem parts_eq {raw r c : Text} (hr : '#' ∉ r) (h : Text.squeezed raw = r ++ '#' :: c) :
    parts raw = ⟨r, Pieces.ofCommand (Pieces.signed c)⟩ := by
  rw [parts, h, Pieces.splitRepeats_append hr]

theorem parts_text {p : Parts} (hp : p.IsCut) : parts p.text = p := by
  obtain ⟨r, ps⟩ := p
  obtain ⟨⟨hr, hrplain⟩, hne, hps⟩ := hp
  have hplain : Text.squeezed (Parts.text ⟨r, ps⟩) = r ++ '#' :: ps.flatten := by
    refine Text.squeezed_eq_self_iff.2 fun c hc => ?_
    simp only [Parts.text, List.mem_append, List.mem_cons, List.mem_flatten] at hc
    rcases hc with hc | rfl | ⟨t, ht, hc⟩
    · exact hrplain c hc
    · decide
    · exact (hps t ht).2 c hc
  rw [parts_eq hr hplain]
  cases ps with
  | nil => exact absurd rfl hne
  | cons t ps =>
    have ht := (hps t (by simp)).1
    have hcut := Pieces.ofCommand_flatten ht.1 fun q hq => (hps q (List.mem_cons_of_mem _ hq)).1
    cases t with
    | nil => exact absurd rfl ht.1.1
    | cons c cs =>
      have hsigned := Pieces.signed_of_isSign (ht.2 c rfl) (cs ++ ps.flatten)
      rw [List.flatten_cons] at hcut
      -- the first piece has its own sign, so none is put before it when the text is cut again
      rw [List.flatten_cons, List.cons_append, hsigned]
      exact congrArg (Parts.mk r) hcut

theorem parse_eq_ok_iff_parts {raw : Text} {f : Formula} :
    parse raw = .ok f ↔
      f.text = Text.squeezed raw ∧ parts raw = ⟨f.repeats.text, f.terms.map Term.spelled⟩ := by
  rw [parse_eq_ok_iff_sift, readRepeats_eq_ok_iff, sift_eq_iff, parts, Parts.mk.injEq]
  constructor
  · intro h
    exact ⟨h.1, h.1 ▸ h.2⟩
  · intro h
    exact ⟨h.1, h.1 ▸ h.2⟩

theorem parse_of_faults_ne_nil {raw : Text} (h : (parts raw).faults ≠ []) :
    parse raw = .error ⟨Text.squeezed raw, (parts raw).faults⟩ := by
  cases hr : readRepeats (parts raw).repeats with
  | error x =>
    rw [Parts.faults_of_readRepeats_eq_error hr]
    rw [parts] at hr ⊢
    simp only [parse, hr]
  | ok n =>
    rw [Parts.faults_of_readRepeats_eq_ok hr] at h ⊢
    rw [parts] at hr h ⊢
    simp only [parse, hr, h, ↓reduceDIte]

theorem exists_parse_of_faults_eq_nil {raw : Text} (h : (parts raw).faults = []) :
    ∃ f, parse raw = .ok f := by
  obtain ⟨hrepeats, hpieces⟩ := Parts.faults_eq_nil_iff.1 h
  obtain ⟨n, hn⟩ := isRepeats_iff.1 hrepeats
  rw [Parts.faults_of_readRepeats_eq_ok hn] at h
  rw [parts] at hn h
  exact ⟨_, by simp only [parse, hn, h, ↓reduceDIte]; rfl⟩

theorem parse_eq_error_iff {raw : Text} {e : Rejection} :
    parse raw = .error e ↔
      e = ⟨Text.squeezed raw, (parts raw).faults⟩ ∧ (parts raw).faults ≠ [] := by
  by_cases h : (parts raw).faults = []
  · obtain ⟨f, hf⟩ := exists_parse_of_faults_eq_nil h
    simp [hf, h]
  · rw [parse_of_faults_ne_nil h, Except.error.injEq]
    exact ⟨fun he => ⟨he.symm, h⟩, fun he => he.1.symm⟩

theorem exists_parse_eq_error_iff {raw : Text} :
    (∃ e, parse raw = .error e) ↔ (parts raw).faults ≠ [] := by
  simp [parse_eq_error_iff]

theorem exists_parse_eq_ok_iff {raw : Text} :
    (∃ f, parse raw = .ok f) ↔ (parts raw).faults = [] := by
  rw [← not_iff_not, ← ne_eq, ← exists_parse_eq_error_iff]
  cases parse raw <;> simp

end Formula

end DiceBot
