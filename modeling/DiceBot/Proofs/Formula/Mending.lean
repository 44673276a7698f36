import DiceBot.Proofs.Formula.Faults

/-!
# Mending a formula

Bad parts of a formula may be replaced by good ones, some of them or all. The text
that comes out is cut where the parts meet, and it is refused for the bad parts that
are left. When there are none, each piece gives its own term, as it did before.
-/

namespace DiceBot

/-- A part of a formula, and the text in its place if it is replaced. -/
structure Mend where
  part : Text
  replacement : Option Text
deriving DecidableEq, Repr

namespace Mend

variable {good : Text → Bool}

def result (m : Mend) : Text := m.replacement.getD m.part

def IsSound (good : Text → Bool) (m : Mend) : Prop :=
  ∀ t ∈ m.replacement, good m.part = false ∧ good t

instance (m : Mend) : Decidable (m.IsSound good) :=
  inferInstanceAs (Decidable (∀ t ∈ m.replacement, good m.part = false ∧ good t))

def left (good : Text → Bool) (ms : List Mend) : List Text :=
  (ms.filter fun m => m.replacement.isNone && !good m.part).map part

theorem filter_result {ms : List Mend} (h : ∀ m ∈ ms, m.IsSound good) :
    (ms.map result).filter (fun t => !good t) = left good ms := by
  induction ms with
  | nil => rfl
  | cons m ms ih =>
    have hm := h m (by simp)
    have hrest := ih fun x hx => h x (List.mem_cons_of_mem _ hx)
    obtain ⟨t, o⟩ := m
    rw [left] at hrest ⊢
    cases o with
    | none =>
      by_cases ht : good t
      · simp [result, ht, hrest]
      · simp [result, ht, hrest]
    | some u =>
      have hu : good u := (hm u rfl).2
      simp [result, hu, hrest]

theorem IsSound.of_result {P : Text → Prop} {m : Mend} (hm : m.IsSound good)
    (hgood : ∀ {t}, good t → P t) (hpart : P m.part) : P m.result := by
  obtain ⟨t, o⟩ := m
  cases o with
  | none => exact hpart
  | some u => exact hgood (hm u rfl).2

theorem sift_parts {ms : List Mend} {ts : List Term} (h : ∀ m ∈ ms, m.IsSound isTerm)
    (hts : List.Forall₂ (fun m t => Term.parse m.result = .ok t) ms ts) :
    (sift (ms.map part)).2 =
      ((ms.zip ts).filter fun x => x.1.replacement.isNone).map Prod.snd := by
  induction hts with
  | nil => rfl
  | @cons m t ms ts hmt _ ih =>
    have hrest := ih fun x hx => h x (List.mem_cons_of_mem _ hx)
    have hm := h m (by simp)
    obtain ⟨p, o⟩ := m
    cases o with
    | none =>
      have hp : Term.parse p = .ok t := hmt
      simp [sift, hp, hrest]
    | some u =>
      -- what was replaced had been bad, so it gave no term before
      have hbad : isTerm p = false := (hm u rfl).1
      cases hp : Term.parse p with
      | error e => simp [sift, hp, hrest]
      | ok v =>
        rw [isTerm_iff.2 ⟨v, hp⟩] at hbad
        cases hbad

end Mend

namespace Parts

variable {repeats : Mend} {pieces : List Mend}

def mended (repeats : Mend) (pieces : List Mend) : Parts where
  repeats := repeats.result
  pieces := pieces.map Mend.result

theorem text_mended :
    (mended repeats pieces).text = repeats.result ++ '#' :: pieces.flatMap Mend.result := by
  rw [text, mended, List.flatMap_def]

theorem isCut_mended {p : Parts} (hp : p.IsCut) (hr : repeats.part = p.repeats)
    (hps : pieces.map Mend.part = p.pieces) (hrepeats : repeats.IsSound isRepeats)
    (hpieces : ∀ m ∈ pieces, m.IsSound isTerm) : (mended repeats pieces).IsCut where
  repeats := by
    have hpart : CanBeRepeats repeats.part := hr ▸ hp.repeats
    exact hrepeats.of_result canBeRepeats_of_isRepeats hpart
  pieces_ne_nil := by
    have hne := hp.pieces_ne_nil
    rw [← hps] at hne
    simpa [mended] using hne
  pieces := by
    intro t ht
    obtain ⟨m, hm, rfl⟩ := List.mem_map.1 ht
    have hpart : m.part ∈ p.pieces := hps ▸ List.mem_map_of_mem hm
    exact (hpieces m hm).of_result canBePiece_of_isTerm (hp.pieces _ hpart)

theorem faults_mended (hrepeats : repeats.IsSound isRepeats)
    (hpieces : ∀ m ∈ pieces, m.IsSound isTerm) :
    (mended repeats pieces).faults = Mend.left isRepeats [repeats] ++ Mend.left isTerm pieces := by
  have hone : ∀ m ∈ [repeats], m.IsSound isRepeats := by simpa using hrepeats
  rw [faults, mended, Mend.filter_result hpieces]
  exact congrArg (· ++ _) (Mend.filter_result hone)

end Parts

/-- A formula is refused exactly if its repeats or a piece is bad on its own, and for all of these.
When some of them are replaced by good ones, the others are still at fault, in the same order, and
the formula is accepted exactly if there are none; then each piece gives its own term, and those
that were not replaced give the terms that were read before. -/
theorem Formula.faults_and_mending (raw : Text) :
    let r := (Pieces.splitRepeats (Text.squeezed raw)).1
    let ps := Pieces.ofCommand (Pieces.signed (Pieces.splitRepeats (Text.squeezed raw)).2)
    ((∃ e, parse raw = .error e) ↔ isRepeats r = false ∨ ∃ p ∈ ps, isTerm p = false) ∧
    (∀ e, parse raw = .error e →
      e.pieces = [r].filter (fun t => !isRepeats t) ++ ps.filter fun t => !isTerm t) ∧
    ∀ (repeats : Mend) (pieces : List Mend), repeats.part = r → pieces.map Mend.part = ps →
      repeats.IsSound isRepeats → (∀ m ∈ pieces, m.IsSound isTerm) →
        let text := repeats.result ++ '#' :: pieces.flatMap Mend.result
        let left := Mend.left isRepeats [repeats] ++ Mend.left isTerm pieces
        ((∃ f, parse text = .ok f) ↔ left = []) ∧
        (∀ e, parse text = .error e → e.pieces = left) ∧
        ∀ f, parse text = .ok f → readRepeats repeats.result = .ok f.repeats ∧
          List.Forall₂ (fun m t => Term.parse m.result = .ok t) pieces f.terms ∧
          (sift ps).2 =
            ((pieces.zip f.terms).filter fun x => x.1.replacement.isNone).map Prod.snd := by
  intro r ps
  have hparts : parts raw = ⟨r, ps⟩ := rfl
  refine ⟨?_, fun e he => ?_, fun repeats pieces hr hps hrepeats hpieces => ?_⟩
  · rw [exists_parse_eq_error_iff, hparts, ne_eq, Parts.faults_eq_nil_iff]
    simp [Classical.or_iff_not_imp_left]
  · rw [(parse_eq_error_iff.1 he).1]
    rfl
  · intro text left
    have hcut := Parts.isCut_mended (isCut_parts raw) hr hps hrepeats hpieces
    have htext : parts text = Parts.mended repeats pieces := by
      rw [← parts_text hcut, Parts.text_mended]
    have hleft : (parts text).faults = left := by
      rw [htext, Parts.faults_mended hrepeats hpieces]
    refine ⟨by rw [exists_parse_eq_ok_iff, hleft], fun e he => ?_, fun f hf => ?_⟩
    · rw [(parse_eq_error_iff.1 he).1, ← hleft]
    · have hread := (parse_eq_ok_iff_parts.1 hf).2
      rw [htext, Parts.mended, Parts.mk.injEq] at hread
      have hterms : List.Forall₂ (fun m t => Term.parse m.result = .ok t) pieces f.terms :=
        List.forall₂_map_left_iff.1 (forall₂_parse_iff.2 hread.2)
      refine ⟨readRepeats_eq_ok_iff.2 hread.1, hterms, ?_⟩
      rw [← hps]
      exact Mend.sift_parts hpieces hterms

theorem Formula.faults_and_mending_garbled :
    let raw := "+x #3d6 +07-a#-5".toList
    let repeats : Mend := ⟨"+x".toList, some "12".toList⟩
    let few : List Mend := [⟨"+3d6".toList, none⟩, ⟨"+07".toList, some "+2d8l1".toList⟩,
      ⟨"-a#".toList, none⟩, ⟨"-5".toList, none⟩]
    let all : List Mend := [⟨"+3d6".toList, none⟩, ⟨"+07".toList, some "+2d8l1".toList⟩,
      ⟨"-a#".toList, some "+4".toList⟩, ⟨"-5".toList, none⟩]
    parse raw = .error ⟨Text.squeezed raw, ["+x".toList, "+07".toList, "-a#".toList]⟩ ∧
      repeats.IsSound isRepeats ∧ (∀ m ∈ few, m.IsSound isTerm) ∧ (∀ m ∈ all, m.IsSound isTerm) ∧
      (∃ e, parse "12#+3d6+2d8l1-a#-5".toList = .error e ∧ e.pieces = ["-a#".toList]) ∧
      ∃ f, parse "12#+3d6+2d8l1+4-5".toList = .ok f ∧
        List.Forall₂ (fun m t => Term.parse m.result = .ok t) all f.terms := by
  intro raw repeats few all
  have hraw : parse raw =
      .error ⟨Text.squeezed raw, ["+x".toList, "+07".toList, "-a#".toList]⟩ := by decide
  have hrepeats : repeats.IsSound isRepeats := by decide
  have hsome : ∀ m ∈ few, m.IsSound isTerm := by decide
  have hall : ∀ m ∈ all, m.IsSound isTerm := by decide
  obtain ⟨hok, herror, -⟩ :=
    (faults_and_mending raw).2.2 repeats few (by decide) (by decide) hrepeats hsome
  obtain ⟨hok', -, hterms⟩ :=
    (faults_and_mending raw).2.2 repeats all (by decide) (by decide) hrepeats hall
  refine ⟨hraw, hrepeats, hsome, hall, ?_, ?_⟩
  · cases h : parse "12#+3d6+2d8l1-a#-5".toList with
    | ok f => exact absurd (hok.1 ⟨f, h⟩) (by decide)
    | error e => exact ⟨e, rfl, herror e h⟩
  · obtain ⟨f, hf⟩ := hok'.2 (by decide)
    exact ⟨f, hf, (hterms f hf).2.1⟩

end DiceBot
