import Mathlib.Data.List.Permutation
import DiceBot.Proofs.Report.Legible
import DiceBot.Responder

/-!
# Rolling a report again

A report shows faces behind every equality sign, and no others. Scripted in the
order in which they are read, they give each term its own faces again, sorted, and
a sorted roll is reported like any other with these faces.
-/

namespace DiceBot

def isFaceChar (c : Char) : Bool := c.isDigit || c = ','

def facesAtFront (t : Text) : List Nat :=
  ((t.takeWhile isFaceChar).splitOn ',').map Decimal.value

def shownFaces : Text → List Nat
  | [] => []
  | c :: t => if c = '=' then facesAtFront t ++ shownFaces t else shownFaces t

theorem shownFaces_append_of_notMem {s : Text} (h : '=' ∉ s) (t : Text) :
    shownFaces (s ++ t) = shownFaces t := by
  induction s with
  | nil => rfl
  | cons c s ih =>
    have hc : c ≠ '=' := fun he => h (he ▸ List.mem_cons_self)
    rw [List.cons_append, shownFaces, if_neg hc]
    exact ih fun hs => h (List.mem_cons_of_mem _ hs)

def EndsFaces (t : Text) : Prop := ∀ c ∈ t.head?, isFaceChar c = false

theorem endsFaces_cons {c : Char} {t : Text} : EndsFaces (c :: t) ↔ isFaceChar c = false := by
  simp [EndsFaces]

theorem isFaceChar_of_mem_join {faces : List Nat} {c : Char}
    (h : c ∈ [','].intercalate (faces.map Decimal.ofNat)) : isFaceChar c := by
  have hall : (',' :: Decimal.digitChars).all isFaceChar := by decide
  exact List.all_eq_true.1 hall c (intercalate_map_ofNat_subset faces h)

theorem facesAtFront_join_append {faces : List Nat} (hne : faces ≠ []) {t : Text}
    (ht : EndsFaces t) :
    facesAtFront ([','].intercalate (faces.map Decimal.ofNat) ++ t) = faces := by
  have hfront : ([','].intercalate (faces.map Decimal.ofNat) ++ t).takeWhile isFaceChar =
      [','].intercalate (faces.map Decimal.ofNat) :=
    (Text.takeWhile_eq_and_dropWhile_eq_iff.2
      ⟨rfl, fun _ hc => isFaceChar_of_mem_join hc, ht⟩).1
  have hcomma : ∀ x ∈ faces.map Decimal.ofNat, ',' ∉ x := by
    intro x hx hm
    obtain ⟨n, -, rfl⟩ := List.mem_map.1 hx
    exact absurd (Decimal.ofNat_subset n hm) (by decide)
  rw [facesAtFront, hfront, List.splitOn_intercalate ',' hcomma (by simpa using hne), List.map_map]
  exact List.map_id'' Decimal.value_ofNat faces

def Shows (t : Text) (faces : List Nat) : Prop :=
  ∀ rest, EndsFaces rest → shownFaces (t ++ rest) = faces ++ shownFaces rest

namespace Shows

variable {s t : Text} {faces more : List Nat}

theorem of_notMem (h : '=' ∉ t) : Shows t [] := fun rest _ => shownFaces_append_of_notMem h rest

theorem append_left (hs : '=' ∉ s) (ht : Shows t faces) : Shows (s ++ t) faces := by
  intro rest hrest
  rw [List.append_assoc, shownFaces_append_of_notMem hs]
  exact ht rest hrest

theorem append_cons {c : Char} (hs : Shows s faces) (hc : isFaceChar c = false)
    (ht : Shows (c :: t) more) : Shows (s ++ c :: t) (faces ++ more) := by
  intro rest hrest
  have hmark : EndsFaces (c :: t ++ rest) := endsFaces_cons.2 hc
  rw [List.append_assoc, hs _ hmark, ht rest hrest, List.append_assoc]

theorem intercalate {c : Char} {sep : Text} (hc : isFaceChar c = false) (hsep : '=' ∉ c :: sep)
    {ts : List Text} {shown : List (List Nat)} (h : List.Forall₂ Shows ts shown) :
    Shows ((c :: sep).intercalate ts) shown.flatten := by
  induction h with
  | nil => exact of_notMem List.not_mem_nil
  | @cons t faces ts shown ht hts ih =>
    rw [List.flatten_cons]
    by_cases hnil : ts = []
    · subst hnil
      obtain rfl : shown = [] := List.forall₂_nil_left_iff.1 hts
      simpa using ht
    · rw [List.intercalate_cons_of_ne_nil hnil, List.append_assoc]
      exact ht.append_cons hc (append_left hsep ih)

end Shows

theorem Term.shows_of_shown_eq_some {t : Term} {faces : List Nat}
    (hlen : faces.length = t.demand.length) {trace : Text} (h : t.shown faces = some trace) :
    Shows trace faces.mergeSort := by
  obtain ⟨s, a⟩ := t
  cases a with
  | flat v => cases h
  | dice d =>
    cases h
    have hne : faces.mergeSort ≠ [] := by
      apply List.ne_nil_of_length_pos
      rw [List.length_mergeSort, hlen]
      simpa [demand] using d.count.pos
    have hexpr : '=' ∉ d.expression := fun hm => absurd (d.expression_subset hm) (by decide)
    have hjoin : '=' ∉ [','].intercalate (faces.mergeSort.map Decimal.ofNat) := fun hm =>
      absurd (intercalate_map_ofNat_subset _ hm) (by decide)
    refine Shows.append_left hexpr fun rest hrest => ?_
    rw [List.cons_append, shownFaces, if_pos rfl, facesAtFront_join_append hne hrest,
      shownFaces_append_of_notMem hjoin]

theorem Term.demand_eq_nil_of_shown_eq_none {t : Term} {faces : List Nat}
    (h : t.shown faces = none) : t.demand = [] := by
  obtain ⟨s, a⟩ := t
  cases a with
  | flat v => rfl
  | dice d => cases h

def sortedHand (hand : List (Term × List Nat)) : List (Term × List Nat) :=
  hand.map fun h => (h.1, h.2.mergeSort)

theorem Pass.shows_render {p : Pass} {shown : List (List Nat)}
    (h : List.Forall₂ Shows p.traces shown) : Shows p.render shown.flatten := by
  obtain ⟨total, traces⟩ := p
  have hclose : Shows [']'] [] := Shows.of_notMem (by decide)
  have htotal : '=' ∉ '[' :: Decimal.ofInt total := by
    refine List.not_mem_cons_of_ne_of_not_mem (by decide) fun hm => ?_
    exact absurd (Decimal.ofInt_subset total hm) (by decide)
  have hbody : Shows (body ⟨total, traces⟩) shown.flatten := by
    cases h with
    | nil => exact Shows.of_notMem htotal
    | cons ht hts =>
      have hjoin := Shows.intercalate (by decide) (by decide : '=' ∉ [';', ' ']) (.cons ht hts)
      exact Shows.append_left htotal (Shows.append_left (by decide : '=' ∉ [' ']) hjoin)
  rw [render_eq_body]
  have hrender := hbody.append_cons (by decide) hclose
  rwa [List.append_nil] at hrender

theorem Pass.exists_shows_traces_ofHand {hand : List (Term × List Nat)}
    (hlen : ∀ h ∈ hand, h.2.length = h.1.demand.length) :
    ∃ shown, List.Forall₂ Shows (ofHand hand).traces shown ∧
      shown.flatten = (sortedHand hand).flatMap Prod.snd := by
  induction hand with
  | nil => exact ⟨[], .nil, rfl⟩
  | cons x hand ih =>
    obtain ⟨shown, hshown, hflat⟩ := ih fun h hh => hlen h (List.mem_cons_of_mem _ hh)
    have hx := hlen x (by simp)
    have hsorted : (sortedHand (x :: hand)).flatMap Prod.snd = x.2.mergeSort ++ shown.flatten := by
      rw [hflat]
      rfl
    rw [hsorted]
    simp only [ofHand, List.filterMap_cons]
    cases ht : x.1.shown x.2 with
    | some trace =>
      exact ⟨x.2.mergeSort :: shown, .cons (Term.shows_of_shown_eq_some hx ht) hshown, rfl⟩
    | none =>
      refine ⟨shown, hshown, ?_⟩
      rw [Term.demand_eq_nil_of_shown_eq_none ht] at hx
      rw [List.length_eq_zero_iff.1 hx, List.mergeSort_nil, List.nil_append]

namespace Formula

variable {f : Formula} {faces : List Nat}

def sortedFaces (f : Formula) (faces : List Nat) : List Nat :=
  (f.hands faces).flatMap fun hand => (sortedHand hand).flatMap Prod.snd

theorem shownFaces_render (hf : Spells f.repeats f.terms f.text)
    (hlen : faces.length = f.demand.length) :
    shownFaces (f.report faces).render = f.sortedFaces faces := by
  have hpasses : ∀ {hands : List (List (Term × List Nat))},
      (∀ hand ∈ hands, ∀ h ∈ hand, h.2.length = h.1.demand.length) →
      List.Forall₂ Shows ((hands.map Pass.ofHand).map Pass.render)
        (hands.map fun hand => (sortedHand hand).flatMap Prod.snd) := by
    intro hands hhands
    rw [List.map_map, List.forall₂_map_left_iff, List.forall₂_map_right_iff, List.forall₂_same]
    intro hand hhand
    obtain ⟨shown, hshown, hflat⟩ := Pass.exists_shows_traces_ofHand (hhands hand hhand)
    rw [← hflat]
    exact Pass.shows_render hshown
  have htitle : '=' ∉ f.text ++ [':', ' '] := by
    refine List.not_mem_append (fun hm => ?_) (by decide)
    exact absurd (hf.subset hm) (by decide)
  have hjoin := Shows.intercalate (by decide) (by decide : '=' ∉ [' '])
    (hpasses fun hand hhand => ((f.hands_spec hlen).2.1 hand hhand).2)
  have hrender := Shows.append_left htitle hjoin [] (by simp [EndsFaces])
  rw [List.append_nil, List.append_assoc] at hrender
  rw [Report.render, sortedFaces]
  exact hrender.trans (List.append_nil _)

theorem hands_flatMap_snd {hs : List (List (Term × List Nat))}
    (hterms : hs.map (List.map Prod.fst) = List.replicate f.repeats.value f.terms)
    (hlen : ∀ hand ∈ hs, ∀ h ∈ hand, h.2.length = h.1.demand.length) :
    f.hands (hs.flatMap fun hand => hand.flatMap Prod.snd) = hs := by
  -- the passes are dealt first, and in each of them the terms
  let joined : List (Term × List Nat) → List Term × List Nat := fun hand =>
    (hand.map Prod.fst, hand.flatMap Prod.snd)
  have hfst : (hs.map joined).map Prod.fst = List.replicate f.repeats.value f.terms := by
    rw [List.map_map, ← hterms]
    rfl
  have hsnd : (hs.map joined).flatMap Prod.snd = hs.flatMap fun hand => hand.flatMap Prod.snd :=
    List.flatMap_map ..
  have hjoined : ∀ x ∈ hs.map joined, x.2.length = (x.1.flatMap Term.demand).length := by
    intro x hx
    obtain ⟨hand, hhand, rfl⟩ := List.mem_map.1 hx
    rw [List.flatMap_map, List.length_flatMap, List.length_flatMap]
    exact congrArg List.sum (List.map_congr_left (hlen hand hhand))
  rw [hands, ← hfst, ← hsnd, deal_flatMap_snd hjoined, List.map_map]
  calc hs.map ((fun h => deal Term.demand h.1 h.2) ∘ joined)
      = hs.map id := List.map_congr_left fun hand hhand => deal_flatMap_snd (hlen hand hhand)
    _ = hs := List.map_id hs

end Formula

theorem sameHand_sortedHand (hand : List (Term × List Nat)) : SameHand (sortedHand hand) hand := by
  rw [SameHand, sortedHand, List.forall₂_map_left_iff, List.forall₂_same]
  exact fun h _ => ⟨rfl, List.mergeSort_perm h.2 _⟩

theorem SameHand.map_fst_eq {hand hand' : List (Term × List Nat)} (h : SameHand hand hand') :
    hand.map Prod.fst = hand'.map Prod.fst := by
  rw [← List.forall₂_eq_eq_eq, List.forall₂_map_left_iff, List.forall₂_map_right_iff]
  exact h.imp fun _ _ hx => hx.1

namespace Formula

variable {f : Formula} {faces : List Nat}

theorem hands_sortedFaces (hlen : faces.length = f.demand.length) :
    f.hands (f.sortedFaces faces) = (f.hands faces).map sortedHand := by
  have hterms : ((f.hands faces).map sortedHand).map (List.map Prod.fst) =
      List.replicate f.repeats.value f.terms := by
    rw [← f.map_fst_hands faces, List.map_map]
    exact List.map_congr_left fun hand _ => (sameHand_sortedHand hand).map_fst_eq
  have hdealt := (f.hands_spec hlen).2.1
  rw [sortedFaces, ← List.flatMap_map, hands_flatMap_snd hterms]
  intro sorted hsorted x hx
  obtain ⟨hand, hhand, rfl⟩ := List.mem_map.1 hsorted
  obtain ⟨h, hh, rfl⟩ := List.mem_map.1 hx
  rw [List.length_mergeSort]
  exact (hdealt hand hhand).2 h hh

theorem report_sortedFaces (hlen : faces.length = f.demand.length) :
    f.report (f.sortedFaces faces) = f.report faces := by
  rw [report, report, hands_sortedFaces hlen, List.map_map]
  exact congrArg (Report.mk f.text) (List.map_congr_left fun hand _ =>
    Pass.ofHand_eq_of_sameHand (sameHand_sortedHand hand))

end Formula

open DieSource (FaceOf)

theorem forall₂_replicate_iff {R : Nat → Nat → Prop} {faces : List Nat} {count sides : Nat} :
    List.Forall₂ R faces (List.replicate count sides) ↔
      faces.length = count ∧ ∀ face ∈ faces, R face sides := by
  induction faces generalizing count with
  | nil => cases count <;> simp [List.replicate_succ]
  | cons face faces ih =>
    cases count with
    | zero => simp
    | succ count => simp [List.replicate_succ, ih, and_left_comm]

theorem Term.forall₂_demand_of_perm {R : Nat → Nat → Prop} {t : Term} {faces faces' : List Nat}
    (hperm : faces.Perm faces') (h : List.Forall₂ R faces t.demand) :
    List.Forall₂ R faces' t.demand := by
  obtain ⟨s, a⟩ := t
  cases a with
  | flat v =>
    obtain rfl : faces = [] := List.forall₂_nil_right_iff.1 h
    rw [List.nil_perm.1 hperm]
    exact .nil
  | dice d =>
    obtain ⟨hlen, hall⟩ := forall₂_replicate_iff.1 h
    exact forall₂_replicate_iff.2
      ⟨hperm.length_eq ▸ hlen, fun face hface => hall face (hperm.mem_iff.2 hface)⟩

theorem forall₂_flatMap {ι : Type} {R : Nat → Nat → Prop} {g k : ι → List Nat} {xs : List ι}
    (h : ∀ x ∈ xs, List.Forall₂ R (g x) (k x)) : List.Forall₂ R (xs.flatMap g) (xs.flatMap k) := by
  rw [List.flatMap_def, List.flatMap_def]
  apply List.rel_flatten
  rw [List.forall₂_map_left_iff, List.forall₂_map_right_iff, List.forall₂_same]
  exact h

theorem Formula.demand_eq_flatMap_hands (f : Formula) (faces : List Nat) :
    f.demand = (f.hands faces).flatMap fun hand => hand.flatMap fun h => h.1.demand := by
  rw [demand_eq_flatMap, ← map_fst_hands f faces, List.flatMap_map]
  simp only [List.flatMap_map]

theorem Formula.forall₂_faceOf_of_mem_hands {f : Formula} {faces : List Nat}
    (h : List.Forall₂ FaceOf faces f.demand) {hand : List (Term × List Nat)}
    (hhand : hand ∈ f.hands faces) {x : Term × List Nat} (hx : x ∈ hand) :
    List.Forall₂ FaceOf x.2 x.1.demand := by
  obtain ⟨p, hp, rfl⟩ := List.mem_map.1 hhand
  rw [demand_eq_flatMap] at h
  exact forall₂_snd_of_mem_deal (forall₂_snd_of_mem_deal h hp) hx

theorem Formula.forall₂_faceOf_sortedFaces {f : Formula} {faces : List Nat}
    (h : List.Forall₂ FaceOf faces f.demand) :
    List.Forall₂ FaceOf (f.sortedFaces faces) f.demand := by
  rw [f.demand_eq_flatMap_hands faces, sortedFaces]
  refine forall₂_flatMap fun hand hhand => ?_
  rw [sortedHand, List.flatMap_map]
  refine forall₂_flatMap fun x hx => ?_
  exact Term.forall₂_demand_of_perm (List.mergeSort_perm _ _).symm
    (forall₂_faceOf_of_mem_hands h hhand hx)

theorem Formula.run_roll_scripted {f : Formula} {faces : List Nat}
    (h : List.Forall₂ FaceOf faces f.demand) :
    let o := (f.roll : Play ScriptedFaces Report).run ⟨faces.map Int.ofNat⟩
    o.result = .ok (f.report faces) ∧ o.source = ⟨[]⟩ := by
  intro o
  have ho : o = Play.followed f.demand f.report ⟨faces.map Int.ofNat⟩ := f.follows_roll _
  rw [ho, Play.followed, DieSource.answer_scripted h, if_pos h.length_eq]
  exact ⟨rfl, rfl⟩

namespace Responder

variable {σ : Type} [DieSource σ] {raw : Text} {f : Formula} {s : σ} {r : Report}

theorem roll_of_parse (hf : Formula.parse raw = .ok f) :
    (roll raw : Play σ (Except Rejection Report)) = Except.ok <$> f.roll := by
  rw [roll, hf]
  exact bind_pure_comp _ _

theorem run_reply {service : Responder} (hf : Formula.parse raw = .ok f)
    (hhelp : service.isHelp raw = false) (hr : (f.roll.run s).result = .ok r) :
    ((service.reply raw).run s).result = .ok r.render ∧
      ((service.reply raw).run s).source = (f.roll.run s).source := by
  rw [reply, answer, hhelp, roll_of_parse hf]
  simp [Play.run_map, Play.run_bind, Play.andThen, hr, Play.log, Play.tell, Except.map]

theorem isHelp_default (hf : Formula.parse raw = .ok f) :
    isHelp ⟨defaultHelpTrigger⟩ raw = false := by
  obtain ⟨htext, hs⟩ := Formula.parse_eq_ok_iff.1 hf
  by_contra hhelp
  have htrigger : Text.squeezed raw = defaultHelpTrigger := by simpa [isHelp] using hhelp
  have he : 'e' ∈ f.text := by rw [htext, htrigger]; decide
  exact absurd (hs.subset he) (by decide)

end Responder

/-- Rolls with equal reports are rolls of the same formula, and in each of them every term of every
pass has the same faces up to their order. When the source was lawful, a responder that throws the
faces shown in a report has exactly as many as it needs, and answers with the same report. -/
theorem Report.legible_and_replayable {σ τ : Type} [DieSource σ] [DieSource τ]
    {raw raw' : Text} {f f' : Formula} {s : σ} {s' : τ} {r r' : Report}
    (hf : Formula.parse raw = .ok f) (hf' : Formula.parse raw' = .ok f')
    (hr : (f.roll.run s).result = .ok r) (hr' : (f'.roll.run s').result = .ok r') :
    let faces := (f.roll.run s).journal.draws.map Draw.face
    let faces' := (f'.roll.run s').journal.draws.map Draw.face
    let script : ScriptedFaces := ⟨(shownFaces r.render).map Int.ofNat⟩
    (r.render = r'.render →
      f.text = f'.text ∧ f.repeats = f'.repeats ∧ f.terms = f'.terms ∧ r.totals = r'.totals ∧
        List.Forall₂ SameHand (f.hands faces) (f'.hands faces')) ∧
    Responder.isHelp ⟨defaultHelpTrigger⟩ raw = false ∧
    ∀ [LawfulDieSource σ] (service : Responder), service.isHelp raw = false →
      ((service.reply raw).run script).result = .ok r.render ∧
        ((service.reply raw).run script).source = ⟨[]⟩ := by
  intro faces faces' script
  obtain ⟨-, hs⟩ := Formula.parse_eq_ok_iff.1 hf
  obtain ⟨-, hs'⟩ := Formula.parse_eq_ok_iff.1 hf'
  have hrun := f.follows_roll.eq_of_result_eq_ok hr
  have hrun' := f'.follows_roll.eq_of_result_eq_ok hr'
  have hlen : faces.length = f.demand.length := hrun.2.1
  have hlen' : faces'.length = f'.demand.length := hrun'.2.1
  obtain rfl : r = f.report faces := hrun.2.2
  obtain rfl : r' = f'.report faces' := hrun'.2.2
  refine ⟨fun hrender => ?_, Responder.isHelp_default hf,
    fun [LawfulDieSource σ] service hhelp => ?_⟩
  · obtain rfl : f = f' := Formula.eq_of_render_eq hs hs' hrender
    have hsame := Formula.report_eq_of_render_eq hs hrender
    exact ⟨rfl, rfl, rfl, congrArg Report.totals hsame,
      Formula.sameHand_of_report_eq hlen hlen' hsame⟩
  · have hfaces : List.Forall₂ FaceOf faces f.demand := by
      have hanswer : faces = (DieSource.answer s f.demand).1 := hrun.1
      rw [hanswer] at hlen ⊢
      exact DieSource.forall₂_faceOf_answer (fun _ => Formula.pos_of_mem_demand) hlen
    have hscript : script = ⟨(f.sortedFaces faces).map Int.ofNat⟩ := by
      rw [← Formula.shownFaces_render hs hlen]
    obtain ⟨hresult, hsource⟩ :=
      Formula.run_roll_scripted (Formula.forall₂_faceOf_sortedFaces hfaces)
    rw [Formula.report_sortedFaces hlen] at hresult
    rw [hscript, ← hsource]
    exact Responder.run_reply hf hhelp hresult

theorem Report.legible_and_replayable_two_dice :
    let f : Formula := ⟨"2#2d6+1".toList, ⟨2, by decide, by decide⟩,
      [⟨.plus, .dice ⟨⟨2, by decide, by decide⟩, ⟨6, by decide, by decide⟩, none⟩⟩,
        ⟨.plus, .flat ⟨1, by decide, by decide⟩⟩], by decide⟩
    let text := "2#2d6+1: [5 2d6=1,3] [11 2d6=5,5]".toList
    let script : ScriptedFaces := ⟨[1, 3, 5, 5]⟩
    shownFaces text = [1, 3, 5, 5] ∧
      List.Forall₂ SameHand (f.hands [3, 1, 5, 5]) (f.hands [1, 3, 5, 5]) ∧
      ((Responder.reply ⟨defaultHelpTrigger⟩ " 2#2d6 +1".toList).run script).result = .ok text ∧
      ((Responder.reply ⟨defaultHelpTrigger⟩ " 2#2d6 +1".toList).run script).source = ⟨[]⟩ := by
  intro f text script
  let r : Report := ⟨"2#2d6+1".toList, [⟨5, ["2d6=1,3".toList]⟩, ⟨11, ["2d6=5,5".toList]⟩]⟩
  have hf : Formula.parse " 2#2d6 +1".toList = .ok f := by decide
  have hf' : Formula.parse "2#2d6+1".toList = .ok f := by decide
  have hr : (f.roll.run (⟨[3, 1, 5, 5]⟩ : ScriptedFaces)).result = .ok r := by cbv
  have hr' : (f.roll.run script).result = .ok r := by cbv
  have htext : r.render = text := by decide
  obtain ⟨hsame, hhelp, hreply⟩ := Report.legible_and_replayable hf hf' hr hr'
  have hshown : shownFaces text = [1, 3, 5, 5] := by decide
  have hfaces : (f.roll.run (⟨[3, 1, 5, 5]⟩ : ScriptedFaces)).journal.draws.map Draw.face =
      [3, 1, 5, 5] := by cbv
  have hfaces' : (f.roll.run script).journal.draws.map Draw.face = [1, 3, 5, 5] := by cbv
  rw [hfaces, hfaces'] at hsame
  rw [htext, hshown] at hreply
  exact ⟨hshown, (hsame rfl).2.2.2.2, hreply ⟨defaultHelpTrigger⟩ hhelp⟩

end DiceBot
