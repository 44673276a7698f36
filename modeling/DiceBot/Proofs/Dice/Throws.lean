import Mathlib.Data.List.Forall2
import DiceBot.Dice.Play

/-!
# Plays that throw given dice

What a source shows for dice that are thrown one after another depends on the
dice alone, up to the first throw that it fails. A play follows a list of dice when
it throws these and no others, and makes its result of their faces. Plays in
sequence, and a play for each item of a list, follow the dice of their parts, each
part with its own faces.
-/

namespace DiceBot

namespace DieSource

variable {σ : Type} [DieSource σ]

/-- The faces of dice thrown one after another, as far as the source shows them, and the source
afterwards. -/
def answer : σ → List Nat → List Nat × σ
  | s, [] => ([], s)
  | s, n :: ns =>
    match throw? s n with
    | (none, s') => ([], s')
    | (some face, s') => (face :: (answer s' ns).1, (answer s' ns).2)

/-- The source shows all these dice, but fails the next one, which leaves it in the last state. -/
def FailsAfter (s : σ) (dice : List Nat) (n : Nat) (s' : σ) : Prop :=
  (answer s dice).1.length = dice.length ∧ throw? (answer s dice).2 n = (none, s')

theorem length_answer_le (s : σ) (ns : List Nat) : (answer s ns).1.length ≤ ns.length := by
  induction ns generalizing s with
  | nil => exact Nat.le_refl _
  | cons n ns ih =>
    rw [answer]
    split
    · exact Nat.zero_le _
    · exact Nat.succ_le_succ (ih _)

theorem failsAfter_of_length_lt {s : σ} {ns : List Nat} (h : (answer s ns).1.length < ns.length) :
    ∃ n, ns[(answer s ns).1.length]? = some n ∧
      FailsAfter s (ns.take (answer s ns).1.length) n (answer s ns).2 := by
  induction ns generalizing s with
  | nil => exact absurd h (Nat.not_lt_zero _)
  | cons n ns ih =>
    match hthrow : throw? s n with
    | (none, s') =>
      rw [answer, hthrow]
      exact ⟨n, rfl, rfl, hthrow⟩
    | (some face, s') =>
      rw [answer, hthrow] at h ⊢
      obtain ⟨m, hm, hfull, hfails⟩ := ih (Nat.lt_of_succ_lt_succ h)
      refine ⟨m, hm, ?_⟩
      rw [List.length_cons, List.take_succ_cons, FailsAfter, answer, hthrow]
      exact ⟨congrArg (· + 1) hfull, hfails⟩

theorem answer_append (s : σ) (ns ms : List Nat) :
    answer s (ns ++ ms) =
      if (answer s ns).1.length = ns.length then
        ((answer s ns).1 ++ (answer (answer s ns).2 ms).1, (answer (answer s ns).2 ms).2)
      else answer s ns := by
  induction ns generalizing s with
  | nil => rfl
  | cons n ns ih =>
    rw [List.cons_append, answer, answer]
    match throw? s n with
    | (none, s') => simp
    | (some face, s') =>
      simp only [ih s', List.length_cons, Nat.add_right_cancel_iff]
      split <;> rfl

def FaceOf (face sides : Nat) : Prop := 1 ≤ face ∧ face ≤ sides

theorem forall₂_faceOf_answer [LawfulDieSource σ] {s : σ} {ns : List Nat} (hpos : ∀ n ∈ ns, 0 < n)
    (hfull : (answer s ns).1.length = ns.length) : List.Forall₂ FaceOf (answer s ns).1 ns := by
  induction ns generalizing s with
  | nil => exact .nil
  | cons n ns ih =>
    match hthrow : throw? s n with
    | (none, s') =>
      rw [answer, hthrow] at hfull
      cases hfull
    | (some face, s') =>
      rw [answer, hthrow] at hfull ⊢
      exact .cons (LawfulDieSource.face_mem (hpos n (by simp)) (congrArg Prod.fst hthrow))
        (ih (fun m hm => hpos m (List.mem_cons_of_mem _ hm)) (Nat.succ.inj hfull))

theorem answer_scripted {faces ns : List Nat} (h : List.Forall₂ FaceOf faces ns) :
    answer (⟨faces.map Int.ofNat⟩ : ScriptedFaces) ns = (faces, ⟨[]⟩) := by
  induction h with
  | nil => rfl
  | @cons face n faces ns hface _ ih =>
    obtain ⟨hone, hle⟩ := hface
    have hmod : ((face : Int) - 1) % n = face - 1 := Int.emod_eq_of_lt (by omega) (by omega)
    have hthrow : throw? (⟨(face :: faces).map Int.ofNat⟩ : ScriptedFaces) n =
        (some face, ⟨faces.map Int.ofNat⟩) := by
      change (some (1 + (((face : Int) - 1) % n).toNat), _) = _
      rw [hmod, show 1 + ((face : Int) - 1).toNat = face by omega]
    rw [answer, hthrow]
    dsimp only
    rw [ih]

/-- What the source shows for dice thrown one after another, none for a throw that it fails, and the
source afterwards. -/
def shown : σ → List Nat → List (Option Nat) × σ
  | s, [] => ([], s)
  | s, n :: ns =>
    ((throw? s n).1 :: (shown (throw? s n).2 ns).1, (shown (throw? s n).2 ns).2)

theorem shown_append (s : σ) (ns ms : List Nat) :
    shown s (ns ++ ms) =
      ((shown s ns).1 ++ (shown (shown s ns).2 ms).1, (shown (shown s ns).2 ms).2) := by
  induction ns generalizing s with
  | nil => rfl
  | cons n ns ih => rw [List.cons_append, shown, shown, ih, List.cons_append]

theorem shown_of_full {s : σ} {ns : List Nat} (h : (answer s ns).1.length = ns.length) :
    shown s ns = ((answer s ns).1.map some, (answer s ns).2) := by
  induction ns generalizing s with
  | nil => rfl
  | cons n ns ih =>
    rw [shown, answer] at *
    match hthrow : throw? s n with
    | (none, s') =>
      rw [hthrow] at h
      cases h
    | (some face, s') =>
      rw [hthrow] at h
      rw [ih (Nat.succ.inj h), List.map_cons]

theorem FailsAfter.shown {s s' : σ} {dice : List Nat} {n : Nat} (h : FailsAfter s dice n s') :
    DieSource.shown s (dice ++ [n]) = ((answer s dice).1.map some ++ [none], s') := by
  rw [shown_append, shown_of_full h.1, DieSource.shown, DieSource.shown, h.2]

theorem fst_answer_take (s : σ) (ns : List Nat) :
    (answer s (ns.take (answer s ns).1.length)).1 = (answer s ns).1 := by
  induction ns generalizing s with
  | nil => rfl
  | cons n ns ih =>
    rw [answer]
    match hthrow : throw? s n with
    | (none, s') => rfl
    | (some face, s') =>
      rw [List.length_cons, List.take_succ_cons, answer, hthrow]
      exact congrArg (face :: ·) (ih s')

end DieSource

/-- The throws of a play that asks for these dice: its draws, and the throw where it has failed. -/
def Outcome.throws {σ α : Type} (asked : List Nat) (o : Outcome σ α) : List (Nat × Option Nat) :=
  o.journal.draws.map (fun d => (d.sides, some d.face)) ++
    match o.result with
    | .ok _ => []
    | .error _ => asked[o.journal.draws.length]?.toList.map fun n => (n, none)

section Throws

variable {σ α : Type} {o : Outcome σ α} {asked : List Nat}

theorem Outcome.throws_of_result_eq_ok {a : α} (h : o.result = .ok a) :
    o.throws asked = o.journal.draws.map fun d => (d.sides, some d.face) := by
  rw [throws, h, List.append_nil]

theorem Outcome.throws_of_result_eq_error {e : Exhausted} {n : Nat} (h : o.result = .error e)
    (hn : asked[o.journal.draws.length]? = some n) :
    o.throws asked = o.journal.draws.map (fun d => (d.sides, some d.face)) ++ [(n, none)] := by
  rw [throws, h, hn]
  rfl

end Throws

namespace Play

variable {σ α β ι : Type} [DieSource σ]

def drawn (asked faces : List Nat) : Journal :=
  List.zipWith (fun n face => Event.drew ⟨n, face⟩) asked faces

def followed (asked : List Nat) (result : List Nat → α) (s : σ) : Outcome σ α where
  result :=
    if (DieSource.answer s asked).1.length = asked.length then
      .ok (result (DieSource.answer s asked).1)
    else .error .noFaceLeft
  source := (DieSource.answer s asked).2
  journal := drawn asked (DieSource.answer s asked).1

/-- The play throws the dice that are asked for, and its result is made of their faces. -/
def Follows (p : Play σ α) (asked : List Nat) (result : List Nat → α) : Prop :=
  ∀ s, p.run s = followed asked result s

theorem drawn_append {asked faces : List Nat} (h : asked.length = faces.length)
    (more faces' : List Nat) :
    drawn (asked ++ more) (faces ++ faces') = drawn asked faces ++ drawn more faces' :=
  List.zipWith_append h

theorem drawn_append_of_length_le {asked faces : List Nat} (h : faces.length ≤ asked.length)
    (more : List Nat) : drawn (asked ++ more) faces = drawn asked faces := by
  induction asked generalizing faces with
  | nil =>
    obtain rfl : faces = [] := List.length_eq_zero_iff.1 (Nat.le_zero.1 h)
    simp [drawn]
  | cons n asked ih =>
    cases faces with
    | nil => rfl
    | cons face faces =>
      exact congrArg (Event.drew ⟨n, face⟩ :: ·) (ih (Nat.le_of_succ_le_succ h))

theorem follows_pure (a : α) : Follows (pure a : Play σ α) [] fun _ => a := fun _ => rfl

theorem follows_throwDie (n : Nat) :
    Follows (throwDie n : Play σ Nat) [n] fun faces => faces.headD 0 := by
  intro s
  match h : DieSource.throw? s n with
  | (none, s') | (some face, s') => simp [throwDie, followed, DieSource.answer, h, drawn]

variable {p : Play σ α} {asked more : List Nat} {result : List Nat → α}

theorem map_face_draws_drawn {faces : List Nat} (h : faces.length = asked.length) :
    (Journal.draws (drawn asked faces)).map Draw.face = faces := by
  induction asked generalizing faces with
  | nil => exact (List.length_eq_zero_iff.1 h).symm
  | cons n asked ih =>
    cases faces with
    | nil => cases h
    | cons face faces => exact congrArg (face :: ·) (ih (Nat.succ.inj h))

theorem Follows.eq_of_result_eq_ok {s : σ} {a : α} (hp : Follows p asked result)
    (h : (p.run s).result = .ok a) :
    let faces := (p.run s).journal.draws.map Draw.face
    faces = (DieSource.answer s asked).1 ∧ faces.length = asked.length ∧ a = result faces := by
  intro faces
  rw [hp s, followed] at h
  have hfull : (DieSource.answer s asked).1.length = asked.length := by
    by_contra hshort
    rw [if_neg hshort] at h
    cases h
  have hfaces : faces = (DieSource.answer s asked).1 := by
    change ((p.run s).journal.draws.map Draw.face) = _
    rw [hp s]
    exact map_face_draws_drawn hfull
  rw [if_pos hfull] at h
  cases h
  rw [hfaces]
  exact ⟨rfl, hfull, rfl⟩

theorem Follows.congr {result' : List Nat → α} (hp : Follows p asked result)
    (h : ∀ faces, faces.length = asked.length → result faces = result' faces) :
    Follows p asked result' := by
  intro s
  rw [hp s, followed, followed]
  by_cases hfull : (DieSource.answer s asked).1.length = asked.length
  · rw [h _ hfull]
  · simp only [hfull, ↓reduceIte]

theorem Follows.bind {f : α → Play σ β} {result' : α → List Nat → β}
    (hp : Follows p asked result) (hf : ∀ a, Follows (f a) more (result' a)) :
    Follows (p >>= f) (asked ++ more) fun faces =>
      result' (result (faces.take asked.length)) (faces.drop asked.length) := by
  intro s
  have hle := DieSource.length_answer_le s asked
  rw [run_bind, hp s, followed, followed, DieSource.answer_append]
  by_cases hfull : (DieSource.answer s asked).1.length = asked.length
  · simp [andThen, hfull, hf _ _, followed, drawn_append hfull.symm]
  · have hshort : (DieSource.answer s asked).1.length ≠ (asked ++ more).length := by
      rw [List.length_append]
      omega
    simp only [andThen, hfull, hshort, ↓reduceIte, drawn_append_of_length_le hle]

theorem Follows.map {f : α → β} (hp : Follows p asked result) :
    Follows (f <$> p) asked fun faces => f (result faces) := by
  intro s
  rw [run_map, hp s, followed, followed]
  dsimp only
  split <;> rfl

end Play

section Deal

variable {σ β ι : Type} [DieSource σ]

/-- Each item with its own faces, cut off the front one item after another. -/
def deal (asked : ι → List Nat) : List ι → List Nat → List (ι × List Nat)
  | [], _ => []
  | x :: xs, faces =>
    (x, faces.take (asked x).length) :: deal asked xs (faces.drop (asked x).length)

theorem map_fst_deal (asked : ι → List Nat) (xs : List ι) (faces : List Nat) :
    (deal asked xs faces).map Prod.fst = xs := by
  induction xs generalizing faces with
  | nil => rfl
  | cons x xs ih => rw [deal, List.map_cons, ih]

theorem length_snd_of_mem_deal {asked : ι → List Nat} {xs : List ι} {faces : List Nat}
    (hlen : faces.length = (xs.flatMap asked).length) {h : ι × List Nat}
    (hh : h ∈ deal asked xs faces) : h.2.length = (asked h.1).length := by
  induction xs generalizing faces with
  | nil => cases hh
  | cons x xs ih =>
    rw [List.flatMap_cons, List.length_append] at hlen
    rcases List.mem_cons.1 hh with rfl | hh
    · simp only [List.length_take]
      omega
    · exact ih (by rw [List.length_drop]; omega) hh

theorem flatMap_snd_deal {asked : ι → List Nat} {xs : List ι} {faces : List Nat}
    (hlen : faces.length = (xs.flatMap asked).length) :
    (deal asked xs faces).flatMap Prod.snd = faces := by
  induction xs generalizing faces with
  | nil => exact (List.length_eq_zero_iff.1 hlen).symm
  | cons x xs ih =>
    rw [List.flatMap_cons, List.length_append] at hlen
    rw [deal, List.flatMap_cons, ih (by rw [List.length_drop]; omega), List.take_append_drop]

theorem deal_flatMap_snd {asked : ι → List Nat} {hs : List (ι × List Nat)}
    (hlen : ∀ h ∈ hs, h.2.length = (asked h.1).length) :
    deal asked (hs.map Prod.fst) (hs.flatMap Prod.snd) = hs := by
  induction hs with
  | nil => rfl
  | cons h hs ih =>
    have hh : h.2.length = (asked h.1).length := hlen h (by simp)
    rw [List.map_cons, List.flatMap_cons, deal, ← hh, List.take_left, List.drop_left,
      ih fun x hx => hlen x (List.mem_cons_of_mem _ hx)]

theorem forall₂_snd_of_mem_deal {R : Nat → Nat → Prop} {asked : ι → List Nat} {xs : List ι}
    {faces : List Nat} (hfaces : List.Forall₂ R faces (xs.flatMap asked)) {h : ι × List Nat}
    (hh : h ∈ deal asked xs faces) : List.Forall₂ R h.2 (asked h.1) := by
  induction xs generalizing faces with
  | nil => cases hh
  | cons x xs ih =>
    rw [List.flatMap_cons] at hfaces
    rcases List.mem_cons.1 hh with rfl | hh
    · exact List.forall₂_take_append _ _ _ hfaces
    · exact ih (List.forall₂_drop_append _ _ _ hfaces) hh

theorem Play.Follows.mapM {play : ι → Play σ β} {asked : ι → List Nat} {result : ι → List Nat → β}
    (h : ∀ x, Follows (play x) (asked x) (result x)) (xs : List ι) :
    Follows (xs.mapM play) (xs.flatMap asked) fun faces =>
      (deal asked xs faces).map fun h => result h.1 h.2 := by
  induction xs with
  | nil => exact follows_pure []
  | cons x xs ih =>
    -- the first result is kept while the rest is played
    have hrest : ∀ b, Follows (xs.mapM play >>= fun bs => pure (b :: bs)) (xs.flatMap asked)
        fun faces => b :: (deal asked xs faces).map fun h => result h.1 h.2 := by
      intro b
      rw [bind_pure_comp]
      exact ih.map
    rw [List.mapM_cons]
    exact (h x).bind hrest

theorem map_headD_deal {ns faces : List Nat} (h : faces.length = ns.length) :
    (deal (fun n => [n]) ns faces).map (fun h => h.2.headD 0) = faces := by
  induction ns generalizing faces with
  | nil => exact (List.length_eq_zero_iff.1 h).symm
  | cons n ns ih =>
    cases faces with
    | nil => cases h
    | cons face faces => exact congrArg (face :: ·) (ih (Nat.succ.inj h))

theorem Play.follows_mapM_throwDie (dice : List Nat) :
    Follows (dice.mapM throwDie : Play σ (List Nat)) dice id := by
  have hdie : ∀ n, Follows (throwDie n : Play σ Nat) [n] fun faces => faces.headD 0 :=
    follows_throwDie
  have hdice := Follows.mapM hdie dice
  rw [List.flatMap_singleton'] at hdice
  exact hdice.congr fun faces hlen => map_headD_deal hlen

theorem Play.follows_throwDice (count sides : Nat) :
    Follows (throwDice count sides : Play σ (List Nat)) (List.replicate count sides) id :=
  follows_mapM_throwDie _

end Deal
end DiceBot
