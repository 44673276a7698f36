import DiceBot.Proofs.Dice.Throws

/-!
# What plays ask for

A play throws its dice first when nothing that it does later throws any. If the source has a face
for each of them it goes on to a result, and otherwise it is interrupted, with the faces shown so
far and nothing else in its journal. Its throws, and the one that has failed, are what the source
shows for its dice. What a play writes into its journal is bounded by what its parts write.
-/

namespace DiceBot

def DieSource.Fails {σ : Type} [DieSource σ] (s : σ) (dice : List Nat) : Prop :=
  (DieSource.answer s dice).1.length < dice.length

instance {σ : Type} [DieSource σ] (s : σ) (dice : List Nat) :
    Decidable (DieSource.Fails s dice) :=
  inferInstanceAs (Decidable ((DieSource.answer s dice).1.length < dice.length))

theorem DieSource.not_fails_nil {σ : Type} [DieSource σ] (s : σ) : ¬ DieSource.Fails s [] :=
  Nat.not_lt_zero _

theorem DieSource.not_fails_iff {σ : Type} [DieSource σ] {s : σ} {dice : List Nat} :
    ¬ DieSource.Fails s dice ↔ (DieSource.answer s dice).1.length = dice.length := by
  have hle := DieSource.length_answer_le s dice
  rw [DieSource.Fails]
  omega

namespace Play

variable {σ α β X : Type}

section Still

def Still (p : Play σ α) : Prop := ∃ a j, j.draws = [] ∧ ∀ s, p.run s = ⟨.ok a, s, j⟩

theorem still_pure (a : α) : Still (pure a : Play σ α) := ⟨a, [], rfl, fun _ => rfl⟩

theorem still_tell {e : Event} (h : e.draw? = none) : Still (tell e : Play σ Unit) :=
  ⟨(), [e], by simp [Journal.draws, h], fun _ => rfl⟩

variable {p : Play σ α}

theorem Still.map (f : α → β) (hp : Still p) : Still (f <$> p) := by
  obtain ⟨a, j, hj, hp⟩ := hp
  exact ⟨f a, j, hj, fun s => by rw [run_map, hp]; rfl⟩

theorem Still.bind {f : α → Play σ β} (hp : Still p) (hf : ∀ a, Still (f a)) :
    Still (p >>= f) := by
  obtain ⟨a, j, hj, hp⟩ := hp
  obtain ⟨b, k, hk, hf⟩ := hf a
  refine ⟨b, j ++ k, by rw [Journal.draws_append, hj, hk]; rfl, fun s => ?_⟩
  have hresult : (p.run s).result = .ok a := by rw [hp]
  rw [run_bind_of_ok hresult, hp, hf]

theorem Still.attempt (hp : Still p) : Still (attempt p) := by
  obtain ⟨a, j, hj, hp⟩ := hp
  refine ⟨.ok a, j, hj, fun s => ?_⟩
  rw [Play.attempt]
  dsimp only
  rw [hp]

theorem Still.mapM {f : X → Play σ α} {xs : List X} (h : ∀ x ∈ xs, Still (f x)) :
    Still (xs.mapM f) := by
  induction xs with
  | nil => exact still_pure []
  | cons x xs ih =>
    rw [List.mapM_cons]
    refine (h x (by simp)).bind fun a => ?_
    exact (ih fun y hy => h y (List.mem_cons_of_mem _ hy)).bind fun _ => still_pure _

end Still

section ThrowsFirst

variable [DieSource σ]

/-- The play throws these dice, and then goes on with their faces in a way that throws none. -/
def ThrowsFirst (p : Play σ α) (dice : List Nat) : Prop :=
  ∃ f : List Nat → Play σ α, (∀ faces, Still (f faces)) ∧ p = dice.mapM throwDie >>= f

variable {p : Play σ α} {dice : List Nat}

theorem Still.throwsFirst (hp : Still p) : ThrowsFirst p [] :=
  ⟨fun _ => p, fun _ => hp, by rw [List.mapM_nil, pure_bind]⟩

theorem Follows.throwsFirst {result : List Nat → α} (hp : Follows p dice result) :
    ThrowsFirst p dice := by
  refine ⟨fun faces => pure (result faces), fun faces => still_pure _, ?_⟩
  rw [bind_pure_comp]
  exact Play.ext fun s => (hp s).trans ((follows_mapM_throwDie dice).map s).symm

theorem ThrowsFirst.map (g : α → β) (hp : ThrowsFirst p dice) : ThrowsFirst (g <$> p) dice := by
  obtain ⟨f, hf, rfl⟩ := hp
  exact ⟨fun faces => g <$> f faces, fun faces => (hf faces).map g, map_bind ..⟩

theorem ThrowsFirst.bind {g : α → Play σ β} (hp : ThrowsFirst p dice) (hg : ∀ a, Still (g a)) :
    ThrowsFirst (p >>= g) dice := by
  obtain ⟨f, hf, rfl⟩ := hp
  exact ⟨fun faces => f faces >>= g, fun faces => (hf faces).bind hg, bind_assoc ..⟩

theorem ThrowsFirst.still (hp : ThrowsFirst p dice) (h : dice = []) : Still p := by
  obtain ⟨f, hf, rfl⟩ := hp
  rw [h, List.mapM_nil, pure_bind]
  exact hf []

def interrupted (s : σ) (dice : List Nat) : Outcome σ α :=
  ⟨.error .noFaceLeft, (DieSource.answer s dice).2, drawn dice (DieSource.answer s dice).1⟩

theorem ThrowsFirst.run_of_fails (hp : ThrowsFirst p dice) {s : σ} (h : DieSource.Fails s dice) :
    p.run s = interrupted s dice := by
  obtain ⟨f, -, rfl⟩ := hp
  have hrun := follows_mapM_throwDie dice s
  rw [followed, if_neg (Nat.ne_of_lt h)] at hrun
  rw [run_bind_of_error (congrArg Outcome.result hrun), hrun]
  rfl

theorem ThrowsFirst.run_of_not_fails (hp : ThrowsFirst p dice) {s : σ}
    (h : ¬ DieSource.Fails s dice) : ∃ a j, j.draws = [] ∧
      p.run s =
        ⟨.ok a, (DieSource.answer s dice).2, drawn dice (DieSource.answer s dice).1 ++ j⟩ := by
  obtain ⟨f, hf, rfl⟩ := hp
  have hrun := follows_mapM_throwDie dice s
  rw [followed, if_pos (DieSource.not_fails_iff.1 h)] at hrun
  obtain ⟨a, j, hj, hnext⟩ := hf (DieSource.answer s dice).1
  refine ⟨a, j, hj, ?_⟩
  rw [run_bind_of_ok (congrArg Outcome.result hrun), hrun]
  dsimp only [id]
  rw [hnext]

theorem ThrowsFirst.result_eq_error_iff (hp : ThrowsFirst p dice) (s : σ) :
    (∃ e, (p.run s).result = .error e) ↔ DieSource.Fails s dice := by
  refine ⟨fun ⟨e, he⟩ => ?_, fun h => ⟨.noFaceLeft, by rw [hp.run_of_fails h]; rfl⟩⟩
  by_contra h
  obtain ⟨a, j, -, hrun⟩ := hp.run_of_not_fails h
  rw [hrun] at he
  cases he

end ThrowsFirst

section Asks

variable [DieSource σ]

/-- Whatever it does besides, the play throws these dice, as far as the source shows them, and has
a result if the source shows them all. -/
def Asks (p : Play σ α) (asked : List Nat) : Prop :=
  ∀ s, (p.run s).journal.draws = List.zipWith Draw.mk asked (DieSource.answer s asked).1 ∧
    (p.run s).source = (DieSource.answer s asked).2 ∧
    ((∃ a, (p.run s).result = .ok a) ↔ (DieSource.answer s asked).1.length = asked.length)

variable {p : Play σ α} {asked : List Nat}

theorem Asks.run_eq_ok (hp : Asks p []) (s : σ) :
    ∃ a j, p.run s = ⟨.ok a, s, j⟩ ∧ j.draws = [] := by
  obtain ⟨hdraws, hsource, hresult⟩ := hp s
  obtain ⟨a, ha⟩ := hresult.2 rfl
  have hs : (p.run s).source = s := hsource
  refine ⟨a, (p.run s).journal, ?_, hdraws⟩
  calc p.run s = ⟨(p.run s).result, (p.run s).source, (p.run s).journal⟩ := rfl
    _ = ⟨.ok a, s, (p.run s).journal⟩ := by rw [ha, hs]

theorem draws_drawn (asked faces : List Nat) :
    Journal.draws (drawn asked faces) = List.zipWith Draw.mk asked faces := by
  induction asked generalizing faces with
  | nil => rfl
  | cons n asked ih =>
    cases faces with
    | nil => rfl
    | cons face faces => exact congrArg (⟨n, face⟩ :: ·) (ih faces)

theorem exists_draw_of_mem_drawn {e : Event} {asked faces : List Nat}
    (h : e ∈ drawn asked faces) : ∃ d, e = .drew d := by
  rw [drawn] at h
  obtain ⟨i, hi, rfl⟩ := List.mem_iff_getElem.1 h
  exact ⟨_, List.getElem_zipWith ..⟩

theorem ThrowsFirst.asks (hp : ThrowsFirst p asked) : Asks p asked := by
  intro s
  rw [← DieSource.not_fails_iff]
  by_cases h : DieSource.Fails s asked
  · rw [hp.run_of_fails h]
    exact ⟨draws_drawn _ _, rfl, fun ⟨a, ha⟩ => by (cases ha), fun hnot => absurd h hnot⟩
  · obtain ⟨a, j, hj, hrun⟩ := hp.run_of_not_fails h
    rw [hrun]
    refine ⟨?_, rfl, fun _ => h, fun _ => ⟨a, rfl⟩⟩
    rw [Journal.draws_append, draws_drawn, hj, List.append_nil]

theorem map_draws {asked faces : List Nat} (h : faces.length ≤ asked.length) :
    (List.zipWith Draw.mk asked faces).map Draw.sides = asked.take faces.length ∧
      (List.zipWith Draw.mk asked faces).map Draw.face = faces := by
  induction asked generalizing faces with
  | nil => simp [List.length_eq_zero_iff.1 (Nat.le_zero.1 h)]
  | cons n asked ih =>
    cases faces with
    | nil => exact ⟨rfl, rfl⟩
    | cons face faces =>
      obtain ⟨hsides, hface⟩ := ih (Nat.le_of_succ_le_succ h)
      exact ⟨congrArg (n :: ·) hsides, congrArg (face :: ·) hface⟩

theorem Asks.length_draws (hp : Asks p asked) (s : σ) :
    (p.run s).journal.draws.length = (DieSource.answer s asked).1.length := by
  rw [(hp s).1, List.length_zipWith]
  exact Nat.min_eq_right (DieSource.length_answer_le s asked)

theorem Asks.sides_prefix (hp : Asks p asked) (s : σ) :
    (p.run s).journal.draws.map Draw.sides = asked.take (p.run s).journal.draws.length := by
  rw [hp.length_draws, (hp s).1, (map_draws (DieSource.length_answer_le s asked)).1]

theorem Asks.failsAfter_of_result_eq_error (hp : Asks p asked) {s : σ} {e : Exhausted}
    (h : (p.run s).result = .error e) :
    let draws := (p.run s).journal.draws
    ∃ n, asked[draws.length]? = some n ∧
      DieSource.FailsAfter s (draws.map Draw.sides) n (p.run s).source := by
  intro draws
  obtain ⟨-, hsource, hresult⟩ := hp s
  have hshort : (DieSource.answer s asked).1.length < asked.length := by
    refine Nat.lt_of_le_of_ne (DieSource.length_answer_le s asked) fun hfull => ?_
    obtain ⟨a, ha⟩ := hresult.2 hfull
    rw [h] at ha
    cases ha
  rw [hp.sides_prefix, hp.length_draws, hsource]
  exact DieSource.failsAfter_of_length_lt hshort

theorem Asks.shown_throws (hp : Asks p asked) (s : σ) :
    let throws := (p.run s).throws asked
    DieSource.shown s (throws.map Prod.fst) = (throws.map Prod.snd, (p.run s).source) := by
  intro throws
  have hfaces : (p.run s).journal.draws.map (fun d => some d.face) =
      (DieSource.answer s asked).1.map some := by
    rw [← (map_draws (DieSource.length_answer_le s asked)).2, ← (hp s).1, List.map_map]
    rfl
  cases hr : (p.run s).result with
  | ok a =>
    have hfull := (hp s).2.2.1 ⟨a, hr⟩
    have hthrows : throws = (p.run s).journal.draws.map fun d => (d.sides, some d.face) :=
      Outcome.throws_of_result_eq_ok hr
    have hasked : throws.map Prod.fst = asked := by
      rw [hthrows, List.map_map]
      exact (hp.sides_prefix s).trans (by rw [hp.length_draws, hfull, List.take_length])
    rw [hasked, DieSource.shown_of_full hfull, hthrows, List.map_map, (hp s).2.1]
    exact congrArg (·, _) hfaces.symm
  | error e =>
    obtain ⟨n, hn, hfails⟩ := hp.failsAfter_of_result_eq_error hr
    have hthrows : throws =
        (p.run s).journal.draws.map (fun d => (d.sides, some d.face)) ++ [(n, none)] :=
      Outcome.throws_of_result_eq_error hr hn
    have hasked : throws.map Prod.fst = (p.run s).journal.draws.map Draw.sides ++ [n] := by
      rw [hthrows, List.map_append, List.map_map]
      rfl
    rw [hasked, hfails.shown, hp.sides_prefix, hp.length_draws, DieSource.fst_answer_take, hthrows,
      List.map_append, List.map_map]
    exact congrArg (· ++ [none], _) hfaces.symm

theorem Asks.sides_of_result_eq_ok (hp : Asks p asked) {s : σ} {a : α}
    (h : (p.run s).result = .ok a) : (p.run s).journal.draws.map Draw.sides = asked := by
  obtain ⟨hdraws, -, hresult⟩ := hp s
  have hlen := hresult.1 ⟨a, h⟩
  rw [hdraws, (map_draws (Nat.le_of_eq hlen)).1, hlen, List.take_length]

end Asks

section Writes

def Writes (kind : Event → Prop) (p : Play σ α) : Prop := ∀ s, ∀ e ∈ (p.run s).journal, kind e

variable {kind : Event → Prop}

theorem writes_pure (a : α) : Writes kind (pure a : Play σ α) := fun _ _ h => by cases h

theorem writes_tell {e : Event} (h : kind e) : Writes kind (tell e : Play σ Unit) := by
  intro s e' he'
  rw [List.mem_singleton.1 he']
  exact h

theorem Writes.map {p : Play σ α} (f : α → β) (hp : Writes kind p) : Writes kind (f <$> p) := hp

theorem Writes.bind {p : Play σ α} {f : α → Play σ β} (hp : Writes kind p)
    (hf : ∀ a, Writes kind (f a)) : Writes kind (p >>= f) := by
  intro s e he
  cases h : (p.run s).result with
  | error x =>
    rw [run_bind_of_error h] at he
    exact hp s e he
  | ok a =>
    rw [run_bind_of_ok h] at he
    rcases List.mem_append.1 he with he | he
    · exact hp s e he
    · exact hf a _ e he

theorem Follows.writes [DieSource σ] {p : Play σ α} {asked : List Nat} {result : List Nat → α}
    (hp : Follows p asked result) (h : ∀ d, kind (.drew d)) : Writes kind p := by
  intro s e he
  rw [hp s, followed] at he
  obtain ⟨d, rfl⟩ := exists_draw_of_mem_drawn he
  exact h d

end Writes
end Play
end DiceBot
