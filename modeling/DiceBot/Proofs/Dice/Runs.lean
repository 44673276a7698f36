import DiceBot.Proofs.Dice.Asks

/-!
# Runs of plays

A run ends in a state and with a source, from which another run can go on. Where every step of
one run comes to the same as some steps of another, the other run can be cut into shares, one for
each step. The throws of plays that ask for dice one after another are what the source shows from
its start on, without a gap.
-/

namespace DiceBot

def Outcome.map {σ α β : Type} (f : α → β) (o : Outcome σ α) : Outcome σ β :=
  ⟨o.result.map f, o.source, o.journal⟩

namespace Play

variable {σ α β S X Y : Type}

section Reached

variable (next : S → X → S × Play σ α)

def reached : S → σ → List X → S × σ
  | st, s, [] => (st, s)
  | st, s, x :: xs => reached (next st x).1 ((next st x).2.run s).source xs

theorem reached_append (st : S) (s : σ) (xs ys : List X) :
    reached next st s (xs ++ ys) =
      reached next (reached next st s xs).1 (reached next st s xs).2 ys := by
  induction xs generalizing st s with
  | nil => rfl
  | cons x xs ih => exact ih _ _

theorem reached_fst (st : S) (s : σ) (xs : List X) :
    (reached next st s xs).1 = xs.foldl (fun st x => (next st x).1) st := by
  induction xs generalizing st s with
  | nil => rfl
  | cons x xs ih => exact ih _ _

theorem length_transcript (st : S) (s : σ) (xs : List X) :
    (transcript next st s xs).length = xs.length := by
  induction xs generalizing st s with
  | nil => rfl
  | cons x xs ih => exact congrArg (· + 1) (ih _ _)

theorem transcript_append (st : S) (s : σ) (xs ys : List X) :
    transcript next st s (xs ++ ys) =
      transcript next st s xs ++
        transcript next (reached next st s xs).1 (reached next st s xs).2 ys := by
  induction xs generalizing st s with
  | nil => rfl
  | cons x xs ih => exact congrArg (((next st x).2.run s) :: ·) (ih _ _)

theorem getElem?_transcript (st : S) (s : σ) (xs : List X) (x : X) (ys : List X) :
    (transcript next st s (xs ++ x :: ys))[xs.length]? =
      some (((next (reached next st s xs).1 x).2).run (reached next st s xs).2) := by
  have hlen := length_transcript next st s xs
  rw [transcript_append, List.getElem?_append_right (Nat.le_of_eq hlen), hlen, Nat.sub_self]
  rfl

end Reached

section Series

variable (play : X → Play σ α)

def series : σ → List X → List (X × Outcome σ α)
  | _, [] => []
  | s, x :: xs => (x, (play x).run s) :: series ((play x).run s).source xs

def leftover (s : σ) (xs : List X) : σ := xs.foldl (fun s x => ((play x).run s).source) s

theorem series_append (s : σ) (xs ys : List X) :
    series play s (xs ++ ys) = series play s xs ++ series play (leftover play s xs) ys := by
  induction xs generalizing s with
  | nil => rfl
  | cons x xs ih => exact congrArg ((x, (play x).run s) :: ·) (ih _)

theorem run_mapM_attempt (s : σ) (xs : List X) :
    (xs.mapM fun x => attempt (play x)).run s =
      ⟨.ok ((series play s xs).map fun x => x.2.result), leftover play s xs,
        (series play s xs).flatMap fun x => x.2.journal⟩ := by
  induction xs generalizing s with
  | nil => rfl
  | cons x xs ih =>
    have hfirst : ((attempt (play x)).run s).result = .ok ((play x).run s).result := rfl
    have hrun := ih ((attempt (play x)).run s).source
    have hrest := congrArg Outcome.result hrun
    rw [List.mapM_cons, run_bind_of_ok hfirst, run_bind_of_ok hrest, hrun]
    dsimp only
    rw [run_pure, List.append_nil]
    rfl

theorem map_transcript {Z γ : Type} (next : S → Y → S × Play σ β) (play : Z → Play σ γ) (st : S)
    (step : X → Y) (turn : X → Z) (f : β → γ) (hst : ∀ x, (next st (step x)).1 = st)
    (hplay : ∀ x, play (turn x) = f <$> (next st (step x)).2) (s : σ) (xs : List X) :
    (transcript next st s (xs.map step)).map (Outcome.map f) =
      (series play s (xs.map turn)).map Prod.snd := by
  induction xs generalizing s with
  | nil => rfl
  | cons x xs ih =>
    let o := (next st (step x)).2.run s
    have hcons : transcript next st s ((x :: xs).map step) =
        o :: transcript next (next st (step x)).1 o.source (xs.map step) := rfl
    have hrun : (play (turn x)).run s = o.map f := by rw [hplay]; rfl
    rw [hcons, hst, List.map_cons, ih, List.map_cons, series, hrun]
    rfl

theorem map_fst_series (s : σ) (xs : List X) : (series play s xs).map Prod.fst = xs := by
  induction xs generalizing s with
  | nil => rfl
  | cons x xs ih => exact congrArg (x :: ·) (ih _)

theorem exists_run_of_mem_series {s : σ} {xs : List X} {x : X × Outcome σ α}
    (h : x ∈ series play s xs) : ∃ s', x.2 = (play x.1).run s' := by
  induction xs generalizing s with
  | nil => cases h
  | cons y xs ih =>
    rcases List.mem_cons.1 h with rfl | h
    · exact ⟨s, rfl⟩
    · exact ih h

theorem shown_throws_series [DieSource σ] {play : X → Play σ α} {asked : X → List Nat}
    (h : ∀ x, Asks (play x) (asked x)) (s : σ) (xs : List X) :
    let stream := (series play s xs).flatMap fun x => x.2.throws (asked x.1)
    DieSource.shown s (stream.map Prod.fst) = (stream.map Prod.snd, leftover play s xs) := by
  induction xs generalizing s with
  | nil => rfl
  | cons x xs ih =>
    have hfirst := (h x).shown_throws s
    intro stream
    rw [show stream = ((play x).run s).throws (asked x) ++ _ from List.flatMap_cons,
      List.map_append, List.map_append, DieSource.shown_append, hfirst, ih]
    rfl

end Series

section Shares

/-- For each step of a run the plays that stand for it. -/
def standIns (next : S → X → S × Play σ α) (calls : S → X → List Y) : S → List X → List (List Y)
  | _, [] => []
  | st, x :: xs => calls st x :: standIns next calls (next st x).1 xs

theorem exists_shares (next : S → X → S × Play σ α) (play : Y → Play σ β)
    (calls : S → X → List Y) (Inv : S → Prop)
    (Matches : X → Outcome σ α → List (Y × Outcome σ β) → Prop) {xs : List X}
    (hstep : ∀ x ∈ xs, ∀ (st : S) (s : σ), Inv st →
      Matches x ((next st x).2.run s) (series play s (calls st x)) ∧
        leftover play s (calls st x) = ((next st x).2.run s).source ∧ Inv (next st x).1)
    {st : S} (hst : Inv st) (s : σ) :
    ∃ shares : List (List (Y × Outcome σ β)),
      shares.flatten = series play s (standIns next calls st xs).flatten ∧
      shares.map (List.map Prod.fst) = standIns next calls st xs ∧
      List.Forall₂ (fun x own => Matches x.1 x.2 own) (xs.zip (transcript next st s xs))
        shares := by
  induction xs generalizing st s with
  | nil => exact ⟨[], rfl, rfl, .nil⟩
  | cons x xs ih =>
    obtain ⟨hmatch, hsource, hnext⟩ := hstep x (by simp) st s hst
    obtain ⟨shares, hflat, hcalls, hall⟩ :=
      ih (fun y hy => hstep y (List.mem_cons_of_mem _ hy)) hnext ((next st x).2.run s).source
    refine ⟨series play s (calls st x) :: shares, ?_, ?_, .cons hmatch hall⟩
    · rw [List.flatten_cons, hflat, standIns, List.flatten_cons, series_append, hsource]
    · rw [List.map_cons, map_fst_series, hcalls, standIns]

theorem flatMap_of_forall₂ {f : X → List α} {g : Y → List α} {xs : List X} {ys : List Y}
    (h : List.Forall₂ (fun x y => f x = g y) xs ys) : xs.flatMap f = ys.flatMap g := by
  induction h with
  | nil => rfl
  | cons hxy _ ih => rw [List.flatMap_cons, List.flatMap_cons, hxy, ih]

end Shares
end Play
end DiceBot
