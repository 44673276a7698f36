import Mathlib
import DiceBot.Chat
import DiceBot.Proofs.Dice.Runs
import DiceBot.Proofs.Responder.Answers

/-!
# Turns of a bot

A bot is asked through its responder or hears messages, in any order. A turn rolls a formula or
none. Turns that roll none can be left out of a run without any effect on the others, and the rolls
take their dice from the source one after another, each as many as its formula asks for.
-/

namespace DiceBot

inductive Turn where
  | ask (query : Query)
  | hear (message : Message)
deriving DecidableEq, Repr

inductive TurnResult where
  | told (result : QueryResult)
  | spoken (result : ChatResult)

namespace Bot

variable {σ : Type} [DieSource σ]

def take (b : Bot) : Turn → Play σ TurnResult
  | .ask q => .told <$> b.responder.ask q
  | .hear m => .spoken <$> .reply <$> b.handle m

def takeTurns (b : Bot) : σ → List Turn → List (Turn × Outcome σ TurnResult) := Play.series b.take

end Bot

def Responder.rolled? (r : Responder) (raw : Text) : Option Formula :=
  if Text.squeezed raw = r.helpTrigger then none else (Formula.parse raw).toOption

namespace Turn

/-- The formula that a turn rolls. Questions about help, requests for help, refused formulas and
chat that is no command roll none. -/
def rolled? (b : Bot) : Turn → Option Formula
  | .ask (.isHelp _) => none
  | .ask (.roll raw) => (Formula.parse raw).toOption
  | .ask (.reply raw) | .ask (.answer raw) => b.responder.rolled? raw
  | .hear m => (b.formula? m.text).bind b.responder.rolled?

end Turn

def Term.diceCount (t : Term) : Nat :=
  match t.amount with
  | .flat _ => 0
  | .dice d => d.count.value

theorem Term.length_demand (t : Term) : t.demand.length = t.diceCount := by
  rw [demand, diceCount]
  cases t.amount with
  | flat v => rfl
  | dice d => exact List.length_replicate

theorem Formula.length_demand (f : Formula) :
    f.demand.length = f.repeats.value * (f.terms.map Term.diceCount).sum := by
  have hterms : (f.terms.flatMap Term.demand).length = (f.terms.map Term.diceCount).sum := by
    rw [List.length_flatMap, funext Term.length_demand]
  rw [demand, List.length_flatten, List.map_replicate, List.sum_replicate_nat, hterms]

def Formula.demand? (f : Option Formula) : List Nat := (f.map demand).getD []

section Asks

open Play Formula

variable {σ : Type} [DieSource σ]

namespace Responder

theorem throwsFirst_roll (raw : Text) :
    ThrowsFirst (roll raw : Play σ (Except Rejection Report))
      (demand? (Formula.parse raw).toOption) := by
  cases h : Formula.parse raw with
  | error e =>
    rw [roll, h]
    exact ((still_tell rfl).bind fun _ => still_pure _).throwsFirst
  | ok f =>
    rw [roll_of_parse h]
    exact f.follows_roll.throwsFirst.map _

theorem throwsFirst_answer (r : Responder) (raw : Text) :
    ThrowsFirst (r.answer raw : Play σ Answer) (demand? (r.rolled? raw)) := by
  rw [answer, rolled?]
  by_cases hhelp : Text.squeezed raw = r.helpTrigger
  · rw [if_pos (isHelp_iff.2 hhelp), if_pos hhelp]
    exact (still_pure _).throwsFirst
  · rw [if_neg (mt isHelp_iff.1 hhelp), if_neg hhelp]
    refine (throwsFirst_roll raw).bind fun rolled => ?_
    cases rolled with
    | error e => exact (still_tell rfl).bind fun _ => still_pure _
    | ok report => exact (still_tell rfl).bind fun _ => still_pure _

end Responder

namespace Bot

theorem throwsFirst_ask (b : Bot) (q : Query) :
    ThrowsFirst (b.responder.ask q : Play σ QueryResult) (demand? ((Turn.ask q).rolled? b)) := by
  cases q with
  | reply raw => exact ((b.responder.throwsFirst_answer raw).map Answer.text).map _
  | answer raw => exact (b.responder.throwsFirst_answer raw).map _
  | roll raw => exact (Responder.throwsFirst_roll raw).map _
  | isHelp raw => exact (still_pure _).throwsFirst

omit [DieSource σ] in
theorem still_post (b : Bot) (channel text : Text) :
    Still (b.post channel text : Play σ Unit) := by
  rw [post]
  cases b.outlet? with
  | none => exact still_pure ()
  | some transport => exact still_tell rfl

theorem throwsFirst_handle (b : Bot) (m : Message) :
    ThrowsFirst (b.handle m : Play σ (Option Text)) (demand? ((Turn.hear m).rolled? b)) := by
  rw [handle, Turn.rolled?]
  cases b.formula? m.text with
  | none => exact (still_pure none).throwsFirst
  | some raw =>
    refine ((b.responder.throwsFirst_answer raw).map Answer.text).bind fun text => ?_
    exact (still_tell rfl).bind fun _ => (b.still_post _ _).bind fun _ => still_pure _

theorem asks_take (b : Bot) (t : Turn) :
    Asks (b.take t : Play σ TurnResult) (demand? (t.rolled? b)) := by
  cases t with
  | ask q => exact ((b.throwsFirst_ask q).map _).asks
  | hear m => exact (((b.throwsFirst_handle m).map _).map _).asks

theorem transcript_ask (b : Bot) (s : σ) (queries : List Query) :
    (b.responder.transcript s queries).map (Outcome.map .told) =
      (b.takeTurns s (queries.map .ask)).map Prod.snd := by
  have h := map_transcript (fun (r : Responder) q => (r, r.ask q)) b.take b.responder id Turn.ask
    TurnResult.told (fun _ => rfl) (fun _ => rfl) s queries
  rwa [List.map_id] at h

theorem transcript_message (b : Bot) (s : σ) (messages : List Message) :
    (b.transcript s (messages.map .message)).map (Outcome.map .spoken) =
      (b.takeTurns s (messages.map .hear)).map Prod.snd :=
  map_transcript step b.take b ChatStep.message Turn.hear TurnResult.spoken (fun _ => rfl)
    (fun _ => rfl) s messages

theorem takeTurns_of_idle (b : Bot) (s : σ) {marked : List (Turn × Bool)}
    (h : ∀ x ∈ marked, x.2 = false → x.1.rolled? b = none) :
    b.takeTurns s ((marked.filter Prod.snd).map Prod.fst) =
      ((marked.zip (b.takeTurns s (marked.map Prod.fst))).filter fun x => x.1.2).map Prod.snd := by
  induction marked generalizing s with
  | nil => rfl
  | cons x marked ih =>
    obtain ⟨t, kept⟩ := x
    have hrest := ih (s := ((b.take t).run s).source) fun y hy => h y (List.mem_cons_of_mem _ hy)
    cases kept with
    | true => exact congrArg ((t, (b.take t).run s) :: ·) hrest
    | false =>
      -- the source is where it was, so the rest goes on as if nothing had happened
      have hidle : Asks (b.take t : Play σ TurnResult) [] := by
        have hasks := b.asks_take (σ := σ) t
        rwa [h (t, false) (by simp) rfl] at hasks
      have hsource : ((b.take t).run s).source = s := (hidle s).2.1
      rw [hsource] at hrest
      refine hrest.trans ?_
      rw [List.map_cons, takeTurns, series, hsource, List.zip_cons_cons, List.filter_cons_of_neg]
      exact Bool.false_ne_true

/-- Turns that roll nothing can be left out of a run at will, and nothing else changes. The throws
of a run are what the source shows from its start on, one share after another: none for a turn that
rolls nothing, which always has a result, and for a roll that succeeds as many as its formula asks
for, whatever faces they show. Runs of a responder and runs of messages are such runs. -/
theorem idle_turns_transparent (b : Bot) (s : σ) :
    (∀ queries : List Query, (b.responder.transcript s queries).map (Outcome.map .told) =
      (b.takeTurns s (queries.map .ask)).map Prod.snd) ∧
    (∀ messages : List Message, (b.transcript s (messages.map .message)).map (Outcome.map .spoken) =
      (b.takeTurns s (messages.map .hear)).map Prod.snd) ∧
    (∀ marked : List (Turn × Bool), (∀ x ∈ marked, x.2 = false → x.1.rolled? b = none) →
      b.takeTurns s ((marked.filter Prod.snd).map Prod.fst) =
        ((marked.zip (b.takeTurns s (marked.map Prod.fst))).filter fun x => x.1.2).map Prod.snd) ∧
    ∀ turns : List Turn,
      let stream := (b.takeTurns s turns).flatMap fun x => x.2.throws (demand? (x.1.rolled? b))
      (DieSource.shown s (stream.map Prod.fst)).1 = stream.map Prod.snd ∧
      ∀ x ∈ b.takeTurns s turns,
        (x.1.rolled? b = none → x.2.journal.draws = [] ∧ ∃ r, x.2.result = .ok r) ∧
        ∀ f r, x.1.rolled? b = some f → x.2.result = .ok r →
          x.2.journal.draws.map Draw.sides = f.demand ∧
          x.2.journal.draws.length = f.repeats.value * (f.terms.map Term.diceCount).sum := by
  refine ⟨b.transcript_ask s, b.transcript_message s,
    fun marked hmarked => b.takeTurns_of_idle s hmarked, fun turns => ?_⟩
  intro stream
  have hstream := shown_throws_series b.asks_take s turns
  refine ⟨congrArg Prod.fst hstream, fun x hx => ?_⟩
  obtain ⟨s', hrun⟩ := exists_run_of_mem_series _ hx
  have hasks := b.asks_take (σ := σ) x.1
  rw [hrun]
  refine ⟨fun hidle => ?_, fun f r hf hr => ?_⟩
  · rw [hidle] at hasks
    obtain ⟨r, j, hr, hj⟩ := hasks.run_eq_ok s'
    rw [hr]
    exact ⟨hj, r, rfl⟩
  · rw [hf] at hasks
    have hsides := hasks.sides_of_result_eq_ok hr
    refine ⟨hsides, ?_⟩
    rw [← f.length_demand, ← List.length_map Draw.sides, hsides]
    rfl

theorem idle_turns_transparent_two_rolls :
    let bot : Bot := ⟨⟨defaultHelpTrigger⟩, [defaultMarker], []⟩
    let roll : Turn := .ask (.roll "1d4-1".toList)
    let marked : List (Turn × Bool) := [(.ask (.isHelp "1d4".toList), false),
      (.hear ⟨"ann".toList, "games".toList, "!2d6".toList⟩, true),
      (.hear ⟨"ann".toList, "games".toList, "2d6".toList⟩, false),
      (.ask (.answer "2d6+".toList), false), (roll, true)]
    let f : Formula := ⟨"1d4-1".toList, ⟨1, by decide, by decide⟩,
      [⟨.plus, .dice ⟨⟨1, by decide, by decide⟩, ⟨4, by decide, by decide⟩, none⟩⟩,
        ⟨.minus, .flat ⟨1, by decide, by decide⟩⟩], by decide⟩
    let whole := bot.takeTurns (⟨[6, 2, 3]⟩ : ScriptedFaces) (marked.map Prod.fst)
    let last := (bot.take roll).run (⟨[3]⟩ : ScriptedFaces)
    (∀ x ∈ marked, x.2 = false → x.1.rolled? bot = none) ∧
      bot.takeTurns (⟨[6, 2, 3]⟩ : ScriptedFaces) ((marked.filter Prod.snd).map Prod.fst) =
        ((marked.zip whole).filter fun x => x.1.2).map Prod.snd ∧
      (roll, last) ∈ whole ∧ roll.rolled? bot = some f ∧ (∃ r, last.result = .ok r) ∧
      last.journal.draws.map Draw.sides = f.demand ∧ last.journal.draws.length = 1 := by
  intro bot roll marked f whole last
  have hidle : ∀ x ∈ marked, x.2 = false → x.1.rolled? bot = none := by decide
  have hlast : (bot.take roll).run (⟨[3]⟩ : ScriptedFaces) =
      ⟨.ok (.told (.roll (.ok ⟨"1d4-1".toList, [⟨2, ["1d4=3".toList]⟩]⟩))), ⟨[]⟩,
        [.drew ⟨4, 3⟩]⟩ := by cbv
  have hmem : (roll, last) ∈ whole := by
    rw [show last = _ from hlast]
    refine List.mem_of_getElem? (i := 4) ?_
    cbv
  have hroll : roll.rolled? bot = some f := by decide
  obtain ⟨-, -, hremoved, hstream⟩ := bot.idle_turns_transparent (⟨[6, 2, 3]⟩ : ScriptedFaces)
  obtain ⟨-, hrolls⟩ := hstream (marked.map Prod.fst)
  have hok := congrArg Outcome.result hlast
  obtain ⟨hsides, hlength⟩ := (hrolls _ hmem).2 f _ hroll hok
  exact ⟨hidle, hremoved marked hidle, hmem, hroll, ⟨_, hok⟩, hsides, hlength⟩

end Bot
end Asks
end DiceBot
