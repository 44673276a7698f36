import DiceBot.Proofs.Chat.Posts
import DiceBot.Proofs.Dice.Interrupted

/-!
# Interrupted turns

A turn throws all its dice before it logs, posts or says anything, so that a source that fails
leaves nothing of it but the draws. A delivery is as many messages, one after another, as the bot
has been attached to the transport, and each of them may be interrupted by itself.
-/

namespace DiceBot

def Turn.dice (b : Bot) (t : Turn) : List Nat := Formula.demand? (t.rolled? b)

def Query.dice (r : Responder) (q : Query) : List Nat := (Turn.ask q).dice ⟨r, [], []⟩

namespace ChatStep

def dice (b : Bot) : ChatStep → List Nat
  | .extract _ | .attach _ => []
  | .message m => (Turn.hear m).dice b
  | .deliver transport m =>
    (List.replicate (b.attached.count transport) ((Turn.hear m).dice b)).flatten

end ChatStep

section Runs

open Play

variable {σ : Type} [DieSource σ]

theorem Bot.still_step (b : Bot) (x : ChatStep) (h : x.dice b = []) :
    Still (b.step (σ := σ) x).2 := by
  cases x with
  | extract text => exact still_pure _
  | attach transport => exact still_pure _
  | message m => exact ((b.throwsFirst_handle m).still h).map _
  | deliver transport m =>
    refine (Still.mapM fun m' hm' => ?_).map _
    obtain ⟨hcount, rfl⟩ := List.mem_replicate.1 hm'
    have hdice := List.flatten_eq_nil_iff.1 h _ (List.mem_replicate.2 ⟨hcount, rfl⟩)
    exact ((b.throwsFirst_handle m').still hdice).attempt

namespace Responder

theorem throwsFirst_ask (r : Responder) (q : Query) :
    ThrowsFirst (r.ask q : Play σ QueryResult) (q.dice r) :=
  Bot.throwsFirst_ask ⟨r, [], []⟩ q

theorem reached_ask (r : Responder) (s : σ) (queries : List Query) :
    (reached (fun (r : Responder) q => (r, (r.ask q : Play σ QueryResult))) r s queries).1 = r := by
  rw [reached_fst]
  exact List.foldl_fixed queries

theorem traceless_ask (r : Responder) (s : σ) (past : List Query) (q : Query) :
    Traceless (fun (r : Responder) q => (r, r.ask q)) (fun r q => q.dice r) (fun _ => True) r s past
      q := by
  refine traceless _ (fun r q => (r.throwsFirst_ask q).still) (fun r => r.throwsFirst_ask q) ?_
  intro before _ y
  rw [r.reached_ask, r.reached_ask]

end Responder

namespace Bot

theorem reached_message (b : Bot) (s : σ) (past : List ChatStep) (m : Message)
    (steps : List ChatStep) :
    (reached step b s (past ++ .message m :: steps)).1 = (reached step b s (past ++ steps)).1 := by
  rw [reached_fst, reached_fst, List.foldl_append, List.foldl_append, List.foldl_cons]
  rfl

theorem traceless_message (b : Bot) (s : σ) (past : List ChatStep) (m : Message) :
    Traceless step (fun b x => x.dice b) (fun _ => True) b s past (.message m) := by
  refine traceless step still_step (fun b => (b.throwsFirst_handle m).map _) ?_
  intro before _ y
  rw [b.reached_message]

theorem transcript_messages (b : Bot) (s : σ) (messages : List Message) :
    let own := b.transcript s (messages.map .message)
    let calls := series b.handle s messages
    (own.flatMap fun o => ChatResult.returned o.result) = calls.map (fun x => x.2.result) ∧
      (own.flatMap fun o => o.journal) = (calls.flatMap fun x => x.2.journal) ∧
      reached step b s (messages.map .message) = (b, leftover b.handle s messages) := by
  induction messages generalizing s with
  | nil => exact ⟨rfl, rfl, rfl⟩
  | cons m messages ih =>
    obtain ⟨hreturned, hjournal, hreached⟩ := ih ((b.handle m).run s).source
    refine ⟨?_, congrArg (((b.handle m).run s).journal ++ ·) hjournal, hreached⟩
    have hfirst : ChatResult.returned (((b.handle m).run s).result.map .reply) =
        [((b.handle m).run s).result] := by
      cases ((b.handle m).run s).result <;> rfl
    exact congrArg₂ (· ++ ·) hfirst hreturned

/-- A delivery comes to its calls, made as messages one after another. -/
theorem deliver_eq_messages (b : Bot) (s : σ) (transport : Text) (m : Message) :
    let calls : List ChatStep := List.replicate (b.attached.count transport) (.message m)
    let own := b.transcript s calls
    let o := (b.step (.deliver transport m)).2.run s
    ChatResult.returned o.result = (own.flatMap fun o => ChatResult.returned o.result) ∧
      o.journal = (own.flatMap fun o => o.journal) ∧ reached step b s calls = (b, o.source) := by
  intro calls own o
  have hcalls : calls = (List.replicate (b.attached.count transport) m).map .message :=
    List.map_replicate.symm
  have ho : o = _ := congrArg (fun o : Outcome σ _ => o.map ChatResult.replies)
    (run_mapM_attempt b.handle s (List.replicate (b.attached.count transport) m))
  obtain ⟨hreturned, hjournal, hreached⟩ :=
    b.transcript_messages s (List.replicate (b.attached.count transport) m)
  rw [ho]
  simp only [own, hcalls]
  exact ⟨hreturned.symm, hjournal.symm, hreached⟩

end Bot
end Runs
end DiceBot
