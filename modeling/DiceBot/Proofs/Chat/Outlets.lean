import DiceBot.Proofs.Chat.Posts

/-!
# The transport that carries a reply

A bot is called by every transport that it was attached to, and speaks through the last of them. So
a message that is delivered by a transport is answered through it just if this is the last one.
Where a bot has been attached to several transports, the answers to the others go astray.
-/

namespace DiceBot

def ChatStep.attachments (steps : List ChatStep) : List Text :=
  steps.filterMap fun
    | .attach transport => some transport
    | _ => none

def ChatResult.said (result : Except Exhausted ChatResult) : List Text :=
  (returned result).filterMap fun r => r.toOption.join

/-- All that is said goes out through one transport and on one channel, and nothing else does. -/
def Outcome.SpeaksThrough {σ : Type} (o : Outcome σ ChatResult) (transport channel : Text) : Prop :=
  o.journal.posts = (ChatResult.said o.result).map fun reply => ⟨transport, channel, reply⟩

theorem Outcome.SpeaksThrough.iff {σ : Type} {o : Outcome σ ChatResult} {last channel : Text}
    (h : o.SpeaksThrough last channel) (transport : Text) :
    o.SpeaksThrough transport channel ↔ transport = last ∨ ChatResult.said o.result = [] := by
  constructor
  · intro ht
    cases hsaid : ChatResult.said o.result with
    | nil => exact .inr rfl
    | cons reply replies =>
      rw [SpeaksThrough, hsaid] at h ht
      have hposts := ht.symm.trans h
      exact .inl (congrArg Post.transport (List.cons.inj hposts).1)
  · rintro (rfl | hsaid)
    · exact h
    · rw [SpeaksThrough, hsaid] at h ⊢
      exact h

theorem Call.post?_of_outlet {c : Call} {transport : Text} (h : c.outlet = some transport)
    (returned : Except Exhausted (Option Text)) :
    c.post? returned =
      returned.toOption.join.map fun reply => ⟨transport, c.message.channel, reply⟩ := by
  obtain ⟨outlet, message⟩ := c
  obtain rfl : outlet = some transport := h
  cases returned with
  | error e => rfl
  | ok r => cases r <;> rfl

namespace Bot

open Play

variable {σ : Type} [DieSource σ]

theorem attached_reached (b : Bot) (s : σ) (steps : List ChatStep) :
    (reached step b s steps).1.attached = b.attached ++ ChatStep.attachments steps := by
  induction steps generalizing b s with
  | nil => exact (List.append_nil _).symm
  | cons x steps ih =>
    rw [reached, ih]
    cases x with
    | attach transport => exact List.append_assoc ..
    | _ => rfl

theorem fst_of_mem_answered {b : Bot} {s : σ} {n : Nat} {c : Call}
    {x : Call × Outcome σ (Option Text)} (h : x ∈ b.answered s (List.replicate n c)) : x.1 = c := by
  have hcalls : (b.answered s (List.replicate n c)).map Prod.fst = List.replicate n c :=
    map_fst_series _ s _
  exact List.eq_of_mem_replicate (hcalls ▸ List.mem_map_of_mem h)

theorem speaksThrough_deliver {b : Bot} {last : Text} (hlast : b.attached.getLast? = some last)
    (transport : Text) (m : Message) (s : σ) :
    ((b.step (.deliver transport m)).2.run s).SpeaksThrough last m.channel := by
  obtain ⟨⟨hreturned, hposts, -⟩, -⟩ := b.run_step (.deliver transport m) s
  rw [Outcome.SpeaksThrough, hposts, ChatResult.said, hreturned, List.filterMap_map,
    List.map_filterMap]
  refine List.filterMap_congr fun x hx => ?_
  have hcall : x.1 = ⟨b.attached.getLast?, m⟩ := fst_of_mem_answered hx
  rw [hcall, Call.post?_of_outlet hlast]
  rfl

theorem silent_deliver {b : Bot} {transport : Text} (h : transport ∉ b.attached) (m : Message)
    (s : σ) :
    let o := (b.step (.deliver transport m)).2.run s
    ChatResult.said o.result = [] ∧ o.journal.posts = [] := by
  obtain ⟨⟨hreturned, hposts, -⟩, -⟩ := b.run_step (.deliver transport m) s
  have hnone : ChatStep.calls b.attached (.deliver transport m) = [] := by
    rw [ChatStep.calls, List.count_eq_zero_of_not_mem h]
    rfl
  rw [hnone] at hreturned hposts
  exact ⟨by rw [ChatResult.said, hreturned]; rfl, hposts⟩

/-- A message that is delivered in a run is answered through the transport that the bot was attached
to last before, on the channel of the message, and through no other. So the transport that delivers
it gets the answers just if it is the last one, or if there are none, and always if it is the only
one. A transport that the bot was not attached to brings no answers. -/
theorem speaksThrough_last_attached (b : Bot) (s : σ) (before : List ChatStep) (transport : Text)
    (m : Message) (after : List ChatStep) :
    let attached := b.attached ++ ChatStep.attachments before
    ∃ o, (b.transcript s (before ++ .deliver transport m :: after))[before.length]? = some o ∧
      (transport ∉ attached → ChatResult.said o.result = [] ∧ o.journal.posts = []) ∧
      (transport ∈ attached → ∃ last, attached.getLast? = some last ∧
        o.SpeaksThrough last m.channel ∧
        (o.SpeaksThrough transport m.channel ↔
          transport = last ∨ ChatResult.said o.result = []) ∧
        ((∀ t ∈ attached, t = transport) → o.SpeaksThrough transport m.channel)) := by
  intro attached
  let now := reached step b s before
  have hattached : now.1.attached = attached := b.attached_reached s before
  refine ⟨_, getElem?_transcript step b s before (.deliver transport m) after, fun h => ?_,
    fun h => ?_⟩
  · exact silent_deliver (hattached ▸ h) m now.2
  · have hlast := List.getLast?_eq_some_getLast (List.ne_nil_of_mem h)
    have hnow := (congrArg List.getLast? hattached).trans hlast
    have hspeaks := speaksThrough_deliver hnow transport m now.2
    refine ⟨_, hlast, hspeaks, hspeaks.iff transport, fun hall => ?_⟩
    exact (hspeaks.iff transport).2 (.inl (hall _ (List.mem_of_getLast? hlast)).symm)

theorem speaksThrough_last_attached_one_transport :
    let bot : Bot := ⟨⟨defaultHelpTrigger⟩, [defaultMarker], []⟩
    let roll : Message := ⟨"ann".toList, "games".toList, "!1d6".toList⟩
    let before : List ChatStep := [.attach "irc".toList, .message roll, .attach "irc".toList]
    let faces : ScriptedFaces := ⟨[2, 4, 5]⟩
    ∃ o, (bot.transcript faces (before ++ [.deliver "irc".toList roll]))[3]? = some o ∧
      ChatResult.said o.result = ["ann, 1d6: [4 1d6=4]".toList, "ann, 1d6: [5 1d6=5]".toList] ∧
      o.SpeaksThrough "irc".toList "games".toList := by
  intro bot roll before faces
  obtain ⟨o, ho, -, hdelivered⟩ :=
    bot.speaksThrough_last_attached faces before "irc".toList roll []
  obtain ⟨-, -, -, -, hsole⟩ := hdelivered (by decide)
  have hsaid : ((bot.transcript faces (before ++ [.deliver "irc".toList roll]))[3]?).map
      (fun o => ChatResult.said o.result) =
      some ["ann, 1d6: [4 1d6=4]".toList, "ann, 1d6: [5 1d6=5]".toList] := by cbv
  rw [show _[3]? = some o from ho] at hsaid
  exact ⟨o, ho, Option.some.inj hsaid, hsole (by decide)⟩

theorem not_speaksThrough_of_two_transports :
    ¬ ∀ (b : Bot) (s : ScriptedFaces) (before : List ChatStep) (transport : Text) (m : Message),
      transport ∈ b.attached ++ ChatStep.attachments before →
      ∀ o, (b.transcript s (before ++ [.deliver transport m]))[before.length]? = some o →
        o.SpeaksThrough transport m.channel := by
  intro h
  let bot : Bot := ⟨⟨defaultHelpTrigger⟩, [defaultMarker], []⟩
  let roll : Message := ⟨"ann".toList, "games".toList, "!1d6".toList⟩
  let before : List ChatStep := [.attach "irc".toList, .attach "web".toList]
  have ho : (bot.transcript (⟨[4]⟩ : ScriptedFaces) (before ++ [.deliver "irc".toList roll]))[2]? =
      some ⟨.ok (.replies [.ok (some "ann, 1d6: [4 1d6=4]".toList)]), ⟨[]⟩,
        [.drew ⟨6, 4⟩,
          .logged (.evaluated "1d6".toList [4] "1d6: [4 1d6=4]".toList),
          .logged (.replying "ann".toList "games".toList),
          .posted ⟨"web".toList, "games".toList, "ann, 1d6: [4 1d6=4]".toList⟩]⟩ := by cbv
  have hposts := h bot ⟨[4]⟩ before "irc".toList roll (by decide) _ ho
  have hirc : ("web".toList : Text) = "irc".toList :=
    congrArg Post.transport (List.cons.inj hposts).1
  exact absurd hirc (by decide)

end Bot
end DiceBot
