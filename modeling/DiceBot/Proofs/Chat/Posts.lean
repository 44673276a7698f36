import DiceBot.Proofs.Chat.Turns

/-!
# What a bot posts

Each step of a chat comes to some calls of the bot: one for a message, and for a delivery one for
each time that the bot was attached to the transport. What is posted in a run are the replies of
these calls, each through the transport that the bot was attached to last before the call.
-/

namespace DiceBot

/-- A message that the bot is called with, and the transport it was attached to last before. -/
structure Call where
  outlet : Option Text
  message : Message
deriving DecidableEq, Repr

def Call.post? (c : Call) (returned : Except Exhausted (Option Text)) : Option Post :=
  match c.outlet, returned with
  | some transport, .ok (some reply) => some ⟨transport, c.message.channel, reply⟩
  | _, _ => none

namespace ChatStep

def calls (attached : List Text) : ChatStep → List Call
  | .extract _ | .attach _ => []
  | .message m => [⟨attached.getLast?, m⟩]
  | .deliver transport m => List.replicate (attached.count transport) ⟨attached.getLast?, m⟩

def allCalls : List Text → List ChatStep → List (List Call)
  | _, [] => []
  | attached, .attach transport :: xs => [] :: allCalls (attached ++ [transport]) xs
  | attached, x :: xs => x.calls attached :: allCalls attached xs

end ChatStep

def ChatResult.returned : Except Exhausted ChatResult → List (Except Exhausted (Option Text))
  | .ok (.formula _) | .ok .attached => []
  | .ok (.reply r) => [.ok r]
  | .ok (.replies rs) => rs
  | .error e => [.error e]

structure Call.Account {σ : Type} (o : Outcome σ ChatResult)
    (own : List (Call × Outcome σ (Option Text))) : Prop where
  returned : ChatResult.returned o.result = own.map fun x => x.2.result
  posts : o.journal.posts = own.filterMap fun x => x.1.post? x.2.result
  draws : o.journal.draws = own.flatMap fun x => x.2.journal.draws

section Writes

open Play

variable {σ : Type} [DieSource σ] {kind : Event → Prop}

theorem Responder.writes_answer (r : Responder) (raw : Text) (hdrew : ∀ d, kind (.drew d))
    (hlogged : ∀ l, kind (.logged l)) : Writes kind (r.answer raw : Play σ Answer) := by
  have hroll : Writes kind (roll raw : Play σ (Except Rejection Report)) := by
    cases h : Formula.parse raw with
    | error e =>
      rw [roll, h]
      exact (writes_tell (hlogged _)).bind fun _ => writes_pure _
    | ok f =>
      rw [roll_of_parse h]
      exact (f.follows_roll.writes hdrew).map _
  rw [answer]
  split
  · exact writes_pure _
  · refine hroll.bind fun rolled => ?_
    cases rolled <;> exact (writes_tell (hlogged _)).bind fun _ => writes_pure _

namespace Bot

def respond (b : Bot) (m : Message) : Play σ (Option Text) :=
  match b.formula? m.text with
  | none => return none
  | some formula => (fun text => some (address m.sender text)) <$> b.responder.reply formula

theorem writes_respond (b : Bot) (m : Message) (hdrew : ∀ d, kind (.drew d))
    (hlogged : ∀ l, kind (.logged l)) : Writes kind (b.respond m : Play σ (Option Text)) := by
  rw [respond]
  cases b.formula? m.text with
  | none => exact writes_pure none
  | some raw => exact ((b.responder.writes_answer raw hdrew hlogged).map _).map _

def announce (b : Bot) (m : Message) : Option Text → Play σ (Option Text)
  | none => return none
  | some reply => do
    Play.log (.replying m.sender m.channel)
    b.post m.channel reply
    return some reply

theorem handle_eq (b : Bot) (m : Message) :
    (b.handle m : Play σ (Option Text)) = b.respond m >>= b.announce m := by
  rw [handle, respond]
  cases b.formula? m.text with
  | none => rw [pure_bind]; rfl
  | some raw => rw [bind_map_left]; rfl

theorem writes_handle (b : Bot) (m : Message) (hdrew : ∀ d, kind (.drew d))
    (hlogged : ∀ l, kind (.logged l)) (hposted : ∀ p, kind (.posted p)) :
    Writes kind (b.handle m : Play σ (Option Text)) := by
  rw [handle_eq]
  refine (b.writes_respond m hdrew hlogged).bind fun reply => ?_
  cases reply with
  | none => exact writes_pure none
  | some reply =>
    have hpost : Writes kind (b.post m.channel reply : Play σ Unit) := by
      rw [post]
      split
      · exact writes_pure ()
      · exact writes_tell (hposted _)
    exact (writes_tell (hlogged _)).bind fun _ => hpost.bind fun _ => writes_pure _

end Bot
end Writes

namespace Bot

open Play

variable {σ : Type} [DieSource σ]

def answered (b : Bot) : σ → List Call → List (Call × Outcome σ (Option Text)) :=
  series fun c => b.respond c.message

theorem respond_eq_none_iff (b : Bot) (m : Message) (s : σ) :
    ((b.respond m).run s).result = .ok none ↔ ¬ b.marker <+: m.text := by
  have hformula : b.formula? m.text = none ↔ ¬ b.marker <+: m.text := by
    rw [formula?, Option.eq_none_iff_forall_ne_some]
    refine ⟨fun h hpre => ?_, fun h raw hraw => ?_⟩
    · obtain ⟨raw, hraw⟩ := hpre
      exact h raw (Text.after?_eq_some_iff.2 hraw.symm)
    · exact h ⟨raw, (Text.after?_eq_some_iff.1 hraw).symm⟩
  rw [← hformula, respond]
  cases b.formula? m.text with
  | none => simp
  | some raw =>
    rw [run_map]
    cases ((b.responder.reply raw).run s).result <;> simp [Except.map]

theorem posts_respond (b : Bot) (m : Message) (s : σ) :
    ((b.respond m).run s).journal.posts = [] := by
  have hwrites : Writes (fun e => e.post? = none) (b.respond m : Play σ (Option Text)) :=
    b.writes_respond m (fun _ => rfl) fun _ => rfl
  exact List.filterMap_eq_nil_iff.2 (hwrites s)

omit [DieSource σ] in
theorem run_announce (b : Bot) (m : Message) (r : Option Text) (s : σ) :
    ∃ j, (b.announce m r).run s = ⟨.ok r, s, j⟩ ∧ j.draws = [] ∧
      j.posts = (Call.post? ⟨b.outlet?, m⟩ (.ok r)).toList := by
  cases r with
  | none => exact ⟨[], rfl, rfl, by cases h : b.outlet? <;> rfl⟩
  | some reply =>
    rw [announce, post]
    cases b.outlet? with
    | none => exact ⟨_, rfl, rfl, rfl⟩
    | some transport => exact ⟨_, rfl, rfl, rfl⟩

theorem run_handle (b : Bot) (m : Message) (s : σ) :
    let o := (b.handle m).run s
    let own := (b.respond m).run s
    o.result = own.result ∧ o.source = own.source ∧ o.journal.draws = own.journal.draws ∧
      o.journal.posts = (Call.post? ⟨b.outlet?, m⟩ own.result).toList := by
  intro o own
  have hposts := b.posts_respond m s
  simp only [o, own, handle_eq]
  cases h : ((b.respond m).run s).result with
  | error e =>
    have hnone : Call.post? ⟨b.outlet?, m⟩ (.error e) = none := by cases b.outlet? <;> rfl
    rw [run_bind_of_error h, hnone]
    exact ⟨rfl, rfl, rfl, hposts⟩
  | ok r =>
    obtain ⟨j, hrun, hdraws, hj⟩ := b.run_announce m r ((b.respond m).run s).source
    rw [run_bind_of_ok h, hrun]
    refine ⟨rfl, rfl, ?_, ?_⟩
    · rw [Journal.draws_append, hdraws, List.append_nil]
    · rw [Journal.posts_append, hposts, hj, List.nil_append]

theorem series_handle (b : Bot) (s : σ) (messages : List Message) :
    let handled := series b.handle s messages
    let own := b.answered s (messages.map fun m => ⟨b.outlet?, m⟩)
    handled.map (fun x => x.2.result) = own.map (fun x => x.2.result) ∧
      leftover b.handle s messages =
        leftover (fun c : Call => b.respond c.message) s (messages.map fun m => ⟨b.outlet?, m⟩) ∧
      Journal.posts (handled.flatMap fun x => x.2.journal) =
        own.filterMap (fun x => x.1.post? x.2.result) ∧
      Journal.draws (handled.flatMap fun x => x.2.journal) =
        own.flatMap fun x => x.2.journal.draws := by
  induction messages generalizing s with
  | nil => exact ⟨rfl, rfl, rfl, rfl⟩
  | cons m messages ih =>
    obtain ⟨hresult, hsource, hdraws, hposts⟩ := b.run_handle m s
    obtain ⟨ihresult, ihsource, ihposts, ihdraws⟩ := ih ((b.respond m).run s).source
    rw [series, leftover, List.foldl_cons, hsource]
    refine ⟨congrArg₂ List.cons hresult ihresult, ihsource, ?_, ?_⟩
    · rw [List.flatMap_cons, Journal.posts_append, hposts, ihposts]
      change _ = (((⟨b.outlet?, m⟩ : Call), (b.respond m).run s) :: _).filterMap _
      rw [List.filterMap_cons]
      cases Call.post? ⟨b.outlet?, m⟩ ((b.respond m).run s).result <;> rfl
    · rw [List.flatMap_cons, Journal.draws_append, hdraws, ihdraws]
      rfl

theorem run_calls (b : Bot) (m : Message) (s : σ) (n : Nat) :
    let calls : List Call := List.replicate n ⟨b.outlet?, m⟩
    let o := ((List.replicate n m).mapM fun m => attempt (b.handle m)).run s
    o.result = .ok ((b.answered s calls).map fun x => x.2.result) ∧
      o.source = leftover (fun c : Call => b.respond c.message) s calls ∧
      o.journal.posts = (b.answered s calls).filterMap (fun x => x.1.post? x.2.result) ∧
      o.journal.draws = (b.answered s calls).flatMap fun x => x.2.journal.draws := by
  obtain ⟨hresult, hsource, hposts, hdraws⟩ := b.series_handle s (List.replicate n m)
  rw [List.map_replicate] at hresult hsource hposts hdraws
  rw [run_mapM_attempt]
  exact ⟨congrArg Except.ok hresult, hsource, hposts, hdraws⟩

theorem run_step (b : Bot) (x : ChatStep) (s : σ) :
    Call.Account ((b.step x).2.run s) (b.answered s (x.calls b.attached)) ∧
      leftover (fun c : Call => b.respond c.message) s (x.calls b.attached) =
        ((b.step x).2.run s).source := by
  cases x with
  | extract text => exact ⟨⟨rfl, rfl, rfl⟩, rfl⟩
  | attach transport => exact ⟨⟨rfl, rfl, rfl⟩, rfl⟩
  | message m =>
    obtain ⟨hresult, hsource, hdraws, hposts⟩ := b.run_handle m s
    refine ⟨⟨?_, ?_, hdraws.trans (List.append_nil _).symm⟩, hsource.symm⟩
    · change ChatResult.returned (((b.handle m).run s).result.map .reply) =
        [((b.respond m).run s).result]
      rw [hresult]
      cases ((b.respond m).run s).result <;> rfl
    · change ((b.handle m).run s).journal.posts =
        [((⟨b.outlet?, m⟩ : Call), (b.respond m).run s)].filterMap fun x => x.1.post? x.2.result
      rw [hposts, List.filterMap_cons]
      cases Call.post? ⟨b.outlet?, m⟩ ((b.respond m).run s).result <;> rfl
  | deliver transport m =>
    obtain ⟨hresult, hsource, hposts, hdraws⟩ := b.run_calls m s (b.attached.count transport)
    refine ⟨⟨?_, hposts, hdraws⟩, hsource.symm⟩
    change ChatResult.returned (((b.deliver transport m).run s).result.map .replies) = _
    rw [deliver, hresult]
    rfl

theorem standIns_step (b : Bot) (steps : List ChatStep) :
    standIns (step (σ := σ)) (fun b x => x.calls b.attached) b steps =
      ChatStep.allCalls b.attached steps := by
  induction steps generalizing b with
  | nil => rfl
  | cons x steps ih => cases x <;> exact congrArg (_ :: ·) (ih _)

theorem exists_accounts (b : Bot) (s : σ) (steps : List ChatStep) :
    ∃ shares : List (List (Call × Outcome σ (Option Text))),
      shares.flatten = b.answered s (ChatStep.allCalls b.attached steps).flatten ∧
      shares.map (List.map Prod.fst) = ChatStep.allCalls b.attached steps ∧
      List.Forall₂ Call.Account (b.transcript s steps) shares := by
  -- the bot is attached to more transports as the run goes on, and its replies do not depend on it
  let Same (b' : Bot) : Prop := ∃ attached, b' = { b with attached := attached }
  have hstep : ∀ x ∈ steps, ∀ (b' : Bot) (s : σ), Same b' →
      Call.Account ((b'.step x).2.run s) (b.answered s (x.calls b'.attached)) ∧
      leftover (fun c : Call => b.respond c.message) s (x.calls b'.attached) =
        ((b'.step x).2.run s).source ∧ Same (b'.step (σ := σ) x).1 := by
    intro x _ b' s hb
    obtain ⟨attached, rfl⟩ := hb
    obtain ⟨haccount, hsource⟩ := run_step { b with attached := attached } x s
    exact ⟨haccount, hsource, by cases x <;> exact ⟨_, rfl⟩⟩
  obtain ⟨shares, hflat, hcalls, hall⟩ := exists_shares step (fun c : Call => b.respond c.message)
    (fun b x => x.calls b.attached) Same (fun _ => Call.Account) hstep ⟨b.attached, rfl⟩ s
  rw [standIns_step] at hflat hcalls
  refine ⟨shares, hflat, hcalls, ?_⟩
  have hrun : (steps.zip (b.transcript s steps)).map Prod.snd = b.transcript s steps :=
    List.map_snd_zip (Nat.le_of_eq (length_transcript ..))
  rw [← hrun, List.forall₂_map_left_iff]
  exact hall

/-- What is posted in a run is, call by call, the reply that is returned, on the message's channel
and through the transport attached last. Each call replies as a bot without transports does, one
call after another on the same source, and a message without the marker has no reply. A step does
what its own calls do and nothing else. -/
theorem posts_of_transcript (b : Bot) (s : σ) (steps : List ChatStep) :
    let run := b.transcript s steps
    let calls := (ChatStep.allCalls b.attached steps).flatten
    let returns := run.flatMap fun o => ChatResult.returned o.result
    returns = (b.answered s calls).map (fun x => x.2.result) ∧
    (run.flatMap fun o => o.journal.posts) =
      (calls.zip returns).filterMap (fun x => x.1.post? x.2) ∧
    (∀ x ∈ b.answered s calls, x.2.result = .ok none ↔ ¬ b.marker <+: x.1.message.text) ∧
    ∃ shares : List (List (Call × Outcome σ (Option Text))),
      shares.flatten = b.answered s calls ∧
      shares.map (List.map Prod.fst) = ChatStep.allCalls b.attached steps ∧
      List.Forall₂ Call.Account run shares := by
  intro run calls returns
  obtain ⟨shares, hflat, hcalls, haccounts⟩ := b.exists_accounts s steps
  have hreturns : returns = (b.answered s calls).map fun x => x.2.result := by
    have h := flatMap_of_forall₂ (haccounts.imp fun _ _ h => h.returned)
    refine h.trans ?_
    rw [List.flatMap_def, ← List.map_flatten, hflat]
  have hposts : (run.flatMap fun o => o.journal.posts) =
      (b.answered s calls).filterMap fun x => x.1.post? x.2.result := by
    have h := flatMap_of_forall₂ (haccounts.imp fun _ _ h => h.posts)
    refine h.trans ?_
    rw [List.flatMap_def, ← List.filterMap_flatten, hflat]
  refine ⟨hreturns, ?_, ?_, shares, hflat, hcalls, haccounts⟩
  · have hcalls : (b.answered s calls).map Prod.fst = calls := map_fst_series _ s calls
    have hzip : calls.zip returns = (b.answered s calls).map fun x => (x.1, x.2.result) :=
      calc calls.zip returns
        _ = ((b.answered s calls).map Prod.fst).zip
              ((b.answered s calls).map fun x => x.2.result) := by rw [hcalls, hreturns]
        _ = (b.answered s calls).map fun x => (x.1, x.2.result) := List.zip_map'
    rw [hposts, hzip, List.filterMap_map]
    rfl
  · intro x hx
    obtain ⟨s', hx'⟩ := exists_run_of_mem_series _ hx
    rw [hx']
    exact b.respond_eq_none_iff x.1.message s'

theorem posts_of_transcript_two_transports :
    let bot : Bot := ⟨⟨defaultHelpTrigger⟩, [defaultMarker], ["irc".toList]⟩
    let roll : Message := ⟨"ann".toList, "games".toList, "!2d6".toList⟩
    let chat : Message := ⟨"bob".toList, "games".toList, "2d6".toList⟩
    let steps : List ChatStep := [.message roll, .attach "web".toList, .deliver "irc".toList roll,
      .attach "irc".toList, .deliver "irc".toList chat, .deliver "web".toList roll]
    let faces : ScriptedFaces := ⟨[6, 2, 3, 3, 1]⟩
    let calls := (ChatStep.allCalls bot.attached steps).flatten
    let ignored : Call × Outcome ScriptedFaces (Option Text) :=
      (⟨some "irc".toList, chat⟩, ⟨.ok none, ⟨[1]⟩, []⟩)
    ((bot.transcript faces steps).flatMap fun o => o.journal.posts) =
        [⟨"irc".toList, "games".toList, "ann, 2d6: [8 2d6=2,6]".toList⟩,
          ⟨"web".toList, "games".toList, "ann, 2d6: [6 2d6=3,3]".toList⟩] ∧
      calls.map Call.message = [roll, roll, chat, chat, roll] ∧
      ignored ∈ bot.answered faces calls ∧ ¬ bot.marker <+: chat.text := by
  intro bot roll chat steps faces calls ignored
  obtain ⟨-, hposts, hreply, -⟩ := bot.posts_of_transcript faces steps
  have hmem : ignored ∈ bot.answered faces calls := by
    refine List.mem_of_getElem? (i := 2) ?_
    cbv
  refine ⟨hposts.trans ?_, ?_, hmem, (hreply ignored hmem).1 rfl⟩
  · cbv
  · decide

end Bot
end DiceBot
