import Mathlib
import DiceBot.Fault
import DiceBot.Proofs.Chat.Posts

/-!
# Which settings are accepted

An environment is accepted when its prefix is a single character that is not blank and its help
trigger a word without blanks. A refusal names the one at fault, the prefix if both are. The bot of
accepted settings tells a request for help by those of its characters that are not blank.
-/

namespace DiceBot

namespace Settings

variable {e : Environment} {s : Settings}

def UsablePrefix (t : Text) : Prop := ∃ c, t = [c] ∧ Text.isBlank c = false

def UsableTrigger (t : Text) : Prop := t ≠ [] ∧ ∀ c ∈ t, Text.isBlank c = false

def value (s : Settings) : Variable → Text
  | .commandPrefix => [s.marker]
  | .helpTrigger => s.helpTrigger
  | .deployment => s.deployment
  | .logLevel => s.logLevel

theorem marker?_singleton {c : Char} (h : Text.isBlank c = false) : marker? [c] = some ⟨c, h⟩ := by
  rw [marker?, dif_pos h]

theorem marker?_eq_none_iff {t : Text} : marker? t = none ↔ ¬ UsablePrefix t := by
  refine ⟨fun h husable => ?_, fun h => ?_⟩
  · obtain ⟨c, rfl, hc⟩ := husable
    rw [marker?_singleton hc] at h
    cases h
  · unfold marker?
    split
    · rename_i c
      exact dif_neg fun hc => h ⟨c, rfl, hc⟩
    · rfl

theorem usableTrigger_iff {t : Text} : UsableTrigger t ↔ t ≠ [] ∧ Text.squeezed t = t := by
  rw [UsableTrigger, Text.squeezed_eq_self_iff]

theorem usablePrefix_value (s : Settings) : UsablePrefix (s.value .commandPrefix) :=
  ⟨s.marker, rfl, s.marker_not_blank⟩

theorem usableTrigger_value (s : Settings) : UsableTrigger (s.value .helpTrigger) :=
  ⟨s.trigger_ne_nil, s.trigger_not_blank⟩

theorem ofEnvironment_of_not_usablePrefix (h : ¬ UsablePrefix (e.value .commandPrefix)) :
    ofEnvironment e = .error .unusablePrefix := by
  rw [ofEnvironment, marker?_eq_none_iff.2 h]

theorem ofEnvironment_of_not_usableTrigger (hmarker : UsablePrefix (e.value .commandPrefix))
    (h : ¬ UsableTrigger (e.value .helpTrigger)) :
    ofEnvironment e = .error .unusableTrigger := by
  obtain ⟨c, hc, hblank⟩ := hmarker
  rw [usableTrigger_iff] at h
  rw [ofEnvironment, hc, marker?_singleton hblank]
  exact dif_neg h

theorem ofEnvironment_eq_ok_iff : ofEnvironment e = .ok s ↔ ∀ v, e.value v = s.value v := by
  by_cases hmarker : UsablePrefix (e.value .commandPrefix)
  · by_cases htrigger : UsableTrigger (e.value .helpTrigger)
    · obtain ⟨c, hc, hblank⟩ := hmarker
      rw [ofEnvironment, hc, marker?_singleton hblank]
      dsimp only
      rw [dif_pos (usableTrigger_iff.1 htrigger)]
      refine ⟨fun h v => ?_, fun h => ?_⟩
      · obtain rfl := Except.ok.inj h
        cases v with
        | commandPrefix => exact hc
        | _ => rfl
      · obtain ⟨marker, trigger, deployment, logLevel, _, _, _⟩ := s
        obtain rfl : c = marker := List.singleton_injective (hc.symm.trans (h .commandPrefix))
        obtain rfl : e.value .helpTrigger = trigger := h .helpTrigger
        obtain rfl : e.value .deployment = deployment := h .deployment
        obtain rfl : e.value .logLevel = logLevel := h .logLevel
        rfl
    · rw [ofEnvironment_of_not_usableTrigger hmarker htrigger]
      refine ⟨nofun, fun h => ?_⟩
      exact absurd (h .helpTrigger ▸ s.usableTrigger_value) htrigger
  · rw [ofEnvironment_of_not_usablePrefix hmarker]
    refine ⟨nofun, fun h => ?_⟩
    exact absurd (h .commandPrefix ▸ s.usablePrefix_value) hmarker

theorem exists_ofEnvironment_eq_ok_iff :
    (∃ s, ofEnvironment e = .ok s) ↔
      UsablePrefix (e.value .commandPrefix) ∧ UsableTrigger (e.value .helpTrigger) := by
  refine ⟨fun ⟨s, hs⟩ => ?_, fun ⟨⟨c, hc, hblank⟩, htrigger⟩ => ?_⟩
  · rw [ofEnvironment_eq_ok_iff] at hs
    rw [hs, hs]
    exact ⟨s.usablePrefix_value, s.usableTrigger_value⟩
  · refine ⟨⟨c, e.value .helpTrigger, e.value .deployment, e.value .logLevel, hblank, htrigger.1,
      htrigger.2⟩, ofEnvironment_eq_ok_iff.2 fun v => ?_⟩
    cases v with
    | commandPrefix => exact hc
    | _ => rfl

theorem key_of_ofEnvironment (e : Environment) :
    (¬ UsablePrefix (e.value .commandPrefix) → ∃ err, ofEnvironment e = .error err ∧
      err.fault.key? = some "COMMAND_PREFIX".toList) ∧
    (UsablePrefix (e.value .commandPrefix) → ¬ UsableTrigger (e.value .helpTrigger) →
      ∃ err, ofEnvironment e = .error err ∧ err.fault.key? = some "HELP_TRIGGER".toList) :=
  ⟨fun h => ⟨_, ofEnvironment_of_not_usablePrefix h, rfl⟩,
    fun hmarker h => ⟨_, ofEnvironment_of_not_usableTrigger hmarker h, rfl⟩⟩

end Settings

section Help

open Play

variable {σ : Type} [DieSource σ]

theorem Responder.reply_eq_help_iff (r : Responder) (raw : Text) (s : σ) :
    ((r.reply raw).run s).result = .ok helpMessage ↔ Text.squeezed raw = r.helpTrigger := by
  rw [reply, run_map, ← isHelp_iff]
  refine ⟨fun h => ?_, fun h => by rw [run_answer_of_isHelp h, Except.map]⟩
  cases ha : ((r.answer raw).run s).result with
  | error e =>
    rw [ha] at h
    cases h
  | ok a =>
    rw [ha] at h
    exact (text_tells_case ha).1.1 (Except.ok.inj h)

theorem Bot.handle_eq_help_iff (b : Bot) {m : Message} {w : Text} (hm : m.text = b.marker ++ w)
    (s : σ) :
    ((b.handle m).run s).result = .ok (some (address m.sender helpMessage)) ↔
      Text.squeezed w = b.responder.helpTrigger := by
  have hformula : b.formula? m.text = some w := Text.after?_eq_some_iff.2 hm
  rw [← b.responder.reply_eq_help_iff w s, (b.run_handle m s).1, respond, hformula]
  dsimp only
  rw [run_map]
  cases ((b.responder.reply w).run s).result <;> simp [Except.map, address]

end Help
end DiceBot
