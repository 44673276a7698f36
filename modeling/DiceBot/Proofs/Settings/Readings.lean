import DiceBot.Proofs.Settings.Accepted

/-!
# Readings that are kept

The first settings that can be had after the settings were dropped are kept, and every later attempt
gives that very reading until they are dropped again, whatever becomes of the environment. An
attempt on an unusable environment keeps nothing. Readings are numbered, and only attempts to get
the kept one ever give the same number twice.
-/

namespace DiceBot

def ConfigurationStep.changed (e : Environment) : ConfigurationStep → Environment
  | .assign changes => changes.foldl (fun e change => e.assign change.1 change.2) e
  | .drop | .read | .current => e

namespace Configuration

def after (c : Configuration) (past : List ConfigurationStep) : Configuration :=
  past.foldl (fun c x => (c.step x).1) c

theorem after_append (c : Configuration) (past steps : List ConfigurationStep) :
    c.after (past ++ steps) = (c.after past).after steps := List.foldl_append

theorem after_cons (c : Configuration) (x : ConfigurationStep) (steps : List ConfigurationStep) :
    c.after (x :: steps) = (c.step x).1.after steps := rfl

theorem after_concat (c : Configuration) (past : List ConfigurationStep) (x : ConfigurationStep) :
    c.after (past ++ [x]) = ((c.after past).step x).1 := c.after_append past [x]

theorem getElem?_results (c : Configuration) (past : List ConfigurationStep)
    (x : ConfigurationStep) (rest : List ConfigurationStep) :
    (c.results (past ++ x :: rest))[past.length]? = some ((c.after past).step x).2 := by
  induction past generalizing c with
  | nil => rfl
  | cons y past ih => exact ih _

theorem assignAll_eq (c : Configuration) (changes : List (Variable × Option Text)) :
    c.assignAll changes =
      { c with environment := changes.foldl (fun e x => e.assign x.1 x.2) c.environment } := by
  induction changes generalizing c with
  | nil => rfl
  | cons change changes ih => exact ih (c.assign change.1 change.2)

/-- All that a step can do: what becomes of the configuration, and what is given. -/
inductive Effect (c : Configuration) :
    ConfigurationStep → Configuration → ConfigurationResult → Prop
  | assigned (changes : List (Variable × Option Text)) :
    Effect c (.assign changes)
      { c with environment := ConfigurationStep.changed c.environment (.assign changes) } .done
  | dropped : Effect c .drop { c with kept := none } .done
  | read (s : Settings) (h : Settings.ofEnvironment c.environment = .ok s) :
    Effect c .read { c with readings := c.readings + 1 } (.reading (.ok ⟨c.readings, s⟩))
  | unreadable (err : SettingsError) (h : Settings.ofEnvironment c.environment = .error err) :
    Effect c .read c (.reading (.error err))
  | again (r : Reading) (hkept : c.kept = some r) : Effect c .current c (.reading (.ok r))
  | first (s : Settings) (hkept : c.kept = none)
      (h : Settings.ofEnvironment c.environment = .ok s) :
    Effect c .current { c with kept := some ⟨c.readings, s⟩, readings := c.readings + 1 }
      (.reading (.ok ⟨c.readings, s⟩))
  | unusable (err : SettingsError) (hkept : c.kept = none)
      (h : Settings.ofEnvironment c.environment = .error err) :
    Effect c .current c (.reading (.error err))

theorem effect_step (c : Configuration) (x : ConfigurationStep) :
    Effect c x (c.step x).1 (c.step x).2 := by
  cases x with
  | assign changes =>
    rw [step, assignAll_eq]
    exact .assigned changes
  | drop => exact .dropped
  | read =>
    rw [step, Configuration.read]
    cases h : Settings.ofEnvironment c.environment with
    | error err => exact .unreadable err h
    | ok s => exact .read s h
  | current =>
    rw [step, current]
    cases hkept : c.kept with
    | some r => exact .again r hkept
    | none =>
      dsimp only
      rw [Configuration.read]
      cases h : Settings.ofEnvironment c.environment with
      | error err => exact .unusable err hkept h
      | ok s => exact .first s hkept h

section Step

variable {c c' : Configuration} {x : ConfigurationStep} {result : ConfigurationResult}

theorem Effect.environment_eq (h : Effect c x c' result) :
    c'.environment = x.changed c.environment := by
  cases h <;> rfl

theorem Effect.kept_eq {r : Reading} (h : Effect c x c' result) (hkept : c.kept = some r)
    (hx : x ≠ .drop) : c'.kept = some r := by
  cases h with
  | dropped => exact absurd rfl hx
  | first s hnone => cases hnone.symm.trans hkept
  | _ => exact hkept

theorem Effect.kept_eq_none {err : SettingsError} (h : Effect c x c' result)
    (hkept : c.kept = none) (henv : Settings.ofEnvironment c.environment = .error err) :
    c'.kept = none := by
  cases h with
  | dropped => rfl
  | first s _ hs => cases hs.symm.trans henv
  | again r hr => cases hkept.symm.trans hr
  | _ => exact hkept

theorem Effect.kept_before {r : Reading} (h : Effect c x c' result) (hkept : c'.kept = some r) :
    c.kept = some r ∧ x ≠ .drop ∨ x = .current ∧ result = .reading (.ok r) := by
  cases h with
  | dropped => cases hkept
  | first s => exact Or.inr ⟨rfl, by rw [Option.some.inj hkept]⟩
  | _ => exact Or.inl ⟨hkept, nofun⟩

def Numbered (c : Configuration) : Prop := ∀ r, c.kept = some r → r.serial < c.readings

theorem Effect.numbered (h : Effect c x c' result) (hc : c.Numbered) : c'.Numbered := by
  cases h with
  | dropped => exact nofun
  | read => exact fun r hr => Nat.lt_succ_of_lt (hc r hr)
  | first =>
    intro r hr
    obtain rfl := Option.some.inj hr
    exact Nat.lt_succ_self _
  | _ => exact hc

def Retired (c : Configuration) (serial : Nat) : Prop :=
  serial < c.readings ∧ ∀ r, c.kept = some r → r.serial ≠ serial

theorem Effect.retired {serial : Nat} (h : Effect c x c' result) (hc : c.Retired serial) :
    c'.Retired serial := by
  obtain ⟨hlt, hkept⟩ := hc
  cases h with
  | dropped => exact ⟨hlt, nofun⟩
  | read => exact ⟨Nat.lt_succ_of_lt hlt, hkept⟩
  | first =>
    refine ⟨Nat.lt_succ_of_lt hlt, fun r hr => ?_⟩
    obtain rfl := Option.some.inj hr
    exact Nat.ne_of_gt hlt
  | _ => exact ⟨hlt, hkept⟩

theorem Effect.serial_ne_of_retired {serial : Nat} {r : Reading}
    (h : Effect c x c' (.reading (.ok r))) (hc : c.Retired serial) : r.serial ≠ serial := by
  cases h with
  | again r hkept => exact hc.2 r hkept
  | _ => exact Nat.ne_of_gt hc.1

theorem Effect.retired_serial {r : Reading} (h : Effect c x c' (.reading (.ok r)))
    (hc : c.Numbered) : x = .current ∧ c'.kept = some r ∨ x = .read ∧ c'.Retired r.serial := by
  cases h with
  | read =>
    exact Or.inr ⟨rfl, Nat.lt_succ_self _, fun r hr => Nat.ne_of_lt (hc r hr)⟩
  | again r hkept => exact Or.inl ⟨rfl, hkept⟩
  | first => exact Or.inl ⟨rfl, rfl⟩

theorem Effect.serial_eq_iff {r r' : Reading} (h : Effect c x c' (.reading (.ok r')))
    (hc : c.Numbered) (hkept : c.kept = some r) : r.serial = r'.serial ↔ x = .current := by
  cases h with
  | read => exact iff_of_false (Nat.ne_of_lt (hc r hkept)) nofun
  | again r' hagain =>
    obtain rfl := Option.some.inj (hkept.symm.trans hagain)
    exact iff_of_true rfl rfl
  | first _ hnone => cases hnone.symm.trans hkept

end Step

section Steps

variable {c : Configuration} {steps : List ConfigurationStep}

theorem environment_after (c : Configuration) (steps : List ConfigurationStep) :
    (c.after steps).environment = steps.foldl ConfigurationStep.changed c.environment := by
  induction steps generalizing c with
  | nil => rfl
  | cons x steps ih => rw [after_cons, ih, (effect_step c x).environment_eq, List.foldl_cons]

theorem kept_after {r : Reading} (h : c.kept = some r) (hsteps : .drop ∉ steps) :
    (c.after steps).kept = some r :=
  List.foldlRecOn (motive := fun c => c.kept = some r) steps _ h fun c h x hx =>
    (effect_step c x).kept_eq h fun hdrop => hsteps (hdrop ▸ hx)

theorem kept_after_eq_none (h : c.kept = none)
    (henv : ∀ front x back, steps = front ++ x :: back →
      ∃ err, Settings.ofEnvironment (c.after front).environment = .error err) :
    (c.after steps).kept = none := by
  induction steps generalizing c with
  | nil => exact h
  | cons x steps ih =>
    obtain ⟨err, herr⟩ := henv [] x steps rfl
    refine ih ((effect_step c x).kept_eq_none h herr) fun front y back hsteps => ?_
    exact henv (x :: front) y back (congrArg (x :: ·) hsteps)

theorem numbered_after (h : c.Numbered) : (c.after steps).Numbered :=
  List.foldlRecOn steps _ h fun c h x _ => (effect_step c x).numbered h

theorem retired_after {serial : Nat} (h : c.Retired serial) : (c.after steps).Retired serial :=
  List.foldlRecOn (motive := fun c => c.Retired serial) steps _ h fun c h x _ =>
    (effect_step c x).retired h

theorem retired_after_drop {r : Reading} (hc : c.Numbered) (hkept : c.kept = some r)
    (h : .drop ∈ steps) : (c.after steps).Retired r.serial := by
  obtain ⟨front, back, rfl, hfront⟩ := List.eq_append_cons_of_mem h
  rw [after_append, after_cons]
  exact retired_after ⟨numbered_after hc r (kept_after hkept hfront), nofun⟩

theorem exists_current_of_kept {r : Reading} (hc : c.kept = none)
    (h : (c.after steps).kept = some r) : ∃ early between, steps = early ++ .current :: between ∧
      .drop ∉ between ∧ (c.after early).current.2 = .ok r := by
  induction steps using List.reverseRecOn with
  | nil => cases hc.symm.trans h
  | append_singleton steps x ih =>
    rw [after_concat] at h
    rcases (effect_step (c.after steps) x).kept_before h with ⟨hkept, hx⟩ | ⟨rfl, hresult⟩
    · obtain ⟨early, between, rfl, hbetween, hfirst⟩ := ih hkept
      refine ⟨early, between ++ [x], by simp, ?_, hfirst⟩
      simp [hbetween, hx.symm]
    · exact ⟨steps, [], rfl, by simp, ConfigurationResult.reading.inj hresult⟩

end Steps

section Current

variable {c : Configuration} {r : Reading} {err : SettingsError}

theorem current_of_kept (h : c.kept = some r) : c.current = (c, .ok r) := by
  rw [current, h]

theorem settings_read (c : Configuration) :
    c.read.2.map Reading.settings = Settings.ofEnvironment c.environment := by
  rw [Configuration.read]
  cases Settings.ofEnvironment c.environment <;> rfl

theorem kept_read (c : Configuration) : c.read.1.kept = c.kept := by
  rw [Configuration.read]
  cases Settings.ofEnvironment c.environment <;> rfl

theorem read_with_kept (c : Configuration) (kept : Option Reading) :
    (read ⟨c.environment, kept, c.readings⟩).2 = c.read.2 := by
  rw [Configuration.read, Configuration.read]
  cases Settings.ofEnvironment c.environment <;> rfl

theorem settings_current (h : c.kept = none) :
    c.current.2.map Reading.settings = Settings.ofEnvironment c.environment := by
  rw [← settings_read, current, h]
  dsimp only
  rw [Configuration.read]
  cases Settings.ofEnvironment c.environment <;> rfl

theorem kept_step_current (h : c.current.2 = .ok r) : (c.step .current).1.kept = some r := by
  have heffect : Effect c .current (c.step .current).1 (.reading (.ok r)) := by
    rw [← h]
    exact effect_step c .current
  generalize (c.step .current).1 = c' at heffect
  cases heffect with
  | again _ hkept => exact hkept
  | first => rfl

theorem step_current_of_error (h : c.current.2 = .error err) :
    c.kept = none ∧ (c.step .current).1 = c := by
  have heffect : Effect c .current (c.step .current).1 (.reading (.error err)) := by
    rw [← h]
    exact effect_step c .current
  generalize (c.step .current).1 = c' at heffect
  cases heffect with
  | unusable _ hkept => exact ⟨hkept, rfl⟩

end Current

/-- Since the settings were dropped last, all attempts to get the kept ones have failed. -/
def NoneKept (c : Configuration) (past : List ConfigurationStep) : Prop :=
  ∀ early between, past = early ++ .current :: between → .drop ∉ between →
    ∃ err, (c.after early).current.2 = .error err

theorem current_after {c : Configuration} {early between : List ConfigurationStep} {r : Reading}
    (h : (c.after early).current.2 = .ok r) (hbetween : .drop ∉ between) :
    (c.after (early ++ .current :: between)).current.2 = .ok r := by
  have hkept : (c.after (early ++ .current :: between)).kept = some r := by
    rw [after_append, after_cons]
    exact kept_after (kept_step_current h) hbetween
  rw [current_of_kept hkept]

theorem kept_after_eq_none_iff {c : Configuration} {past : List ConfigurationStep}
    (hc : c.kept = none) : (c.after past).kept = none ↔ c.NoneKept past := by
  refine ⟨fun h early between hpast hbetween => ?_, fun h => ?_⟩
  · cases hearly : (c.after early).current.2 with
    | error err => exact ⟨err, rfl⟩
    | ok r =>
      have hkept : (c.after past).kept = some r := by
        rw [hpast, after_append, after_cons]
        exact kept_after (kept_step_current hearly) hbetween
      cases h.symm.trans hkept
  · cases hkept : (c.after past).kept with
    | none => rfl
    | some r =>
      obtain ⟨early, between, hpast, hbetween, hok⟩ := exists_current_of_kept hc hkept
      obtain ⟨err, herr⟩ := h early between hpast hbetween
      cases hok.symm.trans herr

theorem serial_eq_iff {c : Configuration} (hc : c.Numbered) {past between : List ConfigurationStep}
    {x y : ConfigurationStep} {r r' : Reading} (hx : ((c.after past).step x).2 = .reading (.ok r))
    (hy : ((c.after (past ++ x :: between)).step y).2 = .reading (.ok r')) :
    r.serial = r'.serial ↔ x = .current ∧ y = .current ∧ .drop ∉ between := by
  have hfirst := effect_step (c.after past) x
  have hpast : (c.after past).Numbered := numbered_after hc
  have hnext : ((c.after past).step x).1.Numbered := hfirst.numbered hpast
  rw [after_append, after_cons] at hy
  have hlast := effect_step (((c.after past).step x).1.after between) y
  rw [hx] at hfirst
  rw [hy] at hlast
  rcases hfirst.retired_serial hpast with ⟨rfl, hkept⟩ | ⟨rfl, hretired⟩
  · by_cases hdrop : .drop ∈ between
    · have hne := hlast.serial_ne_of_retired (retired_after_drop hnext hkept hdrop)
      exact iff_of_false hne.symm fun h => h.2.2 hdrop
    · rw [hlast.serial_eq_iff (numbered_after hnext) (kept_after hkept hdrop)]
      exact ⟨fun h => ⟨rfl, h, hdrop⟩, fun h => h.2.1⟩
  · have hne := hlast.serial_ne_of_retired (retired_after hretired)
    exact iff_of_false hne.symm fun h => by cases h.1

/-- The kept settings are one and the same reading from the first attempt that succeeds on, until
they are dropped, and are what the environment gave at that attempt. A failed attempt keeps nothing,
so that attempts fail as long as the environment is unusable and succeed as soon as it is not.
Reading anew goes by the environment alone, leaves what is kept alone and gives a new reading each
time. An environment is usable if its prefix is one character that is not blank and its trigger a
word, and otherwise the error names the prefix before the trigger. The bot with these settings
answers the prefix and a text with the help message exactly if the text without its blanks is the
trigger. -/
theorem kept_until_dropped (e : Environment) :
    let start : Configuration := ⟨e, none, 0⟩
    let now (past : List ConfigurationStep) : Configuration := start.after past
    let environment (past : List ConfigurationStep) : Environment :=
      past.foldl ConfigurationStep.changed e
    let get (past : List ConfigurationStep) : Except SettingsError Reading := (now past).current.2
    (∀ past x rest, (start.results (past ++ x :: rest))[past.length]? =
      some ((now past).step x).2) ∧
    (∀ past between r, get past = .ok r → .drop ∉ between →
      get (past ++ .current :: between) = .ok r) ∧
    (∀ past, start.NoneKept past →
      (get past).map Reading.settings = Settings.ofEnvironment (environment past)) ∧
    (∀ past err, get past = .error err →
      start.NoneKept past ∧ now (past ++ [.current]) = now past ∧
      ∀ between, (∀ front x back, between = front ++ x :: back →
          ∃ err, Settings.ofEnvironment (environment (past ++ .current :: front)) = .error err) →
        (get (past ++ .current :: between)).map Reading.settings =
          Settings.ofEnvironment (environment (past ++ .current :: between))) ∧
    (∀ past, (now past).read.2.map Reading.settings = Settings.ofEnvironment (environment past) ∧
      (now (past ++ [.read])).kept = (now past).kept ∧
      ∀ kept, (read ⟨(now past).environment, kept, (now past).readings⟩).2 = (now past).read.2) ∧
    (∀ past x between y r r', ((now past).step x).2 = .reading (.ok r) →
      ((now (past ++ x :: between)).step y).2 = .reading (.ok r') →
      (r.serial = r'.serial ↔ x = .current ∧ y = .current ∧ .drop ∉ between) ∧
      (r.serial = r'.serial → r = r')) ∧
    ((∃ s, Settings.ofEnvironment e = .ok s) ↔
      Settings.UsablePrefix (e.value .commandPrefix) ∧
        Settings.UsableTrigger (e.value .helpTrigger)) ∧
    (¬ Settings.UsablePrefix (e.value .commandPrefix) →
      ∃ err, Settings.ofEnvironment e = .error err ∧
        err.fault.key? = some "COMMAND_PREFIX".toList) ∧
    (Settings.UsablePrefix (e.value .commandPrefix) →
      ¬ Settings.UsableTrigger (e.value .helpTrigger) →
      ∃ err, Settings.ofEnvironment e = .error err ∧
        err.fault.key? = some "HELP_TRIGGER".toList) ∧
    ∀ s, Settings.ofEnvironment e = .ok s → (∀ v, e.value v = s.value v) ∧
      ∀ (attached : List Text) (m : Message) (w : Text) (σ : Type) [DieSource σ] (faces : σ),
        m.text = s.marker :: w →
        let b : Bot := { s.bot with attached := attached }
        ((b.handle m).run faces).result = .ok (some (Bot.address m.sender helpMessage)) ↔
          Text.squeezed w = s.helpTrigger := by
  intro start now environment get
  have henv (past : List ConfigurationStep) : (now past).environment = environment past :=
    environment_after start past
  have hnumbered : start.Numbered := nofun
  obtain ⟨hmarker, htrigger⟩ := Settings.key_of_ofEnvironment e
  refine ⟨getElem?_results start, fun past between r => current_after, fun past hnone => ?_,
    fun past err herr => ?_, fun past => ⟨?_, ?_, fun kept => ?_⟩,
    fun past x between y r r' hx hy => ?_, Settings.exists_ofEnvironment_eq_ok_iff, hmarker,
    htrigger, fun s hs => ⟨Settings.ofEnvironment_eq_ok_iff.1 hs, ?_⟩⟩
  · rw [← henv]
    exact settings_current ((kept_after_eq_none_iff rfl).2 hnone)
  · obtain ⟨hkept, hstep⟩ := step_current_of_error herr
    refine ⟨(kept_after_eq_none_iff rfl).1 hkept, (after_concat ..).trans hstep,
      fun between hunusable => ?_⟩
    have hnow (steps : List ConfigurationStep) :
        now (past ++ .current :: steps) = (now past).after steps := by
      rw [← hstep]
      exact after_append start past (.current :: steps)
    rw [← henv]
    change (now _).current.2.map Reading.settings = _
    rw [hnow]
    refine settings_current (kept_after_eq_none hkept fun front x back hsplit => ?_)
    rw [← hnow, henv]
    exact hunusable front x back hsplit
  · rw [← henv]
    exact settings_read _
  · rw [show now (past ++ [.read]) = _ from after_concat ..]
    exact kept_read _
  · exact read_with_kept _ kept
  · have hiff := serial_eq_iff hnumbered hx hy
    refine ⟨hiff, fun h => ?_⟩
    obtain ⟨rfl, rfl, hbetween⟩ := hiff.1 h
    have hagain := current_after (ConfigurationResult.reading.inj hx) hbetween
    exact Except.ok.inj (hagain.symm.trans (ConfigurationResult.reading.inj hy))
  · intro attached m w σ _ faces hm b
    exact b.handle_eq_help_iff hm faces

theorem kept_until_dropped_mended :
    let prefixed (marker : String) : ConfigurationStep :=
      .assign [(.commandPrefix, some marker.toList)]
    let asking : Settings := ⟨'?', "help".toList, "dev".toList, "INFO".toList, by decide,
      by decide, Text.squeezed_eq_self_iff.1 (by decide)⟩
    let calling : Settings := ⟨'!', "help".toList, "dev".toList, "INFO".toList, by decide,
      by decide, Text.squeezed_eq_self_iff.1 (by decide)⟩
    let bothSpoilt := (Environment.unset.assign .commandPrefix (some " ".toList)).assign
      .helpTrigger (some "he lp".toList)
    let triggerSpoilt := Environment.unset.assign .helpTrigger (some "he lp".toList)
    let get (past : List ConfigurationStep) : Except SettingsError Reading :=
      (initial.after past).current.2
    let past := [prefixed "!!", .current, .read, prefixed "?"]
    get [prefixed "!!"] = .error .unusablePrefix ∧
      initial.after [prefixed "!!", .current] = initial.after [prefixed "!!"] ∧
      (get past).map Reading.settings = .ok asking ∧
      get past = .ok ⟨0, asking⟩ ∧
      get (past ++ [.current, prefixed "!", .read]) = .ok ⟨0, asking⟩ ∧
      (∃ r, get (past ++ [.current, prefixed "!", .drop]) = .ok r ∧ r.serial ≠ 0) ∧
      (∃ err, Settings.ofEnvironment bothSpoilt = .error err ∧
        err.fault.key? = some "COMMAND_PREFIX".toList) ∧
      (∃ err, Settings.ofEnvironment triggerSpoilt = .error err ∧
        err.fault.key? = some "HELP_TRIGGER".toList) ∧
      ∀ faces : ScriptedFaces,
        ((calling.bot.handle ⟨"ann".toList, "games".toList, "!he lp".toList⟩).run faces).result =
          .ok (some (Bot.address "ann".toList helpMessage)) := by
  intro prefixed asking calling bothSpoilt triggerSpoilt get past
  have hfailed : get [prefixed "!!"] = .error .unusablePrefix := by decide
  have hread : get past = .ok ⟨0, asking⟩ := by decide
  have hanew : get (past ++ [.current, prefixed "!", .drop]) = .ok ⟨1, calling⟩ := by decide
  have hmended : Settings.ofEnvironment (past.foldl ConfigurationStep.changed .unset) =
      .ok asking := by decide
  obtain ⟨-, hagain, -, herror, -, hserial, -, -, -, hhelp⟩ := kept_until_dropped .unset
  obtain ⟨-, -, -, -, -, -, -, hmarker, -, -⟩ := kept_until_dropped bothSpoilt
  obtain ⟨-, -, -, -, -, -, -, -, htrigger, -⟩ := kept_until_dropped triggerSpoilt
  obtain ⟨-, hsame, hrepaired⟩ := herror [prefixed "!!"] _ hfailed
  have hspoilt : ∀ front x back, [.read, prefixed "?"] = front ++ x :: back →
      ∃ err, Settings.ofEnvironment (([prefixed "!!"] ++ .current :: front).foldl
        ConfigurationStep.changed .unset) = .error err := by
    intro front x back h
    rcases front with _ | ⟨y, _ | ⟨z, front⟩⟩
    · exact ⟨.unusablePrefix, by decide⟩
    · obtain ⟨rfl, -⟩ := List.cons.inj h
      exact ⟨.unusablePrefix, by decide⟩
    · obtain ⟨-, h⟩ := List.cons.inj (List.cons.inj h).2
      exact absurd h.symm (List.append_ne_nil_of_right_ne_nil _ (List.cons_ne_nil x back))
  refine ⟨hfailed, hsame, (hrepaired _ hspoilt).trans hmended, hread, ?_, ⟨_, hanew, ?_⟩, ?_, ?_,
    ?_⟩
  · exact hagain past [prefixed "!", .read] _ hread (by simp [prefixed])
  · obtain ⟨hiff, -⟩ := hserial past .current [prefixed "!", .drop] .current _ _
      (congrArg _ hread) (congrArg _ hanew)
    exact fun h => (hiff.1 h.symm).2.2 (by simp)
  · refine hmarker fun husable => ?_
    obtain ⟨c, hc, hblank⟩ := husable
    obtain rfl : ' ' = c := List.singleton_injective hc
    exact absurd hblank (by decide)
  · refine htrigger ⟨'!', by decide, by decide⟩ fun husable => ?_
    exact absurd (husable.2 ' ' (by decide)) (by decide)
  · intro faces
    obtain ⟨-, hanswer⟩ := hhelp calling (by decide)
    exact (hanswer [] ⟨"ann".toList, "games".toList, "!he lp".toList⟩ "he lp".toList
      ScriptedFaces faces rfl).2 (by decide)

end Configuration
end DiceBot
