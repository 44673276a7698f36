import DiceBot.Proofs.Http.Requests

/-!
# What a request contains

A request is from the user that its headers give, and its body brings texts as members of an
object. Bodies of every other kind are refused like an object without members, and members that the
route does not ask for are not looked at.
-/

namespace DiceBot

open Intake Json

namespace Headers

variable {hs : Headers} {name value : Text}

/-- Of several headers whose names are equal but for case, the last one counts. -/
def Gives (hs : Headers) (name value : Text) : Prop :=
  ∃ before n after, hs = before ++ (n, some value) :: after ∧ lowerCase n = name ∧
    ∀ h ∈ after, lowerCase h.1 ≠ name

theorem lowerCase_lowerCase (t : Text) : lowerCase (lowerCase t) = lowerCase t := by
  simp [lowerCase]

def AllLower (hs : Headers) : Prop := ∀ h ∈ hs, lowerCase h.1 = h.1

theorem AllLower.put (h : hs.AllLower) {n : Text} (hn : lowerCase n = n) (v : Option Text) :
    (hs.put n v).AllLower := by
  induction hs with
  | nil => simpa [AllLower, Headers.put] using hn
  | cons a hs ih =>
    obtain ⟨m, w⟩ := a
    obtain ⟨hm, hhs⟩ := List.forall_mem_cons.1 h
    rw [Headers.put]
    split
    · exact List.forall_mem_cons.2 ⟨hm, hhs⟩
    · exact List.forall_mem_cons.2 ⟨hm, ih hhs⟩

theorem get?_put (h : hs.AllLower) {n : Text} (hn : lowerCase n = n) (v : Option Text) :
    (hs.put n v).get? name = if n = name then v else hs.get? name := by
  induction hs with
  | nil => rw [put, get?_cons, hn]
  | cons a hs ih =>
    obtain ⟨m, w⟩ := a
    obtain ⟨hm, hhs⟩ := List.forall_mem_cons.1 h
    dsimp only at hm
    rw [put]
    by_cases heq : m = n
    · rw [if_pos heq, get?_cons, get?_cons, hm, heq]
      split <;> rfl
    · rw [if_neg heq, get?_cons, get?_cons, ih hhs, hm]
      by_cases hname : m = name
      · rw [if_pos hname, if_pos hname, if_neg fun h => heq (hname.trans h.symm)]
      · rw [if_neg hname, if_neg hname]

theorem folded_append_singleton (hs : Headers) (h : Text × Option Text) :
    folded (hs ++ [h]) = (folded hs).put (lowerCase h.1) h.2 := by
  simp [folded, ofPairs]

theorem allLower_folded (hs : Headers) : hs.folded.AllLower := by
  induction hs using List.reverseRecOn with
  | nil => simp [AllLower, folded, ofPairs]
  | append_singleton hs h ih =>
    rw [folded_append_singleton]
    exact ih.put (lowerCase_lowerCase h.1) h.2

theorem get?_folded (hs : Headers) (name : Text) : hs.folded.get? name = get? hs.reverse name := by
  induction hs using List.reverseRecOn with
  | nil => rfl
  | append_singleton hs h ih =>
    rw [folded_append_singleton, get?_put (allLower_folded hs) (lowerCase_lowerCase h.1), ih,
      List.reverse_append, List.reverse_singleton, List.singleton_append, get?_cons]

theorem get?_eq_some_iff : hs.get? name = some value ↔
    ∃ n, hs.find? (fun h => lowerCase h.1 = name) = some (n, some value) := by
  simp [get?, Option.join_eq_some_iff]

theorem get?_folded_eq_some_iff : hs.folded.get? name = some value ↔ hs.Gives name value := by
  rw [get?_folded, get?_eq_some_iff]
  constructor
  · intro h
    obtain ⟨n, hfind⟩ := h
    obtain ⟨hn, after, before, hrev, hafter⟩ := List.find?_eq_some_iff_append.1 hfind
    refine ⟨before.reverse, n, after.reverse, ?_, of_decide_eq_true hn, fun h hmem => ?_⟩
    · rw [← List.reverse_reverse hs, hrev]
      simp
    · simpa using hafter h (List.mem_reverse.1 hmem)
  · intro h
    obtain ⟨before, n, after, rfl, hn, hafter⟩ := h
    refine ⟨n, List.find?_eq_some_iff_append.2
      ⟨decide_eq_true hn, after.reverse, before.reverse, ?_, ?_⟩⟩
    · simp
    · intro h hmem
      simpa using hafter h (List.mem_reverse.1 hmem)

end Headers

theorem Text.trimmed_isBlank_eq_nil_iff {t : Text} :
    trimmed isBlank t = [] ↔ ∀ c ∈ t, isBlank c := by
  rw [trimmed, List.reverse_eq_nil_iff, List.dropWhile_eq_nil_iff]
  constructor
  · intro h c hc
    rw [← List.takeWhile_append_dropWhile (p := isBlank) (l := t), List.mem_append] at hc
    rcases hc with hc | hc
    · exact List.mem_takeWhile_imp hc
    · exact h c (List.mem_reverse.2 hc)
  · intro h c hc
    exact h c ((List.dropWhile_sublist _).mem (List.mem_reverse.1 hc))

theorem Text.name?_eq_some_iff {t name : Text} :
    t.name? = some name ↔ (∃ c ∈ t, isBlank c = false) ∧ name = trimmed isBlank t := by
  have hvisible : (∃ c ∈ t, isBlank c = false) ↔ trimmed isBlank t ≠ [] := by
    rw [ne_eq, trimmed_isBlank_eq_nil_iff]
    simp
  rw [hvisible, name?]
  by_cases h : trimmed isBlank t = []
  · simp [h]
  · simp [h, eq_comm]

theorem Json.Members.text?_eq_some_iff {ms : Members} {name : String} {most : Nat} {t : Text} :
    ms.text? name most = some t ↔ ms.get? name.toList = some (.str (some t)) ∧ t.length ≤ most := by
  rw [text?, Option.bind_eq_some_iff]
  constructor
  · intro h
    obtain ⟨v, hv, ht⟩ := h
    unfold Value.text? at ht
    split at ht
    · split at ht
      · cases ht
        exact ⟨hv, by assumption⟩
      · cases ht
    · cases ht
  · intro h
    obtain ⟨hv, ht⟩ := h
    exact ⟨_, hv, if_pos ht⟩

namespace Request

variable {r : Request} {t : Text}

def Brings (r : Request) (name : String) (t : Text) : Prop :=
  ∃ ms : Members, r.content? = some (some (.obj ms)) ∧ ms.get? name.toList = some (.str (some t))

def IsFrom (r : Request) (user : Text) : Prop :=
  user ≠ [] ∧ r.headers.Gives "x-user-id".toList user

def BringsFormula (r : Request) (formula : Text) : Prop :=
  r.Brings "formula" formula ∧ formula.length ≤ 500

structure BringsMessage (r : Request) (channel text : Text) : Prop where
  brings_channel : r.Brings "channel" channel
  one_le_length : 1 ≤ channel.length
  length_channel_le : channel.length ≤ 200
  not_blank : ∃ c ∈ channel, Text.isBlank c = false
  brings_text : r.Brings "text" text
  length_text_le : text.length ≤ 2000

theorem userId?_eq_some_iff {user : Text} : r.userId? = some user ↔ r.IsFrom user := by
  rw [userId?, Headers.userId?, Option.filter_eq_some_iff, Headers.get?_folded_eq_some_iff, IsFrom,
    and_comm, decide_eq_true_iff]

theorem userId?_eq_none_iff : r.userId? = none ↔ ∀ user, ¬ r.IsFrom user := by
  rw [Option.eq_none_iff_forall_ne_some]
  exact forall_congr' fun user => not_congr userId?_eq_some_iff

theorem members_bind_eq_some_iff {α : Type} {f : Members → Option α} (hf : f [] = none) {a : α} :
    r.members.toOption.bind f = some a ↔
      ∃ ms, r.content? = some (some (.obj ms)) ∧ f ms = some a := by
  rw [members]
  cases r.content? with
  | none => simp [Except.toOption]
  | some body =>
    cases body with
    | none => simp [Except.toOption, hf]
    | some v =>
      by_cases hvoid : v.isVoid
      · cases v <;> simp_all [Except.toOption, Value.isVoid]
      · cases v <;> simp_all [Except.toOption]

theorem formula?_eq_some_iff : r.formula? = some t ↔ r.BringsFormula t := by
  rw [formula?, members_bind_eq_some_iff rfl]
  simp only [Members.text?_eq_some_iff, BringsFormula, Brings]
  constructor
  · intro h
    obtain ⟨ms, hcontent, hget, hlen⟩ := h
    exact ⟨⟨ms, hcontent, hget⟩, hlen⟩
  · intro h
    obtain ⟨⟨ms, hcontent, hget⟩, hlen⟩ := h
    exact ⟨ms, hcontent, hget, hlen⟩

theorem formula?_eq_none_iff : r.formula? = none ↔ ∀ formula, ¬ r.BringsFormula formula := by
  rw [Option.eq_none_iff_forall_ne_some]
  exact forall_congr' fun formula => not_congr formula?_eq_some_iff

def chat? (sender : Text) (ms : Members) : Option Message := do
  let channel ← (ms.text? "channel" 200).bind Text.name?
  let text ← ms.text? "text" 2000
  return ⟨sender, channel, text⟩

theorem chat?_eq_some_iff {sender : Text} {ms : Members} {m : Message} :
    chat? sender ms = some m ↔ m.sender = sender ∧ ∃ channel,
      (ms.get? "channel".toList = some (.str (some channel)) ∧ channel.length ≤ 200) ∧
      ((∃ c ∈ channel, Text.isBlank c = false) ∧ m.channel = Text.trimmed Text.isBlank channel) ∧
      ms.get? "text".toList = some (.str (some m.text)) ∧ m.text.length ≤ 2000 := by
  obtain ⟨sender', channel', text'⟩ := m
  simp only [chat?, Option.bind_eq_bind, Option.bind_eq_some_iff, Option.pure_def,
    Members.text?_eq_some_iff, Text.name?_eq_some_iff, Option.some.injEq, Message.mk.injEq]
  constructor
  · intro h
    obtain ⟨_, ⟨channel, hchannel, hname⟩, _, htext, rfl, rfl, rfl⟩ := h
    exact ⟨rfl, channel, hchannel, hname, htext⟩
  · intro h
    obtain ⟨rfl, channel, hchannel, hname, htext⟩ := h
    exact ⟨_, ⟨channel, hchannel, hname⟩, _, htext, rfl, rfl, rfl⟩

theorem message?_eq_some_iff {m : Message} : r.message? = some m ↔
    r.IsFrom m.sender ∧ ∃ channel, r.BringsMessage channel m.text ∧
      m.channel = Text.trimmed Text.isBlank channel := by
  have hmessage : r.message? =
      r.userId?.bind fun sender => r.members.toOption.bind (chat? sender) := rfl
  rw [hmessage, Option.bind_eq_some_iff]
  simp only [members_bind_eq_some_iff (f := chat? _) rfl, chat?_eq_some_iff, userId?_eq_some_iff]
  constructor
  · intro h
    obtain ⟨_, huser, ms, hcontent, rfl, channel, ⟨hchannel, hshort⟩, ⟨hvisible, hname⟩, htext⟩ := h
    have hlength : 1 ≤ channel.length := by
      obtain ⟨c, hc, -⟩ := hvisible
      exact List.length_pos_of_mem hc
    have hbrings : r.BringsMessage channel m.text :=
      ⟨⟨ms, hcontent, hchannel⟩, hlength, hshort, hvisible, ⟨ms, hcontent, htext.1⟩, htext.2⟩
    exact ⟨huser, channel, hbrings, hname⟩
  · intro h
    obtain ⟨huser, channel, hbrings, hname⟩ := h
    obtain ⟨ms, hcontent, hchannel⟩ := hbrings.brings_channel
    obtain ⟨ms', hcontent', htext⟩ := hbrings.brings_text
    obtain rfl : ms = ms' := by
      rw [hcontent] at hcontent'
      cases hcontent'
      rfl
    exact ⟨_, huser, ms, hcontent, rfl, channel, ⟨hchannel, hbrings.length_channel_le⟩,
      ⟨hbrings.not_blank, hname⟩, htext, hbrings.length_text_le⟩

theorem status_of_members_eq_error {e : Refusal} (h : r.members = .error e) : e.status = 400 := by
  rw [members] at h
  split at h
  · cases h
    rfl
  · cases h
  · split at h
    · cases h
    · split at h
      · cases h
      · cases h
        rfl

theorem status_of_check_eq_error {α : Type} {reader : Members → Checked α} {e : Refusal}
    (h : r.check reader = .error e) : e.status = 400 := by
  cases hmembers : r.members with
  | error e' =>
    rw [check, hmembers] at h
    cases h
    exact status_of_members_eq_error hmembers
  | ok ms =>
    cases hreader : reader ms with
    | ok a => simp [check, hmembers, hreader, bind, Except.bind, pure, Except.pure] at h
    | error issues =>
      simp only [check, hmembers, hreader, bind, Except.bind] at h
      cases h
      rfl

theorem status_of_settled_roll (hroute : Route.find? r.method r.path = some .roll)
    {response : Response} (h : r.intent = .settled response) : response.status = 400 := by
  rw [intent, hroute] at h
  dsimp only at h
  split at h
  · cases h
  next hcheck =>
    cases h
    exact status_of_check_eq_error hcheck

theorem status_of_settled_message (hroute : Route.find? r.method r.path = some .messages)
    {user : Text} (huser : r.userId? = some user) {response : Response}
    (h : r.intent = .settled response) : response.status = 400 := by
  rw [intent, hroute, huser] at h
  dsimp only at h
  split at h
  · cases h
  next hcheck =>
    cases h
    exact status_of_check_eq_error hcheck

theorem intent_of_userId?_eq_none (hroute : Route.find? r.method r.path = some .messages)
    (huser : r.userId? = none) : r.intent = .settled (.refusal .unauthorized) := by
  rw [intent, hroute, huser]

end Request

def Route.keys : Route → List String
  | .roll => ["formula"]
  | .messages => ["channel", "text"]
  | .help => []

structure Request.SameKeys (route : Route) (r r' : Request) : Prop where
  method : r'.method = r.method
  path : r'.path = r.path
  headers : r'.headers = r.headers
  members : ∃ ms ms' : Members, r.content? = some (some (.obj ms)) ∧
    r'.content? = some (some (.obj ms')) ∧
      ∀ key ∈ route.keys, ms'.get? key.toList = ms.get? key.toList

namespace Request

variable {r r' : Request} {route : Route}

theorem members_of_content?_eq_obj {ms : Members} (h : r.content? = some (some (.obj ms))) :
    r.members = .ok ms := by
  rw [members, h]
  cases ms <;> rfl

theorem check_eq_of_forall {α : Type} {reader : Members → Checked α} (h : SameKeys route r r')
    (hreader : ∀ ms ms' : Members, (∀ key ∈ route.keys, ms'.get? key.toList = ms.get? key.toList) →
      reader ms' = reader ms) : r'.check reader = r.check reader := by
  obtain ⟨ms, ms', hms, hms', hkeys⟩ := h.members
  rw [check, check, members_of_content?_eq_obj hms, members_of_content?_eq_obj hms']
  simp only [bind, Except.bind, hreader ms ms' hkeys]

theorem required_eq_of_get?_eq {α : Type} {name : Text} {check : Value → Checked α}
    {ms ms' : Members} (h : ms'.get? name = ms.get? name) :
    required name check ms' = required name check ms := by
  rw [required, required, field, field, h]

theorem intent_eq_of_sameKeys (hroute : Route.find? r.method r.path = some route)
    (h : SameKeys route r r') : r'.intent = r.intent := by
  rw [intent, intent, h.method, h.path, hroute]
  cases route with
  | roll =>
    have hcheck : r'.check rollRequest = r.check rollRequest := by
      apply check_eq_of_forall h
      intro ms ms' hkeys
      rw [rollRequest, rollRequest, required_eq_of_get?_eq (hkeys "formula" (by decide))]
    simp only [hcheck]
  | messages =>
    have hcheck : r'.check chatRequest = r.check chatRequest := by
      apply check_eq_of_forall h
      intro ms ms' hkeys
      rw [chatRequest, chatRequest, required_eq_of_get?_eq (hkeys "channel" (by decide)),
        required_eq_of_get?_eq (hkeys "text" (by decide))]
    have huser : r'.userId? = r.userId? := by rw [userId?, userId?, h.headers]
    simp only [hcheck, huser]
  | help => rfl

end Request
end DiceBot
