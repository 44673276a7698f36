import DiceBot.Proofs.Http.Contents
import DiceBot.Proofs.Http.Interrupted
import DiceBot.Proofs.Http.OneBot

/-!
# What decides a status

A request comes to a response that is settled at once or that tells of a turn. In both cases the
status can be read off what the request contains: its user, the texts of its body, and how a message
begins.
-/

namespace DiceBot

theorem Response.status_forOrigin (response : Response) (origin : Option Text) :
    (response.forOrigin origin).status = response.status := by
  rw [forOrigin]
  split <;> rfl

section

variable {σ : Type} [DieSource σ]

theorem Bot.take_hear_eq_ok {b : Bot} {m : Message} {s : σ} {result : TurnResult}
    (h : ((b.take (.hear m)).run s).result = .ok result) :
    ∃ reply, result = .spoken (.reply reply) ∧ ((b.handle m).run s).result = .ok reply ∧
      (reply = none ↔ ¬ b.marker <+: m.text) := by
  rw [take, Play.run_map, Play.run_map] at h
  have hsame := (b.run_handle m s).1
  have hnone := b.respond_eq_none_iff m s
  cases hown : ((b.handle m).run s).result with
  | error e =>
    rw [hown] at h
    cases h
  | ok reply =>
    rw [hown] at h
    cases h
    rw [← hsame, hown, Except.ok.injEq] at hnone
    exact ⟨reply, rfl, rfl, hnone⟩

/-- A request comes to a response that is settled at once, or that tells of a turn of the bot. -/
inductive Request.ComesTo (r : Request) (b : Bot) (s : σ) : Response → Prop where
  | settled {plain : Response} (ht : r.turn? = none) (hintent : r.intent = .settled plain) :
    ComesTo r b s (plain.forOrigin (r.headerValue? "origin".toList))
  | told {t : Turn} {result : TurnResult} {response : Response} {ms : List Metric}
      (ht : r.turn? = some t) (hown : ((b.take t).run s).result = .ok result)
      (htells : Tells (r.headerValue? "origin".toList) t result response ms) :
    ComesTo r b s response

theorem Session.exists_response {st : Session} {b : Bot} (hb : st.supply = .ok b) {r : Request}
    {s : σ} (hfaces : ¬ DieSource.Fails s (HttpStep.dice st (.request r))) :
    ∃ response, ((st.respond r).2.run s).result = .ok (.response response) ∧
      r.ComesTo b s response := by
  have hthrows := st.throwsFirst_step (σ := σ) (.request r)
  cases ht : r.turn? with
  | none =>
    obtain ⟨plain, hintent, hrun⟩ := (st.respond_of_idle ht).2 s
    rw [hrun]
    exact ⟨_, rfl, .settled ht hintent⟩
  | some t =>
    obtain ⟨-, -, hfailed, htold⟩ := (st.respond_of_supply_eq_ok ht hb).2 s
    cases hown : ((b.take t).run s).result with
    | error e => exact absurd ((hthrows.result_eq_error_iff s).1 ⟨e, (hfailed e hown).1⟩) hfaces
    | ok result =>
      obtain ⟨response, hresult, htells⟩ := htold result hown
      exact ⟨response, hresult, .told ht hown htells⟩

namespace Request.ComesTo

variable {r : Request} {b : Bot} {s : σ} {response : Response}

theorem status_of_formula (h : r.ComesTo b s response)
    (hroute : Route.find? r.method r.path = some .roll) {formula : Text}
    (hformula : r.BringsFormula formula) : response.status = 200 := by
  have ht := turn?_of_roll hroute (formula?_eq_some_iff.2 hformula)
  cases h with
  | settled hnone => cases ht.symm.trans hnone
  | told ht' hown htells =>
    obtain rfl := Option.some.inj (ht'.symm.trans ht)
    cases htells with
    | rolled _ _ _ _ hresponse | unrolled _ _ _ hresponse => exact hresponse.status

theorem status_of_no_formula (h : r.ComesTo b s response)
    (hroute : Route.find? r.method r.path = some .roll)
    (hno : ¬ ∃ formula, r.BringsFormula formula) : response.status = 400 := by
  have hformula : r.formula? = none := formula?_eq_none_iff.2 (not_exists.1 hno)
  cases h with
  | settled ht hintent =>
    exact (Response.status_forOrigin ..).trans (status_of_settled_roll hroute hintent)
  | told ht hown htells =>
    rw [turn?, hroute] at ht
    simp [hformula] at ht

theorem status_iff_of_roll (h : r.ComesTo b s response)
    (hroute : Route.find? r.method r.path = some .roll) :
    (response.status = 200 ↔ ∃ formula, r.BringsFormula formula) ∧
      (response.status = 400 ↔ ¬ ∃ formula, r.BringsFormula formula) := by
  by_cases hformula : ∃ formula, r.BringsFormula formula
  · obtain ⟨formula, hbrings⟩ := hformula
    simp [h.status_of_formula hroute hbrings, Exists.intro formula hbrings]
  · simp [h.status_of_no_formula hroute hformula, hformula]

theorem status_of_no_user (h : r.ComesTo b s response)
    (hroute : Route.find? r.method r.path = some .messages) (hno : ∀ user, ¬ r.IsFrom user) :
    response.status = 401 := by
  have huser := userId?_eq_none_iff.2 hno
  cases h with
  | settled ht hintent =>
    rw [intent_of_userId?_eq_none hroute huser] at hintent
    cases hintent
    exact Response.status_forOrigin ..
  | told ht hown htells =>
    rw [turn?_of_messages hroute, message?, huser] at ht
    cases ht

theorem status_of_no_message (h : r.ComesTo b s response)
    (hroute : Route.find? r.method r.path = some .messages) {user : Text} (huser : r.IsFrom user)
    (hno : ¬ ∃ channel text, r.BringsMessage channel text) : response.status = 400 := by
  cases h with
  | settled ht hintent =>
    have hstatus := status_of_settled_message hroute (userId?_eq_some_iff.2 huser) hintent
    exact (Response.status_forOrigin ..).trans hstatus
  | told ht hown htells =>
    rw [turn?_of_messages hroute, Option.map_eq_some_iff] at ht
    obtain ⟨m, hm, -⟩ := ht
    obtain ⟨-, channel, hbrings, -⟩ := message?_eq_some_iff.1 hm
    exact absurd ⟨channel, m.text, hbrings⟩ hno

theorem of_message (h : r.ComesTo b s response)
    (hroute : Route.find? r.method r.path = some .messages) {user channel text : Text}
    (huser : r.IsFrom user) (hbrings : r.BringsMessage channel text) :
    let name := Text.trimmed Text.isBlank channel
    (b.marker <+: text → response.status = 200 ∧ ∃ reply,
      ((b.handle ⟨user, name, text⟩).run s).result = .ok (some reply) ∧
        Json.read? response.body =
          some (.ofTexts [("channel".toList, name), ("reply".toList, reply)])) ∧
    (¬ b.marker <+: text → response.status = 204) := by
  intro name
  have hm : r.message? = some ⟨user, Text.trimmed Text.isBlank channel, text⟩ :=
    message?_eq_some_iff.2 ⟨huser, channel, hbrings, rfl⟩
  have ht := turn?_of_message hroute hm
  cases h with
  | settled hnone => cases ht.symm.trans hnone
  | told ht' hown htells =>
    obtain rfl := Option.some.inj (ht'.symm.trans ht)
    obtain ⟨reply, rfl, hhandled, hreply⟩ := Bot.take_hear_eq_ok hown
    cases htells with
    | replied m reply hresponse =>
      refine ⟨fun _ => ⟨hresponse.status, reply, hhandled, hresponse.body⟩, fun hmarker => ?_⟩
      cases hreply.2 hmarker
    | ignored m hresponse =>
      exact ⟨fun hmarker => absurd hmarker (hreply.1 rfl), fun _ => hresponse.status⟩

theorem status_iff_of_user (h : r.ComesTo b s response)
    (hroute : Route.find? r.method r.path = some .messages) {user : Text} (huser : r.IsFrom user) :
    response.status ≠ 401 ∧
      (response.status = 400 ↔ ¬ ∃ channel text, r.BringsMessage channel text) := by
  by_cases hmessage : ∃ channel text, r.BringsMessage channel text
  · obtain ⟨channel, text, hbrings⟩ := hmessage
    have hexists : ∃ channel text, r.BringsMessage channel text := ⟨channel, text, hbrings⟩
    obtain ⟨hmarked, hplain⟩ := h.of_message hroute huser hbrings
    by_cases hmarker : b.marker <+: text
    · simp [(hmarked hmarker).1, hexists]
    · simp [hplain hmarker, hexists]
  · simp [h.status_of_no_message hroute huser hmessage, hmessage]

theorem status_iff_of_messages (h : r.ComesTo b s response)
    (hroute : Route.find? r.method r.path = some .messages) :
    response.status = 401 ↔ ∀ user, ¬ r.IsFrom user := by
  constructor
  · intro hstatus user huser
    exact (h.status_iff_of_user hroute huser).1 hstatus
  · exact h.status_of_no_user hroute

theorem status_iff_of_message (h : r.ComesTo b s response)
    (hroute : Route.find? r.method r.path = some .messages) {user channel text : Text}
    (huser : r.IsFrom user) (hbrings : r.BringsMessage channel text) :
    (response.status = 200 ↔ b.marker <+: text) ∧
      (response.status = 204 ↔ ¬ b.marker <+: text) := by
  obtain ⟨hmarked, hplain⟩ := h.of_message hroute huser hbrings
  by_cases hmarker : b.marker <+: text
  · simp [(hmarked hmarker).1, hmarker]
  · simp [hplain hmarker, hmarker]

end Request.ComesTo
end

namespace Session

variable {σ : Type} [DieSource σ]

theorem respond_eq_of_sameKeys (st : Session) {r r' : Request} {route : Route}
    (hroute : Route.find? r.method r.path = some route) (h : Request.SameKeys route r r') :
    (st.respond r' : Session × Play σ HttpResult) = st.respond r := by
  rw [respond, respond, Request.intent_eq_of_sameKeys hroute h, Request.headerValue?,
    Request.headerValue?, h.headers]

/-- With settings that can be used and enough faces, the request decides the status of its response.
A roll has to bring a formula. A message has to have a user, whatever it brings, then a channel and
a text, and its text says whether it is answered; the body of the answer reads as the trimmed
channel with the reply of the bot. Members that the route does not ask for make no difference at
all. -/
theorem status_decided (st : Session) {b : Bot} (hb : st.supply = .ok b) (r : Request) (s : σ)
    (hfaces : ¬ DieSource.Fails s (HttpStep.dice st (.request r))) :
    (∃ response, ((st.respond r).2.run s).result = .ok (.response response) ∧
      (Route.find? r.method r.path = some .roll →
        (response.status = 200 ↔ ∃ formula, r.BringsFormula formula) ∧
        (response.status = 400 ↔ ¬ ∃ formula, r.BringsFormula formula)) ∧
      (Route.find? r.method r.path = some .messages →
        (response.status = 401 ↔ ∀ user, ¬ r.IsFrom user) ∧
        ∀ user, r.IsFrom user →
          (response.status = 400 ↔ ¬ ∃ channel text, r.BringsMessage channel text) ∧
          ∀ channel text, r.BringsMessage channel text →
            (response.status = 200 ↔ b.marker <+: text) ∧
            (response.status = 204 ↔ ¬ b.marker <+: text) ∧
            (b.marker <+: text → ∃ reply,
              ((b.handle ⟨user, Text.trimmed Text.isBlank channel, text⟩).run s).result =
                .ok (some reply) ∧
              Json.read? response.body = some (.obj
                [(some "channel".toList, .str (some (Text.trimmed Text.isBlank channel))),
                  (some "reply".toList, .str (some reply))])))) ∧
    ∀ route r', Route.find? r.method r.path = some route → Request.SameKeys route r r' →
      (st.respond r' : Session × Play σ HttpResult) = st.respond r := by
  refine ⟨?_, fun route r' => st.respond_eq_of_sameKeys⟩
  obtain ⟨response, hresult, hcomes⟩ := exists_response hb hfaces
  refine ⟨response, hresult, hcomes.status_iff_of_roll, fun hroute => ?_⟩
  refine ⟨hcomes.status_iff_of_messages hroute, fun user huser => ?_⟩
  refine ⟨(hcomes.status_iff_of_user hroute huser).2, fun channel text hbrings => ?_⟩
  obtain ⟨hok, hsilent⟩ := hcomes.status_iff_of_message hroute huser hbrings
  refine ⟨hok, hsilent, fun hmarker => ?_⟩
  exact ((hcomes.of_message hroute huser hbrings).1 hmarker).2

theorem status_decided_roll_and_message :
    let bot : Bot := ⟨⟨defaultHelpTrigger⟩, [defaultMarker], []⟩
    let face : ScriptedFaces := ⟨[6]⟩
    let roll (body : String) : Request :=
      ⟨"POST".toList, "/roll".toList, [], some body.toList, false⟩
    let plain : Request := roll "\x7b\"formula\": \"1d6\"\x7d"
    let crowded : Request := roll "\x7b\"formula\": 0, \"text\": null, \"formula\": \"1d6\"\x7d"
    let chat : Request := ⟨"POST".toList, "/messages".toList,
      [("X-User-Id".toList, some []), ("x-user-ID".toList, some "ann".toList)],
      some "\x7b\"channel\": \" games \", \"text\": \"!1d6\"\x7d".toList, false⟩
    (Session.initial.supply = .ok bot ∧
      ¬ DieSource.Fails face (HttpStep.dice .initial (.request plain)) ∧
      plain.BringsFormula "1d6".toList ∧ Request.SameKeys .roll plain crowded) ∧
    (∃ response, ((Session.initial.respond plain).2.run face).result = .ok (.response response) ∧
      response.status = 200) ∧
    (Session.initial.respond crowded : Session × Play ScriptedFaces HttpResult) =
      Session.initial.respond plain ∧
    (¬ DieSource.Fails face (HttpStep.dice .initial (.request chat)) ∧
      chat.IsFrom "ann".toList ∧ chat.BringsMessage " games ".toList "!1d6".toList) ∧
    ∃ response, ((Session.initial.respond chat).2.run face).result = .ok (.response response) ∧
      response.status = 200 ∧ Json.read? response.body = some (.obj
        [(some "channel".toList, .str (some "games".toList)),
          (some "reply".toList, .str (some "ann, 1d6: [6 1d6=6]".toList))]) := by
  intro bot face roll plain crowded chat
  have hb : Session.initial.supply = .ok bot := by rfl
  have hplain : plain.content? = some (some (.obj
      [(some "formula".toList, .str (some "1d6".toList))])) := by cbv
  have hcrowded : crowded.content? = some (some (.obj
      [(some "formula".toList, .int 0), (some "text".toList, .null),
        (some "formula".toList, .str (some "1d6".toList))])) := by cbv
  have hchat : chat.content? = some (some (.obj
      [(some "channel".toList, .str (some " games ".toList)),
        (some "text".toList, .str (some "!1d6".toList))])) := by cbv
  have hformula : plain.BringsFormula "1d6".toList := ⟨⟨_, hplain, by rfl⟩, by decide⟩
  have hsame : Request.SameKeys .roll plain crowded := by
    refine ⟨rfl, rfl, rfl, _, _, hplain, hcrowded, fun key hkey => ?_⟩
    obtain rfl := List.mem_singleton.1 hkey
    rfl
  have hplainFaces : ¬ DieSource.Fails face (HttpStep.dice .initial (.request plain)) := by
    rw [HttpStep.dice, HttpStep.turn?,
      Request.turn?_of_roll (by decide) (Request.formula?_eq_some_iff.2 hformula)]
    decide
  have huser : chat.IsFrom "ann".toList :=
    ⟨by decide, [_], _, [], rfl, by decide, fun h hmem => absurd hmem List.not_mem_nil⟩
  have hmessage : chat.BringsMessage " games ".toList "!1d6".toList :=
    ⟨⟨_, hchat, by rfl⟩, by decide, by decide, ⟨'g', by decide, by decide⟩, ⟨_, hchat, by rfl⟩,
      by decide⟩
  have hheard : chat.message? = some ⟨"ann".toList, "games".toList, "!1d6".toList⟩ :=
    Request.message?_eq_some_iff.2 ⟨huser, _, hmessage, by decide⟩
  have hchatFaces : ¬ DieSource.Fails face (HttpStep.dice .initial (.request chat)) := by
    rw [HttpStep.dice, HttpStep.turn?, Request.turn?_of_message (by decide) hheard]
    decide
  obtain ⟨⟨response, hresult, hroll, -⟩, hkeys⟩ :=
    status_decided .initial hb plain face hplainFaces
  obtain ⟨⟨response', hresult', -, hmessages⟩, -⟩ :=
    status_decided .initial hb chat face hchatFaces
  obtain ⟨hstatus, -, hbody⟩ := ((hmessages (by decide)).2 _ huser).2 _ _ hmessage
  have hmarker : bot.marker <+: "!1d6".toList := by decide
  obtain ⟨reply, hhandled, hread⟩ := hbody hmarker
  have hgames : Text.trimmed Text.isBlank " games ".toList = "games".toList := by decide
  have hreply : ((bot.handle ⟨"ann".toList, "games".toList, "!1d6".toList⟩).run face).result =
      .ok (some "ann, 1d6: [6 1d6=6]".toList) := by cbv
  rw [hgames] at hhandled hread
  obtain rfl := Option.some.inj (Except.ok.inj (hhandled.symm.trans hreply))
  exact ⟨⟨hb, hplainFaces, hformula, hsame⟩,
    ⟨response, hresult, (hroll (by decide)).1.2 ⟨_, hformula⟩⟩, hkeys _ _ (by decide) hsame,
    ⟨hchatFaces, huser, hmessage⟩, response', hresult', hstatus.2 hmarker, hread⟩

end Session
end DiceBot
