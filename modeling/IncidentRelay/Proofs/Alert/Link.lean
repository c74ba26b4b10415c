import IncidentRelay.Proofs.Calls

/-!
# The link in a payload

What the channels get to see of an alert. An incident that has to be acknowledged carries the
acknowledgment link of its own identifier. The link shares its name with a member that the reporter
may have posted: for an incident that has to be acknowledged it takes that member's place, and any
other incident goes out with the payload as it was posted, a link of the reporter's included.

## Main statements

* `Relay.ackUrl?_announced`, `Relay.erase_content_announced`: what announcing an incident does to
  its payload.
* `Relay.handed_link`: which incident is handed to the channels, and which link it carries.
* `Relay.posted_link_handed`: a posted link reaches the channels although there is nothing to
  acknowledge.
-/

namespace IncidentRelay

variable {κ : Type}

/-- A call that hands no incident to a channel but this one. -/
def Call.HandsOnly (i : Incident) : Call κ → Prop
  | .send _ j => j = i
  | _ => True

namespace Relay

/-- An incident that escalates carries the link of its own identifier, and any other the one that
was posted with it. -/
theorem ackUrl?_announced (s : Settings) (i : Incident) :
    (announced s i).ackUrl? = if escalates s i then some (s.ackUrl i.id) else i.ackUrl? := by
  unfold announced
  split
  · exact i.ackUrl?_withAckUrl _
  · rfl

/-- Announcing an incident changes nothing of its payload but the link. -/
theorem erase_content_announced (s : Settings) (i : Incident) :
    (announced s i).content.erase ackUrlKey = i.content.erase ackUrlKey := by
  unfold announced
  split
  · exact Table.erase_insert _ _ _
  · rfl

/-- What does not escalate goes out as it was posted. -/
theorem announced_of_not_escalates {s : Settings} {i : Incident} (h : escalates s i = false) :
    announced s i = i := by
  simp [announced, h]

/-- An alert hands its channels nothing but its own incident. -/
theorem createIncident_handsOnly (r : Relay κ) (incident team : String) (content : Content)
    (params : Params) :
    (r.createIncident incident team content params).Every
      (Call.HandsOnly (announced (r.settingsFor params) (Incident.create incident team content))) :=
  createIncident_every (fun _ => rfl) (fun _ _ => trivial) trivial (fun _ => trivial)
    fun _ => trivial

/-- The first thing that becomes of an alert is that the first channel is handed it. -/
theorem createIncident_of_cons {r : Relay κ} {params : Params} {c : κ} {rest : List κ}
    {incident team : String} {content : Content}
    (h : r.channels (r.settingsFor params) = .ok (c :: rest)) :
    ∃ next, r.createIncident incident team content params =
      .call (.count .received) fun _ =>
        .call (.send c (announced (r.settingsFor params) (Incident.create incident team content)))
          next := by
  unfold createIncident
  simp only [h, dispatch, Process.bind]
  exact ⟨_, rfl⟩

/-- The channels are handed one and the same incident, the alert's. If it is not resolved and
on-call is enabled for the request, it carries the link of its own identifier, and nothing else of
its payload has changed. Otherwise its payload is the posted one. So it carries a link exactly if
there is something to acknowledge, for every payload without a link of its own. -/
theorem handed_link (r : Relay κ) (incident team : String) (content : Content) (params : Params) :
    let s := r.settings.withOverrides params
    let posted := Incident.create incident team content
    let asks := !isResolved content && s.onCall.enable
    ∃ i : Incident,
      (r.createIncident incident team content params).Every (Call.HandsOnly i) ∧
      (∀ c rest, r.channels s = .ok (c :: rest) → ∃ next,
        r.createIncident incident team content params =
          .call (.count .received) fun _ => .call (.send c i) next) ∧
      (i.id = incident ∧ i.team = team ∧ i.resolved = isResolved content) ∧
      (asks = true → i.ackUrl? = some (s.ackUrl i.id) ∧
        i.content.erase ackUrlKey = content.erase ackUrlKey) ∧
      (asks = false → i.content = content) ∧
      ((i.ackUrl?.isSome = asks) ↔ (posted.ackUrl? = none ∨ asks = true)) := by
  intro s posted asks
  have hs : r.settingsFor params = s := r.settingsFor_eq params
  have hasks : escalates s posted = asks := rfl
  have hlink := ackUrl?_announced s posted
  rw [hasks] at hlink
  refine ⟨announced s posted, ?_, ?_, ?_, ?_, ?_, ?_⟩
  · exact hs ▸ r.createIncident_handsOnly incident team content params
  · intro c rest hchannels
    exact hs ▸ createIncident_of_cons (hs ▸ hchannels)
  · unfold announced
    split <;> exact ⟨rfl, rfl, rfl⟩
  · intro h
    rw [if_pos h] at hlink
    exact ⟨by rw [hlink, id_announced], erase_content_announced s posted⟩
  · intro h
    rw [announced_of_not_escalates (hasks.trans h)]
    rfl
  · cases h : asks with
    | true => simp [hlink, h]
    | false => simp [hlink, h]

/-- A relay with one channel, and with an escalation workflow if its settings ask for one. -/
def board (onCall : Settings.OnCall) : Relay Unit where
  settings := { onCall }
  channels _ := .ok [()]
  name _ := "board"
  workflow := onCall.workflowRequired

/-- A posted link is handed to the channel as the link of the incident, if on-call is off and also
if the incident is resolved. -/
theorem posted_link_handed :
    (∃ i next, (board {}).createIncident "i" "ops" [("AckURL", .string "http://a/b")] [] =
        .call (.count .received) (fun _ => .call (.send () i) next) ∧
      (board {}).settings.onCall.enable = false ∧ i.ackUrl? = some "http://a/b") ∧
    ∃ i next, (board { enable := true }).createIncident "i" "ops"
        [("AckURL", .string "http://a/b"), ("status", .string "resolved")] [] =
        .call (.count .received) (fun _ => .call (.send () i) next) ∧
      i.resolved = true ∧ i.ackUrl? = some "http://a/b" :=
  ⟨⟨_, _, rfl, rfl, rfl⟩, ⟨_, _, rfl, rfl, rfl⟩⟩

end Relay

end IncidentRelay
