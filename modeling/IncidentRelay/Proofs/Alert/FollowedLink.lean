import IncidentRelay.Proofs.Alert.Link
import IncidentRelay.Proofs.Backing
import IncidentRelay.Proofs.Traffic
import Mathlib.Data.List.DropRight
import Mathlib.Data.String.Basic

/-!
# Following a link

The link of an incident is the public host without the slashes at its end, and a path. Whoever
follows the link sends that path to the service, which reads it from the outside in: the target of
the request, its route, and the text at the place of the incident. What was written at one end is
read at the other, because an identifier has no character that any of these gives a meaning to.

A link works once. It is the record of its own incident that its first use removes, and no traffic
that comes later brings that record back.

## Main statements

* `Settings.ackUrl_eq`: a link is the public host without slashes at its end, and a path.
* `Server.Request.acknowledges?_of_follows`: following the path of an incident acknowledges it.
* `Service.absent_run`: what is no longer pending stays so, whatever the service meets with.
* `Service.delivered_link_leads_back`: the link that is handed to the channels leads back to its
  incident, and works once.
-/

namespace IncidentRelay

variable {κ ω : Type}

/-! ### The link -/

namespace Incident

/-- The characters of identifiers. -/
def identifierChars : List Char := "-0123456789abcdef".toList

/-- Hexadecimal digits may stand in an identifier. -/
theorem hexDigit_mem : ∀ n < 16, Text.hexDigit false n ∈ identifierChars := by decide

/-- An identifier is made of the characters for identifiers. -/
theorem identifier_chars (random : Nat) :
    ∀ c ∈ (identifier random).toList, c ∈ identifierChars := by
  have hdigit (n : Nat) : Text.hexDigit false (n % 16) ∈ identifierChars :=
    hexDigit_mem _ (Nat.mod_lt n (by decide))
  have hvariant (n : Nat) : Text.hexDigit false (8 + n % 4) ∈ identifierChars :=
    hexDigit_mem _ (by omega)
  have hdash : '-' ∈ identifierChars := by decide
  have hversion : '4' ∈ identifierChars := by decide
  simp only [identifier, String.toList_ofList, List.forall_mem_append, List.forall_mem_cons,
    List.forall_mem_map]
  simp [hdigit, hvariant, hdash, hversion]

@[simp] theorem length_identifier (random : Nat) : (identifier random).toList.length = 36 := by
  simp [identifier]

end Incident

/-- A link is the public host without the slashes at its end, and a path. -/
theorem Settings.ackUrl_eq (s : Settings) :
    ∃ base slashes : String, s.server.publicHost = base ++ slashes ∧
      (∀ c ∈ slashes.toList, c = '/') ∧ base.toList.getLast? ≠ some '/' ∧
      ∀ incident, s.ackUrl incident = base ++ (ackPath ++ incident) := by
  let host := s.server.publicHost.toList
  refine ⟨String.ofList (host.rdropWhile (· == '/')), String.ofList (host.rtakeWhile (· == '/')),
    ?_, ?_, ?_, ?_⟩
  · rw [← String.ofList_append, List.rdropWhile_append_rtakeWhile, String.ofList_toList]
  · intro c hc
    rw [String.toList_ofList] at hc
    simpa using List.mem_rtakeWhile_imp hc
  · rw [String.toList_ofList]
    intro hlast
    obtain ⟨front, hfront⟩ := List.getLast?_eq_some_iff.mp hlast
    have hnot := List.rdropWhile_last_not (· == '/') host (by simp [hfront])
    simp [hfront] at hnot
  · intro incident
    exact String.append_assoc ..

/-! ### Reading a path -/

/-- A text has at most four bytes for each of its characters. -/
theorem Text.utf8ByteSize_le (s : String) : s.utf8ByteSize ≤ 4 * s.toList.length := by
  have hlist (cs : List Char) : String.utf8Len cs ≤ 4 * cs.length := by
    induction cs with
    | nil => exact Nat.le_refl 0
    | cons c rest ih =>
        have hc := c.utf8Size_le_four
        rw [String.utf8Len_cons, List.length_cons]
        omega
  calc s.utf8ByteSize = String.utf8Len s.toList := by
        rw [← String.utf8ByteSize_ofList, String.ofList_toList]
    _ ≤ 4 * s.toList.length := hlist s.toList

namespace Server

/-- A path without a query is taken as it is written. -/
theorem Target.ofPath?_of_plain {cs : List Char} (hne : cs ≠ [])
    (h : ∀ c ∈ cs, isPathChar c = true) : ofPath? cs = some { path := String.ofList cs } := by
  have hno (mark : Char) (hmark : isPathChar mark = false) : ∀ c ∈ cs, (c != mark) = true := by
    intro c hc
    rw [bne_iff_ne]
    rintro rfl
    exact absurd (h c hc) (by simp [hmark])
  have hhash : cs.takeWhile (· != '#') = cs :=
    List.takeWhile_eq_self_iff.mpr (hno '#' (by decide))
  have hpath : cs.takeWhile (· != '?') = cs :=
    List.takeWhile_eq_self_iff.mpr (hno '?' (by decide))
  have hquery : cs.dropWhile (· != '?') = [] :=
    List.dropWhile_eq_nil_iff.mpr (hno '?' (by decide))
  have hcut : Text.cut? '?' cs = none := by
    simp only [Text.cut?, hquery]
  simp [ofPath?, hhash, hpath, hcut, hne, List.all_eq_true.mpr h]

/-- A target that begins with a slash is read as a path. -/
theorem Target.read?_of_slash {s : String} {rest : List Char} (hs : s.toList = '/' :: rest)
    (hlong : s.utf8ByteSize ≤ longest) : read? s = ofPath? s.toList := by
  unfold read?
  simp only [if_neg (Nat.not_lt.mpr hlong), hs]

/-- The path of an incident leads to its acknowledgment. -/
theorem Route.ofPath?_acknowledge {incident : String} (hne : incident ≠ "")
    (h : '/' ∉ incident.toList) :
    ofPath? (Settings.ackPath ++ incident) = some (.acknowledge incident) := by
  have hchars : (Settings.ackPath ++ incident).toList =
      "/api/ack".toList ++ '/' :: incident.toList := by
    simp [Settings.ackPath]
  have hfront : Text.segments '/' "/api/ack".toList = ["".toList, "api".toList, "ack".toList] := by
    decide +kernel
  have hsplit : Text.split '/' (Settings.ackPath ++ incident) = ["", "api", "ack", incident] := by
    rw [Text.split, hchars, Text.segments_append, hfront, Text.segments_of_not_mem h]
    simp
  simp only [ofPath?, hsplit, if_neg hne]

/-- A place without percent signs and without characters beyond ASCII says what is written. -/
theorem placeText?_of_plain {raw : String} (hpercent : '%' ∉ raw.toList)
    (hascii : ∀ c ∈ raw.toList, c.toNat < 128) : placeText? raw = some raw := by
  simp only [placeText?, Text.percentDecode_of_no_percent _ hpercent,
    Text.Utf8.decode?_ascii _ hascii, Option.map_some, String.ofList_toList]

variable (random : Nat)

/-- The path of an incident is a target. -/
theorem Target.read?_link :
    read? (Settings.ackPath ++ Incident.identifier random) =
      some { path := Settings.ackPath ++ Incident.identifier random } := by
  have hlength : (Settings.ackPath ++ Incident.identifier random).toList.length = 45 := by
    rw [String.toList_append, List.length_append, Incident.length_identifier]
    rfl
  have hlong : (Settings.ackPath ++ Incident.identifier random).utf8ByteSize ≤ longest := by
    have hbytes := Text.utf8ByteSize_le (Settings.ackPath ++ Incident.identifier random)
    rw [hlength] at hbytes
    exact Nat.le_trans hbytes (by decide)
  have hpath : Settings.ackPath.toList.all isPathChar = true := by decide
  have hidentifier : Incident.identifierChars.all isPathChar = true := by decide
  have hplain : ∀ c ∈ (Settings.ackPath ++ Incident.identifier random).toList,
      isPathChar c = true := by
    rw [String.toList_append, List.forall_mem_append]
    refine ⟨List.all_eq_true.mp hpath, ?_⟩
    intro c hc
    exact List.all_eq_true.mp hidentifier c (Incident.identifier_chars random c hc)
  rw [read?_of_slash (by rw [String.toList_append]; rfl) hlong,
    ofPath?_of_plain (by rw [String.toList_append]; exact nofun) hplain, String.ofList_toList]

/-- A request that follows a path: it asks for it or posts to it. -/
def Request.Follows (path : String) (q : Request) : Prop :=
  ∃ method ∈ ["GET", "POST"], ∃ body, read? method path body = some q

/-- The path of an incident can be followed. -/
theorem Request.read?_link {method : String} (hmethod : method ∈ ["GET", "POST"])
    (body : List UInt8) :
    read? method (Settings.ackPath ++ Incident.identifier random) body = some
      { method, target := { path := Settings.ackPath ++ Incident.identifier random }, body } := by
  have hname : isMethod method = true := by
    have hnames : ∀ m ∈ ["GET", "POST"], isMethod m = true := by decide +kernel
    exact hnames method hmethod
  unfold read?
  rw [if_pos hname, Target.read?_link]
  rfl

/-- Following the path of an incident acknowledges it. -/
theorem Request.acknowledges?_of_follows {q : Request}
    (h : q.Follows (Settings.ackPath ++ Incident.identifier random)) :
    q.acknowledges? = some (Incident.identifier random) ∧ q.method ≠ "HEAD" := by
  obtain ⟨method, hmethod, body, hread⟩ := h
  rw [read?_link random hmethod] at hread
  obtain rfl := Option.some.inj hread
  have hchars := Incident.identifier_chars random
  have hne : Incident.identifier random ≠ "" := by
    intro hempty
    have hlength := Incident.length_identifier random
    simp [hempty] at hlength
  have hroute := Route.ofPath?_acknowledge hne fun hslash => absurd (hchars _ hslash) (by decide)
  have hascii : Incident.identifierChars.all (·.toNat < 128) = true := by decide
  have hplace := placeText?_of_plain (fun hpercent => absurd (hchars _ hpercent) (by decide))
    fun c hc => by simpa using List.all_eq_true.mp hascii c (hchars c hc)
  have hmethods : ∀ m ∈ ["GET", "POST"],
      (Route.acknowledge (Incident.identifier random)).methods.contains m = true ∧ m ≠ "HEAD" := by
    simp [Route.methods]
  obtain ⟨hhas, hhead⟩ := hmethods method hmethod
  refine ⟨?_, hhead⟩
  simp only [acknowledges?, hroute, hhas, if_true, hplace]

end Server

/-! ### What is no longer pending -/

/-- The store works and has no record of an incident. -/
def Backing.Absent {services : Services κ ω} (B : Backing services) (incident : String)
    (w : World ω) : Prop :=
  B.sound w.outside ∧ ∀ t, B.live t incident w.outside = false

/-- A process that writes nothing for an incident leaves it without a record. -/
theorem Backing.Absent.perform {α : Type} {services : Services κ ω} {B : Backing services}
    {incident : String} {w : World ω} (h : B.Absent incident w) {p : Process κ α}
    (hp : p.Every (Call.WritesNot incident)) : B.Absent incident (w.perform services p).2 :=
  ⟨B.sound_perform h.1 p, B.absent_perform h.1 hp h.2⟩

namespace Service

variable (s : Service κ ω) {B : Backing s.services} {incident : String} {w : World ω}

/-- A request writes no record but under the identifier that it gives out. -/
theorem response_writesNot {fresh : String} (h : fresh ≠ incident) (w : World ω)
    (q : Server.Request) : (s.response w fresh q).Every (Call.WritesNot incident) :=
  s.response_every (fun _ _ => trivial) (fun _ _ => h) (fun _ => trivial) (fun _ _ => trivial)
    (fun _ _ => ⟨trivial, trivial⟩) fun _ => trivial

/-- Checks write no record. -/
theorem absent_runChecks (h : B.Absent incident w) (l : List Armed) :
    B.Absent incident (l.foldl (World.runCheck s.services) w) := by
  induction l generalizing w with
  | nil => exact h
  | cons a rest ih =>
      have hcheck : (Escalation.check (κ := κ) a.incident a.settings).Every
          (Call.WritesNot incident) :=
        Escalation.check_every trivial trivial trivial fun _ => trivial
      -- absence does not depend on the clock
      have hdue : B.Absent incident { w with now := a.due } := h
      exact ih (hdue.perform hcheck)

/-- A visit that does not give out the identifier leaves it without a record. -/
theorem absent_step (h : B.Absent incident w) {v : Visit} (hv : ¬ v.GivesOut incident) :
    B.Absent incident (s.step w v) := by
  cases v with
  | request fresh q => exact h.perform (s.response_writesNot hv w q)
  | advance seconds =>
      have hrest : B.Absent incident
          { w with armed := w.armed.dropWhile (·.due ≤ w.now + seconds) } := h
      exact s.absent_runChecks hrest (w.armed.takeWhile (·.due ≤ w.now + seconds))

/-- What is no longer pending stays so, unless its identifier is given out again. -/
theorem absent_run (h : B.Absent incident w) {visits : List Visit}
    (hvisits : ∀ v ∈ visits, ¬ v.GivesOut incident) : B.Absent incident (s.run w visits) := by
  induction visits generalizing w with
  | nil => exact h
  | cons v rest ih =>
      obtain ⟨hv, hrest⟩ := List.forall_mem_cons.mp hvisits
      exact ih (s.absent_step h hv) hrest

/-! ### Following a link -/

variable (B)

/-- A request takes the record of an incident away, and leaves every other record and every armed
check as it is. -/
structure Acknowledges (incident : String) (w : World ω) (fresh : String) (q : Server.Request) :
    Prop where
  answer : (w.perform s.services (s.response w fresh q)).1 =
    .ok (.json 201 [("status", .string "success")])
  armed : (s.step w (.request fresh q)).armed = w.armed
  removed : ∀ t, B.live t incident (s.step w (.request fresh q)).outside = false
  kept : ∀ t other, other ≠ incident →
    B.live t other (s.step w (.request fresh q)).outside = B.live t other w.outside

/-- A request finds nothing to acknowledge, and leaves every record and every armed check as it
is. -/
structure Refuses (incident : String) (w : World ω) (fresh : String) (q : Server.Request) :
    Prop where
  answer : (w.perform s.services (s.response w fresh q)).1 =
    .ok (.error 500 ("incident " ++ incident ++ " does not exist or was already acknowledged"))
  armed : (s.step w (.request fresh q)).armed = w.armed
  kept : ∀ t other,
    B.live t other (s.step w (.request fresh q)).outside = B.live t other w.outside

variable {B} {random : Nat} {q : Server.Request}

/-- Whoever follows the path of an incident reaches its acknowledgment. -/
theorem response_of_follows (h : q.Follows (Settings.ackPath ++ Incident.identifier random))
    (w : World ω) (fresh : String) :
    s.response w fresh q = (s.relay.acknowledge (Incident.identifier random)).bind
      fun x => .done (Server.acknowledgeAnswer x) := by
  obtain ⟨hack, hmethod⟩ := Server.Request.acknowledges?_of_follows random h
  have hwhole (a : Server.Answer) : Server.shorten q.method a = a := by
    simp only [Server.shorten, if_neg hmethod]
  simp only [response, Server.respond_of_acknowledgment hack, hwhole]

/-- What comes of following the path of an incident is what comes of its acknowledgment. -/
theorem perform_of_follows (hworkflow : s.relay.workflow = true)
    (h : q.Follows (Settings.ackPath ++ Incident.identifier random)) (w : World ω)
    (fresh : String) :
    let acknowledged := w.perform s.services (Escalation.acknowledge (Incident.identifier random))
    w.perform s.services (s.response w fresh q) =
      (Server.acknowledgeAnswer acknowledged.1, acknowledged.2) := by
  rw [s.response_of_follows h]
  simp only [Relay.acknowledge, if_pos hworkflow, World.perform, Process.run_bind, Process.run]

/-- Whoever follows the path of an incident with a record acknowledges it. -/
theorem acknowledges_of_live (hworkflow : s.relay.workflow = true)
    (h : q.Follows (Settings.ackPath ++ Incident.identifier random)) (hsound : B.sound w.outside)
    (hlive : B.live w.now (Incident.identifier random) w.outside = true) (fresh : String) :
    s.Acknowledges B (Incident.identifier random) w fresh q := by
  obtain ⟨hanswer, harmed, hrest⟩ := B.acknowledge_of_live hsound hlive
  have hperform := s.perform_of_follows hworkflow h w fresh
  refine ⟨?_, ?_, ?_, ?_⟩
  · rw [hperform, hanswer]
    rfl
  · simp only [step, hperform, harmed]
  · intro t
    simp [step, hperform, hrest]
  · intro t other hother
    simp [step, hperform, hrest, hother]

/-- Whoever follows the path of an incident without a record is refused. -/
theorem refuses_of_absent (hworkflow : s.relay.workflow = true)
    (h : q.Follows (Settings.ackPath ++ Incident.identifier random)) (hsound : B.sound w.outside)
    (habsent : B.live w.now (Incident.identifier random) w.outside = false) (fresh : String) :
    s.Refuses B (Incident.identifier random) w fresh q := by
  obtain ⟨hanswer, harmed, hrest⟩ := B.acknowledge_of_absent hsound habsent
  have hperform := s.perform_of_follows hworkflow h w fresh
  refine ⟨?_, ?_, ?_⟩
  · rw [hperform, hanswer]
    rfl
  · simp only [step, hperform, harmed]
  · intro t other
    simp only [step, hperform, hrest]

/-- Of every alert the channels are handed one incident, under the identifier of the alert. If it
has to be acknowledged, its link is the public host without slashes at its end, and the path of the
identifier; otherwise the link is the posted one, if any. A GET or a POST of the path is a request
that reaches the acknowledgment of that identifier. In every state in which the store works, the
request removes the record if it is there, and nothing else; whoever follows the path after that,
at once or after any traffic, is refused, and so is everyone if the record is not there. -/
theorem delivered_link_leads_back (s : Service κ ω) (B : Backing s.services)
    (hworkflow : s.relay.workflow = true) (random : Nat) :
    let id := Incident.identifier random
    let path := Settings.ackPath ++ id
    (∃ base slashes : String, s.relay.settings.server.publicHost = base ++ slashes ∧
      (∀ c ∈ slashes.toList, c = '/') ∧ base.toList.getLast? ≠ some '/' ∧
      ∀ team content params, ∃ i : Incident,
        (s.relay.createIncident id team content params).Every (Call.HandsOnly i) ∧
        (∀ c rest, s.relay.channels (s.relay.settings.withOverrides params) = .ok (c :: rest) →
          ∃ next, s.relay.createIncident id team content params =
            .call (.count .received) fun _ => .call (.send c i) next) ∧
        i.id = id ∧
        i.ackUrl? =
          if !isResolved content && (s.relay.settings.withOverrides params).onCall.enable then
            some (base ++ path)
          else (Incident.create id team content).ackUrl?) ∧
    (∀ method ∈ ["GET", "POST"], ∀ body, ∃ q, Server.Request.read? method path body = some q) ∧
    ∀ q : Server.Request, q.Follows path →
      (∀ w fresh, s.response w fresh q =
        (s.relay.acknowledge id).bind fun x => .done (Server.acknowledgeAnswer x)) ∧
      ∀ (w : World ω) (fresh : String), B.sound w.outside →
        (B.live w.now id w.outside = true →
          s.Acknowledges B id w fresh q ∧
          ∀ visits, (∀ v ∈ visits, ¬ v.GivesOut id) → ∀ (q' : Server.Request) (fresh' : String),
            q'.Follows path →
              s.Refuses B id (s.run (s.step w (.request fresh q)) visits) fresh' q') ∧
        (B.live w.now id w.outside = false → s.Refuses B id w fresh q) := by
  intro id path
  refine ⟨?_, ?_, ?_⟩
  · obtain ⟨base, slashes, hhost, hslashes, hbase, hurl⟩ := s.relay.settings.ackUrl_eq
    refine ⟨base, slashes, hhost, hslashes, hbase, ?_⟩
    intro team content params
    have hsettings := s.relay.settingsFor_eq params
    have hlink := Relay.ackUrl?_announced (s.relay.settings.withOverrides params)
      (Incident.create id team content)
    refine ⟨_, s.relay.createIncident_handsOnly id team content params, ?_,
      Relay.id_announced _ _, ?_⟩
    · intro c rest hchannels
      exact Relay.createIncident_of_cons (hsettings ▸ hchannels)
    · rw [hsettings, hlink, ← hurl]
      rfl
  · intro method hmethod body
    exact ⟨_, Server.Request.read?_link random hmethod body⟩
  · intro q hq
    refine ⟨s.response_of_follows hq, ?_⟩
    intro w fresh hsound
    refine ⟨?_, fun habsent => s.refuses_of_absent hworkflow hq hsound habsent fresh⟩
    intro hlive
    have hused := s.acknowledges_of_live hworkflow hq hsound hlive fresh
    refine ⟨hused, ?_⟩
    intro visits hvisits q' fresh' hq'
    have habsent : B.Absent id (s.step w (.request fresh q)) :=
      ⟨B.sound_perform hsound _, hused.removed⟩
    have hlater := s.absent_run habsent hvisits
    exact s.refuses_of_absent hworkflow hq' hlater.1 (hlater.2 _) fresh'

/-- A service with an escalation workflow and without channels. Its public host ends in slashes. -/
def watch : Service Empty Drill where
  relay :=
    { settings := { server := { publicHost := "http://relay//" }, onCall := { enable := true } }
      channels := fun _ => .ok []
      name := nofun
      workflow := true }
  services := Drill.services

/-- A link that is asked for, and after a minute posted to, while another incident is pending. -/
theorem delivered_link_leads_back_once :
    let id := Incident.identifier 7
    let path := "/api/ack/" ++ id
    let w : World Drill :=
      { outside :=
          { store := { records := [(id, ⟨"pending", some 1⟩), ("j", ⟨"pending", some 1⟩)] } } }
    watch.relay.workflow = true ∧ Drill.backing.live 0 id w.outside = true ∧
      ∃ q q', Server.Request.read? "GET" path [] = some q ∧
        Server.Request.read? "POST" path [] = some q' ∧
        watch.Acknowledges Drill.backing id w "k" q ∧
        watch.Refuses Drill.backing id
          (watch.run (watch.step w (.request "k" q)) [.advance 60]) "l" q' := by
  intro id path w
  have hlive : Drill.backing.live 0 id w.outside = true := by decide +kernel
  obtain ⟨-, hread, hfollow⟩ := delivered_link_leads_back watch Drill.backing rfl 7
  obtain ⟨q, hq⟩ := hread "GET" (by decide) []
  obtain ⟨q', hq'⟩ := hread "POST" (by decide) []
  obtain ⟨hused, hlater⟩ :=
    ((hfollow q ⟨"GET", by decide, [], hq⟩).2 w "k" rfl).1 hlive
  refine ⟨rfl, hlive, q, q', hq, hq', hused, ?_⟩
  exact hlater [.advance 60] (by simp [Visit.GivesOut]) q' "l" ⟨"POST", by decide, [], hq'⟩

end Service

end IncidentRelay
