import IncidentRelay.Drill.Workflow
import IncidentRelay.Proofs.Backing
import IncidentRelay.Redis.Store

/-!
# A service with its records in Redis

The service can be stopped and started again at any time, and the Redis server with its records goes
on meanwhile. The server does what its documentation says of the few commands that the store needs:
a record that has run out is not there, neither to be seen nor to be removed.

## Main statements

* `RedisServer.ask_eq`: a command comes through, over the connection that is up or over a new one.
* `Deployment.backing`: a store over such a server works.
* `Deployment.rebuild_eq`: starting the service again finds the server and leaves its records alone;
  what was armed is gone.
-/

namespace IncidentRelay

/-! ### The server -/

/-- A Redis server that lets its records run out. -/
structure RedisServer where
  /-- The instant on the server's clock, in milliseconds. -/
  clock : Nat := 0
  records : Memory := []

namespace RedisServer

/-- What the server replies to a command, and what becomes of it. -/
def reply (s : RedisServer) : Redis.Command → Redis.Reply × RedisServer
  | .authenticate _ | .select _ => (Redis.granted, s)
  | .ping => (.status "PONG", s)
  | .put key marker ttl =>
    (Redis.granted, { s with records := s.records.put s.clock key marker ttl })
  | .present key => (.integer (if s.records.present s.clock key then 1 else 0), s)
  | .remove key =>
    (.integer (if s.records.present s.clock key then 1 else 0),
      { s with records := s.records.erase key })

/-- The way to the server, which is always open. -/
def link : Redis.Link RedisServer where
  connect s := (true, s)
  exchange c s :=
    let (r, s) := s.reply c
    (some r, s)

/-- The server accepts the password and the database of any settings. -/
theorem greet_greeting (settings : Settings.Redis) (s : RedisServer) :
    Redis.greet link (Redis.greeting settings) s = (.ok (), s) := by
  have hgrant (cs : List Redis.Command) (h : ∀ c ∈ cs, s.reply c = (Redis.granted, s)) :
      Redis.greet link cs s = (.ok (), s) := by
    induction cs with
    | nil => rfl
    | cons c rest ih =>
        have hreply : link.exchange c s = (some Redis.granted, s) := by
          simp only [link, h c List.mem_cons_self]
        simp only [Redis.greet, hreply, if_true]
        exact ih fun d hd => h d (List.mem_cons_of_mem c hd)
  refine hgrant _ ?_
  intro c hc
  rcases List.mem_append.mp hc with hc | hc
  · obtain ⟨password, -, rfl⟩ := List.mem_map.mp hc
    rfl
  · split at hc
    · exact absurd hc List.not_mem_nil
    · exact List.mem_singleton.mp hc ▸ rfl

/-- The server that keeps its records takes every connection. -/
theorem establish_eq (settings : Settings.Redis) (s : RedisServer) :
    Redis.Store.establish ⟨link, settings⟩ s = (.ok (), ⟨true, s⟩) := by
  simp only [Redis.Store.establish, greet_greeting]
  rfl

/-- A command comes through, over the connection that is up or over a new one. -/
theorem ask_eq (settings : Settings.Redis) {c : Redis.Command} (s : Redis.Connected RedisServer)
    {r : Redis.Reply} {after : RedisServer} (h : s.outside.reply c = (r, after))
    (hr : ∀ e, r ≠ .refused e) :
    Redis.Store.ask ⟨link, settings⟩ c s = (.ok r, ⟨true, after⟩) := by
  have hcommand : Redis.Store.command ⟨link, settings⟩ c s.outside = (.ok r, ⟨true, after⟩) := by
    simp only [Redis.Store.command, link, h]
  simp only [Redis.Store.ask, establish_eq, hcommand, ite_self]

end RedisServer

/-! ### The service -/

/-- What is outside of a service with its records in Redis. -/
structure Deployment where
  redis : Redis.Connected RedisServer
  /-- The pages made, last first. -/
  pages : List Page := []

namespace Deployment

/-- The connection, with the server's clock at an instant of the service's. -/
def redisAt (d : Deployment) (now : Nat) : Redis.Connected RedisServer :=
  { d.redis with outside := { d.redis.outside with clock := now * 1000 } }

/-- The services of a deployment: a store in Redis, and a pager that may accept a page or not. -/
def services (redis : Settings.Redis) (verdict : Page → Except PagingError Unit) :
    Services Empty Deployment where
  put now key marker ttl d :=
    let (r, redis) :=
      Redis.Store.put ⟨RedisServer.link, redis⟩ key marker (ttl * 1000) (d.redisAt now)
    (r, { d with redis })
  present now key d :=
    let (r, redis) := Redis.Store.present ⟨RedisServer.link, redis⟩ key (d.redisAt now)
    (r, { d with redis })
  remove now key d :=
    let (r, redis) := Redis.Store.remove ⟨RedisServer.link, redis⟩ key (d.redisAt now)
    (r, { d with redis })
  page now incident settings d :=
    let page : Page := ⟨now, incident, settings⟩
    (verdict page, { d with pages := page :: d.pages })
  send _ c := nomatch c

/-- Stops the service, and starts it again after some seconds over the same server. -/
def rebuild (redis : Settings.Redis) (down : Nat) (w : World Deployment) : World Deployment :=
  let w := w.restart
  let (_, connected) := Redis.Store.open_ ⟨RedisServer.link, redis⟩ true w.outside.redis.outside
  { w with now := w.now + down, outside := { w.outside with redis := connected } }

variable (redis : Settings.Redis) (verdict : Page → Except PagingError Unit)

/-- Starting the service again finds the server and leaves its records alone; what was armed is
gone. -/
theorem rebuild_eq (down : Nat) (w : World Deployment) :
    rebuild redis down w =
      { w with
        now := w.now + down
        armed := []
        outside := { w.outside with redis := ⟨true, w.outside.redis.outside⟩ } } := by
  have hping : Redis.Store.ask ⟨RedisServer.link, redis⟩ .ping ⟨true, w.outside.redis.outside⟩ =
      (.ok (.status "PONG"), ⟨true, w.outside.redis.outside⟩) :=
    RedisServer.ask_eq redis _ rfl fun _ => nofun
  simp only [rebuild, Redis.Store.open_, World.restart, RedisServer.establish_eq, if_true,
    Redis.Store.ping, hping]

/-- Whether there is a record at an instant. -/
def live (now : Nat) (key : String) (d : Deployment) : Bool :=
  d.redis.outside.records.present (now * 1000) key

/-- A write succeeds if its time to live has a number of milliseconds. -/
theorem put_eq {ttl : Nat} (h : ttl * 1000 ≤ maxWord) (now : Nat) (key marker : String)
    (d : Deployment) :
    (services redis verdict).put now key marker ttl d =
      (.ok (), { d with redis := ⟨true, ⟨now * 1000,
        d.redis.outside.records.put (now * 1000) key marker (max (ttl * 1000) 1)⟩⟩ }) := by
  have hask := RedisServer.ask_eq redis (c := .put key marker (max (ttl * 1000) 1))
    (d.redisAt now) rfl (fun _ => nofun)
  simp only [services, Redis.Store.put_of_fits _ h, hask]
  rfl

/-- A time to live without a number of milliseconds is refused. -/
theorem put_of_long {ttl : Nat} (h : maxWord < ttl * 1000) (now : Nat) (key marker : String)
    (d : Deployment) :
    ∃ e, (services redis verdict).put now key marker ttl d =
      (.error e, { d with redis := d.redisAt now }) := by
  simp only [services, Redis.Store.put_of_long _ h]
  exact ⟨_, rfl⟩

/-- Looking for a record over Redis tells whether it is there. -/
theorem present_eq (now : Nat) (key : String) (d : Deployment) :
    (services redis verdict).present now key d =
      (.ok (live now key d),
        { d with redis := ⟨true, ⟨now * 1000, d.redis.outside.records⟩⟩ }) := by
  have hask := RedisServer.ask_eq redis (c := .present key) (d.redisAt now) rfl (fun _ => nofun)
  simp only [services, Redis.Store.present, Redis.Store.decide, hask, Redis.presentOf_flag]
  rfl

/-- Removing a record over Redis tells whether it was there. -/
theorem remove_eq (now : Nat) (key : String) (d : Deployment) :
    (services redis verdict).remove now key d =
      (.ok (live now key d),
        { d with redis := ⟨true, ⟨now * 1000, d.redis.outside.records.erase key⟩⟩ }) := by
  have hask := RedisServer.ask_eq redis (c := .remove key) (d.redisAt now) rfl (fun _ => nofun)
  simp only [services, Redis.Store.remove, Redis.Store.decide, hask, Redis.removedOf_flag]
  rfl

/-- A store over a server that lets its records run out works. -/
def backing : Backing (services redis verdict) where
  sound _ := True
  live := live
  put now key marker ttl d _ := by
    refine ⟨trivial, ?_⟩
    intro t other hne
    by_cases hlong : maxWord < ttl * 1000
    · obtain ⟨e, heq⟩ := put_of_long redis verdict hlong now key marker d
      rw [heq]
      rfl
    · rw [put_eq redis verdict (Nat.not_lt.mp hlong)]
      simp only [live, Memory.present_put, if_neg (Ne.symm hne)]
  present now key d _ := by
    rw [present_eq]
    exact ⟨rfl, trivial, fun _ _ => rfl⟩
  remove now key d _ := by
    rw [remove_eq]
    refine ⟨fun h => by rw [h], trivial, ?_⟩
    intro t other
    have hremoved := Memory.present_remove d.redis.outside.records (t * 1000) key other
    refine hremoved.trans ?_
    by_cases hkey : key = other
    · simp [hkey]
    · simp [hkey, Ne.symm hkey, live]
  page _ _ _ _ _ := ⟨trivial, fun _ _ => rfl⟩
  send _ c := nomatch c

end Deployment

end IncidentRelay
