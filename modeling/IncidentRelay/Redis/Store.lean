import IncidentRelay.Redis.Reply
import IncidentRelay.Store.Basic
import IncidentRelay.Text.Blank

/-!
# The store in Redis

Records in a Redis server, which lets them run out by itself. Each operation is one command. A
connection that was lost is set up again before the next command: the password first, then the
choice of the database, each only if it is set.

The server counts times to live in whole milliseconds. They can be given more finely, in
nanoseconds, and what is left of a further millisecond is dropped.

## Main statements

* `Store.write_of_long`, `Store.write_of_fits`: a time to live whose milliseconds have no number of
  64 bits is refused before anything is sent, and any other is told to the server.
* `Store.put_eq_write`: a time to live in milliseconds is one in nanoseconds.
-/

namespace IncidentRelay.Redis

variable {σ : Type}

/-- A server that can be reached, for states in `σ`. -/
structure Link (σ : Type) where
  /-- Opens a connection, and tells whether that went well. -/
  connect : σ → Bool × σ
  /-- Sends a command. Without a reply the connection is lost. -/
  exchange : Command → σ → Option Reply × σ

/-- The password, unless it is empty. -/
def password? (s : Settings.Redis) : Option String := s.password.filter (· ≠ "")

/-- What has to be said at the start of a connection. -/
def greeting (s : Settings.Redis) : List Command :=
  (password? s).toList.map .authenticate ++ if s.db = 0 then [] else [.select s.db]

/-- Why a greeting was not granted. -/
def greetingFailure : Command → Option Reply → Failure
  | .select _, some (.refused r) =>
    .database (if (Table.get? codeNames r.code).isSome then r.detail
      else some (r.detail.getD "Unknown extension error encountered"))
  | .select _, _ => .database none
  | _, _ => .authentication

/-- Says the commands of a greeting, each of which has to be granted. -/
def greet (link : Link σ) : List Command → σ → Except Failure Unit × σ
  | [], s => (.ok (), s)
  | c :: rest, s =>
    match link.exchange c s with
    | (r, s) => if r = some granted then greet link rest s else (.error (greetingFailure c r), s)

/-- A store behind a link. -/
structure Store (σ : Type) where
  link : Link σ
  settings : Settings.Redis

/-- A connection that is up or lost, and the state of everything behind it. -/
structure Connected (σ : Type) where
  up : Bool
  outside : σ

namespace Store

/-- Sets up a connection. -/
def establish (store : Store σ) (s : σ) : Except Failure Unit × Connected σ :=
  match store.link.connect s with
  | (false, s) => (.error .unreachable, ⟨false, s⟩)
  | (true, s) =>
    match greet store.link (greeting store.settings) s with
    | (.ok (), s) => (.ok (), ⟨true, s⟩)
    | (.error e, s) => (.error e, ⟨false, s⟩)

/-- Sends a command over a connection that is up. -/
def command (store : Store σ) (c : Command) (s : σ) : Except Failure Reply × Connected σ :=
  match store.link.exchange c s with
  | (some (.refused r), s) => (.error (.refused r), ⟨true, s⟩)
  | (some r, s) => (.ok r, ⟨true, s⟩)
  | (none, s) => (.error .lost, ⟨false, s⟩)

/-- Sends a command, over a new connection if the last one was lost. -/
def ask (store : Store σ) (c : Command) (s : Connected σ) : Except Failure Reply × Connected σ :=
  if s.up then store.command c s.outside
  else
    match store.establish s.outside with
    | (.error e, s) => (.error e, s)
    | (.ok (), s) => store.command c s.outside

end Store

/-- A failure as the store's error, about a key unless the connection was at fault. -/
def Failure.onKey (key : String) (f : Failure) : StoreError :=
  if f.isLoss then .unavailable f.message else .operation key f.message

/-- How many nanoseconds there are in a millisecond. -/
def nanosPerMilli : Nat := 1000000

/-- A time to live in nanoseconds as error texts show it: in the largest unit that it reaches, with
as many decimal places as it takes. -/
def durationText (ttl : Nat) : String :=
  let (scale, unit) :=
    if 1000000000 ≤ ttl then (1000000000, "s")
    else if nanosPerMilli ≤ ttl then (nanosPerMilli, "ms")
    else if 1000 ≤ ttl then (1000, "µs")
    else (1, "ns")
  let fraction := Text.trimRight (· == '0') ((toString (scale + ttl % scale)).toList.drop 1)
  toString (ttl / scale) ++ (if fraction = [] then "" else "." ++ String.ofList fraction) ++ unit

/-- The error of a time to live that has no number of 64 bits in milliseconds. -/
def tooLong (key shown : String) : StoreError :=
  .operation key ("ttl of " ++ shown ++ " is too large")

/-- The milliseconds that the server is told, of which there is at least one. `shown` is how an
error shows the time to live. -/
def millisOf (key : String) (millis : Nat) (shown : String) : Except StoreError Nat :=
  if maxWord < millis then .error (tooLong key shown) else .ok (max millis 1)

/-- The milliseconds of a time to live in nanoseconds, of which the whole ones count. -/
def ttlMillis (key : String) (ttl : Nat) : Except StoreError Nat :=
  millisOf key (ttl / nanosPerMilli) (durationText ttl)

/-- Milliseconds beyond 64 bits are refused. -/
theorem millisOf_of_long {key shown : String} {millis : Nat} (h : maxWord < millis) :
    millisOf key millis shown = .error (tooLong key shown) :=
  if_pos h

/-- Milliseconds within 64 bits are told, but not fewer than one. -/
theorem millisOf_of_fits {key shown : String} {millis : Nat} (h : millis ≤ maxWord) :
    millisOf key millis shown = .ok (max millis 1) :=
  if_neg (Nat.not_lt.mpr h)

/-- Whether a reply says that a record is there. -/
def presentOf (r : Reply) : Except Failure Bool :=
  match r with
  | .integer n => .ok (n ≠ 0)
  | .absent => .ok false
  | .status text =>
    if text = "OK" ∨ text = "1" then .ok true
    else if text = "0" then .ok false
    else .error (.unexpected "Response status not valid boolean" r)
  | .refused e => .error (.refused e)

/-- Whether a reply says that a record was removed. -/
def removedOf (r : Reply) : Except Failure Bool :=
  match r with
  | .integer n => .ok (n ≠ 0)
  | .status text =>
    if text = "OK" then .error (.unexpected "Response type not convertible to numeric." r)
    else
      match Text.natural? text with
      | some n => .ok (n ≠ 0)
      | none => .error (.unexpected "Could not convert from string." r)
  | .absent => .error (.unexpected "Response type not convertible to numeric." r)
  | .refused e => .error (.refused e)

/-- A reply of one or zero is read as yes or no. -/
theorem presentOf_flag (b : Bool) : presentOf (.integer (if b = true then 1 else 0)) = .ok b := by
  cases b <;> rfl

theorem removedOf_flag (b : Bool) : removedOf (.integer (if b = true then 1 else 0)) = .ok b :=
  presentOf_flag b

namespace Store

/-- Writes a record, once its milliseconds are known. -/
def writeMillis (store : Store σ) (key marker : String) (millis : Except StoreError Nat)
    (s : Connected σ) : Except StoreError Unit × Connected σ :=
  match millis with
  | .error e => (.error e, s)
  | .ok millis =>
    match store.ask (.put key marker millis) s with
    | (.ok _, s) => (.ok (), s)
    | (.error e, s) => (.error (e.onKey key), s)

/-- Writes a record with its time to live in nanoseconds. -/
def write (store : Store σ) (key marker : String) (ttl : Nat) (s : Connected σ) :
    Except StoreError Unit × Connected σ :=
  store.writeMillis key marker (ttlMillis key ttl) s

/-- Writes a record with its time to live in milliseconds. -/
def put (store : Store σ) (key marker : String) (ttl : Nat) (s : Connected σ) :
    Except StoreError Unit × Connected σ :=
  store.writeMillis key marker (millisOf key ttl (durationText (ttl * nanosPerMilli))) s

/-- Asks for a record, by a command whose reply is read as yes or no. -/
def decide (store : Store σ) (c : Command) (read : Reply → Except Failure Bool) (key : String)
    (s : Connected σ) : Except StoreError Bool × Connected σ :=
  match store.ask c s with
  | (.ok r, s) => ((read r).mapError (Failure.onKey key), s)
  | (.error e, s) => (.error (e.onKey key), s)

/-- Looks for a record. -/
def present (store : Store σ) (key : String) (s : Connected σ) :
    Except StoreError Bool × Connected σ :=
  store.decide (.present key) presentOf key s

/-- Removes a record, and tells whether there was one. -/
def remove (store : Store σ) (key : String) (s : Connected σ) :
    Except StoreError Bool × Connected σ :=
  store.decide (.remove key) removedOf key s

/-- Whether the server answers at all. Every failure counts as one of the connection. -/
def ping (store : Store σ) (s : Connected σ) : Except StoreError Unit × Connected σ :=
  match store.ask .ping s with
  | (.ok _, s) => (.ok (), s)
  | (.error e, s) => (.error (.unavailable e.message), s)

/-- Connects to the server, and asks it for a sign of life if `probe` says so. -/
def open_ (store : Store σ) (probe : Bool) (s : σ) : Except StoreError Unit × Connected σ :=
  match store.establish s with
  | (.error e, s) => (.error (.unavailable e.message), s)
  | (.ok (), s) => if probe then store.ping s else (.ok (), s)

/-- A time to live in milliseconds is one in nanoseconds. -/
theorem put_eq_write (store : Store σ) (key marker : String) (ttl : Nat) (s : Connected σ) :
    store.put key marker ttl s = store.write key marker (ttl * nanosPerMilli) s := by
  have hmillis : ttl * nanosPerMilli / nanosPerMilli = ttl := Nat.mul_div_cancel ttl (by decide)
  simp only [put, write, ttlMillis, hmillis]

/-- A time to live that is too long is refused before anything is sent. -/
theorem write_of_long (store : Store σ) {ttl : Nat} (h : maxWord < ttl / nanosPerMilli)
    (key marker : String) (s : Connected σ) :
    store.write key marker ttl s = (.error (tooLong key (durationText ttl)), s) := by
  simp only [write, ttlMillis, millisOf_of_long h, writeMillis]

/-- A time to live that is not too long is told to the server in milliseconds. -/
theorem write_of_fits (store : Store σ) {ttl : Nat} (h : ttl / nanosPerMilli ≤ maxWord)
    (key marker : String) (s : Connected σ) :
    store.write key marker ttl s =
      match store.ask (.put key marker (max (ttl / nanosPerMilli) 1)) s with
      | (.ok _, s) => (.ok (), s)
      | (.error e, s) => (.error (e.onKey key), s) := by
  simp only [write, ttlMillis, millisOf_of_fits h, writeMillis]

/-- A time to live beyond 64 bits is refused before anything is sent. -/
theorem put_of_long (store : Store σ) {ttl : Nat} (h : maxWord < ttl) (key marker : String)
    (s : Connected σ) :
    store.put key marker ttl s =
      (.error (tooLong key (durationText (ttl * nanosPerMilli))), s) := by
  simp only [put, millisOf_of_long h, writeMillis]

/-- Any other time to live is told to the server. -/
theorem put_of_fits (store : Store σ) {ttl : Nat} (h : ttl ≤ maxWord) (key marker : String)
    (s : Connected σ) :
    store.put key marker ttl s =
      match store.ask (.put key marker (max ttl 1)) s with
      | (.ok _, s) => (.ok (), s)
      | (.error e, s) => (.error (e.onKey key), s) := by
  simp only [put, millisOf_of_fits h, writeMillis]

end Store

end IncidentRelay.Redis
