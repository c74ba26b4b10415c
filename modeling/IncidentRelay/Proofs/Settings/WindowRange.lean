import IncidentRelay.Proofs.CallLog
import IncidentRelay.Redis.Store
import IncidentRelay.Settings.Load
import IncidentRelay.Settings.Override

/-!
# The range of the acknowledgment window

How long an acknowledgment window can be. Loaded settings have none beyond the longest one, and a
parameter of a request that asks for one is ignored, however it is written. Thirty days leave room
for everything that is computed of a window later on: its seconds, the life of its record, and the
milliseconds in which the store is told of that.

## Main statements

* `withOverrides_waitMinutes_le`: an override keeps the window in range.
* `Escalation.start_fits`: a start with a window in range is not refused for its length.
* `Redis.ttlMillis_of_le`: the milliseconds of a record.
* `Settings.window_in_range`: windows of loaded settings, after any overrides.
-/

namespace IncidentRelay

namespace Settings

/-- An override keeps the window in range. -/
theorem withOverrides_waitMinutes_le {s : Settings} (h : s.onCall.waitMinutes ≤ maxWaitMinutes)
    (params : Params) : (s.withOverrides params).onCall.waitMinutes ≤ maxWaitMinutes := by
  have hwait : (s.withOverrides params).onCall.waitMinutes =
      ((params.given? "oncall_wait_minutes").bind minutesOf?).getD s.onCall.waitMinutes := rfl
  rw [hwait]
  cases hminutes : (params.given? "oncall_wait_minutes").bind minutesOf? with
  | none => exact h
  | some n =>
      obtain ⟨text, -, hn⟩ := Option.bind_eq_some_iff.mp hminutes
      exact minutesOf?_le hn

/-- Overrides one after the other keep the window in range. -/
theorem foldl_withOverrides_waitMinutes_le {s : Settings}
    (h : s.onCall.waitMinutes ≤ maxWaitMinutes) (overrides : List Params) :
    (overrides.foldl withOverrides s).onCall.waitMinutes ≤ maxWaitMinutes := by
  induction overrides generalizing s with
  | nil => exact h
  | cons params rest ih => exact ih (withOverrides_waitMinutes_le h params)

variable {s : OnCall}

/-- A window in range has sixty seconds a minute. -/
theorem OnCall.wait_of_le (h : s.waitMinutes ≤ maxWaitMinutes) : s.wait = s.waitMinutes * 60 := by
  have hword : maxWaitMinutes * 60 ≤ maxWord := by decide
  exact OnCall.wait_eq (Nat.le_trans (Nat.mul_le_mul_right 60 h) hword)

/-- The life of the record of a window in range has a number of seconds. -/
theorem OnCall.record_fits (h : s.waitMinutes ≤ maxWaitMinutes) :
    s.wait + recordGrace ≤ maxWord := by
  have hword : maxWaitMinutes * 60 + recordGrace ≤ maxWord := by decide
  rw [OnCall.wait_of_le h]
  exact Nat.le_trans (Nat.add_le_add_right (Nat.mul_le_mul_right 60 h) recordGrace) hword

end Settings

/-- A start with a window in range is not refused for its length, whatever it is answered. -/
theorem Escalation.start_fits {κ σ : Type} (answer : (c : Call κ) → σ → c.Reply × σ)
    (incident : String) {settings : Settings.OnCall}
    (h : settings.wait + recordGrace ≤ maxWord) (x : σ) :
    ((start incident settings).run answer x).1 ≠ .error .windowOverflow := by
  intro hover
  have hbegun := start_calls answer incident h x
  rw [hover] at hbegun
  generalize (start incident settings).calls answer x = calls at hbegun
  cases hbegun

namespace Redis

/-- The record of a window in range lives for a minute longer, in milliseconds. -/
theorem ttlMillis_of_le {minutes : Nat} (h : minutes ≤ maxWaitMinutes) (key : String) :
    ttlMillis key ((minutes * 60 + recordGrace) * 1000 * nanosPerMilli) =
      .ok ((minutes + 1) * 60000) := by
  have hmillis : (minutes * 60 + recordGrace) * 1000 = (minutes + 1) * 60000 := by
    unfold recordGrace
    omega
  have hfits : (minutes + 1) * 60000 ≤ maxWord := by
    unfold maxWaitMinutes at h
    unfold maxWord
    omega
  have hnanos : (minutes + 1) * 60000 * nanosPerMilli / nanosPerMilli = (minutes + 1) * 60000 :=
    Nat.mul_div_cancel _ (by decide)
  have hone : 1 ≤ (minutes + 1) * 60000 := by omega
  rw [ttlMillis, hmillis, hnanos, millisOf_of_fits hfits, Nat.max_eq_left hone]

end Redis

/-- The acknowledgment window is always in range. Whatever was loaded, and whatever overrides came
one after the other: the window is not longer than thirty days, it has exactly sixty seconds a
minute, the life of its record has a number of seconds, so that no start is refused for its length,
and in milliseconds the store is told of exactly one minute more than the window. -/
theorem Settings.window_in_range {cmd : CommandLine} {environment : Table String} {files : Files}
    {s : Settings} (h : load cmd environment files = .ok s) (overrides : List Params) :
    let own := (overrides.foldl withOverrides s).onCall
    own.waitMinutes ≤ 30 * 24 * 60 ∧
      own.wait = own.waitMinutes * 60 ∧
      own.wait + recordGrace ≤ maxWord ∧
      (∀ (κ σ : Type) (answer : (c : Call κ) → σ → c.Reply × σ) (incident : String) (x : σ),
        ((Escalation.start incident own).run answer x).1 ≠ .error .windowOverflow) ∧
      ∀ key, Redis.ttlMillis key ((own.wait + recordGrace) * 1000 * Redis.nanosPerMilli) =
        .ok ((own.waitMinutes + 1) * 60000) := by
  intro own
  have hrange : own.waitMinutes ≤ maxWaitMinutes :=
    foldl_withOverrides_waitMinutes_le (load_waitMinutes_le h) overrides
  have hwait := OnCall.wait_of_le hrange
  have hfits := OnCall.record_fits hrange
  refine ⟨hrange, hwait, hfits, ?_, ?_⟩
  · intro κ σ answer incident x
    exact Escalation.start_fits answer incident hfits x
  · intro key
    rw [hwait]
    exact Redis.ttlMillis_of_le hrange key

/-- Windows that are no numbers, too large or negative are ignored, and a fraction of a minute is
cut off. -/
theorem Settings.window_in_range_thirty_days :
    let asked (text : String) : Params := [("oncall_wait_minutes", text)]
    let own (s : Settings) : OnCall :=
      (([asked "nan", asked "1e400", asked "-1", asked "43199.9"]).foldl withOverrides s).onCall
    ∃ s, load {} [("INCIDENTD_ONCALL__WAIT_MINUTES", "43200")] [] = .ok s ∧
      (own s).waitMinutes = 43199 ∧ (own s).wait = 2591940 ∧
        Redis.ttlMillis "i" (((own s).wait + recordGrace) * 1000 * Redis.nanosPerMilli) =
          .ok 2592000000 := by
  intro asked own
  have hload : load {} [("INCIDENTD_ONCALL__WAIT_MINUTES", "43200")] [] =
      .ok { onCall := { waitMinutes := 43200 } } := by
    decide +kernel
  obtain ⟨-, hwait, -, -, hmillis⟩ := window_in_range hload
    [asked "nan", asked "1e400", asked "-1", asked "43199.9"]
  have hminutes : (own { onCall := { waitMinutes := 43200 } }).waitMinutes = 43199 := by
    decide +kernel
  have hwait : (own { onCall := { waitMinutes := 43200 } }).wait = _ := hwait
  have hmillis : Redis.ttlMillis "i" _ = _ := hmillis "i"
  exact ⟨_, hload, hminutes, hwait.trans (congrArg (· * 60) hminutes),
    hmillis.trans (congrArg (fun n => Except.ok ((n + 1) * 60000)) hminutes)⟩

end IncidentRelay
