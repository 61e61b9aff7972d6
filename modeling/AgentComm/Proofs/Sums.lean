import AgentComm.Proofs.SweepRace
import AgentComm.Proofs.Sweeping

/-!
# Sums that do not raise

In a run of threads whose registrations ask for TTLs small enough for a `float`, and whose default
TTL is, no sweep comes to a sum that raises.
-/

namespace AgentComm

open Lib

/-- The TTL asked for, if any, is small enough for a `float`. -/
def Registration.floats (r : Registration) : Bool := r.ttl.all (· < floatLimit)

def Call.floats : Call → Bool
  | register r => r.floats
  | _ => true

def Action.floats : Action → Bool
  | spawn _ call => call.floats
  | _ => true

/-- The registration a thread has yet to bring to its end. -/
def Thread.registration? : Thread → Option Registration
  | registerLookup r | registerEndpoint r _ | registerMailbox r _ | registerCapabilities r _
  | registerHeartbeat r _ => some r
  | _ => none

def Thread.Floats (t : Thread) : Prop := ∀ r, t.registration? = some r → r.floats = true

variable {cfg : ServerConfig} {now : ℚ} {s : Stores} {t t' : Thread} {sec : Section} {a : PyStr}

theorem Call.start_floats {call : Call} (h : call.floats = true) : call.start.Floats := by
  intro r hr
  cases call with
  | register r' =>
    cases hr
    exact h
  | _ => cases hr

/-- A thread goes on with its registration, or has none. -/
theorem Thread.Floats.step (h : t.Floats) (hs : t.step cfg now s = some (sec, t')) :
    t'.Floats := by
  intro r hr
  cases t with
  | registerLookup r' | registerMailbox r' isNew | registerCapabilities r' isNew =>
    cases hs
    exact h r hr
  | registerEndpoint r' isNew =>
    cases hs
    split_ifs at hr <;> exact h r hr
  | pollEnter | pollWait =>
    rcases Thread.step_looks rfl hs with ⟨-, -, rfl⟩ | ⟨_, -, -, rfl⟩ | ⟨_, _, -, -, rfl⟩ <;>
      cases hr
  | sendLookup | sendRoute =>
    cases hs
    split at hr <;> (try split_ifs at hr) <;> cases hr
  | sweepRead _ l =>
    rcases l with _ | ⟨e, l⟩ <;> cases hs
    · cases hr
    · split at hr <;> (try split_ifs at hr) <;> cases hr
  | pollCheck =>
    cases hs
    split_ifs at hr <;> cases hr
  | idle | done => cases hs
  | _ =>
    cases hs
    cases hr

/-- A section sets the TTL asked for, the default one, or one that was there. -/
theorem Thread.Floats.ttl (h : t.Floats) (hdefault : cfg.defaultTtlSeconds < floatLimit)
    (hs : t.step cfg now s = some (sec, t')) (hstores : s.Floats) {ttl : ℤ}
    (ha : sec.ttl? s a = some ttl) : ttl < floatLimit := by
  cases t with
  | registerHeartbeat r isNew =>
    cases hs
    simp only [Section.ttl?] at ha
    split_ifs at ha
    rcases Registration.ttlToSet_cases ha with hasked | rfl
    · exact of_decide_eq_true ((Option.all_eq_true ..).1 (h r rfl) ttl hasked)
    · exact hdefault
  | autoHeartbeat b wait =>
    cases hs
    simp only [Section.ttl?] at ha
    split_ifs at ha
    obtain rfl := Option.some.inj ha
    rcases hb : s.ttlSeconds.get? b with _ | x
    · exact hdefault
    · exact hstores b x hb
  | pollEnter | pollWait =>
    rcases Thread.step_looks rfl hs with ⟨-, rfl, -⟩ | ⟨_, -, rfl, -⟩ | ⟨_, _, -, rfl, -⟩ <;>
      cases ha
  | idle | done => cases hs
  | sweepRead _ l =>
    rcases l with _ | ⟨e, l⟩ <;> cases hs <;> cases ha
  | _ =>
    cases hs
    cases ha

/-- The TTLs in the stores are small enough for a `float`, and so are those on their way there. -/
structure World.Floats (w : World) : Prop where
  stores : w.stores.Floats
  threads : ∀ i, (w.threads i).Floats

theorem World.Floats.boot (clock : ℚ) : (World.boot clock).Floats where
  stores _ _ h := by cases h
  threads _ _ h := by cases h

theorem World.Floats.step {w w' : World} {act : AgentComm.Action} {es : List Event}
    (h : w.Floats) (hdefault : cfg.defaultTtlSeconds < floatLimit)
    (hs : (brokerLts cfg).step w act = some (w', es)) (hact : act.floats = true) : w'.Floats := by
  rcases World.step_cases hs with ⟨i, call, rfl, -, -, rfl⟩ | ⟨i, sec, t, rfl, hstep, rfl, -⟩
    | ⟨d, rfl, -, rfl, -⟩ | ⟨rfl, rfl, -⟩
  · refine ⟨h.stores, fun j => ?_⟩
    simp only [Function.update_apply]
    split_ifs
    · exact Call.start_floats hact
    · exact h.threads j
  · refine ⟨fun a ttl hset => ?_, World.all_advance h.threads ((h.threads i).step hstep)⟩
    have hfrom := Section.ttl_from (Thread.step_current hstep) hset
    rcases hsec : sec.ttl? w.stores a with _ | x <;> rw [hsec] at hfrom
    · exact h.stores a ttl hfrom
    · obtain rfl := Option.some.inj hfrom
      exact (h.threads i).ttl hdefault hstep h.stores hsec
  · exact ⟨h.stores, h.threads⟩
  · exact .boot w.clock

end AgentComm
