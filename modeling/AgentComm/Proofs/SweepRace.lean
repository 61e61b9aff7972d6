import AgentComm.Proofs.Sections
import Mathlib.Tactic.Linarith

/-!
# Sweeps and renewals

A sweep decides on an agent in one section and takes it out in four later ones. While no thread
renews the agent in between, what the decision saw stays the agent's last heartbeat and TTL, and
an expiry does not lapse as the clock goes on. A renewal in between goes unnoticed.
-/

namespace AgentComm

open Lib

variable {cfg : ServerConfig} {a : PyStr}

section Trace

variable (a)

def beatIn : Event → Option ℚ
  | .beat b time => if b = a then some time else none
  | _ => none

def ttlIn : Event → Option ℤ
  | .ttlSet b ttl => if b = a then some ttl else none
  | _ => none

/-- The last heartbeat recorded of `a`, whether or not it is still stored. -/
def lastBeat (tr : List Event) : Option ℚ := (tr.filterMap (beatIn a)).getLast?

/-- The last TTL set for `a`, whether or not it is still stored. -/
def lastTtl (tr : List Event) : Option ℤ := (tr.filterMap (ttlIn a)).getLast?

theorem lastBeat_append (tr es : List Event) :
    lastBeat a (tr ++ es) = (lastBeat a es).or (lastBeat a tr) := by
  rw [lastBeat, List.filterMap_append, List.getLast?_append]
  rfl

theorem lastTtl_append (tr es : List Event) :
    lastTtl a (tr ++ es) = (lastTtl a es).or (lastTtl a tr) := by
  rw [lastTtl, List.filterMap_append, List.getLast?_append]
  rfl

end Trace

theorem PyFloat.ge_mono {q q' : ℚ} (h : q ≤ q') : ∀ {x : PyFloat}, x.ge q' → x.ge q
  | .finite r, hx => by
    simp only [ge, decide_eq_true_eq] at hx ⊢
    exact h.trans hx
  | .negZero, hx => by
    simp only [ge, decide_eq_true_eq] at hx ⊢
    exact h.trans hx
  | .inf _, hx => hx
  | .nan, hx => hx

theorem expired_mono {now now' lastHb : ℚ} {ttl : ℤ} {mailbox : Bool} (h : now ≤ now')
    (hx : expired cfg now lastHb ttl mailbox) : expired cfg now' lastHb ttl mailbox := by
  simp only [expired, Bool.and_eq_true, Bool.not_eq_true', ← Bool.not_eq_true] at hx ⊢
  exact ⟨hx.1, fun hge => hx.2 (PyFloat.ge_mono (by linarith) hge)⟩

namespace Section

def beat? (s : Stores) (a : PyStr) : Section → Option ℚ
  | registerHeartbeat b now _ | autoHeartbeat b now _ => if b = a then some now else none
  | pollHeartbeat b now => if b = a ∧ s.ttlSeconds.contains b then some now else none
  | _ => none

def ttl? (s : Stores) (a : PyStr) : Section → Option ℤ
  | registerHeartbeat b _ ttl => if b = a then ttl else none
  | autoHeartbeat b _ default =>
    if b = a then some ((s.ttlSeconds.get? b).getD default) else none
  | _ => none

variable {s : Stores} {sec : Section}

theorem lastBeat_events (i : ℕ) : lastBeat a (sec.events i s) = sec.beat? s a := by
  cases sec with
  | registerHeartbeat b now ttl =>
    by_cases hb : b = a <;> rcases ttl with _ | t <;>
      simp [lastBeat, events, beat?, beatIn, List.filterMap_cons, hb]
  | autoHeartbeat b now default =>
    by_cases hb : b = a <;> simp [lastBeat, events, beat?, beatIn, List.filterMap_cons, hb]
  | pollHeartbeat b now =>
    simp only [events, beat?]
    cases s.ttlSeconds.contains b <;> by_cases hb : b = a <;> simp [lastBeat, beatIn, hb]
  | dropMailbox b =>
    simp only [events, beat?]
    rcases s.mailboxes.queue b with _ | q <;> rfl
  | _ => rfl

theorem lastTtl_events (i : ℕ) : lastTtl a (sec.events i s) = sec.ttl? s a := by
  cases sec with
  | registerHeartbeat b now ttl =>
    by_cases hb : b = a <;> rcases ttl with _ | t <;>
      simp [lastTtl, events, ttl?, ttlIn, List.filterMap_cons, hb]
  | autoHeartbeat b now default =>
    by_cases hb : b = a <;> simp [lastTtl, events, ttl?, ttlIn, List.filterMap_cons, hb]
  | pollHeartbeat b now =>
    simp only [events, ttl?]
    cases s.ttlSeconds.contains b <;> rfl
  | dropMailbox b =>
    simp only [events, ttl?]
    rcases s.mailboxes.queue b with _ | q <;> rfl
  | _ => rfl

/-- A heartbeat in store after a section was recorded by it, or was there before. -/
theorem heartbeat_from (hc : sec.Current s) {h : ℚ}
    (hh : ((sec.apply s).entry a).heartbeat = some h) :
    (sec.beat? s a).or (s.entry a).heartbeat = some h := by
  rw [entry_apply hc] at hh
  cases sec with
  | pollHeartbeat b now =>
    have ht : s.ttlSeconds.contains b = (s.entry b).ttl.isSome := rfl
    by_cases hb : b = a
    · subst hb
      simp only [onEntry, beat?, ht, true_and] at hh ⊢
      split_ifs at hh ⊢ <;> exact hh
    · simp only [onEntry, beat?, hb, false_and, if_false] at hh ⊢
      exact hh
  | _ =>
    simp only [onEntry, beat?] at hh ⊢
    try split_ifs at hh ⊢
    all_goals exact hh

theorem ttl_from (hc : sec.Current s) {t : ℤ} (ht : ((sec.apply s).entry a).ttl = some t) :
    (sec.ttl? s a).or (s.entry a).ttl = some t := by
  rw [entry_apply hc] at ht
  cases sec with
  | autoHeartbeat b now default =>
    by_cases hb : b = a
    · subst hb
      simp only [onEntry, ttl?, if_true] at ht ⊢
      exact ht
    · simp only [onEntry, ttl?, hb, if_false] at ht ⊢
      exact ht
  | _ =>
    simp only [onEntry, ttl?] at ht ⊢
    try split_ifs at ht ⊢
    all_goals exact ht

theorem endpoint_from (hc : sec.Current s) {e : Endpoint}
    (he : ((sec.apply s).entry a).endpoint = some e) :
    (s.entry a).endpoint = some e ∨ sec = .putEndpoint e ∧ e.agentId = a := by
  rw [entry_apply hc] at he
  cases sec with
  | putEndpoint e' =>
    simp only [onEntry] at he
    split_ifs at he with ha
    · cases he
      exact .inr ⟨rfl, ha⟩
    · exact .inl he
  | _ =>
    left
    simp only [onEntry] at he
    try split_ifs at he
    all_goals exact he

theorem ttl?_of_beat? (h : sec.beat? s a = none) : sec.ttl? s a = none := by
  cases sec with
  | registerHeartbeat | autoHeartbeat =>
    simp only [beat?, ttl?] at h ⊢
    split_ifs at h ⊢
    rfl
  | _ => rfl

end Section

namespace Thread

def evicts : Thread → Option Endpoint
  | evictEndpoint _ e _ | evictCapabilities _ e _ | evictHeartbeat _ e _ | evictMailbox _ e _ =>
    some e
  | _ => none

/-- The clock reading a sweep goes by. -/
def sweepTime : Thread → Option ℚ
  | sweepList t | sweepRead t _ | evictEndpoint t _ _ | evictCapabilities t _ _
  | evictHeartbeat t _ _ | evictMailbox t _ _ => some t
  | _ => none

def sweeps : Thread → Bool
  | sweepStart => true
  | t => t.sweepTime.isSome

theorem sweeps_of_sweepTime {t : Thread} {start : ℚ} (h : t.sweepTime = some start) :
    t.sweeps := by
  cases t <;> cases h <;> rfl

theorem sweeps_of_evicts {t : Thread} {e : Endpoint} (h : t.evicts = some e) : t.sweeps := by
  cases t <;> cases h <;> rfl

theorem step_sweeps {now : ℚ} {s : Stores} {t t' : Thread} {sec : Section}
    (h : t.step cfg now s = some (sec, t')) (hs : t'.sweeps) : t.sweeps := by
  cases t with
  | sweepStart | sweepList | sweepRead => rfl
  | evictEndpoint | evictCapabilities | evictHeartbeat | evictMailbox => rfl
  | pollEnter | pollWait =>
    rcases Thread.step_looks rfl h with ⟨-, -, rfl⟩ | ⟨_, -, -, rfl⟩ | ⟨_, _, -, -, rfl⟩ <;>
      cases hs
  | registerEndpoint | pollCheck =>
    cases h
    split_ifs at hs <;> cases hs
  | sendLookup =>
    cases h
    split at hs
    · cases hs
    · split_ifs at hs <;> cases hs
  | sendRoute =>
    cases h
    split at hs <;> cases hs
  | idle | done => cases h
  | _ =>
    cases h
    cases hs

/-- A sweep goes by the clock as it started. -/
theorem step_sweepTime {now start : ℚ} {s : Stores} {t t' : Thread} {sec : Section}
    (h : t.step cfg now s = some (sec, t')) (hs : t'.sweepTime = some start) :
    t.sweepTime = some start ∨ start = now := by
  have hsweeps := step_sweeps h (sweeps_of_sweepTime hs)
  cases t with
  | sweepStart =>
    cases h
    cases hs
    exact .inr rfl
  | sweepRead t endpoints =>
    left
    rcases endpoints with _ | ⟨e, rest⟩
    · cases h
      cases hs
    · cases h
      split at hs
      · split_ifs at hs <;> exact hs
      · exact hs
  | sweepList | evictEndpoint | evictCapabilities | evictHeartbeat | evictMailbox =>
    cases h
    exact .inl hs
  | _ => cases hsweeps

/-- A sweep that comes to take an endpoint out was taking it out already, or has found its agent
expired by the reading it goes by. -/
theorem step_evicts {now : ℚ} {s : Stores} {t t' : Thread} {sec : Section} {e : Endpoint}
    (h : t.step cfg now s = some (sec, t')) (he : t'.evicts = some e) :
    t.evicts = some e ∨ sec = .look ∧ ∃ start lastHb ttl, t.sweepTime = some start
      ∧ (s.entry e.agentId).heartbeat = some lastHb ∧ (s.entry e.agentId).ttl = some ttl
      ∧ expired cfg start lastHb ttl e.mailbox := by
  have hsweeps := step_sweeps h (sweeps_of_evicts he)
  cases t with
  | sweepStart | sweepList =>
    cases h
    cases he
  | sweepRead start endpoints =>
    rcases endpoints with _ | ⟨e', rest⟩
    · cases h
      cases he
    · cases h
      right
      split at he
      · rename_i lastHb ttl hh ht
        split_ifs at he with hx
        · cases he
          exact ⟨rfl, start, lastHb, ttl, rfl, hh, ht, hx⟩
        · cases he
      · cases he
  | evictEndpoint | evictCapabilities | evictHeartbeat =>
    cases h
    exact .inl he
  | evictMailbox =>
    cases h
    cases he
  | _ => cases hsweeps

/-- The sections of a sweep touch the agent it is taking out and no other. -/
theorem step_sweep_entry {now : ℚ} {s : Stores} {t t' : Thread} {sec : Section}
    (h : t.step cfg now s = some (sec, t')) (hs : t.sweeps) :
    sec.onEntry a (s.entry a) = s.entry a ∨ ∃ e, t.evicts = some e ∧ e.agentId = a := by
  cases t with
  | sweepStart | sweepList =>
    cases h
    exact .inl rfl
  | sweepRead start endpoints =>
    rcases endpoints with _ | ⟨e, rest⟩ <;> cases h <;> exact .inl rfl
  | evictEndpoint _ e _ | evictCapabilities _ e _ | evictHeartbeat _ e _ | evictMailbox _ e _ =>
    cases h
    by_cases ha : e.agentId = a
    · exact .inr ⟨e, rfl, ha⟩
    · exact .inl (by simp only [Section.onEntry, ha, if_false])
  | _ => cases hs

end Thread

/-- A sweep that takes an agent out goes by the mailbox flag the agent is registered with. -/
def FlagsCurrent (cfg : ServerConfig) (w : World) : Action → Bool
  | .run i =>
    match (w.threads i).step cfg w.clock w.stores with
    | some (_, t) =>
      match t.evicts with
      | some e => (w.stores.registry.get? e.agentId).all (·.mailbox = e.mailbox)
      | none => true
    | none => true
  | _ => true

/-- No section records a heartbeat of an agent a sweep is taking out, nor registers the agent
under the other mailbox flag. -/
def Undisturbed (cfg : ServerConfig) (w : World) (act : Action) : Prop :=
  ∀ i j sec t e, act = .run i → (w.threads i).step cfg w.clock w.stores = some (sec, t) →
    (w.threads j).evicts = some e → sec.beat? w.stores e.agentId = none
      ∧ ∀ e', sec = .putEndpoint e' → e'.agentId = e.agentId → e'.mailbox = e.mailbox

def NoRenewal (cfg : ServerConfig) (w : World) (act : Action) : Prop :=
  FlagsCurrent cfg w act ∧ Undisturbed cfg w act

/-- The clock readings that sweeps go by are past. -/
def ReadingsPast (w : World) : Prop :=
  ∀ i start, (w.threads i).sweepTime = some start → start ≤ w.clock

theorem ReadingsPast.step {w w' : World} {act : Action} {es : List Event} (h : ReadingsPast w)
    (hs : (brokerLts cfg).step w act = some (w', es)) : ReadingsPast w' := by
  rcases World.step_cases hs with ⟨i, call, -, hidle, rfl, rfl⟩ | ⟨i, sec, t, rfl, ht, rfl, rfl⟩
    | ⟨d, -, hd, rfl, rfl⟩ | ⟨-, rfl, rfl⟩ <;> intro j start hst
  · have hnot : call.start.sweepTime = none := by cases call <;> rfl
    simp only [Function.update_apply] at hst
    split_ifs at hst
    · rw [hnot] at hst
      cases hst
    · exact h j start hst
  · rw [World.threads_advance] at hst
    split_ifs at hst
    · rcases Thread.step_sweepTime ht hst with hbefore | rfl
      · exact h i start hbefore
      · exact le_refl _
    · exact h j start hst
  · exact (h j start hst).trans (le_add_of_nonneg_right hd)
  · cases hst

/-- The last heartbeat of `e`'s agent has expired by its last TTL. -/
def Lapsed (cfg : ServerConfig) (tr : List Event) (w : World) (e : Endpoint) : Prop :=
  ∃ lastHb ttl, lastBeat e.agentId tr = some lastHb ∧ lastTtl e.agentId tr = some ttl
    ∧ expired cfg w.clock lastHb ttl e.mailbox

/-- The liveness stores hold what was last recorded, a sweep's reading is past, and what a sweep
takes out has lapsed, under the flag it is registered with. -/
structure SweepInv (cfg : ServerConfig) (tr : List Event) (w : World) : Prop where
  beats : ∀ {a h}, (w.stores.entry a).heartbeat = some h → lastBeat a tr = some h
  ttls : ∀ {a t}, (w.stores.entry a).ttl = some t → lastTtl a tr = some t
  times : ReadingsPast w
  lapsed : ∀ {i e}, (w.threads i).evicts = some e → Lapsed cfg tr w e
  flags : ∀ {i e e'}, (w.threads i).evicts = some e →
    (w.stores.entry e.agentId).endpoint = some e' → e'.mailbox = e.mailbox

/-- A heartbeat or TTL in store after a section is the last one recorded. -/
theorem SweepInv.records {tr : List Event} {w : World} (h : SweepInv cfg tr w) {sec : Section}
    (i : ℕ) (hc : sec.Current w.stores) :
    (∀ {a hb}, ((sec.apply w.stores).entry a).heartbeat = some hb →
      lastBeat a (tr ++ sec.events i w.stores) = some hb)
      ∧ ∀ {a t}, ((sec.apply w.stores).entry a).ttl = some t →
        lastTtl a (tr ++ sec.events i w.stores) = some t := by
  constructor
  · intro a hb hh
    have hfrom := Section.heartbeat_from hc hh
    rw [lastBeat_append, Section.lastBeat_events]
    rcases hsec : sec.beat? w.stores a with _ | now <;> rw [hsec] at hfrom
    · exact h.beats hfrom
    · exact hfrom
  · intro a t ht
    have hfrom := Section.ttl_from hc ht
    rw [lastTtl_append, Section.lastTtl_events]
    rcases hsec : sec.ttl? w.stores a with _ | ttl <;> rw [hsec] at hfrom
    · exact h.ttls hfrom
    · exact hfrom

theorem last_of_no_beat {s : Stores} {sec : Section} (i : ℕ) (tr : List Event)
    (h : sec.beat? s a = none) :
    lastBeat a (tr ++ sec.events i s) = lastBeat a tr
      ∧ lastTtl a (tr ++ sec.events i s) = lastTtl a tr := by
  rw [lastBeat_append, lastTtl_append, Section.lastBeat_events, Section.lastTtl_events, h,
    Section.ttl?_of_beat? h]
  exact ⟨rfl, rfl⟩

theorem SweepInv.run {tr : List Event} {w : World} (h : SweepInv cfg tr w) {i : ℕ}
    {sec : Section} {t : Thread} (hs : (w.threads i).step cfg w.clock w.stores = some (sec, t))
    (hok : NoRenewal cfg w (.run i)) :
    SweepInv cfg (tr ++ sec.events i w.stores) (w.advance i sec t) := by
  obtain ⟨hflags, hquiet⟩ := hok
  have hc := Thread.step_current hs
  -- an eviction that was under way stays a lapsed one
  have hold : ∀ {j e}, (w.threads j).evicts = some e →
      Lapsed cfg (tr ++ sec.events i w.stores) (w.advance i sec t) e
        ∧ ∀ e', ((sec.apply w.stores).entry e.agentId).endpoint = some e' →
          e'.mailbox = e.mailbox := by
    intro j e he
    obtain ⟨hbeat, hput⟩ := hquiet i j sec t e rfl hs he
    obtain ⟨lastHb, ttl, hb, ht, hx⟩ := h.lapsed he
    obtain ⟨hkeepb, hkeept⟩ := last_of_no_beat i tr hbeat
    refine ⟨⟨lastHb, ttl, hkeepb.trans hb, hkeept.trans ht, hx⟩, fun e' he' => ?_⟩
    rcases Section.endpoint_from hc he' with hbefore | ⟨hsec, hid⟩
    · exact h.flags he hbefore
    · exact hput e' hsec hid
  -- one that starts with this section has just been found lapsed
  have hnew : ∀ {e}, t.evicts = some e →
      Lapsed cfg (tr ++ sec.events i w.stores) (w.advance i sec t) e
        ∧ ∀ e', ((sec.apply w.stores).entry e.agentId).endpoint = some e' →
          e'.mailbox = e.mailbox := by
    intro e he
    rcases Thread.step_evicts hs he with hbefore | ⟨rfl, start, lastHb, ttl, hst, hb, ht, hx⟩
    · exact hold hbefore
    · have hlook : Section.look.beat? w.stores e.agentId = none := rfl
      obtain ⟨hkeepb, hkeept⟩ := last_of_no_beat i tr hlook
      refine ⟨⟨lastHb, ttl, hkeepb.trans (h.beats hb), hkeept.trans (h.ttls ht),
        expired_mono (h.times _ _ hst) hx⟩, fun e' he' => ?_⟩
      simp only [FlagsCurrent, hs, he, Option.all_eq_true, decide_eq_true_eq] at hflags
      exact hflags e' he'
  refine ⟨(h.records i hc).1, (h.records i hc).2, h.times.step (World.step_run hs), ?_, ?_⟩
  · intro j e he
    rw [World.threads_advance] at he
    split_ifs at he
    · exact (hnew he).1
    · exact (hold he).1
  · intro j e e' he
    rw [World.threads_advance] at he
    split_ifs at he
    · exact (hnew he).2 e'
    · exact (hold he).2 e'

theorem sweepInv_boot (clock : ℚ) (tr : List Event) : SweepInv cfg tr (World.boot clock) := by
  refine ⟨?_, ?_, ?_, ?_, ?_⟩
  · rintro a hb ⟨⟩
  · rintro a t ⟨⟩
  · rintro i start ⟨⟩
  · rintro i e ⟨⟩
  · rintro i e e' ⟨⟩

theorem sweepInv_run {clock : ℚ} {tr : List Event} {w : World}
    (h : (brokerLts cfg).Run (NoRenewal cfg) (World.boot clock) tr w) : SweepInv cfg tr w := by
  refine h.invariant (sweepInv_boot clock []) ?_
  intro tr w act w' es hI hok hs
  rcases World.step_cases hs with ⟨i, call, -, hidle, rfl, rfl⟩ | ⟨i, sec, t, rfl, ht, rfl, rfl⟩
    | ⟨d, -, hd, rfl, rfl⟩ | ⟨-, rfl, rfl⟩
  · have hnot : call.start.evicts = none := by cases call <;> rfl
    rw [List.append_nil]
    refine ⟨hI.beats, hI.ttls, hI.times.step hs, ?_, ?_⟩ <;> intro j <;>
      simp only [Function.update_apply] <;> split_ifs
    · rw [hnot]
      rintro ⟨⟩
    · exact hI.lapsed
    · rw [hnot]
      rintro ⟨⟩
    · exact hI.flags
  · exact hI.run ht hok
  · rw [List.append_nil]
    refine ⟨hI.beats, hI.ttls, hI.times.step hs, fun he => ?_, hI.flags⟩
    obtain ⟨lastHb, ttl, hb, ht, hx⟩ := hI.lapsed he
    exact ⟨lastHb, ttl, hb, ht, expired_mono (le_add_of_nonneg_right hd) hx⟩
  · exact sweepInv_boot _ _

/-- In a run in which no agent is renewed while a sweep takes it out, a sweep at any of its four
removals takes out an agent whose last heartbeat has expired, under the flag it is registered
with if it is; and no section of a sweep changes the entry of any other agent. -/
theorem sweep_takes_lapsed {clock : ℚ} {tr : List Event} {w : World}
    (h : (brokerLts cfg).Run (NoRenewal cfg) (World.boot clock) tr w) :
    (∀ i e, (w.threads i).evicts = some e → Lapsed cfg tr w e
        ∧ ∀ e', (w.stores.entry e.agentId).endpoint = some e' → Lapsed cfg tr w e')
      ∧ ∀ i w' es a, (w.threads i).sweeps → (brokerLts cfg).step w (.run i) = some (w', es) →
        w'.stores.entry a = w.stores.entry a
          ∨ ∃ e, (w.threads i).evicts = some e ∧ e.agentId = a ∧ Lapsed cfg tr w e := by
  have hI := sweepInv_run h
  refine ⟨fun i e he => ⟨hI.lapsed he, fun e' he' => ?_⟩, ?_⟩
  · obtain ⟨lastHb, ttl, hb, ht, hx⟩ := hI.lapsed he
    have hid : e'.agentId = e.agentId := w.stores.registry.keyed he'
    exact ⟨lastHb, ttl, hid ▸ hb, hid ▸ ht, (hI.flags he he') ▸ hx⟩
  · intro i w' es a hsweep hs
    rcases World.step_cases hs with ⟨_, _, hact, -⟩ | ⟨j, sec, t, hact, ht, rfl, rfl⟩
      | ⟨_, hact, -⟩ | ⟨hact, -⟩ <;> cases hact
    rw [World.entry_advance ht]
    rcases Thread.step_sweep_entry (a := a) ht hsweep with hsame | ⟨e, he, ha⟩
    · exact .inl hsame
    · exact .inr ⟨e, he, ha, hI.lapsed he⟩

def undisturbedBelow (cfg : ServerConfig) (n : ℕ) (w : World) : Action → Bool
  | .run i =>
    match (w.threads i).step cfg w.clock w.stores with
    | some (sec, _) => (List.range n).all fun j => (w.threads j).evicts.all fun e =>
      (sec.beat? w.stores e.agentId).isNone
        && match sec with
          | .putEndpoint e' => e'.agentId ≠ e.agentId || e'.mailbox = e.mailbox
          | _ => true
    | none => true
  | _ => true

theorem undisturbed_of_below {n : ℕ} {w : World} {act : Action}
    (hidle : ∀ j, n ≤ j → w.threads j = .idle) (h : undisturbedBelow cfg n w act) :
    Undisturbed cfg w act := by
  rintro i j sec t e rfl hs he
  have hj : j < n := by
    by_contra hj
    rw [hidle j (not_lt.1 hj)] at he
    cases he
  simp only [undisturbedBelow, hs, List.all_eq_true, List.mem_range] at h
  have hcheck := h j hj
  simp only [he, Option.all_some, Bool.and_eq_true, Option.isNone_iff_eq_none] at hcheck
  refine ⟨hcheck.1, ?_⟩
  rintro e' rfl hid
  simpa [hid] using hcheck.2

def briefRegistration : Registration :=
  ⟨{ agentId := lit "a", host := lit "mailbox", port := 0, mailbox := true }, [], some 1⟩

/-- An agent registers, lapses, and is found lapsed by a sweep. -/
def lapse : List Action :=
  [.spawn 0 (.register briefRegistration), .run 0, .run 0, .run 0, .run 0, .run 0, .tick 100,
    .spawn 1 .sweep, .run 1, .run 1, .run 1]

theorem sweep_takes_lapsed_lapse : ∃ tr w,
    (brokerLts .defaults).Run (NoRenewal .defaults) (World.boot 0) tr w
      ∧ (w.threads 1).evicts = some briefRegistration.endpoint
      ∧ Lapsed .defaults tr w briefRegistration.endpoint := by
  let check (w : World) (act : Action) : Bool :=
    FlagsCurrent .defaults w act && undisturbedBelow .defaults 2 w act
  obtain ⟨⟨w, tr⟩, he⟩ : ∃ r, (brokerLts .defaults).execIf check (World.boot 0) lapse = some r :=
    Option.isSome_iff_exists.1 (by decide +kernel)
  have hend : ((brokerLts .defaults).execIf check (World.boot 0) lapse).map
      (fun r => (r.1.threads 1).evicts) = some (some briefRegistration.endpoint) := by
    decide +kernel
  rw [he] at hend
  have hevicts := Option.some.inj hend
  have hspare : ∀ act ∈ lapse, ∀ j, 2 ≤ j → act.spares j := by
    rintro act hact (_ | _ | j) hj
    · omega
    · omega
    · revert act
      simp [lapse, Action.spares]
  have hrun : (brokerLts .defaults).Run (NoRenewal .defaults) (World.boot 0) tr w := by
    refine Lts.run_of_execIf (I := fun w => ∀ j, 2 ≤ j → w.threads j = .idle) (fun _ _ => rfl)
      (fun act hact u v es hI hcheck hs => ?_) he
    obtain ⟨hflags, hbelow⟩ := Bool.and_eq_true_iff.1 hcheck
    exact ⟨⟨hflags, undisturbed_of_below hI hbelow⟩, fun j hj =>
      (World.threads_of_step hs (hspare act hact j hj)).trans (hI j hj)⟩
  exact ⟨tr, w, hrun, hevicts, ((sweep_takes_lapsed hrun).1 1 _ hevicts).1⟩

/-- The agent registers again as the sweep is about to take it out. -/
def renewal : List Action :=
  lapse ++ [.spawn 2 (.register briefRegistration), .run 2, .run 2, .run 2, .run 2, .run 2]

/-- The sweep takes out an agent that has just renewed, and its queue with it. -/
theorem sweep_takes_renewed : ∃ tr w tr' w', (brokerLts .defaults).Free (World.boot 0) tr w
    ∧ (w.threads 1).evicts = some briefRegistration.endpoint
    ∧ ¬ Lapsed .defaults tr w briefRegistration.endpoint
    ∧ (brokerLts .defaults).Free w tr' w' ∧ (w'.stores.entry (lit "a")).endpoint = none
    ∧ (w'.stores.entry (lit "a")).queue = none := by
  have hall : ((brokerLts .defaults).exec (World.boot 0) renewal).bind (fun r =>
      ((brokerLts .defaults).exec r.1 (List.replicate 4 (.run 1))).map fun r' =>
        decide ((r.1.threads 1).evicts = some briefRegistration.endpoint
          ∧ lastBeat (lit "a") r.2 = some 100 ∧ r.1.clock = 100
          ∧ (r'.1.stores.entry (lit "a")).endpoint = none
          ∧ (r'.1.stores.entry (lit "a")).queue = none)) = some true := by decide +kernel
  obtain ⟨⟨w, tr⟩, he, hall⟩ := Option.bind_eq_some_iff.1 hall
  obtain ⟨⟨w', tr'⟩, he', hall⟩ := Option.map_eq_some_iff.1 hall
  obtain ⟨hevicts, hbeat, hclock, hend, hqueue⟩ := of_decide_eq_true hall
  refine ⟨tr, w, tr', w', Lts.run_of_exec (fun _ _ _ => trivial) he, hevicts, ?_,
    Lts.run_of_exec (fun _ _ _ => trivial) he', hend, hqueue⟩
  rintro ⟨lastHb, ttl, hb, ht, hx⟩
  have hnow : lastHb = 100 := Option.some.inj (hb.symm.trans hbeat)
  have hfresh : ∀ ttl : ℤ, ¬ expired .defaults 100 100 ttl true := by
    intro ttl hx
    simp only [expired, grace, ServerConfig.defaults, maxPollWaitSeconds, PyFloat.add, PyFloat.ge,
      Bool.and_eq_true, decide_eq_true_eq, Bool.not_eq_true', decide_eq_false_iff_not,
      if_true, sub_self] at hx
    have : (0 : ℚ) < ttl := by exact_mod_cast hx.1
    exact hx.2 (by linarith)
  rw [hclock, hnow] at hx
  exact hfresh ttl hx

end AgentComm
