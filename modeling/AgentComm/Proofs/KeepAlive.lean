import AgentComm.Proofs.Mailbox
import AgentComm.Proofs.SelfHeal
import AgentComm.Proofs.SweepRace

/-!
# An agent that keeps polling

A mailbox agent's heartbeat is written as a poll starts, so while the poll is held and until the
next one it only ages: by the hold at most, and by the TTL after that. The grace covers the hold.
What it does not cover is a sweep that had found an earlier record of the agent expired and is
still taking it out when the agent registers.
-/

namespace AgentComm

open Lib

variable {cfg : ServerConfig} {a : PyStr}

/-! ### What is asked of the agent -/

/-- When the agent was registered or last answered, and the heartbeats of the polls that are not
answered yet. -/
structure Diary where
  since : ℚ
  held : ℕ → Option ℚ

namespace Diary

def start (clock : ℚ) : Diary := ⟨clock, fun _ => none⟩

/-- What a step adds: a registration of `a`, a heartbeat of a poll of `a`, or its answer. -/
def note (a : PyStr) (d : Diary) (w : World) (act : Action) (w' : World) : Diary :=
  match act with
  | .run i =>
    match w.threads i, w'.threads i with
    | .registerHeartbeat r _, _ => if r.agentId = a then { d with since := w.clock } else d
    | .pollHeartbeat b _, _ =>
      if b = a then { d with held := Function.update d.held i (some w.clock) } else d
    | .pollEnter b _, .done _ | .pollWait b _ _, .done _ =>
      if b = a ∧ (d.held i).isSome then ⟨w.clock, Function.update d.held i none⟩ else d
    | _, _ => d
  | _ => d

end Diary

/-- No poll of `a` is held for more than the hold, and a poll is held or `a` was answered, or
registered, a TTL ago at most. -/
structure Timely (a : PyStr) (w : World) (d : Diary) : Prop where
  held : ∀ i t, d.held i = some t → w.clock ≤ t + maxPollWaitSeconds
  next : ∀ ttl, (w.stores.entry a).ttl = some ttl → 0 < ttl →
    (∃ i t, d.held i = some t) ∨ w.clock ≤ d.since + ttl

/-- `a` is not deregistered nor registered with an endpoint of its own, and the broker goes on. -/
def Stays (cfg : ServerConfig) (a : PyStr) (w : World) : Action → Prop
  | .run i => ∀ sec t, (w.threads i).step cfg w.clock w.stores = some (sec, t) →
    (sec.removes a = true → (w.threads i).sweeps = true)
      ∧ ∀ e, sec = .putEndpoint e → e.agentId = a → e.mailbox = true
  | .restart => False
  | _ => True

/-- What a step of a run in which `a` keeps polling meets. -/
def Attended (cfg : ServerConfig) (a : PyStr) (p : World × Diary) (act : Action) : Prop :=
  Stays cfg a p.1 act ∧ Timely a p.1 p.2

/-- `a` has just been registered with a mailbox. -/
structure Fresh (a : PyStr) (w : World) : Prop where
  endpoint : ∃ e, (w.stores.entry a).endpoint = some e ∧ e.mailbox = true
  heartbeat : (w.stores.entry a).heartbeat = some w.clock
  ttl : (w.stores.entry a).ttl.isSome

/-- No sweep is taking `a` out. -/
def Spares (a : PyStr) (w : World) : Prop :=
  ∀ i e, (w.threads i).evicts = some e → e.agentId ≠ a

/-! ### Sections of `a`'s record -/

namespace Section

variable {sec : Section}

/-- The heartbeat after a section that removes nothing of the agent. -/
theorem heartbeat_onEntry {s : Stores} (h : ¬ sec.removes a) :
    (sec.onEntry a (s.entry a)).heartbeat = (sec.beat? s a).or (s.entry a).heartbeat := by
  have ht : ∀ b, s.ttlSeconds.contains b = (s.entry b).ttl.isSome := fun b => rfl
  cases sec with
  | delEndpoint b | delCapabilities b | delHeartbeat b | dropMailbox b =>
    simp only [removes, decide_eq_true_eq] at h
    simp only [onEntry, beat?, if_neg h]
    rfl
  | pollHeartbeat b now =>
    simp only [onEntry, beat?, ht]
    by_cases hb : b = a
    · subst hb
      simp only [true_and]
      split_ifs <;> rfl
    · simp only [hb, false_and, if_false]
      rfl
  | _ =>
    simp only [onEntry, beat?]
    try split_ifs
    all_goals rfl

theorem endpoint_onEntry {x : Entry} (h : ¬ sec.removes a) :
    (sec.onEntry a x).endpoint = x.endpoint
      ∨ ∃ e, sec = .putEndpoint e ∧ e.agentId = a ∧ (sec.onEntry a x).endpoint = some e := by
  cases sec with
  | delEndpoint b | delCapabilities b | delHeartbeat b | dropMailbox b =>
    simp only [removes, decide_eq_true_eq] at h
    left
    simp only [onEntry, if_neg h]
  | putEndpoint e =>
    simp only [onEntry]
    split_ifs with he
    · exact .inr ⟨e, rfl, he, rfl⟩
    · exact .inl rfl
  | _ =>
    left
    simp only [onEntry]
    try split_ifs
    all_goals rfl

/-- A queue is dropped by a section that removes its agent. -/
theorem dropped_events {i : ℕ} {s : Stores} (h : ¬ sec.removes a) :
    dropped a (sec.events i s) = [] := by
  cases sec with
  | dropMailbox b =>
    simp only [removes, decide_eq_true_eq] at h
    simp only [events]
    rcases s.mailboxes.queue b with _ | q
    · rfl
    · simp [dropped, droppedIn, h]
  | registerHeartbeat b now ttl => rcases ttl with _ | t <;> rfl
  | pollHeartbeat b now =>
    simp only [events]
    split_ifs <;> rfl
  | _ => rfl

end Section

namespace Thread

/-- The endpoints a sweep has still to look at. -/
def listed : Thread → List Endpoint
  | sweepRead _ es | evictEndpoint _ _ es | evictCapabilities _ _ es | evictHeartbeat _ _ es
  | evictMailbox _ _ es => es
  | _ => []

variable {now : ℚ} {s : Stores} {t t' : Thread} {sec : Section}

/-- A heartbeat is recorded with the clock's time. -/
theorem step_beat {hb : ℚ} (h : t.step cfg now s = some (sec, t'))
    (hbeat : sec.beat? s a = some hb) : hb = now := by
  cases t with
  | registerHeartbeat | autoHeartbeat | pollHeartbeat =>
    cases h
    simp only [Section.beat?] at hbeat
    split_ifs at hbeat
    exact (Option.some.inj hbeat).symm
  | pollEnter | pollWait =>
    rcases Thread.step_looks rfl h with ⟨-, rfl, -⟩ | ⟨_, -, rfl, -⟩ | ⟨_, _, -, rfl, -⟩ <;>
      cases hbeat
  | idle | done => cases h
  | sweepRead _ es => rcases es with _ | ⟨e, es⟩ <;> cases h <;> cases hbeat
  | _ =>
    cases h
    cases hbeat

theorem step_removes (h : t.step cfg now s = some (sec, t')) (hs : t.sweeps)
    (hr : sec.removes a) : ∃ e, t.evicts = some e ∧ e.agentId = a := by
  cases t with
  | evictEndpoint _ e _ | evictCapabilities _ e _ | evictHeartbeat _ e _ | evictMailbox _ e _ =>
    cases h
    exact ⟨e, rfl, of_decide_eq_true hr⟩
  | sweepRead _ es => rcases es with _ | ⟨e, es⟩ <;> cases h <;> cases hr
  | sweepStart | sweepList =>
    cases h
    cases hr
  | _ => cases hs

/-- What a sweep comes to take out was listed. -/
theorem step_evicts_listed {e : Endpoint} (h : t.step cfg now s = some (sec, t'))
    (he : t'.evicts = some e) : t.evicts = some e ∨ e ∈ t.listed := by
  have hsweeps := step_sweeps h (sweeps_of_evicts he)
  cases t with
  | sweepRead _ es =>
    rcases es with _ | ⟨e', es⟩
    · cases h
      cases he
    · cases h
      right
      split at he
      · split_ifs at he
        · cases he
          exact List.mem_cons_self
        · cases he
      · cases he
  | evictEndpoint | evictCapabilities | evictHeartbeat =>
    cases h
    exact .inl he
  | sweepStart | sweepList | evictMailbox =>
    cases h
    cases he
  | _ => cases hsweeps

/-- What a sweep lists it has listed under the same reading, or finds in the registry. -/
theorem step_listed {e : Endpoint} (h : t.step cfg now s = some (sec, t')) (he : e ∈ t'.listed) :
    t.sweepTime = t'.sweepTime
      ∧ (e ∈ t.listed ∨ s.registry.get? e.agentId = some e) := by
  have hsweeps : t.sweeps := by
    refine step_sweeps h ?_
    cases t' <;> first | rfl | cases he
  cases t with
  | sweepStart =>
    cases h
    cases he
  | sweepList =>
    cases h
    exact ⟨rfl, .inr (Registry.mem_listAgents.1 he)⟩
  | sweepRead start es =>
    rcases es with _ | ⟨e', es⟩
    · cases h
      cases he
    · cases h
      revert he
      split
      · split_ifs <;> exact fun he => ⟨rfl, .inl (List.mem_cons_of_mem _ he)⟩
      · exact fun he => ⟨rfl, .inl (List.mem_cons_of_mem _ he)⟩
  | evictEndpoint | evictCapabilities | evictHeartbeat | evictMailbox =>
    cases h
    exact ⟨rfl, .inl he⟩
  | _ => cases hsweeps

end Thread

/-! ### What keeps the agent in -/

theorem not_expired {start hb : ℚ} {ttl : ℤ} {mailbox : Bool}
    (hg : cfg.mailboxGraceSeconds.ge maxPollWaitSeconds)
    (h : 0 < ttl → mailbox = true ∧ start ≤ hb + maxPollWaitSeconds + ttl ∨ start ≤ hb) :
    ¬ expired cfg start hb ttl mailbox := by
  intro hx
  simp only [expired, Bool.and_eq_true, decide_eq_true_eq, Bool.not_eq_true',
    ← Bool.not_eq_true] at hx
  obtain ⟨hpos, hx⟩ := hx
  have httl : (0 : ℚ) < ttl := by exact_mod_cast hpos
  refine hx ?_
  rcases h hpos with ⟨rfl, hlate⟩ | hearly
  · rcases hgrace : cfg.mailboxGraceSeconds with q | _ | neg | _ <;> rw [hgrace] at hg
    · simp only [PyFloat.ge, decide_eq_true_eq] at hg
      simp only [grace, hgrace, if_true, PyFloat.add, PyFloat.ge, decide_eq_true_eq]
      linarith
    · norm_num [PyFloat.ge, maxPollWaitSeconds] at hg
    · simpa [grace, hgrace, PyFloat.add, PyFloat.ge] using hg
    · cases hg
  · have hge : ∀ x : PyFloat, x.ge 0 → (x.add ttl).ge (start - hb) := by
      rintro (q | _ | neg | _) hx
      · simp only [PyFloat.ge, decide_eq_true_eq] at hx
        simp only [PyFloat.add, PyFloat.ge, decide_eq_true_eq]
        linarith
      · simp only [PyFloat.add, PyFloat.ge, decide_eq_true_eq]
        linarith
      · exact hx
      · cases hx
    refine hge _ ?_
    unfold grace
    split_ifs
    · exact PyFloat.ge_mono (by simp [maxPollWaitSeconds]) hg
    · simp [PyFloat.ge]

/-- `a` is registered with a mailbox and was heard of since the diary's entries, no sweep is
taking it out, and one that lists it under another flag goes by a reading from before. -/
structure Alive (a : PyStr) (w : World) (d : Diary) (hb : ℚ) : Prop where
  endpoint : ∃ e, (w.stores.entry a).endpoint = some e ∧ e.mailbox = true
  heartbeat : (w.stores.entry a).heartbeat = some hb
  ttl : (w.stores.entry a).ttl.isSome
  past : hb ≤ w.clock
  since : d.since ≤ hb + maxPollWaitSeconds
  held : ∀ i t, d.held i = some t → t ≤ hb
  spares : Spares a w
  readings : ReadingsPast w
  flags : ∀ i start e, (w.threads i).sweepTime = some start → e ∈ (w.threads i).listed →
    e.agentId = a → e.mailbox = true ∨ start ≤ hb

/-- The age of the heartbeat. -/
theorem Alive.age {w : World} {d : Diary} {hb : ℚ} {ttl : ℤ} (h : Alive a w d hb)
    (ht : Timely a w d) (httl : (w.stores.entry a).ttl = some ttl) (hpos : 0 < ttl) :
    w.clock ≤ hb + maxPollWaitSeconds + ttl := by
  have hq : (0 : ℚ) < ttl := by exact_mod_cast hpos
  rcases ht.next ttl httl hpos with ⟨i, t, hi⟩ | hnext
  · have := ht.held i t hi
    have := h.held i t hi
    linarith
  · have := h.since
    linarith

/-- The notes after a section of a thread are the ones before, or mark a registration, a
heartbeat or an answer. -/
theorem Diary.note_cases {d : Diary} {w : World} {i : ℕ} {sec : Section} {t : Thread}
    (hs : (w.threads i).step cfg w.clock w.stores = some (sec, t)) :
    d.note a w (.run i) (w.advance i sec t) = d
      ∨ sec.beat? w.stores a = some w.clock
        ∧ d.note a w (.run i) (w.advance i sec t) = { d with since := w.clock }
      ∨ (∃ b, sec = .pollHeartbeat b w.clock ∧ b = a)
        ∧ d.note a w (.run i) (w.advance i sec t)
          = { d with held := Function.update d.held i (some w.clock) }
      ∨ (∃ hb, d.held i = some hb)
        ∧ d.note a w (.run i) (w.advance i sec t)
          = ⟨w.clock, Function.update d.held i none⟩ := by
  have ht : (w.advance i sec t).threads i = t := by simp [World.threads_advance]
  simp only [note, ht]
  split
  · rename_i r _ hi
    rw [hi] at hs
    cases hs
    split_ifs with hr
    · exact .inr (.inl ⟨if_pos hr, rfl⟩)
    · exact .inl rfl
  · rename_i b wait hi
    rw [hi] at hs
    cases hs
    split_ifs with hb
    · exact .inr (.inr (.inl ⟨⟨b, rfl, hb⟩, rfl⟩))
    · exact .inl rfl
  · split_ifs with hb
    · exact .inr (.inr (.inr ⟨Option.isSome_iff_exists.1 hb.2, rfl⟩))
    · exact .inl rfl
  · split_ifs with hb
    · exact .inr (.inr (.inr ⟨Option.isSome_iff_exists.1 hb.2, rfl⟩))
    · exact .inl rfl
  · exact .inl rfl

theorem Diary.note_of_not_run {d : Diary} {w w' : World} {act : Action} (h : ∀ i, act ≠ .run i) :
    d.note a w act w' = d := by
  cases act with
  | run i => exact absurd rfl (h i)
  | _ => rfl

/-- A heartbeat recorded now outdates what the diary and the sweeps go by. -/
theorem Alive.beat {w : World} {d : Diary} {hb : ℚ} (h : Alive a w d hb) {x : Entry}
    (hx : x.heartbeat = some hb ∨ x.heartbeat = some w.clock) :
    ∃ hb', x.heartbeat = some hb' ∧ hb ≤ hb' ∧ hb' ≤ w.clock := by
  rcases hx with hx | hx
  · exact ⟨hb, hx, le_rfl, h.past⟩
  · exact ⟨w.clock, hx, h.past, le_rfl⟩

/-- The notes after a section are older than the heartbeat after it, by the hold at most. -/
theorem Alive.note {w : World} {d : Diary} {hb hb' : ℚ} {i : ℕ} {sec : Section} {t : Thread}
    (h : Alive a w d hb) (ht : Timely a w d)
    (hs : (w.threads i).step cfg w.clock w.stores = some (sec, t))
    (hle : hb ≤ hb') (hnow : sec.beat? w.stores a = some w.clock → hb' = w.clock) :
    (d.note a w (.run i) (w.advance i sec t)).since ≤ hb' + maxPollWaitSeconds
      ∧ ∀ j u, (d.note a w (.run i) (w.advance i sec t)).held j = some u → u ≤ hb' := by
  have hold : d.since ≤ hb' + maxPollWaitSeconds := by
    have := h.since
    linarith
  have hheld : ∀ j u, d.held j = some u → u ≤ hb' := fun j u hu => (h.held j u hu).trans hle
  have hwait : (0 : ℚ) ≤ maxPollWaitSeconds := by norm_num [maxPollWaitSeconds]
  rcases Diary.note_cases (a := a) (d := d) hs with
    heq | ⟨hbeat, heq⟩ | ⟨⟨b, rfl, rfl⟩, heq⟩ | ⟨⟨u, hu⟩, heq⟩ <;> rw [heq]
  · exact ⟨hold, hheld⟩
  · refine ⟨?_, hheld⟩
    rw [hnow hbeat]
    linarith
  · have hb : hb' = w.clock := by
      refine hnow ?_
      have hc : w.stores.ttlSeconds.contains b = true := h.ttl
      simp [Section.beat?, hc]
    refine ⟨hold, fun j u hu => ?_⟩
    simp only [Function.update_apply] at hu
    split_ifs at hu
    · cases hu
      exact hb.ge
    · exact hheld j u hu
  · refine ⟨?_, fun j v hv => ?_⟩
    · have := ht.held i u hu
      have := hheld i u hu
      simp only
      linarith
    · simp only [Function.update_apply] at hv
      split_ifs at hv
      exact hheld j v hv

theorem Alive.run {w : World} {d : Diary} {hb : ℚ} {i : ℕ} {sec : Section} {t : Thread}
    (hg : cfg.mailboxGraceSeconds.ge maxPollWaitSeconds) (h : Alive a w d hb)
    (hok : Attended cfg a (w, d) (.run i))
    (hs : (w.threads i).step cfg w.clock w.stores = some (sec, t)) :
    ¬ sec.removes a
      ∧ ∃ hb', Alive a (w.advance i sec t) (d.note a w (.run i) (w.advance i sec t)) hb' := by
  obtain ⟨hstays, htimely⟩ := hok
  obtain ⟨hsweep, hput⟩ := hstays sec t hs
  have hkeep : ¬ sec.removes a := by
    intro hr
    obtain ⟨e, he, ha⟩ := Thread.step_removes hs (hsweep hr) hr
    exact h.spares i e he ha
  have hheartbeat : ((w.advance i sec t).stores.entry a).heartbeat
      = (sec.beat? w.stores a).or (some hb) := by
    rw [World.entry_advance hs, Section.heartbeat_onEntry hkeep, h.heartbeat]
  obtain ⟨hb', hhb', hle, hpast⟩ := h.beat (x := (w.advance i sec t).stores.entry a) (by
    rw [hheartbeat]
    rcases hbeat : sec.beat? w.stores a with _ | now
    · exact .inl rfl
    · exact .inr (by rw [Thread.step_beat hs hbeat]; rfl))
  have hnow : sec.beat? w.stores a = some w.clock → hb' = w.clock := by
    intro hbeat
    rw [hheartbeat, hbeat] at hhb'
    exact (Option.some.inj hhb').symm
  obtain ⟨hsince, hheld⟩ := h.note htimely hs hle hnow
  obtain ⟨e₀, he₀, hbox⟩ := h.endpoint
  refine ⟨hkeep, hb', ?_, hhb', ?_, hpast, hsince, hheld, ?_, h.readings.step (World.step_run hs),
    ?_⟩
  · rw [World.entry_advance hs]
    rcases Section.endpoint_onEntry (x := w.stores.entry a) hkeep with heq | ⟨e, rfl, ha, heq⟩
    · exact ⟨e₀, heq.trans he₀, hbox⟩
    · exact ⟨e, heq, hput e rfl ha⟩
  · rw [World.entry_advance hs]
    exact (Section.within hkeep _).ttl h.ttl
  · intro j e he ha
    rw [World.threads_advance] at he
    split_ifs at he
    swap
    · exact h.spares j e he ha
    -- a sweep that comes to take `a` out has found its heartbeat expired, which it is not
    rcases Thread.step_evicts_listed hs he with hbefore | hlisted
    · exact h.spares i e hbefore ha
    rcases Thread.step_evicts hs he with hbefore | ⟨-, start, lastHb, ttl, hst, hlast, httl, hx⟩
    · exact h.spares i e hbefore ha
    rw [ha, h.heartbeat] at hlast
    obtain rfl := Option.some.inj hlast
    rw [ha] at httl
    refine not_expired hg (fun hpos => ?_) hx
    rcases h.flags i start e hst hlisted ha with hflag | hearly
    · exact .inl ⟨hflag, (h.readings i start hst).trans (h.age htimely httl hpos)⟩
    · exact .inr hearly
  · intro j start e hst he ha
    rw [World.threads_advance] at hst he
    split_ifs at hst he
    · obtain ⟨htime, hlisted | hget⟩ := Thread.step_listed hs he
      · exact (h.flags i start e (htime.trans hst) hlisted ha).imp_right fun hl => hl.trans hle
      · left
        rw [ha] at hget
        obtain rfl := Option.some.inj (he₀.symm.trans hget)
        exact hbox
    · exact (h.flags j start e hst he ha).imp_right fun hl => hl.trans hle

theorem Alive.start {w : World} (h : Fresh a w) (hr : ReadingsPast w) (hs : Spares a w) :
    Alive a w (.start w.clock) w.clock where
  endpoint := h.endpoint
  heartbeat := h.heartbeat
  ttl := h.ttl
  past := le_rfl
  since := by simp [Diary.start, maxPollWaitSeconds]
  held _ _ hi := by cases hi
  spares := hs
  readings := hr
  flags i start e hst _ _ := .inr (hr i start hst)

theorem readingsPast_run {clock : ℚ} {tr : List Event} {w : World}
    (h : (brokerLts cfg).Free (World.boot clock) tr w) : ReadingsPast w := by
  refine h.invariant (I := fun _ w => ReadingsPast w) ?_ fun hI _ hs => hI.step hs
  rintro i start ⟨⟩

theorem alive_run {w₀ w : World} {d : Diary} {tr : List Event}
    (hg : cfg.mailboxGraceSeconds.ge maxPollWaitSeconds)
    (h₀ : Alive a w₀ (.start w₀.clock) w₀.clock)
    (h : ((brokerLts cfg).watch (Diary.note a)).Run (Attended cfg a) (w₀, .start w₀.clock) tr
      (w, d)) : dropped a tr = [] ∧ ∃ hb, Alive a w d hb := by
  refine h.invariant (I := fun tr p => dropped a tr = [] ∧ ∃ hb, Alive a p.1 p.2 hb)
    ⟨rfl, w₀.clock, h₀⟩ ?_
  rintro tr ⟨w, d⟩ act ⟨w', d'⟩ es ⟨hdrop, hb, hI⟩ hok hwatch
  obtain ⟨hs, rfl : d' = d.note a w act w'⟩ := Lts.watch_step.1 hwatch
  clear hwatch
  rcases World.step_cases hs with ⟨i, call, rfl, hidle, rfl, rfl⟩ | ⟨i, sec, t, rfl, ht, rfl, rfl⟩
    | ⟨x, rfl, hx, rfl, rfl⟩ | ⟨rfl, -, -⟩
  · have hnot : call.start.evicts = none := by cases call <;> rfl
    have hnot' : call.start.listed = [] := by cases call <;> rfl
    rw [List.append_nil, Diary.note_of_not_run (by simp)]
    refine ⟨hdrop, hb, hI.endpoint, hI.heartbeat, hI.ttl, hI.past, hI.since, hI.held, ?_,
      hI.readings.step hs, ?_⟩ <;> intro j <;> simp only [Function.update_apply] <;> split_ifs
    · simp [hnot]
    · exact hI.spares j
    · simp [hnot']
    · exact hI.flags j
  · obtain ⟨hkeep, hb', hI'⟩ := hI.run hg hok ht
    refine ⟨?_, hb', hI'⟩
    rw [dropped, List.filterMap_append, ← dropped, ← dropped, hdrop,
      Section.dropped_events hkeep]
    rfl
  · rw [List.append_nil, Diary.note_of_not_run (by simp)]
    exact ⟨hdrop, hb, hI.endpoint, hI.heartbeat, hI.ttl,
      hI.past.trans (le_add_of_nonneg_right hx), hI.since, hI.held, hI.spares,
      hI.readings.step hs, hI.flags⟩
  · exact hok.1.elim

/-- With a grace of the hold at least, an agent that was registered with a mailbox while no sweep
was taking it out, and that keeps polling, stays registered, is never taken out by a sweep, and
loses no queue. -/
theorem kept_alive (hg : cfg.mailboxGraceSeconds.ge maxPollWaitSeconds) {clock : ℚ}
    {tr₀ tr : List Event} {w₀ w : World} {d : Diary}
    (h₀ : (brokerLts cfg).Free (World.boot clock) tr₀ w₀) (hfresh : Fresh a w₀)
    (hspares : Spares a w₀)
    (h : ((brokerLts cfg).watch (Diary.note a)).Run (Attended cfg a) (w₀, .start w₀.clock) tr
      (w, d)) :
    Spares a w ∧ (∃ e, (w.stores.entry a).endpoint = some e ∧ e.mailbox = true)
      ∧ dropped a tr = [] := by
  obtain ⟨hdrop, hb, hI⟩ := alive_run hg (.start hfresh (readingsPast_run h₀) hspares) h
  exact ⟨hI.spares, hI.endpoint, hdrop⟩

/-- `Attended`, where only threads below `n` poll. -/
def attendedBelow (cfg : ServerConfig) (a : PyStr) (n : ℕ) (p : World × Diary) (act : Action) :
    Bool :=
  ((List.range n).all fun i => (p.2.held i).all fun t => p.1.clock ≤ t + maxPollWaitSeconds)
    && ((p.1.stores.entry a).ttl.all fun ttl : ℤ =>
      (List.range n).any (fun i => (p.2.held i).isSome) || p.1.clock ≤ p.2.since + ttl)
    && match act with
      | .run i =>
        match (p.1.threads i).step cfg p.1.clock p.1.stores with
        | some (sec, _) => (!sec.removes a || (p.1.threads i).sweeps)
          && match sec with
            | .putEndpoint e => e.agentId ≠ a || e.mailbox
            | _ => true
        | none => true
      | .restart => false
      | _ => true

theorem attended_of_below {n : ℕ} {p : World × Diary} {act : Action}
    (hnone : ∀ j, n ≤ j → p.2.held j = none) (h : attendedBelow cfg a n p act) :
    Attended cfg a p act := by
  simp only [attendedBelow, Bool.and_eq_true] at h
  obtain ⟨⟨hheld, hnext⟩, hstays⟩ := h
  refine ⟨?_, ?_, ?_⟩
  · cases act with
    | run i =>
      intro sec t hs
      simp only [hs, Bool.and_eq_true] at hstays
      refine ⟨fun hr => by simpa [hr] using hstays.1, ?_⟩
      rintro e rfl ha
      simpa [ha] using hstays.2
    | restart => cases hstays
    | _ => trivial
  · intro i t hi
    have hin : i < n := by
      by_contra hin
      rw [hnone i (not_lt.1 hin)] at hi
      cases hi
    have := List.all_eq_true.1 hheld i (List.mem_range.2 hin)
    simpa [hi] using this
  · intro ttl httl _
    rw [httl, Option.all_some, Bool.or_eq_true] at hnext
    rcases hnext with hany | hnext
    · obtain ⟨i, -, hi⟩ := List.any_eq_true.1 hany
      exact .inl ⟨i, Option.isSome_iff_exists.1 hi⟩
    · exact .inr (of_decide_eq_true hnext)

theorem held_of_step {p q : World × Diary} {act : Action} {es : List Event} {j : ℕ}
    (h : ((brokerLts cfg).watch (Diary.note a)).step p act = some (q, es)) (hj : act.spares j) :
    q.2.held j = p.2.held j := by
  obtain ⟨-, heq⟩ := Lts.watch_step.1 h
  rw [heq]
  cases act with
  | run i =>
    have hne : j ≠ i := fun h => hj h.symm
    simp only [Diary.note]
    split <;> (try split_ifs) <;> simp [Function.update_of_ne hne]
  | _ => rfl

/-- Actions of threads below `n` that pass the check make a run in which `a` keeps polling. -/
theorem attended_of_exec {n : ℕ} {as : List Action} {w₀ : World} {q : World × Diary}
    {tr : List Event} (hspare : ∀ act ∈ as, ∀ j, n ≤ j → act.spares j)
    (he : ((brokerLts cfg).watch (Diary.note a)).execIf (attendedBelow cfg a n)
      (w₀, .start w₀.clock) as = some (q, tr)) :
    ((brokerLts cfg).watch (Diary.note a)).Run (Attended cfg a) (w₀, .start w₀.clock) tr q := by
  refine Lts.run_of_execIf (I := fun p => ∀ j, n ≤ j → p.2.held j = none) (fun _ _ => rfl)
    (fun act hact p q es hI hcheck hs => ⟨attended_of_below hI hcheck, fun j hj => ?_⟩) he
  exact (held_of_step hs (hspare act hact j hj)).trans (hI j hj)

/-- An agent registers with a TTL of one second. -/
def briefly : List Action :=
  [.spawn 0 (.register briefRegistration), .run 0, .run 0, .run 0, .run 0, .run 0]

/-- It polls after a second, is held for thirty, and is swept a second after the answer. -/
def heldPoll : List Action :=
  [.tick 1, .spawn 1 (.poll (lit "a") 30), .run 1, .run 1, .run 1, .tick 30, .run 1, .tick 1,
    .spawn 2 .sweep, .run 2, .run 2, .run 2, .run 2]

theorem kept_alive_poll : ∃ w₀ tr w d, Fresh (lit "a") w₀
    ∧ ((brokerLts .defaults).watch (Diary.note (lit "a"))).Run (Attended .defaults (lit "a"))
      (w₀, .start w₀.clock) tr (w, d)
    ∧ w.clock = 32 ∧ (w.stores.entry (lit "a")).heartbeat = some 1 ∧ Spares (lit "a") w := by
  have hall : ((brokerLts .defaults).exec (World.boot 0) briefly).bind (fun r =>
      (((brokerLts .defaults).watch (Diary.note (lit "a"))).execIf
        (attendedBelow .defaults (lit "a") 3) (r.1, .start r.1.clock) heldPoll).map fun r' =>
          decide ((r.1.stores.entry (lit "a")).endpoint = some briefRegistration.endpoint
            ∧ (r.1.stores.entry (lit "a")).heartbeat = some r.1.clock
            ∧ (r.1.stores.entry (lit "a")).ttl = some 1 ∧ (r.1.threads 0).evicts = none
            ∧ r'.1.1.clock = 32 ∧ (r'.1.1.stores.entry (lit "a")).heartbeat = some 1))
      = some true := by decide +kernel
  obtain ⟨⟨w₀, tr₀⟩, he₀, hall⟩ := Option.bind_eq_some_iff.1 hall
  obtain ⟨⟨⟨w, d⟩, tr⟩, he, hall⟩ := Option.map_eq_some_iff.1 hall
  obtain ⟨hend, hbeat, httl, hevicts, hclock, hbeat'⟩ := of_decide_eq_true hall
  have hspare : ∀ act ∈ heldPoll, ∀ j, 3 ≤ j → act.spares j := by
    intro act hact j hj
    simp only [heldPoll, List.mem_cons, List.not_mem_nil, or_false] at hact
    rcases hact with rfl | rfl | rfl | rfl | rfl | rfl | rfl | rfl | rfl | rfl | rfl | rfl | rfl <;>
      simp only [Action.spares] <;> omega
  have hfresh : Fresh (lit "a") w₀ := ⟨⟨_, hend, rfl⟩, hbeat, by rw [httl]; rfl⟩
  have hidle : ∀ j, j ≠ 0 → w₀.threads j = .idle := by
    intro j hj
    refine World.threads_of_exec he₀ fun act hact => ?_
    simp only [briefly, List.mem_cons, List.not_mem_nil, or_false] at hact
    rcases hact with rfl | rfl | rfl | rfl | rfl | rfl <;> exact hj.symm
  have hclear : Spares (lit "a") w₀ := by
    intro i e hi
    rcases eq_or_ne i 0 with rfl | hne
    · rw [hevicts] at hi
      cases hi
    · rw [hidle i hne] at hi
      cases hi
  have hrun := attended_of_exec hspare he
  exact ⟨w₀, tr, w, d, hfresh, hrun, hclock, hbeat',
    (kept_alive rfl (Lts.run_of_exec (fun _ _ _ => trivial) he₀) hfresh hclear hrun).1⟩

/-- A poll of the agent, during which the sweep that had found it lapsed goes on. -/
def sweptPoll : List Action :=
  [.spawn 3 (.poll (lit "a") 25), .run 3, .run 3, .run 3, .run 1, .run 1, .run 1, .run 1]

/-- An agent that registers again and polls at once is taken out by a sweep that had found its
earlier record expired, and loses its queue. -/
theorem polling_agent_swept : ∃ tr₀ w₀ tr w d,
    (brokerLts .defaults).Free (World.boot 0) tr₀ w₀ ∧ Fresh (lit "a") w₀
    ∧ ((brokerLts .defaults).watch (Diary.note (lit "a"))).Run (Attended .defaults (lit "a"))
      (w₀, .start w₀.clock) tr (w, d)
    ∧ (w.stores.entry (lit "a")).endpoint = none ∧ dropped (lit "a") tr = [[]] := by
  have hall : ((brokerLts .defaults).exec (World.boot 0) renewal).bind (fun r =>
      (((brokerLts .defaults).watch (Diary.note (lit "a"))).execIf
        (attendedBelow .defaults (lit "a") 4) (r.1, .start r.1.clock) sweptPoll).map fun r' =>
          decide ((r.1.stores.entry (lit "a")).endpoint = some briefRegistration.endpoint
            ∧ (r.1.stores.entry (lit "a")).heartbeat = some r.1.clock
            ∧ (r.1.stores.entry (lit "a")).ttl = some 1
            ∧ (r'.1.1.stores.entry (lit "a")).endpoint = none
            ∧ dropped (lit "a") r'.2 = [[]])) = some true := by decide +kernel
  obtain ⟨⟨w₀, tr₀⟩, he₀, hall⟩ := Option.bind_eq_some_iff.1 hall
  obtain ⟨⟨⟨w, d⟩, tr⟩, he, hall⟩ := Option.map_eq_some_iff.1 hall
  obtain ⟨hend, hbeat, httl, hgone, hdrop⟩ := of_decide_eq_true hall
  have hspare : ∀ act ∈ sweptPoll, ∀ j, 4 ≤ j → act.spares j := by
    intro act hact j hj
    simp only [sweptPoll, List.mem_cons, List.not_mem_nil, or_false] at hact
    rcases hact with rfl | rfl | rfl | rfl | rfl | rfl | rfl | rfl <;>
      simp only [Action.spares] <;> omega
  exact ⟨tr₀, w₀, tr, w, d, Lts.run_of_exec (fun _ _ _ => trivial) he₀,
    ⟨⟨_, hend, rfl⟩, hbeat, by rw [httl]; rfl⟩, attended_of_exec hspare he, hgone, hdrop⟩

end AgentComm
