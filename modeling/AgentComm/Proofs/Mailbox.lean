import AgentComm.Lib.Fifo
import AgentComm.Proofs.Sections
import Mathlib.Data.List.Induction

/-!
# What becomes of a message

The events of a run, read for one agent, are the history of its queue. A poll drains through the
reference the agent's queue has at that moment, so every take is of the whole queue, and a
message enqueued has one fate: queued still, returned by one poll, or dropped by one removal.
-/

namespace AgentComm

open Lib Lib.QueueOp

/-- Who took messages out of a queue: a poll, by its thread, or a removal, by its number. -/
inductive Taker
  | poll (i : ℕ)
  | removal (n : ℕ)
deriving DecidableEq

namespace Taker

def poll? : Taker × List PyStr → Option (ℕ × List PyStr)
  | (poll i, ms) => some (i, ms)
  | (removal _, _) => none

def removal? : Taker × List PyStr → Option (List PyStr × ℕ)
  | (poll _, _) => none
  | (removal n, ms) => some (ms, n)

end Taker

section Trace

variable (a : PyStr)

def enqueuedIn : Event → Option PyStr
  | .enqueued b m => if b = a then some m else none
  | _ => none

def returnedIn : Event → Option (ℕ × List PyStr)
  | .returned i b ms => if b = a then some (i, ms) else none
  | _ => none

def droppedIn : Event → Option (List PyStr)
  | .dropped b ms => if b = a then some ms else none
  | _ => none

def enqueued (tr : List Event) : List PyStr := tr.filterMap (enqueuedIn a)

/-- The answers of the polls that drained `a`'s queue, in order, each with its thread. -/
def returned (tr : List Event) : List (ℕ × List PyStr) := tr.filterMap (returnedIn a)

/-- What each removal of `a`'s queue dropped, in order. -/
def dropped (tr : List Event) : List (List PyStr) := tr.filterMap (droppedIn a)

/-- An event added to the history of `a`'s queue; removals are numbered as they come. -/
def record (ops : List (QueueOp Taker PyStr)) : Event → List (QueueOp Taker PyStr)
  | .enqueued b m => if b = a then ops ++ [.put m] else ops
  | .returned i b ms => if b = a then ops ++ [.take (.poll i) ms] else ops
  | .dropped b ms =>
    if b = a then ops ++ [.take (.removal ((takes ops).filterMap Taker.removal?).length) ms]
    else ops
  | _ => ops

/-- The history of `a`'s queue in a run. -/
def history (tr : List Event) : List (QueueOp Taker PyStr) := tr.foldl (record a) []

theorem history_append (tr es : List Event) :
    history a (tr ++ es) = es.foldl (record a) (history a tr) :=
  List.foldl_append

theorem record_puts (ops : List (QueueOp Taker PyStr)) (e : Event) :
    puts (record a ops e) = puts ops ++ [e].filterMap (enqueuedIn a) := by
  cases e <;> simp only [record, List.filterMap_cons, enqueuedIn] <;> try split_ifs
  all_goals simp [puts]

theorem record_polls (ops : List (QueueOp Taker PyStr)) (e : Event) :
    (takes (record a ops e)).filterMap Taker.poll?
      = (takes ops).filterMap Taker.poll? ++ [e].filterMap (returnedIn a) := by
  cases e <;> simp only [record, List.filterMap_cons, returnedIn] <;> try split_ifs
  all_goals simp [takes, List.filterMap_cons, Taker.poll?]

theorem record_removals (ops : List (QueueOp Taker PyStr)) (e : Event) :
    (takes (record a ops e)).filterMap Taker.removal?
      = (takes ops).filterMap Taker.removal?
        ++ ([e].filterMap (droppedIn a)).zipIdx ((takes ops).filterMap Taker.removal?).length := by
  cases e <;> simp only [record, List.filterMap_cons, droppedIn] <;> try split_ifs
  all_goals simp [takes, List.filterMap_cons, Taker.removal?]

/-- The history and the trace agree: on the puts, on the polls and on the removals. -/
theorem history_agrees (tr : List Event) :
    puts (history a tr) = enqueued a tr
      ∧ (takes (history a tr)).filterMap Taker.poll? = returned a tr
      ∧ (takes (history a tr)).filterMap Taker.removal? = (dropped a tr).zipIdx := by
  induction tr using List.reverseRecOn with
  | nil => exact ⟨rfl, rfl, rfl⟩
  | append_singleton tr e ih =>
    obtain ⟨hputs, hpolls, hdrops⟩ := ih
    rw [history_append]
    simp only [List.foldl_cons, List.foldl_nil, record_puts, record_polls, record_removals,
      enqueued, returned, dropped, List.filterMap_append, List.zipIdx_append, hputs, hpolls,
      hdrops, List.length_zipIdx, Nat.zero_add, and_self]

end Trace

/-- Takes are told apart by their takers when the polls are, and the removals are. -/
theorem takers_nodup : ∀ {l : List (Taker × List PyStr)},
    ((l.filterMap Taker.poll?).map Prod.fst).Nodup →
    ((l.filterMap Taker.removal?).map Prod.snd).Nodup → (l.map Prod.fst).Nodup
  | [], _, _ => List.nodup_nil
  | (.poll i, ms) :: l, hp, hr => by
    simp only [List.filterMap_cons, Taker.poll?, Taker.removal?, List.map_cons,
      List.nodup_cons] at hp hr
    refine List.nodup_cons.2 ⟨fun hm => hp.1 ?_, takers_nodup hp.2 hr⟩
    obtain ⟨⟨_, ms'⟩, hm, rfl⟩ := List.mem_map.1 hm
    exact List.mem_map.2 ⟨(i, ms'), List.mem_filterMap.2 ⟨_, hm, rfl⟩, rfl⟩
  | (.removal n, ms) :: l, hp, hr => by
    simp only [List.filterMap_cons, Taker.poll?, Taker.removal?, List.map_cons,
      List.nodup_cons] at hp hr
    refine List.nodup_cons.2 ⟨fun hm => hr.1 ?_, takers_nodup hp hr.2⟩
    obtain ⟨⟨_, ms'⟩, hm, rfl⟩ := List.mem_map.1 hm
    exact List.mem_map.2 ⟨(ms', n), List.mem_filterMap.2 ⟨_, hm, rfl⟩, rfl⟩

variable {a : PyStr}

/-- A section puts at the end of `a`'s queue, takes all of it, or leaves it as it was. -/
theorem Section.drains {s : Stores} {sec : Section} {ops : List (QueueOp Taker PyStr)} (i : ℕ)
    (hc : sec.Current s) (h : Drains ops ((s.entry a).queue.getD [])) :
    Drains ((sec.events i s).foldl (record a) ops) (((sec.apply s).entry a).queue.getD []) := by
  rw [entry_apply hc]
  cases sec with
  | enqueue b m =>
    simp only [events, onEntry, List.foldl_cons, List.foldl_nil, record]
    split_ifs
    · exact .put m h
    · exact h
  | drain b mbox =>
    simp only [events, onEntry, List.foldl_cons, List.foldl_nil, record]
    split_ifs with hb
    · subst hb
      have hq : (s.entry b).queue = some (s.mailboxes.heap mbox) :=
        Deques.queue_eq_some.2 ⟨mbox, hc, rfl⟩
      rw [hq] at h
      exact .take _ h
    · exact h
  | dropMailbox b =>
    simp only [events, onEntry]
    by_cases hb : b = a
    · subst hb
      rcases hq : s.mailboxes.queue b with _ | q
      · have hq' : (s.entry b).queue = none := hq
        simpa [hq'] using h
      · have hq' : (s.entry b).queue = some q := hq
        rw [hq'] at h
        simpa [record] using Drains.take _ h
    · rcases s.mailboxes.queue b with _ | q <;> simpa [record, hb] using h
  | ensureMailbox b =>
    simp only [events, onEntry, List.foldl_nil]
    split_ifs <;> simpa using h
  | registerHeartbeat b now ttl =>
    rcases ttl with _ | t <;> simp only [events, onEntry, Option.elim, List.foldl_cons,
      List.foldl_nil, record] <;> split_ifs <;> exact h
  | autoHeartbeat b now default =>
    simp only [events, onEntry, List.foldl_cons, List.foldl_nil, record]
    split_ifs <;> exact h
  | pollHeartbeat b now =>
    simp only [events, onEntry]
    split_ifs <;> exact h
  | _ =>
    simp only [events, onEntry, List.foldl_nil]
    try split_ifs
    all_goals exact h

theorem Section.returned_events (i : ℕ) (s : Stores) (sec : Section) :
    returned a (sec.events i s) = [] ∨ ∃ mbox, sec = .drain a mbox
      ∧ returned a (sec.events i s) = [(i, s.mailboxes.heap mbox)] := by
  cases sec with
  | drain b mbox =>
    by_cases hb : b = a
    · subst hb
      exact .inr ⟨mbox, rfl, by simp [returned, events, returnedIn]⟩
    · exact .inl (by simp [returned, events, returnedIn, hb])
  | dropMailbox b =>
    left
    simp only [events]
    rcases s.mailboxes.queue b with _ | q <;> rfl
  | registerHeartbeat b now ttl =>
    left
    rcases ttl with _ | t <;> rfl
  | pollHeartbeat b now =>
    left
    simp only [events]
    split_ifs <;> rfl
  | _ => exact .inl rfl

variable {cfg : ServerConfig}

/-- A thread that drains has answered with what was there. -/
theorem Thread.step_drain {now : ℚ} {s : Stores} {t t' : Thread} {mbox : ℕ}
    (h : t.step cfg now s = some (.drain a mbox, t')) :
    t' = .done (.messages (s.mailboxes.heap mbox)) := by
  cases t with
  | pollEnter | pollWait =>
    rcases Thread.step_looks rfl h with ⟨-, hsec, -⟩ | ⟨_, -, hsec, rfl⟩ | ⟨_, _, -, hsec, -⟩ <;>
      cases hsec
    rfl
  | sweepRead t es => cases es <;> cases h
  | _ => cases h

def Thread.polls : Thread → Option PyStr
  | .pollCheck a _ | .autoEndpoint a _ | .autoMailbox a _ | .autoCapabilities a _
  | .autoHeartbeat a _ | .pollHeartbeat a _ | .pollEnter a _ | .pollWait a _ _ => some a
  | _ => none

/-- A poll answers with nothing for want of a queue, or with all that is queued. -/
theorem Thread.step_answers {now : ℚ} {s : Stores} {t : Thread} {sec : Section}
    {ms : List PyStr} (i : ℕ) (ha : t.polls = some a)
    (h : t.step cfg now s = some (sec, .done (.messages ms))) :
    (s.mailboxes.queue a = none ∧ ms = [] ∧ returned a (sec.events i s) = [])
      ∨ (s.mailboxes.queue a = some ms ∧ returned a (sec.events i s) = [(i, ms)]) := by
  have hnone : s.mailboxes.ref? a = none → s.mailboxes.queue a = none := by
    intro hr
    simp [Deques.queue, hr]
  cases t with
  | pollEnter | pollWait =>
    cases ha
    rcases Thread.step_looks rfl h with ⟨hr, rfl, ht⟩ | ⟨mbox, hr, rfl, ht⟩ | ⟨_, _, -, -, ht⟩ <;>
      cases ht
    · exact .inl ⟨hnone hr, rfl, rfl⟩
    · exact .inr ⟨Deques.queue_eq_some.2 ⟨mbox, hr, rfl⟩,
        by simp [returned, Section.events, returnedIn]⟩
  | pollCheck b wait =>
    simp only [Thread.step, Option.some.injEq] at h
    split_ifs at h <;> cases h
  | autoEndpoint | autoMailbox | autoCapabilities | autoHeartbeat | pollHeartbeat => cases h
  | _ => cases ha

namespace World

def queueOf (w : World) (a : PyStr) : List PyStr := (w.stores.mailboxes.queue a).getD []

end World

/-- Steps of a broker that is not restarted. -/
def NoRestart (_ : World) (act : Action) : Prop := act ≠ .restart

/-- The invariant of `a`'s queue: its history drains, a thread returns at most once, and has
then answered what it returned. -/
structure QueueInv (a : PyStr) (tr : List Event) (w : World) : Prop where
  drains : Drains (history a tr) (w.queueOf a)
  once : ((returned a tr).map Prod.fst).Nodup
  answered : ∀ {i ms}, (i, ms) ∈ returned a tr → w.threads i = .done (.messages ms)

/-- A thread that is not done has returned nothing. -/
theorem QueueInv.not_returned {tr : List Event} {w : World} (h : QueueInv a tr w) {i : ℕ}
    (hi : ∀ ms, w.threads i ≠ .done (.messages ms)) : i ∉ (returned a tr).map Prod.fst := by
  intro hm
  obtain ⟨⟨j, ms⟩, hr, rfl⟩ := List.mem_map.1 hm
  exact hi ms (h.answered hr)

theorem QueueInv.run {tr : List Event} {w : World} (h : QueueInv a tr w) {i : ℕ} {sec : Section}
    {t : Thread} (hs : (w.threads i).step cfg w.clock w.stores = some (sec, t)) :
    QueueInv a (tr ++ sec.events i w.stores) (w.advance i sec t) := by
  have hold : ∀ ms, w.threads i ≠ .done (.messages ms) := by
    intro ms hd
    rw [hd] at hs
    cases hs
  have hret : ∀ es, returned a (tr ++ es) = returned a tr ++ returned a es :=
    fun es => List.filterMap_append
  have hkeep : ∀ {j ms}, (j, ms) ∈ returned a tr →
      (w.advance i sec t).threads j = .done (.messages ms) := by
    intro j ms hm
    have hj := h.answered hm
    have hne : j ≠ i := by
      rintro rfl
      exact hold ms hj
    rw [World.threads_advance, if_neg hne, hj]
  refine ⟨?_, ?_, ?_⟩
  · rw [history_append]
    exact Section.drains i (Thread.step_current hs) h.drains
  · rcases Section.returned_events (a := a) i w.stores sec with he | ⟨mbox, rfl, he⟩
    · rw [hret, he, List.append_nil]
      exact h.once
    · rw [hret, he, List.map_append]
      exact List.nodup_append.2 ⟨h.once, List.nodup_singleton i, by
        rintro j hj j' hj' rfl
        rw [List.map_cons, List.map_nil, List.mem_singleton] at hj'
        subst hj'
        exact h.not_returned hold hj⟩
  · intro j ms hm
    rw [hret, List.mem_append] at hm
    rcases hm with hm | hm
    · exact hkeep hm
    · rcases Section.returned_events (a := a) i w.stores sec with he | ⟨mbox, rfl, he⟩
      · rw [he] at hm
        cases hm
      · rw [he, List.mem_singleton] at hm
        cases hm
        rw [World.threads_advance, if_pos rfl]
        exact Thread.step_drain hs

theorem queueInv_run {clock : ℚ} {tr : List Event} {w : World}
    (h : (brokerLts cfg).Run NoRestart (World.boot clock) tr w) : QueueInv a tr w := by
  refine h.invariant ⟨.nil, List.nodup_nil, by rintro i ms ⟨⟩⟩ ?_
  intro tr w act w' es hI hok hs
  rcases World.step_cases hs with ⟨i, call, -, hidle, rfl, rfl⟩ | ⟨i, sec, t, -, ht, rfl, rfl⟩
    | ⟨d, -, -, rfl, rfl⟩ | ⟨hact, -, -⟩
  · rw [List.append_nil]
    refine ⟨hI.drains, hI.once, fun hm => ?_⟩
    have hj := hI.answered hm
    rename_i j ms
    have hne : j ≠ i := by
      rintro rfl
      rw [hidle] at hj
      cases hj
    simpa [Function.update_of_ne hne] using hj
  · exact hI.run ht
  · rw [List.append_nil]
    exact ⟨hI.drains, hI.once, hI.answered⟩
  · exact absurd hact hok

/-- What a run has made of the messages enqueued for `a`: `fate` lists them in the order they
were enqueued, each with who took it, or none while it is queued. -/
structure Delivers (a : PyStr) (tr : List Event) (w : World)
    (fate : List (PyStr × Option Taker)) : Prop where
  messages : fate.map Prod.fst = enqueued a tr
  queued : (fate.filter (·.2.isNone)).map Prod.fst = w.queueOf a
  polled : ∀ {i ms}, (i, ms) ∈ returned a tr →
    (fate.filter (·.2 = some (.poll i))).map Prod.fst = ms ∧ w.threads i = .done (.messages ms)
  removed : ∀ {n ms}, (dropped a tr)[n]? = some ms →
    (fate.filter (·.2 = some (.removal n))).map Prod.fst = ms
  takers : ∀ {m t}, (m, some t) ∈ fate → (∃ i ms, t = .poll i ∧ (i, ms) ∈ returned a tr)
    ∨ ∃ n ms, t = .removal n ∧ (dropped a tr)[n]? = some ms
  once : ((returned a tr).map Prod.fst).Nodup
  order : List.Sublist ((returned a tr).flatMap Prod.snd) (enqueued a tr)
  lossless : dropped a tr = [] → (returned a tr).flatMap Prod.snd ++ w.queueOf a = enqueued a tr

theorem polls_flatMap (l : List (Taker × List PyStr)) :
    (l.filterMap Taker.poll?).flatMap Prod.snd
      = (l.filter fun e => (Taker.poll? e).isSome).flatMap Prod.snd := by
  induction l with
  | nil => rfl
  | cons e l ih => rcases e with ⟨i | n, ms⟩ <;> simp [List.filterMap_cons, Taker.poll?, ih]

theorem polls_of_no_removals {l : List (Taker × List PyStr)}
    (h : l.filterMap Taker.removal? = []) : ∀ e ∈ l, (Taker.poll? e).isSome := by
  intro e he
  have hr := List.filterMap_eq_nil_iff.1 h e he
  rcases e with ⟨i | n, ms⟩
  · rfl
  · cases hr

theorem QueueInv.delivers {tr : List Event} {w : World} (h : QueueInv a tr w) :
    Delivers a tr w (fates (history a tr) (w.queueOf a)) := by
  obtain ⟨hputs, hpolls, hdrops⟩ := history_agrees a tr
  have hnodup : ((takes (history a tr)).map Prod.fst).Nodup := by
    refine takers_nodup (by rw [hpolls]; exact h.once) ?_
    rw [hdrops, List.zipIdx_map_snd]
    exact List.nodup_range'
  have htake : ∀ {i ms}, (i, ms) ∈ returned a tr →
      (Taker.poll i, ms) ∈ takes (history a tr) := by
    intro i ms hm
    rw [← hpolls] at hm
    obtain ⟨⟨j | n, ms'⟩, hm, he⟩ := List.mem_filterMap.1 hm <;> cases he
    exact hm
  have hdrop : ∀ {n ms}, (dropped a tr)[n]? = some ms →
      (Taker.removal n, ms) ∈ takes (history a tr) := by
    intro n ms hm
    rw [← List.mk_mem_zipIdx_iff_getElem?, ← hdrops] at hm
    obtain ⟨⟨j | k, ms'⟩, hm, he⟩ := List.mem_filterMap.1 hm <;> cases he
    exact hm
  refine ⟨?_, ?_, ?_, ?_, ?_, h.once, ?_, ?_⟩
  · rw [h.drains.fates_fst, hputs]
  · exact fates_queued _ _
  · intro i ms hm
    exact ⟨fates_of_mem _ hnodup (htake hm), h.answered hm⟩
  · intro n ms hm
    exact fates_of_mem _ hnodup (hdrop hm)
  · intro m t hm
    obtain ⟨ms, hm⟩ := mem_takes_of_fates hm
    cases t with
    | poll i =>
      refine .inl ⟨i, ms, rfl, ?_⟩
      rw [← hpolls]
      exact List.mem_filterMap.2 ⟨_, hm, rfl⟩
    | removal n =>
      refine .inr ⟨n, ms, rfl, ?_⟩
      rw [← List.mk_mem_zipIdx_iff_getElem?, ← hdrops]
      exact List.mem_filterMap.2 ⟨_, hm, rfl⟩
  · rw [← hpolls, polls_flatMap, ← hputs]
    exact h.drains.sublist _
  · intro hd
    rw [hd, List.zipIdx_nil] at hdrops
    rw [← hpolls, polls_flatMap, List.filter_eq_self.2 (polls_of_no_removals hdrops), ← hputs]
    exact h.drains.puts_eq

/-- In any run of the broker, each message enqueued for `a` is queued still, or was returned by
one poll, or was dropped by one removal; the polls return in the order of the enqueues, all of
it if nothing was dropped; and a poll of `a` that answers takes all that is queued, so it answers
with nothing only for want of a queue or of messages. -/
theorem mailbox_fifo {clock : ℚ} {tr : List Event} {w : World}
    (h : (brokerLts cfg).Run NoRestart (World.boot clock) tr w) (a : PyStr) :
    Delivers a tr w (fates (history a tr) (w.queueOf a))
      ∧ ∀ i w' es ms, (w.threads i).polls = some a →
        (brokerLts cfg).step w (.run i) = some (w', es) → w'.threads i = .done (.messages ms) →
        (w.stores.mailboxes.queue a = none ∧ ms = [] ∧ returned a es = [])
          ∨ (w.stores.mailboxes.queue a = some ms ∧ returned a es = [(i, ms)]) := by
  refine ⟨(queueInv_run h).delivers, ?_⟩
  intro i w' es ms ha hs hdone
  rcases World.step_cases hs with ⟨_, _, hact, -⟩ | ⟨j, sec, t, hact, ht, rfl, rfl⟩
    | ⟨_, hact, -⟩ | ⟨hact, -⟩ <;> cases hact
  rw [World.threads_advance, if_pos rfl] at hdone
  subst hdone
  exact Thread.step_answers i ha ht

/-- An agent registers, a message is sent to it, and it polls. -/
def fetch : List Action :=
  [.spawn 0 (.register ⟨{ agentId := lit "a", host := lit "mailbox", port := 0, mailbox := true },
      [], none⟩), .run 0, .run 0, .run 0, .run 0, .run 0, .spawn 1 (.send (lit "a") (lit "m")),
    .run 1, .run 1, .spawn 2 (.poll (lit "a") 25), .run 2, .run 2, .run 2]

theorem mailbox_fifo_fetch : ∃ tr w, (brokerLts .defaults).Run NoRestart (World.boot 0) tr w
    ∧ returned (lit "a") tr = [(2, [lit "m"])]
    ∧ Delivers (lit "a") tr w (fates (history (lit "a") tr) (w.queueOf (lit "a"))) := by
  obtain ⟨⟨w, tr⟩, he⟩ : ∃ r, (brokerLts .defaults).exec (World.boot 0) fetch = some r :=
    Option.isSome_iff_exists.1 (by decide)
  have hrun : (brokerLts .defaults).Run NoRestart (World.boot 0) tr w :=
    Lts.run_of_exec (by simp [fetch, NoRestart]) he
  have hret : ((brokerLts .defaults).exec (World.boot 0) fetch).map
      (fun r => returned (lit "a") r.2) = some [(2, [lit "m"])] := by decide
  rw [he] at hret
  exact ⟨tr, w, hrun, Option.some.inj hret, (mailbox_fifo hrun _).1⟩

end AgentComm
