import AgentComm.Broker.Handler
import AgentComm.Proofs.Sections
import Mathlib.Tactic.Linarith

/-!
# What a poll leaves behind

A poll checks for a queue, and registers its agent again if there is none. While no removal of
the agent takes a step, what each of its sections made sure of stays, so that the agent is all
there in the end if the poll registered it, or if it was all there when the poll checked.
-/

namespace AgentComm

open Lib

variable {cfg : ServerConfig} {a : PyStr}

def Section.removes (a : PyStr) : Section → Bool
  | delEndpoint b | delCapabilities b | delHeartbeat b | dropMailbox b => b = a
  | _ => false

/-- No removal of `a` takes a step, and the broker is not restarted. -/
def keeps (cfg : ServerConfig) (a : PyStr) (w : World) : Action → Bool
  | .run i =>
    match (w.threads i).step cfg w.clock w.stores with
    | some (sec, _) => !sec.removes a
    | none => true
  | .restart => false
  | _ => true

abbrev Keeping (cfg : ServerConfig) (a : PyStr) : World → List Event → World → Prop :=
  (brokerLts cfg).Run fun w act => keeps cfg a w act

/-- All that is in the one entry is in the other too. -/
structure Entry.Within (x y : Entry) : Prop where
  endpoint : x.endpoint.isSome → y.endpoint.isSome
  capabilities : x.capabilities.isSome → y.capabilities.isSome
  heartbeat : x.heartbeat.isSome → y.heartbeat.isSome
  ttl : x.ttl.isSome → y.ttl.isSome
  queue : x.queue.isSome → y.queue.isSome

theorem Entry.Within.refl (x : Entry) : x.Within x := ⟨id, id, id, id, id⟩

theorem Section.within {sec : Section} (h : ¬ sec.removes a) (x : Entry) :
    x.Within (sec.onEntry a x) := by
  cases sec with
  | look => exact .refl x
  | delEndpoint b | delCapabilities b | delHeartbeat b | dropMailbox b =>
    simp only [removes, decide_eq_true_eq] at h
    simp only [onEntry, if_neg h]
    exact .refl x
  | registerHeartbeat b now ttl =>
    simp only [onEntry]
    split_ifs
    · refine ⟨id, id, fun _ => rfl, fun ht => ?_, id⟩
      rw [Option.isSome_or, ht, Bool.or_true]
    · exact .refl x
  | _ =>
    simp only [onEntry]
    split_ifs
    · constructor <;> intro h <;> first | exact h | rfl
    · exact .refl x

/-- What a poll of `a`, by the section it enters next, has made sure of. -/
def Thread.Ensured (a : PyStr) (x : Entry) : Thread → Prop
  | autoEndpoint b _ => b = a
  | autoMailbox b _ => b = a ∧ x.endpoint.isSome
  | autoCapabilities b _ => b = a ∧ x.endpoint.isSome ∧ x.queue.isSome
  | autoHeartbeat b _ =>
    b = a ∧ x.endpoint.isSome ∧ x.queue.isSome ∧ x.capabilities.isSome
  | pollHeartbeat b _ =>
    b = a ∧ x.endpoint.isSome ∧ x.queue.isSome ∧ x.capabilities.isSome ∧ x.ttl.isSome
  | pollEnter b _ | pollWait b _ _ => b = a ∧ x.endpoint.isSome ∧ x.queue.isSome
      ∧ x.capabilities.isSome ∧ x.ttl.isSome ∧ x.heartbeat.isSome
  | done (.messages _) => x.endpoint.isSome ∧ x.queue.isSome ∧ x.capabilities.isSome
      ∧ x.ttl.isSome ∧ x.heartbeat.isSome
  | _ => False

theorem Thread.Ensured.mono {x y : Entry} (h : x.Within y) {t : Thread} (ht : t.Ensured a x) :
    t.Ensured a y := by
  obtain ⟨he, hc, hb, httl, hq⟩ := h
  cases t with
  | done ans =>
    cases ans with
    | messages ms => exact ⟨he ht.1, hq ht.2.1, hc ht.2.2.1, httl ht.2.2.2.1, hb ht.2.2.2.2⟩
    | _ => exact ht.elim
  | _ =>
    simp only [Ensured] at ht ⊢
    try grind

/-- A poll's own section makes sure of one thing more. -/
theorem Thread.Ensured.step {now : ℚ} {s : Stores} {t t' : Thread} {sec : Section}
    (ht : t.Ensured a (s.entry a)) (h : t.step cfg now s = some (sec, t')) :
    t'.Ensured a (sec.onEntry a (s.entry a)) := by
  have hqueue : (s.entry a).queue.isSome → s.mailboxes.ref? a ≠ none := by
    intro hq hr
    have : (s.entry a).queue = none := by simp [Stores.entry, Deques.queue, hr]
    rw [this] at hq
    cases hq
  cases t with
  | autoEndpoint b wait =>
    cases ht
    cases h
    simp [Ensured, Section.onEntry]
  | autoMailbox b wait =>
    obtain ⟨rfl, he⟩ := ht
    cases h
    simpa [Ensured, Section.onEntry] using he
  | autoCapabilities b wait =>
    obtain ⟨rfl, he, hq⟩ := ht
    cases h
    simpa [Ensured, Section.onEntry] using ⟨he, hq⟩
  | autoHeartbeat b wait =>
    obtain ⟨rfl, he, hq, hc⟩ := ht
    cases h
    simpa [Ensured, Section.onEntry] using ⟨he, hq, hc⟩
  | pollHeartbeat b wait =>
    obtain ⟨rfl, he, hq, hc, httl⟩ := ht
    cases h
    simpa [Ensured, Section.onEntry, httl] using ⟨he, hq, hc⟩
  | pollEnter | pollWait =>
    obtain ⟨rfl, hall⟩ := ht
    rcases Thread.step_looks rfl h with ⟨hr, -⟩ | ⟨_, -, rfl, rfl⟩ | ⟨_, _, -, rfl, rfl⟩
    · exact absurd hr (hqueue hall.2.1)
    · simpa [Ensured, Section.onEntry] using ⟨hall.1, hall.2.2⟩
    · exact ⟨rfl, hall⟩
  | done => cases h
  | _ => exact ht.elim

/-- What a poll has made sure of stays, whatever the other threads do. -/
theorem ensured_run {w w' : World} {tr : List Event} {i : ℕ} (h : Keeping cfg a w tr w')
    (hi : (w.threads i).Ensured a (w.stores.entry a)) :
    (w'.threads i).Ensured a (w'.stores.entry a) := by
  refine h.invariant (I := fun _ w => (w.threads i).Ensured a (w.stores.entry a)) hi ?_
  intro tr w act w' es hI hok hs
  rcases World.step_cases hs with ⟨j, call, -, hidle, rfl, rfl⟩ | ⟨j, sec, t, rfl, ht, rfl, rfl⟩
    | ⟨d, -, -, rfl, rfl⟩ | ⟨rfl, -, -⟩
  · have hne : i ≠ j := by
      rintro rfl
      rw [hidle] at hI
      exact hI
    simpa [Function.update_of_ne hne] using hI
  · simp only [keeps, ht, Bool.not_eq_true', ← Bool.not_eq_true] at hok
    rw [World.threads_advance, World.entry_advance ht]
    split_ifs with hij
    · subst hij
      exact hI.step ht
    · exact hI.mono (Section.within hok _)
  · exact hI
  · cases hok

/-- A polling agent is registered with a queue and alive, discovery lists it, and a message to it
is accepted. -/
structure Healed (cfg : ServerConfig) (a : PyStr) (w : World) : Prop where
  registered : (w.stores.entry a).endpoint.isSome
  queue : (w.stores.entry a).queue.isSome
  ttl : (w.stores.entry a).ttl.isSome
  heartbeat : (w.stores.entry a).heartbeat.isSome
  listed : ∀ now, ∃ x ∈ discover w.stores now, x.get (lit "agent_id") = .str a
  accepted : ∀ m, ∃ t, (Thread.sendLookup a m).step cfg w.clock w.stores = some (.look, t)
    ∧ (t = .sendEnqueue a m ∨ t = .sendRoute a)
  routed : ∃ e, (Thread.sendRoute a).step cfg w.clock w.stores
    = some (.look, .done (.routed e))

theorem sendable {s : Stores} (now : ℚ) (h : (s.entry a).endpoint.isSome) :
    (∀ m, ∃ t, (Thread.sendLookup a m).step cfg now s = some (.look, t)
      ∧ (t = .sendEnqueue a m ∨ t = .sendRoute a))
      ∧ ∃ e, (Thread.sendRoute a).step cfg now s = some (.look, .done (.routed e)) := by
  obtain ⟨e, he⟩ := Option.isSome_iff_exists.1 h
  have hget : s.registry.get? a = some e := he
  refine ⟨fun m => ?_, e, by simp only [Thread.step, hget]⟩
  cases hm : e.mailbox
  · exact ⟨.sendRoute a, by simp [Thread.step, hget, hm], .inr rfl⟩
  · exact ⟨.sendEnqueue a m, by simp [Thread.step, hget, hm], .inl rfl⟩

theorem listed_of_capabilities {s : Stores} (now : ℚ) (h : (s.entry a).capabilities.isSome) :
    ∃ x ∈ discover s now, x.get (lit "agent_id") = .str a := by
  obtain ⟨caps, hc⟩ := Option.isSome_iff_exists.1 h
  exact ⟨_, List.mem_map.2 ⟨(a, caps), Dict.mem_entries.2 hc, rfl⟩, rfl⟩

theorem Thread.Ensured.healed {w : World} {ms : List PyStr}
    (h : (Thread.done (.messages ms)).Ensured a (w.stores.entry a)) : Healed cfg a w := by
  obtain ⟨he, hq, hc, ht, hb⟩ := h
  exact ⟨he, hq, ht, hb, fun now => listed_of_capabilities now hc, (sendable w.clock he).1,
    (sendable w.clock he).2⟩

/-! ### A poll that registers nothing -/

/-- The run ends with the poll answered, and with no endpoint, capabilities or TTL of `a` that
were not there. -/
def Answers (cfg : ServerConfig) (a : PyStr) (i : ℕ) (w : World) : Prop :=
  ∃ tr w' ms, Keeping cfg a w tr w' ∧ w'.threads i = .done (.messages ms)
    ∧ (w'.stores.entry a).endpoint = (w.stores.entry a).endpoint
    ∧ (w'.stores.entry a).capabilities = (w.stores.entry a).capabilities
    ∧ (w'.stores.entry a).ttl = (w.stores.entry a).ttl

variable {w w' : World} {i : ℕ}

theorem Answers.prepend {act : Action} {es : List Event} (h : Answers cfg a i w')
    (hs : (brokerLts cfg).step w act = some (w', es)) (hok : keeps cfg a w act)
    (he : (w'.stores.entry a).endpoint = (w.stores.entry a).endpoint)
    (hc : (w'.stores.entry a).capabilities = (w.stores.entry a).capabilities)
    (ht : (w'.stores.entry a).ttl = (w.stores.entry a).ttl) : Answers cfg a i w := by
  obtain ⟨tr, w'', ms, hrun, hdone, he', hc', ht'⟩ := h
  have hfirst : Keeping cfg a w es w' := Lts.Run.single hok hs
  exact ⟨_, w'', ms, hfirst.trans hrun, hdone, he'.trans he, hc'.trans hc,
    ht'.trans ht⟩

theorem answers_of_drain {mbox : ℕ} {ms : List PyStr}
    (h : (w.threads i).step cfg w.clock w.stores
      = some (.drain a mbox, .done (.messages ms))) : Answers cfg a i w := by
  have hdrain : (Section.drain a mbox).onEntry a (w.stores.entry a)
      = { w.stores.entry a with queue := some [] } := if_pos rfl
  have hok : keeps cfg a w (.run i) := by simp [keeps, h, Section.removes]
  refine ⟨_, _, ms, Lts.Run.single hok (World.step_run h), ?_, ?_, ?_, ?_⟩
  · rw [World.threads_advance, if_pos rfl]
  all_goals rw [World.entry_advance h, hdrain]

theorem answers_of_wait {r : ℕ} {deadline : ℚ} (hi : w.threads i = .pollWait a r deadline)
    (hq : (w.stores.entry a).queue.isSome) : Answers cfg a i w := by
  obtain ⟨q, hq⟩ := Option.isSome_iff_exists.1 hq
  obtain ⟨mbox, hmbox, -⟩ := Deques.queue_eq_some.1 hq
  have hlater : Answers cfg a i { w with clock := w.clock + max 0 (deadline - w.clock) } := by
    have hlate : deadline - (w.clock + max 0 (deadline - w.clock)) ≤ 0 := by
      have := le_max_right 0 (deadline - w.clock)
      linarith
    have hdrain : (w.threads i).step cfg (w.clock + max 0 (deadline - w.clock)) w.stores
        = some (.drain a mbox, .done (.messages (w.stores.mailboxes.heap mbox))) := by
      simp only [hi, Thread.step, hmbox, pollLoop_late _ _ _ hlate]
    exact answers_of_drain hdrain
  have htick : (brokerLts cfg).step w (.tick (max 0 (deadline - w.clock)))
      = some ({ w with clock := w.clock + max 0 (deadline - w.clock) }, []) := by
    simp only [brokerLts, World.step, le_max_left, if_true]
  exact hlater.prepend htick rfl rfl rfl rfl

theorem answers_of_enter {wait : ℚ} (hi : w.threads i = .pollEnter a wait)
    (hq : (w.stores.entry a).queue.isSome) : Answers cfg a i w := by
  have hq' := hq
  obtain ⟨q, hq⟩ := Option.isSome_iff_exists.1 hq
  obtain ⟨mbox, hmbox, -⟩ := Deques.queue_eq_some.1 hq
  have hstep : (w.threads i).step cfg w.clock w.stores
      = some (pollLoop w.stores w.clock a mbox (w.clock + wait)) := by
    simp only [hi, Thread.step, hmbox]
  rcases pollLoop_cases w.stores w.clock a mbox (w.clock + wait) with hl | hl <;>
    rw [hl] at hstep
  · exact answers_of_drain hstep
  · have hok : keeps cfg a w (.run i) := by simp [keeps, hstep, Section.removes]
    have hwait : (w.advance i .look (.pollWait a mbox (w.clock + wait))).threads i
        = .pollWait a mbox (w.clock + wait) := by rw [World.threads_advance, if_pos rfl]
    exact (answers_of_wait hwait hq').prepend (World.step_run hstep) hok rfl rfl rfl

/-- A poll past its check answers in the end if let, and registers nothing. -/
theorem answers_of_heartbeat {wait : ℚ} (hi : w.threads i = .pollHeartbeat a wait)
    (hq : (w.stores.entry a).queue.isSome) : Answers cfg a i w := by
  have hstep : (w.threads i).step cfg w.clock w.stores
      = some (.pollHeartbeat a w.clock, .pollEnter a wait) := by rw [hi, Thread.step]
  have hok : keeps cfg a w (.run i) := by simp [keeps, hstep, Section.removes]
  have hentry := World.entry_advance hstep a
  have hsame : ∀ x : Entry, ((Section.pollHeartbeat a w.clock).onEntry a x).endpoint = x.endpoint
      ∧ ((Section.pollHeartbeat a w.clock).onEntry a x).capabilities = x.capabilities
      ∧ ((Section.pollHeartbeat a w.clock).onEntry a x).ttl = x.ttl
      ∧ ((Section.pollHeartbeat a w.clock).onEntry a x).queue = x.queue := by
    intro x
    simp only [Section.onEntry]
    split_ifs <;> exact ⟨rfl, rfl, rfl, rfl⟩
  obtain ⟨he, hc, ht, hqueue⟩ := hsame (w.stores.entry a)
  rw [← hentry] at he hc ht hqueue
  have henter : (w.advance i (.pollHeartbeat a w.clock) (.pollEnter a wait)).threads i
      = .pollEnter a wait := by rw [World.threads_advance, if_pos rfl]
  exact (answers_of_enter henter (hqueue ▸ hq)).prepend (World.step_run hstep) hok he hc ht

/-! ### When a poll heals -/

/-- A poll leaves its agent healed, in every run without removals of the agent from its check on
that has answered it, exactly if the queue it may have found at its check was that of an agent
with an endpoint, capabilities and a TTL. -/
theorem poll_heals_iff {wait : ℚ} {es : List Event} (hi : w.threads i = .pollCheck a wait)
    (hs : (brokerLts cfg).step w (.run i) = some (w', es)) :
    (∀ tr w'' ms, Keeping cfg a w' tr w'' → w''.threads i = .done (.messages ms) →
        Healed cfg a w'')
      ↔ ((w.stores.entry a).queue.isSome → (w.stores.entry a).endpoint.isSome
        ∧ (w.stores.entry a).capabilities.isSome ∧ (w.stores.entry a).ttl.isSome) := by
  have hcheck : (w.threads i).step cfg w.clock w.stores = some (.look,
      if (w.stores.entry a).queue.isSome then .pollHeartbeat a wait else .autoEndpoint a wait) := by
    rw [hi, Thread.step, ← Deques.queue_isSome]
    rfl
  rw [World.step_run hcheck] at hs
  cases hs
  set w₁ := w.advance i .look (if (w.stores.entry a).queue.isSome then
    .pollHeartbeat a wait else .autoEndpoint a wait) with hw₁
  have hnext : w₁.threads i = if (w.stores.entry a).queue.isSome then
      .pollHeartbeat a wait else .autoEndpoint a wait := by
    rw [hw₁, World.threads_advance, if_pos rfl]
  have hentry : w₁.stores.entry a = w.stores.entry a := rfl
  constructor
  · intro hheal hq
    rw [if_pos hq] at hnext
    obtain ⟨tr, w'', ms, hrun, hdone, he, hc, ht⟩ := answers_of_heartbeat hnext (hentry ▸ hq)
    have hH := hheal tr w'' ms hrun hdone
    rw [hentry] at he hc ht
    obtain ⟨x, hx, hid⟩ := hH.listed 0
    obtain ⟨⟨b, caps⟩, hm, rfl⟩ := List.mem_map.1 hx
    have hb : b = a := by simpa [buildAgentEntry, Fields.get, Lib.Pairs.get?] using hid
    subst hb
    have hcaps : (w''.stores.entry b).capabilities = some caps := Dict.mem_entries.1 hm
    exact ⟨he ▸ hH.registered, by rw [← hc, hcaps, Option.isSome_some], ht ▸ hH.ttl⟩
  · intro hwhole tr w'' ms hrun hdone
    have hstart : (w₁.threads i).Ensured a (w₁.stores.entry a) := by
      rw [hnext, hentry]
      split_ifs with hq
      · obtain ⟨he, hc, ht⟩ := hwhole hq
        exact ⟨rfl, he, hq, hc, ht⟩
      · exact rfl
    have hend := ensured_run hrun hstart
    rw [hdone] at hend
    exact hend.healed

/-- An agent the broker knows nothing of polls. -/
def firstPoll : World :=
  { World.boot 0 with threads := Function.update (fun _ => .idle) 0 (.pollCheck (lit "a") 25) }

/-- The poll goes on alone and waits in vain. -/
def firstPollAlone : List Action :=
  [.run 0, .run 0, .run 0, .run 0, .run 0, .run 0, .tick 25, .run 0]

theorem poll_heals_first : ∃ tr w ms,
    Keeping .defaults (lit "a") (firstPoll.advance 0 .look (.autoEndpoint (lit "a") 25)) tr w
      ∧ w.threads 0 = .done (.messages ms) ∧ Healed .defaults (lit "a") w := by
  have hall : ((brokerLts .defaults).execIf (keeps .defaults (lit "a"))
      (firstPoll.advance 0 .look (.autoEndpoint (lit "a") 25)) firstPollAlone).map (fun r =>
        match r.1.threads 0 with
        | .done (.messages _) => true
        | _ => false) = some true := by decide +kernel
  obtain ⟨⟨w, tr⟩, he, hdone⟩ := Option.map_eq_some_iff.1 hall
  have hrun : Keeping .defaults (lit "a") (firstPoll.advance 0 .look (.autoEndpoint (lit "a") 25))
      tr w := Lts.run_of_execIf (I := fun _ => True) trivial
        (fun _ _ _ _ _ _ hp _ => ⟨hp, trivial⟩) he
  have hheals : ∀ tr w ms, Keeping .defaults (lit "a")
      (firstPoll.advance 0 .look (.autoEndpoint (lit "a") 25)) tr w →
      w.threads 0 = .done (.messages ms) → Healed .defaults (lit "a") w :=
    (poll_heals_iff (w := firstPoll) (i := 0) (a := lit "a") rfl rfl).2 (by decide)
  split at hdone
  · rename_i ms hw
    exact ⟨tr, w, ms, hrun, hw, hheals tr w ms hrun hw⟩
  · cases hdone

/-- A message is sent to an agent that deregisters between the sender's lookup and its enqueue. -/
def straySend : List Action :=
  [.spawn 0 (.register ⟨{ agentId := lit "a", host := lit "mailbox", port := 0, mailbox := true },
      [], none⟩), .run 0, .run 0, .run 0, .run 0, .run 0, .spawn 1 (.send (lit "a") (lit "m")),
    .run 1, .spawn 2 (.deregister (lit "a")), .run 2, .run 2, .run 2, .run 2, .run 1,
    .spawn 3 (.poll (lit "a") 25)]

/-- The agent's next poll finds the stray queue, and leaves the agent unregistered. -/
theorem poll_heals_not : ∃ tr w w₁ es tr' w' ms, (brokerLts .defaults).Free (World.boot 0) tr w
    ∧ w.threads 3 = .pollCheck (lit "a") 25
    ∧ (brokerLts .defaults).step w (.run 3) = some (w₁, es)
    ∧ Keeping .defaults (lit "a") w₁ tr' w' ∧ w'.threads 3 = .done (.messages ms)
    ∧ ¬ Healed .defaults (lit "a") w' := by
  have hall : ((brokerLts .defaults).exec (World.boot 0) straySend).bind (fun r =>
      ((brokerLts .defaults).step r.1 (.run 3)).bind fun r₁ =>
        ((brokerLts .defaults).execIf (keeps .defaults (lit "a")) r₁.1 [.run 3, .run 3]).map
          fun r' => (match r.1.threads 3 with
            | .pollCheck b wait => decide (b = lit "a" ∧ wait = 25)
            | _ => false)
          && (match r'.1.threads 3 with
            | .done (.messages _) => true
            | _ => false)
          && (r'.1.stores.entry (lit "a")).endpoint.isNone) = some true := by decide +kernel
  obtain ⟨⟨w, tr⟩, he, hall⟩ := Option.bind_eq_some_iff.1 hall
  obtain ⟨⟨w₁, es⟩, hs, hall⟩ := Option.bind_eq_some_iff.1 hall
  obtain ⟨⟨w', tr'⟩, he', hall⟩ := Option.map_eq_some_iff.1 hall
  simp only [Bool.and_eq_true] at hall
  obtain ⟨⟨hcheck, hdone⟩, hgone⟩ := hall
  split at hcheck
  · rename_i b wait hw
    obtain ⟨rfl, rfl⟩ := of_decide_eq_true hcheck
    split at hdone
    · rename_i ms hw'
      refine ⟨tr, w, w₁, es, tr', w', ms, Lts.run_of_exec (fun _ _ _ => trivial) he, hw, hs,
        Lts.run_of_execIf (I := fun _ => True) trivial (fun _ _ _ _ _ _ hp _ => ⟨hp, trivial⟩) he',
        hw', fun hH => ?_⟩
      have hreg := hH.registered
      rw [Option.isNone_iff_eq_none.1 hgone] at hreg
      cases hreg
    · cases hdone
  · cases hcheck

end AgentComm
