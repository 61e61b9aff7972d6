import AgentComm.Proofs.Alone
import AgentComm.Proofs.Discovery
import AgentComm.Proofs.Serving

/-!
# Whole requests as threads

The broker that takes whole requests and whole sweeps is the broker of threads with nothing running
side by side: as long as the clock it reads does not go back, each request is a thread that makes
the call of the request and comes to its answer, and the stores are the same after each.
-/

namespace AgentComm

open Lib

variable {P : Python} {cfg : ServerConfig} {env : Env} {req : Request} {p : PyStr}
variable {s s' : Stores} {o : Outcome} {w w' w'' : World} {i : ℕ} {t t' : Thread}

variable (cfg i) in
/-- One world comes out of another while no thread but `i` moves. -/
structure Leads (w w' : World) : Prop where
  run : ∃ tr, (brokerLts cfg).Free w tr w'
  others : ∀ j, j ≠ i → w'.threads j = w.threads j

theorem Leads.trans (h : Leads cfg i w w') (h' : Leads cfg i w' w'') : Leads cfg i w w'' := by
  obtain ⟨⟨tr, hrun⟩, hothers⟩ := h
  obtain ⟨⟨tr', hrun'⟩, hothers'⟩ := h'
  exact ⟨⟨_, hrun.trans hrun'⟩, fun j hj => (hothers' j hj).trans (hothers j hj)⟩

/-- A run of one thread alone. -/
theorem Leads.of_only {tr : List Event} (h : (brokerLts cfg).Run (only i) w tr w') :
    Leads cfg i w w' := by
  refine ⟨⟨tr, h.free⟩, fun j hj => ?_⟩
  refine h.invariant (I := fun _ v => v.threads j = w.threads j) rfl ?_
  rintro tr v act v' es hv hok hs
  refine (World.threads_of_step hs ?_).trans hv
  cases act with
  | run k =>
    obtain rfl : k = i := hok
    exact hj.symm
  | tick => trivial
  | spawn => exact absurd hok id
  | restart => exact absurd hok id

variable (cfg i) in
theorem Leads.tick {c : ℚ} (h : w.clock ≤ c) : Leads cfg i w { w with clock := c } := by
  have hstep : (brokerLts cfg).step w (.tick (c - w.clock)) = some ({ w with clock := c }, []) := by
    simp [brokerLts, World.step, h]
  exact .of_only (.single (a := .tick (c - w.clock)) trivial hstep)

/-- The world once thread `i` has made a call. -/
def World.spawned (w : World) (i : ℕ) (call : Call) : World :=
  { w with threads := Function.update w.threads i call.start }

variable (cfg) in
theorem Leads.spawn (call : Call) (h : w.threads i = .idle) :
    Leads cfg i w (w.spawned i call) := by
  have hstep : (brokerLts cfg).step w (.spawn i call) = some (w.spawned i call, []) := by
    simp [brokerLts, World.step, h, World.isIdle, World.spawned]
  exact ⟨⟨_, .single trivial hstep⟩, fun j hj => Function.update_of_ne hj _ _⟩

/-- A thread goes on alone at a later time. -/
theorem leads_on {c : ℚ} (hc : w.clock ≤ c) (hi : w.threads i = t)
    (h : Goes cfg c t w.stores t' s') :
    ∃ w', Leads cfg i w w' ∧ w'.stores = s' ∧ w'.clock = c ∧ w'.threads i = t' := by
  obtain ⟨tr, w', hrun, hclock, hstores, hthread⟩ := h.run (i := i) (w := { w with clock := c })
    rfl rfl hi
  exact ⟨w', (Leads.tick cfg i hc).trans (.of_only hrun), hstores, hclock, hthread⟩

/-- A call goes alone from its start. -/
theorem leads_call {c : ℚ} (call : Call) (hc : w.clock ≤ c)
    (h : Goes cfg c call.start w.stores t' s') :
    ∃ w', Leads cfg i (w.spawned i call) w' ∧ w'.stores = s' ∧ w'.clock = c
      ∧ w'.threads i = t' :=
  leads_on (w := w.spawned i call) hc (Function.update_self i _ _) h

variable {now : ℚ}

/-- A message for a mailbox is queued. -/
theorem goes_enqueue {a m : PyStr} {e : Endpoint} (he : s.registry.get? a = some e)
    (hbox : e.mailbox = true) :
    Goes cfg now (.sendLookup a m) s (.done .queued) (s.enqueue a m) := by
  have hstep : (Thread.sendLookup a m).step cfg now s = some (.look, .sendEnqueue a m) := by
    simp only [Thread.step, he, hbox, if_true]
  exact .step hstep (.step rfl (.refl _ _))

/-! ### Polls that do not wait -/

variable (cfg now s) in
theorem goes_take (a : PyStr) : Goes cfg now (.pollHeartbeat a 0) s
    (.done (.messages ((s.entry a).queue.getD []))) ((s.pollHeartbeat a now).takeAll a) := by
  have hlate : now + 0 - now ≤ 0 := by simp
  have hboxes : (s.pollHeartbeat a now).mailboxes = s.mailboxes := by
    unfold Stores.pollHeartbeat
    split_ifs <;> rfl
  rcases hr : s.mailboxes.ref? a with _ | mbox
  · have hnone : (s.entry a).queue = none := by simp [Stores.entry, Deques.queue, hr]
    have hstep : (Thread.pollEnter a 0).step cfg now (s.pollHeartbeat a now)
        = some (.look, .done (.messages [])) := by simp only [Thread.step, hboxes, hr]
    refine .step rfl (.step hstep ?_)
    simp only [Stores.takeAll, hboxes, hr, hnone]
    exact .refl _ _
  · have hsome : (s.entry a).queue = some (s.mailboxes.heap mbox) :=
      Deques.queue_eq_some.2 ⟨mbox, hr, rfl⟩
    have hstep : (Thread.pollEnter a 0).step cfg now (s.pollHeartbeat a now)
        = some (.drain a mbox, .done (.messages (s.mailboxes.heap mbox))) := by
      simp only [Thread.step, hboxes, hr, pollLoop_late _ _ _ hlate]
    refine .step rfl (.step hstep ?_)
    simp only [Stores.takeAll, hboxes, hr, hsome]
    exact .refl _ _

variable (cfg now) in
theorem goes_polled {a : PyStr} (h : (s.mailboxes.ref? a).isSome) :
    Goes cfg now (.pollCheck a 0) s (.done (.messages ((s.entry a).queue.getD [])))
      ((s.pollHeartbeat a now).takeAll a) := by
  have hstep : (Thread.pollCheck a 0).step cfg now s = some (.look, .pollHeartbeat a 0) := by
    simp only [Thread.step, h, if_true]
  exact .step hstep (goes_take cfg s now a)

/-- An agent without a queue is registered first. -/
theorem goes_autoRegister {a : PyStr} (h : s.mailboxes.ref? a = none) :
    Goes cfg now (.pollCheck a 0) s (.pollHeartbeat a 0) (autoRegisterStores cfg now a s) := by
  have hstep : (Thread.pollCheck a 0).step cfg now s = some (.look, .autoEndpoint a 0) := by
    simp [Thread.step, h]
  exact .step hstep (.step rfl (.step rfl (.step rfl (.step rfl (.refl _ _)))))

/-! ### The two brokers -/

variable (P cfg req p) in
/-- The call that a request under `p` comes to, once it is accepted. -/
inductive Calls : Call → Prop
  | register {raw data r} (hm : req.method = lit "POST") (hp : req.path = lit "/agents")
      (hraw : readBody P cfg req = .text raw) (hdata : P.jsonLoads raw = .ok (.obj data))
      (hr : validateRegisterPayload data p = .ok r) : Calls (.register r)
  | deregister {a} (hm : req.method = lit "DELETE")
      (ha : parseAgentIdFromPath P req.path = .ok a) : Calls (.deregister a)
  | send {raw m a} (hm : req.method = lit "POST") (hp : req.path = defaultMessagePath)
      (hraw : readBody P cfg req = .text raw) (hmsg : deserialize P raw = .ok m)
      (hto : m.metadata.recipient = .str a) : Calls (.send a (serialize P m))
  | poll {query a} (hm : req.method = lit "GET")
      (hp : Url.urlsplit P req.path = .ok (defaultMessagePath, query)) (ha : a = pollId P p query) :
      Calls (.poll a 0)

variable (o) in
/-- What a thread has come to is what the request is answered, unless the audit log raised before
the answer was written. -/
inductive AnsweredAs : Answer → Prop
  | created (h : o.Serves 201) : AnsweredAs .created
  | updated (h : o.Serves 200) : AnsweredAs .updated
  | deregistered (h : o.Serves 204) : AnsweredAs .deregistered
  | queued (h : o.Serves 202) : AnsweredAs .queued
  | messages {ms} (h : o.Delivers ms) : AnsweredAs (.messages ms)

/-- What thread `i` does for a request that ends with `o`, while no other thread moves. -/
inductive Threaded (P : Python) (cfg : ServerConfig) (req : Request) (o : Outcome) (i : ℕ)
    (w w' : World) : Prop
  | answered {p : PyStr} {call : Call} {ans : Answer} (hc : credentials P cfg req = some (.agent p))
      (hcall : Calls P cfg req p call) (h : Leads cfg i (w.spawned i call) w')
      (ht : w'.threads i = .done ans) (ho : AnsweredAs o ans)
  /-- the audit log raised half way through a poll -/
  | cutOff {p a : PyStr} {e : Exc} (hc : credentials P cfg req = some (.agent p))
      (hcall : Calls P cfg req p (.poll a 0)) (h : Leads cfg i (w.spawned i (.poll a 0)) w')
      (ht : w'.threads i = .pollHeartbeat a 0) (ho : o = .crash e)
  /-- nothing, for a request that changes nothing -/
  | aside (h : Leads cfg i w w') (ht : w'.threads i = .idle) (hs : w'.stores = w.stores)

/-- What a request does to the stores a thread of its own does to them, which reads the clock at the
times the request reads it. -/
theorem threaded_effect (h : Effect P cfg env req p s o s') (hs : w.stores = s)
    (hcred : credentials P cfg req = some (.agent p))
    (hi : w.threads i = .idle) (hr : w.clock ≤ env.monotonic.register)
    (hh : env.monotonic.register ≤ env.monotonic.heartbeat) :
    ∃ w', Threaded P cfg req o i w w' ∧ w'.stores = s' ∧ w'.clock = env.monotonic.heartbeat := by
  subst hs
  have hc := hr.trans hh
  have hcall : ∀ {call : Call} {ans : Answer} {s' : Stores}, Calls P cfg req p call →
      AnsweredAs o ans →
      Goes cfg env.monotonic.heartbeat call.start w.stores (.done ans) s' →
      ∃ w', Threaded P cfg req o i w w' ∧ w'.stores = s'
        ∧ w'.clock = env.monotonic.heartbeat := by
    intro call ans s' hcalls ho hgoes
    obtain ⟨w', hleads, hs', hc', ht'⟩ := leads_call call hc hgoes
    exact ⟨w', .answered hcred hcalls hleads ht' ho, hs', hc'⟩
  -- the sections that come before the clock is read again
  have hsoon : ∀ (call : Call) {t' : Thread} {s' : Stores},
      Goes cfg env.monotonic.register call.start w.stores t' s' →
      ∃ w', Leads cfg i (w.spawned i call) w' ∧ w'.stores = s'
        ∧ w'.clock = env.monotonic.heartbeat ∧ w'.threads i = t' := by
    intro call t' s' hgoes
    obtain ⟨w', hleads, hs', hc', ht'⟩ := leads_call call hr hgoes
    exact ⟨{ w' with clock := env.monotonic.heartbeat },
      hleads.trans (Leads.tick cfg i (hc'.le.trans hh)), hs', rfl, ht'⟩
  cases h with
  | refused | raised | read | routed =>
    exact ⟨_, .aside (Leads.tick cfg i hc) hi rfl, rfl, rfl⟩
  | enqueued hm hp hraw hmsg _ hto he hbox ho =>
    exact hcall (.send hm hp hraw hmsg hto) (.queued ho) (goes_enqueue he hbox)
  | @registered _ _ _ r hm hp hraw hdata hr' _ ho =>
    obtain ⟨w', hleads, hs', hc', ht'⟩ := hsoon (.register _) (goes_register r w.stores)
    refine ⟨w', .answered hcred (.register hm hp hraw hdata hr') hleads ht' ?_, hs', hc'⟩
    split_ifs at ho ⊢
    · exact .created ho
    · exact .updated ho
  | removed hm ha _ _ ho =>
    exact hcall (.deregister hm ha) (.deregistered ho) (goes_deregister _ _)
  | polled hm hp ha _ hq ho =>
    exact hcall (.poll hm hp ha) (.messages ho) (goes_polled cfg env.monotonic.heartbeat hq)
  | @autoRegistered _ _ a hm hp ha _ hq ho =>
    obtain ⟨w', hleads, hs', hc', ht'⟩ := hsoon (.poll _ 0) (goes_autoRegister hq)
    obtain ⟨w'', hleads', hs'', hc'', ht''⟩ := leads_on hc'.le ht'
      (goes_take cfg w'.stores env.monotonic.heartbeat _)
    have hqueue : (w'.stores.entry a).queue.getD [] = [] := by
      have hnone : (w.stores.entry a).queue = none := by simp [Stores.entry, Deques.queue, hq]
      rw [hs', entry_autoRegisterStores, if_pos rfl, Entry.autoRegister, hnone]
      rfl
    rw [hqueue] at ht''
    exact ⟨w'', .answered hcred (.poll hm hp ha) (hleads.trans hleads') ht'' (.messages ho),
      by rw [hs'', hs'], hc''⟩
  | halfPolled hm hp ha _ hq =>
    obtain ⟨w', hleads, hs', hc', ht'⟩ := hsoon (.poll _ 0) (goes_autoRegister hq)
    exact ⟨w', .cutOff hcred (.poll hm hp ha) hleads ht' rfl, hs', hc'⟩

/-- When an action reads the clock first, and when last. -/
def SerialAction.readings : SerialAction → ℚ × ℚ
  | request env _ => (env.monotonic.register, env.monotonic.heartbeat)
  | sweep now => (now, now)

/-- The clock, which is at `c` at first, does not go back. -/
def Clocked (c : ℚ) : List SerialAction → Prop
  | [] => True
  | act :: as => c ≤ act.readings.1 ∧ act.readings.1 ≤ act.readings.2 ∧ Clocked act.readings.2 as

/-- What it is at last. -/
def lastReading (c : ℚ) (as : List SerialAction) : ℚ := as.foldl (fun _ act => act.readings.2) c

variable {as bs : List SerialAction} {act : SerialAction} {c : ℚ} {b : Broker}

theorem clocked_append : ∀ {as bs : List SerialAction} {c : ℚ},
    Clocked c (as ++ bs) ↔ Clocked c as ∧ Clocked (lastReading c as) bs
  | [], _, _ => (and_iff_right trivial).symm
  | act :: as, bs, c => by
    rw [List.cons_append, Clocked, Clocked, clocked_append]
    simp only [lastReading, List.foldl_cons, and_assoc]

theorem lastReading_snoc : lastReading c (as ++ [act]) = act.readings.2 := by
  rw [lastReading, List.foldl_append]
  rfl

/-- What thread `i` does for an action of the serial broker. -/
def Mirrored (P : Python) (cfg : ServerConfig) (b : Broker) (i : ℕ) (w w' : World) :
    SerialAction → Prop
  | .request env req => Threaded P cfg req (handle P cfg env req b).1 i w w'
  | .sweep _ => Leads cfg i (w.spawned i .sweep) w' ∧ w'.threads i = .done .swept

/-- The world stands where the serial broker does, with only the first `n` threads started. -/
structure Stands (b : Broker) (c : ℚ) (n : ℕ) (w : World) : Prop where
  stores : w.stores = b.stores
  clock : w.clock = c
  idle : ∀ i, n ≤ i → w.threads i = .idle

variable (P cfg) in
/-- One action of the serial broker is mirrored by a thread. -/
theorem Stands.step (h : Stands b c i w) (hc : c ≤ act.readings.1)
    (hact : act.readings.1 ≤ act.readings.2) : ∃ w', Mirrored P cfg b i w w' act
      ∧ w'.stores = ((serving P cfg).step b act).1.stores ∧ w'.clock = act.readings.2 := by
  have hi := h.idle i le_rfl
  rw [← h.clock] at hc
  cases act with
  | request env req =>
    by_cases hcred : ∃ p, credentials P cfg req = some (.agent p)
    · obtain ⟨p, hcred⟩ := hcred
      exact threaded_effect (handle_of_agent env b hcred) h.stores hcred hi hc hact
    · have hsame : (handle P cfg env req b).2 = b := handle_credentials fun p hp => hcred ⟨p, hp⟩
      have hstores : w.stores = (handle P cfg env req b).2.stores := by rw [hsame, h.stores]
      exact ⟨_, .aside (Leads.tick cfg i (hc.trans hact)) hi rfl, hstores, rfl⟩
  | sweep now =>
    obtain ⟨w', hleads, hstores, hclock, ht⟩ := leads_call .sweep hc (goes_sweep w.stores)
    exact ⟨w', ⟨hleads, ht⟩, by rw [hstores, h.stores]; rfl, hclock⟩

theorem Threaded.leads (h : Threaded P cfg req o i w w') (hi : w.threads i = .idle) :
    Leads cfg i w w' := by
  cases h with
  | answered _ _ h | cutOff _ _ h => exact (Leads.spawn cfg _ hi).trans h
  | aside h => exact h

theorem Mirrored.leads (h : Mirrored P cfg b i w w' act) (hi : w.threads i = .idle) :
    Leads cfg i w w' := by
  cases act with
  | request env req => exact Threaded.leads h hi
  | sweep now => exact (Leads.spawn cfg _ hi).trans h.1

/-- The run of threads that mirrors the actions, the `n`-th of them by thread `n`, and stands after
each where the serial broker does. -/
inductive Embeds (P : Python) (cfg : ServerConfig) (c : ℚ) : List SerialAction → World → Prop
  | start : Embeds P cfg c [] (World.boot c)
  | act {as : List SerialAction} {act : SerialAction} {w w' : World} (h : Embeds P cfg c as w)
      (hact : Mirrored P cfg ((serving P cfg).after Broker.init as) as.length w w' act)
      (hstands : Stands ((serving P cfg).after Broker.init (as ++ [act]))
        (lastReading c (as ++ [act])) (as.length + 1) w') : Embeds P cfg c (as ++ [act]) w'

theorem Embeds.stands (h : Embeds P cfg c as w) :
    Stands ((serving P cfg).after Broker.init as) (lastReading c as) as.length w := by
  cases h with
  | start => exact ⟨rfl, rfl, fun _ _ => rfl⟩
  | act _ _ hstands =>
    rw [List.length_append]
    exact hstands

/-- A mailbox agent registers, and a sweep comes. -/
def registerThenSweep : List SerialAction := [.request downEnv boxRegister, .sweep 100]

end AgentComm
