import AgentComm.Proofs.Effects
import AgentComm.Proofs.Sections
import Mathlib.Tactic.Linarith

/-!
# Calls that run alone

With nothing else between its sections, a call does to the stores what its handler does as a
whole: the threads and the handlers are two readings of one program.
-/

namespace AgentComm

open Lib

/-- What a handler, or a sweep, does to the stores as a whole at one instant. -/
def Call.whole (cfg : ServerConfig) (now : ℚ) (s : Stores) : Call → Stores
  | register r => registerStores cfg now r (s.isNew r.agentId) s
  | deregister a => removeStores a s
  | send a m =>
    match s.registry.get? a with
    | some e => if e.mailbox then s.enqueue a m else s
    | none => s
  | poll a _ =>
    let s := if (s.mailboxes.ref? a).isSome then s else autoRegisterStores cfg now a s
    (s.pollHeartbeat a now).takeAll a
  | sweep => sweepOnce cfg now s

/-- A thread goes through some sections with nothing in between, and no time passing. -/
inductive Goes (cfg : ServerConfig) (now : ℚ) : Thread → Stores → Thread → Stores → Prop
  | refl (t s) : Goes cfg now t s t s
  | step {t s sec t' t'' s''} (h : t.step cfg now s = some (sec, t'))
      (hr : Goes cfg now t' (sec.apply s) t'' s'') : Goes cfg now t s t'' s''

variable {cfg : ServerConfig} {now : ℚ} {s s' s'' : Stores} {t t' t'' : Thread}

theorem Goes.trans (h : Goes cfg now t s t' s') (h' : Goes cfg now t' s' t'' s'') :
    Goes cfg now t s t'' s'' := by
  induction h with
  | refl => exact h'
  | step hs _ ih => exact .step hs (ih h')

theorem goes_register (r : Registration) (s : Stores) :
    Goes cfg now (.registerLookup r) s (.done (if s.isNew r.agentId then .created else .updated))
      (registerStores cfg now r (s.isNew r.agentId) s) := by
  have hrest : ∀ s' : Stores, Goes cfg now (.registerCapabilities r (s.isNew r.agentId)) s'
      (.done (if s.isNew r.agentId then .created else .updated))
      ((s'.putCapabilities r.agentId r.caps).registerHeartbeat r.agentId now
        (r.ttlToSet cfg (s.isNew r.agentId))) :=
    fun s' => .step rfl (.step rfl (.refl _ _))
  refine .step rfl (.step rfl ?_)
  unfold registerStores
  cases r.endpoint.mailbox with
  | false => exact hrest _
  | true => exact .step rfl (hrest _)

theorem goes_deregister (a : PyStr) (s : Stores) :
    Goes cfg now (.deregisterEndpoint a) s (.done .deregistered) (removeStores a s) :=
  .step rfl (.step rfl (.step rfl (.step rfl (.refl _ _))))

variable (cfg now) in
theorem goes_send (a m : PyStr) (s : Stores) : ∃ ans,
    Goes cfg now (.sendLookup a m) s (.done ans) ((Call.send a m).whole cfg now s) := by
  rcases he : s.registry.get? a with _ | e
  · have hwhole : (Call.send a m).whole cfg now s = s := by simp only [Call.whole, he]
    have hstep : (Thread.sendLookup a m).step cfg now s
        = some (.look, .done .unknownRecipient) := by simp only [Thread.step, he]
    rw [hwhole]
    exact ⟨_, .step hstep (.refl _ _)⟩
  · cases hbox : e.mailbox with
    | true =>
      have hwhole : (Call.send a m).whole cfg now s = s.enqueue a m := by
        simp only [Call.whole, he, hbox, if_true]
      have hstep : (Thread.sendLookup a m).step cfg now s = some (.look, .sendEnqueue a m) := by
        simp only [Thread.step, he, hbox, if_true]
      rw [hwhole]
      exact ⟨.queued, .step hstep (.step rfl (.refl _ _))⟩
    | false =>
      have hwhole : (Call.send a m).whole cfg now s = s := by simp [Call.whole, he, hbox]
      have hstep : (Thread.sendLookup a m).step cfg now s = some (.look, .sendRoute a) := by
        simp [Thread.step, he, hbox]
      have hroute : (Thread.sendRoute a).step cfg now s = some (.look, .done (.routed e)) := by
        simp only [Thread.step, he]
      rw [hwhole]
      exact ⟨.routed e, .step hstep (.step hroute (.refl _ _))⟩

theorem goes_evict (start : ℚ) (e : Endpoint) (rest : List Endpoint) (s : Stores) :
    Goes cfg now (.evictEndpoint start e rest) s (.sweepRead start rest)
      (removeStores e.agentId s) :=
  .step rfl (.step rfl (.step rfl (.step rfl (.refl _ _))))

theorem goes_sweep_list (start : ℚ) : ∀ (l : List Endpoint) (s : Stores),
    Goes cfg now (.sweepRead start l) s (.done .swept) (l.foldl (sweepAgent cfg start) s)
  | [], s => .step rfl (.refl _ _)
  | e :: rest, s => by
    have hfirst : Goes cfg now (.sweepRead start (e :: rest)) s (.sweepRead start rest)
        (sweepAgent cfg start s e) := by
      rcases hb : s.lastHeartbeat.get? e.agentId with _ | lastHb
      · have hstep : (Thread.sweepRead start (e :: rest)).step cfg now s
            = some (.look, .sweepRead start rest) := by simp only [Thread.step, hb]
        simp only [sweepAgent, hb]
        exact .step hstep (.refl _ _)
      rcases ht : s.ttlSeconds.get? e.agentId with _ | ttl
      · have hstep : (Thread.sweepRead start (e :: rest)).step cfg now s
            = some (.look, .sweepRead start rest) := by simp only [Thread.step, hb, ht]
        simp only [sweepAgent, hb, ht]
        exact .step hstep (.refl _ _)
      · have hstep : (Thread.sweepRead start (e :: rest)).step cfg now s
            = some (.look, if expired cfg start lastHb ttl e.mailbox then
                .evictEndpoint start e rest else .sweepRead start rest) := by
          simp only [Thread.step, hb, ht]
        simp only [sweepAgent, hb, ht]
        refine .step hstep ?_
        split_ifs
        · exact goes_evict start e rest s
        · exact .refl _ _
    exact hfirst.trans (goes_sweep_list start rest _)

theorem goes_sweep (s : Stores) :
    Goes cfg now .sweepStart s (.done .swept) (sweepOnce cfg now s) :=
  .step rfl (.step rfl (goes_sweep_list now _ s))

/-- A poll gets as far as its wait, with its agent registered again if it had no queue. -/
theorem goes_poll (a : PyStr) (wait : ℚ) (s : Stores) :
    Goes cfg now (.pollCheck a wait) s (.pollEnter a wait)
      ((if (s.mailboxes.ref? a).isSome then s
        else autoRegisterStores cfg now a s).pollHeartbeat a now) := by
  cases hq : (s.mailboxes.ref? a).isSome with
  | true =>
    have hstep : (Thread.pollCheck a wait).step cfg now s
        = some (.look, .pollHeartbeat a wait) := by simp only [Thread.step, hq, if_true]
    exact .step hstep (.step rfl (.refl _ _))
  | false =>
    have hstep : (Thread.pollCheck a wait).step cfg now s
        = some (.look, .autoEndpoint a wait) := by simp [Thread.step, hq]
    exact .step hstep (.step rfl (.step rfl (.step rfl (.step rfl (.step rfl (.refl _ _))))))

/-! ### As runs of the broker -/

/-- Thread `i` alone takes steps, while time may pass. -/
def only (i : ℕ) (_ : World) : Action → Prop
  | .run j => j = i
  | .tick _ => True
  | _ => False

theorem run_section {w : World} {i : ℕ} {sec : Section}
    (h : (w.threads i).step cfg w.clock w.stores = some (sec, t)) :
    (brokerLts cfg).Run (only i) w (sec.events i w.stores) (w.advance i sec t) :=
  .single (a := .run i) rfl (World.step_run h)

theorem Goes.run {i : ℕ} (h : Goes cfg now t s t' s') : ∀ {w : World}, w.clock = now →
    w.stores = s → w.threads i = t → ∃ tr w', (brokerLts cfg).Run (only i) w tr w'
      ∧ w'.clock = now ∧ w'.stores = s' ∧ w'.threads i = t' := by
  induction h with
  | refl t s => exact fun {w} hw hs ht => ⟨[], w, .refl, hw, hs, ht⟩
  | @step _ _ sec t' _ _ hstep _ ih =>
    rintro w rfl rfl rfl
    have hthread : (w.advance i sec t').threads i = t' := by
      rw [World.threads_advance, if_pos rfl]
    obtain ⟨tr, w', hrun, hw', hs', ht'⟩ := ih (w := w.advance i sec t') rfl rfl hthread
    exact ⟨_, w', (run_section hstep).trans hrun, hw', hs', ht'⟩

variable {w : World} {i : ℕ}

theorem run_last {sec : Section} {ans : Answer}
    (h : (w.threads i).step cfg w.clock w.stores = some (sec, .done ans)) :
    ∃ tr w', (brokerLts cfg).Run (only i) w tr w' ∧ w'.stores = sec.apply w.stores
      ∧ ∃ ans, w'.threads i = .done ans := by
  refine ⟨_, _, run_section h, rfl, ans, ?_⟩
  rw [World.threads_advance, if_pos rfl]

variable (cfg) in
/-- A poll takes what is queued, at its deadline at the latest. -/
theorem run_pollEnter {a : PyStr} {wait : ℚ} (hi : w.threads i = .pollEnter a wait) :
    ∃ tr w', (brokerLts cfg).Run (only i) w tr w' ∧ w'.stores = w.stores.takeAll a
      ∧ ∃ ans, w'.threads i = .done ans := by
  rcases hr : w.stores.mailboxes.ref? a with _ | mbox
  · have hstep : (w.threads i).step cfg w.clock w.stores
        = some (.look, .done (.messages [])) := by simp only [hi, Thread.step, hr]
    simp only [Stores.takeAll, hr]
    exact run_last hstep
  · have htake : w.stores.takeAll a = (Section.drain a mbox).apply w.stores := by
      simp only [Stores.takeAll, hr, Section.apply]
    have hstep : (w.threads i).step cfg w.clock w.stores
        = some (pollLoop w.stores w.clock a mbox (w.clock + wait)) := by
      simp only [hi, Thread.step, hr]
    rw [htake]
    rcases pollLoop_cases w.stores w.clock a mbox (w.clock + wait) with hl | hl <;>
      rw [hl] at hstep
    · exact run_last hstep
    -- the queue is empty: the poll waits, and nothing comes until its deadline
    · have hlate : w.clock + wait - (w.clock + max 0 wait) ≤ 0 := by
        have := le_max_right 0 wait
        linarith
      have hwaits : (w.advance i .look (.pollWait a mbox (w.clock + wait))).threads i
          = .pollWait a mbox (w.clock + wait) := by rw [World.threads_advance, if_pos rfl]
      have htick : (brokerLts cfg).Run (only i)
          (w.advance i .look (.pollWait a mbox (w.clock + wait))) []
          { w.advance i .look (.pollWait a mbox (w.clock + wait)) with
            clock := w.clock + max 0 wait } := by
        refine .single (a := .tick (max 0 wait)) trivial ?_
        simp only [brokerLts, World.step, le_max_left, if_true, World.advance]
      have hlast : Thread.step cfg (w.clock + max 0 wait) w.stores
          (.pollWait a mbox (w.clock + wait))
            = some (.drain a mbox, .done (.messages (w.stores.mailboxes.heap mbox))) := by
        simp only [Thread.step, hr, pollLoop_late _ _ _ hlate]
      rw [← hwaits] at hlast
      obtain ⟨tr, w', hrun, hs, hdone⟩ := run_last (w := { w.advance i .look
        (.pollWait a mbox (w.clock + wait)) with clock := w.clock + max 0 wait }) hlast
      exact ⟨_, w', ((run_section hstep).trans htick).trans hrun, hs, hdone⟩

/-- A call that runs alone from its start comes to its end, with the stores as its handler leaves
them. -/
theorem call_alone {call : Call} (hi : w.threads i = call.start) :
    ∃ tr w', (brokerLts cfg).Run (only i) w tr w'
      ∧ w'.stores = call.whole cfg w.clock w.stores ∧ ∃ ans, w'.threads i = .done ans := by
  have hend : ∀ {ans : Answer}, Goes cfg w.clock call.start w.stores (.done ans)
      (call.whole cfg w.clock w.stores) → ∃ tr w', (brokerLts cfg).Run (only i) w tr w'
        ∧ w'.stores = call.whole cfg w.clock w.stores ∧ ∃ ans, w'.threads i = .done ans := by
    intro ans h
    obtain ⟨tr, w', hrun, -, hs, ht⟩ := h.run rfl rfl hi
    exact ⟨tr, w', hrun, hs, ans, ht⟩
  cases call with
  | register r => exact hend (goes_register r w.stores)
  | deregister a => exact hend (goes_deregister a w.stores)
  | send a m =>
    obtain ⟨ans, h⟩ := goes_send cfg w.clock a m w.stores
    exact hend h
  | poll a wait =>
    obtain ⟨tr, w', hrun, -, hs, ht⟩ := (goes_poll a wait w.stores).run rfl rfl hi
    obtain ⟨tr', w'', hrun', hs', hdone⟩ := run_pollEnter cfg ht
    exact ⟨_, w'', hrun.trans hrun', by rw [hs', hs, Call.whole], hdone⟩
  | sweep => exact hend (goes_sweep w.stores)

end AgentComm
