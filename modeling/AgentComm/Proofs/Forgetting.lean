import AgentComm.Proofs.Embedding
import AgentComm.Proofs.Eviction
import AgentComm.Proofs.Sweeping
import AgentComm.Transport.Routing

/-!
# An agent that falls silent

The broker hears of an agent when the agent registers or polls, and a sweep leaves only what it has
heard of lately. So whoever is listed has spoken lately, and an agent that falls silent is gone with
the first sweep after its TTL and its grace, for all who ask for it.
-/

namespace AgentComm

open Lib BrokeredRegistry

variable {P : Python} {cfg : ServerConfig} {env : Env} {req : Request} {p a : PyStr}
variable {s s' : Stores} {o : Outcome} {g c : ℚ} {as : List SerialAction} {act : SerialAction}
variable {before after : List SerialAction} {b : Broker} {w : Looping}

variable (P cfg p a) in
/-- A request under `p` by which the broker hears of an agent: a registration of it, or a poll. -/
def SpeaksIn (req : Request) : Prop :=
  (∃ raw data r, req.method = lit "POST" ∧ req.path = lit "/agents"
      ∧ readBody P cfg req = .text raw ∧ P.jsonLoads raw = .ok (.obj data)
      ∧ validateRegisterPayload data p = .ok r ∧ r.agentId = a)
    ∨ ∃ query, req.method = lit "GET" ∧ Url.urlsplit P req.path = .ok (defaultMessagePath, query)
      ∧ pollId P p query = a

variable (P cfg a) in
/-- The broker is sent such a request, and lets it in. -/
def Speaks (b : Broker) : SerialAction → Prop
  | .request env req => ∃ p, credentials P cfg req = some (.agent p)
      ∧ LetIn cfg b.rateBuckets [(p, env)] ∧ SpeaksIn P cfg p a req
  | .sweep _ => False

namespace Entry

/-- What a sweep looks at. -/
def lease (x : Entry) : Option Endpoint × Option ℚ × Option ℤ := (x.endpoint, x.heartbeat, x.ttl)

/-- How long an agent may be silent. -/
def patience (g : ℚ) (e : Endpoint) (ttl : ℤ) : ℚ := max 0 (ttl + if e.mailbox then g else 0)

theorem lease_eq {x y : Entry} (h : x.lease = y.lease) :
    x.endpoint = y.endpoint ∧ x.heartbeat = y.heartbeat ∧ x.ttl = y.ttl := by
  simpa [lease] using h

end Entry

theorem lease_takeAll (s : Stores) (a b : PyStr) :
    ((s.takeAll b).entry a).lease = (s.entry a).lease := by
  rw [entry_takeAll]
  split_ifs <;> rfl

/-- What a poll does to what a sweep looks at. -/
theorem lease_polled (s : Stores) (t : ℚ) (a b : PyStr) :
    (((s.pollHeartbeat b t).takeAll b).entry a).lease = (s.entry a).lease
      ∨ b = a ∧ (((s.pollHeartbeat b t).takeAll b).entry a).heartbeat = some t := by
  have hlease := lease_takeAll (s.pollHeartbeat b t) a b
  rw [Stores.entry_pollHeartbeat] at hlease
  split_ifs at hlease with hba
  · exact .inr ⟨hba.1, (Entry.lease_eq hlease).2.1⟩
  · exact .inl hlease

/-- A request leaves what a sweep looks at of an agent, takes the agent out, or is heard of it. -/
theorem Effect.lease_cases (h : Effect P cfg env req p s o s') (a : PyStr) :
    (s'.entry a).lease = (s.entry a).lease ∨ s'.entry a = .blank
      ∨ SpeaksIn P cfg p a req ∧ ∃ t, (t = env.monotonic.register ∨ t = env.monotonic.heartbeat)
        ∧ (s'.entry a).heartbeat = some t := by
  cases h with
  | refused | raised | read | routed => exact .inl rfl
  | enqueued =>
    rw [Stores.entry_enqueue]
    split_ifs <;> exact .inl rfl
  | registered hm hp hraw hdata hr =>
    rw [entry_registerStores]
    split_ifs with hra
    · exact .inr (.inr ⟨.inl ⟨_, _, _, hm, hp, hraw, hdata, hr, hra⟩, _, .inl rfl, rfl⟩)
    · exact .inl rfl
  | removed =>
    rw [entry_removeStores]
    split_ifs
    · exact .inr (.inl rfl)
    · exact .inl rfl
  | @polled _ _ b hm hp hb =>
    rcases lease_polled s env.monotonic.heartbeat a b with hlease | ⟨rfl, hbeat⟩
    · exact .inl hlease
    · exact .inr (.inr ⟨.inr ⟨_, hm, hp, hb.symm⟩, _, .inr rfl, hbeat⟩)
  | @autoRegistered _ _ b hm hp hb =>
    rcases lease_polled (autoRegisterStores cfg env.monotonic.register b s)
      env.monotonic.heartbeat a b with hlease | ⟨rfl, hbeat⟩
    · rw [entry_autoRegisterStores] at hlease
      split_ifs at hlease with hba
      · exact .inr (.inr ⟨.inr ⟨_, hm, hp, hb.symm.trans hba⟩, _, .inl rfl,
          (Entry.lease_eq hlease).2.1⟩)
      · exact .inl hlease
    · exact .inr (.inr ⟨.inr ⟨_, hm, hp, hb.symm⟩, _, .inr rfl, hbeat⟩)
  | halfPolled hm hp hb =>
    rw [entry_autoRegisterStores]
    split_ifs with hba
    · exact .inr (.inr ⟨.inr ⟨_, hm, hp, hb.symm.trans hba⟩, _, .inl rfl, rfl⟩)
    · exact .inl rfl

variable (P cfg) in
theorem handle_lease (env : Env) (req : Request) (b : Broker) (a : PyStr) :
    ((handle P cfg env req b).2.stores.entry a).lease = (b.stores.entry a).lease
      ∨ (handle P cfg env req b).2.stores.entry a = .blank
      ∨ Speaks P cfg a b (.request env req)
        ∧ ∃ t, (t = env.monotonic.register ∨ t = env.monotonic.heartbeat)
          ∧ ((handle P cfg env req b).2.stores.entry a).heartbeat = some t := by
  rcases handle_letIn_or P cfg env b req with ⟨p, hc, hin, heffect⟩ | hsame
  · rcases heffect.lease_cases a with hkeep | hgone | ⟨hspeaks, hbeat⟩
    · exact .inl hkeep
    · exact .inr (.inl hgone)
    · exact .inr (.inr ⟨⟨p, hc, hin, hspeaks⟩, hbeat⟩)
  · rw [hsame]
    exact .inl rfl

/-! ### Runs -/

theorem lastSwept_append (es es' : List Shown) :
    lastSwept c (es ++ es') = lastSwept (lastSwept c es) es' := List.foldl_append

variable (P cfg) in
theorem lastSwept_le (h : Clocked c as) :
    lastSwept c ((looping P cfg).output .init as) ≤ lastReading c as := by
  induction as using List.reverseRecOn with
  | nil => exact le_refl c
  | append_singleton as act ih =>
    obtain ⟨has, hle, hact, -⟩ := clocked_append.1 h
    have hswept := (ih has).trans (hle.trans hact)
    rw [lastReading_snoc, Mealy.output_snoc, lastSwept_append]
    generalize (looping P cfg).after .init as = w
    rcases act with ⟨env, req⟩ | now
    · exact hswept
    · simp only [looping]
      split_ifs
      · rcases (trySweepOnce cfg now w.broker.stores).2 with _ | e
        · exact le_refl now
        · exact hswept
      · exact hswept

variable (P cfg a) in
/-- The agent is heard of at `t`. -/
def HeardAt (as : List SerialAction) (t : ℚ) : Prop :=
  ∃ l act r, as = l ++ act :: r ∧ Speaks P cfg a ((looping P cfg).after .init l).broker act
    ∧ (t = act.readings.1 ∨ t = act.readings.2)

variable (P cfg g a) in
/-- The agent is heard of when its entry says, and it was not overdue at the last sweep. -/
def Recent (as : List SerialAction) (swept : ℚ) (x : Entry) : Prop :=
  ∀ t, x.heartbeat = some t → HeardAt P cfg a as t
    ∧ ∀ e ttl, x.endpoint = some e → x.ttl = some ttl → 0 < ttl → swept ≤ t + Entry.patience g e ttl

theorem Entry.patience_nonneg (g : ℚ) (e : Endpoint) (ttl : ℤ) : 0 ≤ Entry.patience g e ttl :=
  le_max_left _ _

theorem HeardAt.snoc {t : ℚ} (h : HeardAt P cfg a as t) (act : SerialAction) :
    HeardAt P cfg a (as ++ [act]) t := by
  obtain ⟨l, act', r, rfl, hspeaks⟩ := h
  exact ⟨l, act', r ++ [act], by simp, hspeaks⟩

namespace Recent

variable {x y : Entry} {swept : ℚ}

theorem blank : Recent P cfg a g as swept .blank := by
  rintro t ⟨⟩

/-- What a sweep looks at has stayed as it was. -/
theorem keep (h : Recent P cfg a g as swept x) (act : SerialAction) (hxy : y.lease = x.lease) :
    Recent P cfg a g (as ++ [act]) swept y := by
  obtain ⟨hendpoint, hbeat, httl⟩ := Entry.lease_eq hxy
  intro t ht
  obtain ⟨hheard, hin⟩ := h t (hbeat ▸ ht)
  exact ⟨hheard.snoc act, fun e ttl he hl => hin e ttl (hendpoint ▸ he) (httl ▸ hl)⟩

/-- The agent has just been heard of. -/
theorem heard {t : ℚ} (hact : Speaks P cfg a ((looping P cfg).after .init as).broker act)
    (ht : t = act.readings.1 ∨ t = act.readings.2) (hx : x.heartbeat = some t)
    (hswept : swept ≤ t) :
    Recent P cfg a g (as ++ [act]) swept x := by
  intro t' ht'
  obtain rfl : t = t' := Option.some.inj (hx.symm.trans ht')
  refine ⟨⟨as, act, [], rfl, hact, ht⟩, ?_⟩
  intro e ttl _ _ _
  linarith [Entry.patience_nonneg g e ttl]

/-- A sweep has found the agent in time. -/
theorem sweep (h : Recent P cfg a g as swept x) {now : ℚ} (hx : ¬ x.Overdue g now) :
    Recent P cfg a g (as ++ [.sweep now]) now x := by
  intro t ht
  refine ⟨(h t ht).1.snoc _, fun e ttl he hl hpos => ?_⟩
  have hage : now - t ≤ ttl + if e.mailbox then g else 0 := by
    by_contra hlate
    exact hx ⟨e, t, ttl, he, ht, hl, hpos, not_le.1 hlate⟩
  have hpatience : (ttl + if e.mailbox then g else 0) ≤ Entry.patience g e ttl := le_max_right _ _
  linarith

end Recent

variable (cfg) in
/-- However a sweep ends, it takes an agent out or leaves all of it; and if it comes to its end,
none is left that is overdue. -/
theorem entry_trySweepOnce (hg : cfg.mailboxGraceSeconds.toRat? = some g) (now : ℚ) (s : Stores)
    (a : PyStr) : (trySweepOnce cfg now s).1.entry a = .blank
      ∨ (trySweepOnce cfg now s).1.entry a = s.entry a
        ∧ ((trySweepOnce cfg now s).2 = none → ¬ (s.entry a).Overdue g now) := by
  rcases hend : (trySweepOnce cfg now s).2 with _ | e
  · rw [trySweepOnce_ended hend]
    rcases entry_sweepOnce_cases hg s now a with ⟨-, hgone⟩ | ⟨hover, hsame⟩
    · exact .inl hgone
    · exact .inr ⟨hsame, fun _ => hover⟩
  · exact (sweepEndpoints_entry a).imp id fun hsame => ⟨hsame, fun h => by cases h⟩

/-- In every run every agent was heard of when its entry says, and was not overdue at the last
sweep that came to its end. -/
theorem recent_after (hg : cfg.mailboxGraceSeconds.toRat? = some g) (h : Clocked c as)
    (a : PyStr) : Recent P cfg a g as (lastSwept c ((looping P cfg).output .init as))
      (((looping P cfg).after .init as).broker.stores.entry a) := by
  induction as using List.reverseRecOn with
  | nil => exact .blank
  | append_singleton as act ih =>
    obtain ⟨has, hle, hact, -⟩ := clocked_append.1 h
    have hswept := lastSwept_le P cfg has
    have hrecent := ih has
    rw [Mealy.after_snoc, Mealy.output_snoc, lastSwept_append]
    generalize lastSwept c ((looping P cfg).output .init as) = swept at hswept hrecent
    generalize hw : (looping P cfg).after .init as = w at hrecent
    rcases act with ⟨env, req⟩ | now
    · change Recent P cfg a g _ swept ((handle P cfg env req w.broker).2.stores.entry a)
      rcases handle_lease P cfg env req w.broker a with hkeep | hgone | ⟨hspeaks, t, ht, hx⟩
      · exact hrecent.keep _ hkeep
      · rw [hgone]
        exact .blank
      · refine .heard (hw ▸ hspeaks) ht hx (hswept.trans (hle.trans ?_))
        rcases ht with rfl | rfl
        · exact le_refl _
        · exact hact
    · simp only [looping]
      split_ifs
      · change Recent P cfg a g _ _ ((trySweepOnce cfg now w.broker.stores).1.entry a)
        rcases entry_trySweepOnce cfg hg now w.broker.stores a with hgone | ⟨hsame, hover⟩
        · rw [hgone]
          exact .blank
        · rw [hsame]
          rcases hend : (trySweepOnce cfg now w.broker.stores).2 with _ | e
          · exact hrecent.sweep (hover hend)
          · exact hrecent.keep _ rfl
      · exact hrecent.keep _ rfl

/-! ### Who is found -/

/-- An agent that is there has an endpoint, a heartbeat and a TTL. -/
theorem Stores.Aligned.lease (hs : s.Aligned) (h : (s.registry.get? a).isSome) :
    ∃ e t ttl, (s.entry a).lease = (some e, some t, some ttl) := by
  obtain ⟨e, he⟩ := Option.isSome_iff_exists.1 h
  obtain ⟨t, ht⟩ := Option.isSome_iff_exists.1 ((hs.heartbeat a).2 h)
  obtain ⟨ttl, httl⟩ := Option.isSome_iff_exists.1 ((hs.ttl a).2 h)
  refine ⟨e, t, ttl, ?_⟩
  simp only [Entry.lease, Stores.entry, he, ht, httl]

theorem Stores.Aligned.blank (hs : s.Aligned) (h : s.registry.get? a = none) :
    s.entry a = .blank := by
  have hnone : ¬ (s.registry.get? a).isSome := by simp [h]
  have hcaps := mt (hs.capabilities a).1 hnone
  have hbeat := mt (hs.heartbeat a).1 hnone
  have httl := mt (hs.ttl a).1 hnone
  have hqueue : ¬ (s.mailboxes.queue a).isSome := by
    rw [Deques.queue_isSome]
    exact mt (hs.queue a) hnone
  simp only [Option.not_isSome_iff_eq_none] at hcaps hbeat httl hqueue
  simp only [Stores.entry, h, hcaps, hbeat, httl, hqueue, Entry.blank]

variable (P cfg as) in
/-- Whoever a client finds has registered or polled, and when it last did so it was within its TTL
and its grace of the last sweep that came to its end. -/
theorem found_recently (hg : cfg.mailboxGraceSeconds.toRat? = some g) (h : Clocked c as)
    {token : Option PyStr}
    (hlist : ListsTo P cfg env ((looping P cfg).after .init as).broker p token) (port : ℤ) :
    ∃ infos, Found P ((looping P cfg).after .init as).broker.stores port
        ((handle P cfg env (agentsRequest token)
          ((looping P cfg).after .init as).broker).1.httpAnswer P) infos
      ∧ ∀ i ∈ infos, ∃ e t ttl,
        (((looping P cfg).after .init as).broker.stores.entry i.agentId).lease
          = (some e, some t, some ttl)
        ∧ HeardAt P cfg i.agentId as t
        ∧ (0 < ttl →
          lastSwept c ((looping P cfg).output .init as) ≤ t + Entry.patience g e ttl) := by
  have haligned := looping_aligned P cfg as
  have hfound := hlist.found haligned port
  refine ⟨_, hfound, fun i hi => ?_⟩
  have hthere := (hfound.registered i.agentId).1 (List.mem_map_of_mem hi)
  obtain ⟨e, t, ttl, hlease⟩ := haligned.lease hthere
  have hrecent := recent_after (P := P) hg h i.agentId
  simp only [Entry.lease, Prod.mk.injEq] at hlease
  obtain ⟨hheard, hin⟩ := hrecent t hlease.2.1
  exact ⟨e, t, ttl, by simp only [Entry.lease, hlease], hheard, hin e ttl hlease.1 hlease.2.2⟩

/-- The mailbox agent `b` registers and polls. -/
def registerThenPoll : List SerialAction :=
  [.request downEnv boxRegister, .request downEnv boxPoll]

theorem found_recently_box : ∃ infos,
    Found foundPython boxBroker.stores 8000
        ((handle foundPython .defaults downEnv (agentsRequest none) boxBroker).1.httpAnswer
          foundPython) infos
      ∧ ∀ i ∈ infos, ∃ e t ttl,
        (boxBroker.stores.entry i.agentId).lease = (some e, some t, some ttl)
        ∧ HeardAt foundPython .defaults i.agentId registerThenPoll t
        ∧ (0 < ttl → lastSwept 0 ((looping foundPython .defaults).output .init registerThenPoll)
          ≤ t + Entry.patience 30 e ttl) := by
  have hbox : ((looping foundPython .defaults).after .init registerThenPoll).broker
      = boxBroker := by
    simp only [registerThenPoll, Mealy.after_cons, Mealy.after_nil, looping, boxBroker,
      registeredBroker, Looping.init]
  have hfound := found_recently foundPython .defaults registerThenPoll (g := 30) (c := 0) rfl
    ⟨le_rfl, le_rfl, le_rfl, le_rfl, trivial⟩ (hbox.symm ▸ box_lists) 8000
  rwa [hbox] at hfound

/-! ### Silence -/

variable (P cfg) in
/-- What a sweep looks at stays as it is, or goes, while the agent is silent. -/
theorem lease_silent : ∀ (as : List SerialAction) (w : Looping),
    (∀ l act r, as = l ++ act :: r → ¬ Speaks P cfg a ((looping P cfg).after w l).broker act) →
    (((looping P cfg).after w as).broker.stores.entry a).lease = (w.broker.stores.entry a).lease
      ∨ (((looping P cfg).after w as).broker.stores.entry a).lease = Entry.blank.lease
  | [], _, _ => .inl rfl
  | act :: as, w, h => by
    have hstep : (((looping P cfg).step w act).1.broker.stores.entry a).lease
          = (w.broker.stores.entry a).lease
        ∨ (((looping P cfg).step w act).1.broker.stores.entry a).lease = Entry.blank.lease := by
      rcases act with ⟨env, req⟩ | now
      · rcases handle_lease P cfg env req w.broker a with hkeep | hgone | ⟨hspeaks, -⟩
        · exact .inl hkeep
        · exact .inr (congrArg Entry.lease hgone)
        · exact absurd hspeaks (h [] _ as rfl)
      · simp only [looping]
        split_ifs
        · exact (sweepEndpoints_entry a).symm.imp (congrArg Entry.lease) (congrArg Entry.lease)
        · exact .inl rfl
    rcases lease_silent as ((looping P cfg).step w act).1
      fun l x r hx => h (act :: l) x r (by rw [hx, List.cons_append]) with hlease | hlease
    · rw [Mealy.after_cons, hlease]
      exact hstep
    · exact .inr hlease

theorem lastReading_ge : ∀ {as : List SerialAction} {c : ℚ}, Clocked c as → c ≤ lastReading c as
  | [], c, _ => le_refl c
  | _ :: _, _, ⟨hc, hact, has⟩ => hc.trans (hact.trans (lastReading_ge has))

theorem readings_le : ∀ {as : List SerialAction} {c : ℚ}, Clocked c as → ∀ act ∈ as,
    act.readings.1 ≤ lastReading c as ∧ act.readings.2 ≤ lastReading c as
  | _ :: as, c, ⟨_, hact, has⟩, act', hmem => by
    rcases List.mem_cons.1 hmem with rfl | hmem
    · have hlast := lastReading_ge has
      exact ⟨hact.trans hlast, hlast⟩
    · exact readings_le has act' hmem

variable (P cfg a) in
/-- The agent is gone from the broker, for those who list the agents and for those who send. -/
structure Forgotten (b : Broker) : Prop where
  blank : b.stores.entry a = .blank
  unfound : ∀ {env p token}, ListsTo P cfg env b p token → ∀ port, ∃ infos,
    Found P b.stores port ((handle P cfg env (agentsRequest token) b).1.httpAnswer P) infos
      ∧ a ∉ infos.map AgentInfo.agentId
  unrouted : ∀ {env p token}, ListsTo P cfg env b p token → ∀ port policy timeout network m,
    m.metadata.recipient = .str a → ∃ e, e.kind = .agentNotFoundError
      ∧ Router.routeBrokered P port policy timeout
        ((handle P cfg env (agentsRequest token) b).1.httpAnswer P) network m = ⟨.error e, []⟩

theorem Forgotten.of_unregistered {b : Broker} (hs : b.stores.Aligned)
    (h : b.stores.registry.get? a = none) : Forgotten P cfg a b := by
  have hnone : ¬ (b.stores.registry.get? a).isSome := by simp [h]
  refine ⟨hs.blank h, fun hlist port => ?_, ?_⟩
  · have hfound := hlist.found hs port
    exact ⟨_, hfound, fun ha => hnone ((hfound.registered a).1 ha)⟩
  · intro env p token hlist port policy timeout network m hto
    have hfound := hlist.found hs port
    have hlookup := hfound.lookedUp a
    rw [if_neg fun ha => hnone ((hfound.registered a).1 ha)] at hlookup
    unfold Router.routeBrokered
    split_ifs
    · exact ⟨_, rfl, rfl⟩
    · rw [hto, hlookup]
      exact ⟨_, rfl, rfl⟩

variable (before after) in
/-- An agent with a TTL that falls silent is forgotten with the first sweep that comes to its end
and is later than its TTL and its grace. -/
theorem silent_forgotten (hg : cfg.mailboxGraceSeconds.toRat? = some g)
    (h : Clocked c (before ++ after))
    (hsilent : ∀ l act r, after = l ++ act :: r →
      ¬ Speaks P cfg a ((looping P cfg).after .init (before ++ l)).broker act)
    (hlate : ∀ e ttl,
      (((looping P cfg).after .init before).broker.stores.entry a).endpoint = some e →
      (((looping P cfg).after .init before).broker.stores.entry a).ttl = some ttl →
      0 < ttl ∧ lastReading c before + Entry.patience g e ttl
        < lastSwept c ((looping P cfg).output .init (before ++ after))) :
    Forgotten P cfg a ((looping P cfg).after .init (before ++ after)).broker := by
  have haligned := looping_aligned P cfg (before ++ after)
  refine .of_unregistered haligned (Option.not_isSome_iff_eq_none.1 fun hthere => ?_)
  obtain ⟨e, t, ttl, hlease⟩ := haligned.lease hthere
  have hentry := lease_silent P cfg after ((looping P cfg).after .init before)
    fun l act r hl => Mealy.after_append _ _ before l ▸ hsilent l act r hl
  rw [← Mealy.after_append, hlease] at hentry
  rcases hentry with hsame | hblank
  · simp only [Entry.lease, Prod.mk.injEq] at hsame hlease
    obtain ⟨hpos, hlt⟩ := hlate e ttl hsame.1.symm hsame.2.2.symm
    obtain ⟨⟨l, act, r, hl, hspeaks, hact⟩, hin⟩ := recent_after (P := P) hg h a t hlease.2.1
    have hbefore : act ∈ before := by
      rcases List.append_eq_append_iff.1 hl with ⟨l', rfl, hafter⟩ | ⟨l', rfl, hbefore⟩
      · exact absurd hspeaks (hsilent l' act r hafter)
      · rcases l' with _ | ⟨act', l'⟩
        · exact absurd hspeaks (by simpa using hsilent [] act r (by simpa using hbefore.symm))
        · obtain ⟨rfl, -⟩ := List.cons.inj hbefore
          simp
    have hreading := readings_le (clocked_append.1 h).1 act hbefore
    have ht : t ≤ lastReading c before := by
      rcases hact with rfl | rfl
      · exact hreading.1
      · exact hreading.2
    linarith [hin e ttl hlease.1 hlease.2.2 hpos]
  · cases hblank

theorem looping_boxRegister :
    (looping foundPython .defaults).after .init [.request downEnv boxRegister]
      = ⟨registeredBroker, true⟩ := by
  simp only [Mealy.after_cons, Mealy.after_nil, looping, registeredBroker, Looping.init]

/-- `b` registers, and is gone with a sweep after its minute and its grace. -/
theorem silent_forgotten_box : Forgotten foundPython .defaults (lit "b")
    ((looping foundPython .defaults).after .init
      ([.request downEnv boxRegister] ++ [.sweep 100])).broker := by
  have hlate : (0 : ℚ) ≤ 100 := by norm_num
  have hendpoint : registeredBroker.stores.registry.get? (lit "b") = some boxEndpoint := by
    decide +kernel
  have httl : registeredBroker.stores.ttlSeconds.get? (lit "b") = some 60 := by decide +kernel
  have hends : (trySweepOnce .defaults 100 registeredBroker.stores).2.isNone = true := by
    decide +kernel
  have hswept : lastSwept 0 ((looping foundPython .defaults).output .init
      ([.request downEnv boxRegister] ++ [.sweep 100])) = 100 := by
    rw [Mealy.output_snoc, looping_boxRegister, lastSwept_append]
    simp only [looping, if_true, Option.isNone_iff_eq_none.1 hends]
    rfl
  refine silent_forgotten [.request downEnv boxRegister] [.sweep 100] (g := 30) (c := 0) rfl
    ⟨le_rfl, le_rfl, hlate, le_rfl, trivial⟩ ?_ fun e ttl he hl => ?_
  · intro l act r hl hspeaks
    rcases List.singleton_eq_append_iff.1 hl with ⟨-, hact⟩ | ⟨-, hact⟩
    · obtain ⟨rfl, -⟩ := List.cons.inj hact
      exact hspeaks
    · cases hact
  · simp only [looping_boxRegister, Stores.entry, hendpoint, httl, Option.some.injEq] at he hl
    subst he hl
    refine ⟨by norm_num, ?_⟩
    have hpatience : Entry.patience 30 boxEndpoint 60 = 90 := by
      norm_num [Entry.patience, boxEndpoint]
    rw [hpatience, hswept, ← List.nil_append [SerialAction.request _ _], lastReading_snoc]
    change (0 : ℚ) + 90 < 100
    norm_num

end AgentComm
