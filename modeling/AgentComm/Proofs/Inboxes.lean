import AgentComm.Proofs.Authentication
import AgentComm.Proofs.Modes
import AgentComm.Proofs.Serving

/-!
# What mailboxes hold

Whatever requests and sweeps a broker has met, the texts that wait in a mailbox are the encodings of
messages to the agent they wait for, each posted by a request of its own, in the order of the
requests. So a poll brings the messages themselves, and none of them is lost with a malformed one.
-/

namespace AgentComm

open Lib

variable {P : Python} {cfg : ServerConfig} {a : PyStr}

variable (P cfg a) in
/-- Input `i` is a request that is let in under some id and posts the message for `a`, in that id's
name if it is not empty. -/
structure Posted (as : List SerialAction) (i : ℕ) (m : Message) : Prop where
  request : ∃ env req p raw, as[i]? = some (.request env req) ∧ req.method = lit "POST"
    ∧ req.path = defaultMessagePath ∧ credentials P cfg req = some (.agent p)
    ∧ LetIn cfg ((serving P cfg).after Broker.init (as.take i)).rateBuckets [(p, env)]
    ∧ readBody P cfg req = .text raw ∧ deserialize P raw = .ok m
    ∧ (p ≠ [] → m.metadata.sender = .str p)
  recipient : m.metadata.recipient = .str a

/-- The texts that wait for an agent. -/
def Stores.waiting (s : Stores) (a : PyStr) : List PyStr := (s.entry a).queue.getD []

/-- A request leaves what waits for an agent, takes all of it, or adds a message in the name of the
poster. -/
theorem Effect.waiting_cases {env : Env} {req : Request} {p : PyStr} {s s' : Stores} {o : Outcome}
    (h : Effect P cfg env req p s o s') :
    s'.waiting a = s.waiting a ∨ s'.waiting a = []
    ∨ ∃ m raw, s'.waiting a = s.waiting a ++ [serialize P m] ∧ req.method = lit "POST"
      ∧ req.path = defaultMessagePath ∧ readBody P cfg req = .text raw
      ∧ deserialize P raw = .ok m ∧ (p ≠ [] → m.metadata.sender = .str p)
      ∧ m.metadata.recipient = .str a := by
  have htake : ∀ (s : Stores) (c : PyStr),
      (s.takeAll c).waiting a = s.waiting a ∨ (s.takeAll c).waiting a = [] := by
    intro s c
    unfold Stores.waiting
    rw [entry_takeAll]
    split_ifs
    · cases (s.entry a).queue <;> simp
    · exact .inl rfl
  have hbeat : ∀ (s : Stores) (c : PyStr) (now : ℚ),
      (s.pollHeartbeat c now).waiting a = s.waiting a := by
    intro s c now
    rw [Stores.waiting, Stores.entry_pollHeartbeat]
    split_ifs <;> rfl
  have hauto : ∀ (s : Stores) (c : PyStr) (now : ℚ),
      (autoRegisterStores cfg now c s).waiting a = s.waiting a := by
    intro s c now
    rw [Stores.waiting, entry_autoRegisterStores]
    split_ifs <;> rfl
  cases h with
  | refused | raised | read | routed => exact .inl rfl
  | @enqueued _ raw m c _ hm hp hraw hmsg hfrom hto =>
    by_cases hca : c = a
    · refine .inr (.inr ⟨m, raw, ?_, hm, hp, hraw, hmsg, hfrom, hca ▸ hto⟩)
      rw [Stores.waiting, Stores.entry_enqueue, if_pos hca]
      rfl
    · refine .inl ?_
      rw [Stores.waiting, Stores.entry_enqueue, if_neg hca]
      rfl
  | registered =>
    refine .inl ?_
    rw [Stores.waiting, entry_registerStores]
    split_ifs
    · simp only [Entry.register]
      split_ifs <;> rfl
    · rfl
  | removed =>
    rw [Stores.waiting, entry_removeStores]
    split_ifs
    · exact .inr (.inl rfl)
    · exact .inl rfl
  | polled => exact (htake _ _).imp (·.trans (hbeat _ _ _)) .inl
  | autoRegistered =>
    exact (htake _ _).imp (fun h => h.trans ((hbeat _ _ _).trans (hauto _ _ _))) .inl
  | halfPolled => exact .inl (hauto _ _ _)

/-- What a request adds to a mailbox is a message in the name of the poster. -/
theorem Effect.waiting {env : Env} {req : Request} {p : PyStr} {s s' : Stores} {o : Outcome}
    {text : PyStr} (h : Effect P cfg env req p s o s') (htext : text ∈ s'.waiting a) :
    text ∈ s.waiting a ∨ ∃ m, text = serialize P m ∧ (p ≠ [] → m.metadata.sender = .str p) := by
  rcases h.waiting_cases (a := a) with hsame | hnone | ⟨m, raw, hadded, -, -, -, -, hfrom, -⟩
  · exact .inl (hsame ▸ htext)
  · simp [hnone] at htext
  · rw [hadded, List.mem_append, List.mem_singleton] at htext
    exact htext.imp_right fun htext => ⟨m, htext, hfrom⟩

variable (cfg) in
theorem waiting_sweepOnce (now : ℚ) (s : Stores) :
    (sweepOnce cfg now s).waiting a = s.waiting a ∨ (sweepOnce cfg now s).waiting a = [] := by
  rcases entry_sweepOnce_or cfg now s a with hentry | hentry <;> unfold Stores.waiting <;>
    rw [hentry]
  · exact .inr rfl
  · exact .inl rfl

/-! ### Where mail comes from -/

variable (P cfg a) in
/-- These inputs, in order, posted what waits for the agent. -/
structure Arrivals (as : List SerialAction) (s : Stores) (posts : List (ℕ × Message)) : Prop where
  ordered : posts.Pairwise fun x y => x.1 < y.1
  posted : ∀ x ∈ posts, Posted P cfg a as x.1 x.2
  texts : s.waiting a = posts.map fun x => serialize P x.2

theorem Posted.lt {as : List SerialAction} {i : ℕ} {m : Message} (h : Posted P cfg a as i m) :
    i < as.length := by
  obtain ⟨env, req, p, raw, hi, -⟩ := h.request
  exact (List.getElem?_eq_some_iff.1 hi).1

theorem Posted.snoc {as : List SerialAction} {i : ℕ} {m : Message} (h : Posted P cfg a as i m)
    (act : SerialAction) : Posted P cfg a (as ++ [act]) i m := by
  obtain ⟨env, req, p, raw, hi, hrest⟩ := h.request
  have htake : as.take i = (as ++ [act]).take i := (List.take_append_of_le_length h.lt.le).symm
  rw [htake] at hrest
  refine ⟨⟨env, req, p, raw, ?_, hrest⟩, h.recipient⟩
  rw [List.getElem?_append_left h.lt, hi]

theorem Arrivals.empty (as : List SerialAction) {s : Stores} (h : s.waiting a = []) :
    Arrivals P cfg a as s [] :=
  ⟨.nil, by simp, h⟩

theorem Arrivals.same {as : List SerialAction} {s s' : Stores} {posts : List (ℕ × Message)}
    (h : Arrivals P cfg a as s posts) (act : SerialAction) (hs : s'.waiting a = s.waiting a) :
    Arrivals P cfg a (as ++ [act]) s' posts :=
  ⟨h.ordered, fun x hx => (h.posted x hx).snoc act, hs.trans h.texts⟩

/-- A post comes after all that is there. -/
theorem Arrivals.post {as : List SerialAction} {s s' : Stores} {posts : List (ℕ × Message)}
    {act : SerialAction} {m : Message} (h : Arrivals P cfg a as s posts)
    (hm : Posted P cfg a (as ++ [act]) as.length m)
    (hs : s'.waiting a = s.waiting a ++ [serialize P m]) :
    Arrivals P cfg a (as ++ [act]) s' (posts ++ [(as.length, m)]) where
  ordered := by
    rw [List.pairwise_append]
    refine ⟨h.ordered, List.pairwise_singleton _ _, fun x hx y hy => ?_⟩
    rw [List.mem_singleton.1 hy]
    exact (h.posted x hx).lt
  posted x hx := by
    rcases List.mem_append.1 hx with hx | hx
    · exact (h.posted x hx).snoc act
    · exact List.mem_singleton.1 hx ▸ hm
  texts := by simp [hs, h.texts]

variable (P cfg a) in
/-- What one input does to the mailbox. -/
theorem Arrivals.step {as : List SerialAction} {b : Broker} {posts : List (ℕ × Message)}
    (hb : (serving P cfg).after Broker.init as = b) (h : Arrivals P cfg a as b.stores posts)
    (act : SerialAction) :
    ∃ posts', Arrivals P cfg a (as ++ [act]) ((serving P cfg).step b act).1.stores posts' := by
  cases act with
  | sweep now =>
    rcases waiting_sweepOnce cfg (a := a) now b.stores with hsame | hnone
    · exact ⟨posts, h.same _ hsame⟩
    · exact ⟨[], .empty _ hnone⟩
  | request env req =>
    rcases handle_letIn_or P cfg env b req with ⟨p, hc, hin, heffect⟩ | hunchanged
    · rcases heffect.waiting_cases (a := a) with
        hsame | hnone | ⟨m, raw, hadded, hm, hp, hraw, hmsg, hfrom, hto⟩
      · exact ⟨posts, h.same _ hsame⟩
      · exact ⟨[], .empty _ hnone⟩
      · have htake : as = (as ++ [SerialAction.request env req]).take as.length :=
          List.take_left.symm
        rw [← hb, htake] at hin
        refine ⟨_, h.post ⟨⟨env, req, p, raw, ?_, hm, hp, hc, hin, hraw, hmsg, hfrom⟩, hto⟩ hadded⟩
        simp
    · refine ⟨posts, h.same _ ?_⟩
      change (handle P cfg env req b).2.stores.waiting a = b.stores.waiting a
      rw [hunchanged]

variable (P cfg a) in
/-- All that waits for an agent was posted for it in the run, in this order. -/
theorem exists_arrivals (as : List SerialAction) :
    ∃ posts, Arrivals P cfg a as ((serving P cfg).after Broker.init as).stores posts := by
  induction as using List.reverseRecOn with
  | nil => exact ⟨[], .empty _ rfl⟩
  | append_singleton as act ih =>
    obtain ⟨posts, hposts⟩ := ih
    rw [Mealy.after_snoc]
    exact hposts.step P cfg a rfl act

/-! ### Polls -/

/-- What is decoded passes its own checks. -/
theorem validate_of_decoded {raw : PyStr} {m : Message} (h : deserialize P raw = .ok m) :
    validate P m = .ok () := by
  rcases hloads : P.jsonLoads raw with e | v
  · simp only [deserialize, hloads] at h
    split_ifs at h
  by_cases hobj : ∃ data, v = .obj data
  · obtain ⟨data, rfl⟩ := hobj
    rcases hvalid : validateDict P data with e | _
    · rw [deserialize_obj hloads, fromDict, hvalid] at h
      cases h
    · rcases deserialize_cases hloads hvalid with ⟨e, -, hraise⟩ | ⟨t, d, ht, -, hdecode, hholds⟩
      · rw [hraise] at h
        cases h
      · obtain rfl := Except.ok.inj (hdecode.symm.trans h)
        exact (hholds.validate_eq ht).trans (validateFields_of_dict hvalid)
  · rw [deserialize, hloads] at h
    cases v
    case obj kvs => exact absurd ⟨kvs, rfl⟩ hobj
    all_goals cases h

theorem deserializeAll_serialized : ∀ {ms : List Message},
    (∀ m ∈ ms, deserialize P (serialize P m) = .ok (wired P m)) →
    NetworkedBrokerTransport.deserializeAll P ((ms.map (serialize P)).map .str)
      = .ok (ms.map (wired P))
  | [], _ => rfl
  | m :: ms, h => by
    have hrest := deserializeAll_serialized fun m' hm' => h m' (List.mem_cons_of_mem m hm')
    simp only [List.map_cons, NetworkedBrokerTransport.deserializeAll, deserializeValue,
      h m List.mem_cons_self, hrest]
    rfl

/-- After any run a poll that is let in delivers the messages that wait for the agent, each as it
was read from its poster, in the order in which requests of the run posted them, and leaves none. -/
theorem inbox_round_trip {clients : Clients} {env : Env} {as : List SerialAction} {b : Broker}
    {texts : List PyStr} (has : (serving P cfg).after Broker.init as = b)
    (h : Polls P cfg clients env a b) (hq : (b.stores.entry a).queue = some texts)
    (hread : ∀ i m, Posted P cfg a as i m → serialize P m ∈ texts →
      Conveys P (.obj (toDict P m)))
    (hbody : Conveys P (.obj [(lit "messages", .arr (texts.map .str))])) :
    ∃ posts, Arrivals P cfg a as b.stores posts ∧ texts = posts.map (fun x => serialize P x.2)
      ∧ polled P (brokerPoll P cfg clients env a b).1 = posts.map (fun x => wired P x.2)
      ∧ ((brokerPoll P cfg clients env a b).2.stores.entry a).queue = some [] := by
  obtain ⟨posts, hposts⟩ := exists_arrivals P cfg a as
  rw [has] at hposts
  have htexts : texts = posts.map fun x => serialize P x.2 := by
    rw [← hposts.texts, Stores.waiting, hq]
    rfl
  obtain ⟨hanswer, hstores⟩ := brokerPoll_texts h hq
  refine ⟨posts, hposts, htexts, ?_, ?_⟩
  · have hmessages : texts = (posts.map Prod.snd).map (serialize P) := by
      rw [htexts, List.map_map]
      rfl
    rw [hanswer, polled_texts hbody, hmessages, deserializeAll_serialized]
    · simp [Except.toOption]
    · intro m hm
      obtain ⟨x, hx, rfl⟩ := List.mem_map.1 hm
      obtain ⟨env, req, p, raw, -, -, -, -, -, -, hraw, -⟩ := (hposts.posted x hx).request
      refine deserialize_valid (hread x.1 x.2 (hposts.posted x hx) ?_) (validate_of_decoded hraw)
      rw [hmessages]
      exact List.mem_map_of_mem hm
  · rw [hstores, entry_takeAll, if_pos rfl, Stores.entry_pollHeartbeat]
    split_ifs <;> simp [hq]

/-- Agent `b` registers a mailbox. -/
def boxPayload : Json := .obj [(lit "agent_id", .str (lit "b")), (lit "mailbox", .bool true)]

def letterValues : List Json :=
  [boxPayload, .obj (toDict (plainPython []) called),
    .obj [(lit "messages", .arr [.str (serialize (plainPython []) called)])]]

def letterPython : Python := asciiPython (letterValues.map fun v => (jsonText v, v))

/-- `b` registers, and `called` is sent to it. -/
def letterRun : List SerialAction :=
  [.request downEnv (postJson (lit "/agents") boxPayload),
    .request downEnv (postJson (lit "/messages") (.obj (toDict (plainPython []) called)))]

theorem letter_waits :
    (((serving letterPython .defaults).after Broker.init letterRun).stores.entry (lit "b")).queue
      = some [serialize letterPython called] := by
  decide +kernel

theorem letter_only {raw : PyStr} {m : Message} (h : deserialize letterPython raw = .ok m) :
    m = called := by
  rcases hget : Pairs.get? raw (letterValues.map fun v => (jsonText v, v)) with _ | v
  · have hloads : letterPython.jsonLoads raw
        = .error ⟨.jsonDecodeError, lit "Expecting value: line 1 column 1 (char 0)"⟩ := by
      simp only [letterPython, asciiPython, plainPython, hget]
    simp [deserialize, hloads] at h
  · obtain ⟨w, hw, heq⟩ := List.mem_map.1 (Pairs.mem_of_get? hget)
    simp only [Prod.mk.injEq] at heq
    obtain ⟨rfl, rfl⟩ := heq
    have hloads : letterPython.jsonLoads (jsonText w) = .ok w := by
      simp only [letterPython, asciiPython, plainPython, hget]
    simp only [letterValues, List.mem_cons, List.not_mem_nil, or_false] at hw
    rcases hw with rfl | rfl | rfl
    · simp only [deserialize, hloads] at h
      cases h
    · have hcalled : fromDict letterPython (toDict (plainPython []) called) = .ok called := rfl
      rw [deserialize_obj hloads, hcalled] at h
      exact (Except.ok.inj h).symm
    · simp only [deserialize, hloads] at h
      cases h

theorem letter_conveys {v : Json} (hv : v ∈ letterValues) : Conveys letterPython v :=
  asciiPython_conveys hv (by decide +kernel) (by decide +kernel)

theorem inbox_round_trip_called : ∃ posts,
    Arrivals letterPython .defaults (lit "b") letterRun
        ((serving letterPython .defaults).after Broker.init letterRun).stores posts
      ∧ [serialize letterPython called] = posts.map (fun x => serialize letterPython x.2)
      ∧ polled letterPython (brokerPoll letterPython .defaults callClients downEnv (lit "b")
          ((serving letterPython .defaults).after Broker.init letterRun)).1
        = posts.map (fun x => wired letterPython x.2)
      ∧ ((brokerPoll letterPython .defaults callClients downEnv (lit "b")
          ((serving letterPython .defaults).after Broker.init letterRun)).2.stores.entry
            (lit "b")).queue = some [] := by
  have hknown : Known letterPython .defaults callClients (lit "b") [] :=
    callKnown rfl (by decide) (by unfold Visible; decide) (by decide)
  refine inbox_round_trip rfl ⟨⟨[], hknown, letIn_of_off (by decide) _⟩, by decide, by decide⟩
    letter_waits (fun i m hm _ => ?_) (letter_conveys (.tail _ (.tail _ (.head _))))
  obtain ⟨-, -, -, raw, -, -, -, -, -, -, hraw, -⟩ := hm.request
  obtain rfl := letter_only hraw
  exact letter_conveys (.tail _ (.head _))

end AgentComm
