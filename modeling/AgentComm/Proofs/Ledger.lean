import AgentComm.Proofs.Answers
import AgentComm.Proofs.Takeover

/-!
# The audit log as a ledger of members

Played back in order, the audit records of registrations and removals give the agents on the
registry, for as long as no sweep evicts anyone, which leaves no record, and nobody registers under
an id that an audit line cannot hold.
-/

namespace AgentComm

open Lib

/-- What an audit record makes of the members before it. -/
def AuditRecord.replay (M : PyStr → Bool) (r : AuditRecord) : PyStr → Bool :=
  if (r.action = lit "register" ∧ (r.status = 200 ∨ r.status = 201))
      ∨ r.action = lit "auto-register" then Function.update M r.agentId true
  else if r.action = lit "deregister" ∧ r.status = 204 then Function.update M r.agentId false
  else M

/-- The members an audit log accounts for. -/
def audited (log : List AuditRecord) : PyStr → Bool := log.foldl AuditRecord.replay fun _ => false

/-- The agents on the registry. -/
def Broker.members (b : Broker) (a : PyStr) : Bool := (b.stores.entry a).endpoint.isSome

namespace AuditRecord

/-- What goes out of a record: the record, or nothing when writing it raises. -/
def written (r : AuditRecord) : List AuditRecord :=
  if encodable r.action && encodable r.agentId && encodable r.path && encodable r.detail then [r]
  else []

/-- It says nothing of the members. -/
def Inert (r : AuditRecord) : Prop := ∀ M, replay M r = M

/-- It says that `a` is a member, or is none, and goes out if the id can be written. -/
structure Sets (a : PyStr) (v : Bool) (r : AuditRecord) : Prop where
  agent : r.agentId = a
  replay : ∀ M, replay M r = Function.update M a v
  loggable : r.Loggable ↔ encodable a = true

variable {r : AuditRecord}

theorem written_of_loggable (h : r.Loggable) : r.written = [r] := if_pos h

theorem written_of_not_loggable (h : ¬ r.Loggable) : r.written = [] := if_neg h

theorem mem_written {r' : AuditRecord} (h : r' ∈ r.written) : r' = r ∧ r.Loggable := by
  unfold written at h
  split_ifs at h with hr
  · exact ⟨List.mem_singleton.1 h, hr⟩
  · cases h

theorem inert_of_action {action : PyStr} (h : r.action = action)
    (hno : action ∉ [lit "register", lit "auto-register", lit "deregister"]) : r.Inert := by
  subst h
  simp only [List.mem_cons, List.not_mem_nil, or_false, not_or] at hno
  intro M
  simp [AuditRecord.replay, hno]

theorem inert_of_status (h : r.action ≠ lit "auto-register") (hs : 400 ≤ r.status) : r.Inert := by
  intro M
  rw [AuditRecord.replay, if_neg, if_neg]
  · rintro ⟨-, h'⟩
    omega
  · rintro (⟨-, h'⟩ | h')
    · omega
    · exact h h'

theorem foldl_inert : ∀ {log : List AuditRecord} (M : PyStr → Bool), (∀ r ∈ log, r.Inert) →
    log.foldl AuditRecord.replay M = M
  | [], _, _ => rfl
  | r :: log, M, h => by
    rw [List.foldl_cons, h r List.mem_cons_self]
    exact foldl_inert M fun r' hr' => h r' (List.mem_cons_of_mem _ hr')

/-- Records that went out and say nothing of the members. -/
structure Quiet (log : List AuditRecord) : Prop where
  inert : ∀ r ∈ log, r.Inert
  loggable : ∀ r ∈ log, r.Loggable

theorem Quiet.nil : Quiet [] := ⟨fun _ h => (by cases h), fun _ h => (by cases h)⟩

theorem Inert.written (h : r.Inert) : Quiet r.written :=
  ⟨fun _ hr' => (mem_written hr').1 ▸ h,
    fun _ hr' => (mem_written hr').1 ▸ (mem_written hr').2⟩

end AuditRecord

theorem audited_append (log log' : List AuditRecord) :
    audited (log ++ log') = log'.foldl AuditRecord.replay (audited log) := List.foldl_append

/-- An id on the ledger is one that could be written. -/
theorem encodable_of_audited (log : List AuditRecord) (h : ∀ r ∈ log, r.Loggable) {a : PyStr}
    (ha : audited log a = true) : encodable a = true := by
  induction log using List.reverseRecOn with
  | nil => cases ha
  | append_singleton log r ih =>
    have hold : audited log a = true → encodable a = true :=
      ih fun r' hr' => h r' (List.mem_append_left _ hr')
    have hr : r.Loggable := h r (by simp)
    rw [audited_append, List.foldl_cons, List.foldl_nil] at ha
    unfold AuditRecord.replay at ha
    split_ifs at ha
    · by_cases hid : a = r.agentId
      · simp only [AuditRecord.Loggable, Bool.and_eq_true] at hr
        exact hid ▸ hr.1.1.2
      · rw [Function.update_of_ne hid] at ha
        exact hold ha
    · by_cases hid : a = r.agentId
      · rw [hid, Function.update_self] at ha
        cases ha
      · rw [Function.update_of_ne hid] at ha
        exact hold ha
    · exact hold ha

/-! ### What a handler writes -/

variable {P : Python} {cfg : ServerConfig} {env : Env} {req : Request} {b : Broker} {p : PyStr}
  {r : AuditRecord}

section Logs

variable (b) (r : AuditRecord) (resp : Response)

theorem logThenAnswer_audit : (logThenAnswer b r resp).2.audit = b.audit ++ r.written := by
  by_cases h : r.Loggable
  · rw [logThenAnswer, log_of_loggable h, AuditRecord.written_of_loggable h]
  · obtain ⟨e, he⟩ := log_of_not_loggable (b := b) h
    rw [logThenAnswer, he, AuditRecord.written_of_not_loggable h, List.append_nil]

theorem answerThenLog_audit : (answerThenLog b r resp).2.audit = b.audit ++ r.written := by
  by_cases h : r.Loggable
  · rw [answerThenLog, log_of_loggable h, AuditRecord.written_of_loggable h]
  · obtain ⟨e, he⟩ := log_of_not_loggable (b := b) h
    rw [answerThenLog, he, AuditRecord.written_of_not_loggable h, List.append_nil]

end Logs

variable (P cfg env req b) in
/-- The request is one that puts `a` on the registry: a registration that is let in, or a poll
that finds no mailbox. -/
inductive Admits : PyStr → Prop
  | registered {p raw data r} (hm : req.method = lit "POST") (hp : req.path = lit "/agents")
      (hc : credentials P cfg req = some (.agent p))
      (hpass : (checkRateLimit cfg env.monotonic (rateKey p) b.rateBuckets).1 = true)
      (hraw : readBody P cfg req = .text raw) (hdata : P.jsonLoads raw = .ok (.obj data))
      (hr : validateRegisterPayload data p = .ok r) : Admits r.agentId
  | polled {p query} (hm : req.method = lit "GET")
      (hp : Url.urlsplit P req.path = .ok (defaultMessagePath, query))
      (hc : credentials P cfg req = some (.agent p))
      (hpass : (checkRateLimit cfg env.monotonic (rateKey p) b.rateBuckets).1 = true)
      (hne : pollId P p query ≠ []) (hq : b.stores.mailboxes.ref? (pollId P p query) = none) :
      Admits (pollId P p query)

/-- What a request does to the members and to the log: the log says nothing of members and they
stay, or one that the request admits is added, or one is removed, and the record that says so was
to be written. -/
inductive Change (A : PyStr → Prop) (b b' : Broker) : Prop
  | idle {log : List AuditRecord} (hm : b'.members = b.members) (ha : b'.audit = b.audit ++ log)
      (hq : AuditRecord.Quiet log)
  | enrolled {a : PyStr} {r : AuditRecord} {log : List AuditRecord} (h : A a)
      (hm : b'.members = Function.update b.members a true) (hr : r.Sets a true)
      (ha : b'.audit = b.audit ++ (r.written ++ log)) (hq : AuditRecord.Quiet log)
  | removed {a : PyStr} {r : AuditRecord} (hm : b'.members = Function.update b.members a false)
      (hr : r.Sets a false) (ha : b'.audit = b.audit ++ r.written)

theorem Change.of_inert {A : PyStr → Prop} {b b' : Broker} {r : AuditRecord} (hr : r.Inert)
    (hm : b'.members = b.members) (ha : b'.audit = b.audit ++ r.written) : Change A b b' :=
  .idle hm ha hr.written

theorem Change.same {A : PyStr → Prop} {b b' : Broker} (hm : b'.members = b.members)
    (ha : b'.audit = b.audit) : Change A b b' :=
  .idle hm (by rw [ha, List.append_nil]) .nil

theorem members_of_stores {b b' : Broker} (h : b'.stores = b.stores) : b'.members = b.members := by
  funext a
  rw [Broker.members, Broker.members, h]

/-- A record that names the id where it matters and whose other texts can be written. -/
theorem sets_of {r : AuditRecord} {a : PyStr} {v : Bool} (hagent : r.agentId = a)
    (hreplay : ∀ M, r.replay M = Function.update M a v)
    (htexts : encodable r.action = true ∧ encodable r.detail = true)
    (hpath : encodable a = true → encodable r.path = true) : r.Sets a v := by
  refine ⟨hagent, hreplay, ?_⟩
  subst hagent
  simp only [AuditRecord.Loggable, htexts.1, htexts.2, Bool.true_and, Bool.and_true,
    Bool.and_eq_true]
  exact ⟨And.left, fun h => ⟨h, hpath h⟩⟩

variable {A : PyStr → Prop}

theorem answer_change (hr : r.Inert) (resp : Response) :
    Change A b (answerThenLog b r resp).2 :=
  .of_inert hr (members_of_stores (answerThenLog_stores b r resp)) (answerThenLog_audit b r resp)

/-- The record of an accepted registration. -/
def registerRecord (env : Env) (b : Broker) (r : Registration) : AuditRecord :=
  ⟨env.wallTime, lit "register", r.agentId, lit "/agents",
    if b.stores.isNew r.agentId then 201 else 200,
    if b.stores.isNew r.agentId then lit "created" else lit "updated"⟩

theorem registerRecord_sets (env : Env) (b : Broker) (r : Registration) :
    (registerRecord env b r).Sets r.agentId true := by
  have hstatus : (registerRecord env b r).status = 200 ∨ (registerRecord env b r).status = 201 := by
    unfold registerRecord
    split_ifs
    · exact .inr rfl
    · exact .inl rfl
  have hdetail : encodable (registerRecord env b r).detail = true := by
    unfold registerRecord
    split_ifs <;> rfl
  exact sets_of rfl (fun M => if_pos (.inl ⟨rfl, hstatus⟩)) ⟨rfl, hdetail⟩ fun _ => rfl

theorem members_update {b b' : Broker} {a : PyStr} {v : Bool}
    (ha : (b'.stores.entry a).endpoint.isSome = v)
    (hother : ∀ x, x ≠ a → (b'.stores.entry x).endpoint = (b.stores.entry x).endpoint) :
    b'.members = Function.update b.members a v := by
  funext x
  by_cases hx : x = a
  · rw [hx, Function.update_self]
    exact ha
  · rw [Function.update_of_ne hx, Broker.members, Broker.members, hother x hx]

theorem handleRegister_change
    (hA : ∀ raw data r, readBody P cfg req = .text raw → P.jsonLoads raw = .ok (.obj data) →
      validateRegisterPayload data p = .ok r → A r.agentId) :
    Change A b (handleRegister P cfg env req p b).2 := by
  have hreject : ∀ r : Rejection, 400 ≤ r.status → Change A b (reject env b r).2 :=
    fun r hr => answer_change (AuditRecord.inert_of_status (show lit "register" ≠ _ by decide) hr) _
  cases handleRegister_end P cfg env req p b with
  | turnedAway _ h | raised h => exact h ▸ .same rfl rfl
  | rejected hstatus _ h => exact h ▸ hreject _ hstatus
  | @accepted raw data r hraw hdata hr h =>
    rw [h]
    refine .enrolled (hA raw data r hraw hdata hr) ?_ (registerRecord_sets env b r) ?_ .nil
    · refine members_update ?_ fun x hx => ?_
      · simp only [acceptRegistration, logThenAnswer_stores, entry_registerStores, if_true]
        rfl
      · simp only [acceptRegistration, logThenAnswer_stores, entry_registerStores,
          if_neg (Ne.symm hx)]
    · rw [List.append_nil]
      exact logThenAnswer_audit _ _ _

theorem deregisterRecord_sets (now : ℚ) (a : PyStr) :
    (⟨now, lit "deregister", a, agentsPrefix ++ a, 204, lit "deregistered"⟩ : AuditRecord).Sets
      a false := by
  refine sets_of rfl (fun M => ?_) ⟨rfl, rfl⟩ fun ha => ?_
  · have hno : ¬ (lit "deregister" = lit "register" ∨ lit "deregister" = lit "auto-register") := by
      decide
    rw [AuditRecord.replay, if_neg fun h => hno (h.imp_left And.left), if_pos ⟨rfl, rfl⟩]
  · change encodable (agentsPrefix ++ a) = true
    rw [encodable_concat, ha, Bool.and_true]
    rfl

theorem handleDeregister_change : Change A b (handleDeregister P env req p b).2 := by
  have hrefuse : ∀ (a path detail : PyStr) (status : ℕ) (resp : Response), 400 ≤ status →
      Change A b
        (answerThenLog b ⟨env.wallTime, lit "deregister", a, path, status, detail⟩ resp).2 :=
    fun a path detail status resp hs =>
      answer_change (AuditRecord.inert_of_status (show lit "deregister" ≠ _ by decide) hs) resp
  cases handleDeregister_end P env req p b with
  | raised h => exact h ▸ .same rfl rfl
  | refused hstatus h => exact h ▸ hrefuse _ _ _ _ _ hstatus
  | @removed a _ _ _ h =>
    rw [h]
    refine .removed (members_update (a := a) ?_ fun x hx => ?_) (deregisterRecord_sets _ a)
      (logThenAnswer_audit _ _ _)
    · rw [logThenAnswer_stores, entry_removeStores, if_pos rfl]
      rfl
    · rw [logThenAnswer_stores, entry_removeStores, if_neg (Ne.symm hx)]

theorem sendRecord_inert (status : ℕ) (detail : PyStr) :
    (sendRecord env p status detail).Inert :=
  AuditRecord.inert_of_action (show _ = lit "send" from rfl) (by decide)

theorem refuseSend_change {m : Message} {disposition detail : PyStr} {resp : Response} :
    Change A b (refuseSend P cfg env p m disposition resp detail b).2 :=
  .of_inert (sendRecord_inert _ _) (members_of_stores (answerThenLog_stores _ _ _))
    (answerThenLog_audit _ _ _)

theorem members_enqueue {b' : Broker} {a m : PyStr} (h : b'.stores = b.stores.enqueue a m) :
    b'.members = b.members := by
  funext x
  rw [Broker.members, Broker.members, h, Stores.entry_enqueue]
  split_ifs <;> rfl

theorem dispatchSend_change (m : Message) : Change A b (dispatchSend P cfg env p m b).2 := by
  cases dispatchSend_end P cfg env p b m with
  | foreign _ h | missing _ h | unknown _ h => exact h ▸ refuseSend_change
  | raised _ h => exact h ▸ .same rfl rfl
  | queued _ _ _ _ h =>
    rw [h]
    exact .of_inert (sendRecord_inert _ _) (members_enqueue (logThenAnswer_stores _ _ _))
      (logThenAnswer_audit _ _ _)
  | routed _ _ _ _ h =>
    rw [h]
    cases sendToEndpoint_end P cfg env p b m with
    | raised h => exact h ▸ .same rfl rfl
    | routed _ h =>
      rw [h]
      exact .of_inert (sendRecord_inert _ _) (members_of_stores (logThenAnswer_stores _ _ _))
        (logThenAnswer_audit _ _ _)

theorem handleSend_change : Change A b (handleSend P cfg env req p b).2 := by
  cases handleSend_end P cfg env req p b with
  | turnedAway _ h | raised h => exact h ▸ .same rfl rfl
  | undecodable _ _ h => exact h ▸ answer_change (sendRecord_inert _ _) _
  | dispatched _ _ h => exact h ▸ dispatchSend_change _

variable (env) in
/-- The end of a poll leaves the members and logs nothing of them. -/
theorem servePoll_audit (a : PyStr) (b : Broker) : ∃ log, AuditRecord.Quiet log
    ∧ (servePoll env a b).2.audit = b.audit ++ log := by
  unfold servePoll takeMessages
  split
  · exact ⟨[], .nil, (List.append_nil _).symm⟩
  · refine ⟨_, AuditRecord.Inert.written ?_, logThenAnswer_audit _ _ _⟩
    exact AuditRecord.inert_of_action (show _ = lit "poll" from rfl) (by decide)

theorem servePoll_members (a : PyStr) (b : Broker) :
    (servePoll env a b).2.members = b.members := by
  funext x
  rw [Broker.members, Broker.members, (servePoll_spec env a b).2, entry_takeAll,
    Stores.entry_pollHeartbeat]
  split_ifs <;> rfl

/-- The record of a registration by a poll. -/
def autoRecord (env : Env) (a : PyStr) : AuditRecord :=
  ⟨env.wallTime, lit "auto-register", a, lit "/messages", 200,
    lit "mailbox re-registered on poll"⟩

variable (env) in
theorem autoRecord_sets (a : PyStr) : (autoRecord env a).Sets a true :=
  sets_of rfl (fun _ => if_pos (.inr rfl)) ⟨rfl, rfl⟩ fun _ => rfl

variable (cfg env b) in
theorem autoRegisterMailbox_audit (a : PyStr) :
    (autoRegisterMailbox cfg env a b).2.audit = b.audit ++ (autoRecord env a).written := by
  by_cases h : (autoRecord env a).Loggable
  · rw [AuditRecord.written_of_loggable h]
    unfold autoRecord at h ⊢
    simp only [autoRegisterMailbox, log_of_loggable h]
  · obtain ⟨e, he⟩ := log_of_not_loggable
      (b := { b with stores := autoRegisterStores cfg env.monotonic.register a b.stores }) h
    rw [AuditRecord.written_of_not_loggable h, List.append_nil]
    unfold autoRecord at he
    simp only [autoRegisterMailbox, he]

variable (cfg env b) in
theorem autoRegisterMailbox_members (a : PyStr) :
    (autoRegisterMailbox cfg env a b).2.members = Function.update b.members a true := by
  refine members_update ?_ fun x hx => ?_
  · rw [autoRegisterMailbox_stores, entry_autoRegisterStores, if_pos rfl]
    rfl
  · rw [autoRegisterMailbox_stores, entry_autoRegisterStores, if_neg (Ne.symm hx)]

theorem handlePoll_change {query : PyStr}
    (hp : Url.urlsplit P req.path = .ok (defaultMessagePath, query))
    (hA : pollId P p query ≠ [] → b.stores.mailboxes.ref? (pollId P p query) = none →
      A (pollId P p query)) : Change A b (handlePoll P cfg env req p b).2 := by
  cases handlePoll_end P cfg env req p b with
  | raised h | unnamed h => exact h ▸ .same rfl rfl
  | @found _ _ a _ _ _ _ h =>
    obtain ⟨log, hi, hlog⟩ := servePoll_audit env a b
    exact h ▸ .idle (servePoll_members _ b) hlog hi
  | @halfRenewed _ _ a _ hsplit ha hne hq h =>
    cases hsplit.symm.trans hp
    subst ha
    rw [h]
    refine .enrolled (hA hne hq) (autoRegisterMailbox_members cfg env b _) (autoRecord_sets env _)
      ?_ .nil
    rw [List.append_nil]
    exact autoRegisterMailbox_audit cfg env b _
  | @renewed _ _ a hsplit ha hne hq h =>
    cases hsplit.symm.trans hp
    subst ha
    obtain ⟨log, hi, hlog⟩ := servePoll_audit env (pollId P p query)
      (autoRegisterMailbox cfg env (pollId P p query) b).2
    rw [h]
    refine .enrolled (hA hne hq) ?_ (autoRecord_sets env _) ?_ hi
    · rw [servePoll_members, autoRegisterMailbox_members]
    · rw [hlog, autoRegisterMailbox_audit, List.append_assoc]

/-! ### What a request writes -/

/-- The members and the log as they were. -/
def SameBooks (b b' : Broker) : Prop := b'.stores = b.stores ∧ b'.audit = b.audit

theorem Change.of_sameBooks {b₁ b' : Broker} (hc : Change A b₁ b') (h : SameBooks b b₁) :
    Change A b b' := by
  obtain ⟨hs, ha⟩ := h
  have hm := members_of_stores hs
  cases hc with
  | idle hm' ha' hq => exact .idle (hm'.trans hm) (ha ▸ ha') hq
  | enrolled h hm' hr ha' hq => exact .enrolled h (hm ▸ hm') hr (ha ▸ ha') hq
  | removed hm' hr ha' => exact .removed (hm ▸ hm') hr (ha ▸ ha')

theorem withAgent_change {allow : Bool} {k : PyStr → Broker → Outcome × Broker}
    (hk : ∀ p b₁, authenticate P cfg allow req = .agent p →
      (checkRateLimit cfg env.monotonic (rateKey p) b.rateBuckets).1 = true →
      b₁.stores = b.stores → Change A b₁ (k p b₁).2) :
    Change A b (withAgent P cfg env allow req b k).2 := by
  cases withAgent_end P cfg env req b allow k with
  | raised _ h | denied _ h | limited _ _ h => exact h ▸ .same rfl rfl
  | @served p hauth hpass h =>
    exact h ▸ (hk p { b with rateBuckets :=
      (checkRateLimit cfg env.monotonic (rateKey p) b.rateBuckets).2 } hauth hpass rfl).of_sameBooks
        ⟨rfl, rfl⟩

variable (P cfg) in
theorem handle_change (env : Env) (req : Request) (b : Broker) :
    Change (Admits P cfg env req b) b (handle P cfg env req b).2 := by
  unfold handle
  split_ifs with hget hpost hdelete
  · unfold doGET
    split_ifs with hhealth
    · exact .same rfl rfl
    · rcases hp : Url.urlsplit P req.path with e | ⟨path, query⟩
      · exact .same rfl rfl
      refine withAgent_change fun p b₁ hauth hpass hb => ?_
      have hc : credentials P cfg req = some (.agent p) := by
        rw [credentials, if_pos hget, getCredentials, if_neg hhealth]
        simp only [hp, hauth]
      unfold serveGet
      split_ifs with h1 h2 h3 h4
      · exact .same rfl rfl
      · simp only [handleTraffic, hp]
        exact .same rfl rfl
      · subst h3
        refine handlePoll_change hp fun hne hq => .polled hget hp hc hpass hne ?_
        rwa [← hb]
      · exact .same rfl rfl
      · exact .same rfl rfl
  · refine withAgent_change fun p b₁ hauth hpass hb => ?_
    have hc : credentials P cfg req = some (.agent p) := by
      rw [credentials, if_neg hget, if_pos hpost, hauth]
    unfold servePost
    split_ifs with h1 h2
    · exact handleRegister_change fun raw data r hraw hdata hr =>
        .registered hpost h1 hc hpass hraw hdata hr
    · exact handleSend_change
    · exact .same rfl rfl
  · refine withAgent_change fun p b₁ _ _ _ => ?_
    unfold serveDelete
    split_ifs
    · exact handleDeregister_change
    · exact .same rfl rfl
  · exact .same rfl rfl

/-- The agent a request admits is a member after it. -/
theorem members_of_admits {a : PyStr} (h : Admits P cfg env req b a) :
    (handle P cfg env req b).2.members a = true := by
  cases h with
  | @registered p raw data r hm hp hc hpass hraw hdata hr =>
    have hadmitted : Admitted P cfg env req b p := by
      rw [credentials, if_neg (by rw [hm]; decide), if_pos hm] at hc
      exact ⟨Option.some.inj hc, hpass⟩
    obtain ⟨hno, -⟩ | ⟨p', b', -, huniq, -, -, heq⟩ := post_cases P cfg env b hm
    · exact absurd hadmitted (hno p)
    · obtain rfl := huniq p hadmitted
      simp only [heq, servePost, if_pos hp, handleRegister, hraw, hdata, hr, acceptRegistration,
        Broker.members, logThenAnswer_stores, entry_registerStores, if_true]
      rfl
  | @polled p query hm hp hc hpass hne hq =>
    obtain ⟨b', hb, heq⟩ := handle_of_poll env b hm hp hc
    rw [heq, if_pos hpass, Broker.members]
    rw [← hb] at hq
    rw [endpoint_of_autoRegister hp rfl hne hq]
    rfl

/-! ### Runs -/

/-- The log gives the members, and holds what could be written. -/
structure Accounted (b : Broker) : Prop where
  members : audited b.audit = b.members
  loggable : ∀ r ∈ b.audit, r.Loggable

theorem Accounted.encodable (h : Accounted b) {a : PyStr} (ha : b.members a = true) :
    encodable a = true :=
  encodable_of_audited b.audit h.loggable (h.members ▸ ha)

theorem Change.loggable {b' : Broker} (hc : Change A b b') (h : ∀ r ∈ b.audit, r.Loggable) :
    ∀ r ∈ b'.audit, r.Loggable := by
  have hwritten : ∀ r : AuditRecord, ∀ r' ∈ r.written, r'.Loggable := by
    intro r r' hr'
    obtain ⟨rfl, hl⟩ := AuditRecord.mem_written hr'
    exact hl
  intro r hr
  cases hc with
  | idle _ ha hq =>
    rw [ha, List.mem_append] at hr
    exact hr.elim (h r) (hq.loggable r)
  | enrolled _ _ _ ha hq =>
    rw [ha, List.mem_append, List.mem_append] at hr
    exact hr.elim (h r) fun hr => hr.elim (hwritten _ r) (hq.loggable r)
  | removed _ _ ha =>
    rw [ha, List.mem_append] at hr
    exact hr.elim (h r) (hwritten _ r)

theorem Accounted.change {b' : Broker} (h : Accounted b) (hc : Change A b b')
    (hA : ∀ a, A a → AgentComm.encodable a = true) : audited b'.audit = b'.members := by
  cases hc with
  | idle hm ha hq => rw [ha, audited_append, AuditRecord.foldl_inert _ hq.inert, h.members, hm]
  | @enrolled a r log hadmits hm hr ha hq =>
    have hl := hr.loggable.2 (hA a hadmits)
    rw [ha, AuditRecord.written_of_loggable hl, audited_append, List.singleton_append,
      List.foldl_cons, AuditRecord.foldl_inert _ hq.inert, hr.replay, h.members, hm]
  | @removed a r hm hr ha =>
    rw [ha, audited_append, h.members, hm]
    by_cases hl : r.Loggable
    · rw [AuditRecord.written_of_loggable hl, List.foldl_cons, List.foldl_nil, hr.replay]
    · -- an id that cannot be written was no member
      have hno : b.members a = false := by
        by_contra hmem
        exact hl (hr.loggable.2 (h.encodable (by simpa using hmem)))
      rw [AuditRecord.written_of_not_loggable hl, List.foldl_nil, ← hno, Function.update_eq_self]

variable (P cfg) in
/-- A request admits no id that cannot be written out, and a sweep finds nobody expired. -/
def KeepsBooks (b : Broker) : SerialAction → Prop
  | .request env req => ∀ a, Admits P cfg env req b a → encodable a = true
  | .sweep now => ∀ a e lastHb ttl, b.stores.registry.get? a = some e →
    b.stores.lastHeartbeat.get? a = some lastHb → b.stores.ttlSeconds.get? a = some ttl →
    expired cfg now lastHb ttl e.mailbox = false

theorem sweepOnce_expired {a : PyStr} {now lastHb : ℚ} {ttl : ℤ} {e : Endpoint}
    (he : b.stores.registry.get? a = some e) (hh : b.stores.lastHeartbeat.get? a = some lastHb)
    (ht : b.stores.ttlSeconds.get? a = some ttl) :
    (sweepOnce cfg now b.stores).entry a
      = if expired cfg now lastHb ttl e.mailbox then .blank else b.stores.entry a := by
  rw [entry_sweepOnce]
  simp only [Stores.entry, he, Entry.sweep, hh, ht]

theorem sweep_members_iff (now : ℚ) :
    Broker.members { b with stores := sweepOnce cfg now b.stores } = b.members
      ↔ KeepsBooks P cfg b (.sweep now) := by
  constructor
  · intro h a e lastHb ttl he hh ht
    by_contra hx
    have hgone : b.members a = false := by
      rw [← h, Broker.members, sweepOnce_expired he hh ht, if_pos (by simpa using hx)]
      rfl
    rw [Broker.members, Stores.entry, he] at hgone
    cases hgone
  · intro h
    funext a
    rw [Broker.members, Broker.members, entry_sweepOnce]
    split
    · rename_i e he
      unfold Entry.sweep
      split
      · rename_i lastHb ttl hh ht
        rw [if_neg (by simpa using h a e lastHb ttl he hh ht)]
      · rfl
    · rfl

/-- A step from a broker whose log gives its members leaves it so just when it keeps the books. -/
theorem Accounted.step_iff (h : Accounted b) {act : SerialAction} {b' : Broker} {es : List Outcome}
    (hs : (serialLts P cfg).step b act = some (b', es)) :
    (audited b'.audit = b'.members ↔ KeepsBooks P cfg b act) ∧ ∀ r ∈ b'.audit, r.Loggable := by
  cases act with
  | request env req =>
    cases hs
    have hc := handle_change P cfg env req b
    refine ⟨⟨fun hkept a ha => ?_, h.change hc⟩, hc.loggable h.loggable⟩
    refine encodable_of_audited _ (hc.loggable h.loggable) ?_
    rw [hkept]
    exact members_of_admits ha
  | sweep now =>
    cases hs
    refine ⟨?_, h.loggable⟩
    rw [← sweep_members_iff (P := P), ← h.members]
    exact eq_comm

/-- Played back, the audit log gives exactly the agents on the registry of every broker that is
reached while no sweep evicts and no id comes in that cannot be written out, and the first step
that does either ends it. -/
theorem audit_accounts_for_members {tr : List Outcome}
    (h : (serialLts P cfg).Run (KeepsBooks P cfg) Broker.init tr b) :
    audited b.audit = b.members
      ∧ ∀ act b' es, (serialLts P cfg).step b act = some (b', es) →
        (audited b'.audit = b'.members ↔ KeepsBooks P cfg b act) := by
  have hacc : Accounted b := by
    refine h.invariant (I := fun _ b => Accounted b) ⟨rfl, fun _ h => by cases h⟩ ?_
    intro tr b act b' es hb hkeep hs
    obtain ⟨hiff, hlog⟩ := hb.step_iff hs
    exact ⟨hiff.2 hkeep, hlog⟩
  exact ⟨hacc.members, fun act b' es hs => (hacc.step_iff hs).1⟩

theorem audit_accounts_for_mailbox : audited mailboxBroker.audit = mailboxBroker.members := by
  have hkeep : KeepsBooks mailboxPython .defaults Broker.init
      (.request (instant 0) (postJson (lit "/agents") mailboxPayload)) := by
    intro a ha
    cases ha with
    | @registered p raw data r _ _ _ _ hraw hdata hr =>
      have hread : readBody mailboxPython .defaults (postJson (lit "/agents") mailboxPayload)
          = .text (jsonText mailboxPayload) := rfl
      obtain rfl := BodyRead.text.inj (hraw.symm.trans hread)
      obtain rfl := Json.obj.inj (Except.ok.inj (hdata.symm.trans (plainPython_loads _ _)))
      have hid : checkAgentId (.str (lit "a")) = .ok r.agentId :=
        (validateRegisterPayload_agentId hr).1
      have hval : checkAgentId (.str (lit "a")) = .ok (lit "a") := rfl
      rw [Except.ok.inj (hid.symm.trans hval)]
      rfl
    | polled hm => exact absurd hm (by decide)
  have hs : (serialLts mailboxPython .defaults).step Broker.init
      (.request (instant 0) (postJson (lit "/agents") mailboxPayload))
        = some (mailboxBroker, _) := rfl
  exact (audit_accounts_for_members (.single hkeep hs)).1

/-- An agent that registers and is swept out stays in the books. -/
theorem eviction_unaudited : ∃ b, Served mailboxPython .defaults b
    ∧ audited b.audit (lit "a") = true ∧ b.stores.registry.get? (lit "a") = none := by
  obtain ⟨tr, hserved⟩ := mailboxBroker_served
  refine ⟨_, ⟨_, hserved.snoc (a := .sweep 91) trivial rfl⟩, ?_, ?_⟩
  · decide +kernel
  · decide +kernel

end AgentComm
