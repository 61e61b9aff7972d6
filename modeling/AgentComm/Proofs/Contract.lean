import AgentComm.Proofs.Modes
import AgentComm.Proofs.PostAnswers
import AgentComm.Transport.Routing

/-!
# What the router may raise

The router promises two exceptions. Over a broker the lookup raises its own, and a refused POST is
answered with an object that is no envelope, which the transport reports as a protocol error. An
`AgentNotFoundError` of the transport is tried again after, as every transport error is.
-/

namespace AgentComm

open Lib

variable {P : Python} {policy : RetryPolicy} {timeout a : PyStr} {m : Message} {port : ℤ}

/-! ### What the transport makes of it -/

section Send

theorem send_fields {status : ℕ} {fields : Fields} (h : Conveys P (.obj fields)) :
    NetworkedBrokerTransport.send P m timeout
        (.answer status (asciiEncode (P.jsonDumps (.obj fields))))
      = NetworkedBrokerTransport.reply P m status (P.jsonDumps (.obj fields)) := by
  simp only [NetworkedBrokerTransport.send, doPost, h.sent]
  rfl

theorem send_empty {status : ℕ} (hempty : P.utf8Decode [] = .ok []) (h : status ≠ 200) :
    NetworkedBrokerTransport.send P m timeout (.answer status []) = .ok none := by
  have hreply : NetworkedBrokerTransport.send P m timeout (.answer status [])
      = NetworkedBrokerTransport.reply P m status [] := by
    simp only [NetworkedBrokerTransport.send, doPost, hempty]
    rfl
  rw [hreply, NetworkedBrokerTransport.reply, if_neg h, if_pos (.inr (.inr rfl))]

theorem send_refusal {status : ℕ} {fields : Fields} (h : Conveys P (.obj fields))
    (hr : Refusal status fields) : ∃ e, NetworkedBrokerTransport.send P m timeout
        (.answer status (asciiEncode (P.jsonDumps (.obj fields)))) = .error e
      ∧ e.kind = .validationError := by
  have hmissing : ∃ text, validateDict P fields = .error (validationError text) := by
    cases hr <;> exact ⟨_, rfl⟩
  obtain ⟨text, hinvalid⟩ := hmissing
  have hread : deserialize P (P.jsonDumps (.obj fields)) = .error (validationError text) := by
    rw [deserialize_obj h.read, fromDict, hinvalid]
    rfl
  have hstatus : status ≠ 200
      ∧ ¬ (status = 202 ∨ status = 204 ∨ P.jsonDumps (.obj fields) = []) := by
    cases hr <;> simp [h.nonempty]
  refine ⟨validationError text, ?_, rfl⟩
  rw [send_fields h, NetworkedBrokerTransport.reply, if_neg hstatus.1, if_neg hstatus.2,
    NetworkedBrokerTransport.errorReply, hread]
  rfl

/-- An error envelope the transport can read is raised as its code says. -/
theorem send_envelope {st : Stamp} {n : ℤ} {status : ℕ} {code text : PyStr}
    (hone : P.int (lit "1") = .ok n) (hid : st.messageId ≠ []) (htime : st.timestamp ≠ [])
    (hto : m.metadata.recipient = .str a) (ha : a ≠ [])
    (h : Conveys P (.obj (toDict P (Error.to st m code text))))
    (hcode : code = unknownRecipientCode ∨ code = deliveryFailedCode)
    (hstatus : status ≠ 200 ∧ status ≠ 202 ∧ status ≠ 204) :
    Retried (NetworkedBrokerTransport.send P m timeout (.answer status
      (asciiEncode (P.jsonDumps (.obj (toDict P (Error.to st m code text))))))) := by
  have hread : deserialize P (P.jsonDumps (.obj (toDict P (Error.to st m code text))))
      = .ok (Error.to st m code text) :=
    deserialize_serialize (errorTo_valid hone hid htime hto ha) (fun _ he => by cases he) h.read
  have hbody : ¬ (status = 202 ∨ status = 204
      ∨ P.jsonDumps (.obj (toDict P (Error.to st m code text))) = []) := by
    simp [hstatus, h.nonempty]
  have hget : Pairs.get? (lit "code") (Error.to st m code text).body = some (.str code) := rfl
  rw [send_fields h, NetworkedBrokerTransport.reply, if_neg hstatus.1, if_neg hbody,
    NetworkedBrokerTransport.errorReply, hread]
  refine ⟨_, rfl, ?_⟩
  simp only [hget, Option.getD_some, Json.asStr?]
  rcases hcode with rfl | rfl
  · rw [if_pos rfl]
    rfl
  · rw [if_neg (by decide), if_pos rfl]
    rfl

variable (P) in
/-- The library as the transport needs it: it reads back the objects that are written, the body of
nothing and the version of the protocol. -/
structure Reliable (listing : Listing) (answers : ℕ → PostAnswer) (m : Message) : Prop where
  one : ∃ n, P.int (lit "1") = .ok n
  empty : P.utf8Decode [] = .ok []
  listing : ∀ fields, listing.fields? = some fields → Conveys P (.obj fields)
  answers : ∀ i fields, (answers i).fields? P m = some fields → Conveys P (.obj fields)

variable {listing : Listing} {answers : ℕ → PostAnswer}

variable (timeout) in
/-- An answer that is tried again after, or refused, is raised; the others are returned. -/
theorem send_answers (hP : Reliable P listing answers m) (i : ℕ)
    (hposs : (answers i).Possible P) (hto : m.metadata.recipient = .str a) (ha : a ≠ []) :
    ((answers i).Retries ∧ Retried
        (NetworkedBrokerTransport.send P m timeout ((answers i).http P m)))
      ∨ ((answers i).IsRefused ∧ ∃ e,
        NetworkedBrokerTransport.send P m timeout ((answers i).http P m) = .error e
          ∧ e.kind = .validationError)
      ∨ ¬ (answers i).Retries ∧ ¬ (answers i).IsRefused ∧ ∃ r,
        NetworkedBrokerTransport.send P m timeout ((answers i).http P m) = .ok r := by
  obtain ⟨n, hone⟩ := hP.one
  have hconv := hP.answers i
  generalize answers i = x at *
  cases x with
  | replied r =>
    refine .inr (.inr ⟨id, id, some (wired P r), ?_⟩)
    have h := hconv _ rfl
    have hread : deserialize P (P.jsonDumps (.obj (toDict P r))) = .ok (wired P r) :=
      deserialize_valid h hposs
    refine (send_fields h).trans ?_
    rw [NetworkedBrokerTransport.reply, hread]
    rfl
  | delivered => exact .inr (.inr ⟨id, id, none, send_empty hP.empty (by decide)⟩)
  | queued => exact .inr (.inr ⟨id, id, none, send_empty hP.empty (by decide)⟩)
  | unknown st =>
    exact .inl ⟨trivial, send_envelope hone hposs.1 hposs.2 hto ha (hconv _ rfl) (.inl rfl)
      (by simp [PostAnswer.status])⟩
  | failed st text =>
    exact .inl ⟨trivial, send_envelope hone hposs.1 hposs.2 hto ha (hconv _ rfl) (.inr rfl)
      (by simp [PostAnswer.status])⟩
  | refused status fields => exact .inr (.inl ⟨trivial, send_refusal (hconv _ rfl) hposs⟩)
  | dropped e =>
    obtain ⟨e', he', ht⟩ := doPost_raises P timeout (lit "broker") e
    refine .inl ⟨trivial, e', ?_, ht.2 fun h => ?_⟩
    · simp only [NetworkedBrokerTransport.send, PostAnswer.http, he']
      rfl
    · have hos : e.isOSError = true := hposs
      rw [hos] at h
      exact Bool.noConfusion h.1

variable (timeout) in
theorem retried_iff_retries (hP : Reliable P listing answers m) (i : ℕ)
    (hposs : (answers i).Possible P) (hto : m.metadata.recipient = .str a) (ha : a ≠ []) :
    Retried (NetworkedBrokerTransport.send P m timeout ((answers i).http P m))
      ↔ (answers i).Retries := by
  rcases send_answers timeout hP i hposs hto ha with ⟨hx, hr⟩ | ⟨hx, e, he, hk⟩ | ⟨hx, -, r, hr⟩
  · exact iff_of_true hr hx
  · refine iff_of_false ?_ hx.not_retries
    rintro ⟨e', he', ht⟩
    obtain rfl := Except.error.inj (he.symm.trans he')
    simp [Exc.isTransportError, hk] at ht
  · refine iff_of_false ?_ hx
    rintro ⟨e', he', -⟩
    cases hr.symm.trans he'

end Send

/-! ### The lookup -/

section Lookup

theorem same_str {s : PyStr} {v : Json} : (Json.str s).same v = true ↔ v = .str s := by
  rcases v with _ | _ | _ | x | t | _ | _
  case str => simp [Json.same, Json.toKey, Key.same, Key.number?, eq_comm]
  case float =>
    rcases x with _ | _ | _ | _ <;> simp [Json.same, Json.toKey, Key.same, Key.number?]
  all_goals simp [Json.same, Json.toKey, Key.same, Key.number?]

theorem entryFor_entry {s : Stores} {now : ℚ} {a : PyStr} {caps : Fields} {v : Json} :
    BrokeredRegistry.entryFor v (.obj (buildAgentEntry s now a caps)) = true ↔ v = .str a :=
  same_str

theorem any_entryFor {s : Stores} {now : ℚ} {v : Json} :
    ((discover s now).map .obj).any (BrokeredRegistry.entryFor v) = true
      ↔ ∃ a, v = .str a ∧ (Listing.agents s now).Lists a := by
  simp only [List.any_eq_true, List.mem_map, discover, Listing.Lists]
  constructor
  · rintro ⟨_, ⟨_, ⟨⟨a, caps⟩, he, rfl⟩, rfl⟩, hv⟩
    exact ⟨a, entryFor_entry.1 hv, by rw [Dict.mem_entries.1 he]; rfl⟩
  · rintro ⟨a, hv, hl⟩
    obtain ⟨caps, hc⟩ := Option.isSome_iff_exists.1 hl
    exact ⟨_, ⟨_, ⟨(a, caps), Dict.mem_entries.2 hc, rfl⟩, rfl⟩, entryFor_entry.2 hv⟩

theorem request_fields {status : ℕ} {fields : Fields} (h : Conveys P (.obj fields)) :
    BrokeredRegistry.request P (.answer status (asciiEncode (P.jsonDumps (.obj fields))))
      = .ok (status, .obj fields) := by
  simp only [BrokeredRegistry.request, h.sent, bind, Except.bind, if_neg h.nonempty, h.read]
  rfl

theorem lookup_agents {s : Stores} {now : ℚ} {v : Json}
    (h : Conveys P (.obj (Listing.agentsFields s now))) :
    BrokeredRegistry.lookup P port ((Listing.agents s now).http P) v
      = if ((discover s now).map .obj).any (BrokeredRegistry.entryFor v) then
          .ok ⟨v, lit "broker", port⟩
        else .error (Registry.unknownAgent P v) := by
  simp only [BrokeredRegistry.lookup, Listing.http, request_fields h]
  rfl

variable (port) in
/-- A lookup that gets no list raises what it was answered with. -/
theorem lookup_unlisted {x : Listing} (v : Json) (hx : x.Possible)
    (hP : ∀ fields, x.fields? = some fields → Conveys P (.obj fields))
    (hno : ∀ s now, x ≠ .agents s now) : ∃ e, BrokeredRegistry.lookup P port (x.http P) v = .error e
      ∧ e.kind ≠ .agentNotFoundError ∧ e.kind ≠ .deliveryError := by
  cases x with
  | agents s now => exact absurd rfl (hno s now)
  | refused status fields =>
    have hstatus : status ≠ 200 := by
      rintro rfl
      cases hx
    have hraise : BrokeredRegistry.lookup P port ((Listing.refused status fields).http P) v
        = .error ⟨.transportError, lit "broker GET /agents returned HTTP " ++ intText status
          ++ lit ": " ++ pyText P (.obj fields)⟩ := by
      simp only [BrokeredRegistry.lookup, Listing.http, request_fields (hP _ rfl), bind,
        Except.bind, if_pos hstatus]
      rfl
    exact ⟨_, hraise, by simp, by simp⟩
  | dropped e =>
    have hos : e.isOSError = true := hx
    refine ⟨e, rfl, ?_, ?_⟩ <;> intro hk <;> rw [Exc.isOSError, hk] at hos <;> cases hos

end Lookup

/-! ### The contract -/

section Route

/-- `route` against a broker that answers so. -/
def routedBy (P : Python) (port : ℤ) (policy : RetryPolicy) (timeout : PyStr) (listing : Listing)
    (answers : ℕ → PostAnswer) (m : Message) : Router.Routed :=
  Router.routeBrokered P port policy timeout (listing.http P) (fun i => (answers i).http P m) m

/-- The recipient is missing, not in the list, or unknown to the broker at an attempt. -/
def NotFound (listing : Listing) (answers : ℕ → PostAnswer) (m : Message) (o : Router.Routed) :
    Prop :=
  m.metadata.recipient.truthy = false ∨ listing.Lacks m.metadata.recipient
    ∨ ∃ i ∈ o.attempts, (answers i).IsUnknown

/-- A call returns or raises one of the two exceptions the router promises, each when it should,
and makes no attempt too many. -/
structure Contract (policy : RetryPolicy) (listing : Listing) (answers : ℕ → PostAnswer)
    (m : Message) (o : Router.Routed) : Prop where
  raised : ∀ e, o.result = .error e → e.kind = .agentNotFoundError ∨ e.kind = .deliveryError
  notFound : (∃ e, o.result = .error e ∧ e.kind = .agentNotFoundError)
    ↔ NotFound listing answers m o
  single : ∀ i ∈ o.attempts, (answers i).IsUnknown → ∀ j ∈ o.attempts, j ≤ i
  bounded : (o.attempts.length : ℤ) ≤ policy.maxAttempts

/-- The router gets to attempt `i`: what the attempts before it met is tried again after. -/
structure Tried (policy : RetryPolicy) (answers : ℕ → PostAnswer) (i : ℕ) : Prop where
  first : 1 ≤ i
  last : i ≤ policy.maxAttempts.toNat
  before : ∀ j, 1 ≤ j → j < i → (answers j).Retries

/-- The message has no recipient, or the lookup gets its list, and no attempt to reach a listed
recipient is refused or finds it unknown. -/
def Keeps (policy : RetryPolicy) (listing : Listing) (answers : ℕ → PostAnswer) (m : Message) :
    Prop :=
  m.metadata.recipient.truthy = false
    ∨ (∃ s now, listing = .agents s now) ∧ ∀ a, m.metadata.recipient = .str a → listing.Lists a →
      ∀ i, Tried policy answers i → ¬ (answers i).IsRefused ∧ ¬ (answers i).IsUnknown

variable {listing : Listing} {answers : ℕ → PostAnswer} {o : Router.Routed}

theorem routedBy_missing (h : m.metadata.recipient.truthy = false) :
    routedBy P port policy timeout listing answers m
      = ⟨.error ⟨.agentNotFoundError, lit "message has no recipient"⟩, []⟩ := by
  rw [routedBy, Router.routeBrokered, h]
  rfl

theorem routedBy_error {e : Exc} (h : m.metadata.recipient.truthy = true)
    (he : BrokeredRegistry.lookup P port (listing.http P) m.metadata.recipient = .error e) :
    routedBy P port policy timeout listing answers m = ⟨.error e, []⟩ := by
  rw [routedBy, Router.routeBrokered, h]
  simp only [he]
  rfl

variable (policy timeout port) in
theorem routedBy_lacks (hP : Reliable P listing answers m)
    (h : m.metadata.recipient.truthy = true) (hl : listing.Lacks m.metadata.recipient) :
    ∃ e, e.kind = .agentNotFoundError
      ∧ routedBy P port policy timeout listing answers m = ⟨.error e, []⟩ := by
  cases listing with
  | agents s now =>
    have hnone : ¬ ((discover s now).map .obj).any
        (BrokeredRegistry.entryFor m.metadata.recipient) = true := by
      rw [any_entryFor]
      rintro ⟨a, ha, hin⟩
      exact hl a ha hin
    refine ⟨_, ?_, routedBy_error h ((lookup_agents (hP.listing _ rfl)).trans (if_neg hnone))⟩
    rfl
  | refused | dropped => exact hl.elim

/-- What comes of a call for a listed recipient: the first attempt that is not tried again after
settles it, and without one it is a `DeliveryError`. -/
inductive Settled (policy : RetryPolicy) (answers : ℕ → PostAnswer) :
    Except Exc (Option Message) → Prop
  | refused {i e} (hi : Tried policy answers i) (hr : (answers i).IsRefused)
      (he : e.kind = .validationError) : Settled policy answers (.error e)
  | returned {i r} (hi : Tried policy answers i) (hno : ¬ (answers i).Retries)
      (hr : ¬ (answers i).IsRefused) : Settled policy answers (.ok r)
  | exhausted {e} (hall : ∀ i, Tried policy answers i → (answers i).Retries)
      (he : e.kind = .deliveryError) : Settled policy answers (.error e)

theorem routedBy_lists (hP : Reliable P listing answers m)
    (hposs : ∀ i, (answers i).Possible P) (hto : m.metadata.recipient = .str a) (ha : a ≠ [])
    (hl : listing.Lists a) (ho : routedBy P port policy timeout listing answers m = o) :
    (∀ i, i ∈ o.attempts ↔ Tried policy answers i)
      ∧ o.attempts.length ≤ policy.maxAttempts.toNat ∧ Settled policy answers o.result := by
  have htruthy : m.metadata.recipient.truthy = true := by
    rw [hto]
    simpa [Json.truthy] using ha
  obtain ⟨placeholder, hlookup⟩ : ∃ p,
      BrokeredRegistry.lookup P port (listing.http P) m.metadata.recipient = .ok p := by
    cases listing with
    | agents s now =>
      exact ⟨_, (lookup_agents (hP.listing _ rfl)).trans (if_pos (any_entryFor.2 ⟨a, hto, hl⟩))⟩
    | refused | dropped => exact hl.elim
  have hsend := fun i => send_answers timeout hP i (hposs i) hto ha
  set send := fun i => NetworkedBrokerTransport.send P m timeout ((answers i).http P m)
  have hretried : ∀ i, Retried (send i) ↔ (answers i).Retries := fun i =>
    retried_iff_retries timeout hP i (hposs i) hto ha
  have htried : ∀ i, Tried policy answers i ↔ 1 ≤ i ∧ (i : ℤ) ≤ policy.maxAttempts
      ∧ ∀ j, 1 ≤ j → j < i → Retried (send j) := by
    intro i
    simp only [hretried]
    exact ⟨fun h => ⟨h.first, by have := h.first; have := h.last; omega, h.before⟩,
      fun h => ⟨h.1, by omega, h.2.2⟩⟩
  have hroute : o = ⟨(retryCall send policy).mapError Prod.fst, attemptsMade send policy⟩ := by
    rw [← ho, routedBy, Router.routeBrokered, htruthy]
    simp only [hlookup]
    rfl
  subst hroute
  refine ⟨fun i => mem_attemptsMade.trans (htried i).symm, attemptsMade_length_le, ?_⟩
  rcases retryCall_cases send policy with
    ⟨i, ⟨hi, hno, hbefore⟩, hle, hres, -⟩ | ⟨hall, ⟨c, hres⟩, -⟩ <;> simp only [hres]
  · have ht : Tried policy answers i := (htried i).2 ⟨hi, hle, hbefore⟩
    rcases hsend i with ⟨-, hr⟩ | ⟨hx, e, he, hk⟩ | ⟨hx, hx', r, hr⟩
    · exact absurd hr hno
    · rw [show send i = .error e from he]
      exact .refused ht hx hk
    · rw [show send i = .ok r from hr]
      exact .returned ht hx hx'
  · refine .exhausted (fun i hi => (hretried i).1 ?_) gaveUp_kind
    obtain ⟨h1, h2, -⟩ := (htried i).1 hi
    exact hall i h1 h2

/-- Nothing that comes of the attempts is an `AgentNotFoundError`. -/
theorem Settled.not_found {x : Except Exc (Option Message)} {e : Exc} (h : Settled policy answers x)
    (hx : x = .error e) : e.kind ≠ .agentNotFoundError := by
  subst hx
  cases h with
  | refused _ _ he => simp [he]
  | exhausted _ he => simp [he]

/-- A refusal that is got to is what the call comes to. -/
theorem Settled.of_refused {x : Except Exc (Option Message)} {i : ℕ} (h : Settled policy answers x)
    (hi : Tried policy answers i) (hr : (answers i).IsRefused) :
    ∃ e, x = .error e ∧ e.kind = .validationError := by
  cases h with
  | refused _ _ he => exact ⟨_, rfl, he⟩
  | @returned j r hj hno hno' =>
    exfalso
    rcases lt_trichotomy i j with hij | rfl | hji
    · exact hr.not_retries (hj.before i hi.first hij)
    · exact hno' hr
    · exact hno (hi.before j hj.first hji)
  | exhausted hall _ => exact absurd (hall i hi) hr.not_retries

/-- A recipient that is not found before any attempt is reported as the contract has it. -/
theorem Contract.of_not_found {e : Exc} (hpolicy : 1 ≤ policy.maxAttempts)
    (hk : e.kind = .agentNotFoundError) (hn : NotFound listing answers m ⟨.error e, []⟩) :
    Contract policy listing answers m ⟨.error e, []⟩ where
  raised e' he := by
    obtain rfl := Except.error.inj he
    exact .inl hk
  notFound := iff_of_true ⟨e, rfl, hk⟩ hn
  single i hi := absurd hi List.not_mem_nil
  bounded := by
    simp only [List.length_nil, Nat.cast_zero]
    omega

/-- A call for a listed recipient keeps the contract when no attempt it gets to is refused or
finds the recipient unknown. -/
theorem contract_listed_iff (hpolicy : 1 ≤ policy.maxAttempts)
    (hto : m.metadata.recipient = .str a) (ha : a ≠ []) (hl : listing.Lists a)
    (htried : ∀ i, i ∈ o.attempts ↔ Tried policy answers i)
    (hlength : o.attempts.length ≤ policy.maxAttempts.toNat)
    (hsettled : Settled policy answers o.result) : Contract policy listing answers m o
      ↔ ∀ i, Tried policy answers i → ¬ (answers i).IsRefused ∧ ¬ (answers i).IsUnknown := by
  constructor
  · refine fun h i hi => ⟨fun hr => ?_, fun hu => ?_⟩
    · obtain ⟨e, he, hk⟩ := hsettled.of_refused hi hr
      rcases h.raised e he with hk' | hk' <;> rw [hk] at hk' <;> cases hk'
    · obtain ⟨e, he, hk⟩ := h.notFound.2 (.inr (.inr ⟨i, (htried i).2 hi, hu⟩))
      exact hsettled.not_found he hk
  · intro hclean
    refine ⟨fun e he => ?_, iff_of_false ?_ ?_, fun i hi hu => ?_, by omega⟩
    · rw [he] at hsettled
      cases hsettled with
      | refused hi hr _ => exact absurd hr (hclean _ hi).1
      | exhausted _ hk => exact .inr hk
    · rintro ⟨e, he, hk⟩
      exact hsettled.not_found he hk
    · rintro (h | h | ⟨i, hi, hu⟩)
      · rw [hto] at h
        exact ha (by simpa [Json.truthy] using h)
      · cases listing with
        | agents s now => exact h a hto hl
        | refused | dropped => exact h
      · exact (hclean i ((htried i).1 hi)).2 hu
    · exact absurd hu (hclean i ((htried i).1 hi)).2

/-- The router keeps its contract over a broker exactly when the message has no recipient, or the
lookup gets the list of agents and no attempt it gets to for a listed recipient is refused or
answered with an unknown recipient. -/
theorem router_contract_iff (hpolicy : 1 ≤ policy.maxAttempts) (hP : Reliable P listing answers m)
    (hlisting : listing.Possible) (hposs : ∀ i, (answers i).Possible P) :
    Contract policy listing answers m (routedBy P port policy timeout listing answers m)
      ↔ Keeps policy listing answers m := by
  rcases hto : m.metadata.recipient.truthy with _ | _
  · rw [routedBy_missing hto]
    exact iff_of_true (.of_not_found hpolicy rfl (.inl hto)) (.inl hto)
  have hsome : ¬ m.metadata.recipient.truthy = false := by simp [hto]
  by_cases hagents : ∃ s now, listing = .agents s now
  swap
  · obtain ⟨e, he, hk, hk'⟩ := lookup_unlisted port m.metadata.recipient hlisting hP.listing
      fun s now h => hagents ⟨s, now, h⟩
    rw [routedBy_error hto he]
    exact iff_of_false (fun h => (h.raised e rfl).elim hk hk')
      fun h => h.elim hsome fun h => hagents h.1
  by_cases hl : ∃ a, m.metadata.recipient = .str a ∧ listing.Lists a
  · obtain ⟨a, ha, hin⟩ := hl
    have hne : a ≠ [] := by
      rw [ha] at hto
      simpa [Json.truthy] using hto
    generalize ho : routedBy P port policy timeout listing answers m = o
    obtain ⟨htried, hlength, hsettled⟩ := routedBy_lists hP hposs ha hne hin ho
    rw [contract_listed_iff hpolicy ha hne hin htried hlength hsettled]
    refine ⟨fun h => .inr ⟨hagents, fun _ _ _ => h⟩, fun h => ?_⟩
    exact (h.resolve_left hsome).2 a ha hin
  · have hlacks : listing.Lacks m.metadata.recipient := by
      obtain ⟨s, now, rfl⟩ := hagents
      exact fun a ha hin => hl ⟨a, ha, hin⟩
    obtain ⟨e, hk, ho⟩ := routedBy_lacks policy timeout port hP hto hlacks
    rw [ho]
    exact iff_of_true (.of_not_found hpolicy hk (.inr (.inl hlacks)))
      (.inr ⟨hagents, fun a ha hin => absurd ⟨a, ha, hin⟩ hl⟩)

end Route

/-- The list of a broker that knows the recipient of `question`. -/
def knowing : Listing := .agents (Stores.empty.ensureCapabilities (lit "b")) 0

/-- What goes over the wire: the list, and the answer that the recipient is unknown. -/
def routedValues : List Json :=
  [.obj (Listing.agentsFields (Stores.empty.ensureCapabilities (lit "b")) 0),
    .obj strangerFields]

def routedPython : Python := asciiPython (routedValues.map fun v => (jsonText v, v))

theorem routedPython_conveys {v : Json} (hv : v ∈ routedValues) : Conveys routedPython v :=
  asciiPython_conveys hv (by decide +kernel) (by decide +kernel)

theorem routedPython_reliable {answers : ℕ → PostAnswer}
    (h : ∀ i fields, (answers i).fields? routedPython question = some fields →
      fields = strangerFields) : Reliable routedPython knowing answers question where
  one := ⟨1, by decide⟩
  empty := rfl
  listing fields hf := by
    obtain rfl := Option.some.inj hf
    exact routedPython_conveys (.head _)
  answers i fields hf := by
    obtain rfl := h i fields hf
    exact routedPython_conveys (.tail _ (.head _))

theorem router_contract_queued :
    Contract defaultRetryPolicy knowing (fun _ => .queued) question
      (routedBy routedPython 8443 defaultRetryPolicy (lit "5.0") knowing (fun _ => .queued)
        question) := by
  have hP : Reliable routedPython knowing (fun _ => .queued) question :=
    routedPython_reliable fun _ _ hf => by cases hf
  have hposs : PostAnswer.queued.Possible routedPython := trivial
  exact (router_contract_iff (by decide) hP trivial fun _ => hposs).2
    (.inr ⟨⟨_, _, rfl⟩, fun _ _ _ _ _ => ⟨id, id⟩⟩)

/-- What an agent's router makes of a broker that always answers that the recipient is unknown. -/
def strangerRouted : Router.Routed :=
  routedBy routedPython 8443 Agent.defaultRetryPolicy (lit "5.0") knowing
    (fun _ => .unknown downEnv.stamp) question

/-- The broker is asked three times, and what it answered comes out as a `DeliveryError`. -/
theorem unknown_recipient_retried :
    (PostAnswer.unknown downEnv.stamp).Possible routedPython
      ∧ (∀ i, i ∈ strangerRouted.attempts ↔ 1 ≤ i ∧ i ≤ 3)
      ∧ (∃ e, strangerRouted.result = .error e ∧ e.kind = .deliveryError)
      ∧ ¬ Contract Agent.defaultRetryPolicy knowing (fun _ => .unknown downEnv.stamp) question
        strangerRouted := by
  have hP : Reliable routedPython knowing (fun _ => .unknown downEnv.stamp) question :=
    routedPython_reliable fun _ fields hf => by
      obtain rfl := Option.some.inj hf
      rfl
  have hposs : (PostAnswer.unknown downEnv.stamp).Possible routedPython :=
    ⟨by decide, by decide⟩
  have ho : routedBy routedPython 8443 Agent.defaultRetryPolicy (lit "5.0") knowing
      (fun _ => .unknown downEnv.stamp) question = strangerRouted := rfl
  obtain ⟨htried, -, hsettled⟩ := routedBy_lists hP (fun _ => hposs) rfl (by decide) rfl ho
  have hattempts : ∀ i, i ∈ strangerRouted.attempts ↔ 1 ≤ i ∧ i ≤ 3 := fun i => by
    rw [htried]
    exact ⟨fun h => ⟨h.first, h.last⟩, fun h => ⟨h.1, h.2, fun _ _ _ => trivial⟩⟩
  refine ⟨hposs, hattempts, ?_, fun h => ?_⟩
  · generalize strangerRouted.result = x at hsettled
    cases hsettled with
    | refused _ hr _ => exact hr.elim
    | returned _ hno _ => exact absurd trivial hno
    | exhausted _ he => exact ⟨_, rfl, he⟩
  · have htwice : 2 ≤ 1 := h.single 1 ((hattempts 1).2 (by decide)) trivial 2
      ((hattempts 2).2 (by decide))
    exact absurd htwice (by decide)

end AgentComm
