import AgentComm.Proofs.Effects
import AgentComm.Proofs.Entries

/-!
# Isolation of agents

A request authenticated as one agent leaves the entries of all others alone, but for one message
of its own at the end of a queue. One that authentication turns away changes nothing.
-/

namespace AgentComm

open Lib

variable {P : Python} {cfg : ServerConfig}

/-- The entry is as it was, but for one message from `p` that may have come to its queue. -/
def Spared (P : Python) (p : PyStr) (x y : Entry) : Prop :=
  y = x ∨ ∃ m : Message, m.metadata.sender = .str p
    ∧ y = { x with queue := some (x.queue.getD [] ++ [serialize P m]) }

theorem Effect.spared {env : Env} {req : Request} {p q : PyStr} {s s' : Stores} {o : Outcome}
    (h : Effect P cfg env req p s o s') (hp : p ≠ []) (hq : q ≠ p) :
    Spared P p (s.entry q) (s'.entry q) := by
  have hpoll : ∀ query, pollId P p query = p := fun query => if_pos hp
  have hbeat : ∀ (s : Stores) (now : ℚ), ((s.pollHeartbeat p now).takeAll p).entry q
      = s.entry q := by
    intro s now
    rw [entry_takeAll, if_neg hq.symm, Stores.entry_pollHeartbeat, if_neg fun h => hq h.1.symm]
  cases h with
  | refused | raised | read | routed => exact .inl rfl
  | @enqueued _ raw m a e _ _ _ _ hfrom =>
    rw [Stores.entry_enqueue]
    split_ifs
    · exact .inr ⟨m, hfrom hp, rfl⟩
    · exact .inl rfl
  | registered _ _ _ _ _ hid =>
    rw [entry_registerStores, hid hp, if_neg hq.symm]
    exact .inl rfl
  | removed _ _ _ hid =>
    rw [entry_removeStores, hid hp, if_neg hq.symm]
    exact .inl rfl
  | polled _ _ ha =>
    rw [ha, hpoll, hbeat]
    exact .inl rfl
  | autoRegistered _ _ ha =>
    rw [ha, hpoll, hbeat, entry_autoRegisterStores, if_neg hq.symm]
    exact .inl rfl
  | halfPolled _ _ ha =>
    rw [ha, hpoll, entry_autoRegisterStores, if_neg hq.symm]
    exact .inl rfl

/-- The methods the handler has a function for. -/
def Supported (req : Request) : Prop :=
  req.method = lit "GET" ∨ req.method = lit "POST" ∨ req.method = lit "DELETE"

/-- Whatever a handler asks of `_authenticate` it is told: an id or a refusal. -/
theorem authenticate_total {req : Request} {allow : Bool}
    (h : allow → ∃ r, Url.urlsplit P req.path = .ok r) :
    (∃ p, authenticate P cfg allow req = .agent p)
      ∨ ∃ detail, authenticate P cfg allow req = .denied detail := by
  simp only [authenticate]
  split_ifs with h1 h2 h3 h4
  · exact .inl ⟨_, rfl⟩
  · split
    · exact .inl ⟨_, rfl⟩
    · exact .inr ⟨_, rfl⟩
  · exact .inr ⟨_, rfl⟩
  · obtain ⟨r, hr⟩ := h h4
    rw [hr]
    simp only
    split_ifs
    · split
      · exact .inl ⟨_, rfl⟩
      · exact .inr ⟨_, rfl⟩
    · exact .inr ⟨_, rfl⟩
  · exact .inr ⟨_, rfl⟩

/-- The requests that authentication decides on: a GET with a target that can be split, other
than the health probe, a POST or a DELETE. -/
def Decided (P : Python) (req : Request) : Prop :=
  (req.method = lit "GET" ∧ req.path ≠ healthPath ∧ ∃ r, Url.urlsplit P req.path = .ok r)
    ∨ req.method = lit "POST" ∨ req.method = lit "DELETE"

variable (cfg) in
theorem credentials_of_decided {req : Request} (h : Decided P req) :
    (∃ p, credentials P cfg req = some (.agent p))
      ∨ ∃ detail, credentials P cfg req = some (.denied detail) := by
  have hpost : (∃ p, some (authenticate P cfg false req) = some (.agent p))
      ∨ ∃ detail, some (authenticate P cfg false req) = some (.denied detail) := by
    simp only [Option.some.injEq]
    exact authenticate_total fun hf => Bool.noConfusion hf
  unfold credentials
  rcases h with ⟨hget, hhealth, ⟨path, query⟩, hr⟩ | hm | hm
  · rw [if_pos hget, getCredentials, if_neg hhealth]
    simp only [hr, Option.some.injEq]
    exact authenticate_total fun _ => ⟨_, hr⟩
  · have hget : ¬ req.method = lit "GET" := by
      rw [hm]
      decide
    rw [if_neg hget, if_pos hm]
    exact hpost
  · have hget : ¬ req.method = lit "GET" := by
      rw [hm]
      decide
    have hno : ¬ req.method = lit "POST" := by
      rw [hm]
      decide
    rw [if_neg hget, if_neg hno, if_pos hm]
    exact hpost

theorem credentials_of_not_decided {req : Request} (h : ¬ Decided P req) :
    credentials P cfg req = none := by
  simp only [Decided, not_or, not_and] at h
  obtain ⟨hget, hpost, hdelete⟩ := h
  rw [credentials, if_neg hpost, if_neg hdelete]
  split_ifs with hm
  · unfold getCredentials
    split_ifs with hhealth
    · rfl
    · split
      · rfl
      · rename_i hr
        exact absurd ⟨_, hr⟩ (hget hm hhealth)
  · rfl

/-- Every request authentication decides on is refused with 401 and changes nothing, or is
processed under an id: and if the id is not the empty one, the entries of all other agents are
spared. A request of a method the handler has no function for is answered 501 and changes
nothing. -/
theorem identity_isolation (env : Env) (req : Request) (b : Broker) :
    (Decided P req →
      (∃ detail, credentials P cfg req = some (.denied detail)
        ∧ handle P cfg env req b = (.answer (errorResponse 401 detail), b))
      ∨ ∃ p, credentials P cfg req = some (.agent p) ∧ (p ≠ [] → ∀ q, q ≠ p →
        Spared P p (b.stores.entry q) ((handle P cfg env req b).2.stores.entry q)))
      ∧ (¬ Supported req → handle P cfg env req b = (.answer ⟨501, .none, none⟩, b)) := by
  have heffect := handle_effect P cfg env req b
  refine ⟨fun hd => ?_, fun hs => ?_⟩
  · rcases credentials_of_decided cfg hd with ⟨p, hc⟩ | ⟨detail, hc⟩ <;>
      rw [hc] at heffect
    · exact .inr ⟨p, hc, fun hp q hq => Effect.spared heffect hp hq⟩
    · exact .inl ⟨detail, hc, Prod.ext heffect.1 heffect.2⟩
  · simp only [Supported, not_or] at hs
    rw [handle, if_neg hs.1, if_neg hs.2.1, if_neg hs.2.2]

/-- A request with a method of its own and no credential, to a broker that asks for one. -/
def putRequest : Request := ⟨lit "PUT", lit "/agents", none, none, []⟩

/-- Such a request is answered 501, not 401. -/
theorem unauthenticated_put : ∃ cfg : ServerConfig, cfg.agentTokens ≠ none
    ∧ (∃ detail, authenticate (plainPython []) cfg false putRequest = .denied detail)
    ∧ putRequest.path ≠ healthPath
    ∧ ∀ env b, (handle (plainPython []) cfg env putRequest b).1.status? = some 501 := by
  refine ⟨{ ServerConfig.defaults with agentTokens := some Dict.empty }, by simp, ⟨_, rfl⟩,
    by decide, fun env b => rfl⟩

end AgentComm
