import AgentComm.Python

/-!
# Endpoints and the in-memory registry
-/

namespace AgentComm

open Lib

def defaultMessagePath : PyStr := lit "/messages"

def healthPath : PyStr := lit "/health"

/-- Where an agent listens; with `mailbox` set it has no listener and fetches its messages. -/
structure Endpoint where
  agentId : PyStr
  host : PyStr
  port : ℤ
  scheme : PyStr := lit "http"
  path : PyStr := defaultMessagePath
  mailbox : Bool := false
deriving DecidableEq

namespace Endpoint

def baseUrl (e : Endpoint) : PyStr :=
  e.scheme ++ lit "://" ++ e.host ++ lit ":" ++ intText e.port

def url (e : Endpoint) : PyStr := e.baseUrl ++ e.path

end Endpoint

/-- The registry: every endpoint is filed under its own agent id. -/
structure Registry where
  agents : Dict PyStr Endpoint
  keyed : ∀ {a e}, agents.get? a = some e → e.agentId = a

namespace Registry

variable (P : Python)

def empty : Registry := ⟨Dict.empty, by simp⟩

def get? (r : Registry) (agentId : PyStr) : Option Endpoint := r.agents.get? agentId

def unknownAgent (agentId : Json) : Exc :=
  ⟨.agentNotFoundError, lit "unknown agent: " ++ P.repr agentId⟩

def register (r : Registry) (e : Endpoint) : Registry where
  agents := r.agents.set e.agentId e
  keyed := by
    intro a e' h
    rw [Dict.get?_set] at h
    split_ifs at h with ha
    · cases h
      exact ha
    · exact r.keyed h

/-- `unregister`, with the error for an unknown agent suppressed, as the broker has it. -/
def pop (r : Registry) (agentId : PyStr) : Registry where
  agents := r.agents.pop agentId
  keyed := by
    intro a e h
    rw [Dict.get?_pop] at h
    split_ifs at h
    exact r.keyed h

/-- `lookup`: any hashable value may be asked for, and only strings are keys. -/
def lookup (r : Registry) : Json → Except Exc Endpoint
  | .str a =>
    match r.get? a with
    | some e => .ok e
    | none => .error (unknownAgent P (.str a))
  | .arr _ => .error ⟨.typeError, lit "unhashable type: 'list'"⟩
  | .obj _ => .error ⟨.typeError, lit "unhashable type: 'dict'"⟩
  | v => .error (unknownAgent P v)

def listAgents (r : Registry) : List Endpoint := r.agents.values

@[simp] theorem get?_empty (a : PyStr) : empty.get? a = none := rfl

@[simp] theorem get?_register (r : Registry) (e : Endpoint) (a : PyStr) :
    (r.register e).get? a = if e.agentId = a then some e else r.get? a :=
  Dict.get?_set _ _ _ _

@[simp] theorem get?_pop (r : Registry) (a b : PyStr) :
    (r.pop a).get? b = if a = b then none else r.get? b :=
  Dict.get?_pop _ _ _

theorem mem_listAgents {r : Registry} {e : Endpoint} :
    e ∈ r.listAgents ↔ r.get? e.agentId = some e := by
  refine Dict.mem_values.trans ⟨?_, fun h => ⟨_, h⟩⟩
  rintro ⟨a, h⟩
  rw [r.keyed h]
  exact h

/-- No agent is listed twice. -/
theorem nodup_listAgents (r : Registry) : (r.listAgents.map Endpoint.agentId).Nodup := by
  have hkeys : r.listAgents.map Endpoint.agentId = r.agents.entries.map Prod.fst := by
    rw [listAgents, Dict.values, List.map_map]
    exact List.map_congr_left fun x hx => r.keyed (Dict.mem_entries.1 hx)
  rw [hkeys]
  exact r.agents.nodup

end Registry

end AgentComm
