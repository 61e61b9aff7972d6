import AgentComm.Broker.Messaging
import AgentComm.Broker.Sweep

/-!
# What whole operations do to an entry

A registration, a removal, a poll's re-registration and a sweep, each run with nothing else
between its sections, seen from the entry of one agent.
-/

namespace AgentComm

open Lib

namespace Entry

def blank : Entry := ⟨none, none, none, none, none⟩

def register (now : ℚ) (e : Endpoint) (caps : Fields) (ttl : Option ℤ) (x : Entry) : Entry where
  endpoint := some e
  capabilities := some caps
  heartbeat := some now
  ttl := ttl.or x.ttl
  queue := if e.mailbox then some (x.queue.getD []) else x.queue

/-- The endpoint a poll registers. -/
def mailboxEndpoint (a : PyStr) : Endpoint :=
  { agentId := a, host := lit "mailbox", port := 0, mailbox := true }

def autoRegister (now : ℚ) (default : ℤ) (a : PyStr) (x : Entry) : Entry where
  endpoint := some (mailboxEndpoint a)
  capabilities := some (x.capabilities.getD [])
  heartbeat := some now
  ttl := some (x.ttl.getD default)
  queue := some (x.queue.getD [])

def sweep (cfg : ServerConfig) (now : ℚ) (mailbox : Bool) (x : Entry) : Entry :=
  match x.heartbeat, x.ttl with
  | some lastHb, some ttl => if expired cfg now lastHb ttl mailbox then blank else x
  | _, _ => x

end Entry

variable (cfg : ServerConfig) (now : ℚ) (s : Stores) (a b : PyStr)

theorem entry_removeStores :
    (removeStores a s).entry b = if a = b then .blank else s.entry b := by
  simp only [removeStores, Stores.entry_dropMailbox, Stores.entry_delHeartbeat,
    Stores.entry_delCapabilities, Stores.entry_delEndpoint]
  split_ifs <;> rfl

theorem entry_registerStores (r : Registration) (isNew : Bool) :
    (registerStores cfg now r isNew s).entry b
      = if r.agentId = b then
          (s.entry b).register now r.endpoint r.caps (r.ttlToSet cfg isNew)
        else s.entry b := by
  have hput : ∀ s : Stores, (s.putEndpoint r.endpoint).entry b = if r.agentId = b then
      { s.entry b with endpoint := some r.endpoint } else s.entry b :=
    fun s => s.entry_putEndpoint b r.endpoint
  unfold registerStores
  cases hm : r.endpoint.mailbox <;>
    simp only [Stores.entry_registerHeartbeat, Stores.entry_putCapabilities,
      Stores.entry_ensureMailbox, hput, if_true, if_false, Bool.false_eq_true] <;>
    split_ifs <;> simp only [Entry.register, hm, if_true, if_false, Bool.false_eq_true]

theorem entry_autoRegisterStores :
    (autoRegisterStores cfg now a s).entry b
      = if a = b then (s.entry b).autoRegister now cfg.defaultTtlSeconds a else s.entry b := by
  simp only [autoRegisterStores, Stores.entry_autoHeartbeat, Stores.entry_ensureCapabilities,
    Stores.entry_ensureMailbox, Stores.entry_putEndpoint]
  split_ifs <;> rfl

theorem entry_sweepAgent (e : Endpoint) :
    (sweepAgent cfg now s e).entry b
      = if e.agentId = b then (s.entry b).sweep cfg now e.mailbox else s.entry b := by
  unfold sweepAgent
  split
  · rename_i lastHb ttl hh ht
    split_ifs with hx hb hb
    · rw [entry_removeStores, if_pos hb]
      simp only [Entry.sweep, Stores.entry, ← hb, hh, ht, hx, if_true]
    · rw [entry_removeStores, if_neg hb]
    · simp only [Entry.sweep, Stores.entry, ← hb, hh, ht, hx, if_false, Bool.false_eq_true]
    · rfl
  · rename_i hno
    split_ifs with hb
    · subst hb
      simp only [Entry.sweep, Stores.entry]
    · rfl

/-- A sweep over a list of endpoints of distinct agents takes each in turn. -/
theorem entry_sweep_list : ∀ (l : List Endpoint) (s : Stores), (l.map Endpoint.agentId).Nodup →
    (l.foldl (sweepAgent cfg now) s).entry b
      = match l.find? (·.agentId = b) with
        | some e => (s.entry b).sweep cfg now e.mailbox
        | none => s.entry b
  | [], s, _ => rfl
  | e :: l, s, hn => by
    simp only [List.map_cons, List.nodup_cons] at hn
    rw [List.foldl_cons, entry_sweep_list l _ hn.2, List.find?_cons]
    by_cases hb : e.agentId = b
    · have hl : l.find? (·.agentId = b) = none := by
        rw [List.find?_eq_none]
        intro e' he' heq
        simp only [decide_eq_true_eq] at heq
        exact hn.1 (List.mem_map.2 ⟨e', he', heq.trans hb.symm⟩)
      simp only [hl, hb, decide_true, entry_sweepAgent, if_true]
    · simp only [hb, decide_false, entry_sweepAgent, if_false]

/-- A sweep takes out the registered agents that are expired, and changes nothing else. -/
theorem entry_sweepOnce :
    (sweepOnce cfg now s).entry b
      = match (s.entry b).endpoint with
        | some e => (s.entry b).sweep cfg now e.mailbox
        | none => s.entry b := by
  rw [sweepOnce, entry_sweep_list cfg now b _ _ s.registry.nodup_listAgents]
  have hfind : s.registry.listAgents.find? (·.agentId = b) = (s.entry b).endpoint := by
    rcases hf : s.registry.listAgents.find? (·.agentId = b) with _ | e
    · rcases he : s.registry.get? b with _ | e
      · exact hf.trans he.symm
      · have hkey := s.registry.keyed he
        rw [List.find?_eq_none] at hf
        have hm : e ∈ s.registry.listAgents := by
          rw [Registry.mem_listAgents, hkey, he]
        exact absurd (by simpa using hkey) (hf e hm)
    · have hkey : e.agentId = b := by simpa using List.find?_some hf
      have hm := Registry.mem_listAgents.1 (List.mem_of_find?_eq_some hf)
      rw [hkey] at hm
      exact hf.trans hm.symm
  rw [hfind]

end AgentComm
