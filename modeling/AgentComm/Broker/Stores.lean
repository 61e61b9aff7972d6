import AgentComm.Lib.Deques
import AgentComm.Transport.Registry

/-!
# The broker's stores

Five stores under four locks hold what the broker knows of its agents. Each function here is one
lock-guarded section of the source. `Stores.entry` is what the stores hold of one agent, and
every section changes the entry of one agent only.
-/

namespace AgentComm

open Lib

/-- The five stores: `registry` under its own lock, `capabilities` under `capabilities_lock`,
`last_heartbeat` and `ttl_seconds` under `heartbeat_lock`, `mailboxes` under `mailbox_cond`. -/
structure Stores where
  registry : Registry
  capabilities : Dict PyStr Fields
  lastHeartbeat : Dict PyStr ℚ
  ttlSeconds : Dict PyStr ℤ
  mailboxes : Deques PyStr PyStr

/-- What the stores hold of one agent. -/
@[ext] structure Entry where
  endpoint : Option Endpoint
  capabilities : Option Fields
  heartbeat : Option ℚ
  ttl : Option ℤ
  queue : Option (List PyStr)

namespace Stores

def empty : Stores := ⟨Registry.empty, Dict.empty, Dict.empty, Dict.empty, Deques.empty⟩

def entry (s : Stores) (a : PyStr) : Entry :=
  ⟨s.registry.get? a, s.capabilities.get? a, s.lastHeartbeat.get? a, s.ttlSeconds.get? a,
    s.mailboxes.queue a⟩

/-! ### The registry's sections -/

def putEndpoint (s : Stores) (e : Endpoint) : Stores :=
  { s with registry := s.registry.register e }

def delEndpoint (s : Stores) (a : PyStr) : Stores := { s with registry := s.registry.pop a }

/-! ### Sections under `mailbox_cond` -/

def ensureMailbox (s : Stores) (a : PyStr) : Stores :=
  { s with mailboxes := s.mailboxes.setdefault a }

def enqueue (s : Stores) (a m : PyStr) : Stores := { s with mailboxes := s.mailboxes.push a m }

/-- Clear the queue a poll holds a reference to. -/
def drain (s : Stores) (mbox : ℕ) : Stores := { s with mailboxes := s.mailboxes.clear mbox }

def dropMailbox (s : Stores) (a : PyStr) : Stores := { s with mailboxes := s.mailboxes.pop a }

/-! ### Sections under `capabilities_lock` -/

def putCapabilities (s : Stores) (a : PyStr) (caps : Fields) : Stores :=
  { s with capabilities := s.capabilities.set a caps }

def ensureCapabilities (s : Stores) (a : PyStr) : Stores :=
  { s with capabilities := s.capabilities.setdefault a [] }

def delCapabilities (s : Stores) (a : PyStr) : Stores :=
  { s with capabilities := s.capabilities.pop a }

/-! ### Sections under `heartbeat_lock` -/

/-- A registration's heartbeat, with the TTL it sets if it sets one. -/
def registerHeartbeat (s : Stores) (a : PyStr) (now : ℚ) (ttl : Option ℤ) : Stores :=
  { s with
    lastHeartbeat := s.lastHeartbeat.set a now
    ttlSeconds := match ttl with
      | some t => s.ttlSeconds.set a t
      | none => s.ttlSeconds }

def autoHeartbeat (s : Stores) (a : PyStr) (now : ℚ) (default : ℤ) : Stores :=
  { s with
    lastHeartbeat := s.lastHeartbeat.set a now
    ttlSeconds := s.ttlSeconds.setdefault a default }

/-- A poll's heartbeat: only an agent with a TTL has one to renew. -/
def pollHeartbeat (s : Stores) (a : PyStr) (now : ℚ) : Stores :=
  if s.ttlSeconds.contains a then { s with lastHeartbeat := s.lastHeartbeat.set a now } else s

def delHeartbeat (s : Stores) (a : PyStr) : Stores :=
  { s with lastHeartbeat := s.lastHeartbeat.pop a, ttlSeconds := s.ttlSeconds.pop a }

/-! ### What a section does to an entry -/

variable (s : Stores) (a b : PyStr)

@[simp] theorem entry_empty : empty.entry a = ⟨none, none, none, none, none⟩ := rfl

@[simp] theorem entry_putEndpoint (e : Endpoint) :
    (s.putEndpoint e).entry b
      = if e.agentId = b then { s.entry b with endpoint := some e } else s.entry b := by
  simp only [entry, putEndpoint, Registry.get?_register]
  split_ifs <;> rfl

@[simp] theorem entry_delEndpoint :
    (s.delEndpoint a).entry b
      = if a = b then { s.entry b with endpoint := none } else s.entry b := by
  simp only [entry, delEndpoint, Registry.get?_pop]
  split_ifs <;> rfl

@[simp] theorem entry_ensureMailbox :
    (s.ensureMailbox a).entry b
      = if a = b then { s.entry b with queue := some ((s.entry b).queue.getD []) }
        else s.entry b := by
  simp only [entry, ensureMailbox, Deques.queue_setdefault]
  split_ifs with h
  · rw [h]
  · rfl

@[simp] theorem entry_enqueue (m : PyStr) :
    (s.enqueue a m).entry b
      = if a = b then { s.entry b with queue := some ((s.entry b).queue.getD [] ++ [m]) }
        else s.entry b := by
  simp only [entry, enqueue, Deques.queue_push]
  split_ifs with h
  · rw [h]
  · rfl

/-- Draining through the reference an agent's queue has empties that queue and no other. -/
theorem entry_drain {s : Stores} {a : PyStr} {r : ℕ} (h : s.mailboxes.ref? a = some r)
    (b : PyStr) :
    (s.drain r).entry b = if a = b then { s.entry b with queue := some [] } else s.entry b := by
  simp only [entry, drain, Deques.clear, Deques.queue_write h]
  split_ifs <;> rfl

@[simp] theorem entry_dropMailbox :
    (s.dropMailbox a).entry b
      = if a = b then { s.entry b with queue := none } else s.entry b := by
  simp only [entry, dropMailbox, Deques.queue_pop]
  split_ifs <;> rfl

@[simp] theorem entry_putCapabilities (caps : Fields) :
    (s.putCapabilities a caps).entry b
      = if a = b then { s.entry b with capabilities := some caps } else s.entry b := by
  simp only [entry, putCapabilities, Dict.get?_set]
  split_ifs <;> rfl

@[simp] theorem entry_ensureCapabilities :
    (s.ensureCapabilities a).entry b
      = if a = b then
          { s.entry b with capabilities := some ((s.entry b).capabilities.getD []) }
        else s.entry b := by
  simp only [entry, ensureCapabilities, Dict.get?_setdefault]
  split_ifs with h
  · rw [h]
  · rfl

@[simp] theorem entry_delCapabilities :
    (s.delCapabilities a).entry b
      = if a = b then { s.entry b with capabilities := none } else s.entry b := by
  simp only [entry, delCapabilities, Dict.get?_pop]
  split_ifs <;> rfl

@[simp] theorem entry_registerHeartbeat (now : ℚ) (ttl : Option ℤ) :
    (s.registerHeartbeat a now ttl).entry b
      = if a = b then
          { s.entry b with heartbeat := some now, ttl := ttl.or (s.entry b).ttl }
        else s.entry b := by
  rcases ttl with _ | t <;> simp only [entry, registerHeartbeat, Dict.get?_set] <;>
    split_ifs <;> rfl

@[simp] theorem entry_autoHeartbeat (now : ℚ) (default : ℤ) :
    (s.autoHeartbeat a now default).entry b
      = if a = b then
          { s.entry b with heartbeat := some now, ttl := some ((s.entry b).ttl.getD default) }
        else s.entry b := by
  simp only [entry, autoHeartbeat, Dict.get?_set, Dict.get?_setdefault]
  split_ifs with h
  · rw [h]
  · rfl

@[simp] theorem entry_pollHeartbeat (now : ℚ) :
    (s.pollHeartbeat a now).entry b
      = if a = b ∧ (s.entry b).ttl.isSome then { s.entry b with heartbeat := some now }
        else s.entry b := by
  unfold pollHeartbeat
  split_ifs with h1 h2 h2
  · simp [entry, h2.1]
  · have hab : a ≠ b := by
      rintro rfl
      exact h2 ⟨rfl, h1⟩
    simp [entry, hab]
  · obtain ⟨rfl, h2⟩ := h2
    exact absurd h2 h1
  · rfl

@[simp] theorem entry_delHeartbeat :
    (s.delHeartbeat a).entry b
      = if a = b then { s.entry b with heartbeat := none, ttl := none } else s.entry b := by
  simp only [entry, delHeartbeat, Dict.get?_pop]
  split_ifs <;> rfl

end Stores

end AgentComm
