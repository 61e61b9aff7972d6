import AgentComm.Proofs.Entries

/-!
# The table the stores stand for

What the broker is for: a table with one record for each registered agent. A record is complete,
and that of an agent whose endpoint is a mailbox has a queue.
-/

namespace AgentComm

/-- What the broker knows of an agent. -/
structure Record where
  endpoint : Endpoint
  capabilities : Fields
  heartbeat : ℚ
  ttl : ℤ
  queue : Option (List PyStr)
  boxed : endpoint.mailbox → queue.isSome

namespace Record

/-- The entry of a record, all of it there but the queue. -/
def entry (r : Record) : Entry :=
  ⟨some r.endpoint, some r.capabilities, some r.heartbeat, some r.ttl, r.queue⟩

def enqueue (m : PyStr) (r : Record) : Record :=
  { r with queue := some (r.queue.getD [] ++ [m]), boxed := fun _ => rfl }

/-- A poll refreshes the heartbeat and takes what is queued. -/
def fetch (now : ℚ) (r : Record) : Record :=
  { r with heartbeat := now, queue := some [], boxed := fun _ => rfl }

def dead (cfg : ServerConfig) (now : ℚ) (r : Record) : Bool :=
  expired cfg now r.heartbeat r.ttl r.endpoint.mailbox

end Record

/-- The agents with their records. -/
abbrev Table := PyStr → Option Record

namespace Table

def empty : Table := fun _ => none

def queue (T : Table) (a : PyStr) : Option (List PyStr) := (T a).bind Record.queue

/-- A registration replaces all but the queue, and the TTL too if it comes with one. -/
def register (now : ℚ) (default : ℤ) (e : Endpoint) (caps : Fields) (ttl : Option ℤ) (T : Table) :
    Table :=
  Function.update T e.agentId <| some
    { endpoint := e
      capabilities := caps
      heartbeat := now
      ttl := ttl.getD ((T e.agentId).elim default Record.ttl)
      queue := if e.mailbox then some ((T.queue e.agentId).getD []) else T.queue e.agentId
      boxed := by
        intro h
        rw [if_pos h]
        rfl }

/-- A mailbox record for an agent with no queue, around what is known of it. -/
def openMailbox (now : ℚ) (default : ℤ) (a : PyStr) (T : Table) : Table :=
  Function.update T a <| some
    { endpoint := Entry.mailboxEndpoint a
      capabilities := (T a).elim [] Record.capabilities
      heartbeat := now
      ttl := (T a).elim default Record.ttl
      queue := some []
      boxed := fun _ => rfl }

def poll (now : ℚ) (default : ℤ) (a : PyStr) (T : Table) : Table :=
  if (T.queue a).isSome then Function.update T a ((T a).map (Record.fetch now))
  else T.openMailbox now default a

def send (a m : PyStr) (T : Table) : Table := Function.update T a ((T a).map (Record.enqueue m))

def remove (a : PyStr) (T : Table) : Table := Function.update T a none

def evict (dead : Record → Bool) (T : Table) : Table := fun a => (T a).filter fun r => !dead r

end Table

/-- The stores hold the records of the table and nothing else. -/
def Refines (s : Stores) (T : Table) : Prop := ∀ a, s.entry a = (T a).elim .blank Record.entry

/-- The five stores are about the same agents: each of four knows the agents the registry knows,
a mailbox has a queue, and a queue is that of a registered agent. -/
structure Stores.Aligned (s : Stores) : Prop where
  capabilities : ∀ a, (s.capabilities.get? a).isSome ↔ (s.registry.get? a).isSome
  heartbeat : ∀ a, (s.lastHeartbeat.get? a).isSome ↔ (s.registry.get? a).isSome
  ttl : ∀ a, (s.ttlSeconds.get? a).isSome ↔ (s.registry.get? a).isSome
  mailbox : ∀ a e, s.registry.get? a = some e → e.mailbox → (s.mailboxes.ref? a).isSome
  queue : ∀ a, (s.mailboxes.ref? a).isSome → (s.registry.get? a).isSome

namespace Refines

variable {s s' : Stores} {T : Table}

theorem empty : Refines Stores.empty Table.empty := fun _ => rfl

theorem of_some (h : Refines s T) {a : PyStr} {r : Record} (hr : T a = some r) :
    s.entry a = r.entry := by
  rw [h a, hr]
  rfl

theorem of_none (h : Refines s T) {a : PyStr} (hr : T a = none) : s.entry a = .blank := by
  rw [h a, hr]
  rfl

theorem queue (h : Refines s T) (a : PyStr) : (s.entry a).queue = T.queue a := by
  rcases hr : T a with _ | r
  · rw [h.of_none hr]
    simp [Table.queue, hr, Entry.blank]
  · rw [h.of_some hr]
    simp [Table.queue, hr, Record.entry]

theorem exists_record (h : Refines s T) {a : PyStr} {e : Endpoint}
    (he : s.registry.get? a = some e) : ∃ r, T a = some r ∧ r.endpoint = e := by
  rcases hr : T a with _ | r
  · have hblank : (s.entry a).endpoint = none := by rw [h.of_none hr, Entry.blank]
    rw [Stores.entry, he] at hblank
    cases hblank
  · have hrec : (s.entry a).endpoint = some r.endpoint := by rw [h.of_some hr, Record.entry]
    rw [Stores.entry, he] at hrec
    cases hrec
    exact ⟨r, rfl, rfl⟩

/-- A change of one entry is a change of one record. -/
theorem update (h : Refines s T) {a : PyStr} {x : Option Record}
    (ha : s'.entry a = x.elim .blank Record.entry)
    (hother : ∀ b, a ≠ b → s'.entry b = s.entry b) : Refines s' (Function.update T a x) := by
  intro b
  rcases eq_or_ne a b with rfl | hb
  · rw [Function.update_self, ha]
  · rw [Function.update_of_ne hb.symm, hother b hb, h b]

theorem aligned (h : Refines s T) : s.Aligned := by
  have hentry : ∀ a, ((s.entry a).capabilities.isSome ↔ (s.entry a).endpoint.isSome)
      ∧ ((s.entry a).heartbeat.isSome ↔ (s.entry a).endpoint.isSome)
      ∧ ((s.entry a).ttl.isSome ↔ (s.entry a).endpoint.isSome)
      ∧ ((s.entry a).queue.isSome → (s.entry a).endpoint.isSome) := by
    intro a
    rcases hr : T a with _ | r
    · rw [h.of_none hr]
      simp [Entry.blank]
    · rw [h.of_some hr]
      simp [Record.entry]
  have hqueue : ∀ a, (s.mailboxes.ref? a).isSome = (s.entry a).queue.isSome :=
    fun a => (s.mailboxes.queue_isSome a).symm
  refine ⟨fun a => (hentry a).1, fun a => (hentry a).2.1, fun a => (hentry a).2.2.1, ?_, ?_⟩
  · intro a e he hm
    obtain ⟨r, hr, rfl⟩ := h.exists_record he
    rw [hqueue, h.of_some hr]
    exact r.boxed hm
  · intro a hq
    rw [hqueue] at hq
    exact (hentry a).2.2.2 hq

end Refines

end AgentComm
