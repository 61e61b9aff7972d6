import AgentComm.Broker.Stores
import Mathlib.Data.Set.Insert
import Mathlib.Tactic.Common

/-!
# One agent's record, written piece by piece

Seen by one agent, a thread is out of its record, about to write the endpoint on the strength of
a lookup, filling the record, or emptying it. As long as no thread starts to empty the record
while one fills it, nor to fill it while one empties it, what is missing of a registered agent is
still to be written, and what is left of an unregistered one still to be dropped.
-/

namespace AgentComm

/-- Which of the four stores hold something of an agent. -/
structure Presence where
  endpoint : Bool
  caps : Bool
  heartbeat : Bool
  ttl : Bool

def Entry.presence (x : Entry) : Presence :=
  ⟨x.endpoint.isSome, x.capabilities.isSome, x.heartbeat.isSome, x.ttl.isSome⟩

/-- What a thread is doing to an agent's record. -/
inductive Phase
  | out
  /-- its lookup found the agent, so it will set no TTL -/
  | checked
  /-- endpoint written: capabilities still to write or not, a TTL to set or not -/
  | filling (caps ttl : Bool)
  /-- endpoint dropped: capabilities still to drop or not -/
  | emptying (caps : Bool)

namespace Phase

/-- Counts on the record to be there. -/
@[simp, grind] def adds : Phase → Bool
  | checked | filling _ _ => true
  | _ => false

@[simp, grind] def fills : Phase → Bool
  | filling _ _ => true
  | _ => false

@[simp, grind] def fillsCaps : Phase → Bool
  | filling caps _ => caps
  | _ => false

@[simp, grind] def fillsTtl : Phase → Bool
  | filling _ ttl => ttl
  | _ => false

@[simp, grind] def empties : Phase → Bool
  | emptying _ => true
  | _ => false

@[simp, grind] def emptiesCaps : Phase → Bool
  | emptying caps => caps
  | _ => false

end Phase

/-- What a section does to an endpoint. -/
inductive Touch
  | none
  | writes
  | drops

/-- What one section of a thread does to a record. -/
inductive Move : Touch → Phase → Presence → Phase → Presence → Prop
  | stay (q p) : Move .none q p q p
  | check {p : Presence} (h : p.endpoint = true) : Move .none .out p .checked p
  | fill (p) : Move .writes .out p (.filling true true) { p with endpoint := true }
  | refill (p) : Move .writes .checked p (.filling true false) { p with endpoint := true }
  | caps (t p) : Move .none (.filling true t) p (.filling false t) { p with caps := true }
  | beat (t) (p : Presence) :
      Move .none (.filling false t) p .out { p with heartbeat := true, ttl := p.ttl || t }
  | renew (p : Presence) : Move .none .out p .out { p with heartbeat := p.heartbeat || p.ttl }
  | empty (p) : Move .drops .out p (.emptying true) { p with endpoint := false }
  | dropCaps (p) : Move .none (.emptying true) p (.emptying false) { p with caps := false }
  | dropBeat (p) : Move .none (.emptying false) p .out { p with heartbeat := false, ttl := false }

theorem Move.not_empties {q q' : Phase} {p p' : Presence} (h : Move .writes q p q' p') :
    ¬ q.empties := by
  cases h <;> simp

theorem Move.not_adds {q q' : Phase} {p p' : Presence} (h : Move .drops q p q' p') : ¬ q.adds := by
  cases h
  simp

/-- What is missing of a registered agent some thread will write, and what is left of an
unregistered one some thread will drop; `S` are the phases of the threads. -/
structure Kept (p : Presence) (S : Set Phase) : Prop where
  written : ∀ x ∈ S, x.adds → p.endpoint
  gone : ∀ x ∈ S, x.empties → ¬ p.endpoint
  caps : p.endpoint → ¬ p.caps → ∃ x ∈ S, x.fillsCaps
  heartbeat : p.endpoint → ¬ p.heartbeat → ∃ x ∈ S, x.fills
  ttl : p.endpoint → ¬ p.ttl → ∃ x ∈ S, x.fillsTtl
  noCaps : ¬ p.endpoint → p.caps → ∃ x ∈ S, x.emptiesCaps
  noHeartbeat : ¬ p.endpoint → p.heartbeat ∨ p.ttl → ∃ x ∈ S, x.empties

variable {p p' : Presence} {q q' : Phase} {S : Set Phase}

/-- A thread's move keeps the record while the others are `S`, if it does not write the endpoint
beside an emptying thread, nor drop it beside one that counts on the record. -/
theorem Kept.move {touch : Touch} (h : Kept p (insert q S)) (hm : Move touch q p q' p')
    (hwrites : touch = .writes → ∀ x ∈ S, ¬ x.empties)
    (hdrops : touch = .drops → ∀ x ∈ S, ¬ x.adds) : Kept p' (insert q' S) := by
  obtain ⟨hwritten, hgone, hcaps, hheartbeat, httl, hnoCaps, hnoHeartbeat⟩ := h
  simp only [Set.mem_insert_iff, forall_eq_or_imp, exists_eq_or_imp] at *
  refine ⟨?_, ?_, ?_, ?_, ?_, ?_, ?_⟩ <;>
    simp only [Set.mem_insert_iff, forall_eq_or_imp, exists_eq_or_imp]
  -- only the start of an emptying takes the endpoint away
  · clear hcaps hheartbeat httl hnoCaps hnoHeartbeat
    cases hm <;> grind
  -- only the start of a filling brings it back
  · clear hcaps hheartbeat httl hnoCaps hnoHeartbeat
    cases hm <;> grind
  -- what is emptied is not registered
  · clear hwritten hwrites hdrops hheartbeat httl hnoCaps hnoHeartbeat
    generalize (∃ x ∈ S, x.fillsCaps = true) = others at *
    cases hm <;> simp_all
  · clear hwritten hwrites hdrops hcaps httl hnoCaps hnoHeartbeat
    generalize (∃ x ∈ S, x.fills = true) = others at *
    cases hm <;> simp_all
  -- a thread that checked sets no TTL, but what it found had one, or has a thread to set it
  · clear hwrites hdrops hcaps hheartbeat hnoCaps hnoHeartbeat
    generalize (∃ x ∈ S, x.fillsTtl = true) = others at *
    cases hm <;> simp_all
    -- a heartbeat that sets none leaves that to the others
    exact fun hp ht => (httl hp).resolve_left (by simp [ht])
  -- what is filled is registered
  · clear hwrites hdrops hgone hcaps hheartbeat httl hnoHeartbeat
    generalize (∃ x ∈ S, x.emptiesCaps = true) = others at *
    cases hm <;> simp_all
  · clear hwrites hdrops hgone hcaps hheartbeat httl hnoCaps
    generalize (∃ x ∈ S, x.empties = true) = others at *
    cases hm <;> simp_all

/-- With every thread out of the record, it is all there or all gone. -/
theorem Kept.settled (h : Kept p S) (hS : ∀ x ∈ S, x = .out) :
    p.caps = p.endpoint ∧ p.heartbeat = p.endpoint ∧ p.ttl = p.endpoint := by
  have hno : ∀ {f : Phase → Bool}, f .out = false → ¬ ∃ x ∈ S, f x := by
    rintro f hf ⟨x, hx, hfx⟩
    rw [hS x hx, hf] at hfx
    cases hfx
  have hc : p.endpoint → p.caps := fun he => by_contra fun hc => hno rfl (h.caps he hc)
  have hb : p.endpoint → p.heartbeat := fun he => by_contra fun hb => hno rfl (h.heartbeat he hb)
  have ht : p.endpoint → p.ttl := fun he => by_contra fun ht => hno rfl (h.ttl he ht)
  have hc' : p.caps → p.endpoint := fun hc => by_contra fun he => hno rfl (h.noCaps he hc)
  have hb' : p.heartbeat → p.endpoint :=
    fun hb => by_contra fun he => hno rfl (h.noHeartbeat he (.inl hb))
  have ht' : p.ttl → p.endpoint :=
    fun ht => by_contra fun he => hno rfl (h.noHeartbeat he (.inr ht))
  exact ⟨Bool.eq_iff_iff.2 ⟨hc', hc⟩, Bool.eq_iff_iff.2 ⟨hb', hb⟩, Bool.eq_iff_iff.2 ⟨ht', ht⟩⟩

end AgentComm
