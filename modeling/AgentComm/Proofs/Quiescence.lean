import AgentComm.Proofs.Phases
import AgentComm.Broker.Handler
import AgentComm.Proofs.Entries
import AgentComm.Proofs.Sections
import Mathlib.Data.Set.Image

/-!
# The stores at quiescence

Every section a thread goes through is a move of its phase. In a run in which no removal of an
agent starts beside a registration of it that is under way, and no registration beside a removal,
the stores agree on it once all threads are done; without that they need not.
-/

namespace AgentComm

open Lib

variable {cfg : ServerConfig} {a : PyStr}

namespace Thread

variable (cfg a)

/-- What a thread is doing to the record of `a`. -/
def phase : Thread → Phase
  | registerEndpoint r isNew =>
    if r.agentId = a ∧ (r.ttlToSet cfg isNew).isNone then .checked else .out
  | registerMailbox r isNew | registerCapabilities r isNew =>
    if r.agentId = a then .filling true (r.ttlToSet cfg isNew).isSome else .out
  | registerHeartbeat r isNew =>
    if r.agentId = a then .filling false (r.ttlToSet cfg isNew).isSome else .out
  | autoMailbox b _ | autoCapabilities b _ => if b = a then .filling true true else .out
  | autoHeartbeat b _ => if b = a then .filling false true else .out
  | deregisterCapabilities b => if b = a then .emptying true else .out
  | deregisterHeartbeat b => if b = a then .emptying false else .out
  | evictCapabilities _ e _ => if e.agentId = a then .emptying true else .out
  | evictHeartbeat _ e _ => if e.agentId = a then .emptying false else .out
  | _ => .out

end Thread

def Section.touch (a : PyStr) : Section → Touch
  | putEndpoint e => if e.agentId = a then .writes else .none
  | delEndpoint b => if b = a then .drops else .none
  | _ => .none

theorem Move.outside {x y : Entry} {q q' : Phase} (hx : y.presence = x.presence) (hq : q = .out)
    (hq' : q' = .out) : Move .none q x.presence q' y.presence := by
  rw [hx, hq, hq']
  exact .stay _ _

/-- A section is a move of its thread's phase. -/
theorem Thread.step_move {now : ℚ} {s : Stores} {t t' : Thread} {sec : Section}
    (h : t.step cfg now s = some (sec, t')) :
    Move (sec.touch a) (t.phase cfg a) (s.entry a).presence (t'.phase cfg a)
      (sec.onEntry a (s.entry a)).presence := by
  cases t with
  | idle => cases h
  | done => cases h
  | registerLookup r =>
    cases h
    simp only [phase, Section.onEntry, Section.touch]
    split_ifs with hr
    · refine .check ?_
      have hnew : s.isNew r.agentId ≠ true := by
        intro hn
        rcases hrt : r.ttl <;> simp [Registration.ttlToSet, hrt, hn] at hr
      simp only [Stores.isNew, Bool.not_eq_true, Option.isNone_eq_false_iff, hr.1] at hnew
      exact hnew
    · exact .stay _ _
  | registerEndpoint r isNew =>
    cases h
    have hnext : (if r.endpoint.mailbox then registerMailbox r isNew
        else registerCapabilities r isNew).phase cfg a
        = if r.agentId = a then .filling true (r.ttlToSet cfg isNew).isSome else .out := by
      cases r.endpoint.mailbox <;> rfl
    rw [hnext]
    simp only [phase, Section.onEntry, Section.touch]
    by_cases hr : r.agentId = a
    · have hr' : r.endpoint.agentId = a := hr
      simp only [hr, hr', if_true, true_and]
      rcases r.ttlToSet cfg isNew with _ | ttl
      · exact .refill _
      · exact .fill _
    · have hr' : ¬ r.endpoint.agentId = a := hr
      simp only [hr, hr', if_false, false_and]
      exact .stay _ _
  | registerMailbox | deregisterMailbox | autoMailbox | evictMailbox =>
    cases h
    simp only [phase, Section.onEntry, Section.touch]
    split_ifs <;> exact .stay _ _
  | registerCapabilities | autoCapabilities =>
    cases h
    simp only [phase, Section.onEntry, Section.touch]
    split_ifs
    · exact .caps _ _
    · exact .stay _ _
  | registerHeartbeat r isNew =>
    cases h
    simp only [phase, Section.onEntry, Section.touch]
    split_ifs
    · have := Move.beat (r.ttlToSet cfg isNew).isSome (s.entry a).presence
      simpa [Entry.presence, Option.isSome_or, Bool.or_comm] using this
    · exact .stay _ _
  | deregisterEndpoint | evictEndpoint =>
    cases h
    simp only [phase, Section.onEntry, Section.touch]
    split_ifs
    · exact .empty _
    · exact .stay _ _
  | deregisterCapabilities | evictCapabilities =>
    cases h
    simp only [phase, Section.onEntry, Section.touch]
    split_ifs
    · exact .dropCaps _
    · exact .stay _ _
  | deregisterHeartbeat | evictHeartbeat =>
    cases h
    simp only [phase, Section.onEntry, Section.touch]
    split_ifs
    · exact .dropBeat _
    · exact .stay _ _
  | sendLookup b m =>
    cases h
    refine .outside rfl rfl ?_
    split
    · rfl
    · split_ifs <;> rfl
  | sendEnqueue b m =>
    cases h
    refine .outside ?_ rfl rfl
    simp only [Section.onEntry]
    split_ifs <;> rfl
  | sendRoute b =>
    cases h
    refine .outside rfl rfl ?_
    split <;> rfl
  | pollCheck b wait =>
    cases h
    refine .outside rfl rfl ?_
    split_ifs <;> rfl
  | autoEndpoint b wait =>
    cases h
    simp only [phase, Section.onEntry, Section.touch]
    split_ifs
    · exact .fill _
    · exact .stay _ _
  | autoHeartbeat b wait =>
    cases h
    simp only [phase, Section.onEntry, Section.touch]
    split_ifs
    · simpa [Entry.presence] using Move.beat true (s.entry a).presence
    · exact .stay _ _
  | pollHeartbeat b wait =>
    cases h
    simp only [phase, Section.onEntry, Section.touch]
    split_ifs with hb
    · have := Move.renew (s.entry a).presence
      simpa [Entry.presence, hb.2] using this
    · exact .stay _ _
  | pollEnter | pollWait =>
    rcases Thread.step_looks rfl h with ⟨-, rfl, rfl⟩ | ⟨_, -, rfl, rfl⟩ | ⟨_, _, -, rfl, rfl⟩
    · exact .stay _ _
    · refine .outside ?_ rfl rfl
      simp only [Section.onEntry]
      split_ifs <;> rfl
    · exact .stay _ _
  | sweepStart | sweepList =>
    cases h
    exact .stay _ _
  | sweepRead start endpoints =>
    rcases endpoints with _ | ⟨e, rest⟩ <;> cases h
    · exact .stay _ _
    · refine .outside rfl rfl ?_
      split
      · split_ifs <;> rfl
      · rfl

def World.phases (cfg : ServerConfig) (a : PyStr) (w : World) : Set Phase :=
  Set.range fun i => (w.threads i).phase cfg a

/-- No section drops the endpoint of an agent while a registration of it is under way that counts
on its record, and none writes the endpoint of an agent while a removal of it is under way. -/
def NoOverlap (cfg : ServerConfig) (w : World) (act : Action) : Prop :=
  ∀ i sec t a, act = .run i → (w.threads i).step cfg w.clock w.stores = some (sec, t) →
    (sec.touch a = .writes → ∀ j, ¬ ((w.threads j).phase cfg a).empties)
      ∧ (sec.touch a = .drops → ∀ j, ¬ ((w.threads j).phase cfg a).adds)

theorem phases_update (w : World) (s : Stores) (i : ℕ) (t : Thread) :
    World.phases cfg a { w with stores := s, threads := Function.update w.threads i t }
      = insert (t.phase cfg a) ((fun j => (w.threads j).phase cfg a) '' {i}ᶜ) := by
  unfold World.phases
  rw [← Set.insert_image_compl_eq_range _ i]
  congr 1
  · simp
  · refine Set.image_congr fun j hj => ?_
    simp only [Function.update_of_ne hj]

theorem phases_boot (clock : ℚ) : World.phases cfg a (World.boot clock) = {.out} := by
  simp [World.phases, World.boot, Thread.phase]

theorem kept_run {clock : ℚ} {tr : List Event} {w : World}
    (h : (brokerLts cfg).Run (NoOverlap cfg) (World.boot clock) tr w) :
    Kept (w.stores.entry a).presence (w.phases cfg a) := by
  have hboot : ∀ c, Kept ((World.boot c).stores.entry a).presence
      ((World.boot c).phases cfg a) := by
    intro c
    rw [phases_boot]
    constructor <;> simp [World.boot, Entry.presence]
  refine h.invariant (I := fun _ w => Kept (w.stores.entry a).presence (w.phases cfg a))
    (hboot clock) ?_
  intro tr w act w' es hI hok hs
  have hsplit : ∀ i, w.phases cfg a = insert ((w.threads i).phase cfg a)
      ((fun j => (w.threads j).phase cfg a) '' {i}ᶜ) :=
    fun i => (Set.insert_image_compl_eq_range _ i).symm
  rcases World.step_cases hs with ⟨i, call, -, hidle, rfl, rfl⟩ | ⟨i, sec, t, rfl, ht, rfl, rfl⟩
    | ⟨d, -, -, rfl, rfl⟩ | ⟨-, rfl, -⟩
  · rw [hsplit i, hidle] at hI
    rw [phases_update]
    have hstart : call.start.phase cfg a = .out := by cases call <;> rfl
    rwa [hstart]
  · obtain ⟨hwrites, hdrops⟩ := hok i sec t a rfl ht
    rw [hsplit i] at hI
    rw [World.entry_advance ht, World.advance, phases_update]
    refine hI.move (Thread.step_move ht) ?_ ?_
    · rintro hw _ ⟨j, -, rfl⟩
      exact hwrites hw j
    · rintro hd _ ⟨j, -, rfl⟩
      exact hdrops hd j
  · exact hI
  · exact hboot _

/-- The thread has not started, or has ended. -/
def Thread.atRest : Thread → Bool
  | idle | done _ => true
  | _ => false

/-- Every thread that was started is done. -/
def Quiescent (w : World) : Prop := ∀ i, (w.threads i).atRest

/-- The registry, the capabilities and the liveness stores hold the same agents. -/
def Agree (s : Stores) : Prop :=
  ∀ a, ((s.entry a).endpoint.isSome ↔ (s.entry a).capabilities.isSome)
    ∧ ((s.entry a).endpoint.isSome ↔ (s.entry a).heartbeat.isSome)
    ∧ ((s.entry a).endpoint.isSome ↔ (s.entry a).ttl.isSome)

theorem Quiescent.phases {w : World} (h : Quiescent w) : ∀ x ∈ w.phases cfg a, x = .out := by
  rintro _ ⟨i, rfl⟩
  have hi := h i
  simp only
  cases hw : w.threads i <;> rw [hw] at hi <;> first | rfl | cases hi

/-- What discovery lists can be looked up. -/
theorem Agree.lookup {s : Stores} (h : Agree s) (P : Python) {now : ℚ} {x : Fields}
    (hx : x ∈ discover s now) : ∃ a e, x.get (lit "agent_id") = .str a
      ∧ s.registry.lookup P (.str a) = .ok e := by
  obtain ⟨⟨b, caps⟩, hm, rfl⟩ := List.mem_map.1 hx
  have hc : (s.entry b).capabilities.isSome := by
    rw [Option.isSome_iff_exists]
    exact ⟨caps, Dict.mem_entries.1 hm⟩
  obtain ⟨e, he⟩ := Option.isSome_iff_exists.1 ((h b).1.2 hc)
  have hget : s.registry.get? b = some e := he
  exact ⟨b, e, rfl, by rw [Registry.lookup, hget]⟩

/-- What is registered can expire. -/
theorem Agree.evictable {s : Stores} (h : Agree s) {e : Endpoint}
    (he : (s.entry a).endpoint = some e) : ∃ lastHb ttl, (s.entry a).heartbeat = some lastHb
      ∧ (s.entry a).ttl = some ttl
      ∧ ∀ now, expired cfg now lastHb ttl e.mailbox → (sweepOnce cfg now s).entry a = .blank := by
  have hs : (s.entry a).endpoint.isSome := by rw [he, Option.isSome_some]
  obtain ⟨lastHb, hb⟩ := Option.isSome_iff_exists.1 ((h a).2.1.1 hs)
  obtain ⟨ttl, ht⟩ := Option.isSome_iff_exists.1 ((h a).2.2.1 hs)
  refine ⟨lastHb, ttl, hb, ht, fun now hx => ?_⟩
  rw [entry_sweepOnce, he]
  simp only [Entry.sweep, hb, ht, hx, if_true]

/-- When all threads of a run without overlaps are done, the stores agree: every agent listed
can be looked up, and every registered one has a heartbeat and a TTL that a sweep evicts it by. -/
theorem stores_agree {clock : ℚ} {tr : List Event} {w : World}
    (h : (brokerLts cfg).Run (NoOverlap cfg) (World.boot clock) tr w) (hq : Quiescent w) :
    Agree w.stores
      ∧ (∀ P now, ∀ x ∈ discover w.stores now, ∃ a e, x.get (lit "agent_id") = .str a
        ∧ w.stores.registry.lookup P (.str a) = .ok e)
      ∧ ∀ a e, (w.stores.entry a).endpoint = some e →
        ∃ lastHb ttl, (w.stores.entry a).heartbeat = some lastHb
          ∧ (w.stores.entry a).ttl = some ttl
          ∧ ∀ now, expired cfg now lastHb ttl e.mailbox →
            (sweepOnce cfg now w.stores).entry a = .blank := by
  have hagree : Agree w.stores := by
    intro a
    obtain ⟨hc, hb, ht⟩ := (kept_run (a := a) h).settled hq.phases
    simp only [Entry.presence] at hc hb ht
    rw [hc, hb, ht]
    exact ⟨Iff.rfl, Iff.rfl, Iff.rfl⟩
  exact ⟨hagree, fun P _ _ hx => hagree.lookup P hx, fun _ _ he => hagree.evictable he⟩

theorem noOverlap_of_alone {w : World} {i : ℕ} {act : Action} (h : w.Alone i) :
    NoOverlap cfg w act := by
  rintro k sec t b rfl ht
  have hk : k = i := by
    by_contra hk
    rw [h k hk] at ht
    cases ht
  subst hk
  have hother : ∀ j, j ≠ k → (w.threads j).phase cfg b = .out := by
    intro j hj
    rw [h j hj]
    rfl
  have hm := Thread.step_move (a := b) ht
  constructor <;> intro htouch j <;> rw [htouch] at hm <;> by_cases hj : j = k
  · exact hj ▸ hm.not_empties
  · simp [hother j hj]
  · exact hj ▸ hm.not_adds
  · simp [hother j hj]

def loneRegistration : List Action :=
  .spawn 0 (.register ⟨{ agentId := lit "a", host := lit "mailbox", port := 0, mailbox := true },
    [], none⟩) :: List.replicate 5 (.run 0)

theorem stores_agree_registered : ∃ tr w,
    (brokerLts .defaults).Run (NoOverlap .defaults) (World.boot 0) tr w ∧ Quiescent w
      ∧ (w.stores.entry (lit "a")).endpoint.isSome ∧ Agree w.stores := by
  obtain ⟨⟨w, tr⟩, he⟩ : ∃ r, (brokerLts .defaults).exec (World.boot 0) loneRegistration = some r :=
    Option.isSome_iff_exists.1 (by decide)
  have hend : ((brokerLts .defaults).exec (World.boot 0) loneRegistration).map
      (fun r => ((r.1.threads 0).atRest, (r.1.stores.entry (lit "a")).endpoint.isSome))
        = some (true, true) := by decide
  rw [he] at hend
  simp only [Option.map_some, Option.some.injEq, Prod.mk.injEq] at hend
  have hspare : ∀ act ∈ loneRegistration, ∀ j, j ≠ 0 → act.spares j := by
    simp [loneRegistration, Action.spares, eq_comm]
  have hrun : (brokerLts .defaults).Run (NoOverlap .defaults) (World.boot 0) tr w :=
    Lts.run_of_execIf (I := World.Alone 0) (fun _ _ => rfl)
      (fun act hact _ _ _ hI _ hs => ⟨noOverlap_of_alone hI, hI.step hs (hspare act hact)⟩) he
  have hq : Quiescent w := by
    rintro (_ | j)
    · exact hend.1
    · rw [World.threads_of_exec he fun act hact => hspare act hact _ (Nat.succ_ne_zero j)]
      rfl
  exact ⟨tr, w, hrun, hq, hend.2, (stores_agree hrun hq).1⟩

/-- A registration looks its agent up, the agent deregisters, and the registration goes on. -/
def overtaken : List Action :=
  let r : Registration :=
    ⟨{ agentId := lit "a", host := lit "mailbox", port := 0, mailbox := true }, [], none⟩
  [.spawn 0 (.register r), .run 0, .run 0, .run 0, .run 0, .run 0, .spawn 1 (.register r), .run 1,
    .spawn 2 (.deregister (lit "a")), .run 2, .run 2, .run 2, .run 2, .run 1, .run 1, .run 1,
    .run 1]

/-- The agent is then registered for good, with no TTL for a sweep to go by. -/
theorem stores_disagree : ∃ tr w, (brokerLts .defaults).Free (World.boot 0) tr w ∧ Quiescent w
    ∧ ¬ Agree w.stores := by
  obtain ⟨⟨w, tr⟩, he⟩ : ∃ r, (brokerLts .defaults).exec (World.boot 0) overtaken = some r :=
    Option.isSome_iff_exists.1 (by decide)
  have hrest : ((brokerLts .defaults).exec (World.boot 0) overtaken).map
      (fun r => (r.1.threads 0).atRest && (r.1.threads 1).atRest && (r.1.threads 2).atRest)
        = some true := by decide
  have hlost : ((brokerLts .defaults).exec (World.boot 0) overtaken).map
      (fun r => ((r.1.stores.entry (lit "a")).endpoint.isSome,
        (r.1.stores.entry (lit "a")).ttl.isSome)) = some (true, false) := by decide
  rw [he] at hrest hlost
  simp only [Option.map_some, Option.some.injEq, Bool.and_eq_true, Prod.mk.injEq] at hrest hlost
  refine ⟨tr, w, Lts.run_of_exec (fun _ _ _ => trivial) he, ?_, fun hA => ?_⟩
  · rintro (_ | _ | _ | i)
    · exact hrest.1.1
    · exact hrest.1.2
    · exact hrest.2
    · rw [World.threads_of_exec he]
      · rfl
      · simp [overtaken, Action.spares]
  · have := (hA (lit "a")).2.2
    rw [hlost.1, hlost.2] at this
    exact absurd (this.1 rfl) (by decide)

end AgentComm
