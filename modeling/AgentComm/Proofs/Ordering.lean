import AgentComm.Proofs.RoundTrip
import AgentComm.Sdk.Inbox

/-!
# The order in which messages are received

What is queued stands in one line: received, in the inbox, in the hands of workers, among the
tasks, in the batch, in the mailbox. Every step keeps the line, but for a worker that puts its
message before one that stands further ahead.
-/

namespace AgentComm

namespace Inbox

open Lib
open Pull (Delivery)

variable {n : ℤ} {s s' : State} {tr es : List Event} {k : ℕ} {d : Delivery}

/-! ### Histories -/

namespace Event

def queued? : Event → Option Delivery
  | queued d => some d
  | _ => none

def replied? : Event → Option ℕ
  | replied d => some d.number
  | _ => none

def received? : Event → Option Delivery
  | received d => some d
  | _ => none

end Event

def queuedOf (tr : List Event) : List Delivery := tr.filterMap Event.queued?

/-- The numbers of the messages that were taken as replies. -/
def repliedOf (tr : List Event) : List ℕ := tr.filterMap Event.replied?

def receivedOf (tr : List Event) : List Delivery := tr.filterMap Event.received?

/-- The messages queued that were not taken as replies, in the order they were queued. -/
def unconsumed (tr : List Event) : List Delivery :=
  (queuedOf tr).filter fun d => d.number ∉ repliedOf tr

theorem queuedOf_snoc (tr : List Event) (e : Event) :
    queuedOf (tr ++ [e]) = queuedOf tr ++ e.queued?.toList := by
  rw [queuedOf, List.filterMap_append]
  cases e <;> rfl

theorem repliedOf_snoc (tr : List Event) (e : Event) :
    repliedOf (tr ++ [e]) = repliedOf tr ++ e.replied?.toList := by
  rw [repliedOf, List.filterMap_append]
  cases e <;> rfl

theorem receivedOf_snoc (tr : List Event) (e : Event) :
    receivedOf (tr ++ [e]) = receivedOf tr ++ e.received?.toList := by
  rw [receivedOf, List.filterMap_append]
  cases e <;> rfl

theorem unconsumed_queued (h : d.number ∉ repliedOf tr) :
    unconsumed (tr ++ [.queued d]) = unconsumed tr ++ [d] := by
  simp [unconsumed, queuedOf_snoc, repliedOf_snoc, Event.queued?, Event.replied?, h]

theorem unconsumed_replied :
    unconsumed (tr ++ [.replied d]) = (unconsumed tr).filter (·.number ≠ d.number) := by
  simp only [unconsumed, queuedOf_snoc, repliedOf_snoc, Event.queued?, Event.replied?,
    Option.toList, List.append_nil, List.filter_filter, List.mem_append, List.mem_singleton]
  refine List.filter_congr fun d' _ => ?_
  simp [and_comm]

theorem unconsumed_received : unconsumed (tr ++ [.received d]) = unconsumed tr := by
  simp [unconsumed, queuedOf_snoc, repliedOf_snoc, Event.queued?, Event.replied?]

/-! ### What a step does -/

/-- A step, by the code it stands for. -/
inductive Move (n : ℤ) (s : State) : Action → State → List Event → Prop
  | queue {m} : Move n s (.queue m)
      { s with queued := s.queued + 1, mailbox := s.mailbox ++ [⟨s.queued, m⟩] }
      [.queued ⟨s.queued, m⟩]
  | poll (hb : s.batch = []) : Move n s .poll { s with batch := s.mailbox, mailbox := [] } []
  | submit {waiting batch} {d : Delivery} (hb : s.batch = d :: batch)
      (hp : Agent.toPool waiting d.message) :
      Move n s (.dispatch waiting) { s with batch := batch, tasks := s.tasks ++ [d] } []
  | reply {waiting batch} {d : Delivery} (hb : s.batch = d :: batch)
      (hp : ¬ Agent.toPool waiting d.message) :
      Move n s (.dispatch waiting) { s with batch := batch } [.replied d]
  | take {k : ℕ} {d : Delivery} {tasks} (hk : s.workers k = .idle) (ht : s.tasks = d :: tasks)
      (hn : (k : ℤ) < n) :
      Move n s (.take k) { s.setWorker k (.putting d) with tasks := tasks } []
  | put {k : ℕ} {d : Delivery} (hk : s.workers k = .putting d) :
      Move n s (.put k) { s.setWorker k .handling with inbox := s.inbox ++ [d] } []
  | finish {k : ℕ} (hk : s.workers k = .handling) : Move n s (.finish k) (s.setWorker k .idle) []
  | receive {d : Delivery} {inbox} (hi : s.inbox = d :: inbox) :
      Move n s .receive { s with inbox := inbox } [.received d]

theorem move_of_step {act : Action} (hs : (inboxLts n).step s act = some (s', es)) :
    Move n s act s' es := by
  cases act with
  | queue m =>
    cases hs
    exact .queue
  | poll =>
    simp only [inboxLts, State.step] at hs
    split at hs <;> cases hs
    exact .poll (by assumption)
  | dispatch waiting =>
    simp only [inboxLts, State.step] at hs
    split at hs
    · split_ifs at hs with hp <;> cases hs
      · exact .submit (by assumption) hp
      · exact .reply (by assumption) hp
    · cases hs
  | take k =>
    simp only [inboxLts, State.step] at hs
    split at hs
    · split_ifs at hs with hn
      cases hs
      exact .take (by assumption) (by assumption) hn
    · cases hs
  | put k =>
    simp only [inboxLts, State.step] at hs
    split at hs <;> cases hs
    exact .put (by assumption)
  | finish k =>
    simp only [inboxLts, State.step] at hs
    split at hs <;> cases hs
    exact .finish (by assumption)
  | receive =>
    simp only [inboxLts, State.step] at hs
    split at hs <;> cases hs
    exact .receive (by assumption)

/-! ### The line -/

/-- A worker that puts its message into the inbox has the one that was queued first of those that
workers are about to put. -/
def InTurn (s : State) (act : Action) : Prop :=
  ∀ k d, act = .put k → s.workers k = .putting d →
    ∀ k' d', s.workers k' = .putting d' → d.number ≤ d'.number

/-- `held` are the messages in the hands of workers, and the line is as it was queued. -/
structure InLine (tr : List Event) (s : State) (held : List Delivery) : Prop where
  order : unconsumed tr
    = receivedOf tr ++ s.inbox ++ held ++ s.tasks ++ s.batch ++ s.mailbox
  held : ∀ d, d ∈ held ↔ ∃ k, s.workers k = .putting d
  alone : ∀ k k' d, s.workers k = .putting d → s.workers k' = .putting d → k = k'
  sorted : (queuedOf tr).Pairwise (·.number < ·.number)
  queued : ∀ d ∈ queuedOf tr, d.number < s.queued
  replied : ∀ i ∈ repliedOf tr, i < s.queued

theorem inLine_init : InLine [] State.init [] where
  order := rfl
  held d := by simp [State.init]
  alone k k' d h := by cases h
  sorted := .nil
  queued d h := by cases h
  replied i h := by cases h

variable {held tasks inbox batch : List Delivery}

@[simp] theorem State.setWorker_workers (k k' : ℕ) (w : Worker) :
    (s.setWorker k w).workers k' = if k' = k then w else s.workers k' := by
  simp [State.setWorker, Function.update_apply]

/-- One message taken out of a sorted line leaves the others. -/
theorem filter_of_increasing {l l' : List Delivery}
    (h : (l ++ d :: l').Pairwise (·.number < ·.number)) :
    (l ++ d :: l').filter (·.number ≠ d.number) = l ++ l' := by
  obtain ⟨-, htail, hbefore⟩ := List.pairwise_append.1 h
  have hl : ∀ x ∈ l, x.number ≠ d.number := fun x hx =>
    (hbefore x hx d List.mem_cons_self).ne
  have hl' : ∀ x ∈ l', x.number ≠ d.number := fun x hx => (List.rel_of_pairwise_cons htail hx).ne'
  rw [List.filter_append, List.filter_eq_self.2 (by simpa using hl), List.filter_cons]
  simp only [ne_eq, not_true_eq_false, decide_false, Bool.false_eq_true, if_false]
  rw [List.filter_eq_self.2 (by simpa using hl')]

/-- The line is sorted by number. -/
theorem InLine.increasing (h : InLine tr s held) :
    (receivedOf tr ++ s.inbox ++ held ++ s.tasks ++ s.batch ++ s.mailbox).Pairwise
      (·.number < ·.number) := by
  rw [← h.order]
  exact h.sorted.filter _

/-- A message that the broker queues goes to the end of the line. -/
theorem InLine.queue (h : InLine tr s held) (m : Message) :
    InLine (tr ++ [.queued ⟨s.queued, m⟩])
      { s with queued := s.queued + 1, mailbox := s.mailbox ++ [⟨s.queued, m⟩] } held where
  order := by
    have hfresh : s.queued ∉ repliedOf tr := fun hi => lt_irrefl _ (h.replied _ hi)
    rw [unconsumed_queued hfresh, h.order, receivedOf_snoc]
    simp [Event.received?]
  held := h.held
  alone := h.alone
  sorted := by
    rw [queuedOf_snoc, List.pairwise_append]
    refine ⟨h.sorted, by simp [Event.queued?], fun d hd d' hd' => ?_⟩
    obtain rfl := List.mem_singleton.1 hd'
    exact h.queued d hd
  queued d hd := by
    rw [queuedOf_snoc, List.mem_append] at hd
    rcases hd with hd | hd
    · exact (h.queued d hd).trans (Nat.lt_succ_self _)
    · obtain rfl := List.mem_singleton.1 hd
      exact Nat.lt_succ_self _
  replied i hi := by
    rw [repliedOf_snoc] at hi
    exact (h.replied i (by simpa [Event.replied?] using hi)).trans (Nat.lt_succ_self _)

/-- A poll brings the mailbox into the batch. -/
theorem InLine.poll (h : InLine tr s held) (hb : s.batch = []) :
    InLine tr { s with batch := s.mailbox, mailbox := [] } held :=
  { h with order := by rw [h.order, hb]; simp }

theorem InLine.submit (h : InLine tr s held) (hb : s.batch = d :: batch) :
    InLine tr { s with batch := batch, tasks := s.tasks ++ [d] } held :=
  { h with order := by rw [h.order, hb]; simp }

/-- A message that is taken as a reply leaves the line. -/
theorem InLine.reply (h : InLine tr s held) (hb : s.batch = d :: batch) :
    InLine (tr ++ [.replied d]) { s with batch := batch } held where
  order := by
    have hline := h.increasing
    rw [hb, List.append_assoc, List.cons_append] at hline
    rw [unconsumed_replied, h.order, receivedOf_snoc, hb, List.append_assoc, List.cons_append,
      filter_of_increasing hline]
    simp [Event.received?]
  held := h.held
  alone := h.alone
  sorted := by simpa [queuedOf_snoc, Event.queued?] using h.sorted
  queued := by simpa [queuedOf_snoc, Event.queued?] using h.queued
  replied i hi := by
    rw [repliedOf_snoc, List.mem_append] at hi
    rcases hi with hi | hi
    · exact h.replied i hi
    · obtain rfl := List.mem_singleton.1 hi
      have hmem : d ∈ unconsumed tr := by simp [h.order, hb]
      exact h.queued d (List.mem_filter.1 hmem).1

/-- A worker takes the first task. -/
theorem InLine.take (h : InLine tr s held) (hk : s.workers k = .idle) (ht : s.tasks = d :: tasks) :
    InLine tr { s.setWorker k (.putting d) with tasks := tasks } (held ++ [d]) := by
  have hfree : ∀ k', s.workers k' ≠ .putting d := by
    intro k' hk'
    have hline := h.increasing
    simp only [ht, List.append_assoc, List.cons_append] at hline
    have hheld := (List.pairwise_append.1 (List.pairwise_append.1
      (List.pairwise_append.1 hline).2.1).2.1).2.2
    exact lt_irrefl _ (hheld d ((h.held d).2 ⟨k', hk'⟩) d List.mem_cons_self)
  refine { h with order := ?_, held := fun x => ?_, alone := fun k₁ k₂ x h₁ h₂ => ?_ }
  · rw [h.order, ht]
    simp [State.setWorker]
  · simp only [List.mem_append, List.mem_singleton, h.held, State.setWorker_workers]
    constructor
    · rintro (⟨k', hk'⟩ | rfl)
      · refine ⟨k', ?_⟩
        rw [if_neg (by rintro rfl; rw [hk] at hk'; cases hk'), hk']
      · exact ⟨k, if_pos rfl⟩
    · rintro ⟨k', hk'⟩
      split_ifs at hk' with heq
      · cases hk'
        exact .inr rfl
      · exact .inl ⟨k', hk'⟩
  · simp only [State.setWorker_workers] at h₁ h₂
    split_ifs at h₁ h₂ with e₁ e₂ e₂
    · rw [e₁, e₂]
    · cases h₁
      exact absurd h₂ (hfree k₂)
    · cases h₂
      exact absurd h₁ (hfree k₁)
    · exact h.alone k₁ k₂ x h₁ h₂

/-- The worker whose turn it is has what stands first of the messages that workers hold. -/
theorem InLine.head_of_turn (h : InLine tr s held) (hk : s.workers k = .putting d)
    (hturn : ∀ k' d', s.workers k' = .putting d' → d.number ≤ d'.number) :
    ∃ rest, held = d :: rest ∧ d ∉ rest := by
  have hd : d ∈ held := (h.held d).2 ⟨k, hk⟩
  have hsorted : held.Pairwise (·.number < ·.number) := by
    have hline := h.increasing
    simp only [List.append_assoc] at hline
    exact (List.pairwise_append.1 (List.pairwise_append.1
      (List.pairwise_append.1 hline).2.1).2.1).1
  cases held with
  | nil => cases hd
  | cons x rest =>
    have hlater : ∀ y ∈ rest, x.number < y.number := fun y hy =>
      List.rel_of_pairwise_cons hsorted hy
    obtain ⟨k', hk'⟩ := (h.held x).1 List.mem_cons_self
    have hle := hturn k' x hk'
    obtain rfl : d = x := by
      rcases List.mem_cons.1 hd with rfl | hd
      · rfl
      · exact absurd (hlater d hd) (not_lt.2 hle)
    exact ⟨rest, rfl, fun hin => lt_irrefl _ (hlater d hin)⟩

theorem InLine.put (h : InLine tr s held) (hk : s.workers k = .putting d)
    (hturn : ∀ k' d', s.workers k' = .putting d' → d.number ≤ d'.number) :
    ∃ rest, InLine tr { s.setWorker k .handling with inbox := s.inbox ++ [d] } rest := by
  obtain ⟨rest, rfl, hrest⟩ := h.head_of_turn hk hturn
  refine ⟨rest, { h with order := ?_, held := fun x => ?_, alone := fun k₁ k₂ x h₁ h₂ => ?_ }⟩
  · rw [h.order]
    simp [State.setWorker]
  · simp only [State.setWorker_workers]
    constructor
    · intro hx
      obtain ⟨k', hk'⟩ := (h.held x).1 (List.mem_cons_of_mem _ hx)
      refine ⟨k', ?_⟩
      rw [if_neg, hk']
      rintro rfl
      rw [hk] at hk'
      cases hk'
      exact hrest hx
    · rintro ⟨k', hk'⟩
      split_ifs at hk' with heq
      refine (List.mem_cons.1 ((h.held x).2 ⟨k', hk'⟩)).resolve_left ?_
      rintro rfl
      exact heq (h.alone k' k x hk' hk)
  · simp only [State.setWorker_workers] at h₁ h₂
    split_ifs at h₁ h₂
    exact h.alone k₁ k₂ x h₁ h₂

theorem InLine.finish (h : InLine tr s held) (hk : s.workers k = .handling) :
    InLine tr (s.setWorker k .idle) held := by
  have hsame : ∀ k' x, (s.setWorker k .idle).workers k' = .putting x
      ↔ s.workers k' = .putting x := by
    intro k' x
    rw [State.setWorker_workers]
    split_ifs with heq
    · rw [heq, hk]
      simp
    · rfl
  refine { h with held := fun x => ?_, alone := fun k₁ k₂ x h₁ h₂ => ?_ }
  · simp only [h.held, hsame]
  · exact h.alone k₁ k₂ x ((hsame _ _).1 h₁) ((hsame _ _).1 h₂)

theorem InLine.receive (h : InLine tr s held) (hi : s.inbox = d :: inbox) :
    InLine (tr ++ [.received d]) { s with inbox := inbox } held where
  order := by
    rw [unconsumed_received, h.order, receivedOf_snoc, hi]
    simp [Event.received?]
  held := h.held
  alone := h.alone
  sorted := by simpa [queuedOf_snoc, Event.queued?] using h.sorted
  queued := by simpa [queuedOf_snoc, Event.queued?] using h.queued
  replied := by simpa [repliedOf_snoc, Event.replied?] using h.replied

/-! ### Runs -/

theorem InLine.step {act : Action} (h : InLine tr s held) (hok : InTurn s act)
    (hs : (inboxLts n).step s act = some (s', es)) : ∃ held', InLine (tr ++ es) s' held' := by
  cases move_of_step hs with
  | @queue m => exact ⟨held, h.queue m⟩
  | poll hb =>
    rw [List.append_nil]
    exact ⟨held, h.poll hb⟩
  | submit hb =>
    rw [List.append_nil]
    exact ⟨held, h.submit hb⟩
  | reply hb => exact ⟨held, h.reply hb⟩
  | take hk ht =>
    rw [List.append_nil]
    exact ⟨_, h.take hk ht⟩
  | @put k d hk =>
    rw [List.append_nil]
    exact h.put hk (hok k d rfl hk)
  | finish hk =>
    rw [List.append_nil]
    exact ⟨held, h.finish hk⟩
  | receive hi => exact ⟨held, h.receive hi⟩

theorem inLine_of_run (h : (inboxLts n).Run InTurn State.init tr s) :
    ∃ held, InLine tr s held :=
  h.invariant (I := fun tr s => ∃ held, InLine tr s held) ⟨[], inLine_init⟩
    fun ⟨_, hI⟩ hok hs => hI.step hok hs

/-- Nothing is on its way from the mailbox to the application. -/
structure State.Quiet (s : State) : Prop where
  mailbox : s.mailbox = []
  batch : s.batch = []
  tasks : s.tasks = []
  workers : ∀ k d, s.workers k ≠ .putting d
  inbox : s.inbox = []

/-- When every worker that puts a message has the earliest of those that workers are about to put,
the application has received the first of the messages queued that were not taken as replies, in
the order they were queued, and all of them once nothing is on its way. -/
theorem received_in_order (h : (inboxLts n).Run InTurn State.init tr s) :
    receivedOf tr <+: unconsumed tr ∧ (s.Quiet → receivedOf tr = unconsumed tr) := by
  obtain ⟨held, hI⟩ := inLine_of_run h
  constructor
  · rw [hI.order]
    simp only [List.append_assoc]
    exact List.prefix_append _ _
  · intro hq
    have hheld : held = [] := List.eq_nil_iff_forall_not_mem.2 fun d hd => by
      obtain ⟨k, hk⟩ := (hI.held d).1 hd
      exact hq.workers k d hk
    rw [hI.order, hq.inbox, hheld, hq.tasks, hq.batch, hq.mailbox]
    simp

/-! ### One worker, and two -/

/-- Only workers that the pool may have are at work. -/
def Staffed (n : ℤ) (s : State) : Prop := ∀ k d, s.workers k = .putting d → (k : ℤ) < n

theorem Staffed.setWorker {w : Worker} (h : Staffed n s) (hw : ∀ d, w = .putting d → (k : ℤ) < n) :
    Staffed n (s.setWorker k w) := by
  intro k' d hk'
  rw [State.setWorker_workers] at hk'
  split_ifs at hk' with heq
  · rw [heq]
    exact hw d hk'
  · exact h k' d hk'

theorem Staffed.step {act : Action} (h : Staffed n s)
    (hs : (inboxLts n).step s act = some (s', es)) : Staffed n s' := by
  cases move_of_step hs with
  | take hk ht hn => exact h.setWorker fun _ _ => hn
  | put | finish => exact h.setWorker fun _ hw => by cases hw
  | _ => exact h

/-- A pool of one worker takes every turn. -/
theorem run_of_one_worker (hn : n ≤ 1) (h : (inboxLts n).Free State.init tr s) :
    (inboxLts n).Run InTurn State.init tr s ∧ Staffed n s := by
  induction h with
  | refl => exact ⟨.refl, fun k d hk => by cases hk⟩
  | snoc _ _ hs ih =>
    obtain ⟨hrun, hstaff⟩ := ih
    refine ⟨hrun.snoc (fun k d _ hk k' d' hk' => ?_) hs, hstaff.step hs⟩
    have h₁ := hstaff k d hk
    have h₂ := hstaff k' d' hk'
    obtain rfl : k = k' := by omega
    rw [hk] at hk'
    cases hk'
    exact le_rfl

/-- Two messages come from the mailbox to the pool. -/
def twoPooled : List Action :=
  [.queue question, .queue question, .poll, .dispatch [], .dispatch []]

theorem received_in_order_one : ∃ tr s, (inboxLts 1).Free State.init tr s
    ∧ (receivedOf tr).map Delivery.number = [0, 1] ∧ receivedOf tr <+: unconsumed tr := by
  rcases h : (inboxLts 1).exec State.init (twoPooled
    ++ [.take 0, .put 0, .finish 0, .take 0, .put 0, .receive, .receive]) with _ | ⟨s, tr⟩
  · cases h
  have hrun : (inboxLts 1).Free State.init tr s := Lts.run_of_exec (fun _ _ _ => trivial) h
  refine ⟨tr, s, hrun, ?_, (received_in_order (run_of_one_worker le_rfl hrun).1).1⟩
  cases h
  rfl

/-- Of two workers the one with the later message puts it first. -/
theorem received_out_of_order : ∃ tr s, (inboxLts 4).Free State.init tr s ∧ s.Quiet
    ∧ (unconsumed tr).map Delivery.number = [0, 1]
    ∧ (receivedOf tr).map Delivery.number = [1, 0] ∧ ¬ receivedOf tr <+: unconsumed tr := by
  rcases h : (inboxLts 4).exec State.init (twoPooled
    ++ [.take 0, .take 1, .put 1, .put 0, .receive, .receive]) with _ | ⟨s, tr⟩
  · cases h
  have hrun : (inboxLts 4).Free State.init tr s := Lts.run_of_exec (fun _ _ _ => trivial) h
  have hunconsumed : (unconsumed tr).map Delivery.number = [0, 1] := by
    cases h
    rfl
  have hreceived : (receivedOf tr).map Delivery.number = [1, 0] := by
    cases h
    rfl
  refine ⟨tr, s, hrun, ?_, hunconsumed, hreceived, fun hprefix => ?_⟩
  · cases h
    refine ⟨rfl, rfl, rfl, fun k d hk => ?_, rfl⟩
    simp only [State.setWorker_workers, State.init] at hk
    split_ifs at hk
  · have hnumbers := hprefix.map Delivery.number
    rw [hunconsumed, hreceived] at hnumbers
    revert hnumbers
    decide

end Inbox

end AgentComm
