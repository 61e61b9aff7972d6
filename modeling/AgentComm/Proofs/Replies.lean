import AgentComm.Lib.Desk
import AgentComm.Sdk.Waiters

/-!
# Who gets a reply

A message is looked up once: under a registered waiter it goes to that waiter's slot, and only
otherwise to the handler pool. A slot holds what arrived for its call, in order, so that its head
is the first; it has one by the time the event is set. A call takes its waiter away before it
ends.
-/

namespace AgentComm

namespace Pull

open Lib

variable {P : Python} {timeout : PyStr} {s s' : State} {tr es : List Event}

/-- What the desk of waiters sees of an event. -/
def visit? : Event → Option (Visit PyStr ℕ Delivery)
  | .registered i key => some (.checkIn key i)
  | .unregistered key => some (.checkOut key)
  | .looked d => some (.arrive d d.message.correlationId)
  | _ => none

/-- Whose waiters were registered, and the messages looked up, each with the call whose waiter was
registered under its correlation id at that moment. -/
def deskOf (tr : List Event) : Desk PyStr ℕ Delivery := Desk.after (tr.filterMap visit?)

theorem deskOf_append (tr es : List Event) :
    deskOf (tr ++ es) = (es.filterMap visit?).foldl Desk.visit (deskOf tr) := by
  rw [deskOf, List.filterMap_append, Desk.after_append]
  rfl

namespace Call

/-- The message id of the call's request. -/
def key? : Call → Option PyStr
  | idle => none
  | register ask | send ask | wait ask | unregister ask _ | done ask _ => some ask.key

/-- The key its waiter is registered under. -/
def registered? : Call → Option PyStr
  | send ask | wait ask | unregister ask _ => some ask.key
  | _ => none

def result? : Call → Option Result
  | unregister _ r | done _ r => some r
  | _ => none

/-- It has registered its waiter. -/
def born : Call → Bool
  | idle | register _ => false
  | _ => true

end Call

namespace Loop

/-- What the loop is about to append to the slot of call `i`. -/
def bound (i : ℕ) : Loop → List Delivery
  | append j d => if j = i then [d] else []
  | _ => []

/-- The call whose waiter the loop has in hand. -/
def holds : Loop → Option ℕ
  | append j _ | set j => some j
  | _ => none

end Loop

/-- The request of a new call has a message id that no other call's has. -/
def Distinct (s : State) (act : Action) : Prop :=
  ∀ i ask, act = .call i ask → ∀ j, (s.calls j).key? ≠ some ask.key

@[simp] theorem State.goes_calls (i j : ℕ) (c : Call) :
    (s.goes i c).calls j = if j = i then c else s.calls j := by
  simp [State.goes, Function.update_apply]

/-! ### What a step does -/

variable (P timeout) in
/-- A step, by the code it stands for. -/
inductive Move (s : State) : Action → State → List Event → Prop
  | call {i ask} (h : s.calls i = .idle) : Move s (.call i ask) (s.goes i (.register ask)) []
  | register {i ask} (h : s.calls i = .register ask) : Move s (.run i)
      { s.goes i (.send ask) with
        waiters := s.waiters.set ask.key i
        waiter := Function.update s.waiter i ⟨false, []⟩ } [.registered i ask.key]
  | unregister {i ask r} (h : s.calls i = .unregister ask r) : Move s (.run i)
      { s.goes i (.done ask r) with waiters := s.waiters.pop ask.key }
      [.unregistered ask.key, .ended i r]
  | sent {i ask answer} (h : s.calls i = .send ask) : Move s (.sent i answer)
      (s.goes i (.wait ask)) []
  | failed {i ask answer e} (h : s.calls i = .send ask) : Move s (.sent i answer)
      (s.goes i (.unregister ask (.raised e))) []
  | woken {i ask} (h : s.calls i = .wait ask) (hset : (s.waiter i).event = true) :
      Move s (.wake i) (s.goes i (.unregister ask (s.slotHead i))) []
  | timedOut {i ask} (h : s.calls i = .wait ask) : Move s (.timeout i)
      (s.goes i (.unregister ask (.raised (noReply P timeout ask)))) []
  | receive {m} (h : s.loop = .receive) : Move s (.receive m)
      { s with loop := .lookup ⟨s.dispatched, m⟩, dispatched := s.dispatched + 1 } []
  | found {d i} (h : s.loop = .lookup d)
      (hi : d.message.correlationId.bind s.waiters.get? = some i) :
      Move s .dispatch { s with loop := .append i d } [.looked d]
  | missed {d} (h : s.loop = .lookup d)
      (hi : d.message.correlationId.bind s.waiters.get? = none) :
      Move s .dispatch { s with loop := .submit d } [.looked d]
  | append {i d} (h : s.loop = .append i d) : Move s .dispatch
      { s with
        waiter := Function.update s.waiter i { s.waiter i with slot := (s.waiter i).slot ++ [d] }
        loop := .set i } []
  | set {i} (h : s.loop = .set i) : Move s .dispatch
      { s with
        waiter := Function.update s.waiter i { s.waiter i with event := true }
        loop := .receive } []
  | submit {d} (h : s.loop = .submit d) : Move s (.submit true) { s with loop := .receive }
      [.pooled d]
  | drop {d} (h : s.loop = .submit d) : Move s (.submit false) { s with loop := .receive } []

theorem move_of_step {act : Action} (h : (pullLts P timeout).step s act = some (s', es)) :
    Move P timeout s act s' es := by
  cases act with
  | call i ask =>
    simp only [pullLts, State.step] at h
    split at h <;> cases h
    exact .call (by assumption)
  | run i =>
    simp only [pullLts, State.step] at h
    split at h <;> cases h
    · exact .register (by assumption)
    · exact .unregister (by assumption)
  | sent i answer =>
    simp only [pullLts, State.step] at h
    split at h
    · split at h <;> cases h
      · exact .sent (by assumption)
      · exact .failed (by assumption)
    · cases h
  | wake i =>
    simp only [pullLts, State.step] at h
    split at h
    · split_ifs at h
      cases h
      exact .woken (by assumption) (by assumption)
    · cases h
  | timeout i =>
    simp only [pullLts, State.step] at h
    split at h <;> cases h
    exact .timedOut (by assumption)
  | receive m =>
    simp only [pullLts, State.step] at h
    split at h <;> cases h
    exact .receive (by assumption)
  | dispatch =>
    simp only [pullLts, State.step] at h
    split at h
    · split at h <;> cases h
      · exact .found (by assumption) (by assumption)
      · exact .missed (by assumption) (by assumption)
    · cases h
      exact .append (by assumption)
    · cases h
      exact .set (by assumption)
    · cases h
  | submit accepted =>
    simp only [pullLts, State.step] at h
    split at h <;> cases h
    cases accepted
    · exact .drop (by assumption)
    · exact .submit (by assumption)

/-! ### The calls and their waiters -/

/-- The keys of different calls differ, and the map leads to exactly the calls whose waiters are
registered. -/
structure Waiting (s : State) : Prop where
  distinct : ∀ i j k, (s.calls i).key? = some k → (s.calls j).key? = some k → i = j
  waiters : ∀ k i, s.waiters.get? k = some i ↔ (s.calls i).registered? = some k

/-- A call that keeps its key and its waiter changes nothing of this. -/
theorem Waiting.goes (h : Waiting s) {i : ℕ} {c : Call} (hkey : c.key? = (s.calls i).key?)
    (hreg : c.registered? = (s.calls i).registered?) : Waiting (s.goes i c) := by
  have hkeys : ∀ j, ((s.goes i c).calls j).key? = (s.calls j).key? := by
    intro j
    rw [State.goes_calls]
    split_ifs with hj
    · rw [hkey, hj]
    · rfl
  have hregs : ∀ j, ((s.goes i c).calls j).registered? = (s.calls j).registered? := by
    intro j
    rw [State.goes_calls]
    split_ifs with hj
    · rw [hreg, hj]
    · rfl
  refine ⟨fun j j' k hj hj' => ?_, fun k j => ?_⟩
  · rw [hkeys] at hj hj'
    exact h.distinct j j' k hj hj'
  · rw [hregs]
    exact h.waiters k j

theorem Call.key?_of_registered? {c : Call} {k : PyStr} (h : c.registered? = some k) :
    c.key? = some k := by
  cases c <;> cases h <;> rfl

theorem Waiting.call (h : Waiting s) {i : ℕ} {ask : Ask} (hidle : s.calls i = .idle)
    (hnew : ∀ j, (s.calls j).key? ≠ some ask.key) : Waiting (s.goes i (.register ask)) := by
  refine ⟨fun j j' k hj hj' => ?_, fun k j => ?_⟩
  · rw [State.goes_calls] at hj hj'
    split_ifs at hj hj' with h1 h2 h2
    · rw [h1, h2]
    · cases hj
      exact absurd hj' (hnew j')
    · cases hj'
      exact absurd hj (hnew j)
    · exact h.distinct j j' k hj hj'
  · rw [State.goes_calls]
    refine (h.waiters k j).trans ?_
    split_ifs with hj
    · subst hj
      simp [hidle, Call.registered?]
    · rfl

theorem Waiting.register (h : Waiting s) {i : ℕ} {ask : Ask} {w : ℕ → Waiter}
    (hi : s.calls i = .register ask) : Waiting
      { s.goes i (.send ask) with waiters := s.waiters.set ask.key i, waiter := w } := by
  have hkey : (s.calls i).key? = some ask.key := by rw [hi]; rfl
  refine ⟨fun j j' k hj hj' => ?_, fun k j => ?_⟩
  · have hkeys : ∀ j, ((s.goes i (.send ask)).calls j).key? = (s.calls j).key? := by
      intro j
      rw [State.goes_calls]
      split_ifs with hj
      · rw [hj, hkey]
        rfl
      · rfl
    exact h.distinct j j' k ((hkeys j).symm.trans hj) ((hkeys j').symm.trans hj')
  · simp only [Dict.get?_set, State.goes_calls]
    by_cases hj : j = i
    · subst hj
      have hnone : s.waiters.get? k ≠ some j := by
        rw [Ne, h.waiters, hi]
        simp [Call.registered?]
      simp only [if_true, Call.registered?, Option.some.injEq]
      split_ifs with hk <;> simp [hk, hnone]
    · rw [if_neg hj, ← h.waiters]
      split_ifs with hk
      · subst hk
        refine iff_of_false (fun hij => hj (Option.some.inj hij).symm) fun hget => hj ?_
        exact h.distinct j i _ (Call.key?_of_registered? ((h.waiters _ j).1 hget)) hkey
      · rfl

theorem Waiting.unregister (h : Waiting s) {i : ℕ} {ask : Ask} {r : Result}
    (hi : s.calls i = .unregister ask r) :
    Waiting { s.goes i (.done ask r) with waiters := s.waiters.pop ask.key } := by
  have hreg : s.waiters.get? ask.key = some i := by rw [h.waiters, hi]; rfl
  refine ⟨fun j j' k hj hj' => ?_, fun k j => ?_⟩
  · have hkeys : ∀ j, ((s.goes i (.done ask r)).calls j).key? = (s.calls j).key? := by
      intro j
      rw [State.goes_calls]
      split_ifs with hj
      · rw [hj, hi]
        rfl
      · rfl
    exact h.distinct j j' k ((hkeys j).symm.trans hj) ((hkeys j').symm.trans hj')
  · simp only [Dict.get?_pop, State.goes_calls]
    by_cases hk : ask.key = k
    · subst hk
      rw [if_pos rfl]
      refine iff_of_false (by simp) ?_
      split_ifs with hj
      · simp [Call.registered?]
      · rw [← h.waiters, hreg]
        exact fun hij => hj (Option.some.inj hij).symm
    · rw [if_neg hk, h.waiters]
      split_ifs with hj
      · subst hj
        simp [hi, Call.registered?, hk]
      · rfl

theorem Waiting.step {act : Action} (h : Waiting s) (hd : Distinct s act)
    (hm : Move P timeout s act s' es) : Waiting s' := by
  cases hm with
  | call hi => exact h.call hi (hd _ _ rfl)
  | register hi => exact h.register hi
  | unregister hi => exact h.unregister hi
  | sent hi | failed hi | woken hi | timedOut hi => exact h.goes (by rw [hi]; rfl) (by rw [hi]; rfl)
  | _ => exact ⟨h.distinct, h.waiters⟩

/-! ### What arrives for a call -/

/-- The desk knows the registered waiters, and what arrived for a call is in its slot, or about to
be. -/
structure Offers (tr : List Event) (s : State) : Prop where
  desk : ∀ k, (deskOf tr).party k = s.waiters.get? k
  offers : ∀ i, (deskOf tr).offered i = (s.waiter i).slot ++ s.loop.bound i
  unborn : ∀ i, (s.calls i).born = false → s.waiter i = ⟨false, []⟩ ∧ s.loop.holds ≠ some i
  ready : ∀ i, (s.waiter i).event = true ∨ s.loop = .set i → (s.waiter i).slot ≠ []
  keyed : ∀ d i, (d, some i) ∈ (deskOf tr).book →
    ∃ k, d.message.correlationId = some k ∧ (s.calls i).key? = some k

theorem Loop.bound_of_not_holds {l : Loop} {i : ℕ} (h : l.holds ≠ some i) : l.bound i = [] := by
  cases l <;> first | rfl | exact if_neg fun hj => h (congrArg some hj)

/-- Nothing has arrived for a call that has no waiter yet. -/
theorem Offers.unborn_book (h : Offers tr s) {i : ℕ} (hi : (s.calls i).born = false)
    (d : Delivery) : (d, some i) ∉ (deskOf tr).book := by
  obtain ⟨hw, hl⟩ := h.unborn i hi
  rw [← Desk.mem_offered, h.offers, hw, Loop.bound_of_not_holds hl]
  simp

theorem Call.born_of_registered? {c : Call} {k : PyStr} (h : c.registered? = some k) :
    c.born = true := by
  cases c <;> cases h <;> rfl

/-- A step of a call that has its waiter changes nothing of this. -/
theorem Offers.goes (h : Offers tr s) {i : ℕ} {c : Call} (hkey : c.key? = (s.calls i).key?)
    (hborn : c.born = false → (s.calls i).born = false) : Offers tr (s.goes i c) := by
  refine ⟨h.desk, h.offers, fun j hj => ?_, h.ready, fun d j hd => ?_⟩
  · rw [State.goes_calls] at hj
    split_ifs at hj with hji
    · exact h.unborn j (hji ▸ hborn hj)
    · exact h.unborn j hj
  · obtain ⟨k, hk, hkey'⟩ := h.keyed d j hd
    refine ⟨k, hk, ?_⟩
    rw [State.goes_calls]
    split_ifs with hji
    · rw [hkey, ← hji, hkey']
    · exact hkey'

theorem Offers.call (h : Offers tr s) {i : ℕ} {ask : Ask} (hi : s.calls i = .idle) :
    Offers tr (s.goes i (.register ask)) := by
  have hborn : (s.calls i).born = false := by rw [hi]; rfl
  refine ⟨h.desk, h.offers, fun j hj => ?_, h.ready, fun d j hd => ?_⟩
  · rw [State.goes_calls] at hj
    split_ifs at hj with hji
    · exact h.unborn j (hji ▸ hborn)
    · exact h.unborn j hj
  · rw [State.goes_calls]
    split_ifs with hji
    · subst hji
      exact absurd hd (h.unborn_book hborn d)
    · exact h.keyed d j hd

theorem Offers.register (h : Offers tr s) {i : ℕ} {ask : Ask} (hi : s.calls i = .register ask) :
    Offers (tr ++ [.registered i ask.key]) { s.goes i (.send ask) with
      waiters := s.waiters.set ask.key i
      waiter := Function.update s.waiter i ⟨false, []⟩ } := by
  obtain ⟨hw, hl⟩ := h.unborn i (by rw [hi]; rfl)
  have hsame : Function.update s.waiter i ⟨false, []⟩ = s.waiter := by
    rw [← hw, Function.update_eq_self]
  have hgoes := h.goes (i := i) (c := .send ask) (by rw [hi]; rfl) (fun hc => by cases hc)
  rw [hsame]
  refine ⟨fun k => ?_, fun j => ?_, hgoes.unborn, hgoes.ready, ?_⟩
  · rw [deskOf_append, Dict.get?_set, ← h.desk]
    simp [visit?, Desk.visit, Function.update_apply, eq_comm]
  · rw [deskOf_append]
    exact h.offers j
  · rw [deskOf_append]
    exact hgoes.keyed

theorem Offers.unregister (h : Offers tr s) {i : ℕ} {ask : Ask} {r : Result}
    (hi : s.calls i = .unregister ask r) : Offers (tr ++ [.unregistered ask.key, .ended i r])
      { s.goes i (.done ask r) with waiters := s.waiters.pop ask.key } := by
  have hgoes := h.goes (i := i) (c := .done ask r) (by rw [hi]; rfl) (fun hc => by cases hc)
  refine ⟨fun k => ?_, fun j => ?_, hgoes.unborn, hgoes.ready, ?_⟩
  · rw [deskOf_append, Dict.get?_pop, ← h.desk]
    change ((deskOf tr).visit (.checkOut ask.key)).party k = _
    simp [Desk.visit, Function.update_apply, eq_comm]
  · rw [deskOf_append]
    exact h.offers j
  · rw [deskOf_append]
    exact hgoes.keyed

/-- A message looked up arrives for the call whose waiter is found, if one is. -/
theorem Offers.looked (h : Offers tr s) {d : Delivery} {l : Loop} {w : Option ℕ}
    (hl : s.loop = .lookup d) (hw : d.message.correlationId.bind s.waiters.get? = w)
    (hbound : ∀ i, l.bound i = if w = some i then [d] else []) (hholds : l.holds = w)
    (hset : ∀ i, l ≠ .set i) (hwaiting : Waiting s) :
    Offers (tr ++ [.looked d]) { s with loop := l } := by
  have hdesk : (deskOf (tr ++ [.looked d])).party = (deskOf tr).party := by rw [deskOf_append]; rfl
  have harrive : d.message.correlationId.bind (deskOf tr).party = w := by
    rw [← hw]
    exact congrArg _ (funext h.desk)
  have hfound : ∀ i, w = some i → ∃ k, d.message.correlationId = some k
      ∧ (s.calls i).registered? = some k := by
    intro i hi
    rw [hi] at hw
    obtain ⟨k, hk, hget⟩ := Option.bind_eq_some_iff.1 hw
    exact ⟨k, hk, (hwaiting.waiters k i).1 hget⟩
  refine ⟨fun k => ?_, fun i => ?_, fun i hi => ⟨(h.unborn i hi).1, ?_⟩, fun i hi => ?_,
    fun d' i hd => ?_⟩
  · rw [hdesk]
    exact h.desk k
  · have hslot := h.offers i
    rw [hl] at hslot
    rw [deskOf_append, hbound]
    change ((deskOf tr).visit (.arrive d d.message.correlationId)).offered i = _
    rw [Desk.offered_arrive, harrive, hslot]
    simp [Loop.bound]
  · rw [hholds]
    intro hwi
    obtain ⟨k, -, hreg⟩ := hfound i hwi
    exact absurd (Call.born_of_registered? hreg) (by simp [hi])
  · exact h.ready i (hi.imp_right fun hc => absurd hc (hset i))
  · rw [deskOf_append] at hd
    change _ ∈ (deskOf tr).book ++ [(d, d.message.correlationId.bind (deskOf tr).party)] at hd
    rw [harrive] at hd
    rcases List.mem_append.1 hd with hd | hd
    · exact h.keyed d' i hd
    · obtain ⟨rfl, hwi⟩ := Prod.mk.inj (List.mem_singleton.1 hd)
      obtain ⟨k, hk, hreg⟩ := hfound i hwi.symm
      exact ⟨k, hk, Call.key?_of_registered? hreg⟩

theorem Offers.append (h : Offers tr s) {i : ℕ} {d : Delivery} (hl : s.loop = .append i d) :
    Offers tr { s with
      waiter := Function.update s.waiter i { s.waiter i with slot := (s.waiter i).slot ++ [d] }
      loop := .set i } := by
  refine ⟨h.desk, fun j => ?_, fun j hj => ?_, fun j hj => ?_, h.keyed⟩
  · have hslot := h.offers j
    rw [hl] at hslot
    rw [hslot]
    by_cases hji : j = i
    · subst hji
      simp [Loop.bound]
    · simp [Loop.bound, Function.update_of_ne hji, Ne.symm hji]
  · obtain ⟨hw, hh⟩ := h.unborn j hj
    rw [hl] at hh
    have hji : j ≠ i := fun hji => hh (congrArg some hji.symm)
    exact ⟨by simp only [Function.update_of_ne hji, hw], hh⟩
  · by_cases hji : j = i
    · subst hji
      simp
    · simp only [Function.update_of_ne hji] at hj ⊢
      refine h.ready j (hj.imp_right fun hc => ?_)
      exact absurd (Loop.set.inj hc).symm hji

theorem Offers.set (h : Offers tr s) {i : ℕ} (hl : s.loop = .set i) :
    Offers tr { s with
      waiter := Function.update s.waiter i { s.waiter i with event := true }
      loop := .receive } := by
  refine ⟨h.desk, fun j => ?_, fun j hj => ?_, fun j hj => ?_, h.keyed⟩
  · have hslot := h.offers j
    rw [hl] at hslot
    rw [hslot]
    by_cases hji : j = i
    · subst hji
      simp [Loop.bound]
    · simp [Loop.bound, Function.update_of_ne hji]
  · obtain ⟨hw, hh⟩ := h.unborn j hj
    rw [hl] at hh
    have hji : j ≠ i := fun hji => hh (congrArg some hji.symm)
    exact ⟨by simp only [Function.update_of_ne hji, hw], by simp [Loop.holds]⟩
  · by_cases hji : j = i
    · subst hji
      simpa using h.ready j (.inr hl)
    · simp only [Function.update_of_ne hji] at hj ⊢
      exact h.ready j (.inl (hj.resolve_right (by simp)))

/-- A loop that has nothing in hand, before and after, changes nothing of this. -/
theorem Offers.turns (h : Offers tr s) {l : Loop} {n : ℕ} (hl : s.loop.holds = none)
    (hl' : l.holds = none) : Offers tr { s with loop := l, dispatched := n } := by
  have hbound : ∀ i, l.bound i = s.loop.bound i := fun i => by
    rw [Loop.bound_of_not_holds (by simp [hl']), Loop.bound_of_not_holds (by simp [hl])]
  refine ⟨h.desk, fun i => (h.offers i).trans ?_, fun i hi => ⟨(h.unborn i hi).1, by simp [hl']⟩,
    fun i hi => h.ready i (hi.imp_right fun hc => ?_), h.keyed⟩
  · simp only [hbound]
  · simp only at hc
    rw [hc] at hl'
    cases hl'

theorem Offers.step {act : Action} (h : Offers tr s) (hw : Waiting s)
    (hm : Move P timeout s act s' es) : Offers (tr ++ es) s' := by
  cases hm with
  | call hi =>
    rw [List.append_nil]
    exact h.call hi
  | register hi => exact h.register hi
  | unregister hi => exact h.unregister hi
  | sent hi | failed hi | woken hi | timedOut hi =>
    rw [List.append_nil]
    exact h.goes (by rw [hi]; rfl) (fun hc => by cases hc)
  | receive hl =>
    rw [List.append_nil]
    exact h.turns (by rw [hl]; rfl) rfl
  | found hl hi =>
    refine h.looked hl hi (fun j => ?_) rfl (by simp) hw
    simp [Loop.bound]
  | missed hl hi => exact h.looked hl hi (fun j => by simp [Loop.bound]) rfl (by simp) hw
  | append hl =>
    rw [List.append_nil]
    exact h.append hl
  | set hl =>
    rw [List.append_nil]
    exact h.set hl
  | submit hl =>
    obtain ⟨hdesk, hoffers, hunborn, hready, hkeyed⟩ := h.turns (l := .receive) (n := s.dispatched)
      (by rw [hl]; rfl) rfl
    refine ⟨?_, ?_, hunborn, hready, ?_⟩ <;> rw [deskOf_append]
    · exact hdesk
    · exact hoffers
    · exact hkeyed
  | drop hl =>
    rw [List.append_nil]
    exact h.turns (by rw [hl]; rfl) rfl

/-! ### How calls end -/

/-- What a call may end with: a message only if it was the first to arrive for the call. -/
def Yields (tr : List Event) (i : ℕ) : Result → Prop
  | .returned d => ((deskOf tr).offered i).head? = some d
  | .raised _ => True
  | .indexError => False

/-- The message the loop has yet to look up. -/
def Loop.pending : Loop → List Delivery
  | lookup d => [d]
  | _ => []

/-- Calls end with what they may, messages that go to the pool were looked up in vain, and every
message dispatched is looked up once. -/
structure Ended (tr : List Event) (s : State) : Prop where
  results : ∀ i r, (s.calls i).result? = some r → Yields tr i r
  ended : ∀ i r, .ended i r ∈ tr → ∃ ask, s.calls i = .done ask r
  unmatched : ∀ d, .pooled d ∈ tr ∨ s.loop = .submit d → (d, none) ∈ (deskOf tr).book
  numbered : (deskOf tr).book.map (·.1.number) ++ s.loop.pending.map (·.number)
    = List.range s.dispatched

theorem Yields.append {i : ℕ} {r : Result} (h : Yields tr i r) (es : List Event) :
    Yields (tr ++ es) i r := by
  cases r with
  | returned d =>
    obtain ⟨l, hl⟩ := Desk.offered_grows (es.filterMap visit?) (deskOf tr) i
    rw [Yields] at h
    rw [Yields, deskOf_append, ← hl, List.head?_append, h, Option.some_or]
  | raised e => trivial
  | indexError => exact h

/-- A woken call finds the first message that arrived for it. -/
theorem Offers.slotHead (h : Offers tr s) {i : ℕ} (hset : (s.waiter i).event = true) :
    Yields tr i (s.slotHead i) := by
  have hslot := h.ready i (.inl hset)
  rw [State.slotHead]
  rcases hw : (s.waiter i).slot with _ | ⟨d, l⟩
  · exact absurd hw hslot
  · simp [Yields, h.offers, hw]

theorem Ended.goes (h : Ended tr s) {i : ℕ} {c : Call} (hi : ∀ ask r, s.calls i ≠ .done ask r)
    (hc : ∀ r, c.result? = some r → Yields tr i r) : Ended tr (s.goes i c) := by
  refine ⟨fun j r hr => ?_, fun j r hj => ?_, h.unmatched, h.numbered⟩
  · rw [State.goes_calls] at hr
    split_ifs at hr with hji
    · exact hji ▸ hc r hr
    · exact h.results j r hr
  · obtain ⟨ask, hdone⟩ := h.ended j r hj
    refine ⟨ask, ?_⟩
    rw [State.goes_calls, if_neg, hdone]
    rintro rfl
    exact hi ask r hdone

/-- Events that bring no message to the desk. -/
theorem Ended.emits (h : Ended tr s) (es : List Event)
    (hbook : (deskOf (tr ++ es)).book = (deskOf tr).book)
    (hended : ∀ i r, .ended i r ∈ es → ∃ ask, s.calls i = .done ask r)
    (hpooled : ∀ d, .pooled d ∈ es → s.loop = .submit d) : Ended (tr ++ es) s := by
  refine ⟨fun i r hr => (h.results i r hr).append es, fun i r hi => ?_, fun d hd => ?_, ?_⟩
  · exact (List.mem_append.1 hi).elim (h.ended i r) (hended i r)
  · rw [hbook]
    refine h.unmatched d ?_
    rcases hd with hd | hd
    · exact (List.mem_append.1 hd).imp_right (hpooled d)
    · exact .inr hd
  · rw [hbook]
    exact h.numbered

/-- The loop, with what it has yet to look up. -/
theorem Ended.turns (h : Ended tr s) {l : Loop} {w : ℕ → Waiter}
    (hl : l.pending = s.loop.pending) (hsubmit : ∀ d, l ≠ .submit d) :
    Ended tr { s with loop := l, waiter := w } := by
  refine ⟨h.results, h.ended, fun d hd => ?_, ?_⟩
  · exact h.unmatched d (hd.imp_right fun hc => absurd hc (hsubmit d))
  · rw [hl]
    exact h.numbered

theorem Ended.receive (h : Ended tr s) {m : Message} (hl : s.loop = .receive) : Ended tr
    { s with loop := .lookup ⟨s.dispatched, m⟩, dispatched := s.dispatched + 1 } := by
  refine ⟨h.results, h.ended, fun d hd => ?_, ?_⟩
  · exact h.unmatched d (hd.imp_right fun hc => by cases hc)
  · have hnum := h.numbered
    rw [hl] at hnum
    simp only [Loop.pending, List.map_nil, List.append_nil] at hnum
    rw [hnum, List.range_succ]
    rfl

/-- A message looked up is entered in the book, with nobody if it is to go to the pool. -/
theorem Ended.looked (h : Ended tr s) {d : Delivery} {l : Loop} {w : Option ℕ}
    (hl : s.loop = .lookup d) (hw : d.message.correlationId.bind (deskOf tr).party = w)
    (hpending : l.pending = []) (hsubmit : ∀ d', l = .submit d' → d' = d ∧ w = none) :
    Ended (tr ++ [.looked d]) { s with loop := l } := by
  have hbook : (deskOf (tr ++ [.looked d])).book = (deskOf tr).book ++ [(d, w)] := by
    rw [deskOf_append, ← hw]
    rfl
  refine ⟨fun i r hr => (h.results i r hr).append _, fun i r hi => h.ended i r (by simpa using hi),
    fun d' hd => ?_, ?_⟩
  · rw [hbook]
    rcases hd with hd | hd
    · exact List.mem_append_left _ (h.unmatched d' (.inl (by simpa using hd)))
    · obtain ⟨rfl, rfl⟩ := hsubmit d' hd
      simp
  · have hnum := h.numbered
    rw [hl] at hnum
    rw [hbook, hpending, ← hnum]
    simp [Loop.pending]

theorem Ended.step {act : Action} (h : Ended tr s)
    (hd : ∀ k, (deskOf tr).party k = s.waiters.get? k)
    (hs : ∀ i, (s.waiter i).event = true → Yields tr i (s.slotHead i))
    (hm : Move P timeout s act s' es) : Ended (tr ++ es) s' := by
  have hdesk : (deskOf tr).party = s.waiters.get? := funext hd
  cases hm with
  | call hi =>
    rw [List.append_nil]
    exact h.goes (by simp [hi]) (fun r hr => by cases hr)
  | @register i ask hi =>
    have hgoes := h.goes (i := i) (c := .send ask) (by simp [hi]) (fun r hr => by cases hr)
    have hemits := hgoes.emits [.registered i ask.key] (by rw [deskOf_append]; rfl)
      (by simp) (by simp)
    exact ⟨hemits.results, hemits.ended, hemits.unmatched, hemits.numbered⟩
  | @unregister i ask r hi =>
    have hgoes := h.goes (i := i) (c := .done ask r) (by simp [hi])
      (fun r' hr => h.results i r' (by rw [hi]; exact hr))
    have hemits := hgoes.emits [.unregistered ask.key, .ended i r]
      (by rw [deskOf_append]; rfl) (by simp) (by simp)
    exact ⟨hemits.results, hemits.ended, hemits.unmatched, hemits.numbered⟩
  | sent hi =>
    rw [List.append_nil]
    exact h.goes (by simp [hi]) (fun r hr => by cases hr)
  | failed hi | timedOut hi =>
    rw [List.append_nil]
    refine h.goes (by simp [hi]) (fun r hr => ?_)
    cases hr
    trivial
  | woken hi hset =>
    rw [List.append_nil]
    refine h.goes (by simp [hi]) (fun r hr => ?_)
    cases hr
    exact hs _ hset
  | receive hl =>
    rw [List.append_nil]
    exact h.receive hl
  | found hl hi => exact h.looked hl (by rw [hdesk, hi]) rfl (by simp)
  | missed hl hi => exact h.looked hl (by rw [hdesk, hi]) rfl (by simp)
  | append hl | set hl =>
    rw [List.append_nil]
    exact h.turns (by rw [hl]; rfl) (by simp)
  | @submit d hl =>
    have hemits := h.emits [.pooled d] (by rw [deskOf_append]; rfl) (by simp) (by simp [hl])
    exact hemits.turns (w := s.waiter) (by rw [hl]; rfl) (by simp)
  | drop hl =>
    rw [List.append_nil]
    exact h.turns (w := s.waiter) (by rw [hl]; rfl) (by simp)

/-! ### Runs -/

/-- What holds of a run of calls with ids of their own. -/
structure Settled (tr : List Event) (s : State) : Prop where
  waiting : Waiting s
  offers : Offers tr s
  ended : Ended tr s

theorem settled_init : Settled [] State.init where
  waiting :=
    ⟨fun _ _ _ h => (by cases h), fun _ _ => ⟨fun h => (by cases h), fun h => (by cases h)⟩⟩
  offers :=
    ⟨fun _ => rfl, fun _ => rfl, fun _ _ => ⟨rfl, by simp [State.init, Loop.holds]⟩,
      fun _ h => (by simp [State.init] at h), fun _ _ h => (by cases h)⟩
  ended :=
    ⟨fun _ _ h => (by cases h), fun _ _ h => (by cases h), fun _ h => (by simp [State.init] at h),
      rfl⟩

theorem settled_run (h : (pullLts P timeout).Run Distinct State.init tr s) : Settled tr s := by
  refine h.invariant settled_init fun hset hd hs => ?_
  have hm := move_of_step hs
  exact ⟨hset.waiting.step hd hm, hset.offers.step hset.waiting hm,
    hset.ended.step hset.offers.desk (fun i => hset.offers.slotHead) hm⟩

/-- A message is looked up once, for one call or for none. -/
theorem Ended.looked_once (h : Ended tr s) {e e' : Delivery × Option ℕ}
    (he : e ∈ (deskOf tr).book) (he' : e' ∈ (deskOf tr).book) (hn : e.1.number = e'.1.number) :
    e = e' := by
  have hnodup : ((deskOf tr).book.map (·.1.number)).Nodup := by
    have hrange := List.nodup_range (n := s.dispatched)
    rw [← h.numbered] at hrange
    exact (List.nodup_append.1 hrange).1
  exact List.inj_on_of_nodup_map hnodup he he' hn

theorem Settled.returned (h : Settled tr s) {i : ℕ} {d : Delivery}
    (hi : .ended i (.returned d) ∈ tr) : ((deskOf tr).offered i).head? = some d := by
  obtain ⟨ask, hdone⟩ := h.ended.ended i _ hi
  exact h.ended.results i _ (by rw [hdone]; rfl)

theorem Settled.returned_book (h : Settled tr s) {i : ℕ} {d : Delivery}
    (hi : .ended i (.returned d) ∈ tr) : (d, some i) ∈ (deskOf tr).book :=
  Desk.mem_offered.1 (List.mem_of_head? (h.returned hi))

theorem replies_reach_callers (h : (pullLts P timeout).Run Distinct State.init tr s) :
    (∀ i r, .ended i r ∈ tr → ∃ ask, s.calls i = .done ask r ∧ r ≠ .indexError
      ∧ ∀ d, r = .returned d → d.message.correlationId = some ask.key
        ∧ ((deskOf tr).offered i).head? = some d)
    ∧ (∀ i d, .ended i (.returned d) ∈ tr →
      (∀ d', .pooled d' ∈ tr → d'.number ≠ d.number)
      ∧ (∀ j d', .ended j (.returned d') ∈ tr → j ≠ i → d'.number ≠ d.number)
      ∧ ∀ d', (d', none) ∈ (deskOf tr).book → d'.number ≠ d.number)
    ∧ ((∀ i, s.calls i = .idle ∨ ∃ ask r, s.calls i = .done ask r) → s.waiters = Dict.empty) := by
  have hset := settled_run h
  refine ⟨fun i r hi => ?_, fun i d hi => ?_, fun hdone => ?_⟩
  · obtain ⟨ask, hdone⟩ := hset.ended.ended i r hi
    have hyields : Yields tr i r := hset.ended.results i r (by rw [hdone]; rfl)
    refine ⟨ask, hdone, ?_, ?_⟩
    · rintro rfl
      exact hyields
    · rintro d rfl
      obtain ⟨k, hk, hkey⟩ := hset.offers.keyed d i (hset.returned_book hi)
      rw [hdone] at hkey
      exact ⟨hk.trans hkey.symm, hyields⟩
  · have hbook := hset.returned_book hi
    have hnone : ∀ d', (d', none) ∈ (deskOf tr).book → d'.number ≠ d.number := by
      intro d' hd hn
      cases (hset.ended.looked_once hd hbook hn)
    refine ⟨fun d' hd => hnone d' (hset.ended.unmatched d' (.inl hd)), fun j d' hj hji hn => ?_,
      hnone⟩
    have heq := hset.ended.looked_once (hset.returned_book hj) hbook hn
    exact hji (Option.some.inj (Prod.mk.inj heq).2)
  · have hentries : s.waiters.entries = [] := by
      refine List.eq_nil_iff_forall_not_mem.2 fun ⟨k, i⟩ hm => ?_
      have hreg := (hset.waiting.waiters k i).1 (Dict.mem_entries.1 hm)
      rcases hdone i with hi | ⟨ask, r, hi⟩ <;> rw [hi] at hreg <;> cases hreg
    cases hw : s.waiters with
    | mk entries nodup =>
      rw [hw] at hentries
      subst hentries
      rfl

/-- A question that agent `a` asks of agent `b`, and its answer. -/
def asked : Ask :=
  ⟨⟨.request, ⟨.str (lit "a"), .str (lit "b"), lit "now", []⟩, lit "1", lit "1.0", [], none⟩, none⟩

def answered : Message :=
  ⟨.response, ⟨.str (lit "b"), .str (lit "a"), lit "now", []⟩, lit "2", lit "1.0", [],
    some (lit "1")⟩

/-- The steps after the call was made: it sends, the loop brings the answer, the call wakes. -/
def askedSteps : List Action :=
  [.run 0, .sent 0 (.answer 202 []), .receive answered, .dispatch, .dispatch, .dispatch, .wake 0,
    .run 0]

def askedEvents : List Event :=
  [.registered 0 (lit "1"), .looked ⟨0, answered⟩, .unregistered (lit "1"),
    .ended 0 (.returned ⟨0, answered⟩)]

theorem replies_reach_callers_answered : ∃ s,
    (pullLts (plainPython []) (lit "5.0")).Run Distinct State.init askedEvents s
      ∧ (∃ ask, s.calls 0 = .done ask (.returned ⟨0, answered⟩)
        ∧ answered.correlationId = some ask.key)
      ∧ s.waiters = Dict.empty := by
  have hcall : (pullLts (plainPython []) (lit "5.0")).Run Distinct State.init []
      (State.init.goes 0 (.register asked)) :=
    Lts.Run.single (a := .call 0 asked) (fun i ask _ j h => by cases h) rfl
  have hsteps : (pullLts (plainPython []) (lit "5.0")).Run Distinct
      (State.init.goes 0 (.register asked)) askedEvents _ :=
    Lts.run_of_exec (l := askedSteps) (fun a ha u i ask hact => by
      subst hact
      simp [askedSteps] at ha) rfl
  have hall := replies_reach_callers (hcall.trans hsteps)
  refine ⟨_, hcall.trans hsteps, ?_, hall.2.2 fun i => ?_⟩
  · obtain ⟨ask, hdone, -, hreturned⟩ := hall.1 0 (.returned ⟨0, answered⟩) (by simp [askedEvents])
    exact ⟨ask, hdone, (hreturned _ rfl).1⟩
  · by_cases hi : i = 0
    · subst hi
      exact .inr ⟨asked, .returned ⟨0, answered⟩, rfl⟩
    · exact .inl (by simp [hi, State.init])

end Pull

end AgentComm
