import AgentComm.Sdk.StartStop
import Mathlib.Data.List.Basic

/-!
# Calls of start and stop that fail

A call is failure-atomic when it leaves the agent stopped or started and nothing in between. In
pull mode `start` asks the registry first and `stop` forgets its receive-loop last; in direct mode
`start` keeps the listener before it asks.
-/

namespace AgentComm

open Lib

namespace StartStop

variable {agent : Agent} {s s' : State} {x : Starting} {y : Stopping} {act : Action}

variable (agent) in
/-- The agent is stopped: nothing serves, no receive-loop is left but one that has been told to
stop, and `start` asks the registry, once there is a listener and a thread to be had. -/
structure Stopped (s : State) : Prop where
  server : s.server = none
  recvThread : s.recvThread = none
  listening : s.listening = []
  loops : s.loops = [] ∨ s.recvStop = true
  asks : ∀ x : Starting, x.bind = .ok () → x.spawn = .ok () →
    (start agent x s).asked = some x.register

/-- The agent runs: it has its listener, or its receive-loop unless that has ended. -/
inductive Running (agent : Agent) (s : State) : Prop
  | pull (k : ℕ) (hpull : agent.pull = true) (hthread : s.recvThread = some k)
      (hserver : s.server = none) (hlistening : s.listening = [])
      (hloops : s.loops = [k] ∨ s.loops = [])
  | direct (k : ℕ) (hpull : agent.pull = false) (hserver : s.server = some k)
      (hthread : s.recvThread = none) (hlistening : s.listening = [k]) (hloops : s.loops = [])

variable (agent s) in
/-- What a call of `start` is to keep. -/
structure StartKept (x : Starting) : Prop where
  raised : ∀ e, (start agent x s).result = .error e → Stopped agent (start agent x s).state
  registered : Stopped agent s → (start agent x s).result = .ok () →
    (start agent x s).asked = some .accepted
  quiet : Stopped agent s → ∀ k ∈ s.loops, k ∈ (start agent x s).state.loops →
    (start agent x s).state.recvStop = true

variable (agent s) in
/-- What a call of `stop` is to keep, whether it returns or raises. -/
structure StopKept (y : Stopping) : Prop where
  stopped : Stopped agent (stop agent y s).state
  joined : Running agent s → y.joined = true → (stop agent y s).state.loops = []

variable (agent s) in
def Kept : Action → Prop
  | .start x => StartKept agent s x
  | .stop y => StopKept agent s y
  | .ended _ => True

variable (agent s) in
/-- When a call is failure-atomic. In direct mode the registry takes a registration it is asked
for. In pull mode it may also raise, but no receive-loop of an earlier run is still in its poll
when `start` gets as far as its own. From a running agent `unregister` raises nothing but
`AgentNotFoundError`. -/
def Sound : Action → Prop
  | .start x => s.server = none → s.recvThread = none →
      if agent.pull then (∀ e, x.register ≠ .raised e) → 0 < agent.maxHandlerWorkers →
        s.loops = [] ∧ (x.spawn = .ok () → x.register = .accepted)
      else x.bind = .ok () → x.spawn = .ok () → x.register = .accepted
  | .stop y => s.server ≠ none ∨ s.recvThread ≠ none → y.unregister.escapes = none
  | .ended _ => True

/-! ### One call -/

/-- The three ends of a `start` in pull mode that begins. -/
theorem startPull_cases (hpull : agent.pull = true) (hthread : s.recvThread = none)
    (x : Starting) : (start agent x s).asked = some x.register
      ∧ (((∃ e, x.register = .raised e) ∨ agent.maxHandlerWorkers ≤ 0)
          ∧ (start agent x s).state = s ∧ (∃ e, (start agent x s).result = .error e)
        ∨ (∀ e, x.register ≠ .raised e) ∧ 0 < agent.maxHandlerWorkers
          ∧ (∃ e, x.spawn = .error e ∧ (start agent x s).result = .error e)
          ∧ (start agent x s).state = { s with handlerPool := true, recvStop := false }
        ∨ (∀ e, x.register ≠ .raised e) ∧ 0 < agent.maxHandlerWorkers
          ∧ x.spawn = .ok () ∧ (start agent x s).result = .ok ()
          ∧ (start agent x s).state = { s with
              handlerPool := true, recvStop := false, loops := s.fresh :: s.loops,
              recvThread := some s.fresh, fresh := s.fresh + 1 }) := by
  rw [start, if_pos hpull, startPull, if_neg (by simp [hthread])]
  split
  · rename_i e he
    exact ⟨rfl, .inl ⟨.inl ⟨e, he⟩, rfl, e, rfl⟩⟩
  · rename_i hno
    split_ifs with hworkers
    · exact ⟨rfl, .inl ⟨.inr hworkers, rfl, _, rfl⟩⟩
    · rcases hspawn : x.spawn with e | ⟨⟩
      · exact ⟨rfl, .inr (.inl ⟨hno, not_le.1 hworkers, ⟨e, rfl, rfl⟩, rfl⟩)⟩
      · exact ⟨rfl, .inr (.inr ⟨hno, not_le.1 hworkers, rfl, rfl, rfl⟩)⟩

/-- The two ends of a `start` in direct mode that begins: without a listener, or with one. -/
theorem startDirect_cases (hpull : agent.pull = false) (hserver : s.server = none)
    (x : Starting) :
    (¬ (x.bind = .ok () ∧ x.spawn = .ok ()) ∧ (start agent x s).state = s
        ∧ (start agent x s).asked = none ∧ ∃ e, (start agent x s).result = .error e)
      ∨ (x.bind = .ok () ∧ x.spawn = .ok ()
        ∧ (start agent x s).state = { s with
            listening := s.fresh :: s.listening, server := some s.fresh, fresh := s.fresh + 1 }
        ∧ (start agent x s).asked = some x.register
        ∧ ((start agent x s).result = .ok () ↔ ∀ e, x.register ≠ .raised e)) := by
  rw [start, if_neg (by simp [hpull]), startDirect, if_neg (by simp [hserver])]
  rcases hbind : x.bind with e | ⟨⟩
  · exact .inl ⟨by simp, rfl, rfl, e, rfl⟩
  rcases hspawn : x.spawn with e | ⟨⟩
  · exact .inl ⟨by simp, rfl, rfl, e, rfl⟩
  refine .inr ⟨rfl, rfl, ?_⟩
  simp only
  split
  · rename_i e he
    exact ⟨rfl, rfl, iff_of_false (by simp) fun h => h e he⟩
  · rename_i hno
    exact ⟨rfl, rfl, iff_of_true rfl hno⟩

theorem stopped_of (hserver : s.server = none) (hthread : s.recvThread = none)
    (hlistening : s.listening = []) (hloops : s.loops = [] ∨ s.recvStop = true) :
    Stopped agent s := by
  refine ⟨hserver, hthread, hlistening, hloops, fun x hbind hspawn => ?_⟩
  by_cases hpull : agent.pull = true
  · exact (startPull_cases hpull hthread x).1
  · rcases startDirect_cases (by simpa using hpull) hserver x with ⟨hno, -⟩ | ⟨-, -, -, hasked, -⟩
    · exact absurd ⟨hbind, hspawn⟩ hno
    · exact hasked

/-- A `start` that leaves everything as it was and raises is failure-atomic. -/
theorem StartKept.of_same (h : Stopped agent s) (hstate : (start agent x s).state = s)
    (hresult : ∃ e, (start agent x s).result = .error e) : StartKept agent s x := by
  obtain ⟨e, hresult⟩ := hresult
  refine ⟨fun _ _ => hstate.symm ▸ h, fun _ hok => ?_, fun _ k hk _ => ?_⟩
  · cases hresult.symm.trans hok
  · rw [hstate]
    exact h.loops.resolve_left (List.ne_nil_of_mem hk)

theorem startPull_kept (hpull : agent.pull = true) (h : Stopped agent s) :
    StartKept agent s x ↔ ((∀ e, x.register ≠ .raised e) → 0 < agent.maxHandlerWorkers →
      s.loops = [] ∧ (x.spawn = .ok () → x.register = .accepted)) := by
  obtain ⟨hasked, hend | hend | hend⟩ := startPull_cases hpull h.recvThread x
  · obtain ⟨hwhy, hstate, hresult⟩ := hend
    refine iff_of_true (.of_same h hstate hresult) fun hno hworkers => ?_
    rcases hwhy with ⟨e, he⟩ | hle
    · exact absurd he (hno e)
    · omega
  · obtain ⟨hno, hworkers, ⟨e, hspawn, hresult⟩, hstate⟩ := hend
    constructor
    · intro hkept _ _
      have hloops := (hkept.raised e hresult).loops
      rw [hstate] at hloops
      exact ⟨hloops.resolve_right (by simp), fun hok => by cases hspawn.symm.trans hok⟩
    · intro hall
      obtain ⟨hloops, -⟩ := hall hno hworkers
      refine ⟨fun _ _ => ?_, fun _ hok => ?_, fun _ k hk => ?_⟩
      · rw [hstate]
        exact stopped_of h.server h.recvThread h.listening (.inl hloops)
      · cases hresult.symm.trans hok
      · rw [hloops] at hk
        cases hk
  · obtain ⟨hno, hworkers, hspawn, hresult, hstate⟩ := hend
    constructor
    · intro hkept _ _
      refine ⟨?_, fun _ => Option.some.inj (hasked.symm.trans (hkept.registered h hresult))⟩
      by_contra hne
      obtain ⟨k, hk⟩ := List.exists_mem_of_ne_nil s.loops hne
      have hstop := hkept.quiet h k hk (by rw [hstate]; exact List.mem_cons_of_mem _ hk)
      rw [hstate] at hstop
      cases hstop
    · intro hall
      obtain ⟨hloops, haccepted⟩ := hall hno hworkers
      refine ⟨fun e he => ?_, fun _ _ => ?_, fun _ k hk => ?_⟩
      · cases hresult.symm.trans he
      · rw [hasked, haccepted hspawn]
      · rw [hloops] at hk
        cases hk

theorem startDirect_kept (hpull : agent.pull = false) (h : Stopped agent s)
    (hloops : s.loops = []) :
    StartKept agent s x ↔ (x.bind = .ok () → x.spawn = .ok () → x.register = .accepted) := by
  rcases startDirect_cases hpull h.server x with
    ⟨hno, hstate, -, hresult⟩ | ⟨hbind, hspawn, hstate, hasked, hresult⟩
  · exact iff_of_true (.of_same h hstate hresult) fun hbind hspawn => absurd ⟨hbind, hspawn⟩ hno
  · constructor
    · intro hkept _ _
      have hok : (start agent x s).result = .ok () := by
        rcases hend : (start agent x s).result with e | ⟨⟩
        · have hserver := (hkept.raised e hend).server
          rw [hstate] at hserver
          cases hserver
        · rfl
      exact Option.some.inj (hasked.symm.trans (hkept.registered h hok))
    · intro hall
      have haccepted := hall hbind hspawn
      have hok : (start agent x s).result = .ok () := hresult.2 fun e he => by
        cases haccepted.symm.trans he
      refine ⟨fun e he => ?_, fun _ _ => ?_, fun _ k hk => ?_⟩
      · cases hok.symm.trans he
      · rw [hasked, haccepted]
      · rw [hloops] at hk
        cases hk

/-- `start` of an agent that runs does nothing. -/
theorem start_running (h : Running agent s) : start agent x s = ⟨s, .ok (), none⟩ := by
  cases h with
  | pull k hpull hthread => simp [start, startPull, hpull, hthread]
  | direct k hpull hserver => simp [start, startDirect, hpull, hserver]

theorem Running.fields (h : Running agent s) : s.server ≠ none ∨ s.recvThread ≠ none := by
  cases h with
  | pull k _ hthread => exact .inr (by simp [hthread])
  | direct k _ hserver => exact .inl (by simp [hserver])

theorem Running.not_stopped (h : Running agent s) : ¬ Stopped agent s := fun hs => by
  cases h with
  | pull k _ hthread => cases hs.recvThread.symm.trans hthread
  | direct k _ hserver => cases hs.server.symm.trans hserver

theorem stop_stopped (h : Stopped agent s) : stop agent y s = ⟨s, .ok (), none⟩ := by
  simp [stop, stopPull, stopDirect, h.server, h.recvThread]

/-- `stop` of an agent that runs stops it, unless the registry raises. -/
theorem stop_running (h : Running agent s) (hquiet : y.unregister.escapes = none) :
    Stopped agent (stop agent y s).state
      ∧ (y.joined = true → (stop agent y s).state.loops = [])
      ∧ (agent.pull = false → (stop agent y s).state.loops = []) := by
  cases h with
  | pull k hpull hthread hserver hlistening hloops =>
    have hend : (stop agent y s).state = { s with
        recvStop := true, handlerPool := false, recvThread := none,
        loops := if y.joined then s.loops.erase k else s.loops } := by
      simp only [stop, if_pos hpull, stopPull, hthread, hquiet]
    rw [hend]
    refine ⟨stopped_of hserver rfl hlistening (.inr rfl), fun hjoined => ?_, fun hdirect => ?_⟩
    · simp only [if_pos hjoined]
      rcases hloops with hloops | hloops <;> simp [hloops]
    · cases hpull.symm.trans hdirect
  | direct k hpull hserver hthread hlistening hloops =>
    have hend : (stop agent y s).state
        = { s with listening := s.listening.erase k, server := none } := by
      simp only [stop, hpull, stopDirect, hserver, hquiet]
      rfl
    rw [hend]
    exact ⟨stopped_of rfl hthread (by simp [hlistening]) (.inl hloops), fun _ => hloops,
      fun _ => hloops⟩

/-- Where the registry raises, the agent has its listener or its receive-loop still. -/
theorem stop_raised (h : Running agent s) {e : Exc} (he : y.unregister.escapes = some e) :
    ¬ Stopped agent (stop agent y s).state := fun hs => by
  cases h with
  | pull k hpull hthread =>
    have hend : (stop agent y s).state = { s with recvStop := true, handlerPool := false } := by
      simp only [stop, if_pos hpull, stopPull, hthread, he]
    have hnone := hs.recvThread
    rw [hend] at hnone
    cases hthread.symm.trans hnone
  | direct k hpull hserver =>
    have hend : (stop agent y s).state = s := by
      simp only [stop, hpull, stopDirect, hserver, he]
      rfl
    rw [hend] at hs
    cases hserver.symm.trans hs.server

/-! ### Runs -/

variable (agent s) in
/-- Between the calls of a run in which every call was failure-atomic. -/
def Settled : Prop :=
  (Stopped agent s ∧ (agent.pull = false → s.loops = [])) ∨ Running agent s

theorem settled_init : Settled agent .init := .inl ⟨stopped_of rfl rfl rfl (.inl rfl), fun _ => rfl⟩

theorem kept_iff_sound (h : Settled agent s) (act : Action) :
    Kept agent s act ↔ Sound agent s act := by
  cases act with
  | ended k => exact Iff.rfl
  | start x =>
    rcases h with ⟨hstopped, hdirect⟩ | hrunning
    · have hsound : Sound agent s (.start x) ↔ if agent.pull then
          (∀ e, x.register ≠ .raised e) → 0 < agent.maxHandlerWorkers →
            s.loops = [] ∧ (x.spawn = .ok () → x.register = .accepted)
          else x.bind = .ok () → x.spawn = .ok () → x.register = .accepted :=
        ⟨fun hall => hall hstopped.server hstopped.recvThread, fun hall _ _ => hall⟩
      rw [hsound]
      by_cases hpull : agent.pull = true
      · rw [if_pos hpull]
        exact startPull_kept hpull hstopped
      · rw [if_neg hpull]
        rw [Bool.not_eq_true] at hpull
        exact startDirect_kept hpull hstopped (hdirect hpull)
    · refine iff_of_true ⟨fun e he => ?_, fun hs => absurd hs hrunning.not_stopped,
        fun hs => absurd hs hrunning.not_stopped⟩ fun hserver hthread => ?_
      · rw [start_running hrunning] at he
        cases he
      · exact absurd hrunning.fields (by simp [hserver, hthread])
  | stop y =>
    rcases h with ⟨hstopped, -⟩ | hrunning
    · refine iff_of_true ⟨?_, fun hr => absurd hstopped hr.not_stopped⟩ fun hor => ?_
      · rw [stop_stopped hstopped]
        exact hstopped
      · exact absurd hor (by simp [hstopped.server, hstopped.recvThread])
    · constructor
      · intro hkept _
        rcases hquiet : y.unregister.escapes with _ | e
        · rfl
        · exact absurd hkept.stopped (stop_raised hrunning hquiet)
      · intro hall
        obtain ⟨hstopped, hjoined, -⟩ := stop_running hrunning (hall hrunning.fields)
        exact ⟨hstopped, fun _ => hjoined⟩

theorem Settled.start (h : Settled agent s) (hok : Sound agent s (.start x)) :
    Settled agent (start agent x s).state := by
  rcases h with ⟨hstopped, hdirect⟩ | hrunning
  · have hall := hok hstopped.server hstopped.recvThread
    by_cases hpull : agent.pull = true
    · rw [if_pos hpull] at hall
      have hno : agent.pull ≠ false := by simp [hpull]
      obtain ⟨-, ⟨-, hstate, -⟩ | ⟨hregister, hworkers, -, hstate⟩
        | ⟨hregister, hworkers, -, -, hstate⟩⟩ := startPull_cases hpull hstopped.recvThread x
      · rw [hstate]
        exact .inl ⟨hstopped, hdirect⟩
      · obtain ⟨hloops, -⟩ := hall hregister hworkers
        rw [hstate]
        exact .inl ⟨stopped_of hstopped.server hstopped.recvThread hstopped.listening (.inl hloops),
          fun hp => absurd hp hno⟩
      · obtain ⟨hloops, -⟩ := hall hregister hworkers
        rw [hstate]
        exact .inr (.pull s.fresh hpull rfl hstopped.server hstopped.listening
          (.inl (by rw [hloops])))
    · rw [if_neg hpull] at hall
      rw [Bool.not_eq_true] at hpull
      rcases startDirect_cases hpull hstopped.server x with ⟨-, hstate, -⟩ | ⟨-, -, hstate, -⟩
      · rw [hstate]
        exact .inl ⟨hstopped, hdirect⟩
      · rw [hstate]
        exact .inr (.direct s.fresh hpull rfl hstopped.recvThread (by rw [hstopped.listening])
          (hdirect hpull))
  · rw [start_running hrunning]
    exact .inr hrunning

theorem Settled.stop (h : Settled agent s) (hok : Sound agent s (.stop y)) :
    Settled agent (stop agent y s).state := by
  rcases h with ⟨hstopped, hdirect⟩ | hrunning
  · rw [stop_stopped hstopped]
    exact .inl ⟨hstopped, hdirect⟩
  · obtain ⟨hstopped, -, hdirect⟩ := stop_running hrunning (hok hrunning.fields)
    exact .inl ⟨hstopped, hdirect⟩

/-- A receive-loop that ends changes nothing else. -/
theorem Settled.ended (h : Settled agent s) {k : ℕ} (hk : k ∈ s.loops) :
    Settled agent { s with loops := s.loops.erase k } := by
  rcases h with ⟨hstopped, hdirect⟩ | hrunning
  · refine .inl ⟨stopped_of hstopped.server hstopped.recvThread hstopped.listening ?_, fun hp => ?_⟩
    · exact hstopped.loops.imp_left fun hnil => by simp [hnil]
    · simp [hdirect hp]
  · cases hrunning with
    | pull j hpull hthread hserver hlistening hloops =>
      refine .inr (.pull j hpull hthread hserver hlistening (.inr ?_))
      rcases hloops with hloops | hloops <;> rw [hloops] at hk
      · obtain rfl := List.mem_singleton.1 hk
        simp [hloops]
      · cases hk
    | direct j hpull hserver hthread hlistening hloops =>
      rw [hloops] at hk
      cases hk

/-- A sound step leads from between calls to between calls. -/
theorem Settled.step {es : List Event} (h : Settled agent s) (hok : Sound agent s act)
    (hs : (lifecycle agent).step s act = some (s', es)) : Settled agent s' := by
  cases act with
  | start x =>
    cases hs
    exact h.start hok
  | stop y =>
    cases hs
    exact h.stop hok
  | ended k =>
    simp only [lifecycle] at hs
    split_ifs at hs with hk
    cases hs
    exact h.ended hk

/-- In a run in which every call meets the condition, every call is failure-atomic; the first that
does not meet it is not. -/
theorem start_stop_atomic_iff {tr : List Event}
    (h : (lifecycle agent).Run (Sound agent) .init tr s) (act : Action) :
    Kept agent s act ↔ Sound agent s act := by
  refine kept_iff_sound ?_ act
  exact h.invariant (I := fun _ s => Settled agent s) settled_init fun h hok hs => h.step hok hs

/-- What the registry raises while the broker cannot be reached. -/
def unreachable : RegistryAnswer := .raised ⟨.osError, lit "connection refused"⟩

def goodStart : Starting := ⟨.ok (), .accepted, .ok ()⟩

def goodStop : Stopping := ⟨.accepted, true⟩

/-- A pull agent that has run once may be started in vain. -/
theorem start_stop_atomic_restart : StartKept ⟨true, 4⟩
    (stop ⟨true, 4⟩ goodStop (start ⟨true, 4⟩ goodStart .init).state).state
    ⟨.ok (), unreachable, .ok ()⟩ := by
  have hstart : Sound ⟨true, 4⟩ .init (.start goodStart) :=
    fun _ _ _ _ => ⟨rfl, fun _ => rfl⟩
  have hstop : Sound ⟨true, 4⟩ (start ⟨true, 4⟩ goodStart .init).state (.stop goodStop) :=
    fun _ => rfl
  refine (start_stop_atomic_iff ((Lts.Run.single hstart rfl).snoc hstop rfl)
    (.start ⟨.ok (), unreachable, .ok ()⟩)).2 fun _ _ hno => ?_
  exact absurd rfl (hno _)

/-- In direct mode a `start` that raises leaves its listener, and the next one does nothing. In
either mode a `stop` that raises leaves the agent to another `start` that does nothing. -/
theorem failed_calls_keep_agent :
    (start ⟨false, 4⟩ ⟨.ok (), unreachable, .ok ()⟩ .init).result
        = .error ⟨.osError, lit "connection refused"⟩
      ∧ (start ⟨false, 4⟩ ⟨.ok (), unreachable, .ok ()⟩ .init).state.listening = [0]
      ∧ (∀ x, (start ⟨false, 4⟩ x
          (start ⟨false, 4⟩ ⟨.ok (), unreachable, .ok ()⟩ .init).state).asked = none)
      ∧ ¬ Kept ⟨false, 4⟩ .init (.start ⟨.ok (), unreachable, .ok ()⟩)
      ∧ ∀ pull, (∀ x, (start ⟨pull, 4⟩ x (stop ⟨pull, 4⟩ ⟨unreachable, true⟩
          (start ⟨pull, 4⟩ goodStart .init).state).state).asked = none)
        ∧ ¬ Kept ⟨pull, 4⟩ (start ⟨pull, 4⟩ goodStart .init).state (.stop ⟨unreachable, true⟩) := by
  refine ⟨rfl, rfl, fun _ => rfl, fun h => ?_, fun pull => ⟨fun _ => ?_, fun h => ?_⟩⟩
  · cases (h.raised _ rfl).listening
  · cases pull <;> rfl
  · cases pull
    · cases h.stopped.server
    · cases h.stopped.recvThread

end StartStop

end AgentComm
