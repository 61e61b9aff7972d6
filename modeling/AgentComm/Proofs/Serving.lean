import AgentComm.Lib.Unwinding
import AgentComm.Proofs.Marks
import AgentComm.Proofs.Refinement

/-!
# The serving broker as a machine

Whole requests and whole sweeps, one at a time, as a machine with its inputs in a list. Its runs
are those of the transition system, so an invariant over the inputs holds of every broker served.
-/

namespace AgentComm

open Lib

variable (P : Python) (cfg : ServerConfig)

/-- The broker as it takes whole requests and whole sweeps. -/
def serving : Mealy Broker SerialAction Outcome where
  step b
    | .request env req => ((handle P cfg env req b).2, [(handle P cfg env req b).1])
    | .sweep now => ({ b with stores := sweepOnce cfg now b.stores }, [])

variable {P cfg}

theorem serving_step (b : Broker) (act : SerialAction) :
    (serialLts P cfg).step b act = some ((serving P cfg).step b act) := by
  cases act <;> rfl

/-- The machine's runs are runs of the transition system. -/
theorem serving_run : ∀ (as : List SerialAction) (b : Broker),
    (serialLts P cfg).Free b ((serving P cfg).output b as) ((serving P cfg).after b as)
  | [], _ => .refl
  | act :: as, b =>
    (Lts.Run.single (a := act) trivial (serving_step b act)).trans
      (serving_run as ((serving P cfg).step b act).1)

/-- A broker is served when inputs lead to it. -/
theorem served_iff_after {b : Broker} :
    Served P cfg b ↔ ∃ as, (serving P cfg).after Broker.init as = b := by
  constructor
  · rintro ⟨tr, h⟩
    refine h.invariant (I := fun _ b => ∃ as, (serving P cfg).after Broker.init as = b)
      ⟨[], rfl⟩ ?_
    rintro tr b act b' es ⟨as, rfl⟩ - hs
    rw [serving_step, Option.some.injEq] at hs
    exact ⟨as ++ [act], by rw [Mealy.after_snoc, hs]⟩
  · rintro ⟨as, rfl⟩
    exact ⟨_, serving_run as Broker.init⟩

theorem served_after (as : List SerialAction) :
    Served P cfg ((serving P cfg).after Broker.init as) :=
  served_iff_after.2 ⟨as, rfl⟩

/-- What a request is processed under, if it is processed. -/
theorem handle_credentials {env : Env} {req : Request} {b : Broker}
    (h : ∀ p, credentials P cfg req ≠ some (.agent p)) : (handle P cfg env req b).2 = b := by
  have hhandled := handle_effect P cfg env req b
  rcases hc : credentials P cfg req with _ | p | detail | e <;> rw [hc] at hhandled
  · exact hhandled.1
  · exact absurd hc (h p)
  · exact hhandled.2
  · exact hhandled.2

/-- What is known of a request processed under an id. -/
theorem handle_of_agent (env : Env) {req : Request} (b : Broker) {p : PyStr}
    (h : credentials P cfg req = some (.agent p)) :
    Effect P cfg env req p b.stores (handle P cfg env req b).1
      (handle P cfg env req b).2.stores := by
  have hhandled := handle_effect P cfg env req b
  rw [h] at hhandled
  exact hhandled

variable (cfg) in
/-- A sweep takes an agent out, or leaves all of it. -/
theorem entry_sweepOnce_or (now : ℚ) (s : Stores) (a : PyStr) :
    (sweepOnce cfg now s).entry a = .blank ∨ (sweepOnce cfg now s).entry a = s.entry a := by
  have hsweep : ∀ mailbox, (s.entry a).sweep cfg now mailbox = .blank
      ∨ (s.entry a).sweep cfg now mailbox = s.entry a := by
    intro mailbox
    unfold Entry.sweep
    split
    · split_ifs
      · exact .inl rfl
      · exact .inr rfl
    · exact .inr rfl
  rw [entry_sweepOnce]
  split
  · exact hsweep _
  · exact .inr rfl

/-- What the empty stores have, and every effect and every sweep keeps, all served stores have. -/
theorem Served.induction {I : Stores → Prop} {b : Broker} (h : Served P cfg b)
    (hempty : I Stores.empty)
    (heffect : ∀ {env req p s o s'}, I s → credentials P cfg req = some (.agent p) →
      Effect P cfg env req p s o s' → I s')
    (hsweep : ∀ {now s}, I s → I (sweepOnce cfg now s)) : I b.stores := by
  obtain ⟨tr, h⟩ := h
  refine h.invariant (I := fun _ b => I b.stores) hempty ?_
  rintro tr b (⟨env, req⟩ | now) b' es hb - hs
  · cases hs
    by_cases hc : ∃ p, credentials P cfg req = some (.agent p)
    · obtain ⟨p, hc⟩ := hc
      exact heffect hb hc (handle_of_agent env b hc)
    · rw [handle_credentials fun p hp => hc ⟨p, hp⟩]
      exact hb
  · cases hs
    exact hsweep hb

/-- What requests and sweeps lead to from a served broker is served. -/
theorem Served.run {ok : Broker → SerialAction → Prop} {b b' : Broker} {tr : List Outcome}
    (h : Served P cfg b) (hrun : (serialLts P cfg).Run ok b tr b') : Served P cfg b' := by
  refine hrun.invariant (I := fun _ b => Served P cfg b) h ?_
  rintro tr b act b' es ⟨tr', hb⟩ - hs
  exact ⟨_, hb.snoc trivial hs⟩

theorem Served.handle {b : Broker} (h : Served P cfg b) (env : Env) (req : Request) :
    Served P cfg (handle P cfg env req b).2 := by
  obtain ⟨tr, h⟩ := h
  exact ⟨_, h.snoc (a := .request env req) trivial rfl⟩

end AgentComm
