import AgentComm.Proofs.Clients
import AgentComm.Proofs.Discovery

/-!
# A sweep loop that may end

A TTL that is too large for a `float` makes the sweep raise, and the sweep loop ends with it: the
broker goes on, and is never swept again. Where no TTL is so large the loop goes on, and every
sweep is the whole one.
-/

namespace AgentComm

open Lib

/-! ### One sweep -/

section Sweep

variable {cfg : ServerConfig} {now : ℚ} {s : Stores} {a : PyStr} {l : List Endpoint}

/-- However far a sweep comes, it keeps what every removal keeps. -/
theorem sweepEndpoints_keeps {I : Stores → Prop} (hremove : ∀ a s, I s → I (removeStores a s)) :
    ∀ {l : List Endpoint} {s : Stores}, I s → I (sweepEndpoints cfg now l s).1
  | [], _, h => h
  | e :: l, s, h => by
    unfold sweepEndpoints
    split_ifs
    · exact h
    · refine sweepEndpoints_keeps hremove ?_
      unfold sweepAgent
      split
      · split_ifs
        · exact hremove _ _ h
        · exact h
      · exact h

theorem sweepEndpoints_entry (a : PyStr) : ((sweepEndpoints cfg now l s).1.entry a) = .blank
    ∨ ((sweepEndpoints cfg now l s).1.entry a) = s.entry a := by
  refine sweepEndpoints_keeps (I := fun t => t.entry a = .blank ∨ t.entry a = s.entry a)
    (fun b t h => ?_) (.inr rfl)
  rw [entry_removeStores]
  split_ifs
  · exact .inl rfl
  · exact h

/-- A sweep that comes to its end has gone through all of its snapshot. -/
theorem sweepEndpoints_ended : ∀ {l : List Endpoint} {s : Stores},
    (sweepEndpoints cfg now l s).2 = none →
    (sweepEndpoints cfg now l s).1 = l.foldl (sweepAgent cfg now) s
  | [], _, _ => rfl
  | e :: l, s, h => by
    unfold sweepEndpoints at h ⊢
    split_ifs at h ⊢
    exact sweepEndpoints_ended h

theorem trySweepOnce_ended (h : (trySweepOnce cfg now s).2 = none) :
    (trySweepOnce cfg now s).1 = sweepOnce cfg now s := sweepEndpoints_ended h

/-- All TTLs are small enough for a `float`. -/
def Stores.Floats (s : Stores) : Prop := ∀ a ttl, (s.entry a).ttl = some ttl → ttl < floatLimit

theorem Stores.Floats.removeStores (h : s.Floats) (a : PyStr) : (removeStores a s).Floats := by
  intro b ttl hb
  rw [entry_removeStores] at hb
  split_ifs at hb
  · cases hb
  · exact h b ttl hb

theorem Stores.Floats.sumRaises (h : s.Floats) (e : Endpoint) : sumRaises s e = false := by
  unfold AgentComm.sumRaises
  split
  · rename_i hb ttl hh ht
    exact decide_eq_false (not_le.2 (h e.agentId ttl ht))
  · rfl

theorem Stores.Floats.sweepAgent (h : s.Floats) (e : Endpoint) :
    (sweepAgent cfg now s e).Floats := by
  unfold AgentComm.sweepAgent
  split
  · split_ifs
    · exact h.removeStores _
    · exact h
  · exact h

theorem Stores.Floats.ends : ∀ {l : List Endpoint} {s : Stores}, s.Floats →
    (sweepEndpoints cfg now l s).2 = none
  | [], _, _ => rfl
  | e :: l, s, h => by
    rw [sweepEndpoints, h.sumRaises, if_neg Bool.false_ne_true]
    exact (h.sweepAgent e).ends

theorem Stores.Floats.trySweepOnce (h : s.Floats) :
    trySweepOnce cfg now s = (sweepOnce cfg now s, none) :=
  Prod.ext (trySweepOnce_ended h.ends) h.ends

end Sweep

/-! ### The loop -/

/-- The broker, and whether its sweep loop goes on. -/
structure Looping where
  broker : Broker
  goesOn : Bool

def Looping.init : Looping := ⟨Broker.init, true⟩

/-- What is seen of a run: an answer, or a sweep with what it raised. -/
inductive Shown
  | answered (o : Outcome)
  | swept (now : ℚ) (raised : Option Exc)

variable (P : Python) (cfg : ServerConfig)

/-- The broker as it takes whole requests, and whole sweeps until one raises. -/
def looping : Mealy Looping SerialAction Shown where
  step w
    | .request env req =>
      ({ w with broker := (handle P cfg env req w.broker).2 },
        [.answered (handle P cfg env req w.broker).1])
    | .sweep now =>
      if w.goesOn then
        (⟨{ w.broker with stores := (trySweepOnce cfg now w.broker.stores).1 },
            (trySweepOnce cfg now w.broker.stores).2.isNone⟩,
          [.swept now (trySweepOnce cfg now w.broker.stores).2])
      else (w, [])

/-- When the last sweep that came to its end was, by when the one before was. -/
def Shown.sweptAt (t : ℚ) : Shown → ℚ
  | swept now none => now
  | _ => t

def lastSwept (c : ℚ) (es : List Shown) : ℚ := es.foldl Shown.sweptAt c

/-- A request asks for a TTL in its registration. -/
def AsksTtl (req : Request) (ttl : ℤ) : Prop :=
  ∃ raw data p r, readBody P cfg req = .text raw ∧ P.jsonLoads raw = .ok (.obj data)
    ∧ validateRegisterPayload data p = .ok r ∧ r.ttl = some ttl

/-- The TTLs that the requests ask for, and the default one, are small enough for a `float`. -/
structure FloatTtls (as : List SerialAction) : Prop where
  default : cfg.defaultTtlSeconds < floatLimit
  asked : ∀ env req ttl, .request env req ∈ as → AsksTtl P cfg req ttl → ttl < floatLimit

variable {P cfg} {as : List SerialAction} {c : ℚ} {env : Env} {req : Request} {p : PyStr}
variable {o : Outcome} {s s' : Stores}

theorem Registration.ttlToSet_cases {r : Registration} {isNew : Bool} {ttl : ℤ}
    (h : r.ttlToSet cfg isNew = some ttl) : r.ttl = some ttl ∨ ttl = cfg.defaultTtlSeconds := by
  unfold ttlToSet at h
  split at h
  · rename_i t ht
    exact .inl (ht.trans h)
  · split_ifs at h
    exact .inr (Option.some.inj h).symm

/-- A TTL is one that was there, the default, or one that is asked for. -/
theorem Effect.ttl_cases (h : Effect P cfg env req p s o s') {a : PyStr} {ttl : ℤ}
    (ha : (s'.entry a).ttl = some ttl) : (∃ b, (s.entry b).ttl = some ttl)
      ∨ ttl = cfg.defaultTtlSeconds ∨ AsksTtl P cfg req ttl := by
  have hauto : ∀ {x : Entry} {t b}, (x.autoRegister t cfg.defaultTtlSeconds b).ttl = some ttl →
      x.ttl = some ttl ∨ ttl = cfg.defaultTtlSeconds := by
    rintro ⟨_, _, _, _ | x, _⟩ t b hx
    · exact .inr (Option.some.inj hx).symm
    · exact .inl hx
  have htaken : ∀ {s : Stores} {t b}, (((s.pollHeartbeat b t).takeAll b).entry a).ttl = some ttl →
      (s.entry a).ttl = some ttl := by
    intro s t b hs
    rw [entry_takeAll, Stores.entry_pollHeartbeat] at hs
    split_ifs at hs <;> exact hs
  cases h with
  | refused | raised | read | routed => exact .inl ⟨a, ha⟩
  | enqueued =>
    rw [Stores.entry_enqueue] at ha
    split_ifs at ha <;> exact .inl ⟨a, ha⟩
  | @registered _ raw data r hm hp hraw hdata hr =>
    rw [entry_registerStores] at ha
    split_ifs at ha
    · rw [Entry.register] at ha
      rcases httl : r.ttlToSet cfg (s.isNew r.agentId) with _ | x
      · rw [httl, Option.none_or] at ha
        exact .inl ⟨a, ha⟩
      · rw [httl, Option.some_or] at ha
        obtain rfl := Option.some.inj ha
        rcases Registration.ttlToSet_cases httl with hasked | hdefault
        · exact .inr (.inr ⟨_, _, _, r, hraw, hdata, hr, hasked⟩)
        · exact .inr (.inl hdefault)
    · exact .inl ⟨a, ha⟩
  | removed =>
    rw [entry_removeStores] at ha
    split_ifs at ha
    · cases ha
    · exact .inl ⟨a, ha⟩
  | polled => exact .inl ⟨a, htaken ha⟩
  | autoRegistered =>
    have hs := htaken ha
    rw [entry_autoRegisterStores] at hs
    split_ifs at hs
    · exact (hauto hs).imp (fun h => ⟨a, h⟩) .inl
    · exact .inl ⟨a, hs⟩
  | halfPolled =>
    rw [entry_autoRegisterStores] at ha
    split_ifs at ha
    · exact (hauto ha).imp (fun h => ⟨a, h⟩) .inl
    · exact .inl ⟨a, ha⟩

theorem Stores.Floats.of_effect (hs : s.Floats) (hdefault : cfg.defaultTtlSeconds < floatLimit)
    (hasked : ∀ ttl, AsksTtl P cfg req ttl → ttl < floatLimit) (h : Effect P cfg env req p s o s') :
    s'.Floats := by
  intro a ttl ha
  rcases h.ttl_cases ha with ⟨b, hb⟩ | rfl | hreq
  · exact hs b ttl hb
  · exact hdefault
  · exact hasked ttl hreq

/-- Where the TTLs are small enough, the broker with its sweep loop is the one whose sweeps are
always whole, and the loop goes on. -/
theorem looping_floats (h : FloatTtls P cfg as) :
    (looping P cfg).after .init as = ⟨(serving P cfg).after Broker.init as, true⟩
      ∧ ((serving P cfg).after Broker.init as).stores.Floats
      ∧ ∀ now, .sweep now ∈ as → .swept now none ∈ (looping P cfg).output .init as := by
  induction as using List.reverseRecOn with
  | nil => exact ⟨rfl, fun a ttl ha => (by cases ha), fun now hnow => (by cases hnow)⟩
  | append_singleton as act ih =>
    obtain ⟨hafter, hfloats, hswept⟩ := ih ⟨h.default, fun env req ttl hmem =>
      h.asked env req ttl (List.mem_append_left _ hmem)⟩
    rw [Mealy.after_snoc, Mealy.after_snoc, Mealy.output_snoc, hafter]
    generalize (serving P cfg).after Broker.init as = b at hfloats
    rcases act with ⟨env, req⟩ | now
    · refine ⟨rfl, ?_, fun now hnow => ?_⟩
      · change (handle P cfg env req b).2.stores.Floats
        rcases handle_letIn_or P cfg env b req with ⟨p, -, -, heffect⟩ | hsame
        · exact hfloats.of_effect h.default (fun ttl => h.asked env req ttl (by simp)) heffect
        · rwa [hsame]
      · exact List.mem_append_left _ (hswept now (by simpa using hnow))
    · have hwhole : trySweepOnce cfg now b.stores = (sweepOnce cfg now b.stores, none) :=
        hfloats.trySweepOnce
      simp only [looping, serving, hwhole, if_true, Option.isNone_none, true_and]
      refine ⟨?_, fun now' hnow => ?_⟩
      · rw [← trySweepOnce_ended (congrArg Prod.snd hwhole)]
        exact sweepEndpoints_keeps (fun a _ hs => hs.removeStores a) hfloats
      · rcases List.mem_append.1 hnow with hmem | hmem
        · exact List.mem_append_left _ (hswept now' hmem)
        · cases List.mem_singleton.1 hmem
          exact List.mem_append_right _ (List.mem_singleton_self _)

variable (P cfg) in
/-- In every run the stores refine a table, also where a sweep has raised. -/
theorem looping_refines (as : List SerialAction) :
    ∃ T, Refines ((looping P cfg).after .init as).broker.stores T := by
  induction as using List.reverseRecOn with
  | nil => exact ⟨_, .empty⟩
  | append_singleton as act ih =>
    rw [Mealy.after_snoc]
    generalize (looping P cfg).after .init as = w at ih
    obtain ⟨T, hT⟩ := ih
    rcases act with ⟨env, req⟩ | now
    · change ∃ T, Refines (handle P cfg env req w.broker).2.stores T
      rcases handle_letIn_or P cfg env w.broker req with ⟨p, hc, -, heffect⟩ | hsame
      · obtain ⟨T', hT', -⟩ := hT.of_effect hc heffect
        exact ⟨T', hT'⟩
      · exact ⟨T, by rwa [hsame]⟩
    · simp only [looping]
      split_ifs
      · exact sweepEndpoints_keeps (I := fun s => ∃ T, Refines s T)
          (fun a s ⟨T, hT⟩ => ⟨_, hT.remove a⟩) ⟨T, hT⟩
      · exact ⟨T, hT⟩

variable (P cfg) in
theorem looping_aligned (as : List SerialAction) :
    ((looping P cfg).after .init as).broker.stores.Aligned := by
  obtain ⟨T, hT⟩ := looping_refines P cfg as
  exact hT.aligned

end AgentComm
