import AgentComm.Proofs.Forgetting
import AgentComm.Proofs.InlineTokens
import AgentComm.Proofs.Noninterference
import Mathlib.Data.List.Perm.Subperm

/-!
# Whom a guarded broker knows

Where no request is let in without a name, nothing that a broker keeps is anyone's but a configured
agent's, whatever requests it meets, so its tables do not outgrow the configured mapping.
-/

namespace AgentComm

open Lib

variable {P : Python} {cfg : ServerConfig} {tokens : Dict PyStr PyStr} {b : Broker} {p : PyStr}

/-- A request is processed under a configured name. -/
theorem Guarded.principal (hg : Guarded P cfg) (ht : cfg.agentTokens = some tokens) {req : Request}
    (hc : credentials P cfg req = some (.agent p)) : p ≠ [] ∧ tokens.contains p = true := by
  obtain ⟨allow, hauth⟩ := authenticate_of_credentials hc
  obtain ⟨t, -, hp⟩ := (authenticate_eq_agent_iff ht).1 hauth
  constructor
  · rintro rfl
    exact (guarded_iff ht).1 hg t hp
  · unfold Dict.contains
    rw [Dict.get?_of_invert hp, Option.isSome_some]

section Guarded

variable (hg : Guarded P cfg) (ht : cfg.agentTokens = some tokens)
include hg ht

theorem registered_configured (h : Served P cfg b) (a : PyStr)
    (ha : (b.stores.entry a).endpoint.isSome) : tokens.contains a = true := by
  revert a
  refine h.induction (I := fun s => ∀ a, (s.entry a).endpoint.isSome → tokens.contains a = true)
    ?_ ?_ ?_
  · intro a ha
    cases ha
  · intro env req p s o s' hs hc heffect a ha
    obtain ⟨hp, hconfigured⟩ := hg.principal ht hc
    by_cases hap : a = p
    · exact hap ▸ hconfigured
    · refine hs a ?_
      rcases heffect.spared hp hap with hsame | ⟨m, -, hsame⟩ <;> rwa [hsame] at ha
  · intro now s hs a ha
    rcases entry_sweepOnce_or cfg now s a with hsame | hsame <;> rw [hsame] at ha
    · cases ha
    · exact hs a ha

theorem written_configured (h : Served P cfg b) (a : PyStr) :
    ∀ text ∈ b.stores.waiting a, ∃ m q, text = serialize P m ∧ m.metadata.sender = .str q
      ∧ tokens.contains q = true := by
  refine h.induction (I := fun s => ∀ text ∈ s.waiting a, ∃ m q, text = serialize P m
    ∧ m.metadata.sender = .str q ∧ tokens.contains q = true) (fun text htext => ?_)
    (fun hs hc heffect text htext => ?_) fun {now s} hs text htext => ?_
  · simp [Stores.waiting] at htext
  · obtain ⟨hp, hconfigured⟩ := hg.principal ht hc
    rcases heffect.waiting htext with htext | ⟨m, hm, hfrom⟩
    · exact hs text htext
    · exact ⟨m, _, hm, hfrom hp, hconfigured⟩
  · rcases waiting_sweepOnce cfg (a := a) now s with hsame | hnone
    · exact hs text (hsame ▸ htext)
    · simp [hnone] at htext

theorem limited_configured (h : Served P cfg b) (k : PyStr) (hk : b.rateBuckets.contains k = true) :
    tokens.contains k = true := by
  revert k
  obtain ⟨tr, h⟩ := h
  refine h.invariant (I := fun _ b => ∀ k, b.rateBuckets.contains k = true →
    tokens.contains k = true) (fun k hk => ?_) ?_
  · cases hk
  rintro tr b (⟨env, req⟩ | now) b' es hb - hs k hk
  · cases hs
    by_cases hc : ∃ p, credentials P cfg req = some (.agent p)
    · obtain ⟨p, hc⟩ := hc
      obtain ⟨hp, hconfigured⟩ := hg.principal ht hc
      rw [handle_buckets_of_agent hc, rateKey, if_pos hp] at hk
      by_cases hkp : p = k
      · exact hkp ▸ hconfigured
      · unfold Dict.contains at hk
        rw [checkRateLimit_other hkp] at hk
        exact hb k hk
    · rw [handle_credentials fun p hp => hc ⟨p, hp⟩] at hk
      exact hb k hk
  · cases hs
    exact hb k hk

end Guarded

variable (P tokens b) in
/-- All that the broker keeps is of agents that have a token. -/
structure Confined : Prop where
  known : ∀ a, b.stores.entry a ≠ .blank → tokens.contains a = true
  written : ∀ a, ∀ text ∈ b.stores.waiting a, ∃ m q, text = serialize P m
    ∧ m.metadata.sender = .str q ∧ tokens.contains q = true
  limited : ∀ k, b.rateBuckets.contains k = true → tokens.contains k = true
  /-- no table has more entries than the mapping -/
  agents_le : b.stores.registry.listAgents.length ≤ tokens.entries.length
  buckets_le : b.rateBuckets.entries.length ≤ tokens.entries.length

theorem length_le_tokens {ids : List PyStr} (hn : ids.Nodup)
    (h : ∀ a ∈ ids, tokens.contains a = true) : ids.length ≤ tokens.entries.length := by
  have hsub : ids ⊆ tokens.entries.map Prod.fst := fun a ha => Dict.contains_iff.1 (h a ha)
  have hle := (hn.subperm hsub).length_le
  rwa [List.length_map] at hle

/-- However a guarded broker is used, it keeps to the agents of its configuration. -/
theorem guarded_confined (hg : Guarded P cfg) (ht : cfg.agentTokens = some tokens)
    (h : Served P cfg b) : Confined P tokens b := by
  have hknown := registered_configured hg ht h
  have hlimited := limited_configured hg ht h
  refine ⟨fun a ha => hknown a ?_, written_configured hg ht h, hlimited, ?_, ?_⟩
  · by_contra hnone
    exact ha (h.aligned.blank (Option.not_isSome_iff_eq_none.1 hnone))
  · rw [← List.length_map (f := Endpoint.agentId)]
    refine length_le_tokens b.stores.registry.nodup_listAgents fun a ha => hknown a ?_
    obtain ⟨e, he, rfl⟩ := List.mem_map.1 ha
    exact Option.isSome_iff_exists.2 ⟨e, Registry.mem_listAgents.1 he⟩
  · rw [← List.length_map (f := Prod.fst)]
    exact length_le_tokens b.rateBuckets.nodup fun k hk => hlimited k (Dict.contains_iff.2 hk)

/-- `b` registers its mailbox with its token. -/
def tokenRun : List SerialAction :=
  [.request downEnv { postJson (lit "/agents") boxPayload with
    authorization := some (bearerPrefix ++ lit "u") }]

theorem guarded_confined_inline : ∃ c srv tokens,
    BrokerConfig.fromEnv letterPython (plainHost []) inlineVars = .ok c
      ∧ buildBroker (plainHost []) c = .ok srv ∧ srv.config.agentTokens = some tokens
      ∧ ((serving letterPython srv.config).after Broker.init tokenRun).stores.entry (lit "b")
        ≠ .blank
      ∧ Confined letterPython tokens
        ((serving letterPython srv.config).after Broker.init tokenRun) := by
  obtain ⟨c, srv, hc, hs, hp⟩ := configured_of_check letterPython (plainHost []) inlineVars
    (fun r => r.2.config.agentTokens.isSome
      && (((serving letterPython r.2.config).after Broker.init tokenRun).stores.entry
        (lit "b")).endpoint.isSome) (by decide +kernel)
  obtain ⟨hsome, hthere⟩ := Bool.and_eq_true_iff.1 hp
  obtain ⟨tokens, ht⟩ := Option.isSome_iff_exists.1 hsome
  have hg : Guarded letterPython srv.config :=
    guarded_of_inline letterPython hc hs rfl rfl (by decide)
  refine ⟨c, srv, tokens, hc, hs, ht, fun hblank => ?_,
    guarded_confined hg ht (served_after tokenRun)⟩
  rw [hblank] at hthere
  cases hthere

end AgentComm
