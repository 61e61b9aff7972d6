import AgentComm.Proofs.Production
import AgentComm.Proofs.Texts

/-!
# Inline token lists

The entries of an inline list are what stands between its commas. A blank one is passed over, one
with an id and a token adds its pair, and any other is refused, so a list is read just when its
entries spell pairs, and it is read as these.
-/

namespace AgentComm

open Lib

variable (P : Python)

/-- An id and a token as an inline list can hold them. -/
structure TokenPair where
  agentId : PyStr
  token : PyStr
  agentId_ne_nil : agentId ≠ []
  token_ne_nil : token ≠ []
  agentId_trimmed : Trimmed isSpace agentId
  token_trimmed : Trimmed isSpace token
  agentId_no_comma : 44 ∉ agentId
  token_no_comma : 44 ∉ token
  agentId_no_equals : 61 ∉ agentId

/-- The mapping that pairs make, one after the other. -/
def tokensOf (pairs : List TokenPair) : Dict PyStr PyStr :=
  pairs.foldl (fun tokens e => tokens.set e.agentId e.token) Dict.empty

/-- Each id has its last token. -/
theorem get?_tokensOf (pairs : List TokenPair) (a t : PyStr) :
    (tokensOf pairs).get? a = some t ↔ ∃ before e after, pairs = before ++ e :: after
      ∧ e.agentId = a ∧ e.token = t ∧ ∀ e' ∈ after, e'.agentId ≠ a :=
  Dict.get?_foldl_set TokenPair.agentId TokenPair.token a t pairs

/-- `s` is `id=token` with white space around the parts. -/
def TokenPair.WrittenAs (e : TokenPair) (s : PyStr) : Prop :=
  ∃ w₁ w₂ w₃ w₄, (Blank w₁ ∧ Blank w₂ ∧ Blank w₃ ∧ Blank w₄)
    ∧ s = w₁ ++ e.agentId ++ w₂ ++ 61 :: (w₃ ++ e.token ++ w₄)

/-- The entries of a list that spell these pairs, blank ones among them. -/
inductive Spells : List PyStr → List TokenPair → Prop
  | nil : Spells [] []
  | blank {s entries pairs} : Blank s → Spells entries pairs → Spells (s :: entries) pairs
  | pair {e : TokenPair} {s entries pairs} : e.WrittenAs s → Spells entries pairs →
    Spells (s :: entries) (e :: pairs)

/-- `s` is one of the parts between the commas of `raw`. -/
def IsEntry (raw s : PyStr) : Prop :=
  ∃ entries, entries ≠ [] ∧ (∀ w ∈ entries, 44 ∉ w) ∧ [44].intercalate entries = raw ∧ s ∈ entries

/-- An entry that is not blank and has no `=`, or nothing but white space on one side of its
first one. -/
def MalformedEntry (s : PyStr) : Prop :=
  ¬ Blank s ∧ (61 ∉ s ∨ ∃ left right, s = left ++ 61 :: right ∧ 61 ∉ left
    ∧ (Blank left ∨ Blank right))

/-! ### One entry -/

theorem not_isSpace_equals : ¬ isSpace 61 := by decide

theorem not_isSpace_comma : ¬ isSpace 44 := by decide

theorem parseInlineEntry_blank {s : PyStr} (h : Blank s) : parseInlineEntry P s = .ok none := by
  unfold parseInlineEntry
  simp only [strip_eq_nil_iff.2 h, if_true]

theorem parseInlineEntry_raises (s : PyStr) :
    Raises (fun e => e.kind = .valueError) (parseInlineEntry P s) := by
  unfold parseInlineEntry
  simp only []
  split_ifs
  · exact .ok none
  · split
    · exact .error rfl
    · split_ifs
      · exact .error rfl
      · exact .error rfl
      · exact .ok _

theorem parseInlineEntry_without {s : PyStr} (hs : ¬ Blank s) (h : 61 ∉ s)
    (r : Option (PyStr × PyStr)) : parseInlineEntry P s ≠ .ok r := by
  have hstrip : 61 ∉ strip s := fun hm => h (trim_subset hm)
  unfold parseInlineEntry
  simp [strip_eq_nil_iff.not.2 hs, splitOnce_none hstrip]

/-- An entry is split at its first `=`; both parts must have something in them. -/
theorem parseInlineEntry_parts {left : PyStr} (h : 61 ∉ left) (right : PyStr)
    (r : Option (PyStr × PyStr)) :
    parseInlineEntry P (left ++ 61 :: right) = .ok r
      ↔ (¬ Blank left ∧ ¬ Blank right) ∧ r = some (strip left, strip right) := by
  have hne : strip (left ++ 61 :: right) ≠ [] := by
    rw [Ne, strip_eq_nil_iff]
    exact fun hb => hb.not_mem not_isSpace_equals (by simp)
  obtain ⟨left', right', hsplit, hleft, hright⟩ := splitOnce_strip not_isSpace_equals h right
  unfold parseInlineEntry
  simp only [if_neg hne, hsplit, hleft, hright, ← strip_eq_nil_iff]
  split_ifs with hl hr
  · simp [hl]
  · simp [hr]
  · simp [hl, hr, eq_comm]

theorem parseInlineEntry_malformed {s : PyStr} (h : MalformedEntry s)
    (r : Option (PyStr × PyStr)) : parseInlineEntry P s ≠ .ok r := by
  obtain ⟨hs, h | ⟨left, right, rfl, hleft, hblank⟩⟩ := h
  · exact parseInlineEntry_without P hs h r
  · intro hok
    obtain ⟨⟨hl, hr⟩, -⟩ := (parseInlineEntry_parts P hleft right r).1 hok
    exact hblank.elim hl hr

theorem parseInlineEntry_pair {e : TokenPair} {s : PyStr} (h : e.WrittenAs s) :
    parseInlineEntry P s = .ok (some (e.agentId, e.token)) := by
  obtain ⟨w₁, w₂, w₃, w₄, ⟨h₁, h₂, h₃, h₄⟩, rfl⟩ := h
  have hid : strip (w₁ ++ e.agentId ++ w₂) = e.agentId :=
    strip_eq_iff.2 ⟨e.agentId_trimmed, w₁, w₂, rfl, h₁, h₂⟩
  have htoken : strip (w₃ ++ e.token ++ w₄) = e.token :=
    strip_eq_iff.2 ⟨e.token_trimmed, w₃, w₄, rfl, h₃, h₄⟩
  have hequals : 61 ∉ w₁ ++ e.agentId ++ w₂ := by
    simp only [List.mem_append, not_or]
    exact ⟨⟨h₁.not_mem not_isSpace_equals, e.agentId_no_equals⟩, h₂.not_mem not_isSpace_equals⟩
  rw [parseInlineEntry_parts P hequals, ← strip_eq_nil_iff, ← strip_eq_nil_iff, hid, htoken]
  exact ⟨⟨e.agentId_ne_nil, e.token_ne_nil⟩, rfl⟩

/-- Of an entry that is neither blank nor malformed a pair can be read. -/
theorem exists_writtenAs {s : PyStr} (hcomma : 44 ∉ s) (hs : ¬ Blank s)
    (h : ¬ MalformedEntry s) : ∃ e : TokenPair, e.WrittenAs s := by
  have hequals : 61 ∈ s := by
    by_contra hno
    exact h ⟨hs, .inl hno⟩
  obtain ⟨left, right, rfl, hleft⟩ := List.eq_append_cons_of_mem hequals
  have hparts : ¬ Blank left ∧ ¬ Blank right := by
    rw [← not_or]
    exact fun hb => h ⟨hs, .inr ⟨left, right, rfl, hleft, hb⟩⟩
  simp only [List.mem_append, List.mem_cons, not_or] at hcomma
  obtain ⟨hid, w₁, w₂, hl, h₁, h₂⟩ := strip_eq_iff.1 (rfl : strip left = _)
  obtain ⟨htoken, w₃, w₄, hr, h₃, h₄⟩ := strip_eq_iff.1 (rfl : strip right = _)
  refine ⟨⟨strip left, strip right, strip_eq_nil_iff.not.2 hparts.1,
    strip_eq_nil_iff.not.2 hparts.2, hid, htoken, fun hm => hcomma.1 (trim_subset hm),
    fun hm => hcomma.2.2 (trim_subset hm), fun hm => hleft (trim_subset hm)⟩,
    w₁, w₂, w₃, w₄, ⟨h₁, h₂, h₃, h₄⟩, ?_⟩
  rw [← hl, ← hr]

/-! ### The entries in a row -/

/-- What one entry does to the tokens read so far. -/
def addEntry (tokens : Dict PyStr PyStr) (entry : PyStr) : Except Exc (Dict PyStr PyStr) :=
  (parseInlineEntry P entry).map fun e => e.elim tokens fun e => tokens.set e.1 e.2

theorem parseInlineTokens_eq (raw : PyStr) :
    parseInlineTokens P raw = (splitAll 44 raw).foldlM (addEntry P) Dict.empty := by
  unfold parseInlineTokens
  congr 1
  funext tokens entry
  unfold addEntry
  rcases parseInlineEntry P entry with e | _ | e <;> rfl

theorem foldlM_spells {entries : List PyStr} {pairs : List TokenPair}
    (h : Spells entries pairs) : ∀ tokens : Dict PyStr PyStr,
    entries.foldlM (addEntry P) tokens
      = .ok (pairs.foldl (fun tokens e => tokens.set e.agentId e.token) tokens) := by
  induction h with
  | nil => exact fun _ => rfl
  | blank hs _ ih =>
    intro tokens
    rw [List.foldlM_cons, addEntry, parseInlineEntry_blank P hs]
    exact ih tokens
  | pair hs _ ih =>
    intro tokens
    rw [List.foldlM_cons, addEntry, parseInlineEntry_pair P hs]
    exact ih _

theorem parseInlineTokens_raises (raw : PyStr) :
    Raises (fun e => e.kind = .valueError) (parseInlineTokens P raw) := by
  rw [parseInlineTokens_eq]
  exact .foldlM (fun s _ _ => (parseInlineEntry_raises P s).map _) Dict.empty

theorem addEntry_malformed {s : PyStr} (h : MalformedEntry s) (tokens tokens' : Dict PyStr PyStr) :
    addEntry P tokens s ≠ .ok tokens' := by
  unfold addEntry
  rcases hs : parseInlineEntry P s with e | r
  · exact fun hok => by cases hok
  · exact absurd hs (parseInlineEntry_malformed P h r)

/-- Entries none of which is malformed spell some pairs. -/
theorem exists_spells : ∀ {entries : List PyStr},
    (∀ s ∈ entries, 44 ∉ s) → (∀ s ∈ entries, ¬ MalformedEntry s) → ∃ pairs, Spells entries pairs
  | [], _, _ => ⟨[], .nil⟩
  | s :: entries, hcomma, h => by
    obtain ⟨pairs, hpairs⟩ := exists_spells (fun w hw => hcomma w (List.mem_cons_of_mem s hw))
      fun w hw => h w (List.mem_cons_of_mem s hw)
    by_cases hs : Blank s
    · exact ⟨pairs, .blank hs hpairs⟩
    · obtain ⟨e, he⟩ := exists_writtenAs (hcomma s List.mem_cons_self) hs (h s List.mem_cons_self)
      exact ⟨e :: pairs, .pair he hpairs⟩

theorem Spells.no_comma {entries : List PyStr} {pairs : List TokenPair}
    (h : Spells entries pairs) : ∀ s ∈ entries, 44 ∉ s := by
  induction h with
  | nil => simp
  | blank hs _ ih => exact List.forall_mem_cons.2 ⟨hs.not_mem not_isSpace_comma, ih⟩
  | @pair e s _ _ hs _ ih =>
    obtain ⟨w₁, w₂, w₃, w₄, ⟨h₁, h₂, h₃, h₄⟩, rfl⟩ := hs
    refine List.forall_mem_cons.2 ⟨?_, ih⟩
    simp [h₁.not_mem not_isSpace_comma, h₂.not_mem not_isSpace_comma,
      h₃.not_mem not_isSpace_comma, h₄.not_mem not_isSpace_comma, e.agentId_no_comma,
      e.token_no_comma]

/-! ### The whole text -/

theorem isEntry_iff {raw s : PyStr} : IsEntry raw s ↔ s ∈ splitAll 44 raw := by
  unfold IsEntry
  constructor
  · rintro ⟨entries, hne, hcomma, hjoin, hs⟩
    rwa [splitAll_iff.2 ⟨hne, hcomma, hjoin⟩]
  · intro hs
    obtain ⟨hne, hcomma, hjoin⟩ := splitAll_iff.1 (rfl : splitAll 44 raw = _)
    exact ⟨_, hne, hcomma, hjoin, hs⟩

theorem parseInlineTokens_spells {entries : List PyStr} {pairs : List TokenPair}
    (h : Spells entries pairs) :
    parseInlineTokens P ([44].intercalate entries) = .ok (tokensOf pairs) := by
  rw [parseInlineTokens_eq]
  by_cases hne : entries = []
  · subst hne
    cases h
    rfl
  · rw [splitAll_iff.2 ⟨hne, h.no_comma, rfl⟩]
    exact foldlM_spells P h Dict.empty

example : (parseInlineTokens (plainPython []) (lit " a = v1 ,, b=x=y,\ta=v2 ,")).toOption.map
    Dict.entries = some [(lit "a", lit "v2"), (lit "b", lit "x=y")] := by decide

theorem parseInlineTokens_malformed {raw s : PyStr} (hs : IsEntry raw s)
    (h : MalformedEntry s) (tokens : Dict PyStr PyStr) : parseInlineTokens P raw ≠ .ok tokens := by
  rw [parseInlineTokens_eq]
  exact foldlM_fails (addEntry_malformed P h) (isEntry_iff.1 hs) Dict.empty tokens

/-- A text without a malformed entry is a list of pairs, joined. -/
theorem exists_spelled {raw : PyStr} (h : ¬ ∃ s, IsEntry raw s ∧ MalformedEntry s) :
    ∃ entries pairs, [44].intercalate entries = raw ∧ Spells entries pairs := by
  obtain ⟨-, hcomma, hjoin⟩ := splitAll_iff.1 (rfl : splitAll 44 raw = _)
  obtain ⟨pairs, hpairs⟩ := exists_spells hcomma fun s hs hm => h ⟨s, isEntry_iff.2 hs, hm⟩
  exact ⟨splitAll 44 raw, pairs, hjoin, hpairs⟩

/-- What is read is what the text spells. -/
theorem parseInlineTokens_ok {raw : PyStr} {tokens : Dict PyStr PyStr}
    (h : parseInlineTokens P raw = .ok tokens) :
    ∃ entries pairs, [44].intercalate entries = raw ∧ Spells entries pairs
      ∧ tokens = tokensOf pairs := by
  have hno : ¬ ∃ s, IsEntry raw s ∧ MalformedEntry s := by
    rintro ⟨s, hs, hm⟩
    exact parseInlineTokens_malformed P hs hm tokens h
  obtain ⟨entries, pairs, rfl, hpairs⟩ := exists_spelled hno
  rw [parseInlineTokens_spells P hpairs] at h
  exact ⟨entries, pairs, rfl, hpairs, (Except.ok.inj h).symm⟩

theorem get?_of_parseInlineTokens {raw : PyStr} {tokens : Dict PyStr PyStr}
    (h : parseInlineTokens P raw = .ok tokens) {a t : PyStr} (ht : tokens.get? a = some t) :
    (a ≠ [] ∧ Trimmed isSpace a) ∧ t ≠ [] ∧ Trimmed isSpace t := by
  obtain ⟨entries, pairs, -, -, rfl⟩ := parseInlineTokens_ok P h
  obtain ⟨before, e, after, -, rfl, rfl, -⟩ := (get?_tokensOf pairs a t).1 ht
  exact ⟨⟨e.agentId_ne_nil, e.agentId_trimmed⟩, e.token_ne_nil, e.token_trimmed⟩

/-- An inline list that spells pairs is read as the map from each id to its last token; a text is
refused just for a malformed entry, and what is read has no blank and no untrimmed part. -/
theorem inline_tokens_exact :
    (∀ entries pairs, Spells entries pairs →
      ∃ tokens, parseInlineTokens P ([44].intercalate entries) = .ok tokens
        ∧ ∀ a t, tokens.get? a = some t ↔ ∃ before e after, pairs = before ++ e :: after
          ∧ e.agentId = a ∧ e.token = t ∧ ∀ e' ∈ after, e'.agentId ≠ a)
      ∧ ∀ raw,
        ((∃ e, parseInlineTokens P raw = .error e ∧ e.kind = .valueError)
          ↔ ∃ s, IsEntry raw s ∧ MalformedEntry s)
        ∧ ((¬ ∃ s, IsEntry raw s ∧ MalformedEntry s) →
          ∃ tokens, parseInlineTokens P raw = .ok tokens
            ∧ ∀ a t, tokens.get? a = some t →
              (a ≠ [] ∧ Trimmed isSpace a) ∧ t ≠ [] ∧ Trimmed isSpace t) := by
  have hread {raw : PyStr} (h : ¬ ∃ s, IsEntry raw s ∧ MalformedEntry s) :
      ∃ tokens, parseInlineTokens P raw = .ok tokens := by
    obtain ⟨entries, pairs, rfl, hpairs⟩ := exists_spelled h
    exact ⟨_, parseInlineTokens_spells P hpairs⟩
  refine ⟨?_, fun raw => ⟨⟨?_, ?_⟩, ?_⟩⟩
  · intro entries pairs h
    exact ⟨tokensOf pairs, parseInlineTokens_spells P h, get?_tokensOf pairs⟩
  · rintro ⟨e, he, -⟩
    by_contra h
    obtain ⟨tokens, hok⟩ := hread h
    rw [he] at hok
    cases hok
  · rintro ⟨s, hs, h⟩
    rcases hraw : parseInlineTokens P raw with e | tokens
    · exact ⟨e, rfl, parseInlineTokens_raises P raw e hraw⟩
    · exact absurd hraw (parseInlineTokens_malformed P hs h tokens)
  · intro h
    obtain ⟨tokens, hok⟩ := hread h
    exact ⟨tokens, hok, fun a t => get?_of_parseInlineTokens P hok⟩

/-! ### Who an inline list lets in -/

/-- With no token file named, the mapping of a configuration is the inline list's. -/
theorem agentTokens_of_inline {host : Host} {vars : PyStr → Option PyStr} {c : BrokerConfig}
    (hc : BrokerConfig.fromEnv P host vars = .ok c)
    (hfile : (vars (lit "ROBOTSIX_BROKER_AGENT_TOKENS_FILE")).getD [] = []) {raw : PyStr}
    (hraw : vars (lit "ROBOTSIX_BROKER_AGENT_TOKENS") = some raw) (hne : raw ≠ []) :
    ∃ tokens, parseInlineTokens P raw = .ok tokens ∧ c.agentTokens = some tokens := by
  obtain ⟨c', hparse, h⟩ := bind_eq_ok hc
  obtain ⟨warnings, -, h⟩ := bind_eq_ok h
  cases h
  obtain ⟨agentTokens, htokens, h⟩ := bind_eq_ok hparse
  have hc : c.agentTokens = agentTokens := by
    iterate 5 obtain ⟨_, -, h⟩ := bind_eq_ok h
    cases h
    rfl
  unfold BrokerConfig.resolveTokens at htokens
  simp only [hfile, hraw, Option.getD_some, ne_eq, not_true_eq_false, if_false, hne,
    not_false_eq_true, if_true] at htokens
  rcases hp : parseInlineTokens P raw with e | tokens <;> rw [hp] at htokens <;> cases htokens
  exact ⟨tokens, rfl, hc⟩

/-- A broker whose mapping is an inline list guards its requests, in development too: such a list
gives nothing to the empty id. -/
theorem guarded_of_inline {host : Host} {vars : PyStr → Option PyStr} {c : BrokerConfig}
    {srv : BrokerServer} (hc : BrokerConfig.fromEnv P host vars = .ok c)
    (hs : buildBroker host c = .ok srv)
    (hfile : (vars (lit "ROBOTSIX_BROKER_AGENT_TOKENS_FILE")).getD [] = []) {raw : PyStr}
    (hraw : vars (lit "ROBOTSIX_BROKER_AGENT_TOKENS") = some raw) (hne : raw ≠ []) :
    Guarded P srv.config := by
  obtain ⟨tokens, hparse, htokens⟩ := agentTokens_of_inline P hc hfile hraw hne
  rw [guarded_iff ((tokens_of_buildBroker hs).trans htokens)]
  intro t ht
  exact (get?_of_parseInlineTokens P hparse (Dict.get?_of_invert ht)).1.1 rfl

end AgentComm
