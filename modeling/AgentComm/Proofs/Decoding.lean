import AgentComm.Proofs.RoundTrip

/-!
# Decoding

`from_dict` validates most of the envelope and then copies `recipient` and `extra` unseen: a
recipient may be any JSON value, and `dict` raises on an `extra` it cannot read as pairs, or
reads keys out of it that are not strings. Whatever else passes validation is decoded, well typed
and decoded from its own encoding again.
-/

namespace AgentComm

open Lib

variable {P : Python} {data : Fields} {t : MessageType} {m : Message} {raw : PyStr}

/-! ### What `json.dumps` writes back -/

/-- No surrogate pair is split over two code points. -/
def whole : PyStr → Bool
  | a :: b :: s =>
    !(0xD800 ≤ a && a ≤ 0xDBFF && 0xDC00 ≤ b && b ≤ 0xDFFF) && whole (b :: s)
  | _ => true

mutual

/-- A value whose text `json.loads` reads as the same value: the keys of its objects are
distinct, there is no `nan` in it, and its strings are whole. -/
def Json.dumpable : Json → Bool
  | .float x => x ≠ .nan
  | .str s => whole s
  | .arr xs => dumpableItems xs
  | .obj kvs => (kvs.map Prod.fst).Nodup && dumpablePairs kvs
  | _ => true

def dumpableItems : List Json → Bool
  | [] => true
  | x :: xs => x.dumpable && dumpableItems xs

def dumpablePairs : List (PyStr × Json) → Bool
  | [] => true
  | (k, v) :: kvs => whole k && v.dumpable && dumpablePairs kvs

end

theorem dumpableItems_iff :
    ∀ {xs : List Json}, dumpableItems xs = true ↔ ∀ x ∈ xs, x.dumpable = true
  | [] => by simp [dumpableItems]
  | x :: xs => by
    rw [dumpableItems, Bool.and_eq_true, dumpableItems_iff]
    simp

theorem dumpablePairs_iff : ∀ {kvs : Fields}, dumpablePairs kvs = true
    ↔ ∀ e ∈ kvs, whole e.1 = true ∧ e.2.dumpable = true
  | [] => by simp [dumpablePairs]
  | (k, v) :: kvs => by
    rw [dumpablePairs, Bool.and_eq_true, Bool.and_eq_true, dumpablePairs_iff]
    simp

theorem dumpable_obj {kvs : Fields} : (Json.obj kvs).dumpable = true
    ↔ (kvs.map Prod.fst).Nodup ∧ ∀ e ∈ kvs, whole e.1 = true ∧ e.2.dumpable = true := by
  rw [Json.dumpable, Bool.and_eq_true, decide_eq_true_eq, dumpablePairs_iff]

theorem dumpable_get (h : (Json.obj data).dumpable = true) (name : PyStr) :
    (data.get name).dumpable = true := by
  unfold Fields.get
  rcases hg : Pairs.get? name data with _ | v
  · rfl
  · exact ((dumpable_obj.1 h).2 _ (Pairs.mem_of_get? hg)).2

theorem dumpable_fieldsOr {v : Json} (h : v.dumpable = true) :
    (Json.obj (fieldsOr v)).dumpable = true := by
  cases v
  case obj kvs => exact h
  all_goals rfl

/-! ### What `dict` makes of an `extra` -/

/-- A pair whose first part is a string, in one of the forms `dict` takes. -/
def stringPair : Json → Bool
  | .arr [.str _, _] => true
  | .str [_, _] => true
  | .obj [_, _] => true
  | _ => false

/-- `dict(x)` has string keys only. -/
def stringKeyed : Json → Bool
  | .obj _ => true
  | .arr xs => xs.all stringPair
  | .str s => s.isEmpty
  | _ => false

def Key.isStr : Key → Bool
  | .str _ => true
  | _ => false

theorem dictItem_ok {x : Json} {e : Key × Json} (h : dictItem x = .ok e) :
    stringPair x = e.1.isStr := by
  unfold dictItem at h
  split at h
  · rename_i k v
    cases k <;> simp only [Json.toKey, Except.map, reduceCtorEq, Except.ok.injEq] at h <;>
      subst h <;> rfl
  · cases h
    rfl
  · cases h
    rfl
  all_goals cases h

theorem dictItem_of_stringPair {x : Json} (h : stringPair x = true) :
    ∃ s v, dictItem x = .ok (.str s, v) := by
  unfold stringPair at h
  split at h
  · exact ⟨_, _, rfl⟩
  · exact ⟨_, _, rfl⟩
  · exact ⟨_, _, rfl⟩
  · cases h

/-- Keys are the same when they are the same number or, not being numbers, equal. -/
theorem Key.same_cases {k k' : Key} (h : k.same k' = true) :
    (∃ q, k.number? = some q ∧ k'.number? = some q) ∨ k = k' := by
  unfold Key.same at h
  split at h
  · rename_i q q' hq hq'
    exact .inl ⟨q, hq, by rw [hq', of_decide_eq_true h]⟩
  · rw [Bool.and_eq_true] at h
    exact .inr (of_decide_eq_true h.1)
  · cases h

theorem Key.isStr_of_number {k : Key} {q : ℚ} (h : k.number? = some q) : k.isStr = false := by
  cases k <;> first | rfl | cases h

theorem Key.same_isStr {k k' : Key} (h : k.same k' = true) : k.isStr = k'.isStr := by
  rcases Key.same_cases h with ⟨q, hq, hq'⟩ | rfl
  · rw [Key.isStr_of_number hq, Key.isStr_of_number hq']
  · rfl

theorem Key.same_str {k : Key} {s : PyStr} : k.same (.str s) = true ↔ k = .str s := by
  constructor
  · intro h
    rcases Key.same_cases h with ⟨q, -, hq⟩ | rfl
    · cases hq
    · rfl
  · rintro rfl
    simp [Key.same, Key.number?]

/-- A dictionary with string keys, fit to be dumped. -/
structure Fit (d : List (Key × Json)) : Prop where
  nodup : (d.map Prod.fst).Nodup
  keys : ∀ e ∈ d, ∃ s, e.1 = .str s ∧ whole s = true
  values : ∀ e ∈ d, e.2.dumpable = true

theorem mem_keySet {d : List (Key × Json)} {k : Key} {v : Json} {e : Key × Json}
    (h : e ∈ keySet d k v) :
    e ∈ d ∨ (e.1 = k ∨ ∃ e' ∈ d, e'.1 = e.1 ∧ e'.1.same k = true) ∧ e.2 = v := by
  unfold keySet at h
  split_ifs at h
  · obtain ⟨e', he', rfl⟩ := List.mem_map.1 h
    split_ifs with hs
    · exact .inr ⟨.inr ⟨e', he', rfl, hs⟩, rfl⟩
    · exact .inl he'
  · rcases List.mem_append.1 h with h | h
    · exact .inl h
    · obtain rfl := List.mem_singleton.1 h
      exact .inr ⟨.inl rfl, rfl⟩

/-- A pair set adds its key, or finds one like it. -/
theorem keySet_isStr {d : List (Key × Json)} {k : Key} {v : Json} :
    (∀ e ∈ keySet d k v, e.1.isStr = true) ↔ (∀ e ∈ d, e.1.isStr = true) ∧ k.isStr = true := by
  unfold keySet
  split_ifs with hany
  · have hkeys : ∀ e : Key × Json, (if e.1.same k = true then (e.1, v) else e).1 = e.1 := by
      intro e
      split_ifs <;> rfl
    simp only [List.mem_map, forall_exists_index, and_imp, forall_apply_eq_imp_iff₂, hkeys]
    obtain ⟨e, he, hs⟩ := List.any_eq_true.1 hany
    exact ⟨fun h => ⟨h, (Key.same_isStr hs).symm.trans (h e he)⟩, And.left⟩
  · simp only [List.mem_append, List.mem_singleton, or_imp, forall_and, forall_eq]

theorem Fit.keySet {d : List (Key × Json)} {s : PyStr} {v : Json} (h : Fit d)
    (hs : whole s = true) (hv : v.dumpable = true) : Fit (keySet d (.str s) v) where
  nodup := by
    unfold AgentComm.keySet
    split_ifs with hany
    · have hkeys : (d.map fun e => if e.1.same (.str s) = true then (e.1, v) else e).map Prod.fst
          = d.map Prod.fst := by
        rw [List.map_map]
        refine List.map_congr_left fun e _ => ?_
        simp only [Function.comp_apply]
        split_ifs <;> rfl
      rw [hkeys]
      exact h.nodup
    · rw [List.map_append, List.nodup_append]
      refine ⟨h.nodup, by simp, ?_⟩
      rintro a ha b hb rfl
      obtain ⟨e, he, rfl⟩ := List.mem_map.1 ha
      simp only [List.map_cons, List.map_nil, List.mem_singleton] at hb
      exact hany (List.any_eq_true.2 ⟨e, he, Key.same_str.2 hb⟩)
  keys e he := by
    rcases mem_keySet he with he | ⟨he | ⟨e', he', hk, -⟩, -⟩
    · exact h.keys e he
    · exact ⟨s, he, hs⟩
    · exact hk ▸ h.keys e' he'
  values e he := by
    rcases mem_keySet he with he | ⟨-, he⟩
    · exact h.values e he
    · rw [he]
      exact hv

theorem dictItem_fit {x : Json} {s : PyStr} {v : Json} (hx : x.dumpable = true)
    (h : dictItem x = .ok (.str s, v)) : whole s = true ∧ v.dumpable = true := by
  unfold dictItem at h
  split at h
  · rename_i k v'
    cases k <;> simp only [Json.toKey, Except.map, reduceCtorEq, Except.ok.injEq, Prod.mk.injEq,
      Key.str.injEq, false_and] at h
    obtain ⟨rfl, rfl⟩ := h
    simpa [Json.dumpable, dumpableItems] using hx
  · cases h
    exact ⟨rfl, rfl⟩
  · cases h
    rename_i e e'
    have hall := (dumpable_obj.1 hx).2
    refine ⟨(hall e (by simp)).1, ?_⟩
    rw [Json.dumpable]
    exact (hall e' (by simp)).1
  all_goals cases h

/-- One step of `dict` over a list of pairs. -/
def dictStep (d : List (Key × Json)) (x : Json) : Except Exc (List (Key × Json)) :=
  (dictItem x).map fun e => keySet d e.1 e.2

theorem dictStep_ok {d d' : List (Key × Json)} {x : Json} (h : dictStep d x = .ok d') :
    ∃ e, dictItem x = .ok e ∧ d' = keySet d e.1 e.2 := by
  unfold dictStep at h
  rcases hx : dictItem x with err | e <;> rw [hx] at h
  · cases h
  · cases h
    exact ⟨e, rfl, rfl⟩

theorem dictSteps_isStr : ∀ {xs : List Json} {d d' : List (Key × Json)},
    xs.foldlM dictStep d = .ok d' →
      ((∀ e ∈ d', e.1.isStr = true) ↔ (∀ e ∈ d, e.1.isStr = true) ∧ xs.all stringPair = true)
  | [], d, d', h => by
    cases h
    simp
  | x :: xs, d, d', h => by
    rw [List.foldlM_cons] at h
    obtain ⟨d₁, h₁, h⟩ := bind_eq_ok h
    obtain ⟨e, he, rfl⟩ := dictStep_ok h₁
    rw [dictSteps_isStr h, keySet_isStr, ← dictItem_ok he, List.all_cons, Bool.and_eq_true,
      and_assoc]

theorem dictStep_of_stringPair {x : Json} (h : stringPair x = true) (d : List (Key × Json)) :
    ∃ s v, dictItem x = .ok (.str s, v) ∧ dictStep d x = .ok (keySet d (.str s) v) := by
  obtain ⟨s, v, hx⟩ := dictItem_of_stringPair h
  refine ⟨s, v, hx, ?_⟩
  rw [dictStep, hx]
  rfl

theorem dictSteps_total {xs : List Json} (h : xs.all stringPair = true) :
    ∀ d, ∃ d', xs.foldlM dictStep d = .ok d' := by
  refine foldlM_total fun x hx d => ?_
  obtain ⟨s, v, -, hstep⟩ := dictStep_of_stringPair (List.all_eq_true.1 h x hx) d
  exact ⟨_, hstep⟩

theorem dictSteps_fit {xs : List Json} {d d' : List (Key × Json)} (hd : Fit d)
    (hall : xs.all stringPair = true) (hxs : ∀ x ∈ xs, x.dumpable = true)
    (h : xs.foldlM dictStep d = .ok d') : Fit d' := by
  refine foldlM_keeps (fun x hx d₁ d₂ hd₁ h₁ => ?_) hd h
  obtain ⟨s, v, hitem, hstep⟩ := dictStep_of_stringPair (List.all_eq_true.1 hall x hx) d₁
  obtain ⟨hs, hv⟩ := dictItem_fit (hxs x hx) hitem
  rw [hstep] at h₁
  cases h₁
  exact hd₁.keySet hs hv

theorem pyDict_str_cons (c : ℕ) (s : PyStr) : ∃ e, pyDict (.str (c :: s)) = .error e :=
  ⟨_, rfl⟩

theorem pyDict_isStr {v : Json} {d : List (Key × Json)} (h : pyDict v = .ok d) :
    (∀ e ∈ d, e.1.isStr = true) ↔ stringKeyed v = true := by
  cases v
  case obj kvs =>
    cases h
    refine iff_of_true (fun e he => ?_) rfl
    obtain ⟨e', -, rfl⟩ := List.mem_map.1 he
    rfl
  case arr xs =>
    rw [dictSteps_isStr (d := []) h]
    simp [stringKeyed]
  case str s =>
    rcases s with _ | ⟨c, s⟩
    · cases h
      simp [stringKeyed]
    · obtain ⟨e, he⟩ := pyDict_str_cons c s
      rw [he] at h
      cases h
  all_goals cases h

theorem pyDict_total {v : Json} (h : stringKeyed v = true) : ∃ d, pyDict v = .ok d := by
  cases v
  case obj kvs => exact ⟨_, rfl⟩
  case arr xs => exact dictSteps_total h []
  case str s =>
    obtain rfl := List.isEmpty_iff.1 h
    exact ⟨[], rfl⟩
  all_goals cases h

theorem pyDict_fit {v : Json} {d : List (Key × Json)} (hk : stringKeyed v = true)
    (hv : v.dumpable = true) (h : pyDict v = .ok d) : Fit d := by
  have hnil : Fit [] := ⟨List.nodup_nil, by simp, by simp⟩
  cases v
  case obj kvs =>
    cases h
    obtain ⟨hn, hall⟩ := dumpable_obj.1 hv
    refine ⟨?_, ?_, ?_⟩
    · rw [List.map_map]
      have hcomp : (Prod.fst ∘ fun e : PyStr × Json => (Key.str e.1, e.2))
          = Key.str ∘ Prod.fst := rfl
      rw [hcomp, ← List.map_map]
      exact hn.map fun a b hab => Key.str.inj hab
    · intro e he
      obtain ⟨e', he', rfl⟩ := List.mem_map.1 he
      exact ⟨e'.1, rfl, (hall e' he').1⟩
    · intro e he
      obtain ⟨e', he', rfl⟩ := List.mem_map.1 he
      exact (hall e' he').2
  case arr xs =>
    rw [Json.dumpable] at hv
    exact dictSteps_fit hnil hk (dumpableItems_iff.1 hv) h
  case str s =>
    obtain rfl := List.isEmpty_iff.1 hk
    cases h
    exact hnil
  all_goals cases h

/-- What a fit dictionary is written as can be read back. -/
theorem Fit.dumpable {d : List (Key × Json)} (h : Fit d) :
    (Json.obj (d.map fun e => (e.1.text P, e.2))).dumpable = true := by
  refine dumpable_obj.2 ⟨?_, ?_⟩
  · rw [List.map_map]
    have hcomp : (Prod.fst ∘ fun e : Key × Json => (e.1.text P, e.2)) = Key.text P ∘ Prod.fst := rfl
    rw [hcomp, ← List.map_map]
    refine h.nodup.map_on ?_
    rintro a ha b hb hab
    obtain ⟨e, he, rfl⟩ := List.mem_map.1 ha
    obtain ⟨e', he', rfl⟩ := List.mem_map.1 hb
    obtain ⟨s, hs, -⟩ := h.keys e he
    obtain ⟨s', hs', -⟩ := h.keys e' he'
    rw [hs, hs'] at hab ⊢
    exact congrArg Key.str hab
  · intro e he
    obtain ⟨e', he', rfl⟩ := List.mem_map.1 he
    obtain ⟨s, hs, hw⟩ := h.keys e' he'
    refine ⟨?_, h.values e' he'⟩
    rw [hs]
    exact hw

/-! ### What validation raises -/

theorem encodable_append {s s' : PyStr} (h : encodable s = true) (h' : encodable s' = true) :
    encodable (s ++ s') = true := by
  rw [encodable, List.all_append, Bool.and_eq_true]
  exact ⟨h, h'⟩

variable (P) in
/-- A protocol error, with a text that can be encoded if those of `repr` can. -/
structure Complaint (e : Exc) : Prop where
  protocol : e.isProtocolError = true
  text : (∀ v, encodable (P.repr v) = true) → encodable e.text = true

variable (P) in
/-- Every error is a complaint. -/
def Complains {α : Type} (x : Except Exc α) : Prop := ∀ e, x = .error e → Complaint P e

section Validation

theorem Complains.bind {α β : Type} {x : Except Exc α} {f : α → Except Exc β}
    (hx : Complains P x) (hf : ∀ a, Complains P (f a)) : Complains P (x >>= f) :=
  Raises.bind hx hf

theorem Complains.ok {α : Type} (a : α) : Complains P (.ok a) := Raises.ok a

theorem Complains.error {α : Type} {text : PyStr}
    (h : (∀ v, encodable (P.repr v) = true) → encodable text = true) :
    Complains P (.error (validationError text) : Except Exc α) :=
  Raises.error ⟨rfl, h⟩

theorem nonEmptyStr_complains {text : PyStr} (v : Json) (h : encodable text = true) :
    Complains P (nonEmptyStr text v) := by
  unfold nonEmptyStr
  split
  · exact .ok _
  · exact .error fun _ => h

theorem mapping_complains {text : PyStr} (v : Json) (h : encodable text = true) :
    Complains P (mapping text v) := by
  unfold mapping
  split
  · exact .ok _
  · exact .error fun _ => h

theorem checkType_complains (v : Json) : Complains P (checkType P v) := by
  unfold checkType
  split
  · exact .ok _
  · exact .error fun hrepr => encodable_append (by decide) (hrepr v)

theorem checkCorrelation_complains (v : Json) : Complains P (checkCorrelation t v) := by
  unfold checkCorrelation
  split
  · split_ifs
    · exact .error fun _ => by decide
    · exact .ok _
  · split_ifs
    · exact .error fun _ => by decide
    · exact .error fun _ => by decide
    · exact .ok _
  · exact .error fun _ => by decide

variable (hint : ∀ s e, P.int s = .error e → e.isValueError = true)

include hint

theorem major_complains (v : PyStr) : Complains P (major P v) := by
  unfold major
  split
  · exact .ok _
  · rename_i e he
    rw [if_pos (hint _ _ he)]
    exact .error fun hrepr => encodable_append (by decide) (hrepr _)

theorem checkVersion_complains (v : Json) : Complains P (checkVersion P v) := by
  cases v
  case str version =>
    refine (major_complains hint version).bind fun found =>
      (major_complains hint protocolVersion).bind fun expected => ?_
    rintro e h
    split_ifs at h
    · cases h
      refine ⟨rfl, fun hrepr => ?_⟩
      exact encodable_append (encodable_append (encodable_append (encodable_append (by decide)
        (hrepr _)) (by decide)) (by decide)) (by decide)
    · cases h
  all_goals exact .error fun _ => by decide

theorem validateFields_complains : Complains P (validateFields P data) :=
  (nonEmptyStr_complains _ (by decide)).bind fun _ => (checkType_complains _).bind fun _ =>
    (checkVersion_complains hint _).bind fun _ => (mapping_complains _ (by decide)).bind fun _ =>
    (nonEmptyStr_complains _ (by decide)).bind fun _ =>
    (nonEmptyStr_complains _ (by decide)).bind fun _ => (mapping_complains _ (by decide)).bind
    fun _ => (checkCorrelation_complains _).bind fun _ => .ok _

/-- Validation raises nothing but protocol errors. -/
theorem validateDict_complains : Complains P (validateDict P data) := by
  simp only [validateDict]
  split_ifs
  · exact .error fun hrepr => encodable_append (by decide) (hrepr _)
  · exact validateFields_complains hint

end Validation

/-! ### What is decoded -/

/-- The envelope's `metadata`. -/
def metadataOf (data : Fields) : Fields := fieldsOr (data.get (lit "metadata"))

/-- `dict(raw_metadata.get("extra", {}))` -/
def extraOf (data : Fields) : Except Exc (List (Key × Json)) :=
  match Pairs.get? (lit "extra") (metadataOf data) with
  | none => .ok []
  | some v => pyDict v

theorem fromDict_eq (hv : validateDict P data = .ok ()) (ht : Validated data t) :
    fromDict P data = extraOf data >>= buildMessage data t := by
  have htype : checkType P (data.get (lit "type")) = .ok t := by rw [checkType, ht.type]
  unfold fromDict extraOf metadataOf
  rw [hv, htype]
  rcases hx : Pairs.get? (lit "extra") (fieldsOr (data.get (lit "metadata"))) with _ | v <;>
    simp only [bind, Except.bind, hx]

/-- A message has the fields of its envelope. -/
structure Holds (data : Fields) (t : MessageType) (d : List (Key × Json)) (m : Message) : Prop where
  type : m.type = t
  messageId : data.get (lit "message_id") = .str m.messageId
  version : data.get (lit "protocol_version") = .str m.version
  sender : m.metadata.sender = (metadataOf data).get (lit "sender")
  recipient : m.metadata.recipient = (metadataOf data).get (lit "recipient")
  timestamp : (metadataOf data).get (lit "timestamp") = .str m.metadata.timestamp
  extra : m.metadata.extra = d
  body : data.get (lit "body") = .obj m.body
  correlationId : data.get (lit "correlation_id") = optStr m.correlationId

theorem checkCorrelation_field {v : Json} {c : Option PyStr} (h : checkCorrelation t v = .ok c) :
    v = optStr (if t = .response ∨ t = .error then v.asStr? else none)
      ∧ ¬ (t = .response ∧ (if t = .response ∨ t = .error then v.asStr? else none) = none) := by
  cases v <;> cases t <;> simp [checkCorrelation] at h <;> simp [optStr, Json.asStr?]

/-- The message a validated envelope is rebuilt as. -/
def decoded (data : Fields) (t : MessageType) (d : List (Key × Json)) : Message where
  type := t
  metadata := ⟨(metadataOf data).get (lit "sender"), (metadataOf data).get (lit "recipient"),
    strOr [] ((metadataOf data).get (lit "timestamp")), d⟩
  messageId := strOr [] (data.get (lit "message_id"))
  version := strOr [] (data.get (lit "protocol_version"))
  body := fieldsOr (data.get (lit "body"))
  correlationId :=
    if t = .response ∨ t = .error then (data.get (lit "correlation_id")).asStr? else none

/-- A validated envelope is rebuilt as a message, whatever its `extra` and recipient are. -/
theorem buildMessage_ok (hv : Validated data t) (d : List (Key × Json)) :
    buildMessage data t d = .ok (decoded data t d) ∧ Holds data t d (decoded data t d) := by
  obtain ⟨c, s, hid⟩ := hv.messageId
  obtain ⟨version, hversion⟩ := hv.version
  obtain ⟨md, hmd, -, c', s', htime⟩ := hv.metadata
  obtain ⟨body, hbody⟩ := hv.body
  obtain ⟨r, hc⟩ := hv.correlationId
  obtain ⟨hcorr, hresp⟩ := checkCorrelation_field hc
  constructor
  · exact if_neg hresp
  · refine ⟨rfl, ?_, ?_, rfl, rfl, ?_, rfl, ?_, hcorr⟩
    · simp only [decoded, hid, strOr]
    · simp only [decoded, hversion, strOr]
    · simp only [decoded, metadataOf, hmd, fieldsOr, htime, strOr]
    · simp only [decoded, hbody, fieldsOr]

/-- The checks `validate` makes of a decoded message are those it made of the envelope. -/
theorem Holds.validate_eq {d : List (Key × Json)} (h : Holds data t d m) (hv : Validated data t) :
    validate P m = validateFields P data := by
  obtain ⟨md, hmd, -⟩ := hv.metadata
  have hmd' : metadataOf data = md := by rw [metadataOf, hmd]; rfl
  have hsender := h.sender
  have htime := h.timestamp
  rw [hmd'] at hsender htime
  have htype : data.get (lit "type") = .str m.type.value := by
    have ht := hv.type
    rw [h.type]
    unfold MessageType.ofValue at ht
    split at ht
    · split_ifs at ht <;> cases ht <;> simp_all [MessageType.value]
    · cases ht
  have hgather : gatherFields P m = toDict P m := rfl
  unfold validate validateFields
  simp only [hgather, toDict_messageId, toDict_type, toDict_version, toDict_metadata, toDict_body,
    toDict_correlationId, hmd, h.messageId, htype, h.version, h.body, h.correlationId, mapping,
    bind, Except.bind, metadataFields_sender, metadataFields_timestamp, hsender, htime]

/-- The sender, the recipient and the extra fields are as a message's should be. -/
structure WellTyped (m : Message) : Prop where
  recipient : m.metadata.recipient = .null ∨ ∃ s, m.metadata.recipient = .str s
  extra : ∀ e ∈ m.metadata.extra, e.1.isStr = true

theorem isStr_iff {k : Key} : k.isStr = true ↔ ∃ s, k = .str s := by
  cases k <;> simp [Key.isStr]

theorem extraOf_fit {d : List (Key × Json)} (hdata : (Json.obj data).dumpable = true)
    (hk : ∀ v, Pairs.get? (lit "extra") (metadataOf data) = some v → stringKeyed v = true)
    (h : extraOf data = .ok d) : Fit d := by
  unfold extraOf at h
  rcases hx : Pairs.get? (lit "extra") (metadataOf data) with _ | v <;> rw [hx] at h
  · cases h
    exact ⟨List.nodup_nil, by simp, by simp⟩
  · have hv := dumpable_get (dumpable_fieldsOr (dumpable_get hdata (lit "metadata"))) (lit "extra")
    rw [Fields.get, show Pairs.get? (lit "extra") (fieldsOr (data.get (lit "metadata"))) = some v
      from hx] at hv
    exact pyDict_fit (hk v hx) hv h

theorem dumpable_value (t : MessageType) : (Json.str t.value).dumpable = true := by
  cases t <;> rfl

/-- The dictionary form of a message decoded from what can be dumped can be dumped. -/
theorem Holds.dumpable {d : List (Key × Json)} (h : Holds data t d m) (hd : Fit d)
    (hdata : (Json.obj data).dumpable = true) : (Json.obj (toDict P m)).dumpable = true := by
  have hmd : (Json.obj (metadataOf data)).dumpable = true :=
    dumpable_fieldsOr (dumpable_get hdata (lit "metadata"))
  have hmeta : (Json.obj (metadataFields P m)).dumpable = true := by
    have hkeys : (metadataFields P m).map Prod.fst
        = [lit "sender", lit "recipient", lit "timestamp", lit "extra"] := rfl
    refine dumpable_obj.2 ⟨by rw [hkeys]; decide, ?_⟩
    simp only [metadataFields, List.forall_mem_cons, List.not_mem_nil, false_implies, implies_true,
      and_true]
    refine ⟨⟨by decide, ?_⟩, ⟨by decide, ?_⟩, ⟨by decide, ?_⟩, by decide, ?_⟩
    · rw [h.sender]
      exact dumpable_get hmd _
    · rw [h.recipient]
      exact dumpable_get hmd _
    · rw [← h.timestamp]
      exact dumpable_get hmd _
    · rw [h.extra]
      exact hd.dumpable
  have hkeys : (toDict P m).map Prod.fst = [lit "message_id", lit "type", lit "protocol_version",
    lit "metadata", lit "body", lit "correlation_id"] := rfl
  refine dumpable_obj.2 ⟨by rw [hkeys]; decide, ?_⟩
  simp only [toDict, List.forall_mem_cons, List.not_mem_nil, false_implies, implies_true, and_true]
  refine ⟨⟨by decide, ?_⟩, ⟨by decide, dumpable_value _⟩, ⟨by decide, ?_⟩, ⟨by decide, hmeta⟩,
    ⟨by decide, ?_⟩, by decide, ?_⟩
  · rw [← h.messageId]
    exact dumpable_get hdata _
  · rw [← h.version]
    exact dumpable_get hdata _
  · rw [← h.body]
    exact dumpable_get hdata _
  · rw [← h.correlationId]
    exact dumpable_get hdata _

/-! ### Strictness -/

variable (P raw) in
/-- The library as the decoder needs it at the text `raw`: `json.loads` fails with a
`JSONDecodeError` only and reads back what `json.dumps` writes, and `int` of a text raises
`ValueError` only. -/
structure Reads : Prop where
  fails : ∀ e, P.jsonLoads raw = .error e → e.kind = .jsonDecodeError
  loaded : ∀ v, P.jsonLoads raw = .ok v → v.dumpable = true
  back : ∀ m, deserialize P raw = .ok m → (Json.obj (toDict P m)).dumpable = true →
    P.jsonLoads (P.jsonDumps (.obj (toDict P m))) = .ok (.obj (toDict P m))
  int : ∀ s e, P.int s = .error e → e.isValueError = true

variable (P raw) in
/-- The text is refused with a protocol error, or decoded into a well typed message that is
decoded from its own encoding again. -/
def Strict : Prop :=
  (∃ e, deserialize P raw = .error e ∧ e.isProtocolError = true)
    ∨ ∃ m, deserialize P raw = .ok m ∧ WellTyped m ∧ deserialize P (serialize P m) = .ok m

/-- The fields of a validated envelope that `from_dict` copies unseen are as they should be. -/
structure CopiesWell (data : Fields) : Prop where
  extra : ∀ v, Pairs.get? (lit "extra") (metadataOf data) = some v → stringKeyed v = true
  recipient : (metadataOf data).get (lit "recipient") = .null
    ∨ ∃ s, (metadataOf data).get (lit "recipient") = .str s

theorem deserialize_obj (h : P.jsonLoads raw = .ok (.obj data)) :
    deserialize P raw = fromDict P data := by
  rw [deserialize, h]

theorem extraOf_total (h : CopiesWell data) : ∃ d, extraOf data = .ok d := by
  unfold extraOf
  rcases hx : Pairs.get? (lit "extra") (metadataOf data) with _ | v
  · exact ⟨[], rfl⟩
  · exact pyDict_total (h.extra v hx)

theorem dictItem_error {x : Json} {e : Exc} (h : dictItem x = .error e) :
    e.kind = .typeError ∨ e.kind = .valueError := by
  unfold dictItem at h
  split at h
  · rename_i k v
    cases k <;> simp only [Json.toKey, Except.map, reduceCtorEq, Except.error.injEq] at h <;>
      exact .inl (h ▸ rfl)
  · cases h
  · cases h
  all_goals
    cases h
    first | exact .inl rfl | exact .inr rfl

theorem dictSteps_error {xs : List Json} {d : List (Key × Json)} {e : Exc}
    (h : xs.foldlM dictStep d = .error e) : e.kind = .typeError ∨ e.kind = .valueError := by
  refine Raises.foldlM (Q := fun e => e.kind = .typeError ∨ e.kind = .valueError) ?_ d e h
  exact fun x _ d => Raises.map (fun e he => dictItem_error he) _

/-- What `dict` raises is no protocol error. -/
theorem pyDict_error {v : Json} {e : Exc} (h : pyDict v = .error e) :
    e.kind = .typeError ∨ e.kind = .valueError := by
  cases v
  case arr xs => exact dictSteps_error (d := []) h
  case str s =>
    rcases s with _ | ⟨c, s⟩
    · cases h
    · cases h
      exact .inr rfl
  case obj kvs => cases h
  all_goals
    cases h
    exact .inl rfl

/-- In nobody's `except`: neither a protocol error, nor a transport error, nor an `OSError`. -/
def Exc.Stray (e : Exc) : Prop :=
  e.isProtocolError = false ∧ e.isTransportError = false ∧ e.isOSError = false

theorem Exc.stray_of_kind {e : Exc} (h : e.kind = .typeError ∨ e.kind = .valueError
    ∨ e.kind = .unicodeDecodeError ∨ e.kind = .recursionError) : e.Stray := by
  rcases h with h | h | h | h <;>
    simp [Exc.Stray, Exc.isProtocolError, Exc.isTransportError, Exc.isOSError, h]

theorem extraOf_error {e : Exc} (h : extraOf data = .error e) : e.Stray := by
  unfold extraOf at h
  split at h
  · cases h
  · refine Exc.stray_of_kind ?_
    rcases pyDict_error h with hk | hk <;> simp [hk]

theorem validateFields_of_dict (h : validateDict P data = .ok ()) :
    validateFields P data = .ok () := by
  simp only [validateDict] at h
  split_ifs at h
  exact h

/-- What a validated envelope comes to: what `dict` raises on its `extra`, or a message. -/
theorem deserialize_cases (hloads : P.jsonLoads raw = .ok (.obj data))
    (hvalid : validateDict P data = .ok ()) :
    (∃ e, extraOf data = .error e ∧ deserialize P raw = .error e)
      ∨ ∃ t d, Validated data t ∧ extraOf data = .ok d
        ∧ deserialize P raw = .ok (decoded data t d) ∧ Holds data t d (decoded data t d) := by
  obtain ⟨t, ht⟩ := validateFields_ok (validateFields_of_dict hvalid)
  have hdecode : deserialize P raw = extraOf data >>= buildMessage data t := by
    rw [deserialize_obj hloads, fromDict_eq hvalid ht]
  rcases hx : extraOf data with e | d
  · exact .inl ⟨e, rfl, by rw [hdecode, hx]; rfl⟩
  · obtain ⟨hbuild, hholds⟩ := buildMessage_ok ht d
    exact .inr ⟨t, d, ht, rfl, by rw [hdecode, hx]; exact hbuild, hholds⟩

/-- The library as the handlers need it: what it raises, and texts without lone surrogates. -/
structure Library (P : Python) : Prop where
  utf8 : ∀ bytes e, P.utf8Decode bytes = .error e → e.kind = .unicodeDecodeError
  loads : ∀ s e, P.jsonLoads s = .error e →
    e.kind = .jsonDecodeError ∨ e.kind = .valueError ∨ e.kind = .recursionError
  loadsText : ∀ s e, P.jsonLoads s = .error e → encodable e.text = true
  int : ∀ s e, P.int s = .error e → e.isValueError = true
  repr : ∀ v, encodable (P.repr v) = true

/-- The interpreter of a table, with bytes that decode as ASCII only and a `repr` that escapes lone
surrogates. -/
def asciiPython (texts : List (PyStr × Json)) : Python :=
  { plainPython texts with
    utf8Decode := fun bytes =>
      if bytes.all (· < 128) then .ok (bytes.map UInt8.toNat)
      else .error ⟨.unicodeDecodeError, lit "invalid start byte"⟩
    repr := fun v => (jsonText v).map fun c => if 0xD800 ≤ c ∧ c ≤ 0xDFFF then 63 else c }

theorem asciiPython_library (texts : List (PyStr × Json)) : Library (asciiPython texts) where
  utf8 bytes e h := by
    simp only [asciiPython] at h
    split_ifs at h
    cases h
    rfl
  loads s e h := by
    simp only [asciiPython, plainPython] at h
    split at h <;> cases h
    exact .inl rfl
  loadsText s e h := by
    simp only [asciiPython, plainPython] at h
    split at h <;> cases h
    decide
  int s e h := by
    simp only [asciiPython, plainPython] at h
    split at h <;> cases h
    rfl
  repr v := by
    simp only [encodable, asciiPython, List.all_map, List.all_eq_true, Function.comp_apply]
    intro c _
    split_ifs with hc
    · rfl
    · simp only [Bool.not_eq_true', Bool.and_eq_false_iff, decide_eq_false_iff_not]
      exact not_and_or.1 hc

/-- What `deserialize` raises is a protocol error, or an exception no caller catches. -/
theorem deserialize_error (hP : Library P) {raw : PyStr} {e : Exc}
    (h : deserialize P raw = .error e) : Complaint P e ∨ e.Stray := by
  rcases hloads : P.jsonLoads raw with e' | v
  · simp only [deserialize, hloads] at h
    split_ifs at h with hk
    · cases h
      exact .inl ⟨rfl, fun _ => encodable_append (by decide) (hP.loadsText _ _ hloads)⟩
    · cases h
      refine .inr (Exc.stray_of_kind ?_)
      rcases hP.loads _ _ hloads with hk' | hk' | hk'
      · exact absurd (.inl hk') hk
      · exact .inr (.inl hk')
      · exact .inr (.inr (.inr hk'))
  by_cases hobj : ∃ data, v = .obj data
  · obtain ⟨data, rfl⟩ := hobj
    rcases hvalid : validateDict P data with e' | _
    · rw [deserialize_obj hloads, fromDict, hvalid] at h
      cases h
      exact .inl (validateDict_complains hP.int _ hvalid)
    · rcases deserialize_cases hloads hvalid with ⟨e', hx, hraise⟩ | ⟨t, d, -, -, hdecode, -⟩
      · obtain rfl := Except.error.inj (hraise.symm.trans h)
        exact .inr (extraOf_error hx)
      · rw [hdecode] at h
        cases h
  · rw [deserialize, hloads] at h
    cases v
    case obj kvs => exact absurd ⟨kvs, rfl⟩ hobj
    all_goals
      cases h
      exact .inl ⟨rfl, fun _ => by decide⟩

/-- A validated envelope whose copied fields are as they should be is decoded, well typed, and
decoded from its own encoding again. -/
theorem strict_of_copies (hP : Reads P raw) (hloads : P.jsonLoads raw = .ok (.obj data))
    (hvalid : validateDict P data = .ok ()) (h : CopiesWell data) :
    ∃ m, deserialize P raw = .ok m ∧ WellTyped m ∧ deserialize P (serialize P m) = .ok m := by
  rcases deserialize_cases hloads hvalid with ⟨e, he, -⟩ | ⟨t, d, ht, hd, hdecode, hholds⟩
  · obtain ⟨d, hd⟩ := extraOf_total h
    rw [hd] at he
    cases he
  have hdata := hP.loaded _ hloads
  have hfit := extraOf_fit hdata h.extra hd
  have hkeys : ∀ e ∈ d, ∃ s, e.1 = .str s := fun e he => (hfit.keys e he).imp fun _ => And.left
  refine ⟨_, hdecode, ⟨h.recipient, fun e he => isStr_iff.2 (hkeys e he)⟩, ?_⟩
  have hback := hP.back _ hdecode (hholds.dumpable hfit hdata)
  simp only [deserialize, serialize, hback]
  exact fromDict_toDict ((hholds.validate_eq ht).trans (validateFields_of_dict hvalid)) hkeys

/-- A text that is not a valid envelope is refused with a protocol error. -/
theorem refused (hP : Reads P raw) (h : ∀ data, P.jsonLoads raw = .ok (.obj data) →
      validateDict P data ≠ .ok ()) :
    ∃ e, deserialize P raw = .error e ∧ e.isProtocolError = true := by
  rcases hloads : P.jsonLoads raw with e | v
  · refine ⟨validationError (lit "invalid JSON payload: " ++ e.text), ?_, rfl⟩
    simp only [deserialize, hloads, hP.fails e hloads, true_or, ↓reduceIte]
  by_cases hobj : ∃ data, v = .obj data
  · obtain ⟨data, rfl⟩ := hobj
    rcases hvalid : validateDict P data with e | _
    · refine ⟨e, ?_, (validateDict_complains hP.int e hvalid).protocol⟩
      rw [deserialize_obj hloads, fromDict, hvalid]
      rfl
    · exact absurd hvalid (h data hloads)
  · refine ⟨validationError (lit "serialized message must be a JSON object"), ?_, rfl⟩
    rw [deserialize, hloads]
    cases v
    case obj kvs => exact absurd ⟨kvs, rfl⟩ hobj
    all_goals rfl

/-- Decoding is strict on a text if and only if, where it is an envelope that validates, its
`extra` is absent or has string keys and its recipient is null or a string. -/
theorem decoding_strict_iff (hP : Reads P raw) : Strict P raw ↔ ∀ data,
    P.jsonLoads raw = .ok (.obj data) → validateDict P data = .ok () → CopiesWell data := by
  constructor
  · intro hstrict data hloads hvalid
    rcases deserialize_cases hloads hvalid with ⟨e, hx, hraise⟩ | ⟨t, d, -, hx, hdecode, -⟩
    · rcases hstrict with ⟨e', he', hproto⟩ | ⟨m, hm, -⟩
      · obtain rfl := Except.error.inj (hraise.symm.trans he')
        rw [(extraOf_error hx).1] at hproto
        cases hproto
      · rw [hraise] at hm
        cases hm
    · rcases hstrict with ⟨e', he', -⟩ | ⟨m, hm, hwell, -⟩
      · rw [hdecode] at he'
        cases he'
      · obtain rfl := Except.ok.inj (hdecode.symm.trans hm)
        refine ⟨fun v hv => ?_, hwell.recipient⟩
        rw [extraOf, hv] at hx
        exact (pyDict_isStr hx).1 hwell.extra
  · intro hcopies
    by_cases h : ∃ data, P.jsonLoads raw = .ok (.obj data) ∧ validateDict P data = .ok ()
    · obtain ⟨data, hloads, hvalid⟩ := h
      exact .inr (strict_of_copies hP hloads hvalid (hcopies data hloads hvalid))
    · exact .inl (refused hP fun data hloads hvalid => h ⟨data, hloads, hvalid⟩)

/-- The interpreter that reads the text of one envelope has what the decoder needs there. -/
theorem plainPython_reads {raw : PyStr} {v : Json} (hv : v.dumpable = true)
    (hback : ∀ m, deserialize (plainPython [(raw, v)]) raw = .ok m →
      jsonText (.obj (toDict (plainPython [(raw, v)]) m)) = raw
        ∧ .obj (toDict (plainPython [(raw, v)]) m) = v) : Reads (plainPython [(raw, v)]) raw where
  fails e he := by
    rw [plainPython_loads] at he
    cases he
  loaded w hw := by
    rw [plainPython_loads] at hw
    exact Except.ok.inj hw ▸ hv
  back m hm _ := by
    obtain ⟨htext, hobj⟩ := hback m hm
    have hdumps : (plainPython [(raw, v)]).jsonDumps = jsonText := rfl
    rw [hdumps, htext, hobj, plainPython_loads]
  int s e he := by
    simp only [plainPython] at he
    split at he <;> cases he
    rfl

theorem decoding_strict_question :
    Strict questionPython (jsonText (.obj questionFields)) := by
  have hdecode : deserialize questionPython (jsonText (.obj questionFields)) = .ok question :=
    question_decoded rfl questionPython_reads
  have hreads : Reads questionPython (jsonText (.obj questionFields)) := by
    refine plainPython_reads (by decide +kernel) fun m hm => ?_
    obtain rfl := Except.ok.inj (hdecode.symm.trans hm)
    exact ⟨rfl, rfl⟩
  refine (decoding_strict_iff hreads).2 ?_
  · intro data hdata _
    obtain rfl := Json.obj.inj (Except.ok.inj (questionPython_reads.symm.trans hdata))
    refine ⟨fun v hv => ?_, .inr ⟨_, rfl⟩⟩
    cases hv
    rfl

/-- An envelope whose `extra` is null. -/
def nullExtra : Fields :=
  [(lit "message_id", .str (lit "1")), (lit "type", .str (lit "notification")),
    (lit "protocol_version", .str (lit "1.0")),
    (lit "metadata", .obj [(lit "sender", .str (lit "a")), (lit "timestamp", .str (lit "now")),
      (lit "extra", .null)]),
    (lit "body", .obj [])]

def nullExtraPython : Python := plainPython [(jsonText (.obj nullExtra), .obj nullExtra)]

/-- `dict(None)` raises out of `deserialize`. -/
theorem decoding_raises : Reads nullExtraPython (jsonText (.obj nullExtra))
    ∧ (∃ e, deserialize nullExtraPython (jsonText (.obj nullExtra)) = .error e
      ∧ e.kind = .typeError ∧ e.isProtocolError = false)
    ∧ ¬ Strict nullExtraPython (jsonText (.obj nullExtra)) := by
  have hloads : nullExtraPython.jsonLoads (jsonText (.obj nullExtra)) = .ok (.obj nullExtra) := by
    rw [nullExtraPython, plainPython_loads]
  have hraise : deserialize nullExtraPython (jsonText (.obj nullExtra))
      = .error ⟨.typeError, lit "object is not iterable"⟩ := by
    rw [deserialize_obj hloads]
    rfl
  refine ⟨plainPython_reads (by decide +kernel) fun m hm => ?_, ⟨_, hraise, rfl, rfl⟩, ?_⟩
  · exact absurd (hraise.symm.trans hm) (by simp)
  · rintro (⟨e, he, hproto⟩ | ⟨m, hm, -⟩)
    · obtain rfl := Except.error.inj (hraise.symm.trans he)
      cases hproto
    · exact absurd (hraise.symm.trans hm) (by simp)

end AgentComm
