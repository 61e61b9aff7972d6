import AgentComm.Proofs.Decoding
import AgentComm.Sdk.Agent
import Mathlib.Data.List.TakeWhile

/-!
# The receive-loop under what polls come to

A poll that raises nothing but transport errors and `OSError` leaves the loop polling. The list
of messages in its answer is decoded as a whole: the first element that is malformed drops all.
-/

namespace AgentComm

open Lib NetworkedBrokerTransport

variable {P : Python} {turn : Agent.Turn} {turns : List Agent.Turn} {xs : List Json}

/-- What `_recv_loop` catches. -/
def Exc.Handled (e : Exc) : Prop := e.isTransportError = true ∨ e.isOSError = true

theorem Exc.Stray.not_handled {e : Exc} (h : e.Stray) : ¬ e.Handled := by
  simp [Exc.Handled, h.2.1, h.2.2]

/-! ### A batch -/

variable (P) in
def Decodable (x : Json) : Prop := ∃ m, deserializeValue P x = .ok m

variable (P) in
/-- Refused with a protocol error. -/
def Malformed (x : Json) : Prop := ∃ e, deserializeValue P x = .error e ∧ e.isProtocolError = true

variable (P) in
/-- The first element that is not decoded raises no protocol error. -/
def Escapes (xs : List Json) : Prop :=
  ∃ l x r, xs = l ++ x :: r ∧ (∀ y ∈ l, Decodable P y) ∧ ¬ Decodable P x ∧ ¬ Malformed P x

theorem deserializeValue_error (hP : Library P) {x : Json} {e : Exc}
    (h : deserializeValue P x = .error e) : e.isProtocolError = true ∨ e.Stray := by
  cases x
  case str raw => exact (deserialize_error hP h).imp_left Complaint.protocol
  all_goals
    cases h
    exact .inl rfl

theorem escapes_cons_of_decodable {x : Json} (h : Decodable P x) :
    Escapes P (x :: xs) ↔ Escapes P xs := by
  constructor
  · rintro ⟨_ | ⟨y, l⟩, z, r, heq, hl, hz, hz'⟩
    · simp only [List.nil_append, List.cons.injEq] at heq
      exact absurd (heq.1 ▸ h) hz
    · simp only [List.cons_append, List.cons.injEq] at heq
      exact ⟨l, z, r, heq.2, fun w hw => hl w (List.mem_cons_of_mem _ hw), hz, hz'⟩
  · rintro ⟨l, z, r, rfl, hl, hz, hz'⟩
    exact ⟨x :: l, z, r, rfl, List.forall_mem_cons.2 ⟨h, hl⟩, hz, hz'⟩

theorem escapes_cons_of_not {x : Json} (h : ¬ Decodable P x) :
    Escapes P (x :: xs) ↔ ¬ Malformed P x := by
  constructor
  · rintro ⟨_ | ⟨y, l⟩, z, r, heq, hl, hz, hz'⟩
    · simp only [List.nil_append, List.cons.injEq] at heq
      exact heq.1 ▸ hz'
    · simp only [List.cons_append, List.cons.injEq] at heq
      exact absurd (heq.1 ▸ hl y List.mem_cons_self) h
  · exact fun hm => ⟨[], x, xs, rfl, by simp, h, hm⟩

/-- What the elements that decode on their own decode to. -/
def decodedAlone (P : Python) (xs : List Json) : List Message :=
  xs.filterMap fun x => (deserializeValue P x).toOption

/-- A batch is decoded as a whole, or not at all. -/
theorem deserializeAll_cases (hP : Library P) : ∀ xs : List Json,
    (∀ x ∈ xs, Decodable P x) ∧ deserializeAll P xs = .ok (decodedAlone P xs)
      ∨ (∃ x ∈ xs, ¬ Decodable P x) ∧ ∃ e, deserializeAll P xs = .error e
        ∧ (e.Handled ↔ ¬ Escapes P xs)
  | [] => .inl ⟨by simp, rfl⟩
  | x :: xs => by
    rcases hx : deserializeValue P x with e | m
    · have hno : ¬ Decodable P x := by simp [Decodable, hx]
      refine .inr ⟨⟨x, List.mem_cons_self, hno⟩, ?_⟩
      rw [escapes_cons_of_not hno, not_not]
      simp only [deserializeAll, hx, Malformed, Except.error.injEq, exists_eq_left']
      split_ifs with hproto
      · exact ⟨_, rfl, by simp [Exc.Handled, Exc.isTransportError, hproto]⟩
      · have hstray := (deserializeValue_error hP hx).resolve_left hproto
        exact ⟨e, rfl, iff_of_false hstray.not_handled hproto⟩
    · have hyes : Decodable P x := ⟨m, hx⟩
      simp only [deserializeAll, hx, escapes_cons_of_decodable hyes, List.forall_mem_cons, hyes,
        true_and, List.exists_mem_cons_iff, not_true_eq_false, false_or]
      rcases deserializeAll_cases hP xs with ⟨hall, hok⟩ | ⟨hsome, e, herr, hiff⟩
      · refine .inl ⟨hall, ?_⟩
        rw [hok]
        simp [decodedAlone, hx, Except.map, Except.toOption]
      · exact .inr ⟨hsome, e, by rw [herr]; rfl, hiff⟩

theorem not_escapes_of_all (h : ∀ x ∈ xs, Decodable P x) : ¬ Escapes P xs := by
  rintro ⟨l, x, r, rfl, -, hx, -⟩
  exact hx (h x (by simp))

theorem decodedAlone_eq_nil : decodedAlone P xs = [] ↔ ∀ x ∈ xs, ¬ Decodable P x := by
  simp only [decodedAlone, List.filterMap_eq_nil_iff]
  refine forall₂_congr fun x _ => ?_
  rcases hx : deserializeValue P x with e | m <;> simp [Decodable, hx, Except.toOption]

/-! ### What a poll comes to -/

variable (P) in
/-- The poll is answered with a list of messages. -/
def Lists (a : HttpAnswer) (xs : List Json) : Prop :=
  ∃ body data fields, a = .answer 200 body ∧ P.utf8Decode body = .ok data ∧ data ≠ []
    ∧ P.jsonLoads data = .ok (.obj fields) ∧ Pairs.get? (lit "messages") fields = some (.arr xs)

variable (P) in
/-- A list is all well formed, or all malformed; nothing else is iterated with an error that
escapes. -/
def BenignMessages : Json → Prop
  | .arr xs => ¬ Escapes P xs ∧ ((∀ x ∈ xs, Decodable P x) ∨ ∀ x ∈ xs, ¬ Decodable P x)
  | v => ∃ xs, pyIter v = .ok xs ∧ ¬ Escapes P xs

variable (P) in
def BenignBody (data : PyStr) : Prop :=
  data = [] ∨ match P.jsonLoads data with
    | .error e => e.kind = .jsonDecodeError
    | .ok (.obj fields) =>
      ∀ v, Pairs.get? (lit "messages") fields = some v → BenignMessages P v
    | .ok _ => True

variable (P) in
/-- The poll raises nothing the loop does not catch, and its answer leads to nothing of the
kind and to no loss. -/
def Benign : HttpAnswer → Prop
  | .raises e => e.Handled
  | .answer status body => ∃ data, P.utf8Decode body = .ok data ∧ (status = 200 → BenignBody P data)

/-- What a poll is to do: raise what is caught, or return what the elements of its list decode
to. -/
def Serves (P : Python) (a : HttpAnswer) (result : Except Exc (List Message)) : Prop :=
  (∀ e, result = .error e → e.Handled)
    ∧ ∀ xs, Lists P a xs → result.toOption.getD [] = decodedAlone P xs

theorem serves_error {a : HttpAnswer} {e : Exc} (h : ∀ xs, ¬ Lists P a xs) :
    Serves P a (.error e) ↔ e.Handled := by
  simp [Serves, h]

theorem serves_ok {a : HttpAnswer} (ms : List Message) (h : ∀ xs, ¬ Lists P a xs) :
    Serves P a (.ok ms) := by
  simp [Serves, h]

/-- What the loop over a body's messages comes to, where there is no list. -/
theorem serves_items (hP : Library P) {a : HttpAnswer} (h : ∀ xs, ¬ Lists P a xs) :
    Serves P a (deserializeAll P xs) ↔ ¬ Escapes P xs := by
  rcases deserializeAll_cases hP xs with ⟨hall, hok⟩ | ⟨-, e, herr, hiff⟩
  · rw [hok]
    exact iff_of_true (serves_ok _ h) (not_escapes_of_all hall)
  · rw [herr, serves_error h, hiff]

theorem serves_list (hP : Library P) {a : HttpAnswer} (h : ∀ ys, Lists P a ys ↔ ys = xs) :
    Serves P a (deserializeAll P xs) ↔ BenignMessages P (.arr xs) := by
  simp only [Serves, h, forall_eq, BenignMessages]
  rcases deserializeAll_cases hP xs with ⟨hall, hok⟩ | ⟨⟨x, hx, hno⟩, e, herr, hiff⟩
  · rw [hok]
    exact iff_of_true ⟨by simp, rfl⟩ ⟨not_escapes_of_all hall, .inl hall⟩
  · have hsome : ¬ ∀ x ∈ xs, Decodable P x := fun hall => hno (hall x hx)
    simp only [herr, Except.error.injEq, forall_eq', hiff, hsome, false_or, ← decodedAlone_eq_nil]
    exact and_congr_right fun _ => eq_comm

theorem pyIter_error {v : Json} {e : Exc} (h : pyIter v = .error e) : e.Stray := by
  cases v <;> cases h <;> exact Exc.stray_of_kind (.inl rfl)

/-- What the loop over the value of `messages` comes to. -/
theorem serves_value (hP : Library P) {a : HttpAnswer} {v : Json}
    (h : ∀ xs, Lists P a xs ↔ v = .arr xs) :
    Serves P a (pyIter v >>= deserializeAll P) ↔ BenignMessages P v := by
  by_cases harr : ∃ xs, v = .arr xs
  · obtain ⟨xs, rfl⟩ := harr
    exact serves_list hP fun ys => by simp [h, eq_comm]
  have hno : ∀ xs, ¬ Lists P a xs := fun xs hl => harr ⟨xs, (h xs).1 hl⟩
  have hval : BenignMessages P v ↔ ∃ xs, pyIter v = .ok xs ∧ ¬ Escapes P xs := by
    cases v
    case arr xs => exact absurd ⟨xs, rfl⟩ harr
    all_goals rfl
  rw [hval]
  rcases hiter : pyIter v with e | xs
  · exact iff_of_false (fun hs => (pyIter_error hiter).not_handled ((serves_error hno).1 hs))
      (by simp)
  · simp only [Except.ok.injEq, exists_eq_left']
    exact serves_items hP hno

/-- What the body of an answer comes to. -/
theorem serves_body (hP : Library P) {a : HttpAnswer} {data : PyStr}
    (h : ∀ xs, Lists P a xs ↔ data ≠ [] ∧ ∃ fields, P.jsonLoads data = .ok (.obj fields)
      ∧ Pairs.get? (lit "messages") fields = some (.arr xs)) :
    Serves P a (pollMessages P data) ↔ BenignBody P data := by
  by_cases hempty : data = []
  · subst hempty
    have hno : ∀ xs, ¬ Lists P a xs := by simp [h]
    exact iff_of_true (serves_ok [] hno) (.inl rfl)
  simp only [ne_eq, hempty, not_false_eq_true, true_and] at h
  simp only [pollMessages, parsePoll, BenignBody, hempty, if_false, false_or]
  rcases hloads : P.jsonLoads data with e | v
  · have hno : ∀ xs, ¬ Lists P a xs := by simp [h, hloads]
    simp only
    split_ifs with hk
    · rw [serves_error hno]
      simp [Exc.Handled, Exc.isTransportError, hk]
    · rw [serves_error hno]
      refine iff_of_false (Exc.Stray.not_handled (Exc.stray_of_kind ?_)) hk
      rcases hP.loads _ _ hloads with hk' | hk' | hk'
      · exact absurd hk' hk
      · exact .inr (.inl hk')
      · exact .inr (.inr (.inr hk'))
  by_cases hobj : ∃ fields, v = .obj fields
  · obtain ⟨fields, rfl⟩ := hobj
    simp only [hloads, Except.ok.injEq, Json.obj.injEq, exists_eq_left'] at h
    simp only
    rcases hget : Pairs.get? (lit "messages") fields with _ | v
    · have hno : ∀ xs, ¬ Lists P a xs := by simp [h, hget]
      exact iff_of_true (serves_ok [] hno) (by simp)
    · simp only [Option.some.injEq, forall_eq', Option.getD_some]
      exact serves_value hP fun xs => by simp [h, hget]
  · have hno : ∀ xs, ¬ Lists P a xs := by
      intro xs hl
      obtain ⟨fields, hf, -⟩ := (h xs).1 hl
      exact hobj ⟨fields, Except.ok.inj (hloads.symm.trans hf)⟩
    cases v
    case obj fields => exact absurd ⟨fields, rfl⟩ hobj
    all_goals exact iff_of_true (serves_ok [] hno) trivial

/-- A poll serves the loop if and only if what it comes to is benign. -/
theorem receive_serves (hP : Library P) (timeout : PyStr) (a : HttpAnswer) :
    Serves P a (receive P timeout a) ↔ Benign P a := by
  cases a with
  | raises e =>
    have hno : ∀ xs, ¬ Lists P (.raises e) xs := by simp [Lists]
    simp only [receive, Benign]
    split_ifs with htime hos <;> rw [serves_error hno]
    · simp [Exc.Handled, Exc.isTransportError, Exc.isOSError, htime]
    · simp [Exc.Handled, Exc.isTransportError, hos]
  | answer status body =>
    rcases hd : P.utf8Decode body with e | data
    · have hno : ∀ xs, ¬ Lists P (.answer status body) xs := by simp [Lists, hd]
      have hstray := Exc.stray_of_kind (.inr (.inr (.inl (hP.utf8 _ _ hd))))
      simp only [receive, Benign, hd]
      exact iff_of_false (fun h => hstray.not_handled ((serves_error hno).1 h)) (by simp)
    have hlists : ∀ xs, Lists P (.answer status body) xs ↔ status = 200 ∧ data ≠ []
        ∧ ∃ fields, P.jsonLoads data = .ok (.obj fields)
          ∧ Pairs.get? (lit "messages") fields = some (.arr xs) := by
      intro xs
      simp [Lists, hd]
    have hreceive : receive P timeout (.answer status body) = if status = 200 then
        pollMessages P data else .error ⟨.transportError, lit "broker GET /messages returned HTTP "
          ++ intText status ++ lit ": " ++ data⟩ := by
      simp only [receive, hd]
      rfl
    have hbenign : Benign P (.answer status body) ↔ (status = 200 → BenignBody P data) := by
      simp [Benign, hd]
    rw [hbenign, hreceive]
    split_ifs with hstatus
    · simp only [hstatus, true_and, forall_const] at hlists ⊢
      exact serves_body hP hlists
    · rw [serves_error (by simp [hlists, hstatus])]
      simp [Exc.Handled, Exc.isTransportError, hstatus]

/-! ### The loop -/

/-- The turns up to the first that finds the stop flag set. -/
def untilStop (turns : List Agent.Turn) : List Agent.Turn := turns.takeWhile fun t => !t.stopSet

variable (P) in
/-- One turn of a loop that polls: it polls again, and each element of a list that decodes on its
own was dispatched once, in order. -/
structure TurnServed (s : Agent.LoopState) (turn : Agent.Turn) : Prop where
  polls : ((Agent.recvLoop P).step s turn).1 = .polling
  dispatched : ∀ xs, Lists P turn.answer xs →
    ((Agent.recvLoop P).step s turn).2.map Agent.Dispatch.message = decodedAlone P xs

variable (P) in
/-- Every turn up to the stop is served in the state it is taken in. -/
def KeepsServing (turns : List Agent.Turn) : Prop :=
  ∀ l turn r, untilStop turns = l ++ turn :: r →
    TurnServed P ((Agent.recvLoop P).after .polling l) turn

theorem recvLoop_ok {ms : List Message} (h : turn.stopSet = false)
    (hr : receive P Agent.pollTimeout turn.answer = .ok ms) :
    (Agent.recvLoop P).step .polling turn = (.polling, ms.map fun m => ⟨m, turn.dispatch m⟩) := by
  simp [Agent.recvLoop, h, hr]

theorem recvLoop_error {e : Exc} (h : turn.stopSet = false)
    (hr : receive P Agent.pollTimeout turn.answer = .error e) :
    ((Agent.recvLoop P).step .polling turn).2 = []
      ∧ (((Agent.recvLoop P).step .polling turn).1 = .polling ↔ e.Handled) := by
  simp only [Agent.recvLoop, h, hr, Bool.false_eq_true, if_false, Exc.Handled]
  split_ifs with htime hcaught
  · simp [Exc.isTransportError, htime]
  · simp [hcaught]
  · simp [hcaught]

theorem served_iff (hP : Library P) (h : turn.stopSet = false) :
    TurnServed P .polling turn ↔ Benign P turn.answer := by
  rw [← receive_serves hP Agent.pollTimeout turn.answer]
  have hmap : ∀ ms : List Message, (ms.map fun m => (⟨m, turn.dispatch m⟩ : Agent.Dispatch)).map
      Agent.Dispatch.message = ms := fun ms => by rw [List.map_map]; exact List.map_id ms
  rcases hr : receive P Agent.pollTimeout turn.answer with e | ms
  · obtain ⟨hnone, hpolls⟩ := recvLoop_error h hr
    constructor
    · rintro ⟨hpolling, hdispatched⟩
      rw [hnone] at hdispatched
      refine ⟨fun e' he' => Except.error.inj he' ▸ hpolls.1 hpolling, hdispatched⟩
    · rintro ⟨hcaught, hdispatched⟩
      refine ⟨hpolls.2 (hcaught e rfl), fun xs hxs => ?_⟩
      rw [hnone]
      exact hdispatched xs hxs
  · have hstep := recvLoop_ok h hr
    constructor
    · rintro ⟨-, hdispatched⟩
      rw [hstep, hmap] at hdispatched
      exact ⟨by simp, hdispatched⟩
    · rintro ⟨-, hdispatched⟩
      refine ⟨by rw [hstep], fun xs hxs => ?_⟩
      rw [hstep, hmap]
      exact hdispatched xs hxs

theorem stopSet_of_mem (h : turn ∈ untilStop turns) : turn.stopSet = false := by
  simpa using List.mem_takeWhile_imp h

/-- The loop keeps polling until the stop, and isolates what is malformed, if and only if every
poll before the stop is benign. -/
theorem keeps_serving_iff (hP : Library P) :
    KeepsServing P turns ↔ ∀ turn ∈ untilStop turns, Benign P turn.answer := by
  have hstop : ∀ turn ∈ untilStop turns, turn.stopSet = false := fun turn => stopSet_of_mem
  unfold KeepsServing
  generalize untilStop turns = ts at hstop ⊢
  constructor
  · intro h turn hturn
    obtain ⟨l, r, rfl⟩ := List.append_of_mem hturn
    have hpolling : (Agent.recvLoop P).after .polling l = .polling := by
      rcases List.eq_nil_or_concat l with rfl | ⟨l, t, rfl⟩
      · rfl
      · rw [List.concat_eq_append, Mealy.after_snoc]
        exact (h l t (turn :: r) (by simp)).polls
    have hserved := h l turn r rfl
    rw [hpolling] at hserved
    exact (served_iff hP (hstop turn hturn)).1 hserved
  · intro h l turn r heq
    have hturn : ∀ t ∈ l ++ turn :: r, TurnServed P .polling t := fun t ht =>
      (served_iff hP (hstop t (heq ▸ ht))).2 (h t (heq ▸ ht))
    have hpolling : (Agent.recvLoop P).after .polling l = .polling := by
      clear heq
      induction l with
      | nil => rfl
      | cons t l ih =>
        rw [Mealy.after_cons, (hturn t (by simp)).polls]
        exact ih fun t' ht' => hturn t' (by simp at ht' ⊢; tauto)
    rw [hpolling]
    exact hturn turn (by simp)

/-- What a poll that hands out `question` is answered. -/
def mailFields : Fields := [(lit "messages", .arr [.str (jsonText (.obj questionFields))])]

/-- An interpreter that reads the answer and the message in it. -/
def mailPython : Python :=
  asciiPython [(jsonText (.obj mailFields), .obj mailFields),
    (jsonText (.obj questionFields), .obj questionFields)]

theorem mailPython_question :
    deserialize mailPython (jsonText (.obj questionFields)) = .ok question := by
  have hne : jsonText (.obj mailFields) ≠ jsonText (.obj questionFields) := by decide +kernel
  refine question_decoded rfl ?_
  simp [mailPython, asciiPython, plainPython, Pairs.get?, hne]

def mailAnswer : HttpAnswer := .answer 200 ((jsonText (.obj mailFields)).map UInt8.ofNat)

/-- A message, then a connection that is refused, then a message under the stop. -/
def mailTurns : List Agent.Turn :=
  [⟨false, mailAnswer, fun _ => none⟩,
    ⟨false, .raises ⟨.osError, lit "Connection refused"⟩, fun _ => none⟩,
    ⟨true, mailAnswer, fun _ => none⟩]

theorem mailAnswer_text : mailPython.utf8Decode ((jsonText (.obj mailFields)).map UInt8.ofNat)
    = .ok (jsonText (.obj mailFields)) := by
  decide +kernel

theorem mailPython_answer :
    mailPython.jsonLoads (jsonText (.obj mailFields)) = .ok (.obj mailFields) := by
  simp [mailPython, asciiPython, plainPython, Pairs.get?]

theorem mailAnswer_benign : Benign mailPython mailAnswer := by
  have hdecodable : ∀ x ∈ [Json.str (jsonText (.obj questionFields))], Decodable mailPython x := by
    intro x hx
    rw [List.mem_singleton] at hx
    exact ⟨question, hx ▸ mailPython_question⟩
  refine ⟨_, mailAnswer_text, fun _ => .inr ?_⟩
  rw [mailPython_answer]
  rintro v hv
  obtain rfl : Json.arr [.str (jsonText (.obj questionFields))] = v := Option.some.inj hv
  exact ⟨not_escapes_of_all hdecodable, .inl hdecodable⟩

/-- The loop serves these turns, and the message is dispatched. -/
theorem keeps_serving_mail : KeepsServing mailPython mailTurns
    ∧ decodedAlone mailPython [.str (jsonText (.obj questionFields))] = [question]
    ∧ Lists mailPython mailAnswer [.str (jsonText (.obj questionFields))] := by
  refine ⟨(keeps_serving_iff (asciiPython_library _)).2 fun turn hturn => ?_, ?_, ?_⟩
  · have hturns : untilStop mailTurns = [⟨false, mailAnswer, fun _ => none⟩,
        ⟨false, .raises ⟨.osError, lit "Connection refused"⟩, fun _ => none⟩] := rfl
    rw [hturns, List.mem_pair] at hturn
    rcases hturn with rfl | rfl
    · exact mailAnswer_benign
    · exact .inr rfl
  · simp [decodedAlone, deserializeValue, mailPython_question, Except.toOption]
  · exact ⟨_, _, mailFields, rfl, mailAnswer_text, by decide, mailPython_answer, rfl⟩

/-- A poll that is answered with a malformed status line. -/
def garbledTurns : List Agent.Turn :=
  [⟨false, .raises ⟨.httpException, lit "BadStatusLine"⟩, fun _ => none⟩]

/-- Such a poll ends the loop. -/
theorem loop_killed : Library (asciiPython [])
    ∧ (Agent.recvLoop (asciiPython [])).after .polling garbledTurns
      = .raised ⟨.httpException, lit "BadStatusLine"⟩
    ∧ ¬ KeepsServing (asciiPython []) garbledTurns := by
  refine ⟨asciiPython_library [], rfl, fun h => ?_⟩
  have hpolls := (h [] _ [] rfl).polls
  cases hpolls

end AgentComm
