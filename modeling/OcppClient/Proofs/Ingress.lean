import OcppClient.Proofs.Frame

set_option autoImplicit false

/-! # Matching answers to the request in Wait

`find_msg_by_idstr` compares `strlen(msgid)` bytes of the incoming id with the stored id,
so a Wait entry matches every frame whose id (up to its NUL) is a prefix of the entry's id. -/

namespace OcppClient

variable {N : Nat}

/-- The bytes `strlen` counts are the string before its NUL. -/
theorem take_strlen (a : List Char) : a.take (strlen a) = a.takeWhile (· != nul) := by
  have h := List.take_left (a.takeWhile (· != nul)) (a.dropWhile (· != nul))
  rwa [List.takeWhile_append_dropWhile] at h

theorem memcmpEq_strlen_iff (a b : List Char) :
    memcmpEq a b (strlen a) = true ↔ a.takeWhile (· != nul) <+: b := by
  rw [memcmpEq, beq_iff_eq, take_strlen, List.prefix_iff_eq_take]
  rfl

/-- The entry `find_msg_by_idstr` returns is on the list, and the incoming id is a prefix of
    its id. -/
theorem findMsgByIdstr_spec {l : List (Fin N)} {msgid : List Char} {s : Ocpp N} {i : Fin N}
    (h : findMsgByIdstr l msgid s = some i) :
    i ∈ l ∧ msgid.takeWhile (· != nul) <+: (s.pool i).body.id := by
  have := List.find?_some h
  exact ⟨List.mem_of_find?_eq_some h, (memcmpEq_strlen_iff _ _).1 this⟩

/-- A CALL with id "12" waits for its answer; a CALLRESULT with id "1" is matched to it and
    frees it, and `ocpp_get_type_from_idstr` of the empty string returns its type. -/
theorem processIncomingMessages_matches_prefix :
    let s : Ocpp 1 := (ocppInit 0).run Build.default
      [.pushRequest .dataTransfer ⟨0, 0⟩ false ['1', '2'], .step (.make 0 0 none ⟨0, 3, 60⟩ [])]
    let t := (processIncomingMessages Build.default
      (.make 1 0 (some ⟨['1'], .callResult, .dataTransfer, ⟨0, 0⟩⟩) ⟨0, 3, 60⟩ []) s).1
    s.wait = [0] ∧ (s.pool 0).body.id = ['1', '2'] ∧ t.wait = [] ∧ (t.pool 0).body.role = .none ∧
      ocppGetTypeFromIdstr [] s = .dataTransfer := by
  decide

/-! ## The TX clock

`last_tx_timestamp`, against which heartbeats are timed, is moved by
`process_incoming_messages` alone, when an answer closes a round trip. -/

section TxTimestamp

variable {s : Ocpp N} (b : Build)

theorem sendMessage_txTimestamp (now sent : Int) (i : Fin N) :
    (sendMessage b now sent i s).txTimestamp = s.txTimestamp := by
  rw [sendMessage_eq]
  split <;> simp

theorem processQueuedMessages_txTimestamp (now sent : Int) :
    (processQueuedMessages b now sent s).1.txTimestamp = s.txTimestamp := by
  have h : (processTxTimeout b now s).txTimestamp = s.txTimestamp :=
    processTxTimeout_induct (·.txTimestamp = s.txTimestamp) b now rfl fun _ _ ht => by
      rw [txTimeoutVisit_eq]
      split
      · exact ht
      · dsimp only
        split <;> simpa using ht
  exact processQueuedMessages_induct (·.txTimestamp = s.txTimestamp) b now sent h
    fun _ _ _ _ => (sendMessage_txTimestamp b now sent _).trans h

theorem processPeriodicMessages_txTimestamp (cfg : Configuration) (now sent : Int)
    (generated : List Char) :
    (processPeriodicMessages b cfg now sent generated s).1.txTimestamp = s.txTimestamp :=
  processPeriodicMessages_induct (·.txTimestamp = s.txTimestamp) b cfg now sent generated rfl
    fun _ _ => (processQueuedMessages_txTimestamp b now sent).trans (by simp)

theorem pushMessage_txTimestamp (id : Option (List Char)) (generated : List Char)
    (type : MessageType) (payload : Payload) (timer : Int) (q : Queue) (err : Bool) :
    (pushMessage id generated type payload timer (fun i s => addLastToList i q s) err s).1.txTimestamp =
      s.txTimestamp := by
  rw [pushMessage_eq]
  cases firstFree s <;> simp

theorem removeOldest_txTimestamp : (removeOldest s).1.txTimestamp = s.txTimestamp := by
  rw [removeOldest_eq]
  split <;> simp

theorem processReceived_txTimestamp (cfg : Configuration) (now : Int) (received : OcppMessage) :
    (processReceived b cfg now received s).1.txTimestamp = s.txTimestamp ∨
      (received.role = .callResult ∨ received.role = .callError) ∧
      (∃ req, findMsgByIdstr s.wait received.id s = some req) ∧
      (processReceived b cfg now received s).1.txTimestamp = now :=
  processReceived_induct (fun t => t.txTimestamp = s.txTimestamp ∨
      (received.role = .callResult ∨ received.role = .callError) ∧
      (∃ req, findMsgByIdstr s.wait received.id s = some req) ∧ t.txTimestamp = now)
    b cfg now received (.inl rfl) fun req hreq hrole => .inr ⟨hrole, ⟨req, hreq⟩, rfl⟩

/-- `process_incoming_messages` moves `last_tx_timestamp` only to the step's clock, and only
    when it matched a delivered CALLRESULT or CALLERROR to a Wait entry. -/
theorem processIncomingMessages_txTimestamp (env : Env) :
    (processIncomingMessages b env s).1.txTimestamp = s.txTimestamp ∨
      env.recvResult = 0 ∧ (env.received.role = .callResult ∨ env.received.role = .callError) ∧
      (∃ req, findMsgByIdstr s.wait env.received.id s = some req) ∧
      (processIncomingMessages b env s).1.txTimestamp = env.now :=
  processIncomingMessages_induct (fun t => t.txTimestamp = s.txTimestamp ∨ env.recvResult = 0 ∧
      (env.received.role = .callResult ∨ env.received.role = .callError) ∧
      (∃ req, findMsgByIdstr s.wait env.received.id s = some req) ∧ t.txTimestamp = env.now)
    b env (.inl rfl)
    (fun h0 => (processReceived_txTimestamp b _ _ _).imp_right fun h => ⟨h0, h⟩)
    (fun _ _ _ ht => ht) (fun _ ht => ht)

end TxTimestamp

/-- Of all public calls, only a step moves `last_tx_timestamp`, to its clock reading, and
    only when `ocpp_recv` delivered a CALLRESULT or CALLERROR that `find_msg_by_idstr`
    matched to the request waiting after the drain. -/
theorem call_txTimestamp (b : Build) (c : Call) (s : Ocpp N) :
    (c.exec b s).1.txTimestamp = s.txTimestamp ∨
      ∃ env, c = .step env ∧ env.recvResult = 0 ∧
        (env.received.role = .callResult ∨ env.received.role = .callError) ∧
        (∃ req, findMsgByIdstr (processQueuedMessages b env.now env.sent s).1.wait
          env.received.id (processQueuedMessages b env.now env.sent s).1 = some req) ∧
        (c.exec b s).1.txTimestamp = env.now := by
  by_cases hc : ∃ env, c = .step env
  · obtain ⟨env, rfl⟩ := hc
    have hstep : (ocppStep b env s).1.txTimestamp =
        (processIncomingMessages b env (processQueuedMessages b env.now env.sent s).1).1.txTimestamp := by
      rw [ocppStep_eq, processTimerMessages_fst]
      exact processPeriodicMessages_txTimestamp b _ _ _ _
    rcases processIncomingMessages_txTimestamp b env with h | ⟨h0, hrole, hreq, h⟩
    · exact .inl (hstep.trans (h.trans (processQueuedMessages_txTimestamp b _ _)))
    · exact .inr ⟨env, rfl, h0, hrole, hreq, hstep.trans h⟩
  · exact .inl (Call.exec_push_induct (·.txTimestamp = s.txTimestamp) b
      (fun _ _ _ _ _ q _ _ _ h => (pushMessage_txTimestamp _ _ _ _ _ q _).trans h)
      (fun _ h => removeOldest_txTimestamp.trans h) c (fun env he => hc ⟨env, he⟩) rfl)

end OcppClient
