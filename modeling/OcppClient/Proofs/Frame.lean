import Mathlib.Data.List.Count
import OcppClient.Api

set_option autoImplicit false

/-! # What each function of the engine does

One lemma per function of `ocpp.c`, stating its effect on the pool, the three queues and
the log in closed form. The invariants of the later files are proved from these lemmas
and never unfold the functions again. The branching of `send_message` and of
`process_central_response` is folded into one decision each, `sendKeeps` and
`responseKeeps`: the message either stays (in Wait) or is freed. -/

namespace OcppClient

variable {N : Nat}

/-! ## The pool -/

/-- With nothing run in its callback, `free_message` creates nothing. -/
@[simp] theorem Reentrant.freeMessage_silent (i : Fin N) (s : Ocpp N) :
    Reentrant.freeMessage Callout.silent i s = (OcppClient.freeMessage i s, 0) := rfl

theorem freeMessage_eq (i : Fin N) (s : Ocpp N) :
    freeMessage i s =
      { s with pool := Function.update s.pool i .zero,
               log := s.log ++ [.event OCPP_EVENT_MESSAGE_FREE (s.pool i).body (some i)] } := rfl

@[simp] theorem freeMessage_pool (i j : Fin N) (s : Ocpp N) :
    (freeMessage i s).pool j = if j = i then .zero else s.pool j := by
  simp [freeMessage, Reentrant.freeMessage]

@[simp] theorem freeMessage_ready (i : Fin N) (s : Ocpp N) : (freeMessage i s).ready = s.ready := rfl
@[simp] theorem freeMessage_wait (i : Fin N) (s : Ocpp N) : (freeMessage i s).wait = s.wait := rfl
@[simp] theorem freeMessage_timer (i : Fin N) (s : Ocpp N) : (freeMessage i s).timer = s.timer := rfl

@[simp] theorem freeMessage_txTimestamp (i : Fin N) (s : Ocpp N) :
    (freeMessage i s).txTimestamp = s.txTimestamp := rfl

@[simp] theorem freeMessage_rxTimestamp (i : Fin N) (s : Ocpp N) :
    (freeMessage i s).rxTimestamp = s.rxTimestamp := rfl

@[simp] theorem freeMessage_log (i : Fin N) (s : Ocpp N) :
    (freeMessage i s).log = s.log ++ [.event OCPP_EVENT_MESSAGE_FREE (s.pool i).body (some i)] := rfl

/-- The first free slot, the one `alloc_message` claims. -/
def firstFree (s : Ocpp N) : Option (Fin N) :=
  (List.finRange N).find? (fun i => (s.pool i).body.role == .none)

theorem firstFree_eq_none {s : Ocpp N} :
    firstFree s = none ↔ ∀ i, (s.pool i).body.role ≠ .none := by
  simp [firstFree, List.find?_eq_none]

theorem firstFree_role {s : Ocpp N} {i : Fin N} (h : firstFree s = some i) :
    (s.pool i).body.role = .none := by
  simpa using List.find?_some h

theorem allocMessage_eq (s : Ocpp N) :
    allocMessage s = (firstFree s).map
      fun i => (i, s.setSlot i { s.pool i with body.role := .alloc }) := by
  unfold allocMessage firstFree
  cases (List.finRange N).find? (fun i => (s.pool i).body.role == .none) <;> rfl

/-- The record `new_message` leaves in the slot it claims: the old record with type,
    attempts, role and id overwritten. -/
def newRecord (id : Option (List Char)) (generated : List Char) (type : MessageType)
    (err : Bool) (old : Message) : Message :=
  match id with
  | some id => { old with body.type := type, attempts := 0,
                          body.role := if err then .callError else .callResult, body.id := id }
  | none => { old with body.type := type, attempts := 0, body.role := .call, body.id := generated }

theorem newMessage_eq (id : Option (List Char)) (generated : List Char) (type : MessageType)
    (err : Bool) (s : Ocpp N) :
    newMessage id generated type err s = (firstFree s).map
      fun i => (i, s.setSlot i (newRecord id generated type err (s.pool i))) := by
  unfold newMessage
  rw [allocMessage_eq]
  cases firstFree s <;> cases id <;> simp [newRecord, Ocpp.setSlot, Function.update_idem]

@[simp] theorem newRecord_attempts (id : Option (List Char)) (generated : List Char)
    (type : MessageType) (err : Bool) (old : Message) :
    (newRecord id generated type err old).attempts = 0 := by
  cases id <;> rfl

@[simp] theorem newRecord_type (id : Option (List Char)) (generated : List Char)
    (type : MessageType) (err : Bool) (old : Message) :
    (newRecord id generated type err old).body.type = type := by
  cases id <;> rfl

/-- A new message is a CALL, CALLRESULT or CALLERROR. -/
theorem newRecord_role (id : Option (List Char)) (generated : List Char) (type : MessageType)
    (err : Bool) (old : Message) :
    (newRecord id generated type err old).body.role = .call ∨
      (newRecord id generated type err old).body.role = .callResult ∨
      (newRecord id generated type err old).body.role = .callError := by
  cases id <;> cases err <;> simp [newRecord]

/-! ## Sending -/

/-- Whether `send_message` keeps the slot, in Wait, rather than freeing it. -/
def sendKeeps (b : Build) (sent : Int) (msg : Message) : Bool :=
  if sent = 0 then msg.body.role == .call
  else decide (msg.attempts < b.txRetries) || isTransactionRelated msg ||
    msg.body.type == .bootNotification

/-- The record `send_message` passes to `ocpp_send`. -/
def sentRecord (b : Build) (now : Int) (msg : Message) : Message :=
  { msg with attempts := msg.attempts + 1, expiry := getRetryInterval b now }

theorem sendMessage_eq (b : Build) (now sent : Int) (i : Fin N) (s : Ocpp N) :
    sendMessage b now sent i s =
      let t := ocppSend i (delMsgReady i (s.setSlot i (sentRecord b now (s.pool i))))
      if sendKeeps b sent (sentRecord b now (s.pool i)) then putMsgWait i t
      else freeMessage i t := by
  unfold sendMessage Reentrant.sendMessage sendKeeps sentRecord
  by_cases h : sent = 0 <;> simp [h, or_assoc, apply_ite Prod.fst]

/-! ## The Wait sweep and timer promotion -/

theorem txTimeoutVisit_eq (b : Build) (now : Int) (s : Ocpp N) (i : Fin N) :
    txTimeoutVisit b now s i =
      if (s.pool i).expiry > now then s
      else
        let s := delMsgWait i s
        if shouldDrop b (s.pool i) then freeMessage i s else putMsgReadyInfront i s := by
  unfold txTimeoutVisit Reentrant.txTimeoutVisit
  dsimp only
  split_ifs <;> rfl

/-- The sweep with nothing run in its callbacks, over the entries left to visit. -/
theorem foldl_txTimeoutVisit_silent (b : Build) (now : Int) :
    ∀ (l : List (Fin N)) (r : Ocpp N × Nat),
      (l.foldl (fun r i => let u := Reentrant.txTimeoutVisit Callout.silent b now r.1 i;
        (u.1, r.2 + u.2)) r).1 = l.foldl (txTimeoutVisit b now) r.1
  | [], _ => rfl
  | _ :: l, _ => foldl_txTimeoutVisit_silent b now l _

theorem processTxTimeout_eq (b : Build) (now : Int) (s : Ocpp N) :
    processTxTimeout b now s = s.wait.foldl (txTimeoutVisit b now) s :=
  foldl_txTimeoutVisit_silent b now s.wait (s, 0)

theorem processTxTimeout_of_wait_nil (b : Build) (now : Int) {s : Ocpp N} (h : s.wait = []) :
    processTxTimeout b now s = s := by
  simp [processTxTimeout_eq, h]

theorem processTxTimeout_of_wait_single (b : Build) (now : Int) {s : Ocpp N} {i : Fin N}
    (h : s.wait = [i]) : processTxTimeout b now s = txTimeoutVisit b now s i := by
  simp [processTxTimeout_eq, h]

/-- Timer promotion in closed form, for a pass that has kept `kept` and has `l` to visit:
    expired entries move in order to the tail of Ready, the others stay. -/
theorem foldl_timerVisit (now : Int) :
    ∀ (l kept : List (Fin N)) (s : Ocpp N), s.timer = kept ++ l →
      (∀ i ∈ kept, now < (s.pool i).expiry) →
      l.foldl (timerVisit now) s =
        { s with timer := kept ++ l.filter (fun i => now < (s.pool i).expiry),
                 ready := s.ready ++ l.filter (fun i => ¬ now < (s.pool i).expiry) }
  | [], kept, s, h, _ => by cases s; simp_all
  | i :: l, kept, s, h, hk => by
    rw [List.foldl_cons, timerVisit]
    by_cases hi : now < (s.pool i).expiry
    · have hk' : ∀ j ∈ kept ++ [i], now < (s.pool j).expiry := by
        simp only [List.mem_append, List.mem_singleton]
        rintro j (hj | rfl)
        exacts [hk j hj, hi]
      rw [if_pos hi, foldl_timerVisit now l (kept ++ [i]) s (by simp [h]) hk']
      simp [hi]
    · have hki : i ∉ kept := fun hm => hi (hk i hm)
      rw [if_neg hi, foldl_timerVisit now l kept (putMsgReady i (delMsgTimer i s))
        (by simp [h, List.erase_append_right _ hki]) hk]
      simp [hi, le_of_not_lt hi]

theorem processTimerMessages_fst (now : Int) (s : Ocpp N) :
    (processTimerMessages now s).1 =
      { s with timer := s.timer.filter (fun i => now < (s.pool i).expiry),
               ready := s.ready ++ s.timer.filter (fun i => ¬ now < (s.pool i).expiry) } := by
  unfold processTimerMessages
  split
  · cases s; simp_all
  · exact foldl_timerVisit now s.timer [] s rfl (by simp)

/-! ## Answers from the server -/

/-- Whether `process_central_response` keeps the matched request, in Wait, rather than
    freeing it: a CALLERROR on a transaction message with attempts to spare. -/
def responseKeeps (cfg : Configuration) (received : OcppMessage) (msg : Message) : Bool :=
  received.role == .callError && isTransactionRelated msg &&
    decide (msg.attempts < cfg.transactionMessageAttempts)

theorem processCentralResponse_eq (b : Build) (cfg : Configuration) (received : OcppMessage)
    (req : Fin N) (now : Int) (s : Ocpp N) :
    processCentralResponse b cfg received req now s =
      if responseKeeps cfg received (s.pool req) then
        putMsgWait req (updateMessageExpiry b cfg req now (delMsgWait req s))
      else freeMessage req (delMsgWait req s) := by
  unfold processCentralResponse Reentrant.processCentralResponse responseKeeps
  by_cases h : received.role = .callError <;> simp [h]
  split_ifs <;> simp_all

/-! ## Pushing -/

/-- The record `push_message` leaves in the slot it claims. -/
def pushedRecord (id : Option (List Char)) (generated : List Char) (type : MessageType)
    (payload : Payload) (timer : Int) (err : Bool) (old : Message) : Message :=
  { newRecord id generated type err old with body.payload := payload, expiry := timer }

theorem pushMessage_eq (id : Option (List Char)) (generated : List Char) (type : MessageType)
    (payload : Payload) (timer : Int) (f : Fin N → Ocpp N → Ocpp N) (err : Bool) (s : Ocpp N) :
    pushMessage id generated type payload timer f err s =
      match firstFree s with
      | none => (s, -ENOMEM)
      | some i => (f i (s.setSlot i (pushedRecord id generated type payload timer err (s.pool i))), 0) := by
  unfold pushMessage
  rw [newMessage_eq]
  cases firstFree s <;> simp [pushedRecord, Ocpp.setSlot, Function.update_idem]

theorem removeOldest_eq (s : Ocpp N) :
    removeOldest s = match s.ready.find? (fun i => !isEvictionProtected (s.pool i).body.type) with
      | none => (s, -ENOMEM)
      | some i => (freeMessage i (delMsgReady i s), 0) := by
  unfold removeOldest Reentrant.removeOldest
  cases s.ready.find? (fun i => !isEvictionProtected (s.pool i).body.type) <;> rfl

theorem ocppPushRequest_eq (type : MessageType) (payload : Payload) (force : Bool)
    (generated : List Char) (s : Ocpp N) :
    ocppPushRequest type payload force generated s =
      let r := pushMessage none generated type payload 0 putMsgReady false s
      if r.2 ≠ 0 ∧ force then
        pushMessage none generated type payload 0 putMsgReady false (removeOldest r.1).1
      else r := by
  unfold ocppPushRequest Reentrant.ocppPushRequest
  dsimp only
  split_ifs <;> rfl

theorem processQueuedMessages_eq (b : Build) (now sent : Int) (s : Ocpp N) :
    processQueuedMessages b now sent s =
      let s := processTxTimeout b now s
      if countMessagesWaiting s > 0 then (s, -EBUSY)
      else
        match s.ready with
        | [] => (s, 0)
        | i :: _ => (sendMessage b now sent i s, 0) := by
  unfold processQueuedMessages Reentrant.processQueuedMessages processTxTimeout sendMessage
  dsimp only
  split
  · rfl
  · cases (Reentrant.processTxTimeout Callout.silent b now s).1.ready <;> rfl

/-! ## The phases of a step and the public calls

Each phase of `ocpp_step` and each public call is a short sequence of the moves above. The
principles below say which, once: an invariant of the moves is an invariant of the phase,
and the later files prove no phase by unfolding it. -/

section Phases

variable (P : Ocpp N → Prop) (b : Build) {s : Ocpp N}

/-- The Wait sweep visits its entries one after the other. -/
theorem processTxTimeout_induct (now : Int) (hs : P s)
    (hvisit : ∀ t i, P t → P (txTimeoutVisit b now t i)) : P (processTxTimeout b now s) := by
  rw [processTxTimeout_eq]
  generalize s.wait = l
  induction l generalizing s with
  | nil => exact hs
  | cons i l ih => exact ih (hvisit _ _ hs)

/-- `process_queued_messages` stops after the Wait sweep, or sends the head of Ready while
    Wait is empty. -/
theorem processQueuedMessages_induct (now sent : Int) (hsweep : P (processTxTimeout b now s))
    (hsend : ∀ i l, (processTxTimeout b now s).ready = i :: l →
      (processTxTimeout b now s).wait = [] → P (sendMessage b now sent i (processTxTimeout b now s))) :
    P (processQueuedMessages b now sent s).1 := by
  rw [processQueuedMessages_eq]
  dsimp only
  split
  · exact hsweep
  · rename_i hw
    split
    · exact hsweep
    · rename_i i l hr
      exact hsend i l hr (by simpa using hw)

/-- A frame answers the Wait entry `find_msg_by_idstr` finds, or changes nothing. -/
theorem processReceived_induct (cfg : Configuration) (now : Int) (received : OcppMessage)
    (hs : P s)
    (hresp : ∀ req, findMsgByIdstr s.wait received.id s = some req →
      received.role = .callResult ∨ received.role = .callError →
      P (updateLastTxTimestamp now (processCentralResponse b cfg received req now s))) :
    P (processReceived b cfg now received s).1 := by
  unfold processReceived Reentrant.processReceived
  split <;> try exact hs
  all_goals
    split
    · exact hs
    · rename_i hrole _ req hreq
      exact hresp req hreq (by simp [hrole])

/-- `process_incoming_messages` dispatches no `MESSAGE_FREE` of its own: its outcome is
    0 or negative. -/
theorem processReceived_snd_le (cfg : Configuration) (now : Int) (received : OcppMessage) :
    (processReceived b cfg now received s).2 ≤ 0 := by
  unfold processReceived Reentrant.processReceived
  split <;> try (simp [EINVAL])
  all_goals split <;> simp [ENOLINK]

/-- `process_incoming_messages`: the frame's outcome, then the RX stamp, then one event with
    a kind of 0 or less. -/
theorem processIncomingMessages_induct (env : Env) (hs : P s)
    (hrecv : env.recvResult = 0 → P (processReceived b env.cfg env.now env.received s).1)
    (hdisp : ∀ t kind, kind ≤ 0 → P t → P (dispatchEvent kind env.received none t))
    (hrx : ∀ t, P t → P (updateLastRxTimestamp env.now t)) :
    P (processIncomingMessages b env s).1 := by
  have hr : P (if env.recvResult ≠ 0 then ((s, env.recvResult), 0)
      else Reentrant.processReceived Callout.silent b env.cfg env.now env.received s).1.1 ∧
      (if env.recvResult ≠ 0 then ((s, env.recvResult), 0)
      else Reentrant.processReceived Callout.silent b env.cfg env.now env.received s).1.2 ≤ 0 := by
    split
    · exact ⟨hs, env.recvResult_le⟩
    · rename_i h0
      exact ⟨hrecv (not_not.1 h0), processReceived_snd_le b _ _ _⟩
  unfold processIncomingMessages Reentrant.processIncomingMessages
  simp only [Callout.silent_apply]
  generalize (if env.recvResult ≠ 0 then ((s, env.recvResult), 0)
    else Reentrant.processReceived Callout.silent b env.cfg env.now env.received s) = r at hr ⊢
  split
  · split
    · exact hdisp _ _ hr.2 (hrx _ hr.1)
    · exact hdisp _ _ hr.2 hr.1
  · exact hr.1

/-- `process_periodic_messages`: when a Heartbeat is due, the first free slot takes a new
    Heartbeat CALL, which goes to the tail of Ready before Ready is drained again. -/
theorem processPeriodicMessages_eq (cfg : Configuration) (now sent : Int)
    (generated : List Char) (s : Ocpp N) :
    processPeriodicMessages b cfg now sent generated s =
      if shouldSendHeartbeat cfg now s then
        match firstFree s with
        | none => (s, -ENOMEM)
        | some i => ((processQueuedMessages b now sent (putMsgReady i
            (s.setSlot i (newRecord none generated .heartbeat false (s.pool i))))).1, 0)
      else (s, 0) := by
  unfold processPeriodicMessages Reentrant.processPeriodicMessages
  rw [newMessage_eq]
  split_ifs
  · cases firstFree s <;> rfl
  · rfl

theorem processPeriodicMessages_induct (cfg : Configuration) (now sent : Int)
    (generated : List Char) (hs : P s)
    (hbeat : ∀ i, firstFree s = some i → P (processQueuedMessages b now sent (putMsgReady i
      (s.setSlot i (newRecord none generated .heartbeat false (s.pool i))))).1) :
    P (processPeriodicMessages b cfg now sent generated s).1 := by
  rw [processPeriodicMessages_eq]
  split
  · cases hf : firstFree s with
    | none => exact hs
    | some i => exact hbeat i hf
  · exact hs

/-- A public call other than a step is a push to Ready or Timer, or an eviction followed by
    a push. -/
theorem Call.exec_push_induct
    (hpush : ∀ (id : Option (List Char)) generated type payload timer (q : Queue) err s,
      q ≠ .wait → P s →
        P (pushMessage id generated type payload timer (fun i s => addLastToList i q s) err s).1)
    (hevict : ∀ s, P s → P (removeOldest s).1) (c : Call) (hc : ∀ env, c ≠ .step env)
    (h : P s) : P (c.exec b s).1 := by
  cases c with
  | pushRequest type payload force generated =>
    have h1 := hpush none generated type payload 0 .ready false s (by decide) h
    show P (ocppPushRequest type payload force generated s).1
    rw [ocppPushRequest_eq]
    dsimp only
    split
    · exact hpush none generated type payload 0 .ready false _ (by decide) (hevict _ h1)
    · exact h1
  | pushRequestDefer type payload timerSec now generated =>
    show P (ocppPushRequestDefer type payload timerSec now generated s).1
    unfold ocppPushRequestDefer
    dsimp only
    split
    · exact hpush none generated type payload _ .ready false s (by decide) h
    · exact hpush none generated type payload _ .timer false s (by decide) h
  | pushResponse req payload err => exact hpush (some req.id) [] req.type payload 0 .ready err s (by decide) h
  | step env => exact absurd rfl (hc env)

/-- Every public call is a push to Ready or Timer, an eviction followed by a push, or a
    step. -/
theorem Call.exec_induct
    (hpush : ∀ (id : Option (List Char)) generated type payload timer (q : Queue) err s,
      q ≠ .wait → P s →
        P (pushMessage id generated type payload timer (fun i s => addLastToList i q s) err s).1)
    (hevict : ∀ s, P s → P (removeOldest s).1)
    (hstep : ∀ env s, P s → P (ocppStep b env s).1) (c : Call) (h : P s) : P (c.exec b s).1 := by
  by_cases hc : ∃ env, c = .step env
  · obtain ⟨env, rfl⟩ := hc
    exact hstep env s h
  · exact Call.exec_push_induct P b hpush hevict c (fun env he => hc ⟨env, he⟩) h

end Phases

end OcppClient
