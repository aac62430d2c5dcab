import OcppClient.Proofs.Slots

set_option autoImplicit false

/-! # Counting messages over a run

Under the slot discipline the pending count is the number of live slots, at most
`OCPP_TX_POOL_LEN`. The ledger of a state, pending messages plus `MESSAGE_FREE` events in
the log, rises by one exactly when a call creates a message: a push that returns 0 or a
synthesized Heartbeat. Every other move is neutral: relinking keeps both terms, and freeing
trades a pending message for an event. Summed over a run from `ocpp_init`, the pending count
is the number of messages created minus the number freed: none is leaked, duplicated or
freed twice. -/

namespace OcppClient

variable {N : Nat}

/-! ## Pending messages are live slots -/

/-- The number of live slots. -/
def Ocpp.liveCount (s : Ocpp N) : Nat :=
  ((List.finRange N).filter fun i => (s.pool i).body.role != .none).length

theorem count_filter_finRange (p : Fin N → Bool) (j : Fin N) :
    ((List.finRange N).filter p).count j = if p j then 1 else 0 := by
  split
  · rw [List.count_filter ‹_›]
    exact List.count_eq_one_of_mem (List.nodup_finRange N) (List.mem_finRange j)
  · exact List.count_eq_zero.mpr fun hm => by simp_all [List.mem_filter]

theorem Ocpp.WellFormed.countPending_eq {s : Ocpp N} (h : s.WellFormed) :
    ocppCountPendingRequests s = s.liveCount := by
  have hperm : (s.ready ++ s.wait ++ s.timer).Perm
      ((List.finRange N).filter fun i => (s.pool i).body.role != .none) :=
    List.perm_iff_count.mpr fun j => by
      rw [count_filter_finRange, List.count_append, List.count_append, ← Ocpp.links,
        h.links_eq j]
      by_cases hj : (s.pool j).body.role = .none <;> simp [hj]
  simpa [ocppCountPendingRequests, Ocpp.liveCount, Nat.add_assoc] using hperm.length_eq

theorem Ocpp.liveCount_le (s : Ocpp N) : s.liveCount ≤ N :=
  (List.length_filter_le _ _).trans (List.length_finRange N).le

/-! ## The ledger -/

/-- A `MESSAGE_FREE` event. -/
def Output.isFree : Output N → Bool
  | .event kind _ _ => kind == OCPP_EVENT_MESSAGE_FREE
  | .send _ _ _ => false

/-- The `MESSAGE_FREE` events of a log. -/
def freeEvents (log : List (Output N)) : Nat := log.countP Output.isFree

/-- Pending messages plus freed ones. -/
def Ocpp.ledger (s : Ocpp N) : Nat := ocppCountPendingRequests s + freeEvents s.log

section Moves

variable {s : Ocpp N} {i : Fin N}

@[simp] theorem ledger_setSlot (m : Message) : (s.setSlot i m).ledger = s.ledger := rfl

@[simp] theorem ledger_addLastToList (q : Queue) : (addLastToList i q s).ledger = s.ledger + 1 := by
  cases q <;> simp [Ocpp.ledger, ocppCountPendingRequests] <;> omega

theorem ledger_delFromList {q : Queue} (hi : i ∈ s.queue q) :
    (delFromList i q s).ledger + 1 = s.ledger := by
  have := List.length_pos_of_mem hi
  cases q <;> simp only [Ocpp.queue_ready, Ocpp.queue_wait, Ocpp.queue_timer] at hi this <;>
    simp only [Ocpp.ledger, ocppCountPendingRequests, countMessagesReady, countMessagesWaiting,
      countMessagesTicking, listCount, delFromList, listDel, Ocpp.queue_ready, Ocpp.queue_wait,
      Ocpp.queue_timer, Ocpp.setQueue_ready, Ocpp.setQueue_wait, Ocpp.setQueue_timer,
      List.length_erase_of_mem hi] <;> omega

@[simp] theorem ledger_freeMessage : (freeMessage i s).ledger = s.ledger + 1 := by
  simp [Ocpp.ledger, freeEvents, Output.isFree, ocppCountPendingRequests, Nat.add_assoc]

@[simp] theorem ledger_ocppSend : (ocppSend i s).ledger = s.ledger := by
  simp [Ocpp.ledger, freeEvents, Output.isFree, ocppCountPendingRequests]

theorem ledger_dispatchEvent {kind : Int} (msg : OcppMessage) (slot : Option (Fin N))
    (hk : kind ≤ 0) : (dispatchEvent kind msg slot s).ledger = s.ledger := by
  have : kind ≠ OCPP_EVENT_MESSAGE_FREE := by unfold OCPP_EVENT_MESSAGE_FREE; omega
  simp [Ocpp.ledger, freeEvents, Output.isFree, ocppCountPendingRequests, this]

end Moves

/-! ## Every function keeps the ledger, except by creating -/

section Functions

variable {s : Ocpp N} {i : Fin N} (b : Build)

theorem sendMessage_ledger (now sent : Int) (hi : i ∈ s.ready) :
    (sendMessage b now sent i s).ledger = s.ledger := by
  have hdel := ledger_delFromList (s := s.setSlot i (sentRecord b now (s.pool i))) (q := .ready) hi
  rw [sendMessage_eq]
  simp only [putMsgWait, delMsgReady] at hdel ⊢
  split <;> simp only [ledger_addLastToList, ledger_freeMessage, ledger_ocppSend] <;>
    simpa using hdel

theorem txTimeoutVisit_ledger (now : Int) (hi : i ∈ s.wait) :
    (txTimeoutVisit b now s i).ledger = s.ledger := by
  have hdel := ledger_delFromList (q := .wait) hi
  rw [txTimeoutVisit_eq]
  split
  · rfl
  · dsimp only
    simp only [delMsgWait, putMsgReadyInfront, addFirstToList] at hdel ⊢
    split
    · rw [ledger_freeMessage, hdel]
    · rw [← addLastToList, ledger_addLastToList, hdel]

theorem processTxTimeout_ledger (now : Int) (h : s.WellFormed) :
    (processTxTimeout b now s).ledger = s.ledger := by
  have hl := h.wait_length_le
  rcases hw : s.wait with _ | ⟨i, _ | ⟨j, l⟩⟩
  · rw [processTxTimeout_of_wait_nil b now hw]
  · rw [processTxTimeout_of_wait_single b now hw]
    exact txTimeoutVisit_ledger b now (by simp [hw])
  · simp [hw] at hl

theorem processQueuedMessages_ledger (now sent : Int) (h : s.WellFormed) :
    (processQueuedMessages b now sent s).1.ledger = s.ledger := by
  rw [← processTxTimeout_ledger b now h]
  exact processQueuedMessages_induct (·.ledger = (processTxTimeout b now s).ledger) b now sent rfl
    fun _ _ hr _ => sendMessage_ledger b now sent (by simp [hr])

theorem processCentralResponse_ledger (cfg : Configuration) (received : OcppMessage)
    (now : Int) (hi : i ∈ s.wait) :
    (processCentralResponse b cfg received i now s).ledger = s.ledger := by
  have hdel := ledger_delFromList (q := .wait) hi
  rw [processCentralResponse_eq]
  simp only [putMsgWait, delMsgWait] at hdel ⊢
  split
  · rw [ledger_addLastToList, updateMessageExpiry, ledger_setSlot, hdel]
  · rw [ledger_freeMessage, hdel]

theorem processIncomingMessages_ledger (env : Env) :
    (processIncomingMessages b env s).1.ledger = s.ledger :=
  processIncomingMessages_induct (·.ledger = s.ledger) b env rfl
    (fun _ => processReceived_induct (·.ledger = s.ledger) b _ _ _ rfl fun _ hreq _ =>
      processCentralResponse_ledger b _ _ _ (List.mem_of_find?_eq_some hreq))
    (fun _ _ hk ht => (ledger_dispatchEvent _ _ hk).trans ht) (fun _ ht => ht)

theorem processPeriodicMessages_ledger (cfg : Configuration) (now sent : Int)
    (generated : List Char) (h : s.WellFormed) :
    (processPeriodicMessages b cfg now sent generated s).1.ledger =
      s.ledger + if shouldSendHeartbeat cfg now s && (allocMessage s).isSome then 1 else 0 := by
  rw [processPeriodicMessages_eq, allocMessage_eq]
  split
  · cases hf : firstFree s with
    | none => simp
    | some i =>
      have hc := h.create (firstFree_role hf) (m := newRecord none generated .heartbeat false (s.pool i))
        (by simp [newRecord]) (by simp [newRecord]) (q := .ready) (by decide)
      simp_all [processQueuedMessages_ledger b now sent hc, -addLastToList]
  · simp_all

theorem processTimerMessages_ledger (now : Int) :
    (processTimerMessages now s).1.ledger = s.ledger := by
  rw [processTimerMessages_fst]
  have := (List.filter_append_perm (fun i => decide (now < (s.pool i).expiry)) s.timer).length_eq
  simp only [List.length_append, decide_not] at this
  simp only [Ocpp.ledger, ocppCountPendingRequests, countMessagesReady, countMessagesWaiting,
    countMessagesTicking, listCount, List.length_append, decide_not]
  omega

theorem pushMessage_ledger (id : Option (List Char)) (generated : List Char) (type : MessageType)
    (payload : Payload) (timer : Int) (q : Queue) (err : Bool) :
    (pushMessage id generated type payload timer (fun i s => addLastToList i q s) err s).1.ledger =
      s.ledger + if (pushMessage id generated type payload timer
        (fun i s => addLastToList i q s) err s).2 = 0 then 1 else 0 := by
  rw [pushMessage_eq]
  cases firstFree s <;> simp [ENOMEM, -addLastToList]

theorem pushMessage_fst_of_ne (id : Option (List Char)) (generated : List Char)
    (type : MessageType) (payload : Payload) (timer : Int) (f : Fin N → Ocpp N → Ocpp N)
    (err : Bool) (h : (pushMessage id generated type payload timer f err s).2 ≠ 0) :
    (pushMessage id generated type payload timer f err s).1 = s := by
  rw [pushMessage_eq] at h ⊢
  cases hf : firstFree s <;> simp_all

theorem removeOldest_ledger : (removeOldest s).1.ledger = s.ledger := by
  rw [removeOldest_eq]
  split
  · rfl
  · rename_i i hi
    rw [ledger_freeMessage]
    exact ledger_delFromList (q := .ready) (List.mem_of_find?_eq_some hi)

theorem ocppPushRequest_ledger (type : MessageType) (payload : Payload) (force : Bool)
    (generated : List Char) :
    (ocppPushRequest type payload force generated s).1.ledger =
      s.ledger + if (ocppPushRequest type payload force generated s).2 = 0 then 1 else 0 := by
  have h1 := pushMessage_ledger (s := s) none generated type payload 0 .ready false
  rw [ocppPushRequest_eq]
  dsimp only
  split
  · rename_i hrc
    have h2 := pushMessage_ledger (s := (removeOldest s).1) none generated type payload 0 .ready false
    rw [pushMessage_fst_of_ne none generated type payload 0 putMsgReady false hrc.1,
      ← removeOldest_ledger (s := s)]
    exact h2
  · exact h1

theorem Call.exec_ledger (c : Call) (h : s.WellFormed) :
    (c.exec b s).1.ledger = s.ledger + c.created b s := by
  cases c with
  | pushRequest type payload force generated => exact ocppPushRequest_ledger type payload force generated
  | pushRequestDefer type payload timerSec now generated =>
    unfold Call.created Call.exec ocppPushRequestDefer
    dsimp only
    split
    · exact pushMessage_ledger none generated type payload _ .ready false
    · exact pushMessage_ledger none generated type payload _ .timer false
  | pushResponse req payload err => exact pushMessage_ledger (some req.id) [] req.type payload 0 .ready err
  | step env =>
    have h2 : (ocppStepHeartbeatPhase b env s).WellFormed :=
      processIncomingMessages_wellFormed b env (processQueuedMessages_wellFormed b env.now env.sent h)
    show (ocppStep b env s).1.ledger = s.ledger + (if Call.heartbeatSynthesized b env s then 1 else 0)
    rw [ocppStep_eq, processTimerMessages_ledger, processPeriodicMessages_ledger b _ _ _ _ h2,
      ocppStepHeartbeatPhase, processIncomingMessages_ledger, processQueuedMessages_ledger b _ _ h]
    rfl

end Functions

theorem Ocpp.run_ledger (b : Build) {s : Ocpp N} (h : s.WellFormed) (cs : List Call) :
    (s.run b cs).ledger = s.ledger + s.runCreated b cs := by
  induction cs generalizing s with
  | nil => rfl
  | cons c cs ih =>
    rw [Ocpp.run, Ocpp.runCreated, ih (Call.exec_wellFormed b c h), Call.exec_ledger b c h]
    omega

@[simp] theorem ocppInit_ledger (now : Int) : (ocppInit now : Ocpp N).ledger = 0 := rfl

/-- Over every run from `ocpp_init`: a free slot is in no queue; a live slot is a CALL,
    CALLRESULT or CALLERROR linked exactly once; the pending count is the number of live
    slots, at most the pool size, and equals the messages created minus the
    `MESSAGE_FREE` events dispatched. -/
theorem run_pool_accounting (b : Build) (now : Int) (cs : List Call) :
    let s := (ocppInit now : Ocpp N).run b cs
    (∀ i, (s.pool i).body.role = .none → i ∉ s.ready ∧ i ∉ s.wait ∧ i ∉ s.timer) ∧
    (∀ i, (s.pool i).body.role ≠ .none →
      ((s.pool i).body.role = .call ∨ (s.pool i).body.role = .callResult ∨
        (s.pool i).body.role = .callError) ∧ s.links i = 1) ∧
    ocppCountPendingRequests s = s.liveCount ∧ s.liveCount ≤ N ∧
    ocppCountPendingRequests s + freeEvents s.log = (ocppInit now : Ocpp N).runCreated b cs := by
  intro s
  have h : s.WellFormed := ((Reachable.init now).run cs).wellFormed
  refine ⟨fun i hi => ?_, fun i hi => ⟨?_, ?_⟩, h.countPending_eq, s.liveCount_le, ?_⟩
  · have := h.links_eq i
    rw [if_pos hi] at this
    simp only [Ocpp.links, Nat.add_eq_zero, List.count_eq_zero] at this
    exact ⟨this.1.1, this.1.2, this.2⟩
  · have := h.role_ne_alloc i
    cases hrole : (s.pool i).body.role <;> simp_all
  · rw [h.links_eq i, if_neg hi]
  · have := Ocpp.run_ledger b (ocppInit_wellFormed (N := N) now) cs
    rw [ocppInit_ledger, Nat.zero_add] at this
    exact this

end OcppClient
