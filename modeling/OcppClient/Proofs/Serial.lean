import OcppClient.Proofs.Retention

set_option autoImplicit false

/-! # One outstanding call

OCPP 1.6 allows one CALL in flight. `process_queued_messages` refuses to send while Wait
holds a message, and heartbeat synthesis requires an empty Wait, so every `ocpp_send` of
a run is made while Wait is empty; together with the bound `|Wait| ≤ 1` of the slot
discipline this is the serialization invariant. The log records the Wait list at each
send, and the invariant here is that every recorded send found it empty. -/

namespace OcppClient

variable {N : Nat}

/-- An `ocpp_send` made while nothing waited for an answer; events qualify trivially. -/
def Output.idle : Output N → Prop
  | .send _ _ waiting => waiting = []
  | .event _ _ _ => True

@[simp] theorem Output.idle_send (i : Fin N) (m : Message) (w : List (Fin N)) :
    (Output.send i m w).idle ↔ w = [] := Iff.rfl

@[simp] theorem Output.idle_event (k : Int) (m : OcppMessage) (slot : Option (Fin N)) :
    (Output.event k m slot).idle := trivial

/-- Every `ocpp_send` of the log was made while Wait was empty. -/
def Ocpp.SendsIdle (s : Ocpp N) : Prop := ∀ o ∈ s.log, o.idle

section Moves

variable {s t : Ocpp N} {i : Fin N}

theorem Ocpp.SendsIdle.of_log (h : s.SendsIdle) {δ : List (Output N)} (hl : t.log = s.log ++ δ)
    (hδ : ∀ o ∈ δ, o.idle) : t.SendsIdle := by
  intro o ho
  rw [hl, List.mem_append] at ho
  exact ho.elim (h o) (hδ o)

/-- A move that only appends events, or nothing, to the log. -/
theorem Ocpp.SendsIdle.of_events (h : s.SendsIdle) {δ : List (Output N)}
    (hl : t.log = s.log ++ δ) (hδ : ∀ o ∈ δ, ∃ k m slot, o = .event k m slot) : t.SendsIdle :=
  h.of_log hl fun o ho => by obtain ⟨k, m, slot, rfl⟩ := hδ o ho; trivial

theorem Ocpp.SendsIdle.same (h : s.SendsIdle) (hl : t.log = s.log) : t.SendsIdle :=
  h.of_log (δ := []) (by simp [hl]) (by simp)

theorem Ocpp.SendsIdle.free (h : s.SendsIdle) : (freeMessage i s).SendsIdle :=
  h.of_events (freeMessage_log i s) (by simp)

end Moves

/-! ## Every function keeps it -/

section Functions

variable {s : Ocpp N} {i : Fin N} (b : Build)

theorem sendMessage_sendsIdle (now sent : Int) (h : s.SendsIdle) (hw : s.wait = []) :
    (sendMessage b now sent i s).SendsIdle := by
  have h1 : (ocppSend i (delMsgReady i (s.setSlot i (sentRecord b now (s.pool i))))).SendsIdle :=
    h.of_log rfl (by simp [hw])
  rw [sendMessage_eq]
  split
  · exact h1.same (Ocpp.setQueue_log ..)
  · exact h1.free

theorem txTimeoutVisit_sendsIdle (now : Int) (h : s.SendsIdle) :
    (txTimeoutVisit b now s i).SendsIdle := by
  rw [txTimeoutVisit_eq]
  split
  · exact h
  · dsimp only
    split
    · exact (h.same (Ocpp.setQueue_log ..)).free
    · exact h.same (by simp)

theorem processTxTimeout_sendsIdle (now : Int) (h : s.SendsIdle) :
    (processTxTimeout b now s).SendsIdle :=
  processTxTimeout_induct _ b now h fun _ _ => txTimeoutVisit_sendsIdle b now

theorem processQueuedMessages_sendsIdle (now sent : Int) (h : s.SendsIdle) :
    (processQueuedMessages b now sent s).1.SendsIdle := by
  have h1 := processTxTimeout_sendsIdle b now h
  exact processQueuedMessages_induct _ b now sent h1 fun _ _ _ hw =>
    sendMessage_sendsIdle b now sent h1 hw

theorem processCentralResponse_sendsIdle (cfg : Configuration) (received : OcppMessage)
    (now : Int) (h : s.SendsIdle) : (processCentralResponse b cfg received i now s).SendsIdle := by
  rw [processCentralResponse_eq]
  split
  · exact h.same (by simp [updateMessageExpiry])
  · exact (h.same (Ocpp.setQueue_log ..)).free

theorem processIncomingMessages_sendsIdle (env : Env) (h : s.SendsIdle) :
    (processIncomingMessages b env s).1.SendsIdle :=
  processIncomingMessages_induct _ b env h
    (fun _ => processReceived_induct _ b _ _ _ h fun _ _ _ =>
      (processCentralResponse_sendsIdle b _ _ _ h).same rfl)
    (fun _ _ _ ht => ht.of_events rfl (by simp)) (fun _ ht => ht.same rfl)

theorem processPeriodicMessages_sendsIdle (cfg : Configuration) (now sent : Int)
    (generated : List Char) (h : s.SendsIdle) :
    (processPeriodicMessages b cfg now sent generated s).1.SendsIdle :=
  processPeriodicMessages_induct _ b cfg now sent generated h fun _ _ =>
    processQueuedMessages_sendsIdle b now sent (h.same (by simp))

theorem processTimerMessages_sendsIdle (now : Int) (h : s.SendsIdle) :
    (processTimerMessages now s).1.SendsIdle :=
  h.same (by rw [processTimerMessages_fst])

theorem pushMessage_sendsIdle (id : Option (List Char)) (generated : List Char)
    (type : MessageType) (payload : Payload) (timer : Int) (q : Queue) (err : Bool)
    (h : s.SendsIdle) :
    (pushMessage id generated type payload timer (fun i s => addLastToList i q s) err s).1.SendsIdle := by
  rw [pushMessage_eq]
  cases firstFree s with
  | none => exact h
  | some i => exact h.same (by simp)

theorem removeOldest_sendsIdle (h : s.SendsIdle) : (removeOldest s).1.SendsIdle := by
  rw [removeOldest_eq]
  split
  · exact h
  · exact (h.same (Ocpp.setQueue_log ..)).free

theorem ocppStep_sendsIdle (env : Env) (h : s.SendsIdle) : (ocppStep b env s).1.SendsIdle := by
  rw [ocppStep_eq]
  exact processTimerMessages_sendsIdle env.now <| processPeriodicMessages_sendsIdle b _ _ _ _ <|
    processIncomingMessages_sendsIdle b env <| processQueuedMessages_sendsIdle b _ _ h

theorem Call.exec_sendsIdle (c : Call) (h : s.SendsIdle) : (c.exec b s).1.SendsIdle :=
  Call.exec_induct _ b (fun _ _ _ _ _ q _ _ _ h => pushMessage_sendsIdle _ _ _ _ _ q _ h)
    (fun _ => removeOldest_sendsIdle) (fun env _ => ocppStep_sendsIdle b env) c h

end Functions

theorem Reachable.sendsIdle {b : Build} {s : Ocpp N} (h : Reachable b s) : s.SendsIdle := by
  induction h with
  | init now => simp [Ocpp.SendsIdle, ocppInit]
  | call c _ ih => exact Call.exec_sendsIdle b c ih

/-- At every reachable state at most one message waits for an answer, and every call to
    `ocpp_send` of the run so far was made while Wait was empty. -/
theorem reachable_serialized {b : Build} {s : Ocpp N} (h : Reachable b s) :
    s.wait.length ≤ 1 ∧ ∀ i m w, Output.send i m w ∈ s.log → w = [] :=
  ⟨h.wellFormed.wait_length_le, fun _ _ _ hm => h.sendsIdle _ hm⟩

/-- A DataTransfer is pushed and sent: it waits alone, and Wait was empty at its send. -/
theorem serialized_after_send :
    let s : Ocpp 2 := (ocppInit 0).run Build.default
      [.pushRequest .dataTransfer ⟨0, 0⟩ false ['A'], .step (.make 0 0 none ⟨0, 3, 60⟩ [])]
    s.wait = [0] ∧ Output.send 0 (s.pool 0) [] ∈ s.log ∧
      (s.wait.length ≤ 1 ∧ ∀ i m w, Output.send i m w ∈ s.log → w = []) :=
  ⟨by decide, by decide, reachable_serialized ((Reachable.init 0).run _)⟩

/-! ## The order of sends

`put_msg_ready_infront` calls `add_first_to_list`, whose body is `list_add_tail`: a message
the Wait sweep returns to Ready goes behind every message already there. -/

/-- A BootNotification (slot 0) and a DataTransfer (slot 1) are pushed in that order and the
    BootNotification is sent; when its Wait deadline passes unanswered, the step at time 10
    sends the DataTransfer while the BootNotification, still live, waits behind it. -/
theorem retried_message_overtaken :
    let cfg : Configuration := ⟨0, 3, 60⟩
    let s := (ocppInit 0 : Ocpp 2).run Build.default
      [.pushRequest .bootNotification ⟨0, 0⟩ false ['A'],
       .pushRequest .dataTransfer ⟨0, 0⟩ false ['B'], .step (.make 0 0 none cfg [])]
    let t := (ocppStep Build.default (.make 10 0 none cfg []) s).1
    s.wait = [0] ∧ s.ready = [1] ∧ (s.pool 0).body.type = .bootNotification ∧
      t.log.drop s.log.length = [.send 1 { s.pool 1 with attempts := 1, expiry := 20 } []] ∧
      t.ready = [0] ∧ (t.pool 0).body = (s.pool 0).body := by
  decide

end OcppClient
