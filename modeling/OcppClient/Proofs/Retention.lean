import OcppClient.Proofs.Ledger
import OcppClient.Proofs.Ingress

set_option autoImplicit false

/-! # Messages the engine must not drop

BootNotification and the transaction messages (StartTransaction, StopTransaction,
MeterValues) are exempt from dropping: `should_drop` and the failed-send branch of
`send_message` both keep them. `remove_oldest` keeps only BootNotification,
StartTransaction and StopTransaction, so a forced push may evict a MeterValues CALL.
The law of this file is stated over the entries a call appends to the log: a
`MESSAGE_FREE` for such a CALL comes from an answer matched to it, or is the eviction of a
MeterValues. -/

namespace OcppClient

variable {N : Nat}

/-! ## Logs that grow -/

/-- `t` extends the log of `s` by entries that satisfy `P`. -/
def Ocpp.Extends (P : Output N → Prop) (s t : Ocpp N) : Prop :=
  ∃ δ, t.log = s.log ++ δ ∧ ∀ o ∈ δ, P o

namespace Ocpp.Extends

variable {P Q : Output N → Prop} {s t u : Ocpp N}

theorem of_log (h : t.log = s.log) : s.Extends P t := ⟨[], by simp [h], by simp⟩

theorem single {o : Output N} (h : t.log = s.log ++ [o]) (ho : P o) : s.Extends P t :=
  ⟨[o], h, by simpa using ho⟩

theorem trans (h₁ : s.Extends P t) (h₂ : t.Extends P u) : s.Extends P u := by
  obtain ⟨δ₁, hl₁, hp₁⟩ := h₁
  obtain ⟨δ₂, hl₂, hp₂⟩ := h₂
  refine ⟨δ₁ ++ δ₂, by simp [hl₂, hl₁], fun o ho => ?_⟩
  rcases List.mem_append.1 ho with ho | ho
  exacts [hp₁ o ho, hp₂ o ho]

theorem mono (h : s.Extends P t) (hPQ : ∀ o, P o → Q o) : s.Extends Q t := by
  obtain ⟨δ, hl, hp⟩ := h
  exact ⟨δ, hl, fun o ho => hPQ o (hp o ho)⟩

end Ocpp.Extends

/-! ## Retained CALLs -/

/-- A CALL of a type the engine must not drop. -/
def OcppMessage.Retained (m : OcppMessage) : Prop :=
  m.role = .call ∧ (m.type = .bootNotification ∨ m.type = .startTransaction ∨
    m.type = .stopTransaction ∨ m.type = .meterValues)

/-- A `MESSAGE_FREE` of a retained CALL is accounted for by `Q`. -/
def Output.FreeAccounted (Q : OcppMessage → Prop) (o : Output N) : Prop :=
  ∀ m slot, o = .event OCPP_EVENT_MESSAGE_FREE m slot → m.Retained → Q m

@[simp] theorem Output.freeAccounted_send (Q : OcppMessage → Prop) (i : Fin N) (m : Message)
    (w : List (Fin N)) : (Output.send i m w).FreeAccounted Q := by
  simp [Output.FreeAccounted]

theorem Output.freeAccounted_event (Q : OcppMessage → Prop) {kind : Int} (m : OcppMessage)
    (slot : Option (Fin N)) (hk : kind ≤ 0) : (Output.event kind m slot).FreeAccounted Q := by
  rintro _ _ ⟨rfl, -, -⟩
  exact absurd hk (by decide)

theorem sendKeeps_of_retained (b : Build) (sent : Int) {m : Message} (h : m.body.Retained) :
    sendKeeps b sent m = true := by
  obtain ⟨hc, ht⟩ := h
  unfold sendKeeps isTransactionRelated
  split
  · simp [hc]
  · rcases ht with ht | ht | ht | ht <;> simp [ht]

theorem shouldDrop_of_retained (b : Build) {m : Message} (h : m.body.Retained) :
    shouldDrop b m = false := by
  rcases h.2 with ht | ht | ht | ht <;> simp [shouldDrop, isDroppable, isTransactionRelated, ht]

theorem isEvictionProtected_of_retained {m : OcppMessage} (h : m.Retained)
    (hm : m.type ≠ .meterValues) : isEvictionProtected m.type = true := by
  rcases h.2 with ht | ht | ht | ht <;> simp_all [isEvictionProtected]

/-! ## What each function frees -/

section Functions

variable {s : Ocpp N} {i : Fin N} (b : Build) (Q : OcppMessage → Prop)

theorem freeMessage_extends (h : (s.pool i).body.Retained → Q (s.pool i).body) :
    s.Extends (Output.FreeAccounted Q) (freeMessage i s) := by
  refine .single (freeMessage_log i s) ?_
  rintro m slot ho hm
  cases ho
  exact h hm

theorem sendMessage_extends (now sent : Int) :
    s.Extends (Output.FreeAccounted Q) (sendMessage b now sent i s) := by
  have hsend : s.Extends (Output.FreeAccounted Q)
      (ocppSend i (delMsgReady i (s.setSlot i (sentRecord b now (s.pool i))))) :=
    .single rfl (Output.freeAccounted_send Q _ _ _)
  rw [sendMessage_eq]
  split
  · exact hsend.trans (.of_log rfl)
  · rename_i hk
    exact hsend.trans (freeMessage_extends Q fun hr =>
      absurd (sendKeeps_of_retained b sent (m := sentRecord b now (s.pool i)) (by simpa using hr))
        (by simpa using hk))

theorem txTimeoutVisit_extends (now : Int) :
    s.Extends (Output.FreeAccounted Q) (txTimeoutVisit b now s i) := by
  rw [txTimeoutVisit_eq]
  split
  · exact .of_log rfl
  · dsimp only
    split
    · rename_i hd
      exact freeMessage_extends Q fun hr =>
        absurd hd (by simp [shouldDrop_of_retained b (m := s.pool i) hr])
    · exact .of_log rfl

theorem processQueuedMessages_extends (now sent : Int) :
    s.Extends (Output.FreeAccounted Q) (processQueuedMessages b now sent s).1 := by
  have h1 : s.Extends (Output.FreeAccounted Q) (processTxTimeout b now s) :=
    processTxTimeout_induct (s.Extends _) b now (.of_log rfl) fun _ _ ht =>
      ht.trans (txTimeoutVisit_extends b Q now)
  exact processQueuedMessages_induct (s.Extends _) b now sent h1 fun _ _ _ _ =>
    h1.trans (sendMessage_extends b Q now sent)

theorem processCentralResponse_extends (cfg : Configuration) (received : OcppMessage)
    (req : Fin N) (now : Int) :
    s.Extends (Output.FreeAccounted (· = (s.pool req).body))
      (processCentralResponse b cfg received req now s) := by
  rw [processCentralResponse_eq]
  split
  · exact .of_log rfl
  · exact freeMessage_extends _ fun _ => rfl

/-- A frame frees at most the request it answers, whose id begins with the frame's id. -/
theorem processReceived_extends (cfg : Configuration) (now : Int) (received : OcppMessage) :
    s.Extends (Output.FreeAccounted fun m =>
        (received.role = .callResult ∨ received.role = .callError) ∧
          received.id.takeWhile (· != nul) <+: m.id)
      (processReceived b cfg now received s).1 :=
  processReceived_induct (s.Extends _) b cfg now received (.of_log rfl) fun req hreq hrole =>
    (processCentralResponse_extends b cfg received req now).mono fun _ ho m slot he hm => by
      rw [ho m slot he hm]
      exact ⟨hrole, (findMsgByIdstr_spec hreq).2⟩

/-- A step frees a retained CALL only on a delivered CALLRESULT or CALLERROR whose id begins
    with the CALL's id. -/
theorem processIncomingMessages_extends (env : Env) :
    s.Extends (Output.FreeAccounted fun m => env.recvResult = 0 ∧
        (env.received.role = .callResult ∨ env.received.role = .callError) ∧
          env.received.id.takeWhile (· != nul) <+: m.id)
      (processIncomingMessages b env s).1 :=
  processIncomingMessages_induct (s.Extends _) b env (.of_log rfl)
    (fun h0 => (processReceived_extends b env.cfg env.now env.received).mono
      fun _ ho m slot he hm => ⟨h0, ho m slot he hm⟩)
    (fun _ _ hk ht => ht.trans (.single rfl (Output.freeAccounted_event _ _ _ hk)))
    (fun _ ht => ht.trans (.of_log rfl))

theorem processPeriodicMessages_extends (cfg : Configuration) (now sent : Int)
    (generated : List Char) :
    s.Extends (Output.FreeAccounted Q) (processPeriodicMessages b cfg now sent generated s).1 :=
  processPeriodicMessages_induct (s.Extends _) b cfg now sent generated (.of_log rfl) fun _ _ =>
    Ocpp.Extends.trans (.of_log rfl) (processQueuedMessages_extends b Q now sent)

theorem ocppStep_extends (env : Env) :
    s.Extends (Output.FreeAccounted fun m => env.recvResult = 0 ∧
        (env.received.role = .callResult ∨ env.received.role = .callError) ∧
          env.received.id.takeWhile (· != nul) <+: m.id)
      (ocppStep b env s).1 := by
  rw [ocppStep_eq, processTimerMessages_fst]
  exact ((processQueuedMessages_extends b _ _ _).trans (processIncomingMessages_extends b env)).trans
    ((processPeriodicMessages_extends b _ _ _ _ _).trans (.of_log rfl))

theorem pushMessage_extends (id : Option (List Char)) (generated : List Char)
    (type : MessageType) (payload : Payload) (timer : Int) {q : Queue} (err : Bool) :
    s.Extends (Output.FreeAccounted Q)
      (pushMessage id generated type payload timer (fun i s => addLastToList i q s) err s).1 := by
  rw [pushMessage_eq]
  cases firstFree s <;> exact .of_log (by simp)

/-- `remove_oldest` frees no retained CALL but a MeterValues. -/
theorem removeOldest_extends :
    s.Extends (Output.FreeAccounted (·.type = .meterValues)) (removeOldest s).1 := by
  rw [removeOldest_eq]
  split
  · exact .of_log rfl
  · rename_i i hi
    refine (Ocpp.Extends.of_log rfl).trans (freeMessage_extends _ fun hr => ?_)
    by_contra hm
    have hp := List.find?_some hi
    rw [isEvictionProtected_of_retained (m := (s.pool i).body) hr hm] at hp
    exact absurd hp (by decide)

theorem ocppPushRequest_extends (type : MessageType) (payload : Payload) (force : Bool)
    (generated : List Char) :
    s.Extends (Output.FreeAccounted fun m => force = true ∧ m.type = .meterValues)
      (ocppPushRequest type payload force generated s).1 := by
  have h1 := pushMessage_extends (s := s) (fun m => force = true ∧ m.type = .meterValues) none
    generated type payload 0 (q := .ready) false
  rw [ocppPushRequest_eq]
  dsimp only
  split
  · rename_i hf
    exact h1.trans ((removeOldest_extends.mono fun _ ho m slot he hm =>
      ⟨hf.2, ho m slot he hm⟩).trans (pushMessage_extends _ _ _ _ _ _ _))
  · exact h1

theorem ocppPushRequestDefer_extends (type : MessageType) (payload : Payload)
    (timerSec : UInt32) (now : Int) (generated : List Char) :
    s.Extends (Output.FreeAccounted Q)
      (ocppPushRequestDefer type payload timerSec now generated s).1 := by
  unfold ocppPushRequestDefer
  dsimp only
  split
  · exact pushMessage_extends Q none generated type payload _ (q := .ready) false
  · exact pushMessage_extends Q none generated type payload _ (q := .timer) false

end Functions

/-- Whatever call of the public API runs, a `MESSAGE_FREE` it dispatches for a
    BootNotification, StartTransaction, StopTransaction or MeterValues CALL comes from a
    step in which `ocpp_recv` delivered a CALLRESULT or CALLERROR whose id begins with the
    CALL's id, or from the eviction of a MeterValues by a forced `ocpp_push_request`. -/
theorem call_frees_retained_only_on_answer (b : Build) (c : Call) (s : Ocpp N) :
    ∃ δ, (c.exec b s).1.log = s.log ++ δ ∧
      ∀ m slot, Output.event OCPP_EVENT_MESSAGE_FREE m slot ∈ δ → m.role = .call →
        (m.type = .bootNotification ∨ m.type = .startTransaction ∨ m.type = .stopTransaction ∨
          m.type = .meterValues) →
        (∃ env, c = .step env ∧ env.recvResult = 0 ∧
          (env.received.role = .callResult ∨ env.received.role = .callError) ∧
          env.received.id.takeWhile (· != nul) <+: m.id) ∨
        (∃ type payload generated, c = .pushRequest type payload true generated ∧
          m.type = .meterValues) := by
  have key : s.Extends (Output.FreeAccounted fun m =>
      (∃ env, c = .step env ∧ env.recvResult = 0 ∧
        (env.received.role = .callResult ∨ env.received.role = .callError) ∧
        env.received.id.takeWhile (· != nul) <+: m.id) ∨
      (∃ type payload generated, c = .pushRequest type payload true generated ∧
        m.type = .meterValues)) (c.exec b s).1 := by
    cases c with
    | pushRequest type payload force generated =>
      refine (ocppPushRequest_extends type payload force generated).mono
        fun _ ho m slot he hm => .inr ?_
      obtain ⟨rfl, ht⟩ := ho m slot he hm
      exact ⟨type, payload, generated, rfl, ht⟩
    | pushRequestDefer type payload timerSec now generated =>
      exact ocppPushRequestDefer_extends _ type payload timerSec now generated
    | pushResponse req payload err =>
      exact pushMessage_extends _ (some req.id) [] req.type payload 0 (q := .ready) err
    | step env =>
      exact (ocppStep_extends b env).mono fun _ ho m slot he hm => .inl ⟨env, rfl, ho m slot he hm⟩
  obtain ⟨δ, hl, hp⟩ := key
  exact ⟨δ, hl, fun m slot hm hc ht => hp _ hm m slot rfl ⟨hc, ht⟩⟩

/-- A forced push on a full pool evicts the MeterValues CALL waiting in Ready. -/
theorem ocppPushRequest_evicts_meterValues :
    let s := (ocppInit 0 : Ocpp 1).run Build.default
      [.pushRequest .meterValues ⟨0, 0⟩ false ['1']]
    (s.pool 0).body.role = .call ∧ (s.pool 0).body.type = .meterValues ∧
      (ocppPushRequest .dataTransfer ⟨0, 0⟩ true ['2'] s).1.log =
        [.event OCPP_EVENT_MESSAGE_FREE (s.pool 0).body (some 0)] := by
  decide

end OcppClient
