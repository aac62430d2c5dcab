import OcppClient.Proofs.Slots

set_option autoImplicit false

/-! # Retries of droppable messages

A droppable message (none of BootNotification, StartTransaction, StopTransaction and
MeterValues) is passed to `ocpp_send` at most `OCPP_DEFAULT_TX_RETRIES` times.
`send_message` counts every send in `attempts` and frees a droppable message whose last
allowed send failed; the Wait sweep frees one whose last allowed send went unanswered
(`should_drop`); any answer frees it. So a droppable message in Ready or Timer has sends
to spare.

The sends are read off the log: `droppableSends i` counts the sends of slot `i` since its
last `MESSAGE_FREE`, made while it held a droppable message. `Ocpp.RetryBound` ties that
count to `attempts` and bounds it at every earlier point of the log. -/

namespace OcppClient

variable {N : Nat}

/-! ## Counting sends -/

/-- One entry of the log, for the count of slot `i`: a send of the slot while it holds a
    droppable message counts, its `MESSAGE_FREE` starts the count again. -/
def Output.countSends (i : Fin N) (n : Nat) : Output N → Nat
  | .send j m _ => if j = i ∧ isDroppable m = true then n + 1 else n
  | .event kind _ slot => if kind = OCPP_EVENT_MESSAGE_FREE ∧ slot = some i then 0 else n

@[simp] theorem Output.countSends_send (i j : Fin N) (n : Nat) (m : Message)
    (w : List (Fin N)) :
    (Output.send j m w).countSends i n = if j = i ∧ isDroppable m = true then n + 1 else n := rfl

@[simp] theorem Output.countSends_event (i : Fin N) (n : Nat) (kind : Int) (m : OcppMessage)
    (slot : Option (Fin N)) :
    (Output.event kind m slot).countSends i n =
      if kind = OCPP_EVENT_MESSAGE_FREE ∧ slot = some i then 0 else n := rfl

/-- The calls to `ocpp_send` on the droppable message that slot `i` holds. -/
def droppableSends (i : Fin N) (log : List (Output N)) : Nat :=
  log.foldl (fun n o => o.countSends i n) 0

@[simp] theorem droppableSends_concat (i : Fin N) (log : List (Output N)) (o : Output N) :
    droppableSends i (log ++ [o]) = o.countSends i (droppableSends i log) := by
  simp [droppableSends]

theorem isDroppable_congr {m n : Message} (h : m.body = n.body) :
    isDroppable m = isDroppable n := by
  simp only [isDroppable, isTransactionRelated, h]

/-! ## The invariant -/

/-- The retry discipline of droppable messages for `R = OCPP_DEFAULT_TX_RETRIES`. -/
structure Ocpp.RetryBound (R : UInt32) (s : Ocpp N) : Prop where
  attempts_le : ∀ i, isDroppable (s.pool i) = true → (s.pool i).attempts ≤ R
  queued_lt : ∀ i, i ∈ s.ready ∨ i ∈ s.timer → isDroppable (s.pool i) = true →
    (s.pool i).attempts < R
  attempts_eq : ∀ i, isDroppable (s.pool i) = true →
    (s.pool i).attempts.toNat = droppableSends i s.log
  free_sends : ∀ i, (s.pool i).body.role = .none → droppableSends i s.log = 0
  history : ∀ pre, pre <+: s.log → ∀ i, droppableSends i pre ≤ R.toNat

/-- A log that grows by one entry keeps its bound at every earlier point if the new entry
    keeps it. -/
theorem history_concat {R : UInt32} {log : List (Output N)} {o : Output N}
    (h : ∀ pre, pre <+: log → ∀ i, droppableSends i pre ≤ R.toNat)
    (ho : ∀ i, droppableSends i (log ++ [o]) ≤ R.toNat) :
    ∀ pre, pre <+: log ++ [o] → ∀ i, droppableSends i pre ≤ R.toNat := by
  intro pre hpre
  rcases List.prefix_concat_iff.1 hpre with rfl | hpre
  exacts [ho, h pre hpre]

namespace Ocpp.RetryBound

variable {R : UInt32} {s t : Ocpp N} {i : Fin N}

/-- A move that keeps the log and every slot's attempts and body, and queues in Ready or
    Timer only messages with sends to spare. -/
theorem of_agree (h : s.RetryBound R)
    (hp : ∀ j, (t.pool j).attempts = (s.pool j).attempts ∧ (t.pool j).body = (s.pool j).body)
    (hl : t.log = s.log)
    (hq : ∀ j, j ∈ t.ready ∨ j ∈ t.timer → isDroppable (t.pool j) = true →
      (t.pool j).attempts < R) : t.RetryBound R where
  attempts_le j hd := by
    rw [(hp j).1]
    exact h.attempts_le j (by rwa [← isDroppable_congr (hp j).2])
  queued_lt := hq
  attempts_eq j hd := by
    rw [(hp j).1, hl]
    exact h.attempts_eq j (by rwa [← isDroppable_congr (hp j).2])
  free_sends j hr := by
    rw [hl]
    exact h.free_sends j (by rwa [← (hp j).2])
  history := hl ▸ h.history

theorem delFromList (h : s.RetryBound R) (q : Queue) : (delFromList i q s).RetryBound R :=
  h.of_agree (fun _ => by simp) (by simp) fun j hj => by
    cases q <;> simp only [OcppClient.delFromList, Ocpp.queue_ready, Ocpp.queue_wait,
      Ocpp.queue_timer, Ocpp.setQueue_ready, Ocpp.setQueue_wait, Ocpp.setQueue_timer,
      listDel] at hj ⊢ <;>
      exact h.queued_lt j (by
        rcases hj with hj | hj
        · first | exact .inl (List.mem_of_mem_erase hj) | exact .inl hj
        · first | exact .inr (List.mem_of_mem_erase hj) | exact .inr hj)

theorem addLastToList (h : s.RetryBound R) (q : Queue)
    (hi : q ≠ .wait → isDroppable (s.pool i) = true → (s.pool i).attempts < R) :
    (addLastToList i q s).RetryBound R :=
  h.of_agree (fun _ => by simp) (by simp) fun j hj => by
    cases q <;> simp only [OcppClient.addLastToList, Ocpp.queue_ready, Ocpp.queue_wait,
      Ocpp.queue_timer, Ocpp.setQueue_ready, Ocpp.setQueue_wait, Ocpp.setQueue_timer,
      listAddTail, List.mem_append, List.mem_singleton] at hj ⊢
    · rcases hj with (hj | rfl) | hj
      exacts [h.queued_lt j (.inl hj), hi (by decide), h.queued_lt j (.inr hj)]
    · exact h.queued_lt j hj
    · rcases hj with hj | hj | rfl
      exacts [h.queued_lt j (.inl hj), h.queued_lt j (.inr hj), hi (by decide)]

theorem congr (h : s.RetryBound R) (hp : t.pool = s.pool) (hr : t.ready = s.ready)
    (ht : t.timer = s.timer) (hl : t.log = s.log) : t.RetryBound R :=
  h.of_agree (fun j => by rw [hp]; exact ⟨rfl, rfl⟩) hl fun j hj => by
    rw [hp]
    exact h.queued_lt j (by rwa [← hr, ← ht])

/-- `free_message` zeroes the slot and starts its count again. -/
theorem free (hR : 0 < R) (h : s.RetryBound R) : (freeMessage i s).RetryBound R where
  attempts_le j hd := by
    by_cases hj : j = i
    · simp [hj, Message.zero, UInt32.le_iff_toNat_le]
    · simpa [hj] using h.attempts_le j (by simpa [hj] using hd)
  queued_lt j hq hd := by
    by_cases hj : j = i
    · simpa [hj, Message.zero] using hR
    · simpa [hj] using h.queued_lt j hq (by simpa [hj] using hd)
  attempts_eq j hd := by
    by_cases hj : j = i
    · simp [hj, Message.zero]
    · simpa [hj, Ne.symm hj] using h.attempts_eq j (by simpa [hj] using hd)
  free_sends j hr := by
    by_cases hj : j = i
    · simp [hj]
    · simpa [hj, Ne.symm hj] using h.free_sends j (by simpa [hj] using hr)
  history := history_concat h.history fun j => by
    by_cases hj : j = i
    · simp [hj]
    · simpa [hj, Ne.symm hj] using h.history _ (List.prefix_refl _) j

/-- `send_message` up to its call of `ocpp_send`: the attempt is counted and the slot, linked
    in Ready alone, leaves it. The count of sends grows with `attempts`. -/
theorem send (b : Build) (now : Int) (h : s.RetryBound R) (hi : i ∈ s.ready)
    (hrest : i ∉ s.ready.erase i) (htimer : i ∉ s.timer) (hrole : (s.pool i).body.role ≠ .none) :
    (ocppSend i (delMsgReady i (s.setSlot i (sentRecord b now (s.pool i))))).RetryBound R := by
  have hsame : isDroppable (sentRecord b now (s.pool i)) = isDroppable (s.pool i) :=
    isDroppable_congr rfl
  have hstep : isDroppable (s.pool i) = true →
      (sentRecord b now (s.pool i)).attempts.toNat = droppableSends i s.log + 1 ∧
        droppableSends i s.log + 1 ≤ R.toNat := fun hd => by
    have hlt := h.queued_lt i (.inl hi) hd
    have heq := h.attempts_eq i hd
    rw [sentRecord, UInt32.toNat_add_one_of_lt hlt, ← heq]
    exact ⟨rfl, UInt32.lt_iff_toNat_lt.1 hlt⟩
  constructor
  · intro j hd
    by_cases hj : j = i
    · subst hj
      simp only [ocppSend, delMsgReady, OcppClient.delFromList, Ocpp.setQueue_pool,
        Ocpp.setSlot_pool, if_true] at hd ⊢
      rw [UInt32.le_iff_toNat_le, (hstep (hsame ▸ hd)).1]
      exact (hstep (hsame ▸ hd)).2
    · simpa [hj] using h.attempts_le j (by simpa [hj] using hd)
  · intro j hq hd
    have hj : j ≠ i := by
      rintro rfl
      simp only [ocppSend, delMsgReady, OcppClient.delFromList, Ocpp.queue_ready,
        Ocpp.setQueue_ready, listDel, Ocpp.setSlot_ready, Ocpp.setSlot_timer] at hq
      exact hq.elim hrest htimer
    simp only [ocppSend, delMsgReady, OcppClient.delFromList, Ocpp.queue_ready,
      Ocpp.setQueue_ready, listDel, Ocpp.setSlot_ready, Ocpp.setSlot_timer, Ocpp.setSlot_pool,
      if_neg hj] at hq hd ⊢
    exact h.queued_lt j (hq.imp_left List.mem_of_mem_erase) hd
  · intro j hd
    by_cases hj : j = i
    · subst hj
      simp only [ocppSend, delMsgReady, OcppClient.delFromList, Ocpp.setQueue_pool,
        Ocpp.setQueue_log, Ocpp.setSlot_pool, Ocpp.setSlot_log, if_true,
        droppableSends_concat, Output.countSends_send, true_and] at hd ⊢
      rw [if_pos hd, (hstep (hsame ▸ hd)).1]
    · simpa [hj, Ne.symm hj] using h.attempts_eq j (by simpa [hj] using hd)
  · intro j hr
    by_cases hj : j = i
    · subst hj
      exact absurd (by simpa using hr) hrole
    · simpa [hj, Ne.symm hj] using h.free_sends j (by simpa [hj] using hr)
  · refine history_concat h.history fun j => ?_
    by_cases hj : j = i
    · subst hj
      by_cases hd : isDroppable (s.pool j) = true
      · simpa [hsame, hd] using (hstep hd).2
      · simpa [hsame, hd] using h.history _ (List.prefix_refl _) j
    · simpa [hj, Ne.symm hj] using h.history _ (List.prefix_refl _) j

/-- Filling a free slot with a message that has not been sent yet. -/
theorem create (hR : 0 < R) (h : s.RetryBound R) (hfree : (s.pool i).body.role = .none)
    {m : Message} (hm : m.attempts = 0) : (s.setSlot i m).RetryBound R where
  attempts_le j hd := by
    by_cases hj : j = i
    · simp [hj, hm, UInt32.le_iff_toNat_le]
    · simpa [hj] using h.attempts_le j (by simpa [hj] using hd)
  queued_lt j hq hd := by
    by_cases hj : j = i
    · simpa [hj, hm] using hR
    · simpa [hj] using h.queued_lt j hq (by simpa [hj] using hd)
  attempts_eq j hd := by
    by_cases hj : j = i
    · subst hj; simp [hm, h.free_sends j hfree]
    · simpa [hj] using h.attempts_eq j (by simpa [hj] using hd)
  free_sends j hr := by
    by_cases hj : j = i
    · subst hj; exact h.free_sends j hfree
    · exact h.free_sends j (by simpa [hj] using hr)
  history := h.history

/-- An event about the received frame, which points into no slot. -/
theorem dispatch (h : s.RetryBound R) (kind : Int) (msg : OcppMessage) :
    (dispatchEvent kind msg none s).RetryBound R where
  attempts_le := h.attempts_le
  queued_lt := h.queued_lt
  attempts_eq j hd := by simpa using h.attempts_eq j hd
  free_sends j hr := by simpa using h.free_sends j hr
  history := history_concat h.history fun j => by
    simpa using h.history _ (List.prefix_refl _) j

end Ocpp.RetryBound

/-- A slot linked in Ready is linked there once, and nowhere else. -/
theorem Ocpp.WellFormed.ready_sole {s : Ocpp N} {i : Fin N} (h : s.WellFormed)
    (hi : i ∈ s.ready) : i ∉ s.ready.erase i ∧ i ∉ s.timer := by
  have h1 := h.links_eq_one (q := .ready) hi
  have hc := List.count_pos_iff.2 hi
  simp only [Ocpp.links] at h1
  refine ⟨fun hm => ?_, fun hm => ?_⟩ <;> have := List.count_pos_iff.2 hm
  · rw [List.count_erase_self] at this
    omega
  · omega

section Functions

variable {s : Ocpp N} {i : Fin N} (b : Build)

end Functions

/-- No Timer entry has been sent. -/
def Ocpp.TimerUnsent (s : Ocpp N) : Prop := ∀ i ∈ s.timer, (s.pool i).attempts = 0

namespace Ocpp.TimerUnsent

variable {s t : Ocpp N} {i : Fin N}

theorem congr (h : s.TimerUnsent) (hp : t.pool = s.pool) (ht : t.timer = s.timer) :
    t.TimerUnsent := by
  rw [Ocpp.TimerUnsent, hp, ht]
  exact h

theorem setSlot (h : s.TimerUnsent) {m : Message} (hm : i ∈ s.timer → m.attempts = 0) :
    (s.setSlot i m).TimerUnsent := fun j hj => by
  by_cases hji : j = i
  · subst hji
    simpa using hm hj
  · simpa [hji] using h j hj

/-- The zero record `free_message` leaves has no attempts. -/
theorem free (h : s.TimerUnsent) : (freeMessage i s).TimerUnsent := fun j hj => by
  by_cases hji : j = i
  · simp [hji, Message.zero]
  · simpa [hji] using h j hj

theorem delFromList (h : s.TimerUnsent) (q : Queue) : (OcppClient.delFromList i q s).TimerUnsent := by
  cases q
  case timer => exact fun j hj => h j (List.mem_of_mem_erase hj)
  all_goals exact h.congr rfl rfl

theorem addLastToList (h : s.TimerUnsent) (q : Queue) (hi : q = .timer → (s.pool i).attempts = 0) :
    (OcppClient.addLastToList i q s).TimerUnsent := by
  cases q
  case timer =>
    intro j hj
    rcases List.mem_append.1 hj with hj | hj
    exacts [h j hj, (List.mem_singleton.1 hj) ▸ hi rfl]
  all_goals exact h.congr rfl rfl

end Ocpp.TimerUnsent

section Deferred

variable {s : Ocpp N} {i : Fin N} (b : Build)

theorem sendMessage_timerUnsent (now sent : Int) (hW : s.WellFormed) (hi : i ∈ s.ready)
    (h : s.TimerUnsent) : (sendMessage b now sent i s).TimerUnsent := by
  have h' := h.setSlot (i := i) (m := sentRecord b now (s.pool i))
    fun ht => absurd ht (hW.ready_sole hi).2
  rw [sendMessage_eq]
  split
  · exact h'.congr rfl rfl
  · exact (h'.congr rfl rfl).free

theorem txTimeoutVisit_timerUnsent (now : Int) (h : s.TimerUnsent) :
    (txTimeoutVisit b now s i).TimerUnsent := by
  rw [txTimeoutVisit_eq]
  split
  · exact h
  · dsimp only
    split
    · exact (h.congr rfl rfl).free
    · exact h.congr rfl rfl

theorem processQueuedMessages_timerUnsent (now sent : Int) (hW : s.WellFormed)
    (h : s.TimerUnsent) : (processQueuedMessages b now sent s).1.TimerUnsent := by
  have h1 := processTxTimeout_induct _ b now h fun _ _ => txTimeoutVisit_timerUnsent b now
  exact processQueuedMessages_induct _ b now sent h1 fun _ _ hr _ =>
    sendMessage_timerUnsent b now sent (processTxTimeout_wellFormed b now hW) (by simp [hr]) h1

theorem processCentralResponse_timerUnsent (cfg : Configuration) (received : OcppMessage)
    (now : Int) (h : s.TimerUnsent) :
    (processCentralResponse b cfg received i now s).TimerUnsent := by
  rw [processCentralResponse_eq]
  split
  · exact (h.setSlot (i := i) (m := { s.pool i with expiry := getNextPeriod b cfg (s.pool i) now })
      fun ht => h i ht).congr rfl rfl
  · exact (h.congr rfl rfl).free

theorem processIncomingMessages_timerUnsent (env : Env) (h : s.TimerUnsent) :
    (processIncomingMessages b env s).1.TimerUnsent :=
  processIncomingMessages_induct _ b env h
    (fun _ => processReceived_induct _ b _ _ _ h fun _ _ _ =>
      (processCentralResponse_timerUnsent b _ _ _ h).congr rfl rfl)
    (fun _ _ _ ht => ht.congr rfl rfl) (fun _ ht => ht.congr rfl rfl)

theorem processPeriodicMessages_timerUnsent (cfg : Configuration) (now sent : Int)
    (generated : List Char) (hW : s.WellFormed) (h : s.TimerUnsent) :
    (processPeriodicMessages b cfg now sent generated s).1.TimerUnsent :=
  processPeriodicMessages_induct _ b cfg now sent generated h fun _ hf =>
    processQueuedMessages_timerUnsent b now sent
      (hW.create (firstFree_role hf) (by simp [newRecord]) (by simp [newRecord]) (q := .ready)
        (by decide))
      ((h.setSlot fun _ => newRecord_attempts ..).congr rfl rfl)

theorem processTimerMessages_timerUnsent (now : Int) (h : s.TimerUnsent) :
    (processTimerMessages now s).1.TimerUnsent := by
  rw [processTimerMessages_fst]
  exact fun j hj => h j (List.mem_of_mem_filter hj)

theorem pushMessage_timerUnsent (id : Option (List Char)) (generated : List Char)
    (type : MessageType) (payload : Payload) (timer : Int) (q : Queue) (err : Bool)
    (h : s.TimerUnsent) :
    (pushMessage id generated type payload timer (fun i s => addLastToList i q s) err s).1.TimerUnsent := by
  rw [pushMessage_eq]
  cases firstFree s with
  | none => exact h
  | some i =>
    have hnew : (pushedRecord id generated type payload timer err (s.pool i)).attempts = 0 :=
      newRecord_attempts ..
    exact (h.setSlot fun _ => hnew).addLastToList q fun _ => by simpa using hnew

theorem removeOldest_timerUnsent (h : s.TimerUnsent) : (removeOldest s).1.TimerUnsent := by
  rw [removeOldest_eq]
  split
  · exact h
  · exact (h.delFromList .ready).free

theorem ocppStep_timerUnsent (env : Env) (hW : s.WellFormed) (h : s.TimerUnsent) :
    (ocppStep b env s).1.TimerUnsent := by
  have h1 := processQueuedMessages_wellFormed b env.now env.sent hW
  rw [ocppStep_eq]
  exact processTimerMessages_timerUnsent env.now <|
    processPeriodicMessages_timerUnsent b _ _ _ _ (processIncomingMessages_wellFormed b env h1) <|
    processIncomingMessages_timerUnsent b env <| processQueuedMessages_timerUnsent b _ _ hW h

end Deferred

/-- At every reachable state, a message on Timer has not been sent: its attempt count is 0. -/
theorem reachable_timer_unsent {b : Build} {s : Ocpp N} (h : Reachable b s) (i : Fin N)
    (hi : i ∈ s.timer) : (s.pool i).attempts = 0 := by
  suffices key : s.WellFormed ∧ s.TimerUnsent from key.2 i hi
  clear hi
  induction h with
  | init now => exact ⟨ocppInit_wellFormed now, fun _ hj => by simp [ocppInit] at hj⟩
  | call c _ ih =>
    exact Call.exec_induct (fun s => s.WellFormed ∧ s.TimerUnsent) b
      (fun _ _ _ _ _ q _ _ hq h =>
        ⟨pushMessage_wellFormed _ _ _ _ _ _ hq h.1, pushMessage_timerUnsent _ _ _ _ _ q _ h.2⟩)
      (fun _ h => ⟨removeOldest_wellFormed h.1, removeOldest_timerUnsent h.2⟩)
      (fun env _ h => ⟨ocppStep_wellFormed b env h.1, ocppStep_timerUnsent b env h.1 h.2⟩) c ih

/-- A Heartbeat deferred by 5 s stays on Timer, unsent, while the step at time 0 sends the
    DataTransfer pushed after it. -/
theorem deferred_heartbeat_unsent :
    let s : Ocpp 2 := (ocppInit 0).run Build.default
      [.pushRequestDefer .heartbeat ⟨0, 0⟩ 5 0 ['1'], .pushRequest .dataTransfer ⟨0, 0⟩ false ['2'],
       .step (.make 0 0 none ⟨0, 3, 60⟩ [])]
    Reachable Build.default s ∧ s.wait = [1] ∧ 0 ∈ s.timer ∧ (s.pool 0).attempts = 0 := by
  intro s
  have hs : Reachable Build.default s := (Reachable.init 0).run _
  have hi : (0 : Fin 2) ∈ s.timer := by decide
  exact ⟨hs, by decide, hi, reachable_timer_unsent hs 0 hi⟩

end OcppClient
