import OcppClient.Proofs.Frame

set_option autoImplicit false

/-! # The slot discipline

At every public-API boundary a free slot (role `NONE`) is in none of Ready, Wait and
Timer, a live slot is a CALL, CALLRESULT or CALLERROR linked exactly once, and at most one
message waits for an answer. `Ocpp.WellFormed` states this through `Ocpp.links`, the number
of times a slot occurs in the three lists.

Every function of the engine changes the queues in one of three ways: it relinks a slot
from one list to another, unlinks a slot and frees it, or fills a free slot and links it.
Each shape preserves the discipline (`WellFormed.relink`, `.unlinkFree`, `.create`); the
per-function lemmas only say which shape applies. -/

namespace OcppClient

variable {N : Nat}

/-- How many times a slot occurs in Ready, Wait and Timer together. -/
def Ocpp.links (s : Ocpp N) (i : Fin N) : Nat :=
  s.ready.count i + s.wait.count i + s.timer.count i

/-- The slot discipline at a public-API boundary. -/
structure Ocpp.WellFormed (s : Ocpp N) : Prop where
  links_eq : ∀ i, s.links i = if (s.pool i).body.role = .none then 0 else 1
  role_ne_alloc : ∀ i, (s.pool i).body.role ≠ .alloc
  wait_length_le : s.wait.length ≤ 1

/-! ## Queue operations -/

theorem addLastToList_pool (i : Fin N) (q : Queue) (s : Ocpp N) :
    (addLastToList i q s).pool = s.pool := Ocpp.setQueue_pool ..

theorem delFromList_pool (i : Fin N) (q : Queue) (s : Ocpp N) :
    (delFromList i q s).pool = s.pool := Ocpp.setQueue_pool ..

theorem addLastToList_wait_of_ne (i : Fin N) {q : Queue} (s : Ocpp N) (hq : q ≠ .wait) :
    (addLastToList i q s).wait = s.wait := by
  cases q <;> simp_all

theorem delFromList_wait_length_le (i : Fin N) (q : Queue) (s : Ocpp N) :
    (delFromList i q s).wait.length ≤ s.wait.length := by
  cases q <;> simp [List.length_erase_le]

@[simp] theorem links_setSlot (s : Ocpp N) (i : Fin N) (m : Message) :
    (s.setSlot i m).links = s.links := rfl

@[simp] theorem links_freeMessage (i : Fin N) (s : Ocpp N) :
    (freeMessage i s).links = s.links := rfl

theorem links_addLastToList (i j : Fin N) (q : Queue) (s : Ocpp N) :
    (addLastToList i q s).links j = s.links j + if i = j then 1 else 0 := by
  cases q <;> simp [Ocpp.links, List.count_singleton'] <;> omega

/-- Erasing a member takes one occurrence off its count and leaves the other counts. -/
theorem count_erase_add {a : Fin N} {l : List (Fin N)} (h : a ∈ l) (b : Fin N) :
    (l.erase a).count b + (if a = b then 1 else 0) = l.count b := by
  by_cases hab : a = b
  · subst hab
    have := List.count_pos_iff.2 h
    rw [List.count_erase_self, if_pos rfl]
    omega
  · rw [List.count_erase_of_ne (Ne.symm hab), if_neg hab, Nat.add_zero]

theorem links_delFromList {i : Fin N} {q : Queue} {s : Ocpp N} (h : i ∈ s.queue q) (j : Fin N) :
    (delFromList i q s).links j + (if i = j then 1 else 0) = s.links j := by
  have := count_erase_add h j
  cases q <;> simp only [Ocpp.links, delFromList, listDel, Ocpp.queue_ready, Ocpp.queue_wait,
    Ocpp.queue_timer, Ocpp.setQueue_ready, Ocpp.setQueue_wait, Ocpp.setQueue_timer] at this ⊢ <;>
    omega

theorem links_pos_of_mem {i : Fin N} {q : Queue} {s : Ocpp N} (h : i ∈ s.queue q) :
    0 < s.links i := by
  have := List.count_pos_iff.mpr h
  cases q <;> simp only [Ocpp.queue_ready, Ocpp.queue_wait, Ocpp.queue_timer] at this <;>
    simp only [Ocpp.links] <;> omega

namespace Ocpp.WellFormed

variable {s t : Ocpp N} {i : Fin N}

theorem congr (h : s.WellFormed) (hp : t.pool = s.pool) (hr : t.ready = s.ready)
    (hw : t.wait = s.wait) (ht : t.timer = s.timer) : t.WellFormed where
  links_eq j := by rw [Ocpp.links, hp, hr, hw, ht]; exact h.links_eq j
  role_ne_alloc j := hp ▸ h.role_ne_alloc j
  wait_length_le := hw ▸ h.wait_length_le

/-- A linked slot is live. -/
theorem role_ne_none (h : s.WellFormed) {q : Queue} (hi : i ∈ s.queue q) :
    (s.pool i).body.role ≠ .none := by
  intro hn
  have := h.links_eq i
  rw [if_pos hn] at this
  exact absurd this (links_pos_of_mem hi).ne'

theorem links_eq_one (h : s.WellFormed) {q : Queue} (hi : i ∈ s.queue q) : s.links i = 1 := by
  rw [h.links_eq i, if_neg (h.role_ne_none hi)]

theorem setSlot (h : s.WellFormed) {m : Message} (hm : m.body.role = (s.pool i).body.role) :
    (s.setSlot i m).WellFormed where
  links_eq j := by
    by_cases hj : j = i
    · subst hj; simpa [hm] using h.links_eq j
    · simpa [hj] using h.links_eq j
  role_ne_alloc j := by
    by_cases hj : j = i
    · subst hj; simpa [hm] using h.role_ne_alloc j
    · simpa [hj] using h.role_ne_alloc j
  wait_length_le := h.wait_length_le

/-- Relinking a slot from one list to the tail of another. -/
theorem relink (h : s.WellFormed) {q r : Queue} (hi : i ∈ s.queue q)
    (hw : (addLastToList i r (delFromList i q s)).wait.length ≤ 1) :
    (addLastToList i r (delFromList i q s)).WellFormed where
  links_eq j := by
    rw [links_addLastToList, addLastToList_pool, delFromList_pool, ← h.links_eq j]
    exact links_delFromList hi j
  role_ne_alloc j := by
    rw [addLastToList_pool, delFromList_pool]
    exact h.role_ne_alloc j
  wait_length_le := hw

/-- Unlinking a slot and freeing it. -/
theorem unlinkFree (h : s.WellFormed) {q : Queue} (hi : i ∈ s.queue q) :
    (freeMessage i (delFromList i q s)).WellFormed where
  links_eq j := by
    have hdel := links_delFromList hi j
    rw [links_freeMessage, freeMessage_pool, delFromList_pool]
    by_cases hij : j = i
    · subst hij
      have := h.links_eq_one hi
      have hz : Message.zero.body.role = .none := rfl
      rw [if_pos rfl] at hdel
      rw [if_pos rfl, if_pos hz]
      omega
    · rw [if_neg hij, ← h.links_eq j, ← hdel, if_neg (Ne.symm hij), Nat.add_zero]
  role_ne_alloc j := by
    rw [freeMessage_pool, delFromList_pool]
    split
    · simp [Message.zero]
    · exact h.role_ne_alloc j
  wait_length_le := Nat.le_trans (delFromList_wait_length_le i q s) h.wait_length_le

/-- Filling a free slot and linking it into Ready or Timer. -/
theorem create (h : s.WellFormed) (hfree : (s.pool i).body.role = .none) {m : Message}
    (hm : m.body.role ≠ .none) (hm' : m.body.role ≠ .alloc) {q : Queue} (hq : q ≠ .wait) :
    (addLastToList i q (s.setSlot i m)).WellFormed where
  links_eq j := by
    have hj := h.links_eq j
    rw [links_addLastToList, links_setSlot, addLastToList_pool, Ocpp.setSlot_pool]
    by_cases hij : j = i
    · subst hij; simp_all
    · simp_all [Ne.symm hij]
  role_ne_alloc j := by
    rw [addLastToList_pool, Ocpp.setSlot_pool]
    split
    · exact hm'
    · exact h.role_ne_alloc j
  wait_length_le := by
    rw [addLastToList_wait_of_ne i _ hq]
    exact h.wait_length_le

end Ocpp.WellFormed

/-! ## Every function keeps the discipline -/

section Preservation

variable {s : Ocpp N} {i : Fin N} (b : Build)

theorem sendMessage_wellFormed (now sent : Int) (h : s.WellFormed) (hi : i ∈ s.ready)
    (hw : s.wait = []) : (sendMessage b now sent i s).WellFormed := by
  have h' := h.setSlot (i := i) (m := sentRecord b now (s.pool i)) rfl
  rw [sendMessage_eq]
  split
  · exact (h'.relink (q := .ready) (r := .wait) hi (by simp [hw])).congr rfl rfl rfl rfl
  · exact (h'.unlinkFree (q := .ready) hi).congr rfl rfl rfl rfl

theorem txTimeoutVisit_wellFormed (now : Int) (h : s.WellFormed) (hi : i ∈ s.wait) :
    (txTimeoutVisit b now s i).WellFormed := by
  have hw : (s.wait.erase i).length ≤ 1 :=
    Nat.le_trans (List.length_erase_le _ _) h.wait_length_le
  rw [txTimeoutVisit_eq]
  split
  · exact h
  · dsimp only
    split
    · exact h.unlinkFree (q := .wait) hi
    · exact (h.relink (q := .wait) (r := .ready) hi (by simpa using hw)).congr rfl rfl rfl rfl

theorem processTxTimeout_wellFormed (now : Int) (h : s.WellFormed) :
    (processTxTimeout b now s).WellFormed := by
  have hl := h.wait_length_le
  rcases hw : s.wait with _ | ⟨i, _ | ⟨j, l⟩⟩
  · rwa [processTxTimeout_of_wait_nil b now hw]
  · rw [processTxTimeout_of_wait_single b now hw]
    exact txTimeoutVisit_wellFormed b now h (by simp [hw])
  · simp [hw] at hl

theorem processQueuedMessages_wellFormed (now sent : Int) (h : s.WellFormed) :
    (processQueuedMessages b now sent s).1.WellFormed := by
  have h1 := processTxTimeout_wellFormed b now h
  exact processQueuedMessages_induct _ b now sent h1 fun i l hr hw =>
    sendMessage_wellFormed b now sent h1 (by simp [hr]) hw

theorem processCentralResponse_wellFormed (cfg : Configuration) (received : OcppMessage)
    (now : Int) (h : s.WellFormed) (hi : i ∈ s.wait) :
    (processCentralResponse b cfg received i now s).WellFormed := by
  rw [processCentralResponse_eq]
  split
  · have hw : (s.wait.erase i ++ [i]).length ≤ 1 := by
      have := h.wait_length_le
      simp [List.length_erase_of_mem hi]
      omega
    exact ((h.setSlot (i := i) (m := { s.pool i with expiry := getNextPeriod b cfg (s.pool i) now })
      rfl).relink (q := .wait) (r := .wait) hi (by simpa using hw)).congr rfl rfl rfl rfl
  · exact h.unlinkFree (q := .wait) hi

theorem processIncomingMessages_wellFormed (env : Env) (h : s.WellFormed) :
    (processIncomingMessages b env s).1.WellFormed :=
  processIncomingMessages_induct _ b env h
    (fun _ => processReceived_induct _ b _ _ _ h fun _ hreq _ =>
      (processCentralResponse_wellFormed b _ _ _ h (List.mem_of_find?_eq_some hreq)).congr
        rfl rfl rfl rfl)
    (fun _ _ _ ht => ht.congr rfl rfl rfl rfl) (fun _ ht => ht.congr rfl rfl rfl rfl)

theorem processPeriodicMessages_wellFormed (cfg : Configuration) (now sent : Int)
    (generated : List Char) (h : s.WellFormed) :
    (processPeriodicMessages b cfg now sent generated s).1.WellFormed :=
  processPeriodicMessages_induct _ b cfg now sent generated h fun _ hf =>
    processQueuedMessages_wellFormed b now sent
      (h.create (firstFree_role hf) (by simp [newRecord]) (by simp [newRecord]) (q := .ready)
        (by decide))

theorem processTimerMessages_wellFormed (now : Int) (h : s.WellFormed) :
    (processTimerMessages now s).1.WellFormed := by
  rw [processTimerMessages_fst]
  refine ⟨fun j => ?_, h.role_ne_alloc, h.wait_length_le⟩
  have hperm := (List.filter_append_perm (fun i => decide (now < (s.pool i).expiry)) s.timer).count_eq j
  simp only [List.count_append, decide_not] at hperm
  rw [← h.links_eq j, Ocpp.links, Ocpp.links]
  simp only [List.count_append, decide_not]
  omega

/-- A pushed record is live. -/
theorem pushedRecord_role_live (id : Option (List Char)) (generated : List Char)
    (type : MessageType) (payload : Payload) (timer : Int) (err : Bool) (old : Message) :
    (pushedRecord id generated type payload timer err old).body.role ≠ .none ∧
      (pushedRecord id generated type payload timer err old).body.role ≠ .alloc := by
  rcases newRecord_role id generated type err old with h | h | h <;> simp [pushedRecord, h]

theorem pushMessage_wellFormed (id : Option (List Char)) (generated : List Char)
    (type : MessageType) (payload : Payload) (timer : Int) (err : Bool) {q : Queue}
    (hq : q ≠ .wait) (h : s.WellFormed) :
    (pushMessage id generated type payload timer (fun i s => addLastToList i q s) err s).1.WellFormed := by
  rw [pushMessage_eq]
  cases hf : firstFree s with
  | none => exact h
  | some i =>
    have hr := pushedRecord_role_live id generated type payload timer err (s.pool i)
    exact h.create (firstFree_role hf) hr.1 hr.2 hq

theorem removeOldest_wellFormed (h : s.WellFormed) : (removeOldest s).1.WellFormed := by
  rw [removeOldest_eq]
  split
  · exact h
  · rename_i i hi
    exact h.unlinkFree (q := .ready) (List.mem_of_find?_eq_some hi)

theorem ocppStep_wellFormed (env : Env) (h : s.WellFormed) : (ocppStep b env s).1.WellFormed := by
  rw [ocppStep_eq]
  exact processTimerMessages_wellFormed env.now <| processPeriodicMessages_wellFormed b _ _ _ _ <|
    processIncomingMessages_wellFormed b env <| processQueuedMessages_wellFormed b _ _ h

theorem Call.exec_wellFormed (c : Call) (h : s.WellFormed) : (c.exec b s).1.WellFormed :=
  Call.exec_induct _ b (fun _ _ _ _ _ _ _ _ hq h => pushMessage_wellFormed _ _ _ _ _ _ hq h)
    (fun _ => removeOldest_wellFormed) (fun env _ => ocppStep_wellFormed b env) c h

end Preservation

theorem ocppInit_wellFormed (now : Int) : (ocppInit now : Ocpp N).WellFormed where
  links_eq _ := by simp [ocppInit, Ocpp.links, Message.zero]
  role_ne_alloc _ := by simp [ocppInit, Message.zero]
  wait_length_le := by simp [ocppInit]

theorem Reachable.wellFormed {b : Build} {s : Ocpp N} (h : Reachable b s) : s.WellFormed := by
  induction h with
  | init now => exact ocppInit_wellFormed now
  | call c _ ih => exact Call.exec_wellFormed b c ih

/-! ## Free slots are cleared

`ocpp_init` and `free_message` `memset` a slot to zero, and every other write to the pool
stores a CALL, CALLRESULT or CALLERROR. So a free slot holds the zero record, and the record
`new_message` builds in it keeps nothing of an earlier message but what it overwrites. -/

/-- Every free slot holds the zero record. -/
def Ocpp.FreeZero (s : Ocpp N) : Prop := ∀ i, (s.pool i).body.role = .none → s.pool i = .zero

namespace Ocpp.FreeZero

variable {s t : Ocpp N} {i : Fin N}

theorem congr (h : s.FreeZero) (hp : t.pool = s.pool) : t.FreeZero := by
  rw [Ocpp.FreeZero, hp]
  exact h

theorem setSlot (h : s.FreeZero) {m : Message} (hm : m.body.role ≠ .none) :
    (s.setSlot i m).FreeZero := by
  intro j hj
  by_cases hji : j = i
  · subst hji
    simp only [Ocpp.setSlot_pool, if_true] at hj
    exact absurd hj hm
  · simp only [Ocpp.setSlot_pool, if_neg hji] at hj ⊢
    exact h j hj

theorem free (h : s.FreeZero) : (freeMessage i s).FreeZero := by
  intro j
  rw [freeMessage_pool]
  split
  · exact fun _ => rfl
  · exact h j

end Ocpp.FreeZero

section Cleared

variable {s : Ocpp N} {i : Fin N} (b : Build)

theorem sendMessage_freeZero (now sent : Int) (hW : s.WellFormed) (hi : i ∈ s.ready)
    (h : s.FreeZero) : (sendMessage b now sent i s).FreeZero := by
  have h' := h.setSlot (i := i) (m := sentRecord b now (s.pool i)) (hW.role_ne_none (q := .ready) hi)
  rw [sendMessage_eq]
  split
  · exact h'.congr rfl
  · exact (h'.congr rfl).free

theorem txTimeoutVisit_freeZero (now : Int) (h : s.FreeZero) :
    (txTimeoutVisit b now s i).FreeZero := by
  rw [txTimeoutVisit_eq]
  split
  · exact h
  · dsimp only
    split
    · exact (h.congr rfl).free
    · exact h.congr rfl

theorem processQueuedMessages_freeZero (now sent : Int) (hW : s.WellFormed) (h : s.FreeZero) :
    (processQueuedMessages b now sent s).1.FreeZero := by
  have h1 := processTxTimeout_induct _ b now h fun _ _ => txTimeoutVisit_freeZero b now
  exact processQueuedMessages_induct _ b now sent h1 fun _ _ hr hw =>
    sendMessage_freeZero b now sent (processTxTimeout_wellFormed b now hW) (by simp [hr]) h1

theorem processCentralResponse_freeZero (cfg : Configuration) (received : OcppMessage)
    (now : Int) (hW : s.WellFormed) (hi : i ∈ s.wait) (h : s.FreeZero) :
    (processCentralResponse b cfg received i now s).FreeZero := by
  rw [processCentralResponse_eq]
  split
  · exact h.setSlot (hW.role_ne_none (q := .wait) hi)
  · exact (h.congr rfl).free

theorem processIncomingMessages_freeZero (env : Env) (hW : s.WellFormed) (h : s.FreeZero) :
    (processIncomingMessages b env s).1.FreeZero :=
  processIncomingMessages_induct _ b env h
    (fun _ => processReceived_induct _ b _ _ _ h fun _ hreq _ =>
      processCentralResponse_freeZero b _ _ _ hW (List.mem_of_find?_eq_some hreq) h)
    (fun _ _ _ ht => ht.congr rfl) (fun _ ht => ht.congr rfl)

theorem processPeriodicMessages_freeZero (cfg : Configuration) (now sent : Int)
    (generated : List Char) (hW : s.WellFormed) (h : s.FreeZero) :
    (processPeriodicMessages b cfg now sent generated s).1.FreeZero :=
  processPeriodicMessages_induct _ b cfg now sent generated h fun _ hf =>
    processQueuedMessages_freeZero b now sent
      (hW.create (firstFree_role hf) (by simp [newRecord]) (by simp [newRecord]) (q := .ready)
        (by decide))
      ((h.setSlot (by simp [newRecord])).congr rfl)

theorem pushMessage_freeZero (id : Option (List Char)) (generated : List Char)
    (type : MessageType) (payload : Payload) (timer : Int) (err : Bool) (q : Queue)
    (h : s.FreeZero) :
    (pushMessage id generated type payload timer (fun i s => addLastToList i q s) err s).1.FreeZero := by
  rw [pushMessage_eq]
  cases firstFree s with
  | none => exact h
  | some i => exact (h.setSlot (pushedRecord_role_live _ _ _ _ _ _ _).1).congr (addLastToList_pool ..)

theorem removeOldest_freeZero (h : s.FreeZero) : (removeOldest s).1.FreeZero := by
  rw [removeOldest_eq]
  split
  · exact h
  · exact (h.congr rfl).free

theorem ocppStep_freeZero (env : Env) (hW : s.WellFormed) (h : s.FreeZero) :
    (ocppStep b env s).1.FreeZero := by
  have h1 := processQueuedMessages_wellFormed b env.now env.sent hW
  have h2 := processIncomingMessages_wellFormed b env h1
  rw [ocppStep_eq]
  refine Ocpp.FreeZero.congr ?_ (by rw [processTimerMessages_fst])
  exact processPeriodicMessages_freeZero b _ _ _ _ h2 <| processIncomingMessages_freeZero b env h1 <|
    processQueuedMessages_freeZero b _ _ hW h

end Cleared

/-- At every reachable state a free slot holds the zero record. -/
theorem reachable_free_slots_cleared {b : Build} {s : Ocpp N} (h : Reachable b s) (i : Fin N)
    (hi : (s.pool i).body.role = .none) : s.pool i = .zero := by
  suffices key : s.WellFormed ∧ s.FreeZero from key.2 i hi
  clear hi
  induction h with
  | init now => exact ⟨ocppInit_wellFormed now, fun _ _ => rfl⟩
  | call c _ ih =>
    exact Call.exec_induct (fun s => s.WellFormed ∧ s.FreeZero) b
      (fun _ _ _ _ _ q _ _ hq h =>
        ⟨pushMessage_wellFormed _ _ _ _ _ _ hq h.1, pushMessage_freeZero _ _ _ _ _ _ q h.2⟩)
      (fun _ h => ⟨removeOldest_wellFormed h.1, removeOldest_freeZero h.2⟩)
      (fun env _ h => ⟨ocppStep_wellFormed b env h.1, ocppStep_freeZero b env h.1 h.2⟩) c ih

/-- The answer to a server's CALL is sent and freed in one step: its slot is clear again. -/
theorem free_slot_cleared_after_send :
    let s : Ocpp 1 := (ocppInit 0).run Build.default
      [.pushResponse ⟨['7'], .call, .heartbeat, ⟨0, 0⟩⟩ ⟨0, 0⟩ false,
       .step (.make 0 0 none ⟨0, 3, 60⟩ [])]
    Output.send 0 ⟨⟨['7'], .callResult, .heartbeat, ⟨0, 0⟩⟩, 10, 1⟩ [] ∈ s.log ∧
      (s.pool 0).body.role = .none ∧ s.pool 0 = .zero := by
  intro s
  have hi : (s.pool 0).body.role = .none := by decide
  exact ⟨by decide, hi, reachable_free_slots_cleared ((Reachable.init 0).run _) 0 hi⟩

end OcppClient
