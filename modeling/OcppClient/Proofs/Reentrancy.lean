import OcppClient.Reentrant
import OcppClient.Proofs.Push
import OcppClient.Proofs.Serial

set_option autoImplicit false

/-! # The engine's discipline under every interleaving

While its lock is released the engine is suspended in one of its functions, and public
pushes run. `Ocpp.Sound s pend created` is what holds whenever no engine code is running:
between public calls, and at every release point. `pend` lists the slots whose
`free_message` is suspended in its callback: each is on no list and still holds its message,
and is the only kind of slot that may be live and unlinked. The other slots keep the slot
discipline, every send of the log found Wait empty, and pending messages plus `MESSAGE_FREE`
events count the messages created.

`Ocpp.Follows` says how pushes made at a release point may change the engine: they keep the
invariant, whatever slots are being freed, and touch neither those slots nor Wait and the
message in flight. Every run of pushes does (`PushRun.follows`), nested evictions included,
and each function of the engine keeps the invariant whatever callout runs at its release
points, provided the callout's answers follow. So every state a run reaches between public
calls, under every interleaving, keeps the slot discipline, the serialization of sends, and
the pool's accounting. -/

namespace OcppClient

variable {N : Nat}

/-! ## The invariant -/

/-- The engine's invariant whenever no engine code is running, with `pend` the slots being
    freed and `created` the messages created so far. -/
structure Ocpp.Sound (s : Ocpp N) (pend : List (Fin N)) (created : Nat) : Prop where
  /-- A slot in use and not being freed is on exactly one list; any other slot is on none. -/
  links_eq : ∀ i, s.links i = if (s.pool i).body.role = .none ∨ i ∈ pend then 0 else 1
  /-- A slot being freed still holds its message. -/
  pend_live : ∀ i ∈ pend, (s.pool i).body.role ≠ .none
  /-- No slot is left between `alloc_message` and `new_message`. -/
  role_ne_alloc : ∀ i, (s.pool i).body.role ≠ .alloc
  /-- At most one CALL is in flight. -/
  wait_length_le : s.wait.length ≤ 1
  /-- Every `ocpp_send` so far found Wait empty. -/
  sendsIdle : s.SendsIdle
  /-- Pending messages plus `MESSAGE_FREE` events are the messages created. -/
  ledger_eq : s.ledger = created

@[simp] theorem dispatchEvent_pool (kind : Int) (msg : OcppMessage) (slot : Option (Fin N))
    (s : Ocpp N) : (dispatchEvent kind msg slot s).pool = s.pool := rfl

theorem ledger_dispatchEvent_free {s : Ocpp N} (msg : OcppMessage) (slot : Option (Fin N)) :
    (dispatchEvent OCPP_EVENT_MESSAGE_FREE msg slot s).ledger = s.ledger + 1 := by
  simp [Ocpp.ledger, freeEvents, Output.isFree, ocppCountPendingRequests, Nat.add_assoc]

namespace Ocpp.Sound

variable {s t : Ocpp N} {pend : List (Fin N)} {c : Nat} {i : Fin N}

/-- A linked slot is live and not being freed. -/
theorem not_pend (h : s.Sound pend c) {q : Queue} (hi : i ∈ s.queue q) :
    (s.pool i).body.role ≠ .none ∧ i ∉ pend := by
  have hl := h.links_eq i
  have hpos := links_pos_of_mem hi
  split at hl
  · omega
  · exact not_or.1 ‹_›

theorem congr (h : s.Sound pend c) (hp : t.pool = s.pool) (hr : t.ready = s.ready)
    (hw : t.wait = s.wait) (ht : t.timer = s.timer) (hl : t.log = s.log) : t.Sound pend c where
  links_eq j := by rw [Ocpp.links, hp, hr, hw, ht]; exact h.links_eq j
  pend_live j hj := hp ▸ h.pend_live j hj
  role_ne_alloc j := hp ▸ h.role_ne_alloc j
  wait_length_le := hw ▸ h.wait_length_le
  sendsIdle := h.sendsIdle.same hl
  ledger_eq := by
    rw [← h.ledger_eq]
    simp only [Ocpp.ledger, ocppCountPendingRequests, countMessagesReady, countMessagesWaiting,
      countMessagesTicking, hr, hw, ht, hl]

/-- Rewriting a slot's record under its role. -/
theorem setSlot (h : s.Sound pend c) {m : Message} (hm : m.body.role = (s.pool i).body.role) :
    (s.setSlot i m).Sound pend c where
  links_eq j := by
    by_cases hj : j = i
    · subst hj; simpa [hm] using h.links_eq j
    · simpa [hj] using h.links_eq j
  pend_live j hj := by
    by_cases hji : j = i
    · subst hji; simpa [hm] using h.pend_live j hj
    · simpa [hji] using h.pend_live j hj
  role_ne_alloc j := by
    by_cases hj : j = i
    · subst hj; simpa [hm] using h.role_ne_alloc j
    · simpa [hj] using h.role_ne_alloc j
  wait_length_le := h.wait_length_le
  sendsIdle := h.sendsIdle.same rfl
  ledger_eq := h.ledger_eq

/-- Unlinking a slot on its way to `free_message` makes it a slot being freed, one message
    short of the ledger until its `MESSAGE_FREE`. -/
theorem unlink (h : s.Sound pend c) {q : Queue} (hi : i ∈ s.queue q) :
    ∃ c', c = c' + 1 ∧ (delFromList i q s).Sound (i :: pend) c' := by
  obtain ⟨hlive, hnp⟩ := h.not_pend hi
  refine ⟨(delFromList i q s).ledger, ?_, ⟨fun j => ?_, fun j hj => ?_, fun j => ?_, ?_, ?_, rfl⟩⟩
  · rw [← h.ledger_eq, ledger_delFromList hi]
  · have hdel := links_delFromList hi j
    have hj := h.links_eq j
    rw [delFromList_pool]
    by_cases hji : j = i
    · subst hji
      rw [if_neg (not_or.2 ⟨hlive, hnp⟩)] at hj
      simp only [List.mem_cons_self, or_true, if_true] at hdel ⊢
      omega
    · simp only [List.mem_cons, hji, false_or]
      rw [← hj, ← hdel, if_neg (Ne.symm hji), Nat.add_zero]
  · rw [delFromList_pool]
    rcases List.mem_cons.1 hj with rfl | hj
    exacts [hlive, h.pend_live j hj]
  · rw [delFromList_pool]; exact h.role_ne_alloc j
  · exact Nat.le_trans (delFromList_wait_length_le i q s) h.wait_length_le
  · exact h.sendsIdle.same (Ocpp.setQueue_log ..)

/-- Linking back a slot that was on its way out, as `send_message` and
    `process_central_response` do with a message they keep. -/
theorem link (h : s.Sound (i :: pend) c) (hnp : i ∉ pend) {q : Queue}
    (hw : (addLastToList i q s).wait.length ≤ 1) : (addLastToList i q s).Sound pend (c + 1) where
  links_eq j := by
    have hj := h.links_eq j
    rw [links_addLastToList, addLastToList_pool]
    by_cases hji : j = i
    · subst hji
      rw [if_pos (Or.inr (List.mem_cons_self _ _))] at hj
      rw [hj, if_pos rfl, if_neg (not_or.2 ⟨h.pend_live j (List.mem_cons_self _ _), hnp⟩)]
    · simp only [List.mem_cons, hji, false_or] at hj
      rw [hj, if_neg (Ne.symm hji), Nat.add_zero]
  pend_live j hj := by rw [addLastToList_pool]; exact h.pend_live j (List.mem_cons_of_mem _ hj)
  role_ne_alloc j := by rw [addLastToList_pool]; exact h.role_ne_alloc j
  wait_length_le := hw
  sendsIdle := h.sendsIdle.same (Ocpp.setQueue_log ..)
  ledger_eq := by rw [ledger_addLastToList, h.ledger_eq]

/-- `dispatch_event(OCPP_EVENT_MESSAGE_FREE, ...)` for a slot being freed closes its ledger
    entry. -/
theorem announce (h : s.Sound (i :: pend) c) (msg : OcppMessage) :
    (dispatchEvent OCPP_EVENT_MESSAGE_FREE msg (some i) s).Sound (i :: pend) (c + 1) where
  links_eq := h.links_eq
  pend_live := h.pend_live
  role_ne_alloc := h.role_ne_alloc
  wait_length_le := h.wait_length_le
  sendsIdle := h.sendsIdle.of_events rfl (by simp)
  ledger_eq := by rw [ledger_dispatchEvent_free, h.ledger_eq]

/-- An event about a received frame, which points into no slot. -/
theorem dispatch (h : s.Sound pend c) {kind : Int} (hk : kind ≤ 0) (msg : OcppMessage) :
    (dispatchEvent kind msg none s).Sound pend c where
  links_eq := h.links_eq
  pend_live := h.pend_live
  role_ne_alloc := h.role_ne_alloc
  wait_length_le := h.wait_length_le
  sendsIdle := h.sendsIdle.of_events rfl (by simp)
  ledger_eq := by rw [ledger_dispatchEvent _ _ hk, h.ledger_eq]

/-- The `memset` that ends `free_message`. -/
theorem clear (h : s.Sound (i :: pend) c) (hnp : i ∉ pend) : (s.setSlot i .zero).Sound pend c where
  links_eq j := by
    have hj := h.links_eq j
    by_cases hji : j = i
    · subst hji
      rw [if_pos (Or.inr (List.mem_cons_self _ _))] at hj
      simpa [Message.zero] using hj
    · simpa [hji] using hj
  pend_live j hj := by
    have hji : j ≠ i := fun e => hnp (e ▸ hj)
    simpa [hji] using h.pend_live j (List.mem_cons_of_mem _ hj)
  role_ne_alloc j := by
    by_cases hji : j = i
    · simp [hji, Message.zero]
    · simpa [hji] using h.role_ne_alloc j
  wait_length_le := h.wait_length_le
  sendsIdle := h.sendsIdle.same rfl
  ledger_eq := h.ledger_eq

/-- `ocpp_send` made while Wait is empty. -/
theorem send (h : s.Sound pend c) (hw : s.wait = []) : (ocppSend i s).Sound pend c where
  links_eq := h.links_eq
  pend_live := h.pend_live
  role_ne_alloc := h.role_ne_alloc
  wait_length_le := h.wait_length_le
  sendsIdle := h.sendsIdle.of_log rfl (by simp [hw])
  ledger_eq := by rw [ledger_ocppSend, h.ledger_eq]

/-- Filling a free slot and linking it into Ready or Timer creates one message. -/
theorem create (h : s.Sound pend c) {k : Fin N} (hk : (s.pool k).body.role = .none)
    {m : Message} (hm : m.body.role ≠ .none) (hm' : m.body.role ≠ .alloc) {q : Queue}
    (hq : q ≠ .wait) :
    (addLastToList k q (s.setSlot k m)).Sound pend (c + 1) ∧
      ∀ j ∈ pend, (addLastToList k q (s.setSlot k m)).pool j = s.pool j := by
  have hkp : k ∉ pend := fun hkp => h.pend_live k hkp hk
  refine ⟨⟨fun j => ?_, fun j hj => ?_, fun j => ?_, ?_, ?_, ?_⟩, fun j hj => ?_⟩
  · have hj := h.links_eq j
    rw [links_addLastToList, links_setSlot, addLastToList_pool, Ocpp.setSlot_pool]
    by_cases hjk : j = k
    · subst hjk
      rw [if_pos (Or.inl hk)] at hj
      rw [hj, if_pos rfl, if_pos rfl, if_neg (not_or.2 ⟨hm, hkp⟩)]
    · rw [hj, if_neg hjk, if_neg (Ne.symm hjk), Nat.add_zero]
  · have hjk : j ≠ k := fun e => hkp (e ▸ hj)
    rw [addLastToList_pool, Ocpp.setSlot_pool, if_neg hjk]
    exact h.pend_live j hj
  · rw [addLastToList_pool, Ocpp.setSlot_pool]
    split
    exacts [hm', h.role_ne_alloc j]
  · rw [addLastToList_wait_of_ne k _ hq]; exact h.wait_length_le
  · exact h.sendsIdle.same (Ocpp.setQueue_log ..)
  · rw [ledger_addLastToList, ledger_setSlot, h.ledger_eq]
  · have hjk : j ≠ k := fun e => hkp (e ▸ hj)
    rw [addLastToList_pool, Ocpp.setSlot_pool, if_neg hjk]

/-- A message in flight is live, on Wait alone, and not being freed. -/
theorem waiting (h : s.Sound pend c) (hi : i ∈ s.wait) :
    (s.pool i).body.role ≠ .none ∧ i ∉ pend ∧ i ∉ s.ready := by
  have hl := h.links_eq i
  have hw := List.count_pos_iff.2 hi
  simp only [Ocpp.links] at hl
  split at hl
  · omega
  · obtain ⟨hlive, hnp⟩ := not_or.1 ‹_›
    exact ⟨hlive, hnp, fun hr => by have := List.count_pos_iff.2 hr; omega⟩

end Ocpp.Sound

/-! ## What pushes at a release point may change -/

/-- `t` has the Wait list of `s`, and the records of the messages on it. -/
def Ocpp.KeepsWait (s t : Ocpp N) : Prop := t.wait = s.wait ∧ ∀ j ∈ s.wait, t.pool j = s.pool j

theorem Ocpp.KeepsWait.trans {s t u : Ocpp N} (h1 : s.KeepsWait t) (h2 : t.KeepsWait u) :
    s.KeepsWait u :=
  ⟨h2.1.trans h1.1, fun j hj => (h2.2 j (h1.1 ▸ hj)).trans (h1.2 j hj)⟩

/-- How pushes made at a release point may change the engine from `s` to `t`, creating `k`
    messages: whatever slots are being freed, the invariant is kept, those slots hold their
    records, and Wait and the records on it are as they were. -/
def Ocpp.Follows (s t : Ocpp N) (k : Nat) : Prop :=
  ∀ (pend : List (Fin N)) (c : Nat), s.Sound pend c →
    t.Sound pend (c + k) ∧ (∀ j ∈ pend, t.pool j = s.pool j) ∧ s.KeepsWait t

/-- A callout whose every answer follows the state it was called in. -/
def Callout.Keeps (co : Callout N) : Prop := ∀ t : Ocpp N, t.Follows (co t).1 (co t).2

namespace Ocpp.Follows

variable {s t u : Ocpp N} {k m : Nat}

theorem refl (s : Ocpp N) : s.Follows s 0 := fun _ _ h => ⟨h, fun _ _ => rfl, rfl, fun _ _ => rfl⟩

theorem trans (h1 : s.Follows t k) (h2 : t.Follows u m) : s.Follows u (k + m) := fun _ _ h => by
  obtain ⟨ht, hpt, hwt⟩ := h1 _ _ h
  obtain ⟨hu, hpu, hwu⟩ := h2 _ _ ht
  exact ⟨by rwa [← Nat.add_assoc], fun j hj => (hpu j hj).trans (hpt j hj), hwt.trans hwu⟩

/-- A push into Ready or Timer takes a free slot, never one being freed or on Wait, and
    creates one message, or fails and changes nothing. -/
theorem pushMessage (id : Option (List Char)) (generated : List Char) (type : MessageType)
    (payload : Payload) (timer : Int) {q : Queue} (hq : q ≠ .wait)
    {f : Fin N → Ocpp N → Ocpp N} (hf : f = fun i s => addLastToList i q s) (err : Bool) :
    s.Follows (OcppClient.pushMessage id generated type payload timer f err s).1
      (pushed (OcppClient.pushMessage id generated type payload timer f err s)) := fun _ _ h => by
  subst hf
  rw [pushMessage_eq]
  cases hf : firstFree s with
  | none => exact ⟨by simpa [pushed, ENOMEM] using h, fun _ _ => rfl, rfl, fun _ _ => rfl⟩
  | some k =>
    have hl := pushedRecord_role_live id generated type payload timer err (s.pool k)
    obtain ⟨hs, hp⟩ := h.create (firstFree_role hf) hl.1 hl.2 hq
    refine ⟨by simpa [pushed] using hs, hp, addLastToList_wait_of_ne k _ hq, fun j hj => ?_⟩
    have hjk : j ≠ k := fun e => (h.waiting hj).1 (e ▸ firstFree_role hf)
    rw [addLastToList_pool, Ocpp.setSlot_pool, if_neg hjk]

theorem ocppPushRequestDefer (type : MessageType) (payload : Payload) (timerSec : UInt32)
    (now : Int) (generated : List Char) :
    s.Follows (OcppClient.ocppPushRequestDefer type payload timerSec now generated s).1
      (pushed (OcppClient.ocppPushRequestDefer type payload timerSec now generated s)) := by
  unfold OcppClient.ocppPushRequestDefer
  dsimp only
  split
  · exact .pushMessage none generated type payload _ (q := .ready) (by decide) (f := putMsgReady)
      rfl false
  · exact .pushMessage none generated type payload _ (q := .timer) (by decide) (f := putMsgTimer)
      rfl false

theorem ocppPushResponse (req : OcppMessage) (payload : Payload) (err : Bool) :
    s.Follows (OcppClient.ocppPushResponse req payload err s).1
      (pushed (OcppClient.ocppPushResponse req payload err s)) :=
  .pushMessage (some req.id) [] req.type payload 0 (q := .ready) (by decide) (f := putMsgReady)
    rfl err

end Ocpp.Follows

/-- A suspended `free_message` of a slot already unlinked: after `MESSAGE_FREE`, the
    callout's pushes and the `memset`, the invariant holds with the slot free, the other
    slots being freed are untouched, and so is Wait if the slot was not on it. -/
theorem Ocpp.Sound.freeMessage {s : Ocpp N} {pend : List (Fin N)} {c : Nat} {i : Fin N}
    {co : Callout N} (hco : co.Keeps) (h : s.Sound (i :: pend) c) (hnp : i ∉ pend) :
    (Reentrant.freeMessage co i s).1.Sound pend (c + 1 + (Reentrant.freeMessage co i s).2) ∧
      (∀ j ∈ pend, (Reentrant.freeMessage co i s).1.pool j = s.pool j) ∧
      (i ∉ s.wait → s.KeepsWait (Reentrant.freeMessage co i s).1) := by
  obtain ⟨hv, hpv, hwv⟩ := hco _ _ _ (h.announce (s.pool i).body)
  refine ⟨hv.clear hnp, fun j hj => ?_, fun hiw => ⟨hwv.1, fun j hj => ?_⟩⟩
  · have hji : j ≠ i := fun e => hnp (e ▸ hj)
    rw [Reentrant.freeMessage, Ocpp.setSlot_pool, if_neg hji, hpv j (List.mem_cons_of_mem _ hj)]
    rfl
  · have hji : j ≠ i := fun e => hiw (e ▸ hj)
    rw [Reentrant.freeMessage, Ocpp.setSlot_pool, if_neg hji, hwv.2 j hj]
    rfl

/-- `remove_oldest` unlinks the first evictable Ready entry and frees it. -/
theorem Ocpp.Follows.removeOldest {co : Callout N} (hco : co.Keeps) (s : Ocpp N) :
    s.Follows (Reentrant.removeOldest co s).1.1 (Reentrant.removeOldest co s).2 := by
  unfold Reentrant.removeOldest
  cases hj : s.ready.find? (fun i => !isEvictionProtected (s.pool i).body.type) with
  | none => exact .refl s
  | some j =>
    intro pend c h
    have hjr : j ∈ s.queue .ready := List.mem_of_find?_eq_some hj
    have hjp := (h.not_pend hjr).2
    have hjw : j ∉ s.wait := fun hw => (h.waiting hw).2.2 hjr
    obtain ⟨c', rfl, hu⟩ := h.unlink hjr
    obtain ⟨hf, hpf, hwf⟩ := hu.freeMessage hco hjp
    exact ⟨hf, hpf, hwf hjw⟩

/-- `ocpp_push_request`: a push, or, when it fails with `force`, an eviction and a second
    push. -/
theorem Ocpp.Follows.ocppPushRequest {co : Callout N} (hco : co.Keeps) (type : MessageType)
    (payload : Payload) (force : Bool) (generated : List Char) (s : Ocpp N) :
    s.Follows (Reentrant.ocppPushRequest co type payload force generated s).1.1
      (Reentrant.ocppPushRequest co type payload force generated s).2 := by
  unfold Reentrant.ocppPushRequest
  dsimp only
  split
  · rename_i hc
    rw [pushMessage_fst_of_ne none generated type payload 0 putMsgReady false hc.1]
    exact (Ocpp.Follows.removeOldest hco s).trans (.pushMessage none generated type payload 0
      (q := .ready) (by decide) (f := putMsgReady) rfl false)
  · exact .pushMessage none generated type payload 0 (q := .ready) (by decide)
      (f := putMsgReady) rfl false

/-- Pushes made while the engine is suspended follow it, however nested their evictions. -/
theorem PushRun.follows {s : Ocpp N} {r : Ocpp N × Nat} (hr : PushRun s r) : s.Follows r.1 r.2 := by
  induction hr with
  | nil s => exact .refl s
  | request type payload force generated co _ _ ihco ihr =>
    exact (Ocpp.Follows.ocppPushRequest ihco type payload force generated _).trans ihr
  | requestDefer type payload timerSec now generated _ ih =>
    exact (Ocpp.Follows.ocppPushRequestDefer type payload timerSec now generated).trans ih
  | response req payload err _ ih => exact (Ocpp.Follows.ocppPushResponse req payload err).trans ih

theorem PushRun.keeps {co : Callout N} (hco : ∀ t, PushRun t (co t)) : co.Keeps :=
  fun t => (hco t).follows

/-! ## Between public calls -/

theorem Ocpp.Sound.of_wellFormed {s : Ocpp N} {c : Nat} (hW : s.WellFormed) (hs : s.SendsIdle)
    (hl : s.ledger = c) : s.Sound [] c where
  links_eq i := by simpa using hW.links_eq i
  pend_live _ h := absurd h (List.not_mem_nil _)
  role_ne_alloc := hW.role_ne_alloc
  wait_length_le := hW.wait_length_le
  sendsIdle := hs
  ledger_eq := hl

theorem Ocpp.Sound.wellFormed {s : Ocpp N} {c : Nat} (h : s.Sound [] c) : s.WellFormed where
  links_eq i := by simpa using h.links_eq i
  role_ne_alloc := h.role_ne_alloc
  wait_length_le := h.wait_length_le

/-- Timer promotion relinks Timer entries into Ready and frees nothing. -/
theorem Ocpp.Sound.processTimerMessages {s : Ocpp N} {c : Nat} (h : s.Sound [] c) (now : Int) :
    (processTimerMessages now s).1.Sound [] c :=
  .of_wellFormed (processTimerMessages_wellFormed now h.wellFormed)
    (processTimerMessages_sendsIdle now h.sendsIdle)
    ((processTimerMessages_ledger now).trans h.ledger_eq)

/-! ## Each function of the engine keeps it -/

section Phases

variable {s : Ocpp N} {c : Nat} (b : Build) {co : Callout N}

theorem Reentrant.sendMessage_sound (hco : co.Keeps) (now sent : Int) {i : Fin N} (h : s.Sound [] c)
    (hi : i ∈ s.ready) (hw : s.wait = []) :
    (Reentrant.sendMessage co b now sent i s).1.Sound []
      (c + (Reentrant.sendMessage co b now sent i s).2) := by
  obtain ⟨c', rfl, h1⟩ := (h.setSlot (i := i) (m := sentRecord b now (s.pool i)) rfl).unlink
    (q := .ready) hi
  have h2 := h1.send (i := i) (by simpa using hw)
  have hlink : (putMsgWait i (ocppSend i (delMsgReady i
      (s.setSlot i (sentRecord b now (s.pool i)))))).Sound [] (c' + 1) :=
    h2.link (List.not_mem_nil i) (by simp [hw])
  have hfree := (h2.freeMessage hco (List.not_mem_nil i)).1
  unfold Reentrant.sendMessage
  dsimp only
  split_ifs
  exacts [hlink, hfree, hlink, hfree]

theorem Reentrant.txTimeoutVisit_sound (hco : co.Keeps) (now : Int) {i : Fin N} (h : s.Sound [] c)
    (hi : i ∈ s.wait) :
    (Reentrant.txTimeoutVisit co b now s i).1.Sound [] (c + (Reentrant.txTimeoutVisit co b now s i).2) := by
  unfold Reentrant.txTimeoutVisit
  dsimp only
  split_ifs
  · exact h
  · obtain ⟨c', rfl, h1⟩ := h.unlink (q := .wait) hi
    exact (h1.freeMessage hco (List.not_mem_nil i)).1
  · obtain ⟨c', rfl, h1⟩ := h.unlink (q := .wait) hi
    have hl : (s.wait.erase i).length ≤ 1 :=
      Nat.le_trans (List.length_erase_le _ _) h.wait_length_le
    exact h1.link (q := .ready) (List.not_mem_nil i) (by simpa using hl)

/-- The Wait sweep, over Wait as the loop found it: at most one entry. -/
theorem Reentrant.processTxTimeout_sound (hco : co.Keeps) (now : Int) (h : s.Sound [] c) :
    (Reentrant.processTxTimeout co b now s).1.Sound [] (c + (Reentrant.processTxTimeout co b now s).2) := by
  have hl := h.wait_length_le
  unfold Reentrant.processTxTimeout
  rcases hw : s.wait with _ | ⟨i, _ | ⟨j, l⟩⟩
  · exact h
  · simpa using Reentrant.txTimeoutVisit_sound b hco now h (by simp [hw])
  · simp [hw] at hl

theorem Reentrant.processQueuedMessages_sound (hco : co.Keeps) (now sent : Int) (h : s.Sound [] c) :
    (Reentrant.processQueuedMessages co b now sent s).1.1.Sound []
      (c + (Reentrant.processQueuedMessages co b now sent s).2) := by
  have h1 := Reentrant.processTxTimeout_sound b hco now h
  unfold Reentrant.processQueuedMessages
  dsimp only
  split_ifs with hw
  · exact h1
  · split
    · exact h1
    · rename_i i l hready
      have := Reentrant.sendMessage_sound b hco now sent (i := i) h1 (by simp [hready])
        (by simpa using hw)
      rwa [Nat.add_assoc] at this

theorem Reentrant.processCentralResponse_sound (hco : co.Keeps) (cfg : Configuration) (received : OcppMessage)
    {req : Fin N} (now : Int) (h : s.Sound [] c) (hi : req ∈ s.wait) :
    (Reentrant.processCentralResponse co b cfg received req now s).1.Sound []
      (c + (Reentrant.processCentralResponse co b cfg received req now s).2) := by
  obtain ⟨c', rfl, h1⟩ := h.unlink (q := .wait) hi
  unfold Reentrant.processCentralResponse
  dsimp only
  split_ifs
  · have hl := h.wait_length_le
    have h2 := h1.setSlot (i := req) (m := { (delMsgWait req s).pool req with
      expiry := getNextPeriod b cfg ((delMsgWait req s).pool req) now }) rfl
    exact h2.link (q := .wait) (List.not_mem_nil req)
      (by simp [List.length_erase_of_mem hi]; omega)
  all_goals exact (h1.freeMessage hco (List.not_mem_nil req)).1

theorem Reentrant.processReceived_sound (hco : co.Keeps) (cfg : Configuration) (now : Int)
    (received : OcppMessage) (h : s.Sound [] c) :
    (Reentrant.processReceived co b cfg now received s).1.1.Sound []
      (c + (Reentrant.processReceived co b cfg now received s).2) ∧
      (Reentrant.processReceived co b cfg now received s).1.2 ≤ 0 := by
  unfold Reentrant.processReceived
  split
  · exact ⟨h, le_rfl⟩
  all_goals try exact ⟨h, by simp [EINVAL]⟩
  all_goals
    split
    · exact ⟨h, by simp [ENOLINK]⟩
    · rename_i req hreq
      exact ⟨(Reentrant.processCentralResponse_sound b hco cfg received now h
        (List.mem_of_find?_eq_some hreq)).congr rfl rfl rfl rfl rfl, le_rfl⟩

/-- `process_incoming_messages`: pushes while `ocpp_recv` blocks, the frame, and pushes
    from the callback of the final event. -/
theorem Reentrant.processIncomingMessages_sound (hco : co.Keeps) (env : Env) (h : s.Sound [] c) :
    (Reentrant.processIncomingMessages co b env s).1.1.Sound []
      (c + (Reentrant.processIncomingMessages co b env s).2) := by
  have h1 := (hco s _ _ h).1
  unfold Reentrant.processIncomingMessages
  dsimp only
  have h2 : ∀ r : (Ocpp N × Int) × Nat, r = (if env.recvResult ≠ 0 then (((co s).1, env.recvResult), 0)
      else Reentrant.processReceived co b env.cfg env.now env.received (co s).1) →
      r.1.1.Sound [] (c + (co s).2 + r.2) ∧ r.1.2 ≤ 0 := by
    rintro r rfl
    split
    · exact ⟨h1, env.recvResult_le⟩
    · exact Reentrant.processReceived_sound b hco _ _ _ h1
  generalize hr : (if env.recvResult ≠ 0 then (((co s).1, env.recvResult), 0)
    else Reentrant.processReceived co b env.cfg env.now env.received (co s).1) = r
  obtain ⟨hr1, hr2⟩ := h2 r hr.symm
  split
  · have h3 : (if r.1.2 ≥ 0 then updateLastRxTimestamp env.now r.1.1 else r.1.1).Sound []
        (c + (co s).2 + r.2) := by
      split
      · exact hr1.congr rfl rfl rfl rfl rfl
      · exact hr1
    simpa only [Nat.add_assoc] using (hco _ _ _ (h3.dispatch hr2 env.received)).1
  · simpa only [Nat.add_assoc] using hr1

theorem Reentrant.processPeriodicMessages_sound (hco : co.Keeps) (cfg : Configuration) (now sent : Int)
    (generated : List Char) (h : s.Sound [] c) :
    (Reentrant.processPeriodicMessages co b cfg now sent generated s).1.1.Sound []
      (c + (Reentrant.processPeriodicMessages co b cfg now sent generated s).2) := by
  unfold Reentrant.processPeriodicMessages
  split_ifs
  · rw [newMessage_eq]
    cases hf : firstFree s with
    | none => exact h
    | some i =>
      simp only [Option.map_some']
      have hc : (putMsgReady i (s.setSlot i (newRecord none generated .heartbeat false
          (s.pool i)))).Sound [] (c + 1) :=
        (h.create (firstFree_role hf) (by simp [newRecord]) (by simp [newRecord]) (q := .ready)
          (by decide)).1
      simpa only [Nat.add_assoc] using Reentrant.processQueuedMessages_sound b hco now sent hc
  · exact h

theorem Reentrant.ocppStep_sound (hco : co.Keeps) (env : Env) (h : s.Sound [] c) :
    (Reentrant.ocppStep co b env s).1.1.Sound [] (c + (Reentrant.ocppStep co b env s).2) := by
  have h1 := Reentrant.processQueuedMessages_sound b hco env.now env.sent h
  have h2 := Reentrant.processIncomingMessages_sound b hco env h1
  have h3 := Reentrant.processPeriodicMessages_sound b hco env.cfg env.now env.heartbeatSent
    env.heartbeatId h2
  simpa only [Reentrant.ocppStep, Nat.add_assoc] using h3.processTimerMessages env.now

end Phases

theorem Reentrant.Reachable.sound {b : Build} {s : Ocpp N} {n : Nat}
    (h : Reentrant.Reachable b s n) : s.Sound [] n := by
  induction h with
  | init now => exact .of_wellFormed (ocppInit_wellFormed now) (by simp [Ocpp.SendsIdle, ocppInit]) rfl
  | push _ hr ih => exact (hr.follows _ _ ih).1
  | step env co hco _ ih => exact Reentrant.ocppStep_sound b (PushRun.keeps hco) env ih

/-! ## What the callback cannot reach -/

/-- Whatever is pushed while the lock is released, nested evictions included, leaves the
    Wait list and the record of the message on it as they were: the callback can neither
    disturb the CALL in flight nor the walk of `process_tx_timeout` over Wait, which keeps its
    next entry across `free_message`. This holds at every release point, where the
    engine's invariant holds with the slots being freed. -/
theorem callback_keeps_wait {s : Ocpp N} {r : Ocpp N × Nat} {pend : List (Fin N)} {c : Nat}
    (h : s.Sound pend c) (hr : PushRun s r) :
    r.1.wait = s.wait ∧ ∀ j ∈ s.wait, r.1.pool j = s.pool j :=
  (hr.follows _ _ h).2.2

/-- The Heartbeat in flight in slot 0 outlives an answer pushed into slot 1. -/
theorem callback_keeps_wait_on_answer :
    let s := (ocppInit 0 : Ocpp 2).run Build.default
      [.pushRequest .heartbeat ⟨0, 0⟩ false ['1'], .step (.make 0 0 none ⟨0, 3, 0⟩ [])]
    let u := (ocppPushResponse ⟨['2'], .call, .dataTransfer, ⟨0, 0⟩⟩ ⟨0, 0⟩ false s).1
    u.wait = s.wait ∧ ∀ j ∈ s.wait, u.pool j = s.pool j := by
  obtain ⟨n, hs⟩ := (Reentrant.Reachable.init (N := 2) (b := Build.default) 0).run
    [.pushRequest .heartbeat ⟨0, 0⟩ false ['1'], .step (.make 0 0 none ⟨0, 3, 0⟩ [])]
  exact callback_keeps_wait hs.sound (.response _ _ _ (.nil _))

/-- While the callback handles `MESSAGE_FREE` for a slot the engine has unlinked, at any
    release point and with any other frees suspended around it, whatever it pushes, nested
    evictions included, leaves that slot holding the message the callback was handed and on
    no list: no push can claim it, so the `memset` that follows destroys nothing the
    callback created. -/
theorem free_callback_keeps_slot {s : Ocpp N} {pend : List (Fin N)} {c : Nat} {i : Fin N}
    (h : s.Sound (i :: pend) c) {u : Ocpp N × Nat}
    (hu : PushRun (dispatchEvent OCPP_EVENT_MESSAGE_FREE (s.pool i).body (some i) s) u) :
    u.1.pool i = s.pool i ∧ i ∉ u.1.ready ∧ i ∉ u.1.wait ∧ i ∉ u.1.timer := by
  obtain ⟨h2, hp, -⟩ := hu.follows _ _ (h.announce (s.pool i).body)
  have hl := h2.links_eq i
  rw [if_pos (Or.inr (List.mem_cons_self _ _))] at hl
  simp only [Ocpp.links, Nat.add_eq_zero, List.count_eq_zero] at hl
  exact ⟨hp i (List.mem_cons_self _ _), hl.1.1, hl.1.2, hl.2⟩

/-- Slot 0 holds a Heartbeat in flight and slot 1 a queued DataTransfer. The Heartbeat's
    answer frees slot 0; in its `MESSAGE_FREE` callback a forced push evicts the
    DataTransfer, and in that eviction's own callback an answer is pushed: slot 1 is left
    as it was. -/
theorem free_callback_keeps_slot_nested :
    let s := (ocppInit 0 : Ocpp 2).run Build.default
      [.pushRequest .heartbeat ⟨0, 0⟩ false ['1'], .step (.make 0 0 none ⟨0, 3, 0⟩ []),
       .pushRequest .dataTransfer ⟨0, 0⟩ false ['2']]
    let s1 := delMsgWait 0 s
    let s2 := delMsgReady 1 (dispatchEvent OCPP_EVENT_MESSAGE_FREE (s1.pool 0).body (some 0) s1)
    let u := (ocppPushResponse ⟨['5'], .call, .dataTransfer, ⟨0, 0⟩⟩ ⟨0, 0⟩ false
      (dispatchEvent OCPP_EVENT_MESSAGE_FREE (s2.pool 1).body (some 1) s2)).1
    u.pool 1 = s2.pool 1 ∧ 1 ∉ u.ready ∧ 1 ∉ u.wait ∧ 1 ∉ u.timer := by
  intro s s1 s2 u
  obtain ⟨n, hs⟩ := (Reentrant.Reachable.init (N := 2) (b := Build.default) 0).run
    [.pushRequest .heartbeat ⟨0, 0⟩ false ['1'], .step (.make 0 0 none ⟨0, 3, 0⟩ []),
     .pushRequest .dataTransfer ⟨0, 0⟩ false ['2']]
  obtain ⟨c1, -, h1⟩ := hs.sound.unlink (q := .wait) (i := 0) (by decide)
  obtain ⟨c2, -, h2⟩ := (h1.announce (s1.pool 0).body).unlink (q := .ready) (i := 1) (by decide)
  exact free_callback_keeps_slot h2 (.response ⟨['5'], .call, .dataTransfer, ⟨0, 0⟩⟩ ⟨0, 0⟩ false (.nil _))

/-- Over every run and every interleaving of public pushes at the engine's release
    points, the slot discipline holds between public calls, the pending count is the number
    of live slots, and pending messages plus `MESSAGE_FREE` events are the messages
    created: whatever the callback pushes, no message is lost, duplicated or freed twice. -/
theorem interleaved_pool_accounting {b : Build} {s : Ocpp N} {n : Nat}
    (h : Reentrant.Reachable b s n) :
    s.WellFormed ∧ ocppCountPendingRequests s = s.liveCount ∧
      ocppCountPendingRequests s + freeEvents s.log = n := by
  have hs := h.sound
  exact ⟨hs.wellFormed, hs.wellFormed.countPending_eq, hs.ledger_eq⟩

/-- A Heartbeat is sent; in the step that takes its answer the callback pushes an answer
    of its own at each release point: while `ocpp_recv` blocks (into slot 1), inside the
    Heartbeat's `MESSAGE_FREE` (the pool is full and the push fails) and at the final event
    (into slot 0, just freed). -/
theorem interleaved_pool_accounting_in_callback :
    let co : Callout 2 := fun t =>
      let r := ocppPushResponse ⟨['9'], .call, .dataTransfer, ⟨0, 0⟩⟩ ⟨0, 0⟩ false t
      (r.1, pushed r)
    let s := (ocppInit 0 : Ocpp 2).run Build.default
      [.pushRequest .heartbeat ⟨0, 0⟩ false ['1'], .step (.make 0 0 none ⟨0, 3, 0⟩ [])]
    let t := (Reentrant.ocppStep co Build.default
      (.make 0 0 (some ⟨['1'], .callResult, .heartbeat, ⟨0, 0⟩⟩) ⟨0, 3, 0⟩ []) s).1.1
    t.ready = [1, 0] ∧ freeEvents t.log = 1 ∧
      (t.WellFormed ∧ ocppCountPendingRequests t = t.liveCount ∧
        ocppCountPendingRequests t + freeEvents t.log = 3) := by
  intro co s t
  have hs : Reentrant.Reachable Build.default s 1 :=
    ((Reentrant.Reachable.init 0).push (.request .heartbeat ⟨0, 0⟩ false ['1'] _ PushRun.silent
      (.nil _))).step (.make 0 0 none ⟨0, 3, 0⟩ []) _ PushRun.silent
  have ht := interleaved_pool_accounting (hs.step
    (.make 0 0 (some ⟨['1'], .callResult, .heartbeat, ⟨0, 0⟩⟩) ⟨0, 3, 0⟩ []) co
    fun t => .response ⟨['9'], .call, .dataTransfer, ⟨0, 0⟩⟩ ⟨0, 0⟩ false (.nil _))
  exact ⟨by decide, by decide, ht.1, ht.2.1, ht.2.2.trans (by decide)⟩

/-- Over every run and every interleaving, every `ocpp_send` is made while Wait is empty:
    one CALL at most is in flight, whatever the callback pushes. -/
theorem interleaved_serialized {b : Build} {s : Ocpp N} {n : Nat}
    (h : Reentrant.Reachable b s n) : ∀ i m w, Output.send i m w ∈ s.log → w = [] :=
  fun _ _ _ hm => h.sound.sendsIdle _ hm

/-- A Heartbeat is sent; in the step that takes its answer, another thread pushes a
    DataTransfer while `ocpp_recv` blocks (the same push fails in the Heartbeat's
    `MESSAGE_FREE` callback and queues a second one at the final event), and the next step
    sends the first DataTransfer, with Wait empty. -/
theorem interleaved_serialized_push_during_recv :
    let co : Callout 2 := fun t =>
      let r := ocppPushRequestDefer .dataTransfer ⟨0, 0⟩ 0 0 ['2'] t
      (r.1, pushed r)
    let env : Env := .make 0 0 none ⟨0, 3, 0⟩ []
    let s := (ocppInit 0 : Ocpp 2).run Build.default [.pushRequest .heartbeat ⟨0, 0⟩ false ['1'], .step env]
    let t := (ocppStep Build.default env (Reentrant.ocppStep co Build.default
      (.make 0 0 (some ⟨['1'], .callResult, .heartbeat, ⟨0, 0⟩⟩) ⟨0, 3, 0⟩ []) s).1.1).1
    t.wait = [1] ∧ (t.pool 1).body.type = .dataTransfer ∧
      ∀ i m w, Output.send i m w ∈ t.log → w = [] := by
  intro co env s t
  obtain ⟨n, hs⟩ := (Reentrant.Reachable.init (N := 2) (b := Build.default) 0).run
    [.pushRequest .heartbeat ⟨0, 0⟩ false ['1'], .step env]
  exact ⟨by decide, by decide, interleaved_serialized ((hs.step _ co fun t =>
    .requestDefer .dataTransfer ⟨0, 0⟩ 0 0 ['2'] (.nil _)).step env _ PushRun.silent)⟩

end OcppClient
