import Aqualarm.RfEncode

/-
  The queue between the handlers and the sender thread: `lora_tx_enqueue` in any
  interleaving with the steps of `rf_encode_entry`.

  What is proved: `uplinks_in_order` — what the thread hands to
  `rf_send_with_lbt`, repeats of one message removed, is a prefix of what the
  handlers enqueued, in every run in which each call finds room in the queue and
  a frame that fits `data_ptr`. `lora_tx_enqueue` does not look at what
  `rt_mq_send` returns (`uplinks_in_order_fails`).
-/

namespace Aqualarm

open Lib

/-- A call of `lora_tx_enqueue`. -/
structure TxRequest where
  data : Nat → UInt8
  length : UInt8
  needAck : Bool
  parameter : UInt8

/-- What is to be sent, and how. -/
structure TxMessage where
  bytes : List UInt8
  size : UInt8
  needAck : Bool
  parameter : UInt8
  deriving DecidableEq, Repr

def TxRequest.message (r : TxRequest) : TxMessage :=
  { bytes := readTo r.length.toNat r.data, size := r.length, needAck := r.needAck, parameter := r.parameter }

/-- `struct send_msg` as it lies in memory. -/
def QueuedMsg.memory (m : QueuedMsg) : List UInt8 :=
  m.dataPtr ++ List.replicate (253 - m.dataPtr.length) 0 ++ [m.dataSize, if m.needAck then 1 else 0, m.parameter]

/-- What `rf_send_with_lbt` is given: `data_size` bytes from `data_ptr` on. -/
def QueuedMsg.handed (m : QueuedMsg) : TxMessage :=
  { bytes := m.memory.take m.dataSize.toNat, size := m.dataSize, needAck := m.needAck, parameter := m.parameter }

/-- A call of a handler, or a step of the thread, its radio, the gateway or the
air. -/
inductive TxStep where
  | loraTxEnqueue (r : TxRequest)
  | link (i : RfStep) (h : ∀ msg, i ≠ .loraTxEnqueue msg)

def TxStep.step : TxStep → RfStep
  | .loraTxEnqueue r => .loraTxEnqueue (queuedMsg r.data r.length.toNat r.needAck r.parameter)
  | .link i _ => i

/-- The message with which the thread calls `rf_send_with_lbt` in the step. -/
def RfLink.handsOver (l : RfLink) (i : RfStep) : Option Uplink :=
  match i with
  | .mqRecv | .csmaBusy | .txdoneTimeout | .ackTimeout =>
    match (l.next i).map RfLink.sender with
    | some (.csmaCheck u _ 0) => some u
    | _ => none
  | _ => none

/-- What was enqueued and what was handed over, in order. -/
structure TxLog where
  enqueued : List TxMessage := []
  handed : List Uplink := []

/-- A repeat of the last message is not logged. -/
def TxLog.hand (u : Uplink) (log : TxLog) : TxLog :=
  if log.handed.getLast? = some u then log else { log with handed := log.handed ++ [u] }

def txLog (l : RfLink) (i : TxStep) (log : TxLog) : TxLog :=
  match i with
  | .loraTxEnqueue r => { log with enqueued := log.enqueued ++ [r.message] }
  | .link i _ =>
    match l.handsOver i with
    | some u => log.hand u
    | none => log

/-- The link, with the log beside it. -/
def txQueue : Machine (RfLink × TxLog) TxStep :=
  ({ start := fun l => l = {}, next := fun l i => l.next i.step } : Machine RfLink TxStep).logged txLog {}

/-- No message is lost, reordered or changed on its way to `rf_send_with_lbt`. -/
def InOrder (p : RfLink × TxLog) : Prop := (p.2.handed.map fun u => u.msg.handed) <+: p.2.enqueued

instance : DecidablePred InOrder := fun p =>
  inferInstanceAs (Decidable ((p.2.handed.map fun u => u.msg.handed) <+: p.2.enqueued))

/-- A call finds room in the queue, and its frame fits `data_ptr`. -/
def FindsRoom (l : RfLink) (i : TxStep) : Prop :=
  ∀ r, i = .loraTxEnqueue r → l.rfEnMq.length < rfEnMqLength ∧ r.length.toNat ≤ 253

/-! One message. -/

/-- A frame that fits is handed over as it was enqueued. -/
theorem handed_queuedMsg {r : TxRequest} (h : r.length.toNat ≤ 253) :
    (queuedMsg r.data r.length.toNat r.needAck r.parameter).handed = r.message := by
  have hcopied : copied r.length.toNat = r.length.toNat := by
    have := r.length.toNat_lt
    unfold copied
    split_ifs <;> omega
  have hsize : UInt8.ofNat r.length.toNat = r.length := UInt8.ofNat_toNat
  simp only [QueuedMsg.handed, QueuedMsg.memory, queuedMsg, TxRequest.message, hcopied, hsize, TxMessage.mk.injEq,
    and_true]
  rw [List.append_assoc]
  exact List.take_left' (by rw [length_readTo])

/-! The invariant. -/

/-- The message the thread is busy with. -/
def RfLink.current (l : RfLink) : Option Uplink :=
  match l.sender with
  | .mqRecv => none
  | .csmaCheck u _ _ | .txdoneWait u _ | .ackWait u _ => some u

/-- What was handed over and what is queued is all that was enqueued, numbered
in that order; and the thread is busy with the last it was handed. -/
structure TxInv (p : RfLink × TxLog) : Prop where
  all : ((p.2.handed ++ p.1.rfEnMq).map fun u => u.msg.handed) = p.2.enqueued
  numbered : (p.2.handed ++ p.1.rfEnMq).map Uplink.number = List.range p.1.enqueued
  busy : ∀ u, p.1.current = some u → p.2.handed.getLast? = some u

theorem TxInv.inOrder {p : RfLink × TxLog} (h : TxInv p) : InOrder p := by
  rw [InOrder, ← h.all, List.map_append]
  exact List.prefix_append _ _

section
variable {l l' : RfLink} {log : TxLog} {u : Uplink}

/-- The thread goes on with its message, or waits for the next. -/
theorem TxInv.move (h : TxInv (l, log)) (hqueue : l'.rfEnMq = l.rfEnMq) (henqueued : l'.enqueued = l.enqueued)
    (hcurrent : ∀ u, l'.current = some u → l.current = some u) : TxInv (l', log) where
  all := by
    change ((log.handed ++ l'.rfEnMq).map _) = _
    rw [hqueue]
    exact h.all
  numbered := by
    change (log.handed ++ l'.rfEnMq).map _ = List.range l'.enqueued
    rw [hqueue, henqueued]
    exact h.numbered
  busy u hu := h.busy u (hcurrent u hu)

/-- A call that finds room. -/
theorem TxInv.enqueue (h : TxInv (l, log)) {msg : QueuedMsg} {m : TxMessage} (hm : msg.handed = m) :
    TxInv ({ l with rfEnMq := l.rfEnMq ++ [⟨l.enqueued, msg⟩], enqueued := l.enqueued + 1 },
      { log with enqueued := log.enqueued ++ [m] }) where
  all := by
    have hall : ((log.handed ++ l.rfEnMq).map fun u => u.msg.handed) = log.enqueued := h.all
    change ((log.handed ++ (l.rfEnMq ++ [_])).map _) = log.enqueued ++ [m]
    rw [← List.append_assoc, List.map_append, hall, List.map_singleton, hm]
  numbered := by
    have hnumbered : (log.handed ++ l.rfEnMq).map Uplink.number = List.range l.enqueued := h.numbered
    change (log.handed ++ (l.rfEnMq ++ [_])).map _ = List.range (l.enqueued + 1)
    rw [← List.append_assoc, List.map_append, hnumbered, List.range_succ]
    rfl
  busy := h.busy

/-- The thread takes the first message of the queue: it is none it had before. -/
theorem TxInv.take (h : TxInv (l, log)) {rest : List Uplink} (hqueue : l.rfEnMq = u :: rest)
    (hrest : l'.rfEnMq = rest) (henqueued : l'.enqueued = l.enqueued) (hcurrent : l'.current = some u) :
    TxInv (l', log.hand u) := by
  have hnumbered : (log.handed ++ l.rfEnMq).map Uplink.number = List.range l.enqueued := h.numbered
  have hnew : log.handed.getLast? ≠ some u := by
    intro hlast
    have hmem : u ∈ log.handed := List.mem_of_getLast? hlast
    have hnodup : ((log.handed ++ u :: rest).map Uplink.number).Nodup := by
      rw [← hqueue, hnumbered]
      exact List.nodup_range
    rw [List.map_append, List.map_cons, List.nodup_append] at hnodup
    exact hnodup.2.2 _ (List.mem_map_of_mem hmem) _ List.mem_cons_self rfl
  have hsplit : log.handed ++ [u] ++ l'.rfEnMq = log.handed ++ l.rfEnMq := by
    rw [hrest, hqueue, List.append_assoc]
    rfl
  rw [TxLog.hand, if_neg hnew]
  refine ⟨?_, ?_, fun v hv => ?_⟩
  · change ((log.handed ++ [u] ++ l'.rfEnMq).map _) = log.enqueued
    rw [hsplit]
    exact h.all
  · change (log.handed ++ [u] ++ l'.rfEnMq).map _ = List.range l'.enqueued
    rw [hsplit, henqueued]
    exact h.numbered
  · obtain rfl : u = v := Option.some.inj (hcurrent.symm.trans hv)
    exact List.getLast?_concat

/-- An attempt that follows another is a repeat. -/
theorem TxInv.retry (h : TxInv (l, log)) (hu : l.current = some u) : log.hand u = log := by
  rw [TxLog.hand, if_pos (h.busy u hu)]

/-! One step. -/

/-- The thread goes on with a message, or waits for the next. -/
structure StaysWith (u : Uplink) (l l' : RfLink) : Prop where
  queue : l'.rfEnMq = l.rfEnMq
  enqueued : l'.enqueued = l.enqueued
  current : ∀ v, l'.current = some v → v = u

theorem StaysWith.waits (u : Uplink) (l : RfLink) (ack : Bool) : StaysWith u l { l with sender := .mqRecv, rfAckSem := ack } :=
  ⟨rfl, rfl, fun _ hv => nomatch hv⟩

theorem attemptAck_stays (u : Uplink) (retryTimes : Nat) (l : RfLink) : StaysWith u l (l.attemptAck u retryTimes) := by
  unfold RfLink.attemptAck
  split_ifs
  · exact ⟨rfl, rfl, fun _ hv => (Option.some.inj hv).symm⟩
  · exact .waits u l _

theorem sendError_stays (u : Uplink) (retryTimes : Nat) (l : RfLink) : StaysWith u l (l.sendError u retryTimes) := by
  unfold RfLink.sendError
  split_ifs
  · exact attemptAck_stays u _ l
  · exact .waits u l _

/-- Only `rt_mq_recv` changes the message the thread is busy with. -/
theorem next_current {i : RfStep} (henqueue : ∀ msg, i ≠ .loraTxEnqueue msg) (hrecv : i ≠ .mqRecv)
    (hn : l.next i = some l') :
    l'.rfEnMq = l.rfEnMq ∧ l'.enqueued = l.enqueued ∧ ∀ u, l'.current = some u → l.current = some u := by
  have hstays : ∀ u, l.current = some u → StaysWith u l l' →
      l'.rfEnMq = l.rfEnMq ∧ l'.enqueued = l.enqueued ∧ ∀ u, l'.current = some u → l.current = some u :=
    fun u hu h => ⟨h.queue, h.enqueued, fun v hv => by rw [h.current v hv, hu]⟩
  cases i with
  | loraTxEnqueue msg => exact absurd rfl (henqueue msg)
  | mqRecv => exact absurd rfl hrecv
  | csmaBusy =>
    simp only [RfLink.next] at hn
    split at hn
    · rename_i u retryTimes lbtRetryTimes hsender
      obtain rfl := Option.some.inj hn
      refine hstays u (by rw [RfLink.current, hsender]) ?_
      split_ifs
      · exact ⟨rfl, rfl, fun _ hv => (Option.some.inj hv).symm⟩
      · exact sendError_stays u retryTimes l
    · cases hn
  | csmaFree =>
    simp only [RfLink.next] at hn
    split at hn
    · rename_i u retryTimes lbtRetryTimes hsender
      obtain rfl := Option.some.inj hn
      exact hstays u (by rw [RfLink.current, hsender]) ⟨rfl, rfl, fun _ hv => (Option.some.inj hv).symm⟩
    · cases hn
  | txdoneOk =>
    simp only [RfLink.next] at hn
    split at hn
    · rename_i u retryTimes hsender
      split_ifs at hn
      obtain rfl := Option.some.inj hn
      refine hstays u (by rw [RfLink.current, hsender]) ?_
      unfold RfLink.sendOk
      split_ifs
      · exact ⟨rfl, rfl, fun _ hv => (Option.some.inj hv).symm⟩
      · refine ⟨rfl, rfl, ?_⟩
        intro _ hv
        cases hv
    · cases hn
  | txdoneTimeout =>
    simp only [RfLink.next] at hn
    split at hn
    · rename_i u retryTimes hsender
      split_ifs at hn
      obtain rfl := Option.some.inj hn
      exact hstays u (by rw [RfLink.current, hsender]) (sendError_stays u retryTimes l)
    · cases hn
  | ackOk =>
    simp only [RfLink.next] at hn
    split at hn
    · rename_i u retryTimes hsender
      split_ifs at hn
      obtain rfl := Option.some.inj hn
      exact hstays u (by rw [RfLink.current, hsender]) (.waits u l _)
    · cases hn
  | ackTimeout =>
    simp only [RfLink.next] at hn
    split at hn
    · rename_i u retryTimes hsender
      split_ifs at hn
      obtain rfl := Option.some.inj hn
      exact hstays u (by rw [RfLink.current, hsender]) (attemptAck_stays u _ l)
    · cases hn
  | rfTxdoneCallback =>
    obtain rfl := Option.some.inj hn
    exact ⟨rfl, rfl, fun _ hu => hu⟩
  | gatewayReceive u | rfAckCallback a | frameLost u | ackLost a =>
    simp only [RfLink.next] at hn
    split_ifs at hn <;> obtain rfl := Option.some.inj hn <;> exact ⟨rfl, rfl, fun _ hu => hu⟩

/-- A message that is handed over is the one the thread is then busy with. -/
theorem handsOver_current {i : RfStep} (hu : l.handsOver i = some u) (hn : l.next i = some l') :
    l'.current = some u := by
  unfold RfLink.handsOver at hu
  rw [hn] at hu
  split at hu
  any_goals
    dsimp only [Option.map_some] at hu
    split at hu
    · rename_i v retryTimes hsender
      obtain rfl := Option.some.inj hu
      rw [RfLink.current, Option.some.inj hsender]
    · cases hu
  cases hu

/-- Taking a message from the queue hands it over. -/
theorem mqRecv_takes (hn : l.next .mqRecv = some l') :
    ∃ u rest, l.rfEnMq = u :: rest ∧ l'.rfEnMq = rest ∧ l'.enqueued = l.enqueued ∧ l'.current = some u ∧
      l.handsOver .mqRecv = some u := by
  unfold RfLink.handsOver
  rw [hn]
  simp only [RfLink.next] at hn
  split at hn
  · rename_i u rest hsender hqueue
    obtain rfl := Option.some.inj hn
    refine ⟨u, rest, hqueue, ?_⟩
    split_ifs <;> exact ⟨rfl, rfl, rfl, rfl⟩
  · cases hn

theorem TxInv.step {i : TxStep} (h : TxInv (l, log)) (hok : FindsRoom l i) (hn : l.next i.step = some l') :
    TxInv (l', txLog l i log) := by
  cases i with
  | loraTxEnqueue r =>
    obtain ⟨hroom, hfits⟩ := hok r rfl
    simp only [TxStep.step, RfLink.next, if_pos hroom] at hn
    obtain rfl := Option.some.inj hn
    exact h.enqueue (handed_queuedMsg hfits)
  | link i henqueue =>
    by_cases hrecv : i = .mqRecv
    · subst hrecv
      obtain ⟨u, rest, hqueue, hrest, henqueued, hcurrent, hhands⟩ := mqRecv_takes hn
      have hlog : txLog l (.link .mqRecv henqueue) log = log.hand u := by rw [txLog, hhands]
      rw [hlog]
      exact h.take hqueue hrest henqueued hcurrent
    · obtain ⟨hqueue, henqueued, hcurrent⟩ := next_current henqueue hrecv hn
      have hlog : txLog l (.link i henqueue) log = log := by
        rw [txLog]
        split
        · rename_i u hu
          exact h.retry (hcurrent u (handsOver_current hu hn))
        · rfl
      rw [hlog]
      exact h.move hqueue henqueued hcurrent

end

/-- **Uplinks are handed over in order**, none lost and none changed, in every
run in which each call finds room. -/
theorem uplinks_in_order (is : List TxStep) (hok : txQueue.Steps (fun p i _ => FindsRoom p.1 i) ({}, {}) is) :
    txQueue.Always InOrder ({}, {}) is := by
  have hinv : txQueue.Always TxInv ({}, {}) is := by
    have hstart : TxInv ({}, {}) := by
      refine ⟨rfl, rfl, fun u hu => ?_⟩
      cases hu
    refine @Machine.always_of_steps _ _ txQueue TxInv _ _ hstart ?_ _ hok
    rintro ⟨l, log⟩ i ⟨l', log'⟩ hi hok hn
    obtain ⟨hn, hlog⟩ := Machine.logged_next_eq_some.1 hn
    obtain rfl : log' = txLog l i log := hlog
    exact hi.step hok hn
  exact hinv.mono fun _ h => h.inOrder

/-- A call with one byte, no acknowledgement needed. -/
def sampleRequest (b : UInt8) : TxStep :=
  .loraTxEnqueue { data := fun _ => b, length := 1, needAck := false, parameter := 1 }

/-- The thread's steps over one such message that the radio does not confirm. -/
def sampleSend : List TxStep :=
  [.link .mqRecv (by simp), .link .csmaFree (by simp), .link .txdoneTimeout (by simp)]

/-- Two calls, and the first message taken. -/
theorem uplinks_in_order_sample :
    txQueue.Always InOrder ({}, {}) [sampleRequest 1, sampleRequest 2, .link .mqRecv (by simp)] := by
  refine uplinks_in_order _ ?_
  refine Machine.steps_cons rfl (fun r hr => ?_) (Machine.steps_cons rfl (fun r hr => ?_)
    (Machine.steps_cons rfl (fun r hr => ?_) Machine.steps_nil))
  · cases hr
    decide
  · cases hr
    decide
  · cases hr

/-- Six calls while the queue holds five; the sixth message is gone, and the
seventh is handed over behind the fifth. -/
theorem uplinks_in_order_fails : ¬ ∀ is : List TxStep, txQueue.Always InOrder ({}, {}) is := by
  intro h
  refine Machine.not_always_of_run (M := txQueue) ({}, {})
    ([1, 2, 3, 4, 5, 6].map sampleRequest ++ sampleSend ++ [sampleRequest 7] ++ sampleSend ++ sampleSend ++ sampleSend ++
      sampleSend ++ sampleSend) ?_ (h _)
  decide +kernel

end Aqualarm
