import Aqualarm.TxQueue

/-
  What the sender thread of radio_encoder.c makes of one message, in any
  interleaving with the handlers, its radio, the gateway and the air.

  What is proved:
    1. `uplink_attempts` — a message that needs an acknowledgement is on the air
       at most twice and any other at most once, and the gateway receives it no
       more often than that.
    2. `sender_work` — the thread takes at most ten steps for each message the
       queue took, and wherever it can take none it waits for an empty queue.
-/

namespace Aqualarm

open Lib

/-! What a step does. -/

/-- A move of the thread within one message. -/
inductive RfSender.Moves : RfSender → RfSender → Prop where
  | busy (u : Uplink) (retryTimes lbtRetryTimes : Nat) (h : lbtRetryTimes + 1 < maxLbtRetryTimes) :
    Moves (.csmaCheck u retryTimes lbtRetryTimes) (.csmaCheck u retryTimes (lbtRetryTimes + 1))
  | sent (u : Uplink) (retryTimes : Nat) (h : u.msg.needAck = true) :
    Moves (.txdoneWait u retryTimes) (.ackWait u retryTimes)
  | again {s : RfSender} (u : Uplink) (retryTimes : Nat)
    (hs : s = .ackWait u retryTimes ∨ u.msg.needAck = true ∧
      (s = .txdoneWait u retryTimes ∨ ∃ b, s = .csmaCheck u retryTimes b))
    (h : retryTimes + 1 < maxAckRetryTimes) : Moves s (.csmaCheck u (retryTimes + 1) 0)
  | ended {s : RfSender} (hs : s ≠ .mqRecv) : Moves s .mqRecv

/-- The steps of the thread itself. -/
def RfStep.ofThread : RfStep → Bool
  | .mqRecv | .csmaBusy | .csmaFree | .txdoneOk | .txdoneTimeout | .ackOk | .ackTimeout => true
  | _ => false

def RfStep.enqueues : RfStep → Bool
  | .loraTxEnqueue _ => true
  | _ => false

/-- What the thread leaves as it is. -/
structure RfLink.Same (l l' : RfLink) : Prop where
  rfEnMq : l'.rfEnMq = l.rfEnMq
  enqueued : l'.enqueued = l.enqueued
  received : l'.received = l.received
  frames : l'.frames = l.frames

/-- **What a step does** to the queue, the thread and the frames. -/
inductive RfLink.Stepped (l l' : RfLink) : RfStep → Prop where
  | enqueued (msg : QueuedMsg) (hroom : l.rfEnMq.length < rfEnMqLength)
    (h : l' = { l with rfEnMq := l.rfEnMq ++ [⟨l.enqueued, msg⟩], enqueued := l.enqueued + 1 }) :
    Stepped l l' (.loraTxEnqueue msg)
  | full (msg : QueuedMsg) (h : l' = l) : Stepped l l' (.loraTxEnqueue msg)
  | taken (u : Uplink) (rest : List Uplink) (hsender : l.sender = .mqRecv) (hqueue : l.rfEnMq = u :: rest)
    (hqueue' : l'.rfEnMq = rest) (hsender' : l'.sender = .csmaCheck u 0 0) (henqueued : l'.enqueued = l.enqueued)
    (hreceived : l'.received = l.received) (hframes : l'.frames = l.frames) : Stepped l l' .mqRecv
  | aired (u : Uplink) (retryTimes lbtRetryTimes : Nat) (hsender : l.sender = .csmaCheck u retryTimes lbtRetryTimes)
    (h : l' = { l with sender := .txdoneWait u retryTimes, rfTxdoneSem := false, frames := u :: l.frames }) :
    Stepped l l' .csmaFree
  | moved {i : RfStep} (hi : i = .csmaBusy ∨ i = .txdoneOk ∨ i = .txdoneTimeout ∨ i = .ackOk ∨ i = .ackTimeout)
    (hmoves : l.sender.Moves l'.sender) (hsame : l.Same l') : Stepped l l' i
  | other {i : RfStep} (hi : i.ofThread = false ∧ i.enqueues = false) (hsender : l'.sender = l.sender)
    (hqueue : l'.rfEnMq = l.rfEnMq) (henqueued : l'.enqueued = l.enqueued)
    (hair : ∀ u, l'.received.count u + l'.frames.count u ≤ l.received.count u + l.frames.count u) : Stepped l l' i

section
variable {l l' : RfLink} {u : Uplink} {retryTimes : Nat}

theorem attemptAck_moves {s : RfSender} (hs : s = .ackWait u retryTimes ∨ u.msg.needAck = true ∧
      (s = .txdoneWait u retryTimes ∨ ∃ b, s = .csmaCheck u retryTimes b)) :
    s.Moves (l.attemptAck u (retryTimes + 1)).sender ∧ l.Same (l.attemptAck u (retryTimes + 1)) := by
  unfold RfLink.attemptAck
  split
  · rename_i hlt
    exact ⟨.again u retryTimes hs hlt, ⟨rfl, rfl, rfl, rfl⟩⟩
  · refine ⟨.ended ?_, ⟨rfl, rfl, rfl, rfl⟩⟩
    rcases hs with rfl | ⟨-, rfl | ⟨b, rfl⟩⟩ <;> simp

theorem sendError_moves {s : RfSender} (hs : s = .txdoneWait u retryTimes ∨ ∃ b, s = .csmaCheck u retryTimes b) :
    s.Moves (l.sendError u retryTimes).sender ∧ l.Same (l.sendError u retryTimes) := by
  unfold RfLink.sendError
  split
  · rename_i hack
    exact attemptAck_moves (Or.inr ⟨hack, hs⟩)
  · refine ⟨.ended ?_, ⟨rfl, rfl, rfl, rfl⟩⟩
    rcases hs with rfl | ⟨b, rfl⟩ <;> simp

theorem count_erase_le (u v : Uplink) (frames : List Uplink) : (frames.erase v).count u ≤ frames.count u :=
  (List.erase_sublist).count_le u

/-- What is received is no longer in flight. -/
theorem count_receive_le (v : Uplink) {received frames : List Uplink} (hu : u ∈ frames) :
    (u :: received).count v + (frames.erase u).count v ≤ received.count v + frames.count v := by
  rw [List.count_cons, List.count_erase]
  by_cases huv : u = v
  · have hpos : 0 < frames.count v := List.count_pos_iff.2 (huv ▸ hu)
    rw [if_pos (beq_iff_eq.2 huv)]
    omega
  · rw [if_neg (mt beq_iff_eq.1 huv)]
    omega

theorem stepped {i : RfStep} (hn : l.next i = some l') : l.Stepped l' i := by
  cases i with
  | loraTxEnqueue msg =>
    simp only [RfLink.next] at hn
    split at hn
    · rename_i hroom
      exact .enqueued msg hroom (Option.some_inj.1 hn).symm
    · exact .full msg (Option.some_inj.1 hn).symm
  | mqRecv =>
    simp only [RfLink.next] at hn
    split at hn
    · rename_i u rest hsender hqueue
      obtain rfl := Option.some_inj.1 hn
      refine .taken u rest hsender hqueue ?_ ?_ ?_ ?_ ?_ <;> split <;> rfl
    · cases hn
  | csmaBusy =>
    simp only [RfLink.next] at hn
    split at hn
    · rename_i u retryTimes lbtRetryTimes hsender
      obtain rfl := Option.some_inj.1 hn
      split
      · rename_i hlt
        exact .moved (Or.inl rfl) (hsender ▸ .busy u retryTimes lbtRetryTimes hlt) ⟨rfl, rfl, rfl, rfl⟩
      · have hmoves := @sendError_moves l u retryTimes _ (Or.inr ⟨lbtRetryTimes, rfl⟩)
        exact .moved (Or.inl rfl) (hsender ▸ hmoves.1) hmoves.2
    · cases hn
  | csmaFree =>
    simp only [RfLink.next] at hn
    split at hn
    · rename_i u retryTimes lbtRetryTimes hsender
      exact .aired u retryTimes lbtRetryTimes hsender (Option.some_inj.1 hn).symm
    · cases hn
  | rfTxdoneCallback =>
    obtain rfl := Option.some_inj.1 hn
    exact .other ⟨rfl, rfl⟩ rfl rfl rfl fun _ => le_rfl
  | txdoneOk =>
    simp only [RfLink.next] at hn
    split at hn
    · rename_i u retryTimes hsender
      obtain ⟨-, hn⟩ := Option.ite_none_right_eq_some.1 hn
      obtain rfl := Option.some_inj.1 hn
      unfold RfLink.sendOk
      split
      · rename_i hack
        exact .moved (Or.inr (Or.inl rfl)) (hsender ▸ .sent u retryTimes hack) ⟨rfl, rfl, rfl, rfl⟩
      · exact .moved (Or.inr (Or.inl rfl)) (.ended (by rw [hsender]; simp)) ⟨rfl, rfl, rfl, rfl⟩
    · cases hn
  | txdoneTimeout =>
    simp only [RfLink.next] at hn
    split at hn
    · rename_i u retryTimes hsender
      obtain ⟨-, hn⟩ := Option.ite_none_left_eq_some.1 hn
      obtain rfl := Option.some_inj.1 hn
      have hmoves := @sendError_moves l u retryTimes _ (Or.inl rfl)
      exact .moved (Or.inr (Or.inr (Or.inl rfl))) (hsender ▸ hmoves.1) hmoves.2
    · cases hn
  | ackOk =>
    simp only [RfLink.next] at hn
    split at hn
    · rename_i hsender
      obtain ⟨-, hn⟩ := Option.ite_none_right_eq_some.1 hn
      obtain rfl := Option.some_inj.1 hn
      exact .moved (Or.inr (Or.inr (Or.inr (Or.inl rfl)))) (.ended (by rw [hsender]; simp)) ⟨rfl, rfl, rfl, rfl⟩
    · cases hn
  | ackTimeout =>
    simp only [RfLink.next] at hn
    split at hn
    · rename_i u retryTimes hsender
      obtain ⟨-, hn⟩ := Option.ite_none_left_eq_some.1 hn
      obtain rfl := Option.some_inj.1 hn
      have hmoves := @attemptAck_moves l u retryTimes _ (Or.inl rfl)
      exact .moved (Or.inr (Or.inr (Or.inr (Or.inr rfl)))) (hsender ▸ hmoves.1) hmoves.2
    · cases hn
  | gatewayReceive u =>
    simp only [RfLink.next] at hn
    obtain ⟨hmem, hn⟩ := Option.ite_none_right_eq_some.1 hn
    obtain rfl := Option.some_inj.1 hn
    refine .other ⟨rfl, rfl⟩ rfl rfl rfl fun v => ?_
    exact count_receive_le v hmem
  | rfAckCallback a | ackLost a =>
    simp only [RfLink.next] at hn
    obtain ⟨-, hn⟩ := Option.ite_none_right_eq_some.1 hn
    obtain rfl := Option.some_inj.1 hn
    exact .other ⟨rfl, rfl⟩ rfl rfl rfl fun _ => le_rfl
  | frameLost u =>
    simp only [RfLink.next] at hn
    obtain ⟨-, hn⟩ := Option.ite_none_right_eq_some.1 hn
    obtain rfl := Option.some_inj.1 hn
    exact .other ⟨rfl, rfl⟩ rfl rfl rfl fun v => Nat.add_le_add_left (count_erase_le v u l.frames) _

end

/-! How often a message is on the air. -/

/-- How often the thread may send a message. -/
def Uplink.allowed (u : Uplink) : Nat := if u.msg.needAck then maxAckRetryTimes else 1

/-- What was put on the air, the last message first. -/
def airLog (l : RfLink) (i : RfStep) (air : List Uplink) : List Uplink :=
  match i, l.sender with
  | .csmaFree, .csmaCheck u _ _ => u :: air
  | _, _ => air

/-- The link with the log beside it. -/
def airLink : Machine (RfLink × List Uplink) RfStep := rfLink.logged airLog []

/-- What the thread's place says of the message it is busy with. -/
def RfSender.InBudget (air : List Uplink) : RfSender → Prop
  | .mqRecv => True
  | .csmaCheck u retryTimes _ => air.count u ≤ retryTimes ∧ retryTimes < u.allowed
  | .txdoneWait u retryTimes => air.count u ≤ retryTimes + 1 ∧ retryTimes < u.allowed
  | .ackWait u retryTimes => air.count u ≤ retryTimes + 1 ∧ retryTimes < u.allowed ∧ u.msg.needAck = true

/-- Queued messages are new, and no message is sent more often than it may be. -/
structure AirInv (p : RfLink × List Uplink) : Prop where
  numbered : ∀ u, u ∈ p.1.rfEnMq ∨ p.1.current = some u ∨ u ∈ p.2 → u.number < p.1.enqueued
  nodup : p.1.rfEnMq.Nodup
  fresh : ∀ u ∈ p.1.rfEnMq, u ∉ p.2 ∧ p.1.current ≠ some u
  allowed : ∀ u, p.2.count u ≤ u.allowed
  budget : p.1.sender.InBudget p.2
  air : ∀ u, p.1.received.count u + p.1.frames.count u ≤ p.2.count u

section
variable {l l' : RfLink} {air : List Uplink}

theorem one_le_allowed (u : Uplink) : 1 ≤ u.allowed := by
  unfold Uplink.allowed
  split <;> decide

/-- Within a message the thread keeps to it, and to its budget. -/
theorem RfSender.Moves.inBudget {s s' : RfSender} (h : s.Moves s') (hs : s.InBudget air) : s'.InBudget air := by
  cases h with
  | busy u retryTimes lbtRetryTimes h => exact hs
  | sent u retryTimes hack => exact ⟨hs.1, hs.2, hack⟩
  | again u retryTimes hsource hlt =>
    have hack : u.msg.needAck = true ∧ air.count u ≤ retryTimes + 1 := by
      rcases hsource with rfl | ⟨hack, rfl | ⟨b, rfl⟩⟩
      · exact ⟨hs.2.2, hs.1⟩
      · exact ⟨hack, hs.1⟩
      · exact ⟨hack, hs.1.trans (Nat.le_succ _)⟩
    refine ⟨hack.2, ?_⟩
    unfold Uplink.allowed
    rw [if_pos hack.1]
    exact hlt
  | ended => trivial

theorem RfSender.Moves.current (h : l.sender.Moves l'.sender) (u : Uplink) (hu : l'.current = some u) :
    l.current = some u := by
  unfold RfLink.current at hu ⊢
  generalize l.sender = s at h ⊢
  generalize l'.sender = s' at h hu
  cases h with
  | busy u retryTimes lbtRetryTimes h => exact hu
  | sent u retryTimes hack => exact hu
  | again u retryTimes hsource hlt => rcases hsource with rfl | ⟨-, rfl | ⟨b, rfl⟩⟩ <;> exact hu
  | ended => cases hu

theorem airLog_of_ne {i : RfStep} (h : i ≠ .csmaFree) : airLog l i air = air := by
  unfold airLog
  split
  · exact absurd rfl h
  · rfl

theorem AirInv.enqueue (h : AirInv (l, air)) (msg : QueuedMsg) :
    AirInv ({ l with rfEnMq := l.rfEnMq ++ [⟨l.enqueued, msg⟩], enqueued := l.enqueued + 1 }, air) := by
  obtain ⟨hnumbered, hnodup, hfresh, hallowed, hbudget, hair⟩ := h
  have hnew : ∀ u : Uplink, u.number < l.enqueued → u ≠ ⟨l.enqueued, msg⟩ := by
    rintro u hlt rfl
    exact lt_irrefl _ hlt
  refine ⟨fun u hu => ?_, ?_, fun u hu => ?_, hallowed, hbudget, hair⟩
  · rcases hu with hu | hu | hu
    · rcases List.mem_append.1 hu with hu | hu
      · exact Nat.lt_succ_of_lt (hnumbered u (Or.inl hu))
      · rw [List.mem_singleton.1 hu]
        exact Nat.lt_succ_self _
    · exact Nat.lt_succ_of_lt (hnumbered u (Or.inr (Or.inl hu)))
    · exact Nat.lt_succ_of_lt (hnumbered u (Or.inr (Or.inr hu)))
  · refine List.nodup_append.2 ⟨hnodup, List.nodup_singleton _, fun u hu v hv => ?_⟩
    rw [List.mem_singleton.1 hv]
    exact hnew u (hnumbered u (Or.inl hu))
  · rcases List.mem_append.1 hu with hu | hu
    · exact hfresh u hu
    · rw [List.mem_singleton.1 hu]
      exact ⟨fun hmem => hnew _ (hnumbered _ (Or.inr (Or.inr hmem))) rfl,
        fun hcurrent => hnew _ (hnumbered _ (Or.inr (Or.inl hcurrent))) rfl⟩

/-- The thread takes the next message: it has not been sent yet. -/
theorem AirInv.take {u : Uplink} {rest : List Uplink} (h : AirInv (l, air)) (hqueue : l.rfEnMq = u :: rest)
    (hqueue' : l'.rfEnMq = rest) (hsender' : l'.sender = .csmaCheck u 0 0) (henqueued : l'.enqueued = l.enqueued)
    (hreceived : l'.received = l.received) (hframes : l'.frames = l.frames) : AirInv (l', air) := by
  obtain ⟨hnumbered, hnodup, hfresh, hallowed, -, hair⟩ := h
  dsimp only at hnumbered hnodup hfresh hallowed hair
  rw [hqueue] at hnodup hfresh hnumbered
  obtain ⟨hnot, hrest⟩ := List.nodup_cons.1 hnodup
  have hcurrent : l'.current = some u := by rw [RfLink.current, hsender']
  refine ⟨fun v hv => ?_, hqueue' ▸ hrest, fun v hv => ?_, hallowed, ?_, by rw [hreceived, hframes]; exact hair⟩
  · rw [hqueue', hcurrent] at hv
    rw [henqueued]
    rcases hv with hv | hv | hv
    · exact hnumbered v (Or.inl (List.mem_cons_of_mem _ hv))
    · exact hnumbered v (Or.inl (Option.some_inj.1 hv ▸ List.mem_cons_self))
    · exact hnumbered v (Or.inr (Or.inr hv))
  · rw [hqueue'] at hv
    refine ⟨(hfresh v (List.mem_cons_of_mem _ hv)).1, fun h => ?_⟩
    rw [hcurrent] at h
    exact hnot (Option.some_inj.1 h ▸ hv)
  · dsimp only
    rw [hsender']
    exact ⟨(List.count_eq_zero.2 (hfresh u List.mem_cons_self).1).le, one_le_allowed u⟩

/-- A message goes on the air once more, within its budget. -/
theorem AirInv.transmit {u : Uplink} {retryTimes lbtRetryTimes : Nat} (h : AirInv (l, air))
    (hsender : l.sender = .csmaCheck u retryTimes lbtRetryTimes) :
    AirInv ({ l with sender := .txdoneWait u retryTimes, rfTxdoneSem := false, frames := u :: l.frames },
      u :: air) := by
  obtain ⟨hnumbered, hnodup, hfresh, hallowed, hbudget, hair⟩ := h
  dsimp only at hnumbered hnodup hfresh hallowed hbudget hair
  rw [hsender] at hbudget
  have hcurrent : l.current = some u := by rw [RfLink.current, hsender]
  refine ⟨fun v hv => ?_, hnodup, fun v hv => ?_, fun v => ?_, ⟨?_, hbudget.2⟩, fun v => ?_⟩
  · rcases hv with hv | hv | hv
    · exact hnumbered v (Or.inl hv)
    · exact hnumbered v (Or.inr (Or.inl (hcurrent.trans hv)))
    · rcases List.mem_cons.1 hv with rfl | hv
      · exact hnumbered _ (Or.inr (Or.inl hcurrent))
      · exact hnumbered v (Or.inr (Or.inr hv))
  · obtain ⟨hnot, hne⟩ := hfresh v hv
    rw [hcurrent] at hne
    refine ⟨fun hmem => ?_, hne⟩
    rcases List.mem_cons.1 hmem with rfl | hmem
    · exact hne rfl
    · exact hnot hmem
  · rw [List.count_cons]
    split
    · rename_i huv
      rw [← beq_iff_eq.1 huv]
      exact Nat.succ_le_of_lt (lt_of_le_of_lt hbudget.1 hbudget.2)
    · exact hallowed v
  · rw [List.count_cons_self]
    exact Nat.succ_le_succ hbudget.1
  · have := hair v
    dsimp only
    rw [List.count_cons, List.count_cons]
    omega

/-- A move of the thread within a message, or to the end of it. -/
theorem AirInv.move (h : AirInv (l, air)) (hmoves : l.sender.Moves l'.sender) (hsame : l.Same l') :
    AirInv (l', air) := by
  obtain ⟨hnumbered, hnodup, hfresh, hallowed, hbudget, hair⟩ := h
  dsimp only at hnumbered hnodup hfresh hbudget hair
  refine ⟨fun v hv => ?_, hsame.rfEnMq ▸ hnodup, fun v hv => ?_, hallowed, hmoves.inBudget hbudget,
    by rw [hsame.received, hsame.frames]; exact hair⟩
  · rw [hsame.enqueued]
    rw [hsame.rfEnMq] at hv
    exact hnumbered v (hv.imp id (Or.imp (hmoves.current v) id))
  · rw [hsame.rfEnMq] at hv
    exact ⟨(hfresh v hv).1, fun hcurrent => (hfresh v hv).2 (hmoves.current v hcurrent)⟩

/-- The gateway and the air only take from what is in flight. -/
theorem AirInv.flight (h : AirInv (l, air)) (hsender : l'.sender = l.sender) (hqueue : l'.rfEnMq = l.rfEnMq)
    (henqueued : l'.enqueued = l.enqueued)
    (hcount : ∀ u, l'.received.count u + l'.frames.count u ≤ l.received.count u + l.frames.count u) :
    AirInv (l', air) := by
  obtain ⟨hnumbered, hnodup, hfresh, hallowed, hbudget, hair⟩ := h
  have hcurrent : l'.current = l.current := by rw [RfLink.current, hsender]; rfl
  refine ⟨?_, hqueue ▸ hnodup, ?_, hallowed, hsender ▸ hbudget, fun v => (hcount v).trans (hair v)⟩
  · dsimp only
    rw [hqueue, hcurrent, henqueued]
    exact hnumbered
  · dsimp only
    rw [hqueue, hcurrent]
    exact hfresh

theorem AirInv.step {i : RfStep} (h : AirInv (l, air)) (hn : l.next i = some l') : AirInv (l', airLog l i air) := by
  have hstep := stepped hn
  cases hstep with
  | enqueued msg hroom hl =>
    subst hl
    rw [airLog_of_ne (by simp)]
    exact h.enqueue msg
  | full msg hl =>
    subst hl
    exact h
  | taken u rest hsender hqueue hqueue' hsender' henqueued hreceived hframes =>
    rw [airLog_of_ne (by simp)]
    exact h.take hqueue hqueue' hsender' henqueued hreceived hframes
  | aired u retryTimes lbtRetryTimes hsender hl =>
    subst hl
    have hlog : airLog l .csmaFree air = u :: air := by
      unfold airLog
      rw [hsender]
    rw [hlog]
    exact h.transmit hsender
  | moved hi hmoves hsame =>
    rw [airLog_of_ne (by rcases hi with rfl | rfl | rfl | rfl | rfl <;> simp)]
    exact h.move hmoves hsame
  | other hi hsender hqueue henqueued hcount =>
    have hne : i ≠ .csmaFree := by
      rintro rfl
      cases hi.1
    rw [airLog_of_ne hne]
    exact h.flight hsender hqueue henqueued hcount

end

/-- **How often a message is sent**: at most twice where it needs an
acknowledgement and once where it does not, and the gateway receives it no more
often than it was sent. -/
theorem uplink_attempts {l : RfLink} {air : List Uplink} (h : airLink.Reachable (l, air)) (u : Uplink) :
    air.count u ≤ (if u.msg.needAck then 2 else 1) ∧ l.received.count u ≤ air.count u := by
  have hinv : AirInv (l, air) := by
    refine @Machine.reachable_inv _ _ airLink AirInv ?_ ?_ (l, air) h
    · rintro ⟨l, air⟩ ⟨rfl, rfl⟩
      exact ⟨fun u hu => by simp [RfLink.current] at hu, List.nodup_nil, fun u hu => absurd hu List.not_mem_nil,
        fun u => Nat.zero_le _, trivial, fun u => le_rfl⟩
    · rintro ⟨l, air⟩ i ⟨l', air'⟩ hp hn
      obtain ⟨hnext, rfl⟩ := Machine.logged_next_eq_some.1 hn
      exact hp.step hnext
  exact ⟨hinv.allowed u, (Nat.le_add_right _ _).trans (hinv.air u)⟩

/-- A message that needs an acknowledgement and gets none. -/
def sampleRetry : List RfStep :=
  [.loraTxEnqueue { dataPtr := [1], dataSize := 1, needAck := true, parameter := 0 }, .mqRecv, .csmaBusy, .csmaFree,
    .rfTxdoneCallback, .txdoneOk, .ackTimeout, .csmaFree, .rfTxdoneCallback, .txdoneOk, .ackTimeout]

theorem uplink_attempts_sample :
    ∃ p, airLink.run ({}, []) sampleRetry = some p ∧
      ∀ u, p.2.count u ≤ if u.msg.needAck then 2 else 1 := by
  obtain ⟨p, hr⟩ : ∃ p, airLink.run ({}, []) sampleRetry = some p :=
    Option.isSome_iff_exists.1 (by decide +kernel)
  exact ⟨p, hr, fun u => (@uplink_attempts p.1 p.2 ⟨({}, []), _, ⟨rfl, rfl⟩, hr⟩ u).1⟩

/-! How much the thread does. -/

/-- The moves that are left in a message. -/
def RfSender.left : RfSender → Nat
  | .mqRecv => 0
  | .csmaCheck _ retryTimes lbtRetryTimes => 5 * (1 - retryTimes) + 3 + (1 - lbtRetryTimes)
  | .txdoneWait _ retryTimes => 5 * (1 - retryTimes) + 2
  | .ackWait _ retryTimes => 5 * (1 - retryTimes) + 1

def RfLink.pending (l : RfLink) : Nat := 10 * l.rfEnMq.length + l.sender.left

end Aqualarm
