import Aqualarm.LoraTx
import Aqualarm.Frames

/-
  The sender thread of radio_encoder.c, `rf_encode_entry` with
  `rf_send_with_lbt`, against a gateway that answers each confirmed uplink it
  receives with one CONFIRM_ACK frame. Frames and acknowledgements may stay in
  flight for any time and may be lost; none is made up.

  What is proved: `ack_attribution` — in a run in which no acknowledgement of
  another message arrives while an attempt at a message the gateway does not
  have is on, the thread takes a message for acknowledged only when the gateway
  has received it; and from any run in which one does arrive so, the thread
  alone can go on to take a message for acknowledged that nobody received.

  An acknowledgement names no message. `rt_completion_init`, before each attempt,
  discards those that came earlier, but not those that come later.
  `rfAckSem_handle` ties `rf_ack_sem` to the unit's frames.
-/

namespace Aqualarm

open Lib

/-- A message in the queue. The number is not in the frame: it tells equal
messages apart. -/
structure Uplink where
  number : Nat
  msg : QueuedMsg
  deriving DecidableEq, Repr

/-- Where `rf_encode_entry` stands: waiting for the queue, about to check the
channel, waiting for the transmission to end, waiting for the acknowledgement. -/
inductive RfSender where
  | mqRecv
  | csmaCheck (u : Uplink) (retryTimes lbtRetryTimes : Nat)
  | txdoneWait (u : Uplink) (retryTimes : Nat)
  | ackWait (u : Uplink) (retryTimes : Nat)
  deriving DecidableEq, Repr

/-- The sender's variables, the gateway's log, and what is in flight. -/
structure RfLink where
  rfEnMq : List Uplink := []
  sender : RfSender := .mqRecv
  rfAckSem : Bool := false
  rfTxdoneSem : Bool := false
  frames : List Uplink := []
  received : List Uplink := []
  acks : List Uplink := []
  enqueued : Nat := 0

def maxLbtRetryTimes : Nat := 2
def maxAckRetryTimes : Nat := 2

/-- The length `rf_en_mq` is created with. -/
def rfEnMqLength : Nat := 5

/-- One step of the sender, of the interrupts, of the gateway or of the air. -/
inductive RfStep where
  | loraTxEnqueue (msg : QueuedMsg)
  | mqRecv
  | csmaBusy | csmaFree
  | rfTxdoneCallback
  | txdoneOk | txdoneTimeout
  | ackOk | ackTimeout
  | gatewayReceive (u : Uplink)
  | rfAckCallback (a : Uplink)
  | frameLost (u : Uplink)
  | ackLost (a : Uplink)

namespace RfLink

/-- The attempt `retryTimes` of a message that needs an acknowledgement, if the
loop makes it: `rt_completion_init(&rf_ack_sem)` first. -/
def attemptAck (u : Uplink) (retryTimes : Nat) (l : RfLink) : RfLink :=
  if retryTimes < maxAckRetryTimes then { l with sender := .csmaCheck u retryTimes 0, rfAckSem := false }
  else { l with sender := .mqRecv }

/-- `rf_send_with_lbt` has returned `RT_EOK`. -/
def sendOk (u : Uplink) (retryTimes : Nat) (l : RfLink) : RfLink :=
  if u.msg.needAck then { l with sender := .ackWait u retryTimes } else { l with sender := .mqRecv }

/-- `rf_send_with_lbt` has returned `RT_ERROR`. -/
def sendError (u : Uplink) (retryTimes : Nat) (l : RfLink) : RfLink :=
  if u.msg.needAck then l.attemptAck u (retryTimes + 1) else { l with sender := .mqRecv }

def next (l : RfLink) : RfStep → Option RfLink
  | .loraTxEnqueue msg =>
    -- rt_mq_send on a full queue fails, and the message is gone
    if l.rfEnMq.length < rfEnMqLength then
      some { l with rfEnMq := l.rfEnMq ++ [⟨l.enqueued, msg⟩], enqueued := l.enqueued + 1 }
    else some l
  | .mqRecv =>
    match l.sender, l.rfEnMq with
    | .mqRecv, u :: rest =>
      let l := { l with rfEnMq := rest }
      some (if u.msg.needAck then l.attemptAck u 0 else { l with sender := .csmaCheck u 0 0 })
    | _, _ => none
  | .csmaBusy =>
    match l.sender with
    | .csmaCheck u retryTimes lbtRetryTimes =>
      some (if lbtRetryTimes + 1 < maxLbtRetryTimes then
        { l with sender := .csmaCheck u retryTimes (lbtRetryTimes + 1) } else l.sendError u retryTimes)
    | _ => none
  | .csmaFree =>
    match l.sender with
    | .csmaCheck u retryTimes _ =>
      some { l with sender := .txdoneWait u retryTimes, rfTxdoneSem := false, frames := u :: l.frames }
    | _ => none
  | .rfTxdoneCallback => some { l with rfTxdoneSem := true }
  | .txdoneOk =>
    match l.sender with
    | .txdoneWait u retryTimes =>
      if l.rfTxdoneSem then some ({ l with rfTxdoneSem := false }.sendOk u retryTimes) else none
    | _ => none
  | .txdoneTimeout =>
    match l.sender with
    | .txdoneWait u retryTimes => if l.rfTxdoneSem then none else some (l.sendError u retryTimes)
    | _ => none
  | .ackOk =>
    match l.sender with
    | .ackWait _ _ => if l.rfAckSem then some { l with rfAckSem := false, sender := .mqRecv } else none
    | _ => none
  | .ackTimeout =>
    match l.sender with
    | .ackWait u retryTimes => if l.rfAckSem then none else some (l.attemptAck u (retryTimes + 1))
    | _ => none
  | .gatewayReceive u =>
    if u ∈ l.frames then
      some
        { l with
          frames := l.frames.erase u, received := u :: l.received
          acks := if u.msg.needAck then u :: l.acks else l.acks }
    else none
  | .rfAckCallback a =>
    if a ∈ l.acks then some { l with acks := l.acks.erase a, rfAckSem := true } else none
  | .frameLost u => if u ∈ l.frames then some { l with frames := l.frames.erase u } else none
  | .ackLost a => if a ∈ l.acks then some { l with acks := l.acks.erase a } else none

/-- The message an attempt is on, where it needs an acknowledgement. -/
def attempted (l : RfLink) : Option Uplink :=
  match l.sender with
  | .mqRecv => none
  | .csmaCheck u _ _ | .txdoneWait u _ | .ackWait u _ => if u.msg.needAck then some u else none

end RfLink

/-- The link from power-on. -/
def rfLink : Machine RfLink RfStep where
  start l := l = {}
  next := RfLink.next

/-! What should hold, and when it does. -/

/-- The wait for an acknowledgement ends well only for a message the gateway
has. -/
def AckAttributed (l : RfLink) (i : RfStep) : Prop :=
  ∀ u retryTimes, i = .ackOk → l.sender = .ackWait u retryTimes → u ∈ l.received

/-- No acknowledgement of another message arrives in an attempt at a message the
gateway does not have. -/
def AckTimely (l : RfLink) (i : RfStep) : Prop :=
  ∀ a u, i = .rfAckCallback a → l.attempted = some u → a = u ∨ u ∈ l.received

/-- The steps of the sender and of its radio: nothing is enqueued, and the air
and the gateway do nothing. -/
def RfStep.OfSender : RfStep → Prop
  | .mqRecv | .csmaBusy | .csmaFree | .rfTxdoneCallback | .txdoneOk | .txdoneTimeout | .ackOk | .ackTimeout => True
  | _ => False

/-- Acknowledgements in flight are of messages the gateway has, a completed
`rf_ack_sem` is good for the attempt that is on, and only messages that need an
acknowledgement are waited for. -/
structure AckInv (l : RfLink) : Prop where
  acks : ∀ a ∈ l.acks, a ∈ l.received
  completed : l.rfAckSem = true → ∀ u, l.attempted = some u → u ∈ l.received
  waiting : ∀ u retryTimes, l.sender = .ackWait u retryTimes → u.msg.needAck = true

section
variable {l l' : RfLink} {u : Uplink} {retryTimes : Nat}

/-- A step that only moves the sender on keeps the invariant, if it stays on its
message or begins an attempt with `rf_ack_sem` clear. -/
theorem AckInv.move (h : AckInv l) (hacks : l'.acks = l.acks) (hreceived : l'.received = l.received)
    (hsem : l'.rfAckSem = true → l.rfAckSem = true ∧ ∀ u, l'.attempted = some u → l.attempted = some u)
    (hwait : ∀ u retryTimes, l'.sender = .ackWait u retryTimes → u.msg.needAck = true) : AckInv l' where
  acks := by rw [hacks, hreceived]; exact h.acks
  completed hs u hu := by
    rw [hreceived]
    exact h.completed (hsem hs).1 u ((hsem hs).2 u hu)
  waiting := hwait

theorem AckInv.attemptAck (h : AckInv l) : AckInv (l.attemptAck u retryTimes) := by
  unfold RfLink.attemptAck
  split_ifs
  · refine h.move rfl rfl (fun hs => ?_) (fun _ _ hw => ?_)
    · cases hs
    · cases hw
  · refine h.move rfl rfl (fun hs => ⟨hs, fun _ hu => ?_⟩) (fun _ _ hw => ?_)
    · cases hu
    · cases hw

theorem AckInv.toMqRecv (h : AckInv l) : AckInv { l with sender := .mqRecv } := by
  refine h.move rfl rfl (fun hs => ⟨hs, fun _ hu => ?_⟩) (fun _ _ hw => ?_)
  · cases hu
  · cases hw

theorem AckInv.sendError (h : AckInv l) : AckInv (l.sendError u retryTimes) := by
  unfold RfLink.sendError
  split_ifs
  · exact h.attemptAck
  · exact h.toMqRecv

/-- A step that leaves `rf_ack_sem` and the message attempted as they are. -/
theorem AckInv.stay (h : AckInv l) (hacks : l'.acks = l.acks) (hreceived : l'.received = l.received)
    (hsem : l'.rfAckSem = l.rfAckSem) (hattempted : l'.attempted = l.attempted)
    (hwait : ∀ u retryTimes, l'.sender = .ackWait u retryTimes → u.msg.needAck = true) : AckInv l' :=
  h.move hacks hreceived (fun hs => ⟨hsem ▸ hs, fun _ hu => hattempted ▸ hu⟩) hwait

theorem AckInv.enqueue (h : AckInv l) {msg : QueuedMsg} (hn : rfLink.next l (.loraTxEnqueue msg) = some l') :
    AckInv l' := by
  simp only [rfLink, RfLink.next] at hn
  split_ifs at hn <;> obtain rfl := Option.some.inj hn
  · exact h.stay rfl rfl rfl rfl h.waiting
  · exact h

theorem AckInv.recv (h : AckInv l) (hn : rfLink.next l .mqRecv = some l') : AckInv l' := by
  simp only [rfLink, RfLink.next] at hn
  split at hn
  · rename_i u rest hsender hqueue
    obtain rfl := Option.some.inj hn
    have hrest : AckInv { l with rfEnMq := rest } := h.stay rfl rfl rfl rfl h.waiting
    split_ifs with hneed
    · exact hrest.attemptAck
    · refine hrest.move rfl rfl (fun hs => ⟨hs, fun v hv => ?_⟩) (fun _ _ hw => ?_)
      · simp [RfLink.attempted, hneed] at hv
      · cases hw
  · cases hn

theorem AckInv.csmaBusy (h : AckInv l) (hn : rfLink.next l .csmaBusy = some l') : AckInv l' := by
  simp only [rfLink, RfLink.next] at hn
  split at hn
  · rename_i u retryTimes lbtRetryTimes hsender
    obtain rfl := Option.some.inj hn
    split_ifs
    · exact h.stay rfl rfl rfl (by simp [RfLink.attempted, hsender]) (fun _ _ hw => by cases hw)
    · exact h.sendError
  · cases hn

theorem AckInv.csmaFree (h : AckInv l) (hn : rfLink.next l .csmaFree = some l') : AckInv l' := by
  simp only [rfLink, RfLink.next] at hn
  split at hn
  · rename_i u retryTimes lbtRetryTimes hsender
    obtain rfl := Option.some.inj hn
    exact h.stay rfl rfl rfl (by simp [RfLink.attempted, hsender]) (fun _ _ hw => by cases hw)
  · cases hn

theorem AckInv.txdoneOk (h : AckInv l) (hn : rfLink.next l .txdoneOk = some l') : AckInv l' := by
  simp only [rfLink, RfLink.next] at hn
  split at hn
  · rename_i u retryTimes hsender
    split_ifs at hn with hdone
    obtain rfl := Option.some.inj hn
    unfold RfLink.sendOk
    split_ifs with hneed
    · refine h.stay rfl rfl rfl (by simp [RfLink.attempted, hsender]) (fun v _ hw => ?_)
      cases hw
      exact hneed
    · refine h.move rfl rfl (fun hs => ⟨hs, fun _ hu => ?_⟩) (fun _ _ hw => ?_)
      · cases hu
      · cases hw
  · cases hn

theorem AckInv.txdoneTimeout (h : AckInv l) (hn : rfLink.next l .txdoneTimeout = some l') : AckInv l' := by
  simp only [rfLink, RfLink.next] at hn
  split at hn
  · split_ifs at hn
    obtain rfl := Option.some.inj hn
    exact h.sendError
  · cases hn

theorem AckInv.ackOk (h : AckInv l) (hn : rfLink.next l .ackOk = some l') : AckInv l' := by
  simp only [rfLink, RfLink.next] at hn
  split at hn
  · split_ifs at hn
    obtain rfl := Option.some.inj hn
    refine h.move rfl rfl (fun hs => ?_) (fun _ _ hw => ?_)
    · cases hs
    · cases hw
  · cases hn

theorem AckInv.ackTimeout (h : AckInv l) (hn : rfLink.next l .ackTimeout = some l') : AckInv l' := by
  simp only [rfLink, RfLink.next] at hn
  split at hn
  · split_ifs at hn
    obtain rfl := Option.some.inj hn
    exact h.attemptAck
  · cases hn

theorem AckInv.gatewayReceive (h : AckInv l) (hn : rfLink.next l (.gatewayReceive u) = some l') : AckInv l' := by
  simp only [rfLink, RfLink.next] at hn
  split_ifs at hn with hin hneed <;> obtain rfl := Option.some.inj hn
  · refine ⟨fun a ha => ?_, fun hs v hv => List.mem_cons_of_mem _ (h.completed hs v hv), h.waiting⟩
    rcases List.mem_cons.1 ha with rfl | ha
    · exact List.mem_cons_self
    · exact List.mem_cons_of_mem _ (h.acks a ha)
  · exact ⟨fun a ha => List.mem_cons_of_mem _ (h.acks a ha),
      fun hs v hv => List.mem_cons_of_mem _ (h.completed hs v hv), h.waiting⟩

/-- The condition: the acknowledgement is the attempt's own, or it does no harm. -/
theorem AckInv.confirmed {a : Uplink} (h : AckInv l) (hok : AckTimely l (.rfAckCallback a))
    (hn : rfLink.next l (.rfAckCallback a) = some l') : AckInv l' := by
  simp only [rfLink, RfLink.next] at hn
  split_ifs at hn with hin
  obtain rfl := Option.some.inj hn
  refine ⟨fun b hb => h.acks b (List.mem_of_mem_erase hb), fun _ v hv => ?_, h.waiting⟩
  obtain rfl | hreceived := hok a v rfl hv
  · exact h.acks a hin
  · exact hreceived

theorem AckInv.frameLost (h : AckInv l) (hn : rfLink.next l (.frameLost u) = some l') : AckInv l' := by
  simp only [rfLink, RfLink.next] at hn
  split_ifs at hn
  obtain rfl := Option.some.inj hn
  exact ⟨h.acks, h.completed, h.waiting⟩

theorem AckInv.ackLost (h : AckInv l) (hn : rfLink.next l (.ackLost u) = some l') : AckInv l' := by
  simp only [rfLink, RfLink.next] at hn
  split_ifs at hn
  obtain rfl := Option.some.inj hn
  exact ⟨fun b hb => h.acks b (List.mem_of_mem_erase hb), h.completed, h.waiting⟩

/-- **One step of the link** under the condition. -/
theorem AckInv.step {i : RfStep} (h : AckInv l) (hok : AckTimely l i) (hn : rfLink.next l i = some l') :
    AckInv l' := by
  cases i with
  | loraTxEnqueue msg => exact h.enqueue hn
  | mqRecv => exact h.recv hn
  | csmaBusy => exact h.csmaBusy hn
  | csmaFree => exact h.csmaFree hn
  | rfTxdoneCallback =>
    obtain rfl := Option.some.inj hn
    exact h.stay rfl rfl rfl rfl h.waiting
  | txdoneOk => exact h.txdoneOk hn
  | txdoneTimeout => exact h.txdoneTimeout hn
  | ackOk => exact h.ackOk hn
  | ackTimeout => exact h.ackTimeout hn
  | gatewayReceive u => exact h.gatewayReceive hn
  | rfAckCallback a => exact h.confirmed hok hn
  | frameLost u => exact h.frameLost hn
  | ackLost a => exact h.ackLost hn

/-- Under the invariant a wait that ends well is for a message the gateway has. -/
theorem AckInv.attributed {i : RfStep} (h : AckInv l) (hn : rfLink.next l i = some l') :
    AckAttributed l i := by
  rintro u retryTimes rfl hsender
  refine h.completed ?_ u (by simp [RfLink.attempted, hsender, h.waiting u retryTimes hsender])
  simp only [rfLink, RfLink.next, hsender] at hn
  split_ifs at hn with hsem
  exact hsem

theorem ackInv_start : AckInv {} where
  acks _ ha := by cases ha
  completed hs := by cases hs
  waiting _ _ hw := by cases hw

/-- The sender, waiting with `rf_ack_sem` completed, goes on at once. -/
theorem not_attributed_of_ackWait {l₀ : RfLink} {is : List RfStep} (hr : rfLink.run l₀ is = some l)
    (hsender : l.sender = .ackWait u retryTimes) (hsem : l.rfAckSem = true) (hu : u ∉ l.received) :
    ¬ rfLink.Steps (fun l i _ => AckAttributed l i) l₀ (is ++ [.ackOk]) := by
  intro h
  have hn : rfLink.next l .ackOk = some { l with rfAckSem := false, sender := .mqRecv } := by
    simp [rfLink, RfLink.next, hsender, hsem]
  exact hu (h is .ackOk l _ List.prefix_rfl hr hn u retryTimes rfl hsender)

theorem not_attributed_of_txdoneWait {l₀ : RfLink} {is : List RfStep} (hr : rfLink.run l₀ is = some l)
    (hsender : l.sender = .txdoneWait u retryTimes) (hneed : u.msg.needAck = true) (hsem : l.rfAckSem = true)
    (hu : u ∉ l.received) :
    ¬ rfLink.Steps (fun l i _ => AckAttributed l i) l₀ (is ++ [.rfTxdoneCallback, .txdoneOk, .ackOk]) := by
  have hrun : rfLink.run l₀ (is ++ [.rfTxdoneCallback, .txdoneOk]) =
      some { l with rfTxdoneSem := false, sender := .ackWait u retryTimes } := by
    rw [Machine.run_append, hr]
    simp [rfLink, Machine.run, RfLink.next, hsender, RfLink.sendOk, hneed]
  have h := not_attributed_of_ackWait hrun rfl hsem hu
  rwa [List.append_assoc] at h

/-- **A stale acknowledgement is enough.** With `rf_ack_sem` completed in an
attempt at a message the gateway does not have, the sender and its radio alone
bring the attempt to a false success. -/
theorem stale_ack_misattributed {l₀ : RfLink} {is : List RfStep} (hr : rfLink.run l₀ is = some l)
    (hu : l.attempted = some u) (hsem : l.rfAckSem = true) (hnot : u ∉ l.received) :
    ∃ js, (∀ j ∈ js, j.OfSender) ∧ ¬ rfLink.Steps (fun l i _ => AckAttributed l i) l₀ (is ++ js) := by
  cases hsender : l.sender with
  | mqRecv => simp [RfLink.attempted, hsender] at hu
  | csmaCheck v retryTimes lbtRetryTimes =>
    simp only [RfLink.attempted, hsender] at hu
    split_ifs at hu with hneed
    obtain rfl := Option.some.inj hu
    have hrun : rfLink.run l₀ (is ++ [.csmaFree]) =
        some { l with sender := .txdoneWait v retryTimes, rfTxdoneSem := false, frames := v :: l.frames } := by
      rw [Machine.run_append, hr]
      simp [rfLink, Machine.run, RfLink.next, hsender]
    have h := not_attributed_of_txdoneWait hrun rfl hneed hsem hnot
    rw [List.append_assoc] at h
    exact ⟨_, by simp [RfStep.OfSender], h⟩
  | txdoneWait v retryTimes =>
    simp only [RfLink.attempted, hsender] at hu
    split_ifs at hu with hneed
    obtain rfl := Option.some.inj hu
    exact ⟨_, by simp [RfStep.OfSender], not_attributed_of_txdoneWait hr hsender hneed hsem hnot⟩
  | ackWait v retryTimes =>
    simp only [RfLink.attempted, hsender] at hu
    split_ifs at hu
    obtain rfl := Option.some.inj hu
    exact ⟨_, by simp [RfStep.OfSender], not_attributed_of_ackWait hr hsender hsem hnot⟩

end

/-- **Acknowledgements are attributed** in every run in which none of another
message arrives in an attempt at a message the gateway does not have; after one
that does, the sender alone can misattribute it. -/
theorem ack_attribution (is : List RfStep) :
    (rfLink.Steps (fun l i _ => AckTimely l i) {} is →
      rfLink.Steps (fun l i _ => AckAttributed l i) {} is) ∧
    (¬ rfLink.Steps (fun l i _ => AckTimely l i) {} is →
      ∃ pre js, pre <+: is ∧ (∀ j ∈ js, j.OfSender) ∧
        ¬ rfLink.Steps (fun l i _ => AckAttributed l i) {} (pre ++ js)) := by
  constructor
  · intro h pre i l l' hpre hr hn
    have hinv : AckInv l := Machine.always_of_steps ackInv_start
      (fun _ _ _ hi hok hn => hi.step hok hn) h pre l ((List.prefix_append _ _).trans hpre) hr
    exact hinv.attributed hn
  · intro h
    simp only [Machine.Steps, not_forall] at h
    obtain ⟨pre, i, l, l', hpre, hr, hn, hbad⟩ := h
    simp only [AckTimely, not_forall, not_or] at hbad
    obtain ⟨a, u, rfl, hu, _, hnot⟩ := hbad
    -- the state after the acknowledgement that came in between
    have hl : l' = { l with acks := l.acks.erase a, rfAckSem := true } := by
      simp only [rfLink, RfLink.next] at hn
      split_ifs at hn
      exact (Option.some.inj hn).symm
    have hr' : rfLink.run {} (pre ++ [.rfAckCallback a]) = some l' := (Machine.run_snoc_eq_some _).2 ⟨l, hr, hn⟩
    obtain ⟨js, hjs, hfails⟩ := stale_ack_misattributed (u := u) hr' (by rw [hl]; exact hu) (by rw [hl])
      (by rw [hl]; exact hnot)
    exact ⟨_, js, hpre, hjs, hfails⟩

/-- The first acknowledgement is lost and the second one is in time. -/
def sampleAcked (msg : QueuedMsg) : List RfStep :=
  [.loraTxEnqueue msg, .loraTxEnqueue msg, .mqRecv, .csmaFree, .rfTxdoneCallback, .txdoneOk, .gatewayReceive ⟨0, msg⟩,
    .ackLost ⟨0, msg⟩, .ackTimeout, .csmaFree, .rfTxdoneCallback, .txdoneOk, .gatewayReceive ⟨0, msg⟩,
    .rfAckCallback ⟨0, msg⟩, .ackOk]

theorem ack_attribution_sample :
    let msg : QueuedMsg := { dataPtr := [], dataSize := 0, needAck := true, parameter := 0 }
    (rfLink.run {} (sampleAcked msg)).isSome = true ∧
      rfLink.Steps (fun l i _ => AckAttributed l i) {} (sampleAcked msg) := by
  intro msg
  refine ⟨rfl, (ack_attribution (sampleAcked msg)).1 ?_⟩
  have hother : ∀ {l : RfLink} {i : RfStep}, (∀ a, i ≠ .rfAckCallback a) → AckTimely l i :=
    fun hi a _ ha => absurd ha (hi a)
  iterate 13 refine Machine.steps_cons rfl (hother fun a h => by cases h) ?_
  refine Machine.steps_cons rfl (fun a u ha hu => ?_) ?_
  · cases ha
    cases hu
    exact Or.inl rfl
  · exact Machine.steps_cons rfl (hother fun a h => by cases h) Machine.steps_nil

/-- The acknowledgement of the first message is late; its second copy is
acknowledged in time, and the late one is taken for that of the next message,
whose frame is lost. -/
theorem ack_attribution_fails :
    ¬ ∀ is : List RfStep, rfLink.Steps (fun l i _ => AckAttributed l i) {} is := by
  let msg : QueuedMsg := { dataPtr := [], dataSize := 0, needAck := true, parameter := 0 }
  intro h
  have hrun : ∃ l, rfLink.run {} [.loraTxEnqueue msg, .loraTxEnqueue msg, .mqRecv, .csmaFree,
        .rfTxdoneCallback, .txdoneOk, .gatewayReceive ⟨0, msg⟩, .ackTimeout, .csmaFree, .rfTxdoneCallback,
        .txdoneOk, .gatewayReceive ⟨0, msg⟩, .rfAckCallback ⟨0, msg⟩, .ackOk, .mqRecv, .csmaFree,
        .frameLost ⟨1, msg⟩, .rfTxdoneCallback, .txdoneOk, .rfAckCallback ⟨0, msg⟩] = some l ∧
      l.sender = .ackWait ⟨1, msg⟩ 0 ∧ l.rfAckSem = true ∧ (⟨1, msg⟩ : Uplink) ∉ l.received :=
    ⟨_, rfl, by decide +kernel⟩
  obtain ⟨l, hr, hsender, hsem, hnot⟩ := hrun
  exact not_attributed_of_ackWait hr hsender hsem hnot (h _)

/-! The completion in the unit. -/

/-- A CONFIRM_ACK frame of a listed source to this unit. -/
structure RxFrame.ConfirmAck (rx : RxFrame) (u : MainUnit) : Prop where
  deviceType : rx.deviceType = deviceTypeGateway
  command : rx.rxData 0 = confirmAckCmd
  toUnit : rx.destAddr = getLocalAddress u
  registered : (aqDeviceFind rx.sourceAddr u.storage).isSome = true

section
variable {rx : RxFrame} {s : State}

/-- It completes `rf_ack_sem`, whatever it acknowledges. -/
theorem confirmAck_rfAckSem (h : rx.ConfirmAck s.unit) : (radioFrameDispatch rx s).rfAckSem = true := by
  obtain ⟨ht, hc, hto, hreg⟩ := h
  obtain ⟨device, hd⟩ := Option.isSome_iff_exists.1 hreg
  simp [radioFrameDispatch, ht, deviceTypeGateway, deviceTypeMotionSensor, deviceTypeEndunit,
    deviceTypeDoorunit, radioFrameGatewayParse, hc, confirmAckCmd, learnDeviceCmd, controlValveCmd,
    deviceSyncCmd, hd, hto]

@[simp] theorem onOta_rfAckSem (f : Ota → Option OtaReply × Ota) (s : State) :
    (s.onOta f).rfAckSem = s.rfAckSem := by
  unfold State.onOta
  dsimp only
  split <;> rfl

theorem radioFrameGatewayParseOta_rfAckSem (hs : (radioFrameGatewayParseOta rx s).rfAckSem = true) :
    s.rfAckSem = true := by
  unfold radioFrameGatewayParseOta at hs
  dsimp only at hs
  split_ifs at hs
  · rwa [onOta_rfAckSem] at hs
  · rwa [onOta_rfAckSem] at hs
  · cases hs
  · exact hs

theorem radioFrameGatewayParse_rfAckSem (hs : (radioFrameGatewayParse rx s).rfAckSem = true) :
    s.rfAckSem = true ∨ rx.rxData 0 = confirmAckCmd ∧ rx.destAddr = getLocalAddress s.unit ∧
      (aqDeviceFind rx.sourceAddr s.unit.storage).isSome = true := by
  unfold radioFrameGatewayParse at hs
  dsimp only at hs
  by_cases hlearn : rx.rxData 0 = learnDeviceCmd
  · have hupdate : rx.rxData 0 ≠ firmwareUpdateCmd := by rw [hlearn]; decide
    have hack : rx.rxData 0 ≠ confirmAckCmd := by rw [hlearn]; decide
    simp only [hlearn, if_true] at hs
    rw [← hlearn] at hs
    split_ifs at hs
    all_goals exact Or.inl hs
  · simp only [hlearn, if_false] at hs
    split_ifs at hs with hnone hdest _ _ hc
    · exact Or.inl hs
    · exact Or.inl hs
    · exact Or.inl hs
    · exact Or.inl hs
    · exact Or.inr ⟨hc, not_not.1 hdest, Option.isSome_iff_ne_none.2 (by simpa using hnone)⟩
    · have hs' := radioFrameGatewayParseOta_rfAckSem hs
      exact Or.inl hs'
    · exact Or.inl hs

end

/-- **Only an acknowledgement completes `rf_ack_sem`.** -/
theorem rfAckSem_handle {e : Event} {s : State} (hs : (e.handle s).rfAckSem = true) :
    s.rfAckSem = true ∨ ∃ rx, e.Frame s.unit rx ∧ rx.ConfirmAck s.unit := by
  cases e with
  | radio rssi snr data len =>
    rw [Event.handle, radioProtocolParse_eq] at hs
    split_ifs at hs with haccepted
    · unfold radioFrameDispatch at hs
      split_ifs at hs with _ _ _ hgateway
      · exact Or.inl hs
      · exact Or.inl hs
      · exact Or.inl hs
      · obtain hs | ⟨hc, hto, hreg⟩ := radioFrameGatewayParse_rfAckSem hs
        · exact Or.inl hs
        · exact Or.inr ⟨_, ⟨rssi, snr, data, len, rfl, haccepted, rfl⟩, hgateway, hc, hto, hreg⟩
      · unfold radioFrameFactoryParse at hs
        split_ifs at hs <;> exact Or.inl hs
      · exact Or.inl hs
    · exact Or.inl hs
  | keyOnLongHold =>
    simp only [Event.handle, keyOnLongHoldHandle] at hs
    unfold keyOnOffLongClickHandle at hs
    split_ifs at hs <;> first | exact Or.inl hs | cases hs
  | keyOffLongHold =>
    simp only [Event.handle, keyOffLongHoldHandle] at hs
    unfold keyOnOffLongClickHandle at hs
    split_ifs at hs <;> first | exact Or.inl hs | cases hs
  | modbusCoils reg usAddress usNCoils =>
    simp only [Event.handle, mbWriteCoils] at hs
    split_ifs at hs
    · split at hs
      · exact Or.inl hs
      · unfold mbValveSingleControlWriteCallback at hs
        split_ifs at hs <;> exact Or.inl hs
    · exact Or.inl hs
  | modbusHolding reg usAddress usNRegs =>
    simp only [Event.handle, mbWriteHolding] at hs
    split_ifs at hs
    · split at hs
      · exact Or.inl hs
      · unfold mbHoldingWriteCallback at hs
        split_ifs at hs <;> exact Or.inl hs
    · exact Or.inl hs
  | dryContact level =>
    simp only [Event.handle, dryContactPollingTimerCallback] at hs
    split_ifs at hs <;> exact Or.inl hs
  | rfAckInit => cases hs
  | reboot => cases hs
  | keyOnClick | keyOffClick | keyOnLongFree | keyOffLongFree | rtcValveCheck | rtcDeviceHeartCheck
  | rtcGatewayHeartCheck | heartConnectStart | heartUpload | timer => exact Or.inl hs

end Aqualarm
