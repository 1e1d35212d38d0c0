import Aqualarm.MbThreads

/-
  The serial line of the Modbus slave comes to rest.

  What is proved:
    1. `line_recovers` — from every state of a run whose steps are all timely, once
       nothing more arrives, at most 1405 further steps of any order happen, and
       then the line listens for a frame.
-/

namespace Aqualarm

open Lib

/-! What is still to happen. -/

def MbEvents.weight (e : MbEvents) : Nat :=
  (if e.ready then 157 else 0) + (if e.frameReceived then 157 else 0) + (if e.execute then 152 else 0) +
    if e.frameSent then 5 else 0

def MbPollAt.weight : MbPollAt → Nat
  | .waiting => 0
  | .eventGet => 1
  | .got recvedEvent => recvedEvent.weight
  | .checking _ => 156
  | .accepted => 155
  | .addressed => 154
  | .executing _ => 151
  | .replying => 150
  | .sending => 149
  | .switching => 148

namespace MbThreads

variable {s : MbThreads}

/-- Each byte of the reply takes two pieces. -/
def sendWeight (s : MbThreads) : Nat :=
  if s.rtu.transStart then
    match s.sendAt with
    | .loop => 2 * s.rtu.usSndBufferCount + 8
    | .put => 2 * s.rtu.usSndBufferCount + 7
    | .posted => 2
    | .idled => 1
  else 0

/-- An upper bound on the steps that happen without a byte. -/
def pending (s : MbThreads) : Nat :=
  s.rtu.events.weight + s.pollAt.weight + s.sendWeight + (if s.rtu.timer then 158 else 0) + if s.inRxISR then 159 else 0

/-- The poll thread waits for nothing that is there, and has got something where it
has got events. -/
structure Posted (s : MbThreads) : Prop where
  waiting : s.pollAt = .waiting → s.rtu.events.any = false
  got : ∀ e, s.pollAt = .got e → e.any = true

/-- An event read for what it is not is one of two. -/
theorem weight_of_only {e : MbEvents} (h : e.any = true) :
    2 ≤ e.weight ∧ (e.only = some .evExecute → 152 ≤ e.weight) ∧
      (e.only = none ∨ e.only = some .evFrameReceived → 157 ≤ e.weight) := by
  obtain ⟨ready, received, execute, sent⟩ := e
  revert h
  cases ready <;> cases received <;> cases execute <;> cases sent <;> decide

theorem weight_le (e : MbEvents) : e.weight ≤ 471 := by
  unfold MbEvents.weight
  split_ifs <;> omega

/-- Handing events over is no step. -/
theorem delivered_pending (s : MbThreads) : s.delivered.pending = s.pending := by
  unfold delivered
  split
  · rename_i h
    unfold pending
    dsimp only
    rw [h.1]
    change 0 + s.rtu.events.weight + s.sendWeight + _ + _ = s.rtu.events.weight + 0 + s.sendWeight + _ + _
    rw [Nat.add_zero, Nat.zero_add]
    rfl
  · rfl

theorem delivered_posted (h : ∀ e, s.pollAt = .got e → e.any = true) : s.delivered.Posted := by
  unfold delivered
  split
  · rename_i hwaiting
    exact ⟨nofun, fun e he => by cases he; exact hwaiting.2⟩
  · rename_i hnot
    refine ⟨fun hat => ?_, h⟩
    by_contra hc
    exact hnot ⟨hat, Bool.eq_true_of_not_eq_false hc⟩

theorem weight_post (e : MbEvents) {a b : Bool} (hone : ¬ (a = true ∧ b = true)) :
    ({ e with ready := e.ready || a, frameReceived := e.frameReceived || b } : MbEvents).weight ≤ e.weight + 157 := by
  obtain ⟨ready, received, execute, sent⟩ := e
  revert hone
  cases a <;> cases b <;> cases ready <;> cases received <;> cases execute <;> cases sent <;> decide

theorem weight_frameSent (e : MbEvents) : ({ e with frameSent := true } : MbEvents).weight ≤ e.weight + 5 := by
  obtain ⟨ready, received, execute, sent⟩ := e
  cases ready <;> cases received <;> cases execute <;> cases sent <;> decide

theorem weight_execute (e : MbEvents) (a : Bool) :
    ({ e with execute := e.execute || a } : MbEvents).weight ≤ e.weight + 152 := by
  obtain ⟨ready, received, execute, sent⟩ := e
  cases a <;> cases ready <;> cases received <;> cases execute <;> cases sent <;> decide

theorem Safe.t35Expired_pending (h : s.Safe) (ht : s.rtu.timer = true) :
    ({ s with rtu := s.rtu.xMBRTUTimerT35Expired } : MbThreads).delivered.pending < s.pending := by
  have hone : ¬ (decide (s.rtu.eRcvState = .stateRxInit) = true ∧ decide (s.rtu.eRcvState = .stateRxRcv) = true) := by
    cases s.rtu.eRcvState <;> decide
  have hpost := weight_post s.rtu.events hone
  rw [delivered_pending, MbRtu.timerT35Expired_eq (h.timer.1 (Or.inl ht))]
  unfold pending sendWeight
  dsimp only
  rw [if_pos ht, if_neg Bool.false_ne_true]
  omega

theorem rxReturn_pending (hisr : s.inRxISR = true) :
    ({ s with rtu := { s.rtu with timer := true }, inRxISR := false } : MbThreads).pending < s.pending := by
  unfold pending sendWeight
  dsimp only
  rw [if_pos hisr, if_pos rfl, if_neg Bool.false_ne_true]
  omega

theorem Safe.sent_pending (h : s.Safe) (hon : s.sendAt ≠ .loop ∨ s.rtu.transStart = true) :
    s.sent.pending < s.pending := by
  have htrans : s.rtu.transStart = true := hon.elim h.sender id
  cases hat : s.sendAt with
  | loop =>
    have hxmit := h.xmit htrans (by rw [hat]; exact nofun)
    by_cases hcount : s.rtu.usSndBufferCount = 0
    · -- the last call posts EV_FRAME_SENT, which the poll thread is then to take
      have hpost := weight_frameSent s.rtu.events
      rw [sent_end hat (h.quiet (Or.inl htrans)) hxmit hcount, delivered_pending]
      unfold pending sendWeight
      dsimp only
      rw [if_pos htrans, if_pos htrans, hat, hcount]
      dsimp only
      omega
    · rw [sent_byte hat (h.quiet (Or.inl htrans)) hxmit hcount]
      unfold pending sendWeight
      dsimp only
      rw [if_pos htrans, if_pos htrans, hat]
      dsimp only
      omega
  | put =>
    have hcount := h.counted hat
    rw [sent_put hat]
    unfold pending sendWeight
    dsimp only
    rw [if_pos htrans, if_pos htrans, hat]
    dsimp only
    omega
  | posted =>
    rw [sent_posted hat]
    unfold pending sendWeight
    dsimp only
    rw [if_pos htrans, if_pos htrans, hat]
    dsimp only
    omega
  | idled =>
    rw [sent_idled hat]
    unfold pending sendWeight MbRtu.vMBPortSerialEnable
    dsimp only
    rw [if_neg Bool.false_ne_true, if_pos htrans, hat]
    dsimp only
    omega

/-- A piece of the poll thread lowers what is posted or still to be done of a round,
and leaves the timer and the sending thread. -/
theorem pending_lt_of_poll {s' : MbThreads} (htimer : s'.rtu.timer = s.rtu.timer) (hisr : s'.inRxISR = s.inRxISR)
    (hsend : s'.sendWeight = s.sendWeight)
    (h : s'.rtu.events.weight + s'.pollAt.weight < s.rtu.events.weight + s.pollAt.weight) : s'.pending < s.pending := by
  unfold pending
  rw [htimer, hisr, hsend]
  omega

/-- And most pieces post nothing. -/
theorem pending_lt_of_moved {s' : MbThreads} (htimer : s'.rtu.timer = s.rtu.timer) (hisr : s'.inRxISR = s.inRxISR)
    (hsend : s'.sendWeight = s.sendWeight) (hevents : s'.rtu.events = s.rtu.events)
    (h : s'.pollAt.weight < s.pollAt.weight) : s'.pending < s.pending :=
  pending_lt_of_poll htimer hisr hsend (hevents ▸ Nat.add_lt_add_left h _)

theorem Safe.dispatched_pending (h : s.Safe) {e : MbEvents} (hat : s.pollAt = .got e) (hany : e.any = true)
    (met : MbMet) : (s.dispatched e met).pending < s.pending := by
  obtain ⟨htwo, hexecute, hreceived⟩ := weight_of_only hany
  have hfrom : s.pollAt.weight = e.weight := by rw [hat]; rfl
  have hget : MbPollAt.eventGet.weight = 1 := rfl
  unfold MbThreads.dispatched
  dsimp only
  split
  · rename_i hevent
    have hweight : 157 ≤ e.weight := by
      apply hreceived
      cases honly : e.only with
      | none => exact Or.inl rfl
      | some t =>
        rw [honly] at hevent
        exact Or.inr hevent
    have hto : (if mbSerPduSizeMin ≤ s.rtu.usRcvBufferPos then MbPollAt.checking false else .eventGet).weight ≤ 156 := by
      split <;> decide
    rw [MbRtu.rtAssert_true (decide_eq_true h.received)]
    exact pending_lt_of_moved rfl rfl rfl rfl (hto.trans_lt (by omega))
  · rename_i hevent
    have hweight : 152 ≤ e.weight := by
      cases honly : e.only with
      | none => exact (hreceived (Or.inl honly)).trans' (by omega)
      | some t =>
        rw [honly] at hevent
        exact hexecute (honly.trans hevent)
    split
    · have hto : (MbPollAt.executing false).weight = 151 := rfl
      exact pending_lt_of_moved rfl rfl rfl rfl (hto.trans_lt (by omega))
    · exact pending_lt_of_moved rfl rfl rfl rfl (hget.trans_lt (by omega))
  · exact pending_lt_of_moved rfl rfl rfl rfl (hget.trans_lt (by omega))

/-- A round of `eMBPoll` begins. -/
theorem eventGet_pending (hat : s.pollAt = .eventGet) (met : MbMet) : (s.polled met).pending < s.pending := by
  have hfrom : s.pollAt.weight = 1 := by rw [hat]; rfl
  unfold MbThreads.polled
  rw [hat]
  dsimp only
  split
  · -- what was posted is now what it has got
    refine pending_lt_of_poll rfl rfl rfl ?_
    change 0 + s.rtu.events.weight < _
    omega
  · have hto : MbPollAt.waiting.weight = 0 := rfl
    exact pending_lt_of_moved rfl rfl rfl rfl (hto.trans_lt (by omega))

/-- It takes a reply up and switches to sending: the sending thread is owed the rest. -/
theorem Safe.replied_pending (h : s.Safe) (met : MbMet) (hat : s.pollAt = .sending ∨ s.pollAt = .switching)
    (hoff : s.rtu.transStart = false) : (s.polled met).pending < s.pending := by
  unfold MbThreads.polled
  rcases hat with hat | hat
  · have hto : MbPollAt.switching.weight = 148 := rfl
    have hfrom : s.pollAt.weight = 149 := by rw [hat]; rfl
    rw [hat]
    unfold pending sendWeight MbRtu.filled
    dsimp only
    rw [hoff, if_neg Bool.false_ne_true, if_neg Bool.false_ne_true]
    omega
  · have hto := h.toSend
    have hget : MbPollAt.eventGet.weight = 1 := rfl
    have hfrom : s.pollAt.weight = 148 := by rw [hat]; rfl
    rw [hat]
    unfold pending sendWeight MbRtu.vMBPortSerialEnable
    dsimp only
    rw [hoff, if_pos rfl, if_neg Bool.false_ne_true, h.before_call hoff]
    dsimp only
    omega

theorem Safe.polled_pending (h : s.Safe) (hp : s.Posted) (hat : s.pollAt ≠ .waiting) (met : MbMet)
    (htimely : s.pollAt = .sending → s.rtu.transStart = false) : (s.polled met).pending < s.pending := by
  cases hfrom : s.pollAt with
  | eventGet => exact eventGet_pending hfrom met
  | waiting => exact absurd hfrom hat
  | sending => exact h.replied_pending met (Or.inl hfrom) (htimely hfrom)
  | switching => exact h.replied_pending met (Or.inr hfrom) (h.switching hfrom)
  | got e =>
    have hpolled : s.polled met = s.dispatched e met := by rw [MbThreads.polled, hfrom]
    rw [hpolled]
    exact h.dispatched_pending hfrom (hp.got e hfrom) met
  | checking torn =>
    have hto (passes : Bool) : (if passes then MbPollAt.accepted else .eventGet).weight ≤ 155 := by cases passes <;> decide
    have hweight : s.pollAt.weight = 156 := by rw [hfrom]; rfl
    rw [MbThreads.polled, hfrom]
    exact pending_lt_of_moved rfl rfl rfl rfl ((hto _).trans_lt (by omega))
  | accepted =>
    have hto : MbPollAt.addressed.weight = 154 := rfl
    have hweight : s.pollAt.weight = 155 := by rw [hfrom]; rfl
    rw [MbThreads.polled, hfrom]
    exact pending_lt_of_moved rfl rfl rfl rfl (hto.trans_lt (by omega))
  | addressed =>
    -- EV_EXECUTE is posted, and weighs less than what is left of this round
    have hpost := weight_execute s.rtu.events (decide (s.rtu.ucRcvAddress = slaveAddr ∨ s.rtu.ucRcvAddress = 0))
    have hweight : s.pollAt.weight = 154 := by rw [hfrom]; rfl
    rw [MbThreads.polled, hfrom]
    refine pending_lt_of_poll rfl rfl rfl (Nat.lt_of_le_of_lt (Nat.add_le_add_right hpost 1) ?_)
    omega
  | executing torn =>
    have hto : (if s.rtu.ucRcvAddress = 0 then MbPollAt.eventGet else .replying).weight ≤ 150 := by
      split <;> decide
    have hweight : s.pollAt.weight = 151 := by rw [hfrom]; rfl
    rw [MbThreads.polled, hfrom]
    exact pending_lt_of_moved rfl rfl rfl rfl (hto.trans_lt (by omega))
  | replying =>
    have hto : (if s.rtu.eRcvState = .stateRxIdle then MbPollAt.sending else .eventGet).weight ≤ 149 := by
      split <;> decide
    have hweight : s.pollAt.weight = 150 := by rw [hfrom]; rfl
    rw [MbThreads.polled, hfrom]
    exact pending_lt_of_moved rfl rfl rfl rfl (hto.trans_lt (by omega))

/-! What the poll thread waits for is not there. -/

theorem Posted.kept (h : s.Posted) {s' : MbThreads} (hev : s'.rtu.events = s.rtu.events)
    (hat : s'.pollAt = s.pollAt) : s'.Posted :=
  ⟨fun hc => hev ▸ h.waiting (hat ▸ hc), fun e hc => h.got e (hat ▸ hc)⟩

theorem Safe.sent_posted (h : s.Safe) (hp : s.Posted) (hon : s.sendAt ≠ .loop ∨ s.rtu.transStart = true) :
    s.sent.Posted := by
  have htrans : s.rtu.transStart = true := hon.elim h.sender id
  cases hat : s.sendAt with
  | loop =>
    have hxmit := h.xmit htrans (by rw [hat]; exact nofun)
    by_cases hcount : s.rtu.usSndBufferCount = 0
    · rw [sent_end hat (h.quiet (Or.inl htrans)) hxmit hcount]
      exact delivered_posted hp.got
    · rw [sent_byte hat (h.quiet (Or.inl htrans)) hxmit hcount]
      exact hp.kept rfl rfl
  | put =>
    rw [sent_put hat]
    exact hp.kept rfl rfl
  | posted =>
    rw [MbThreads.sent_posted hat]
    exact hp.kept rfl rfl
  | idled =>
    rw [sent_idled hat]
    exact hp.kept rfl rfl

/-- Only `xMBPortEventGet` waits or gets events. -/
theorem polled_posted (hnot : s.pollAt ≠ .waiting) (met : MbMet) : (s.polled met).Posted := by
  unfold MbThreads.polled
  split
  · split
    · rename_i hany
      exact ⟨nofun, fun e he => by cases he; exact hany⟩
    · rename_i hany
      exact ⟨fun _ => Bool.eq_false_of_not_eq_true hany, nofun⟩
  · rename_i hwaiting
    exact absurd hwaiting hnot
  · unfold MbThreads.dispatched
    dsimp only
    split
    · by_cases hlen : mbSerPduSizeMin ≤ s.rtu.usRcvBufferPos
      · rw [if_pos hlen]
        exact ⟨nofun, nofun⟩
      · rw [if_neg hlen]
        exact ⟨nofun, nofun⟩
    · split <;> exact ⟨nofun, nofun⟩
    · exact ⟨nofun, nofun⟩
  · rename_i torn hfrom
    dsimp only
    generalize (if torn then met.passes else decide (usMBCRC16 (s.rtu.bytes s.rtu.usRcvBufferPos) = 0)) = passes
    cases passes <;> exact ⟨nofun, nofun⟩
  · exact ⟨nofun, nofun⟩
  · exact ⟨nofun, nofun⟩
  · unfold MbThreads.executed
    dsimp only
    by_cases hbroadcast : s.rtu.ucRcvAddress = 0
    · rw [if_pos hbroadcast, if_pos hbroadcast]
      exact ⟨nofun, nofun⟩
    · rw [if_neg hbroadcast, if_neg hbroadcast]
      exact ⟨nofun, nofun⟩
  · by_cases hidle : s.rtu.eRcvState = .stateRxIdle
    · rw [if_pos hidle]
      exact ⟨nofun, nofun⟩
    · rw [if_neg hidle]
      exact ⟨nofun, nofun⟩
  · exact ⟨nofun, nofun⟩
  · exact ⟨nofun, nofun⟩

end MbThreads

theorem posted_next (s : MbThreads) (i : MbStep) (s' : MbThreads) (h : s.Safe ∧ s.Posted)
    (hn : mbTimely.next s i = some s') : s'.Safe ∧ s'.Posted := by
  refine ⟨threads_safe_next s i s' h.1 hn, ?_⟩
  obtain ⟨hsafe, hposted⟩ := h
  rcases timely_next_cases hn with ⟨b, -, hrx, htimely, rfl⟩ | ⟨-, -, rfl⟩ | ⟨-, -, -, rfl⟩ | ⟨-, hon, rfl⟩ |
    ⟨met, -, hat, -, rfl⟩
  · obtain ⟨buf, pos, state, -, -, heq⟩ := MbThreads.receiveFSM_kept (hsafe.snd_idle hrx htimely.2) hsafe.received b
    have hwaiting : s.pollAt.disturbed = .waiting ↔ s.pollAt = .waiting := MbThreads.disturbed_eq fun _ => by simp
    have hgot (e : MbEvents) : s.pollAt.disturbed = .got e ↔ s.pollAt = .got e := MbThreads.disturbed_eq fun _ => by simp
    unfold MbThreads.rxByte
    rw [heq]
    exact ⟨fun hc => hposted.waiting (hwaiting.1 hc), fun e hc => hposted.got e ((hgot e).1 hc)⟩
  · exact hposted.kept rfl rfl
  · exact MbThreads.delivered_posted hposted.got
  · exact hsafe.sent_posted hposted hon
  · exact MbThreads.polled_posted hat met

/-- Not a byte from the master. -/
def MbStep.Own (i : MbStep) : Prop := ∀ b, i ≠ .rxByte b

theorem threads_own_step (s : MbThreads) (i : MbStep) (s' : MbThreads) (h : s.Safe ∧ s.Posted) (hown : i.Own)
    (hn : mbTimely.next s i = some s') : (s'.Safe ∧ s'.Posted) ∧ s'.pending < s.pending := by
  refine ⟨posted_next s i s' h hn, ?_⟩
  rcases timely_next_cases hn with ⟨b, hi, -⟩ | ⟨-, hisr, rfl⟩ | ⟨-, ht, -, rfl⟩ | ⟨-, hon, rfl⟩ |
    ⟨met, -, hat, htimely, rfl⟩
  · exact absurd hi (hown b)
  · exact MbThreads.rxReturn_pending hisr
  · exact h.1.t35Expired_pending ht
  · exact h.1.sent_pending hon
  · exact h.1.polled_pending h.2 hat met htimely

/-- The line waits for the first byte of a frame, and the threads for an event each. -/
structure MbThreads.Listening (s : MbThreads) : Prop where
  rtu : s.rtu.Listening
  pollAt : s.pollAt = .waiting
  sendAt : s.sendAt = .loop
  inRxISR : s.inRxISR = false

theorem threads_listening_of_quiet {s : MbThreads} (h : s.Safe ∧ s.Posted) (hq : mbTimely.Quiet MbStep.Own s) :
    s.Listening := by
  obtain ⟨hsafe, hposted⟩ := h
  have hnone (i : MbStep) (hown : i.Own) (htimely : s.Timely i) : mbThreads.next s i = none :=
    (if_pos htimely).symm.trans (hq i hown)
  have hisr : s.inRxISR = false := by
    by_contra hc
    cases (hnone .rxReturn nofun trivial).symm.trans (if_pos (Bool.eq_true_of_not_eq_false hc))
  have htimer : s.rtu.timer = false := by
    by_contra hc
    cases (hnone .t35Expired nofun hisr).symm.trans (if_pos (Bool.eq_true_of_not_eq_false hc))
  have hfree : ¬ s.inRxISR = true := by rw [hisr]; decide
  have hsend : s.sendAt = .loop ∧ s.rtu.transStart = false := by
    by_contra hc
    have hon : s.sendAt ≠ .loop ∨ s.rtu.transStart = true := by
      by_cases hat : s.sendAt = .loop
      · exact Or.inr (Bool.eq_true_of_not_eq_false fun hoff => hc ⟨hat, hoff⟩)
      · exact Or.inl hat
    cases (hnone .send nofun trivial).symm.trans (if_pos ⟨hfree, hon⟩)
  have hat : s.pollAt = .waiting := by
    by_contra hc
    cases (hnone (.poll {}) nofun fun _ => hsend.2).symm.trans (if_pos ⟨hfree, hc⟩)
  have hidle : s.rtu.eSndState = .stateTxIdle := by
    refine hsafe.snd_idle ?_ (by rw [hat]; exact nofun)
    rw [hsafe.direction, hsend.2]
    rfl
  exact
    { rtu :=
        { receiver := by
            by_contra hbusy
            rcases hsafe.timer.2 hbusy with hc | hc
            · exact absurd (htimer.symm.trans hc) (by decide)
            · exact hfree hc
          sender := hidle
          enabled := by rw [hsafe.direction, hsend.2]; rfl
          timer := htimer
          transStart := hsend.2
          events := hposted.waiting hat }
      pollAt := hat
      sendAt := hsend.1
      inRxISR := hisr }

theorem threads_pending_le {s : MbThreads} (h : s.Safe) : s.pending ≤ 1405 := by
  have hevents := MbThreads.weight_le s.rtu.events
  have hat : s.pollAt.weight ≤ 471 := by
    cases s.pollAt with
    | got e => exact MbThreads.weight_le e
    | checking torn => exact (by decide : 156 ≤ 471)
    | executing torn => exact (by decide : 151 ≤ 471)
    | _ => decide
  have hsend : s.sendWeight ≤ 146 := by
    have hto := h.toSend
    unfold MbThreads.sendWeight
    split
    · cases s.sendAt <;> dsimp only <;> omega
    · omega
  unfold MbThreads.pending
  split_ifs <;> omega

/-- **The line does not hang.** From every state of a run whose steps are all
timely, whichever of the interrupts and the two threads go on first, at most 1405
timely steps happen before another byte arrives; where none of them can happen any
more the line listens for a frame, and such a state is reached. -/
theorem line_recovers {s : MbThreads} (h : mbTimely.Reachable s) :
    (∀ is s', (∀ i ∈ is, MbStep.Own i) → mbTimely.run s is = some s' →
      is.length ≤ 1405 ∧ (mbTimely.Quiet MbStep.Own s' → s'.Listening)) ∧
    ∃ is s', (∀ i ∈ is, MbStep.Own i) ∧ mbTimely.run s is = some s' ∧ s'.Listening := by
  have hs : s.Safe ∧ s.Posted := by
    refine Machine.reachable_inv (fun s hstart => ⟨threads_safe_start hstart, ?_⟩) posted_next h
    have hat : s.pollAt = .eventGet := hstart.2.1
    exact ⟨fun hc => (nomatch hat.symm.trans hc), fun e hc => (nomatch hat.symm.trans hc)⟩
  constructor
  · intro is s' hown hr
    obtain ⟨hs', hle⟩ := Machine.length_add_measure_le threads_own_step hs hown hr
    have := threads_pending_le hs.1
    exact ⟨by omega, threads_listening_of_quiet hs'⟩
  · obtain ⟨is, s', hown, hr, hquiet⟩ := Machine.exists_quiet threads_own_step hs
    obtain ⟨hs', -⟩ := Machine.length_add_measure_le threads_own_step hs hown hr
    exact ⟨is, s', hown, hr, threads_listening_of_quiet hs' hquiet⟩

theorem line_recovers_sample :
    ∃ s is s', mbTimely.run sampleThreads sampleSteps = some s ∧ (∀ i ∈ is, MbStep.Own i) ∧
      mbTimely.run s is = some s' ∧ s'.Listening := by
  obtain ⟨s, hr⟩ : ∃ s, mbTimely.run sampleThreads sampleSteps = some s :=
    Option.isSome_iff_exists.1 (by decide +kernel)
  obtain ⟨is, s', hown, hr', hlistening⟩ := (line_recovers ⟨sampleThreads, _, ⟨rfl, rfl, rfl, rfl⟩, hr⟩).2
  exact ⟨s, is, s', hr, hown, hr', hlistening⟩

end Aqualarm
