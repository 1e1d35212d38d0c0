import Aqualarm.MbRtu

/-
  The serial line of the Modbus slave once more, with `eMBPoll`, the calls of
  `xMBRTUTransmitFSM` and the receive interrupt in pieces: between two pieces the
  others run. The t3.5 timer expires in the tick interrupt, which the UART's does
  not interrupt; the two threads share one priority and the time slices, and the
  semaphore of `EnterCriticalSection` is taken by the poll thread only. An event is
  handed to the poll thread where that is suspended in `rt_event_recv`, and kept
  for it where it is not.

  A piece is what reads or writes one thing the others change. Where bytes come in
  while the frame buffer is read, it is left open what was read, and which buffer a
  function leaves.

  What is proved:
    1. `line_safe` — along every run with no byte between `eMBRTUSend`'s test of
       `eRcvState` and its switch to sending, no expiry of the timer inside the
       receive interrupt and no reply put together while one is on its way, no
       assertion of mbrtu.c fails; where such a byte or expiry comes, one can fail.
    2. `line_run_threads` — every run of `mbLine` is a run of these pieces.
-/

namespace Aqualarm

open Lib

/-- Where the poll thread stands: before `xMBPortEventGet`, suspended in it, and
with the events it got; in `eMBRTUReceive` with the length tested, with the check
passed, and with the address stored; in a function; before `eMBRTUSend`, past its
test of `eRcvState`, and with `eSndState` set. `torn` is whether bytes have come in
since the frame buffer was first read. -/
inductive MbPollAt where
  | eventGet
  | waiting
  | got (recvedEvent : MbEvents)
  | checking (torn : Bool)
  | accepted
  | addressed
  | executing (torn : Bool)
  | replying
  | sending
  | switching
  deriving DecidableEq, Repr

/-- Where the sending thread stands: before a call of `xMBRTUTransmitFSM`; in one,
with a byte put out, with `EV_FRAME_SENT` posted, and with `eSndState` reset. -/
inductive MbSendAt where
  | loop | put | posted | idled
  deriving DecidableEq, Repr

/-- `inRxISR` is whether the receive interrupt has stored its byte and has yet to
start the timer. -/
structure MbThreads where
  rtu : MbRtu := {}
  server : MbServer
  pollAt : MbPollAt := .eventGet
  sendAt : MbSendAt := .loop
  inRxISR : Bool := false

/-- What a piece of `eMBPoll` meets: `eEvent` before `xMBPortEventGet`, what has
become of the unit and the tables since the last round, and, where bytes come in
meanwhile, whether the check comes out right, the PDU as the function reads it, and
the buffer it leaves. -/
structure MbMet where
  stack : Option MbEventType := none
  refresh : MbServer → MbServer := id
  passes : Bool := false
  pdu : Nat → UInt8 := fun _ => 0
  left : Nat → UInt8 := fun _ => 0

inductive MbStep where
  | rxByte (ucByte : UInt8)
  | rxReturn
  | t35Expired
  | send
  | poll (met : MbMet)

/-- The read under way, after a byte. -/
def MbPollAt.disturbed : MbPollAt → MbPollAt
  | .checking _ => .checking true
  | .executing _ => .executing true
  | p => p

namespace MbThreads

/-- `rt_event_send` hands what is posted to the thread that waits for it. -/
def delivered (s : MbThreads) : MbThreads :=
  if s.pollAt = .waiting ∧ s.rtu.events.any then
    { s with rtu := s.rtu.clearEvents, pollAt := .got s.rtu.events }
  else s

/-- `xMBRTUReceiveFSM` up to its `vMBPortTimersEnable`. -/
def rxByte (ucByte : UInt8) (s : MbThreads) : MbThreads :=
  { s with
    rtu := { s.rtu.xMBRTUReceiveFSM ucByte with timer := s.rtu.timer }
    pollAt := s.pollAt.disturbed, inRxISR := true }

/-- A piece of `xMBRTUTransmitFSM`. -/
def sent (s : MbThreads) : MbThreads :=
  match s.sendAt with
  | .loop =>
    -- the event that starts the thread is left set, so it comes back here until it is cleared
    let r := s.rtu.rtAssert (s.rtu.eRcvState = .stateRxIdle)
    match r.eSndState with
    | .stateTxIdle => { s with rtu := r.vMBPortSerialEnable true false }
    | .stateTxXmit =>
      if r.usSndBufferCount ≠ 0 then
        { s with rtu := { r with sent := r.sent ++ [r.ucRTUBuf r.pucSndBufferCur] }, sendAt := .put }
      else { s with rtu := { r with events := { r.events with frameSent := true } }, sendAt := .posted }.delivered
  | .put =>
    { s with
      rtu :=
        { s.rtu with
          pucSndBufferCur := s.rtu.pucSndBufferCur + 1, usSndBufferCount := s.rtu.usSndBufferCount - 1 }
      sendAt := .loop }
  -- the poll thread may have taken EV_FRAME_SENT before the receiver is on again
  | .posted => { s with rtu := { s.rtu with eSndState := .stateTxIdle }, sendAt := .idled }
  | .idled => { s with rtu := s.rtu.vMBPortSerialEnable true false, sendAt := .loop }

/-- The `switch` of `eMBPoll`, up to where a function or the check begins. -/
def dispatched (recvedEvent : MbEvents) (met : MbMet) (s : MbThreads) : MbThreads :=
  let s := { s with server := met.refresh s.server }
  -- the `switch` of `xMBPortEventGet` has no case for two events at once
  match recvedEvent.only.orElse fun _ => met.stack with
  | some .evFrameReceived =>
    { s with
      rtu := s.rtu.rtAssert (s.rtu.usRcvBufferPos ≤ mbSerPduSizeMax)
      pollAt := if mbSerPduSizeMin ≤ s.rtu.usRcvBufferPos then .checking false else .eventGet }
  | some .evExecute =>
    if s.rtu.ucMBFrame then { s with pollAt := .executing false }
    else { s with rtu := { s.rtu with nullFrame := true }, pollAt := .eventGet }
  | _ => { s with pollAt := .eventGet }

/-- The function and, for a broadcast, the end of the round. -/
def executed (torn : Bool) (met : MbMet) (s : MbThreads) : MbThreads :=
  let pdu := if torn then met.pdu else s.rtu.pdu
  let reply :=
    if s.rtu.ucRcvAddress = 0 then mbExecute pdu s.rtu.usLength s.server else mbReply pdu s.rtu.usLength s.server
  { s with
    rtu :=
      { s.rtu with
        ucRTUBuf := if torn then met.left else (s.rtu.setPdu reply.pucFrame).ucRTUBuf
        usLength := reply.usLen }
    server := reply.server
    pollAt := if s.rtu.ucRcvAddress = 0 then .eventGet else .replying }

/-- A piece of `eMBPoll`. -/
def polled (met : MbMet) (s : MbThreads) : MbThreads :=
  match s.pollAt with
  | .eventGet =>
    if s.rtu.events.any then { s with rtu := s.rtu.clearEvents, pollAt := .got s.rtu.events }
    else { s with pollAt := .waiting }
  | .waiting => s
  | .got recvedEvent => s.dispatched recvedEvent met
  | .checking torn =>
    let passes := if torn then met.passes else decide (usMBCRC16 (s.rtu.bytes s.rtu.usRcvBufferPos) = 0)
    { s with pollAt := if passes then .accepted else .eventGet }
  | .accepted => { s with rtu := { s.rtu with ucRcvAddress := s.rtu.ucRTUBuf 0 }, pollAt := .addressed }
  | .addressed =>
    -- `*pusLength` is a `USHORT` of `usRcvBufferPos`, which a new frame may have put back to 1
    let forUs := decide (s.rtu.ucRcvAddress = slaveAddr ∨ s.rtu.ucRcvAddress = 0)
    { s with
      rtu :=
        { s.rtu with
          usLength := (65536 + s.rtu.usRcvBufferPos - 1 - 2) % 65536, ucMBFrame := true
          events := { s.rtu.events with execute := s.rtu.events.execute || forUs } }
      pollAt := .eventGet }
  | .executing torn => s.executed torn met
  -- the test of `eMBRTUSend`, what it fills in, and its switch
  | .replying => { s with pollAt := if s.rtu.eRcvState = .stateRxIdle then .sending else .eventGet }
  | .sending => { s with rtu := s.rtu.filled slaveAddr s.rtu.usLength, pollAt := .switching }
  | .switching => { s with rtu := s.rtu.vMBPortSerialEnable false true, pollAt := .eventGet }

def next (s : MbThreads) : MbStep → Option MbThreads
  | .rxByte ucByte => if s.rtu.rxEnable ∧ ¬ s.inRxISR then some (s.rxByte ucByte) else none
  | .rxReturn => if s.inRxISR then some { s with rtu := { s.rtu with timer := true }, inRxISR := false } else none
  -- the tick interrupt comes also inside the UART's
  | .t35Expired => if s.rtu.timer then some { s with rtu := s.rtu.xMBRTUTimerT35Expired }.delivered else none
  | .send => if ¬ s.inRxISR ∧ (s.sendAt ≠ .loop ∨ s.rtu.transStart) then some s.sent else none
  | .poll met => if ¬ s.inRxISR ∧ s.pollAt ≠ .waiting then some (s.polled met) else none

/-- No byte comes while `eMBRTUSend` is past its test and the receiver still on, the
timer does not expire inside the receive interrupt, and no reply is put together
while one is on its way. -/
def Timely (s : MbThreads) : MbStep → Prop
  | .rxByte _ => s.pollAt ≠ .sending ∧ s.pollAt ≠ .switching
  | .t35Expired => s.inRxISR = false
  | .poll _ => s.pollAt = .sending → s.rtu.transStart = false
  | .rxReturn | .send => True

instance (s : MbThreads) (i : MbStep) : Decidable (s.Timely i) := by
  cases i <;> unfold Timely <;> infer_instance

end MbThreads

def mbThreads : Machine MbThreads MbStep where
  start s := s.rtu = {} ∧ s.pollAt = .eventGet ∧ s.sendAt = .loop ∧ s.inRxISR = false
  next := MbThreads.next

/-- The runs whose steps are all timely. -/
def mbTimely : Machine MbThreads MbStep := mbThreads.restrict MbThreads.Timely

/-! Safety. -/

/-- What every timely step keeps: the receive interrupt is off exactly while the
sending thread is on, the timer runs, or the receive interrupt is about to start it,
exactly while the receiver is not idle, and all positions lie in the buffer. -/
structure MbThreads.Safe (s : MbThreads) : Prop where
  asserts : s.rtu.assertFailed = false
  direction : s.rtu.rxEnable = !s.rtu.transStart
  sending : s.rtu.eSndState = .stateTxXmit ↔ s.pollAt = .switching ∨ s.rtu.transStart = true ∧ s.sendAt ≠ .idled
  sender : s.sendAt ≠ .loop → s.rtu.transStart = true
  switching : s.pollAt = .switching → s.rtu.transStart = false
  quiet : s.rtu.transStart = true ∨ s.pollAt = .sending ∨ s.pollAt = .switching → s.rtu.eRcvState = .stateRxIdle
  timer : s.rtu.timer = true ∨ s.inRxISR = true ↔ s.rtu.eRcvState ≠ .stateRxIdle
  received : s.rtu.usRcvBufferPos ≤ mbSerPduSizeMax
  reply : s.pollAt = .replying ∨ s.pollAt = .sending → s.rtu.usLength ≤ 66
  toSend : s.rtu.pucSndBufferCur + s.rtu.usSndBufferCount ≤ 69
  counted : s.sendAt = .put → s.rtu.usSndBufferCount ≠ 0
  armed : s.rtu.events.execute = true ∨ (∃ e, s.pollAt = .got e ∧ e.execute = true) → s.rtu.ucMBFrame = true

namespace MbThreads

variable {s : MbThreads}

/-- A byte changes the buffer, the position and the receiver's state only. -/
theorem receiveFSM_kept {r : MbRtu} (hsnd : r.eSndState = .stateTxIdle) (hpos : r.usRcvBufferPos ≤ mbSerPduSizeMax)
    (ucByte : UInt8) :
    ∃ buf pos state, state ≠ .stateRxIdle ∧ pos ≤ mbSerPduSizeMax ∧
      r.xMBRTUReceiveFSM ucByte =
        { r with ucRTUBuf := buf, usRcvBufferPos := pos, eRcvState := state, timer := true } := by
  cases hstate : r.eRcvState with
  | stateRxIdle => exact ⟨_, _, _, by decide, by decide, MbRtu.receiveFSM_idle hsnd hstate ucByte⟩
  | stateRxInit =>
    refine ⟨r.ucRTUBuf, r.usRcvBufferPos, r.eRcvState, by rw [hstate]; decide, hpos, ?_⟩
    exact MbRtu.receiveFSM_waiting hsnd (Or.inl hstate) ucByte
  | stateRxError =>
    refine ⟨r.ucRTUBuf, r.usRcvBufferPos, r.eRcvState, by rw [hstate]; decide, hpos, ?_⟩
    exact MbRtu.receiveFSM_waiting hsnd (Or.inr hstate) ucByte
  | stateRxRcv =>
    by_cases hroom : r.usRcvBufferPos < mbSerPduSizeMax
    · refine ⟨Function.update r.ucRTUBuf r.usRcvBufferPos ucByte, r.usRcvBufferPos + 1, r.eRcvState,
        by rw [hstate]; decide, hroom, ?_⟩
      exact MbRtu.receiveFSM_room hsnd hstate hroom ucByte
    · exact ⟨_, _, _, by decide, hpos, MbRtu.receiveFSM_full hsnd hstate hroom ucByte⟩

theorem disturbed_eq {p q : MbPollAt} (hq : ∀ torn, q ≠ .checking torn ∧ q ≠ .executing torn) :
    p.disturbed = q ↔ p = q := by
  cases p with
  | checking torn | executing torn =>
    constructor
    · intro h
      first | exact absurd h.symm (hq true).1 | exact absurd h.symm (hq true).2
    · intro h
      first | exact absurd h.symm (hq torn).1 | exact absurd h.symm (hq torn).2
  | _ => exact Iff.rfl

theorem Safe.sender_off (h : s.Safe) (hrx : s.rtu.rxEnable = true) : s.rtu.transStart = false := by
  simpa [hrx] using h.direction

theorem Safe.before_call (h : s.Safe) (hoff : s.rtu.transStart = false) : s.sendAt = .loop := by
  by_contra hc
  exact absurd ((h.sender hc).symm.trans hoff) (by decide)

theorem Safe.snd_idle (h : s.Safe) (hrx : s.rtu.rxEnable = true) (hat : s.pollAt ≠ .switching) :
    s.rtu.eSndState = .stateTxIdle := by
  have hoff := h.sender_off hrx
  cases hsnd : s.rtu.eSndState with
  | stateTxIdle => rfl
  | stateTxXmit =>
    rcases h.sending.1 hsnd with hc | ⟨hc, -⟩
    · exact absurd hc hat
    · exact absurd (hc.symm.trans hoff) (by decide)

theorem Safe.rxByte (h : s.Safe) (hrx : s.rtu.rxEnable = true) (htimely : s.pollAt ≠ .sending ∧ s.pollAt ≠ .switching)
    (ucByte : UInt8) : (s.rxByte ucByte).Safe := by
  have hoff := h.sender_off hrx
  obtain ⟨buf, pos, state, hstate, hpos, heq⟩ := receiveFSM_kept (h.snd_idle hrx htimely.2) h.received ucByte
  unfold MbThreads.rxByte
  rw [heq]
  have hswitching : s.pollAt.disturbed = .switching ↔ s.pollAt = .switching := disturbed_eq fun _ => by simp
  have hsending : s.pollAt.disturbed = .sending ↔ s.pollAt = .sending := disturbed_eq fun _ => by simp
  have hreplying : s.pollAt.disturbed = .replying ↔ s.pollAt = .replying := disturbed_eq fun _ => by simp
  have hgot (e : MbEvents) : s.pollAt.disturbed = .got e ↔ s.pollAt = .got e := disturbed_eq fun _ => by simp
  exact
    { h with
      sending := by
        dsimp only
        rw [hswitching]
        exact h.sending
      switching := fun hc => h.switching (hswitching.1 hc)
      quiet := fun hc => by
        rcases hc with hc | hc | hc
        · exact absurd (hc.symm.trans hoff) (by decide)
        · exact absurd (hsending.1 hc) htimely.1
        · exact absurd (hswitching.1 hc) htimely.2
      timer := ⟨fun _ => hstate, fun _ => Or.inr rfl⟩
      received := hpos
      reply := fun hc => h.reply (hc.imp hreplying.1 hsending.1)
      armed := fun hc => h.armed (hc.imp id fun ⟨e, he, hx⟩ => ⟨e, (hgot e).1 he, hx⟩) }

theorem Safe.rxReturn (h : s.Safe) (hisr : s.inRxISR = true) :
    ({ s with rtu := { s.rtu with timer := true }, inRxISR := false } : MbThreads).Safe :=
  { h with timer := ⟨fun _ => h.timer.1 (Or.inr hisr), fun _ => Or.inl rfl⟩ }

/-- Handing events over changes nothing else. -/
theorem Safe.delivered (h : s.Safe) : s.delivered.Safe := by
  unfold MbThreads.delivered
  split
  · rename_i hwaiting
    exact
      { h with
        sending := by
          refine Iff.trans h.sending ⟨fun hc => ?_, fun hc => ?_⟩
          · refine hc.imp (fun hc => ?_) id
            rw [hwaiting.1] at hc
            cases hc
          · exact hc.imp (fun hc => by cases hc) id
        switching := fun hc => (by cases hc)
        quiet := fun hc => h.quiet (hc.imp id fun hc => by rcases hc with hc | hc <;> cases hc)
        reply := fun hc => (by rcases hc with hc | hc <;> cases hc)
        armed := fun hc => by
          rcases hc with hc | ⟨e, he, hx⟩
          · cases hc
          · cases he
            exact h.armed (Or.inl hx) }
  · exact h

theorem Safe.t35Expired (h : s.Safe) (ht : s.rtu.timer = true) (hisr : s.inRxISR = false) :
    ({ s with rtu := s.rtu.xMBRTUTimerT35Expired } : MbThreads).delivered.Safe := by
  refine Safe.delivered ?_
  rw [MbRtu.timerT35Expired_eq (h.timer.1 (Or.inl ht))]
  exact
    { h with
      quiet := fun _ => rfl
      timer := by
        constructor
        · rintro (hc | hc)
          · cases hc
          · exact absurd (hisr.symm.trans hc) (by decide)
        · exact fun hc => absurd rfl hc }

/-! The pieces of `xMBRTUTransmitFSM`. -/

theorem sent_byte (hat : s.sendAt = .loop) (hrcv : s.rtu.eRcvState = .stateRxIdle) (hsnd : s.rtu.eSndState = .stateTxXmit)
    (hcount : s.rtu.usSndBufferCount ≠ 0) :
    s.sent =
      { s with
        rtu := { s.rtu with sent := s.rtu.sent ++ [s.rtu.ucRTUBuf s.rtu.pucSndBufferCur] }, sendAt := .put } := by
  unfold sent
  rw [hat]
  dsimp only
  rw [MbRtu.rtAssert_true (decide_eq_true hrcv), hsnd]
  exact if_pos hcount

theorem sent_end (hat : s.sendAt = .loop) (hrcv : s.rtu.eRcvState = .stateRxIdle) (hsnd : s.rtu.eSndState = .stateTxXmit)
    (hcount : s.rtu.usSndBufferCount = 0) :
    s.sent =
      { s with
        rtu := { s.rtu with events := { s.rtu.events with frameSent := true } }, sendAt := .posted }.delivered := by
  unfold sent
  rw [hat]
  dsimp only
  rw [MbRtu.rtAssert_true (decide_eq_true hrcv), hsnd]
  exact if_neg (not_not.2 hcount)

theorem sent_put (hat : s.sendAt = .put) :
    s.sent =
      { s with
        rtu :=
          { s.rtu with
            pucSndBufferCur := s.rtu.pucSndBufferCur + 1, usSndBufferCount := s.rtu.usSndBufferCount - 1 }
        sendAt := .loop } := by
  unfold sent
  rw [hat]

theorem sent_posted (hat : s.sendAt = .posted) :
    s.sent = { s with rtu := { s.rtu with eSndState := .stateTxIdle }, sendAt := .idled } := by
  unfold sent
  rw [hat]

theorem sent_idled (hat : s.sendAt = .idled) :
    s.sent = { s with rtu := s.rtu.vMBPortSerialEnable true false, sendAt := .loop } := by
  unfold sent
  rw [hat]

/-- While the sending thread is on, the poll thread is not switching it on. -/
theorem Safe.not_switching (h : s.Safe) (htrans : s.rtu.transStart = true) : s.pollAt ≠ .switching :=
  fun hc => absurd (htrans.symm.trans (h.switching hc)) (by decide)

theorem Safe.xmit (h : s.Safe) (htrans : s.rtu.transStart = true) (hat : s.sendAt ≠ .idled) :
    s.rtu.eSndState = .stateTxXmit :=
  h.sending.2 (Or.inr ⟨htrans, hat⟩)

/-- On to another point of `xMBRTUTransmitFSM`, `eSndState` being what it was. -/
theorem Safe.sendMoved (h : s.Safe) (htrans : s.rtu.transStart = true) (hfrom : s.sendAt ≠ .idled) {p : MbSendAt}
    (hp : p ≠ .idled) (hput : p = .put → s.rtu.usSndBufferCount ≠ 0) : ({ s with sendAt := p } : MbThreads).Safe :=
  { h with
    sending := ⟨fun _ => Or.inr ⟨htrans, hp⟩, fun _ => h.xmit htrans hfrom⟩
    sender := fun _ => htrans
    counted := hput }

theorem Safe.sent (h : s.Safe) (hon : s.sendAt ≠ .loop ∨ s.rtu.transStart = true) : s.sent.Safe := by
  have htrans : s.rtu.transStart = true := hon.elim h.sender id
  have hnot := h.not_switching htrans
  cases hat : s.sendAt with
  | loop =>
    have hfrom : s.sendAt ≠ .idled := by rw [hat]; exact nofun
    by_cases hcount : s.rtu.usSndBufferCount = 0
    · rw [sent_end hat (h.quiet (Or.inl htrans)) (h.xmit htrans hfrom) hcount]
      exact Safe.delivered { h.sendMoved htrans hfrom (p := .posted) nofun nofun with }
    · rw [sent_byte hat (h.quiet (Or.inl htrans)) (h.xmit htrans hfrom) hcount]
      exact { h.sendMoved htrans hfrom (p := .put) nofun fun _ => hcount with }
  | put =>
    have hcount := h.counted hat
    have hto := h.toSend
    rw [sent_put hat]
    exact
      { h.sendMoved htrans (by rw [hat]; exact nofun) (p := .loop) nofun nofun with
        toSend := by dsimp only; omega
        counted := nofun }
  | posted =>
    rw [sent_posted hat]
    exact
      { h with
        sending := ⟨nofun, fun hc => hc.elim (fun hc => absurd hc hnot) fun hc => absurd rfl hc.2⟩
        sender := fun _ => htrans
        counted := nofun }
  | idled =>
    have hidle : s.rtu.eSndState ≠ .stateTxXmit := fun hx => (h.sending.1 hx).elim hnot fun hc => hc.2 hat
    rw [sent_idled hat]
    exact
      { h with
        direction := rfl
        sending := ⟨fun hx => absurd hx hidle, fun hc => hc.elim (fun hc => absurd hc hnot) fun hc => nomatch hc.1⟩
        sender := fun hc => absurd rfl hc
        switching := fun _ => rfl
        quiet := fun hc => h.quiet (hc.imp nofun id)
        counted := nofun }

/-! The pieces of `eMBPoll`. -/

/-- The poll thread neither holds events nor is about to reply. -/
structure Plain (p : MbPollAt) : Prop where
  got : ∀ e, p ≠ .got e
  replying : p ≠ .replying
  sending : p ≠ .sending
  switching : p ≠ .switching

/-- Going on to such a point changes nothing else. -/
theorem Safe.moved (h : s.Safe) (hfrom : s.pollAt ≠ .switching) {p : MbPollAt} (hp : Plain p) :
    ({ s with pollAt := p } : MbThreads).Safe :=
  { h with
    sending := h.sending.trans ⟨fun hc => hc.imp (fun hc => absurd hc hfrom) id,
      fun hc => hc.imp (fun hc => absurd hc hp.switching) id⟩
    switching := fun hc => absurd hc hp.switching
    quiet := fun hc => by
      rcases hc with hc | hc | hc
      · exact h.quiet (Or.inl hc)
      · exact absurd hc hp.sending
      · exact absurd hc hp.switching
    reply := fun hc => hc.elim (fun hc => absurd hc hp.replying) fun hc => absurd hc hp.sending
    armed := fun hc => h.armed (hc.imp id fun ⟨e, he, _⟩ => absurd he (hp.got e)) }

theorem plain_eventGet : Plain .eventGet := ⟨nofun, nofun, nofun, nofun⟩

theorem plain_accepted : Plain .accepted := ⟨nofun, nofun, nofun, nofun⟩

theorem plain_checking (torn : Bool) : Plain (.checking torn) := ⟨nofun, nofun, nofun, nofun⟩

theorem plain_executing (torn : Bool) : Plain (.executing torn) := ⟨nofun, nofun, nofun, nofun⟩

theorem Safe.eventGet (h : s.Safe) (hat : s.pollAt = .eventGet) (met : MbMet) : (s.polled met).Safe := by
  have hfrom : s.pollAt ≠ .switching := by rw [hat]; exact nofun
  unfold polled
  rw [hat]
  dsimp only
  split
  · have hmoved := h.moved hfrom plain_eventGet
    exact
      { hmoved with
        sending := hmoved.sending.trans ⟨fun hc => hc.imp nofun id, fun hc => hc.imp nofun id⟩
        switching := nofun
        quiet := fun hc => h.quiet (hc.imp id fun hc => by rcases hc with hc | hc <;> cases hc)
        reply := fun hc => by rcases hc with hc | hc <;> cases hc
        armed := fun hc => by
          rcases hc with hc | ⟨e, he, hx⟩
          · cases hc
          · cases he
            exact h.armed (Or.inl hx) }
  · exact h.moved hfrom ⟨nofun, nofun, nofun, nofun⟩

theorem Safe.dispatched (h : s.Safe) {e : MbEvents} (hat : s.pollAt = .got e) (met : MbMet) :
    (s.dispatched e met).Safe := by
  have hfrom : s.pollAt ≠ .switching := by rw [hat]; exact nofun
  unfold MbThreads.dispatched
  dsimp only
  split
  · rw [MbRtu.rtAssert_true (decide_eq_true h.received)]
    split
    · exact { h.moved hfrom (plain_checking false) with }
    · exact { h.moved hfrom plain_eventGet with }
  · split
    · exact { h.moved hfrom (plain_executing false) with }
    · exact { h.moved hfrom plain_eventGet with }
  · exact { h.moved hfrom plain_eventGet with }

theorem Safe.executed (h : s.Safe) {torn : Bool} (hat : s.pollAt = .executing torn) (met : MbMet) :
    (s.executed torn met).Safe := by
  have hfrom : s.pollAt ≠ .switching := by rw [hat]; exact nofun
  unfold MbThreads.executed
  dsimp only
  by_cases hbroadcast : s.rtu.ucRcvAddress = 0
  · rw [if_pos hbroadcast, if_pos hbroadcast]
    have hmoved := h.moved hfrom plain_eventGet
    exact { hmoved with reply := fun hc => by rcases hc with hc | hc <;> cases hc }
  · rw [if_neg hbroadcast, if_neg hbroadcast]
    exact
      { h with
        sending := h.sending.trans ⟨fun hc => hc.imp (fun hc => absurd hc hfrom) id, fun hc => hc.imp nofun id⟩
        switching := nofun
        quiet := fun hc => h.quiet (hc.imp id fun hc => by rcases hc with hc | hc <;> cases hc)
        reply := fun _ => reply_length_le _ _ _
        armed := fun hc => h.armed (hc.imp id fun ⟨e, he, _⟩ => nomatch he) }

theorem Safe.replying (h : s.Safe) (hat : s.pollAt = .replying) (met : MbMet) : (s.polled met).Safe := by
  have hfrom : s.pollAt ≠ .switching := by rw [hat]; exact nofun
  unfold polled
  rw [hat]
  dsimp only
  by_cases hidle : s.rtu.eRcvState = .stateRxIdle
  · rw [if_pos hidle]
    exact
      { h with
        sending := h.sending.trans ⟨fun hc => hc.imp (fun hc => absurd hc hfrom) id, fun hc => hc.imp nofun id⟩
        switching := nofun
        quiet := fun _ => hidle
        reply := fun _ => h.reply (Or.inl hat)
        armed := fun hc => h.armed (hc.imp id fun ⟨e, he, _⟩ => nomatch he) }
  · rw [if_neg hidle]
    exact h.moved hfrom plain_eventGet

theorem Safe.filled (h : s.Safe) (hat : s.pollAt = .sending) (hoff : s.rtu.transStart = false) (met : MbMet) :
    (s.polled met).Safe := by
  have hlen := h.reply (Or.inr hat)
  have hidle := h.quiet (Or.inr (Or.inl hat))
  have hloop := h.before_call hoff
  unfold polled
  rw [hat]
  exact
    { h with
      sending := ⟨fun _ => Or.inl rfl, fun _ => rfl⟩
      switching := fun _ => hoff
      quiet := fun _ => hidle
      reply := fun hc => by rcases hc with hc | hc <;> cases hc
      toSend := by
        change 0 + (1 + s.rtu.usLength + 2) ≤ 69
        omega
      counted := fun hc => absurd (hc.symm.trans hloop) nofun
      armed := fun hc => h.armed (hc.imp id fun ⟨e, he, _⟩ => nomatch he) }

theorem Safe.switched (h : s.Safe) (hat : s.pollAt = .switching) (met : MbMet) : (s.polled met).Safe := by
  have hoff := h.switching hat
  have hloop := h.before_call hoff
  unfold polled
  rw [hat]
  exact
    { h with
      direction := rfl
      sending := ⟨fun _ => Or.inr ⟨rfl, by rw [hloop]; exact nofun⟩, fun _ => h.sending.2 (Or.inl hat)⟩
      sender := fun _ => rfl
      switching := nofun
      quiet := fun _ => h.quiet (Or.inr (Or.inr hat))
      reply := fun hc => by rcases hc with hc | hc <;> cases hc
      armed := fun hc => h.armed (hc.imp id fun ⟨e, he, _⟩ => nomatch he) }

theorem Safe.polled (h : s.Safe) (met : MbMet) (htimely : s.pollAt = .sending → s.rtu.transStart = false) :
    (s.polled met).Safe := by
  cases hat : s.pollAt with
  | eventGet => exact h.eventGet hat met
  | waiting =>
    unfold MbThreads.polled
    rw [hat]
    exact h
  | got e =>
    unfold MbThreads.polled
    rw [hat]
    exact h.dispatched hat met
  | checking torn =>
    have hfrom : s.pollAt ≠ .switching := by rw [hat]; exact nofun
    unfold MbThreads.polled
    rw [hat]
    dsimp only
    generalize (if torn then met.passes else decide (usMBCRC16 (s.rtu.bytes s.rtu.usRcvBufferPos) = 0)) = passes
    cases passes with
    | false => exact h.moved hfrom plain_eventGet
    | true => exact h.moved hfrom plain_accepted
  | accepted =>
    unfold MbThreads.polled
    rw [hat]
    exact { h.moved (by rw [hat]; exact nofun) (p := .addressed) ⟨nofun, nofun, nofun, nofun⟩ with }
  | addressed =>
    unfold MbThreads.polled
    rw [hat]
    exact
      { h.moved (by rw [hat]; exact nofun) plain_eventGet with
        reply := fun hc => by rcases hc with hc | hc <;> cases hc
        armed := fun _ => rfl }
  | executing torn =>
    unfold MbThreads.polled
    rw [hat]
    exact h.executed hat met
  | replying => exact h.replying hat met
  | sending => exact h.filled hat (htimely hat) met
  | switching => exact h.switched hat met

end MbThreads

/-- What a timely step does. -/
theorem timely_next_cases {s s' : MbThreads} {i : MbStep} (hn : mbTimely.next s i = some s') :
    (∃ b, i = .rxByte b ∧ s.rtu.rxEnable = true ∧ (s.pollAt ≠ .sending ∧ s.pollAt ≠ .switching) ∧ s' = s.rxByte b) ∨
      (i = .rxReturn ∧ s.inRxISR = true ∧
        s' = { s with rtu := { s.rtu with timer := true }, inRxISR := false }) ∨
      (i = .t35Expired ∧ s.rtu.timer = true ∧ s.inRxISR = false ∧
        s' = ({ s with rtu := s.rtu.xMBRTUTimerT35Expired } : MbThreads).delivered) ∨
      (i = .send ∧ (s.sendAt ≠ .loop ∨ s.rtu.transStart = true) ∧ s' = s.sent) ∨
      ∃ met, i = .poll met ∧ s.pollAt ≠ .waiting ∧ (s.pollAt = .sending → s.rtu.transStart = false) ∧
        s' = s.polled met := by
  obtain ⟨htimely, hn⟩ := Machine.restrict_next_eq_some.1 hn
  cases i with
  | rxByte b =>
    obtain ⟨⟨hrx, -⟩, hs⟩ := Option.ite_none_right_eq_some.1 hn
    exact Or.inl ⟨b, rfl, hrx, htimely, (Option.some_inj.1 hs).symm⟩
  | rxReturn =>
    obtain ⟨hisr, hs⟩ := Option.ite_none_right_eq_some.1 hn
    exact Or.inr (Or.inl ⟨rfl, hisr, (Option.some_inj.1 hs).symm⟩)
  | t35Expired =>
    obtain ⟨ht, hs⟩ := Option.ite_none_right_eq_some.1 hn
    exact Or.inr (Or.inr (Or.inl ⟨rfl, ht, htimely, (Option.some_inj.1 hs).symm⟩))
  | send =>
    obtain ⟨⟨-, hon⟩, hs⟩ := Option.ite_none_right_eq_some.1 hn
    exact Or.inr (Or.inr (Or.inr (Or.inl ⟨rfl, hon, (Option.some_inj.1 hs).symm⟩)))
  | poll met =>
    obtain ⟨⟨-, hat⟩, hs⟩ := Option.ite_none_right_eq_some.1 hn
    exact Or.inr (Or.inr (Or.inr (Or.inr ⟨met, rfl, hat, htimely, (Option.some_inj.1 hs).symm⟩)))

theorem threads_safe_next (s : MbThreads) (i : MbStep) (s' : MbThreads) (h : s.Safe) (hn : mbTimely.next s i = some s') :
    s'.Safe := by
  rcases timely_next_cases hn with ⟨b, -, hrx, htimely, rfl⟩ | ⟨-, hisr, rfl⟩ | ⟨-, ht, hisr, rfl⟩ | ⟨-, hon, rfl⟩ |
    ⟨met, -, -, htimely, rfl⟩
  · exact h.rxByte hrx htimely b
  · exact h.rxReturn hisr
  · exact h.t35Expired ht hisr
  · exact h.sent hon
  · exact h.polled met htimely

theorem threads_safe_start {s : MbThreads} (h : mbThreads.start s) : s.Safe := by
  obtain ⟨hrtu, hat, hsend, hisr⟩ := h
  obtain ⟨rtu, server, pollAt, sendAt, inRxISR⟩ := s
  dsimp only at hrtu hat hsend hisr
  subst hrtu hat hsend hisr
  exact
    { asserts := rfl
      direction := rfl
      sending := ⟨nofun, by rintro (hc | ⟨hc, -⟩) <;> cases hc⟩
      sender := nofun
      switching := nofun
      quiet := by rintro (hc | hc | hc) <;> cases hc
      timer := ⟨fun _ => nofun, fun _ => Or.inl rfl⟩
      received := (by decide : 0 ≤ mbSerPduSizeMax)
      reply := by rintro (hc | hc) <;> cases hc
      toSend := (by decide : 0 + 0 ≤ 69)
      counted := nofun
      armed := by rintro (hc | ⟨e, he, -⟩) <;> [cases hc; cases he] }

/-! The null pointer. -/

theorem only_execute {e : MbEvents} (h : e.only = some .evExecute) : e.execute = true := by
  obtain ⟨ready, received, execute, sent⟩ := e
  revert h
  cases ready <;> cases received <;> cases execute <;> cases sent <;> decide

namespace MbThreads

variable {s : MbThreads}

theorem delivered_eq (hat : s.pollAt ≠ .waiting) : s.delivered = s := if_neg fun h => hat h.1

theorem delivered_nullFrame (s : MbThreads) : s.delivered.rtu.nullFrame = s.rtu.nullFrame := by
  unfold delivered
  split <;> rfl

theorem delivered_assertFailed (s : MbThreads) : s.delivered.rtu.assertFailed = s.rtu.assertFailed := by
  unfold delivered
  split <;> rfl

theorem delivered_eRcvState (s : MbThreads) : s.delivered.rtu.eRcvState = s.rtu.eRcvState := by
  unfold delivered
  split <;> rfl

theorem delivered_inRxISR (s : MbThreads) : s.delivered.inRxISR = s.inRxISR := by
  unfold delivered
  split <;> rfl

theorem Safe.sent_nullFrame (h : s.Safe) (hon : s.sendAt ≠ .loop ∨ s.rtu.transStart = true) :
    s.sent.rtu.nullFrame = s.rtu.nullFrame := by
  have htrans : s.rtu.transStart = true := hon.elim h.sender id
  cases hat : s.sendAt with
  | loop =>
    have hxmit := h.xmit htrans (by rw [hat]; exact nofun)
    by_cases hcount : s.rtu.usSndBufferCount = 0
    · rw [sent_end hat (h.quiet (Or.inl htrans)) hxmit hcount, delivered_nullFrame]
    · rw [sent_byte hat (h.quiet (Or.inl htrans)) hxmit hcount]
  | put => rw [sent_put hat]
  | posted => rw [sent_posted hat]
  | idled =>
    rw [sent_idled hat]
    rfl

theorem Safe.dispatched_nullFrame (h : s.Safe) {e : MbEvents} (hat : s.pollAt = .got e) {met : MbMet}
    (hstack : met.stack ≠ some .evExecute) : (s.dispatched e met).rtu.nullFrame = s.rtu.nullFrame := by
  unfold MbThreads.dispatched
  dsimp only
  split
  · rw [MbRtu.rtAssert_true (decide_eq_true h.received)]
  · rename_i hevent
    have hset : s.rtu.ucMBFrame = true := by
      cases honly : e.only with
      | none =>
        rw [honly] at hevent
        exact absurd hevent hstack
      | some t =>
        rw [honly] at hevent
        obtain rfl : t = .evExecute := Option.some_inj.1 hevent
        exact h.armed (Or.inr ⟨e, hat, only_execute honly⟩)
    rw [if_pos hset]
  · rfl

theorem Safe.polled_nullFrame (h : s.Safe) {met : MbMet} (hstack : met.stack ≠ some .evExecute) :
    (s.polled met).rtu.nullFrame = s.rtu.nullFrame := by
  unfold MbThreads.polled
  split
  · split <;> rfl
  · rfl
  · rename_i e hat
    exact h.dispatched_nullFrame hat hstack
  all_goals rfl

end MbThreads

theorem threads_next_nullFrame {s s' : MbThreads} {i : MbStep} (h : s.Safe) (hn : mbTimely.next s i = some s')
    (hstack : ∀ met, i = .poll met → met.stack ≠ some .evExecute) : s'.rtu.nullFrame = s.rtu.nullFrame := by
  rcases timely_next_cases hn with ⟨b, -, hrx, htimely, rfl⟩ | ⟨-, -, rfl⟩ | ⟨-, ht, -, rfl⟩ | ⟨-, hon, rfl⟩ |
    ⟨met, hi, -, -, rfl⟩
  · -- a byte touches the buffer and the receiver only
    obtain ⟨buf, pos, state, -, -, heq⟩ := MbThreads.receiveFSM_kept (h.snd_idle hrx htimely.2) h.received b
    unfold MbThreads.rxByte
    rw [heq]
  · rfl
  · rw [MbThreads.delivered_nullFrame, MbRtu.timerT35Expired_eq (h.timer.1 (Or.inl ht))]
  · exact h.sent_nullFrame hon
  · exact h.polled_nullFrame (hstack met hi)

/-! Bytes and expiries that come at the wrong time. -/

namespace MbThreads

variable {s : MbThreads}

theorem rtAssert_failed {ok : Bool} {r : MbRtu} (h : r.assertFailed = true ∨ ok = false) :
    (r.rtAssert ok).assertFailed = true := by
  unfold MbRtu.rtAssert
  cases ok with
  | false => rfl
  | true => exact h.elim id nofun

/-- A byte with `eSndState` set fails the assertion of `xMBRTUReceiveFSM`. -/
theorem receiveFSM_fails {r : MbRtu} (hsnd : r.eSndState = .stateTxXmit) (ucByte : UInt8) :
    (r.xMBRTUReceiveFSM ucByte).assertFailed = true := by
  have hfailed : (r.rtAssert (decide (r.eSndState = .stateTxIdle))).assertFailed = true :=
    rtAssert_failed (Or.inr (by rw [hsnd]; rfl))
  unfold MbRtu.xMBRTUReceiveFSM
  dsimp only
  generalize r.rtAssert (decide (r.eSndState = .stateTxIdle)) = r' at hfailed
  split <;> [exact hfailed; exact hfailed; exact hfailed; (split <;> exact hfailed)]

/-- A byte behind the test of `eMBRTUSend`: the reply goes out all the same, and the
first call of `xMBRTUTransmitFSM` finds the receiver busy. -/
theorem Safe.late_byte_fails (h : s.Safe) (hat : s.pollAt = .sending) (hrx : s.rtu.rxEnable = true) (ucByte : UInt8) :
    ∃ js s', mbThreads.run (s.rxByte ucByte) js = some s' ∧ s'.rtu.assertFailed = true := by
  have hloop := h.before_call (h.sender_off hrx)
  have hsnd := h.snd_idle hrx (by rw [hat]; exact nofun)
  obtain ⟨buf, pos, state, hbusy, -, heq⟩ := receiveFSM_kept hsnd h.received ucByte
  unfold MbThreads.rxByte
  rw [heq, hat, hloop]
  cases state with
  | stateRxIdle => exact absurd rfl hbusy
  | stateRxInit | stateRxRcv | stateRxError =>
    exact ⟨[.rxReturn, .poll {}, .poll {}, .send], _, rfl, rfl⟩

/-- The timer expires inside the receive interrupt, which then starts it again: it
expires once more with no frame coming in. -/
theorem early_expiry_fails (hisr : s.inRxISR = true) (hidle : s.rtu.eRcvState = .stateRxIdle) :
    ∃ js s', mbThreads.run s js = some s' ∧ s'.rtu.assertFailed = true := by
  have hreturn : mbThreads.next s .rxReturn =
      some { s with rtu := { s.rtu with timer := true }, inRxISR := false } := if_pos hisr
  refine ⟨[.rxReturn, .t35Expired], _, by rw [Machine.run_cons, hreturn]; rfl, ?_⟩
  rw [delivered_assertFailed]
  unfold MbRtu.xMBRTUTimerT35Expired
  dsimp only
  rw [hidle]
  rfl

end MbThreads

/-- **Safety of the line.** Along every run whose steps are all timely no assertion
fails, the receive interrupt is off exactly while the sending thread is on, the
t3.5 timer runs exactly while the receiver is not idle, and all positions lie in the
frame buffer; and unless the event that `eMBPoll` leaves uninitialised happens to
be `EV_EXECUTE`, no request is executed before a frame has been received. Where
then a byte or an expiry comes that is not timely, an assertion can fail. -/
theorem line_safe {s₀ s : MbThreads} {is : List MbStep} (hstart : mbThreads.start s₀)
    (hr : mbThreads.run s₀ is = some s) (htimely : mbThreads.Steps (fun s i _ => s.Timely i) s₀ is) :
    s.Safe ∧ ((∀ met, MbStep.poll met ∈ is → met.stack ≠ some .evExecute) → s.rtu.nullFrame = false) ∧
      ∀ i m, (∀ met, i ≠ .poll met) → ¬ s.Timely i → mbThreads.next s i = some m →
        ∃ js s', mbThreads.run m js = some s' ∧ s'.rtu.assertFailed = true := by
  have hr : mbTimely.run s₀ is = some s := Machine.restrict_run_eq_some.2 ⟨hr, htimely⟩
  have hsafe : mbTimely.Always MbThreads.Safe s₀ is :=
    @Machine.always_of_inv _ _ mbTimely _ s₀ (threads_safe_start hstart) threads_safe_next is
  have hs : s.Safe := hsafe is s List.prefix_rfl hr
  refine ⟨hs, fun hstack => ?_, fun i m hpoll hnot hn => ?_⟩
  · have hnull₀ : s₀.rtu.nullFrame = false := by rw [show s₀.rtu = {} from hstart.1]
    have hrest : mbTimely.Steps (fun s i _ => (∀ met, i = .poll met → met.stack ≠ some .evExecute) ∧ s.Safe) s₀ is := by
      refine (Machine.steps_and_label fun i hi met hpoll => ?_).2 hsafe.steps
      exact hstack met (hpoll ▸ hi)
    have hstep : ∀ (s : MbThreads) (i : MbStep) (s' : MbThreads), s.rtu.nullFrame = false →
        ((∀ met, i = .poll met → met.stack ≠ some .evExecute) ∧ s.Safe) → mbTimely.next s i = some s' →
        s'.rtu.nullFrame = false :=
      fun s i s' hs hok hn => (threads_next_nullFrame hok.2 hn hok.1).trans hs
    have hnull : mbTimely.Always (fun s => s.rtu.nullFrame = false) s₀ is :=
      @Machine.always_of_steps _ _ mbTimely _ _ s₀ hnull₀ hstep is hrest
    exact hnull is s List.prefix_rfl hr
  · cases i with
    | rxReturn | send => exact absurd trivial hnot
    | poll met => exact absurd rfl (hpoll met)
    | rxByte b =>
      obtain ⟨⟨hrx, -⟩, hm⟩ := Option.ite_none_right_eq_some.1 hn
      obtain rfl := Option.some_inj.1 hm
      by_cases hat : s.pollAt = .sending
      · exact hs.late_byte_fails hat hrx b
      · have hswitching : s.pollAt = .switching := by
          by_contra hc
          exact hnot ⟨hat, hc⟩
        exact ⟨[], _, rfl, MbThreads.receiveFSM_fails (hs.sending.2 (Or.inl hswitching)) b⟩
    | t35Expired =>
      obtain ⟨ht, hm⟩ := Option.ite_none_right_eq_some.1 hn
      obtain rfl := Option.some_inj.1 hm
      have hisr : s.inRxISR = true := by
        by_contra hc
        exact hnot (Bool.eq_false_of_not_eq_true hc)
      refine MbThreads.early_expiry_fails ?_ ?_
      · rw [MbThreads.delivered_inRxISR]
        exact hisr
      · rw [MbThreads.delivered_eRcvState, MbRtu.timerT35Expired_eq (hs.timer.1 (Or.inl ht))]

/-- A sample slave, and a request to read eight coils up to the test of `eMBRTUSend`. -/
def sampleThreads : MbThreads := { server := sampleServer }

def sampleSteps : List MbStep :=
  [.poll {}, .t35Expired, .poll {}, .poll {}] ++ (sampleRead.map fun b => [MbStep.rxByte b, .rxReturn]).flatten ++
    .t35Expired :: List.replicate 8 (.poll {})

theorem line_safe_sample :
    ∃ s, mbThreads.run sampleThreads sampleSteps = some s ∧ s.Safe ∧ s.rtu.nullFrame = false ∧
      ∃ js s', mbThreads.run (s.rxByte 8) js = some s' ∧ s'.rtu.assertFailed = true := by
  obtain ⟨s, hr, hs⟩ := (Option.any_eq_true _ _).1 (by decide +kernel : (mbTimely.run sampleThreads sampleSteps).any
    (fun s => decide (s.pollAt = .sending ∧ s.rtu.rxEnable = true ∧ ¬ s.inRxISR = true)) = true)
  obtain ⟨hat, hrx, hisr⟩ := of_decide_eq_true hs
  obtain ⟨hr, htimely⟩ := Machine.restrict_run_eq_some.1 hr
  obtain ⟨hsafe, hnull, hlate⟩ := @line_safe sampleThreads s sampleSteps ⟨rfl, rfl, rfl, rfl⟩ hr htimely
  refine ⟨s, hr, hsafe, hnull fun met hmet => ?_, hlate (.rxByte 8) _ nofun (fun h => h.1 hat) (if_pos ⟨hrx, hisr⟩)⟩
  have hmet : met = {} := by simpa [sampleSteps] using hmet
  rw [hmet]
  exact nofun

/-! Rounds in one piece. -/

/-- The line between two steps of `mbLine`. -/
def MbLine.threads (l : MbLine) : MbThreads := { rtu := l.rtu, server := l.server }

/-- Some pieces lead from `s` to `t`. -/
def MbThreads.Leads (s t : MbThreads) : Prop := ∃ ms, mbThreads.run s ms = some t

theorem leads_refl (s : MbThreads) : s.Leads s := ⟨[], rfl⟩

theorem leads_next {s m t : MbThreads} {i : MbStep} (hn : mbThreads.next s i = some m) (h : m.Leads t) : s.Leads t := by
  obtain ⟨ms, hr⟩ := h
  exact ⟨i :: ms, Option.bind_eq_some_iff.2 ⟨m, hn, hr⟩⟩

theorem leads_poll {s t : MbThreads} (met : MbMet) (hisr : s.inRxISR = false) (hat : s.pollAt ≠ .waiting)
    (h : (s.polled met).Leads t) : s.Leads t :=
  leads_next (i := .poll met) (if_pos ⟨by rw [hisr]; decide, hat⟩) h

theorem leads_send {s t : MbThreads} (hisr : s.inRxISR = false) (hon : s.sendAt ≠ .loop ∨ s.rtu.transStart = true)
    (h : s.sent.Leads t) : s.Leads t :=
  leads_next (i := .send) (if_pos ⟨by rw [hisr]; decide, hon⟩) h

/-- The rest of a round that executes a request. -/
theorem execute_leads {r : MbRtu} (sv : MbServer) (hset : r.ucMBFrame = true) :
    MbThreads.Leads { rtu := r, server := sv, pollAt := .executing false }
      (⟨(r.execute sv).1, (r.execute sv).2⟩ : MbLine).threads := by
  unfold MbRtu.execute
  rw [if_pos hset]
  refine leads_poll {} rfl nofun ?_
  unfold MbThreads.polled MbThreads.executed
  dsimp only
  by_cases hbroadcast : r.ucRcvAddress = 0
  · rw [if_pos hbroadcast, if_pos hbroadcast, if_pos hbroadcast]
    exact leads_refl _
  · rw [if_neg hbroadcast, if_neg hbroadcast, if_neg hbroadcast]
    have hrcv (reply : MbReply) :
        ({ r.setPdu reply.pucFrame with usLength := reply.usLen } : MbRtu).eRcvState = r.eRcvState := rfl
    refine leads_poll {} rfl nofun ?_
    unfold MbThreads.polled MbRtu.eMBRTUSend
    dsimp only
    rw [hrcv]
    by_cases hidle : r.eRcvState = .stateRxIdle
    · rw [if_pos hidle, if_pos hidle]
      exact leads_poll {} rfl nofun (leads_poll {} rfl nofun (leads_refl _))
    · rw [if_neg hidle, if_neg hidle]
      exact leads_refl _

/-- The rest of a round that looks at a frame. -/
theorem frameReceived_leads {r : MbRtu} (hpos : r.usRcvBufferPos ≤ mbSerPduSizeMax) (sv : MbServer) :
    MbThreads.Leads
      { rtu := r, server := sv,
        pollAt := if mbSerPduSizeMin ≤ r.usRcvBufferPos then .checking false else .eventGet }
      (⟨r.frameReceived, sv⟩ : MbLine).threads := by
  unfold MbRtu.frameReceived MbRtu.eMBRTUReceive
  dsimp only
  rw [MbRtu.rtAssert_true (decide_eq_true hpos)]
  by_cases hmin : mbSerPduSizeMin ≤ r.usRcvBufferPos
  · rw [if_pos hmin]
    refine leads_poll {} rfl nofun ?_
    unfold MbThreads.polled
    dsimp only
    by_cases hcrc : usMBCRC16 (r.bytes r.usRcvBufferPos) = 0
    · rw [if_neg Bool.false_ne_true, if_pos (decide_eq_true hcrc), if_pos ⟨hmin, hcrc⟩]
      refine leads_poll {} rfl nofun (leads_poll {} rfl nofun ?_)
      have hlen : (65536 + r.usRcvBufferPos - 1 - 2) % 65536 = r.usRcvBufferPos - 1 - 2 := by
        unfold mbSerPduSizeMin at hmin
        unfold mbSerPduSizeMax at hpos
        omega
      unfold MbThreads.polled MbLine.threads
      dsimp only
      rw [hlen]
      by_cases hus : r.ucRTUBuf 0 = slaveAddr ∨ r.ucRTUBuf 0 = 0
      · rw [if_pos hus, decide_eq_true hus, Bool.or_true]
        exact leads_refl _
      · rw [if_neg hus, decide_eq_false hus, Bool.or_false]
        exact leads_refl _
    · rw [if_neg Bool.false_ne_true, if_neg (by rw [decide_eq_true_eq]; exact hcrc), if_neg fun hc => hcrc hc.2]
      exact leads_refl _
  · rw [if_neg hmin, if_neg fun hc => hmin hc.1]
    exact leads_refl _

/-- A round of the poll loop, piece by piece. -/
theorem poll_leads {l : MbLine} (hpos : l.rtu.usRcvBufferPos ≤ mbSerPduSizeMax) (hany : l.rtu.events.any = true)
    (stack : Option MbEventType) (refresh : MbServer → MbServer) :
    let p := l.rtu.eMBPoll stack (refresh l.server)
    l.threads.Leads (⟨p.1, p.2⟩ : MbLine).threads := by
  intro p
  have hgot : l.threads.polled {} =
      { rtu := l.rtu.clearEvents, server := l.server, pollAt := .got l.rtu.events } := if_pos hany
  refine leads_poll {} rfl nofun ?_
  rw [hgot]
  refine leads_poll { stack := stack, refresh := refresh } rfl nofun ?_
  change (MbThreads.dispatched _ _ _).Leads (⟨(l.rtu.eMBPoll stack (refresh l.server)).1,
    (l.rtu.eMBPoll stack (refresh l.server)).2⟩ : MbLine).threads
  unfold MbThreads.dispatched MbRtu.eMBPoll
  dsimp only
  generalize (l.rtu.events.only.orElse fun _ => stack) = eEvent
  cases eEvent with
  | none => exact leads_refl _
  | some t =>
    cases t with
    | evReady | evFrameSent => exact leads_refl _
    | evFrameReceived =>
      dsimp only
      have hpos' : l.rtu.clearEvents.usRcvBufferPos ≤ mbSerPduSizeMax := hpos
      rw [MbRtu.rtAssert_true (decide_eq_true hpos')]
      exact frameReceived_leads hpos' (refresh l.server)
    | evExecute =>
      dsimp only
      by_cases hset : l.rtu.clearEvents.ucMBFrame = true
      · rw [if_pos hset]
        exact execute_leads (refresh l.server) hset
      · rw [if_neg hset]
        unfold MbRtu.execute
        rw [if_neg hset]
        exact leads_refl _

theorem line_next_leads {l l' : MbLine} {i : MbInput} (hsafe : l.rtu.Safe) (hn : mbLine.next l i = some l') :
    l.threads.Leads l'.threads := by
  cases i with
  | rxByte b =>
    obtain ⟨hrx, hl⟩ := Option.ite_none_right_eq_some.1 hn
    obtain rfl := Option.some_inj.1 hl
    obtain ⟨buf, pos, state, -, -, heq⟩ := MbThreads.receiveFSM_kept (hsafe.direction.1 hrx) hsafe.received b
    have hbyte : mbThreads.next l.threads (.rxByte b) = some (l.threads.rxByte b) := if_pos ⟨hrx, nofun⟩
    have hreturn : mbThreads.next (l.threads.rxByte b) .rxReturn =
        some (⟨l.rtu.xMBRTUReceiveFSM b, l.server⟩ : MbLine).threads := by
      unfold MbThreads.rxByte MbLine.threads
      rw [heq]
      rfl
    exact leads_next hbyte (leads_next hreturn (leads_refl _))
  | t35Expired =>
    obtain ⟨ht, hl⟩ := Option.ite_none_right_eq_some.1 hn
    obtain rfl := Option.some_inj.1 hl
    exact leads_next (i := .t35Expired) (if_pos ht) (leads_refl _)
  | txReady =>
    obtain ⟨htrans, hl⟩ := Option.ite_none_right_eq_some.1 hn
    obtain rfl := Option.some_inj.1 hl
    have hxmit := hsafe.sending.1 htrans
    have hrcv := hsafe.quiet hxmit
    refine leads_send rfl (Or.inr htrans) ?_
    by_cases hcount : l.rtu.usSndBufferCount = 0
    · rw [MbThreads.sent_end rfl hrcv hxmit hcount, MbThreads.delivered_eq, MbRtu.transmitFSM_end hxmit hrcv hcount]
      · exact leads_send rfl (Or.inl nofun) (leads_send rfl (Or.inl nofun) (leads_refl _))
      · exact nofun
    · rw [MbThreads.sent_byte rfl hrcv hxmit hcount, MbRtu.transmitFSM_byte hxmit hrcv hcount]
      exact leads_send rfl (Or.inl nofun) (leads_refl _)
  | poll stack refresh =>
    obtain ⟨hany, hl⟩ := Option.ite_none_right_eq_some.1 hn
    obtain rfl := Option.some_inj.1 hl
    exact poll_leads hsafe.received hany stack refresh

/-- **Rounds in one piece.** Every run of `mbLine` is a run of the pieces. -/
theorem line_run_threads {l₀ l : MbLine} {is : List MbInput} (hstart : mbLine.start l₀)
    (hr : mbLine.run l₀ is = some l) : l₀.threads.Leads l.threads := by
  induction is using List.reverseRecOn generalizing l with
  | nil =>
    obtain rfl : l₀ = l := Option.some_inj.1 hr
    exact leads_refl _
  | append_singleton is i ih =>
    obtain ⟨m, hm, hn⟩ := (mbLine.run_snoc_eq_some).1 hr
    obtain ⟨ms, hms⟩ := ih hm
    obtain ⟨ns, hns⟩ := line_next_leads (line_safe_all hstart hm) hn
    exact ⟨ms ++ ns, by rw [Machine.run_append, hms, Option.bind_some, hns]⟩

end Aqualarm
