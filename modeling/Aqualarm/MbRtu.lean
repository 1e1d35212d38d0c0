import Aqualarm.MbReplies
import Aqualarm.MbCrc
import Aqualarm.Lib.Machine

/-
  The serial line of the Modbus slave: mbrtu.c, `eMBPoll` of mb.c, and of the
  port the events, the t3.5 timer and the two directions of the UART. A byte
  arrives only while the receive interrupt is enabled.

  In the machine `mbLine` an interrupt, a call of `xMBRTUTransmitFSM` and a round
  of the poll loop are one step each. The code does not ensure that: the critical
  sections of port.c take a semaphore that no interrupt asks for. MbThreads.lean
  takes the same functions apart where they can be interrupted; the runs of
  `mbLine` are those of its runs in which nothing comes in between.

  What is proved:
    1. `line_safe_all` — along every run of `mbLine` no assertion of mbrtu.c fails
       and all positions lie in the frame buffer.
    2. `listening_of_quiet` — where only a byte can still happen, the line listens
       for a frame.
-/

namespace Aqualarm

open Lib

/-- `eMBRcvState`. -/
inductive MbRcvState where
  | stateRxInit | stateRxIdle | stateRxRcv | stateRxError
  deriving DecidableEq, Repr

/-- `eMBSndState`. -/
inductive MbSndState where
  | stateTxIdle | stateTxXmit
  deriving DecidableEq, Repr

/-- `eMBEventType`. -/
inductive MbEventType where
  | evReady | evFrameReceived | evExecute | evFrameSent
  deriving DecidableEq, Repr

/-- The set of posted events, `xSlaveOsEvent`. -/
structure MbEvents where
  ready : Bool := false
  frameReceived : Bool := false
  execute : Bool := false
  frameSent : Bool := false
  deriving DecidableEq, Repr

def MbEvents.any (e : MbEvents) : Bool := e.ready || e.frameReceived || e.execute || e.frameSent

/-- The `switch` of `xMBPortEventGet`: it has no case for two events at once. -/
def MbEvents.only : MbEvents → Option MbEventType
  | ⟨true, false, false, false⟩ => some .evReady
  | ⟨false, true, false, false⟩ => some .evFrameReceived
  | ⟨false, false, true, false⟩ => some .evExecute
  | ⟨false, false, false, true⟩ => some .evFrameSent
  | _ => none

/-- The static variables of mbrtu.c, those of `eMBPoll`, and the port. `ucMBFrame`
is whether the pointer has been set: it is then `&ucRTUBuf[1]`. `timer` is the
t3.5 timer, `rxEnable` the receive interrupt, `transStart` the event the sending
thread waits for; `sent` collects what it has put on the line. `assertFailed` is
set where an `RT_ASSERT` fails, `nullFrame` where a request is executed through
the null pointer. -/
structure MbRtu where
  eSndState : MbSndState := .stateTxIdle
  eRcvState : MbRcvState := .stateRxInit
  ucRTUBuf : Nat → UInt8 := fun _ => 0
  pucSndBufferCur : Nat := 0
  usSndBufferCount : Nat := 0
  usRcvBufferPos : Nat := 0
  ucMBFrame : Bool := false
  ucRcvAddress : UInt8 := 0
  usLength : Nat := 0
  events : MbEvents := {}
  timer : Bool := true
  rxEnable : Bool := true
  transStart : Bool := false
  sent : List UInt8 := []
  assertFailed : Bool := false
  nullFrame : Bool := false

def mbSerPduSizeMin : Nat := 4
def mbSerPduSizeMax : Nat := 256

/-- `SLAVE_ADDR`. -/
def slaveAddr : UInt8 := 8

namespace MbRtu

/-- The first `n` bytes of the frame buffer. -/
def bytes (n : Nat) (r : MbRtu) : List UInt8 := (List.range n).map r.ucRTUBuf

def rtAssert (ok : Bool) (r : MbRtu) : MbRtu := if ok then r else { r with assertFailed := true }

def vMBPortSerialEnable (xRxEnable xTxEnable : Bool) (r : MbRtu) : MbRtu :=
  { r with rxEnable := xRxEnable, transStart := xTxEnable }

def xMBRTUReceiveFSM (ucByte : UInt8) (r : MbRtu) : MbRtu :=
  let r := r.rtAssert (r.eSndState = .stateTxIdle)
  match r.eRcvState with
  | .stateRxInit | .stateRxError => { r with timer := true }
  | .stateRxIdle =>
    { r with
      ucRTUBuf := Function.update r.ucRTUBuf 0 ucByte, usRcvBufferPos := 1
      eRcvState := .stateRxRcv, timer := true }
  | .stateRxRcv =>
    if r.usRcvBufferPos < mbSerPduSizeMax then
      { r with
        ucRTUBuf := Function.update r.ucRTUBuf r.usRcvBufferPos ucByte
        usRcvBufferPos := r.usRcvBufferPos + 1, timer := true }
    else { r with eRcvState := .stateRxError, timer := true }

def xMBRTUTimerT35Expired (r : MbRtu) : MbRtu :=
  let r :=
    match r.eRcvState with
    | .stateRxInit => { r with events := { r.events with ready := true } }
    | .stateRxRcv => { r with events := { r.events with frameReceived := true } }
    | .stateRxError => r
    | .stateRxIdle => r.rtAssert false
  { r with timer := false, eRcvState := .stateRxIdle }

def xMBRTUTransmitFSM (r : MbRtu) : MbRtu :=
  let r := r.rtAssert (r.eRcvState = .stateRxIdle)
  match r.eSndState with
  | .stateTxIdle => r.vMBPortSerialEnable true false
  | .stateTxXmit =>
    if r.usSndBufferCount ≠ 0 then
      { r with
        sent := r.sent ++ [r.ucRTUBuf r.pucSndBufferCur]
        pucSndBufferCur := r.pucSndBufferCur + 1, usSndBufferCount := r.usSndBufferCount - 1 }
    else
      { r with
        events := { r.events with frameSent := true }
        eSndState := .stateTxIdle }.vMBPortSerialEnable true false

/-- `eMBRTUReceive`: the address and the length of the PDU, or `none` for `MB_EIO`. -/
def eMBRTUReceive (r : MbRtu) : Option (UInt8 × Nat) :=
  if mbSerPduSizeMin ≤ r.usRcvBufferPos ∧ usMBCRC16 (r.bytes r.usRcvBufferPos) = 0 then
    some (r.ucRTUBuf 0, r.usRcvBufferPos - 1 - 2)
  else none

/-- `eMBRTUSend` from its test of `eRcvState` to `eSndState`. -/
def filled (ucSlaveAddress : UInt8) (usLength : Nat) (r : MbRtu) : MbRtu :=
  let r := { r with ucRTUBuf := Function.update r.ucRTUBuf 0 ucSlaveAddress, pucSndBufferCur := 0 }
  let count := 1 + usLength
  let usCRC16 := usMBCRC16 (r.bytes count)
  { r with
    ucRTUBuf := Function.update (Function.update r.ucRTUBuf count usCRC16.toUInt8) (count + 1) (usCRC16 >>> 8).toUInt8
    usSndBufferCount := count + 2, eSndState := .stateTxXmit }

def eMBRTUSend (ucSlaveAddress : UInt8) (usLength : Nat) (r : MbRtu) : MbRtu :=
  if r.eRcvState = .stateRxIdle then (r.filled ucSlaveAddress usLength).vMBPortSerialEnable false true else r

/-- The PDU, as `ucMBFrame` points to it. -/
def pdu (r : MbRtu) (i : Nat) : UInt8 := r.ucRTUBuf (1 + i)

/-- The buffer with the PDU replaced. -/
def setPdu (pucFrame : Nat → UInt8) (r : MbRtu) : MbRtu :=
  { r with ucRTUBuf := fun i => if i = 0 then r.ucRTUBuf 0 else pucFrame (i - 1) }

/-- `case EV_FRAME_RECEIVED`. -/
def frameReceived (r : MbRtu) : MbRtu :=
  let r := r.rtAssert (r.usRcvBufferPos ≤ mbSerPduSizeMax)
  match r.eMBRTUReceive with
  | none => r
  | some (ucRcvAddress, usLength) =>
    let r := { r with ucRcvAddress, usLength, ucMBFrame := true }
    if ucRcvAddress = slaveAddr ∨ ucRcvAddress = 0 then { r with events := { r.events with execute := true } } else r

/-- `case EV_EXECUTE`. A broadcast is executed and not answered. -/
def execute (sv : MbServer) (r : MbRtu) : MbRtu × MbServer :=
  if r.ucMBFrame then
    if r.ucRcvAddress = 0 then
      let reply := mbExecute r.pdu r.usLength sv
      ({ r.setPdu reply.pucFrame with usLength := reply.usLen }, reply.server)
    else
      let reply := mbReply r.pdu r.usLength sv
      (({ r.setPdu reply.pucFrame with usLength := reply.usLen }).eMBRTUSend slaveAddr reply.usLen, reply.server)
  else ({ r with nullFrame := true }, sv)

/-- `RT_EVENT_FLAG_CLEAR`. -/
def clearEvents (r : MbRtu) : MbRtu := { r with events := {} }

/-- `eMBPoll`, once events are there. `stack` is what `eEvent` holds before
`xMBPortEventGet`, where it is one of the events. -/
def eMBPoll (stack : Option MbEventType) (sv : MbServer) (r : MbRtu) : MbRtu × MbServer :=
  let eEvent := r.events.only.orElse fun _ => stack
  match eEvent with
  | some .evFrameReceived => (r.clearEvents.frameReceived, sv)
  | some .evExecute => r.clearEvents.execute sv
  | _ => (r.clearEvents, sv)

end MbRtu

/-! The line as a machine, with every interrupt, call and round in one piece. -/

structure MbLine where
  rtu : MbRtu := {}
  server : MbServer

/-- A byte from the master, the t3.5 timer, the sending thread, and one round of
the poll loop that nothing interrupts; `refresh` is what has become of the unit and
the tables since the last round. Events posted before the round begins are taken
together, as where the thread has not got to `rt_event_recv` yet. -/
inductive MbInput where
  | rxByte (ucByte : UInt8)
  | t35Expired
  | txReady
  | poll (stack : Option MbEventType) (refresh : MbServer → MbServer)

def MbLine.next (l : MbLine) : MbInput → Option MbLine
  | .rxByte ucByte => if l.rtu.rxEnable then some { l with rtu := l.rtu.xMBRTUReceiveFSM ucByte } else none
  | .t35Expired => if l.rtu.timer then some { l with rtu := l.rtu.xMBRTUTimerT35Expired } else none
  | .txReady => if l.rtu.transStart then some { l with rtu := l.rtu.xMBRTUTransmitFSM } else none
  | .poll stack refresh =>
    if l.rtu.events.any then
      let p := l.rtu.eMBPoll stack (refresh l.server)
      some ⟨p.1, p.2⟩
    else none

def mbLine : Machine MbLine MbInput where
  start l := l.rtu = {}
  next := MbLine.next

/-! Safety. -/

/-- What every step keeps: the receive interrupt is off exactly while a reply is
on its way, the timer runs exactly while the receiver is not idle, and all positions
lie in the buffer. -/
structure MbRtu.Safe (r : MbRtu) : Prop where
  asserts : r.assertFailed = false
  sending : r.transStart = true ↔ r.eSndState = .stateTxXmit
  direction : r.rxEnable = true ↔ r.eSndState = .stateTxIdle
  timer : r.timer = true ↔ r.eRcvState ≠ .stateRxIdle
  quiet : r.eSndState = .stateTxXmit → r.eRcvState = .stateRxIdle
  received : r.usRcvBufferPos ≤ mbSerPduSizeMax
  armed : r.events.execute = true → r.ucMBFrame = true
  pdu : r.ucMBFrame = true → 1 ≤ r.usLength ∧ r.usLength ≤ 253
  toSend : r.pucSndBufferCur + r.usSndBufferCount ≤ 69

namespace MbRtu

variable {r : MbRtu}

theorem rtAssert_true {ok : Bool} (h : ok = true) (r : MbRtu) : r.rtAssert ok = r := if_pos h

/-! What the interrupts do in each state. -/

theorem receiveFSM_waiting (hsnd : r.eSndState = .stateTxIdle)
    (hstate : r.eRcvState = .stateRxInit ∨ r.eRcvState = .stateRxError) (ucByte : UInt8) :
    r.xMBRTUReceiveFSM ucByte = { r with timer := true } := by
  unfold xMBRTUReceiveFSM
  dsimp only
  rw [rtAssert_true (decide_eq_true hsnd)]
  rcases hstate with h | h <;> rw [h]

theorem receiveFSM_idle (hsnd : r.eSndState = .stateTxIdle) (hstate : r.eRcvState = .stateRxIdle) (ucByte : UInt8) :
    r.xMBRTUReceiveFSM ucByte =
      { r with
        ucRTUBuf := Function.update r.ucRTUBuf 0 ucByte, usRcvBufferPos := 1
        eRcvState := .stateRxRcv, timer := true } := by
  unfold xMBRTUReceiveFSM
  dsimp only
  rw [rtAssert_true (decide_eq_true hsnd), hstate]

theorem receiveFSM_room (hsnd : r.eSndState = .stateTxIdle) (hstate : r.eRcvState = .stateRxRcv)
    (hroom : r.usRcvBufferPos < mbSerPduSizeMax) (ucByte : UInt8) :
    r.xMBRTUReceiveFSM ucByte =
      { r with
        ucRTUBuf := Function.update r.ucRTUBuf r.usRcvBufferPos ucByte
        usRcvBufferPos := r.usRcvBufferPos + 1, timer := true } := by
  unfold xMBRTUReceiveFSM
  dsimp only
  rw [rtAssert_true (decide_eq_true hsnd), hstate]
  exact if_pos hroom

theorem receiveFSM_full (hsnd : r.eSndState = .stateTxIdle) (hstate : r.eRcvState = .stateRxRcv)
    (hfull : ¬ r.usRcvBufferPos < mbSerPduSizeMax) (ucByte : UInt8) :
    r.xMBRTUReceiveFSM ucByte = { r with eRcvState := .stateRxError, timer := true } := by
  unfold xMBRTUReceiveFSM
  dsimp only
  rw [rtAssert_true (decide_eq_true hsnd), hstate]
  exact if_neg hfull

theorem timerT35Expired_eq (hbusy : r.eRcvState ≠ .stateRxIdle) :
    r.xMBRTUTimerT35Expired =
      { r with
        events :=
          { r.events with
            ready := r.events.ready || decide (r.eRcvState = .stateRxInit)
            frameReceived := r.events.frameReceived || decide (r.eRcvState = .stateRxRcv) }
        timer := false, eRcvState := .stateRxIdle } := by
  unfold xMBRTUTimerT35Expired
  cases hstate : r.eRcvState with
  | stateRxIdle => exact absurd hstate hbusy
  | stateRxInit | stateRxRcv | stateRxError => simp

theorem transmitFSM_byte (hsnd : r.eSndState = .stateTxXmit) (hrcv : r.eRcvState = .stateRxIdle)
    (hcount : r.usSndBufferCount ≠ 0) :
    r.xMBRTUTransmitFSM =
      { r with
        sent := r.sent ++ [r.ucRTUBuf r.pucSndBufferCur]
        pucSndBufferCur := r.pucSndBufferCur + 1, usSndBufferCount := r.usSndBufferCount - 1 } := by
  unfold xMBRTUTransmitFSM
  dsimp only
  rw [rtAssert_true (decide_eq_true hrcv), hsnd]
  exact if_pos hcount

theorem transmitFSM_end (hsnd : r.eSndState = .stateTxXmit) (hrcv : r.eRcvState = .stateRxIdle)
    (hcount : r.usSndBufferCount = 0) :
    r.xMBRTUTransmitFSM =
      { r with
        events := { r.events with frameSent := true }
        eSndState := .stateTxIdle, rxEnable := true, transStart := false } := by
  unfold xMBRTUTransmitFSM
  dsimp only
  rw [rtAssert_true (decide_eq_true hrcv), hsnd]
  exact if_neg (not_not.2 hcount)

theorem Safe.receiveFSM (h : r.Safe) (hrx : r.rxEnable = true) (ucByte : UInt8) : (r.xMBRTUReceiveFSM ucByte).Safe := by
  have hsnd : r.eSndState = .stateTxIdle := h.direction.1 hrx
  have hnotXmit : r.eSndState ≠ .stateTxXmit := by rw [hsnd]; decide
  by_cases hidle : r.eRcvState = .stateRxIdle
  · rw [receiveFSM_idle hsnd hidle]
    exact
      { h with
        timer := ⟨fun _ hc => (by cases hc), fun _ => rfl⟩
        quiet := fun hx => absurd hx hnotXmit
        received := (by decide : 1 ≤ mbSerPduSizeMax) }
  · by_cases hrcv : r.eRcvState = .stateRxRcv
    · by_cases hroom : r.usRcvBufferPos < mbSerPduSizeMax
      · rw [receiveFSM_room hsnd hrcv hroom]
        exact
          { h with
            timer := ⟨fun _ => hidle, fun _ => rfl⟩
            received := hroom }
      · rw [receiveFSM_full hsnd hrcv hroom]
        exact
          { h with
            timer := ⟨fun _ hc => (by cases hc), fun _ => rfl⟩
            quiet := fun hx => absurd hx hnotXmit }
    · have hwaiting : r.eRcvState = .stateRxInit ∨ r.eRcvState = .stateRxError := by
        cases hstate : r.eRcvState with
        | stateRxIdle => exact absurd hstate hidle
        | stateRxRcv => exact absurd hstate hrcv
        | stateRxInit => exact Or.inl rfl
        | stateRxError => exact Or.inr rfl
      rw [receiveFSM_waiting hsnd hwaiting]
      exact { h with timer := ⟨fun _ => hidle, fun _ => rfl⟩ }

theorem Safe.timerT35Expired (h : r.Safe) (ht : r.timer = true) : r.xMBRTUTimerT35Expired.Safe := by
  rw [timerT35Expired_eq (h.timer.1 ht)]
  exact
    { h with
      timer := ⟨fun hc => (by cases hc), fun hc => absurd rfl hc⟩
      quiet := fun _ => rfl }

theorem Safe.transmitFSM (h : r.Safe) (ht : r.transStart = true) : r.xMBRTUTransmitFSM.Safe := by
  have hxmit := h.sending.1 ht
  by_cases hcount : r.usSndBufferCount = 0
  · rw [transmitFSM_end hxmit (h.quiet hxmit) hcount]
    exact
      { h with
        sending := ⟨fun hc => (by cases hc), fun hc => (by cases hc)⟩
        direction := ⟨fun _ => rfl, fun _ => rfl⟩
        quiet := fun hc => (by cases hc) }
  · rw [transmitFSM_byte hxmit (h.quiet hxmit) hcount]
    have hto := h.toSend
    exact { h with toSend := by dsimp only; omega }

theorem Safe.send (h : r.Safe) {usLength : Nat} (hlen : usLength ≤ 66) (ucSlaveAddress : UInt8) :
    (r.eMBRTUSend ucSlaveAddress usLength).Safe := by
  unfold eMBRTUSend
  by_cases hidle : r.eRcvState = .stateRxIdle
  · rw [if_pos hidle]
    exact
      { h with
        sending := ⟨fun _ => rfl, fun _ => rfl⟩
        direction := ⟨fun hc => (by cases hc), fun hc => (by cases hc)⟩
        quiet := fun _ => hidle
        toSend := by
          change 0 + (1 + usLength + 2) ≤ 69
          omega }
  · rw [if_neg hidle]
    exact h

theorem Safe.frameReceived (h : r.Safe) : r.frameReceived.Safe := by
  unfold MbRtu.frameReceived
  dsimp only
  rw [rtAssert_true (decide_eq_true h.received)]
  unfold eMBRTUReceive
  split
  · exact h
  · rename_i a n hsome
    split at hsome
    · rename_i hframe
      cases hsome
      have hmin : 4 ≤ r.usRcvBufferPos := hframe.1
      have hmax : r.usRcvBufferPos ≤ 256 := h.received
      have hpdu : 1 ≤ r.usRcvBufferPos - 1 - 2 ∧ r.usRcvBufferPos - 1 - 2 ≤ 253 := by omega
      split
      · exact { h with armed := fun _ => rfl, pdu := fun _ => hpdu }
      · exact { h with armed := fun _ => rfl, pdu := fun _ => hpdu }
    · cases hsome

theorem Safe.execute (h : r.Safe) (sv : MbServer) : (r.execute sv).1.Safe := by
  unfold MbRtu.execute
  by_cases hset : r.ucMBFrame = true
  · rw [if_pos hset]
    obtain ⟨hpos, hle⟩ := h.pdu hset
    by_cases hbroadcast : r.ucRcvAddress = 0
    · rw [if_pos hbroadcast]
      exact { h with pdu := fun _ => execute_length hpos hle }
    · rw [if_neg hbroadcast]
      have hreply := (reply_sound r.pdu r.usLength sv hpos).length
      have hkept : ({ r.setPdu (mbReply r.pdu r.usLength sv).pucFrame with
          usLength := (mbReply r.pdu r.usLength sv).usLen } : MbRtu).Safe :=
        { h with pdu := fun _ => ⟨hreply.1, hreply.2.trans (by decide)⟩ }
      exact hkept.send hreply.2 slaveAddr
  · rw [if_neg hset]
    exact { h with }

theorem Safe.clearEvents (h : r.Safe) : r.clearEvents.Safe := { h with armed := fun hc => (by cases hc) }

theorem Safe.poll (h : r.Safe) (stack : Option MbEventType) (sv : MbServer) : (r.eMBPoll stack sv).1.Safe := by
  unfold eMBPoll
  dsimp only
  split
  · exact h.clearEvents.frameReceived
  · exact h.clearEvents.execute sv
  · exact h.clearEvents

end MbRtu

theorem safe_start : ({} : MbRtu).Safe where
  asserts := rfl
  sending := by decide
  direction := by decide
  timer := by decide
  quiet := by decide
  received := by decide
  armed := by decide
  pdu := by decide
  toSend := by decide

/-- What an input does to the line. -/
theorem line_next_cases {l l' : MbLine} {i : MbInput} (hn : l.next i = some l') :
    (∃ b, i = .rxByte b ∧ l.rtu.rxEnable = true ∧ l'.rtu = l.rtu.xMBRTUReceiveFSM b) ∨
      (i = .t35Expired ∧ l.rtu.timer = true ∧ l'.rtu = l.rtu.xMBRTUTimerT35Expired) ∨
      (i = .txReady ∧ l.rtu.transStart = true ∧ l'.rtu = l.rtu.xMBRTUTransmitFSM) ∨
      ∃ stack refresh, i = .poll stack refresh ∧ l.rtu.events.any = true ∧
        l'.rtu = (l.rtu.eMBPoll stack (refresh l.server)).1 := by
  cases i with
  | rxByte b =>
    obtain ⟨hrx, hl⟩ := Option.ite_none_right_eq_some.1 hn
    exact Or.inl ⟨b, rfl, hrx, by rw [← Option.some_inj.1 hl]⟩
  | t35Expired =>
    obtain ⟨ht, hl⟩ := Option.ite_none_right_eq_some.1 hn
    exact Or.inr (Or.inl ⟨rfl, ht, by rw [← Option.some_inj.1 hl]⟩)
  | txReady =>
    obtain ⟨ht, hl⟩ := Option.ite_none_right_eq_some.1 hn
    exact Or.inr (Or.inr (Or.inl ⟨rfl, ht, by rw [← Option.some_inj.1 hl]⟩))
  | poll stack refresh =>
    obtain ⟨ht, hl⟩ := Option.ite_none_right_eq_some.1 hn
    exact Or.inr (Or.inr (Or.inr ⟨stack, refresh, rfl, ht, by rw [← Option.some_inj.1 hl]⟩))

theorem safe_next (l : MbLine) (i : MbInput) (l' : MbLine) (h : l.rtu.Safe) (hn : mbLine.next l i = some l') :
    l'.rtu.Safe := by
  rcases line_next_cases hn with ⟨b, -, hrx, hl⟩ | ⟨-, ht, hl⟩ | ⟨-, ht, hl⟩ | ⟨stack, refresh, -, -, hl⟩
  · rw [hl]
    exact h.receiveFSM hrx b
  · rw [hl]
    exact h.timerT35Expired ht
  · rw [hl]
    exact h.transmitFSM ht
  · rw [hl]
    exact h.poll stack (refresh l.server)

theorem line_safe_all {l₀ l : MbLine} {is : List MbInput} (hstart : mbLine.start l₀) (hr : mbLine.run l₀ is = some l) :
    l.rtu.Safe := by
  have hsafe₀ : l₀.rtu.Safe := by
    rw [show l₀.rtu = {} from hstart]
    exact safe_start
  exact @Machine.always_of_inv _ _ mbLine _ l₀ hsafe₀ safe_next is is l List.prefix_rfl hr

/-- The line of a sample slave, and a request to read eight coils. -/
def sampleLine : MbLine := { server := sampleServer }

def sampleRead : List UInt8 := [8, 1, 0, 0, 0, 8, 61, 85]

/-! What is still to happen. -/

/-- Not a byte from the master. -/
def MbInput.Own (i : MbInput) : Prop := ∀ b, i ≠ .rxByte b

/-- The line waits for the first byte of a frame. -/
structure MbRtu.Listening (r : MbRtu) : Prop where
  receiver : r.eRcvState = .stateRxIdle
  sender : r.eSndState = .stateTxIdle
  enabled : r.rxEnable = true
  timer : r.timer = false
  transStart : r.transStart = false
  events : r.events.any = false

instance (r : MbRtu) : Decidable r.Listening :=
  decidable_of_iff (r.eRcvState = .stateRxIdle ∧ r.eSndState = .stateTxIdle ∧ r.rxEnable = true ∧ r.timer = false ∧
      r.transStart = false ∧ r.events.any = false)
    ⟨fun ⟨h₁, h₂, h₃, h₄, h₅, h₆⟩ => ⟨h₁, h₂, h₃, h₄, h₅, h₆⟩,
      fun h => ⟨h.receiver, h.sender, h.enabled, h.timer, h.transStart, h.events⟩⟩

theorem listening_of_quiet {l : MbLine} (h : l.rtu.Safe) (hq : mbLine.Quiet MbInput.Own l) : l.rtu.Listening := by
  have htimer : l.rtu.timer = false := by
    have hnone := hq .t35Expired fun b hb => by cases hb
    cases ht : l.rtu.timer with
    | false => rfl
    | true => exact absurd (hnone.symm.trans (if_pos ht)) (by simp)
  have htrans : l.rtu.transStart = false := by
    have hnone := hq .txReady fun b hb => by cases hb
    cases ht : l.rtu.transStart with
    | false => rfl
    | true => exact absurd (hnone.symm.trans (if_pos ht)) (by simp)
  have hevents : l.rtu.events.any = false := by
    have hnone := hq (.poll none id) fun b hb => by cases hb
    cases ht : l.rtu.events.any with
    | false => rfl
    | true => exact absurd (hnone.symm.trans (if_pos ht)) (by simp)
  have hidle : l.rtu.eSndState = .stateTxIdle := by
    cases hsnd : l.rtu.eSndState with
    | stateTxIdle => rfl
    | stateTxXmit => exact absurd (h.sending.2 hsnd) (by simp [htrans])
  exact
    { receiver := by
        by_contra hbusy
        exact absurd (h.timer.2 hbusy) (by simp [htimer])
      sender := hidle
      enabled := h.direction.2 hidle
      timer := htimer
      transStart := htrans
      events := hevents }

theorem MbRtu.Listening.quiet {l : MbLine} (h : l.rtu.Listening) : mbLine.Quiet MbInput.Own l := by
  intro i hown
  cases i with
  | rxByte b => exact absurd rfl (hown b)
  | t35Expired => exact if_neg (by rw [h.timer]; decide)
  | txReady => exact if_neg (by rw [h.transStart]; decide)
  | poll stack refresh => exact if_neg (by rw [h.events]; decide)

end Aqualarm
