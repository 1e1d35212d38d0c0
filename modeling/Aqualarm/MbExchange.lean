import Aqualarm.MbRtu

/-
  A request and its reply on the serial line, from the first byte to the state
  in which the line listens again.

  What is proved:
    1. `exchange` — to a frame a master sends while the line listens, whatever
       order of steps follows before the next byte, the line answers as the table
       of functions says, and where the frame is damaged, too long or addressed
       to another slave, it does nothing.
    2. `answer_accepted` — what it answers passes the check a frame has to pass.
    3. `overrun` — bytes that arrive between the check of a request and its
       execution replace the request's, and it is executed so, without an answer,
       where the poll loop gets there before the timer has expired behind them.
-/

namespace Aqualarm

open Lib

/-! A frame comes in. -/

/-- The frame buffer with `f` stored from its start on. -/
def stored (f : List UInt8) (buf : Nat → UInt8) : Nat → UInt8 := fun i => f.getD i (buf i)

theorem stored_snoc (f : List UInt8) (b : UInt8) (buf : Nat → UInt8) :
    stored (f ++ [b]) buf = Function.update (stored f buf) f.length b := by
  funext i
  unfold stored
  rw [Function.update_apply, List.getD_eq_getElem?_getD, List.getD_eq_getElem?_getD, List.getElem?_append]
  by_cases hlt : i < f.length
  · rw [if_pos hlt, if_neg (by omega)]
  · rw [if_neg hlt]
    by_cases heq : i = f.length
    · rw [if_pos heq, heq, Nat.sub_self]
      rfl
    · rw [if_neg heq, List.getElem?_eq_none (by simp; omega), List.getElem?_eq_none (by omega)]

theorem bytes_stored {r : MbRtu} {f : List UInt8} {buf : Nat → UInt8} (hbuf : r.ucRTUBuf = stored f buf) :
    r.bytes f.length = f := by
  unfold MbRtu.bytes
  rw [hbuf]
  refine List.ext_getElem (by simp) fun i h₁ h₂ => ?_
  rw [List.getElem_map, List.getElem_range]
  exact List.getD_eq_getElem _ _ h₂

/-- The line after the bytes of `f`: from the 257th on they are not kept, and the
frame is an error. -/
def MbRtu.fed (f : List UInt8) (r : MbRtu) : MbRtu :=
  { r with
    ucRTUBuf := stored (f.take mbSerPduSizeMax) r.ucRTUBuf
    usRcvBufferPos := min f.length mbSerPduSizeMax
    eRcvState := if f.length ≤ mbSerPduSizeMax then .stateRxRcv else .stateRxError
    timer := true }

theorem receiveFSM_fed {r : MbRtu} (hsnd : r.eSndState = .stateTxIdle) {f : List UInt8} (hne : f ≠ []) (b : UInt8) :
    (r.fed f).xMBRTUReceiveFSM b = r.fed (f ++ [b]) := by
  have hpos : 0 < f.length := List.length_pos_iff.2 hne
  have hsnd' : (r.fed f).eSndState = .stateTxIdle := hsnd
  rcases Nat.lt_trichotomy f.length mbSerPduSizeMax with hlt | heq | hgt
  · -- there is room for the byte
    have hstate : (r.fed f).eRcvState = .stateRxRcv := if_pos hlt.le
    have hroom : (r.fed f).usRcvBufferPos < mbSerPduSizeMax := (min_le_left _ _).trans_lt hlt
    rw [MbRtu.receiveFSM_room hsnd' hstate hroom]
    unfold MbRtu.fed
    rw [List.take_of_length_le hlt.le, List.take_of_length_le (by rw [List.length_append]; exact hlt), stored_snoc,
      List.length_append, List.length_singleton, min_eq_left hlt.le, min_eq_left (show f.length + 1 ≤ _ from hlt),
      if_pos hlt.le, if_pos (show f.length + 1 ≤ _ from hlt)]
  · -- the buffer is full
    have hstate : (r.fed f).eRcvState = .stateRxRcv := if_pos heq.le
    have hfull : ¬ (r.fed f).usRcvBufferPos < mbSerPduSizeMax := by
      change ¬ min f.length mbSerPduSizeMax < mbSerPduSizeMax
      omega
    have hover : ¬ f.length + 1 ≤ mbSerPduSizeMax := by omega
    rw [MbRtu.receiveFSM_full hsnd' hstate hfull]
    unfold MbRtu.fed
    rw [List.length_append, List.length_singleton, List.take_append_of_le_length heq.ge, if_neg hover,
      show min (f.length + 1) mbSerPduSizeMax = min f.length mbSerPduSizeMax by omega]
  · -- the frame is an error already
    have hstate : (r.fed f).eRcvState = .stateRxError := if_neg (by omega)
    rw [MbRtu.receiveFSM_waiting hsnd' (Or.inr hstate)]
    have hover : ¬ f.length ≤ mbSerPduSizeMax := by omega
    have hover' : ¬ f.length + 1 ≤ mbSerPduSizeMax := by omega
    unfold MbRtu.fed
    rw [List.length_append, List.length_singleton, List.take_append_of_le_length hgt.le, if_neg hover, if_neg hover',
      show min (f.length + 1) mbSerPduSizeMax = min f.length mbSerPduSizeMax by omega]

theorem next_rxByte {l : MbLine} (hrx : l.rtu.rxEnable = true) (b : UInt8) :
    mbLine.next l (.rxByte b) = some { l with rtu := l.rtu.xMBRTUReceiveFSM b } := if_pos hrx

/-- A frame is stored byte by byte. -/
theorem run_feed {l : MbLine} (hidle : l.rtu.eRcvState = .stateRxIdle) (hsnd : l.rtu.eSndState = .stateTxIdle)
    (hrx : l.rtu.rxEnable = true) {f : List UInt8} (hne : f ≠ []) :
    mbLine.run l (f.map MbInput.rxByte) = some { l with rtu := l.rtu.fed f } := by
  induction f using List.reverseRecOn with
  | nil => exact absurd rfl hne
  | append_singleton f b ih =>
    rw [List.map_append, List.map_singleton, Machine.run_snoc]
    by_cases hfirst : f = []
    · subst hfirst
      change mbLine.next l (.rxByte b) = _
      rw [next_rxByte hrx, MbRtu.receiveFSM_idle hsnd hidle]
      unfold MbRtu.fed
      rw [List.take_of_length_le (by simp [mbSerPduSizeMax]), stored_snoc]
      rfl
    · have hnext := @next_rxByte { l with rtu := l.rtu.fed f } hrx b
      rw [ih hfirst, Option.bind_some, hnext, receiveFSM_fed hsnd hfirst]

/-! The steps the line takes by itself, where only one can happen. -/

/-- The own steps `js` lead from `l` to `l'`, where none is left. -/
structure LineSettles (l : MbLine) (js : List MbInput) (l' : MbLine) : Prop where
  own : ∀ i ∈ js, MbInput.Own i
  run : mbLine.run l js = some l'
  quiet : mbLine.Quiet MbInput.Own l'

namespace LineSettles

variable {l l' : MbLine} {js : List MbInput}

/-- Where a step can happen, one does. -/
theorem head (h : LineSettles l js l') {i : MbInput} {n : MbLine} (hown : i.Own) (hcan : mbLine.next l i = some n) :
    ∃ j m js', js = j :: js' ∧ j.Own ∧ mbLine.next l j = some m ∧ LineSettles m js' l' := by
  cases js with
  | nil =>
    obtain rfl : l = l' := Option.some_inj.1 h.run
    cases (h.quiet i hown).symm.trans hcan
  | cons j js =>
    obtain ⟨m, hn, hr⟩ := Option.bind_eq_some_iff.1 h.run
    exact ⟨j, m, js, rfl, h.own j List.mem_cons_self, hn, fun i hi => h.own i (List.mem_cons_of_mem _ hi), hr, h.quiet⟩

theorem timer (h : LineSettles l js l') (ht : l.rtu.timer = true) (htx : l.rtu.transStart = false)
    (hev : l.rtu.events.any = false) :
    ∃ js', js = .t35Expired :: js' ∧ LineSettles { l with rtu := l.rtu.xMBRTUTimerT35Expired } js' l' := by
  have hnext : mbLine.next l .t35Expired = some { l with rtu := l.rtu.xMBRTUTimerT35Expired } := if_pos ht
  obtain ⟨j, m, js', rfl, hown, hn, hrest⟩ := h.head (fun b hb => (by cases hb)) hnext
  rcases line_next_cases hn with ⟨b, rfl, -, -⟩ | ⟨rfl, -, -⟩ | ⟨-, hc, -⟩ | ⟨-, -, -, hc, -⟩
  · exact absurd rfl (hown b)
  · obtain rfl := Option.some_inj.1 (hn.symm.trans hnext)
    exact ⟨js', rfl, hrest⟩
  · exact absurd (hc.symm.trans htx) (by decide)
  · exact absurd (hc.symm.trans hev) (by decide)

theorem next_poll (hev : l.rtu.events.any = true) (stack : Option MbEventType) (refresh : MbServer → MbServer) :
    mbLine.next l (.poll stack refresh) =
      some ⟨(l.rtu.eMBPoll stack (refresh l.server)).1, (l.rtu.eMBPoll stack (refresh l.server)).2⟩ := if_pos hev

theorem poll (h : LineSettles l js l') (ht : l.rtu.timer = false) (htx : l.rtu.transStart = false)
    (hev : l.rtu.events.any = true) :
    ∃ stack refresh js', js = .poll stack refresh :: js' ∧
      LineSettles ⟨(l.rtu.eMBPoll stack (refresh l.server)).1, (l.rtu.eMBPoll stack (refresh l.server)).2⟩ js' l' := by
  obtain ⟨j, m, js', rfl, hown, hn, hrest⟩ := h.head (fun b hb => (by cases hb)) (next_poll hev none id)
  rcases line_next_cases hn with ⟨b, rfl, -, -⟩ | ⟨-, hc, -⟩ | ⟨-, hc, -⟩ | ⟨stack, refresh, rfl, -, -⟩
  · exact absurd rfl (hown b)
  · exact absurd (hc.symm.trans ht) (by decide)
  · exact absurd (hc.symm.trans htx) (by decide)
  · obtain rfl := Option.some_inj.1 (hn.symm.trans (next_poll hev stack refresh))
    exact ⟨stack, refresh, js', rfl, hrest⟩

theorem transmit (h : LineSettles l js l') (ht : l.rtu.timer = false) (htx : l.rtu.transStart = true)
    (hev : l.rtu.events.any = false) :
    ∃ js', js = .txReady :: js' ∧ LineSettles { l with rtu := l.rtu.xMBRTUTransmitFSM } js' l' := by
  have hnext : mbLine.next l .txReady = some { l with rtu := l.rtu.xMBRTUTransmitFSM } := if_pos htx
  obtain ⟨j, m, js', rfl, hown, hn, hrest⟩ := h.head (fun b hb => (by cases hb)) hnext
  rcases line_next_cases hn with ⟨b, rfl, -, -⟩ | ⟨-, hc, -⟩ | ⟨rfl, -, -⟩ | ⟨-, -, -, hc, -⟩
  · exact absurd rfl (hown b)
  · exact absurd (hc.symm.trans ht) (by decide)
  · obtain rfl := Option.some_inj.1 (hn.symm.trans hnext)
    exact ⟨js', rfl, hrest⟩
  · exact absurd (hc.symm.trans hev) (by decide)

theorem done (h : LineSettles l js l') (ht : l.rtu.timer = false) (htx : l.rtu.transStart = false)
    (hev : l.rtu.events.any = false) : js = [] ∧ l' = l := by
  cases js with
  | nil => exact ⟨rfl, (Option.some_inj.1 h.run).symm⟩
  | cons j js =>
    obtain ⟨m, hn, -⟩ := Option.bind_eq_some_iff.1 h.run
    rcases line_next_cases hn with ⟨b, rfl, -, -⟩ | ⟨-, hc, -⟩ | ⟨-, hc, -⟩ | ⟨-, -, -, hc, -⟩
    · exact absurd rfl (h.own _ List.mem_cons_self b)
    · exact absurd (hc.symm.trans ht) (by decide)
    · exact absurd (hc.symm.trans htx) (by decide)
    · exact absurd (hc.symm.trans hev) (by decide)

/-! The reply goes out. -/

theorem poll_frameReceived {r : MbRtu} (hev : r.events = { frameReceived := true }) (stack : Option MbEventType)
    (sv : MbServer) : r.eMBPoll stack sv = (r.clearEvents.frameReceived, sv) := by
  unfold MbRtu.eMBPoll
  rw [hev]
  rfl

theorem poll_execute {r : MbRtu} (hev : r.events = { execute := true }) (stack : Option MbEventType)
    (sv : MbServer) : r.eMBPoll stack sv = r.clearEvents.execute sv := by
  unfold MbRtu.eMBPoll
  rw [hev]
  rfl

theorem poll_frameSent {r : MbRtu} (hev : r.events = { frameSent := true }) (stack : Option MbEventType)
    (sv : MbServer) : r.eMBPoll stack sv = (r.clearEvents, sv) := by
  unfold MbRtu.eMBPoll
  rw [hev]
  rfl

/-- The buffer goes out byte by byte, and one more round of the poll loop ends it. -/
theorem send (h : LineSettles l js l') {n : Nat} (hcount : l.rtu.usSndBufferCount = n)
    (hsnd : l.rtu.eSndState = .stateTxXmit) (hidle : l.rtu.eRcvState = .stateRxIdle) (ht : l.rtu.timer = false)
    (htx : l.rtu.transStart = true) (hev : l.rtu.events = {}) :
    ∃ stack refresh, js = List.replicate (n + 1) .txReady ++ [.poll stack refresh] ∧
      l'.rtu.sent = l.rtu.sent ++ (List.range n).map (fun i => l.rtu.ucRTUBuf (l.rtu.pucSndBufferCur + i)) ∧
      l'.server = refresh l.server := by
  have hany : l.rtu.events.any = false := by rw [hev]; rfl
  induction n generalizing l js with
  | zero =>
    obtain ⟨js', rfl, hrest⟩ := h.transmit ht htx hany
    rw [MbRtu.transmitFSM_end hsnd hidle hcount, hev] at hrest
    obtain ⟨stack, refresh, js'', rfl, hlast⟩ := hrest.poll ht rfl rfl
    rw [poll_frameSent rfl] at hlast
    obtain ⟨rfl, rfl⟩ := hlast.done ht rfl rfl
    exact ⟨stack, refresh, rfl, (List.append_nil _).symm, rfl⟩
  | succ n ih =>
    obtain ⟨js', rfl, hrest⟩ := h.transmit ht htx hany
    rw [MbRtu.transmitFSM_byte hsnd hidle (by omega)] at hrest
    have hcount' : l.rtu.usSndBufferCount - 1 = n := by omega
    obtain ⟨stack, refresh, rfl, hsent, hserver⟩ := ih hrest hcount' hsnd hidle ht htx hev hany
    refine ⟨stack, refresh, rfl, ?_, hserver⟩
    rw [hsent, List.append_assoc, List.range_succ_eq_map, List.map_cons, List.map_map]
    refine congrArg (l.rtu.sent ++ ·) (congrArg (l.rtu.ucRTUBuf l.rtu.pucSndBufferCur :: ·) ?_)
    refine List.map_congr_left fun i _ => congrArg l.rtu.ucRTUBuf ?_
    change l.rtu.pucSndBufferCur + 1 + i = l.rtu.pucSndBufferCur + (i + 1)
    omega

end LineSettles

/-! What a frame leads to. -/

/-- A frame that passes the check and is for this slave or for all. -/
def MbFrameFor (f : List UInt8) : Prop :=
  mbSerPduSizeMin ≤ f.length ∧ f.length ≤ mbSerPduSizeMax ∧ usMBCRC16 f = 0 ∧
    (f.getD 0 0 = slaveAddr ∨ f.getD 0 0 = 0)

/-- The PDU of `f` in the buffer; behind the frame lies what was there. -/
def mbRequest (f : List UInt8) (buf : Nat → UInt8) : Nat → UInt8 := fun i => stored f buf (1 + i)

/-- The frame that carries a reply. -/
def mbAnswer (r : MbReply) : List UInt8 :=
  let body := slaveAddr :: (List.range r.usLen).map r.pucFrame
  body ++ [(usMBCRC16 body).toUInt8, (usMBCRC16 body >>> 8).toUInt8]

/-- What a frame `f` on a buffer `buf` does: the changes `refreshes` made from one
round of the poll loop to the next, the bytes sent, and the slave afterwards. -/
inductive Exchanged (f : List UInt8) (buf : Nat → UInt8) (sv : MbServer) :
    List (MbServer → MbServer) → List UInt8 → MbServer → Prop where
  | tooLong (hlong : mbSerPduSizeMax < f.length) : Exchanged f buf sv [] [] sv
  | ignored (hfit : f.length ≤ mbSerPduSizeMax) (hnot : ¬ MbFrameFor f) (a : MbServer → MbServer) :
    Exchanged f buf sv [a] [] (a sv)
  | broadcast (hfor : MbFrameFor f) (hall : f.getD 0 0 = 0) (a b : MbServer → MbServer) :
    Exchanged f buf sv [a, b] [] (mbExecute (mbRequest f buf) (f.length - 3) (b (a sv))).server
  | answered (hfor : MbFrameFor f) (hus : f.getD 0 0 = slaveAddr) (a b c : MbServer → MbServer) :
    Exchanged f buf sv [a, b, c] (mbAnswer (mbReply (mbRequest f buf) (f.length - 3) (b (a sv))))
      (c (mbReply (mbRequest f buf) (f.length - 3) (b (a sv))).server)

/-- The changes made along a run. -/
def refreshes (js : List MbInput) : List (MbServer → MbServer) :=
  js.filterMap fun
    | .poll _ refresh => some refresh
    | _ => none

/-- The line after the silence behind `f`. -/
def MbRtu.heard (f : List UInt8) (r : MbRtu) : MbRtu :=
  { r.fed f with
    events := { frameReceived := decide (f.length ≤ mbSerPduSizeMax) }
    timer := false, eRcvState := .stateRxIdle }

/-- The line with the request `f` about to be executed. -/
def MbRtu.checked (f : List UInt8) (r : MbRtu) : MbRtu :=
  { r.heard f with
    events := { execute := true }, usRcvBufferPos := f.length
    ucRcvAddress := f.getD 0 0, usLength := f.length - 3, ucMBFrame := true }

theorem timerT35Expired_fed {r : MbRtu} (hev : r.events = {}) (f : List UInt8) :
    (r.fed f).xMBRTUTimerT35Expired = r.heard f := by
  have hev' : (r.fed f).events = {} := hev
  by_cases hfit : f.length ≤ mbSerPduSizeMax
  · have hstate : (r.fed f).eRcvState = .stateRxRcv := if_pos hfit
    rw [MbRtu.timerT35Expired_eq (by rw [hstate]; decide), hstate, hev']
    unfold MbRtu.heard
    rw [decide_eq_true hfit]
    rfl
  · have hstate : (r.fed f).eRcvState = .stateRxError := if_neg hfit
    rw [MbRtu.timerT35Expired_eq (by rw [hstate]; decide), hstate, hev']
    unfold MbRtu.heard
    rw [decide_eq_false hfit]
    rfl

theorem heard_buffer {f : List UInt8} (hfit : f.length ≤ mbSerPduSizeMax) (r : MbRtu) :
    (r.heard f).ucRTUBuf = stored f r.ucRTUBuf := by
  change stored (f.take mbSerPduSizeMax) r.ucRTUBuf = stored f r.ucRTUBuf
  rw [List.take_of_length_le hfit]

theorem frameReceived_heard {f : List UInt8} (hfit : f.length ≤ mbSerPduSizeMax) (hfor : MbFrameFor f) (r : MbRtu) :
    (r.heard f).clearEvents.frameReceived = r.checked f := by
  obtain ⟨hmin, -, hcrc, haddr⟩ := hfor
  have hpos : (r.heard f).clearEvents.usRcvBufferPos = f.length := min_eq_left hfit
  have hbytes : (r.heard f).clearEvents.bytes f.length = f := bytes_stored (heard_buffer hfit r)
  have hfirst : (r.heard f).clearEvents.ucRTUBuf 0 = f.getD 0 0 := by
    change (r.heard f).ucRTUBuf 0 = _
    rw [heard_buffer hfit]
    unfold stored
    rw [List.getD_eq_getElem _ _ (by unfold mbSerPduSizeMin at hmin; omega),
      List.getD_eq_getElem _ _ (by unfold mbSerPduSizeMin at hmin; omega)]
  unfold MbRtu.frameReceived
  dsimp only
  rw [MbRtu.rtAssert_true (decide_eq_true (hpos ▸ hfit))]
  unfold MbRtu.eMBRTUReceive
  rw [hpos, hbytes, if_pos ⟨hmin, hcrc⟩, hfirst]
  dsimp only
  rw [if_pos haddr]
  rfl

theorem frameReceived_ignored {f : List UInt8} (hfit : f.length ≤ mbSerPduSizeMax) (hnot : ¬ MbFrameFor f)
    (r : MbRtu) :
    let r' := (r.heard f).clearEvents.frameReceived
    r'.events = {} ∧ r'.timer = false ∧ r'.transStart = r.transStart ∧ r'.sent = r.sent := by
  have hpos : (r.heard f).clearEvents.usRcvBufferPos = f.length := min_eq_left hfit
  have hbytes : (r.heard f).clearEvents.bytes f.length = f := bytes_stored (heard_buffer hfit r)
  unfold MbRtu.frameReceived
  dsimp only
  rw [MbRtu.rtAssert_true (decide_eq_true (hpos ▸ hfit))]
  unfold MbRtu.eMBRTUReceive
  rw [hpos, hbytes]
  by_cases hcheck : mbSerPduSizeMin ≤ f.length ∧ usMBCRC16 f = 0
  · have hfirst : (r.heard f).clearEvents.ucRTUBuf 0 = f.getD 0 0 := by
      change (r.heard f).ucRTUBuf 0 = _
      rw [heard_buffer hfit]
      unfold stored
      rw [List.getD_eq_getElem _ _ (by have := hcheck.1; unfold mbSerPduSizeMin at this; omega),
        List.getD_eq_getElem _ _ (by have := hcheck.1; unfold mbSerPduSizeMin at this; omega)]
    have hother : ¬ (f.getD 0 0 = slaveAddr ∨ f.getD 0 0 = 0) := fun h => hnot ⟨hcheck.1, hfit, hcheck.2, h⟩
    rw [if_pos hcheck, hfirst]
    dsimp only
    rw [if_neg hother]
    exact ⟨rfl, rfl, rfl, rfl⟩
  · rw [if_neg hcheck]
    exact ⟨rfl, rfl, rfl, rfl⟩

/-- The bytes of a reply, as `eMBRTUSend` lays them out. -/
theorem bytes_send {buf : Nat → UInt8} {ucSlaveAddress : UInt8} {n : Nat} {r r' : MbRtu}
    (hr : r.ucRTUBuf = Function.update buf 0 ucSlaveAddress)
    (hr' : r'.ucRTUBuf = Function.update (Function.update r.ucRTUBuf (1 + n) (usMBCRC16 (r.bytes (1 + n))).toUInt8)
      (1 + n + 1) (usMBCRC16 (r.bytes (1 + n)) >>> 8).toUInt8) :
    let body := ucSlaveAddress :: (List.range n).map (fun i => buf (1 + i))
    r'.bytes (1 + n + 2) = body ++ [(usMBCRC16 body).toUInt8, (usMBCRC16 body >>> 8).toUInt8] := by
  intro body
  have hbody : r.bytes (1 + n) = body := by
    unfold MbRtu.bytes
    rw [hr, Nat.add_comm 1 n, List.range_succ_eq_map, List.map_cons, List.map_map, Function.update_self]
    refine congrArg (ucSlaveAddress :: ·) (List.map_congr_left fun i _ => ?_)
    rw [Function.comp_apply, Function.update_of_ne (Nat.succ_ne_zero i), Nat.succ_eq_one_add]
  have hkept : (List.range (1 + n)).map r'.ucRTUBuf = body := by
    rw [← hbody]
    refine List.map_congr_left fun i hi => ?_
    have hlt := List.mem_range.1 hi
    rw [hr', Function.update_of_ne (by omega), Function.update_of_ne (by omega)]
  unfold MbRtu.bytes
  rw [List.range_succ, List.map_append, List.range_succ, List.map_append, hkept, List.append_assoc, hr', hbody]
  refine congrArg (body ++ ·) ?_
  simp

theorem send_answer {r : MbRtu} (hidle : r.eRcvState = .stateRxIdle) (reply : MbReply) :
    let r' := (r.setPdu reply.pucFrame).eMBRTUSend slaveAddr reply.usLen
    r'.usSndBufferCount = 1 + reply.usLen + 2 ∧ r'.eSndState = .stateTxXmit ∧ r'.eRcvState = .stateRxIdle ∧
      r'.timer = r.timer ∧ r'.transStart = true ∧ r'.events = r.events ∧ r'.sent = r.sent ∧
      (List.range (1 + reply.usLen + 2)).map (fun i => r'.ucRTUBuf (r'.pucSndBufferCur + i)) = mbAnswer reply := by
  intro r'
  have hr' : r' = _ := if_pos (show (r.setPdu reply.pucFrame).eRcvState = .stateRxIdle from hidle)
  have hpdu : (List.range reply.usLen).map (fun i => (r.setPdu reply.pucFrame).ucRTUBuf (1 + i)) =
      (List.range reply.usLen).map reply.pucFrame := by
    refine List.map_congr_left fun i _ => ?_
    unfold MbRtu.setPdu
    dsimp only
    rw [if_neg (by omega), Nat.add_sub_cancel_left]
  have hbytes : r'.bytes (1 + reply.usLen + 2) = mbAnswer reply := by
    have hsend := @bytes_send (r.setPdu reply.pucFrame).ucRTUBuf slaveAddr reply.usLen
      { r.setPdu reply.pucFrame with
        ucRTUBuf := Function.update (r.setPdu reply.pucFrame).ucRTUBuf 0 slaveAddr, pucSndBufferCur := 0 } r' rfl
      (by rw [hr']; rfl)
    rw [hpdu] at hsend
    exact hsend
  refine ⟨by rw [hr']; rfl, by rw [hr']; rfl, by rw [hr']; exact hidle, by rw [hr']; rfl, by rw [hr']; rfl,
    by rw [hr']; rfl, by rw [hr']; rfl, ?_⟩
  rw [← hbytes]
  have hcur : r'.pucSndBufferCur = 0 := by rw [hr']; rfl
  unfold MbRtu.bytes
  rw [hcur]
  exact List.map_congr_left fun i _ => by rw [Nat.zero_add]

theorem events_of_any {e : MbEvents} (h : e.any = false) : e = {} := by
  obtain ⟨ready, received, execute, sent⟩ := e
  revert h
  cases ready <;> cases received <;> cases execute <;> cases sent <;> decide

theorem pdu_checked {f : List UInt8} (hfit : f.length ≤ mbSerPduSizeMax) (r : MbRtu) :
    (r.checked f).clearEvents.pdu = mbRequest f r.ucRTUBuf := by
  funext i
  change (r.heard f).ucRTUBuf (1 + i) = _
  rw [heard_buffer hfit]
  rfl

theorem execute_broadcast {f : List UInt8} (hfor : MbFrameFor f) (hall : f.getD 0 0 = 0) (r : MbRtu) (sv : MbServer) :
    let reply := mbExecute (mbRequest f r.ucRTUBuf) (f.length - 3) sv
    (r.checked f).clearEvents.execute sv =
      ({ (r.checked f).clearEvents.setPdu reply.pucFrame with usLength := reply.usLen }, reply.server) := by
  have haddr : (r.checked f).clearEvents.ucRcvAddress = 0 := hall
  unfold MbRtu.execute
  rw [if_pos (show (r.checked f).clearEvents.ucMBFrame = true from rfl), if_pos haddr, pdu_checked hfor.2.1]
  rfl

theorem execute_answered {f : List UInt8} (hfor : MbFrameFor f) (hus : f.getD 0 0 = slaveAddr) (r : MbRtu)
    (sv : MbServer) :
    let reply := mbReply (mbRequest f r.ucRTUBuf) (f.length - 3) sv
    (r.checked f).clearEvents.execute sv =
      (({ (r.checked f).clearEvents with usLength := reply.usLen }.setPdu reply.pucFrame).eMBRTUSend slaveAddr
        reply.usLen, reply.server) := by
  have haddr : ¬ (r.checked f).clearEvents.ucRcvAddress = 0 := by
    change ¬ f.getD 0 0 = 0
    rw [hus]
    decide
  unfold MbRtu.execute
  rw [if_pos (show (r.checked f).clearEvents.ucMBFrame = true from rfl), if_neg haddr, pdu_checked hfor.2.1]
  rfl

theorem exchanged_of_heard {l l' : MbLine} {js : List MbInput} (hl : l.rtu.Listening) {f : List UInt8}
    (h : LineSettles { l with rtu := l.rtu.heard f } js l') :
    ∃ out, l'.rtu.sent = l.rtu.sent ++ out ∧
      Exchanged f l.rtu.ucRTUBuf l.server (refreshes js) out l'.server := by
  by_cases hfit : f.length ≤ mbSerPduSizeMax
  · have hany : (l.rtu.heard f).events.any = true := by
      change MbEvents.any { frameReceived := decide _ } = true
      rw [decide_eq_true hfit]
      rfl
    have hev : (l.rtu.heard f).events = { frameReceived := true } := by
      change ({ frameReceived := decide _ } : MbEvents) = _
      rw [decide_eq_true hfit]
    obtain ⟨stack₁, a, js₁, rfl, hpolled⟩ := h.poll rfl hl.transStart hany
    rw [LineSettles.poll_frameReceived hev] at hpolled
    by_cases hfor : MbFrameFor f
    · rw [frameReceived_heard hfit hfor] at hpolled
      obtain ⟨stack₂, b, js₂, rfl, hexecuted⟩ := hpolled.poll rfl hl.transStart rfl
      rw [LineSettles.poll_execute rfl] at hexecuted
      rcases hfor.2.2.2 with hus | hall
      · -- a request to this slave is answered
        rw [execute_answered hfor hus l.rtu (b (a l.server))] at hexecuted
        obtain ⟨hcount, hsnd, hidle, htimer, htrans, hevents, hsent, hbytes⟩ :=
          @send_answer { (l.rtu.checked f).clearEvents with
            usLength := (mbReply (mbRequest f l.rtu.ucRTUBuf) (f.length - 3) (b (a l.server))).usLen } rfl
            (mbReply (mbRequest f l.rtu.ucRTUBuf) (f.length - 3) (b (a l.server)))
        obtain ⟨stack₃, c, rfl, hout, hserver⟩ := hexecuted.send hcount hsnd hidle htimer htrans hevents
        refine ⟨_, hout.trans (congrArg₂ _ hsent hbytes), ?_⟩
        rw [hserver]
        have hrefreshes : refreshes (.poll stack₁ a :: .poll stack₂ b ::
            (List.replicate (1 + (mbReply (mbRequest f l.rtu.ucRTUBuf) (f.length - 3) (b (a l.server))).usLen + 2 + 1)
              .txReady ++ [.poll stack₃ c])) = [a, b, c] := by
          simp [refreshes, List.filterMap_append]
        rw [hrefreshes]
        exact Exchanged.answered hfor hus a b c
      · -- a broadcast is executed only
        rw [execute_broadcast hfor hall l.rtu (b (a l.server))] at hexecuted
        obtain ⟨rfl, rfl⟩ := hexecuted.done rfl hl.transStart rfl
        exact ⟨[], (List.append_nil _).symm, Exchanged.broadcast hfor hall a b⟩
    · obtain ⟨hevents, htimer, htrans, hsent⟩ := frameReceived_ignored hfit hfor l.rtu
      obtain ⟨rfl, rfl⟩ := hpolled.done htimer (htrans.trans hl.transStart) (by rw [hevents]; rfl)
      exact ⟨[], hsent.trans (List.append_nil _).symm, Exchanged.ignored hfit hfor a⟩
  · have hnone : (l.rtu.heard f).events.any = false := by
      change MbEvents.any { frameReceived := decide _ } = false
      rw [decide_eq_false hfit]
      rfl
    obtain ⟨rfl, rfl⟩ := h.done rfl hl.transStart hnone
    exact ⟨[], (List.append_nil _).symm, Exchanged.tooLong (by omega)⟩

/-- **A frame and its reply.** While the line listens a frame comes in. In
whatever order its timer, the sending thread and the poll loop then run: once
none of them can run any more, the frame has been executed and answered as the
table of functions says, executed only if it was a broadcast, or ignored if it
was damaged, too long or for another slave; and the line listens again. -/
theorem exchange {l l' : MbLine} (hreach : mbLine.Reachable l) (hl : l.rtu.Listening) {f : List UInt8} (hne : f ≠ [])
    {js : List MbInput} (hown : ∀ i ∈ js, MbInput.Own i)
    (hr : mbLine.run l (f.map MbInput.rxByte ++ js) = some l') (hq : mbLine.Quiet MbInput.Own l') :
    l'.rtu.Listening ∧ ∃ out, l'.rtu.sent = l.rtu.sent ++ out ∧
      Exchanged f l.rtu.ucRTUBuf l.server (refreshes js) out l'.server := by
  obtain ⟨l₀, is, hstart, his⟩ := hreach
  have hall : mbLine.run l₀ (is ++ (f.map MbInput.rxByte ++ js)) = some l' := by
    rw [Machine.run_append, his]
    exact hr
  refine ⟨listening_of_quiet (line_safe_all hstart hall) hq, ?_⟩
  rw [Machine.run_append, run_feed hl.receiver hl.sender hl.enabled hne] at hr
  have hfed : LineSettles { l with rtu := l.rtu.fed f } js l' := ⟨hown, hr, hq⟩
  obtain ⟨js', rfl, hheard⟩ := hfed.timer rfl hl.transStart hl.events
  rw [timerT35Expired_fed (events_of_any hl.events)] at hheard
  obtain ⟨out, hsent, hex⟩ := exchanged_of_heard hl hheard
  exact ⟨out, hsent, hex⟩

/-- The sample line once it listens. -/
def sampleListening : MbLine := (mbLine.run sampleLine [.t35Expired, .poll none id]).getD sampleLine

theorem sampleListening_reachable : mbLine.Reachable sampleListening :=
  ⟨sampleLine, [.t35Expired, .poll none id], rfl, rfl⟩

theorem sampleListening_listening : sampleListening.rtu.Listening := by decide +kernel

/-- The own steps behind a frame whose reply takes `n` calls of the sending thread. -/
def sampleServed (n : Nat) : List MbInput :=
  [.t35Expired, .poll none id, .poll none id] ++ List.replicate n .txReady ++ [.poll none id]

theorem sampleServed_own (n : Nat) : ∀ i ∈ sampleServed n, MbInput.Own i := by
  rintro i hi b rfl
  simp [sampleServed] at hi

theorem sample_settles {is : List MbInput}
    (h : ((mbLine.run sampleListening is).map fun l => decide l.rtu.Listening) = some true) :
    ∃ l', mbLine.run sampleListening is = some l' ∧ mbLine.Quiet MbInput.Own l' := by
  obtain ⟨l', hr, hl'⟩ := Option.map_eq_some_iff.1 h
  exact ⟨l', hr, (of_decide_eq_true hl').quiet⟩

/-- The request for eight coils is answered. -/
theorem exchange_sample :
    ∃ l' out, mbLine.run sampleListening (sampleRead.map MbInput.rxByte ++ sampleServed 7) = some l' ∧
      l'.rtu.sent = sampleListening.rtu.sent ++ out ∧
      Exchanged sampleRead sampleListening.rtu.ucRTUBuf sampleListening.server (refreshes (sampleServed 7)) out
        l'.server := by
  obtain ⟨l', hr, hq⟩ := @sample_settles (sampleRead.map MbInput.rxByte ++ sampleServed 7) (by decide +kernel)
  obtain ⟨-, out, hsent, hex⟩ := exchange sampleListening_reachable sampleListening_listening (by decide)
    (sampleServed_own 7) hr hq
  exact ⟨l', out, hr, hsent, hex⟩

/-- **A damaged request.** Where a frame comes in that is a frame with a right
check, damaged in up to 16 neighbouring bits, in an odd number of bits or in two
bits, nothing is executed and nothing is sent. -/
theorem damaged_request_ignored {l l' : MbLine} (hreach : mbLine.Reachable l) (hl : l.rtu.Listening)
    {f f' : List UInt8} (hcrc : usMBCRC16 f = 0) (hlen : f.length = f'.length)
    (hdamage : MbDetectable (Crc.xorBits (wireBits f) (wireBits f'))) (hne : f' ≠ [])
    {js : List MbInput} (hown : ∀ i ∈ js, MbInput.Own i)
    (hr : mbLine.run l (f'.map MbInput.rxByte ++ js) = some l') (hq : mbLine.Quiet MbInput.Own l') :
    l'.rtu.Listening ∧ l'.rtu.sent = l.rtu.sent ∧ l'.server = (refreshes js).foldl (fun sv a => a sv) l.server := by
  obtain ⟨hl', out, hsent, hex⟩ := exchange hreach hl hne hown hr hq
  have hnot : ¬ MbFrameFor f' := fun hfor =>
    damaged_not_zero hlen (hlen ▸ hfor.2.1) hcrc hdamage hfor.2.2.1
  generalize hrs : refreshes js = rs at hex
  generalize hsv : l'.server = sv at hex
  refine ⟨hl', ?_⟩
  cases hex with
  | tooLong hlong => exact ⟨hsent.trans (List.append_nil _), rfl⟩
  | ignored hfit hother a => exact ⟨hsent.trans (List.append_nil _), rfl⟩
  | broadcast hfor => exact absurd hfor hnot
  | answered hfor => exact absurd hfor hnot

/-- The same request with one bit of its function code inverted. -/
theorem damaged_request_ignored_sample :
    ∃ l', mbLine.run sampleListening
        ([8, 3, 0, 0, 0, 8, 61, 85].map MbInput.rxByte ++ [.t35Expired, .poll none id]) = some l' ∧
      l'.rtu.sent = sampleListening.rtu.sent := by
  obtain ⟨l', hr, hq⟩ := @sample_settles
    ([8, 3, 0, 0, 0, 8, 61, 85].map MbInput.rxByte ++ [.t35Expired, .poll none id]) (by decide +kernel)
  have hown : ∀ i ∈ [MbInput.t35Expired, .poll none id], MbInput.Own i := by
    rintro i hi b rfl
    simp at hi
  have hdamage : MbDetectable (Crc.xorBits (wireBits sampleRead) (wireBits [8, 3, 0, 0, 0, 8, 61, 85])) :=
    Or.inr (Or.inl (by decide +kernel))
  have hcrc : usMBCRC16 sampleRead = 0 := by decide +kernel
  have hlen : sampleRead.length = [8, 3, 0, 0, 0, 8, 61, (85 : UInt8)].length := rfl
  exact ⟨l', hr, (damaged_request_ignored sampleListening_reachable sampleListening_listening hcrc hlen hdamage
    (by decide) hown hr hq).2.1⟩

/-- **An answer.** What the line sends passes the check a frame has to pass, and
no longer does so with up to 16 neighbouring bits, an odd number of bits or two
bits damaged. -/
theorem answer_guarded (pucFrame : Nat → UInt8) {usLen : Nat} (hpos : 1 ≤ usLen) (sv : MbServer) :
    let f := mbAnswer (mbReply pucFrame usLen sv)
    (mbSerPduSizeMin ≤ f.length ∧ f.length ≤ 69 ∧ usMBCRC16 f = 0 ∧ f.getD 0 0 = slaveAddr) ∧
      ∀ f' : List UInt8, f.length = f'.length → MbDetectable (Crc.xorBits (wireBits f) (wireBits f')) →
        usMBCRC16 f' ≠ 0 := by
  intro f
  have hreply := (reply_sound pucFrame usLen sv hpos).length
  have hlen : f.length = (mbReply pucFrame usLen sv).usLen + 3 := by
    change (_ ++ [_, _]).length = _
    simp
  have hcrc : usMBCRC16 f = 0 := (usMBCRC16_appended _ _ _).2 ⟨rfl, rfl⟩
  have hmin : mbSerPduSizeMin ≤ f.length := by
    unfold mbSerPduSizeMin
    omega
  exact ⟨⟨hmin, by omega, hcrc, rfl⟩, fun f' hsame hdamage => damaged_not_zero hsame (by omega) hcrc hdamage⟩

theorem answer_guarded_sample : usMBCRC16 (mbAnswer (mbReply samplePdu 8 sampleServer)) = 0 :=
  (answer_guarded samplePdu (by decide : 1 ≤ 8) sampleServer).1.2.2.1

/-! Bytes that come too early. -/

theorem mbReply_server (pucFrame : Nat → UInt8) (usLen : Nat) (sv : MbServer) :
    (mbReply pucFrame usLen sv).server = (mbExecute pucFrame usLen sv).server := by
  unfold mbReply
  dsimp only
  split <;> rfl

theorem send_refused {r : MbRtu} (hbusy : r.eRcvState ≠ .stateRxIdle) (ucSlaveAddress : UInt8) (usLength : Nat) :
    r.eMBRTUSend ucSlaveAddress usLength = r := if_neg hbusy

/-- A request that is executed while a frame comes in is not answered. -/
theorem execute_busy {r : MbRtu} (hset : r.ucMBFrame = true) (hbusy : r.eRcvState ≠ .stateRxIdle) (sv : MbServer) :
    (r.execute sv).1.sent = r.sent ∧ (r.execute sv).1.transStart = r.transStart ∧
      (r.execute sv).2 = (mbExecute r.pdu r.usLength sv).server := by
  unfold MbRtu.execute
  rw [if_pos hset]
  split
  · exact ⟨rfl, rfl, rfl⟩
  · have hrefused := @send_refused { r.setPdu (mbReply r.pdu r.usLength sv).pucFrame with
      usLength := (mbReply r.pdu r.usLength sv).usLen } hbusy slaveAddr (mbReply r.pdu r.usLength sv).usLen
    dsimp only
    rw [hrefused]
    exact ⟨rfl, rfl, mbReply_server _ _ _⟩

/-- **Overrun.** After a request has passed its check, bytes `g` come in before
the poll loop executes it, and the t3.5 timer does not expire behind them before it
does: what is executed is the request with its first bytes replaced by `g`,
unchecked, and nothing is answered. -/
theorem overrun {l : MbLine} (hl : l.rtu.Listening) {f g : List UInt8} (hfor : MbFrameFor f) (hg : g ≠ [])
    (stack₁ stack₂ : Option MbEventType) (a b : MbServer → MbServer) :
    ∃ l', mbLine.run l (f.map MbInput.rxByte ++ .t35Expired :: .poll stack₁ a :: (g.map MbInput.rxByte ++
        [.poll stack₂ b])) = some l' ∧
      l'.rtu.sent = l.rtu.sent ∧ l'.rtu.transStart = false ∧
      l'.server = (mbExecute (mbRequest (g.take mbSerPduSizeMax) (stored f l.rtu.ucRTUBuf)) (f.length - 3)
        (b (a l.server))).server := by
  have hne : f ≠ [] := by
    rintro rfl
    exact absurd hfor.1 (by decide)
  have hfit := hfor.2.1
  have hheard : mbLine.next { l with rtu := l.rtu.fed f } .t35Expired = some { l with rtu := l.rtu.heard f } := by
    rw [← timerT35Expired_fed (events_of_any hl.events)]
    rfl
  have hany : (l.rtu.heard f).events = { frameReceived := true } := by
    change ({ frameReceived := decide _ } : MbEvents) = _
    rw [decide_eq_true hfit]
  have hchecked : mbLine.next { l with rtu := l.rtu.heard f } (.poll stack₁ a) =
      some ⟨l.rtu.checked f, a l.server⟩ := by
    rw [LineSettles.next_poll (by rw [hany]; rfl), LineSettles.poll_frameReceived hany, frameReceived_heard hfit hfor]
  have hfed := @run_feed ⟨l.rtu.checked f, a l.server⟩ rfl hl.sender hl.enabled g hg
  have hbusy : ((l.rtu.checked f).fed g).clearEvents.eRcvState ≠ .stateRxIdle := by
    change (if g.length ≤ mbSerPduSizeMax then MbRcvState.stateRxRcv else .stateRxError) ≠ _
    split <;> decide
  have hexecuted := @execute_busy ((l.rtu.checked f).fed g).clearEvents rfl hbusy (b (a l.server))
  have hlast : mbLine.next ⟨(l.rtu.checked f).fed g, a l.server⟩ (.poll stack₂ b) =
      some ⟨(((l.rtu.checked f).fed g).clearEvents.execute (b (a l.server))).1,
        (((l.rtu.checked f).fed g).clearEvents.execute (b (a l.server))).2⟩ := by
    rw [LineSettles.next_poll rfl, LineSettles.poll_execute rfl]
  refine ⟨⟨_, _⟩, ?_, hexecuted.1, hexecuted.2.1.trans hl.transStart, hexecuted.2.2.trans ?_⟩
  · rw [Machine.run_append, run_feed hl.receiver hl.sender hl.enabled hne]
    rw [Option.bind_some, Machine.run_cons, hheard, Option.bind_some, Machine.run_cons, hchecked, Option.bind_some,
      Machine.run_append, hfed, Option.bind_some, Machine.run_cons, hlast]
    rfl
  · have hpdu : ((l.rtu.checked f).fed g).clearEvents.pdu =
        mbRequest (g.take mbSerPduSizeMax) (stored f l.rtu.ucRTUBuf) := by
      rw [← heard_buffer hfit l.rtu]
      rfl
    rw [hpdu]
    rfl

/-- Two bytes come in while the request for eight coils waits. -/
theorem overrun_sample :
    ∃ l', mbLine.run sampleListening (sampleRead.map MbInput.rxByte ++ .t35Expired :: .poll none id ::
        ([8, 5].map MbInput.rxByte ++ [.poll none id])) = some l' ∧
      l'.rtu.sent = sampleListening.rtu.sent := by
  obtain ⟨l', hr, hsent, -⟩ := @overrun sampleListening sampleListening_listening sampleRead [8, 5]
    ⟨by decide, by decide, by decide +kernel, by decide⟩ (by decide) none none id id
  exact ⟨l', hr, hsent⟩

end Aqualarm
