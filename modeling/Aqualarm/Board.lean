import Aqualarm.AgileButton
import Aqualarm.MbExchange
import Aqualarm.ValveChecks
import Aqualarm.Coherence
import Aqualarm.Lib.FrontEnd

/-
  The board: what makes events of pins, hours and bytes. The two buttons of key.c,
  the thread of rtc.c, the poll loop of sample_mb_slave.c on its line and the
  polling timer of dry_contact.c stand in front of the machine of System.lean,
  and a reset of the unit starts all of them afresh.

  What is proved:
    1. `firmware_invariant` — every invariant of the unit's machine holds behind
       this front end.
    2. `mbPoll_state` — what the poll loop answers a request with and what the
       request does to the unit belong together.
    3. `board_line` — the line on the board is always in a state that `mbLine`
       reaches by itself, a round of the poll loop being one step here too.
    4. `outputs_consistent` — the dry contact outputs never show two alarms at
       once, and never a leak next to an open valve.
-/

namespace Aqualarm

open Lib

/-! The buttons. -/

inductive Key where
  | on | off
  deriving DecidableEq, Repr

/-- The callbacks `button_init` sets. -/
def Key.callback : Key → BtnEvent → Option Event
  | .on, .pressUp => some .keyOnClick
  | .off, .pressUp => some .keyOffClick
  | .on, .hold => some .keyOnLongHold
  | .on, .holdFree => some .keyOnLongFree
  | .off, .hold => some .keyOffLongHold
  | .off, .holdFree => some .keyOffLongFree
  | _, _ => none

/-! rtc.c -/

/-- The variables of the RTC thread and the count of its semaphore. `jobs` is the
number of rounds, which nothing reads. -/
structure RtcThread where
  valveHours : UInt8 := 0
  rtcHours : UInt8 := 0
  rtcSem : Nat := 0
  jobs : Nat := 0

/-- `rt_sem_release` with no thread waiting: a full semaphore stays full. -/
def rtSemRelease (value : Nat) : Nat := if value < 65535 then value + 1 else value

/-- A round of `rtc_thread_entry`. -/
def RtcThread.round (r : RtcThread) : RtcThread × List Event :=
  let valveHours := r.valveHours + 1
  let valve := valveHours % 120 = 0
  let device := ¬ r.rtcHours < 47
  ({ valveHours := if valve then 0 else valveHours
     rtcHours := if device then 0 else r.rtcHours + 1
     rtcSem := r.rtcSem - 1
     jobs := r.jobs + 1 },
    (if valve then [.rtcValveCheck] else []) ++ (if device then [.rtcDeviceHeartCheck] else []) ++ [.rtcGatewayHeartCheck])

/-! dry_contact.c -/

/-- `dry_contact_input_state[0]` and `dry_contact_output_state`; a contact's pin
has the opposite level. -/
structure DryIo where
  dryContactInputState : Bool := false
  dryContactOutputState : Nat → Bool := fun _ => false

namespace DryIo

def dryContactTechAlarmSet (level : Bool) (d : DryIo) : DryIo :=
  { d with dryContactOutputState := Function.update d.dryContactOutputState 2 level }

def dryContactLeakAlarmSet (level : Bool) (d : DryIo) : DryIo :=
  { d with dryContactOutputState := Function.update d.dryContactOutputState 1 level }

def dryContactValveStatusSet (level : Bool) (d : DryIo) : DryIo :=
  { d with dryContactOutputState := Function.update d.dryContactOutputState 0 level }

/-- The `switch` of `dry_contact_polling_timer_callback`. -/
def alarmsSet (d : DryIo) : DeviceStatus → DryIo
  | .valveLeftFail | .valveRightFail | .slaverLowPower | .slaverSensorLost | .slaverUltraLowPower | .slaverOffline =>
    (d.dryContactTechAlarmSet true).dryContactLeakAlarmSet false
  | .slaverSensorLeak => (d.dryContactTechAlarmSet false).dryContactLeakAlarmSet true
  | _ => (d.dryContactTechAlarmSet false).dryContactLeakAlarmSet false

/-- `dry_contact_polling_timer_callback` on these variables: `changed` is whether
the input's level is a new one, `u` the unit after the reaction to it. -/
def polled (level : PinLevel) (changed : Bool) (u : MainUnit) (d : DryIo) : DryIo :=
  let d := if changed then { d with dryContactInputState := level = .pinLow } else d
  (d.alarmsSet (warningStatusGet u)).dryContactValveStatusSet (getValveStatus u = .valveStatusOpen)

end DryIo

/-! sample_mb_slave.c -/

/-- `WRITE_BIT`. -/
def writeBit (pos : UInt8) (value : Bool) (number : UInt8) : UInt8 :=
  if value then number ||| 1 <<< pos else number &&& ~~~(1 <<< pos)

/-- `mb_valve_data_copy` and the two copies of the dry contacts. -/
def mbDiscreteCopy (u : MainUnit) (fullyClose : Side → PinLevel) (d : DryIo) (buf : Nat → UInt8) : Nat → UInt8 :=
  let high := fun level : PinLevel => decide (level = .pinHigh)
  let both := fun (i : Nat) (value : Side → Bool) (buf : Nat → UInt8) =>
    Function.update buf i (writeBit 1 (value .right) (writeBit 0 (value .left) (buf i)))
  let buf := both 2 (fun side => (u.core.motor side).mbValveControlState) buf
  let buf := both 3 (fun side => high (u.env.fullyOpen side)) buf
  let buf := both 4 (fun side => high (fullyClose side)) buf
  let buf := Function.update buf 0 (writeBit 0 d.dryContactInputState (buf 0))
  Function.update buf 1
    ((List.range 3).foldl (fun b i => writeBit (UInt8.ofNat i) (d.dryContactOutputState i) b) (buf 1))

/-- What the round of the poll loop that reads `stack` makes the unit do. -/
def MbRtu.served (stack : Option MbEventType) (r : MbRtu) : Event :=
  match r.events.only.orElse fun _ => stack with
  | some .evExecute => if r.ucMBFrame then mbEvent r.pdu r.usLength else .modbusCoils r.pdu 0 0
  | _ => .modbusCoils r.pdu 0 0

/-! The front end. -/

/-- `time` is in milliseconds since the board has power and `boot` the time of the
last reset; `scans` holds each button's samples, the last one first. -/
structure Board where
  btn : Key → AgileBtn := fun _ => {}
  rtc : RtcThread := {}
  rtu : MbRtu := {}
  ucSDiscInBuf : Nat → UInt8 := fun _ => 0
  usSRegInBuf : Nat → UInt16 := fun _ => 0
  dry : DryIo := {}
  time : Nat := 0
  boot : Nat := 0
  scans : Key → List (Nat × Bool) := fun _ => []

namespace Board

/-- A reset. -/
def restart (b : Board) : Board := { time := b.time, boot := b.time, scans := b.scans }

/-- The tables as a round of the poll loop has them. -/
def refreshed (s : State) (fullyClose : Side → PinLevel) (b : Board) : MbServer where
  state := mbDataCopy s
  ucSDiscInBuf := mbDiscreteCopy s.unit fullyClose b.dry b.ucSDiscInBuf
  usSRegInBuf := Function.update b.usSRegInBuf 0 0

/-- A sample of a button's pin. -/
def scanned (k : Key) (active : Bool) (b : Board) : Board × List Event :=
  let p := agileBtnProcess active (UInt32.ofNat (b.time - b.boot)) (b.btn k)
  ({ b with
      btn := Function.update b.btn k p.1
      scans := Function.update b.scans k ((b.time, active) :: b.scans k) },
    p.2.filterMap k.callback)

/-- A round of the poll loop. -/
def mbPolled (s : State) (stack : Option MbEventType) (fullyClose : Side → PinLevel) (b : Board) : Board :=
  let p := b.rtu.eMBPoll stack (b.refreshed s fullyClose)
  { b with rtu := p.1, ucSDiscInBuf := p.2.ucSDiscInBuf, usSRegInBuf := p.2.usSRegInBuf }

end Board

/-- The jobs of the RTC thread. -/
def Event.Job (e : Event) : Prop := e = .rtcValveCheck ∨ e = .rtcDeviceHeartCheck ∨ e = .rtcGatewayHeartCheck

/-- The events the board leaves as they are. -/
def Event.direct : Event → Bool
  | .radio .. | .heartConnectStart | .heartUpload | .rfAckInit | .timer _ | .reboot => true
  | _ => false

/-- What the board reacts to. `mbPoll` is a round of the poll loop that finds an
event: `stack` is what the variable for it holds before, `fullyClose` how the two
pins read. -/
inductive BoardInput where
  | elapse (ms : Nat)
  | scan (k : Key) (active : Bool)
  | rtcAlarm
  | rtcThread
  | rxByte (ucByte : UInt8)
  | t35Expired
  | txReady
  | mbPoll (stack : Option MbEventType) (fullyClose : Side → PinLevel)
  | dryPoll (level : PinLevel)
  | event (e : Event)

/-- What an input does to the board and makes the unit do, before a reset shows;
`s` is the unit as its events find it. -/
def Board.react (s : State) (b : Board) : BoardInput → Option (Board × List Event)
  | .elapse ms => some ({ b with time := b.time + ms }, [])
  | .scan k active => some (b.scanned k active)
  | .rtcAlarm => some ({ b with rtc := { b.rtc with rtcSem := rtSemRelease b.rtc.rtcSem } }, [])
  | .rtcThread =>
    if b.rtc.rtcSem ≠ 0 then
      let p := b.rtc.round
      some ({ b with rtc := p.1 }, p.2)
    else none
  | .rxByte ucByte => if b.rtu.rxEnable then some ({ b with rtu := b.rtu.xMBRTUReceiveFSM ucByte }, []) else none
  | .t35Expired => if b.rtu.timer then some ({ b with rtu := b.rtu.xMBRTUTimerT35Expired }, []) else none
  | .txReady => if b.rtu.transStart then some ({ b with rtu := b.rtu.xMBRTUTransmitFSM }, []) else none
  | .mbPoll stack fullyClose =>
    if b.rtu.events.any then some (b.mbPolled s stack fullyClose, [b.rtu.served stack]) else none
  | .dryPoll level =>
    let changed := s.dry.dryContactValveInputLevel ≠ some level
    let u := ((Event.dryContact level).handle s).unit
    some ({ b with dry := b.dry.polled level changed u }, [.dryContact level])
  | .event e => if e.direct then some (b, [e]) else none

/-- After a fault nothing happens but a reset. -/
def BoardInput.survives : BoardInput → Bool
  | .elapse _ | .event .reboot => true
  | _ => false

/-- The board as a front end; each input comes with its environment. -/
def board : FrontEnd State Board (Env × BoardInput) (Env × Event) where
  start b := b = {}
  step s b i :=
    let s := s.onUnit (MainUnit.begin i.1)
    if s.ota.fault && !i.2.survives then none
    else
      (b.react s i.2).map fun r => (if r.2.any (·.resetsUnit s) then r.1.restart else r.1, r.2.map (i.1, ·))

/-- The unit behind its board. -/
def firmware (cfg : Config) : Machine (State × Board) (Env × BoardInput) := (system cfg).driven board

/-- **The board adds nothing to what the unit can do**: an invariant of the unit's
machine holds in every state of the firmware. -/
theorem firmware_invariant {cfg : Config} {P : State → Prop} (hP : ∀ s, (system cfg).Reachable s → P s)
    {p : State × Board} (h : (firmware cfg).Reachable p) : P p.1 := Machine.driven_invariant hP h

/-- A step of the firmware. -/
theorem firmware_next_eq_some {cfg : Config} {p p' : State × Board} {i : Env × BoardInput} :
    (firmware cfg).next p i = some p' ↔
      ∃ b es, ¬ (p.1.ota.fault && !i.2.survives) = true ∧
        p.2.react (p.1.onUnit (MainUnit.begin i.1)) i.2 = some (b, es) ∧
        p'.2 = (if es.any (·.resetsUnit (p.1.onUnit (MainUnit.begin i.1))) then b.restart else b) ∧
        (system cfg).run p.1 (es.map (i.1, ·)) = some p'.1 := by
  rw [firmware, Machine.driven_next_eq_some]
  constructor
  · rintro ⟨hstep, hrun⟩
    obtain ⟨hfault, hmap⟩ := Option.ite_none_left_eq_some.1 hstep
    obtain ⟨⟨b, es⟩, hreact, hr⟩ := Option.map_eq_some_iff.1 hmap
    obtain ⟨hb, hes⟩ := Prod.mk.inj hr
    rw [← hes] at hrun
    exact ⟨b, es, hfault, hreact, hb.symm, hrun⟩
  · rintro ⟨b, es, hfault, hreact, hb, hrun⟩
    have hstep : board.step p.1 p.2 i = some (p'.2, es.map (i.1, ·)) := by
      refine Option.ite_none_left_eq_some.2 ⟨hfault, Option.map_eq_some_iff.2 ⟨(b, es), hreact, ?_⟩⟩
      rw [hb]
    have hemitted : board.emitted p i = es.map (i.1, ·) := by
      unfold FrontEnd.emitted
      rw [hstep]
      rfl
    rw [hemitted]
    exact ⟨hstep, hrun⟩

/-! What an input makes the unit do. -/

namespace Key

def hold : Key → Event
  | .on => .keyOnLongHold
  | .off => .keyOffLongHold

def free : Key → Event
  | .on => .keyOnLongFree
  | .off => .keyOffLongFree

def click : Key → Event
  | .on => .keyOnClick
  | .off => .keyOffClick

end Key

/-- What a call of `agile_btn_process` does to the button of a key. -/
inductive Sampled (k : Key) (active : Bool) (now : UInt32) (btn btn' : AgileBtn) : List Event → Prop where
  | waiting (hstate : btn.state ≠ .pressHold ∧ btn.state ≠ .holdFree)
    (hstate' : btn'.state ≠ .pressHold ∧ btn'.state ≠ .holdFree) {es : List Event} (hes : es = [] ∨ es = [k.click]) :
    Sampled k active now btn btn' es
  | pressed (hstate : btn.state = .pressDown) (hstate' : btn'.state = .pressHold) (htick : btn'.tickTimeout = now)
    (hprev : btn'.prevHoldTime = 0) : Sampled k active now btn btn' []
  | holding (hstate : btn.state = .pressHold) (hactive : active = true) (t : UInt32)
    (hbtn : btn' = { btn with holdTime := t }) : Sampled k active now btn btn' []
  | held (hstate : btn.state = .pressHold) (hactive : active = true)
    (htime : btn.holdCycleTime ≤ heldFor now btn.tickTimeout - btn.prevHoldTime)
    (hbtn : btn' = { btn with
      holdTime := heldFor now btn.tickTimeout, prevHoldTime := heldFor now btn.tickTimeout, holdFlag := true }) :
    Sampled k active now btn btn' [k.hold]
  | released (hstate : btn.state = .pressHold) (hactive : active = false)
    (hstate' : btn'.state = if btn.holdFlag then .holdFree else .pressUp) : Sampled k active now btn btn' []
  | freed (hstate : btn.state = .holdFree) (hstate' : btn'.state = .nonePress) : Sampled k active now btn btn' [k.free]

theorem sampled_process (k : Key) (active : Bool) (now : UInt32) (btn : AgileBtn) :
    Sampled k active now btn (agileBtnProcess active now btn).1
      ((agileBtnProcess active now btn).2.filterMap k.callback) := by
  cases hstate : btn.state with
  | nonePress =>
    have hnot : btn.state ≠ .pressHold ∧ btn.state ≠ .holdFree := by rw [hstate]; decide
    cases active with
    | true =>
      rw [process_nonePress_active now hstate]
      exact .waiting hnot ⟨by simp, by simp⟩ (Or.inl rfl)
    | false =>
      rw [process_nonePress_idle now hstate]
      refine .waiting hnot ?_ (Or.inl rfl)
      exact hnot
  | checkPress =>
    have hnot : btn.state ≠ .pressHold ∧ btn.state ≠ .holdFree := by rw [hstate]; decide
    cases active with
    | true =>
      rw [process_checkPress_active now hstate]
      refine .waiting hnot ?_ (Or.inl rfl)
      dsimp only
      split <;> decide
    | false =>
      rw [process_checkPress_idle now hstate]
      exact .waiting hnot ⟨by simp, by simp⟩ (Or.inl rfl)
  | pressDown =>
    have hnone : List.filterMap k.callback [.pressDown] = [] := by cases k <;> rfl
    rw [process_pressDown now hstate, hnone]
    exact .pressed hstate rfl rfl rfl
  | pressHold =>
    cases active with
    | true =>
      rw [process_pressHold_active now hstate]
      split
      · rename_i htime
        have hhold : List.filterMap k.callback [.hold] = [k.hold] := by cases k <;> rfl
        dsimp only
        rw [hhold]
        exact .held hstate rfl htime rfl
      · exact .holding hstate rfl _ rfl
    | false =>
      rw [process_pressHold_idle now hstate]
      exact .released hstate rfl rfl
  | holdFree =>
    have hfree : List.filterMap k.callback [.holdFree] = [k.free] := by cases k <;> rfl
    rw [process_holdFree now hstate, hfree]
    exact .freed hstate rfl
  | pressUp =>
    have hnot : btn.state ≠ .pressHold ∧ btn.state ≠ .holdFree := by rw [hstate]; decide
    have hclick : List.filterMap k.callback [.pressUp, .click] = [k.click] := by cases k <;> rfl
    rw [process_pressUp now hstate, hclick]
    exact .waiting hnot ⟨by simp, by simp⟩ (Or.inr rfl)

theorem scanned_mem {b : Board} {k : Key} {active : Bool} {e : Event} (h : e ∈ (b.scanned k active).2) :
    e = k.click ∨ e = k.hold ∨ e = k.free := by
  obtain ⟨ev, -, hev⟩ := List.mem_filterMap.1 h
  cases k <;> cases ev <;> cases hev <;> simp [Key.click, Key.hold, Key.free]

/-- A request is a write of coils or of holding registers, or does nothing. -/
theorem served_modbus (r : MbRtu) (stack : Option MbEventType) :
    (∃ reg a n, r.served stack = .modbusCoils reg a n) ∨ ∃ reg a n, r.served stack = .modbusHolding reg a n := by
  have hevent : ∀ pdu usLen, (∃ reg a n, mbEvent pdu usLen = .modbusCoils reg a n) ∨
      ∃ reg a n, mbEvent pdu usLen = .modbusHolding reg a n := by
    intro pdu usLen
    unfold mbEvent
    dsimp only
    split_ifs <;> first | exact Or.inl ⟨_, _, _, rfl⟩ | exact Or.inr ⟨_, _, _, rfl⟩
  unfold MbRtu.served
  split
  · split
    · exact hevent _ _
    · exact Or.inl ⟨_, _, _, rfl⟩
  · exact Or.inl ⟨_, _, _, rfl⟩

/-- A board input is one event, none, or the jobs of the RTC thread. -/
theorem react_events {s : State} {b b' : Board} {i : BoardInput} {es : List Event} (h : b.react s i = some (b', es)) :
    es = [] ∨ (∃ e, es = [e]) ∨ ∀ e ∈ es, e.Job := by
  cases i with
  | elapse ms | rtcAlarm =>
    cases h
    exact Or.inl rfl
  | scan k active =>
    cases h
    have hsampled := sampled_process k active (UInt32.ofNat (b.time - b.boot)) (b.btn k)
    generalize (agileBtnProcess active (UInt32.ofNat (b.time - b.boot)) (b.btn k)).2.filterMap k.callback = es
      at hsampled
    cases hsampled with
    | waiting _ _ hes => exact hes.imp id fun h => Or.inl ⟨_, h⟩
    | pressed | holding | released => exact Or.inl rfl
    | held | freed => exact Or.inr (Or.inl ⟨_, rfl⟩)
  | rtcThread =>
    obtain ⟨-, h⟩ := Option.ite_none_right_eq_some.1 h
    cases h
    refine Or.inr (Or.inr fun e he => ?_)
    unfold RtcThread.round at he
    dsimp only at he
    rcases List.mem_append.1 he with he | he
    · rcases List.mem_append.1 he with he | he
      · exact Or.inl (by split at he <;> simp_all)
      · exact Or.inr (Or.inl (by split at he <;> simp_all))
    · exact Or.inr (Or.inr (List.mem_singleton.1 he))
  | rxByte ucByte | t35Expired | txReady =>
    obtain ⟨-, h⟩ := Option.ite_none_right_eq_some.1 h
    cases h
    exact Or.inl rfl
  | mbPoll stack fullyClose =>
    obtain ⟨-, h⟩ := Option.ite_none_right_eq_some.1 h
    cases h
    exact Or.inr (Or.inl ⟨_, rfl⟩)
  | dryPoll level =>
    cases h
    exact Or.inr (Or.inl ⟨_, rfl⟩)
  | event e =>
    obtain ⟨-, h⟩ := Option.ite_none_right_eq_some.1 h
    cases h
    exact Or.inr (Or.inl ⟨e, rfl⟩)

/-! The line on the board. -/

theorem enabled_of_handles {cfg : Config} {s s' : State} {env : Env} {e : Event}
    (hrun : (system cfg).run s [(env, e)] = some s') : s' = e.handle (s.onUnit (MainUnit.begin env)) := by
  obtain ⟨m, hn, hr⟩ := Option.bind_eq_some_iff.1 hrun
  obtain rfl : m = s' := Option.some_inj.1 hr
  exact (system_next_eq_some.1 hn).2.symm

/-- An input leaves the line alone, or is one of the line's. -/
theorem react_rtu {s : State} {b b' : Board} {i : BoardInput} {es : List Event} (h : b.react s i = some (b', es)) :
    b'.rtu = b.rtu ∨ ∀ sv, ∃ j l', mbLine.next ⟨b.rtu, sv⟩ j = some l' ∧ l'.rtu = b'.rtu := by
  cases i with
  | elapse ms =>
    cases h
    exact Or.inl rfl
  | scan k active =>
    cases h
    exact Or.inl rfl
  | rtcAlarm =>
    cases h
    exact Or.inl rfl
  | rtcThread =>
    obtain ⟨-, h⟩ := Option.ite_none_right_eq_some.1 h
    cases h
    exact Or.inl rfl
  | rxByte ucByte =>
    obtain ⟨hrx, h⟩ := Option.ite_none_right_eq_some.1 h
    cases h
    exact Or.inr fun sv => ⟨.rxByte ucByte, _, if_pos hrx, rfl⟩
  | t35Expired =>
    obtain ⟨ht, h⟩ := Option.ite_none_right_eq_some.1 h
    cases h
    exact Or.inr fun sv => ⟨.t35Expired, _, if_pos ht, rfl⟩
  | txReady =>
    obtain ⟨ht, h⟩ := Option.ite_none_right_eq_some.1 h
    cases h
    exact Or.inr fun sv => ⟨.txReady, _, if_pos ht, rfl⟩
  | mbPoll stack fullyClose =>
    obtain ⟨hev, h⟩ := Option.ite_none_right_eq_some.1 h
    cases h
    exact Or.inr fun sv => ⟨.poll stack fun _ => b.refreshed s fullyClose, _, if_pos hev, rfl⟩
  | dryPoll level =>
    cases h
    exact Or.inl rfl
  | event e =>
    obtain ⟨-, h⟩ := Option.ite_none_right_eq_some.1 h
    cases h
    exact Or.inl rfl

/-- **The line on the board** is in a state that the line reaches by itself, whatever
else happens on the board. -/
theorem board_line {cfg : Config} {p : State × Board} (h : (firmware cfg).Reachable p) :
    ∃ l, mbLine.Reachable l ∧ l.rtu = p.2.rtu := by
  have hfresh : ∀ s : State, ∃ l, mbLine.Reachable l ∧ l.rtu = ({} : MbRtu) := fun s =>
    ⟨⟨{}, s, fun _ => 0, fun _ => 0⟩, Machine.reachable_start rfl, rfl⟩
  refine @Machine.reachable_inv _ _ (firmware cfg) (fun p => ∃ l, mbLine.Reachable l ∧ l.rtu = p.2.rtu) ?_ ?_ p h
  · intro p hstart
    rw [show p.2 = {} from hstart.2]
    exact hfresh p.1
  · rintro p i p' ⟨l, hl, hrtu⟩ hn
    obtain ⟨b, es, -, hreact, hb, -⟩ := firmware_next_eq_some.1 hn
    rw [hb]
    split
    · exact hfresh p.1
    · rcases react_rtu hreact with hsame | hline
      · exact ⟨l, hl, hrtu.trans hsame.symm⟩
      · obtain ⟨j, l', hnext, hl'⟩ := hline l.server
        rw [← hrtu] at hnext
        exact ⟨l', hl.step hnext, hl'⟩

theorem sample_runs {is : List (Env × BoardInput)}
    (h : ((firmware sampleConfig).run (sampleStart, {}) is).isSome = true) :
    ∃ p, (firmware sampleConfig).run (sampleStart, {}) is = some p ∧ (firmware sampleConfig).Reachable p := by
  obtain ⟨p, hr⟩ := Option.isSome_iff_exists.1 h
  exact ⟨p, hr, (sampleStart, {}), is, ⟨⟨_, _, _, rfl⟩, rfl⟩, hr⟩

/-- The line starts between other inputs. -/
def sampleBoard : List (Env × BoardInput) :=
  [(sampleEnv, .scan .on true), (sampleEnv, .t35Expired), (sampleEnv, .dryPoll .pinHigh), (sampleEnv, .elapse 20)]

theorem board_line_sample :
    ∃ p l, (firmware sampleConfig).run (sampleStart, {}) sampleBoard = some p ∧ mbLine.Reachable l ∧ l.rtu = p.2.rtu := by
  obtain ⟨p, hr, hreach⟩ := @sample_runs sampleBoard (by decide +kernel)
  obtain ⟨l, hl, hrtu⟩ := board_line hreach
  exact ⟨p, l, hr, hl, hrtu⟩

/-! The poll loop and the unit. -/

theorem execute_state (r : MbRtu) (s : State) (disc : Nat → UInt8) (reg : Nat → UInt16) :
    (r.execute ⟨mbDataCopy s, disc, reg⟩).2.state =
      (if r.ucMBFrame then mbEvent r.pdu r.usLength else .modbusCoils r.pdu 0 0).handle s := by
  unfold MbRtu.execute
  by_cases hset : r.ucMBFrame = true
  · have hexecute := execute_refines r.pdu r.usLength ⟨mbDataCopy s, disc, reg⟩ s
    rw [if_pos hset, if_pos hset]
    split
    · exact hexecute
    · dsimp only
      rw [mbReply_server]
      exact hexecute
  · rw [if_neg hset, if_neg hset]
    exact (poll_idle _ s).symm

/-- What a round leaves of the unit is what the event it stands for does. -/
theorem poll_refines (r : MbRtu) (stack : Option MbEventType) (s : State) (disc : Nat → UInt8) (reg : Nat → UInt16) :
    (r.eMBPoll stack ⟨mbDataCopy s, disc, reg⟩).2.state = (r.served stack).handle s := by
  unfold MbRtu.eMBPoll MbRtu.served
  dsimp only
  generalize (r.events.only.orElse fun _ => stack) = event
  cases event with
  | none => exact (poll_idle _ s).symm
  | some t =>
    cases t with
    | evReady | evFrameReceived | evFrameSent => exact (poll_idle _ s).symm
    | evExecute => exact execute_state r.clearEvents s disc reg

theorem served_keeps (r : MbRtu) (stack : Option MbEventType) (s : State) : (r.served stack).resetsUnit s = false := by
  rcases served_modbus r stack with ⟨reg, a, n, h⟩ | ⟨reg, a, n, h⟩ <;> rw [h] <;> rfl

/-- **A round of the poll loop on the board**: the line goes on with the answer
that the function computed, and the unit is as that function left it. -/
theorem mbPoll_state {cfg : Config} {p p' : State × Board} {env : Env} {stack : Option MbEventType}
    {fullyClose : Side → PinLevel} (hn : (firmware cfg).next p (env, .mbPoll stack fullyClose) = some p') :
    let r := p.2.rtu.eMBPoll stack (p.2.refreshed (p.1.onUnit (MainUnit.begin env)) fullyClose)
    p'.2.rtu = r.1 ∧ p'.1 = r.2.state := by
  obtain ⟨b, es, -, hreact, hb, hrun⟩ := firmware_next_eq_some.1 hn
  obtain ⟨-, h⟩ := Option.ite_none_right_eq_some.1 hreact
  cases h
  have hkeeps : ([p.2.rtu.served stack].any (·.resetsUnit (p.1.onUnit (MainUnit.begin env)))) = false := by
    rw [List.any_cons, served_keeps]
    rfl
  rw [hkeeps] at hb
  exact ⟨by rw [hb]; rfl, (enabled_of_handles hrun).trans (poll_refines _ _ _ _ _).symm⟩

theorem mbPoll_state_sample :
    ∃ p p', (firmware sampleConfig).run (sampleStart, {}) sampleBoard = some p ∧
      (firmware sampleConfig).next p (sampleEnv, .mbPoll none fun _ => .pinLow) = some p' ∧
      p'.1 = (p.2.rtu.eMBPoll none (p.2.refreshed (p.1.onUnit (MainUnit.begin sampleEnv)) fun _ => .pinLow)).2.state := by
  have hrun : ((firmware sampleConfig).run (sampleStart, {})
      (sampleBoard ++ [(sampleEnv, .mbPoll none fun _ => .pinLow)])).isSome = true := by decide +kernel
  obtain ⟨p', hr⟩ := Option.isSome_iff_exists.1 hrun
  rw [Machine.run_append] at hr
  obtain ⟨p, hr, hlast⟩ := Option.bind_eq_some_iff.1 hr
  obtain ⟨q, hn, hq⟩ := Option.bind_eq_some_iff.1 hlast
  exact ⟨p, q, hr, hn, (mbPoll_state hn).2⟩

/-! The dry contacts. -/

/-- Output 0 shows the valve, 1 a leak, 2 a technical alarm. -/
def DryIo.Consistent (d : DryIo) : Prop :=
  ¬ (d.dryContactOutputState 1 = true ∧ d.dryContactOutputState 2 = true) ∧
    ¬ (d.dryContactOutputState 0 = true ∧ d.dryContactOutputState 1 = true)

theorem polled_consistent (level : PinLevel) (changed : Bool) {u : MainUnit} (hu : CriticalShut u) (d : DryIo) :
    (d.polled level changed u).Consistent := by
  have hleak : u.core.deviceStatus = .slaverSensorLeak → u.core.valveStatus = .valveStatusClose :=
    fun h => hu (Or.inl h)
  unfold DryIo.polled
  dsimp only
  generalize (if changed = true then { d with dryContactInputState := decide (level = .pinLow) } else d) = d
  change DryIo.Consistent ((d.alarmsSet u.core.deviceStatus).dryContactValveStatusSet (u.core.valveStatus = .valveStatusOpen))
  generalize u.core.deviceStatus = status at hleak ⊢
  generalize u.core.valveStatus = valve at hleak ⊢
  cases status <;> cases valve <;>
    simp [DryIo.Consistent, DryIo.alarmsSet, DryIo.dryContactTechAlarmSet, DryIo.dryContactLeakAlarmSet,
      DryIo.dryContactValveStatusSet, Function.update] at hleak ⊢

/-- Only the polling timer changes the outputs. -/
theorem react_dry {s : State} {b b' : Board} {i : BoardInput} {es : List Event} (h : b.react s i = some (b', es)) :
    b'.dry = b.dry ∨ ∃ level changed, es = [.dryContact level] ∧
      b'.dry = b.dry.polled level changed ((Event.dryContact level).handle s).unit := by
  cases i with
  | dryPoll level =>
    cases h
    exact Or.inr ⟨level, _, rfl, rfl⟩
  | elapse ms | scan k active | rtcAlarm =>
    cases h
    exact Or.inl rfl
  | rtcThread | rxByte ucByte | t35Expired | txReady | mbPoll stack fullyClose | event e =>
    obtain ⟨-, h⟩ := Option.ite_none_right_eq_some.1 h
    cases h
    exact Or.inl rfl

/-- **The dry contact outputs** never show a leak and a technical alarm at once,
and never a leak next to an open valve. -/
theorem outputs_consistent {cfg : Config} {p : State × Board} (h : (firmware cfg).Reachable p) : p.2.dry.Consistent := by
  have hfresh : DryIo.Consistent {} := ⟨fun h => (by cases h.1), fun h => (by cases h.1)⟩
  have hinv : (firmware cfg).Reachable p ∧ p.2.dry.Consistent := by
    refine @Machine.reachable_inv _ _ (firmware cfg) (fun p => (firmware cfg).Reachable p ∧ p.2.dry.Consistent) ?_ ?_ p h
    · intro p hstart
      refine ⟨Machine.reachable_start hstart, ?_⟩
      rw [show p.2 = {} from hstart.2]
      exact hfresh
    · rintro p i p' ⟨hp, hd⟩ hn
      have hp' := hp.step hn
      refine ⟨hp', ?_⟩
      obtain ⟨b, es, -, hreact, hb, hrun⟩ := firmware_next_eq_some.1 hn
      rw [hb]
      split
      · exact hfresh
      · rcases react_dry hreact with hsame | ⟨level, changed, rfl, hpolled⟩
        · exact hsame ▸ hd
        · have hunit : (Event.dryContact level).handle (p.1.onUnit (MainUnit.begin i.1)) = p'.1 :=
            (enabled_of_handles hrun).symm
          have hshut : CriticalShut p'.1.unit := firmware_invariant
            (fun s hs => reachable_of_always (criticalShut_invariant cfg) hs) hp'
          rw [hpolled, hunit]
          exact polled_consistent level changed hshut p.2.dry
  exact hinv.2

theorem outputs_consistent_sample :
    ∃ p, (firmware sampleConfig).run (sampleStart, {}) sampleBoard = some p ∧ p.2.dry.Consistent := by
  obtain ⟨p, hr, hreach⟩ := @sample_runs sampleBoard (by decide +kernel)
  exact ⟨p, hr, outputs_consistent hreach⟩

end Aqualarm
