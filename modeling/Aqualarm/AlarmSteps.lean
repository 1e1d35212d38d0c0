import Aqualarm.FrameReads

/-
  What one event does to the alarms and the learn mode: `DeviceStatus`,
  `NowEvent`, `allow_add_device`, the learn timer, and what in the device list
  causes an alarm. Every event is a chain of the steps below, each with what in
  the event brings it about (`alarm_next`).

  `Effects` says what the code can do under the guards next to it; here a step
  also says which frame, key or timer it takes.
-/

namespace Aqualarm

open Lib Relation

/-! The variables. -/

@[ext] structure AlarmView where
  deviceStatus : DeviceStatus
  nowEvent : NowEvent
  allowAddDevice : Bool
  radioLearnTimer : Bool
  deriving DecidableEq

def Core.alarm (c : Core) : AlarmView :=
  { deviceStatus := c.deviceStatus, nowEvent := c.nowEvent, allowAddDevice := c.allowAddDevice
    radioLearnTimer := c.radioLearnTimer }

/-- The alarms a device in the list causes. -/
inductive Alarm where
  | leak | lost | offline
  deriving DecidableEq, Repr

namespace Alarm

def status : Alarm → DeviceStatus
  | .leak => .slaverSensorLeak
  | .lost => .slaverSensorLost
  | .offline => .slaverOffline

/-- The function that looks for a cause. -/
def find : Alarm → Storage → Bool
  | .leak => aqDeviceWaterleakFind
  | .lost => aqDeviceWirelostFind
  | .offline => aqDeviceEndunitOfflineFind

def caused : Alarm → Device → Bool
  | .leak => fun d => d.waterleak ≠ 0
  | .lost => fun d => d.wirelost ≠ 0
  | .offline => fun d => d.online = 0 ∧ d.type = deviceTypeEndunit

end Alarm

/-! What in an event brings a step about. -/

/-- A frame of the given type and command from a listed source to this unit. -/
structure RxFrame.Served (deviceType command : UInt8) (rx : RxFrame) (u : MainUnit) : Prop where
  deviceType : rx.deviceType = deviceType
  command : rx.rxData 0 = command
  toUnit : rx.destAddr = getLocalAddress u
  registered : (aqDeviceFind rx.sourceAddr u.storage).isSome = true

/-- The event reaches `warning_enable(w)`. -/
inductive Raises (u : MainUnit) (e : Event) : Warning → Prop
  | lowPower {rx : RxFrame} (hf : e.Frame u rx) (hs : rx.Served deviceTypeEndunit heartUploadCmd u)
      (h : rx.rxData 2 = 1) : Raises u e .slaverLowPower
  | ultraLowPower {rx : RxFrame} (hf : e.Frame u rx) (hs : rx.Served deviceTypeEndunit heartUploadCmd u)
      (h : rx.rxData 2 = 2) : Raises u e .slaverUltraLowPower
  | leak {rx : RxFrame} (hf : e.Frame u rx) (hs : rx.Served deviceTypeEndunit warningUploadCmd u)
      (h : rx.rxData 2 = 0) (hv : rx.rxData 3 ≠ 0) : Raises u e .slaverSensorLeak
  | lost {rx : RxFrame} (hf : e.Frame u rx) (hs : rx.Served deviceTypeEndunit warningUploadCmd u)
      (h : rx.rxData 2 = 1) (hv : rx.rxData 3 ≠ 0) : Raises u e .slaverSensorLost
  | offline (he : e = .rtcDeviceHeartCheck)
      (hf : aqDeviceEndunitOfflineFind (heartCheckMark u.storage) = true) : Raises u e .slaverOffline
  | turnBack (side : Side) (he : e = .timer (.turnBack side)) (hp : u.env.fullyOpen side ≠ .pinHigh) :
      Raises u e side.failEvent
  | turnCheck (side : Side) (he : e = .timer (.turnCheck side)) (hp : u.env.fullyOpen side ≠ .pinLow) :
      Raises u e side.failEvent

/-- The event is a request to add a device that is met: the device was known, or
there is room and memory for it. -/
def AddsDevice (u : MainUnit) (e : Event) : Prop :=
  ∃ rx, e.Frame u rx ∧ rx.AddDevice u ∧
    (learnStorage u.env.mallocDevice rx.rssiLevel rx.deviceType rx.sourceAddr u.storage).1.isSome = true

/-- The list after the learn part of a frame. -/
def learnedRegistry (rx : RxFrame) (u : MainUnit) : Storage :=
  if rx.rxData 0 = learnDeviceCmd ∧ rx.rxData 2 = 1 ∧ rx.destAddr = getLocalAddress u then
    (learnStorage u.env.mallocDevice rx.rssiLevel rx.deviceType rx.sourceAddr u.storage).2
  else u.storage

/-- The list after a frame of a motion sensor, the door unit or the gateway, as
far as the alarms' causes go. -/
def frameRegistry (rx : RxFrame) (u : MainUnit) : Storage :=
  if aqDeviceFind rx.sourceAddr u.storage = none ∨ rx.destAddr ≠ getLocalAddress u then learnedRegistry rx u
  else if rx.deviceType = deviceTypeGateway then
    if rx.rxData 0 = deviceSyncCmd ∧ rx.rxData 2 = 1 then (aqDeviceDelete rx.word u.storage).2
    else learnedRegistry rx u
  else (aqDeviceHeartRecv rx (learnedRegistry rx u)).2

/-- The handlers of these types do not look at the alarm after changing the
list. -/
def Forgets (u : MainUnit) (e : Event) (st : Storage) : Prop :=
  ∃ rx, e.Frame u rx ∧ (rx.deviceType = deviceTypeMotionSensor ∨ rx.deviceType = deviceTypeDoorunit ∨
    rx.deviceType = deviceTypeGateway) ∧ ∀ a : Alarm, a.find st = a.find (frameRegistry rx u)

/-- Which of the two click handlers a coil write runs, if any: `true` for
`key_on_click_handle`. -/
def mbCoilsClick (reg : Nat → UInt8) (usAddress usNCoils : UInt16) (s : State) : Option Bool :=
  if 1 ≤ usNCoils ∧ usNCoils ≤ 0x7B0 then
    match eMBRegCoilsCB reg usAddress usNCoils (mbDataCopy s).modbus.ucSCoilBuf with
    | some (true, buf) => some (buf 0 &&& 1 ≠ 0)
    | _ => none
  else none

/-- A write of holding registers runs `key_off_click_handle`, or nothing. -/
def mbHoldingClick (reg : Nat → UInt8) (usAddress usNRegs : UInt16) (s : State) : Option Bool :=
  if 1 ≤ usNRegs ∧ usNRegs ≤ 0x78 then
    match eMBRegHoldingCB reg usAddress usNRegs (mbDataCopy s).modbus.usSRegHoldBuf with
    | some (true, _) => some false
    | _ => none
  else none

/-- The click handler the event runs: `some true` for on, `some false` for off. -/
def Event.click (s : State) : Event → Option Bool
  | .keyOnClick => some true
  | .keyOffClick => some false
  | .modbusCoils reg usAddress usNCoils => mbCoilsClick reg usAddress usNCoils s
  | .modbusHolding reg usAddress usNRegs => mbHoldingClick reg usAddress usNRegs s
  | _ => none

/-- A click moves the valve while `SlaverLowPower` shows. -/
structure LowPowerClick (s : State) (e : Event) : Prop where
  shown : s.unit.core.deviceStatus = .slaverLowPower
  valid : s.unit.core.valveValid = true
  moves : e.click s = some true ∧ s.unit.core.valveStatus = .valveStatusClose ∧ s.unit.core.lockStatus ≠ 1 ∨
    e.click s = some false ∧ s.unit.core.valveStatus = .valveStatusOpen

/-! The steps. -/

/-- An alarm that shows keeps its cause. -/
def CauseKept (u u' : MainUnit) : Prop :=
  ∀ a : Alarm, u'.core.deviceStatus = a.status → a.find u.storage = true → a.find u'.storage = true

inductive AlarmStep (s₀ : State) (e : Event) (u u' : MainUnit) : Prop
  | silent (hc : u'.core.alarm = u.core.alarm) (hk : CauseKept u u')
  | forgotten (hc : u'.core.alarm = u.core.alarm) (hf : Forgets s₀.unit e u'.storage)
      (hs : u.core.deviceStatus = s₀.unit.core.deviceStatus)
  | cleared (v : ValveStatus) (hs : u.core.deviceStatus ≠ .learnDevice)
      (hc : u'.core.alarm = { u.core.alarm with deviceStatus := v.toDeviceStatus, nowEvent := {} })
  | raised (w : Warning) (hr : Raises s₀.unit e w)
      (hs : u.core.deviceStatus = s₀.unit.core.deviceStatus) (hn : u.core.nowEvent = s₀.unit.core.nowEvent)
      (hp : u.core.nowEvent.priority ≤ w.priority)
      (hc : u'.core.alarm =
        { u.core.alarm with
          deviceStatus := w.status
          nowEvent := { lastId := w.warningId, priority := w.priority, callback := some w } })
      (hf : ∀ a : Alarm, w.status = a.status → a.find u'.storage = true)
  | moved (v : ValveStatus) (hi : u.core.deviceStatus.Idle)
      (hc : u'.core.alarm = { u.core.alarm with deviceStatus := v.toDeviceStatus })
  | clicked (v : ValveStatus) (h : LowPowerClick s₀ e ∨ s₀.unit.core.deviceStatus = .masterSensorLost)
      (hu : u.core = s₀.unit.core) (hc : u'.core.alarm = { u.core.alarm with deviceStatus := v.toDeviceStatus })
  | learnStarted (hi : u.core.deviceStatus.Idle)
      (hc : u'.core.alarm =
        { u.core.alarm with deviceStatus := .learnDevice, allowAddDevice := true, radioLearnTimer := true })
  | learnEnded (v : ValveStatus)
      (hc : u'.core.alarm =
        { deviceStatus := v.toDeviceStatus, nowEvent := {}, allowAddDevice := false, radioLearnTimer := false })
  | refreshed (h : AddsDevice s₀.unit e) (hs : u.core.deviceStatus = s₀.unit.core.deviceStatus)
      (hc : u'.core.alarm = { u.core.alarm with radioLearnTimer := true }) (hk : CauseKept u u')
  | booted
      (hc : u'.core.alarm =
          { deviceStatus := .valveClose, nowEvent := {}, allowAddDevice := false, radioLearnTimer := false } ∨
        Alarm.leak.find u'.storage = true ∧
          u'.core.alarm =
            { deviceStatus := .slaverSensorLeak
              nowEvent := { lastId := 5, priority := 8, callback := some .slaverSensorLeak }
              allowAddDevice := false, radioLearnTimer := false })

/-- A chain of steps. -/
abbrev AlarmPath (s₀ : State) (e : Event) : MainUnit → MainUnit → Prop := ReflTransGen (AlarmStep s₀ e)

/-! Causes. -/

namespace Alarm

theorem find_eq_any (a : Alarm) (st : Storage) : a.find st = st.deviceList.any a.caused := by
  cases a <;> rfl

variable (a : Alarm) {st st' : Storage}

theorem find_eq_true : a.find st = true ↔ ∃ d ∈ st.deviceList, a.caused d = true := by
  rw [find_eq_any, List.any_eq_true]

theorem find_congr (h : st'.deviceList = st.deviceList) : a.find st' = a.find st := by
  rw [find_eq_any, find_eq_any, h]

/-- A change in place that touches no cause. -/
theorem find_of_map (h : st'.deviceList.map a.caused = st.deviceList.map a.caused) : a.find st' = a.find st := by
  have hid : ∀ l : List Device, (l.map a.caused).any id = l.any a.caused := fun l => List.any_map
  rw [find_eq_any, find_eq_any, ← hid, ← hid, h]

end Alarm

/-- The fields of a device that can cause an alarm. -/
structure Device.SameCauses (d d' : Device) : Prop where
  waterleak : d'.waterleak = d.waterleak
  wirelost : d'.wirelost = d.wirelost
  online : d'.online = d.online
  type : d'.type = d.type

theorem Device.SameCauses.caused {d d' : Device} (h : d.SameCauses d') (a : Alarm) : a.caused d' = a.caused d := by
  cases a <;> simp only [Alarm.caused, h.waterleak, h.wirelost, h.online, h.type]

/-- The list differs in no id, and in nothing an alarm is about. -/
def Alike (st st' : Storage) : Prop :=
  List.Forall₂ (fun d d' : Device => d'.deviceId = d.deviceId ∧ d.SameCauses d') st.deviceList st'.deviceList

theorem Alike.of_eq {st st' : Storage} (h : st'.deviceList = st.deviceList) : Alike st st' := by
  unfold Alike
  rw [h]
  exact List.forall₂_same.2 fun _ _ => ⟨rfl, rfl, rfl, rfl, rfl⟩

theorem Alike.trans {st st₁ st₂ : Storage} (h : Alike st st₁) (h' : Alike st₁ st₂) : Alike st st₂ := by
  refine Lib.forall₂_comp (fun d d₁ d₂ hd hd' => ?_) h h'
  obtain ⟨hid, h₁, h₂, h₃, h₄⟩ := hd
  obtain ⟨hid', g₁, g₂, g₃, g₄⟩ := hd'
  exact ⟨hid'.trans hid, g₁.trans h₁, g₂.trans h₂, g₃.trans h₃, g₄.trans h₄⟩

/-- What is read off the ids and the causes is the same. -/
theorem Alike.map_eq {α : Type} {k : Device → α} {st st' : Storage} (h : Alike st st')
    (hk : ∀ d d' : Device, d'.deviceId = d.deviceId → d.SameCauses d' → k d' = k d) :
    st'.deviceList.map k = st.deviceList.map k :=
  Lib.map_eq_of_forall₂ (fun d d' hd => hk d d' hd.1 hd.2) h

theorem Alike.find {st st' : Storage} (h : Alike st st') (a : Alarm) : a.find st' = a.find st :=
  a.find_of_map (h.map_eq fun _ _ _ hc => hc.caused a)

/-- The operations on fields no alarm is about. -/
def RegOp.Causeless : RegOp → Prop
  | .batterySet .. | .rssiLevelSet .. | .recvSet .. | .rssiLevelWrite .. | .recvWrite .. | .recvClear _
  | .heartRecvClear => True
  | _ => False

theorem RegOp.Causeless.change {op : RegOp} (h : op.Causeless) (d : Device) : d.SameCauses (op.change d) := by
  cases op with
  | batterySet | rssiLevelSet =>
    unfold RegOp.change setDevice
    dsimp only
    split <;> exact ⟨rfl, rfl, rfl, rfl⟩
  | recvSet | rssiLevelWrite | recvWrite | heartRecvClear =>
    unfold RegOp.change
    dsimp only
    split <;> exact ⟨rfl, rfl, rfl, rfl⟩
  | recvClear => exact ⟨rfl, rfl, rfl, rfl⟩
  | create | delete | gatewayDelete | doorunitDelete | waterleakSet | wirelostSet | onlineSet => exact absurd h id

theorem RegOp.Causeless.alike {op : RegOp} (h : op.Causeless) (st : Storage) : Alike st (op.apply st) := by
  have hplace : op.InPlace := by cases op <;> trivial
  refine (hplace.forall₂ st).imp fun d d' hd => ?_
  rcases hd with rfl | rfl
  · exact ⟨rfl, rfl, rfl, rfl, rfl⟩
  · exact ⟨(op.change_same d).deviceId, h.change d⟩

/-- What hearing from `rx`'s source makes of a device, as far as causes go. -/
def heardDevice (rx : RxFrame) (d : Device) : Device :=
  if d.deviceId = rx.sourceAddr then { d with online := 1 } else d

theorem Alarm.heardDevice_caused (a : Alarm) {d d' : Device} (hid : d'.deviceId = d.deviceId) (hc : d.SameCauses d')
    (rx : RxFrame) : a.caused (heardDevice rx d') = a.caused (heardDevice rx d) := by
  refine Device.SameCauses.caused ?_ a
  obtain ⟨hw, hlost, hon, ht⟩ := hc
  simp only [heardDevice, hid]
  split
  · exact ⟨hw, hlost, rfl, ht⟩
  · exact ⟨hw, hlost, hon, ht⟩

theorem Alarm.find_heartRecv (a : Alarm) (rx : RxFrame) (st : Storage) :
    a.find (aqDeviceHeartRecv rx st).2 = st.deviceList.any fun d => a.caused (heardDevice rx d) := by
  by_cases hl : Listed rx.sourceAddr st
  · obtain ⟨device, hd⟩ := Option.isSome_iff_exists.1 (aqDeviceFind_isSome.2 hl)
    have hrecv : (aqDeviceHeartRecv rx st).2 =
        (RegOp.rssiLevelSet rx.sourceAddr rx.rssiLevel).apply ((RegOp.onlineSet rx.sourceAddr 1).apply
          ((RegOp.recvWrite rx.sourceAddr 1).apply st)) := by
      simp [aqDeviceHeartRecv, hd, RegOp.apply]
    have hrssi : (RegOp.rssiLevelSet rx.sourceAddr rx.rssiLevel).Causeless := trivial
    have honline : (RegOp.onlineSet rx.sourceAddr 1).Everywhere := ⟨trivial, trivial⟩
    have hmarked : Alike st ((RegOp.recvWrite rx.sourceAddr 1).apply st) :=
      @RegOp.Causeless.alike (.recvWrite rx.sourceAddr 1) trivial st
    have hid : ∀ l : List Device, (l.map fun d => a.caused (heardDevice rx d)).any id =
        l.any fun d => a.caused (heardDevice rx d) := fun l => List.any_map
    have hheard : ∀ d : Device, a.caused ((RegOp.onlineSet rx.sourceAddr 1).change d) = a.caused (heardDevice rx d) := by
      intro d
      refine Device.SameCauses.caused ?_ a
      unfold RegOp.change setDevice heardDevice
      by_cases hid : d.deviceId = rx.sourceAddr
      · by_cases hon : d.online = 1
        · simp only [hid, hon, if_true, ne_eq, not_true_eq_false, and_false, if_false]
          exact ⟨rfl, rfl, hon, rfl⟩
        · simp only [hid, hon, if_true, ne_eq, not_false_eq_true, and_self]
          exact ⟨rfl, rfl, rfl, rfl⟩
      · simp only [hid, if_false, false_and]
        exact ⟨rfl, rfl, rfl, rfl⟩
    rw [hrecv, (hrssi.alike _).find, find_eq_any, honline.deviceList, List.any_map,
      show (a.caused ∘ (RegOp.onlineSet rx.sourceAddr 1).change) = _ from funext hheard, ← hid,
      hmarked.map_eq fun d d' hd hc => a.heardDevice_caused hd hc rx, hid]
  · -- not listed: nothing happens, and no device has the id
    rw [aqDeviceHeartRecv, aqDeviceFind_eq_none.2 hl, find_eq_any, Bool.eq_iff_iff, List.any_eq_true,
      List.any_eq_true]
    refine exists_congr fun d => and_congr_right fun hd => ?_
    rw [heardDevice, if_neg fun hid => hl ⟨d, hd, hid⟩]

theorem Alike.find_heartRecv {st st' : Storage} (h : Alike st st') (a : Alarm) (rx : RxFrame) :
    a.find (aqDeviceHeartRecv rx st').2 = a.find (aqDeviceHeartRecv rx st).2 := by
  have hid : ∀ l : List Device, (l.map fun d => a.caused (heardDevice rx d)).any id =
      l.any fun d => a.caused (heardDevice rx d) := fun l => List.any_map
  rw [Alarm.find_heartRecv, Alarm.find_heartRecv, ← hid, ← hid,
    h.map_eq fun d d' hd hc => a.heardDevice_caused hd hc rx]

/-- Leaks and lost sensors are not about hearing. -/
theorem Alarm.find_heartRecv_of_ne {a : Alarm} (h : a ≠ .offline) (rx : RxFrame) (st : Storage) :
    a.find (aqDeviceHeartRecv rx st).2 = a.find st := by
  rw [find_heartRecv, find_eq_any]
  refine congrArg st.deviceList.any (funext fun d => ?_)
  unfold heardDevice
  cases a with
  | leak | lost => split <;> rfl
  | offline => exact absurd rfl h

/-- What holds of no device that is added is found where it was. -/
theorem any_create {p : Device → Bool} {rssiLevel type : UInt8} {deviceId : UInt32}
    (hp : ∀ slot, p (newDevice slot rssiLevel type deviceId) = false) (mallocOk : Bool) (st : Storage) :
    (aqDeviceCreate mallocOk rssiLevel type deviceId st).2.deviceList.any p = st.deviceList.any p := by
  generalize hr : aqDeviceCreate mallocOk rssiLevel type deviceId st = r
  cases hr ▸ aqDeviceCreate_cases mallocOk rssiLevel type deviceId st with
  | known | full | noMemory => rfl
  | added _ _ slot =>
    change (st.deviceList ++ [newDevice slot rssiLevel type deviceId]).any p = _
    rw [List.any_append, List.any_cons, List.any_nil, hp, Bool.or_false, Bool.or_false]

/-- A device that is added causes nothing. -/
theorem Alarm.caused_newDevice (a : Alarm) (slot : Nat) (rssiLevel type : UInt8) (deviceId : UInt32) :
    a.caused (newDevice slot rssiLevel type deviceId) = false := by
  cases a <;> rfl

theorem Alarm.find_create (a : Alarm) (mallocOk : Bool) (rssiLevel type : UInt8) (deviceId : UInt32)
    (st : Storage) : a.find (aqDeviceCreate mallocOk rssiLevel type deviceId st).2 = a.find st := by
  rw [find_eq_any, find_eq_any]
  exact any_create (fun slot => a.caused_newDevice slot rssiLevel type deviceId) mallocOk st

/-- Setting a field one alarm is about leaves the others. -/
theorem Alarm.find_waterleakSet {a : Alarm} (h : a ≠ .leak) (deviceId : UInt32) (value : UInt8) (st : Storage) :
    a.find (aqDeviceWaterleakSet deviceId value st) = a.find st := by
  refine a.find_of_map (@RegOp.InPlace.map_eq _ (.waterleakSet deviceId value) trivial _ (fun d => ?_) st)
  unfold RegOp.change setDevice
  cases a with
  | leak => exact absurd rfl h
  | lost | offline => dsimp only; split <;> rfl

theorem Alarm.find_wirelostSet {a : Alarm} (h : a ≠ .lost) (deviceId : UInt32) (value : UInt8) (st : Storage) :
    a.find (aqDeviceWirelostSet deviceId value st) = a.find st := by
  refine a.find_of_map (@RegOp.InPlace.map_eq _ (.wirelostSet deviceId value) trivial _ (fun d => ?_) st)
  unfold RegOp.change setDevice
  cases a with
  | lost => exact absurd rfl h
  | leak | offline => dsimp only; split <;> rfl

/-- Recording a leak or a lost sensor of a listed device gives the alarm a cause. -/
theorem waterleakSet_find {deviceId : UInt32} {value : UInt8} {st : Storage} (hl : Listed deviceId st)
    (hv : value ≠ 0) : Alarm.leak.find (aqDeviceWaterleakSet deviceId value st) = true := by
  obtain ⟨d, hd, hid⟩ := hl
  have hplace : (RegOp.waterleakSet deviceId value).Everywhere := ⟨trivial, trivial⟩
  refine (Alarm.find_eq_true _).2 ⟨(RegOp.waterleakSet deviceId value).change d, ?_, ?_⟩
  · rw [show aqDeviceWaterleakSet deviceId value st = (RegOp.waterleakSet deviceId value).apply st from rfl,
      hplace.deviceList]
    exact List.mem_map_of_mem hd
  · unfold RegOp.change setDevice
    by_cases hw : d.waterleak = value <;> simp [Alarm.caused, hid, hw, hv]

theorem wirelostSet_find {deviceId : UInt32} {value : UInt8} {st : Storage} (hl : Listed deviceId st)
    (hv : value ≠ 0) : Alarm.lost.find (aqDeviceWirelostSet deviceId value st) = true := by
  obtain ⟨d, hd, hid⟩ := hl
  have hplace : (RegOp.wirelostSet deviceId value).Everywhere := ⟨trivial, trivial⟩
  refine (Alarm.find_eq_true _).2 ⟨(RegOp.wirelostSet deviceId value).change d, ?_, ?_⟩
  · rw [show aqDeviceWirelostSet deviceId value st = (RegOp.wirelostSet deviceId value).apply st from rfl,
      hplace.deviceList]
    exact List.mem_map_of_mem hd
  · unfold RegOp.change setDevice
    by_cases hw : d.wirelost = value <;> simp [Alarm.caused, hid, hw, hv]

/-- The heartbeat check takes devices offline, and no cause away. -/
theorem Alarm.find_heartCheckMark {a : Alarm} {st : Storage} (h : a.find st = true) :
    a.find (heartCheckMark st) = true := by
  have key : ∀ (nodes : List Nat) (st : Storage), a.find st = true → a.find (nodes.foldl heartCheckTurn st) = true := by
    intro nodes
    induction nodes with
    | nil => exact fun _ h => h
    | cons node nodes ih =>
      intro st h
      refine ih _ ?_
      rcases heartCheckTurn_cases st node with hturn | ⟨op, rfl | ⟨deviceId, rfl⟩, hturn⟩
      · rw [hturn]
        exact h
      · have hquiet : (RegOp.recvClear node).Causeless := trivial
        rw [hturn]
        exact ((hquiet.alike st).find a).trans h
      · obtain ⟨d, hd, hc⟩ := a.find_eq_true.1 h
        have hplace : (RegOp.onlineSet deviceId 0).Everywhere := ⟨trivial, trivial⟩
        refine a.find_eq_true.2 ⟨(RegOp.onlineSet deviceId 0).change d, ?_, ?_⟩
        · rw [hturn, hplace.deviceList]
          exact List.mem_map_of_mem hd
        · unfold RegOp.change setDevice
          dsimp only
          split
          · cases a <;> simp_all [Alarm.caused]
          · exact hc
  exact key _ st h

/-! The valve and the warnings. -/

theorem valveLock_alarm (u : MainUnit) : (valveLock u).core.alarm = u.core.alarm := by
  rw [valveLock_core]
  rfl

theorem valveUnlock_alarm (u : MainUnit) : (valveUnlock u).core.alarm = u.core.alarm := by
  rw [valveUnlock_core]
  rfl

/-- Closing shows `ValveClose`, or is refused. -/
theorem valveClose_alarm (c : Core) :
    (valveClose c).2.alarm = { c.alarm with deviceStatus := ValveStatus.valveStatusClose.toDeviceStatus } ∨
      (valveClose c).2.alarm = c.alarm := by
  unfold valveClose
  split
  · exact Or.inr rfl
  · exact Or.inl rfl

/-- Opening shows `ValveOpen`, or is refused. -/
theorem valveOpen_alarm (c : Core) :
    (valveOpen c).2.alarm = { c.alarm with deviceStatus := ValveStatus.valveStatusOpen.toDeviceStatus } ∨
      (valveOpen c).2.alarm = c.alarm := by
  unfold valveOpen
  split
  · exact Or.inr rfl
  · exact Or.inl rfl

theorem Raised.alarm {w : Warning} {u u' : MainUnit} (h : Raised w u u') :
    u'.core.alarm = { u.core.alarm with deviceStatus := w.status } := by
  cases h with
  | shown hc => rw [hc]; rfl
  | closed u₁ h₁ hc =>
    have hu₁ : u₁.core.alarm = u.core.alarm := by
      rcases h₁ with rfl | rfl
      · rfl
      · exact valveLock_alarm u
    have hclose : (valveClose u₁.core).2.alarm.nowEvent = u₁.core.alarm.nowEvent ∧
        (valveClose u₁.core).2.alarm.allowAddDevice = u₁.core.alarm.allowAddDevice ∧
        (valveClose u₁.core).2.alarm.radioLearnTimer = u₁.core.alarm.radioLearnTimer := by
      rcases valveClose_alarm u₁.core with h | h <;> rw [h] <;> exact ⟨rfl, rfl, rfl⟩
    rw [hu₁] at hclose
    rw [hc]
    exact AlarmView.ext rfl hclose.1 hclose.2.1 hclose.2.2
  | already h hd =>
    subst h
    exact AlarmView.ext hd rfl rfl rfl

/-- An accepted warning, as far as the alarms go. -/
theorem warningEnable_alarm {w : Warning} {u : MainUnit} (hp : u.core.nowEvent.priority ≤ w.priority) :
    (warningEnable w u).core.alarm =
      { u.core.alarm with
        deviceStatus := w.status
        nowEvent := { lastId := w.warningId, priority := w.priority, callback := some w } } := by
  obtain ⟨h, _⟩ | ⟨_, hr⟩ := warningEnable_cases w u
  · omega
  · rw [hr.alarm]
    rfl

theorem warningEnable_dropped {w : Warning} {u : MainUnit} (hp : ¬ u.core.nowEvent.priority ≤ w.priority) :
    warningEnable w u = u := by
  obtain ⟨_, h⟩ | ⟨h, _⟩ := warningEnable_cases w u
  · exact h
  · exact absurd h hp

theorem boot_alarm (u : MainUnit) :
    u.boot.core.alarm =
        { deviceStatus := .valveClose, nowEvent := {}, allowAddDevice := false, radioLearnTimer := false } ∨
      Alarm.leak.find u.boot.storage = true ∧
        u.boot.core.alarm =
          { deviceStatus := .slaverSensorLeak
            nowEvent := { lastId := 5, priority := 8, callback := some .slaverSensorLeak }
            allowAddDevice := false, radioLearnTimer := false } := by
  unfold MainUnit.boot
  dsimp only
  rw [MainUnit.onStorage_core, MainUnit.onStorage_storage, Alarm.find, heartRecvClear_waterleakFind]
  generalize readDeviceFromFlash _ = st
  unfold valveInit
  dsimp only
  split
  · rename_i hl
    refine Or.inr ⟨?_, ?_⟩
    · rw [waterleakFind_congr (warningEnable_deviceList _ _)]
      exact hl
    · rw [warningEnable_alarm (Nat.zero_le _)]
      rfl
  · exact Or.inl rfl

end Aqualarm
