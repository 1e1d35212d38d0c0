import Aqualarm.ControlSteps

/-
  What each event does to the motors: `valve_open`, `valve_close` or neither, by
  the guards its handler tests, and the start, the stages and the reset that do
  the rest.

  What is proved:
    1. `dispatch_obeys` — a frame turns the motors as `RxFrame.turn` says, and
       touches no other variable of theirs.
    2. `drive_handle` — every event is one of the steps of `DriveStep`.
-/

namespace Aqualarm

/-! The variables. -/

/-- The motors with the two variables `valve_open` and `valve_close` go by. -/
@[ext] structure Drive where
  valveValid : Bool := true
  valveStatus : ValveStatus := .valveStatusClose
  motor : Side → Motor := fun _ => {}

def Core.drive (c : Core) : Drive :=
  { valveValid := c.valveValid, valveStatus := c.valveStatus, motor := c.motor }

/-- What an event calls. -/
inductive Turn where
  | stays | opens | closes
  deriving DecidableEq, Repr

namespace Drive

/-- The four check timers stopped. -/
def halted (d : Drive) : Drive :=
  { d with motor := fun side => { d.motor side with turnBackTimer := false, turnCheckTimer := false } }

def opened (d : Drive) : Drive :=
  { d with
    valveStatus := .valveStatusOpen
    motor := fun side => { d.motor side with mbValveControlState := true, controlPin := .pinLow } }

def closed (d : Drive) : Drive :=
  { d with
    valveStatus := .valveStatusClose
    motor := fun side => { d.motor side with mbValveControlState := false, controlPin := .pinHigh } }

/-- Where `valve_valid` is 0, opening is refused, and closing stops no timer. -/
def turned (d : Drive) : Turn → Drive
  | .stays => d
  | .opens => if d.valveValid then d.opened.halted else d
  | .closes => if d.valveValid then d.closed.halted else d.closed

section
variable {d : Drive}

@[simp] theorem turned_stays : d.turned .stays = d := rfl

theorem turned_opens (h : d.valveValid = true) : d.turned .opens = d.opened.halted := if_pos h

theorem turned_opens_refused (h : d.valveValid = false) : d.turned .opens = d :=
  if_neg fun hv => Bool.false_ne_true (h.symm.trans hv)

theorem turned_closes (h : d.valveValid = true) : d.turned .closes = d.closed.halted := if_pos h

theorem turned_closes_refused (h : d.valveValid = false) : d.turned .closes = d.closed :=
  if_neg fun hv => Bool.false_ne_true (h.symm.trans hv)

end

/-- A check starts on the sides that read fully open. -/
def checked (fullyOpen : Side → PinLevel) (d : Drive) : Drive :=
  { d with
    motor := fun side =>
      if fullyOpen side = .pinLow then
        { d.motor side with
          turnCheckTimer := false, checkResult := false, mbValveCheckState := true,
          controlPin := .pinHigh, turnBackTimer := true }
      else d.motor side }

end Drive

/-! What is called, by the guards of the source. -/

/-- `valve_open`, which a lock refuses. -/
def Core.openTurn (c : Core) : Turn := if c.lockStatus = 1 then .stays else .opens

/-- A command taken in the idle statuses only. -/
def Core.idleTurn (t : Turn) (c : Core) : Turn := if c.deviceStatus.Idle then t else .stays

/-- The callback of a warning. -/
def Warning.callbackTurn (c : Core) : Warning → Turn
  | .slaverUltraLowPower | .masterSensorLeak | .masterLowTemp => .closes
  | .slaverSensorLeak => if c.deviceStatus ≠ .slaverSensorLeak then .closes else .stays
  | .slaverOffline => if c.deviceStatus ≠ .slaverOffline then .closes else .stays
  | _ => .stays

/-- `warning_enable`: a priority below the one in force drops the event. -/
def Warning.turn (w : Warning) (c : Core) : Turn :=
  if w.priority ≥ c.nowEvent.priority then w.callbackTurn c else .stays

namespace RxFrame

def endunitTurn (rx : RxFrame) (u : MainUnit) : Turn :=
  if rx.rxData 0 = heartUploadCmd then
    -- a low battery only shows, an empty one closes the valve
    if rx.rxData 2 = 2 then Warning.slaverUltraLowPower.turn u.core else .stays
  else if rx.rxData 0 = controlValveCmd then
    u.core.idleTurn (if rx.rxData 2 ≠ 0 then .opens else .closes)
  else if rx.rxData 0 = warningUploadCmd ∧ rx.rxData 2 = 0 then
    if rx.rxData 3 ≠ 0 then Warning.slaverSensorLeak.turn u.core
    -- the last leak is taken back
    else if u.core.deviceStatus = .slaverSensorLeak ∧
        aqDeviceWaterleakFind (aqDeviceWaterleakSet rx.sourceAddr (rx.rxData 3) u.storage) = false then .closes
    else .stays
  else .stays

/-- The door unit and the gateway: sub-command 0 closes, 1 opens. -/
def subTurn (rx : RxFrame) (u : MainUnit) : Turn :=
  if rx.rxData 0 = controlValveCmd then
    if rx.rxData 2 = 0 then u.core.idleTurn .closes
    else if rx.rxData 2 = 1 then u.core.idleTurn .opens
    else .stays
  else .stays

def motionTurn (rx : RxFrame) (u : MainUnit) : Turn :=
  if rx.rxData 0 = controlValveCmd then u.core.idleTurn (if rx.rxData 2 ≠ 0 then .opens else .closes) else .stays

def typeTurn (rx : RxFrame) (u : MainUnit) : Turn :=
  if rx.deviceType = deviceTypeMotionSensor then rx.motionTurn u
  else if rx.deviceType = deviceTypeEndunit then rx.endunitTurn u
  else if rx.deviceType = deviceTypeDoorunit then rx.subTurn u
  else if rx.deviceType = deviceTypeGateway then rx.subTurn u
  else .stays

/-- What a frame calls: nothing, unless it is from a listed source to this unit. -/
def turn (rx : RxFrame) (u : MainUnit) : Turn :=
  if rx.destAddr = getLocalAddress u ∧ Listed rx.sourceAddr u.storage then rx.typeTurn u else .stays

end RxFrame

def keyOnTurn (u : MainUnit) : Turn :=
  match u.core.deviceStatus with
  | .valveClose | .slaverSensorLost | .masterSensorLost => u.core.openTurn
  | .slaverLowPower => if getValveStatus u = .valveStatusClose then u.core.openTurn else .stays
  | _ => .stays

def keyOffTurn (u : MainUnit) : Turn :=
  match u.core.deviceStatus with
  | .valveOpen | .masterSensorLost => .closes
  | .slaverLowPower => if getValveStatus u = .valveStatusOpen then .closes else .stays
  | _ => .stays

/-- What an event calls. -/
def Event.turn (s : State) : Event → Turn
  | .radio rssi _ data len =>
    if radioAccepted s.unit.cfg data len then (rxFrameOf s.unit.env.stackSnr rssi data len).turn s.unit else .stays
  | .dryContact level =>
    -- a poll that reads the level it has is no event
    if s.dry.dryContactValveInputLevel ≠ some level then
      match level with
      | .pinHigh => s.unit.core.idleTurn .closes
      | .pinLow => s.unit.core.idleTurn s.unit.core.openTurn
    else .stays
  | .rtcDeviceHeartCheck =>
    -- the search runs on the list as the check has just marked it
    if aqDeviceEndunitOfflineFind (heartCheckMark s.unit.storage) then Warning.slaverOffline.turn s.unit.core
    else .stays
  | .timer .valveDelayClose => s.unit.core.idleTurn .closes
  | e =>
    match e.click s with
    | some true => keyOnTurn s.unit
    | some false => keyOffTurn s.unit
    | none => .stays

/-- The handler turns the motors so. -/
def Obeys (t : Turn) (u u' : MainUnit) : Prop := u'.core.drive = u.core.drive.turned t

/-! The operations. -/

section
variable {u u₁ : MainUnit} {t : Turn} {rx : RxFrame}

theorem valveClose_drive (c : Core) : (valveClose c).2.drive = c.drive.turned .closes := by
  unfold valveClose
  by_cases hv : c.valveValid = false
  · rw [if_pos hv]
    exact (@Drive.turned_closes_refused c.drive hv).symm
  · rw [if_neg hv]
    exact (@Drive.turned_closes c.drive (Bool.eq_true_of_not_eq_false hv)).symm

theorem valveOpen_drive (c : Core) : (valveOpen c).2.drive = c.drive.turned c.openTurn := by
  unfold valveOpen Core.openTurn
  by_cases hl : c.lockStatus = 1
  · rw [if_pos (Or.inl hl), if_pos hl, Drive.turned_stays]
  · rw [if_neg hl]
    by_cases hv : c.valveValid = false
    · rw [if_pos (Or.inr hv)]
      exact (@Drive.turned_opens_refused c.drive hv).symm
    · rw [if_neg fun h => h.elim hl hv]
      exact (@Drive.turned_opens c.drive (Bool.eq_true_of_not_eq_false hv)).symm

/-- Nothing of the motors is touched. -/
theorem Obeys.stays (h : u₁.core.drive = u.core.drive) : Obeys .stays u u₁ := h

theorem Obeys.upload (h : Obeys t u u₁) (msgAck : Bool) (msgType command : UInt8) (sendBuf : List UInt8) :
    Obeys t u (gatewayUpload msgAck msgType command sendBuf u₁) := by
  unfold Obeys
  rw [gatewayUpload_core]
  exact h

/-- What follows leaves the motors. -/
theorem Obeys.congr {u₂ : MainUnit} (h : Obeys t u u₁) (hd : u₂.core.drive = u₁.core.drive) : Obeys t u u₂ :=
  hd.trans h

/-- The calls, on the unit with its registry changed and its answer enqueued. -/
theorem Obeys.closes (hc : u₁.core.drive = u.core.drive) : Obeys .closes u (u₁.onCore fun c => (valveClose c).2) := by
  unfold Obeys
  rw [MainUnit.onCore_core, valveClose_drive, hc]

theorem Obeys.lockCloses (hc : u₁.core.drive = u.core.drive) :
    Obeys .closes u ((valveLock u₁).onCore fun c => (valveClose c).2) := by
  refine Obeys.closes ?_
  rw [valveLock_core]
  exact hc

/-- Unlocked, the valve opens. -/
theorem Obeys.unlockOpens (hc : u₁.core.drive = u.core.drive) :
    Obeys .opens u ((valveUnlock u₁).onCore fun c => (valveOpen c).2) := by
  have hlock : (valveUnlock u₁).core.lockStatus ≠ 1 := by
    rw [valveUnlock_core]
    dsimp only
    split
    · decide
    · assumption
  have hdrive : (valveUnlock u₁).core.drive = u.core.drive := by
    rw [valveUnlock_core]
    exact hc
  unfold Obeys
  rw [MainUnit.onCore_core, valveOpen_drive, Core.openTurn, if_neg hlock, hdrive]

theorem Obeys.idle (hi : u.core.deviceStatus.Idle) (h : Obeys t u u₁) : Obeys (u.core.idleTurn t) u u₁ := by
  rwa [Core.idleTurn, if_pos hi]

theorem Obeys.notIdle (hi : ¬ u.core.deviceStatus.Idle) (h : u₁.core.drive = u.core.drive) :
    Obeys (u.core.idleTurn t) u u₁ := by
  rw [Core.idleTurn, if_neg hi]
  exact .stays h

theorem callback_obeys (w : Warning) (hs : u₁.core.deviceStatus = u.core.deviceStatus)
    (hc : u₁.core.drive = u.core.drive) : Obeys (w.callbackTurn u.core) u (w.callback u₁) := by
  cases w with
  | slaverUltraLowPower => exact Obeys.lockCloses hc
  | masterLowTemp => exact Obeys.closes hc
  | masterSensorLeak =>
    refine Obeys.upload ?_ ..
    exact Obeys.closes hc
  | slaverSensorLeak =>
    change Obeys (if u.core.deviceStatus ≠ .slaverSensorLeak then .closes else .stays) u
      (slaverSensorLeakEventCallback u₁)
    rw [slaverSensorLeakEventCallback, hs]
    split
    · exact Obeys.lockCloses hc
    · exact hc
  | slaverOffline =>
    change Obeys (if u.core.deviceStatus ≠ .slaverOffline then .closes else .stays) u
      (slaverOfflineEventCallback u₁)
    rw [slaverOfflineEventCallback, hs]
    split
    · exact Obeys.closes hc
    · exact hc
  | slaverLowPower | slaverSensorLost => exact Obeys.stays hc
  | masterSensorLost | valveLeftFail | valveRightFail =>
    refine Obeys.upload ?_ ..
    exact Obeys.stays hc

theorem Obeys.warning (w : Warning) (hc : u₁.core = u.core) : Obeys (w.turn u.core) u (warningEnable w u₁) := by
  have hstatus : u₁.core.deviceStatus = u.core.deviceStatus := congrArg Core.deviceStatus hc
  have hdrive : u₁.core.drive = u.core.drive := congrArg Core.drive hc
  unfold warningEnable Warning.turn
  rw [hc]
  split
  · exact callback_obeys w hstatus hdrive
  · exact .stays hdrive

/-- A warning whose callback leaves the motors leaves them, dropped or not. -/
theorem Obeys.shown {w : Warning} (hw : w.callbackTurn u.core = .stays) (hc : u₁.core = u.core) :
    Obeys .stays u (warningEnable w u₁) := by
  have hturn : w.turn u.core = .stays := by rw [Warning.turn, hw, ite_self]
  have h := Obeys.warning w hc
  rwa [hturn] at h

/-! The frames of the nodes. -/

theorem endunitHeart_obeys {device : Device} (hd : aqDeviceFind rx.sourceAddr u.storage = some device) :
    Obeys (if rx.rxData 2 = 2 then Warning.slaverUltraLowPower.turn u.core else .stays) u
      (radioFrameEndunitParseHeart rx device u) := by
  rw [endunitHeart_eq]
  refine Obeys.upload ?_ ..
  unfold endunitHeartBefore
  dsimp only
  rw [MainUnit.onStorage_storage, show (radioEndunitCommandSend (replyFrame rx heartUploadCmd [] u) u).storage = u.storage
    from rfl, batterySet_deviceAt hd (rx.rxData 2)]
  by_cases hlow : rx.rxData 2 = 1
  · rw [if_pos hlow, hlow, if_neg (by decide)]
    exact Obeys.shown rfl rfl
  · rw [if_neg hlow]
    split
    · exact Obeys.warning .slaverUltraLowPower rfl
    · exact Obeys.stays rfl

/-- A guarded command, answered whether it is taken or not. -/
theorem endunitValve_obeys (device : Device) :
    Obeys (u.core.idleTurn (if rx.rxData 2 ≠ 0 then .opens else .closes)) u
      (radioFrameEndunitParseValve rx device u) := by
  unfold radioFrameEndunitParseValve
  dsimp only
  split
  · split
    · rename_i hi
      refine Obeys.upload (Obeys.idle hi ?_) ..
      exact Obeys.unlockOpens rfl
    · rename_i hi
      exact Obeys.notIdle hi rfl
  · split
    · -- a leak shows: at most the alarm ends
      rename_i hleak
      have hi : ¬ u.core.deviceStatus.Idle := fun hi => absurd (hi : u.core.deviceStatus.Idle) (by
        rw [show u.core.deviceStatus = .slaverSensorLeak from hleak]
        decide)
      split
      · exact Obeys.notIdle hi rfl
      · exact Obeys.notIdle hi rfl
    · split
      · rename_i hi
        refine Obeys.upload (Obeys.idle hi ?_) ..
        exact Obeys.lockCloses rfl
      · rename_i hi
        split
        · refine Obeys.upload (Obeys.notIdle hi ?_) ..
          rfl
        · exact Obeys.notIdle hi rfl

/-- The last leak taken back closes the valve once more. -/
theorem leakTakenBack_obeys (hc : u₁.core = u.core) :
    Obeys
      (if u.core.deviceStatus = .slaverSensorLeak ∧ aqDeviceWaterleakFind u₁.storage = false then .closes else .stays) u
      (if u₁.core.deviceStatus = .slaverSensorLeak then
        if aqDeviceWaterleakFind u₁.storage = false then u₁.onCore fun c => (valveClose (warningAllClear c)).2 else u₁
      else u₁) := by
  have hdrive : u₁.core.drive = u.core.drive := congrArg Core.drive hc
  rw [hc]
  by_cases hl : u.core.deviceStatus = .slaverSensorLeak
  · by_cases hfind : aqDeviceWaterleakFind u₁.storage = false
    · rw [if_pos ⟨hl, hfind⟩, if_pos hl, if_pos hfind]
      exact @Obeys.closes u (u₁.onCore warningAllClear) hdrive
    · rw [if_neg fun h => hfind h.2, if_pos hl, if_neg hfind]
      exact Obeys.stays hdrive
  · rw [if_neg fun h => hl h.1, if_neg hl]
    exact Obeys.stays hdrive

theorem endunitWarn_obeys {device : Device} (hid : device.deviceId = rx.sourceAddr) :
    Obeys
      (if rx.rxData 2 = 0 then
        if rx.rxData 3 ≠ 0 then Warning.slaverSensorLeak.turn u.core
        else if u.core.deviceStatus = .slaverSensorLeak ∧
            aqDeviceWaterleakFind (aqDeviceWaterleakSet rx.sourceAddr (rx.rxData 3) u.storage) = false then .closes
        else .stays
      else .stays) u
      (radioFrameEndunitParseWarn rx device u) := by
  unfold radioFrameEndunitParseWarn
  dsimp only
  rw [hid]
  split
  · refine Obeys.upload ?_ ..
    split
    · exact Obeys.warning .slaverSensorLeak rfl
    · exact leakTakenBack_obeys rfl
  · split
    · refine Obeys.upload ?_ ..
      split
      · exact Obeys.shown rfl rfl
      · split
        · split <;> exact Obeys.stays rfl
        · exact Obeys.stays rfl
    · exact Obeys.stays rfl

theorem doorunitValve_obeys (device : Device) :
    Obeys
      (if rx.rxData 2 = 0 then u.core.idleTurn .closes
      else if rx.rxData 2 = 1 then u.core.idleTurn .opens
      else .stays) u
      (radioFrameDoorunitParseValve rx device u) := by
  unfold radioFrameDoorunitParseValve
  dsimp only
  split
  · split
    · rename_i hi
      refine Obeys.upload (Obeys.idle hi ?_) ..
      exact Obeys.lockCloses rfl
    · rename_i hi
      split
      · refine Obeys.upload (Obeys.notIdle hi ?_) ..
        rfl
      · exact Obeys.notIdle hi rfl
  · split
    · split
      · rename_i hi
        refine Obeys.upload (Obeys.idle hi ?_) ..
        exact Obeys.unlockOpens rfl
      · rename_i hi
        exact Obeys.notIdle hi rfl
    · -- the delayed close only sets or stops its timer
      split
      · split
        · refine Obeys.upload ?_ ..
          exact Obeys.stays rfl
        · exact Obeys.stays rfl
      · split
        · refine Obeys.upload ?_ ..
          exact Obeys.stays rfl
        · exact Obeys.stays rfl

theorem motionControl_obeys (device : Device) :
    Obeys (u.core.idleTurn (if rx.rxData 2 ≠ 0 then .opens else .closes)) u
      (radioFrameMotionParseControl rx device u) := by
  unfold radioFrameMotionParseControl
  dsimp only
  split
  · split
    · rename_i hi
      refine Obeys.upload (Obeys.idle hi ?_) ..
      exact Obeys.unlockOpens rfl
    · rename_i hi
      exact Obeys.notIdle hi rfl
  · split
    · rename_i hi
      refine Obeys.upload (Obeys.idle hi ?_) ..
      exact Obeys.closes rfl
    · rename_i hi
      exact Obeys.notIdle hi rfl

theorem gatewayControl_obeys :
    Obeys
      (if rx.rxData 2 = 0 then u.core.idleTurn .closes
      else if rx.rxData 2 = 1 then u.core.idleTurn .opens
      else .stays) u
      (radioFrameGatewayParseControl rx u) := by
  unfold radioFrameGatewayParseControl
  dsimp only
  split
  · split
    · rename_i hi
      refine Obeys.upload (Obeys.idle hi ?_) ..
      exact Obeys.closes rfl
    · rename_i hi
      exact Obeys.notIdle hi rfl
  · split
    · split
      · rename_i hi
        refine Obeys.upload (Obeys.idle hi ?_) ..
        exact Obeys.unlockOpens rfl
      · rename_i hi
        exact Obeys.notIdle hi rfl
    · exact Obeys.stays rfl

theorem doorunitHeart_obeys (device : Device) : Obeys .stays u (radioFrameDoorunitParseHeart rx device u) := by
  unfold radioFrameDoorunitParseHeart
  dsimp only
  split
  · refine Obeys.upload ?_ ..
    exact Obeys.stays rfl
  · exact Obeys.stays rfl

/-! The learn parts leave the motors. -/

theorem connectStart_obeys : Obeys .stays u (gatewayConnectStart u) :=
  Obeys.stays (congrArg Core.drive (gatewayConnectStart_core u).1)

theorem startLearn_obeys : Obeys .stays u (radioStartLearnDevice u) := by
  unfold radioStartLearnDevice
  split
  · exact Obeys.stays rfl
  · split
    · exact connectStart_obeys
    · exact Obeys.stays rfl

theorem endunitLearn_obeys : Obeys .stays u (radioFrameEndunitParseLearn rx u) := by
  unfold radioFrameEndunitParseLearn
  split
  · exact Obeys.stays rfl
  · split
    · dsimp only
      split
      · split
        · exact Obeys.stays rfl
        · refine Obeys.upload ?_ ..
          exact Obeys.stays rfl
      · split
        · exact startLearn_obeys
        · exact Obeys.stays rfl
    · exact Obeys.stays rfl

theorem motionLearn_obeys : Obeys .stays u (radioFrameMotionParseLearn rx u) := by
  unfold radioFrameMotionParseLearn
  split
  · exact Obeys.stays rfl
  · split
    · dsimp only
      split
      · split
        · exact Obeys.stays rfl
        · refine Obeys.upload ?_ ..
          exact Obeys.stays rfl
      · exact Obeys.stays rfl
    · exact Obeys.stays rfl

theorem doorunitLearn_obeys : Obeys .stays u (radioFrameDoorunitParseLearn rx u) := by
  unfold radioFrameDoorunitParseLearn
  split
  · exact Obeys.stays rfl
  · split
    · dsimp only
      split
      · obtain ⟨ms, _, hdelete⟩ :=
          aqDoorunitDelete_eq (radioDoorunitCommandSend (replyFrame rx learnDeviceCmd [rx.rxData 2] u) u)
        rw [hdelete]
        split
        · exact Obeys.stays rfl
        · refine Obeys.upload ?_ ..
          exact Obeys.stays rfl
      · exact Obeys.stays rfl
    · exact Obeys.stays rfl

theorem gatewayLearn_obeys : Obeys .stays u (radioFrameGatewayParseLearn rx u) := by
  unfold radioFrameGatewayParseLearn
  split
  · exact Obeys.stays (congrArg Core.drive (radioGatewayCommandSend_core ..))
  · split
    · split
      · dsimp only
        split
        · exact Obeys.stays rfl
        · refine Obeys.stays ?_
          rw [gatewayLearnAddUpload, radioGatewayCommandSend_core]
          rfl
      · exact Obeys.stays rfl
    · exact Obeys.stays rfl

/-! Frames. -/

/-- What a served end unit calls. -/
theorem endunitServe_obeys {device : Device} (hd : aqDeviceFind rx.sourceAddr u.storage = some device) :
    Obeys (rx.endunitTurn u) u (endunitServe rx device u) := by
  have hid : device.deviceId = rx.sourceAddr := by simpa using List.find?_some hd
  unfold endunitServe RxFrame.endunitTurn
  split
  · exact endunitHeart_obeys hd
  · split
    · exact endunitValve_obeys device
    · by_cases hw : rx.rxData 0 = warningUploadCmd
      · have hwarn := @endunitWarn_obeys u rx device hid
        rw [if_pos hw]
        by_cases hsub : rx.rxData 2 = 0
        · rw [if_pos ⟨hw, hsub⟩]
          rwa [if_pos hsub] at hwarn
        · rw [if_neg fun h => hsub h.2]
          rwa [if_neg hsub] at hwarn
      · rw [if_neg fun h => hw h.1, if_neg hw]
        exact Obeys.stays rfl

theorem doorunitServe_obeys (device : Device) : Obeys (rx.subTurn u) u (doorunitServe rx device u) := by
  unfold RxFrame.subTurn doorunitServe
  by_cases hc : rx.rxData 0 = controlValveCmd
  · have hheart : rx.rxData 0 ≠ heartUploadCmd := by rw [hc]; decide
    rw [if_pos hc, if_neg hheart, if_pos hc]
    exact doorunitValve_obeys device
  · rw [if_neg hc, if_neg hc]
    split
    · exact doorunitHeart_obeys device
    · exact Obeys.stays rfl

theorem motionServe_obeys (device : Device) : Obeys (rx.motionTurn u) u (motionServe rx device u) := by
  unfold RxFrame.motionTurn motionServe
  by_cases hc : rx.rxData 0 = controlValveCmd
  · have hheart : rx.rxData 0 ≠ heartUploadCmd := by rw [hc]; decide
    rw [if_pos hc, if_neg hheart, if_pos hc]
    exact motionControl_obeys device
  · rw [if_neg hc, if_neg hc]
    split
    · refine Obeys.upload ?_ ..
      exact Obeys.stays rfl
    · exact Obeys.stays rfl

/-- A node's frame: a learn frame turns nothing, any other from a listed source to
this unit what serving it turns. -/
theorem nodeParse_obeys {learn heard : MainUnit → MainUnit} {serve : Device → MainUnit → MainUnit} {t : Turn}
    (hlearn : Obeys .stays u (learn u)) (hheard : ∀ v, (heard v).core.drive = v.core.drive)
    (hidle : ∀ device u, rx.rxData 0 = learnDeviceCmd → serve device u = u) (ht : rx.rxData 0 = learnDeviceCmd → t = .stays)
    (hserve : ∀ device, aqDeviceFind rx.sourceAddr u.storage = some device → Obeys t u (serve device u)) :
    Obeys (if rx.destAddr = getLocalAddress u ∧ Listed rx.sourceAddr u.storage then t else .stays) u
      (nodeParse rx learn serve heard u) := by
  by_cases hl : rx.rxData 0 = learnDeviceCmd
  · rw [ht hl, ite_self]
    refine nodeParse_learn (P := fun v => Obeys .stays u v) hl (fun device u => hidle device u hl) ?_ ?_
    · exact fun _ => hlearn
    · exact fun _ _ _ => hlearn.congr (hheard _)
  · unfold nodeParse
    simp only [if_neg hl]
    cases hd : aqDeviceFind rx.sourceAddr u.storage with
    | none =>
      rw [if_neg fun h => aqDeviceFind_eq_none.1 hd h.2]
      exact Obeys.stays rfl
    | some device =>
      have hlisted : Listed rx.sourceAddr u.storage := aqDeviceFind_isSome.1 (by rw [hd]; rfl)
      dsimp only
      by_cases hto : rx.destAddr = getLocalAddress u
      · rw [if_neg (not_not.2 hto), if_pos ⟨hto, hlisted⟩]
        exact (hserve device hd).congr (hheard _)
      · rw [if_pos hto, if_neg fun h => hto h.1]
        exact Obeys.stays rfl

theorem offlineCheck_drive (u : MainUnit) : (warningOfflineCheck u).core.drive = u.core.drive := by
  unfold warningOfflineCheck
  split
  · split <;> rfl
  · rfl

theorem motionParse_obeys (ht : rx.deviceType = deviceTypeMotionSensor) :
    Obeys (rx.turn u) u (radioFrameMotionParse rx u) := by
  have hturn : rx.typeTurn u = rx.motionTurn u := if_pos ht
  rw [motionParse_eq, RxFrame.turn, hturn]
  refine nodeParse_obeys motionLearn_obeys (fun _ => rfl) (fun device u hl => motionServe_learn hl device u) (fun hl => ?_)
    fun device _ => motionServe_obeys device
  rw [RxFrame.motionTurn, if_neg (by rw [hl]; decide)]

theorem endunitParse_obeys (ht : rx.deviceType = deviceTypeEndunit) :
    Obeys (rx.turn u) u (radioFrameEndunitParse rx u) := by
  have hturn : rx.typeTurn u = rx.endunitTurn u := by
    rw [RxFrame.typeTurn, if_neg (by rw [ht]; decide), if_pos ht]
  rw [endunitParse_eq, RxFrame.turn, hturn]
  refine nodeParse_obeys endunitLearn_obeys (fun _ => offlineCheck_drive _)
    (fun device u hl => endunitServe_learn hl device u) (fun hl => ?_) fun device hd => endunitServe_obeys hd
  rw [RxFrame.endunitTurn, if_neg (by rw [hl]; decide), if_neg (by rw [hl]; decide),
    if_neg fun h => absurd (hl.symm.trans h.1) (by decide)]

theorem subTurn_learn (hl : rx.rxData 0 = learnDeviceCmd) : rx.subTurn u = .stays := by
  rw [RxFrame.subTurn, if_neg (by rw [hl]; decide)]

theorem doorunitParse_obeys (ht : rx.deviceType = deviceTypeDoorunit) :
    Obeys (rx.turn u) u (radioFrameDoorunitParse rx u) := by
  have hturn : rx.typeTurn u = rx.subTurn u := by
    rw [RxFrame.typeTurn, if_neg (by rw [ht]; decide), if_neg (by rw [ht]; decide), if_pos ht]
  rw [doorunitParse_eq, RxFrame.turn, hturn]
  exact nodeParse_obeys doorunitLearn_obeys (fun _ => rfl) (fun device u hl => doorunitServe_learn hl device u)
    subTurn_learn fun device _ => doorunitServe_obeys device

theorem gatewaySync_drive : (radioFrameGatewayParseSync rx u).core.drive = u.core.drive := by
  unfold radioFrameGatewayParseSync gatewaySyncDeviceUpload
  dsimp only
  split
  · split
    · rw [gatewayUpload_core]
    · rfl
  · split <;> rfl

theorem typeTurn_gateway (ht : rx.deviceType = deviceTypeGateway) : rx.typeTurn u = rx.subTurn u := by
  rw [RxFrame.typeTurn, if_neg (by rw [ht]; decide), if_neg (by rw [ht]; decide), if_neg (by rw [ht]; decide), if_pos ht]

/-- A gateway's frame, but for the end of an update. -/
theorem gatewayParse_obeys {s : State} (ht : rx.deviceType = deviceTypeGateway) (hend : ¬ rx.OtaEnd s.unit) :
    Obeys (rx.turn s.unit) s.unit (radioFrameGatewayParse rx s).unit := by
  rw [RxFrame.turn, typeTurn_gateway ht]
  by_cases hfrom : rx.FromListed s.unit
  · rw [if_pos ⟨hfrom.toUnit, hfrom.listed⟩]
    by_cases hl : rx.rxData 0 = learnDeviceCmd
    · rw [gatewayParse_learn hfrom hl, subTurn_learn hl]
      exact gatewayLearn_obeys
    · obtain ⟨device, hd⟩ := Option.isSome_iff_exists.1 (aqDeviceFind_isSome.2 hfrom.listed)
      unfold radioFrameGatewayParse
      simp only [hd, if_neg hl, getLocalAddress, ne_eq, hfrom.toUnit, not_true_eq_false, if_false,
        Option.isNone_some, Bool.false_eq_true]
      unfold RxFrame.subTurn
      by_cases hc : rx.rxData 0 = controlValveCmd
      · rw [if_pos hc, if_pos hc]
        exact @gatewayControl_obeys (s.unit.onStorage (aqDeviceRecvSet rx.sourceAddr 1)) rx
      · rw [if_neg hc, if_neg hc]
        split
        · exact Obeys.stays gatewaySync_drive
        · split
          · exact Obeys.stays rfl
          · split
            · rename_i hf
              have hota : rx.rxData 2 ≠ 3 := fun h₃ =>
                hend ⟨ht, hf, h₃, hfrom.toUnit, aqDeviceFind_isSome.2 hfrom.listed⟩
              exact Obeys.stays (congrArg Core.drive (gatewayOta_quiet hota).2)
            · exact Obeys.stays rfl
  · rw [if_neg fun h => hfrom ⟨h.2, h.1⟩, gatewayParse_other hfrom]
    split
    · exact gatewayLearn_obeys
    · exact Obeys.stays rfl

theorem dispatch_obeys {s : State} (hend : ¬ rx.OtaEnd s.unit) :
    Obeys (rx.turn s.unit) s.unit (radioFrameDispatch rx s).unit := by
  unfold radioFrameDispatch
  split
  · rename_i ht
    exact motionParse_obeys ht
  · split
    · rename_i ht
      exact endunitParse_obeys ht
    · split
      · rename_i ht
        exact doorunitParse_obeys ht
      · split
        · rename_i ht
          exact gatewayParse_obeys ht hend
        · rename_i hm he hd hg
          have hturn : rx.turn s.unit = .stays := by
            rw [RxFrame.turn, RxFrame.typeTurn, if_neg hm, if_neg he, if_neg hd, if_neg hg, ite_self]
          rw [hturn]
          split
          · exact Obeys.stays (by rw [factoryParse_unit])
          · exact Obeys.stays rfl

/-! Keys, the dry contact and the timers. -/

theorem openAndReport_obeys (u : MainUnit) : Obeys u.core.openTurn u (openAndReport u) := by
  have hopen : Obeys u.core.openTurn u { u with core := (valveOpen u.core).2 } := valveOpen_drive u.core
  unfold openAndReport
  dsimp only
  split
  · exact hopen.upload ..
  · exact hopen

theorem closeAndReport_obeys (u : MainUnit) : Obeys .closes u (closeAndReport u) := by
  have hclose : Obeys .closes u { u with core := (valveClose u.core).2 } := valveClose_drive u.core
  unfold closeAndReport
  dsimp only
  split
  · exact hclose.upload ..
  · exact hclose

theorem keyOnClick_obeys (u : MainUnit) : Obeys (keyOnTurn u) u (keyOnClickHandle u) := by
  unfold keyOnTurn keyOnClickHandle
  cases u.core.deviceStatus with
  | valveClose | slaverSensorLost | masterSensorLost => exact openAndReport_obeys u
  | slaverLowPower =>
    dsimp only
    split
    · exact openAndReport_obeys u
    · exact Obeys.stays rfl
  | _ => exact Obeys.stays rfl

theorem keyOffClick_obeys (u : MainUnit) : Obeys (keyOffTurn u) u (keyOffClickHandle u) := by
  unfold keyOffTurn keyOffClickHandle
  cases u.core.deviceStatus with
  | valveOpen | masterSensorLost => exact closeAndReport_obeys u
  | slaverLowPower =>
    dsimp only
    split
    · exact closeAndReport_obeys u
    · exact Obeys.stays rfl
  | masterSensorAbnormal =>
    refine Obeys.upload ?_ ..
    exact Obeys.stays rfl
  | _ => exact Obeys.stays rfl

theorem dryContact_obeys (level : PinLevel) (u : MainUnit) :
    Obeys (match level with | .pinHigh => u.core.idleTurn .closes | .pinLow => u.core.idleTurn u.core.openTurn) u
      (valveDryContactControl level u) := by
  unfold valveDryContactControl
  cases level with
  | pinHigh =>
    dsimp only
    split
    · rename_i hi
      exact .idle hi (closeAndReport_obeys u)
    · rename_i hi
      exact .notIdle hi rfl
  | pinLow =>
    dsimp only
    split
    · rename_i hi
      exact .idle hi (openAndReport_obeys u)
    · rename_i hi
      exact .notIdle hi rfl

theorem delayClose_obeys (hc : u₁.core.drive = u.core.drive) (hs : u₁.core.deviceStatus = u.core.deviceStatus) :
    Obeys (u.core.idleTurn .closes) u (valveDelayCloseTimerCallback u₁) := by
  unfold valveDelayCloseTimerCallback
  rw [hs]
  split
  · rename_i hi
    refine Obeys.upload (Obeys.idle hi ?_) ..
    exact Obeys.lockCloses hc
  · rename_i hi
    exact .notIdle hi hc

theorem heartCheck_obeys (u : MainUnit) :
    Obeys
      (if aqDeviceEndunitOfflineFind (heartCheckMark u.storage) then Warning.slaverOffline.turn u.core else .stays) u
      (aqDeviceHeartCheck u) := by
  unfold Obeys
  rw [deviceHeartCheck_core]
  split
  · exact Obeys.warning .slaverOffline (offlineUpload_same _ _).1
  · rfl

theorem heartConnect_obeys (u : MainUnit) :
    Obeys .stays u (heartConnectTimerCallback (Timer.heartConnect.disarm u)) := by
  unfold heartConnectTimerCallback
  split
  · split
    · refine Obeys.stays ?_
      simp only [gatewayHeartUploadPoweron, gatewayUpload_core]
      rfl
    · exact Obeys.stays rfl
  · exact Obeys.stays rfl

theorem gatewayHeartCheck_obeys (u : MainUnit) : Obeys .stays u (gatewayHeartCheck u) := by
  unfold gatewayHeartCheck
  split
  · exact Obeys.stays rfl
  · split <;> exact Obeys.stays rfl

theorem heartUpload_obeys (u : MainUnit) : Obeys .stays u (heartThreadUpload u) := by
  unfold heartThreadUpload
  split
  · refine Obeys.upload ?_ ..
    exact Obeys.stays rfl
  · exact Obeys.stays rfl

end

/-! A check starts, and its stages end. -/

namespace Drive

def put (side : Side) (f : Motor → Motor) (d : Drive) : Drive :=
  { d with motor := Function.update d.motor side (f (d.motor side)) }

/-- The side has left the fully open position, or has not. -/
def turnedBack (side : Side) (passed : Bool) (d : Drive) : Drive :=
  if passed then
    d.put side fun m =>
      { m with turnBackTimer := false, controlPin := .pinLow, mbValveControlState := true, turnCheckTimer := true }
  else
    { d.put side fun m => { m with turnBackTimer := false, checkResult := true, mbValveCheckState := false } with
      valveValid := false }

/-- The side is fully open again, or is not. -/
def turnChecked (side : Side) (passed : Bool) (d : Drive) : Drive :=
  if passed then
    { d.put side fun m => { m with turnCheckTimer := false, mbValveCheckState := false, checkResult := false } with
      valveValid := if (d.motor side.other).checkResult = false then true else d.valveValid }
  else
    { d.put side fun m => { m with turnCheckTimer := false, mbValveCheckState := false, checkResult := true } with
      valveValid := false }

variable {d : Drive} {side s : Side} {f g : Motor → Motor}

theorem put_same : (d.put side f).motor side = f (d.motor side) := Function.update_self ..

theorem put_of_ne (h : s ≠ side) : (d.put side f).motor s = d.motor s := Function.update_of_ne h ..

theorem put_put : (d.put side f).put side g = d.put side fun m => g (f m) := by
  simp [put]

end Drive

section
variable {s : State} {u : MainUnit} {side : Side}

theorem setMotor_drive (side : Side) (f : Motor → Motor) (c : Core) : (c.setMotor side f).drive = c.drive.put side f :=
  rfl

theorem invalid_drive (c : Core) : { c with valveValid := false }.drive = { c.drive with valveValid := false } := rfl

theorem valveCheckStart_drive (fullyOpen : Side → PinLevel) {c : Core} (ho : c.valveStatus = .valveStatusOpen) :
    (valveCheckStart fullyOpen c).drive = c.drive.checked fullyOpen := by
  have hside : ∀ side level (c : Core), (valveCheckStartSide side level c).drive =
      if level = .pinLow then
        c.drive.put side fun m =>
          { m with
            turnCheckTimer := false, checkResult := false, mbValveCheckState := true,
            controlPin := .pinHigh, turnBackTimer := true }
      else c.drive := by
    intro side level c
    unfold valveCheckStartSide
    split <;> rfl
  unfold valveCheckStart
  rw [if_neg (by rw [ho]; decide), hside, hside]
  unfold Drive.checked
  refine Drive.ext ?_ ?_ (funext fun side => ?_)
  · split <;> split <;> rfl
  · split <;> split <;> rfl
  · cases side with
    | left =>
      dsimp only
      split
      · split
        · rw [Drive.put_of_ne (by decide), Drive.put_same]
        · rw [Drive.put_of_ne (by decide)]
      · split
        · rw [Drive.put_same]
        · rfl
    | right =>
      dsimp only
      split
      · split
        · rw [Drive.put_same, Drive.put_of_ne (by decide)]
        · rw [Drive.put_same]
      · split
        · rw [Drive.put_of_ne (by decide)]
        · rfl

theorem valveFail_drive (side : Side) (u : MainUnit) : (warningEnable side.failEvent u).core.drive = u.core.drive := by
  cases side with
  | left => exact @Obeys.shown u u .valveLeftFail rfl rfl
  | right => exact @Obeys.shown u u .valveRightFail rfl rfl

theorem turnBack_drive (side : Side) (u : MainUnit) :
    (turnBackTimerCallback side ((Timer.turnBack side).disarm u)).core.drive =
      u.core.drive.turnedBack side (u.env.fullyOpen side = .pinHigh) := by
  unfold turnBackTimerCallback Drive.turnedBack Timer.disarm
  dsimp only
  rw [MainUnit.onCore_env]
  by_cases hp : u.env.fullyOpen side = .pinHigh
  · rw [if_pos hp, if_pos (decide_eq_true hp), MainUnit.onCore_core, MainUnit.onCore_core, setMotor_drive, setMotor_drive,
      Drive.put_put]
  · rw [if_neg hp, if_neg (by simpa using hp), valveFail_drive, MainUnit.onCore_core, MainUnit.onCore_core, invalid_drive,
      setMotor_drive, setMotor_drive, Drive.put_put]

theorem turnCheck_drive (side : Side) (u : MainUnit) :
    (turnCheckTimerCallback side ((Timer.turnCheck side).disarm u)).core.drive =
      u.core.drive.turnChecked side (u.env.fullyOpen side = .pinLow) := by
  have hput : ∀ result, (((Timer.turnCheck side).disarm u).core.setMotor side fun m =>
      { m with mbValveCheckState := false, checkResult := result }).drive =
        u.core.drive.put side fun m =>
          { m with turnCheckTimer := false, mbValveCheckState := false, checkResult := result } := by
    intro result
    unfold Timer.disarm
    dsimp only
    rw [MainUnit.onCore_core, setMotor_drive, setMotor_drive, Drive.put_put]
  unfold Drive.turnChecked
  by_cases hp : u.env.fullyOpen side = .pinLow
  · have hother : ((Timer.turnCheck side).disarm u).core.motor side.other = u.core.drive.motor side.other := by
      unfold Timer.disarm
      dsimp only
      rw [MainUnit.onCore_core, Core.setMotor_motor, if_neg (other_ne side)]
      rfl
    rw [if_pos (decide_eq_true hp), @turnCheck_passed side ((Timer.turnCheck side).disarm u) hp, hother]
    split
    · have hvalid : ∀ (c : Core) (f : Motor → Motor),
          ((valvefailWarningDisable { c with valveValid := true }).setMotor side f).drive =
            { (c.setMotor side f).drive with valveValid := true } := by
        intro c f
        obtain h | ⟨h, _⟩ := valvefailWarningDisable_cases { c with valveValid := true } <;> rw [h]
        · rfl
        · rfl
      rw [hvalid, hput]
    · exact hput false
  · rw [if_neg (by simpa using hp), @turnCheck_failed side ((Timer.turnCheck side).disarm u) hp, valveFail_drive, MainUnit.onCore_core, invalid_drive, hput]

/-- After a reset the motors stand closed, with a leak on record or not. -/
theorem boot_drive (u : MainUnit) : u.boot.core.drive = {} := by
  unfold MainUnit.boot valveInit
  dsimp only
  rw [MainUnit.onStorage_core]
  split
  · exact @Obeys.warning _ _ .slaverSensorLeak rfl
  · rfl

end

/-! Every event. -/

/-- The events that run `valve_check_start`: the RTC job, the timer behind each
opening and the third long key. -/
def Event.StartsChecks (s : State) : Event → Prop
  | .rtcValveCheck => True
  | .timer .valveDetectOnce => True
  | .keyOnLongHold => ¬ s.key.keyOnCount < 4 ∧ s.key.keyOffCount = 0 ∧ s.key.keyOnLongClick = false
  | _ => False

/-- One event, as it finds the unit. A shut valve is not checked. -/
inductive DriveStep (s : State) (e : Event) (d' : Drive) : Prop
  | turned (hc : e.StartsChecks s → s.unit.core.valveStatus = .valveStatusClose)
      (h : d' = s.unit.core.drive.turned (e.turn s))
  | checked (hc : e.StartsChecks s) (ho : s.unit.core.valveStatus = .valveStatusOpen) (ht : e.turn s = .stays)
      (h : d' = s.unit.core.drive.checked s.unit.env.fullyOpen)
  | turnedBack (side : Side) (he : e = .timer (.turnBack side))
      (h : d' = s.unit.core.drive.turnedBack side (s.unit.env.fullyOpen side = .pinHigh))
  | turnChecked (side : Side) (he : e = .timer (.turnCheck side))
      (h : d' = s.unit.core.drive.turnChecked side (s.unit.env.fullyOpen side = .pinLow))
  | reset (hc : ¬ e.StartsChecks s) (ht : e.turn s = .stays) (h : d' = {})

section
variable {s : State} {e : Event} {d' : Drive}

/-- An event that cannot start a check turns the motors so. -/
theorem DriveStep.obeys {u' : MainUnit} (hc : ¬ e.StartsChecks s) (h : Obeys (e.turn s) s.unit u') :
    DriveStep s e u'.core.drive :=
  .turned (fun h => absurd h hc) h

theorem DriveStep.stays {u' : MainUnit} (hc : ¬ e.StartsChecks s) (ht : e.turn s = .stays) (h : Obeys .stays s.unit u') :
    DriveStep s e u'.core.drive := by
  refine .obeys hc ?_
  rwa [ht]

theorem checkStart_step {c : Core} (hc : e.StartsChecks s) (ht : e.turn s = .stays) (hd : c.drive = s.unit.core.drive) :
    DriveStep s e (valveCheckStart s.unit.env.fullyOpen c).drive := by
  have hstatus : c.valveStatus = s.unit.core.valveStatus := congrArg Drive.valveStatus hd
  cases hv : s.unit.core.valveStatus with
  | valveStatusClose =>
    refine .turned (fun _ => hv) ?_
    rw [ht, Drive.turned_stays, ← hd, valveCheckStart, if_pos (hstatus.trans hv)]
  | valveStatusOpen =>
    refine .checked hc hv ht ?_
    rw [valveCheckStart_drive _ (hstatus.trans hv), hd]

theorem otaEnd_turn {rx : RxFrame} {u : MainUnit} (h : rx.OtaEnd u) : rx.turn u = .stays := by
  have hcommand : rx.rxData 0 = firmwareUpdateCmd := h.command
  have hsub : rx.subTurn u = .stays := if_neg (by rw [hcommand]; decide)
  rw [RxFrame.turn, typeTurn_gateway h.deviceType, hsub, ite_self]

theorem drive_radio (rssi snr : Int) (data : Nat → UInt8) (len : Nat) (s : State) :
    DriveStep s (.radio rssi snr data len) (Event.handle (.radio rssi snr data len) s).unit.core.drive := by
  rw [Event.handle, radioProtocolParse_eq]
  by_cases ha : radioAccepted s.unit.cfg data len
  · have hturn : Event.turn s (.radio rssi snr data len) = (rxFrameOf s.unit.env.stackSnr rssi data len).turn s.unit :=
      if_pos ha
    rw [if_pos ha]
    by_cases hend : (rxFrameOf s.unit.env.stackSnr rssi data len).OtaEnd s.unit
    · -- the unit starts the new firmware
      obtain ⟨u, hu⟩ := otaEnd_boot hend
      refine .reset id (hturn.trans (otaEnd_turn hend)) ?_
      rw [hu, boot_drive]
    · refine .obeys id ?_
      rw [hturn]
      exact dispatch_obeys hend
  · rw [if_neg ha]
    exact .stays id (if_neg ha) rfl

/-- Both keys held reset the unit, or do nothing. -/
theorem drive_longClick (hc : ¬ e.StartsChecks s) (ht : e.turn s = .stays) :
    DriveStep s e (keyOnOffLongClickHandle s).unit.core.drive := by
  unfold keyOnOffLongClickHandle
  split
  · split
    · exact .reset hc ht (boot_drive _)
    · exact .stays hc ht rfl
  · exact .stays hc ht rfl

theorem drive_keyOnLongHold (s : State) : DriveStep s .keyOnLongHold (keyOnLongHoldHandle s).unit.core.drive := by
  unfold keyOnLongHoldHandle
  split
  · rename_i hcount
    exact .stays (fun h => h.1 hcount) rfl rfl
  · rename_i hcount
    split
    · rename_i hoff
      exact drive_longClick (fun h => hoff h.2.1) rfl
    · rename_i hoff
      split
      · rename_i hlong
        exact checkStart_step ⟨hcount, not_not.1 hoff, hlong⟩ rfl rfl
      · rename_i hlong
        exact .stays (fun h => hlong h.2.2) rfl rfl

theorem drive_keyOffLongHold (s : State) : DriveStep s .keyOffLongHold (keyOffLongHoldHandle s).unit.core.drive := by
  unfold keyOffLongHoldHandle
  split
  · exact .stays id rfl rfl
  · split
    · exact drive_longClick id rfl
    · split
      · exact .stays id rfl startLearn_obeys
      · exact .stays id rfl rfl

theorem drive_click (hc : ¬ e.StartsChecks s)
    (ht : e.turn s = match e.click s with
      | some true => keyOnTurn s.unit | some false => keyOffTurn s.unit | none => .stays)
    (hno : e.click s = none → (e.handle s).unit = s.unit) : DriveStep s e (e.handle s).unit.core.drive := by
  refine .obeys hc ?_
  rw [ht]
  cases hclick : e.click s with
  | none =>
    rw [hno hclick]
    exact Obeys.stays rfl
  | some on =>
    rw [Event.handle_click hclick]
    cases on with
    | true => exact keyOnClick_obeys _
    | false => exact keyOffClick_obeys _

theorem drive_dryContact (level : PinLevel) (s : State) :
    DriveStep s (.dryContact level) (dryContactPollingTimerCallback level s).unit.core.drive := by
  refine .obeys id ?_
  unfold dryContactPollingTimerCallback
  by_cases hl : s.dry.dryContactValveInputLevel ≠ some level
  · have hturn : Event.turn s (.dryContact level) = _ := if_pos hl
    rw [if_pos hl, hturn]
    exact dryContact_obeys level s.unit
  · have hturn : Event.turn s (.dryContact level) = .stays := if_neg hl
    rw [if_neg hl, hturn]
    exact Obeys.stays rfl

theorem drive_timer (t : Timer) (s : State) : DriveStep s (.timer t) (t.callback (t.disarm s.unit)).core.drive := by
  cases t with
  | radioLearn =>
    refine .stays id rfl (Obeys.stays ?_)
    change (radioLearnTimerCallback _).core.drive = _
    unfold radioLearnTimerCallback
    rw [(gatewayConnectStart_core _).1]
    rfl
  | valveDelayClose => exact .obeys id (delayClose_obeys rfl rfl)
  | valveDetectOnce => exact checkStart_step trivial rfl rfl
  | turnBack side => exact .turnedBack side rfl (turnBack_drive side s.unit)
  | turnCheck side => exact .turnChecked side rfl (turnCheck_drive side s.unit)
  | heartConnect => exact .stays id rfl (heartConnect_obeys s.unit)

end

/-- What one event does to the motors. -/
theorem drive_handle (e : Event) (s : State) : DriveStep s e (e.handle s).unit.core.drive := by
  cases e with
  | radio rssi snr data len => exact drive_radio rssi snr data len s
  | keyOnClick => exact drive_click id rfl fun h => absurd h (by simp [Event.click])
  | keyOffClick => exact drive_click id rfl fun h => absurd h (by simp [Event.click])
  | modbusCoils reg usAddress usNCoils =>
    refine drive_click id rfl fun hno => ?_
    exact @Event.handle_write s _ reg reg usAddress usNCoils usAddress usNCoils (Or.inl rfl) hno
  | modbusHolding reg usAddress usNRegs =>
    refine drive_click id rfl fun hno => ?_
    exact @Event.handle_write s _ reg reg usAddress usNRegs usAddress usNRegs (Or.inr rfl) hno
  | keyOnLongHold => exact drive_keyOnLongHold s
  | keyOffLongHold => exact drive_keyOffLongHold s
  | keyOnLongFree | keyOffLongFree | rfAckInit => exact .stays id rfl (Obeys.stays rfl)
  | dryContact level => exact drive_dryContact level s
  | rtcValveCheck => exact checkStart_step trivial rfl rfl
  | rtcDeviceHeartCheck => exact .obeys id (heartCheck_obeys s.unit)
  | rtcGatewayHeartCheck => exact .stays id rfl (gatewayHeartCheck_obeys s.unit)
  | heartConnectStart => exact .stays id rfl connectStart_obeys
  | heartUpload => exact .stays id rfl (heartUpload_obeys s.unit)
  | timer t => exact drive_timer t s
  | reboot => exact .reset id rfl (boot_drive _)

end Aqualarm
