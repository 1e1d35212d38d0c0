import Aqualarm.RecordRuns

/-
  What the handlers of received frames do to the alarm, the lock and the valve,
  as functions of these variables alone.

  What is proved, with one lemma for each handler (`*_runs`): its function, and
  that it writes the stored lock only together with `lock_status`.
-/

namespace Aqualarm

theorem DeviceStatus.Idle.ne_offline {d : DeviceStatus} (h : d.Idle) : d ≠ .slaverOffline := by
  rcases h with rfl | rfl | rfl <;> decide

/-! The variables. -/

@[ext] structure Controls where
  deviceStatus : DeviceStatus
  nowEvent : NowEvent
  allowAddDevice : Bool
  valveStatus : ValveStatus
  lockStatus : UInt8
  valveValid : Bool
  deriving DecidableEq

def Core.controls (c : Core) : Controls :=
  { deviceStatus := c.deviceStatus, nowEvent := c.nowEvent, allowAddDevice := c.allowAddDevice
    valveStatus := c.valveStatus, lockStatus := c.lockStatus, valveValid := c.valveValid }

namespace Controls

def opened (v : Controls) : Controls :=
  if v.lockStatus = 1 ∨ v.valveValid = false then v
  else { v with deviceStatus := .valveOpen, valveStatus := .valveStatusOpen }

def closed (v : Controls) : Controls :=
  if v.valveValid = false then { v with valveStatus := .valveStatusClose }
  else { v with deviceStatus := .valveClose, valveStatus := .valveStatusClose }

def locked (v : Controls) : Controls :=
  { v with lockStatus := if v.lockStatus = 0 then 1 else v.lockStatus }

def unlocked (v : Controls) : Controls :=
  { v with lockStatus := if v.lockStatus = 1 then 0 else v.lockStatus }

def cleared (v : Controls) : Controls :=
  { v with deviceStatus := v.valveStatus.toDeviceStatus, nowEvent := {} }

/-- An accepted warning does `act` and shows its status. -/
def shown (w : Warning) (act : Controls → Controls) (v : Controls) : Controls :=
  { act v with
    deviceStatus := w.status
    nowEvent := { lastId := w.warningId, priority := w.priority, callback := some w } }

def warned (w : Warning) (act : Controls → Controls) (v : Controls) : Controls :=
  if v.nowEvent.priority ≤ w.priority then v.shown w act else v

/-- While the alarm shows and no device is found to cause it, `act`. -/
def ended (alarm : DeviceStatus) (found : Bool) (act : Controls → Controls) (v : Controls) : Controls :=
  if v.deviceStatus = alarm then if found = false then act v else v else v

def toggled (v : Controls) : Controls :=
  if v.deviceStatus.Idle then { v with deviceStatus := .learnDevice, allowAddDevice := true }
  else if v.deviceStatus = .learnDevice then cleared { v with allowAddDevice := false }
  else v

/-! The commands. `leak` and `lost` are what is then found in the list. -/

def openIdle (v : Controls) : Controls := if v.deviceStatus.Idle then v.unlocked.opened else v

def lockIdle (v : Controls) : Controls := if v.deviceStatus.Idle then v.locked.closed else v

def closeIdle (v : Controls) : Controls := if v.deviceStatus.Idle then v.closed else v

def endunitHeart (battery : UInt8) (v : Controls) : Controls :=
  if battery = 1 then v.warned .slaverLowPower id
  else if battery = 2 then v.warned .slaverUltraLowPower fun v => v.locked.closed
  else v

def endunitValve (value : UInt8) (leak : Bool) (v : Controls) : Controls :=
  if value ≠ 0 then v.openIdle
  else if v.deviceStatus = .slaverSensorLeak then if leak = false then v.cleared else v
  else v.lockIdle

def endunitWarn (sub value : UInt8) (leak lost : Bool) (v : Controls) : Controls :=
  if sub = 0 then
    if value ≠ 0 then
      v.warned .slaverSensorLeak fun v => if v.deviceStatus = .slaverSensorLeak then v else v.locked.closed
    else v.ended .slaverSensorLeak leak fun v => v.cleared.closed
  else if sub = 1 then
    if value ≠ 0 then v.warned .slaverSensorLost id else v.ended .slaverSensorLost lost cleared
  else v

def doorunitValve (sub : UInt8) (v : Controls) : Controls :=
  if sub = 0 then v.lockIdle else if sub = 1 then v.openIdle else v

def motionControl (value : UInt8) (v : Controls) : Controls := if value ≠ 0 then v.openIdle else v.closeIdle

def gatewayControl (sub : UInt8) (v : Controls) : Controls :=
  if sub = 0 then v.closeIdle else if sub = 1 then v.openIdle else v

/-- The offline check behind every frame of an end unit. -/
def heard (offline : Bool) : Controls → Controls := ended .slaverOffline offline cleared

end Controls

/-! Each operation of the source is its function. -/

section
variable (c : Core) (u : MainUnit)

@[simp] theorem valveOpen_controls : (valveOpen c).2.controls = c.controls.opened := by
  unfold valveOpen Controls.opened
  by_cases h : c.lockStatus = 1 ∨ c.valveValid = false
  · rw [if_pos h, if_pos (show c.controls.lockStatus = 1 ∨ c.controls.valveValid = false from h)]
  · rw [if_neg h, if_neg (show ¬ (c.controls.lockStatus = 1 ∨ c.controls.valveValid = false) from h)]
    rfl

@[simp] theorem valveClose_controls : (valveClose c).2.controls = c.controls.closed := by
  unfold valveClose Controls.closed
  by_cases h : c.valveValid = false
  · rw [if_pos h, if_pos (show c.controls.valveValid = false from h)]
    rfl
  · rw [if_neg h, if_neg (show ¬ c.controls.valveValid = false from h)]
    rfl

@[simp] theorem valveLock_controls : (valveLock u).core.controls = u.core.controls.locked := by
  rw [valveLock_core]
  rfl

@[simp] theorem valveUnlock_controls : (valveUnlock u).core.controls = u.core.controls.unlocked := by
  rw [valveUnlock_core]
  rfl

theorem warningOfflineCheck_controls :
    (warningOfflineCheck u).core.controls = u.core.controls.heard (aqDeviceEndunitOfflineFind u.storage) := by
  unfold warningOfflineCheck Controls.heard Controls.ended
  by_cases h : u.core.deviceStatus = .slaverOffline
  · rw [if_pos h, if_pos (show u.core.controls.deviceStatus = .slaverOffline from h)]
    split <;> rfl
  · rw [if_neg h, if_neg (show ¬ u.core.controls.deviceStatus = .slaverOffline from h)]

/-- The callbacks a frame can bring about. -/
theorem warningEnable_controls {w : Warning} {act : Controls → Controls}
    (h : ∀ u : MainUnit, (w.callback u).core.controls = { act u.core.controls with deviceStatus := w.status })
    (hact : ∀ (v : Controls) (n : NowEvent), act { v with nowEvent := n } = { act v with nowEvent := n }) :
    (warningEnable w u).core.controls = u.core.controls.warned w act := by
  unfold warningEnable Controls.warned
  by_cases hp : w.priority ≥ u.core.nowEvent.priority
  · rw [if_pos hp, if_pos (show u.core.controls.nowEvent.priority ≤ w.priority from hp), h]
    exact congrArg (fun v : Controls => { v with deviceStatus := w.status }) (hact u.core.controls _)
  · rw [if_neg hp, if_neg (show ¬ u.core.controls.nowEvent.priority ≤ w.priority from hp)]

theorem lowPower_controls :
    (warningEnable .slaverLowPower u).core.controls = u.core.controls.warned .slaverLowPower id :=
  warningEnable_controls u (fun _ => rfl) fun _ _ => rfl

theorem sensorLost_controls :
    (warningEnable .slaverSensorLost u).core.controls = u.core.controls.warned .slaverSensorLost id :=
  warningEnable_controls u (fun _ => rfl) fun _ _ => rfl

theorem lockClose_nowEvent (v : Controls) (n : NowEvent) :
    { v with nowEvent := n }.locked.closed = { v.locked.closed with nowEvent := n } := by
  unfold Controls.locked Controls.closed
  dsimp only
  split <;> rfl

theorem ultraLowPower_controls :
    (warningEnable .slaverUltraLowPower u).core.controls =
      u.core.controls.warned .slaverUltraLowPower fun v => v.locked.closed := by
  refine warningEnable_controls u (fun u => ?_) lockClose_nowEvent
  rw [← valveLock_controls, ← valveClose_controls]
  rfl

theorem sensorLeak_controls :
    (warningEnable .slaverSensorLeak u).core.controls =
      u.core.controls.warned .slaverSensorLeak
        fun v => if v.deviceStatus = .slaverSensorLeak then v else v.locked.closed := by
  refine warningEnable_controls u (fun u => ?_) fun v n => ?_
  · unfold Warning.callback slaverSensorLeakEventCallback
    dsimp only
    by_cases h : u.core.deviceStatus = .slaverSensorLeak
    · rw [if_neg (not_not.2 h), if_pos (show u.core.controls.deviceStatus = .slaverSensorLeak from h)]
      exact Controls.ext h rfl rfl rfl rfl rfl
    · rw [if_pos h, if_neg (show ¬ u.core.controls.deviceStatus = .slaverSensorLeak from h),
        ← valveLock_controls, ← valveClose_controls]
      rfl
  · dsimp only
    split
    · rfl
    · exact lockClose_nowEvent v n

end

/-! The stored lock is written together with `lock_status`. -/

/-- Nothing is written; or the stored lock is, and `lock_status` changes. -/
def LockTied (u u' : MainUnit) : Prop :=
  u'.storage = u.storage ∨ u'.core.lockStatus ≠ u.core.lockStatus ∧
    ∃ value, u'.storage = flashSetKey .valveLock value u.storage

section
variable {u u₁ u₂ : MainUnit} {rx : RxFrame}

theorem LockTied.refl (u : MainUnit) : LockTied u u := Or.inl rfl

/-- What follows changes neither the storage nor `lock_status`. -/
theorem LockTied.congr (h : LockTied u u₁) (hs : u₂.storage = u₁.storage)
    (hl : u₂.core.lockStatus = u₁.core.lockStatus) : LockTied u u₂ := by
  obtain h | ⟨hne, value, h⟩ := h
  · exact Or.inl (hs.trans h)
  · exact Or.inr ⟨by rwa [hl], value, hs.trans h⟩

theorem LockTied.written (h : LockTied u u₁) : LockWritten u.storage u₁.storage :=
  h.imp id fun h => h.2

/-- With `lock_status` as it was, nothing is written. -/
theorem LockTied.storage (h : LockTied u u₁) (hl : u₁.core.lockStatus = u.core.lockStatus) : u₁.storage = u.storage :=
  h.resolve_right fun hne => hne.1 hl

theorem valveLock_tied (u : MainUnit) : LockTied u (valveLock u) := by
  unfold valveLock
  split
  · rename_i h
    refine Or.inr ⟨?_, 1, rfl⟩
    change (1 : UInt8) ≠ u.core.lockStatus
    rw [h]
    decide
  · exact .refl u

theorem valveUnlock_tied (u : MainUnit) : LockTied u (valveUnlock u) := by
  unfold valveUnlock
  split
  · rename_i h
    refine Or.inr ⟨?_, 0, rfl⟩
    change (0 : UInt8) ≠ u.core.lockStatus
    rw [h]
    decide
  · exact .refl u

theorem warningEnable_tied (w : Warning) (u : MainUnit) : LockTied u (warningEnable w u) := by
  obtain ⟨_, h⟩ | ⟨_, hr⟩ := warningEnable_cases w u
  · rw [h]
    exact .refl u
  · generalize warningEnable w u = u' at hr
    cases hr with
    | shown _ hs => exact Or.inl hs
    | closed u₁ h₁ hc hs =>
      have htied : LockTied u u₁ := by
        rcases h₁ with rfl | rfl
        · exact .refl u
        · exact valveLock_tied _
      exact htied.congr hs (by rw [hc, valveClose_lockStatus])
    | already h => exact Or.inl (by rw [h]; rfl)

/-! The handlers. -/

/-- The unit once the operations have changed its registry. -/
def MainUnit.after (ops : List RegOp) (u : MainUnit) : MainUnit :=
  u.onStorage fun st => ops.foldl (fun st op => op.apply st) st

theorem gatewayUpload_controls (msgAck : Bool) (msgType command : UInt8) (sendBuf : List UInt8) (u : MainUnit) :
    (gatewayUpload msgAck msgType command sendBuf u).core.controls = u.core.controls := by
  rw [gatewayUpload_core]

theorem LockTied.upload (h : LockTied u u₁) (msgAck : Bool) (msgType command : UInt8) (sendBuf : List UInt8) :
    LockTied u (gatewayUpload msgAck msgType command sendBuf u₁) :=
  h.congr (gatewayUpload_storage ..) (by rw [gatewayUpload_core])

theorem openIdle_tied (hs : u₁.storage = u.storage) (hl : u₁.core.lockStatus = u.core.lockStatus) :
    LockTied u ((valveUnlock u₁).onCore fun c => (valveOpen c).2) := by
  have htied : LockTied u (valveUnlock u₁) := by
    obtain h | ⟨hne, value, h⟩ := valveUnlock_tied u₁
    · exact Or.inl (h.trans hs)
    · exact Or.inr ⟨hl ▸ hne, value, by rw [h, hs]⟩
  exact htied.congr rfl (by rw [MainUnit.onCore_core, valveOpen_lockStatus])

theorem lockIdle_tied (hs : u₁.storage = u.storage) (hl : u₁.core.lockStatus = u.core.lockStatus) :
    LockTied u ((valveLock u₁).onCore fun c => (valveClose c).2) := by
  have htied : LockTied u (valveLock u₁) := by
    obtain h | ⟨hne, value, h⟩ := valveLock_tied u₁
    · exact Or.inl (h.trans hs)
    · exact Or.inr ⟨hl ▸ hne, value, by rw [h, hs]⟩
  exact htied.congr rfl (by rw [MainUnit.onCore_core, valveClose_lockStatus])

/-- A handler: what it does to the registry, what to the controls, and the stored
lock with `lock_status`. -/
structure Runs (ops : List RegOp) (f : Controls → Controls) (u u' : MainUnit) : Prop where
  controls : u'.core.controls = f u.core.controls
  tied : LockTied (u.after ops) u'

theorem Runs.upload {ops : List RegOp} {f : Controls → Controls} (h : Runs ops f u u₁)
    (msgAck : Bool) (msgType command : UInt8) (sendBuf : List UInt8) :
    Runs ops f u (gatewayUpload msgAck msgType command sendBuf u₁) :=
  ⟨(gatewayUpload_controls ..).trans h.controls, h.tied.upload ..⟩

/-- A handler that does nothing but change the registry. -/
theorem Runs.silent {ops : List RegOp} (hs : u₁.storage = (u.after ops).storage) (hc : u₁.core = u.core) :
    Runs ops id u u₁ := ⟨by rw [hc]; rfl, Or.inl hs⟩

section
variable {ops : List RegOp}

/-- The guarded open, lock-and-close and close that several handlers share: `u₁`
is the unit with the registry changed and the answer enqueued. -/
theorem Runs.openIdle (hs : u₁.storage = (u.after ops).storage) (hc : u₁.core = u.core)
    (h : u.core.deviceStatus.Idle) :
    Runs ops Controls.openIdle u ((valveUnlock u₁).onCore fun c => (valveOpen c).2) := by
  refine ⟨?_, openIdle_tied hs (by rw [hc]; rfl)⟩
  rw [MainUnit.onCore_core, valveOpen_controls, valveUnlock_controls, hc]
  exact (if_pos h).symm

theorem Runs.lockIdle (hs : u₁.storage = (u.after ops).storage) (hc : u₁.core = u.core)
    (h : u.core.deviceStatus.Idle) :
    Runs ops Controls.lockIdle u ((valveLock u₁).onCore fun c => (valveClose c).2) := by
  refine ⟨?_, lockIdle_tied hs (by rw [hc]; rfl)⟩
  rw [MainUnit.onCore_core, valveClose_controls, valveLock_controls, hc]
  exact (if_pos h).symm

theorem Runs.closeIdle (hs : u₁.storage = (u.after ops).storage) (hc : u₁.core = u.core)
    (h : u.core.deviceStatus.Idle) : Runs ops Controls.closeIdle u (u₁.onCore fun c => (valveClose c).2) := by
  refine ⟨?_, Or.inl hs⟩
  rw [MainUnit.onCore_core, valveClose_controls, hc]
  exact (if_pos h).symm

/-- Outside the idle states none of the three does anything. -/
theorem Runs.refused {f : Controls → Controls} (hs : u₁.storage = (u.after ops).storage)
    (hc : u₁.core.controls = u.core.controls) (h : f u.core.controls = u.core.controls) : Runs ops f u u₁ :=
  ⟨hc.trans h.symm, Or.inl hs⟩

theorem Runs.congr {f g : Controls → Controls} (h : Runs ops f u u₁) (hfg : g u.core.controls = f u.core.controls) :
    Runs ops g u u₁ := ⟨h.controls.trans hfg.symm, h.tied⟩

end

theorem Runs.warning {ops : List RegOp} {w : Warning} {f : Controls → Controls}
    (hs : u₁.storage = (u.after ops).storage) (hc : u₁.core = u.core)
    (hw : ∀ u : MainUnit, (warningEnable w u).core.controls = f u.core.controls) :
    Runs ops f u (warningEnable w u₁) := by
  refine ⟨by rw [hw, hc], ?_⟩
  obtain h | ⟨hne, value, h⟩ := warningEnable_tied w u₁
  · exact Or.inl (h.trans hs)
  · exact Or.inr ⟨by rw [hc] at hne; exact hne, value, by rw [h, hs]⟩

theorem endunitHeart_runs {device : Device} (hd : aqDeviceFind rx.sourceAddr u.storage = some device) :
    Runs [.batterySet rx.sourceAddr (rx.rxData 2)] (Controls.endunitHeart (rx.rxData 2)) u
      (radioFrameEndunitParseHeart rx device u) := by
  have hid : device.deviceId = rx.sourceAddr := by simpa using List.find?_some hd
  rw [endunitHeart_eq]
  refine Runs.upload ?_ ..
  unfold endunitHeartBefore Controls.endunitHeart
  dsimp only
  rw [MainUnit.onStorage_storage, show (radioEndunitCommandSend (replyFrame rx heartUploadCmd [] u) u).storage = u.storage
    from rfl, batterySet_deviceAt hd (rx.rxData 2), hid]
  split
  · exact .warning rfl rfl lowPower_controls
  · split
    · exact .warning rfl rfl ultraLowPower_controls
    · exact .silent rfl rfl

theorem endunitValve_runs {device : Device} (hid : device.deviceId = rx.sourceAddr)
    (ht : rx.deviceType = deviceTypeEndunit) :
    Runs (assignOps rx)
      (Controls.endunitValve (rx.rxData 2) (aqDeviceWaterleakFind (u.after (assignOps rx)).storage)) u
      (radioFrameEndunitParseValve rx device u) := by
  unfold radioFrameEndunitParseValve assignOps
  dsimp only
  rw [hid]
  by_cases hv : rx.rxData 2 = 0
  · rw [if_neg (not_not.2 hv), if_pos ⟨ht, hv⟩]
    generalize hleak : aqDeviceWaterleakFind (u.after _).storage = leak
    have hclose : ∀ v, Controls.endunitValve (rx.rxData 2) leak v =
        if v.deviceStatus = .slaverSensorLeak then if leak = false then v.cleared else v else v.lockIdle :=
      fun v => if_neg (not_not.2 hv)
    split
    · rename_i hl
      have hl : u.core.controls.deviceStatus = .slaverSensorLeak := hl
      split
      · rename_i hfind
        exact ⟨by rw [hclose, if_pos hl, if_pos (hleak.symm.trans hfind)]; rfl, Or.inl rfl⟩
      · rename_i hfind
        exact .refused rfl rfl (by rw [hclose, if_pos hl, if_neg fun h => hfind (hleak.trans h)])
    · rename_i hl
      have hlock : Controls.endunitValve (rx.rxData 2) leak u.core.controls = u.core.controls.lockIdle := by
        rw [hclose]
        exact if_neg hl
      split
      · rename_i hi
        refine Runs.congr (Runs.upload ?_ ..) hlock
        exact .lockIdle rfl rfl hi
      · rename_i hi
        split
        · refine Runs.upload ?_ ..
          exact .refused rfl rfl (hlock.trans (if_neg hi))
        · exact .refused rfl rfl (hlock.trans (if_neg hi))
  · rw [if_pos hv, if_neg fun h => hv h.2]
    have hopen : Controls.endunitValve (rx.rxData 2)
        (aqDeviceWaterleakFind (u.after [.rssiLevelWrite rx.sourceAddr rx.rssiLevel]).storage) u.core.controls =
        u.core.controls.openIdle := if_pos hv
    split
    · rename_i hi
      refine Runs.congr (Runs.upload ?_ ..) hopen
      exact .openIdle rfl rfl hi
    · rename_i hi
      exact .refused rfl rfl (hopen.trans (if_neg hi))

/-- What a warning sets in the list. -/
def warnOps (rx : RxFrame) : List RegOp :=
  if rx.rxData 2 = 0 then [.waterleakSet rx.sourceAddr (rx.rxData 3)]
  else if rx.rxData 2 = 1 then [.wirelostSet rx.sourceAddr (rx.rxData 3)]
  else []

theorem endunitWarn_runs {device : Device} (hid : device.deviceId = rx.sourceAddr) :
    Runs (warnOps rx)
      (Controls.endunitWarn (rx.rxData 2) (rx.rxData 3) (aqDeviceWaterleakFind (u.after (warnOps rx)).storage)
        (aqDeviceWirelostFind (u.after (warnOps rx)).storage)) u
      (radioFrameEndunitParseWarn rx device u) := by
  unfold radioFrameEndunitParseWarn warnOps
  dsimp only
  rw [hid]
  by_cases hs : rx.rxData 2 = 0
  · rw [if_pos hs, if_pos hs, hs]
    generalize hleak : aqDeviceWaterleakFind (u.after _).storage = leak
    generalize aqDeviceWirelostFind _ = lost
    refine Runs.upload ?_ ..
    split
    · rename_i hv
      exact Runs.congr (.warning rfl rfl sensorLeak_controls) (if_pos hv)
    · rename_i hv
      have hoff : Controls.endunitWarn 0 (rx.rxData 3) leak lost u.core.controls =
          if u.core.controls.deviceStatus = .slaverSensorLeak then
            if leak = false then u.core.controls.cleared.closed else u.core.controls
          else u.core.controls := if_neg hv
      split
      · rename_i hl
        have hl : u.core.controls.deviceStatus = .slaverSensorLeak := hl
        split
        · rename_i hfind
          refine ⟨?_, Or.inl rfl⟩
          rw [hoff, if_pos hl, if_pos (hleak.symm.trans hfind), MainUnit.onCore_core, valveClose_controls]
          rfl
        · rename_i hfind
          exact .refused rfl rfl (by rw [hoff, if_pos hl, if_neg fun h => hfind (hleak.trans h)])
      · rename_i hl
        exact .refused rfl rfl (hoff.trans (if_neg hl))
  · rw [if_neg hs, if_neg hs]
    by_cases hs' : rx.rxData 2 = 1
    · rw [if_pos hs', if_pos hs', hs']
      generalize aqDeviceWaterleakFind _ = leak
      generalize hlost : aqDeviceWirelostFind (u.after _).storage = lost
      refine Runs.upload ?_ ..
      split
      · rename_i hv
        exact Runs.congr (.warning rfl rfl sensorLost_controls) (if_pos hv)
      · rename_i hv
        have hoff : Controls.endunitWarn 1 (rx.rxData 3) leak lost u.core.controls =
            if u.core.controls.deviceStatus = .slaverSensorLost then
              if lost = false then u.core.controls.cleared else u.core.controls
            else u.core.controls := if_neg hv
        split
        · rename_i hl
          have hl : u.core.controls.deviceStatus = .slaverSensorLost := hl
          split
          · rename_i hfind
            exact ⟨by rw [hoff, if_pos hl, if_pos (hlost.symm.trans hfind)]; rfl, Or.inl rfl⟩
          · rename_i hfind
            exact .refused rfl rfl (by rw [hoff, if_pos hl, if_neg fun h => hfind (hlost.trans h)])
        · rename_i hl
          exact .refused rfl rfl (hoff.trans (if_neg hl))
    · rw [if_neg hs', if_neg hs']
      exact .refused rfl rfl (by rw [Controls.endunitWarn, if_neg hs, if_neg hs'])

theorem doorunitHeart_runs {device : Device} (hid : device.deviceId = rx.sourceAddr) :
    Runs (if rx.rxData 2 = 0 then [.batterySet rx.sourceAddr (rx.rxData 3)] else []) id u
      (radioFrameDoorunitParseHeart rx device u) := by
  unfold radioFrameDoorunitParseHeart
  dsimp only
  rw [hid]
  split
  · refine Runs.upload ?_ ..
    exact .silent rfl rfl
  · exact .silent rfl rfl

theorem doorunitValve_runs {device : Device} (hid : device.deviceId = rx.sourceAddr) :
    Runs [.rssiLevelWrite rx.sourceAddr rx.rssiLevel] (Controls.doorunitValve (rx.rxData 2)) u
      (radioFrameDoorunitParseValve rx device u) := by
  unfold radioFrameDoorunitParseValve
  dsimp only
  rw [hid]
  by_cases h₀ : rx.rxData 2 = 0
  · rw [if_pos h₀]
    have hf : Controls.doorunitValve (rx.rxData 2) u.core.controls = u.core.controls.lockIdle := if_pos h₀
    split
    · rename_i hi
      refine Runs.congr (Runs.upload ?_ ..) hf
      exact .lockIdle rfl rfl hi
    · rename_i hi
      split
      · refine Runs.upload ?_ ..
        exact .refused rfl rfl (hf.trans (if_neg hi))
      · exact .refused rfl rfl (hf.trans (if_neg hi))
  · rw [if_neg h₀]
    by_cases h₁ : rx.rxData 2 = 1
    · rw [if_pos h₁]
      have hf : Controls.doorunitValve (rx.rxData 2) u.core.controls = u.core.controls.openIdle := by
        rw [Controls.doorunitValve, if_neg h₀, if_pos h₁]
      split
      · rename_i hi
        refine Runs.congr (Runs.upload ?_ ..) hf
        exact .openIdle rfl rfl hi
      · rename_i hi
        exact .refused rfl rfl (hf.trans (if_neg hi))
    · rw [if_neg h₁]
      -- the delayed close only sets or stops a timer
      have hf : Controls.doorunitValve (rx.rxData 2) u.core.controls = u.core.controls := by
        rw [Controls.doorunitValve, if_neg h₀, if_neg h₁]
      split
      · split
        · refine Runs.upload ?_ ..
          exact .refused rfl rfl hf
        · exact .refused rfl rfl hf
      · split
        · refine Runs.upload ?_ ..
          exact .refused rfl rfl hf
        · exact .refused rfl rfl hf

theorem motionHeart_runs (device : Device) : Runs [] id u (radioFrameMotionParseHeart rx device u) := by
  unfold radioFrameMotionParseHeart
  refine Runs.upload ?_ ..
  exact .silent rfl rfl

theorem motionControl_runs {device : Device} (hid : device.deviceId = rx.sourceAddr) :
    Runs [.rssiLevelWrite rx.sourceAddr rx.rssiLevel] (Controls.motionControl (rx.rxData 2)) u
      (radioFrameMotionParseControl rx device u) := by
  unfold radioFrameMotionParseControl
  dsimp only
  rw [hid]
  by_cases hv : rx.rxData 2 = 0
  · rw [if_neg (not_not.2 hv)]
    have hf : Controls.motionControl (rx.rxData 2) u.core.controls = u.core.controls.closeIdle := if_neg (not_not.2 hv)
    split
    · rename_i hi
      refine Runs.congr (Runs.upload ?_ ..) hf
      exact .closeIdle rfl rfl hi
    · rename_i hi
      exact .refused rfl rfl (hf.trans (if_neg hi))
  · rw [if_pos hv]
    have hf : Controls.motionControl (rx.rxData 2) u.core.controls = u.core.controls.openIdle := if_pos hv
    split
    · rename_i hi
      refine Runs.congr (Runs.upload ?_ ..) hf
      exact .openIdle rfl rfl hi
    · rename_i hi
      exact .refused rfl rfl (hf.trans (if_neg hi))

theorem gatewayControl_runs : Runs [] (Controls.gatewayControl (rx.rxData 2)) u (radioFrameGatewayParseControl rx u) := by
  unfold radioFrameGatewayParseControl
  dsimp only
  by_cases h₀ : rx.rxData 2 = 0
  · rw [if_pos h₀]
    have hf : Controls.gatewayControl (rx.rxData 2) u.core.controls = u.core.controls.closeIdle := if_pos h₀
    split
    · rename_i hi
      refine Runs.congr (Runs.upload ?_ ..) hf
      exact .closeIdle rfl rfl hi
    · rename_i hi
      exact .refused rfl rfl (hf.trans (if_neg hi))
  · rw [if_neg h₀]
    by_cases h₁ : rx.rxData 2 = 1
    · rw [if_pos h₁]
      have hf : Controls.gatewayControl (rx.rxData 2) u.core.controls = u.core.controls.openIdle := by
        rw [Controls.gatewayControl, if_neg h₀, if_pos h₁]
      split
      · rename_i hi
        refine Runs.congr (Runs.upload ?_ ..) hf
        exact .openIdle rfl rfl hi
      · rename_i hi
        exact .refused rfl rfl (hf.trans (if_neg hi))
    · rw [if_neg h₁]
      exact .refused rfl rfl (by rw [Controls.gatewayControl, if_neg h₀, if_neg h₁])

theorem startLearn_runs : Runs [] Controls.toggled u (radioStartLearnDevice u) := by
  refine ⟨?_, Or.inl (startLearn_storage u)⟩
  unfold radioStartLearnDevice Controls.toggled
  by_cases hi : u.core.deviceStatus.Idle
  · rw [if_pos hi, if_pos (show u.core.controls.deviceStatus.Idle from hi)]
    rfl
  · rw [if_neg hi, if_neg (show ¬ u.core.controls.deviceStatus.Idle from hi)]
    by_cases hl : u.core.deviceStatus = .learnDevice
    · rw [if_pos hl, if_pos (show u.core.controls.deviceStatus = .learnDevice from hl), (gatewayConnectStart_core _).1]
      rfl
    · rw [if_neg hl, if_neg (show ¬ u.core.controls.deviceStatus = .learnDevice from hl)]

end

end Aqualarm
