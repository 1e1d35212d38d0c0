import Aqualarm.AlarmSteps

/-
  Every event is a chain of alarm steps (`alarm_next`). One lemma for each
  handler, as in `Handlers` and `RadioHandlers`; what a handler sends, and what
  it stores besides the causes of alarms, is one silent step.
-/

namespace Aqualarm

open Lib Relation

section
variable {s₀ : State} {e : Event} {u u' : MainUnit}

theorem AlarmStep.path (h : AlarmStep s₀ e u u') : AlarmPath s₀ e u u' := .single h

theorem CauseKept.of_eq (h : ∀ a : Alarm, a.find u'.storage = a.find u.storage) : CauseKept u u' :=
  fun a _ hf => (h a).trans hf

theorem toDeviceStatus_no_alarm (v : ValveStatus) (a : Alarm) : v.toDeviceStatus ≠ a.status := by
  cases v <;> cases a <;> simp [ValveStatus.toDeviceStatus, Alarm.status]

theorem alarm_kept (hc : u'.core.alarm = u.core.alarm) (hk : CauseKept u u') : AlarmPath s₀ e u u' :=
  (AlarmStep.silent hc hk).path

theorem alarm_silent (hc : u'.core.alarm = u.core.alarm) (hf : ∀ a : Alarm, a.find u'.storage = a.find u.storage) :
    AlarmPath s₀ e u u' :=
  alarm_kept hc (.of_eq hf)

/-- What is only sent or counted. -/
theorem alarm_same (hc : u'.core = u.core) (hs : u'.storage = u.storage) : AlarmPath s₀ e u u' :=
  alarm_silent (by rw [hc]) fun a => by rw [hs]

theorem alarm_upload (msgAck : Bool) (msgType command : UInt8) (sendBuf : List UInt8) :
    AlarmPath s₀ e u (gatewayUpload msgAck msgType command sendBuf u) :=
  alarm_same (by simp) (by simp)

theorem alarm_causeless (op : RegOp) (h : op.Causeless) : AlarmPath s₀ e u (u.onStorage op.apply) :=
  alarm_silent rfl fun a => (h.alike u.storage).find a

/-! Moving the valve. -/

theorem alarm_close (hi : u.core.deviceStatus.Idle) :
    AlarmPath s₀ e u (u.onCore fun c => (valveClose c).2) := by
  rcases valveClose_alarm u.core with h | h
  · exact (AlarmStep.moved _ hi h).path
  · exact alarm_silent h fun _ => rfl

theorem alarm_lockClose (hi : u.core.deviceStatus.Idle) :
    AlarmPath s₀ e u ((valveLock u).onCore fun c => (valveClose c).2) := by
  have hlock : AlarmPath s₀ e u (valveLock u) :=
    alarm_silent (valveLock_alarm u) fun a => a.find_congr (valveLock_deviceList u)
  refine hlock.trans (alarm_close ?_)
  rwa [valveLock_core]

theorem alarm_unlockOpen (hi : u.core.deviceStatus.Idle) :
    AlarmPath s₀ e u ((valveUnlock u).onCore fun c => (valveOpen c).2) := by
  have hlock : AlarmPath s₀ e u (valveUnlock u) :=
    alarm_silent (valveUnlock_alarm u) fun a => a.find_congr (valveUnlock_deviceList u)
  refine hlock.trans ?_
  rcases valveOpen_alarm (valveUnlock u).core with h | h
  · refine (AlarmStep.moved _ ?_ h).path
    rwa [valveUnlock_core]
  · exact alarm_silent h fun _ => rfl

/-- The two reporting commands: `h` is what an opening, or a closing, that is not
refused comes to. -/
theorem alarm_openAndReport
    (h : u.core.lockStatus ≠ 1 → u.core.valveValid = true →
      ∀ u' : MainUnit, u'.core.alarm = { u.core.alarm with deviceStatus := ValveStatus.valveStatusOpen.toDeviceStatus } →
        AlarmStep s₀ e u u') :
    AlarmPath s₀ e u (openAndReport u) := by
  have hopen : AlarmPath s₀ e u { u with core := (valveOpen u.core).2 } := by
    obtain ⟨_, he⟩ | ⟨hl, hv, _⟩ := valveOpen_cases u.core
    · exact alarm_same (by rw [he]) rfl
    · refine (h hl hv _ ?_).path
      unfold valveOpen
      rw [if_neg (by simp [hl, hv])]
      rfl
  refine hopen.trans ?_
  unfold openAndReport
  dsimp only
  split
  · exact alarm_upload ..
  · exact .refl

theorem alarm_closeAndReport
    (h : u.core.valveValid = true →
      ∀ u' : MainUnit, u'.core.alarm = { u.core.alarm with deviceStatus := ValveStatus.valveStatusClose.toDeviceStatus } →
        AlarmStep s₀ e u u') :
    AlarmPath s₀ e u (closeAndReport u) := by
  have hclose : AlarmPath s₀ e u { u with core := (valveClose u.core).2 } := by
    by_cases hv : u.core.valveValid = true
    · refine (h hv _ ?_).path
      unfold valveClose
      rw [if_neg (by simp [hv])]
      rfl
    · refine alarm_silent ?_ fun _ => rfl
      unfold valveClose
      rw [if_pos (Bool.eq_false_of_not_eq_true hv)]
      rfl
  refine hclose.trans ?_
  unfold closeAndReport
  dsimp only
  split
  · exact alarm_upload ..
  · exact .refl

/-! Warnings and the learn mode. -/

/-- A warning that is raised is dropped or accepted. -/
theorem alarm_raise {w : Warning} (hr : Raises s₀.unit e w)
    (hs : u.core.deviceStatus = s₀.unit.core.deviceStatus) (hn : u.core.nowEvent = s₀.unit.core.nowEvent)
    (hf : ∀ a : Alarm, w.status = a.status → a.find u.storage = true) :
    AlarmPath s₀ e u (warningEnable w u) := by
  by_cases hp : u.core.nowEvent.priority ≤ w.priority
  · refine (AlarmStep.raised w hr hs hn hp (warningEnable_alarm hp) fun a ha => ?_).path
    rw [a.find_congr (warningEnable_deviceList w u)]
    exact hf a ha
  · rw [warningEnable_dropped hp]

theorem alarm_clear (hs : u.core.deviceStatus ≠ .learnDevice) : AlarmPath s₀ e u (u.onCore warningAllClear) :=
  (AlarmStep.cleared u.core.valveStatus hs rfl).path

theorem alarm_connectStart : AlarmPath s₀ e u (gatewayConnectStart u) :=
  alarm_same (gatewayConnectStart_core u).1 (gatewayConnectStart_core u).2

theorem alarm_startLearn : AlarmPath s₀ e u (radioStartLearnDevice u) := by
  unfold radioStartLearnDevice
  split
  · rename_i hi
    exact (AlarmStep.learnStarted hi rfl).path
  · split
    · exact (AlarmStep.learnEnded u.core.valveStatus rfl).path.trans alarm_connectStart
    · exact .refl

/-- An end unit's frame ends with `warning_offline_check`. -/
theorem alarm_heard (rx : RxFrame) :
    AlarmPath s₀ e u (warningOfflineCheck (u.onStorage fun st => (aqDeviceHeartRecv rx st).2)) := by
  unfold warningOfflineCheck
  rw [MainUnit.onStorage_core]
  by_cases hd : u.core.deviceStatus = .slaverOffline
  · rw [if_pos hd]
    split
    · exact (AlarmStep.cleared u.core.valveStatus (by rw [hd]; decide) rfl).path
    · rename_i hf
      refine alarm_kept rfl fun a ha _ => ?_
      have ha' : u.core.deviceStatus = a.status := ha
      rw [hd] at ha'
      cases a with
      | offline => exact Bool.eq_true_of_not_eq_false hf
      | leak | lost => cases ha'
  · rw [if_neg hd]
    refine alarm_kept rfl fun a ha hf => ?_
    have hne : a ≠ .offline := fun h => hd (by rw [h] at ha; exact ha)
    exact (Alarm.find_heartRecv_of_ne hne rx u.storage).trans hf

/-! End units. -/

variable {rx : RxFrame}

theorem alarm_endunitReply (rx : RxFrame) (command : UInt8) (txData : List UInt8) :
    AlarmPath s₀ e u (radioEndunitCommandSend (replyFrame rx command txData u) u) :=
  alarm_same rfl rfl

/-- The battery of a listed device, once it is set. -/
theorem batterySet_deviceAt {device : Device} {st : Storage} (h : aqDeviceFind rx.sourceAddr st = some device)
    (value : UInt8) : (deviceAt device.deviceId (aqDeviceBatterySet device.deviceId value st)).battery = value := by
  have hid : device.deviceId = rx.sourceAddr := by simpa using List.find?_some h
  have hfind : aqDeviceFind rx.sourceAddr (aqDeviceBatterySet device.deviceId value st) =
      some ((RegOp.batterySet device.deviceId value).change device) := by
    refine (@RegOp.ById.find (.batterySet device.deviceId value) trivial rx.sourceAddr st).trans ?_
    rw [h, Option.map_some]
  rw [hid] at hfind ⊢
  rw [deviceAt, hfind, Option.getD_some]
  unfold RegOp.change setDevice
  by_cases hb : device.battery = value <;> simp [hid, hb]

theorem alarm_endunitHeart {device : Device} (hf : e.Frame s₀.unit rx)
    (hs : rx.Served deviceTypeEndunit heartUploadCmd s₀.unit)
    (hd : aqDeviceFind rx.sourceAddr s₀.unit.storage = some device) :
    AlarmPath s₀ e s₀.unit (radioFrameEndunitParseHeart rx device s₀.unit) := by
  rw [endunitHeart_eq]
  refine ReflTransGen.trans ?_ (alarm_upload ..)
  unfold endunitHeartBefore
  dsimp only
  refine (alarm_endunitReply rx heartUploadCmd []).trans ?_
  refine (alarm_causeless (.batterySet device.deviceId (rx.rxData 2)) trivial).trans ?_
  have hno : ∀ {w : Warning}, w = .slaverLowPower ∨ w = .slaverUltraLowPower →
      ∀ a : Alarm, w.status ≠ a.status := by
    rintro w (rfl | rfl) a <;> cases a <;> simp [Warning.status, Alarm.status]
  rw [MainUnit.onStorage_storage]
  rw [show (radioEndunitCommandSend (replyFrame rx heartUploadCmd [] s₀.unit) s₀.unit).storage = s₀.unit.storage
    from rfl, batterySet_deviceAt hd (rx.rxData 2)]
  split
  · rename_i h
    exact alarm_raise (.lowPower hf hs h) rfl rfl fun a ha => absurd ha (hno (Or.inl rfl) a)
  · split
    · rename_i h
      exact alarm_raise (.ultraLowPower hf hs h) rfl rfl fun a ha => absurd ha (hno (Or.inr rfl) a)
    · exact .refl

/-- Recording one alarm's cause keeps the other alarms, and that one where a device
is found to cause it. -/
theorem alarm_recorded {a : Alarm} {g : Storage → Storage}
    (hother : ∀ b : Alarm, b ≠ a → b.find (g u.storage) = b.find u.storage)
    (h : u.core.deviceStatus = a.status → a.find (g u.storage) = true) : AlarmPath s₀ e u (u.onStorage g) := by
  refine alarm_kept rfl fun b hb hf => ?_
  by_cases hba : b = a
  · subst hba
    exact h hb
  · exact (hother b hba).trans hf

theorem alarm_waterleakSet (deviceId : UInt32) (value : UInt8)
    (h : u.core.deviceStatus = .slaverSensorLeak →
      Alarm.leak.find (aqDeviceWaterleakSet deviceId value u.storage) = true) :
    AlarmPath s₀ e u (u.onStorage (aqDeviceWaterleakSet deviceId value)) :=
  alarm_recorded (a := .leak) (fun _ hb => Alarm.find_waterleakSet hb deviceId value u.storage) h

theorem alarm_wirelostSet (deviceId : UInt32) (value : UInt8)
    (h : u.core.deviceStatus = .slaverSensorLost →
      Alarm.lost.find (aqDeviceWirelostSet deviceId value u.storage) = true) :
    AlarmPath s₀ e u (u.onStorage (aqDeviceWirelostSet deviceId value)) :=
  alarm_recorded (a := .lost) (fun _ hb => Alarm.find_wirelostSet hb deviceId value u.storage) h

theorem alarm_endunitValve (rx : RxFrame) (device : Device) :
    AlarmPath s₀ e u (radioFrameEndunitParseValve rx device u) := by
  unfold radioFrameEndunitParseValve
  refine (alarm_causeless (.rssiLevelWrite device.deviceId rx.rssiLevel) trivial).trans ?_
  refine (alarm_endunitReply rx controlValveCmd [rx.rxData 2]).trans ?_
  dsimp only
  change AlarmPath s₀ e (radioEndunitCommandSend (replyFrame rx controlValveCmd [rx.rxData 2]
    (u.onStorage (deviceRssiLevelWrite device.deviceId rx.rssiLevel)))
    (u.onStorage (deviceRssiLevelWrite device.deviceId rx.rssiLevel))) _
  generalize radioEndunitCommandSend _ _ = u₁
  split
  · split
    · rename_i hi
      exact (alarm_unlockOpen hi).trans (alarm_upload ..)
    · exact .refl
  · rw [MainUnit.onStorage_core]
    by_cases hleak : u₁.core.deviceStatus = .slaverSensorLeak
    · rw [if_pos hleak]
      split
      · exact (AlarmStep.cleared u₁.core.valveStatus (by rw [hleak]; decide) rfl).path
      · rename_i hf
        exact alarm_waterleakSet _ _ fun _ => Bool.eq_true_of_not_eq_false hf
    · rw [if_neg hleak]
      refine (alarm_waterleakSet device.deviceId 0 fun h => absurd h hleak).trans ?_
      split
      · rename_i hi
        refine ReflTransGen.trans (alarm_lockClose ?_) (alarm_upload ..)
        exact hi
      · split
        · exact alarm_upload ..
        · exact .refl

theorem alarm_endunitWarn {device : Device} (hf : e.Frame s₀.unit rx)
    (hs : rx.Served deviceTypeEndunit warningUploadCmd s₀.unit)
    (hd : aqDeviceFind rx.sourceAddr s₀.unit.storage = some device) :
    AlarmPath s₀ e s₀.unit (radioFrameEndunitParseWarn rx device s₀.unit) := by
  have hlisted : Listed device.deviceId s₀.unit.storage :=
    ⟨device, List.mem_of_find?_eq_some hd, rfl⟩
  unfold radioFrameEndunitParseWarn
  refine (alarm_endunitReply rx warningUploadCmd [rx.rxData 2, rx.rxData 3]).trans ?_
  dsimp only
  have hu₁ : ∀ u₁ : MainUnit, u₁ = radioEndunitCommandSend
      (replyFrame rx warningUploadCmd [rx.rxData 2, rx.rxData 3] s₀.unit) s₀.unit →
      u₁.core = s₀.unit.core ∧ u₁.storage = s₀.unit.storage := by
    rintro u₁ rfl
    exact ⟨rfl, rfl⟩
  generalize hu : radioEndunitCommandSend _ _ = u₁
  obtain ⟨hcore, hstorage⟩ := hu₁ u₁ hu.symm
  have hstatus : u₁.core.deviceStatus = s₀.unit.core.deviceStatus := by rw [hcore]
  have hevent : u₁.core.nowEvent = s₀.unit.core.nowEvent := by rw [hcore]
  split
  · rename_i hsub
    refine ReflTransGen.trans ?_ (alarm_upload ..)
    split
    · -- a leak: recorded, then raised
      rename_i hv
      have hfound : Alarm.leak.find (aqDeviceWaterleakSet device.deviceId (rx.rxData 3) u₁.storage) = true :=
        waterleakSet_find (hstorage ▸ hlisted) hv
      refine (alarm_waterleakSet _ _ fun _ => hfound).trans
        (alarm_raise (.leak hf hs hsub hv) hstatus hevent fun a ha => ?_)
      cases a with
      | leak => exact hfound
      | lost | offline => cases ha
    · -- taken back: the alarm ends with the last leak
      rename_i hv
      rw [not_not.1 hv, MainUnit.onStorage_core]
      by_cases hleak : u₁.core.deviceStatus = .slaverSensorLeak
      · rw [if_pos hleak]
        split
        · have hclear : AlarmPath s₀ e u₁
              ((u₁.onStorage (aqDeviceWaterleakSet device.deviceId 0)).onCore warningAllClear) :=
            (AlarmStep.cleared u₁.core.valveStatus (by rw [hleak]; decide) rfl).path
          exact hclear.trans (alarm_close (toDeviceStatus_idle _))
        · rename_i hfind
          exact alarm_waterleakSet _ _ fun _ => Bool.eq_true_of_not_eq_false hfind
      · rw [if_neg hleak]
        exact alarm_waterleakSet _ _ fun h => absurd h hleak
  · split
    · rename_i hsub
      refine ReflTransGen.trans ?_ (alarm_upload ..)
      split
      · rename_i hv
        have hfound : Alarm.lost.find (aqDeviceWirelostSet device.deviceId (rx.rxData 3) u₁.storage) = true :=
          wirelostSet_find (hstorage ▸ hlisted) hv
        refine (alarm_wirelostSet _ _ fun _ => hfound).trans
          (alarm_raise (.lost hf hs hsub hv) hstatus hevent fun a ha => ?_)
        cases a with
        | lost => exact hfound
        | leak | offline => cases ha
      · rename_i hv
        rw [not_not.1 hv, MainUnit.onStorage_core]
        by_cases hlost : u₁.core.deviceStatus = .slaverSensorLost
        · rw [if_pos hlost]
          split
          · exact (AlarmStep.cleared u₁.core.valveStatus (by rw [hlost]; decide) rfl).path
          · rename_i hfind
            exact alarm_wirelostSet _ _ fun _ => Bool.eq_true_of_not_eq_false hfind
        · rw [if_neg hlost]
          exact alarm_wirelostSet _ _ fun h => absurd h hlost
    · exact .refl

/-- Adding a node that replaces none, the timer refreshed where it is added. -/
theorem alarm_learnNode (hf : e.Frame s₀.unit rx) (ha : rx.AddDevice s₀.unit) (hc : u.core = s₀.unit.core)
    (hu : u.storage = s₀.unit.storage) (henv : u.env = s₀.unit.env) (ht : rx.deviceType ≠ deviceTypeGateway)
    (ht' : rx.deviceType ≠ deviceTypeDoorunit) :
    AlarmPath s₀ e u
      (let r := aqDeviceCreate u.env.mallocDevice rx.rssiLevel rx.deviceType rx.sourceAddr u.storage
       let u := { u with storage := r.2 }
       if r.1.isNone then u
       else
        gatewaySyncDeviceAdd rx.deviceType rx.sourceAddr rx.rssiLevel (u.onCore radioRefreshLearnDevice)) := by
  have hcreate : learnStorage s₀.unit.env.mallocDevice rx.rssiLevel rx.deviceType rx.sourceAddr s₀.unit.storage =
      aqDeviceCreate u.env.mallocDevice rx.rssiLevel rx.deviceType rx.sourceAddr u.storage := by
    rw [learnStorage_node (not_or.2 ⟨ht, ht'⟩), henv, hu]
  dsimp only
  split
  · exact alarm_silent rfl fun a => a.find_create _ _ _ _ _
  · rename_i hsome
    refine ReflTransGen.trans (AlarmStep.refreshed ⟨rx, hf, ha, ?_⟩ (by rw [hc]) ?_ ?_).path (alarm_upload ..)
    · rw [hcreate]
      exact Option.isSome_iff_ne_none.2 fun hn => hsome (Option.isNone_iff_eq_none.2 hn)
    · rfl
    · exact .of_eq fun a => a.find_create _ _ _ _ _

theorem alarm_endunitLearn (hf : e.Frame s₀.unit rx) (ht : rx.deviceType = deviceTypeEndunit)
    (hl : rx.rxData 0 = learnDeviceCmd) : AlarmPath s₀ e s₀.unit (radioFrameEndunitParseLearn rx s₀.unit) := by
  unfold radioFrameEndunitParseLearn
  split
  · exact alarm_endunitReply rx learnDeviceCmd [0]
  · split
    · rename_i hd
      refine (alarm_endunitReply rx learnDeviceCmd [rx.rxData 2]).trans ?_
      dsimp only
      split
      · rename_i hs
        have h := alarm_learnNode
          (u := radioEndunitCommandSend (replyFrame rx learnDeviceCmd [rx.rxData 2] s₀.unit) s₀.unit)
          hf ⟨hl, hs, hd, Or.inr (Or.inl ht)⟩ rfl rfl rfl (by rw [ht]; decide) (by rw [ht]; decide)
        rw [ht] at h
        exact h
      · split
        · exact alarm_startLearn
        · exact .refl
    · exact .refl

theorem alarm_endunitParse (hf : e.Frame s₀.unit rx) (ht : rx.deviceType = deviceTypeEndunit) :
    AlarmPath s₀ e s₀.unit (radioFrameEndunitParse rx s₀.unit) := by
  rw [endunitParse_eq]
  by_cases hl : rx.rxData 0 = learnDeviceCmd
  · have hlearn := alarm_endunitLearn hf ht hl
    exact nodeParse_learn hl (endunitServe_learn hl) (fun _ => hlearn) fun _ _ _ => hlearn.trans (alarm_heard rx)
  · refine nodeParse_command hl .refl fun device hfind hd => ?_
    have hserved : ∀ command, rx.rxData 0 = command → rx.Served deviceTypeEndunit command s₀.unit :=
      fun command hc => ⟨ht, hc, hd, by rw [hfind]; rfl⟩
    refine ReflTransGen.trans ?_ (alarm_heard rx)
    unfold endunitServe
    split
    · rename_i hc
      exact alarm_endunitHeart hf (hserved _ hc) hfind
    · split
      · exact alarm_endunitValve rx device
      · split
        · rename_i hc
          exact alarm_endunitWarn hf (hserved _ hc) hfind
        · exact .refl

/-! Frames that do not look at the alarm again. -/

/-- The list is changed first; `h` is what becomes of the other variables. -/
theorem alarm_forget (hf : e.Frame s₀.unit rx)
    (ht : rx.deviceType = deviceTypeMotionSensor ∨ rx.deviceType = deviceTypeDoorunit ∨
      rx.deviceType = deviceTypeGateway)
    (hst : ∀ a : Alarm, a.find u.storage = a.find (frameRegistry rx s₀.unit))
    (h : AlarmPath s₀ e { s₀.unit with storage := u.storage } u) : AlarmPath s₀ e s₀.unit u := by
  have hfirst : AlarmStep s₀ e s₀.unit { s₀.unit with storage := u.storage } :=
    .forgotten rfl ⟨rx, hf, ht, hst⟩ rfl
  exact hfirst.path.trans h

/-- The valve was moved in an idle status, or the alarms are as they were. -/
def AlarmMoved (u u' : MainUnit) : Prop :=
  u'.core.alarm = u.core.alarm ∨
    u.core.deviceStatus.Idle ∧ ∃ v : ValveStatus, u'.core.alarm = { u.core.alarm with deviceStatus := v.toDeviceStatus }

theorem AlarmMoved.path (h : AlarmMoved u u') (hs : u'.storage = u.storage) : AlarmPath s₀ e u u' := by
  obtain hc | ⟨hi, v, hc⟩ := h
  · exact alarm_silent hc fun a => by rw [hs]
  · exact (AlarmStep.moved v hi hc).path

theorem AlarmMoved.congr {u₁ u₂ : MainUnit} (h : AlarmMoved u u₁) (hc : u₂.core.alarm = u₁.core.alarm) :
    AlarmMoved u u₂ := by
  unfold AlarmMoved
  rwa [hc]

theorem lockClose_moved (hi : u.core.deviceStatus.Idle) :
    AlarmMoved u ((valveLock u).onCore fun c => (valveClose c).2) := by
  rcases valveClose_alarm (valveLock u).core with h | h
  · exact Or.inr ⟨hi, _, h.trans (by rw [valveLock_alarm])⟩
  · exact Or.inl (h.trans (valveLock_alarm u))

theorem unlockOpen_moved (hi : u.core.deviceStatus.Idle) :
    AlarmMoved u ((valveUnlock u).onCore fun c => (valveOpen c).2) := by
  rcases valveOpen_alarm (valveUnlock u).core with h | h
  · exact Or.inr ⟨hi, _, h.trans (by rw [valveUnlock_alarm])⟩
  · exact Or.inl (h.trans (valveUnlock_alarm u))

theorem close_moved (hi : u.core.deviceStatus.Idle) : AlarmMoved u (u.onCore fun c => (valveClose c).2) := by
  rcases valveClose_alarm u.core with h | h
  · exact Or.inr ⟨hi, _, h⟩
  · exact Or.inl h

theorem gatewayUpload_alarm (msgAck : Bool) (msgType command : UInt8) (sendBuf : List UInt8) (u : MainUnit) :
    (gatewayUpload msgAck msgType command sendBuf u).core.alarm = u.core.alarm := by
  rw [gatewayUpload_core]

/-- A command of the door unit: what it makes of the alarms, and of the list. -/
theorem doorunitHeart_alike (rx : RxFrame) (device : Device) (u : MainUnit) :
    (radioFrameDoorunitParseHeart rx device u).core = u.core ∧
      Alike u.storage (radioFrameDoorunitParseHeart rx device u).storage := by
  unfold radioFrameDoorunitParseHeart
  dsimp only
  split
  · refine ⟨gatewayUpload_core .., ?_⟩
    rw [gatewayHeartDoorunitUpload, gatewayUpload_storage]
    exact @RegOp.Causeless.alike (.batterySet device.deviceId (rx.rxData 3)) trivial u.storage
  · exact ⟨rfl, .of_eq rfl⟩

theorem doorunitValve_alike (rx : RxFrame) (device : Device) (u : MainUnit) :
    AlarmMoved u (radioFrameDoorunitParseValve rx device u) ∧
      Alike u.storage (radioFrameDoorunitParseValve rx device u).storage := by
  have hwrite : Alike u.storage (deviceRssiLevelWrite device.deviceId rx.rssiLevel u.storage) :=
    @RegOp.Causeless.alike (.rssiLevelWrite device.deviceId rx.rssiLevel) trivial u.storage
  unfold radioFrameDoorunitParseValve
  dsimp only
  generalize hu : radioDoorunitCommandSend _ _ = u₁
  have hcore : u₁.core.alarm = u.core.alarm := by rw [← hu]; rfl
  have hstatus : u₁.core.deviceStatus = u.core.deviceStatus := congrArg AlarmView.deviceStatus hcore
  have hlist : Alike u.storage u₁.storage := by rw [← hu]; exact hwrite
  have hmoved : ∀ {u₂ : MainUnit}, AlarmMoved u₁ u₂ → AlarmMoved u u₂ := by
    intro u₂ h
    unfold AlarmMoved at h ⊢
    rwa [hcore, hstatus] at h
  have hlock : ∀ u : MainUnit, Alike u.storage ((valveLock u).onCore fun c => (valveClose c).2).storage :=
    fun u => .of_eq (valveLock_deviceList u)
  have hunlock : ∀ u : MainUnit, Alike u.storage ((valveUnlock u).onCore fun c => (valveOpen c).2).storage :=
    fun u => .of_eq (valveUnlock_deviceList u)
  simp only [gatewayControlDoorControl, gatewayControlDoorDelay]
  split_ifs with _ hi _ _ hi _ _ _
  · exact ⟨hmoved ((lockClose_moved hi).congr (gatewayUpload_alarm ..)), by
      rw [gatewayUpload_storage]; exact hlist.trans (hlock u₁)⟩
  · exact ⟨Or.inl ((gatewayUpload_alarm ..).trans hcore), by rw [gatewayUpload_storage]; exact hlist⟩
  · exact ⟨Or.inl hcore, hlist⟩
  · exact ⟨hmoved ((unlockOpen_moved hi).congr (gatewayUpload_alarm ..)), by
      rw [gatewayUpload_storage]; exact hlist.trans (hunlock u₁)⟩
  · exact ⟨Or.inl hcore, hlist⟩
  · exact ⟨Or.inl ((gatewayUpload_alarm ..).trans hcore), by rw [gatewayUpload_storage]; exact hlist⟩
  · exact ⟨Or.inl hcore, hlist⟩
  · exact ⟨Or.inl ((gatewayUpload_alarm ..).trans hcore), by rw [gatewayUpload_storage]; exact hlist⟩
  · exact ⟨Or.inl hcore, hlist⟩

theorem motionControl_alike (rx : RxFrame) (device : Device) (u : MainUnit) :
    AlarmMoved u (radioFrameMotionParseControl rx device u) ∧
      Alike u.storage (radioFrameMotionParseControl rx device u).storage := by
  have hwrite : Alike u.storage (deviceRssiLevelWrite device.deviceId rx.rssiLevel u.storage) :=
    @RegOp.Causeless.alike (.rssiLevelWrite device.deviceId rx.rssiLevel) trivial u.storage
  unfold radioFrameMotionParseControl
  dsimp only
  generalize hu : radioEndunitCommandSend _ _ = u₁
  have hcore : u₁.core.alarm = u.core.alarm := by rw [← hu]; rfl
  have hstatus : u₁.core.deviceStatus = u.core.deviceStatus := congrArg AlarmView.deviceStatus hcore
  have hlist : Alike u.storage u₁.storage := by rw [← hu]; exact hwrite
  have hmoved : ∀ {u₂ : MainUnit}, AlarmMoved u₁ u₂ → AlarmMoved u u₂ := by
    intro u₂ h
    unfold AlarmMoved at h ⊢
    rwa [hcore, hstatus] at h
  simp only [gatewayControlMotionSensorControl]
  split_ifs with _ hi hi
  · exact ⟨hmoved ((unlockOpen_moved hi).congr (gatewayUpload_alarm ..)), by
      rw [gatewayUpload_storage]; exact hlist.trans (.of_eq (valveUnlock_deviceList u₁))⟩
  · exact ⟨Or.inl hcore, hlist⟩
  · exact ⟨hmoved ((close_moved hi).congr (gatewayUpload_alarm ..)), by
      rw [gatewayUpload_storage]; exact hlist⟩
  · exact ⟨Or.inl hcore, hlist⟩

/-- The learn part of a frame refreshes the timer, or leaves the alarms. -/
def LearnRefreshed (rx : RxFrame) (u u' : MainUnit) : Prop :=
  u'.core.alarm = u.core.alarm ∨
    rx.AddDevice u ∧
      (learnStorage u.env.mallocDevice rx.rssiLevel rx.deviceType rx.sourceAddr u.storage).1.isSome = true ∧
      u'.core.alarm = { u.core.alarm with radioLearnTimer := true }

theorem LearnRefreshed.path (hf : e.Frame s₀.unit rx) (h : LearnRefreshed rx s₀.unit u')
    (hc : u.core = s₀.unit.core) (hs : u'.storage = u.storage) : AlarmPath s₀ e u u' := by
  obtain h | ⟨ha, hsome, h⟩ := h
  · exact alarm_silent (by rw [h, hc]) fun a => by rw [hs]
  · exact (AlarmStep.refreshed ⟨rx, hf, ha, hsome⟩ (by rw [hc]) (by rw [h, hc])
      (.of_eq fun a => by rw [hs])).path

theorem learnedRegistry_add {u : MainUnit} (ha : rx.AddDevice u) :
    learnedRegistry rx u =
      (learnStorage u.env.mallocDevice rx.rssiLevel rx.deviceType rx.sourceAddr u.storage).2 :=
  if_pos ⟨ha.command, ha.subCommand, ha.toUnit⟩

theorem learnedRegistry_of_command {u : MainUnit} (h : rx.rxData 0 ≠ learnDeviceCmd) :
    learnedRegistry rx u = u.storage :=
  if_neg fun hc => h hc.1

theorem motionLearn_alarm (ht : rx.deviceType = deviceTypeMotionSensor) (hl : rx.rxData 0 = learnDeviceCmd)
    (u : MainUnit) :
    LearnRefreshed rx u (radioFrameMotionParseLearn rx u) ∧
      (radioFrameMotionParseLearn rx u).storage = learnedRegistry rx u := by
  by_cases hadd : rx.rxData 2 = 1 ∧ rx.destAddr = getLocalAddress u
  · have ha : rx.AddDevice u := ⟨hl, hadd.1, hadd.2, Or.inl ht⟩
    refine ⟨?_, by rw [motionLearn_storage ha ht, learnedRegistry_add ha]⟩
    unfold radioFrameMotionParseLearn LearnRefreshed
    rw [if_neg ha.not_broadcast, if_pos hadd.2]
    dsimp only
    rw [if_pos hadd.1]
    split
    · exact Or.inl rfl
    · rename_i hsome
      refine Or.inr ⟨ha, ?_, by rw [gatewaySyncDeviceAdd, gatewayUpload_alarm]; rfl⟩
      rw [ht, learnStorage_node (by decide)]
      exact Option.isSome_iff_ne_none.2 fun hn => hsome (Option.isNone_iff_eq_none.2 hn)
  · have hlearned : learnedRegistry rx u = u.storage := if_neg fun hc => hadd hc.2
    rw [hlearned]
    unfold radioFrameMotionParseLearn LearnRefreshed
    split
    · exact ⟨Or.inl rfl, rfl⟩
    · split
      · rename_i hd
        rw [if_neg fun hs => hadd ⟨hs, hd⟩]
        exact ⟨Or.inl rfl, rfl⟩
      · exact ⟨Or.inl rfl, rfl⟩

theorem doorunitLearn_alarm (ht : rx.deviceType = deviceTypeDoorunit) (hl : rx.rxData 0 = learnDeviceCmd)
    (u : MainUnit) :
    LearnRefreshed rx u (radioFrameDoorunitParseLearn rx u) ∧
      (radioFrameDoorunitParseLearn rx u).storage = learnedRegistry rx u := by
  by_cases hadd : rx.rxData 2 = 1 ∧ rx.destAddr = getLocalAddress u
  · have ha : rx.AddDevice u := ⟨hl, hadd.1, hadd.2, Or.inr (Or.inr (Or.inl ht))⟩
    refine ⟨?_, by rw [doorunitLearn_storage ha ht, learnedRegistry_add ha]⟩
    unfold radioFrameDoorunitParseLearn LearnRefreshed
    rw [if_neg ha.not_broadcast, if_pos hadd.2]
    dsimp only
    obtain ⟨ms, _, h⟩ :=
      aqDoorunitDelete_eq (radioDoorunitCommandSend (replyFrame rx learnDeviceCmd [rx.rxData 2] u) u)
    rw [if_pos hadd.1, h]
    split
    · exact Or.inl rfl
    · rename_i hsome
      refine Or.inr ⟨ha, ?_, by rw [gatewaySyncDeviceAdd, gatewayUpload_alarm]; rfl⟩
      rw [ht, learnStorage_replacing (by decide)]
      exact Option.isSome_iff_ne_none.2 fun hn => hsome (Option.isNone_iff_eq_none.2 hn)
  · have hlearned : learnedRegistry rx u = u.storage := if_neg fun hc => hadd hc.2
    rw [hlearned]
    unfold radioFrameDoorunitParseLearn LearnRefreshed
    split
    · exact ⟨Or.inl rfl, rfl⟩
    · split
      · rename_i hd
        rw [if_neg fun hs => hadd ⟨hs, hd⟩]
        exact ⟨Or.inl rfl, rfl⟩
      · exact ⟨Or.inl rfl, rfl⟩

/-- The registration's strength decides neither the outcome nor an alarm. -/
theorem learnStorage_rssiLevel (mallocOk : Bool) (r r' type : UInt8) (deviceId : UInt32) (st : Storage) :
    (learnStorage mallocOk r type deviceId st).1.isSome = (learnStorage mallocOk r' type deviceId st).1.isSome ∧
      ∀ a : Alarm, a.find (learnStorage mallocOk r type deviceId st).2 =
        a.find (learnStorage mallocOk r' type deviceId st).2 := by
  refine ⟨?_, fun a => by rw [learnStorage, learnStorage, a.find_create, a.find_create]⟩
  unfold learnStorage aqDeviceCreate
  split
  · rfl
  · split
    · rfl
    · split
      · rfl
      · split <;> rfl

theorem gatewayLearn_alarm (ht : rx.deviceType = deviceTypeGateway) (hl : rx.rxData 0 = learnDeviceCmd)
    (u : MainUnit) :
    LearnRefreshed rx u (radioFrameGatewayParseLearn rx u) ∧
      ∀ a : Alarm, a.find (radioFrameGatewayParseLearn rx u).storage = a.find (learnedRegistry rx u) := by
  by_cases hadd : rx.rxData 2 = 1 ∧ rx.destAddr = getLocalAddress u
  · have ha : rx.AddDevice u := ⟨hl, hadd.1, hadd.2, Or.inr (Or.inr (Or.inr ht))⟩
    obtain ⟨hsome', hfind⟩ := learnStorage_rssiLevel u.env.mallocDevice 0 rx.rssiLevel rx.deviceType rx.sourceAddr
      u.storage
    refine ⟨?_, fun a => by rw [gatewayLearn_storage ha ht, learnedRegistry_add ha, hfind]⟩
    unfold radioFrameGatewayParseLearn LearnRefreshed
    rw [if_neg ha.not_broadcast, if_pos hadd.2, if_pos hadd.1]
    dsimp only
    split
    · exact Or.inl rfl
    · rename_i hsome
      refine Or.inr ⟨ha, ?_, by rw [gatewayLearnAddUpload, radioGatewayCommandSend_core]; rfl⟩
      rw [← hsome', ht, learnStorage_replacing (by decide)]
      exact Option.isSome_iff_ne_none.2 fun hn => hsome (Option.isNone_iff_eq_none.2 hn)
  · have hlearned : learnedRegistry rx u = u.storage := if_neg fun hc => hadd hc.2
    rw [hlearned]
    unfold radioFrameGatewayParseLearn LearnRefreshed
    split
    · rw [gatewayLearnBroacastConfirm, radioGatewayCommandSend_core, radioGatewayCommandSend_storage]
      exact ⟨Or.inl rfl, fun _ => rfl⟩
    · split
      · rename_i hd
        rw [if_neg fun hs => hadd ⟨hs, hd⟩]
        exact ⟨Or.inl rfl, fun _ => rfl⟩
      · exact ⟨Or.inl rfl, fun _ => rfl⟩

theorem motionLearn_cfg (rx : RxFrame) (u : MainUnit) : (radioFrameMotionParseLearn rx u).cfg = u.cfg := by
  unfold radioFrameMotionParseLearn
  dsimp only
  split_ifs
  any_goals rfl
  exact gatewayUpload_cfg ..

theorem doorunitLearn_cfg (rx : RxFrame) (u : MainUnit) : (radioFrameDoorunitParseLearn rx u).cfg = u.cfg := by
  unfold radioFrameDoorunitParseLearn
  dsimp only
  obtain ⟨ms, _, h⟩ :=
    aqDoorunitDelete_eq (radioDoorunitCommandSend (replyFrame rx learnDeviceCmd [rx.rxData 2] u) u)
  rw [h]
  split_ifs
  any_goals rfl
  exact gatewayUpload_cfg ..

theorem gatewayLearn_cfg (rx : RxFrame) (u : MainUnit) : (radioFrameGatewayParseLearn rx u).cfg = u.cfg := by
  unfold radioFrameGatewayParseLearn
  dsimp only
  split_ifs
  · exact radioGatewayCommandSend_cfg ..
  · rfl
  · exact radioGatewayCommandSend_cfg ..
  · rfl
  · rfl

/-- A frame of a node that is heard: the list is that of its command, heard. -/
theorem frameRegistry_heard {device : Device} (hd : aqDeviceFind rx.sourceAddr u.storage = some device)
    (hto : rx.destAddr = getLocalAddress u) (ht : rx.deviceType ≠ deviceTypeGateway) :
    frameRegistry rx u = (aqDeviceHeartRecv rx (learnedRegistry rx u)).2 := by
  rw [frameRegistry, if_neg (by rw [hd]; simp [hto]), if_neg ht]

/-- The door unit's frames and the motion sensors': the learn part or the command,
and the source is heard. -/
theorem alarm_nodeParse {learn : MainUnit → MainUnit} {serve : Device → MainUnit → MainUnit} (hf : e.Frame s₀.unit rx)
    (ht : rx.deviceType = deviceTypeMotionSensor ∨ rx.deviceType = deviceTypeDoorunit)
    (hserve : rx.rxData 0 = learnDeviceCmd → ∀ device u, serve device u = u)
    (hcfg : (learn s₀.unit).cfg = s₀.unit.cfg)
    (hlearn : rx.rxData 0 = learnDeviceCmd →
      LearnRefreshed rx s₀.unit (learn s₀.unit) ∧ (learn s₀.unit).storage = learnedRegistry rx s₀.unit)
    (hserved : ∀ device, AlarmMoved s₀.unit (serve device s₀.unit) ∧
      Alike s₀.unit.storage (serve device s₀.unit).storage) :
    AlarmPath s₀ e s₀.unit
      (nodeParse rx learn serve (MainUnit.onStorage fun st => (aqDeviceHeartRecv rx st).2) s₀.unit) := by
  have ht' : rx.deviceType ≠ deviceTypeGateway := by
    rcases ht with ht | ht <;> rw [ht] <;> decide
  by_cases hl : rx.rxData 0 = learnDeviceCmd
  · obtain ⟨hcore, hreg⟩ := hlearn hl
    have haddr : getLocalAddress (learn s₀.unit) = getLocalAddress s₀.unit := by
      rw [getLocalAddress, hcfg, getLocalAddress]
    refine nodeParse_learn hl (hserve hl) (fun hskip => ?_) fun device hfind hd => ?_
    · rw [haddr] at hskip
      refine alarm_forget hf (ht.imp id Or.inl) (fun a => ?_) (hcore.path hf rfl rfl)
      rw [hreg, frameRegistry, if_pos hskip]
    · rw [haddr] at hd
      refine alarm_forget hf (ht.imp id Or.inl) (fun a => ?_) (hcore.path hf rfl rfl)
      rw [MainUnit.onStorage_storage, hreg, frameRegistry_heard hfind hd ht']
  · refine nodeParse_command hl .refl fun device hfind hd => ?_
    obtain ⟨hmoved, hst⟩ := hserved device
    refine alarm_forget hf (ht.imp id Or.inl) (fun a => ?_) (AlarmMoved.path (hmoved.congr rfl) rfl)
    rw [MainUnit.onStorage_storage, hst.find_heartRecv, frameRegistry_heard hfind hd ht', learnedRegistry_of_command hl]

theorem alarm_doorunitParse (hf : e.Frame s₀.unit rx) (ht : rx.deviceType = deviceTypeDoorunit) :
    AlarmPath s₀ e s₀.unit (radioFrameDoorunitParse rx s₀.unit) := by
  rw [doorunitParse_eq]
  refine alarm_nodeParse hf (Or.inr ht) doorunitServe_learn (doorunitLearn_cfg rx s₀.unit)
    (fun hl => doorunitLearn_alarm ht hl s₀.unit) fun device => ?_
  unfold doorunitServe
  split_ifs
  · obtain ⟨hc, hst⟩ := doorunitHeart_alike rx device s₀.unit
    exact ⟨Or.inl (by rw [hc]), hst⟩
  · exact doorunitValve_alike rx device s₀.unit
  · exact ⟨Or.inl rfl, .of_eq rfl⟩

theorem alarm_motionParse (hf : e.Frame s₀.unit rx) (ht : rx.deviceType = deviceTypeMotionSensor) :
    AlarmPath s₀ e s₀.unit (radioFrameMotionParse rx s₀.unit) := by
  rw [motionParse_eq]
  refine alarm_nodeParse hf (Or.inl ht) motionServe_learn (motionLearn_cfg rx s₀.unit)
    (fun hl => motionLearn_alarm ht hl s₀.unit) fun device => ?_
  unfold motionServe
  split_ifs
  · unfold radioFrameMotionParseHeart
    exact ⟨Or.inl (gatewayUpload_alarm ..), .of_eq (congrArg Storage.deviceList (gatewayUpload_storage ..))⟩
  · exact motionControl_alike rx device s₀.unit
  · exact ⟨Or.inl rfl, .of_eq rfl⟩

/-! The gateway. -/

theorem alarm_gatewayControl : AlarmPath s₀ e u (radioFrameGatewayParseControl rx u) := by
  unfold radioFrameGatewayParseControl
  dsimp only
  split
  · split
    · rename_i hi
      exact (alarm_close hi).trans (alarm_upload ..)
    · exact .refl
  · split
    · split
      · rename_i hi
        exact (alarm_unlockOpen hi).trans (alarm_upload ..)
      · exact .refl
    · exact .refl

theorem alarm_otaReply (reply : OtaReply) : AlarmPath s₀ e u (reply.send u) := by
  cases reply with
  | respStart | ackTransfer | respEnd => exact alarm_upload ..

theorem alarm_onOta {s : State} (f : Ota → Option OtaReply × Ota) : AlarmPath s₀ e s.unit (s.onOta f).unit := by
  unfold State.onOta
  dsimp only
  split
  · exact alarm_otaReply _
  · exact .refl

theorem alarm_gatewayOta {s : State} : AlarmPath s₀ e s.unit (radioFrameGatewayParseOta rx s).unit := by
  rw [gatewayParseOta_eq]
  split
  · exact alarm_onOta _
  · split
    · exact alarm_onOta _
    · split
      · exact (AlarmStep.booted (boot_alarm _)).path
      · exact .refl

theorem recvSet_alike (deviceId : UInt32) (st : Storage) : Alike st (aqDeviceRecvSet deviceId 1 st) :=
  @RegOp.Causeless.alike (.recvSet deviceId 1) trivial st

/-- Deleting from lists that differ in nothing an alarm is about. -/
theorem Alike.find_delete {st st' : Storage} (h : Alike st st') (a : Alarm) (deviceId : UInt32) :
    a.find (aqDeviceDelete deviceId st').2 = a.find (aqDeviceDelete deviceId st).2 := by
  have herased : Alike (aqDeviceDelete deviceId st).2 (aqDeviceDelete deviceId st').2 := by
    unfold Alike
    rw [aqDeviceDelete_deviceList, aqDeviceDelete_deviceList]
    exact Lib.forall₂_eraseP (fun d d' hd => by rw [hd.1]) h
  exact herased.find a

theorem alarm_gatewayParse {s : State} (hs : s₀ = s) (hf : e.Frame s.unit rx) (ht : rx.deviceType = deviceTypeGateway) :
    AlarmPath s₀ e s.unit (radioFrameGatewayParse rx s).unit := by
  subst hs
  unfold radioFrameGatewayParse
  dsimp only
  by_cases hl : rx.rxData 0 = learnDeviceCmd
  · simp only [hl, if_true, (by decide : learnDeviceCmd ≠ controlValveCmd),
      (by decide : learnDeviceCmd ≠ deviceSyncCmd), (by decide : learnDeviceCmd ≠ confirmAckCmd),
      (by decide : learnDeviceCmd ≠ firmwareUpdateCmd), if_false]
    have hsync : ¬ (rx.rxData 0 = deviceSyncCmd ∧ rx.rxData 2 = 1) := by
      rw [hl]
      exact fun h => absurd h.1 (by decide)
    have hframe : frameRegistry rx s₀.unit = learnedRegistry rx s₀.unit := by
      rw [frameRegistry, if_pos ht, if_neg hsync, ite_self]
    obtain ⟨hcore, hreg⟩ := gatewayLearn_alarm ht hl s₀.unit
    have hlearn : AlarmPath s₀ e s₀.unit (radioFrameGatewayParseLearn rx s₀.unit) :=
      alarm_forget hf (Or.inr (Or.inr ht)) (fun a => by rw [hreg, hframe]) (hcore.path hf rfl rfl)
    split
    · exact hlearn
    · split
      · exact hlearn
      · refine hlearn.trans (alarm_silent rfl fun a => ?_)
        exact (recvSet_alike _ _).find a
  · simp only [if_neg hl]
    split
    · exact .refl
    · rename_i hfind
      split
      · exact .refl
      · rename_i hd
        have hrecv : AlarmPath s₀ e s₀.unit (s₀.onUnit (MainUnit.onStorage (aqDeviceRecvSet rx.sourceAddr 1))).unit :=
          alarm_silent rfl fun a => (recvSet_alike _ _).find a
        split
        · exact hrecv.trans alarm_gatewayControl
        · split
          · rename_i hsync
            rw [State.onUnit_unit, gatewayParseSync_eq]
            split
            · refine hrecv.trans ?_
              unfold gatewaySyncDeviceUpload
              split
              · exact alarm_upload ..
              · exact .refl
            · split
              · -- a deletion: the only change of the list no handler follows up
                rename_i hsub
                have hfound : aqDeviceFind rx.sourceAddr s₀.unit.storage ≠ none := fun hn =>
                  hfind (Option.isNone_iff_eq_none.2 hn)
                refine alarm_forget hf (Or.inr (Or.inr ht)) (fun a => ?_) (alarm_same rfl rfl)
                rw [frameRegistry, if_neg (not_or.2 ⟨hfound, hd⟩), if_pos ht, if_pos ⟨hsync, hsub⟩]
                exact (recvSet_alike _ _).find_delete a rx.word
              · exact hrecv
          · split
            · exact hrecv
            · split
              · exact hrecv.trans alarm_gatewayOta
              · exact hrecv

theorem alarm_dispatch {s : State} (hs : s₀ = s) (hf : e.Frame s.unit rx) :
    AlarmPath s₀ e s.unit (radioFrameDispatch rx s).unit := by
  subst hs
  unfold radioFrameDispatch
  split
  · rename_i ht
    exact alarm_motionParse hf ht
  · split
    · rename_i ht
      exact alarm_endunitParse hf ht
    · split
      · rename_i ht
        exact alarm_doorunitParse hf ht
      · split
        · rename_i ht
          exact alarm_gatewayParse rfl hf ht
        · split
          · rw [factoryParse_unit]
          · exact .refl

/-! Keys, Modbus and the dry contact. -/

theorem alarm_keyOnClick (hc : e.click s₀ = some true) : AlarmPath s₀ e s₀.unit (keyOnClickHandle s₀.unit) := by
  unfold keyOnClickHandle
  split
  · rename_i hd
    exact alarm_openAndReport fun _ _ _ ha => .moved _ (Or.inl hd) ha
  · rename_i hd
    exact alarm_openAndReport fun _ _ _ ha => .moved _ (Or.inr (Or.inr hd)) ha
  · rename_i hd
    split
    · rename_i hv
      exact alarm_openAndReport fun hl hvalid _ ha =>
        .clicked _ (Or.inl ⟨hd, hvalid, Or.inl ⟨hc, hv, hl⟩⟩) rfl ha
    · exact .refl
  · rename_i hd
    exact alarm_openAndReport fun _ _ _ ha => .clicked _ (Or.inr hd) rfl ha
  · exact .refl

theorem alarm_keyOffClick (hc : e.click s₀ = some false) : AlarmPath s₀ e s₀.unit (keyOffClickHandle s₀.unit) := by
  unfold keyOffClickHandle
  split
  · rename_i hd
    exact alarm_closeAndReport fun _ _ ha => .moved _ (Or.inr (Or.inl hd)) ha
  · rename_i hd
    split
    · rename_i hv
      exact alarm_closeAndReport fun hvalid _ ha => .clicked _ (Or.inl ⟨hd, hvalid, Or.inr ⟨hc, hv⟩⟩) rfl ha
    · exact .refl
  · rename_i hd
    exact alarm_closeAndReport fun _ _ ha => .clicked _ (Or.inr hd) rfl ha
  · rename_i hd
    exact (alarm_clear (by rw [hd]; decide)).trans (alarm_upload ..)
  · exact .refl

theorem alarm_dryContact (level : PinLevel) : AlarmPath s₀ e u (valveDryContactControl level u) := by
  unfold valveDryContactControl
  split
  · rename_i hi
    cases level with
    | pinHigh => exact alarm_closeAndReport fun _ _ ha => .moved _ hi ha
    | pinLow => exact alarm_openAndReport fun _ _ _ ha => .moved _ hi ha
  · exact .refl

theorem alarm_checkStart (fullyOpen : Side → PinLevel) : AlarmPath s₀ e u (u.onCore (valveCheckStart fullyOpen)) := by
  refine alarm_silent ?_ fun _ => rfl
  have hside : ∀ side level (c : Core), (valveCheckStartSide side level c).alarm = c.alarm := by
    intro side level c
    unfold valveCheckStartSide
    split <;> rfl
  rw [MainUnit.onCore_core]
  unfold valveCheckStart
  split
  · rfl
  · rw [hside, hside]

theorem alarm_keyOnOffLongClick {s : State} : AlarmPath s₀ e s.unit (keyOnOffLongClickHandle s).unit := by
  unfold keyOnOffLongClickHandle
  split
  · split
    · exact (AlarmStep.booted (boot_alarm _)).path
    · exact .refl
  · exact .refl

theorem alarm_keyOnLongHold {s : State} : AlarmPath s₀ e s.unit (keyOnLongHoldHandle s).unit := by
  unfold keyOnLongHoldHandle
  split
  · exact .refl
  · split
    · exact alarm_keyOnOffLongClick
    · split
      · exact alarm_checkStart _
      · exact .refl

theorem alarm_keyOffLongHold {s : State} : AlarmPath s₀ e s.unit (keyOffLongHoldHandle s).unit := by
  unfold keyOffLongHoldHandle
  split
  · exact .refl
  · split
    · exact alarm_keyOnOffLongClick
    · split
      · exact alarm_startLearn
      · exact .refl

theorem alarm_mbWriteCoils (reg : Nat → UInt8) (usAddress usNCoils : UInt16)
    (he : e = .modbusCoils reg usAddress usNCoils) :
    AlarmPath s₀ e s₀.unit (mbWriteCoils reg usAddress usNCoils s₀).unit := by
  have hclick : e.click s₀ = mbCoilsClick reg usAddress usNCoils s₀ := by rw [he]; rfl
  unfold mbCoilsClick at hclick
  unfold mbWriteCoils
  dsimp only
  split
  · rename_i hn
    rw [if_pos hn] at hclick
    split
    · exact .refl
    · rename_i runs buf hw
      rw [hw] at hclick
      split
      · rename_i hr
        subst hr
        unfold mbValveSingleControlWriteCallback
        dsimp only at hclick ⊢
        split
        · rename_i hb
          exact alarm_keyOnClick (hclick.trans (by simp [hb]))
        · rename_i hb
          exact alarm_keyOffClick (hclick.trans (by simp [hb]))
      · exact .refl
  · exact .refl

theorem alarm_mbWriteHolding (reg : Nat → UInt8) (usAddress usNRegs : UInt16)
    (he : e = .modbusHolding reg usAddress usNRegs) :
    AlarmPath s₀ e s₀.unit (mbWriteHolding reg usAddress usNRegs s₀).unit := by
  have hclick : e.click s₀ = mbHoldingClick reg usAddress usNRegs s₀ := by rw [he]; rfl
  unfold mbHoldingClick at hclick
  unfold mbWriteHolding
  dsimp only
  split
  · rename_i hn
    rw [if_pos hn] at hclick
    split
    · exact .refl
    · rename_i runs buf hw
      rw [hw] at hclick
      split
      · rename_i hr
        subst hr
        exact alarm_keyOffClick hclick
      · exact .refl
  · exact .refl

/-! heart.c, rtc.c and the timers. -/

theorem alarm_offlineUpload (mallocOk : Bool) : AlarmPath s₀ e u (gatewayWarningSlaverOffline mallocOk u) := by
  unfold gatewayWarningSlaverOffline
  split
  · exact alarm_upload ..
  · exact .refl

theorem alarm_deviceHeartCheck (he : e = .rtcDeviceHeartCheck) :
    AlarmPath s₀ e s₀.unit (aqDeviceHeartCheck s₀.unit) := by
  unfold aqDeviceHeartCheck
  dsimp only
  have hmark : AlarmPath s₀ e s₀.unit (s₀.unit.onStorage heartCheckMark) :=
    alarm_kept rfl fun a _ hf => Alarm.find_heartCheckMark hf
  refine hmark.trans ?_
  have hdoor : ∀ u : MainUnit, AlarmPath s₀ e u
      (if aqDeviceDoorOfflineFind u.storage then gatewayWarningSlaverOffline u.env.mallocDoorOffline u else u) := by
    intro u
    split
    · exact alarm_offlineUpload _
    · exact .refl
  refine ReflTransGen.trans ?_ (hdoor _)
  split
  · rename_i hfind
    obtain ⟨hcore, hstorage⟩ := offlineUpload_same (s₀.unit.onStorage heartCheckMark).env.mallocEndunitOffline
      (s₀.unit.onStorage heartCheckMark)
    refine (alarm_offlineUpload _).trans
      (alarm_raise (.offline he hfind) (by rw [hcore]; rfl) (by rw [hcore]; rfl) fun a ha => ?_)
    rw [hstorage]
    cases a with
    | offline => exact hfind
    | leak | lost => cases ha
  · exact .refl

theorem alarm_gatewayHeartCheck : AlarmPath s₀ e u (gatewayHeartCheck u) := by
  unfold gatewayHeartCheck
  split
  · exact .refl
  · split
    · exact alarm_causeless (.recvSet (aqGatewayFind u.storage) 0) trivial
    · exact .refl

theorem alarm_heartUpload : AlarmPath s₀ e u (heartThreadUpload u) := by
  unfold heartThreadUpload
  split
  · exact alarm_upload ..
  · exact .refl

theorem alarm_heartConnect : AlarmPath s₀ e u (heartConnectTimerCallback u) := by
  unfold heartConnectTimerCallback
  split
  · split
    · exact alarm_same (by simp [gatewayHeartUploadPoweron]) (by simp [gatewayHeartUploadPoweron])
    · exact .refl
  · exact .refl

theorem alarm_delayClose : AlarmPath s₀ e u (valveDelayCloseTimerCallback u) := by
  unfold valveDelayCloseTimerCallback
  split
  · rename_i hi
    exact (alarm_lockClose hi).trans (alarm_upload ..)
  · exact .refl

/-- A failed check raises the side's failure. -/
theorem alarm_valveFail {side : Side} (hr : Raises s₀.unit e side.failEvent) (hu : u.core.alarm = s₀.unit.core.alarm) :
    AlarmPath s₀ e u (warningEnable side.failEvent u) := by
  refine alarm_raise hr (congrArg AlarmView.deviceStatus hu) (congrArg AlarmView.nowEvent hu) fun a ha => ?_
  cases side <;> cases a <;> cases ha

theorem alarm_turnBack {side : Side} (he : e = .timer (.turnBack side)) (hu : u.core.alarm = s₀.unit.core.alarm)
    (henv : u.env = s₀.unit.env) : AlarmPath s₀ e u (turnBackTimerCallback side u) := by
  unfold turnBackTimerCallback
  split
  · exact alarm_silent rfl fun _ => rfl
  · rename_i hp
    refine ReflTransGen.trans ?_ (alarm_valveFail (.turnBack side he (henv ▸ hp)) hu)
    exact alarm_silent rfl fun _ => rfl

theorem alarm_turnCheck {side : Side} (he : e = .timer (.turnCheck side)) (hu : u.core.alarm = s₀.unit.core.alarm)
    (henv : u.env = s₀.unit.env) : AlarmPath s₀ e u (turnCheckTimerCallback side u) := by
  unfold turnCheckTimerCallback
  dsimp only
  split
  · refine ReflTransGen.trans ?_ (alarm_upload ..)
    split
    · -- both sides are good: a failure that shows is cleared
      obtain h | ⟨h, hd⟩ := valvefailWarningDisable_cases
        { u.core.setMotor side fun m => { m with mbValveCheckState := false } with valveValid := true }
      · refine alarm_silent ?_ fun _ => rfl
        simp only [MainUnit.onCore_core]
        rw [h]
        rfl
      · have hd' : u.core.deviceStatus = .valveLeftFail ∨ u.core.deviceStatus = .valveRightFail := hd
        refine (AlarmStep.cleared u.core.valveStatus ?_ ?_).path
        · rintro hl
          rw [hl] at hd'
          exact absurd hd' (by decide)
        · simp only [MainUnit.onCore_core]
          rw [h]
          rfl
    · exact alarm_silent rfl fun _ => rfl
  · rename_i hp
    refine ReflTransGen.trans ?_ (alarm_valveFail (.turnCheck side he (henv ▸ hp)) hu)
    exact alarm_silent rfl fun _ => rfl

theorem alarm_timer (t : Timer) (he : e = .timer t) : AlarmPath s₀ e s₀.unit (t.callback (t.disarm s₀.unit)) := by
  by_cases hl : t = .radioLearn
  · subst hl
    have hend : AlarmPath s₀ e s₀.unit
        ((Timer.radioLearn.disarm s₀.unit).onCore fun c => warningAllClear { c with allowAddDevice := false }) :=
      (AlarmStep.learnEnded s₀.unit.core.valveStatus rfl).path
    exact hend.trans alarm_connectStart
  · -- no other timer is one of the variables
    have hdisarm : AlarmPath s₀ e s₀.unit (t.disarm s₀.unit) := by
      refine alarm_silent ?_ fun a => ?_
      · cases t <;> first | exact absurd rfl hl | rfl
      · cases t <;> rfl
    refine hdisarm.trans ?_
    cases t with
    | radioLearn => exact absurd rfl hl
    | valveDelayClose => exact alarm_delayClose
    | valveDetectOnce => exact alarm_checkStart _
    | turnBack side => exact alarm_turnBack he rfl rfl
    | turnCheck side => exact alarm_turnCheck he rfl rfl
    | heartConnect => exact alarm_heartConnect

end

theorem alarm_handle (e : Event) (s : State) : AlarmPath s e s.unit (e.handle s).unit := by
  cases e with
  | radio rssi snr data len =>
    rw [Event.handle, radioProtocolParse_eq]
    split
    · rename_i ha
      exact alarm_dispatch rfl ⟨rssi, snr, data, len, rfl, ha, rfl⟩
    · exact .refl
  | keyOnClick => exact alarm_keyOnClick rfl
  | keyOffClick => exact alarm_keyOffClick rfl
  | keyOnLongHold => exact alarm_keyOnLongHold
  | keyOnLongFree => exact .refl
  | keyOffLongHold => exact alarm_keyOffLongHold
  | keyOffLongFree => exact .refl
  | modbusCoils reg usAddress usNCoils => exact alarm_mbWriteCoils reg usAddress usNCoils rfl
  | modbusHolding reg usAddress usNRegs => exact alarm_mbWriteHolding reg usAddress usNRegs rfl
  | dryContact level =>
    rw [Event.handle, dryContactPollingTimerCallback]
    split
    · exact alarm_dryContact level
    · exact .refl
  | rtcValveCheck => exact alarm_checkStart _
  | rtcDeviceHeartCheck => exact alarm_deviceHeartCheck rfl
  | rtcGatewayHeartCheck => exact alarm_gatewayHeartCheck
  | heartConnectStart => exact alarm_connectStart
  | heartUpload => exact alarm_heartUpload
  | rfAckInit => exact .refl
  | timer t => exact alarm_timer t rfl
  | reboot => exact (AlarmStep.booted (boot_alarm _)).path

/-- One step of the system, as alarm steps. -/
theorem alarm_next {cfg : Config} {s s' : State} {i : Env × Event} (h : (system cfg).next s i = some s') :
    AlarmPath (s.onUnit (MainUnit.begin i.1)) i.2 (s.unit.begin i.1) s'.unit := by
  obtain ⟨_, rfl⟩ := system_next_eq_some.1 h
  exact alarm_handle i.2 (s.onUnit (MainUnit.begin i.1))

end Aqualarm
