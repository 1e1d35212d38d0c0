import Aqualarm.Records
import Aqualarm.AlarmHandlers

/-
  The records over whole runs.

  What is proved:
    1. `save_handle` — every event but a valve command of a node changes the
       storage by steps that keep the records (`SavePath`).
    2. `command_records` — what a valve command does to each node and its record.
    3. `write_through_iff` — in an undisturbed run every node agrees with its
       record in every state, exactly when no `rssi_level` is assigned that is
       not saved before the frame ends.

  `aq_device_rssi_level_set` saves a level that differs from the node's; the
  valve handlers assign it first, and then nothing differs.
-/

namespace Aqualarm

open Lib Relation

/-! What does not touch the registry. -/

section
variable {u : MainUnit} {rx : RxFrame}

theorem save_same {u' : MainUnit} (h : u'.storage = u.storage) : SavePath u.storage u'.storage := by rw [h]

theorem openAndReport_storage (u : MainUnit) : (openAndReport u).storage = u.storage := by
  unfold openAndReport
  dsimp only
  split
  · exact gatewayUpload_storage ..
  · rfl

theorem closeAndReport_storage (u : MainUnit) : (closeAndReport u).storage = u.storage := by
  unfold closeAndReport
  dsimp only
  split
  · exact gatewayUpload_storage ..
  · rfl

theorem keyOnClick_storage (u : MainUnit) : (keyOnClickHandle u).storage = u.storage := by
  unfold keyOnClickHandle
  split
  · exact openAndReport_storage u
  · exact openAndReport_storage u
  · split
    · exact openAndReport_storage u
    · rfl
  · exact openAndReport_storage u
  · rfl

theorem keyOffClick_storage (u : MainUnit) : (keyOffClickHandle u).storage = u.storage := by
  unfold keyOffClickHandle
  split
  · exact closeAndReport_storage u
  · split
    · exact closeAndReport_storage u
    · rfl
  · exact closeAndReport_storage u
  · exact gatewayUpload_storage ..
  · rfl

theorem dryContact_storage (level : PinLevel) (u : MainUnit) : (valveDryContactControl level u).storage = u.storage := by
  unfold valveDryContactControl
  split
  · cases level with
    | pinHigh => exact closeAndReport_storage u
    | pinLow => exact openAndReport_storage u
  · rfl

theorem startLearn_storage (u : MainUnit) : (radioStartLearnDevice u).storage = u.storage := by
  unfold radioStartLearnDevice
  split
  · rfl
  · split
    · exact (gatewayConnectStart_core _).2
    · rfl

theorem heartConnect_storage (u : MainUnit) : (heartConnectTimerCallback u).storage = u.storage := by
  unfold heartConnectTimerCallback
  split
  · split
    · simp [gatewayHeartUploadPoweron]
    · rfl
  · rfl

theorem heartUpload_storage (u : MainUnit) : (heartThreadUpload u).storage = u.storage := by
  unfold heartThreadUpload
  split
  · exact gatewayUpload_storage ..
  · rfl

theorem offlineCheck_storage (u : MainUnit) : (warningOfflineCheck u).storage = u.storage := by
  unfold warningOfflineCheck
  split
  · split <;> rfl
  · rfl

/-! Locking, warnings and resets. -/

/-- At most the lock is written. -/
def LockWritten (st st' : Storage) : Prop := st' = st ∨ ∃ value, st' = flashSetKey .valveLock value st

theorem LockWritten.path {st st' : Storage} (h : LockWritten st st') : SavePath st st' := by
  obtain rfl | ⟨value, rfl⟩ := h
  · exact .refl
  · exact .single (.lock st value)

theorem LockWritten.records {st st' : Storage} (h : LockWritten st st') : st'.records = st.records := by
  obtain rfl | ⟨value, rfl⟩ := h
  · rfl
  · exact records_congr rfl (flashSetKey_index ..)

theorem valveLock_written (u : MainUnit) : LockWritten u.storage (valveLock u).storage := by
  unfold valveLock
  split
  · exact Or.inr ⟨_, rfl⟩
  · exact Or.inl rfl

theorem valveUnlock_written (u : MainUnit) : LockWritten u.storage (valveUnlock u).storage := by
  unfold valveUnlock
  split
  · exact Or.inr ⟨_, rfl⟩
  · exact Or.inl rfl

theorem warningEnable_written (w : Warning) (u : MainUnit) : LockWritten u.storage (warningEnable w u).storage :=
  (warningEnable_storage_cases w u).imp id fun h => ⟨1, h⟩

theorem save_warning (w : Warning) {st : Storage} (h : u.storage = st) : SavePath st (warningEnable w u).storage := by
  subst h
  exact (warningEnable_written w u).path

theorem save_op (op : RegOp) (hc : ∀ mallocOk rssiLevel type deviceId, op ≠ .create mallocOk rssiLevel type deviceId)
    (hk : op.KeepsRecords) (st : Storage) : SavePath st (op.apply st) := .single (.op st op hc hk)

/-- Everything a reset does after reading the flash. -/
theorem save_booted {st : Storage} (hst : reloaded u.storage = st) : SavePath st u.boot.storage := by
  subst hst
  unfold MainUnit.boot
  dsimp only
  rw [MainUnit.onStorage_storage, ← reloaded]
  refine ReflTransGen.tail ?_ (.op _ .heartRecvClear (by simp) trivial)
  unfold valveInit
  dsimp only
  split
  · exact save_warning _ rfl
  · exact .refl

theorem save_boot (u : MainUnit) : SavePath u.storage u.boot.storage :=
  ReflTransGen.head (.reload u.storage) (save_booted rfl)

/-! Frames. -/

/-- What hearing from a listed source does, as a chain of operations. -/
def heardOps (rx : RxFrame) : List RegOp :=
  [.recvWrite rx.sourceAddr 1, .onlineSet rx.sourceAddr 1, .rssiLevelSet rx.sourceAddr rx.rssiLevel]

theorem heartRecv_ops {st : Storage} (hl : Listed rx.sourceAddr st) :
    (aqDeviceHeartRecv rx st).2 = (heardOps rx).foldl (fun st op => op.apply st) st := by
  obtain ⟨device, hd⟩ := Option.isSome_iff_exists.1 (aqDeviceFind_isSome.2 hl)
  simp [aqDeviceHeartRecv, hd, heardOps, RegOp.apply]

theorem save_heard (rx : RxFrame) (st : Storage) : SavePath st (aqDeviceHeartRecv rx st).2 := by
  by_cases hl : Listed rx.sourceAddr st
  · rw [heartRecv_ops hl]
    exact ((save_op (.recvWrite rx.sourceAddr 1) (by simp) trivial st).trans
      (save_op (.onlineSet rx.sourceAddr 1) (by simp) trivial _)).trans
      (save_op (.rssiLevelSet rx.sourceAddr rx.rssiLevel) (by simp) trivial _)
  · rw [aqDeviceHeartRecv, aqDeviceFind_eq_none.2 hl]

theorem save_learned (hm : u.env.mallocDevice = true) : SavePath u.storage (learnedRegistry rx u) := by
  unfold learnedRegistry
  split
  · rw [hm]
    exact .single (.learn ..)
  · exact .refl

theorem save_endunitLearn (hm : u.env.mallocDevice = true) (ht : rx.deviceType = deviceTypeEndunit)
    (hl : rx.rxData 0 = learnDeviceCmd) : SavePath u.storage (radioFrameEndunitParseLearn rx u).storage := by
  by_cases hadd : rx.rxData 2 = 1 ∧ rx.destAddr = getLocalAddress u
  · rw [endunitLearn_storage ⟨hl, hadd.1, hadd.2, Or.inr (Or.inl ht)⟩ ht, hm]
    exact .single (.learn ..)
  · refine save_same ?_
    unfold radioFrameEndunitParseLearn
    split
    · rfl
    · split
      · rename_i hd
        dsimp only
        rw [if_neg fun hs => hadd ⟨hs, hd⟩]
        split
        · exact startLearn_storage _
        · rfl
      · rfl

theorem save_endunitHeart (device : Device) : SavePath u.storage (radioFrameEndunitParseHeart rx device u).storage := by
  rw [endunitHeart_eq]
  refine ReflTransGen.trans ?_ (save_same (gatewayUpload_storage ..))
  unfold endunitHeartBefore
  dsimp only
  refine (save_op (.batterySet device.deviceId (rx.rxData 2)) (by simp) trivial u.storage).trans ?_
  split
  · exact save_warning _ rfl
  · split
    · exact save_warning _ rfl
    · exact .refl

theorem save_endunitWarn (device : Device) : SavePath u.storage (radioFrameEndunitParseWarn rx device u).storage := by
  unfold radioFrameEndunitParseWarn
  dsimp only
  split
  · refine ReflTransGen.trans ?_ (save_same (gatewayUpload_storage ..))
    refine (save_op (.waterleakSet device.deviceId (rx.rxData 3)) (by simp) trivial u.storage).trans ?_
    split
    · exact save_warning _ rfl
    · split
      · split <;> exact .refl
      · exact .refl
  · split
    · refine ReflTransGen.trans ?_ (save_same (gatewayUpload_storage ..))
      refine (save_op (.wirelostSet device.deviceId (rx.rxData 3)) (by simp) trivial u.storage).trans ?_
      split
      · exact save_warning _ rfl
      · split
        · split <;> exact .refl
        · exact .refl
    · exact .refl

theorem save_doorunitHeart (device : Device) : SavePath u.storage (radioFrameDoorunitParseHeart rx device u).storage := by
  unfold radioFrameDoorunitParseHeart
  dsimp only
  split
  · refine ReflTransGen.trans ?_ (save_same (gatewayUpload_storage ..))
    exact save_op (.batterySet device.deviceId (rx.rxData 3)) (by simp) trivial u.storage
  · exact .refl

theorem save_motionHeart (device : Device) : SavePath u.storage (radioFrameMotionParseHeart rx device u).storage :=
  save_same (gatewayUpload_storage ..)

/-- A valve command of a node: the frames whose handlers assign `rssi_level`. -/
structure RxFrame.Commands (rx : RxFrame) (u : MainUnit) (device : Device) : Prop where
  deviceType : rx.deviceType = deviceTypeMotionSensor ∨ rx.deviceType = deviceTypeEndunit ∨
    rx.deviceType = deviceTypeDoorunit
  command : rx.rxData 0 = controlValveCmd
  toUnit : rx.destAddr = getLocalAddress u
  found : aqDeviceFind rx.sourceAddr u.storage = some device

theorem save_endunitParse (hm : u.env.mallocDevice = true) (ht : rx.deviceType = deviceTypeEndunit)
    (hno : ∀ device, ¬ rx.Commands u device) : SavePath u.storage (radioFrameEndunitParse rx u).storage := by
  rw [endunitParse_eq]
  by_cases hl : rx.rxData 0 = learnDeviceCmd
  · have hlearn := save_endunitLearn hm ht hl
    refine nodeParse_learn (P := fun u' => SavePath u.storage u'.storage) hl (endunitServe_learn hl) (fun _ => hlearn)
      fun _ _ _ => ?_
    rw [offlineCheck_storage]
    exact hlearn.trans (save_heard rx _)
  · refine nodeParse_command (P := fun u' => SavePath u.storage u'.storage) hl .refl fun device hfind hd => ?_
    rw [offlineCheck_storage]
    refine ReflTransGen.trans ?_ (save_heard rx _)
    unfold endunitServe
    split
    · exact save_endunitHeart device
    · split
      · rename_i hc
        exact absurd ⟨Or.inr (Or.inl ht), hc, hd, hfind⟩ (hno device)
      · split
        · exact save_endunitWarn device
        · exact .refl

theorem save_doorunitParse (hm : u.env.mallocDevice = true) (ht : rx.deviceType = deviceTypeDoorunit)
    (hno : ∀ device, ¬ rx.Commands u device) : SavePath u.storage (radioFrameDoorunitParse rx u).storage := by
  rw [doorunitParse_eq]
  by_cases hl : rx.rxData 0 = learnDeviceCmd
  · have hlearn : SavePath u.storage (radioFrameDoorunitParseLearn rx u).storage := by
      rw [(doorunitLearn_alarm ht hl u).2]
      exact save_learned hm
    exact nodeParse_learn (P := fun u' => SavePath u.storage u'.storage) hl (doorunitServe_learn hl) (fun _ => hlearn)
      fun _ _ _ => hlearn.trans (save_heard rx _)
  · refine nodeParse_command (P := fun u' => SavePath u.storage u'.storage) hl .refl fun device hfind hd => ?_
    refine ReflTransGen.trans ?_ (save_heard rx _)
    unfold doorunitServe
    split
    · exact save_doorunitHeart device
    · split
      · rename_i hc
        exact absurd ⟨Or.inr (Or.inr ht), hc, hd, hfind⟩ (hno device)
      · exact .refl

theorem save_motionParse (hm : u.env.mallocDevice = true) (ht : rx.deviceType = deviceTypeMotionSensor)
    (hno : ∀ device, ¬ rx.Commands u device) : SavePath u.storage (radioFrameMotionParse rx u).storage := by
  rw [motionParse_eq]
  by_cases hl : rx.rxData 0 = learnDeviceCmd
  · have hlearn : SavePath u.storage (radioFrameMotionParseLearn rx u).storage := by
      rw [(motionLearn_alarm ht hl u).2]
      exact save_learned hm
    exact nodeParse_learn (P := fun u' => SavePath u.storage u'.storage) hl (motionServe_learn hl) (fun _ => hlearn)
      fun _ _ _ => hlearn.trans (save_heard rx _)
  · refine nodeParse_command (P := fun u' => SavePath u.storage u'.storage) hl .refl fun device hfind hd => ?_
    refine ReflTransGen.trans ?_ (save_heard rx _)
    unfold motionServe
    split
    · exact save_motionHeart device
    · split
      · rename_i hc
        exact absurd ⟨Or.inl ht, hc, hd, hfind⟩ (hno device)
      · exact .refl

theorem save_gatewayLearn (hm : u.env.mallocDevice = true) (ht : rx.deviceType = deviceTypeGateway)
    (hl : rx.rxData 0 = learnDeviceCmd) : SavePath u.storage (radioFrameGatewayParseLearn rx u).storage := by
  by_cases hadd : rx.rxData 2 = 1 ∧ rx.destAddr = getLocalAddress u
  · rw [gatewayLearn_storage ⟨hl, hadd.1, hadd.2, Or.inr (Or.inr (Or.inr ht))⟩ ht, hm]
    exact .single (.learn ..)
  · refine save_same ?_
    unfold radioFrameGatewayParseLearn
    split
    · exact radioGatewayCommandSend_storage ..
    · split
      · rename_i hd
        rw [if_neg fun hs => hadd ⟨hs, hd⟩]
      · rfl

theorem save_gatewayControl : SavePath u.storage (radioFrameGatewayParseControl rx u).storage := by
  unfold radioFrameGatewayParseControl
  dsimp only
  split
  · split
    · exact save_same (gatewayUpload_storage ..)
    · exact .refl
  · split
    · split
      · exact (valveUnlock_written u).path.trans (save_same (gatewayUpload_storage ..))
      · exact .refl
    · exact .refl

theorem onOta_storage (f : Ota → Option OtaReply × Ota) (s : State) :
    (s.onOta f).unit.storage = s.unit.storage := by
  unfold State.onOta
  dsimp only
  split
  · rename_i reply _
    cases reply <;> exact gatewayUpload_storage ..
  · rfl

theorem save_gatewayOta {s : State} : SavePath s.unit.storage (radioFrameGatewayParseOta rx s).unit.storage := by
  rw [gatewayParseOta_eq]
  split
  · exact save_same (onOta_storage _ s)
  · split
    · exact save_same (onOta_storage _ s)
    · split
      · exact (save_same (gatewayUpload_storage ..)).trans (save_boot _)
      · exact .refl

theorem save_gatewayParse {s : State} (hm : s.unit.env.mallocDevice = true) (ht : rx.deviceType = deviceTypeGateway) :
    SavePath s.unit.storage (radioFrameGatewayParse rx s).unit.storage := by
  have hrecv : ∀ st : Storage, SavePath st (aqDeviceRecvSet rx.sourceAddr 1 st) :=
    save_op (.recvSet rx.sourceAddr 1) (by simp) trivial
  unfold radioFrameGatewayParse
  dsimp only
  by_cases hl : rx.rxData 0 = learnDeviceCmd
  · simp only [hl, if_true, (by decide : learnDeviceCmd ≠ controlValveCmd),
      (by decide : learnDeviceCmd ≠ deviceSyncCmd), (by decide : learnDeviceCmd ≠ confirmAckCmd),
      (by decide : learnDeviceCmd ≠ firmwareUpdateCmd), if_false]
    refine (save_gatewayLearn hm ht hl).trans ?_
    split
    · exact .refl
    · split
      · exact .refl
      · exact hrecv _
  · simp only [if_neg hl]
    split
    · exact .refl
    · split
      · exact .refl
      · have hfirst : SavePath s.unit.storage
            (s.onUnit (MainUnit.onStorage (aqDeviceRecvSet rx.sourceAddr 1))).unit.storage := hrecv s.unit.storage
        refine hfirst.trans ?_
        generalize s.onUnit (MainUnit.onStorage (aqDeviceRecvSet rx.sourceAddr 1)) = s₁
        split
        · exact save_gatewayControl
        · split
          · rw [State.onUnit_unit, gatewayParseSync_eq]
            split
            · unfold gatewaySyncDeviceUpload
              split
              · exact save_same (gatewayUpload_storage ..)
              · exact .refl
            · split
              · exact save_op (.delete rx.word) (by simp) trivial _
              · exact .refl
          · split
            · exact .refl
            · split
              · exact save_gatewayOta
              · exact .refl

theorem save_dispatch {s : State} (hm : s.unit.env.mallocDevice = true) (hno : ∀ device, ¬ rx.Commands s.unit device) :
    SavePath s.unit.storage (radioFrameDispatch rx s).unit.storage := by
  unfold radioFrameDispatch
  split
  · rename_i ht
    exact save_motionParse hm ht hno
  · split
    · rename_i ht
      exact save_endunitParse hm ht hno
    · split
      · rename_i ht
        exact save_doorunitParse hm ht hno
      · split
        · rename_i ht
          exact save_gatewayParse hm ht
        · split
          · rw [factoryParse_unit]
          · exact .refl

/-! The other events. -/

theorem save_heartCheck (u : MainUnit) : SavePath u.storage (aqDeviceHeartCheck u).storage := by
  have hmark : ∀ (nodes : List Nat) (st : Storage), SavePath st (nodes.foldl heartCheckTurn st) := by
    intro nodes
    induction nodes with
    | nil => exact fun st => .refl
    | cons node nodes ih =>
      intro st
      refine ReflTransGen.trans ?_ (ih _)
      rcases heartCheckTurn_cases st node with hturn | ⟨op, rfl | ⟨deviceId, rfl⟩, hturn⟩
      · rw [hturn]
      · rw [hturn]
        exact save_op (.recvClear node) (by simp) trivial st
      · rw [hturn]
        exact save_op (.onlineSet deviceId 0) (by simp) trivial st
  have hoffline : ∀ (mallocOk : Bool) (u : MainUnit),
      (gatewayWarningSlaverOffline mallocOk u).storage = u.storage := fun mallocOk u => (offlineUpload_same mallocOk u).2
  unfold aqDeviceHeartCheck
  dsimp only
  refine (hmark (List.range u.storage.deviceList.length) u.storage).trans ?_
  have hdoor : ∀ u : MainUnit, SavePath u.storage
      (if aqDeviceDoorOfflineFind u.storage then gatewayWarningSlaverOffline u.env.mallocDoorOffline u else u).storage := by
    intro u
    split
    · exact save_same (hoffline _ _)
    · exact .refl
  refine ReflTransGen.trans ?_ (hdoor _)
  split
  · exact save_warning _ (hoffline _ _)
  · exact .refl

theorem save_gatewayHeartCheck (u : MainUnit) : SavePath u.storage (gatewayHeartCheck u).storage := by
  unfold gatewayHeartCheck
  split
  · exact .refl
  · split
    · exact save_op (.recvSet (aqGatewayFind u.storage) 0) (by simp) trivial u.storage
    · exact .refl

theorem turnBack_written (side : Side) (u : MainUnit) :
    LockWritten u.storage (turnBackTimerCallback side u).storage := by
  unfold turnBackTimerCallback
  split
  · exact Or.inl rfl
  · exact warningEnable_written _ _

theorem turnCheck_written (side : Side) (u : MainUnit) :
    LockWritten u.storage (turnCheckTimerCallback side u).storage := by
  unfold turnCheckTimerCallback
  dsimp only
  split
  · refine Or.inl ((gatewayUpload_storage ..).trans ?_)
    split <;> rfl
  · have hwarned : ∀ u₁ : MainUnit, u₁.storage = u.storage →
        LockWritten u.storage (warningEnable side.failEvent u₁).storage := by
      intro u₁ hu₁
      rw [← hu₁]
      exact warningEnable_written _ u₁
    exact hwarned _ rfl

theorem timer_written (t : Timer) (u : MainUnit) : LockWritten u.storage (t.callback (t.disarm u)).storage := by
  rw [← (disarm_alarm t u).2.2.2.2]
  generalize t.disarm u = u
  cases t with
  | radioLearn => exact Or.inl (radioLearnTimerCallback_spec u).2
  | valveDelayClose =>
    unfold Timer.callback valveDelayCloseTimerCallback
    dsimp only
    split
    · have hclosed : (gatewayControlMasterControl 0 ((valveLock u).onCore fun c => (valveClose c).2)).storage =
          (valveLock u).storage := gatewayUpload_storage ..
      rw [hclosed]
      exact valveLock_written u
    · exact Or.inl rfl
  | valveDetectOnce => exact Or.inl rfl
  | turnBack side => exact turnBack_written side u
  | turnCheck side => exact turnCheck_written side u
  | heartConnect => exact Or.inl (heartConnect_storage u)

theorem save_keyOnOffLongClick (s : State) : SavePath s.unit.storage (keyOnOffLongClickHandle s).unit.storage := by
  unfold keyOnOffLongClickHandle
  split
  · split
    · have herase : SavePath (gatewaySyncDeviceReset s.unit).storage
          (reloaded { (gatewaySyncDeviceReset s.unit).storage with flash := Flash.default }) := .single (.erase _)
      exact ((save_same (gatewayUpload_storage ..)).trans herase).trans (save_booted rfl)
    · exact .refl
  · exact .refl

theorem mbWriteCoils_storage (reg : Nat → UInt8) (usAddress usNCoils : UInt16) (s : State) :
    (mbWriteCoils reg usAddress usNCoils s).unit.storage = s.unit.storage := by
  unfold mbWriteCoils
  dsimp only
  split
  · split
    · rfl
    · split
      · unfold mbValveSingleControlWriteCallback
        split
        · exact keyOnClick_storage s.unit
        · exact keyOffClick_storage s.unit
      · rfl
  · rfl

theorem mbWriteHolding_storage (reg : Nat → UInt8) (usAddress usNRegs : UInt16) (s : State) :
    (mbWriteHolding reg usAddress usNRegs s).unit.storage = s.unit.storage := by
  unfold mbWriteHolding
  dsimp only
  split
  · split
    · rfl
    · split
      · exact keyOffClick_storage s.unit
      · rfl
  · rfl

/-- Every event but a valve command keeps the records. -/
theorem save_handle {e : Event} {s : State} (hm : s.unit.env.mallocDevice = true)
    (hno : ∀ rx device, e.Frame s.unit rx → ¬ rx.Commands s.unit device) :
    SavePath s.unit.storage (e.handle s).unit.storage := by
  cases e with
  | radio rssi snr data len =>
    rw [Event.handle, radioProtocolParse_eq]
    split
    · rename_i ha
      exact save_dispatch hm fun device => hno _ device ⟨rssi, snr, data, len, rfl, ha, rfl⟩
    · exact .refl
  | keyOnClick => exact save_same (keyOnClick_storage s.unit)
  | keyOffClick => exact save_same (keyOffClick_storage s.unit)
  | keyOnLongHold =>
    unfold Event.handle keyOnLongHoldHandle
    dsimp only
    split
    · exact .refl
    · split
      · exact save_keyOnOffLongClick s
      · split <;> exact .refl
  | keyOffLongHold =>
    unfold Event.handle keyOffLongHoldHandle
    dsimp only
    split
    · exact .refl
    · split
      · exact save_keyOnOffLongClick s
      · split
        · exact save_same (startLearn_storage s.unit)
        · exact .refl
  | modbusCoils reg usAddress usNCoils => exact save_same (mbWriteCoils_storage reg usAddress usNCoils s)
  | modbusHolding reg usAddress usNRegs => exact save_same (mbWriteHolding_storage reg usAddress usNRegs s)
  | dryContact level =>
    rw [Event.handle, dryContactPollingTimerCallback]
    split
    · exact save_same (dryContact_storage level s.unit)
    · exact .refl
  | rtcDeviceHeartCheck => exact save_heartCheck s.unit
  | rtcGatewayHeartCheck => exact save_gatewayHeartCheck s.unit
  | heartConnectStart => exact save_same (gatewayConnectStart_core s.unit).2
  | heartUpload => exact save_same (heartUpload_storage s.unit)
  | timer t => exact (timer_written t s.unit).path
  | reboot => exact save_boot s.unit
  | keyOnLongFree | keyOffLongFree | rtcValveCheck | rfAckInit => exact .refl

/-! Valve commands. -/

/-- What the handler itself does to the list: the assignment, and for an end
unit's close command the leak is cleared. -/
def assignOps (rx : RxFrame) : List RegOp :=
  .rssiLevelWrite rx.sourceAddr rx.rssiLevel ::
    if rx.deviceType = deviceTypeEndunit ∧ rx.rxData 2 = 0 then [.waterleakSet rx.sourceAddr 0] else []

theorem endunitValve_written {device : Device} (hid : device.deviceId = rx.sourceAddr)
    (ht : rx.deviceType = deviceTypeEndunit) :
    LockWritten ((assignOps rx).foldl (fun st op => op.apply st) u.storage)
      (radioFrameEndunitParseValve rx device u).storage := by
  unfold radioFrameEndunitParseValve assignOps
  dsimp only
  rw [hid]
  by_cases hv : rx.rxData 2 = 0
  · rw [if_neg (not_not.2 hv), if_pos ⟨ht, hv⟩]
    split
    · split <;> exact Or.inl rfl
    · split
      · rw [gatewayControlSlaverControl, gatewayUpload_storage]
        exact valveLock_written _
      · split
        · exact Or.inl (gatewayUpload_storage ..)
        · exact Or.inl rfl
  · rw [if_pos hv, if_neg fun h => hv h.2]
    split
    · rw [gatewayControlSlaverControl, gatewayUpload_storage]
      exact valveUnlock_written _
    · exact Or.inl rfl

theorem doorunitValve_written {device : Device} (hid : device.deviceId = rx.sourceAddr)
    (ht : rx.deviceType = deviceTypeDoorunit) :
    LockWritten ((assignOps rx).foldl (fun st op => op.apply st) u.storage)
      (radioFrameDoorunitParseValve rx device u).storage := by
  unfold radioFrameDoorunitParseValve assignOps
  dsimp only
  rw [hid, if_neg (by rw [ht]; exact fun h => absurd h.1 (by decide))]
  split_ifs
  · rw [gatewayControlDoorControl, gatewayUpload_storage]
    exact valveLock_written _
  · exact Or.inl (gatewayUpload_storage ..)
  · exact Or.inl rfl
  · rw [gatewayControlDoorControl, gatewayUpload_storage]
    exact valveUnlock_written _
  · exact Or.inl rfl
  · exact Or.inl (gatewayUpload_storage ..)
  · exact Or.inl rfl
  · exact Or.inl (gatewayUpload_storage ..)
  · exact Or.inl rfl

theorem motionControl_written {device : Device} (hid : device.deviceId = rx.sourceAddr)
    (ht : rx.deviceType = deviceTypeMotionSensor) :
    LockWritten ((assignOps rx).foldl (fun st op => op.apply st) u.storage)
      (radioFrameMotionParseControl rx device u).storage := by
  unfold radioFrameMotionParseControl assignOps
  dsimp only
  rw [hid, if_neg (by rw [ht]; exact fun h => absurd h.1 (by decide))]
  split_ifs
  · rw [gatewayControlMotionSensorControl, gatewayUpload_storage]
    exact valveUnlock_written _
  · exact Or.inl rfl
  · exact Or.inl (gatewayUpload_storage ..)
  · exact Or.inl rfl

/-- A valve command assigns, may write the lock, and then the source is heard. -/
theorem command_storage {s : State} {device : Device} (h : rx.Commands s.unit device) :
    ∃ st, LockWritten ((assignOps rx).foldl (fun st op => op.apply st) s.unit.storage) st ∧
      (radioFrameDispatch rx s).unit.storage = (aqDeviceHeartRecv rx st).2 := by
  obtain ⟨ht, hc, hd, hfind⟩ := h
  have hid : device.deviceId = rx.sourceAddr := by simpa using List.find?_some hfind
  unfold radioFrameDispatch
  rcases ht with ht | ht | ht
  · refine ⟨_, motionControl_written hid ht, ?_⟩
    rw [if_pos ht, State.onUnit_unit, radioFrameMotionParse]
    simp [hfind, hc, hd, (by decide : controlValveCmd ≠ learnDeviceCmd), (by decide : controlValveCmd ≠ heartUploadCmd)]
  · refine ⟨_, endunitValve_written hid ht, ?_⟩
    rw [if_neg (by rw [ht]; decide), if_pos ht, State.onUnit_unit, radioFrameEndunitParse]
    simp [hfind, hc, hd, (by decide : controlValveCmd ≠ learnDeviceCmd), (by decide : controlValveCmd ≠ heartUploadCmd),
      offlineCheck_storage]
  · refine ⟨_, doorunitValve_written hid ht, ?_⟩
    rw [if_neg (by rw [ht]; decide), if_neg (by rw [ht]; decide), if_pos ht, State.onUnit_unit, radioFrameDoorunitParse]
    simp [hfind, hc, hd, (by decide : controlValveCmd ≠ learnDeviceCmd), (by decide : controlValveCmd ≠ heartUploadCmd)]

theorem assignOps_byId : ∀ op ∈ assignOps rx, op.ById := by
  intro op hop
  unfold assignOps at hop
  split at hop <;> simp only [List.mem_cons, List.not_mem_nil, or_false] at hop <;> rcases hop with rfl | rfl <;> trivial

theorem heardOps_byId : ∀ op ∈ heardOps rx, op.ById := by
  intro op hop
  simp only [heardOps, List.mem_cons, List.not_mem_nil, or_false] at hop
  rcases hop with rfl | rfl | rfl <;> trivial

theorem foldl_regInv {ops : List RegOp} (hops : ∀ op ∈ ops, op.ById) {st : Storage} (hi : RegInv st)
    (hw : st.WritesOk) :
    RegInv (ops.foldl (fun st op => op.apply st) st) ∧ (ops.foldl (fun st op => op.apply st) st).WritesOk ∧
      ∀ a, Listed a (ops.foldl (fun st op => op.apply st) st) ↔ Listed a st := by
  induction ops generalizing st with
  | nil => exact ⟨hi, hw, fun _ => Iff.rfl⟩
  | cons op ops ih =>
    have hop : op.InPlace := (hops op (List.mem_cons_self ..)).inPlace
    obtain ⟨h₁, h₂, h₃⟩ := ih (fun o ho => hops o (List.mem_cons_of_mem _ ho)) (hi.inPlace hop hw)
      (fun n => by rw [(op.frame st).writeOk]; exact hw n)
    exact ⟨h₁, h₂, fun a => (h₃ a).trans hop.listed⟩

/-- Each node and its record after a valve command. -/
theorem command_records {s : State} {device : Device} (h : rx.Commands s.unit device) (hi : RegInv s.unit.storage)
    (hw : s.unit.storage.WritesOk) :
    (radioFrameDispatch rx s).unit.storage.records =
      s.unit.storage.records.map fun p => (assignOps rx ++ heardOps rx).foldl (fun p op => op.track p) p := by
  obtain ⟨st, hst, hfinal⟩ := command_storage h
  obtain ⟨hbase, hwbase, hlisted⟩ := foldl_regInv (@assignOps_byId rx) hi hw
  have hl : Listed rx.sourceAddr ((assignOps rx).foldl (fun st op => op.apply st) s.unit.storage) :=
    (hlisted _).2 (aqDeviceFind_isSome.1 (by rw [h.found]; rfl))
  have hst' : RegInv st ∧ st.WritesOk ∧ Listed rx.sourceAddr st := by
    obtain rfl | ⟨value, rfl⟩ := hst
    · exact ⟨hbase, hwbase, hl⟩
    · exact ⟨⟨hbase.slots.lock value, hbase.ids⟩, hwbase, hl⟩
  rw [hfinal, heartRecv_ops hst'.2.2, records_foldl heardOps_byId hst'.1 hst'.2.1, hst.records,
    records_foldl assignOps_byId hi hw, List.map_map]
  refine List.map_congr_left fun p _ => ?_
  rw [Function.comp_apply, List.foldl_append]

/-- The other nodes are left alone. -/
theorem command_track_other {p : Device × Option Device} (h : p.1.deviceId ≠ rx.sourceAddr) :
    (assignOps rx ++ heardOps rx).foldl (fun p op => op.track p) p = p := by
  have hfix : ∀ op ∈ assignOps rx ++ heardOps rx, op.track p = p := by
    intro op hop
    have hkeep : op.change p.1 = p.1 := by
      unfold assignOps heardOps at hop
      rw [List.mem_append] at hop
      split at hop <;> simp only [List.mem_cons, List.not_mem_nil, or_false] at hop <;>
        rcases hop with (rfl | rfl) | rfl | rfl | rfl <;> simp [RegOp.change, setDevice, h]
    unfold RegOp.track
    rw [hkeep, if_neg fun hc => hc.2 rfl]
  generalize assignOps rx ++ heardOps rx = ops at hfix
  induction ops with
  | nil => rfl
  | cons op ops ih =>
    rw [List.foldl_cons, hfix op (List.mem_cons_self ..)]
    exact ih fun o ho => hfix o (List.mem_cons_of_mem _ ho)

/-- The assignments, and the setters with nothing or something to change. -/
theorem track_assign {op : RegOp} (h : ¬ op.Saving) (p : Device × Option Device) : op.track p = (op.change p.1, p.2) := by
  unfold RegOp.track
  rw [if_neg fun hc => h hc.1]

/-- The commanding node ends equal to its record when its level was the frame's,
or one of the setters on the way saves it. -/
theorem command_track {d r : Device} (hid : d.deviceId = rx.sourceAddr) (ha : d.Agrees r) :
    (∃ r' ∈ ((assignOps rx ++ heardOps rx).foldl (fun p op => op.track p) (d, some r)).2,
        ((assignOps rx ++ heardOps rx).foldl (fun p op => op.track p) (d, some r)).1.Agrees r') ↔
      d.rssiLevel = rx.rssiLevel ∨ d.online ≠ 1 ∨
        rx.deviceType = deviceTypeEndunit ∧ rx.rxData 2 = 0 ∧ d.waterleak ≠ 0 := by
  have hleakSet : ∀ p, (RegOp.waterleakSet rx.sourceAddr 0).track p =
      if p.1.deviceId = rx.sourceAddr ∧ p.1.waterleak ≠ 0 then
        ({ p.1 with waterleak := 0 }, some { p.1 with waterleak := 0 }) else p :=
    @track_setter (.waterleakSet rx.sourceAddr 0) Device.waterleak (fun v d => { d with waterleak := v }) rx.sourceAddr 0 rfl trivial
      fun d h => by rw [← h]
  have honlineSet : ∀ p, (RegOp.onlineSet rx.sourceAddr 1).track p =
      if p.1.deviceId = rx.sourceAddr ∧ p.1.online ≠ 1 then
        ({ p.1 with online := 1 }, some { p.1 with online := 1 }) else p :=
    @track_setter (.onlineSet rx.sourceAddr 1) Device.online (fun v d => { d with online := v }) rx.sourceAddr 1 rfl trivial
      fun d h => by rw [← h]
  have hlevelSet : ∀ p, (RegOp.rssiLevelSet rx.sourceAddr rx.rssiLevel).track p =
      if p.1.deviceId = rx.sourceAddr ∧ p.1.rssiLevel ≠ rx.rssiLevel then
        ({ p.1 with rssiLevel := rx.rssiLevel }, some { p.1 with rssiLevel := rx.rssiLevel }) else p :=
    @track_setter (.rssiLevelSet rx.sourceAddr rx.rssiLevel) Device.rssiLevel (fun v d => { d with rssiLevel := v }) rx.sourceAddr rx.rssiLevel rfl trivial
      fun d h => by rw [← h]
  have hassign : ∀ p : Device × Option Device, p.1.deviceId = rx.sourceAddr →
      (RegOp.rssiLevelWrite rx.sourceAddr rx.rssiLevel).track p = ({ p.1 with rssiLevel := rx.rssiLevel }, p.2) := by
    intro p hp
    rw [track_assign id]
    simp [RegOp.change, hp]
  have hrecv : ∀ p : Device × Option Device, p.1.deviceId = rx.sourceAddr →
      (RegOp.recvWrite rx.sourceAddr 1).track p = ({ p.1 with recv := 1 }, p.2) := by
    intro p hp
    rw [track_assign id]
    simp [RegOp.change, hp]
  rw [List.foldl_append, assignOps, List.foldl_cons, hassign _ hid]
  by_cases hleak : (rx.deviceType = deviceTypeEndunit ∧ rx.rxData 2 = 0) ∧ d.waterleak ≠ 0
  · -- clearing the leak saves the node with the new level
    refine iff_of_true ?_ (Or.inr (Or.inr ⟨hleak.1.1, hleak.1.2, hleak.2⟩))
    rw [if_pos hleak.1, List.foldl_cons, List.foldl_nil, hleakSet, if_pos ⟨hid, hleak.2⟩]
    simp only [heardOps, List.foldl_cons, List.foldl_nil]
    rw [hrecv _ hid, honlineSet]
    by_cases hon : d.online = 1
    · rw [if_neg fun h => h.2 hon, hlevelSet, if_neg fun h => h.2 rfl]
      exact ⟨_, rfl, (Device.Agrees.refl _).recv 1⟩
    · rw [if_pos ⟨hid, hon⟩, hlevelSet, if_neg fun h => h.2 rfl]
      exact ⟨_, rfl, .refl _⟩
  · have hno : ∀ q, (if rx.deviceType = deviceTypeEndunit ∧ rx.rxData 2 = 0 then
        [RegOp.waterleakSet rx.sourceAddr 0] else []).foldl (fun p op => op.track p)
          (({ d with rssiLevel := rx.rssiLevel }, q) : Device × Option Device) =
        ({ d with rssiLevel := rx.rssiLevel }, q) := by
      intro q
      split
      · rename_i hclose
        rw [List.foldl_cons, List.foldl_nil, hleakSet, if_neg fun h => hleak ⟨hclose, h.2⟩]
      · rfl
    rw [hno]
    simp only [heardOps, List.foldl_cons, List.foldl_nil]
    rw [hrecv _ hid, honlineSet]
    by_cases hon : d.online = 1
    · rw [if_neg fun h => h.2 hon, hlevelSet, if_neg fun h => h.2 rfl]
      -- nothing saved: the record has the level it had
      constructor
      · rintro ⟨r', hr', hagree⟩
        cases hr'
        exact Or.inl (ha.rssiLevel.symm.trans hagree.rssiLevel)
      · rintro (hlevel | hne | hclose)
        · refine ⟨r, rfl, ?_⟩
          dsimp only
          rw [← hlevel]
          exact ha.recv 1
        · exact absurd hon hne
        · exact absurd ⟨⟨hclose.1, hclose.2.1⟩, hclose.2.2⟩ hleak
    · refine iff_of_true ?_ (Or.inr (Or.inl hon))
      rw [if_pos ⟨hid, hon⟩, hlevelSet, if_neg fun h => h.2 rfl]
      exact ⟨_, rfl, .refl _⟩

/-! Runs. -/

/-- A level is assigned that differs from the node's and that nothing saves: by
the assignment alone, or in a valve command of a node that is online already and,
if it is an end unit's close command, has no leak to clear. -/
inductive LosesLevel (u : MainUnit) : Call → Prop
  | assigned (device : Device) (rssiLevel : UInt8) (hd : device ∈ u.storage.deviceList)
      (hne : device.rssiLevel ≠ rssiLevel) : LosesLevel u (.direct (.rssiLevelWrite device.deviceId rssiLevel))
  | commanded (e : Event) (rx : RxFrame) (device : Device) (hf : e.Frame u rx) (hc : rx.Commands u device)
      (hne : device.rssiLevel ≠ rx.rssiLevel) (hon : device.online = 1)
      (hleak : ¬ (rx.deviceType = deviceTypeEndunit ∧ rx.rxData 2 = 0 ∧ device.waterleak ≠ 0)) :
      LosesLevel u (.event e)

theorem command_saved {s : State} {device : Device} (h : rx.Commands s.unit device)
    (hr : RegInv s.unit.storage) (hw : s.unit.storage.WritesOk) (hs : Saved s.unit.storage) :
    Saved (radioFrameDispatch rx s).unit.storage ↔
      device.rssiLevel = rx.rssiLevel ∨ device.online ≠ 1 ∨
        rx.deviceType = deviceTypeEndunit ∧ rx.rxData 2 = 0 ∧ device.waterleak ≠ 0 := by
  have hmem : device ∈ s.unit.storage.deviceList := List.mem_of_find?_eq_some h.found
  have hid : device.deviceId = rx.sourceAddr := by simpa using List.find?_some h.found
  rw [saved_iff, command_records h hr hw]
  simp only [Storage.records, List.map_map, List.forall_mem_map, Function.comp]
  constructor
  · intro hall
    obtain ⟨r, hrec, hagree⟩ := hs device hmem
    have hdev := hall device hmem
    rw [Option.mem_def.1 hrec] at hdev
    exact (command_track hid hagree).1 hdev
  · intro hcond d hd
    obtain ⟨r, hrec, hagree⟩ := hs d hd
    rw [Option.mem_def.1 hrec]
    by_cases hd' : d.deviceId = rx.sourceAddr
    · obtain rfl : d = device := List.inj_on_of_nodup_map hr.ids hd hmem (hd'.trans hid.symm)
      exact (command_track hid hagree).2 hcond
    · rw [command_track_other hd']
      exact ⟨r, rfl, hagree⟩

theorem event_saved {e : Event} {s : State} (hr : RegInv s.unit.storage) (hw : s.unit.storage.WritesOk)
    (hm : s.unit.env.mallocDevice = true) (hs : Saved s.unit.storage) :
    Saved (e.handle s).unit.storage ↔ ¬ LosesLevel s.unit (.event e) := by
  by_cases hcmd : ∃ rx device, e.Frame s.unit rx ∧ RxFrame.Commands rx s.unit device
  · obtain ⟨rx, device, hf, hc⟩ := hcmd
    rw [hf.handle, command_saved hc hr hw hs]
    constructor
    · rintro hcond (⟨⟩ | ⟨_, rx', device', hf', hc', hne, hon, hleak⟩)
      obtain rfl := hf.unique hf'
      obtain rfl : device = device' := Option.some.inj (hc.found.symm.trans hc'.found)
      rcases hcond with h | h | h
      · exact hne h
      · exact h hon
      · exact hleak h
    · intro hno
      by_contra hcond
      rw [not_or, not_or, not_not] at hcond
      exact hno (.commanded e rx device hf hc hcond.1 hcond.2.1 hcond.2.2)
  · refine iff_of_true (hs.path hw hr.slots (save_handle hm fun rx device hf hc => hcmd ⟨rx, device, hf, hc⟩)) ?_
    rintro (⟨⟩ | ⟨_, rx, device, hf, hc⟩)
    exact hcmd ⟨rx, device, hf, hc⟩

theorem direct_saved {op : RegOp} {u : MainUnit} (hop : op.MemoryOk) (hr : RegInv u.storage) (hw : u.storage.WritesOk)
    (hs : Saved u.storage) : Saved (op.apply u.storage) ↔ ¬ LosesLevel u (.direct op) := by
  by_cases hk : op.KeepsRecords
  · refine iff_of_true ?_ ?_
    · by_cases hc : ∃ mallocOk rssiLevel type deviceId, op = .create mallocOk rssiLevel type deviceId
      · obtain ⟨mallocOk, rssiLevel, type, deviceId, rfl⟩ := hc
        obtain rfl : mallocOk = true := hop
        exact hs.create hr.slots hw rssiLevel type deviceId
      · exact (SaveStep.op _ op (fun m r t d h => hc ⟨m, r, t, d, h⟩) hk).saved hw hr.slots hs
    · rintro ⟨⟩
      exact hk
  · obtain ⟨deviceId, rssiLevel, rfl⟩ : ∃ deviceId rssiLevel, op = .rssiLevelWrite deviceId rssiLevel := by
      cases op with
      | rssiLevelWrite deviceId rssiLevel => exact ⟨deviceId, rssiLevel, rfl⟩
      | _ => exact absurd trivial hk
    have hplace : (RegOp.rssiLevelWrite deviceId rssiLevel).ById := trivial
    have htrack : ∀ p, (RegOp.rssiLevelWrite deviceId rssiLevel).track p =
        ((RegOp.rssiLevelWrite deviceId rssiLevel).change p.1, p.2) := track_assign id
    rw [saved_iff, hplace.records hr hw]
    simp only [Storage.records, List.map_map, List.forall_mem_map, Function.comp, htrack]
    constructor
    · rintro hall ⟨device, _, hd, hne⟩
      obtain ⟨r, hrec, hagree⟩ := hs device hd
      obtain ⟨r', hrec', hagree'⟩ := hall device hd
      obtain rfl : r = r' := Option.mem_unique hrec hrec'
      unfold RegOp.change at hagree'
      dsimp only at hagree'
      rw [if_pos rfl] at hagree'
      exact hne (hagree.rssiLevel.symm.trans hagree'.rssiLevel)
    · intro hno d hd
      obtain ⟨r, hrec, hagree⟩ := hs d hd
      refine ⟨r, hrec, ?_⟩
      unfold RegOp.change
      dsimp only
      split
      · rename_i hid
        have hlevel : d.rssiLevel = rssiLevel := by
          by_contra hne
          exact hno (hid ▸ .assigned d rssiLevel hd hne)
        rw [← hlevel]
        exact hagree
      · exact hagree

end

theorem Undisturbed.saved_next {cfg : Config} {s s' : State} {i : Env × Call} (hu : Undisturbed i)
    (hr : RegInv s.unit.storage) (hs : Saved s.unit.storage) (hn : (registryCalls cfg).next s i = some s') :
    Saved s'.unit.storage ↔ ¬ LosesLevel (s.unit.begin i.1) i.2 := by
  have hbegin : RegInv (s.unit.begin i.1).storage := begin_regInv hr
  have hsaved : Saved (s.unit.begin i.1).storage := hs
  obtain ⟨⟨hw, hm, hmem⟩, hpower⟩ := hu
  rw [← registryCalls_next hn]
  obtain ⟨env, call⟩ := i
  cases call with
  | direct op => exact direct_saved hmem hbegin hw hsaved
  | event e => exact @event_saved e (s.onUnit (MainUnit.begin env)) hbegin hw hm hsaved
  | powerLoss op writes => exact absurd rfl (hpower op writes)

/-- **Write-through persistence, exactly.** In an undisturbed run every listed
device agrees with its stored record in every state, and a reset restores it, if
and only if no level is assigned that nothing saves. -/
theorem write_through_iff (cfg : Config) (env : Env) (download : Nat → UInt8) (is : List (Env × Call))
    (hok : ∀ i ∈ is, Undisturbed i) :
    (registryCalls cfg).Always (fun s => WriteThrough s.unit.storage) (powerOn cfg env Flash.default download) is ↔
      (registryCalls cfg).Steps (fun s i _ => ¬ LosesLevel (s.unit.begin i.1) i.2)
        (powerOn cfg env Flash.default download) is := by
  obtain ⟨_, hl, ht, hf⟩ := powerOn_default cfg env download
  have hstart : RegInv (powerOn cfg env Flash.default download).unit.storage := .empty hl ht hf
  have hsaved : Saved (powerOn cfg env Flash.default download).unit.storage := by
    simp [Saved, hl]
  rw [Machine.always_iff_start_steps, ← Machine.steps_and_label hok,
    and_iff_right (hstart.slots.writeThrough hsaved),
    ← Machine.steps_and_label (M := registryCalls cfg)
      (Q := fun s i _ => ¬ LosesLevel (s.unit.begin i.1) i.2) hok]
  refine @Machine.steps_iff_of_inv _ _ (registryCalls cfg)
    (fun s => RegInv s.unit.storage ∧ Saved s.unit.storage) _ _ _ ⟨hstart, hsaved⟩ ?_ ?_ is
  · rintro s i s' ⟨hr, hs⟩ ⟨hu, hno⟩ hn
    exact ⟨hr.next hu hn, (hu.saved_next hr hs hn).2 hno⟩
  · rintro s i s' ⟨hr, hs⟩ hn
    refine and_congr_right fun hu => ?_
    rw [← hu.saved_next hr hs hn]
    exact ⟨fun h => h.saved, (hr.next hu hn).slots.writeThrough⟩

theorem write_through_sample :
    (registryCalls sampleConfig).Always (fun s => WriteThrough s.unit.storage) sampleStart sampleCalls ↔
      (registryCalls sampleConfig).Steps (fun s i _ => ¬ LosesLevel (s.unit.begin i.1) i.2) sampleStart sampleCalls :=
  write_through_iff sampleConfig sampleEnv (fun _ => 0xFF) sampleCalls
    (by simp [sampleCalls, Undisturbed, Succeeds, RegOp.MemoryOk, sampleEnv])

/-- An end unit created at one level commands the valve at another. -/
theorem write_through_fails :
    ¬ ∀ (cfg : Config) (env : Env) (download : Nat → UInt8) (is : List (Env × Call)),
      (∀ i ∈ is, Undisturbed i) →
        (registryCalls cfg).Always (fun s => WriteThrough s.unit.storage)
          (powerOn cfg env Flash.default download) is := by
  intro h
  have hrun := h sampleConfig sampleEnv (fun _ => 0xFF)
    [(sampleEnv, .direct (.create true 0 deviceTypeEndunit 7)),
      (sampleEnv, .event (sampleFrame deviceTypeEndunit 7 [controlValveCmd, 1, 1]))]
    (by simp [Undisturbed, Succeeds, RegOp.MemoryOk, sampleEnv])
  have hsaved := Machine.Always.mono (fun _ hs => hs.saved) hrun
  exact Machine.not_always_of_run _ _ (by decide +kernel) hsaved

end Aqualarm
