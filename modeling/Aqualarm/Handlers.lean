import Aqualarm.Effects

/-
  Every handler is a chain of effects.

  What is proved: `path_handle` — whatever the event, the unit it leaves is
  reached from the unit it finds by a chain of effects. The lemmas before it are
  one for each function of the source, in the order of the files.
-/

namespace Aqualarm

open Relation

section
variable {u₀ u : MainUnit} {e : Event}

theorem Effect.path {u' : MainUnit} (h : Effect u₀ e u u') : Path u₀ e u u' := .single h

/-! Sending. -/

theorem reports_of_none {frame : TxFormat} (h : frame.valveReport = none) : Reports u₀ e u frame := by
  intro v hv
  rw [h] at hv
  cases hv

theorem path_radioCommandSend (parameter : UInt8) {frame : TxFormat} (h : Reports u₀ e u frame) :
    Path u₀ e u (radioCommandSend parameter frame u) :=
  (Effect.send u frame _ parameter h).path

/-- An answer to a node is no report. -/
theorem path_reply (parameter : UInt8) (rx : RxFrame) (command : UInt8) (txData : List UInt8)
    (u' : MainUnit) : Path u₀ e u (radioCommandSend parameter (replyFrame rx command txData u') u) := by
  refine path_radioCommandSend parameter (reports_of_none (TxFormat.valveReport_of_msgType ?_))
  exact (by decide : msgUnconfirmedDownlink ≠ msgConfirmedUplink)

theorem path_endunitReply (rx : RxFrame) (command : UInt8) (txData : List UInt8) :
    Path u₀ e u (radioEndunitCommandSend (replyFrame rx command txData u) u) :=
  path_reply 1 rx command txData u

theorem path_doorunitReply (rx : RxFrame) (command : UInt8) (txData : List UInt8) :
    Path u₀ e u (radioDoorunitCommandSend (replyFrame rx command txData u) u) :=
  path_reply 1 rx command txData u

theorem path_gatewayCommandSend {frame : TxFormat} (h : frame.destAddr ≠ 0 → Reports u₀ e u frame) :
    Path u₀ e u (radioGatewayCommandSend frame u) := by
  unfold radioGatewayCommandSend
  split
  · exact .refl
  · rename_i hd
    exact path_radioCommandSend 0 (h hd)

theorem path_upload {msgAck : Bool} {msgType : UInt8} {sendBuf : List UInt8} (command : UInt8)
    (h : command ≠ controlValveCmd) :
    Path u₀ e u (gatewayUpload msgAck msgType command sendBuf u) :=
  path_gatewayCommandSend fun _ => reports_of_none (TxFormat.valveReport_of_command h)

/-- A frame of the shape of a valve report. -/
def reportFrame (destAddr sourceAddr : UInt32) (sendBuf : List UInt8) : TxFormat :=
  { msgAck := false, msgType := msgConfirmedUplink, destAddr, sourceAddr, command := controlValveCmd,
    txData := sendBuf }

theorem path_report {sendBuf : List UInt8} {value : UInt8}
    (hb : ∀ dst src, (reportFrame dst src sendBuf).valveReport = some value)
    (h : aqGatewayFind u.storage ≠ 0 → value = u.core.valveStatus.code ∨
      value = 0 ∧ u.core.deviceStatus = .slaverOffline ∨ RefusedOpen u₀ e) :
    Path u₀ e u (gatewayUpload false msgConfirmedUplink controlValveCmd sendBuf u) := by
  refine path_gatewayCommandSend fun hd v hv => ?_
  obtain rfl : value = v := Option.some.inj ((hb _ _).symm.trans hv)
  exact h hd

section
variable (addr : UInt32) (value : UInt8) (rest : List UInt8) (dst src : UInt32)

theorem valveReport_master : (reportFrame dst src [0, value]).valveReport = some value := rfl

theorem valveReport_slaver :
    (reportFrame dst src (1 :: beBytes addr ++ value :: rest)).valveReport = some value := rfl

theorem valveReport_door :
    (reportFrame dst src (2 :: beBytes addr ++ value :: rest)).valveReport = some value := rfl

theorem valveReport_motion :
    (reportFrame dst src (4 :: beBytes addr ++ value :: rest)).valveReport = some value := rfl

end

/-! The device list. -/

theorem path_registry (op : RegOp) (h : op.Quiet) : Path u₀ e u (u.onStorage op.apply) :=
  (Effect.registry u op h).path

theorem path_batterySet (deviceId : UInt32) (value : UInt8) :
    Path u₀ e u (u.onStorage (aqDeviceBatterySet deviceId value)) :=
  path_registry (.batterySet deviceId value) trivial

theorem path_recvSet (deviceId : UInt32) (value : UInt8) :
    Path u₀ e u (u.onStorage (aqDeviceRecvSet deviceId value)) :=
  path_registry (.recvSet deviceId value) trivial

theorem path_rssiLevelWrite (deviceId : UInt32) (value : UInt8) :
    Path u₀ e u (u.onStorage (deviceRssiLevelWrite deviceId value)) :=
  path_registry (.rssiLevelWrite deviceId value) trivial

theorem path_waterleakClear (deviceId : UInt32) :
    Path u₀ e u (u.onStorage (aqDeviceWaterleakSet deviceId 0)) :=
  path_registry (.waterleakSet deviceId 0) rfl

theorem path_wirelostClear (deviceId : UInt32) :
    Path u₀ e u (u.onStorage (aqDeviceWirelostSet deviceId 0)) :=
  path_registry (.wirelostSet deviceId 0) rfl

/-- A loop of changes to the registry. -/
theorem path_foldl {α : Type} {f : Storage → α → Storage}
    (hf : ∀ (u : MainUnit) (a : α), Path u₀ e u (u.onStorage fun st => f st a)) (l : List α)
    (u : MainUnit) : Path u₀ e u (u.onStorage fun st => l.foldl f st) := by
  induction l generalizing u with
  | nil => exact .refl
  | cons a l ih => exact (hf u a).trans (ih (u.onStorage fun st => f st a))

theorem path_heartRecv (rx : RxFrame) :
    Path u₀ e u (u.onStorage fun st => (aqDeviceHeartRecv rx st).2) := by
  cases hd : aqDeviceFind rx.sourceAddr u.storage with
  | none =>
    have : (u.onStorage fun st => (aqDeviceHeartRecv rx st).2) = u := by
      simp [MainUnit.onStorage, aqDeviceHeartRecv, hd]
    rw [this]
  | some device =>
    have : (u.onStorage fun st => (aqDeviceHeartRecv rx st).2) =
        ((u.onStorage (RegOp.recvWrite rx.sourceAddr 1).apply).onStorage
          (RegOp.onlineSet rx.sourceAddr 1).apply).onStorage
          (RegOp.rssiLevelSet rx.sourceAddr rx.rssiLevel).apply := by
      simp [MainUnit.onStorage, aqDeviceHeartRecv, hd, RegOp.apply]
    rw [this]
    exact ((path_registry (.recvWrite _ _) trivial).trans (path_registry (.onlineSet _ _) trivial)).trans
      (path_registry (.rssiLevelSet _ _) trivial)

theorem path_heartCheckMark : Path u₀ e u (u.onStorage heartCheckMark) := by
  refine path_foldl (fun u node => ?_) (List.range u.storage.deviceList.length) u
  rcases heartCheckTurn_cases u.storage node with hsame | ⟨op, hop, happly⟩
  · rw [MainUnit.onStorage, hsame]
  · have hquiet : op.Quiet := by rcases hop with rfl | ⟨deviceId, rfl⟩ <;> trivial
    rw [MainUnit.onStorage, happly]
    exact path_registry op hquiet

theorem aqGatewayFind_rssiLevelWrite (deviceId : UInt32) (rssiLevel : UInt8) (st : Storage) :
    aqGatewayFind (deviceRssiLevelWrite deviceId rssiLevel st) = aqGatewayFind st :=
  @RegOp.InPlace.gatewayFind (.rssiLevelWrite deviceId rssiLevel) trivial st

theorem aqGatewayFind_recvSet (deviceId : UInt32) (value : UInt8) (st : Storage) :
    aqGatewayFind (aqDeviceRecvSet deviceId value st) = aqGatewayFind st :=
  @RegOp.InPlace.gatewayFind (.recvSet deviceId value) trivial st

/-! Moving the valve. -/

/-- `valve_open` and the report, where the report waits for the result. -/
theorem path_openAndReport (h₀ : u₀.core.deviceStatus.Operable) (h : u.core.deviceStatus.Operable) :
    Path u₀ e u (openAndReport u) := by
  refine (Effect.openValve u h₀ h).path.trans ?_
  unfold openAndReport
  dsimp only
  split
  · rename_i hr
    refine path_report (valveReport_master 1) fun _ => Or.inl ?_
    obtain ⟨_, he⟩ | ⟨_, _, _, _, hv⟩ := valveOpen_cases u.core
    · rw [he] at hr
      cases hr
    · exact congrArg ValveStatus.code hv.symm
  · exact .refl

theorem path_closeAndReport (h : u.core.deviceStatus.Operable) : Path u₀ e u (closeAndReport u) := by
  refine (Effect.closeValve u h).path.trans ?_
  unfold closeAndReport
  dsimp only
  split
  · refine path_report (valveReport_master 0) fun _ => Or.inl ?_
    exact congrArg ValveStatus.code (valveClose_valveStatus u.core).symm
  · exact .refl

theorem valveUnlock_core :
    (valveUnlock u).core = { u.core with lockStatus := if u.core.lockStatus = 1 then 0 else u.core.lockStatus } := by
  unfold valveUnlock
  split <;> rfl

/-- A remote open: unlocked, opened and reported whatever came of it. -/
theorem path_remoteOpen {rx : RxFrame} {sendBuf : List UInt8} (hf : e.Frame u₀ rx)
    (ho : rx.OpenValve u₀) (hc : u.core = u₀.core)
    (hg : aqGatewayFind u.storage = aqGatewayFind u₀.storage) (hi : u.core.deviceStatus.Idle)
    (hb : ∀ dst src, (reportFrame dst src sendBuf).valveReport = some 1) :
    Path u₀ e u
      (gatewayUpload false msgConfirmedUplink controlValveCmd sendBuf
        ((valveUnlock u).onCore fun c => (valveOpen c).2)) := by
  have hi₀ : u₀.core.deviceStatus.Idle := hc ▸ hi
  refine (Effect.unlockOpen u (Or.inl hi₀) hi).path.trans (path_report hb fun hgw => ?_)
  have hgw₀ : aqGatewayFind u₀.storage ≠ 0 := by
    rw [← hg]
    unfold valveUnlock at hgw
    split at hgw <;> exact hgw
  obtain ⟨hr, he⟩ | ⟨_, _, _, _, hv⟩ := valveOpen_cases (valveUnlock u).core
  · have hvalid : u₀.core.valveValid = false := by
      rw [valveUnlock_core] at hr
      rw [← hc]
      rcases hr with hl | hv
      · dsimp only at hl
        split at hl
        · cases hl
        · contradiction
      · exact hv
    cases hs : u₀.core.valveStatus with
    | valveStatusOpen =>
      left
      rw [MainUnit.onCore_core, he, valveUnlock_core, hc, hs]
      rfl
    | valveStatusClose => exact Or.inr (Or.inr ⟨⟨rx, hf, ho⟩, hi₀, hvalid, hs, hgw₀⟩)
  · exact Or.inl (congrArg ValveStatus.code hv.symm)

theorem path_lockCloseReport {sendBuf : List UInt8} (hi : u.core.deviceStatus.Idle)
    (hb : ∀ dst src, (reportFrame dst src sendBuf).valveReport = some 0) :
    Path u₀ e u
      (gatewayUpload false msgConfirmedUplink controlValveCmd sendBuf
        ((valveLock u).onCore fun c => (valveClose c).2)) :=
  (Effect.lockClose u hi).path.trans
    (path_report hb fun _ => Or.inl (congrArg ValveStatus.code (valveClose_valveStatus _).symm))

theorem path_closeReport {sendBuf : List UInt8} (hi : u.core.deviceStatus.Idle)
    (hb : ∀ dst src, (reportFrame dst src sendBuf).valveReport = some 0) :
    Path u₀ e u
      (gatewayUpload false msgConfirmedUplink controlValveCmd sendBuf
        (u.onCore fun c => (valveClose c).2)) :=
  (Effect.closeValve u (Or.inl hi)).path.trans
    (path_report hb fun _ => Or.inl (congrArg ValveStatus.code (valveClose_valveStatus _).symm))

/-! water_work.c and heart.c -/

theorem path_offlineUpload (mallocOk : Bool) : Path u₀ e u (gatewayWarningSlaverOffline mallocOk u) := by
  unfold gatewayWarningSlaverOffline
  split
  · exact path_upload _ (by decide)
  · exact .refl

theorem path_offlineCheck : Path u₀ e u (warningOfflineCheck u) := by
  unfold warningOfflineCheck
  split
  · rename_i hd
    split
    · rename_i hf
      exact (Effect.clear u (.offline hd hf)).path
    · exact .refl
  · exact .refl

theorem path_poweronUpload : Path u₀ e u (gatewayHeartUploadPoweron u) := path_upload _ (by decide)

theorem path_connectStart : Path u₀ e u (gatewayConnectStart u) := by
  unfold gatewayConnectStart
  split
  · exact ((Effect.heart u _).path.trans path_poweronUpload).trans (Effect.heart _ _).path
  · exact .refl

theorem path_startLearn : Path u₀ e u (radioStartLearnDevice u) := by
  unfold radioStartLearnDevice
  split
  · rename_i hi
    exact (Effect.learnStart u hi).path
  · split
    · rename_i hl
      exact (Effect.learnStop u hl).path.trans path_connectStart
    · exact .refl

theorem path_deviceHeartCheck : Path u₀ e u (aqDeviceHeartCheck u) := by
  unfold aqDeviceHeartCheck
  refine path_heartCheckMark.trans ?_
  generalize u.onStorage heartCheckMark = u₁
  dsimp only
  have hend : Path u₀ e u₁
      (if aqDeviceEndunitOfflineFind u₁.storage then
        warningEnable .slaverOffline (gatewayWarningSlaverOffline u₁.env.mallocEndunitOffline u₁)
      else u₁) := by
    split
    · rename_i hf
      refine (path_offlineUpload _).trans (Effect.raise _ _ (.offline ?_)).path
      unfold gatewayWarningSlaverOffline
      split
      · rwa [gatewayUpload_storage]
      · exact hf
    · exact .refl
  have hdoor : ∀ u₂ : MainUnit, Path u₀ e u₂
      (if aqDeviceDoorOfflineFind u₂.storage then
        gatewayWarningSlaverOffline u₂.env.mallocDoorOffline u₂
      else u₂) := by
    intro u₂
    split
    · exact path_offlineUpload _
    · exact .refl
  exact hend.trans (hdoor _)

theorem path_gatewayHeartCheck : Path u₀ e u (gatewayHeartCheck u) := by
  unfold gatewayHeartCheck
  split
  · exact .refl
  · split
    · exact path_recvSet (aqGatewayFind u.storage) 0
    · exact .refl

theorem path_heartUpload : Path u₀ e u (heartThreadUpload u) := by
  unfold heartThreadUpload
  split
  · exact path_upload _ (by decide)
  · exact .refl

/-! Timers. -/

theorem path_heartConnect : Path u₀ e u (heartConnectTimerCallback u) := by
  unfold heartConnectTimerCallback
  split
  · split
    · exact ((Effect.heart u _).path.trans path_poweronUpload).trans (Effect.heart _ _).path
    · exact .refl
  · exact .refl

theorem path_delayClose : Path u₀ e u (valveDelayCloseTimerCallback u) := by
  unfold valveDelayCloseTimerCallback
  split
  · rename_i hi
    exact path_lockCloseReport hi (valveReport_master 0)
  · exact .refl

theorem path_turnBack (side : Side) (h : e = .timer (.turnBack side)) (henv : u.env = u₀.env)
    (hv : u.core.valveStatus = u₀.core.valveStatus) : Path u₀ e u (turnBackTimerCallback side u) := by
  unfold turnBackTimerCallback
  split
  · rename_i hp
    exact (Effect.turnBackPass u side h (henv ▸ hp) hv).path
  · exact (Effect.turnBackFail u side h).path.trans (Effect.raise _ _ (.valveFail side rfl)).path

theorem path_turnCheck (side : Side) (h : e = .timer (.turnCheck side)) :
    Path u₀ e u (turnCheckTimerCallback side u) := by
  unfold turnCheckTimerCallback
  refine (Effect.turnCheckStart u side h).path.trans ?_
  generalize (u.onCore fun c => c.setMotor side fun m => { m with mbValveCheckState := false }) = u₁
  dsimp only
  split
  · have hvalid : Path u₀ e u₁
        (if (u₁.core.motor side.other).checkResult = false then
          u₁.onCore fun c => valvefailWarningDisable { c with valveValid := true }
        else u₁) := by
      split
      · rename_i hr
        exact (Effect.turnCheckValid u₁ side h hr).path
      · exact .refl
    exact (hvalid.trans (Effect.turnCheckPass _ side h).path).trans (path_upload _ (by decide))
  · exact (Effect.turnCheckFail u₁ side h).path.trans (Effect.raise _ _ (.valveFail side rfl)).path

theorem path_timer (t : Timer) (h : e = .timer t) : Path u₀ e u₀ (t.callback (t.disarm u₀)) := by
  refine (Effect.disarm u₀ t h).path.trans ?_
  cases t with
  | radioLearn =>
    have htimeout : Effect u₀ e (Timer.radioLearn.disarm u₀) _ := Effect.learnTimeout _ h rfl
    exact htimeout.path.trans path_connectStart
  | valveDelayClose => exact path_delayClose
  | valveDetectOnce => exact (Effect.checkStart _).path
  | turnBack side => exact path_turnBack side h rfl rfl
  | turnCheck side => exact path_turnCheck side h
  | heartConnect => exact path_heartConnect

/-! Keys, the dry contact and Modbus. -/

theorem path_keyOnClick : Path u₀ e u₀ (keyOnClickHandle u₀) := by
  unfold keyOnClickHandle
  split
  · rename_i hd
    exact path_openAndReport (Or.inl (Or.inl hd)) (Or.inl (Or.inl hd))
  · rename_i hd
    exact path_openAndReport (Or.inl (Or.inr (Or.inr hd))) (Or.inl (Or.inr (Or.inr hd)))
  · rename_i hd
    split
    · exact path_openAndReport (Or.inr (Or.inl hd)) (Or.inr (Or.inl hd))
    · exact .refl
  · rename_i hd
    exact path_openAndReport (Or.inr (Or.inr hd)) (Or.inr (Or.inr hd))
  · exact .refl

theorem path_keyOffClick : Path u₀ e u (keyOffClickHandle u) := by
  unfold keyOffClickHandle
  split
  · rename_i hd
    exact path_closeAndReport (Or.inl (Or.inr (Or.inl hd)))
  · rename_i hd
    split
    · exact path_closeAndReport (Or.inr (Or.inl hd))
    · exact .refl
  · rename_i hd
    exact path_closeAndReport (Or.inr (Or.inr hd))
  · rename_i hd
    exact (Effect.clear u (.abnormal hd)).path.trans (path_upload _ (by decide))
  · exact .refl

theorem path_dryContact (level : PinLevel) : Path u₀ e u₀ (valveDryContactControl level u₀) := by
  unfold valveDryContactControl
  split
  · rename_i hi
    cases level with
    | pinHigh => exact path_closeAndReport (Or.inl hi)
    | pinLow => exact path_openAndReport (Or.inl hi) (Or.inl hi)
  · exact .refl

theorem path_keyOnOffLongClick {s : State} (h : Resets u₀ e) :
    Path u₀ e s.unit (keyOnOffLongClickHandle s).unit := by
  unfold keyOnOffLongClickHandle
  split
  · split
    · exact (path_upload deviceSyncCmd (by decide)).trans (Effect.factoryReset _ h).path
    · exact .refl
  · exact .refl

theorem path_keyOnLongHold {s : State} (h : Resets u₀ e) :
    Path u₀ e s.unit (keyOnLongHoldHandle s).unit := by
  unfold keyOnLongHoldHandle
  split
  · exact .refl
  · split
    · exact path_keyOnOffLongClick h
    · split
      · exact (Effect.checkStart s.unit).path
      · exact .refl

theorem path_keyOffLongHold {s : State} (h : Resets u₀ e) :
    Path u₀ e s.unit (keyOffLongHoldHandle s).unit := by
  unfold keyOffLongHoldHandle
  split
  · exact .refl
  · split
    · exact path_keyOnOffLongClick h
    · split
      · exact path_startLearn
      · exact .refl

theorem path_mbWriteCoils {s : State} (reg : Nat → UInt8) (usAddress usNCoils : UInt16) :
    Path s.unit e s.unit (mbWriteCoils reg usAddress usNCoils s).unit := by
  unfold mbWriteCoils
  dsimp only
  split
  · split
    · exact .refl
    · split
      · unfold mbValveSingleControlWriteCallback
        split
        · exact path_keyOnClick
        · exact path_keyOffClick
      · exact .refl
  · exact .refl

theorem path_mbWriteHolding {s : State} (reg : Nat → UInt8) (usAddress usNRegs : UInt16) :
    Path u₀ e s.unit (mbWriteHolding reg usAddress usNRegs s).unit := by
  unfold mbWriteHolding
  dsimp only
  split
  · split
    · exact .refl
    · split
      · exact path_keyOffClick
      · exact .refl
  · exact .refl

end

end Aqualarm
