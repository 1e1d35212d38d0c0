import Aqualarm.ValveLock

/-
  The valve reports sent to the gateway.

  What is proved: `valve_reports_truthful_iff` — along a run every report carries
  the state the valve is in when it is sent exactly when no remote command to
  open is refused. The keys and the dry contact report only what `valve_open`
  and `valve_close` answer; the four remote handlers do not look at the answer,
  and `valve_open` is refused there by `valve_valid == 0`.
-/

namespace Aqualarm

open Lib

/-- Every message enqueued by the last event reports the truth. -/
def AllTruthful (u : MainUnit) : Prop := ∀ m ∈ u.tx, m.Truthful

instance : DecidablePred AllTruthful := fun u => inferInstanceAs (Decidable (∀ m ∈ u.tx, m.Truthful))

/-- The messages of `u'` are those of `u` and some that report nothing. -/
def NoReport (u u' : MainUnit) : Prop :=
  ∃ ms : List SendMsg, (∀ m ∈ ms, m.frame.valveReport = none) ∧ u'.tx = u.tx ++ ms

theorem NoReport.of_tx {u u' : MainUnit} (h : u'.tx = u.tx) : NoReport u u' := ⟨[], by simp, by simp [h]⟩

theorem NoReport.allTruthful {u u' : MainUnit} (h : NoReport u u') (hu : AllTruthful u) :
    AllTruthful u' := by
  obtain ⟨ms, hms, htx⟩ := h
  intro m hm
  rw [htx] at hm
  rcases List.mem_append.1 hm with hm | hm
  · exact hu m hm
  · intro v hv
    rw [hms m hm] at hv
    cases hv

theorem gatewayUpload_noReport {msgAck : Bool} {msgType command : UInt8} {sendBuf : List UInt8}
    (h : command ≠ controlValveCmd) (u : MainUnit) :
    NoReport u (gatewayUpload msgAck msgType command sendBuf u) := by
  unfold gatewayUpload radioGatewayCommandSend
  split
  · exact .of_tx rfl
  · refine ⟨_, fun m hm => ?_, rfl⟩
    rw [List.mem_singleton.1 hm]
    exact TxFormat.valveReport_of_command h

theorem valveLock_tx (u : MainUnit) : (valveLock u).tx = u.tx := by
  unfold valveLock
  split <;> rfl

theorem valveUnlock_tx (u : MainUnit) : (valveUnlock u).tx = u.tx := by
  unfold valveUnlock
  split <;> rfl

theorem warningEnable_noReport (w : Warning) (u : MainUnit) : NoReport u (warningEnable w u) := by
  unfold warningEnable
  split
  · cases w with
    | valveLeftFail | valveRightFail | masterSensorLost | masterSensorLeak =>
      exact gatewayUpload_noReport (by decide) _
    | slaverLowPower | slaverSensorLost | masterLowTemp => exact .of_tx rfl
    | slaverUltraLowPower => exact .of_tx (valveLock_tx _)
    | slaverSensorLeak =>
      refine .of_tx ?_
      unfold Warning.callback slaverSensorLeakEventCallback
      dsimp only
      split
      · exact valveLock_tx _
      · rfl
    | slaverOffline =>
      refine .of_tx ?_
      unfold Warning.callback slaverOfflineEventCallback
      dsimp only
      split <;> rfl
  · exact .of_tx rfl

theorem boot_noReport (u : MainUnit) : NoReport u u.boot := by
  unfold MainUnit.boot valveInit
  dsimp only
  generalize readDeviceFromFlash _ = st
  split
  · exact warningEnable_noReport .slaverSensorLeak _
  · exact .of_tx rfl

section
variable {u₀ u u' : MainUnit} {e : Event}

theorem Effect.allTruthful (hno : ¬ RefusedOpen u₀ e) (h : Effect u₀ e u u') (hs : CriticalShut u)
    (hu : AllTruthful u) : AllTruthful u' := by
  cases h with
  | heart | registry | clear | closeValve | openValve | learnStart | learnStop | learnTimeout
  | learnRefresh | delayControl | checkStart | turnBackPass | turnBackFail | turnCheckStart
  | turnCheckValid | turnCheckPass | turnCheckFail => exact hu
  | send frame needAck parameter hr =>
    intro m hm
    rcases List.mem_append.1 hm with hm | hm
    · exact hu m hm
    · rw [List.mem_singleton.1 hm]
      intro v hv
      rcases hr v hv with h | ⟨h0, hd⟩ | h
      · exact h
      · rw [h0, hs (Or.inr (Or.inr hd))]
        rfl
      · exact absurd h hno
  | enrol rx hf ha hs' rssiLevel ms hms => exact NoReport.allTruthful ⟨ms, hms, rfl⟩ hu
  | leak => exact (warningEnable_noReport _ _).allTruthful hu
  | lost => exact (warningEnable_noReport _ _).allTruthful hu
  | raise w => exact (warningEnable_noReport w u).allTruthful hu
  | lockClose => exact (NoReport.of_tx (valveLock_tx u)).allTruthful hu
  | unlockOpen => exact (NoReport.of_tx (valveUnlock_tx u)).allTruthful hu
  | disarm t => cases t <;> exact hu
  | boot => exact (boot_noReport u).allTruthful hu
  | factoryReset => exact (boot_noReport _).allTruthful hu

end

/-! A refused command to open is reported as done. -/

theorem report_untruthful {u : MainUnit} {sendBuf : List UInt8}
    (hb : ∀ dst src, (reportFrame dst src sendBuf).valveReport = some 1)
    (hg : aqGatewayFind u.storage ≠ 0) (hv : u.core.valveStatus = .valveStatusClose) :
    ∃ m ∈ (gatewayUpload false msgConfirmedUplink controlValveCmd sendBuf u).tx, ¬ m.Truthful := by
  unfold gatewayUpload radioGatewayCommandSend
  rw [if_neg hg]
  refine ⟨_, List.mem_append_right _ (List.mem_singleton.2 rfl), fun ht => ?_⟩
  have h := ht 1 (hb _ _)
  rw [hv] at h
  exact absurd (show (1 : UInt8) = 0 from h) (by decide)

/-- A remote open without `valve_valid` leaves the valve shut and reports 1. -/
theorem remoteOpen_untruthful (u₀ : MainUnit) {u : MainUnit} {sendBuf : List UInt8} (hc : u.core = u₀.core)
    (hg : aqGatewayFind u.storage ≠ 0) (hv : u₀.core.valveStatus = .valveStatusClose)
    (hvalid : u₀.core.valveValid = false)
    (hb : ∀ dst src, (reportFrame dst src sendBuf).valveReport = some 1) :
    ∃ m ∈ (gatewayUpload false msgConfirmedUplink controlValveCmd sendBuf
      ((valveUnlock u).onCore fun c => (valveOpen c).2)).tx, ¬ m.Truthful := by
  refine report_untruthful hb ?_ ?_
  · unfold valveUnlock
    split <;> exact hg
  · have hrefused : valveOpen (valveUnlock u).core = (.rtError, (valveUnlock u).core) := by
      rw [valveOpen, if_pos]
      right
      rw [valveUnlock_core, hc]
      exact hvalid
    rw [MainUnit.onCore_core, hrefused, valveUnlock_core, hc]
    exact hv

theorem warningOfflineCheck_tx (u : MainUnit) : (warningOfflineCheck u).tx = u.tx := by
  unfold warningOfflineCheck
  split
  · split <;> rfl
  · rfl

section
variable {u : MainUnit} {rx : RxFrame}

theorem endunit_untruthful (ho : rx.OpenValve u) (hv : rx.rxData 2 ≠ 0) (hi : u.core.deviceStatus.Idle)
    (hvalid : u.core.valveValid = false) (hs : u.core.valveStatus = .valveStatusClose)
    (hg : aqGatewayFind u.storage ≠ 0) : ∃ m ∈ (radioFrameEndunitParse rx u).tx, ¬ m.Truthful := by
  obtain ⟨device, hdev⟩ := Option.isSome_iff_exists.1 ho.registered
  have hgw : aqGatewayFind (deviceRssiLevelWrite device.deviceId rx.rssiLevel u.storage) ≠ 0 := by
    rwa [aqGatewayFind_rssiLevelWrite]
  unfold radioFrameEndunitParse
  simp only [ho.command, hdev, (by decide : controlValveCmd ≠ learnDeviceCmd),
    (by decide : controlValveCmd ≠ heartUploadCmd), if_false, if_true, ho.toUnit, ne_eq, not_true_eq_false]
  rw [warningOfflineCheck_tx, MainUnit.onStorage_tx]
  unfold radioFrameEndunitParseValve
  dsimp only
  rw [if_pos hv, if_pos]
  · exact remoteOpen_untruthful u rfl hgw hs hvalid (valveReport_slaver rx.sourceAddr 1 [rx.rssiLevel])
  · exact hi

theorem doorunit_untruthful (ho : rx.OpenValve u) (hv : rx.rxData 2 = 1) (hi : u.core.deviceStatus.Idle)
    (hvalid : u.core.valveValid = false) (hs : u.core.valveStatus = .valveStatusClose)
    (hg : aqGatewayFind u.storage ≠ 0) : ∃ m ∈ (radioFrameDoorunitParse rx u).tx, ¬ m.Truthful := by
  obtain ⟨device, hdev⟩ := Option.isSome_iff_exists.1 ho.registered
  have hgw : aqGatewayFind (deviceRssiLevelWrite device.deviceId rx.rssiLevel u.storage) ≠ 0 := by
    rwa [aqGatewayFind_rssiLevelWrite]
  unfold radioFrameDoorunitParse
  simp only [ho.command, hdev, (by decide : controlValveCmd ≠ learnDeviceCmd),
    (by decide : controlValveCmd ≠ heartUploadCmd), if_false, if_true, ho.toUnit, ne_eq, not_true_eq_false]
  rw [MainUnit.onStorage_tx]
  unfold radioFrameDoorunitParseValve
  dsimp only
  rw [if_neg (by rw [hv]; decide), if_pos hv, if_pos]
  · exact remoteOpen_untruthful u rfl hgw hs hvalid (valveReport_door rx.sourceAddr 1 [rx.rssiLevel])
  · exact hi

theorem motion_untruthful (ho : rx.OpenValve u) (hv : rx.rxData 2 ≠ 0) (hi : u.core.deviceStatus.Idle)
    (hvalid : u.core.valveValid = false) (hs : u.core.valveStatus = .valveStatusClose)
    (hg : aqGatewayFind u.storage ≠ 0) : ∃ m ∈ (radioFrameMotionParse rx u).tx, ¬ m.Truthful := by
  obtain ⟨device, hdev⟩ := Option.isSome_iff_exists.1 ho.registered
  have hgw : aqGatewayFind (deviceRssiLevelWrite device.deviceId rx.rssiLevel u.storage) ≠ 0 := by
    rwa [aqGatewayFind_rssiLevelWrite]
  unfold radioFrameMotionParse
  simp only [ho.command, hdev, (by decide : controlValveCmd ≠ learnDeviceCmd),
    (by decide : controlValveCmd ≠ heartUploadCmd), if_false, if_true, ho.toUnit, ne_eq, not_true_eq_false]
  rw [MainUnit.onStorage_tx]
  unfold radioFrameMotionParseControl
  dsimp only
  rw [if_pos hv, if_pos]
  · exact remoteOpen_untruthful u rfl hgw hs hvalid (valveReport_motion rx.sourceAddr 1 _)
  · exact hi

theorem gateway_untruthful {s : State} (ho : rx.OpenValve s.unit) (hv : rx.rxData 2 = 1)
    (hi : s.unit.core.deviceStatus.Idle) (hvalid : s.unit.core.valveValid = false)
    (hs : s.unit.core.valveStatus = .valveStatusClose) (hg : aqGatewayFind s.unit.storage ≠ 0) :
    ∃ m ∈ (radioFrameGatewayParse rx s).unit.tx, ¬ m.Truthful := by
  obtain ⟨device, hdev⟩ := Option.isSome_iff_exists.1 ho.registered
  have hgw : aqGatewayFind (aqDeviceRecvSet rx.sourceAddr 1 s.unit.storage) ≠ 0 := by
    rwa [aqGatewayFind_recvSet]
  unfold radioFrameGatewayParse
  simp only [ho.command, hdev, (by decide : controlValveCmd ≠ learnDeviceCmd), if_false, if_true,
    ho.toUnit, ne_eq, not_true_eq_false, Option.isNone_some, Bool.false_eq_true]
  rw [State.onUnit_unit]
  unfold radioFrameGatewayParseControl
  dsimp only
  rw [if_neg (by rw [hv]; decide), if_pos hv, if_pos]
  · exact remoteOpen_untruthful s.unit rfl hgw hs hvalid (valveReport_master 1)
  · exact hi

end

theorem RefusedOpen.untruthful {e : Event} {s : State} (h : RefusedOpen s.unit e) :
    ∃ m ∈ (e.handle s).unit.tx, ¬ m.Truthful := by
  obtain ⟨⟨rx, ⟨rssi, snr, data, len, rfl, hacc, rfl⟩, ho⟩, hi, hvalid, hs, hg⟩ := h
  rw [Event.handle, radioProtocolParse_eq, if_pos hacc]
  generalize rxFrameOf s.unit.env.stackSnr rssi data len = rx at ho ⊢
  unfold radioFrameDispatch
  obtain ⟨ht | ht, hv⟩ | ⟨ht | ht, hv⟩ := ho.value
  · simp only [ht, (by decide : deviceTypeEndunit ≠ deviceTypeMotionSensor), if_false, if_true]
    exact endunit_untruthful ho hv hi hvalid hs hg
  · simp only [ht, if_true]
    exact motion_untruthful ho hv hi hvalid hs hg
  · simp only [ht, (by decide : deviceTypeDoorunit ≠ deviceTypeMotionSensor),
      (by decide : deviceTypeDoorunit ≠ deviceTypeEndunit), if_false, if_true]
    exact doorunit_untruthful ho hv hi hvalid hs hg
  · simp only [ht, (by decide : deviceTypeGateway ≠ deviceTypeMotionSensor),
      (by decide : deviceTypeGateway ≠ deviceTypeEndunit),
      (by decide : deviceTypeGateway ≠ deviceTypeDoorunit), if_false, if_true]
    exact gateway_untruthful ho hv hi hvalid hs hg

/-- **Valve reports are truthful, exactly when** no remote command to open is
refused. -/
theorem valve_reports_truthful_iff (cfg : Config) (env : Env) (flash : Flash) (download : Nat → UInt8)
    (is : List (Env × Event)) :
    (system cfg).Steps (fun _ _ s' => AllTruthful s'.unit) (powerOn cfg env flash download) is ↔
      (system cfg).Steps (fun s i _ => ¬ RefusedOpen (s.unit.begin i.1) i.2)
        (powerOn cfg env flash download) is := by
  refine @Machine.steps_iff_of_inv _ _ (system cfg) (fun s => CriticalShut s.unit) _ _ _
    (fun _ => (boot_spec _).1) ?_ ?_ is
  · intro s i s' hi _ hn
    exact next_keeps (P := CriticalShut) (fun h => h) (fun u u' he => he.criticalShut) hn hi
  · intro s i s' hi hn
    constructor
    · intro htrue href
      obtain ⟨_, rfl⟩ := system_next_eq_some.1 hn
      obtain ⟨m, hm, hfalse⟩ := RefusedOpen.untruthful (s := s.onUnit (MainUnit.begin i.1)) href
      exact hfalse (htrue m hm)
    · intro hno
      have hbegin : CriticalShut (s.unit.begin i.1) ∧ AllTruthful (s.unit.begin i.1) :=
        ⟨hi, fun m hm => absurd hm (by simp [MainUnit.begin])⟩
      have h := closed_of_path (P := fun u => CriticalShut u ∧ AllTruthful u)
        (fun u u' he hu => ⟨he.criticalShut hu.1, he.allTruthful hno hu.1 hu.2⟩) (path_next hn) hbegin
      exact h.2

/-- The left side fails its check, a leak closes the valve and is over; then the
gateway commands it open and is told 1. -/
theorem valve_reports_truthful_fails :
    ¬ ∀ (cfg : Config) (env : Env) (flash : Flash) (download : Nat → UInt8) (is : List (Env × Event)),
      (system cfg).Steps (fun _ _ s' => AllTruthful s'.unit) (powerOn cfg env flash download) is := by
  intro h
  refine Machine.not_steps_of_run (M := system sampleConfig) (P := fun s => AllTruthful s.unit) sampleStart
    [(sampleEnv, sampleFrame deviceTypeGateway 9 [learnDeviceCmd, 1, 1]),
      (sampleEnv, sampleFrame deviceTypeEndunit 7 [learnDeviceCmd, 1, 1]),
      (sampleEnv, .keyOnClick), (sampleEnv, .rtcValveCheck), (sampleEnv, .timer (.turnBack .left)),
      (sampleEnv, sampleFrame deviceTypeEndunit 7 [warningUploadCmd, 2, 0, 1]),
      (sampleEnv, sampleFrame deviceTypeEndunit 7 [warningUploadCmd, 2, 0, 0])]
    (sampleEnv, sampleFrame deviceTypeGateway 9 [controlValveCmd, 1, 1]) ?_ (h _ _ _ _ _)
  decide +kernel

end Aqualarm
