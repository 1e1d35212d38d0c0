import Aqualarm.FrameReads

/-
  What the effect of a received frame depends on.

  What is proved: `frame_determined_iff` — in every reachable state, what
  `radio_protocol_parse` does with a buffer is the same whatever lies behind the
  frame and whatever the stack held, exactly when the frame is refused or is
  `Covered`. A factory test frame never is: `rx_frame.snr` is not set, and is
  stored.

  Each byte a handler uses can be read off the outcome, so a byte behind the
  frame shows there.
-/

namespace Aqualarm

open Lib

/-! Bytes the outcome shows. -/

/-- What a handler does with the frame is the same whatever lies behind it. -/
def SameBehind (rx : RxFrame) (s : State) : Prop :=
  ∀ snr tail, (radioFrameDispatch (rx.withTail snr tail) s).outcome = (radioFrameDispatch rx s).outcome

section
variable {rx : RxFrame} {s : State}

/-- A byte that can be read off the outcome is in the frame. -/
theorem SameBehind.lt_rxLen (h : SameBehind rx s) {k : Nat} (shown : Outcome → Option UInt8)
    (hshown : ∀ tail, shown (radioFrameDispatch (rx.withTail 0 tail) s).outcome =
      some ((rx.withTail 0 tail).rxData k)) : k < rx.rxLen := by
  by_contra hk
  have hbyte : ∀ b : UInt8, shown (radioFrameDispatch rx s).outcome = some b := by
    intro b
    rw [← h 0 fun _ => b, hshown, withTail_rxData_of_le (Nat.not_lt.1 hk)]
  have h01 := (hbyte 0).symm.trans (hbyte 1)
  exact absurd h01 (by decide)

theorem RxFrame.FromListed.withTail {u : MainUnit} (h : rx.FromListed u) (snr : Int8) (tail : Nat → UInt8) :
    (rx.withTail snr tail).FromListed u := ⟨h.listed, h.toUnit⟩

theorem RxFrame.FromListed.find {u : MainUnit} (h : rx.FromListed u) :
    ∃ device, aqDeviceFind rx.sourceAddr u.storage = some device :=
  Option.isSome_iff_exists.1 (aqDeviceFind_isSome.2 h.listed)

/-! End units. -/

theorem endunitHeart_shown (hl : rx.FromListed s.unit) (ht : rx.deviceType = deviceTypeEndunit)
    (hc : rx.rxData 0 = heartUploadCmd) (hg : aqGatewayFind s.unit.storage ≠ 0) :
    lastByte 6 (radioFrameDispatch rx s).outcome.tx = some (rx.rxData 3) := by
  obtain ⟨device, hdev⟩ := hl.find
  unfold radioFrameDispatch
  rw [if_neg (by rw [ht]; decide), if_pos ht, State.outcome, State.onUnit_unit, radioFrameEndunitParse]
  simp only [hdev, hc, (by decide : heartUploadCmd ≠ learnDeviceCmd), if_false, if_true, ne_eq, hl.toUnit,
    not_true_eq_false, warningOfflineCheck_tx, MainUnit.onStorage_tx]
  rw [endunitHeart_eq, gatewayWarningEndunitHeart, gatewayUpload_lastByte]
  · rfl
  · rwa [endunitHeartBefore_gatewayFind]

theorem NoReport.trans {a b c : MainUnit} (h : NoReport a b) (h' : NoReport b c) : NoReport a c := by
  obtain ⟨ms, hms, htx⟩ := h
  obtain ⟨ms', hms', htx'⟩ := h'
  refine ⟨ms ++ ms', fun m hm => ?_, by rw [htx', htx, List.append_assoc]⟩
  rcases List.mem_append.1 hm with hm | hm
  · exact hms m hm
  · exact hms' m hm

/-- After its answer the warning handler only adds frames. -/
theorem endunitWarn_tx (rx : RxFrame) (device : Device) (u : MainUnit) :
    ∃ ms, (radioFrameEndunitParseWarn rx device u).tx =
      (radioEndunitCommandSend (replyFrame rx warningUploadCmd [rx.rxData 2, rx.rxData 3] u) u).tx ++ ms := by
  have hupload : ∀ sendBuf (v : MainUnit),
      NoReport v (gatewayUpload true msgConfirmedUplink warningUploadCmd sendBuf v) :=
    fun _ v => gatewayUpload_noReport (by decide) v
  have hnr : NoReport (radioEndunitCommandSend (replyFrame rx warningUploadCmd [rx.rxData 2, rx.rxData 3] u) u)
      (radioFrameEndunitParseWarn rx device u) := by
    unfold radioFrameEndunitParseWarn
    dsimp only
    generalize radioEndunitCommandSend (replyFrame rx warningUploadCmd [rx.rxData 2, rx.rxData 3] u) u = v
    by_cases h₀ : rx.rxData 2 = 0
    · rw [if_pos h₀]
      refine NoReport.trans ?_ (hupload _ _)
      split_ifs
      · exact NoReport.trans (.of_tx rfl) (warningEnable_noReport _ _)
      · exact .of_tx rfl
      · exact .of_tx rfl
      · exact .of_tx rfl
    · rw [if_neg h₀]
      by_cases h₁ : rx.rxData 2 = 1
      · rw [if_pos h₁]
        refine NoReport.trans ?_ (hupload _ _)
        split_ifs
        · exact NoReport.trans (.of_tx rfl) (warningEnable_noReport _ _)
        · exact .of_tx rfl
        · exact .of_tx rfl
        · exact .of_tx rfl
      · rw [if_neg h₁]
        exact .of_tx rfl
  obtain ⟨ms, _, htx⟩ := hnr
  exact ⟨ms, htx⟩

/-- Byte `k` of the first frame enqueued. -/
def firstByte (k : Nat) (tx : List SendMsg) : Option UInt8 := tx.head?.bind fun m => m.frame.txData[k]?

theorem endunitWarn_shown (hl : rx.FromListed s.unit) (ht : rx.deviceType = deviceTypeEndunit)
    (hc : rx.rxData 0 = warningUploadCmd) (htx : s.unit.tx = []) :
    firstByte 1 (radioFrameDispatch rx s).outcome.tx = some (rx.rxData 3) := by
  obtain ⟨device, hdev⟩ := hl.find
  unfold radioFrameDispatch
  rw [if_neg (by rw [ht]; decide), if_pos ht, State.outcome, State.onUnit_unit, radioFrameEndunitParse]
  simp only [hdev, hc, (by decide : warningUploadCmd ≠ learnDeviceCmd),
    (by decide : warningUploadCmd ≠ heartUploadCmd), (by decide : warningUploadCmd ≠ controlValveCmd),
    if_false, if_true, ne_eq, hl.toUnit, not_true_eq_false, warningOfflineCheck_tx, MainUnit.onStorage_tx]
  obtain ⟨ms, hms⟩ := endunitWarn_tx rx device s.unit
  rw [hms]
  simp [radioEndunitCommandSend, radioCommandSend, loraTxEnqueue, htx, firstByte, replyFrame]

/-! The door unit. -/

/-- A heartbeat leaves the battery. -/
theorem heartRecv_battery (rx : RxFrame) (a : UInt32) (st : Storage) :
    (aqDeviceFind a (aqDeviceHeartRecv rx st).2).map Device.battery =
      (aqDeviceFind a st).map Device.battery := by
  unfold aqDeviceHeartRecv
  cases aqDeviceFind rx.sourceAddr st with
  | none => rfl
  | some d =>
    have hrecv := @RegOp.ById.find (.recvWrite rx.sourceAddr 1) trivial a st
    have honline := @RegOp.ById.find (.onlineSet rx.sourceAddr 1) trivial a (deviceRecvWrite rx.sourceAddr 1 st)
    have hrssi := @RegOp.ById.find (.rssiLevelSet rx.sourceAddr rx.rssiLevel) trivial a
      (aqDeviceOnlineSet rx.sourceAddr 1 (deviceRecvWrite rx.sourceAddr 1 st))
    have hbattery : ∀ d : Device,
        (RegOp.change (.rssiLevelSet rx.sourceAddr rx.rssiLevel)
          (RegOp.change (.onlineSet rx.sourceAddr 1) (RegOp.change (.recvWrite rx.sourceAddr 1) d))).battery =
          d.battery := by
      intro d
      unfold RegOp.change setDevice
      dsimp only
      split_ifs <;> rfl
    change (aqDeviceFind a (RegOp.apply (.rssiLevelSet rx.sourceAddr rx.rssiLevel)
      (aqDeviceOnlineSet rx.sourceAddr 1 (deviceRecvWrite rx.sourceAddr 1 st)))).map Device.battery = _
    rw [hrssi]
    change ((aqDeviceFind a (RegOp.apply (.onlineSet rx.sourceAddr 1)
      (deviceRecvWrite rx.sourceAddr 1 st))).map _).map Device.battery = _
    rw [honline]
    change (((aqDeviceFind a (RegOp.apply (.recvWrite rx.sourceAddr 1) st)).map _).map _).map Device.battery = _
    rw [hrecv, Option.map_map, Option.map_map, Option.map_map]
    exact congrArg (fun f => Option.map f (aqDeviceFind a st)) (funext hbattery)

theorem doorunitHeart_shown (hl : rx.FromListed s.unit) (ht : rx.deviceType = deviceTypeDoorunit)
    (hc : rx.rxData 0 = heartUploadCmd) (hsub : rx.rxData 2 = 0) :
    ((radioFrameDispatch rx s).outcome.deviceList.find? fun d => d.deviceId = rx.sourceAddr).map
      Device.battery = some (rx.rxData 3) := by
  obtain ⟨device, hdev⟩ := hl.find
  have hid : device.deviceId = rx.sourceAddr := by simpa using List.find?_some hdev
  unfold radioFrameDispatch
  rw [if_neg (by rw [ht]; decide), if_neg (by rw [ht]; decide), if_pos ht, State.outcome, State.onUnit_unit,
    radioFrameDoorunitParse]
  simp only [hdev, hc, (by decide : heartUploadCmd ≠ learnDeviceCmd), if_false, if_true, ne_eq, hl.toUnit,
    not_true_eq_false, MainUnit.onStorage_storage]
  change (aqDeviceFind rx.sourceAddr (aqDeviceHeartRecv rx _).2).map Device.battery = _
  rw [heartRecv_battery]
  simp only [radioFrameDoorunitParseHeart, hsub, if_true, gatewayHeartDoorunitUpload, gatewayUpload_storage,
    MainUnit.onStorage_storage]
  change (aqDeviceFind rx.sourceAddr (RegOp.apply (.batterySet device.deviceId (rx.rxData 3))
    s.unit.storage)).map Device.battery = _
  rw [@RegOp.ById.find (.batterySet device.deviceId (rx.rxData 3)) trivial, hdev, Option.map_some,
    Option.map_some]
  unfold RegOp.change setDevice
  simp only [true_and]
  split_ifs with h
  · rfl
  · rw [not_not.1 h]

/-! Motion sensors. -/

theorem motionHeart_shown (hl : rx.FromListed s.unit) (ht : rx.deviceType = deviceTypeMotionSensor)
    (hc : rx.rxData 0 = heartUploadCmd) (hg : aqGatewayFind s.unit.storage ≠ 0) :
    lastByte 8 (radioFrameDispatch rx s).outcome.tx = some (rx.rxData 4) := by
  obtain ⟨device, hdev⟩ := hl.find
  unfold radioFrameDispatch
  rw [if_pos ht, State.outcome, State.onUnit_unit, radioFrameMotionParse]
  simp only [hdev, hc, (by decide : heartUploadCmd ≠ learnDeviceCmd), if_false, if_true, ne_eq, hl.toUnit,
    not_true_eq_false, MainUnit.onStorage_tx]
  rw [radioFrameMotionParseHeart, gatewayHeartMotionSensorUpload, gatewayUpload_lastByte]
  · rfl
  · exact hg

theorem motionControl_shown (hl : rx.FromListed s.unit) (ht : rx.deviceType = deviceTypeMotionSensor)
    (hc : rx.rxData 0 = controlValveCmd) (hg : aqGatewayFind s.unit.storage ≠ 0)
    (hi : s.unit.core.deviceStatus.Idle) :
    lastByte 9 (radioFrameDispatch rx s).outcome.tx = some (rx.rxData 5) := by
  obtain ⟨device, hdev⟩ := hl.find
  unfold radioFrameDispatch
  rw [if_pos ht, State.outcome, State.onUnit_unit, radioFrameMotionParse]
  simp only [hdev, hc, (by decide : controlValveCmd ≠ learnDeviceCmd),
    (by decide : controlValveCmd ≠ heartUploadCmd), if_false, if_true, ne_eq, hl.toUnit,
    not_true_eq_false, MainUnit.onStorage_tx]
  rw [motionControl_eq _ _ hi, gatewayControlMotionSensorControl, gatewayUpload_lastByte]
  · rfl
  · rwa [motionControlBefore_gatewayFind]

/-! The gateway and the factory tool. -/

/-- The last byte of a word as it is sent. -/
theorem beWord_toUInt8 (b0 b1 b2 b3 : UInt8) : (beWord b0 b1 b2 b3).toUInt8 = b3 := by
  unfold beWord
  apply UInt8.eq_of_toBitVec_eq
  ext i hi
  simp [UInt32.toBitVec_shiftLeft]

theorem word_toUInt8 (rx : RxFrame) : rx.word.toUInt8 = rx.rxData 6 := beWord_toUInt8 ..

theorem withTail_word_update_of_gt {snr : Int8} {tail : Nat → UInt8} (b : UInt8) :
    (rx.withTail snr (Function.update tail 7 b)).word = (rx.withTail snr tail).word := by
  have hbyte : ∀ i, i < 7 →
      (rx.withTail snr (Function.update tail 7 b)).rxData i = (rx.withTail snr tail).rxData i := by
    intro i hi
    simp only [RxFrame.withTail, Function.update_of_ne (Nat.ne_of_lt hi)]
  simp only [RxFrame.word, hbyte 3 (by decide), hbyte 4 (by decide), hbyte 5 (by decide),
    hbyte 6 (by decide)]

/-- Where the last byte of the word is behind the frame, the word can be another. -/
theorem withTail_word_ne {snr : Int8} {tail : Nat → UInt8} (h : rx.rxLen ≤ 6) :
    (rx.withTail snr (Function.update tail 6 (tail 6 + 1))).word ≠ (rx.withTail snr tail).word := by
  intro heq
  have hbyte := congrArg UInt32.toUInt8 heq
  rw [word_toUInt8, word_toUInt8, withTail_rxData_of_le h, withTail_rxData_of_le h,
    Function.update_self] at hbyte
  simp at hbyte

/-- The frame's arrival marks its source as heard. -/
def heard (rx : RxFrame) (s : State) : State :=
  s.onUnit (MainUnit.onStorage (aqDeviceRecvSet rx.sourceAddr 1))

theorem gatewayDispatch_sync (hl : rx.FromListed s.unit) (ht : rx.deviceType = deviceTypeGateway)
    (hc : rx.rxData 0 = deviceSyncCmd) :
    radioFrameDispatch rx s = (heard rx s).onUnit (radioFrameGatewayParseSync rx) := by
  obtain ⟨device, hdev⟩ := hl.find
  unfold radioFrameDispatch
  rw [if_neg (by rw [ht]; decide), if_neg (by rw [ht]; decide), if_neg (by rw [ht]; decide), if_pos ht,
    radioFrameGatewayParse]
  simp only [hdev, hc, (by decide : deviceSyncCmd ≠ learnDeviceCmd), (by decide : deviceSyncCmd ≠ controlValveCmd),
    if_false, if_true, Option.isNone_some, Bool.false_eq_true, ne_eq, hl.toUnit, not_true_eq_false, heard]

theorem gatewayDispatch_ota (hl : rx.FromListed s.unit) (ht : rx.deviceType = deviceTypeGateway)
    (hc : rx.rxData 0 = firmwareUpdateCmd) :
    radioFrameDispatch rx s = radioFrameGatewayParseOta rx (heard rx s) := by
  obtain ⟨device, hdev⟩ := hl.find
  exact dispatch_update ht hc hl.toUnit (by rw [hdev]; rfl)

/-- A deletion takes one node of its id and none of another. -/
theorem aqDeviceDelete_count (a b : UInt32) (st : Storage) (ha : Listed a st) :
    ((aqDeviceDelete b st).2.deviceList.countP fun d => d.deviceId = a) + (if b = a then 1 else 0) =
      st.deviceList.countP fun d => d.deviceId = a := by
  obtain ⟨hnone, he⟩ | ⟨d, hd, he⟩ := aqDeviceDelete_cases b st
  · rw [he, if_neg]
    · rfl
    · rintro rfl
      exact aqDeviceFind_eq_none.1 hnone ha
  · obtain ⟨l₁, l₂, hl, herase⟩ := aqDeviceFind_split hd
    have hid : d.deviceId = b := by simpa using List.find?_some hd
    rw [he]
    change ((st.deviceList.eraseP fun d => d.deviceId = b).countP fun d => d.deviceId = a) + _ = _
    rw [herase, hl]
    simp only [List.countP_append, List.countP_cons, hid, decide_eq_true_eq]
    omega

theorem SameBehind.syncDelete (h : SameBehind rx s) (hl : rx.FromListed s.unit)
    (ht : rx.deviceType = deviceTypeGateway) (hc : rx.rxData 0 = deviceSyncCmd) (hsub : rx.rxData 2 = 1)
    (h3 : 3 ≤ rx.rxLen) : 7 ≤ rx.rxLen ∨ ∀ snr tail, ¬ Listed (rx.withTail snr tail).word s.unit.storage := by
  by_contra hnot
  obtain ⟨hshort, hex⟩ := not_or.1 hnot
  push Not at hex
  obtain ⟨snr, tail, hlisted⟩ := hex
  have hdispatch : ∀ tail, (radioFrameDispatch (rx.withTail snr tail) s).outcome.deviceList =
      (aqDeviceDelete (rx.withTail snr tail).word (heard rx s).unit.storage).2.deviceList := by
    intro tail
    rw [gatewayDispatch_sync (hl.withTail snr tail) ht (by rw [withTail_rxData (by omega), hc]),
      State.outcome, State.onUnit_unit, gatewayParseSync_eq, withTail_rxData (show 2 < rx.rxLen by omega),
      if_neg (by rw [hsub]; decide), if_pos hsub]
    rfl
  have hlisted' : Listed (rx.withTail snr tail).word (heard rx s).unit.storage :=
    (@RegOp.InPlace.listed (.recvSet rx.sourceAddr 1) trivial s.unit.storage _).2 hlisted
  have hcount : ∀ tail', ((radioFrameDispatch rx s).outcome.deviceList.countP fun d =>
        d.deviceId = (rx.withTail snr tail).word) +
        (if (rx.withTail snr tail').word = (rx.withTail snr tail).word then 1 else 0) =
      (heard rx s).unit.storage.deviceList.countP fun d => d.deviceId = (rx.withTail snr tail).word := by
    intro tail'
    rw [← h snr tail', hdispatch]
    exact aqDeviceDelete_count _ _ _ hlisted'
  have hself := hcount tail
  have hother := hcount (Function.update tail 6 (tail 6 + 1))
  rw [if_pos rfl] at hself
  rw [if_neg (withTail_word_ne (by omega))] at hother
  omega

theorem loraOtaBegin_totalSize (env : Env) (fileSize : Nat) (ota : Ota) :
    (loraOtaBegin env fileSize ota).2.updateFileTotalSize = fileSize := by
  obtain ⟨_, _, _, h⟩ | ⟨_, h⟩ := loraOtaBegin_cases env fileSize ota
  · rw [h]
  · rw [h]

theorem otaBegin_shown (hl : rx.FromListed s.unit) (ht : rx.deviceType = deviceTypeGateway)
    (hc : rx.rxData 0 = firmwareUpdateCmd) (hsub : rx.rxData 2 = 1) :
    some (UInt8.ofNat (radioFrameDispatch rx s).outcome.ota.updateFileTotalSize) = some (rx.rxData 6) := by
  rw [gatewayDispatch_ota hl ht hc, State.outcome, gatewayParseOta_eq, if_pos hsub, State.onOta_ota,
    loraOtaBegin_totalSize, ← word_toUInt8]
  rfl

theorem factoryTest_shown (ht : rx.deviceType = deviceTypeFactoryTool) (hc : rx.rxData 0 = factoryRfTestCmd)
    (hd : rx.destAddr = getLocalAddress s.unit) (hs : rx.sourceAddr = 99999999) :
    (radioFrameDispatch rx s).outcome.factory.factoryControllerRecvSnr = rx.snr := by
  unfold radioFrameDispatch
  rw [if_neg (by rw [ht]; decide), if_neg (by rw [ht]; decide), if_neg (by rw [ht]; decide),
    if_neg (by rw [ht]; decide), if_pos ht, radioFrameFactoryParse, if_neg (by simp [hd, hs]), if_pos hc]
  rfl

/-! Update packets. -/

theorem otaReceive_dispatch (hl : rx.FromListed s.unit) (ht : rx.deviceType = deviceTypeGateway)
    (hc : rx.rxData 0 = firmwareUpdateCmd) (hsub : rx.rxData 2 = 2) :
    radioFrameDispatch rx s = (heard rx s).onOta (loraOtaReceive s.unit.env rx.packet rx.word.toNat) := by
  rw [gatewayDispatch_ota hl ht hc, gatewayParseOta_eq, if_neg (by rw [hsub]; decide), if_pos hsub]
  rfl

/-- An acknowledgement is one frame more, where there is a gateway. -/
theorem onOta_tx_length {f : Ota → Option OtaReply × Ota} {s : State} (hg : aqGatewayFind s.unit.storage ≠ 0) :
    (s.onOta f).outcome.tx.length = s.unit.tx.length + (if (f s.ota).1.isSome then 1 else 0) := by
  unfold State.onOta
  dsimp only
  cases (f s.ota).1 with
  | none => rfl
  | some reply =>
    cases reply <;>
      simp [State.outcome, State.onUnit, OtaReply.send, gatewayUpload, radioGatewayCommandSend, hg,
        radioCommandSend, loraTxEnqueue]

section
variable (h : SameBehind rx s) (hl : rx.FromListed s.unit) (ht : rx.deviceType = deviceTypeGateway)
  (hc : rx.rxData 0 = firmwareUpdateCmd) (hsub : rx.rxData 2 = 2) (h3 : 3 ≤ rx.rxLen)
include h hl ht hc hsub h3

/-- What the receiver becomes does not depend on what lies behind the packet. -/
theorem SameBehind.receiver (snr : Int8) (tail : Nat → UInt8) :
    (radioFrameDispatch rx s).outcome.ota =
      (loraOtaReceive s.unit.env (rx.withTail snr tail).packet (rx.withTail snr tail).word.toNat s.ota).2 := by
  rw [← h snr tail, otaReceive_dispatch (hl.withTail snr tail) ht (by rw [withTail_rxData (by omega), hc])
    (by rw [withTail_rxData (by omega), hsub]), State.outcome, State.onOta_ota]
  rfl

/-- Nor, with a gateway, does whether it is acknowledged. -/
theorem SameBehind.acknowledged (hg : aqGatewayFind s.unit.storage ≠ 0) (snr : Int8) (tail : Nat → UInt8) :
    (radioFrameDispatch rx s).outcome.tx.length =
      s.unit.tx.length + (if (loraOtaReceive s.unit.env (rx.withTail snr tail).packet
        (rx.withTail snr tail).word.toNat s.ota).1.isSome then 1 else 0) := by
  have hg' : aqGatewayFind (heard (rx.withTail snr tail) s).unit.storage ≠ 0 := by
    rw [heard, State.onUnit_unit, MainUnit.onStorage_storage, aqGatewayFind_recvSet]
    exact hg
  rw [← h snr tail, otaReceive_dispatch (hl.withTail snr tail) ht (by rw [withTail_rxData (by omega), hc])
    (by rw [withTail_rxData (by omega), hsub]), onOta_tx_length hg']
  rfl

/-- A packet whose size is in the frame, at the cursor, in bounds: its last byte
is stored, so it is in the frame. -/
theorem SameBehind.packet_whole (hw : s.unit.env.falPartitionWrite = true) (hlen : 8 ≤ rx.rxLen)
    (hat : s.ota.updateFileCurSize = rx.word.toNat) (hpart : s.ota.dlPart = true)
    (hfits : s.ota.updateFileCurSize + (rx.rxData 7).toNat ≤ downloadLen) :
    8 + (rx.rxData 7).toNat ≤ rx.rxLen := by
  by_cases hzero : (rx.rxData 7).toNat = 0
  · omega
  · have hlast := @SameBehind.lt_rxLen rx s h (8 + ((rx.rxData 7).toNat - 1))
      (fun o => some (o.ota.download (s.ota.updateFileCurSize + ((rx.rxData 7).toNat - 1)))) fun tail => ?_
    · omega
    · have hsize : (rx.withTail 0 tail).packet.length = (rx.rxData 7).toNat := by
        rw [length_packet, withTail_rxData (show 7 < rx.rxLen by omega)]
      rw [h 0 tail, h.receiver hl ht hc hsub h3 0 tail,
        loraOtaReceive_written (by rw [withTail_word (by omega), hat]) hpart (by rw [hsize]; exact hfits) hw]
      dsimp only
      rw [writeDownload_inside (by omega) (by rw [hsize]; omega), Nat.add_sub_cancel_left]
      have hin : (rx.rxData 7).toNat - 1 < ((rx.withTail 0 tail).rxData 7).toNat := by
        rw [withTail_rxData (show 7 < rx.rxLen by omega)]
        omega
      simp [RxFrame.packet, List.getD_eq_getElem?_getD, hin]

/-- Where the offset can be the cursor and the size is not in the frame, the
packet may as well carry nothing or one byte. -/
theorem SameBehind.partition_full (hw : s.unit.env.falPartitionWrite = true)
    (hcur : s.ota.updateFileCurSize ≤ downloadLen) (hlen : rx.rxLen ≤ 7) (hpart : s.ota.dlPart = true)
    {snr : Int8} {tail : Nat → UInt8} (hat : (rx.withTail snr tail).word.toNat = s.ota.updateFileCurSize) :
    s.ota.updateFileCurSize = downloadLen ∧ aqGatewayFind s.unit.storage = 0 := by
  have hsize : ∀ b : UInt8, (rx.withTail snr (Function.update tail 7 b)).packet.length = b.toNat := by
    intro b
    rw [length_packet, withTail_rxData_of_le hlen, Function.update_self]
  have hword : ∀ b : UInt8, s.ota.updateFileCurSize =
      (rx.withTail snr (Function.update tail 7 b)).word.toNat := by
    intro b
    rw [withTail_word_update_of_gt, hat]
  have hnothing := loraOtaReceive_written (hword 0) hpart
    (by rw [hsize, show (0 : UInt8).toNat = 0 from rfl]; exact hcur) hw
  have hcursor : s.ota.updateFileCurSize = downloadLen := by
    by_contra hne
    have hbyte := loraOtaReceive_written (hword 1) hpart
      (by rw [hsize, show (1 : UInt8).toNat = 1 from rfl]; omega) hw
    have h₀ := h.receiver hl ht hc hsub h3 snr (Function.update tail 7 0)
    rw [h.receiver hl ht hc hsub h3 snr (Function.update tail 7 1), hbyte, hnothing, hsize, hsize] at h₀
    have hcurs := congrArg Ota.updateFileCurSize h₀
    simp at hcurs
  refine ⟨hcursor, ?_⟩
  by_contra hg
  have hrefused := @loraOtaReceive_refused s.unit.env s.ota
    (rx.withTail snr (Function.update tail 7 1)).packet _ (hword 1) hpart (Or.inl (by
      rw [hsize, hcursor]
      decide))
  have h₀ := h.acknowledged hl ht hc hsub h3 hg snr (Function.update tail 7 0)
  rw [h.acknowledged hl ht hc hsub h3 hg snr (Function.update tail 7 1), hrefused, hnothing] at h₀
  simp at h₀

theorem SameBehind.packetCovered (hw : s.unit.env.falPartitionWrite = true) (hfault : s.ota.fault = false)
    (hcur : s.ota.updateFileCurSize ≤ downloadLen) : rx.PacketCovered s := by
  by_cases haway : ∀ snr tail, (rx.withTail snr tail).word.toNat ≠ s.ota.updateFileCurSize
  · exact .away haway
  · push Not at haway
    obtain ⟨snr, tail, hat⟩ := haway
    by_cases hlen : 8 ≤ rx.rxLen
    · rw [withTail_word (by omega)] at hat
      cases hpart : s.ota.dlPart with
      | false => exact .noPartition (by omega) hpart
      | true =>
        by_cases hfits : s.ota.updateFileCurSize + (rx.rxData 7).toNat ≤ downloadLen
        · exact .whole (h.packet_whole hl ht hc hsub h3 hw hlen hat.symm hpart hfits)
        · exact .tooLong hlen (Nat.lt_of_not_le hfits)
    · cases hpart : s.ota.dlPart with
      | true =>
        obtain ⟨hcursor, hg⟩ := h.partition_full hl ht hc hsub h3 hw hcur (by omega) hpart hat
        exact .full (by omega) hpart hcursor hg
      | false =>
        by_cases hseven : 7 ≤ rx.rxLen
        · exact .noPartition hseven hpart
        · -- at the cursor the write faults, elsewhere the packet is dropped
          exfalso
          have hfaults := h.receiver hl ht hc hsub h3 snr tail
          have hother := @withTail_word_ne rx snr tail (show rx.rxLen ≤ 6 by omega)
          rw [loraOtaReceive_fault hat.symm hpart,
            h.receiver hl ht hc hsub h3 snr (Function.update tail 6 (tail 6 + 1)), loraOtaReceive_away] at hfaults
          · have := congrArg Ota.fault hfaults
            rw [hfault] at this
            cases this
          · rw [← hat]
            exact fun heq => hother (UInt32.toNat_inj.1 heq).symm

end

/-- **A frame whose effect is in the frame** is covered. -/
theorem SameBehind.covered (h : SameBehind rx s) (h3 : 3 ≤ rx.rxLen) (htx : s.unit.tx = [])
    (hw : s.unit.env.falPartitionWrite = true) (hfault : s.ota.fault = false)
    (hcur : s.ota.updateFileCurSize ≤ downloadLen) : rx.Covered s where
  endunitHeart hl ht hc := by
    by_cases hg : aqGatewayFind s.unit.storage = 0
    · exact Or.inr hg
    · exact Or.inl (h.lt_rxLen (fun o => lastByte 6 o.tx) fun tail =>
        endunitHeart_shown (hl.withTail 0 tail) ht (by rw [withTail_rxData (by omega), hc]) hg)
  endunitWarn hl ht hc :=
    h.lt_rxLen (fun o => firstByte 1 o.tx) fun tail =>
      endunitWarn_shown (hl.withTail 0 tail) ht (by rw [withTail_rxData (by omega), hc]) htx
  doorunitHeart hl ht hc hsub :=
    h.lt_rxLen (fun o => (o.deviceList.find? fun d => d.deviceId = rx.sourceAddr).map Device.battery) fun tail =>
      doorunitHeart_shown (hl.withTail 0 tail) ht (by rw [withTail_rxData (by omega), hc])
        (by rw [withTail_rxData (by omega), hsub])
  motionHeart hl ht hc := by
    by_cases hg : aqGatewayFind s.unit.storage = 0
    · exact Or.inr hg
    · exact Or.inl (h.lt_rxLen (fun o => lastByte 8 o.tx) fun tail =>
        motionHeart_shown (hl.withTail 0 tail) ht (by rw [withTail_rxData (by omega), hc]) hg)
  motionControl hl ht hc := by
    by_cases hg : aqGatewayFind s.unit.storage = 0
    · exact Or.inr (Or.inl hg)
    · by_cases hi : s.unit.core.deviceStatus.Idle
      · exact Or.inl (h.lt_rxLen (fun o => lastByte 9 o.tx) fun tail =>
          motionControl_shown (hl.withTail 0 tail) ht (by rw [withTail_rxData (by omega), hc]) hg hi)
      · exact Or.inr (Or.inr hi)
  syncDelete hl ht hc hsub := h.syncDelete hl ht hc hsub h3
  otaBegin hl ht hc hsub :=
    h.lt_rxLen (fun o => some (UInt8.ofNat o.ota.updateFileTotalSize)) fun tail =>
      otaBegin_shown (hl.withTail 0 tail) ht (by rw [withTail_rxData (by omega), hc])
        (by rw [withTail_rxData (by omega), hsub])
  otaReceive hl ht hc hsub := h.packetCovered hl ht hc hsub h3 hw hfault hcur
  factoryTest := by
    rintro ⟨ht, hc, hd, hs⟩
    have hsnr : ∀ snr : Int8, (radioFrameDispatch rx s).outcome.factory.factoryControllerRecvSnr = snr := by
      intro snr
      rw [← h snr rx.rxData]
      exact @factoryTest_shown (rx.withTail snr rx.rxData) s ht (by rw [withTail_rxData (by omega), hc]) hd hs
    exact absurd ((hsnr 0).symm.trans (hsnr 1)) (by decide)

end

/-! Buffers. -/

section
variable {rssi : Int} {data data' : Nat → UInt8} {len : Nat}

theorem radioAccepted_congr (cfg : Config) (h : ∀ i, i < len → data' i = data i) :
    radioAccepted cfg data' len ↔ radioAccepted cfg data len := by
  by_cases hlen : 14 ≤ len
  · have hbody : (List.range (len - 1)).map data' = (List.range (len - 1)).map data :=
      List.map_congr_left fun i hi => h i (by have := List.mem_range.1 hi; omega)
    unfold radioAccepted
    rw [h 0 (by omega), h 1 (by omega), h (len - 1) (by omega), hbody]
  · exact iff_of_false (fun ha => hlen ha.1) fun ha => hlen ha.1

/-- Buffers that agree on the frame give frames that differ behind it. -/
theorem rxFrameOf_withTail (hlen : 14 ≤ len) (h : ∀ i, i < len → data' i = data i) (stackSnr stackSnr' : Int8)
    {tail : Nat → UInt8} (htail : ∀ i, len - 11 ≤ i → data' (11 + i) = tail i) :
    rxFrameOf stackSnr' rssi data' len = (rxFrameOf stackSnr rssi data len).withTail stackSnr' tail := by
  have hdata : (fun i => data' (11 + i)) = fun i => if i < len - 11 then data (11 + i) else tail i := by
    funext i
    split_ifs with hi
    · exact h (11 + i) (by omega)
    · exact htail i (by omega)
  unfold rxFrameOf RxFrame.withTail
  simp only [h 2 (by omega), h 3 (by omega), h 4 (by omega), h 5 (by omega), h 6 (by omega), h 7 (by omega),
    h 8 (by omega), h 9 (by omega), h 10 (by omega), hdata]

end

section
variable {rx : RxFrame} {s : State}

theorem covered_begin (env : Env) : rx.Covered (s.onUnit (MainUnit.begin env)) ↔ rx.Covered s := by
  have hfrom : rx.FromListed (s.unit.begin env) ↔ rx.FromListed s.unit :=
    ⟨fun h => ⟨h.listed, h.toUnit⟩, fun h => ⟨h.listed, h.toUnit⟩⟩
  constructor
  · intro h
    exact ⟨fun hl => h.endunitHeart (hfrom.2 hl), fun hl => h.endunitWarn (hfrom.2 hl),
      fun hl => h.doorunitHeart (hfrom.2 hl), fun hl => h.motionHeart (hfrom.2 hl),
      fun hl => h.motionControl (hfrom.2 hl), fun hl => h.syncDelete (hfrom.2 hl),
      fun hl => h.otaBegin (hfrom.2 hl),
      fun hl ht hc hs => (h.otaReceive (hfrom.2 hl) ht hc hs).congr rfl rfl, h.factoryTest⟩
  · intro h
    exact ⟨fun hl => h.endunitHeart (hfrom.1 hl), fun hl => h.endunitWarn (hfrom.1 hl),
      fun hl => h.doorunitHeart (hfrom.1 hl), fun hl => h.motionHeart (hfrom.1 hl),
      fun hl => h.motionControl (hfrom.1 hl), fun hl => h.syncDelete (hfrom.1 hl),
      fun hl => h.otaBegin (hfrom.1 hl),
      fun hl ht hc hs => (h.otaReceive (hfrom.1 hl) ht hc hs).congr rfl rfl, h.factoryTest⟩

end

/-- **The effect of a buffer is the frame's**, in every reachable state, exactly
when the frame is refused or covered. -/
theorem frame_determined_iff {cfg : Config} {s : State} (h : (system cfg).Reachable s) (rssi snr : Int)
    (data : Nat → UInt8) (len : Nat) :
    Determined s rssi snr data len ↔
      ((Event.radio rssi snr data len).enabled s = true → radioAccepted s.unit.cfg data len →
        (rxFrameOf 0 rssi data len).Covered s) := by
  have hcur := cursor_le_of_reachable h
  refine imp_congr_right fun henabled => ?_
  have hfault : s.ota.fault = false := by simpa [Event.enabled] using henabled
  have hcfg : ∀ env, (s.onUnit (MainUnit.begin env)).unit.cfg = s.unit.cfg := fun _ => rfl
  constructor
  · intro hdet haccepted
    have hlen := haccepted.1
    rw [← covered_begin sampleEnv]
    refine SameBehind.covered (fun stackSnr tail => ?_) (show 3 ≤ len - 11 by omega) rfl rfl hfault hcur
    have hagree : ∀ i, i < len → (if i < len then data i else tail (i - 11)) = data i :=
      fun i hi => if_pos hi
    have hsame := hdet sampleEnv 0 stackSnr (fun i => if i < len then data i else tail (i - 11)) hagree
    rw [radioProtocolParseOn_eq, radioProtocolParseOn_eq, hcfg, if_pos haccepted,
      if_pos ((radioAccepted_congr _ hagree).2 haccepted)] at hsame
    rw [← hsame, rxFrameOf_withTail hlen hagree 0 stackSnr]
    intro i hi
    rw [if_neg (by omega), Nat.add_sub_cancel_left]
  · intro hcovered env stackSnr stackSnr' data' hagree
    rw [radioProtocolParseOn_eq, radioProtocolParseOn_eq, hcfg]
    by_cases haccepted : radioAccepted s.unit.cfg data len
    · have hlen := haccepted.1
      have hc := (covered_begin env).2 (hcovered haccepted)
      rw [if_pos ((radioAccepted_congr _ hagree).2 haccepted), if_pos haccepted,
        rxFrameOf_withTail hlen hagree 0 stackSnr' fun _ _ => rfl,
        rxFrameOf_withTail hlen (fun _ _ => rfl) 0 stackSnr fun _ _ => rfl,
        hc.dispatch_withTail (show 3 ≤ len - 11 by omega) hcur,
        hc.dispatch_withTail (show 3 ≤ len - 11 by omega) hcur]
    · rw [if_neg haccepted, if_neg fun ha => haccepted ((radioAccepted_congr _ hagree).1 ha)]

/-- A warning without its value byte. -/
def shortWarning : List UInt8 := sampleBytes deviceTypeEndunit 7 [warningUploadCmd, 1]

def factoryTest : List UInt8 := sampleBytes deviceTypeFactoryTool 99999999 [factoryRfTestCmd, 0, 0, 0, 0]

/-- A factory test frame is not covered. -/
theorem frame_determined_factory_test :
    ¬ Determined sampleStart (-60) 5 (factoryTest.getD · 0) factoryTest.length := by
  intro hdet
  have hreach : (system sampleConfig).Reachable sampleStart := Machine.reachable_start ⟨_, _, _, rfl⟩
  have hcovered := (frame_determined_iff hreach (-60) 5 (factoryTest.getD · 0) factoryTest.length).1 hdet
    (by decide +kernel) (by decide +kernel)
  exact hcovered.factoryTest (by decide +kernel)

/-- The answer to a short warning has the byte behind it, and a factory test
frame leaves what the stack held. -/
theorem frame_determined_fails :
    (∃ s, (system sampleConfig).Reachable s ∧
        ¬ Determined s (-60) 5 (shortWarning.getD · 0) shortWarning.length) ∧
      ¬ Determined sampleStart (-60) 5 (factoryTest.getD · 0) factoryTest.length := by
  have hreach : (system sampleConfig).Reachable sampleStart := Machine.reachable_start ⟨_, _, _, rfl⟩
  constructor
  · have hstep : ∃ s, (system sampleConfig).next sampleStart
          (sampleEnv, sampleFrame deviceTypeEndunit 7 [learnDeviceCmd, 1, 1]) = some s ∧
        (Event.radio (-60) 5 (shortWarning.getD · 0) shortWarning.length).enabled s = true ∧
        firstByte 1 (radioProtocolParseOn 0 (-60) 5 (shortWarning.getD · 1) shortWarning.length
            (s.onUnit (MainUnit.begin sampleEnv))).outcome.tx ≠
          firstByte 1 (radioProtocolParseOn 0 (-60) 5 (shortWarning.getD · 0) shortWarning.length
            (s.onUnit (MainUnit.begin sampleEnv))).outcome.tx := by
      refine ⟨_, rfl, ?_⟩
      decide +kernel
    obtain ⟨s, hn, henabled, hne⟩ := hstep
    refine ⟨s, hreach.step hn, fun hdet => hne ?_⟩
    have hagree : ∀ i, i < shortWarning.length → shortWarning.getD i 1 = shortWarning.getD i 0 := by
      intro i hi
      rw [List.getD_eq_getElem _ _ hi, List.getD_eq_getElem _ _ hi]
    rw [hdet henabled sampleEnv 0 0 (shortWarning.getD · 1) hagree]
  · intro hdet
    have hsame := hdet (by decide +kernel) sampleEnv 0 1 (factoryTest.getD · 0) fun _ _ => rfl
    exact absurd (congrArg (fun o => o.factory.factoryControllerRecvSnr) hsame) (by decide +kernel)

end Aqualarm
