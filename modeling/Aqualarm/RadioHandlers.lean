import Aqualarm.Handlers

/-
  The handlers of received frames as chains of effects, and with them every
  event (`path_handle`).
-/

namespace Aqualarm

open Relation

section
variable {u₀ u : MainUnit} {e : Event} {rx : RxFrame}

/-! Learning. -/

theorem path_refreshAndSync (hf : e.Frame u₀ rx) (ha : rx.AddDevice u₀) (type : UInt8) :
    Path u₀ e u
      (gatewaySyncDeviceAdd type rx.sourceAddr rx.rssiLevel (u.onCore radioRefreshLearnDevice)) :=
  (Effect.learnRefresh u rx hf ha).path.trans (path_upload _ (by decide))

/-- The source is added as a node of its type, and a success refreshes the learn
timer and is told to the gateway. -/
theorem path_learnNode (hf : e.Frame u₀ rx) (ha : rx.AddDevice u₀) (hu : u.storage = u₀.storage)
    (henv : u.env = u₀.env) (ht : rx.deviceType ≠ deviceTypeGateway)
    (ht' : rx.deviceType ≠ deviceTypeDoorunit) :
    Path u₀ e u
      (let r := aqDeviceCreate u.env.mallocDevice rx.rssiLevel rx.deviceType rx.sourceAddr u.storage
       let u := { u with storage := r.2 }
       if r.1.isNone then u
       else
        gatewaySyncDeviceAdd rx.deviceType rx.sourceAddr rx.rssiLevel
          (u.onCore radioRefreshLearnDevice)) := by
  have henrol := Effect.enrol (e := e) u rx hf ha hu rx.rssiLevel [] (by simp)
  have hr : learnStorage u₀.env.mallocDevice rx.rssiLevel rx.deviceType rx.sourceAddr u.storage =
      aqDeviceCreate u.env.mallocDevice rx.rssiLevel rx.deviceType rx.sourceAddr u.storage := by
    rw [learnStorage_node (not_or.2 ⟨ht, ht'⟩), henv]
  rw [hr, List.append_nil] at henrol
  refine henrol.path.trans ?_
  dsimp only
  split
  · exact .refl
  · exact path_refreshAndSync hf ha rx.deviceType

/-- The loop of `aq_doorunit_delete`: the registry as `deleteByType` leaves it,
and messages that are no reports. -/
theorem aqDoorunitDelete_eq (u : MainUnit) :
    ∃ ms : List SendMsg, (∀ m ∈ ms, m.frame.valveReport = none) ∧
      aqDoorunitDelete u =
        { u with storage := deleteByType deviceTypeDoorunit u.storage, tx := u.tx ++ ms } := by
  have key : ∀ (l : List Device) (u : MainUnit), ∃ ms : List SendMsg,
      (∀ m ∈ ms, m.frame.valveReport = none) ∧
      l.foldl (fun u device =>
          gatewaySyncDeviceDel device.deviceId
            (u.onStorage fun st => (aqDeviceDelete device.deviceId st).2)) u =
        { u with
          storage := l.foldl (fun st device => (aqDeviceDelete device.deviceId st).2) u.storage
          tx := u.tx ++ ms } := by
    intro l
    induction l with
    | nil => exact fun u => ⟨[], by simp, by simp⟩
    | cons device l ih =>
      intro u
      have hsend : ∃ m₀ : List SendMsg, (∀ m ∈ m₀, m.frame.valveReport = none) ∧
          gatewaySyncDeviceDel device.deviceId
              (u.onStorage fun st => (aqDeviceDelete device.deviceId st).2) =
            { u with
              storage := (aqDeviceDelete device.deviceId u.storage).2, tx := u.tx ++ m₀ } := by
        unfold gatewaySyncDeviceDel gatewayUpload radioGatewayCommandSend
        split
        · exact ⟨[], by simp, by simp [MainUnit.onStorage]⟩
        · refine ⟨_, fun m hm => ?_, rfl⟩
          rw [List.mem_singleton.1 hm]
          exact TxFormat.valveReport_of_command (by decide : deviceSyncCmd ≠ controlValveCmd)
      obtain ⟨m₀, hm₀, h₀⟩ := hsend
      obtain ⟨ms, hms, h⟩ := ih { u with
        storage := (aqDeviceDelete device.deviceId u.storage).2, tx := u.tx ++ m₀ }
      refine ⟨m₀ ++ ms, ?_, ?_⟩
      · intro m hm
        exact (List.mem_append.1 hm).elim (hm₀ m) (hms m)
      · rw [List.foldl_cons, h₀, h]
        simp
  obtain ⟨ms, hms, h⟩ := key (u.storage.deviceList.filter fun d => d.type = deviceTypeDoorunit) u
  exact ⟨ms, hms, h⟩

theorem path_endunitLearn (hf : e.Frame u₀ rx) (ht : rx.deviceType = deviceTypeEndunit)
    (hl : rx.rxData 0 = learnDeviceCmd) : Path u₀ e u₀ (radioFrameEndunitParseLearn rx u₀) := by
  unfold radioFrameEndunitParseLearn
  split
  · exact path_reply 1 rx learnDeviceCmd [0] u₀
  · split
    · rename_i hd
      refine (path_reply 1 rx learnDeviceCmd [rx.rxData 2] u₀).trans ?_
      dsimp only
      split
      · rename_i hs
        have h := path_learnNode (u := radioEndunitCommandSend (replyFrame rx learnDeviceCmd [rx.rxData 2] u₀) u₀)
          hf ⟨hl, hs, hd, Or.inr (Or.inl ht)⟩ rfl rfl
          (by rw [ht]; decide) (by rw [ht]; decide)
        rw [ht] at h
        exact h
      · split
        · exact path_startLearn
        · exact .refl
    · exact .refl

theorem path_motionLearn (hf : e.Frame u₀ rx) (ht : rx.deviceType = deviceTypeMotionSensor)
    (hl : rx.rxData 0 = learnDeviceCmd) : Path u₀ e u₀ (radioFrameMotionParseLearn rx u₀) := by
  unfold radioFrameMotionParseLearn
  split
  · exact path_reply 1 rx learnDeviceCmd [0] u₀
  · split
    · rename_i hd
      refine (path_reply 1 rx learnDeviceCmd [rx.rxData 2] u₀).trans ?_
      dsimp only
      split
      · rename_i hs
        have h := path_learnNode (u := radioMotionCommandSend (replyFrame rx learnDeviceCmd [rx.rxData 2] u₀) u₀)
          hf ⟨hl, hs, hd, Or.inl ht⟩ rfl rfl
          (by rw [ht]; decide) (by rw [ht]; decide)
        rw [ht] at h
        exact h
      · exact .refl
    · exact .refl

theorem path_doorunitLearn (hf : e.Frame u₀ rx) (ht : rx.deviceType = deviceTypeDoorunit)
    (hl : rx.rxData 0 = learnDeviceCmd) : Path u₀ e u₀ (radioFrameDoorunitParseLearn rx u₀) := by
  unfold radioFrameDoorunitParseLearn
  split
  · exact path_reply 1 rx learnDeviceCmd [0] u₀
  · split
    · rename_i hd
      refine (path_reply 1 rx learnDeviceCmd [rx.rxData 2] u₀).trans ?_
      dsimp only
      split
      · rename_i hs
        have ha : rx.AddDevice u₀ := ⟨hl, hs, hd, Or.inr (Or.inr (Or.inl ht))⟩
        obtain ⟨ms, hms, h⟩ :=
          aqDoorunitDelete_eq (radioDoorunitCommandSend (replyFrame rx learnDeviceCmd [rx.rxData 2] u₀) u₀)
        have henrol := Effect.enrol (e := e)
          (radioDoorunitCommandSend (replyFrame rx learnDeviceCmd [rx.rxData 2] u₀) u₀) rx hf ha rfl
          rx.rssiLevel ms hms
        rw [learnStorage_replacing (Or.inr ht), ht] at henrol
        rw [h]
        refine henrol.path.trans ?_
        split
        · exact .refl
        · exact path_refreshAndSync hf ha deviceTypeDoorunit
      · exact .refl
    · exact .refl

theorem path_gatewayLearn (hf : e.Frame u₀ rx) (ht : rx.deviceType = deviceTypeGateway)
    (hl : rx.rxData 0 = learnDeviceCmd) : Path u₀ e u₀ (radioFrameGatewayParseLearn rx u₀) := by
  have hnone : ∀ (u : MainUnit) (frame : TxFormat), frame.msgType = msgUnconfirmedUplink →
      Path u₀ e u (radioGatewayCommandSend frame u) := fun u frame hm =>
    path_gatewayCommandSend fun _ =>
      reports_of_none (TxFormat.valveReport_of_msgType (by rw [hm]; decide))
  unfold radioFrameGatewayParseLearn
  split
  · exact hnone u₀ _ rfl
  · split
    · rename_i hd
      split
      · rename_i hs
        have ha : rx.AddDevice u₀ := ⟨hl, hs, hd, Or.inr (Or.inr (Or.inr ht))⟩
        have henrol := Effect.enrol (e := e) u₀ rx hf ha rfl 0 [] (by simp)
        rw [learnStorage_replacing (Or.inl ht), ht, List.append_nil] at henrol
        refine henrol.path.trans ?_
        dsimp only
        split
        · exact .refl
        · exact (Effect.learnRefresh _ rx hf ha).path.trans (hnone _ _ rfl)
      · exact .refl
    · exact .refl

/-! End units. -/

theorem path_endunitHeart (device : Device) : Path u₀ e u (radioFrameEndunitParseHeart rx device u) := by
  unfold radioFrameEndunitParseHeart
  refine (path_endunitReply rx heartUploadCmd []).trans ?_
  refine (path_batterySet device.deviceId (rx.rxData 2)).trans ?_
  dsimp only
  generalize MainUnit.onStorage _ _ = u₁
  have hwarn : Path u₀ e u₁
      (if (deviceAt device.deviceId u₁.storage).battery = 1 then warningEnable .slaverLowPower u₁
      else if (deviceAt device.deviceId u₁.storage).battery = 2 then
        warningEnable .slaverUltraLowPower u₁
      else u₁) := by
    split
    · exact (Effect.raise u₁ _ .lowPower).path
    · split
      · exact (Effect.raise u₁ _ .ultraLowPower).path
      · exact .refl
  exact hwarn.trans (path_upload warningUploadCmd (by decide))

theorem path_endunitValve (hf : e.Frame u₀ rx) (ht : rx.deviceType = deviceTypeEndunit)
    (hc : rx.rxData 0 = controlValveCmd) (hd : rx.destAddr = getLocalAddress u₀)
    (hr : (aqDeviceFind rx.sourceAddr u₀.storage).isSome = true) (device : Device) :
    Path u₀ e u₀ (radioFrameEndunitParseValve rx device u₀) := by
  unfold radioFrameEndunitParseValve
  refine (path_rssiLevelWrite device.deviceId rx.rssiLevel).trans ?_
  refine (path_endunitReply rx controlValveCmd [rx.rxData 2]).trans ?_
  dsimp only
  split
  · rename_i hv
    split
    · rename_i hi
      exact path_remoteOpen hf ⟨hc, hd, hr, Or.inl ⟨Or.inl ht, hv⟩⟩ rfl
        (aqGatewayFind_rssiLevelWrite _ _ _) hi
        (valveReport_slaver rx.sourceAddr 1 [rx.rssiLevel])
    · exact .refl
  · refine (path_waterleakClear device.deviceId).trans ?_
    generalize MainUnit.onStorage (aqDeviceWaterleakSet device.deviceId 0) _ = u₁
    split
    · rename_i hl
      split
      · rename_i hfind
        exact (Effect.clear u₁ (.leak hl hfind)).path
      · exact .refl
    · split
      · rename_i hi
        exact path_lockCloseReport hi (valveReport_slaver rx.sourceAddr 0 [rx.rssiLevel])
      · split
        · rename_i ho
          exact path_report (valveReport_slaver rx.sourceAddr 0 [rx.rssiLevel])
            fun _ => Or.inr (Or.inl ⟨rfl, ho⟩)
        · exact .refl

/-- The leak part of a warning: recorded and raised, or cleared and, where no
leak is left, the alarm with it. -/
theorem path_endunitLeak (deviceId : UInt32) (value : UInt8) :
    Path u₀ e u
      (let u := u.onStorage (aqDeviceWaterleakSet deviceId value)
       if value ≠ 0 then warningEnable .slaverSensorLeak u
       else if u.core.deviceStatus = .slaverSensorLeak then
         if aqDeviceWaterleakFind u.storage = false then
           u.onCore fun c => (valveClose (warningAllClear c)).2
         else u
       else u) := by
  dsimp only
  by_cases hv : value ≠ 0
  · rw [if_pos hv]
    exact (Effect.leak u deviceId value hv).path
  · rw [if_neg hv]
    obtain rfl : value = 0 := not_not.1 hv
    refine (path_waterleakClear deviceId).trans ?_
    generalize MainUnit.onStorage _ _ = u₁
    split
    · rename_i hl
      split
      · rename_i hfind
        refine (Effect.clear u₁ (.leak hl hfind)).path.trans (Effect.closeValve _ (Or.inl ?_)).path
        rw [MainUnit.onCore_core, warningAllClear]
        cases u₁.core.valveStatus with
        | valveStatusClose => exact Or.inl rfl
        | valveStatusOpen => exact Or.inr (Or.inl rfl)
      · exact .refl
    · exact .refl

theorem path_endunitLost (deviceId : UInt32) (value : UInt8) :
    Path u₀ e u
      (let u := u.onStorage (aqDeviceWirelostSet deviceId value)
       if value ≠ 0 then warningEnable .slaverSensorLost u
       else if u.core.deviceStatus = .slaverSensorLost then
         if aqDeviceWirelostFind u.storage = false then u.onCore warningAllClear else u
       else u) := by
  dsimp only
  by_cases hv : value ≠ 0
  · rw [if_pos hv]
    exact (Effect.lost u deviceId value hv).path
  · rw [if_neg hv]
    obtain rfl : value = 0 := not_not.1 hv
    refine (path_wirelostClear deviceId).trans ?_
    generalize MainUnit.onStorage _ _ = u₁
    split
    · rename_i hl
      split
      · rename_i hfind
        exact (Effect.clear u₁ (.lost hl hfind)).path
      · exact .refl
    · exact .refl

theorem path_endunitWarn (device : Device) : Path u₀ e u (radioFrameEndunitParseWarn rx device u) := by
  unfold radioFrameEndunitParseWarn
  refine (path_endunitReply rx warningUploadCmd [rx.rxData 2, rx.rxData 3]).trans ?_
  generalize radioEndunitCommandSend _ _ = u₁
  dsimp only
  split
  · exact (path_endunitLeak device.deviceId (rx.rxData 3)).trans
      (path_upload warningUploadCmd (by decide))
  · split
    · exact (path_endunitLost device.deviceId (rx.rxData 3)).trans
        (path_upload warningUploadCmd (by decide))
    · exact .refl

theorem path_endunitParse (hf : e.Frame u₀ rx) (ht : rx.deviceType = deviceTypeEndunit) :
    Path u₀ e u₀ (radioFrameEndunitParse rx u₀) := by
  rw [endunitParse_eq]
  by_cases hl : rx.rxData 0 = learnDeviceCmd
  · have hlearn := path_endunitLearn hf ht hl
    refine nodeParse_learn hl (endunitServe_learn hl) (fun _ => hlearn) fun _ _ _ => ?_
    exact hlearn.trans ((path_heartRecv rx).trans path_offlineCheck)
  · refine nodeParse_command hl .refl fun device hfind hd => ?_
    refine ReflTransGen.trans ?_ ((path_heartRecv rx).trans path_offlineCheck)
    unfold endunitServe
    split
    · exact path_endunitHeart device
    · split
      · rename_i hc
        exact path_endunitValve hf ht hc hd (by rw [hfind]; rfl) device
      · split
        · exact path_endunitWarn device
        · exact .refl

/-! The door unit. -/

theorem path_doorunitHeart (device : Device) : Path u₀ e u (radioFrameDoorunitParseHeart rx device u) := by
  unfold radioFrameDoorunitParseHeart
  refine (path_doorunitReply rx heartUploadCmd [rx.rxData 2]).trans ?_
  dsimp only
  split
  · exact (path_batterySet device.deviceId (rx.rxData 3)).trans
      (path_upload heartUploadCmd (by decide))
  · exact .refl

/-- A delay report is no valve report. -/
theorem path_doorDelay (addr : UInt32) (value rssiLevel : UInt8) :
    Path u₀ e u (gatewayControlDoorDelay addr value rssiLevel u) :=
  path_gatewayCommandSend fun _ => reports_of_none rfl

theorem path_doorunitValve (hf : e.Frame u₀ rx) (ht : rx.deviceType = deviceTypeDoorunit)
    (hc : rx.rxData 0 = controlValveCmd) (hd : rx.destAddr = getLocalAddress u₀)
    (hr : (aqDeviceFind rx.sourceAddr u₀.storage).isSome = true) (device : Device) :
    Path u₀ e u₀ (radioFrameDoorunitParseValve rx device u₀) := by
  unfold radioFrameDoorunitParseValve
  refine (path_rssiLevelWrite device.deviceId rx.rssiLevel).trans ?_
  refine (path_doorunitReply rx controlValveCmd [rx.rxData 2]).trans ?_
  dsimp only
  split
  · split
    · rename_i hi
      exact path_lockCloseReport hi (valveReport_door rx.sourceAddr 0 [rx.rssiLevel])
    · split
      · rename_i ho
        exact path_report (valveReport_door rx.sourceAddr 0 [rx.rssiLevel])
          fun _ => Or.inr (Or.inl ⟨rfl, ho⟩)
      · exact .refl
  · split
    · rename_i hv
      split
      · rename_i hi
        exact path_remoteOpen hf ⟨hc, hd, hr, Or.inr ⟨Or.inl ht, hv⟩⟩ rfl
          (aqGatewayFind_rssiLevelWrite _ _ _) hi
          (valveReport_door rx.sourceAddr 1 [rx.rssiLevel])
      · exact .refl
    · split
      · split
        · rename_i hi
          exact (Effect.delayControl _ true fun _ => hi).path.trans (path_doorDelay _ _ _)
        · exact .refl
      · split
        · exact (Effect.delayControl _ false (by simp)).path.trans (path_doorDelay _ _ _)
        · exact .refl

theorem path_doorunitParse (hf : e.Frame u₀ rx) (ht : rx.deviceType = deviceTypeDoorunit) :
    Path u₀ e u₀ (radioFrameDoorunitParse rx u₀) := by
  rw [doorunitParse_eq]
  by_cases hl : rx.rxData 0 = learnDeviceCmd
  · have hlearn := path_doorunitLearn hf ht hl
    exact nodeParse_learn hl (doorunitServe_learn hl) (fun _ => hlearn) fun _ _ _ => hlearn.trans (path_heartRecv rx)
  · refine nodeParse_command hl .refl fun device hfind hd => ?_
    refine ReflTransGen.trans ?_ (path_heartRecv rx)
    unfold doorunitServe
    split
    · exact path_doorunitHeart device
    · split
      · rename_i hc
        exact path_doorunitValve hf ht hc hd (by rw [hfind]; rfl) device
      · exact .refl

/-! Motion sensors. -/

theorem path_motionHeart (device : Device) : Path u₀ e u (radioFrameMotionParseHeart rx device u) :=
  (path_endunitReply rx heartUploadCmd []).trans (path_upload heartUploadCmd (by decide))

theorem path_motionControl (hf : e.Frame u₀ rx) (ht : rx.deviceType = deviceTypeMotionSensor)
    (hc : rx.rxData 0 = controlValveCmd) (hd : rx.destAddr = getLocalAddress u₀)
    (hr : (aqDeviceFind rx.sourceAddr u₀.storage).isSome = true) (device : Device) :
    Path u₀ e u₀ (radioFrameMotionParseControl rx device u₀) := by
  unfold radioFrameMotionParseControl
  refine (path_rssiLevelWrite device.deviceId rx.rssiLevel).trans ?_
  refine (path_endunitReply rx controlValveCmd [rx.rxData 2]).trans ?_
  dsimp only
  split
  · rename_i hv
    split
    · rename_i hi
      exact path_remoteOpen hf ⟨hc, hd, hr, Or.inl ⟨Or.inr ht, hv⟩⟩ rfl
        (aqGatewayFind_rssiLevelWrite _ _ _) hi
        (valveReport_motion rx.sourceAddr 1 _)
    · exact .refl
  · split
    · rename_i hi
      exact path_closeReport hi (valveReport_motion rx.sourceAddr 0 _)
    · exact .refl

theorem path_motionParse (hf : e.Frame u₀ rx) (ht : rx.deviceType = deviceTypeMotionSensor) :
    Path u₀ e u₀ (radioFrameMotionParse rx u₀) := by
  rw [motionParse_eq]
  by_cases hl : rx.rxData 0 = learnDeviceCmd
  · have hlearn := path_motionLearn hf ht hl
    exact nodeParse_learn hl (motionServe_learn hl) (fun _ => hlearn) fun _ _ _ => hlearn.trans (path_heartRecv rx)
  · refine nodeParse_command hl .refl fun device hfind hd => ?_
    refine ReflTransGen.trans ?_ (path_heartRecv rx)
    unfold motionServe
    split
    · exact path_motionHeart device
    · split
      · rename_i hc
        exact path_motionControl hf ht hc hd (by rw [hfind]; rfl) device
      · exact .refl

/-! The gateway and the factory tool. -/

theorem path_gatewaySync : Path u₀ e u (radioFrameGatewayParseSync rx u) := by
  unfold radioFrameGatewayParseSync
  dsimp only
  split
  · unfold gatewaySyncDeviceUpload
    split
    · exact path_upload _ (by decide)
    · exact .refl
  · split
    · exact path_registry (.delete _) trivial
    · exact .refl

theorem path_gatewayControl (hf : e.Frame u₀ rx) (ho : rx.rxData 2 = 1 → rx.OpenValve u₀)
    (hc : u.core = u₀.core) (hg : aqGatewayFind u.storage = aqGatewayFind u₀.storage) :
    Path u₀ e u (radioFrameGatewayParseControl rx u) := by
  unfold radioFrameGatewayParseControl
  dsimp only
  split
  · split
    · rename_i hi
      exact path_closeReport hi (valveReport_master 0)
    · exact .refl
  · split
    · rename_i hv
      split
      · rename_i hi
        exact path_remoteOpen hf (ho hv) hc hg hi (valveReport_master 1)
      · exact .refl
    · exact .refl

theorem path_otaReply (reply : OtaReply) : Path u₀ e u (reply.send u) := by
  cases reply with
  | respStart => exact path_upload firmwareUpdateCmd (by decide)
  | ackTransfer => exact path_upload firmwareUpdateCmd (by decide)
  | respEnd => exact path_upload firmwareUpdateCmd (by decide)

theorem path_onOta {s : State} (f : Ota → Option OtaReply × Ota) :
    Path u₀ e s.unit (s.onOta f).unit := by
  unfold State.onOta
  dsimp only
  split
  · exact path_otaReply _
  · exact .refl

theorem path_gatewayOta {s : State} (h : rx.rxData 2 = 3 → Resets u₀ e) :
    Path u₀ e s.unit (radioFrameGatewayParseOta rx s).unit := by
  unfold radioFrameGatewayParseOta
  dsimp only
  split
  · exact path_onOta _
  · split
    · exact path_onOta _
    · split
      · rename_i hs
        exact (path_otaReply .respEnd).trans (Effect.boot _ (h hs)).path
      · exact .refl

theorem path_gatewayParse {s : State} (hf : e.Frame s.unit rx)
    (ht : rx.deviceType = deviceTypeGateway) : Path s.unit e s.unit (radioFrameGatewayParse rx s).unit := by
  unfold radioFrameGatewayParse
  dsimp only
  by_cases hl : rx.rxData 0 = learnDeviceCmd
  · simp only [hl, if_true, (by decide : learnDeviceCmd ≠ controlValveCmd),
      (by decide : learnDeviceCmd ≠ deviceSyncCmd), (by decide : learnDeviceCmd ≠ confirmAckCmd),
      (by decide : learnDeviceCmd ≠ firmwareUpdateCmd), if_false]
    have h := path_gatewayLearn hf ht hl
    split
    · exact h
    · split
      · exact h
      · exact h.trans (path_recvSet rx.sourceAddr 1)
  · simp only [if_neg hl]
    split
    · exact .refl
    · rename_i hfind
      split
      · exact .refl
      · rename_i hd
        have hreg : (aqDeviceFind rx.sourceAddr s.unit.storage).isSome = true := by
          cases h : aqDeviceFind rx.sourceAddr s.unit.storage with
          | none => exact absurd (by rw [h]; rfl) hfind
          | some _ => rfl
        refine (path_recvSet rx.sourceAddr 1).trans ?_
        split
        · rename_i hc
          exact path_gatewayControl hf
            (fun hv => ⟨hc, not_not.1 hd, hreg, Or.inr ⟨Or.inr ht, hv⟩⟩) rfl
            (aqGatewayFind_recvSet _ _ _)
        · split
          · exact path_gatewaySync
          · split
            · exact .refl
            · split
              · rename_i hc
                exact path_gatewayOta (s := s.onUnit (MainUnit.onStorage (aqDeviceRecvSet rx.sourceAddr 1)))
                  fun hs => .otaEnd hf ⟨ht, hc, hs, not_not.1 hd, hreg⟩
              · exact .refl

theorem factoryParse_unit (s : State) : (radioFrameFactoryParse rx s).unit = s.unit := by
  unfold radioFrameFactoryParse
  split
  · rfl
  · split <;> rfl

/-! Every event. -/

theorem path_dispatch {s : State} (hf : e.Frame s.unit rx) :
    Path s.unit e s.unit (radioFrameDispatch rx s).unit := by
  unfold radioFrameDispatch
  split
  · rename_i ht
    exact path_motionParse hf ht
  · split
    · rename_i ht
      exact path_endunitParse hf ht
    · split
      · rename_i ht
        exact path_doorunitParse hf ht
      · split
        · rename_i ht
          exact path_gatewayParse hf ht
        · split
          · rw [factoryParse_unit]
          · exact .refl

theorem path_handle (e : Event) (s : State) : Path s.unit e s.unit (e.handle s).unit := by
  cases e with
  | radio rssi snr data len =>
    rw [Event.handle, radioProtocolParse_eq]
    split
    · rename_i ha
      exact path_dispatch ⟨rssi, snr, data, len, rfl, ha, rfl⟩
    · exact .refl
  | keyOnClick => exact path_keyOnClick
  | keyOffClick => exact path_keyOffClick
  | keyOnLongHold => exact path_keyOnLongHold .keyOn
  | keyOnLongFree => exact .refl
  | keyOffLongHold => exact path_keyOffLongHold .keyOff
  | keyOffLongFree => exact .refl
  | modbusCoils reg usAddress usNCoils => exact path_mbWriteCoils reg usAddress usNCoils
  | modbusHolding reg usAddress usNRegs => exact path_mbWriteHolding reg usAddress usNRegs
  | dryContact level =>
    rw [Event.handle, dryContactPollingTimerCallback]
    split
    · exact path_dryContact level
    · exact .refl
  | rtcValveCheck => exact (Effect.checkStart s.unit).path
  | rtcDeviceHeartCheck => exact path_deviceHeartCheck
  | rtcGatewayHeartCheck => exact path_gatewayHeartCheck
  | heartConnectStart => exact path_connectStart
  | heartUpload => exact path_heartUpload
  | rfAckInit => exact .refl
  | timer t => exact path_timer t rfl
  | reboot => exact (Effect.boot s.unit .reboot).path

end

/-- One step of the system, seen on the unit. -/
theorem path_next {cfg : Config} {s s' : State} {i : Env × Event}
    (h : (system cfg).next s i = some s') :
    Path (s.unit.begin i.1) i.2 (s.unit.begin i.1) s'.unit := by
  obtain ⟨_, rfl⟩ := system_next_eq_some.1 h
  exact path_handle i.2 (s.onUnit (MainUnit.begin i.1))

end Aqualarm
