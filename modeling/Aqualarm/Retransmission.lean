import Aqualarm.Repeats

/-
  A frame received twice in a row.
-/

namespace Aqualarm

open Lib Relation

/-! What a frame does, once. -/

/-- The requests that are looked at on their own. -/
structure RxFrame.DeletesDevice (rx : RxFrame) (u : MainUnit) : Prop where
  deviceType : rx.deviceType = deviceTypeGateway
  command : rx.rxData 0 = deviceSyncCmd
  subCommand : rx.rxData 2 = 1
  fromListed : rx.FromListed u

/-- An end unit's request to start or end the learn mode. -/
structure RxFrame.Toggles (rx : RxFrame) (u : MainUnit) : Prop where
  deviceType : rx.deviceType = deviceTypeEndunit
  command : rx.rxData 0 = learnDeviceCmd
  subCommand : rx.rxData 2 = 2
  toUnit : rx.destAddr = getLocalAddress u

def RxFrame.learnCommand (rx : RxFrame) : Controls → Controls :=
  if rx.rxData 0 = learnDeviceCmd ∧ rx.rxData 2 = 2 then Controls.toggled else id

def RxFrame.endunitCommand (rx : RxFrame) (leak lost : Bool) : Controls → Controls :=
  if rx.rxData 0 = heartUploadCmd then Controls.endunitHeart (rx.rxData 2)
  else if rx.rxData 0 = controlValveCmd then Controls.endunitValve (rx.rxData 2) leak
  else if rx.rxData 0 = warningUploadCmd then Controls.endunitWarn (rx.rxData 2) (rx.rxData 3) leak lost
  else rx.learnCommand

def RxFrame.doorunitCommand (rx : RxFrame) : Controls → Controls :=
  if rx.rxData 0 = controlValveCmd then Controls.doorunitValve (rx.rxData 2) else id

def RxFrame.motionCommand (rx : RxFrame) : Controls → Controls :=
  if rx.rxData 0 = controlValveCmd then Controls.motionControl (rx.rxData 2) else id

def RxFrame.gatewayCommand (rx : RxFrame) : Controls → Controls :=
  if rx.rxData 0 = controlValveCmd then Controls.gatewayControl (rx.rxData 2) else id

/-- The parts of `Handled`. -/
structure Plan where
  ops : List RegOp := []
  ops' : List RegOp := []
  f : Bool → Bool → Controls → Controls := fun _ _ => id
  check : Bool := false

/-- What a frame does that neither adds nor deletes a device. -/
def RxFrame.plan (rx : RxFrame) (u : MainUnit) : Plan :=
  if rx.destAddr ≠ getLocalAddress u then {}
  else if Listed rx.sourceAddr u.storage then
    if rx.deviceType = deviceTypeMotionSensor then
      { ops := rx.commandOps, ops' := heardOps rx, f := fun _ _ => rx.motionCommand }
    else if rx.deviceType = deviceTypeEndunit then
      { ops := rx.commandOps, ops' := heardOps rx, f := rx.endunitCommand, check := true }
    else if rx.deviceType = deviceTypeDoorunit then
      { ops := rx.commandOps, ops' := heardOps rx, f := fun _ _ => rx.doorunitCommand }
    else if rx.deviceType = deviceTypeGateway then
      { ops := [.recvSet rx.sourceAddr 1], f := fun _ _ => rx.gatewayCommand }
    else {}
  else if rx.deviceType = deviceTypeEndunit then { f := fun _ _ => rx.learnCommand }
  else {}

def Plan.Run (p : Plan) (u u' : MainUnit) : Prop := Handled p.ops p.ops' p.f p.check u u'

section
variable {rx : RxFrame} {u : MainUnit}

/-- Hearing from the source, listed or not. -/
theorem heartRecv_after (rx : RxFrame) (st : Storage) :
    (aqDeviceHeartRecv rx st).2 = (heardOps rx).foldl (fun st op => op.apply st) st := by
  by_cases hl : Listed rx.sourceAddr st
  · exact heartRecv_ops hl
  · rw [aqDeviceHeartRecv, aqDeviceFind_eq_none.2 hl]
    exact (after_unlisted (heardOps_of rx) hl).symm

theorem endunitParse_handled (ht : rx.deviceType = deviceTypeEndunit) (hfrom : rx.FromListed u)
    (hl : rx.rxData 0 ≠ learnDeviceCmd) :
    Handled rx.commandOps (heardOps rx) rx.endunitCommand true u (radioFrameEndunitParse rx u) := by
  obtain ⟨device, hd⟩ := Option.isSome_iff_exists.1 (aqDeviceFind_isSome.2 hfrom.listed)
  have hid : device.deviceId = rx.sourceAddr := by simpa using List.find?_some hd
  unfold radioFrameEndunitParse
  dsimp only
  simp only [if_neg hl, hd, hfrom.toUnit, ne_eq, not_true_eq_false, if_false]
  generalize hu : (if rx.rxData 0 = heartUploadCmd then _ else _) = u₁
  refine ⟨u₁, ?_, ?_, ?_⟩
  · rw [← hu]
    unfold RxFrame.commandOps RxFrame.endunitCommand
    by_cases hh : rx.rxData 0 = heartUploadCmd
    · simp only [if_pos hh, if_pos ht]
      exact endunitHeart_runs hd
    · by_cases hc : rx.rxData 0 = controlValveCmd
      · simp only [if_neg hh, if_pos hc]
        exact endunitValve_runs hid ht
      · by_cases hw : rx.rxData 0 = warningUploadCmd
        · simp only [if_neg hh, if_neg hc, if_pos hw, if_pos (And.intro hw ht)]
          exact endunitWarn_runs hid
        · simp only [if_neg hh, if_neg hc, if_neg hw, if_neg fun h : _ ∧ _ => hw h.1, RxFrame.learnCommand,
            if_neg fun h : _ ∧ _ => hl h.1]
          exact .silent rfl rfl
  · rw [offlineCheck_storage]
    exact heartRecv_after rx u₁.storage
  · rw [if_pos rfl, offlineCheck_storage, warningOfflineCheck_controls]
    rfl

theorem doorunitParse_handled (ht : rx.deviceType = deviceTypeDoorunit) (hfrom : rx.FromListed u)
    (hl : rx.rxData 0 ≠ learnDeviceCmd) :
    Handled rx.commandOps (heardOps rx) (fun _ _ => rx.doorunitCommand) false u (radioFrameDoorunitParse rx u) := by
  obtain ⟨device, hd⟩ := Option.isSome_iff_exists.1 (aqDeviceFind_isSome.2 hfrom.listed)
  have hid : device.deviceId = rx.sourceAddr := by simpa using List.find?_some hd
  have hne : rx.deviceType ≠ deviceTypeEndunit := by rw [ht]; decide
  unfold radioFrameDoorunitParse
  dsimp only
  simp only [if_neg hl, hd, hfrom.toUnit, ne_eq, not_true_eq_false, if_false]
  generalize hu : (if rx.rxData 0 = heartUploadCmd then _ else _) = u₁
  refine ⟨u₁, ?_, heartRecv_after rx u₁.storage, rfl⟩
  rw [← hu]
  unfold RxFrame.commandOps RxFrame.doorunitCommand assignOps
  by_cases hh : rx.rxData 0 = heartUploadCmd
  · have hc : rx.rxData 0 ≠ controlValveCmd := by rw [hh]; decide
    simp only [if_pos hh, if_neg hc, ht, true_and]
    exact doorunitHeart_runs hid
  · by_cases hc : rx.rxData 0 = controlValveCmd
    · simp only [if_neg hh, if_pos hc, if_neg fun h : _ ∧ _ => hne h.1]
      exact doorunitValve_runs hid
    · simp only [if_neg hh, if_neg hc, if_neg fun h : _ ∧ _ => hne h.2]
      exact .silent rfl rfl

theorem motionParse_handled (ht : rx.deviceType = deviceTypeMotionSensor) (hfrom : rx.FromListed u)
    (hl : rx.rxData 0 ≠ learnDeviceCmd) :
    Handled rx.commandOps (heardOps rx) (fun _ _ => rx.motionCommand) false u (radioFrameMotionParse rx u) := by
  obtain ⟨device, hd⟩ := Option.isSome_iff_exists.1 (aqDeviceFind_isSome.2 hfrom.listed)
  have hid : device.deviceId = rx.sourceAddr := by simpa using List.find?_some hd
  have hne : rx.deviceType ≠ deviceTypeEndunit := by rw [ht]; decide
  have hne' : rx.deviceType ≠ deviceTypeDoorunit := by rw [ht]; decide
  unfold radioFrameMotionParse
  dsimp only
  simp only [if_neg hl, hd, hfrom.toUnit, ne_eq, not_true_eq_false, if_false]
  generalize hu : (if rx.rxData 0 = heartUploadCmd then _ else _) = u₁
  refine ⟨u₁, ?_, heartRecv_after rx u₁.storage, rfl⟩
  rw [← hu]
  unfold RxFrame.commandOps RxFrame.motionCommand assignOps
  by_cases hh : rx.rxData 0 = heartUploadCmd
  · have hc : rx.rxData 0 ≠ controlValveCmd := by rw [hh]; decide
    simp only [if_pos hh, if_neg hc, if_neg hne, if_neg fun h : _ ∧ _ => hne' h.1]
    exact motionHeart_runs device
  · by_cases hc : rx.rxData 0 = controlValveCmd
    · simp only [if_neg hh, if_pos hc, if_neg fun h : _ ∧ _ => hne h.1]
      exact motionControl_runs hid
    · simp only [if_neg hh, if_neg hc, if_neg fun h : _ ∧ _ => hne h.2]
      exact .silent rfl rfl

/-! Learn frames that add no device. -/

theorem Runs.storage_of_id {ops : List RegOp} {u' : MainUnit} (h : Runs ops id u u') :
    u'.storage = (u.after ops).storage := h.tied.storage (congrArg Controls.lockStatus h.controls)

theorem not_addDevice (ht : rx.deviceType = deviceTypeMotionSensor ∨ rx.deviceType = deviceTypeEndunit ∨
    rx.deviceType = deviceTypeDoorunit ∨ rx.deviceType = deviceTypeGateway) (hl : rx.rxData 0 = learnDeviceCmd)
    (hno : ¬ rx.AddDevice u) : ¬ (rx.rxData 2 = 1 ∧ rx.destAddr = getLocalAddress u) :=
  fun h => hno ⟨hl, h.1, h.2, ht⟩

theorem endunitLearn_runs (hl : rx.rxData 0 = learnDeviceCmd)
    (hno : ¬ (rx.rxData 2 = 1 ∧ rx.destAddr = getLocalAddress u)) :
    Runs [] (if rx.destAddr = getLocalAddress u then rx.learnCommand else id) u (radioFrameEndunitParseLearn rx u) := by
  unfold radioFrameEndunitParseLearn
  by_cases hd : rx.destAddr = getLocalAddress u
  · have hb : ¬ (rx.destAddr = 0xFFFFFFFF ∧ u.core.allowAddDevice = true) := by
      intro h
      exact u.cfg.localAddress_ne_broadcast (hd.symm.trans h.1)
    rw [if_neg hb, if_pos hd, if_pos hd]
    dsimp only
    rw [if_neg fun hs => hno ⟨hs, hd⟩]
    by_cases hs : rx.rxData 2 = 2
    · have hruns := startLearn_runs (u := radioEndunitCommandSend (replyFrame rx learnDeviceCmd [rx.rxData 2] u) u)
      rw [if_pos hs, RxFrame.learnCommand, if_pos ⟨hl, hs⟩]
      exact ⟨hruns.controls, hruns.tied⟩
    · rw [if_neg hs, RxFrame.learnCommand, if_neg fun h => hs h.2]
      exact .silent rfl rfl
  · simp only [if_neg hd]
    split <;> exact .silent rfl rfl

theorem motionLearn_runs (hno : ¬ (rx.rxData 2 = 1 ∧ rx.destAddr = getLocalAddress u)) :
    Runs [] id u (radioFrameMotionParseLearn rx u) := by
  unfold radioFrameMotionParseLearn
  split
  · exact .silent rfl rfl
  · split
    · rename_i hd
      dsimp only
      rw [if_neg fun hs => hno ⟨hs, hd⟩]
      exact .silent rfl rfl
    · exact .silent rfl rfl

theorem doorunitLearn_runs (hno : ¬ (rx.rxData 2 = 1 ∧ rx.destAddr = getLocalAddress u)) :
    Runs [] id u (radioFrameDoorunitParseLearn rx u) := by
  unfold radioFrameDoorunitParseLearn
  split
  · exact .silent rfl rfl
  · split
    · rename_i hd
      dsimp only
      rw [if_neg fun hs => hno ⟨hs, hd⟩]
      exact .silent rfl rfl
    · exact .silent rfl rfl

theorem gatewayLearn_runs (hno : ¬ (rx.rxData 2 = 1 ∧ rx.destAddr = getLocalAddress u)) :
    Runs [] id u (radioFrameGatewayParseLearn rx u) := by
  unfold radioFrameGatewayParseLearn
  split
  · exact .silent (radioGatewayCommandSend_storage ..) (radioGatewayCommandSend_core ..)
  · split
    · rename_i hd
      rw [if_neg fun hs => hno ⟨hs, hd⟩]
      exact .silent rfl rfl
    · exact .silent rfl rfl

/-- A handler with nothing behind it. -/
theorem Handled.of_runs {ops : List RegOp} {f : Controls → Controls} {u' : MainUnit} (h : Runs ops f u u') :
    Handled ops [] (fun _ _ => f) false u u' := ⟨⟨u', h, rfl, rfl⟩⟩

theorem learn_commandOps (hl : rx.rxData 0 = learnDeviceCmd) : rx.commandOps = [] := by
  unfold RxFrame.commandOps
  rw [hl, if_neg (by decide), if_neg (by decide), if_neg fun h => absurd h.1 (by decide)]

theorem startLearn_cfg (u : MainUnit) : (radioStartLearnDevice u).cfg = u.cfg := by
  unfold radioStartLearnDevice
  split
  · rfl
  · split
    · unfold gatewayConnectStart
      split
      · exact gatewayUpload_cfg ..
      · rfl
    · rfl

theorem endunitLearn_cfg (rx : RxFrame) (u : MainUnit) : (radioFrameEndunitParseLearn rx u).cfg = u.cfg := by
  unfold radioFrameEndunitParseLearn
  dsimp only
  split_ifs
  any_goals rfl
  · exact gatewayUpload_cfg ..
  · exact startLearn_cfg _

/-! Each type's frames follow the plan. -/

theorem plan_away (h : rx.destAddr ≠ getLocalAddress u) : rx.plan u = {} := if_pos h

theorem plan_unheard (h : ¬ rx.FromListed u) (ht : rx.deviceType ≠ deviceTypeEndunit) : rx.plan u = {} := by
  by_cases hto : rx.destAddr = getLocalAddress u
  · unfold RxFrame.plan
    rw [if_neg (not_not.2 hto), if_neg fun hl => h ⟨hl, hto⟩, if_neg ht]
  · exact plan_away hto

theorem plan_motion (h : rx.FromListed u) (ht : rx.deviceType = deviceTypeMotionSensor) :
    rx.plan u = { ops := rx.commandOps, ops' := heardOps rx, f := fun _ _ => rx.motionCommand } := by
  unfold RxFrame.plan
  rw [if_neg (not_not.2 h.toUnit), if_pos h.listed, if_pos ht]

theorem plan_endunit (h : rx.FromListed u) (ht : rx.deviceType = deviceTypeEndunit) :
    rx.plan u = { ops := rx.commandOps, ops' := heardOps rx, f := rx.endunitCommand, check := true } := by
  unfold RxFrame.plan
  rw [if_neg (not_not.2 h.toUnit), if_pos h.listed, if_neg (by rw [ht]; decide), if_pos ht]

theorem plan_doorunit (h : rx.FromListed u) (ht : rx.deviceType = deviceTypeDoorunit) :
    rx.plan u = { ops := rx.commandOps, ops' := heardOps rx, f := fun _ _ => rx.doorunitCommand } := by
  unfold RxFrame.plan
  rw [if_neg (not_not.2 h.toUnit), if_pos h.listed, if_neg (by rw [ht]; decide), if_neg (by rw [ht]; decide),
    if_pos ht]

theorem plan_gateway (h : rx.FromListed u) (ht : rx.deviceType = deviceTypeGateway) :
    rx.plan u = { ops := [.recvSet rx.sourceAddr 1], f := fun _ _ => rx.gatewayCommand } := by
  unfold RxFrame.plan
  rw [if_neg (not_not.2 h.toUnit), if_pos h.listed, if_neg (by rw [ht]; decide), if_neg (by rw [ht]; decide),
    if_neg (by rw [ht]; decide), if_pos ht]

theorem plan_untyped (hm : rx.deviceType ≠ deviceTypeMotionSensor) (he : rx.deviceType ≠ deviceTypeEndunit)
    (hd : rx.deviceType ≠ deviceTypeDoorunit) (hg : rx.deviceType ≠ deviceTypeGateway) : rx.plan u = {} := by
  unfold RxFrame.plan
  simp only [if_neg hm, if_neg he, if_neg hd, if_neg hg, ite_self]

theorem plan_unlisted (hto : rx.destAddr = getLocalAddress u) (hl : ¬ Listed rx.sourceAddr u.storage)
    (ht : rx.deviceType = deviceTypeEndunit) : rx.plan u = { f := fun _ _ => rx.learnCommand } := by
  unfold RxFrame.plan
  rw [if_neg (not_not.2 hto), if_neg hl, if_pos ht]

/-- The plans of a frame: nothing, one for each type a listed source may have, and
the learn part of an end unit's. -/
theorem plan_cases {P : Plan → Prop} (rx : RxFrame) (u : MainUnit) (hnone : P {})
    (hmotion : rx.FromListed u → rx.deviceType = deviceTypeMotionSensor →
      P { ops := rx.commandOps, ops' := heardOps rx, f := fun _ _ => rx.motionCommand })
    (hendunit : rx.FromListed u → rx.deviceType = deviceTypeEndunit →
      P { ops := rx.commandOps, ops' := heardOps rx, f := rx.endunitCommand, check := true })
    (hdoorunit : rx.FromListed u → rx.deviceType = deviceTypeDoorunit →
      P { ops := rx.commandOps, ops' := heardOps rx, f := fun _ _ => rx.doorunitCommand })
    (hgateway : rx.FromListed u → rx.deviceType = deviceTypeGateway →
      P { ops := [.recvSet rx.sourceAddr 1], f := fun _ _ => rx.gatewayCommand })
    (hlearn : rx.deviceType = deviceTypeEndunit → P { f := fun _ _ => rx.learnCommand }) : P (rx.plan u) := by
  by_cases hto : rx.destAddr = getLocalAddress u
  · by_cases hl : Listed rx.sourceAddr u.storage
    · have hfrom : rx.FromListed u := ⟨hl, hto⟩
      by_cases hm : rx.deviceType = deviceTypeMotionSensor
      · rw [plan_motion hfrom hm]
        exact hmotion hfrom hm
      by_cases he : rx.deviceType = deviceTypeEndunit
      · rw [plan_endunit hfrom he]
        exact hendunit hfrom he
      by_cases hd : rx.deviceType = deviceTypeDoorunit
      · rw [plan_doorunit hfrom hd]
        exact hdoorunit hfrom hd
      by_cases hg : rx.deviceType = deviceTypeGateway
      · rw [plan_gateway hfrom hg]
        exact hgateway hfrom hg
      rw [plan_untyped hm he hd hg]
      exact hnone
    · by_cases he : rx.deviceType = deviceTypeEndunit
      · rw [plan_unlisted hto hl he]
        exact hlearn he
      · rw [plan_unheard (fun h => hl h.listed) he]
        exact hnone
  · rw [plan_away hto]
    exact hnone

/-- What the plans do to the registry. -/
theorem planOps_cases {P : List RegOp → Prop} (rx : RxFrame) (u : MainUnit) (hnone : P [])
    (hheard : rx.FromListed u → P (rx.commandOps ++ heardOps rx))
    (hgateway : rx.FromListed u → P [.recvSet rx.sourceAddr 1]) : P ((rx.plan u).ops ++ (rx.plan u).ops') :=
  plan_cases (P := fun p => P (p.ops ++ p.ops')) rx u hnone (fun h _ => hheard h) (fun h _ => hheard h)
    (fun h _ => hheard h) (fun h _ => hgateway h) fun _ => hnone

/-- The guard behind the learn part of a node's frame. -/
theorem guard_other {u₁ : MainUnit} {served : Device → MainUnit} (h : ¬ rx.FromListed u) (hcfg : u₁.cfg = u.cfg) :
    (match aqDeviceFind rx.sourceAddr u.storage with
      | none => u₁
      | some device => if rx.destAddr ≠ getLocalAddress u₁ then u₁ else served device) = u₁ := by
  rcases RxFrame.FromListed.cases rx u with ⟨hfrom, _⟩ | ⟨_, hnone | hd⟩
  · exact absurd hfrom h
  · rw [hnone]
  · rw [getLocalAddress, hcfg]
    cases aqDeviceFind rx.sourceAddr u.storage with
    | none => rfl
    | some device => exact if_pos hd

/-- Only the learn part of a frame that is not from a listed source to this unit
is handled. -/
theorem endunitParse_other (h : ¬ rx.FromListed u) :
    radioFrameEndunitParse rx u = if rx.rxData 0 = learnDeviceCmd then radioFrameEndunitParseLearn rx u else u := by
  refine guard_other h ?_
  split
  · exact endunitLearn_cfg ..
  · rfl

theorem doorunitParse_other (h : ¬ rx.FromListed u) :
    radioFrameDoorunitParse rx u = if rx.rxData 0 = learnDeviceCmd then radioFrameDoorunitParseLearn rx u else u := by
  refine guard_other h ?_
  split
  · exact doorunitLearn_cfg ..
  · rfl

theorem motionParse_other (h : ¬ rx.FromListed u) :
    radioFrameMotionParse rx u = if rx.rxData 0 = learnDeviceCmd then radioFrameMotionParseLearn rx u else u := by
  refine guard_other h ?_
  split
  · exact motionLearn_cfg ..
  · rfl

theorem gatewayParse_other {s : State} (h : ¬ rx.FromListed s.unit) :
    radioFrameGatewayParse rx s =
      if rx.rxData 0 = learnDeviceCmd then s.onUnit (radioFrameGatewayParseLearn rx) else s := by
  unfold radioFrameGatewayParse
  dsimp only
  rcases RxFrame.FromListed.cases rx s.unit with ⟨hfrom, _⟩ | ⟨_, hnone | hd⟩
  · exact absurd hfrom h
  · exact if_pos (by rw [hnone]; rfl)
  · cases aqDeviceFind rx.sourceAddr s.unit.storage with
    | none => exact if_pos rfl
    | some device =>
      rw [if_neg (by rw [Option.isNone_some]; exact Bool.false_ne_true)]
      by_cases hl : rx.rxData 0 = learnDeviceCmd
      · simp only [if_pos hl, getLocalAddress, State.onUnit_unit, gatewayLearn_cfg]
        exact if_pos hd
      · simp only [if_neg hl]
        exact if_pos hd

/-- A learn frame of a listed node: the learn part, and the node is heard. -/
theorem endunitParse_learn (hfrom : rx.FromListed u) (hl : rx.rxData 0 = learnDeviceCmd) :
    radioFrameEndunitParse rx u =
      warningOfflineCheck ((radioFrameEndunitParseLearn rx u).onStorage fun st => (aqDeviceHeartRecv rx st).2) := by
  obtain ⟨device, hd⟩ := Option.isSome_iff_exists.1 (aqDeviceFind_isSome.2 hfrom.listed)
  unfold radioFrameEndunitParse
  simp only [hd, hl, if_true, (by decide : learnDeviceCmd ≠ heartUploadCmd),
    (by decide : learnDeviceCmd ≠ controlValveCmd), (by decide : learnDeviceCmd ≠ warningUploadCmd), if_false,
    getLocalAddress, endunitLearn_cfg, ne_eq, hfrom.toUnit, not_true_eq_false]

theorem doorunitParse_learn (hfrom : rx.FromListed u) (hl : rx.rxData 0 = learnDeviceCmd) :
    radioFrameDoorunitParse rx u =
      (radioFrameDoorunitParseLearn rx u).onStorage fun st => (aqDeviceHeartRecv rx st).2 := by
  obtain ⟨device, hd⟩ := Option.isSome_iff_exists.1 (aqDeviceFind_isSome.2 hfrom.listed)
  unfold radioFrameDoorunitParse
  simp only [hd, hl, if_true, (by decide : learnDeviceCmd ≠ heartUploadCmd),
    (by decide : learnDeviceCmd ≠ controlValveCmd), if_false, getLocalAddress, doorunitLearn_cfg, ne_eq, hfrom.toUnit,
    not_true_eq_false]

theorem motionParse_learn (hfrom : rx.FromListed u) (hl : rx.rxData 0 = learnDeviceCmd) :
    radioFrameMotionParse rx u =
      (radioFrameMotionParseLearn rx u).onStorage fun st => (aqDeviceHeartRecv rx st).2 := by
  obtain ⟨device, hd⟩ := Option.isSome_iff_exists.1 (aqDeviceFind_isSome.2 hfrom.listed)
  unfold radioFrameMotionParse
  simp only [hd, hl, if_true, (by decide : learnDeviceCmd ≠ heartUploadCmd),
    (by decide : learnDeviceCmd ≠ controlValveCmd), if_false, getLocalAddress, motionLearn_cfg, ne_eq, hfrom.toUnit,
    not_true_eq_false]

/-- The gateway's node is only marked. -/
theorem gatewayParse_learn {s : State} (hfrom : rx.FromListed s.unit) (hl : rx.rxData 0 = learnDeviceCmd) :
    radioFrameGatewayParse rx s =
      s.onUnit fun u => (radioFrameGatewayParseLearn rx u).onStorage (aqDeviceRecvSet rx.sourceAddr 1) := by
  obtain ⟨device, hd⟩ := Option.isSome_iff_exists.1 (aqDeviceFind_isSome.2 hfrom.listed)
  unfold radioFrameGatewayParse
  simp only [hd, hl, if_true, (by decide : learnDeviceCmd ≠ controlValveCmd),
    (by decide : learnDeviceCmd ≠ deviceSyncCmd), (by decide : learnDeviceCmd ≠ confirmAckCmd),
    (by decide : learnDeviceCmd ≠ firmwareUpdateCmd), if_false, getLocalAddress, State.onUnit_unit, gatewayLearn_cfg,
    ne_eq, hfrom.toUnit, not_true_eq_false, Option.isNone_some, Bool.false_eq_true]
  rfl

theorem endunitParse_plan (ht : rx.deviceType = deviceTypeEndunit) (hno : ¬ rx.AddDevice u) :
    (rx.plan u).Run u (radioFrameEndunitParse rx u) := by
  have hlearn : rx.rxData 0 = learnDeviceCmd →
      Runs [] (if rx.destAddr = getLocalAddress u then rx.learnCommand else id) u (radioFrameEndunitParseLearn rx u) :=
    fun hl => endunitLearn_runs hl (not_addDevice (Or.inr (Or.inl ht)) hl hno)
  by_cases hfrom : rx.FromListed u
  · rw [plan_endunit hfrom ht]
    by_cases hl : rx.rxData 0 = learnDeviceCmd
    · have hcommand : rx.endunitCommand = fun _ _ => rx.learnCommand := by
        funext leak lost
        unfold RxFrame.endunitCommand
        rw [hl, if_neg (by decide), if_neg (by decide), if_neg (by decide)]
      have hruns := hlearn hl
      rw [if_pos hfrom.toUnit] at hruns
      rw [endunitParse_learn hfrom hl, learn_commandOps hl, hcommand]
      refine ⟨radioFrameEndunitParseLearn rx u, hruns, ?_, ?_⟩
      · rw [offlineCheck_storage]
        exact heartRecv_after rx _
      · rw [if_pos rfl, offlineCheck_storage, warningOfflineCheck_controls]
        rfl
    · exact endunitParse_handled ht hfrom hl
  · have hplan : rx.plan u = { f := fun _ _ => if rx.destAddr = getLocalAddress u then rx.learnCommand else id } := by
      by_cases hd : rx.destAddr = getLocalAddress u
      · rw [plan_unlisted hd (fun hl => hfrom ⟨hl, hd⟩) ht, if_pos hd]
      · rw [plan_away hd, if_neg hd]
    rw [hplan, endunitParse_other hfrom]
    by_cases hl : rx.rxData 0 = learnDeviceCmd
    · rw [if_pos hl]
      exact .of_runs (hlearn hl)
    · have hnone : rx.learnCommand = id := if_neg fun h => hl h.1
      simp only [if_neg hl, hnone, ite_self]
      exact .of_runs (.silent rfl rfl)

theorem doorunitParse_plan (ht : rx.deviceType = deviceTypeDoorunit) (hno : ¬ rx.AddDevice u) :
    (rx.plan u).Run u (radioFrameDoorunitParse rx u) := by
  have hlearn : rx.rxData 0 = learnDeviceCmd → Runs [] id u (radioFrameDoorunitParseLearn rx u) :=
    fun hl => doorunitLearn_runs (not_addDevice (Or.inr (Or.inr (Or.inl ht))) hl hno)
  by_cases hfrom : rx.FromListed u
  · rw [plan_doorunit hfrom ht]
    by_cases hl : rx.rxData 0 = learnDeviceCmd
    · have hcommand : rx.doorunitCommand = id := if_neg (by rw [hl]; decide)
      rw [doorunitParse_learn hfrom hl, learn_commandOps hl, hcommand]
      exact ⟨_, hlearn hl, heartRecv_after rx _, rfl⟩
    · exact doorunitParse_handled ht hfrom hl
  · rw [plan_unheard hfrom (by rw [ht]; decide), doorunitParse_other hfrom]
    by_cases hl : rx.rxData 0 = learnDeviceCmd
    · rw [if_pos hl]
      exact .of_runs (hlearn hl)
    · rw [if_neg hl]
      exact .of_runs (.silent rfl rfl)

theorem motionParse_plan (ht : rx.deviceType = deviceTypeMotionSensor) (hno : ¬ rx.AddDevice u) :
    (rx.plan u).Run u (radioFrameMotionParse rx u) := by
  have hlearn : rx.rxData 0 = learnDeviceCmd → Runs [] id u (radioFrameMotionParseLearn rx u) :=
    fun hl => motionLearn_runs (not_addDevice (Or.inl ht) hl hno)
  by_cases hfrom : rx.FromListed u
  · rw [plan_motion hfrom ht]
    by_cases hl : rx.rxData 0 = learnDeviceCmd
    · have hcommand : rx.motionCommand = id := if_neg (by rw [hl]; decide)
      rw [motionParse_learn hfrom hl, learn_commandOps hl, hcommand]
      exact ⟨_, hlearn hl, heartRecv_after rx _, rfl⟩
    · exact motionParse_handled ht hfrom hl
  · rw [plan_unheard hfrom (by rw [ht]; decide), motionParse_other hfrom]
    by_cases hl : rx.rxData 0 = learnDeviceCmd
    · rw [if_pos hl]
      exact .of_runs (hlearn hl)
    · rw [if_neg hl]
      exact .of_runs (.silent rfl rfl)

/-- What the lora_ota.c functions do leaves the unit as it is. -/
theorem onOta_core (f : Ota → Option OtaReply × Ota) (s : State) : (s.onOta f).unit.core = s.unit.core := by
  unfold State.onOta
  dsimp only
  split
  · rename_i reply _
    cases reply <;> exact gatewayUpload_core ..
  · rfl

theorem gatewaySync_quiet (h : rx.rxData 2 ≠ 1) :
    (radioFrameGatewayParseSync rx u).storage = u.storage ∧ (radioFrameGatewayParseSync rx u).core = u.core := by
  rw [gatewayParseSync_eq, if_neg h]
  split
  · unfold gatewaySyncDeviceUpload
    split
    · exact ⟨gatewayUpload_storage .., gatewayUpload_core ..⟩
    · exact ⟨rfl, rfl⟩
  · exact ⟨rfl, rfl⟩

theorem gatewayOta_quiet {s : State} (h : rx.rxData 2 ≠ 3) :
    (radioFrameGatewayParseOta rx s).unit.storage = s.unit.storage ∧
      (radioFrameGatewayParseOta rx s).unit.core = s.unit.core := by
  rw [gatewayParseOta_eq, if_neg h]
  split
  · exact ⟨onOta_storage _ s, onOta_core _ s⟩
  · split
    · exact ⟨onOta_storage _ s, onOta_core _ s⟩
    · exact ⟨rfl, rfl⟩

theorem gatewayParse_plan {s : State} (ht : rx.deviceType = deviceTypeGateway) (hno : ¬ rx.AddDevice s.unit)
    (hsync : ¬ rx.DeletesDevice s.unit) (hend : ¬ rx.OtaEnd s.unit) :
    (rx.plan s.unit).Run s.unit (radioFrameGatewayParse rx s).unit := by
  have hlearn : rx.rxData 0 = learnDeviceCmd → Runs [] id s.unit (radioFrameGatewayParseLearn rx s.unit) :=
    fun hl => gatewayLearn_runs (not_addDevice (Or.inr (Or.inr (Or.inr ht))) hl hno)
  by_cases hfrom : rx.FromListed s.unit
  · rw [plan_gateway hfrom ht]
    by_cases hl : rx.rxData 0 = learnDeviceCmd
    · have hcommand : rx.gatewayCommand = id := if_neg (by rw [hl]; decide)
      rw [gatewayParse_learn hfrom hl, hcommand]
      refine .of_runs ⟨(hlearn hl).controls, Or.inl ?_⟩
      exact congrArg (aqDeviceRecvSet rx.sourceAddr 1) (hlearn hl).storage_of_id
    · obtain ⟨device, hd⟩ := Option.isSome_iff_exists.1 (aqDeviceFind_isSome.2 hfrom.listed)
      unfold Plan.Run radioFrameGatewayParse RxFrame.gatewayCommand
      simp only [hd, if_neg hl, getLocalAddress, ne_eq, hfrom.toUnit, not_true_eq_false, if_false,
        Option.isNone_some, Bool.false_eq_true]
      by_cases hc : rx.rxData 0 = controlValveCmd
      · simp only [if_pos hc, State.onUnit_unit]
        have hruns := @gatewayControl_runs (s.unit.onStorage (aqDeviceRecvSet rx.sourceAddr 1)) rx
        exact .of_runs ⟨hruns.controls, hruns.tied⟩
      · simp only [if_neg hc]
        have hquiet : ∀ s' : State, s'.unit.storage = aqDeviceRecvSet rx.sourceAddr 1 s.unit.storage ∧
            s'.unit.core = s.unit.core → Handled [.recvSet rx.sourceAddr 1] [] (fun _ _ => id) false s.unit s'.unit :=
          fun s' h => .of_runs (.silent h.1 h.2)
        refine hquiet _ ?_
        split
        · rename_i hs
          exact gatewaySync_quiet fun h₁ => hsync ⟨ht, hs, h₁, hfrom⟩
        · split
          · exact ⟨rfl, rfl⟩
          · split
            · rename_i hf
              exact gatewayOta_quiet (s := s.onUnit (MainUnit.onStorage (aqDeviceRecvSet rx.sourceAddr 1)))
                fun h₃ => hend ⟨ht, hf, h₃, hfrom.toUnit, by rw [hd]; rfl⟩
            · exact ⟨rfl, rfl⟩
  · rw [plan_unheard hfrom (by rw [ht]; decide), gatewayParse_other hfrom]
    by_cases hl : rx.rxData 0 = learnDeviceCmd
    · rw [if_pos hl]
      exact .of_runs (hlearn hl)
    · rw [if_neg hl]
      exact .of_runs (.silent rfl rfl)

theorem dispatch_plan {s : State} (hno : ¬ rx.AddDevice s.unit) (hsync : ¬ rx.DeletesDevice s.unit)
    (hend : ¬ rx.OtaEnd s.unit) : (rx.plan s.unit).Run s.unit (radioFrameDispatch rx s).unit := by
  unfold radioFrameDispatch
  by_cases hm : rx.deviceType = deviceTypeMotionSensor
  · rw [if_pos hm]
    exact motionParse_plan hm hno
  by_cases he : rx.deviceType = deviceTypeEndunit
  · rw [if_neg hm, if_pos he]
    exact endunitParse_plan he hno
  by_cases hd : rx.deviceType = deviceTypeDoorunit
  · rw [if_neg hm, if_neg he, if_pos hd]
    exact doorunitParse_plan hd hno
  by_cases hg : rx.deviceType = deviceTypeGateway
  · rw [if_neg hm, if_neg he, if_neg hd, if_pos hg]
    exact gatewayParse_plan hg hno hsync hend
  rw [if_neg hm, if_neg he, if_neg hd, if_neg hg, plan_untyped hm he hd hg]
  refine .of_runs ?_
  split
  · rw [factoryParse_unit]
    exact .silent rfl rfl
  · exact .silent rfl rfl

end

/-! The update cursor. -/

theorem loraOtaReceive_twice (env : Env) (buf : List UInt8) (offset : Nat) (ota : Ota) :
    (loraOtaReceive env buf offset (loraOtaReceive env buf offset ota).2).2.updateFileCurSize =
      (loraOtaReceive env buf offset ota).2.updateFileCurSize := by
  by_cases hat : ota.updateFileCurSize = offset
  · by_cases hpart : ota.dlPart = true
    · by_cases hbad : (ota.updateFileCurSize + buf.length) % 2 ^ 32 > downloadLen ∨ env.falPartitionWrite = false
      · rw [loraOtaReceive_refused hat hpart hbad, loraOtaReceive_refused hat hpart hbad]
      · -- written: the cursor has moved on, or the packet was empty
        have hwritten : (loraOtaReceive env buf offset ota).2.updateFileCurSize =
            (ota.updateFileCurSize + buf.length) % 2 ^ 32 := by
          rw [loraOtaReceive, if_neg (not_not.2 hat), if_neg (by rw [hpart]; decide), if_neg hbad]
        rcases loraOtaReceive_cases env buf offset (loraOtaReceive env buf offset ota).2 with
          ⟨_, h⟩ | ⟨_, _, h, _⟩ | ⟨hat', h⟩
        · rw [h]
        · exact h
        · rw [h, hat']
          rwa [hwritten, hat] at hat'
    · have hpart : ota.dlPart = false := Bool.eq_false_of_not_eq_true hpart
      rw [loraOtaReceive_fault hat hpart, loraOtaReceive_fault (show ({ ota with fault := true } : Ota).updateFileCurSize = offset from hat) hpart]
  · rw [loraOtaReceive_away hat, loraOtaReceive_away hat]

/-- What an update frame other than the end makes of the receiver. -/
def RxFrame.otaAfter (rx : RxFrame) (env : Env) (ota : Ota) : Ota :=
  if rx.rxData 2 = 1 then (loraOtaBegin env rx.word.toNat ota).2
  else if rx.rxData 2 = 2 then (loraOtaReceive env rx.packet rx.word.toNat ota).2
  else ota

theorem otaAfter_twice (rx : RxFrame) (env : Env) (ota : Ota) :
    (rx.otaAfter env (rx.otaAfter env ota)).updateFileCurSize = (rx.otaAfter env ota).updateFileCurSize := by
  have hbegin : ∀ ota, (loraOtaBegin env rx.word.toNat ota).2.updateFileCurSize = ota.updateFileCurSize := by
    intro ota
    obtain ⟨_, _, _, h⟩ | ⟨_, h⟩ := loraOtaBegin_cases env rx.word.toNat ota <;> rw [h]
  unfold RxFrame.otaAfter
  split
  · exact hbegin _
  · split
    · exact loraOtaReceive_twice env rx.packet rx.word.toNat ota
    · rfl

/-- An update frame that is handled. -/
structure RxFrame.Updates (rx : RxFrame) (u : MainUnit) : Prop where
  deviceType : rx.deviceType = deviceTypeGateway
  command : rx.rxData 0 = firmwareUpdateCmd
  fromListed : rx.FromListed u

theorem dispatch_ota {rx : RxFrame} {s : State} (hend : ¬ rx.OtaEnd s.unit) :
    rx.Updates s.unit ∧ (radioFrameDispatch rx s).ota = rx.otaAfter s.unit.env s.ota ∨
      ¬ rx.Updates s.unit ∧ (radioFrameDispatch rx s).ota = s.ota := by
  by_cases hup : rx.Updates s.unit
  · have hreg := aqDeviceFind_isSome.2 hup.fromListed.listed
    have hsub : rx.rxData 2 ≠ 3 := fun h₃ => hend ⟨hup.deviceType, hup.command, h₃, hup.fromListed.toUnit, hreg⟩
    refine Or.inl ⟨hup, ?_⟩
    rw [dispatch_update hup.deviceType hup.command hup.fromListed.toUnit hreg, gatewayParseOta_eq, if_neg hsub]
    unfold RxFrame.otaAfter
    split_ifs
    · rw [State.onOta_ota]
      rfl
    · rw [State.onOta_ota]
      rfl
    · rfl
  refine Or.inr ⟨hup, ?_⟩
  unfold radioFrameDispatch
  by_cases hg : rx.deviceType = deviceTypeGateway
  · rw [if_neg (by rw [hg]; decide), if_neg (by rw [hg]; decide), if_neg (by rw [hg]; decide), if_pos hg]
    by_cases hfrom : rx.FromListed s.unit
    · have hcmd : rx.rxData 0 ≠ firmwareUpdateCmd := fun h => hup ⟨hg, h, hfrom⟩
      unfold radioFrameGatewayParse
      simp only [if_neg hcmd]
      split_ifs <;> rfl
    · rw [gatewayParse_other hfrom]
      split <;> rfl
  · rw [if_neg hg]
    split_ifs
    any_goals rfl
    unfold radioFrameFactoryParse
    split_ifs <;> rfl

/-! The configuration. -/

theorem warningEnable_cfg (w : Warning) (u : MainUnit) : (warningEnable w u).cfg = u.cfg := by
  have hlock : ∀ u : MainUnit, (valveLock u).cfg = u.cfg := by
    intro u
    unfold valveLock
    split <;> rfl
  unfold warningEnable
  split
  · cases w with
    | valveLeftFail | valveRightFail | masterSensorLost | masterSensorLeak => exact gatewayUpload_cfg ..
    | slaverLowPower | slaverSensorLost | masterLowTemp => rfl
    | slaverUltraLowPower => exact hlock _
    | slaverSensorLeak =>
      unfold Warning.callback slaverSensorLeakEventCallback
      dsimp only
      split
      · exact hlock _
      · rfl
    | slaverOffline =>
      unfold Warning.callback slaverOfflineEventCallback
      dsimp only
      split <;> rfl
  · rfl

theorem boot_cfg (u : MainUnit) : u.boot.cfg = u.cfg := by
  unfold MainUnit.boot valveInit
  dsimp only
  rw [MainUnit.onStorage_cfg]
  split
  · exact warningEnable_cfg ..
  · rfl

theorem Effect.cfg {u₀ u u' : MainUnit} {e : Event} (h : Effect u₀ e u u') : u'.cfg = u.cfg := by
  cases h with
  | leak | lost | raise => exact warningEnable_cfg ..
  | lockClose =>
    unfold valveLock
    split <;> rfl
  | unlockOpen =>
    unfold valveUnlock
    split <;> rfl
  | disarm t => cases t <;> rfl
  | boot => exact boot_cfg u
  | factoryReset => exact boot_cfg _
  | heart | send | registry | enrol | clear | closeValve | openValve | learnStart | learnStop | learnTimeout
  | learnRefresh | delayControl | checkStart | turnBackPass | turnBackFail | turnCheckStart | turnCheckValid
  | turnCheckPass | turnCheckFail => rfl

theorem Event.handle_cfg (e : Event) (s : State) : (e.handle s).unit.cfg = s.unit.cfg :=
  closed_of_path (P := fun u => u.cfg = s.unit.cfg) (fun _ _ he hp => he.cfg.trans hp) (path_handle e s) rfl

end Aqualarm
