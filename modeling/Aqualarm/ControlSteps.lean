import Aqualarm.TwiceEnrolled
import Aqualarm.Coherence
import Aqualarm.ValveChecks

/-
  What one event does to the status, the valve and the lock, with what in the
  event brings a closing of the valve about.

  What is proved: `control_handle`, `control_next` — every event is a chain of
  the steps of `ControlStep`.
-/

namespace Aqualarm

open Lib Relation

/-! What brings a step about. -/

/-- A command to close the valve from a listed source. -/
structure RxFrame.ClosesValve (rx : RxFrame) (u : MainUnit) : Prop where
  fromListed : rx.FromListed u
  command : rx.rxData 0 = controlValveCmd
  value : rx.rxData 2 = 0
  deviceType : rx.deviceType = deviceTypeMotionSensor ∨ rx.deviceType = deviceTypeEndunit ∨
    rx.deviceType = deviceTypeDoorunit ∨ rx.deviceType = deviceTypeGateway

/-- Whichever device sends it, the command closes, or locks and closes. -/
theorem RxFrame.ClosesValve.plan {rx : RxFrame} {u : MainUnit} {v : Controls} (h : rx.ClosesValve u)
    (hleak : v.deviceStatus ≠ .slaverSensorLeak) (leak lost : Bool) :
    (rx.plan u).f leak lost v = v.closeIdle ∨ (rx.plan u).f leak lost v = v.lockIdle := by
  obtain ⟨hfrom, hc, hvalue, ht⟩ := h
  rcases ht with ht | ht | ht | ht
  · refine Or.inl ?_
    rw [plan_motion hfrom ht]
    change rx.motionCommand v = _
    rw [RxFrame.motionCommand, if_pos hc, Controls.motionControl, if_neg (not_not.2 hvalue)]
  · refine Or.inr ?_
    rw [plan_endunit hfrom ht]
    change rx.endunitCommand leak lost v = _
    rw [RxFrame.endunitCommand, if_neg (by rw [hc]; decide), if_pos hc, Controls.endunitValve,
      if_neg (not_not.2 hvalue), if_neg hleak]
  · refine Or.inr ?_
    rw [plan_doorunit hfrom ht]
    change rx.doorunitCommand v = _
    rw [RxFrame.doorunitCommand, if_pos hc, Controls.doorunitValve, if_pos hvalue]
  · refine Or.inl ?_
    rw [plan_gateway hfrom ht]
    change rx.gatewayCommand v = _
    rw [RxFrame.gatewayCommand, if_pos hc, Controls.gatewayControl, if_pos hvalue]

/-- It neither adds nor deletes a device, and ends no update. -/
theorem RxFrame.ClosesValve.run {rx : RxFrame} {s : State} (h : rx.ClosesValve s.unit) :
    (rx.plan s.unit).Run s.unit (radioFrameDispatch rx s).unit := by
  have hcommand : rx.rxData 0 = controlValveCmd := h.command
  exact dispatch_plan (fun ha => absurd (hcommand.symm.trans ha.command) (by decide))
    (fun hd => absurd (hcommand.symm.trans hd.command) (by decide))
    fun he => absurd (hcommand.symm.trans he.command) (by decide)

/-- A command to close the valve, in a status in which it is taken. -/
inductive CloseCommand (s : State) (e : Event) : Prop
  | frame {rx : RxFrame} (hf : e.Frame s.unit rx) (h : rx.ClosesValve s.unit) (hi : s.unit.core.deviceStatus.Idle)
  | click (h : e.click s = some false)
      (hs : s.unit.core.deviceStatus = .valveOpen ∨
        s.unit.core.deviceStatus = .slaverLowPower ∧ s.unit.core.valveStatus = .valveStatusOpen ∨
        s.unit.core.deviceStatus = .masterSensorLost)
  | dryContact (he : e = .dryContact .pinHigh) (hl : s.dry.dryContactValveInputLevel ≠ some .pinHigh)
      (hi : s.unit.core.deviceStatus.Idle)
  | delayed (he : e = .timer .valveDelayClose) (hi : s.unit.core.deviceStatus.Idle)

/-! The steps. -/

inductive ControlStep (s₀ : State) (e : Event) (v v' : Controls) : Prop
  | relocked (value : UInt8) (h : v' = { v with lockStatus := value })
  | opened (h : v' = v.opened)
  | closed (hc : CloseCommand s₀ e) (hs : v.deviceStatus = s₀.unit.core.deviceStatus)
      (hv : v.valveValid = s₀.unit.core.valveValid) (h : v' = v.closed)
  | cleared (h : v' = v.cleared)
  | warned (w : Warning) (hr : Raises s₀.unit e w) (hp : s₀.unit.core.nowEvent.priority ≤ w.priority)
      (hs : v'.deviceStatus = w.status) (hv : v'.valveValid = v.valveValid)
      (hc : v'.valveStatus = v.valveStatus ∨ w.Closes ∧ v'.valveStatus = .valveStatusClose)
  | window (allow : Bool) (h : v' = { v with allowAddDevice := allow })
  | learnStarted (h : v' = { v with deviceStatus := .learnDevice, allowAddDevice := true })
  | checked (he : e.EndsStage) (valid : Bool) (h : v' = { v with valveValid := valid })
  | booted (hd : v'.deviceStatus = .valveClose ∨ v'.deviceStatus = .slaverSensorLeak)
      (hv : v'.valveStatus = .valveStatusClose) (hvalid : v'.valveValid = true)

abbrev ControlPath (s₀ : State) (e : Event) : Controls → Controls → Prop := ReflTransGen (ControlStep s₀ e)

section
variable {s₀ : State} {e : Event} {v : Controls}

theorem ControlStep.path {v' : Controls} (h : ControlStep s₀ e v v') : ControlPath s₀ e v v' := .single h

/-- The status and the validity are those the event found. -/
structure Controls.Found (s₀ : State) (v : Controls) : Prop where
  deviceStatus : v.deviceStatus = s₀.unit.core.deviceStatus
  nowEvent : v.nowEvent = s₀.unit.core.nowEvent
  valveStatus : v.valveStatus = s₀.unit.core.valveStatus
  valveValid : v.valveValid = s₀.unit.core.valveValid

theorem control_locked : ControlPath s₀ e v v.locked := (ControlStep.relocked _ rfl).path

theorem control_unlocked : ControlPath s₀ e v v.unlocked := (ControlStep.relocked _ rfl).path

theorem control_openIdle : ControlPath s₀ e v v.openIdle := by
  unfold Controls.openIdle
  split
  · exact control_unlocked.tail (.opened rfl)
  · exact .refl

theorem control_closeIdle (hc : v.deviceStatus.Idle → CloseCommand s₀ e) (hv : v.Found s₀) :
    ControlPath s₀ e v v.closeIdle := by
  unfold Controls.closeIdle
  split
  · rename_i hi
    exact (ControlStep.closed (hc hi) hv.deviceStatus hv.valveValid rfl).path
  · exact .refl

theorem control_lockIdle (hc : v.deviceStatus.Idle → CloseCommand s₀ e) (hv : v.Found s₀) :
    ControlPath s₀ e v v.lockIdle := by
  unfold Controls.lockIdle
  split
  · rename_i hi
    exact control_locked.tail (.closed (hc hi) hv.deviceStatus hv.valveValid rfl)
  · exact .refl

theorem control_warned {w : Warning} {act : Controls → Controls} (hr : Raises s₀.unit e w)
    (hn : v.nowEvent = s₀.unit.core.nowEvent)
    (hvalid : (act v).valveValid = v.valveValid)
    (hc : (act v).valveStatus = v.valveStatus ∨ w.Closes ∧ (act v).valveStatus = .valveStatusClose) :
    ControlPath s₀ e v (v.warned w act) := by
  unfold Controls.warned
  split
  · rename_i hp
    have hshown : ControlStep s₀ e v (v.shown w act) := .warned w hr (hn ▸ hp) rfl hvalid hc
    exact hshown.path
  · exact .refl

theorem control_ended (alarm : DeviceStatus) (found : Bool) :
    ControlPath s₀ e v (v.ended alarm found Controls.cleared) := by
  unfold Controls.ended
  split
  · split
    · exact (ControlStep.cleared rfl).path
    · exact .refl
  · exact .refl

theorem control_heard (offline : Bool) : ControlPath s₀ e v (v.heard offline) := control_ended ..

theorem control_toggled : ControlPath s₀ e v v.toggled := by
  unfold Controls.toggled
  split
  · exact (ControlStep.learnStarted rfl).path
  · split
    · exact (ControlStep.window false rfl).path.tail (.cleared rfl)
    · exact .refl

theorem closed_valveValid (v : Controls) : v.closed.valveValid = v.valveValid := by
  unfold Controls.closed
  split <;> rfl

theorem closed_valveStatus (v : Controls) : v.closed.valveStatus = .valveStatusClose := by
  unfold Controls.closed
  split <;> rfl

/-- Over a shut valve, clearing an alarm and closing is clearing it. -/
theorem cleared_closed (h : v.valveStatus = .valveStatusClose) : v.cleared.closed = v.cleared := by
  unfold Controls.closed Controls.cleared
  split
  · exact Controls.ext rfl rfl rfl h.symm rfl rfl
  · exact Controls.ext (by rw [h]; rfl) rfl rfl h.symm rfl rfl

/-! A frame of a listed source. -/

section
variable {rx : RxFrame}

theorem control_motionCommand (hf : e.Frame s₀.unit rx) (hfrom : rx.FromListed s₀.unit)
    (ht : rx.deviceType = deviceTypeMotionSensor) (hv : v.Found s₀) : ControlPath s₀ e v (rx.motionCommand v) := by
  unfold RxFrame.motionCommand Controls.motionControl
  split
  · rename_i hc
    split
    · exact control_openIdle
    · rename_i hvalue
      exact control_closeIdle
        (fun hi => .frame hf ⟨hfrom, hc, not_not.1 hvalue, Or.inl ht⟩ (hv.deviceStatus ▸ hi)) hv
  · exact .refl

theorem control_doorunitCommand (hf : e.Frame s₀.unit rx) (hfrom : rx.FromListed s₀.unit)
    (ht : rx.deviceType = deviceTypeDoorunit) (hv : v.Found s₀) : ControlPath s₀ e v (rx.doorunitCommand v) := by
  unfold RxFrame.doorunitCommand Controls.doorunitValve
  split
  · rename_i hc
    split
    · rename_i hvalue
      exact control_lockIdle
        (fun hi => .frame hf ⟨hfrom, hc, hvalue, Or.inr (Or.inr (Or.inl ht))⟩ (hv.deviceStatus ▸ hi)) hv
    · split
      · exact control_openIdle
      · exact .refl
  · exact .refl

theorem control_gatewayCommand (hf : e.Frame s₀.unit rx) (hfrom : rx.FromListed s₀.unit)
    (ht : rx.deviceType = deviceTypeGateway) (hv : v.Found s₀) : ControlPath s₀ e v (rx.gatewayCommand v) := by
  unfold RxFrame.gatewayCommand Controls.gatewayControl
  split
  · rename_i hc
    split
    · rename_i hvalue
      exact control_closeIdle
        (fun hi => .frame hf ⟨hfrom, hc, hvalue, Or.inr (Or.inr (Or.inr ht))⟩ (hv.deviceStatus ▸ hi)) hv
    · split
      · exact control_openIdle
      · exact .refl
  · exact .refl

theorem control_learnCommand (rx : RxFrame) : ControlPath s₀ e v (rx.learnCommand v) := by
  unfold RxFrame.learnCommand
  split
  · exact control_toggled
  · exact .refl

theorem control_endunitHeart (hf : e.Frame s₀.unit rx) (hs : rx.Served deviceTypeEndunit heartUploadCmd s₀.unit)
    (hv : v.Found s₀) : ControlPath s₀ e v (v.endunitHeart (rx.rxData 2)) := by
  unfold Controls.endunitHeart
  split
  · rename_i hb
    exact control_warned (.lowPower hf hs hb) hv.nowEvent rfl (Or.inl rfl)
  · split
    · -- an empty battery closes the valve as well
      rename_i hb
      refine control_warned (.ultraLowPower hf hs hb) hv.nowEvent ?_ (Or.inr ⟨Or.inl rfl, closed_valveStatus _⟩)
      exact closed_valveValid _
    · exact .refl

theorem control_endunitValve (hf : e.Frame s₀.unit rx) (hfrom : rx.FromListed s₀.unit)
    (ht : rx.deviceType = deviceTypeEndunit) (hc : rx.rxData 0 = controlValveCmd) (hv : v.Found s₀) (leak : Bool) :
    ControlPath s₀ e v (v.endunitValve (rx.rxData 2) leak) := by
  unfold Controls.endunitValve
  split
  · exact control_openIdle
  · rename_i hvalue
    split
    · -- under a leak, closing only takes the leak back
      split
      · exact (ControlStep.cleared rfl).path
      · exact .refl
    · exact control_lockIdle
        (fun hi => .frame hf ⟨hfrom, hc, not_not.1 hvalue, Or.inr (Or.inl ht)⟩ (hv.deviceStatus ▸ hi)) hv

theorem control_endunitWarn (hf : e.Frame s₀.unit rx) (hs : rx.Served deviceTypeEndunit warningUploadCmd s₀.unit)
    (hv : v.Found s₀) (hco : v.Coherent) (leak lost : Bool) :
    ControlPath s₀ e v (v.endunitWarn (rx.rxData 2) (rx.rxData 3) leak lost) := by
  unfold Controls.endunitWarn
  split
  · rename_i hsub
    split
    · rename_i hvalue
      refine control_warned (.leak hf hs hsub hvalue) hv.nowEvent ?_ ?_
      · split
        · rfl
        · exact closed_valveValid _
      · split
        · exact Or.inl rfl
        · exact Or.inr ⟨Or.inr (Or.inl rfl), closed_valveStatus _⟩
    · unfold Controls.ended
      split
      · rename_i hl
        split
        · -- the valve is shut while a leak shows, so closing it again is no step
          change ControlPath s₀ e v v.cleared.closed
          rw [cleared_closed (hco.leak hl).1]
          exact (ControlStep.cleared rfl).path
        · exact .refl
      · exact .refl
  · split
    · rename_i hsub
      split
      · rename_i hvalue
        exact control_warned (.lost hf hs hsub hvalue) hv.nowEvent rfl (Or.inl rfl)
      · exact control_ended ..
    · exact .refl

theorem control_endunitCommand (hf : e.Frame s₀.unit rx) (hfrom : rx.FromListed s₀.unit)
    (ht : rx.deviceType = deviceTypeEndunit) (hv : v.Found s₀) (hco : v.Coherent) (leak lost : Bool) :
    ControlPath s₀ e v (rx.endunitCommand leak lost v) := by
  have hserved : ∀ {command : UInt8}, rx.rxData 0 = command → rx.Served deviceTypeEndunit command s₀.unit :=
    fun hc => ⟨ht, hc, hfrom.toUnit, aqDeviceFind_isSome.2 hfrom.listed⟩
  unfold RxFrame.endunitCommand
  split
  · rename_i hc
    exact control_endunitHeart hf (hserved hc) hv
  · split
    · rename_i hc
      exact control_endunitValve hf hfrom ht hc hv leak
    · split
      · rename_i hc
        exact control_endunitWarn hf (hserved hc) hv hco leak lost
      · exact control_learnCommand rx

end

theorem control_boot (u : MainUnit) (v : Controls) : ControlPath s₀ e v u.boot.core.controls := by
  obtain ⟨hv, _, hd⟩ := boot_spec u
  refine (ControlStep.booted ?_ hv (congrArg CheckView.valveValid (boot_check u))).path
  exact hd.elim (fun h => Or.inl h.2.1) fun h => Or.inr h.1

end

section
variable {rx : RxFrame} {s : State} {e : Event}

theorem Controls.found (s : State) : s.unit.core.controls.Found s := ⟨rfl, rfl, rfl, rfl⟩

theorem control_plan (hf : e.Frame s.unit rx) (hco : s.unit.core.controls.Coherent) (leak lost : Bool) :
    ControlPath s e s.unit.core.controls ((rx.plan s.unit).f leak lost s.unit.core.controls) := by
  refine plan_cases (P := fun p => ControlPath s e s.unit.core.controls (p.f leak lost s.unit.core.controls)) rx s.unit
    .refl ?_ ?_ ?_ ?_ ?_
  · exact fun h hm => control_motionCommand hf h hm (Controls.found s)
  · exact fun h he => control_endunitCommand hf h he (Controls.found s) hco leak lost
  · exact fun h hd => control_doorunitCommand hf h hd (Controls.found s)
  · exact fun h hg => control_gatewayCommand hf h hg (Controls.found s)
  · exact fun _ => control_learnCommand rx

theorem otaEnd_boot (h : rx.OtaEnd s.unit) : ∃ u : MainUnit, (radioFrameDispatch rx s).unit = u.boot := by
  rw [h.dispatch]
  exact ⟨_, rfl⟩

theorem control_dispatch (hf : e.Frame s.unit rx) (hco : s.unit.core.controls.Coherent) :
    ControlPath s e s.unit.core.controls (radioFrameDispatch rx s).unit.core.controls := by
  by_cases ha : rx.AddDevice s.unit
  · rw [(addDevice_enrols ha).controls]
    split
    · exact control_heard _
    · exact .refl
  by_cases hsync : rx.DeletesDevice s.unit
  · rw [(deletesDevice_handled hsync).2]
  by_cases hend : rx.OtaEnd s.unit
  · obtain ⟨u, hu⟩ := otaEnd_boot hend
    rw [hu]
    exact control_boot u _
  obtain ⟨u₁, hruns, _, hcontrols⟩ := (dispatch_plan ha hsync hend).run
  have hcommand := control_plan hf hco (aqDeviceWaterleakFind (s.unit.after (rx.plan s.unit).ops).storage)
    (aqDeviceWirelostFind (s.unit.after (rx.plan s.unit).ops).storage)
  rw [← hruns.controls] at hcommand
  rw [hcontrols]
  split
  · exact hcommand.trans (control_heard _)
  · exact hcommand

/-! The other events. -/

theorem openAndReport_controls (u : MainUnit) : (openAndReport u).core.controls = u.core.controls.opened := by
  unfold openAndReport
  dsimp only
  split
  · exact (congrArg Core.controls (gatewayUpload_core ..)).trans (valveOpen_controls u.core)
  · exact valveOpen_controls u.core

theorem closeAndReport_controls (u : MainUnit) : (closeAndReport u).core.controls = u.core.controls.closed := by
  unfold closeAndReport
  dsimp only
  split
  · exact (congrArg Core.controls (gatewayUpload_core ..)).trans (valveClose_controls u.core)
  · exact valveClose_controls u.core

theorem control_openAndReport (v : Controls) (u : MainUnit) (h : u.core.controls = v) :
    ControlPath s e v (openAndReport u).core.controls := by
  rw [openAndReport_controls, h]
  exact (ControlStep.opened rfl).path

theorem control_closeAndReport (hc : CloseCommand s e) :
    ControlPath s e s.unit.core.controls (closeAndReport s.unit).core.controls := by
  rw [closeAndReport_controls]
  exact (ControlStep.closed hc rfl rfl rfl).path

theorem control_keyOnClick : ControlPath s e s.unit.core.controls (keyOnClickHandle s.unit).core.controls := by
  unfold keyOnClickHandle
  split
  · exact control_openAndReport _ _ rfl
  · exact control_openAndReport _ _ rfl
  · split
    · exact control_openAndReport _ _ rfl
    · exact .refl
  · exact control_openAndReport _ _ rfl
  · exact .refl

theorem control_keyOffClick (hc : e.click s = some false) :
    ControlPath s e s.unit.core.controls (keyOffClickHandle s.unit).core.controls := by
  unfold keyOffClickHandle
  split
  · rename_i hd
    exact control_closeAndReport (.click hc (Or.inl hd))
  · rename_i hd
    split
    · rename_i hv
      exact control_closeAndReport (.click hc (Or.inr (Or.inl ⟨hd, hv⟩)))
    · exact .refl
  · rename_i hd
    exact control_closeAndReport (.click hc (Or.inr (Or.inr hd)))
  · refine (ControlStep.cleared ?_).path
    exact congrArg Core.controls (gatewayUpload_core ..)
  · exact .refl

/-- A Modbus write runs a click handler, or leaves the unit as it is. -/
theorem Event.handle_write {reg : Nat → UInt8} {reg' : Nat → UInt8} {a n a' n' : UInt16}
    (he : e = .modbusCoils reg a n ∨ e = .modbusHolding reg' a' n') (hno : e.click s = none) :
    (e.handle s).unit = s.unit := by
  rcases he with rfl | rfl
  · unfold Event.click mbCoilsClick at hno
    unfold Event.handle mbWriteCoils
    dsimp only at hno ⊢
    split
    · rename_i hn
      rw [if_pos hn] at hno
      split
      · rfl
      · rename_i runs buf hw
        rw [hw] at hno
        cases runs with
        | true => cases hno
        | false => rfl
    · rfl
  · unfold Event.click mbHoldingClick at hno
    unfold Event.handle mbWriteHolding
    dsimp only at hno ⊢
    split
    · rename_i hn
      rw [if_pos hn] at hno
      split
      · rfl
      · rename_i runs buf hw
        rw [hw] at hno
        cases runs with
        | true => cases hno
        | false => rfl
    · rfl

theorem control_click (he : ∀ on, e.click s = some on →
      (e.handle s).unit = if on then keyOnClickHandle s.unit else keyOffClickHandle s.unit)
    (hno : e.click s = none → (e.handle s).unit = s.unit) :
    ControlPath s e s.unit.core.controls (e.handle s).unit.core.controls := by
  cases hc : e.click s with
  | none => rw [hno hc]
  | some on =>
    rw [he on hc]
    cases on with
    | true => exact control_keyOnClick
    | false => exact control_keyOffClick hc

theorem checkStart_controls (fullyOpen : Side → PinLevel) (c : Core) :
    (valveCheckStart fullyOpen c).controls = c.controls := by
  have hside : ∀ side level (c : Core), (valveCheckStartSide side level c).controls = c.controls := by
    intro side level c
    unfold valveCheckStartSide
    split <;> rfl
  unfold valveCheckStart
  split
  · rfl
  · rw [hside, hside]

theorem control_startLearn : ControlPath s e s.unit.core.controls (radioStartLearnDevice s.unit).core.controls := by
  rw [startLearn_runs.controls]
  exact control_toggled

theorem control_longClick : ControlPath s e s.unit.core.controls (keyOnOffLongClickHandle s).unit.core.controls := by
  unfold keyOnOffLongClickHandle
  split
  · split
    · exact control_boot _ _
    · exact .refl
  · exact .refl

theorem control_keyOnLongHold : ControlPath s e s.unit.core.controls (keyOnLongHoldHandle s).unit.core.controls := by
  unfold keyOnLongHoldHandle
  split
  · exact .refl
  · split
    · exact control_longClick
    · split
      · change ControlPath s e s.unit.core.controls (valveCheckStart s.unit.env.fullyOpen s.unit.core).controls
        rw [checkStart_controls]
      · exact .refl

theorem control_keyOffLongHold : ControlPath s e s.unit.core.controls (keyOffLongHoldHandle s).unit.core.controls := by
  unfold keyOffLongHoldHandle
  split
  · exact .refl
  · split
    · exact control_longClick
    · split
      · exact control_startLearn
      · exact .refl

theorem control_dryContact (level : PinLevel) :
    ControlPath s (.dryContact level) s.unit.core.controls
      (dryContactPollingTimerCallback level s).unit.core.controls := by
  unfold dryContactPollingTimerCallback
  split
  · rename_i hl
    change ControlPath s (.dryContact level) s.unit.core.controls (valveDryContactControl level s.unit).core.controls
    unfold valveDryContactControl
    split
    · rename_i hi
      cases level with
      | pinHigh => exact control_closeAndReport (.dryContact rfl hl hi)
      | pinLow => exact control_openAndReport _ _ rfl
    · exact .refl
  · exact .refl

/-- The callback of an offline end unit. -/
theorem slaverOffline_controls (u : MainUnit) :
    (warningEnable .slaverOffline u).core.controls =
      u.core.controls.warned .slaverOffline fun v => if v.deviceStatus = .slaverOffline then v else v.closed := by
  refine warningEnable_controls u (fun u => ?_) fun v n => ?_
  · unfold Warning.callback slaverOfflineEventCallback
    dsimp only
    by_cases h : u.core.deviceStatus = .slaverOffline
    · rw [if_neg (not_not.2 h), if_pos (show u.core.controls.deviceStatus = .slaverOffline from h)]
      exact Controls.ext h rfl rfl rfl rfl rfl
    · rw [if_pos h, if_neg (show ¬ u.core.controls.deviceStatus = .slaverOffline from h), ← valveClose_controls]
      rfl
  · dsimp only
    split
    · rfl
    · unfold Controls.closed
      dsimp only
      split <;> rfl

theorem valveFail_controls (side : Side) (u : MainUnit) :
    (warningEnable side.failEvent u).core.controls = u.core.controls.warned side.failEvent id := by
  refine warningEnable_controls u (fun u => ?_) fun _ _ => rfl
  cases side <;> exact (congrArg Core.controls (gatewayUpload_core ..)).trans rfl

theorem control_deviceHeartCheck (he : e = .rtcDeviceHeartCheck) :
    ControlPath s e s.unit.core.controls (aqDeviceHeartCheck s.unit).core.controls := by
  rw [deviceHeartCheck_core]
  split
  · rename_i hfind
    rw [slaverOffline_controls, (offlineUpload_same _ _).1]
    refine control_warned (.offline he hfind) rfl ?_ ?_
    · split
      · rfl
      · exact closed_valveValid _
    · split
      · exact Or.inl rfl
      · exact Or.inr ⟨Or.inr (Or.inr (Or.inl rfl)), closed_valveStatus _⟩
  · exact .refl

theorem setMotor_controls (side : Side) (f : Motor → Motor) (c : Core) : (c.setMotor side f).controls = c.controls := rfl

/-- A stage that fails makes the valve count as bad and raises the side's event. -/
theorem control_stageFails {side : Side} {u : MainUnit} (he : e.EndsStage) (hr : Raises s.unit e side.failEvent)
    (hu : u.core.controls = { s.unit.core.controls with valveValid := false }) :
    ControlPath s e s.unit.core.controls (warningEnable side.failEvent u).core.controls := by
  have hbad : ControlStep s e s.unit.core.controls u.core.controls := .checked he false hu
  rw [valveFail_controls]
  refine hbad.path.trans (control_warned hr ?_ rfl (Or.inl rfl))
  rw [hu]
  rfl

theorem control_turnBack {side : Side} (he : e = .timer (.turnBack side)) :
    ControlPath s e s.unit.core.controls
      (turnBackTimerCallback side ((Timer.turnBack side).disarm s.unit)).core.controls := by
  unfold turnBackTimerCallback
  split
  · exact .refl
  · rename_i hp
    exact control_stageFails ⟨side, Or.inl he⟩ (.turnBack side he hp) rfl

theorem control_turnCheck {side : Side} (he : e = .timer (.turnCheck side)) :
    ControlPath s e s.unit.core.controls
      (turnCheckTimerCallback side ((Timer.turnCheck side).disarm s.unit)).core.controls := by
  have hstage : e.EndsStage := ⟨side, Or.inr he⟩
  by_cases hp : s.unit.env.fullyOpen side = .pinLow
  · rw [@turnCheck_passed side ((Timer.turnCheck side).disarm s.unit) hp, setMotor_controls]
    split
    · -- both sides are good: a failure that shows is cleared
      have hvalid : ControlStep s e s.unit.core.controls { s.unit.core.controls with valveValid := true } :=
        .checked hstage true rfl
      refine hvalid.path.trans ?_
      obtain h | ⟨h, _⟩ := valvefailWarningDisable_cases
        { ((Timer.turnCheck side).disarm s.unit).core with valveValid := true } <;> rw [h]
      · exact .refl
      · exact (ControlStep.cleared rfl).path
    · exact .refl
  · rw [@turnCheck_failed side ((Timer.turnCheck side).disarm s.unit) hp]
    exact control_stageFails hstage (.turnCheck side he hp) rfl

theorem control_timer (t : Timer) (he : e = .timer t) :
    ControlPath s e s.unit.core.controls (t.callback (t.disarm s.unit)).core.controls := by
  cases t with
  | radioLearn =>
    change ControlPath s e s.unit.core.controls (radioLearnTimerCallback _).core.controls
    unfold radioLearnTimerCallback
    rw [(gatewayConnectStart_core _).1]
    exact (ControlStep.window false rfl).path.tail (.cleared rfl)
  | valveDelayClose =>
    change ControlPath s e s.unit.core.controls (valveDelayCloseTimerCallback _).core.controls
    unfold valveDelayCloseTimerCallback
    split
    · rename_i hi
      have hi : s.unit.core.deviceStatus.Idle := hi
      rw [show (gatewayControlMasterControl 0 _).core = _ from gatewayUpload_core .., MainUnit.onCore_core,
        valveClose_controls, valveLock_controls]
      exact control_locked.tail (.closed (.delayed he hi) rfl rfl rfl)
    · exact .refl
  | valveDetectOnce =>
    change ControlPath s e s.unit.core.controls (valveCheckStart _ _).controls
    rw [checkStart_controls]
    exact .refl
  | turnBack side => exact control_turnBack he
  | turnCheck side => exact control_turnCheck he
  | heartConnect =>
    change ControlPath s e s.unit.core.controls (heartConnectTimerCallback _).core.controls
    unfold heartConnectTimerCallback
    split
    · split
      · simp only [gatewayHeartUploadPoweron, gatewayUpload_core]
        exact .refl
      · exact .refl
    · exact .refl

end

/-- One event, as steps of the controls. -/
theorem control_handle (e : Event) {s : State} (hco : s.unit.core.controls.Coherent) :
    ControlPath s e s.unit.core.controls (e.handle s).unit.core.controls := by
  cases e with
  | radio rssi snr data len =>
    rw [Event.handle, radioProtocolParse_eq]
    split
    · rename_i ha
      exact control_dispatch ⟨rssi, snr, data, len, rfl, ha, rfl⟩ hco
    · exact .refl
  | keyOnClick => exact control_keyOnClick
  | keyOffClick => exact control_keyOffClick rfl
  | keyOnLongHold => exact control_keyOnLongHold
  | keyOnLongFree => exact .refl
  | keyOffLongHold => exact control_keyOffLongHold
  | keyOffLongFree => exact .refl
  | modbusCoils reg usAddress usNCoils =>
    refine control_click (fun _ => Event.handle_click) fun hno => ?_
    exact @Event.handle_write s _ reg reg usAddress usNCoils usAddress usNCoils (Or.inl rfl) hno
  | modbusHolding reg usAddress usNRegs =>
    refine control_click (fun _ => Event.handle_click) fun hno => ?_
    exact @Event.handle_write s _ reg reg usAddress usNRegs usAddress usNRegs (Or.inr rfl) hno
  | dryContact level => exact control_dryContact level
  | rtcValveCheck =>
    change ControlPath s .rtcValveCheck s.unit.core.controls (valveCheckStart s.unit.env.fullyOpen s.unit.core).controls
    rw [checkStart_controls]
  | rtcDeviceHeartCheck => exact control_deviceHeartCheck rfl
  | rtcGatewayHeartCheck =>
    change ControlPath s .rtcGatewayHeartCheck s.unit.core.controls (gatewayHeartCheck s.unit).core.controls
    unfold gatewayHeartCheck
    split
    · exact .refl
    · split <;> exact .refl
  | heartConnectStart =>
    change ControlPath s .heartConnectStart s.unit.core.controls (gatewayConnectStart s.unit).core.controls
    rw [(gatewayConnectStart_core _).1]
  | heartUpload =>
    change ControlPath s .heartUpload s.unit.core.controls (heartThreadUpload s.unit).core.controls
    unfold heartThreadUpload
    split
    · exact (congrArg (ControlPath s .heartUpload s.unit.core.controls)
        (congrArg Core.controls (gatewayUpload_core ..))).mpr .refl
    · exact .refl
  | rfAckInit => exact .refl
  | timer t => exact control_timer t rfl
  | reboot => exact control_boot _ _

theorem control_next {cfg : Config} {s s' : State} {i : Env × Event} (hco : s.unit.core.controls.Coherent)
    (hn : (system cfg).next s i = some s') :
    ControlPath (s.onUnit (MainUnit.begin i.1)) i.2 s.unit.core.controls s'.unit.core.controls := by
  obtain ⟨_, rfl⟩ := system_next_eq_some.1 hn
  exact @control_handle i.2 (s.onUnit (MainUnit.begin i.1)) hco

end Aqualarm
