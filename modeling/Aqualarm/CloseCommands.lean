import Aqualarm.ValveRuns

/-
  The ways to close the valve, against each other and against the clock.

  What is proved:
    1. `close_commands_iff` — in a status in which commands are taken, every
       close command leaves the valve shut but the off key (or its Modbus write)
       while `SlaverSensorLost` shows over an open valve.
    2. `scheduled_close` — the delayed close shuts the valve in such a status,
       and in any other it is dropped.
-/

namespace Aqualarm

open Lib

/-- A command to close the valve, given to `s` by `e`. -/
inductive CloseRequest (s : State) (e : Event) : Prop
  | click (h : e.click s = some false)
  | frame {rx : RxFrame} (hf : e.Frame s.unit rx) (h : rx.ClosesValve s.unit)
  | dryContact (he : e = .dryContact .pinHigh) (hl : s.dry.dryContactValveInputLevel ≠ some .pinHigh)

/-- The off key, or a Modbus write that stands for it, while a lost sensor shows
over an open valve. -/
structure OffWhileLost (s : State) (e : Event) : Prop where
  click : e.click s = some false
  shown : s.unit.core.deviceStatus = .slaverSensorLost
  opened : s.unit.core.valveStatus = .valveStatusOpen

/-! What shows as shut is shut. -/

/-- `ValveClose` does not show over an open valve. -/
def ShutShown (v : Controls) : Prop := v.deviceStatus = .valveClose → v.valveStatus = .valveStatusClose

section
variable {s₀ : State} {e : Event} {v v' : Controls}

theorem ControlStep.shutShown (h : ControlStep s₀ e v v') (hi : ShutShown v) : ShutShown v' := by
  cases h with
  | relocked value h | window allow h | checked _ valid h =>
    subst h
    exact hi
  | opened h =>
    subst h
    unfold Controls.opened
    split
    · exact hi
    · intro hd
      cases hd
  | closed _ _ _ h =>
    subst h
    exact fun _ => closed_valveStatus v
  | cleared h =>
    subst h
    exact (cleared_agrees v).closed
  | warned w _ _ hs =>
    intro hd
    exact absurd (hs.symm.trans hd) w.status_ne_valve.2
  | learnStarted h =>
    subst h
    intro hd
    cases hd
  | booted _ hv => exact fun _ => hv

theorem reachable_shutShown {cfg : Config} {s : State} (hs : (system cfg).Reachable s) :
    ShutShown s.unit.core.controls := by
  have hboth : (system cfg).Reachable s ∧ ShutShown s.unit.core.controls := by
    refine @Machine.reachable_inv _ _ (system cfg)
      (fun s => (system cfg).Reachable s ∧ ShutShown s.unit.core.controls) ?_ ?_ s hs
    · rintro s ⟨env, flash, download, rfl⟩
      refine ⟨Machine.reachable_start ⟨env, flash, download, rfl⟩, fun _ => ?_⟩
      exact (boot_spec ({ cfg, env, storage := { flash, writeOk := env.efSetEnvBlob } } : MainUnit)).1
    · rintro s i s' ⟨hs, hi⟩ hn
      exact ⟨hs.step hn, closed_of_path (fun _ _ h => h.shutShown) (control_next (reachable_coherent hs) hn) hi⟩
  exact hboth.2

end

/-! The commands. -/

section
variable {v : Controls}

theorem heard_valveStatus (offline : Bool) (v : Controls) : (v.heard offline).valveStatus = v.valveStatus := by
  unfold Controls.heard Controls.ended
  split
  · split <;> rfl
  · rfl

theorem closeIdle_shut (hi : v.deviceStatus.Idle) : v.closeIdle.valveStatus = .valveStatusClose := by
  rw [Controls.closeIdle, if_pos hi]
  exact closed_valveStatus v

theorem lockIdle_shut (hi : v.deviceStatus.Idle) : v.lockIdle.valveStatus = .valveStatusClose := by
  rw [Controls.lockIdle, if_pos hi]
  exact closed_valveStatus v.locked

/-- Whichever device sends it, a close command closes. -/
theorem plan_shut {rx : RxFrame} {u : MainUnit} (h : rx.ClosesValve u) (hi : v.deviceStatus.Idle) (leak lost : Bool) :
    ((rx.plan u).f leak lost v).valveStatus = .valveStatusClose := by
  have hleak : v.deviceStatus ≠ .slaverSensorLeak := by
    intro hs
    rw [hs] at hi
    exact absurd hi (by decide)
  rcases h.plan hleak leak lost with hplan | hplan <;> rw [hplan]
  · exact closeIdle_shut hi
  · exact lockIdle_shut hi

end

section
variable {s : State} {e : Event}

theorem frame_shut {rx : RxFrame} (h : rx.ClosesValve s.unit) (hi : s.unit.core.deviceStatus.Idle) :
    (radioFrameDispatch rx s).unit.core.valveStatus = .valveStatusClose := by
  obtain ⟨u₁, hruns, _, hcontrols⟩ := h.run.run
  have hshut := @plan_shut s.unit.core.controls rx s.unit h hi
    (aqDeviceWaterleakFind (s.unit.after (rx.plan s.unit).ops).storage)
    (aqDeviceWirelostFind (s.unit.after (rx.plan s.unit).ops).storage)
  rw [← hruns.controls] at hshut
  change (radioFrameDispatch rx s).unit.core.controls.valveStatus = _
  rw [hcontrols]
  split
  · rw [heard_valveStatus]
    exact hshut
  · exact hshut

theorem closeAndReport_shut (u : MainUnit) : (closeAndReport u).core.valveStatus = .valveStatusClose := by
  change (closeAndReport u).core.controls.valveStatus = _
  rw [closeAndReport_controls]
  exact closed_valveStatus _

/-- The off key closes the valve, or it was shut, or a lost sensor shows. -/
theorem keyOffClick_shut_iff {u : MainUnit} (hi : u.core.deviceStatus.Idle) (hshown : ShutShown u.core.controls) :
    (keyOffClickHandle u).core.valveStatus = .valveStatusClose ↔
      ¬ (u.core.deviceStatus = .slaverSensorLost ∧ u.core.valveStatus = .valveStatusOpen) := by
  rcases hi with hd | hd | hd
  · have hkey : keyOffClickHandle u = u := by
      unfold keyOffClickHandle
      rw [hd]
    rw [hkey]
    refine iff_of_true (hshown hd) fun h => ?_
    exact absurd (hd.symm.trans h.1) (by decide)
  · have hkey : keyOffClickHandle u = closeAndReport u := by
      unfold keyOffClickHandle
      rw [hd]
    rw [hkey]
    refine iff_of_true (closeAndReport_shut u) fun h => ?_
    exact absurd (hd.symm.trans h.1) (by decide)
  · have hkey : keyOffClickHandle u = u := by
      unfold keyOffClickHandle
      rw [hd]
    rw [hkey]
    cases hv : u.core.valveStatus with
    | valveStatusClose => exact iff_of_true rfl fun h => absurd h.2 (by decide)
    | valveStatusOpen => exact iff_of_false (by decide) fun h => h ⟨hd, rfl⟩

theorem closeRequest_shut_iff (hc : CloseRequest s e) (hi : s.unit.core.deviceStatus.Idle)
    (hshown : ShutShown s.unit.core.controls) :
    (e.handle s).unit.core.valveStatus = .valveStatusClose ↔ ¬ OffWhileLost s e := by
  cases hc with
  | click hclick =>
    rw [Event.handle_click hclick, if_neg (by decide), keyOffClick_shut_iff hi hshown]
    exact not_congr ⟨fun h => ⟨hclick, h.1, h.2⟩, fun h => ⟨h.shown, h.opened⟩⟩
  | frame hf h =>
    rw [hf.handle]
    refine iff_of_true (frame_shut h hi) fun hoff => ?_
    obtain ⟨_, _, _, _, rfl, _⟩ := hf
    cases hoff.click
  | dryContact he hl =>
    subst he
    refine iff_of_true ?_ fun hoff => by cases hoff.click
    change (dryContactPollingTimerCallback .pinHigh s).unit.core.valveStatus = _
    have hdry : (dryContactPollingTimerCallback .pinHigh s).unit = closeAndReport s.unit := by
      rw [dryContactPollingTimerCallback, if_pos hl]
      exact if_pos hi
    rw [hdry]
    exact closeAndReport_shut _

end

/-- **All close commands agree**, but for the off key while a lost sensor shows
over an open valve. -/
theorem close_commands_iff (cfg : Config) (s : State) (hs : (system cfg).Reachable s)
    (hi : s.unit.core.deviceStatus.Idle) (env : Env) (e : Event) (s' : State)
    (hc : CloseRequest (s.onUnit (MainUnit.begin env)) e) (hn : (system cfg).next s (env, e) = some s') :
    s'.unit.core.valveStatus = .valveStatusClose ↔ ¬ OffWhileLost (s.onUnit (MainUnit.begin env)) e := by
  obtain ⟨_, rfl⟩ := system_next_eq_some.1 hn
  have hshown : ShutShown (s.onUnit (MainUnit.begin env)).unit.core.controls := @reachable_shutShown cfg s hs
  exact closeRequest_shut_iff hc hi hshown

/-- An end unit is added, the key opens the valve, and the end unit reports its
sensor lost. -/
def sampleLost : List (Env × Event) :=
  [(sampleEnv, sampleFrame deviceTypeEndunit 7 [learnDeviceCmd, 1, 1]), (sampleEnv, .keyOnClick),
    (sampleEnv, sampleFrame deviceTypeEndunit 7 [warningUploadCmd, 2, 1, 1])]

/-- The dry contact closes the valve in that state. -/
theorem close_commands_sample :
    ∃ s s', (system sampleConfig).Reachable s ∧ s.unit.core.deviceStatus = .slaverSensorLost ∧
      s.unit.core.valveStatus = .valveStatusOpen ∧
      (system sampleConfig).next s (sampleEnv, .dryContact .pinHigh) = some s' ∧
      s'.unit.core.valveStatus = .valveStatusClose := by
  obtain ⟨s, s', hr, hn, hp⟩ := @Machine.exists_step_of_run _ _ (system sampleConfig) sampleStart sampleLost
    (sampleEnv, .dryContact .pinHigh)
    (fun s _ => s.unit.core.deviceStatus = .slaverSensorLost ∧ s.unit.core.valveStatus = .valveStatusOpen ∧
      s.dry.dryContactValveInputLevel = none) (by decide +kernel)
  obtain ⟨hd, hv, hl⟩ := of_decide_eq_true hp
  have hs : (system sampleConfig).Reachable s := ⟨sampleStart, sampleLost, ⟨_, _, _, rfl⟩, hr⟩
  refine ⟨s, s', hs, hd, hv, hn, ?_⟩
  refine (close_commands_iff sampleConfig s hs (by rw [hd]; decide) sampleEnv (.dryContact .pinHigh) s'
    (.dryContact rfl ?_) hn).2 fun hoff => by cases hoff.click
  change s.dry.dryContactValveInputLevel ≠ _
  rw [hl]
  decide

/-- The off key does not. -/
theorem close_commands_fail :
    ¬ ∀ (cfg : Config) (s : State), (system cfg).Reachable s → s.unit.core.deviceStatus.Idle →
      ∀ (env : Env) (e : Event) (s' : State), CloseRequest (s.onUnit (MainUnit.begin env)) e →
        (system cfg).next s (env, e) = some s' → s'.unit.core.valveStatus = .valveStatusClose := by
  intro h
  obtain ⟨s, s', hr, hn, hp⟩ := @Machine.exists_step_of_run _ _ (system sampleConfig) sampleStart sampleLost
    (sampleEnv, .keyOffClick)
    (fun s s' => s.unit.core.deviceStatus = .slaverSensorLost ∧ s'.unit.core.valveStatus = .valveStatusOpen)
    (by decide +kernel)
  obtain ⟨hd, hv⟩ := of_decide_eq_true hp
  have hshut := h sampleConfig s ⟨sampleStart, sampleLost, ⟨_, _, _, rfl⟩, hr⟩ (by rw [hd]; decide) sampleEnv
    .keyOffClick s' (.click rfl) hn
  exact absurd (hv.symm.trans hshut) (by decide)

/-! The delayed close. -/

/-- **A scheduled close is carried out** in the statuses in which commands are
taken; in any other its time passes and nothing is done. -/
theorem scheduled_close (cfg : Config) (s : State) (env : Env) (s' : State)
    (hn : (system cfg).next s (env, .timer .valveDelayClose) = some s') :
    (s'.unit.core.valveStatus = .valveStatusClose ↔
      s.unit.core.deviceStatus.Idle ∨ s.unit.core.valveStatus = .valveStatusClose) ∧
    (¬ s.unit.core.deviceStatus.Idle →
      s' = (s.onUnit (MainUnit.begin env)).onUnit (Timer.valveDelayClose.disarm)) := by
  obtain ⟨_, hs'⟩ := system_next_eq_some.1 hn
  by_cases hi : s.unit.core.deviceStatus.Idle
  · refine ⟨iff_of_true ?_ (Or.inl hi), fun hno => absurd hi hno⟩
    rw [← hs']
    change (valveDelayCloseTimerCallback (Timer.valveDelayClose.disarm (s.unit.begin env))).core.valveStatus = _
    rw [valveDelayCloseTimerCallback,
      if_pos (show (Timer.valveDelayClose.disarm (s.unit.begin env)).core.deviceStatus.Idle from hi),
      show (gatewayControlMasterControl 0 _).core = _ from gatewayUpload_core .., MainUnit.onCore_core,
      valveClose_valveStatus]
  · have hsame : s' = (s.onUnit (MainUnit.begin env)).onUnit Timer.valveDelayClose.disarm := by
      rw [← hs']
      exact congrArg (fun u => { s.onUnit (MainUnit.begin env) with unit := u }) (if_neg hi)
    refine ⟨?_, fun _ => hsame⟩
    rw [hsame, or_iff_right hi]
    exact Iff.rfl

/-- A door unit schedules the close of the open valve. -/
def sampleScheduled : List (Env × Event) :=
  [(sampleEnv, sampleFrame deviceTypeEndunit 7 [learnDeviceCmd, 1, 1]),
    (sampleEnv, sampleFrame deviceTypeDoorunit 8 [learnDeviceCmd, 1, 1]), (sampleEnv, .keyOnClick),
    (sampleEnv, sampleFrame deviceTypeDoorunit 8 [controlValveCmd, 1, 2])]

/-- Nothing else happens until it is due. -/
theorem scheduled_close_sample :
    ∃ s s', (system sampleConfig).run sampleStart sampleScheduled = some s ∧
      s.unit.core.valveStatus = .valveStatusOpen ∧
      (system sampleConfig).next s (sampleEnv, .timer .valveDelayClose) = some s' ∧
      s'.unit.core.valveStatus = .valveStatusClose := by
  obtain ⟨s, s', hr, hn, hp⟩ := @Machine.exists_step_of_run _ _ (system sampleConfig) sampleStart sampleScheduled
    (sampleEnv, .timer .valveDelayClose)
    (fun s _ => s.unit.core.deviceStatus = .valveOpen ∧ s.unit.core.valveStatus = .valveStatusOpen)
    (by decide +kernel)
  obtain ⟨hd, hv⟩ := of_decide_eq_true hp
  exact ⟨s, s', hr, hv, hn, (scheduled_close sampleConfig s sampleEnv s' hn).1.2 (Or.inl (by rw [hd]; decide))⟩

/-- The end unit's battery runs low before: the close is dropped. -/
theorem scheduled_close_fails :
    ¬ ∀ (cfg : Config) (s : State), (system cfg).Reachable s → Timer.valveDelayClose.armed s.unit = true →
      ∀ (env : Env) (s' : State), (system cfg).next s (env, .timer .valveDelayClose) = some s' →
        s'.unit.core.valveStatus = .valveStatusClose := by
  intro h
  obtain ⟨s, s', hr, hn, hp⟩ := @Machine.exists_step_of_run _ _ (system sampleConfig) sampleStart
    (sampleScheduled ++ [(sampleEnv, sampleFrame deviceTypeEndunit 7 [heartUploadCmd, 2, 1, 0])])
    (sampleEnv, .timer .valveDelayClose)
    (fun s s' => Timer.valveDelayClose.armed s.unit = true ∧ s'.unit.core.valveStatus = .valveStatusOpen)
    (by decide +kernel)
  obtain ⟨ha, hv⟩ := of_decide_eq_true hp
  have hshut := h sampleConfig s ⟨sampleStart, _, ⟨_, _, _, rfl⟩, hr⟩ ha sampleEnv s' hn
  exact absurd (hv.symm.trans hshut) (by decide)

end Aqualarm
