import Aqualarm.ControlSteps

/-
  The valve against the status and the checks, over whole runs.

  What is proved:
    1. `status_agrees_iff` — `ValveOpen` and `ValveClose` show the position the
       valve is in, exactly where no command closes it under `ValveOpen` while
       `valve_valid` is 0: `valve_close` then leaves early and `DeviceStatus`
       stays.
    2. `recoverable` — a refused valve is open or under check, where no event
       closes it with no check under way and no last stage fails over a shut
       one. What is neither can be opened and checked no more.
-/

namespace Aqualarm

open Lib Relation

/-! The status and the valve. -/

structure StatusAgrees (v : Controls) : Prop where
  opened : v.deviceStatus = .valveOpen → v.valveStatus = .valveStatusOpen
  closed : v.deviceStatus = .valveClose → v.valveStatus = .valveStatusClose

instance : DecidablePred StatusAgrees := fun v =>
  decidable_of_iff ((v.deviceStatus = .valveOpen → v.valveStatus = .valveStatusOpen) ∧
      (v.deviceStatus = .valveClose → v.valveStatus = .valveStatusClose))
    ⟨fun h => ⟨h.1, h.2⟩, fun h => ⟨h.opened, h.closed⟩⟩

/-- A command closes a valve that shows as open and does not count as good. -/
structure ClosesUnnoticed (s : State) (e : Event) : Prop where
  command : CloseCommand s e
  shown : s.unit.core.deviceStatus = .valveOpen
  refused : s.unit.core.valveValid = false

section
variable {s₀ : State} {e : Event} {v v' : Controls}

theorem StatusAgrees.of_other (ho : v.deviceStatus ≠ .valveOpen) (hc : v.deviceStatus ≠ .valveClose) : StatusAgrees v :=
  ⟨fun h => absurd h ho, fun h => absurd h hc⟩

theorem cleared_agrees (v : Controls) : StatusAgrees v.cleared := by
  constructor <;> intro h
  · cases hv : v.valveStatus with
    | valveStatusOpen => exact hv
    | valveStatusClose =>
      have h : v.valveStatus.toDeviceStatus = .valveOpen := h
      rw [hv] at h
      cases h
  · cases hv : v.valveStatus with
    | valveStatusClose => exact hv
    | valveStatusOpen =>
      have h : v.valveStatus.toDeviceStatus = .valveClose := h
      rw [hv] at h
      cases h

theorem Warning.status_ne_valve (w : Warning) : w.status ≠ .valveOpen ∧ w.status ≠ .valveClose := by
  cases w <;> decide

theorem ControlStep.agrees (hok : ¬ ClosesUnnoticed s₀ e) (h : ControlStep s₀ e v v') (hi : StatusAgrees v) :
    StatusAgrees v' := by
  cases h with
  | relocked _ h | window _ h | checked _ _ h =>
    rw [h]
    exact ⟨hi.opened, hi.closed⟩
  | opened h =>
    rw [h]
    unfold Controls.opened
    split
    · exact hi
    · exact ⟨fun _ => rfl, fun hc => absurd hc (by exact (by decide : DeviceStatus.valveOpen ≠ .valveClose))⟩
  | closed hc hs hv h =>
    rw [h]
    unfold Controls.closed
    split
    · rename_i hrefused
      -- the status is left as it is
      refine ⟨fun ho => absurd ⟨hc, ?_, ?_⟩ hok, fun _ => rfl⟩
      · exact hs.symm.trans ho
      · exact hv.symm.trans hrefused
    · exact ⟨fun ho => absurd ho (by exact (by decide : DeviceStatus.valveClose ≠ .valveOpen)), fun _ => rfl⟩
  | cleared h =>
    rw [h]
    exact cleared_agrees v
  | warned w _ _ hs =>
    refine .of_other ?_ ?_ <;> rw [hs]
    · exact w.status_ne_valve.1
    · exact w.status_ne_valve.2
  | learnStarted h =>
    rw [h]
    exact .of_other (by exact (by decide : DeviceStatus.learnDevice ≠ .valveOpen))
      (by exact (by decide : DeviceStatus.learnDevice ≠ .valveClose))
  | booted hd hv =>
    refine ⟨fun ho => ?_, fun _ => hv⟩
    rcases hd with h | h <;> exact absurd (h.symm.trans ho) (by decide)

end

/-- The event leaves `ValveOpen` over a shut valve. -/
structure Mismatched (v : Controls) : Prop where
  shown : v.deviceStatus = .valveOpen
  shut : v.valveStatus = .valveStatusClose

theorem Mismatched.not_agrees {v : Controls} (h : Mismatched v) : ¬ StatusAgrees v := fun hi =>
  absurd ((hi.opened h.shown).symm.trans h.shut) (by decide)

section
variable {v : Controls}

theorem closed_mismatched (hs : v.deviceStatus = .valveOpen) (hv : v.valveValid = false) : Mismatched v.closed := by
  rw [Controls.closed, if_pos hv]
  exact ⟨hs, rfl⟩

theorem closeIdle_mismatched (hs : v.deviceStatus = .valveOpen) (hv : v.valveValid = false) : Mismatched v.closeIdle := by
  rw [Controls.closeIdle, if_pos (by rw [hs]; decide)]
  exact closed_mismatched hs hv

theorem lockIdle_mismatched (hs : v.deviceStatus = .valveOpen) (hv : v.valveValid = false) : Mismatched v.lockIdle := by
  rw [Controls.lockIdle, if_pos (by rw [hs]; decide)]
  exact @closed_mismatched v.locked hs hv

theorem plan_mismatched {rx : RxFrame} {u : MainUnit} (h : rx.ClosesValve u) (hs : v.deviceStatus = .valveOpen)
    (hv : v.valveValid = false) (leak lost : Bool) : Mismatched ((rx.plan u).f leak lost v) := by
  rcases h.plan (by rw [hs]; decide) leak lost with hplan | hplan <;> rw [hplan]
  · exact closeIdle_mismatched hs hv
  · exact lockIdle_mismatched hs hv

end

theorem closesUnnoticed_mismatched {s : State} {e : Event} (h : ClosesUnnoticed s e) :
    Mismatched (e.handle s).unit.core.controls := by
  obtain ⟨hc, hs, hv⟩ := h
  cases hc with
  | @frame rx hf h hi =>
    rw [hf.handle]
    obtain ⟨u₁, hruns, _, hcontrols⟩ := h.run.run
    have hplan := @plan_mismatched s.unit.core.controls rx s.unit h hs hv
      (aqDeviceWaterleakFind (s.unit.after (rx.plan s.unit).ops).storage)
      (aqDeviceWirelostFind (s.unit.after (rx.plan s.unit).ops).storage)
    rw [← hruns.controls] at hplan
    rw [hcontrols]
    split
    · rwa [Controls.heard_of_ne (by rw [hplan.shown]; decide)]
    · exact hplan
  | click hclick =>
    have hkey : keyOffClickHandle s.unit = closeAndReport s.unit := by
      unfold keyOffClickHandle
      rw [hs]
    rw [Event.handle_click hclick, if_neg (by decide), hkey, closeAndReport_controls]
    exact closed_mismatched hs hv
  | dryContact he hl hi =>
    subst he
    have hdry : (dryContactPollingTimerCallback .pinHigh s).unit = closeAndReport s.unit := by
      rw [dryContactPollingTimerCallback, if_pos hl]
      exact if_pos hi
    change Mismatched (dryContactPollingTimerCallback .pinHigh s).unit.core.controls
    rw [hdry, closeAndReport_controls]
    exact closed_mismatched hs hv
  | delayed he hi =>
    subst he
    change Mismatched (valveDelayCloseTimerCallback (Timer.valveDelayClose.disarm s.unit)).core.controls
    rw [valveDelayCloseTimerCallback, if_pos (show (Timer.valveDelayClose.disarm s.unit).core.deviceStatus.Idle from hi),
      show (gatewayControlMasterControl 0 _).core = _ from gatewayUpload_core .., MainUnit.onCore_core,
      valveClose_controls, valveLock_controls]
    exact @closed_mismatched s.unit.core.controls.locked hs hv

/-- **Status and valve agree, exactly.** -/
theorem status_agrees_iff (cfg : Config) (env : Env) (flash : Flash) (download : Nat → UInt8)
    (is : List (Env × Event)) :
    (system cfg).Always (fun s => StatusAgrees s.unit.core.controls) (powerOn cfg env flash download) is ↔
      (system cfg).Steps (fun s i _ => ¬ ClosesUnnoticed (s.onUnit (MainUnit.begin i.1)) i.2)
        (powerOn cfg env flash download) is := by
  refine @Machine.always_iff_steps _ _ (system cfg)
    (fun s => (system cfg).Reachable s ∧ StatusAgrees s.unit.core.controls) (fun s => StatusAgrees s.unit.core.controls)
    (fun s i => ¬ ClosesUnnoticed (s.onUnit (MainUnit.begin i.1)) i.2) _ ?_ (fun _ h => h.2) ?_ ?_ is
  · refine ⟨Machine.reachable_start ⟨env, flash, download, rfl⟩, ?_⟩
    obtain ⟨hv, _, hd⟩ := boot_spec ({ cfg, env, storage := { flash, writeOk := env.efSetEnvBlob } } : MainUnit)
    refine ⟨fun ho => ?_, fun _ => hv⟩
    rcases hd with h | h
    · exact absurd (h.2.1.symm.trans ho) (by decide)
    · exact absurd (h.1.symm.trans ho) (by decide)
  · rintro s i s' ⟨hs, hi⟩ hok hn
    exact ⟨hs.step hn, closed_of_path (fun _ _ h => h.agrees hok) (control_next (reachable_coherent hs) hn) hi⟩
  · rintro s i s' _ hbad hn
    obtain ⟨_, rfl⟩ := system_next_eq_some.1 hn
    exact (closesUnnoticed_mismatched (not_not.1 hbad)).not_agrees

/-- The left side fails its check; the learn timer, armed by an enrolment, ends
the warning; and the key closes the valve. -/
theorem status_agrees_fails :
    ¬ ∀ (cfg : Config) (env : Env) (flash : Flash) (download : Nat → UInt8) (is : List (Env × Event)),
      (system cfg).Always (fun s => StatusAgrees s.unit.core.controls) (powerOn cfg env flash download) is := by
  intro h
  refine Machine.not_always_of_run (M := system sampleConfig) sampleStart
    [(sampleEnv, .keyOnClick), (sampleEnv, .rtcValveCheck), (sampleEnv, .timer (.turnBack .left)),
      (sampleEnv, sampleFrame deviceTypeEndunit 7 [learnDeviceCmd, 1, 1]), (sampleEnv, .timer .radioLearn),
      (sampleEnv, .keyOffClick)] ?_ (h _ _ _ _ _)
  decide +kernel

/-! A refused valve. -/

/-- Where `valve_valid` is 0, the valve is open, so that a check can start, or
one is under way. -/
def Recoverable (u : MainUnit) : Prop :=
  u.core.valveValid = false → u.core.valveStatus = .valveStatusOpen ∨ ∃ side, (u.core.check.side side).running

instance : DecidablePred Recoverable := fun u =>
  have : Decidable (∃ side, (u.core.check.side side).running) :=
    decidable_of_iff (((u.core.check.side .left).turnBackTimer = true ∨ (u.core.check.side .left).turnCheckTimer = true) ∨
        (u.core.check.side .right).turnBackTimer = true ∨ (u.core.check.side .right).turnCheckTimer = true)
      ⟨fun h => h.elim (fun h => ⟨.left, h⟩) fun h => ⟨.right, h⟩, fun ⟨side, h⟩ =>
        match side with | .left => Or.inl h | .right => Or.inr h⟩
  inferInstanceAs (Decidable (_ → _))

/-- The event closes a refused valve with no check under way, or is the end of
the last stage under way, over a shut valve, and the valve does not pass. -/
inductive TrapsValve (s : State) (e : Event) : Prop
  | closes (h : CloseCommand s e ∨ ∃ w : Warning, Raises s.unit e w ∧ w.Closes ∧ s.unit.core.nowEvent.priority ≤ w.priority)
      (hv : s.unit.core.valveValid = false) (hidle : ∀ side, ¬ (s.unit.core.check.side side).running)
  | fails (side : Side) (hshut : s.unit.core.valveStatus = .valveStatusClose)
      (hother : ¬ (s.unit.core.check.side side.other).running)
      (h : e = .timer (.turnBack side) ∧ s.unit.env.fullyOpen side ≠ .pinHigh ∨
        e = .timer (.turnCheck side) ∧
          (s.unit.env.fullyOpen side ≠ .pinLow ∨ (s.unit.core.check.side side.other).checkResult = true))

/-- A refused valve with a check under way stays so, but for a reset. -/
theorem running_kept {cfg : Config} {s s' : State} {i : Env × Event} (hn : (system cfg).next s i = some s')
    (hstage : ¬ i.2.EndsStage) (hv' : s'.unit.core.valveValid = false) :
    s.unit.core.valveValid = false ∧
      ((∃ side, (s.unit.core.check.side side).running) → ∃ side, (s'.unit.core.check.side side).running) := by
  have hkept : s'.unit.core.check.valveValid = true ∨ s.unit.core.valveValid = false ∧
      s'.unit.core.check.valveValid = false ∧
        ((∃ side, (s.unit.core.check.side side).running) → ∃ side, (s'.unit.core.check.side side).running) := by
    refine next_keeps (P := fun u => u.core.check.valveValid = true ∨ s.unit.core.valveValid = false ∧
      u.core.check.valveValid = false ∧
        ((∃ side, (s.unit.core.check.side side).running) → ∃ side, (u.core.check.side side).running))
      (fun h => h) (fun u u' he hp => ?_) hn ?_
    · obtain h | ⟨_, h⟩ := he.check hstage
      · rw [h.valveValid]
        refine hp.imp id fun ⟨hv, hu, hr⟩ => ⟨hv, hu, fun hrun => ?_⟩
        obtain ⟨side, hside⟩ := hr hrun
        cases h with
        | halted h =>
          obtain h | ⟨hvalid, _⟩ := h
          · exact ⟨side, h ▸ hside⟩
          · exact absurd (hvalid.symm.trans hu) (by decide)
        | started restart _ h =>
          refine ⟨side, ?_⟩
          rw [h]
          change SideCheck.running (if restart side then _ else _)
          split
          · exact Or.inl rfl
          · exact hside
      · exact Or.inl (congrArg CheckView.valveValid h)
    · cases hv : s.unit.core.valveValid with
      | true => exact Or.inl hv
      | false => exact Or.inr ⟨rfl, hv, id⟩
  obtain h | ⟨hv, _, hr⟩ := hkept
  · exact absurd (h.symm.trans hv') (by decide)
  · exact ⟨hv, hr⟩

/-- An open, refused valve is only shut by a closing, or by a reset. -/
theorem ControlStep.open_kept {s₀ : State} {e : Event} {v v' : Controls} (hstage : ¬ e.EndsStage)
    (hok : s₀.unit.core.valveValid = false → ¬ (CloseCommand s₀ e ∨
      ∃ w : Warning, Raises s₀.unit e w ∧ w.Closes ∧ s₀.unit.core.nowEvent.priority ≤ w.priority))
    (hv : s₀.unit.core.valveValid = false) (h : ControlStep s₀ e v v')
    (hi : v.valveStatus = .valveStatusOpen ∨ v.valveValid = true) :
    v'.valveStatus = .valveStatusOpen ∨ v'.valveValid = true := by
  cases h with
  | relocked _ h | window _ h | learnStarted h | cleared h =>
    rw [h]
    exact hi
  | opened h =>
    rw [h]
    unfold Controls.opened
    split
    · exact hi
    · exact Or.inl rfl
  | closed hc => exact absurd (Or.inl hc) (hok hv)
  | warned w hr hp _ hvalid hc =>
    rcases hc with hc | ⟨hcloses, _⟩
    · rwa [hc, hvalid]
    · exact absurd (Or.inr ⟨w, hr, hcloses, hp⟩) (hok hv)
  | checked he => exact absurd he hstage
  | booted _ _ hvalid => exact Or.inr hvalid

theorem valveFail_valveStatus (side : Side) (u : MainUnit) :
    (warningEnable side.failEvent u).core.valveStatus = u.core.valveStatus := by
  have h := congrArg Controls.valveStatus (valveFail_controls side u)
  rw [Controls.warned] at h
  split at h <;> exact h

theorem turnBack_valveStatus (side : Side) (u : MainUnit) :
    (turnBackTimerCallback side u).core.valveStatus = u.core.valveStatus := by
  unfold turnBackTimerCallback
  split
  · rfl
  · exact valveFail_valveStatus side _

theorem turnCheck_valveStatus (side : Side) (u : MainUnit) :
    (turnCheckTimerCallback side u).core.valveStatus = u.core.valveStatus := by
  have hclear : ∀ c : Core, (valvefailWarningDisable c).valveStatus = c.valveStatus := by
    intro c
    obtain h | ⟨h, _⟩ := valvefailWarningDisable_cases c <;> rw [h]
    rfl
  by_cases hp : u.env.fullyOpen side = .pinLow
  · rw [turnCheck_passed hp, Core.setMotor_valveStatus]
    split
    · exact hclear _
    · rfl
  · rw [turnCheck_failed hp]
    exact valveFail_valveStatus side _

/-- The end of a stage leaves the valve where it is. -/
theorem stage_valveStatus {cfg : Config} {s s' : State} {i : Env × Event} (hn : (system cfg).next s i = some s')
    (hstage : i.2.EndsStage) : s'.unit.core.valveStatus = s.unit.core.valveStatus := by
  obtain ⟨_, rfl⟩ := system_next_eq_some.1 hn
  obtain ⟨env, e⟩ := i
  obtain ⟨side, he | he⟩ := hstage
  · obtain rfl : e = .timer (.turnBack side) := he
    exact turnBack_valveStatus side _
  · obtain rfl : e = .timer (.turnCheck side) := he
    exact turnCheck_valveStatus side _

/-- A stage that ends leaves a running check, or a shut valve is trapped. -/
theorem stage_recoverable {cfg : Config} {s s' : State} {i : Env × Event} (hn : (system cfg).next s i = some s')
    (hstage : i.2.EndsStage) (hok : ¬ TrapsValve (s.onUnit (MainUnit.begin i.1)) i.2) : Recoverable s'.unit := by
  intro hv'
  replace hv' : s'.unit.core.check.valveValid = false := hv'
  rw [stage_valveStatus hn hstage]
  refine or_iff_not_imp_left.2 fun hopen => ?_
  have hshut : s.unit.core.valveStatus = .valveStatusClose := by
    cases h : s.unit.core.valveStatus with
    | valveStatusOpen => exact absurd h hopen
    | valveStatusClose => rfl
  obtain ⟨env, e⟩ := i
  -- the other side's check goes on
  have hother : ∀ side : Side, (s.unit.core.check.side side.other).running →
      s'.unit.core.check.side side.other = s.unit.core.check.side side.other →
      ∃ side, (s'.unit.core.check.side side).running := fun side hr h => ⟨side.other, h ▸ hr⟩
  obtain ⟨side, he | he⟩ := hstage
  · obtain rfl : e = .timer (.turnBack side) := he
    have hcheck := ((stage_check hn).1 rfl).2
    by_cases hp : env.fullyOpen side = .pinHigh
    · refine ⟨side, ?_⟩
      rw [hcheck, decide_eq_true hp, CheckView.turnedBack, if_pos rfl, CheckView.put_same]
      exact Or.inr rfl
    · refine hother side ?_ ?_
      · by_contra hr
        exact hok (.fails side hshut hr (Or.inl ⟨rfl, hp⟩))
      · rw [hcheck, decide_eq_false hp]
        exact CheckView.put_of_ne (other_ne side)
  · obtain rfl : e = .timer (.turnCheck side) := he
    have hcheck := ((stage_check hn).2 rfl).2
    by_cases hp : env.fullyOpen side = .pinLow
    · rw [hcheck, decide_eq_true hp] at hv'
      have hresult : (s.unit.core.check.side side.other).checkResult = true := by
        by_contra ho
        exact absurd ((if_pos (Bool.eq_false_of_not_eq_true ho)).symm.trans hv') (by decide)
      refine hother side ?_ ?_
      · by_contra hr
        exact hok (.fails side hshut hr (Or.inr ⟨rfl, Or.inr hresult⟩))
      · rw [hcheck, decide_eq_true hp]
        exact CheckView.put_of_ne (other_ne side)
    · refine hother side ?_ ?_
      · by_contra hr
        exact hok (.fails side hshut hr (Or.inr ⟨rfl, Or.inl hp⟩))
      · rw [hcheck, decide_eq_false hp]
        exact CheckView.put_of_ne (other_ne side)

theorem recoverable_step {cfg : Config} {s s' : State} {i : Env × Event} (hs : (system cfg).Reachable s)
    (hi : Recoverable s.unit) (hok : ¬ TrapsValve (s.onUnit (MainUnit.begin i.1)) i.2)
    (hn : (system cfg).next s i = some s') : Recoverable s'.unit := by
  by_cases hstage : i.2.EndsStage
  · exact stage_recoverable hn hstage hok
  · intro hv'
    obtain ⟨hv, hrun⟩ := running_kept hn hstage hv'
    rcases Classical.em (∃ side, (s.unit.core.check.side side).running) with hr | hr
    · exact Or.inr (hrun hr)
    · have hopen : s.unit.core.valveStatus = .valveStatusOpen := (hi hv).resolve_right hr
      have hkept := closed_of_path
        (P := fun v : Controls => v.valveStatus = .valveStatusOpen ∨ v.valveValid = true)
        (fun _ _ h => h.open_kept hstage (fun hv hc => hok (.closes hc hv fun side h => hr ⟨side, h⟩)) hv)
        (control_next (reachable_coherent hs) hn) (Or.inl hopen)
      rcases hkept with h | h
      · exact Or.inl h
      · exact absurd (h.symm.trans hv') (by decide)

/-- **A failed check leaves a way back**, in every run with no such event. -/
theorem recoverable (cfg : Config) (env : Env) (flash : Flash) (download : Nat → UInt8) (is : List (Env × Event))
    (hok : (system cfg).Steps (fun s i _ => ¬ TrapsValve (s.onUnit (MainUnit.begin i.1)) i.2)
      (powerOn cfg env flash download) is) :
    (system cfg).Always (fun s => Recoverable s.unit) (powerOn cfg env flash download) is := by
  have hinv : (system cfg).Always (fun s => (system cfg).Reachable s ∧ Recoverable s.unit)
      (powerOn cfg env flash download) is := by
    refine @Machine.always_of_steps _ _ (system cfg) (fun s => (system cfg).Reachable s ∧ Recoverable s.unit) _ _
      ⟨Machine.reachable_start ⟨env, flash, download, rfl⟩, fun hv => ?_⟩ ?_ _ hok
    · have hboot := congrArg CheckView.valveValid
        (boot_check ({ cfg, env, storage := { flash, writeOk := env.efSetEnvBlob } } : MainUnit))
      have hvalid : (powerOn cfg env flash download).unit.core.valveValid = true := hboot
      exact absurd (hvalid.symm.trans hv) (by decide)
    · rintro s i s' ⟨hs, hi⟩ hok hn
      exact ⟨hs.step hn, recoverable_step hs hi hok hn⟩
  exact hinv.mono fun _ h => h.2

/-- Over a valve that counts as good and is open, or in a step that ends no
stage, nothing is trapped. -/
theorem not_trapsValve {s : State} {e : Event} (hv : s.unit.core.valveValid = true)
    (h : s.unit.core.valveStatus = .valveStatusOpen ∨ e.click s ≠ none) : ¬ TrapsValve s e := by
  rintro (⟨_, hrefused⟩ | ⟨side, hshut, _, hstage⟩)
  · exact absurd (hv.symm.trans hrefused) (by decide)
  · rcases h with h | h
    · exact absurd (h.symm.trans hshut) (by decide)
    · rcases hstage with ⟨rfl, _⟩ | ⟨rfl, _⟩ <;> exact h rfl

/-- The left side fails its first stage: the valve stays open. -/
theorem recoverable_sample :
    (system sampleConfig).Always (fun s => Recoverable s.unit) sampleStart
      [(sampleEnv, .keyOnClick), (sampleEnv, .rtcValveCheck), (sampleEnv, .timer (.turnBack .left))] := by
  refine recoverable _ _ _ _ _ ?_
  refine Machine.steps_cons rfl (not_trapsValve (by decide +kernel) (Or.inr (by decide +kernel))) ?_
  refine Machine.steps_cons rfl (not_trapsValve (by decide +kernel) (Or.inl (by decide +kernel))) ?_
  exact Machine.steps_cons rfl (not_trapsValve (by decide +kernel) (Or.inl (by decide +kernel))) Machine.steps_nil

/-- Both sides fail their check, and a leak closes the valve. -/
theorem recoverable_fails :
    ¬ ∀ (cfg : Config) (env : Env) (flash : Flash) (download : Nat → UInt8) (is : List (Env × Event)),
      (system cfg).Always (fun s => Recoverable s.unit) (powerOn cfg env flash download) is := by
  intro h
  refine Machine.not_always_of_run (M := system sampleConfig) sampleStart
    [(sampleEnv, .keyOnClick), (sampleEnv, .rtcValveCheck), (sampleEnv, .timer (.turnBack .left)),
      (sampleEnv, .timer (.turnBack .right)), (sampleEnv, sampleFrame deviceTypeEndunit 7 [learnDeviceCmd, 1, 1]),
      (sampleEnv, sampleFrame deviceTypeEndunit 7 [warningUploadCmd, 2, 0, 1])] ?_ (h _ _ _ _ _)
  decide +kernel

end Aqualarm
