import Aqualarm.TwiceEnrolled
import Aqualarm.Coherence

/-
  Frames received twice in immediate succession.

  What is proved:
    1. `endunitCommand_cleared` — which commands do something once the offline
       alarm is gone, and nothing while it shows.
    2. `plan_controls_iff` — when the second copy of a frame that neither adds
       nor deletes a device changes the alarm, the lock or the valve.
    3. `retransmission_harmless_iff` — when a frame received twice leaves what it
       leaves received once.

  The offline check runs behind the command of an end unit, so the first copy may
  clear the alarm the command was refused under. And the learn mode is toggled.
-/

namespace Aqualarm

open Lib

/-! Commands that wait for the offline alarm to end. -/

/-- The command does something once the offline alarm is gone. -/
def RxFrame.ActsIdle (rx : RxFrame) (c : Core) : Prop :=
  rx.rxData 0 = heartUploadCmd ∧ rx.rxData 2 = 1 ∨
  rx.rxData 0 = controlValveCmd ∧ (rx.rxData 2 = 0 ∧ c.lockStatus = 0 ∨
    rx.rxData 2 ≠ 0 ∧ (c.lockStatus = 1 ∨ c.valveValid = true)) ∨
  rx.rxData 0 = warningUploadCmd ∧ rx.rxData 2 = 1 ∧ rx.rxData 3 ≠ 0 ∨
  rx.rxData 0 = learnDeviceCmd ∧ rx.rxData 2 = 2

/-- The offline alarm shows, and hearing from the source ends it: no other end
unit is offline. -/
structure RxFrame.EndsOffline (rx : RxFrame) (u : MainUnit) : Prop where
  deviceType : rx.deviceType = deviceTypeEndunit
  fromListed : rx.FromListed u
  shown : u.core.deviceStatus = .slaverOffline
  others : ∀ d ∈ u.storage.deviceList, d.type = deviceTypeEndunit → d.online = 0 → d.deviceId = rx.sourceAddr

namespace Controls

/-- Two values that show. -/
def Differs (v v' : Controls) : Prop := v'.deviceStatus ≠ v.deviceStatus ∨ v'.lockStatus ≠ v.lockStatus

section
variable {v : Controls}

theorem cleared_idle (v : Controls) : v.cleared.deviceStatus.Idle := toDeviceStatus_idle v.valveStatus

theorem cleared_status (h : v.valveStatus = .valveStatusClose) : v.cleared.deviceStatus = .valveClose := by
  rw [cleared, h]
  rfl

theorem warned_low {w : Warning} {act : Controls → Controls} (h : w.priority < v.nowEvent.priority) :
    v.warned w act = v := if_neg (Nat.not_le.2 h)

theorem warned_cleared (w : Warning) (act : Controls → Controls) :
    (v.cleared.warned w act).deviceStatus = w.status := by
  rw [warned, if_pos (show v.cleared.nowEvent.priority ≤ w.priority from Nat.zero_le _)]
  rfl

theorem endunitHeart_cleared (hv : v.valveStatus = .valveStatusClose) (hp : v.nowEvent.priority = 5) (battery : UInt8) :
    (battery = 1 → endunitHeart battery v = v ∧ v.cleared.Differs (endunitHeart battery v.cleared)) ∧
      (battery ≠ 1 → (endunitHeart battery v).deviceStatus = .slaverOffline →
        endunitHeart battery v.cleared = v.cleared) := by
  unfold endunitHeart
  constructor
  · intro hb
    rw [if_pos hb, if_pos hb]
    refine ⟨warned_low (by rw [hp]; decide), Or.inl ?_⟩
    rw [warned_cleared, cleared_status hv]
    decide
  · intro hb hs
    rw [if_neg hb] at hs ⊢
    split at hs
    · -- an ultra low battery is shown at once
      rw [warned, if_pos (by rw [hp]; decide)] at hs
      exact absurd hs (by decide : DeviceStatus.slaverUltraLowPower ≠ .slaverOffline)
    · rename_i hb'
      rw [if_neg hb']

theorem openIdle_cleared (hv : v.valveStatus = .valveStatusClose) :
    (v.lockStatus = 1 ∨ v.valveValid = true → v.cleared.Differs v.cleared.openIdle) ∧
      (¬ (v.lockStatus = 1 ∨ v.valveValid = true) → v.cleared.openIdle = v.cleared) := by
  have hopen : v.cleared.openIdle = v.cleared.unlocked.opened := if_pos (cleared_idle v)
  have hlocked : v.cleared.lockStatus = v.lockStatus := rfl
  rw [hopen]
  constructor
  · intro h
    by_cases hl : v.lockStatus = 1
    · refine Or.inr ?_
      have hunlocked : v.cleared.unlocked.opened.lockStatus = 0 := by
        have : v.cleared.unlocked.lockStatus = 0 := by rw [unlocked]; exact if_pos hl
        unfold opened
        split <;> exact this
      rw [hunlocked, hlocked, hl]
      decide
    · have hvalid := h.resolve_left hl
      have hunlocked : v.cleared.unlocked = v.cleared := by
        rw [unlocked, if_neg (by rw [hlocked]; exact hl)]
      have hfree : ¬ (v.cleared.lockStatus = 1 ∨ v.cleared.valveValid = false) := by
        rintro (h₁ | h₀)
        · exact hl h₁
        · exact absurd (hvalid.symm.trans h₀) (by decide)
      refine Or.inl ?_
      rw [hunlocked, opened, if_neg hfree, cleared_status hv]
      exact (by decide : DeviceStatus.valveOpen ≠ .valveClose)
  · intro h
    have hl : v.lockStatus ≠ 1 := fun hl => h (Or.inl hl)
    have hvalid : v.valveValid = false := Bool.eq_false_of_not_eq_true fun hv => h (Or.inr hv)
    have hunlocked : v.cleared.unlocked = v.cleared := by
      rw [unlocked, if_neg (by rw [hlocked]; exact hl)]
    rw [hunlocked, opened, if_pos (show v.cleared.lockStatus = 1 ∨ v.cleared.valveValid = false from Or.inr hvalid)]

theorem lockIdle_cleared (hv : v.valveStatus = .valveStatusClose) :
    (v.lockStatus = 0 → v.cleared.Differs v.cleared.lockIdle) ∧
      (v.lockStatus ≠ 0 → v.cleared.lockIdle = v.cleared) := by
  constructor
  · intro hl
    refine Or.inr ?_
    have hlock : v.cleared.lockIdle.lockStatus = 1 := by
      have hlocked : v.cleared.locked.lockStatus = 1 := by rw [locked]; exact if_pos hl
      rw [lockIdle, if_pos (cleared_idle v), closed]
      split <;> exact hlocked
    rw [hlock]
    change (1 : UInt8) ≠ v.lockStatus
    rw [hl]
    decide
  · exact cleared_lockIdle v hv

theorem endunitValve_cleared (hs : v.deviceStatus = .slaverOffline) (hv : v.valveStatus = .valveStatusClose)
    (value : UInt8) (leak : Bool) :
    endunitValve value leak v = v ∧
      (value = 0 ∧ v.lockStatus = 0 ∨ value ≠ 0 ∧ (v.lockStatus = 1 ∨ v.valveValid = true) →
        v.cleared.Differs (endunitValve value leak v.cleared)) ∧
      (¬ (value = 0 ∧ v.lockStatus = 0 ∨ value ≠ 0 ∧ (v.lockStatus = 1 ∨ v.valveValid = true)) →
        endunitValve value leak v.cleared = v.cleared) := by
  have hidle : ¬ v.deviceStatus.Idle := fun h => h.ne_offline hs
  have hleak : v.cleared.deviceStatus ≠ .slaverSensorLeak :=
    DeviceStatus.Operable.ne_leak (Or.inl (toDeviceStatus_idle _))
  unfold endunitValve
  by_cases h₀ : value = 0
  · simp only [h₀, ne_eq, not_true_eq_false, if_false, hs, if_neg hleak, reduceCtorEq, true_and, false_and, or_false]
    exact ⟨if_neg hidle, (lockIdle_cleared hv).1, (lockIdle_cleared hv).2⟩
  · simp only [h₀, ne_eq, not_false_eq_true, if_true, false_and, true_and, false_or]
    exact ⟨if_neg hidle, (openIdle_cleared hv).1, (openIdle_cleared hv).2⟩

theorem endunitWarn_cleared (hv : v.valveStatus = .valveStatusClose)
    (hp : v.nowEvent.priority = 5) (sub value : UInt8) (leak lost : Bool) :
    (sub = 1 ∧ value ≠ 0 → endunitWarn sub value leak lost v = v ∧
        v.cleared.Differs (endunitWarn sub value leak lost v.cleared)) ∧
      (¬ (sub = 1 ∧ value ≠ 0) → (endunitWarn sub value leak lost v).deviceStatus = .slaverOffline →
        endunitWarn sub value leak lost v.cleared = v.cleared) := by
  have hleak : v.cleared.deviceStatus ≠ .slaverSensorLeak :=
    DeviceStatus.Operable.ne_leak (Or.inl (toDeviceStatus_idle _))
  have hlost : v.cleared.deviceStatus ≠ .slaverSensorLost := by
    rw [cleared_status hv]
    decide
  unfold endunitWarn
  constructor
  · rintro ⟨rfl, hvalue⟩
    rw [if_neg (by decide), if_pos rfl, if_pos hvalue, if_neg (by decide), if_pos rfl, if_pos hvalue]
    refine ⟨warned_low (by rw [hp]; decide), Or.inl ?_⟩
    rw [warned_cleared, cleared_status hv]
    decide
  · intro hno hoffline
    by_cases h₀ : sub = 0
    · rw [if_pos h₀] at hoffline ⊢
      by_cases hvalue : value ≠ 0
      · -- a leak is shown at once
        rw [if_pos hvalue, warned, if_pos (by rw [hp]; decide)] at hoffline
        exact absurd hoffline (by decide : DeviceStatus.slaverSensorLeak ≠ .slaverOffline)
      · rw [if_neg hvalue]
        exact if_neg hleak
    · rw [if_neg h₀]
      by_cases h₁ : sub = 1
      · rw [if_pos h₁, if_neg fun hvalue => hno ⟨h₁, hvalue⟩]
        exact if_neg hlost
      · rw [if_neg h₁]

theorem toggled_cleared (hs : v.deviceStatus = .slaverOffline) (hv : v.valveStatus = .valveStatusClose) :
    v.toggled = v ∧ v.cleared.Differs v.cleared.toggled := by
  refine ⟨toggled_other v (fun h => h.ne_offline hs) (by rw [hs]; decide), Or.inl ?_⟩
  rw [toggled, if_pos (cleared_idle v), cleared_status hv]
  exact (by decide : DeviceStatus.learnDevice ≠ .valveClose)

theorem toggled_ne_offline (h : v.deviceStatus ≠ .slaverOffline) : v.toggled.deviceStatus ≠ .slaverOffline := by
  unfold toggled
  split
  · exact (by decide : DeviceStatus.learnDevice ≠ .slaverOffline)
  · split
    · exact cleared_ne_offline _
    · exact h

theorem heard_of_found {offline : Bool} (h : ¬ (v.deviceStatus = .slaverOffline ∧ offline = false)) :
    v.heard offline = v := by
  unfold heard ended
  split
  · rename_i hs
    exact if_neg fun ho => h ⟨hs, ho⟩
  · rfl

/-- The toggle and the check, and both again. -/
theorem toggled_pair {offline : Bool} {v' v'' : Controls} (hv : v.deviceStatus = .slaverOffline → v.valveStatus = .valveStatusClose)
    (hfirst : v' = v.toggled.heard offline) (hsecond : v'' = v'.toggled.heard offline) :
    (v.deviceStatus.Idle ∨ v.deviceStatus = .learnDevice → v'.Differs v'') ∧
      (v.deviceStatus = .slaverOffline ∧ offline = false → v'.Differs v'') ∧
      (¬ (v.deviceStatus.Idle ∨ v.deviceStatus = .learnDevice) →
        ¬ (v.deviceStatus = .slaverOffline ∧ offline = false) → v'' = v') := by
  refine ⟨fun h => ?_, fun h => ?_, fun h hkeep => ?_⟩
  · have hne : v.deviceStatus ≠ .slaverOffline := by
      rcases h with hi | hl
      · exact hi.ne_offline
      · rw [hl]
        decide
    have hone : v' = v.toggled := by
      rw [hfirst, heard_of_ne (toggled_ne_offline hne)]
    have htwo : v'' = v.toggled.toggled := by
      rw [hsecond, hone, heard_of_ne (toggled_ne_offline (toggled_ne_offline hne))]
    rw [hone, htwo]
    exact Or.inl (toggled_again v h)
  · obtain ⟨hs, ho⟩ := h
    obtain ⟨hstays, hdiffers⟩ := toggled_cleared hs (hv hs)
    have hone : v' = v.cleared := by
      rw [hfirst, hstays]
      exact (if_pos hs).trans (if_pos ho)
    have htwo : v'' = v.cleared.toggled := by
      rw [hsecond, hone, heard_of_ne (toggled_ne_offline (cleared_ne_offline v))]
    rw [hone, htwo]
    exact hdiffers
  · have hstays : v.toggled = v := toggled_other v (fun hi => h (Or.inl hi)) fun hl => h (Or.inr hl)
    have hone : v' = v := by rw [hfirst, hstays, heard_of_found hkeep]
    rw [hsecond, hone, hstays, heard_of_found hkeep]

/-- A command and the check, and both again. -/
theorem Command.pair {f : Controls → Controls} (hf : Command f) (hco : v.Coherent) {acts : Prop}
    (hacts : v.deviceStatus = .slaverOffline → acts → f v = v ∧ v.cleared.Differs (f v.cleared))
    (hnot : v.deviceStatus = .slaverOffline → ¬ acts → (f v).deviceStatus = .slaverOffline → f v.cleared = v.cleared)
    {offline : Bool} {v' v'' : Controls} (hfirst : v' = (f v).heard offline) (hsecond : v'' = (f v').heard offline) :
    (v.deviceStatus = .slaverOffline ∧ offline = false ∧ acts → v'.Differs v'') ∧
      (¬ (v.deviceStatus = .slaverOffline ∧ offline = false ∧ acts) → v'' = v') := by
  subst hfirst hsecond
  constructor
  · rintro ⟨hs, ho, ha⟩
    obtain ⟨hsame, hdiffers⟩ := hacts hs ha
    have hclears : Clears f offline v := ⟨by rw [hsame]; exact hs, ho⟩
    rw [hf.heard_clears_again hco hclears, hf.heard_clears hco hclears]
    exact hdiffers
  · intro h
    refine hf.heard_again hco fun hclears => ?_
    obtain ⟨hs, _⟩ := hf.offline v hco hclears.1
    exact hnot hs (fun ha => h ⟨hs, hclears.2, ha⟩) hclears.1

end

end Controls

section
variable {rx : RxFrame} {c : Core} {u u' u'' : MainUnit} {leak lost : Bool}

theorem actsIdle_heart (h : rx.rxData 0 = heartUploadCmd) : rx.ActsIdle c ↔ rx.rxData 2 = 1 := by
  simp [RxFrame.ActsIdle, h, (by decide : heartUploadCmd ≠ controlValveCmd),
    (by decide : heartUploadCmd ≠ warningUploadCmd), (by decide : heartUploadCmd ≠ learnDeviceCmd)]

theorem actsIdle_valve (h : rx.rxData 0 = controlValveCmd) : rx.ActsIdle c ↔
    rx.rxData 2 = 0 ∧ c.lockStatus = 0 ∨ rx.rxData 2 ≠ 0 ∧ (c.lockStatus = 1 ∨ c.valveValid = true) := by
  simp [RxFrame.ActsIdle, h, (by decide : controlValveCmd ≠ heartUploadCmd),
    (by decide : controlValveCmd ≠ warningUploadCmd), (by decide : controlValveCmd ≠ learnDeviceCmd)]

theorem actsIdle_warn (h : rx.rxData 0 = warningUploadCmd) : rx.ActsIdle c ↔ rx.rxData 2 = 1 ∧ rx.rxData 3 ≠ 0 := by
  simp [RxFrame.ActsIdle, h, (by decide : warningUploadCmd ≠ heartUploadCmd),
    (by decide : warningUploadCmd ≠ controlValveCmd), (by decide : warningUploadCmd ≠ learnDeviceCmd)]

theorem actsIdle_other (hh : rx.rxData 0 ≠ heartUploadCmd) (hc : rx.rxData 0 ≠ controlValveCmd)
    (hw : rx.rxData 0 ≠ warningUploadCmd) : rx.ActsIdle c ↔ rx.rxData 0 = learnDeviceCmd ∧ rx.rxData 2 = 2 := by
  simp [RxFrame.ActsIdle, hh, hc, hw]

/-- What an end unit's command does under the offline alarm, and what once it is
cleared. -/
theorem endunitCommand_cleared (hs : c.deviceStatus = .slaverOffline) (hco : c.controls.Coherent) :
    (rx.ActsIdle c → rx.endunitCommand leak lost c.controls = c.controls ∧
        c.controls.cleared.Differs (rx.endunitCommand leak lost c.controls.cleared)) ∧
      (¬ rx.ActsIdle c → (rx.endunitCommand leak lost c.controls).deviceStatus = .slaverOffline →
        rx.endunitCommand leak lost c.controls.cleared = c.controls.cleared) := by
  obtain ⟨hv, hp⟩ := hco.offline hs
  unfold RxFrame.endunitCommand
  by_cases hh : rx.rxData 0 = heartUploadCmd
  · rw [if_pos hh, actsIdle_heart hh]
    exact Controls.endunitHeart_cleared hv hp _
  by_cases hc : rx.rxData 0 = controlValveCmd
  · rw [if_neg hh, if_pos hc, actsIdle_valve hc]
    obtain ⟨hsame, hacts, hnot⟩ := Controls.endunitValve_cleared hs hv (rx.rxData 2) leak
    exact ⟨fun h => ⟨hsame, hacts h⟩, fun h _ => hnot h⟩
  by_cases hw : rx.rxData 0 = warningUploadCmd
  · rw [if_neg hh, if_neg hc, if_pos hw, actsIdle_warn hw]
    exact Controls.endunitWarn_cleared hv hp _ _ leak lost
  · rw [if_neg hh, if_neg hc, if_neg hw, actsIdle_other hh hc hw, RxFrame.learnCommand]
    constructor
    · intro h
      rw [if_pos h]
      exact Controls.toggled_cleared hs hv
    · intro h _
      rw [if_neg h]
      rfl

theorem endunitCommand_command (h : ¬ (rx.rxData 0 = learnDeviceCmd ∧ rx.rxData 2 = 2)) :
    Controls.Command (rx.endunitCommand leak lost) := by
  unfold RxFrame.endunitCommand
  split
  · exact Controls.endunitHeart_command _
  · split
    · exact Controls.endunitValve_command _ _
    · split
      · exact Controls.endunitWarn_command _ _ _ _
      · rw [RxFrame.learnCommand, if_neg h]
        exact Controls.command_id

theorem endunitCommand_toggles (h : rx.rxData 0 = learnDeviceCmd ∧ rx.rxData 2 = 2) :
    rx.endunitCommand leak lost = Controls.toggled := by
  unfold RxFrame.endunitCommand
  rw [if_neg (by rw [h.1]; decide), if_neg (by rw [h.1]; decide), if_neg (by rw [h.1]; decide), RxFrame.learnCommand,
    if_pos h]

/-! The offline check. -/

/-- The check finds nothing exactly if no other end unit is offline. -/
theorem offlineFind_after {st st' : Storage}
    (hl : st'.deviceList = chainedList rx.sourceAddr (rx.commandOps ++ heardOps rx) st.deviceList) :
    aqDeviceEndunitOfflineFind st' = false ↔
      ∀ d ∈ st.deviceList, d.type = deviceTypeEndunit → d.online = 0 → d.deviceId = rx.sourceAddr := by
  have hof : ∀ op ∈ rx.commandOps ++ heardOps rx, op.Of rx.sourceAddr := fun op hop =>
    (List.mem_append.1 hop).elim (commandOps_of rx op) (heardOps_of rx op)
  have hnode : ∀ first (d : Device), ((chained first (rx.commandOps ++ heardOps rx) d).online = 0 ∧
      (chained first (rx.commandOps ++ heardOps rx) d).type = deviceTypeEndunit) ↔
        d.deviceId ≠ rx.sourceAddr ∧ d.online = 0 ∧ d.type = deviceTypeEndunit := by
    intro first d
    rw [(chained_same _ _ d).type, chained_eq hof]
    by_cases hid : d.deviceId = rx.sourceAddr
    · have honline :
          ((rx.commandOps ++ heardOps rx).foldl (fun d op => op.assignedAs first d) d).online = 1 := by
        rw [List.foldl_append]
        cases first <;> rfl
      rw [if_pos hid, honline]
      simp [hid]
    · rw [if_neg hid]
      simp [hid]
  unfold aqDeviceEndunitOfflineFind
  rw [hl, List.any_eq_false]
  simp only [decide_eq_true_eq]
  constructor
  · intro h d hd ht ho
    by_contra hid
    obtain ⟨d', hd', first, rfl⟩ := exists_mem_of_forall₂_left (chainedList_forall₂ _ _ _) hd
    exact h _ hd' ((hnode first d).2 ⟨hid, ho, ht⟩)
  · intro h d' hd' hoff
    obtain ⟨d, hd, first, rfl⟩ := mem_chainedList hd'
    obtain ⟨hid, ho, ht⟩ := (hnode first d).1 hoff
    exact hid (h d hd ht ho)

/-- An end unit's frame, twice. -/
theorem endunit_pair {offline : Bool} {v' v'' : Controls} (hco : c.controls.Coherent)
    (hfirst : v' = (rx.endunitCommand leak lost c.controls).heard offline)
    (hsecond : v'' = (rx.endunitCommand leak lost v').heard offline) :
    ((rx.rxData 0 = learnDeviceCmd ∧ rx.rxData 2 = 2) ∧ (c.deviceStatus.Idle ∨ c.deviceStatus = .learnDevice) →
        v'.Differs v'') ∧
      (c.deviceStatus = .slaverOffline ∧ offline = false ∧ rx.ActsIdle c → v'.Differs v'') ∧
      (¬ ((rx.rxData 0 = learnDeviceCmd ∧ rx.rxData 2 = 2) ∧
          (c.deviceStatus.Idle ∨ c.deviceStatus = .learnDevice)) →
        ¬ (c.deviceStatus = .slaverOffline ∧ offline = false ∧ rx.ActsIdle c) → v'' = v') := by
  by_cases ht : rx.rxData 0 = learnDeviceCmd ∧ rx.rxData 2 = 2
  · rw [endunitCommand_toggles ht] at hfirst hsecond
    obtain ⟨hlearn, hoffline, hkeeps⟩ := Controls.toggled_pair (fun hs => (hco.offline hs).1) hfirst hsecond
    refine ⟨fun h => hlearn h.2, fun h => hoffline ⟨h.1, h.2.1⟩, fun h h' => ?_⟩
    exact hkeeps (fun hs => h ⟨ht, hs⟩) fun hs => h' ⟨hs.1, hs.2, Or.inr (Or.inr (Or.inr ht))⟩
  · obtain ⟨hacts, hkeeps⟩ := (@endunitCommand_command rx leak lost ht).pair hco
      (fun hs => (endunitCommand_cleared hs hco).1) (fun hs => (endunitCommand_cleared hs hco).2) hfirst hsecond
    exact ⟨fun h => absurd h.1 ht, hacts, fun _ => hkeeps⟩

end

/-! The second copy of a frame that neither adds nor deletes a device. -/

/-- The second copy toggles the learn mode back, or finds the offline alarm gone
and does what the first was refused. -/
inductive RxFrame.Reacts (rx : RxFrame) (u : MainUnit) : Prop
  | toggles (h : rx.Toggles u) (hshown : u.core.deviceStatus.Idle ∨ u.core.deviceStatus = .learnDevice)
  | restarts (h : rx.EndsOffline u) (hacts : rx.ActsIdle u.core)

theorem RxFrame.Reacts.deviceType {rx : RxFrame} {u : MainUnit} (h : rx.Reacts u) :
    rx.deviceType = deviceTypeEndunit := by
  cases h with
  | toggles h => exact h.deviceType
  | restarts h => exact h.deviceType

theorem RxFrame.Reacts.toUnit {rx : RxFrame} {u : MainUnit} (h : rx.Reacts u) :
    rx.destAddr = getLocalAddress u := by
  cases h with
  | toggles h => exact h.toUnit
  | restarts h => exact h.fromListed.toUnit

section
variable {rx : RxFrame} {e : Event} {s : State} {u u' u'' : MainUnit} {leak lost : Bool}

/-- Without the offline check behind it, a command that is idempotent changes
nothing the second time. -/
theorem Twice.again {f : Controls → Controls} (h : Twice (fun _ _ => f) false leak lost u u' u'')
    (hf : ∀ v, f (f v) = f v) : u''.core.controls = u'.core.controls := by
  have hfirst : u'.core.controls = f u.core.controls := h.first
  calc u''.core.controls
      = f u'.core.controls := h.second
    _ = f (f u.core.controls) := by rw [hfirst]
    _ = u'.core.controls := by rw [hf, hfirst]

theorem motionCommand_again (v : Controls) : rx.motionCommand (rx.motionCommand v) = rx.motionCommand v := by
  unfold RxFrame.motionCommand
  split
  · exact Controls.motionControl_again v _
  · rfl

theorem doorunitCommand_again (v : Controls) : rx.doorunitCommand (rx.doorunitCommand v) = rx.doorunitCommand v := by
  unfold RxFrame.doorunitCommand
  split
  · exact Controls.doorunitValve_again v _
  · rfl

theorem gatewayCommand_again (v : Controls) : rx.gatewayCommand (rx.gatewayCommand v) = rx.gatewayCommand v := by
  unfold RxFrame.gatewayCommand
  split
  · exact Controls.gatewayControl_again v _
  · rfl

/-- What the second copy of an end unit's frame does, where the source is listed. -/
theorem listed_pair (ht : rx.deviceType = deviceTypeEndunit) (hfrom : rx.FromListed u)
    (hco : u.core.controls.Coherent)
    (hl : u'.storage.deviceList = chainedList rx.sourceAddr (rx.commandOps ++ heardOps rx) u.storage.deviceList)
    (htwice : Twice rx.endunitCommand true leak lost u u' u'') :
    (rx.Reacts u → u'.core.controls.Differs u''.core.controls) ∧
      (¬ rx.Reacts u → u''.core.controls = u'.core.controls) := by
  obtain ⟨htoggles, hrestarts, hkeeps⟩ := endunit_pair hco htwice.first htwice.second
  have hoffline := offlineFind_after hl
  constructor
  · intro h
    cases h with
    | toggles h hshown => exact htoggles ⟨⟨h.command, h.subCommand⟩, hshown⟩
    | restarts h hacts => exact hrestarts ⟨h.shown, hoffline.2 h.others, hacts⟩
  · intro h
    refine hkeeps (fun ht' => h ?_) fun hr => h ?_
    · exact .toggles ⟨ht, ht'.1.1, ht'.1.2, hfrom.toUnit⟩ ht'.2
    · exact .restarts ⟨ht, hfrom, hr.1, hoffline.1 hr.2.1⟩ hr.2.2

/-- An end unit that is not listed can only toggle. -/
theorem unlisted_pair (ht : rx.deviceType = deviceTypeEndunit) (hto : rx.destAddr = getLocalAddress u)
    (hl : ¬ Listed rx.sourceAddr u.storage) (htwice : Twice (fun _ _ => rx.learnCommand) false leak lost u u' u'') :
    (rx.Reacts u → u'.core.controls.Differs u''.core.controls) ∧
      (¬ rx.Reacts u → u''.core.controls = u'.core.controls) := by
  by_cases hc : rx.rxData 0 = learnDeviceCmd ∧ rx.rxData 2 = 2
  · have hcommand : rx.learnCommand = Controls.toggled := if_pos hc
    rw [hcommand] at htwice
    have hfirst : u'.core.controls = u.core.controls.toggled := htwice.first
    have hsecond : u''.core.controls = u'.core.controls.toggled := htwice.second
    constructor
    · intro h
      cases h with
      | toggles _ hshown =>
        rw [hsecond, hfirst]
        exact Or.inl (Controls.toggled_again _ hshown)
      | restarts h => exact absurd h.fromListed.listed hl
    · intro h
      have hstays : u.core.controls.toggled = u.core.controls := by
        refine Controls.toggled_other _ (fun hi => h ?_) fun hi => h ?_
        · exact .toggles ⟨ht, hc.1, hc.2, hto⟩ (Or.inl hi)
        · exact .toggles ⟨ht, hc.1, hc.2, hto⟩ (Or.inr hi)
      rw [hsecond, hfirst, hstays, hstays]
  · have hcommand : rx.learnCommand = id := if_neg hc
    rw [hcommand] at htwice
    refine ⟨fun h => ?_, fun _ => htwice.again fun _ => rfl⟩
    cases h with
    | toggles h => exact absurd ⟨h.command, h.subCommand⟩ hc
    | restarts h => exact absurd h.fromListed.listed hl

/-- **The alarm, the lock and the valve after the second copy.** -/
theorem plan_controls_iff (hf : e.Frame s.unit rx) (hco : s.unit.core.controls.Coherent)
    (hno : ¬ rx.AddDevice s.unit) (hsync : ¬ rx.DeletesDevice s.unit) (hend : ¬ rx.OtaEnd s.unit) :
    (rx.Reacts s.unit → (radioFrameDispatch rx s).unit.core.controls.Differs
        (radioFrameDispatch rx (s.again s.unit.env rx)).unit.core.controls) ∧
      (¬ rx.Reacts s.unit → (radioFrameDispatch rx (s.again s.unit.env rx)).unit.core.controls =
        (radioFrameDispatch rx s).unit.core.controls) := by
  obtain ⟨leak, lost, htwice⟩ := dispatch_twice hf s.unit.env hno hsync hend
  have hlist := (dispatch_plan hno hsync hend).deviceList (plan_settled rx s.unit).of
  generalize radioFrameDispatch rx (s.again s.unit.env rx) = s'' at htwice
  generalize radioFrameDispatch rx s = s' at htwice hlist
  have hquiet : ∀ g : Controls → Controls, (rx.plan s.unit).f = (fun _ _ => g) → (rx.plan s.unit).check = false →
      (∀ v, g (g v) = g v) → s''.unit.core.controls = s'.unit.core.controls := by
    intro g hg hcheck hagain
    rw [hg, hcheck] at htwice
    exact htwice.again hagain
  by_cases hto : rx.destAddr = getLocalAddress s.unit
  · by_cases ht : rx.deviceType = deviceTypeEndunit
    · by_cases hl : Listed rx.sourceAddr s.unit.storage
      · rw [plan_endunit ⟨hl, hto⟩ ht] at htwice hlist
        exact listed_pair ht ⟨hl, hto⟩ hco hlist htwice
      · rw [plan_unlisted hto hl ht] at htwice
        exact unlisted_pair ht hto hl htwice
    · refine ⟨fun h => absurd h.deviceType ht, fun _ => ?_⟩
      unfold RxFrame.plan at hquiet
      rw [if_neg (not_not.2 hto)] at hquiet
      split_ifs at hquiet with hl hm hd hg
      · exact hquiet _ rfl rfl motionCommand_again
      · exact hquiet _ rfl rfl doorunitCommand_again
      · exact hquiet _ rfl rfl gatewayCommand_again
      · exact hquiet _ rfl rfl fun _ => rfl
      · exact hquiet _ rfl rfl fun _ => rfl
  · refine ⟨fun h => absurd h.toUnit hto, fun _ => ?_⟩
    rw [plan_away hto] at hquiet
    exact hquiet id rfl rfl fun _ => rfl

end

/-! The whole unit. -/

/-- What a frame received twice has to leave as the same frame received once. -/
structure State.Agrees (s s' : State) : Prop where
  registry : s.unit.storage.Agrees s'.unit.storage
  deviceStatus : s'.unit.core.deviceStatus = s.unit.core.deviceStatus
  nowEvent : s'.unit.core.nowEvent = s.unit.core.nowEvent
  valveStatus : s'.unit.core.valveStatus = s.unit.core.valveStatus
  lockStatus : s'.unit.core.lockStatus = s.unit.core.lockStatus
  allowAddDevice : s'.unit.core.allowAddDevice = s.unit.core.allowAddDevice
  cursor : s'.ota.updateFileCurSize = s.ota.updateFileCurSize

theorem State.Agrees.of_controls {s s' : State} (hregistry : s.unit.storage.Agrees s'.unit.storage)
    (hcontrols : s'.unit.core.controls = s.unit.core.controls)
    (hcursor : s'.ota.updateFileCurSize = s.ota.updateFileCurSize) : s.Agrees s' :=
  ⟨hregistry, congrArg Controls.deviceStatus hcontrols, congrArg Controls.nowEvent hcontrols,
    congrArg Controls.valveStatus hcontrols, congrArg Controls.lockStatus hcontrols,
    congrArg Controls.allowAddDevice hcontrols, hcursor⟩

/-- The second copy changes something. -/
inductive RxFrame.ActsTwice (rx : RxFrame) (u : MainUnit) : Prop
  | adds (h : rx.AddDevice u) (hadds : rx.AddsTwice u.env.mallocDevice u.storage)
  | deletes (h : rx.DeletesDevice u) (htimes : 2 ≤ timesListed rx.word u.storage)
  | reacts (h : rx.Reacts u)

/-- A request to add, to a list that has an address or a type twice. -/
def RxFrame.Doubtful (rx : RxFrame) (u : MainUnit) : Prop :=
  rx.AddDevice u ∧ rx.AddsDoubtful u.env.mallocDevice u.storage

/-- Under one environment, receiving the frame again leaves what it left. -/
def Harmless (cfg : Config) (s : State) (i : Env × Event) : Prop :=
  ∀ s₁ s₂, (system cfg).next s i = some s₁ → (system cfg).next s₁ i = some s₂ → s₁.Agrees s₂

section
variable {rx : RxFrame} {e : Event} {s : State} {u : MainUnit}

theorem addDevice_not_reacts (ha : rx.AddDevice u) : ¬ rx.Reacts u := by
  intro h
  cases h with
  | toggles h => exact absurd (ha.subCommand.symm.trans h.subCommand) (by decide)
  | restarts _ hacts =>
    rw [actsIdle_other (by rw [ha.command]; decide) (by rw [ha.command]; decide) (by rw [ha.command]; decide)] at hacts
    exact absurd (ha.subCommand.symm.trans hacts.2) (by decide)

theorem addDevice_not_updates (ha : rx.AddDevice u) : ¬ rx.Updates u := fun h =>
  absurd (ha.command.symm.trans h.command) (by decide)

theorem deletesDevice_not_updates (h : rx.DeletesDevice u) : ¬ rx.Updates u := fun hup =>
  absurd (h.command.symm.trans hup.command) (by decide)

theorem addDevice_not_otaEnd (ha : rx.AddDevice u) : ¬ rx.OtaEnd u := fun h =>
  absurd (ha.command.symm.trans h.command) (by decide)

theorem deletesDevice_not_addDevice (h : rx.DeletesDevice u) : ¬ rx.AddDevice u := fun ha =>
  absurd (h.command.symm.trans ha.command) (by decide)

theorem actsTwice_not_updates (h : rx.ActsTwice u) : ¬ rx.Updates u := by
  cases h with
  | adds h => exact addDevice_not_updates h
  | deletes h => exact deletesDevice_not_updates h
  | reacts h => exact fun hup => absurd (h.deviceType.symm.trans hup.deviceType) (by decide)

theorem addDevice_agrees_iff (hf : e.Frame s.unit rx) (hb : Begun s.unit) (ha : rx.AddDevice s.unit)
    (hsure : ¬ rx.Doubtful s.unit) :
    (radioFrameDispatch rx s).Agrees (radioFrameDispatch rx (s.again s.unit.env rx)) ↔ ¬ rx.ActsTwice s.unit := by
  have ha' := (again_addDevice hf s.unit.env).2 ha
  have hregistry := enrolled_agrees_iff hb.1 fun h => hsure ⟨ha, h⟩
  rw [← addDevice_again hf hb ha, ← (addDevice_enrols ha).storage] at hregistry
  constructor
  · intro hagrees htwice
    cases htwice with
    | adds _ hadds => exact hregistry.1 hagrees.registry hadds
    | deletes h => exact deletesDevice_not_addDevice h ha
    | reacts h => exact addDevice_not_reacts ha h
  · intro hnot
    have hagrees := hregistry.2 fun hadds => hnot (.adds ha hadds)
    refine .of_controls hagrees (addDevice_controls hf hb ha hagrees) ?_
    rw [dispatch_cursor_away (addDevice_not_otaEnd ha') (addDevice_not_updates ha')]
    rfl

theorem deletesDevice_agrees_iff (hf : e.Frame s.unit rx) (h : rx.DeletesDevice s.unit) :
    (radioFrameDispatch rx s).Agrees (radioFrameDispatch rx (s.again s.unit.env rx)) ↔ ¬ rx.ActsTwice s.unit := by
  obtain ⟨honce, htwice⟩ := deletesDevice_twice hf h
  constructor
  · intro hagrees hacts
    cases hacts with
    | adds ha => exact deletesDevice_not_addDevice h ha
    | deletes _ htimes => exact htwice htimes hagrees.registry.deviceList
    | reacts hr => exact absurd (h.deviceType.symm.trans hr.deviceType) (by decide)
  · intro hnot
    obtain ⟨hregistry, hcore⟩ := honce (Nat.le_of_lt_succ (Nat.lt_of_not_le fun htimes => hnot (.deletes h htimes)))
    refine .of_controls hregistry (congrArg Core.controls hcore) ?_
    have hend : ¬ rx.OtaEnd (s.again s.unit.env rx).unit := fun hend =>
      absurd (h.command.symm.trans hend.command) (by decide)
    have hup : ¬ rx.Updates (s.again s.unit.env rx).unit := fun hup =>
      absurd (h.command.symm.trans hup.command) (by decide)
    rw [dispatch_cursor_away hend hup]
    rfl

/-- **One frame, dispatched twice.** -/
theorem dispatch_agrees_iff (hf : e.Frame s.unit rx) (hb : Begun s.unit) (hco : s.unit.core.controls.Coherent)
    (hend : ¬ rx.OtaEnd s.unit) (hsure : ¬ rx.Doubtful s.unit) :
    (radioFrameDispatch rx s).Agrees (radioFrameDispatch rx (s.again s.unit.env rx)) ↔ ¬ rx.ActsTwice s.unit := by
  by_cases ha : rx.AddDevice s.unit
  · exact addDevice_agrees_iff hf hb ha hsure
  by_cases hsync : rx.DeletesDevice s.unit
  · exact deletesDevice_agrees_iff hf hsync
  obtain ⟨hdiffers, hkeeps⟩ := plan_controls_iff hf hco ha hsync hend
  constructor
  · intro hagrees hacts
    cases hacts with
    | adds h => exact ha h
    | deletes h => exact hsync h
    | reacts h =>
      rcases hdiffers h with hd | hl
      · exact hd hagrees.deviceStatus
      · exact hl hagrees.lockStatus
  · intro hnot
    have hcontrols := hkeeps fun h => hnot (.reacts h)
    obtain ⟨_, _, htwice⟩ := dispatch_twice hf s.unit.env ha hsync hend
    exact .of_controls ⟨htwice.deviceList, htwice.totalSlot, htwice.flash (congrArg Controls.lockStatus hcontrols)⟩
      hcontrols (dispatch_cursor hf ha hsync hend)

end

theorem harmless_of_fault {cfg : Config} {s : State} {env : Env} {rssi snr : Int} {data : Nat → UInt8} {len : Nat}
    (h : s.ota.fault = true) : Harmless cfg s (env, .radio rssi snr data len) := by
  intro s₁ s₂ hn _
  obtain ⟨hen, _⟩ := system_next_eq_some.1 hn
  exact absurd hen (by simp [Event.enabled, h])

/-- **A frame received twice in immediate succession leaves what it leaves
received once, exactly when** it does not `ActsTwice`: for every reachable state
and every received byte string that is no end of an update. -/
theorem retransmission_harmless_iff {cfg : Config} {s : State} (hs : (system cfg).Reachable s) (env : Env)
    (rssi snr : Int) (data : Nat → UInt8) (len : Nat)
    (hend : ¬ (rxFrameOf env.stackSnr rssi data len).OtaEnd (s.unit.begin env))
    (hsure : ¬ (rxFrameOf env.stackSnr rssi data len).Doubtful (s.unit.begin env)) :
    Harmless cfg s (env, .radio rssi snr data len) ↔
      s.ota.fault = true ∨
        ¬ (radioAccepted s.unit.cfg data len ∧
          (rxFrameOf env.stackSnr rssi data len).ActsTwice (s.unit.begin env)) := by
  cases hfault : s.ota.fault with
  | true => exact iff_of_true (harmless_of_fault hfault) (Or.inl rfl)
  | false =>
    by_cases hacc : radioAccepted s.unit.cfg data len
    · generalize hb : s.onUnit (MainUnit.begin env) = b
      have hunit : s.unit.begin env = b.unit := by rw [← hb]; rfl
      have henv : env = b.unit.env := by rw [← hunit]; rfl
      have hf : (Event.radio rssi snr data len).Frame b.unit (rxFrameOf env.stackSnr rssi data len) :=
        ⟨rssi, snr, data, len, rfl, by rw [← hunit]; exact hacc, by rw [henv]⟩
      have hbegun : Begun b.unit := by rw [← hunit]; exact ⟨rfl, rfl⟩
      have hco : b.unit.core.controls.Coherent := by rw [← hunit]; exact reachable_coherent hs
      rw [hunit] at hend hsure ⊢
      have hiff := dispatch_agrees_iff hf hbegun hco hend hsure
      have hota : s.ota = b.ota := by rw [← hb]; rfl
      generalize rxFrameOf env.stackSnr rssi data len = rx at *
      have hfirst : ∀ s₁, (system cfg).next s (env, .radio rssi snr data len) = some s₁ ↔
          radioFrameDispatch rx b = s₁ := by
        intro s₁
        rw [system_next_eq_some, hb, hf.handle]
        exact and_iff_right (by simp [Event.enabled, hfault])
      have hsecond : ∀ s₂, (system cfg).next (radioFrameDispatch rx b) (env, .radio rssi snr data len) = some s₂ ↔
          (radioFrameDispatch rx b).ota.fault = false ∧ radioFrameDispatch rx (b.again b.unit.env rx) = s₂ := by
        intro s₂
        have hagain : (radioFrameDispatch rx b).onUnit (MainUnit.begin env) = b.again b.unit.env rx := by
          rw [← henv]
          rfl
        rw [system_next_eq_some, hagain, (again_frame hf).handle]
        exact and_congr_left fun _ => by simp [Event.enabled]
      constructor
      · intro hharm
        refine Or.inr ?_
        rintro ⟨_, hacts⟩
        have hquiet : (radioFrameDispatch rx b).ota.fault = false := by
          rw [dispatch_cursor_away hend (actsTwice_not_updates hacts), ← hota, hfault]
        exact hiff.1 (hharm _ _ ((hfirst _).2 rfl) ((hsecond _).2 ⟨hquiet, rfl⟩)) hacts
      · rintro (hc | hnot) s₁ s₂ hn hn'
        · exact absurd hc (by decide)
        · obtain rfl := (hfirst s₁).1 hn
          obtain ⟨_, rfl⟩ := (hsecond s₂).1 hn'
          exact hiff.2 fun hacts => hnot ⟨hacc, hacts⟩
    · -- a frame that fails the header checks is dropped both times
      refine iff_of_true ?_ (Or.inr fun h => hacc h.1)
      have hdropped : ∀ t : State, t.unit.cfg = s.unit.cfg → (Event.radio rssi snr data len).handle t = t := by
        intro t ht
        exact (radioProtocolParse_eq rssi snr data len t).trans (if_neg (by rwa [ht]))
      intro s₁ s₂ hn hn'
      obtain ⟨_, hs₁⟩ := system_next_eq_some.1 hn
      obtain ⟨_, hs₂⟩ := system_next_eq_some.1 hn'
      have hs₁ : s₁ = s.onUnit (MainUnit.begin env) := hs₁.symm.trans (hdropped _ rfl)
      have hs₂ : s₂ = s₁.onUnit (MainUnit.begin env) := hs₂.symm.trans (hdropped _ (by rw [hs₁]; rfl))
      rw [hs₂, hs₁]
      exact ⟨⟨rfl, rfl, rfl⟩, rfl, rfl, rfl, rfl, rfl, rfl⟩

/-- The second copy of an end unit's request to start the learn mode ends it. -/
theorem retransmission_harmless_fails :
    ¬ ∀ (cfg : Config) (s : State), (system cfg).Reachable s → ∀ (env : Env) (rssi snr : Int) (data : Nat → UInt8)
      (len : Nat), ¬ (rxFrameOf env.stackSnr rssi data len).OtaEnd (s.unit.begin env) →
        Harmless cfg s (env, .radio rssi snr data len) := by
  intro h
  have hpair : ((system sampleConfig).next sampleStart
      (sampleEnv, sampleFrame deviceTypeEndunit 7 [learnDeviceCmd, 1, 2])).any (fun s₁ =>
        ((system sampleConfig).next s₁ (sampleEnv, sampleFrame deviceTypeEndunit 7 [learnDeviceCmd, 1, 2])).any
          fun s₂ => s₂.unit.core.deviceStatus ≠ s₁.unit.core.deviceStatus) = true := by decide +kernel
  obtain ⟨s₁, hn, hpair⟩ := (Option.any_eq_true _ _).1 hpair
  obtain ⟨s₂, hn', hne⟩ := (Option.any_eq_true _ _).1 hpair
  let bytes := sampleBytes deviceTypeEndunit 7 [learnDeviceCmd, 1, 2]
  have hharm := h sampleConfig sampleStart (Machine.reachable_start ⟨_, _, _, rfl⟩) sampleEnv (-60) 5
    (fun i => bytes.getD i 0) bytes.length (fun hend => absurd hend.deviceType (by decide +kernel))
  exact of_decide_eq_true hne (hharm s₁ s₂ hn hn').deviceStatus

/-- A heartbeat of an end unit may come twice. -/
theorem retransmission_harmless_heart :
    Harmless sampleConfig sampleStart
      (sampleEnv, sampleFrame deviceTypeEndunit 7 [heartUploadCmd, 1, 0]) := by
  let bytes := sampleBytes deviceTypeEndunit 7 [heartUploadCmd, 1, 0]
  refine (retransmission_harmless_iff (Machine.reachable_start ⟨_, _, _, rfl⟩) sampleEnv (-60) 5
    (fun i => bytes.getD i 0) bytes.length (fun hend => absurd hend.deviceType (by decide +kernel))
    (fun hd => absurd hd.1.command (by decide +kernel))).2 (Or.inr ?_)
  rintro ⟨_, hacts⟩
  cases hacts with
  | adds h => exact absurd h.command (by decide +kernel)
  | deletes h => exact absurd h.command (by decide +kernel)
  | reacts h =>
    cases h with
    | toggles h => exact absurd h.command (by decide +kernel)
    | restarts h => exact absurd h.shown (by decide +kernel)

end Aqualarm
