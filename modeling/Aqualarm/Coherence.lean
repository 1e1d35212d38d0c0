import Aqualarm.Repeats

/-
  What goes with an alarm of a leak and with one of an offline end unit, in every
  reachable state.

  What is proved: `reachable_coherent` — under a leak alarm the valve is shut and
  the lock is not 0; under an offline alarm the valve is shut and the priority in
  force is that of the alarm.
-/

namespace Aqualarm

open Lib

/-! The lock under a leak. -/

def LeakLocked (u : MainUnit) : Prop := u.core.deviceStatus = .slaverSensorLeak → u.core.lockStatus ≠ 0

section
variable {u u' u₀ : MainUnit} {e : Event}

theorem LeakLocked.congr (h : LeakLocked u) (hd : u'.core.deviceStatus = u.core.deviceStatus)
    (hl : u'.core.lockStatus = u.core.lockStatus) : LeakLocked u' := by
  intro hleak
  rw [hl]
  exact h (hd ▸ hleak)

theorem LeakLocked.of_ne (h : u.core.deviceStatus ≠ .slaverSensorLeak) : LeakLocked u := fun hl => absurd hl h

theorem valveLock_lockStatus_ne (u : MainUnit) : (valveLock u).core.lockStatus ≠ 0 := by
  rw [valveLock_core]
  dsimp only
  split
  · decide
  · assumption

theorem warningEnable_leakLocked (w : Warning) (h : LeakLocked u) : LeakLocked (warningEnable w u) := by
  obtain ⟨_, hrefused⟩ | ⟨hp, hr⟩ := warningEnable_cases w u
  · rwa [hrefused]
  · intro hleak
    obtain rfl : w = .slaverSensorLeak := by
      rw [hr.core.1] at hleak
      cases w <;> first | rfl | cases hleak
    rw [warningEnable, if_pos hp]
    unfold Warning.callback slaverSensorLeakEventCallback
    dsimp only
    split
    · -- raised anew: the callback locks
      change (valveClose (valveLock _).core).2.lockStatus ≠ 0
      rw [valveClose_lockStatus]
      exact valveLock_lockStatus_ne _
    · rename_i hshown
      exact h (not_not.1 hshown)

theorem boot_leakLocked (u : MainUnit) : LeakLocked u.boot := by
  unfold MainUnit.boot valveInit
  dsimp only
  have hbase : ∀ c : Core, c.deviceStatus = .valveClose → ∀ v : MainUnit, v.core = c → LeakLocked v := by
    intro c hc v hv
    exact .of_ne (by rw [hv, hc]; decide)
  split
  · exact warningEnable_leakLocked _ (hbase _ rfl _ rfl)
  · exact hbase _ rfl _ rfl

theorem Effect.leakLocked (h : Effect u₀ e u u') (hi : LeakLocked u) : LeakLocked u' := by
  cases h with
  | heart | send | registry | enrol | learnRefresh | delayControl | turnBackPass | turnBackFail
  | turnCheckStart | turnCheckPass | turnCheckFail => exact hi.congr rfl rfl
  | leak => exact warningEnable_leakLocked _ (hi.congr rfl rfl)
  | lost => exact warningEnable_leakLocked _ (hi.congr rfl rfl)
  | raise => exact warningEnable_leakLocked _ hi
  | clear | learnStop | learnTimeout => exact .of_ne (DeviceStatus.Operable.ne_leak (Or.inl (toDeviceStatus_idle _)))
  | closeValve h => exact .of_ne (valveClose_ne_leak h.ne_leak)
  | lockClose h =>
    refine .of_ne (valveClose_ne_leak ?_)
    rw [valveLock_core]
    exact DeviceStatus.Operable.ne_leak (Or.inl h)
  | openValve h₀ h => exact .of_ne (valveOpen_ne_leak h.ne_leak)
  | unlockOpen h₀ h =>
    refine .of_ne (valveOpen_ne_leak ?_)
    rw [valveUnlock_core]
    exact DeviceStatus.Operable.ne_leak (Or.inl h)
  | learnStart => exact .of_ne (show DeviceStatus.learnDevice ≠ .slaverSensorLeak by decide)
  | checkStart =>
    obtain ⟨hd, _, _, hl⟩ := valveCheckStart_alarm u.core u.env.fullyOpen
    exact hi.congr hd hl
  | disarm t =>
    obtain ⟨hd, _, _, hl, _⟩ := disarm_alarm t u
    exact hi.congr hd hl
  | turnCheckValid side =>
    obtain h | ⟨h, _⟩ := valvefailWarningDisable_cases { u.core with valveValid := true }
    · exact hi.congr (by rw [MainUnit.onCore_core, h]) (by rw [MainUnit.onCore_core, h])
    · refine .of_ne ?_
      rw [MainUnit.onCore_core, h]
      exact DeviceStatus.Operable.ne_leak (Or.inl (toDeviceStatus_idle _))
  | boot => exact boot_leakLocked u
  | factoryReset => exact boot_leakLocked _

end

/-! The priority under an offline alarm. -/

def OfflinePriority (v : AlarmView) : Prop :=
  v.deviceStatus = .slaverOffline → v.nowEvent.priority = Warning.slaverOffline.priority

theorem OfflinePriority.of_ne {v : AlarmView} (h : v.deviceStatus ≠ .slaverOffline) : OfflinePriority v :=
  fun ho => absurd ho h

theorem toDeviceStatus_ne_offline (v : ValveStatus) : v.toDeviceStatus ≠ .slaverOffline :=
  (toDeviceStatus_idle v).ne_offline

theorem AlarmStep.offlinePriority {s₀ : State} {e : Event} {u u' : MainUnit} (h : AlarmStep s₀ e u u')
    (hi : OfflinePriority u.core.alarm) : OfflinePriority u'.core.alarm := by
  cases h with
  | silent hc | forgotten hc => rwa [hc]
  | refreshed _ _ hc =>
    rw [hc]
    exact hi
  | raised w _ _ _ _ hc =>
    rw [hc]
    intro ho
    have ho : w.status = .slaverOffline := ho
    cases w <;> first | rfl | cases ho
  | cleared v _ hc | moved v _ hc | clicked v _ _ hc | learnEnded v hc =>
    rw [hc]
    exact .of_ne (toDeviceStatus_ne_offline v)
  | learnStarted _ hc =>
    rw [hc]
    exact .of_ne (show DeviceStatus.learnDevice ≠ .slaverOffline by decide)
  | booted hc =>
    rcases hc with hc | ⟨_, hc⟩ <;> rw [hc]
    · exact .of_ne (show DeviceStatus.valveClose ≠ .slaverOffline by decide)
    · exact .of_ne (show DeviceStatus.slaverSensorLeak ≠ .slaverOffline by decide)

theorem boot_offlinePriority (u : MainUnit) : OfflinePriority u.boot.core.alarm := by
  rcases boot_alarm u with h | ⟨_, h⟩ <;> rw [h]
  · exact .of_ne (show DeviceStatus.valveClose ≠ .slaverOffline by decide)
  · exact .of_ne (show DeviceStatus.slaverSensorLeak ≠ .slaverOffline by decide)

/-! In every reachable state. -/

section
variable {cfg : Config} {s : State}

/-- What holds throughout every run from power-on holds in every reachable state. -/
theorem reachable_of_always {P : State → Prop}
    (h : ∀ env flash download is, (system cfg).Always P (powerOn cfg env flash download) is)
    (hs : (system cfg).Reachable s) : P s := by
  obtain ⟨_, is, ⟨env, flash, download, rfl⟩, hr⟩ := hs
  exact h env flash download is is s List.prefix_rfl hr

theorem reachable_coherent (hs : (system cfg).Reachable s) : s.unit.core.controls.Coherent := by
  have hshut : CriticalShut s.unit := reachable_of_always (criticalShut_invariant cfg) hs
  have hlocked : LeakLocked s.unit := reachable_of_always
    (always_of_effects boot_leakLocked (fun _ _ h => h) fun _ _ _ _ => Effect.leakLocked) hs
  have hpriority : ∀ env flash download is,
      (system cfg).Always (fun s => OfflinePriority s.unit.core.alarm) (powerOn cfg env flash download) is := by
    intro env flash download is
    refine @Machine.always_of_inv _ _ (system cfg) (fun s => OfflinePriority s.unit.core.alarm) _
      (boot_offlinePriority _) ?_ is
    intro s i s' hi hn
    exact alarm_keeps (P := fun u => OfflinePriority u.core.alarm) (fun h => h)
      (fun _ _ hstep hp => hstep.offlinePriority hp) hn hi
  exact ⟨fun h => ⟨hshut (Or.inl h), hlocked h⟩,
    fun h => ⟨hshut (Or.inr (Or.inr h)), reachable_of_always hpriority hs h⟩⟩

end

end Aqualarm
