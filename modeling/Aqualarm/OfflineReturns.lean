import Aqualarm.SilentOffline
import Aqualarm.ControlSteps

/-
  An offline alarm that another warning takes the place of.

  What is proved: `offline_returns_iff` — from the first `SlaverOffline` to the
  next reset the valve's status shows only while every end unit is online,
  throughout exactly when no end unit takes back the last leak while another one
  is offline, and the learn timer does not run out while one is.
  `warning_all_clear` forgets with the event in force all that it held back.

  The invariant behind it: where an end unit is offline, either `SlaverOffline`
  shows or the event in force is a stronger one (`Controls.Covers`).
-/

namespace Aqualarm

open Lib Relation

/-- `SlaverOffline` showed in an earlier state, and the unit was not reset since. -/
def offlineLog (s : State) (i : Env × Event) (shown : Bool) : Bool :=
  !i.2.resetsUnit (s.onUnit (MainUnit.begin i.1)) && (shown || s.unit.core.deviceStatus = .slaverOffline)

/-- The unit with the log beside it. -/
def offlineSystem (cfg : Config) : Machine (State × Bool) (Env × Event) := (system cfg).logged offlineLog false

/-! What should hold. -/

/-- The valve's status shows again only with every end unit online. -/
def OfflineReturns (p : State × Bool) : Prop :=
  p.2 = true → (p.1.unit.core.deviceStatus = .valveClose ∨ p.1.unit.core.deviceStatus = .valveOpen) →
    aqDeviceEndunitOfflineFind p.1.unit.storage = false

instance : DecidablePred OfflineReturns := fun p => inferInstanceAs (Decidable (p.2 = true → _))

/-- An end unit takes back its leak, by a frame or by closing the valve, and no
other device has one. -/
structure RxFrame.EndsLeak (rx : RxFrame) (u : MainUnit) : Prop where
  fromListed : rx.FromListed u
  deviceType : rx.deviceType = deviceTypeEndunit
  command : rx.rxData 0 = controlValveCmd ∧ rx.rxData 2 = 0 ∨
    rx.rxData 0 = warningUploadCmd ∧ rx.rxData 2 = 0 ∧ rx.rxData 3 = 0
  shown : u.core.deviceStatus = .slaverSensorLeak
  last : ∀ d ∈ u.storage.deviceList, d.waterleak ≠ 0 → d.deviceId = rx.sourceAddr

/-- The two ways to clear the event in force over an end unit that stays offline. -/
inductive ForgetsOffline (u : MainUnit) (e : Event) : Prop
  | leakEnded {rx : RxFrame} (hf : e.Frame u rx) (h : rx.EndsLeak u)
      (ho : ∃ d ∈ u.storage.deviceList, Alarm.offline.caused d = true ∧ d.deviceId ≠ rx.sourceAddr)
  | learnTimeout (he : e = .timer .radioLearn) (ho : aqDeviceEndunitOfflineFind u.storage = true)

/-- After a `SlaverOffline` the event does neither. -/
def KeepsOffline (p : State × Bool) (i : Env × Event) : Prop :=
  (p.2 = true ∨ p.1.unit.core.deviceStatus = .slaverOffline) → ¬ ForgetsOffline (p.1.unit.begin i.1) i.2

/-! The event in force. -/

/-- Only a leak and an empty battery are stronger than an offline end unit. -/
def Outranked (v : AlarmView) : Prop :=
  Warning.slaverOffline.priority < v.nowEvent.priority →
    v.deviceStatus = .slaverSensorLeak ∨ v.deviceStatus = .slaverUltraLowPower

/-- `SlaverOffline` shows, or a stronger warning is in force. -/
def Controls.Covers (v : Controls) : Prop :=
  v.deviceStatus = .slaverOffline ∨ Warning.slaverOffline.priority < v.nowEvent.priority

/-- What then shows, and how strong the event in force is at least. -/
structure Controls.Held (v : Controls) : Prop where
  shown : v.deviceStatus = .slaverSensorLeak ∨ v.deviceStatus = .slaverUltraLowPower ∨
    v.deviceStatus = .slaverOffline
  priority : Warning.slaverOffline.priority ≤ v.nowEvent.priority

section
variable {s₀ : State} {e : Event} {u u' : MainUnit}

theorem Outranked.of_priority {v : AlarmView} (h : v.nowEvent.priority ≤ Warning.slaverOffline.priority) :
    Outranked v := fun hp => absurd hp (Nat.not_lt.2 h)

/-- A status in which commands are taken goes with a weak event. -/
theorem Outranked.priority_le {v : AlarmView} (h : Outranked v) (hl : v.deviceStatus ≠ .slaverSensorLeak)
    (hu : v.deviceStatus ≠ .slaverUltraLowPower) : v.nowEvent.priority ≤ Warning.slaverOffline.priority :=
  Nat.not_lt.1 fun hp => (h hp).elim hl hu

theorem DeviceStatus.Idle.ne_stronger {d : DeviceStatus} (h : d.Idle) :
    d ≠ .slaverSensorLeak ∧ d ≠ .slaverUltraLowPower := by
  rcases h with rfl | rfl | rfl <;> decide

theorem AlarmStep.outranked (h : AlarmStep s₀ e u u') (hi₀ : Outranked s₀.unit.core.alarm)
    (hi : Outranked u.core.alarm) : Outranked u'.core.alarm := by
  cases h with
  | silent hc | forgotten hc => rwa [hc]
  | refreshed _ _ hc =>
    rw [hc]
    exact hi
  | cleared v _ hc | learnEnded v hc =>
    rw [hc]
    exact .of_priority (Nat.zero_le _)
  | raised w hr _ _ _ hc =>
    rw [hc]
    have hw : w ∈ raisedWarnings := hr.mem_raisedWarnings
    intro hp
    have hp : Warning.slaverOffline.priority < w.priority := hp
    change w.status = _ ∨ w.status = _
    revert hw hp
    cases w <;> decide
  | moved _ hidle hc | learnStarted hidle hc =>
    rw [hc]
    exact .of_priority (hi.priority_le hidle.ne_stronger.1 hidle.ne_stronger.2)
  | clicked v hclick hu hc =>
    -- the event in force is that of a low battery, or of the master's lost sensor
    have hshown : s₀.unit.core.deviceStatus = .slaverLowPower ∨ s₀.unit.core.deviceStatus = .masterSensorLost :=
      hclick.imp LowPowerClick.shown id
    have hne : s₀.unit.core.deviceStatus ≠ .slaverSensorLeak ∧ s₀.unit.core.deviceStatus ≠ .slaverUltraLowPower := by
      rcases hshown with hs | hs <;> rw [hs] <;> decide
    have hp : s₀.unit.core.alarm.nowEvent.priority ≤ Warning.slaverOffline.priority := hi₀.priority_le hne.1 hne.2
    rw [hc, hu]
    exact .of_priority hp
  | booted hc =>
    rcases hc with hc | ⟨_, hc⟩ <;> rw [hc]
    · exact .of_priority (Nat.zero_le _)
    · exact fun _ => Or.inl rfl

theorem boot_outranked (u : MainUnit) : Outranked u.boot.core.alarm := by
  rcases boot_alarm u with h | ⟨_, h⟩ <;> rw [h]
  · exact .of_priority (Nat.zero_le _)
  · exact fun _ => Or.inl rfl

theorem Controls.Covers.held (hc : u.core.controls.Covers) (hr : Outranked u.core.alarm)
    (ho : OfflinePriority u.core.alarm) : u.core.controls.Held := by
  rcases hc with hshown | hp
  · exact ⟨Or.inr (Or.inr hshown), (ho hshown).ge⟩
  · have hp : Warning.slaverOffline.priority < u.core.alarm.nowEvent.priority := hp
    exact ⟨(hr hp).imp id Or.inl, hp.le⟩

end

/-! The commands of a frame. -/

namespace Controls

section
variable {v : Controls} {rx : RxFrame}

/-- None of these statuses takes a command to the valve, or to the learn mode. -/
theorem Held.not_idle (h : v.Held) : ¬ v.deviceStatus.Idle := by
  rcases h.shown with hs | hs | hs <;> rw [hs] <;> decide

theorem Held.ne_learnDevice (h : v.Held) : v.deviceStatus ≠ .learnDevice := by
  rcases h.shown with hs | hs | hs <;> rw [hs] <;> decide

theorem Held.openIdle (h : v.Held) : v.openIdle = v := if_neg h.not_idle

theorem Held.lockIdle (h : v.Held) : v.lockIdle = v := if_neg h.not_idle

theorem Held.closeIdle (h : v.Held) : v.closeIdle = v := if_neg h.not_idle

theorem Held.toggled (h : v.Held) : v.toggled = v := by
  rw [Controls.toggled, if_neg h.not_idle, if_neg h.ne_learnDevice]

/-- A warning that comes through is the offline one, or stronger. -/
theorem Covers.warned {w : Warning} {act : Controls → Controls} (hc : v.Covers) (h : v.Held) :
    (v.warned w act).Covers := by
  unfold Controls.warned
  split
  · rename_i hp
    have hw : Warning.slaverOffline.priority ≤ w.priority := h.priority.trans hp
    rcases hw.lt_or_eq with hlt | heq
    · exact Or.inr hlt
    · refine Or.inl ?_
      change w.status = .slaverOffline
      revert heq
      cases w <;> decide
  · exact hc

theorem Covers.heard (hc : v.Covers) (offline : Bool) : (v.heard offline).Covers ∨ offline = false := by
  unfold Controls.heard Controls.ended
  split
  · split
    · rename_i ho
      exact Or.inr ho
    · exact Or.inl hc
  · exact Or.inl hc

theorem Held.learnCommand (h : v.Held) : rx.learnCommand v = v := by
  unfold RxFrame.learnCommand
  split
  · exact h.toggled
  · rfl

theorem Held.motionCommand (h : v.Held) : rx.motionCommand v = v := by
  unfold RxFrame.motionCommand
  split
  · unfold motionControl
    split
    · exact h.openIdle
    · exact h.closeIdle
  · rfl

theorem Held.doorunitCommand (h : v.Held) : rx.doorunitCommand v = v := by
  unfold RxFrame.doorunitCommand
  split
  · unfold doorunitValve
    split
    · exact h.lockIdle
    · split
      · exact h.openIdle
      · rfl
  · rfl

theorem Held.gatewayCommand (h : v.Held) : rx.gatewayCommand v = v := by
  unfold RxFrame.gatewayCommand
  split
  · unfold gatewayControl
    split
    · exact h.closeIdle
    · split
      · exact h.openIdle
      · rfl
  · rfl

theorem Covers.endunitHeart (hc : v.Covers) (h : v.Held) (battery : UInt8) : (v.endunitHeart battery).Covers := by
  unfold Controls.endunitHeart
  split
  · exact hc.warned h
  · split
    · exact hc.warned h
    · exact hc

theorem Covers.endunitValve (hc : v.Covers) (h : v.Held) (value : UInt8) (leak : Bool) :
    (v.endunitValve value leak).Covers ∨ value = 0 ∧ v.deviceStatus = .slaverSensorLeak ∧ leak = false := by
  unfold Controls.endunitValve
  split
  · rw [h.openIdle]
    exact Or.inl hc
  · rename_i hvalue
    split
    · rename_i hshown
      split
      · rename_i hleak
        exact Or.inr ⟨not_not.1 hvalue, hshown, hleak⟩
      · exact Or.inl hc
    · rw [h.lockIdle]
      exact Or.inl hc

theorem Covers.endunitWarn (hc : v.Covers) (h : v.Held) (sub value : UInt8) (leak lost : Bool) :
    (v.endunitWarn sub value leak lost).Covers ∨
      (sub = 0 ∧ value = 0) ∧ v.deviceStatus = .slaverSensorLeak ∧ leak = false := by
  unfold Controls.endunitWarn
  split
  · rename_i hsub
    split
    · exact Or.inl (hc.warned h)
    · rename_i hvalue
      unfold Controls.ended
      split
      · rename_i hshown
        split
        · rename_i hleak
          exact Or.inr ⟨⟨hsub, not_not.1 hvalue⟩, hshown, hleak⟩
        · exact Or.inl hc
      · exact Or.inl hc
  · left
    split
    · split
      · exact hc.warned h
      · -- a lost sensor does not show
        have hne : v.deviceStatus ≠ .slaverSensorLost := by
          rcases h.shown with hs | hs | hs <;> rw [hs] <;> decide
        rw [Controls.ended, if_neg hne]
        exact hc
    · exact hc

/-- An end unit clears the event in force only with the last leak. -/
theorem Covers.endunitCommand (hc : v.Covers) (h : v.Held) (leak lost : Bool) :
    (rx.endunitCommand leak lost v).Covers ∨
      (rx.rxData 0 = controlValveCmd ∧ rx.rxData 2 = 0 ∨
        rx.rxData 0 = warningUploadCmd ∧ rx.rxData 2 = 0 ∧ rx.rxData 3 = 0) ∧
        v.deviceStatus = .slaverSensorLeak ∧ leak = false := by
  unfold RxFrame.endunitCommand
  split
  · exact Or.inl (hc.endunitHeart h _)
  · split
    · rename_i hcmd
      exact (hc.endunitValve h _ _).imp_right fun ⟨hvalue, hended⟩ => ⟨Or.inl ⟨hcmd, hvalue⟩, hended⟩
    · split
      · rename_i hcmd
        exact (hc.endunitWarn h _ _ _ _).imp_right fun ⟨hwarn, hended⟩ => ⟨Or.inr ⟨hcmd, hwarn⟩, hended⟩
      · rw [h.learnCommand]
        exact Or.inl hc

end

end Controls

/-! A frame. -/

section
variable {rx : RxFrame} {s : State} {u : MainUnit} {e : Event}

theorem waterleak_commandOps (ht : rx.deviceType = deviceTypeEndunit)
    (hc : rx.rxData 0 = controlValveCmd ∧ rx.rxData 2 = 0 ∨
      rx.rxData 0 = warningUploadCmd ∧ rx.rxData 2 = 0 ∧ rx.rxData 3 = 0) (first : Bool) (d : Device) :
    (chained first rx.commandOps d).waterleak = if d.deviceId = rx.sourceAddr then 0 else d.waterleak := by
  rw [chained_eq (commandOps_of rx)]
  split
  · rcases hc with ⟨hc, hv⟩ | ⟨hc, hs, hv⟩
    · rw [RxFrame.commandOps, if_neg (by rw [hc]; decide), if_pos hc, assignOps, if_pos ⟨ht, hv⟩]
      cases first <;> rfl
    · rw [RxFrame.commandOps, if_neg (by rw [hc]; decide), if_neg (by rw [hc]; decide), if_pos ⟨hc, ht⟩, warnOps,
        if_pos hs, hv]
      cases first <;> rfl
  · rfl

/-- No leak is left exactly if the source's was the last. -/
theorem waterleakFind_commandOps (ht : rx.deviceType = deviceTypeEndunit)
    (hc : rx.rxData 0 = controlValveCmd ∧ rx.rxData 2 = 0 ∨
      rx.rxData 0 = warningUploadCmd ∧ rx.rxData 2 = 0 ∧ rx.rxData 3 = 0) :
    aqDeviceWaterleakFind (u.after rx.commandOps).storage = false ↔
      ∀ d ∈ u.storage.deviceList, d.waterleak ≠ 0 → d.deviceId = rx.sourceAddr := by
  have hlist : (u.after rx.commandOps).storage.deviceList =
      chainedList rx.sourceAddr rx.commandOps u.storage.deviceList := after_deviceList (commandOps_of rx) u.storage
  rw [aqDeviceWaterleakFind, hlist, List.any_eq_false]
  simp only [decide_eq_true_eq, not_not]
  constructor
  · intro h d hd hleak
    by_contra hid
    obtain ⟨d', hd', first, rfl⟩ := exists_mem_of_forall₂_left (chainedList_forall₂ _ _ _) hd
    have hnone := h _ hd'
    rw [waterleak_commandOps ht hc, if_neg hid] at hnone
    exact hleak hnone
  · intro h d' hd'
    obtain ⟨d, hd, first, rfl⟩ := mem_chainedList hd'
    rw [waterleak_commandOps ht hc]
    split
    · rfl
    · rename_i hid
      exact not_not.1 fun hleak => hid (h d hd hleak)

theorem plan_covers (hc : s.unit.core.controls.Covers) (h : s.unit.core.controls.Held) :
    ((rx.plan s.unit).f (aqDeviceWaterleakFind (s.unit.after (rx.plan s.unit).ops).storage)
      (aqDeviceWirelostFind (s.unit.after (rx.plan s.unit).ops).storage) s.unit.core.controls).Covers ∨
      rx.EndsLeak s.unit := by
  refine plan_cases (P := fun p => (p.f (aqDeviceWaterleakFind (s.unit.after p.ops).storage)
    (aqDeviceWirelostFind (s.unit.after p.ops).storage) s.unit.core.controls).Covers ∨ rx.EndsLeak s.unit) rx s.unit
    (Or.inl hc) ?_ ?_ ?_ ?_ ?_
  · intro _ _
    left
    change (rx.motionCommand _).Covers
    rwa [h.motionCommand]
  · intro hfrom he
    refine (hc.endunitCommand h _ _).imp_right fun ⟨hcmd, hshown, hleak⟩ => ?_
    exact ⟨hfrom, he, hcmd, hshown, (waterleakFind_commandOps he hcmd).1 hleak⟩
  · intro _ _
    left
    change (rx.doorunitCommand _).Covers
    rwa [h.doorunitCommand]
  · intro _ _
    left
    change (rx.gatewayCommand _).Covers
    rwa [h.gatewayCommand]
  · intro _
    left
    change (rx.learnCommand _).Covers
    rwa [h.learnCommand]

/-- **A frame** clears the event in force with the last offline end unit, or the
last leak. -/
theorem dispatch_covers (hc : s.unit.core.controls.Covers) (h : s.unit.core.controls.Held) (hend : ¬ rx.OtaEnd s.unit) :
    (radioFrameDispatch rx s).unit.core.controls.Covers ∨
      aqDeviceEndunitOfflineFind (radioFrameDispatch rx s).unit.storage = false ∨ rx.EndsLeak s.unit := by
  by_cases ha : rx.AddDevice s.unit
  · rw [(addDevice_enrols ha).controls]
    split
    · exact (hc.heard _).imp_right Or.inl
    · exact Or.inl hc
  by_cases hsync : rx.DeletesDevice s.unit
  · rw [(deletesDevice_handled hsync).2]
    exact Or.inl hc
  obtain ⟨u₁, hruns, _, hcontrols⟩ := (dispatch_plan ha hsync hend).run
  have hcommand := @plan_covers rx s hc h
  rw [← hruns.controls] at hcommand
  rw [hcontrols]
  rcases hcommand with hcommand | hleak
  · split
    · exact (hcommand.heard _).imp_right Or.inl
    · exact Or.inl hcommand
  · exact Or.inr (Or.inr hleak)

end

/-! Who is offline. -/

/-- The operation takes nobody offline. -/
def RegOp.Marks : RegOp → Prop
  | .onlineSet _ value => value = 1
  | _ => True

section
variable {rx : RxFrame} {s : State} {u : MainUnit} {e : Event} {d : Device}

theorem RegOp.Marks.offline {op : RegOp} (h : op.Marks) (hd : Alarm.offline.caused (op.change d) = true) :
    Alarm.offline.caused d = true := by
  obtain ⟨hon, ht⟩ := of_decide_eq_true hd
  rw [(op.change_same d).type] at ht
  refine decide_eq_true ⟨?_, ht⟩
  revert hon
  unfold RegOp.change setDevice
  cases op with
  | onlineSet a value =>
    obtain rfl : value = 1 := h
    dsimp only
    split
    · intro hon
      cases hon
    · exact id
  | create | delete | gatewayDelete | doorunitDelete | recvClear => exact id
  | _ => dsimp only; split <;> exact id

theorem chained_offline {first : Bool} {ops : List RegOp} (hops : ∀ op ∈ ops, op.Marks)
    (hd : Alarm.offline.caused (chained first ops d) = true) : Alarm.offline.caused d = true := by
  induction ops generalizing d with
  | nil => exact hd
  | cons op ops ih =>
    have hone : Alarm.offline.caused (op.changeAs first d) = true :=
      ih (fun o ho => hops o (List.mem_cons_of_mem _ ho)) hd
    unfold RegOp.changeAs at hone
    split at hone
    · exact hone
    · exact (hops op (List.mem_cons_self ..)).offline hone

theorem heardOps_marks : ∀ op ∈ heardOps rx, op.Marks := by
  simp [heardOps, RegOp.Marks]

theorem marks_marks : ∀ op ∈ rx.marks, op.Marks := by
  unfold RxFrame.marks
  split
  · simp [RegOp.Marks]
  · exact heardOps_marks

theorem plan_marks : ∀ op ∈ (rx.plan u).ops ++ (rx.plan u).ops', op.Marks := by
  have hcommand : ∀ op ∈ rx.commandOps, op.Marks := by
    refine commandOps_cases rx (P := fun ops => ∀ op ∈ ops, op.Marks) ?_ ?_ ?_ ?_ ?_ ?_ <;> simp [RegOp.Marks]
  have hheard : ∀ op ∈ rx.commandOps ++ heardOps rx, op.Marks := fun op hop =>
    (List.mem_append.1 hop).elim (hcommand op) (heardOps_marks op)
  refine planOps_cases (P := fun ops => ∀ op ∈ ops, op.Marks) rx u ?_ (fun _ => hheard) ?_
  · exact fun _ h => absurd h List.not_mem_nil
  · intro _ op hop
    obtain rfl := List.mem_singleton.1 hop
    trivial

/-- Every offline end unit of `u'` was one of `u`. -/
def OfflineBefore (u u' : MainUnit) : Prop :=
  aqDeviceEndunitOfflineFind u'.storage = true → aqDeviceEndunitOfflineFind u.storage = true

theorem OfflineBefore.of_mem {u' : MainUnit}
    (h : ∀ d ∈ u'.storage.deviceList, Alarm.offline.caused d = true →
      ∃ d₀ ∈ u.storage.deviceList, Alarm.offline.caused d₀ = true) : OfflineBefore u u' := by
  intro hfind
  obtain ⟨d, hd, ho⟩ := Alarm.offline.find_eq_true.1 hfind
  exact Alarm.offline.find_eq_true.2 (h d hd ho)

/-- A frame takes no end unit offline. -/
theorem dispatch_offline (hend : ¬ rx.OtaEnd s.unit) : OfflineBefore s.unit (radioFrameDispatch rx s).unit := by
  refine .of_mem fun d hd ho => ?_
  by_cases ha : rx.AddDevice s.unit
  · have hlearned : ∀ x ∈ (learnStorage s.unit.env.mallocDevice rx.addLevel rx.deviceType rx.sourceAddr
        s.unit.storage).2.deviceList, Alarm.offline.caused x = true → x ∈ s.unit.storage.deviceList := by
      intro x hx hxo
      refine (learnStorage_mem hx).resolve_right fun ⟨⟨slot, hnew⟩, _⟩ => ?_
      -- a new node counts as online
      rw [hnew] at hxo
      simp [Alarm.caused, newDevice] at hxo
    rw [(addDevice_enrols ha).storage, RxFrame.enrolled] at hd
    split at hd
    · rw [marks_deviceList] at hd
      obtain ⟨x, hx, first, rfl⟩ := mem_chainedList hd
      have hxo := chained_offline marks_marks ho
      exact ⟨x, hlearned x hx hxo, hxo⟩
    · exact ⟨d, hlearned d hd ho, ho⟩
  by_cases hsync : rx.DeletesDevice s.unit
  · obtain ⟨x, hx, rfl⟩ := dispatch_deleted hsync hd
    exact ⟨x, hx, @RegOp.Marks.offline x (.recvSet rx.sourceAddr 1) trivial ho⟩
  · rw [dispatch_planned ha hsync hend] at hd
    obtain ⟨x, hx, first, rfl⟩ := mem_chainedList hd
    exact ⟨x, hx, chained_offline plan_marks ho⟩

theorem gatewayHeartCheck_offline : OfflineBefore u (gatewayHeartCheck u) := by
  unfold gatewayHeartCheck
  split
  · exact id
  · split
    · refine .of_mem fun d hd ho => ?_
      rw [MainUnit.onStorage_storage, recvSet_deviceList] at hd
      obtain ⟨x, hx, rfl⟩ := List.mem_map.1 hd
      exact ⟨x, hx, @RegOp.Marks.offline x (.recvSet (aqGatewayFind u.storage) 0) trivial ho⟩
    · exact id

/-- **Only the heartbeat check** takes an end unit offline. -/
theorem Event.offline (hno : e.resetsUnit s = false) (hcheck : e ≠ .rtcDeviceHeartCheck) :
    OfflineBefore s.unit (e.handle s).unit := by
  by_cases hradio : ∃ rssi snr data len, e = .radio rssi snr data len
  · obtain ⟨rssi, snr, data, len, rfl⟩ := hradio
    rw [Event.handle, radioProtocolParse_eq]
    split
    · rename_i hacc
      exact dispatch_offline fun hend => of_decide_eq_false hno ⟨hacc, hend⟩
    · exact id
  by_cases hcheck' : e = .rtcGatewayHeartCheck
  · rw [hcheck']
    exact gatewayHeartCheck_offline
  · have hlist := Event.keeps_deviceList hno (fun rssi snr data len he => hradio ⟨rssi, snr, data, len, he⟩) hcheck hcheck'
    exact fun hfind => (Alarm.offline.find_congr hlist).symm.trans hfind

end

/-! The other events. -/

section
variable {s : State} {e : Event} {u u' : MainUnit}

theorem Controls.Covers.congr {v v' : Controls} (hc : v.Covers) (h : v' = v) : v'.Covers := h ▸ hc

/-- The keys do nothing under these statuses. -/
theorem Controls.Held.keyOnClick (h : u.core.controls.Held) : keyOnClickHandle u = u := by
  unfold keyOnClickHandle
  rcases h.shown with hs | hs | hs <;> rw [show u.core.deviceStatus = _ from hs]

theorem Controls.Held.keyOffClick (h : u.core.controls.Held) : keyOffClickHandle u = u := by
  unfold keyOffClickHandle
  rcases h.shown with hs | hs | hs <;> rw [show u.core.deviceStatus = _ from hs]

theorem Controls.Held.click (h : s.unit.core.controls.Held)
    (he : ∀ on, e.click s = some on →
      (e.handle s).unit = if on then keyOnClickHandle s.unit else keyOffClickHandle s.unit)
    (hno : e.click s = none → (e.handle s).unit = s.unit) : (e.handle s).unit = s.unit := by
  cases hc : e.click s with
  | none => exact hno hc
  | some on =>
    rw [he on hc]
    cases on with
    | true => exact h.keyOnClick
    | false => exact h.keyOffClick

theorem Controls.Held.startLearn (h : u.core.controls.Held) :
    (radioStartLearnDevice u).core.controls = u.core.controls := by
  rw [startLearn_runs.controls, h.toggled]

theorem Controls.Held.dryContact (h : u.core.controls.Held) (level : PinLevel) : valveDryContactControl level u = u :=
  if_neg h.not_idle

/-- A failed stage raises a weaker warning. -/
theorem Controls.Covers.stageFails {side : Side} (hc : u.core.controls.Covers) (h : u.core.controls.Held)
    (hu : u'.core.controls = { u.core.controls with valveValid := false }) :
    (warningEnable side.failEvent u').core.controls.Covers := by
  rw [valveFail_controls, hu]
  exact Controls.Covers.warned hc ⟨h.shown, h.priority⟩

theorem Controls.Covers.turnBack {side : Side} (hc : u.core.controls.Covers) (h : u.core.controls.Held) :
    (turnBackTimerCallback side u).core.controls.Covers := by
  unfold turnBackTimerCallback
  split
  · exact hc
  · exact hc.stageFails h rfl

theorem Controls.Covers.turnCheck {side : Side} (hc : u.core.controls.Covers) (h : u.core.controls.Held) :
    (turnCheckTimerCallback side u).core.controls.Covers := by
  by_cases hp : u.env.fullyOpen side = .pinLow
  · rw [turnCheck_passed hp, setMotor_controls]
    split
    · obtain hsame | ⟨_, hfail⟩ := valvefailWarningDisable_cases { u.core with valveValid := true }
      · rw [hsame]
        exact hc
      · -- the failure of a side does not show
        have hfail : u.core.controls.deviceStatus = .valveLeftFail ∨ u.core.controls.deviceStatus = .valveRightFail := hfail
        exfalso
        rcases h.shown with hs | hs | hs <;> rw [hs] at hfail <;> exact absurd hfail (by decide)
    · exact hc
  · rw [turnCheck_failed hp]
    exact hc.stageFails h rfl

theorem Controls.Covers.timer (hc : u.core.controls.Covers) (h : u.core.controls.Held) {t : Timer}
    (ht : t ≠ .radioLearn) : (t.callback (t.disarm u)).core.controls.Covers := by
  cases t with
  | radioLearn => exact absurd rfl ht
  | valveDelayClose =>
    have hkeep : valveDelayCloseTimerCallback (Timer.valveDelayClose.disarm u) = Timer.valveDelayClose.disarm u :=
      if_neg h.not_idle
    change (valveDelayCloseTimerCallback _).core.controls.Covers
    rw [hkeep]
    exact hc
  | valveDetectOnce => exact hc.congr (checkStart_controls ..)
  | turnBack side => exact Controls.Covers.turnBack (u := (Timer.turnBack side).disarm u) hc h
  | turnCheck side => exact Controls.Covers.turnCheck (u := (Timer.turnCheck side).disarm u) hc h
  | heartConnect =>
    change (heartConnectTimerCallback _).core.controls.Covers
    unfold heartConnectTimerCallback
    split
    · split
      · simp only [gatewayHeartUploadPoweron, gatewayUpload_core]
        exact hc
      · exact hc
    · exact hc

/-- **The other events** clear the event in force only when the learn timer runs
out. -/
theorem Event.covers (hc : s.unit.core.controls.Covers) (h : s.unit.core.controls.Held) (hno : e.resetsUnit s = false)
    (hradio : ∀ rssi snr data len, e ≠ .radio rssi snr data len) (hcheck : e ≠ .rtcDeviceHeartCheck)
    (hlearn : e ≠ .timer .radioLearn) : (e.handle s).unit.core.controls.Covers := by
  cases e with
  | radio rssi snr data len => exact absurd rfl (hradio rssi snr data len)
  | rtcDeviceHeartCheck => exact absurd rfl hcheck
  | reboot => cases hno
  | keyOnClick => exact hc.congr (congrArg (fun u : MainUnit => u.core.controls) h.keyOnClick)
  | keyOffClick => exact hc.congr (congrArg (fun u : MainUnit => u.core.controls) h.keyOffClick)
  | modbusCoils reg usAddress usNCoils =>
    rw [h.click (fun _ => Event.handle_click) fun hnone =>
      @Event.handle_write s _ reg reg usAddress usNCoils usAddress usNCoils (Or.inl rfl) hnone]
    exact hc
  | modbusHolding reg usAddress usNRegs =>
    rw [h.click (fun _ => Event.handle_click) fun hnone =>
      @Event.handle_write s _ reg reg usAddress usNRegs usAddress usNRegs (Or.inr rfl) hnone]
    exact hc
  | keyOnLongHold =>
    have hlong := longClick_unit (Or.inl rfl) hno
    change (keyOnLongHoldHandle s).unit.core.controls.Covers
    unfold keyOnLongHoldHandle
    split
    · exact hc
    · split
      · rw [hlong]
        exact hc
      · split
        · exact hc.congr (checkStart_controls ..)
        · exact hc
  | keyOffLongHold =>
    have hlong := longClick_unit (Or.inr rfl) hno
    change (keyOffLongHoldHandle s).unit.core.controls.Covers
    unfold keyOffLongHoldHandle
    split
    · exact hc
    · split
      · rw [hlong]
        exact hc
      · split
        · exact hc.congr h.startLearn
        · exact hc
  | dryContact level =>
    change (dryContactPollingTimerCallback level s).unit.core.controls.Covers
    unfold dryContactPollingTimerCallback
    split
    · exact hc.congr (congrArg (fun u : MainUnit => u.core.controls) (h.dryContact level))
    · exact hc
  | rtcValveCheck => exact hc.congr (checkStart_controls ..)
  | rtcGatewayHeartCheck =>
    change (gatewayHeartCheck s.unit).core.controls.Covers
    unfold gatewayHeartCheck
    split
    · exact hc
    · split <;> exact hc
  | heartConnectStart => exact hc.congr (congrArg Core.controls (gatewayConnectStart_core s.unit).1)
  | heartUpload =>
    change (heartThreadUpload s.unit).core.controls.Covers
    unfold heartThreadUpload
    split
    · exact hc.congr (congrArg Core.controls (gatewayUpload_core ..))
    · exact hc
  | timer t => exact hc.timer h fun ht => hlearn (congrArg Event.timer ht)
  | keyOnLongFree | keyOffLongFree | rfAckInit => exact hc

end

/-! The check, and what forgets. -/

section
variable {rx : RxFrame} {s : State} {u : MainUnit} {e : Event}

/-- An end unit that is offline after the check is covered. -/
theorem heartCheck_covers (hfind : aqDeviceEndunitOfflineFind (aqDeviceHeartCheck u).storage = true) :
    (aqDeviceHeartCheck u).core.controls.Covers := by
  rw [(heartCheck_spec u).1] at hfind
  have hraised : ∀ u : MainUnit, (warningEnable .slaverOffline u).core.controls.Covers := by
    intro u
    by_cases hp : u.core.nowEvent.priority ≤ Warning.slaverOffline.priority
    · have hshown := congrArg AlarmView.deviceStatus (warningEnable_alarm (w := .slaverOffline) hp)
      exact Or.inl hshown
    · rw [warningEnable_dropped hp]
      exact Or.inr (Nat.not_le.1 hp)
  rw [deviceHeartCheck_core, if_pos hfind]
  exact hraised _

theorem endsLeak_run (h : rx.EndsLeak s.unit) :
    (rx.plan s.unit).Run s.unit (radioFrameDispatch rx s).unit := by
  refine dispatch_plan (fun ha => ?_) (fun hd => ?_) fun hend => ?_
  · rcases h.command with hc | hc <;> exact absurd (hc.1.symm.trans ha.command) (by decide)
  · exact absurd (h.deviceType.symm.trans hd.deviceType) (by decide)
  · exact absurd (h.deviceType.symm.trans hend.deviceType) (by decide)

/-- The end unit is online after its frame, and the others are as they were. -/
theorem endsLeak_offline (h : rx.EndsLeak s.unit) :
    aqDeviceEndunitOfflineFind (radioFrameDispatch rx s).unit.storage = true ↔
      ∃ d ∈ s.unit.storage.deviceList, Alarm.offline.caused d = true ∧ d.deviceId ≠ rx.sourceAddr := by
  have hlist := (endsLeak_run h).deviceList (plan_settled rx s.unit).of
  rw [plan_endunit h.fromListed h.deviceType] at hlist
  have hnode : ∀ first d, Alarm.offline.caused (chained first (rx.commandOps ++ heardOps rx) d) = true ↔
      Alarm.offline.caused d = true ∧ d.deviceId ≠ rx.sourceAddr := by
    intro first d
    rw [chained_eq fun op hop => (List.mem_append.1 hop).elim (commandOps_of rx op) (heardOps_of rx op)]
    by_cases hid : d.deviceId = rx.sourceAddr
    · rw [if_pos hid, List.foldl_append]
      refine iff_of_false (fun ho => ?_) fun h => h.2 hid
      cases first <;> simp [heardOps, RegOp.assigned, RegOp.assignedAs, RegOp.onlyFirst, Alarm.caused] at ho
    · rw [if_neg hid]
      exact (and_iff_left hid).symm
  change Alarm.offline.find _ = true ↔ _
  rw [Alarm.find_eq_true, hlist]
  constructor
  · rintro ⟨d', hd', ho⟩
    obtain ⟨d, hd, first, rfl⟩ := mem_chainedList hd'
    exact ⟨d, hd, (hnode first d).1 ho⟩
  · rintro ⟨d, hd, ho⟩
    obtain ⟨d', hd', first, rfl⟩ := exists_mem_of_forall₂_left (chainedList_forall₂ _ _ _) hd
    exact ⟨_, hd', (hnode first d).2 ho⟩

/-- Clearing shows the valve's status. -/
theorem cleared_shows (v : Controls) : v.cleared.deviceStatus = .valveClose ∨ v.cleared.deviceStatus = .valveOpen := by
  change v.valveStatus.toDeviceStatus = _ ∨ v.valveStatus.toDeviceStatus = _
  cases v.valveStatus
  · exact Or.inl rfl
  · exact Or.inr rfl

theorem closed_shows {v : Controls} (h : v.deviceStatus = .valveClose ∨ v.deviceStatus = .valveOpen) :
    v.closed.deviceStatus = .valveClose ∨ v.closed.deviceStatus = .valveOpen := by
  unfold Controls.closed
  split
  · exact h
  · exact Or.inl rfl

theorem endunitCommand_shows {v : Controls} {lost : Bool}
    (hc : rx.rxData 0 = controlValveCmd ∧ rx.rxData 2 = 0 ∨
      rx.rxData 0 = warningUploadCmd ∧ rx.rxData 2 = 0 ∧ rx.rxData 3 = 0)
    (hleak : v.deviceStatus = .slaverSensorLeak) :
    (rx.endunitCommand false lost v).deviceStatus = .valveClose ∨
      (rx.endunitCommand false lost v).deviceStatus = .valveOpen := by
  unfold RxFrame.endunitCommand
  rcases hc with ⟨hc, hv⟩ | ⟨hc, hs, hv⟩
  · rw [if_neg (by rw [hc]; decide), if_pos hc, Controls.endunitValve, if_neg (not_not.2 hv), if_pos hleak, if_pos rfl]
    exact cleared_shows v
  · rw [if_neg (by rw [hc]; decide), if_neg (by rw [hc]; decide), if_pos hc, Controls.endunitWarn, if_pos hs,
      if_neg (not_not.2 hv), Controls.ended, if_pos hleak, if_pos rfl]
    exact closed_shows (cleared_shows v)

theorem endsLeak_shows (h : rx.EndsLeak s.unit) :
    (radioFrameDispatch rx s).unit.core.deviceStatus = .valveClose ∨
      (radioFrameDispatch rx s).unit.core.deviceStatus = .valveOpen := by
  have hnone := (waterleakFind_commandOps (u := s.unit) h.deviceType h.command).2 h.last
  obtain ⟨u₁, hruns, _, hcontrols⟩ := (endsLeak_run h).run
  rw [plan_endunit h.fromListed h.deviceType] at hruns hcontrols
  have hcommand : u₁.core.controls.deviceStatus = .valveClose ∨ u₁.core.controls.deviceStatus = .valveOpen := by
    rw [hruns.controls, hnone]
    exact endunitCommand_shows h.command h.shown
  have hheard : (radioFrameDispatch rx s).unit.core.controls = u₁.core.controls := by
    rw [hcontrols, if_pos rfl, Controls.heard, Controls.ended, if_neg]
    rcases hcommand with h | h <;> rw [h] <;> decide
  change (radioFrameDispatch rx s).unit.core.controls.deviceStatus = _ ∨
    (radioFrameDispatch rx s).unit.core.controls.deviceStatus = _
  rwa [hheard]

/-- **What forgets**: the valve's status shows, and an end unit is offline. -/
theorem ForgetsOffline.handled (h : ForgetsOffline s.unit e) :
    e.resetsUnit s = false ∧
      ((e.handle s).unit.core.deviceStatus = .valveClose ∨ (e.handle s).unit.core.deviceStatus = .valveOpen) ∧
      aqDeviceEndunitOfflineFind (e.handle s).unit.storage = true := by
  cases h with
  | leakEnded hf h ho =>
    rw [hf.handle]
    refine ⟨?_, endsLeak_shows h, (endsLeak_offline h).2 ho⟩
    obtain ⟨rssi, snr, data, len, rfl, _, rfl⟩ := hf
    exact decide_eq_false fun hr => absurd (h.deviceType.symm.trans hr.2.deviceType) (by decide)
  | learnTimeout he ho =>
    subst he
    have hcore : (Event.handle (.timer .radioLearn) s).unit.core = _ := (gatewayConnectStart_core _).1
    have hstorage : (Event.handle (.timer .radioLearn) s).unit.storage = _ := (gatewayConnectStart_core _).2
    refine ⟨rfl, ?_, ?_⟩
    · rw [hcore]
      exact cleared_shows s.unit.core.controls
    · rw [hstorage]
      exact ho

/-- What does not forget keeps an offline end unit covered. -/
theorem covers_or_forgets (hc : s.unit.core.controls.Covers) (h : s.unit.core.controls.Held)
    (hno : e.resetsUnit s = false) (hcheck : e ≠ .rtcDeviceHeartCheck)
    (hfind' : aqDeviceEndunitOfflineFind (e.handle s).unit.storage = true) :
    (e.handle s).unit.core.controls.Covers ∨ ForgetsOffline s.unit e := by
  by_cases hradio : ∃ rssi snr data len, e = .radio rssi snr data len
  · obtain ⟨rssi, snr, data, len, rfl⟩ := hradio
    by_cases hacc : radioAccepted s.unit.cfg data len
    · have hf : Event.Frame s.unit (.radio rssi snr data len) (rxFrameOf s.unit.env.stackSnr rssi data len) :=
        ⟨rssi, snr, data, len, rfl, hacc, rfl⟩
      rw [hf.handle] at hfind' ⊢
      rcases dispatch_covers hc h fun hend => of_decide_eq_false hno ⟨hacc, hend⟩ with hc' | hnone | hleak
      · exact Or.inl hc'
      · rw [hnone] at hfind'
        cases hfind'
      · exact Or.inr (.leakEnded hf hleak ((endsLeak_offline hleak).1 hfind'))
    · rw [Event.handle, radioProtocolParse_eq, if_neg hacc]
      exact Or.inl hc
  by_cases hlearn : e = .timer .radioLearn
  · exact Or.inr (.learnTimeout hlearn (Event.offline hno hcheck hfind'))
  · exact Or.inl (Event.covers hc h hno (fun rssi snr data len he => hradio ⟨rssi, snr, data, len, he⟩) hcheck hlearn)

end

/-! One event. -/

/-- An end unit that is offline after a `SlaverOffline` is covered. -/
structure OfflineInv (p : State × Bool) : Prop where
  outranked : Outranked p.1.unit.core.alarm
  priority : OfflinePriority p.1.unit.core.alarm
  covers : p.2 = true → aqDeviceEndunitOfflineFind p.1.unit.storage = true → p.1.unit.core.controls.Covers

section
variable {cfg : Config} {p p' : State × Bool} {i : Env × Event}

theorem OfflineInv.returns (h : OfflineInv p) : OfflineReturns p := by
  intro hlog hshown
  by_contra hfind
  have hheld := (h.covers hlog (Bool.eq_true_of_not_eq_false hfind)).held h.outranked h.priority
  exact hheld.not_idle (hshown.imp id Or.inl)

theorem offlineLog_eq_true {s : State} {shown : Bool} :
    offlineLog s i shown = true ↔ i.2.resetsUnit (s.onUnit (MainUnit.begin i.1)) = false ∧
      (shown = true ∨ s.unit.core.deviceStatus = .slaverOffline) := by
  simp [offlineLog]

/-- **One event** that does not forget. -/
theorem OfflineInv.next (h : OfflineInv p) (hok : KeepsOffline p i) (hn : (offlineSystem cfg).next p i = some p') :
    OfflineInv p' := by
  obtain ⟨s, shown⟩ := p
  obtain ⟨s', shown'⟩ := p'
  obtain ⟨hnext, rfl⟩ := Machine.logged_next_eq_some.1 hn
  refine ⟨?_, ?_, fun hlog hfind' => ?_⟩
  · exact alarm_keeps (P := fun u => Outranked u.core.alarm) (fun h => h)
      (fun _ _ hstep hi => hstep.outranked h.outranked hi) hnext h.outranked
  · exact alarm_keeps (P := fun u => OfflinePriority u.core.alarm) (fun h => h)
      (fun _ _ hstep hi => hstep.offlinePriority hi) hnext h.priority
  obtain ⟨hno, hbefore⟩ := offlineLog_eq_true.1 hlog
  obtain ⟨_, rfl⟩ := system_next_eq_some.1 hnext
  obtain ⟨env, e⟩ := i
  dsimp only at hno hbefore hfind' ⊢
  by_cases hcheck : e = .rtcDeviceHeartCheck
  · subst hcheck
    exact heartCheck_covers hfind'
  -- it was offline before, and covered
  have hfind : aqDeviceEndunitOfflineFind (s.onUnit (MainUnit.begin env)).unit.storage = true :=
    Event.offline hno hcheck hfind'
  have hc : (s.onUnit (MainUnit.begin env)).unit.core.controls.Covers :=
    hbefore.elim (fun hlog => h.covers hlog hfind) Or.inl
  exact (covers_or_forgets hc (hc.held h.outranked h.priority) hno hcheck hfind').resolve_right (hok hbefore)

/-- One that forgets. -/
theorem KeepsOffline.of_returns (hn : (offlineSystem cfg).next p i = some p') (hr : OfflineReturns p') :
    KeepsOffline p i := by
  obtain ⟨s, shown⟩ := p
  obtain ⟨s', shown'⟩ := p'
  obtain ⟨hnext, rfl⟩ := Machine.logged_next_eq_some.1 hn
  obtain ⟨_, rfl⟩ := system_next_eq_some.1 hnext
  intro hbefore hforgets
  obtain ⟨hno, hshown, hfind⟩ := ForgetsOffline.handled (s := s.onUnit (MainUnit.begin i.1)) hforgets
  have hnone := hr (offlineLog_eq_true.2 ⟨hno, hbefore⟩) hshown
  rw [hfind] at hnone
  cases hnone

end

/-- **An offline alarm comes back** from behind a stronger one, exactly where no
event forgets it. -/
theorem offline_returns_iff (cfg : Config) (env : Env) (flash : Flash) (download : Nat → UInt8)
    (is : List (Env × Event)) :
    (offlineSystem cfg).Always OfflineReturns (powerOn cfg env flash download, false) is ↔
      (offlineSystem cfg).Steps (fun p i _ => KeepsOffline p i) (powerOn cfg env flash download, false) is := by
  refine @Machine.always_iff_steps _ _ (offlineSystem cfg) OfflineInv OfflineReturns KeepsOffline _ ?_
    (fun _ h => h.returns) (fun _ _ _ h hok hn => h.next hok hn) (fun _ _ _ _ hbad hn hr => hbad (.of_returns hn hr)) is
  exact ⟨boot_outranked _, boot_offlinePriority _, fun h => absurd h Bool.false_ne_true⟩

/-- End units 7 and 8 are added, and the check takes both offline. Unit 7 reports
a leak, and takes it back: the valve's status shows, and unit 8 is offline. -/
theorem offline_returns_fails :
    ¬ ∀ (cfg : Config) (env : Env) (flash : Flash) (download : Nat → UInt8) (is : List (Env × Event)),
      (offlineSystem cfg).Always OfflineReturns (powerOn cfg env flash download, false) is := by
  intro h
  refine Machine.not_always_of_run (M := offlineSystem sampleConfig) (sampleStart, false)
    [(sampleEnv, sampleFrame deviceTypeEndunit 7 [learnDeviceCmd, 1, 1]),
      (sampleEnv, sampleFrame deviceTypeEndunit 8 [learnDeviceCmd, 1, 1]),
      (sampleEnv, .rtcDeviceHeartCheck),
      (sampleEnv, sampleFrame deviceTypeEndunit 7 [warningUploadCmd, 2, 0, 1]),
      (sampleEnv, sampleFrame deviceTypeEndunit 7 [warningUploadCmd, 2, 0, 0])] ?_ (h _ _ _ _ _)
  decide +kernel

end Aqualarm
