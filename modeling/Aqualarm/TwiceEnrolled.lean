import Aqualarm.TwiceHandled
import Aqualarm.RegistryTwice

/-
  The second copy of a request to add a device, and of one to delete one.

  What is proved:
    1. `addDevice_enrols` — a request to add does `RxFrame.enrolled` to the
       registry, whatever the type.
    2. `addDevice_again`, `addDevice_controls` — the second copy is the second
       request of `enrolled_agrees_iff`.
    3. `deletesDevice_twice` — the second copy of a deletion does something exactly
       if the address was listed twice.
-/

namespace Aqualarm

open Lib Relation

/-! A request to add. -/

/-- A request to add, handled. -/
structure Enrols (rx : RxFrame) (u u' : MainUnit) : Prop where
  storage : u'.storage = rx.enrolled u.env.mallocDevice u.storage
  controls : u'.core.controls =
    if rx.deviceType = deviceTypeEndunit ∧ Listed rx.sourceAddr u.storage then
      u.core.controls.heard (aqDeviceEndunitOfflineFind u'.storage)
    else u.core.controls

section
variable {rx : RxFrame} {u : MainUnit}

/-! The learn part refreshes the timer at most. -/

theorem endunitLearn_controls (ha : rx.AddDevice u) :
    (radioFrameEndunitParseLearn rx u).core.controls = u.core.controls := by
  unfold radioFrameEndunitParseLearn
  rw [if_neg ha.not_broadcast, if_pos ha.toUnit]
  dsimp only
  rw [if_pos ha.subCommand]
  split
  · rfl
  · exact gatewayUpload_controls ..

theorem motionLearn_controls (ha : rx.AddDevice u) :
    (radioFrameMotionParseLearn rx u).core.controls = u.core.controls := by
  unfold radioFrameMotionParseLearn
  rw [if_neg ha.not_broadcast, if_pos ha.toUnit]
  dsimp only
  rw [if_pos ha.subCommand]
  split
  · rfl
  · exact gatewayUpload_controls ..

theorem doorunitLearn_controls (ha : rx.AddDevice u) :
    (radioFrameDoorunitParseLearn rx u).core.controls = u.core.controls := by
  unfold radioFrameDoorunitParseLearn
  rw [if_neg ha.not_broadcast, if_pos ha.toUnit]
  dsimp only
  obtain ⟨ms, _, h⟩ :=
    aqDoorunitDelete_eq (radioDoorunitCommandSend (replyFrame rx learnDeviceCmd [rx.rxData 2] u) u)
  rw [if_pos ha.subCommand, h]
  split
  · rfl
  · exact gatewayUpload_controls ..

theorem gatewayLearn_controls (ha : rx.AddDevice u) :
    (radioFrameGatewayParseLearn rx u).core.controls = u.core.controls := by
  unfold radioFrameGatewayParseLearn
  rw [if_neg ha.not_broadcast, if_pos ha.toUnit, if_pos ha.subCommand]
  dsimp only
  split
  · rfl
  · rw [gatewayLearnAddUpload, radioGatewayCommandSend_core]
    rfl

/-! The frame. -/

/-- The learn part, and behind it, if the source was listed before, its marks. -/
theorem Enrols.of_learned {u₁ u' : MainUnit}
    (hstorage : u₁.storage =
      (learnStorage u.env.mallocDevice rx.addLevel rx.deviceType rx.sourceAddr u.storage).2)
    (hcontrols : u₁.core.controls = u.core.controls)
    (hnew : ¬ Listed rx.sourceAddr u.storage → u' = u₁)
    (hknown : Listed rx.sourceAddr u.storage →
      u'.storage = rx.marks.foldl (fun st op => op.apply st) u₁.storage ∧
        u'.core.controls =
          if rx.deviceType = deviceTypeEndunit then u₁.core.controls.heard (aqDeviceEndunitOfflineFind u'.storage)
          else u₁.core.controls) : Enrols rx u u' := by
  by_cases hl : Listed rx.sourceAddr u.storage
  · obtain ⟨hs, hc⟩ := hknown hl
    refine ⟨?_, ?_⟩
    · rw [hs, hstorage, RxFrame.enrolled, if_pos hl]
    · rw [hc, hcontrols]
      simp only [hl, and_true]
  · obtain rfl := hnew hl
    refine ⟨?_, ?_⟩
    · rw [hstorage, RxFrame.enrolled, if_neg hl]
    · rw [hcontrols, if_neg fun h => hl h.2]

theorem endunitParse_enrols (ha : rx.AddDevice u) (ht : rx.deviceType = deviceTypeEndunit) :
    Enrols rx u (radioFrameEndunitParse rx u) := by
  have hlevel : rx.addLevel = rx.rssiLevel := if_neg (by rw [ht]; decide)
  have hmarks : rx.marks = heardOps rx := if_neg (by rw [ht]; decide)
  have hstorage := endunitLearn_storage ha ht
  rw [← hlevel] at hstorage
  refine .of_learned hstorage (endunitLearn_controls ha) (fun hl => ?_) fun hl => ?_
  · rw [endunitParse_other fun h => hl h.listed, if_pos ha.command]
  · rw [endunitParse_learn ⟨hl, ha.toUnit⟩ ha.command, offlineCheck_storage, warningOfflineCheck_controls, hmarks,
      if_pos ht]
    exact ⟨heartRecv_after rx _, rfl⟩

theorem doorunitParse_enrols (ha : rx.AddDevice u) (ht : rx.deviceType = deviceTypeDoorunit) :
    Enrols rx u (radioFrameDoorunitParse rx u) := by
  have hlevel : rx.addLevel = rx.rssiLevel := if_neg (by rw [ht]; decide)
  have hmarks : rx.marks = heardOps rx := if_neg (by rw [ht]; decide)
  have hstorage := doorunitLearn_storage ha ht
  rw [← hlevel] at hstorage
  refine .of_learned hstorage (doorunitLearn_controls ha) (fun hl => ?_) fun hl => ?_
  · rw [doorunitParse_other fun h => hl h.listed, if_pos ha.command]
  · rw [doorunitParse_learn ⟨hl, ha.toUnit⟩ ha.command, hmarks, if_neg (by rw [ht]; decide)]
    exact ⟨heartRecv_after rx _, rfl⟩

theorem motionParse_enrols (ha : rx.AddDevice u) (ht : rx.deviceType = deviceTypeMotionSensor) :
    Enrols rx u (radioFrameMotionParse rx u) := by
  have hlevel : rx.addLevel = rx.rssiLevel := if_neg (by rw [ht]; decide)
  have hmarks : rx.marks = heardOps rx := if_neg (by rw [ht]; decide)
  have hstorage := motionLearn_storage ha ht
  rw [← hlevel] at hstorage
  refine .of_learned hstorage (motionLearn_controls ha) (fun hl => ?_) fun hl => ?_
  · rw [motionParse_other fun h => hl h.listed, if_pos ha.command]
  · rw [motionParse_learn ⟨hl, ha.toUnit⟩ ha.command, hmarks, if_neg (by rw [ht]; decide)]
    exact ⟨heartRecv_after rx _, rfl⟩

theorem gatewayParse_enrols {s : State} (ha : rx.AddDevice s.unit) (ht : rx.deviceType = deviceTypeGateway) :
    Enrols rx s.unit (radioFrameGatewayParse rx s).unit := by
  have hlevel : rx.addLevel = 0 := if_pos ht
  have hmarks : rx.marks = [.recvSet rx.sourceAddr 1] := if_pos ht
  have hstorage := gatewayLearn_storage ha ht
  rw [← hlevel] at hstorage
  refine .of_learned hstorage (gatewayLearn_controls ha) (fun hl => ?_) fun hl => ?_
  · rw [gatewayParse_other fun h => hl h.listed, if_pos ha.command]
    rfl
  · rw [gatewayParse_learn ⟨hl, ha.toUnit⟩ ha.command, hmarks, if_neg (by rw [ht]; decide)]
    exact ⟨rfl, rfl⟩

theorem addDevice_enrols {s : State} (ha : rx.AddDevice s.unit) : Enrols rx s.unit (radioFrameDispatch rx s).unit := by
  unfold radioFrameDispatch
  rcases ha.deviceType with ht | ht | ht | ht
  · rw [if_pos ht]
    exact motionParse_enrols ha ht
  · rw [if_neg (by rw [ht]; decide), if_pos ht]
    exact endunitParse_enrols ha ht
  · rw [if_neg (by rw [ht]; decide), if_neg (by rw [ht]; decide), if_pos ht]
    exact doorunitParse_enrols ha ht
  · rw [if_neg (by rw [ht]; decide), if_neg (by rw [ht]; decide), if_neg (by rw [ht]; decide), if_pos ht]
    exact gatewayParse_enrols ha ht

end

/-! The second copy. -/

section
variable {rx : RxFrame} {e : Event} {s : State}

theorem Controls.heard_again (offline : Bool) (v : Controls) : (v.heard offline).heard offline = v.heard offline := by
  unfold Controls.heard Controls.ended
  by_cases hs : v.deviceStatus = .slaverOffline
  · by_cases ho : offline = false
    · simp only [if_pos hs, if_pos ho, if_neg (Controls.cleared_ne_offline v)]
    · simp only [if_pos hs, if_neg ho]
  · simp only [if_neg hs]

/-- The unit at the start of an event: nothing written yet. -/
def Begun (u : MainUnit) : Prop := u.storage.writes = [] ∧ u.storage.writeOk = u.env.efSetEnvBlob

theorem again_begin (hb : Begun s.unit) :
    (s.again s.unit.env rx).unit.storage = (radioFrameDispatch rx s).unit.storage.begin s.unit.storage.writeOk := by
  rw [hb.2]
  rfl

theorem addDevice_again (hf : e.Frame s.unit rx) (hb : Begun s.unit) (ha : rx.AddDevice s.unit) :
    (radioFrameDispatch rx (s.again s.unit.env rx)).unit.storage =
      rx.enrolled s.unit.env.mallocDevice
        ((rx.enrolled s.unit.env.mallocDevice s.unit.storage).begin s.unit.storage.writeOk) := by
  have hagain := (addDevice_enrols ((again_addDevice hf s.unit.env).2 ha)).storage
  rw [hagain, again_begin hb, (addDevice_enrols ha).storage]
  rfl

/-- Where the registry agrees, so do the alarm, the lock and the valve. -/
theorem addDevice_controls (hf : e.Frame s.unit rx) (hb : Begun s.unit) (ha : rx.AddDevice s.unit)
    (hagrees : (radioFrameDispatch rx s).unit.storage.Agrees
      (radioFrameDispatch rx (s.again s.unit.env rx)).unit.storage) :
    (radioFrameDispatch rx (s.again s.unit.env rx)).unit.core.controls =
      (radioFrameDispatch rx s).unit.core.controls := by
  have hfirst := addDevice_enrols ha
  have hsecond := addDevice_enrols ((again_addDevice hf s.unit.env).2 ha)
  have hoffline : aqDeviceEndunitOfflineFind (radioFrameDispatch rx (s.again s.unit.env rx)).unit.storage =
      aqDeviceEndunitOfflineFind (radioFrameDispatch rx s).unit.storage := Alarm.offline.find_congr hagrees.deviceList
  have hbetween : (s.again s.unit.env rx).unit.core.controls = (radioFrameDispatch rx s).unit.core.controls := rfl
  rw [hsecond.controls, hoffline, hbetween]
  by_cases hend : rx.deviceType = deviceTypeEndunit ∧ Listed rx.sourceAddr (s.again s.unit.env rx).unit.storage
  · rw [if_pos hend]
    have hlisted : Listed rx.sourceAddr s.unit.storage := by
      by_contra hu
      have hl : Listed rx.sourceAddr (rx.enrolled s.unit.env.mallocDevice s.unit.storage) := by
        rw [← hfirst.storage]
        exact hend.2
      rw [RxFrame.enrolled, if_neg hu] at hl
      obtain ⟨_, hm, hroom⟩ := (learnStorage_listed hl).resolve_left hu
      refine @enrolled_again_stranger rx s.unit.storage.writeOk s.unit.storage hu (room_iff.1 hroom) ?_
      have hdevices := hagrees.deviceList
      rw [addDevice_again hf hb ha, hfirst.storage, hm] at hdevices
      exact hdevices
    rw [hfirst.controls, if_pos ⟨hend.1, hlisted⟩]
    exact Controls.heard_again _ _
  · rw [if_neg hend]

/-! A request to delete. -/

/-- The source is marked as heard, then the device is deleted. -/
theorem deletesDevice_unit {s : State} (h : rx.DeletesDevice s.unit) :
    (radioFrameDispatch rx s).unit =
      s.unit.onStorage fun st => (aqDeviceDelete rx.word (aqDeviceRecvSet rx.sourceAddr 1 st)).2 := by
  obtain ⟨ht, hc, hsub, hfrom⟩ := h
  obtain ⟨device, hd⟩ := Option.isSome_iff_exists.1 (aqDeviceFind_isSome.2 hfrom.listed)
  unfold radioFrameDispatch
  rw [if_neg (by rw [ht]; decide), if_neg (by rw [ht]; decide), if_neg (by rw [ht]; decide), if_pos ht]
  unfold radioFrameGatewayParse
  simp only [hd, hc, (by decide : deviceSyncCmd ≠ learnDeviceCmd), (by decide : deviceSyncCmd ≠ controlValveCmd),
    if_false, if_true, Option.isNone_some, Bool.false_eq_true, hfrom.toUnit, ne_eq, not_true_eq_false,
    State.onUnit_unit, gatewayParseSync_eq, hsub, (by decide : (1 : UInt8) ≠ 0)]
  rfl

theorem deletesDevice_handled {s : State} (h : rx.DeletesDevice s.unit) :
    (radioFrameDispatch rx s).unit.storage =
        (aqDeviceDelete rx.word (aqDeviceRecvSet rx.sourceAddr 1 s.unit.storage)).2 ∧
      (radioFrameDispatch rx s).unit.core = s.unit.core := by
  rw [deletesDevice_unit h]
  exact ⟨rfl, rfl⟩

theorem recvSet_fixed {a : UInt32} {st : Storage} (h : ∀ d ∈ st.deviceList, d.deviceId = a → d.recv = 1) :
    aqDeviceRecvSet a 1 st = st := by
  have hfixed : ∀ d ∈ st.deviceList, (RegOp.recvSet a 1).change d = d := by
    intro d hd
    change (if d.deviceId = a then { d with recv := 1 } else d) = d
    split
    · rename_i hid
      rw [← h d hd hid]
    · rfl
  exact @RegOp.Of.apply_of_fixed a (.recvSet a 1) st rfl (fun d hd => hfixed d (List.mem_of_find?_eq_some hd))
    fun _ => hfixed

theorem timesListed_recvSet (a b : UInt32) (st : Storage) :
    timesListed a (aqDeviceRecvSet b 1 st) = timesListed a st :=
  timesListed_of_same (@RegOp.InPlace.same (.recvSet b 1) trivial st)

theorem timesListed_deletesDevice {s : State} (h : rx.DeletesDevice s.unit) :
    timesListed rx.word (radioFrameDispatch rx s).unit.storage = timesListed rx.word s.unit.storage - 1 := by
  rw [(deletesDevice_handled h).1, timesListed_delete, if_pos rfl, timesListed_recvSet]

/-- The second copy is a request to delete as well, unless the first deleted its
source. -/
theorem deletesDevice_again (hf : e.Frame s.unit rx) (h : rx.DeletesDevice s.unit)
    (hfrom : Listed rx.sourceAddr (s.again s.unit.env rx).unit.storage) :
    rx.DeletesDevice (s.again s.unit.env rx).unit := by
  refine ⟨h.deviceType, h.command, h.subCommand, hfrom, ?_⟩
  rw [getLocalAddress, again_cfg hf s.unit.env]
  exact h.fromListed.toUnit

/-- What the first copy marked and deleted, the second finds so. -/
theorem deletesDevice_gone (hf : e.Frame s.unit rx) (h : rx.DeletesDevice s.unit)
    (hgone : ¬ Listed rx.word (s.again s.unit.env rx).unit.storage) :
    (radioFrameDispatch rx s).unit.storage.Agrees (radioFrameDispatch rx (s.again s.unit.env rx)).unit.storage ∧
      (radioFrameDispatch rx (s.again s.unit.env rx)).unit.core = (radioFrameDispatch rx s).unit.core := by
  by_cases hfrom : Listed rx.sourceAddr (s.again s.unit.env rx).unit.storage
  · obtain ⟨hstorage₂, hcore₂⟩ := deletesDevice_handled (deletesDevice_again hf h hfrom)
    have hmarked : aqDeviceRecvSet rx.sourceAddr 1 (s.again s.unit.env rx).unit.storage =
        (s.again s.unit.env rx).unit.storage := by
      refine recvSet_fixed fun d hd hid => ?_
      change d ∈ (radioFrameDispatch rx s).unit.storage.deviceList at hd
      rw [(deletesDevice_handled h).1] at hd
      obtain ⟨d₀, _, rfl⟩ := List.mem_map.1 ((aqDeviceDelete_sublist ..).subset hd)
      dsimp only at hid ⊢
      split
      · rfl
      · rename_i hne
        rw [if_neg hne] at hid
        exact absurd hid hne
    have hdelete : (aqDeviceDelete rx.word (s.again s.unit.env rx).unit.storage).2 =
        (s.again s.unit.env rx).unit.storage := by
      rw [aqDeviceDelete, aqDeviceFind_eq_none.2 hgone]
    rw [hmarked, hdelete] at hstorage₂
    rw [hstorage₂, hcore₂]
    exact ⟨⟨rfl, rfl, rfl⟩, rfl⟩
  · -- the gateway has deleted itself: its second copy comes from a stranger
    have hsame : radioFrameDispatch rx (s.again s.unit.env rx) = s.again s.unit.env rx := by
      unfold radioFrameDispatch
      rw [if_neg (by rw [h.deviceType]; decide), if_neg (by rw [h.deviceType]; decide),
        if_neg (by rw [h.deviceType]; decide), if_pos h.deviceType, gatewayParse_other fun hc => hfrom hc.listed,
        if_neg (by rw [h.command]; decide)]
    rw [hsame]
    exact ⟨⟨rfl, rfl, rfl⟩, rfl⟩

/-- **A request to delete, twice**: the second deletes what is listed twice. -/
theorem deletesDevice_twice (hf : e.Frame s.unit rx) (h : rx.DeletesDevice s.unit) :
    (timesListed rx.word s.unit.storage ≤ 1 →
      (radioFrameDispatch rx s).unit.storage.Agrees
          (radioFrameDispatch rx (s.again s.unit.env rx)).unit.storage ∧
        (radioFrameDispatch rx (s.again s.unit.env rx)).unit.core = (radioFrameDispatch rx s).unit.core) ∧
    (2 ≤ timesListed rx.word s.unit.storage →
      (radioFrameDispatch rx (s.again s.unit.env rx)).unit.storage.deviceList ≠
        (radioFrameDispatch rx s).unit.storage.deviceList) := by
  have htimes := timesListed_deletesDevice h
  have hbetween : ∀ a, timesListed a (s.again s.unit.env rx).unit.storage =
      timesListed a (radioFrameDispatch rx s).unit.storage := fun _ => rfl
  constructor
  · intro hle
    refine deletesDevice_gone hf h ?_
    rw [← timesListed_pos, hbetween, htimes]
    omega
  · intro hge heq
    have hfrom : Listed rx.sourceAddr (s.again s.unit.env rx).unit.storage := by
      rw [← timesListed_pos, hbetween]
      by_cases hword : rx.sourceAddr = rx.word
      · rw [hword, htimes]
        omega
      · rw [(deletesDevice_handled h).1, timesListed_delete, if_neg hword, Nat.sub_zero, timesListed_recvSet,
          timesListed_pos]
        exact h.fromListed.listed
    have hless := timesListed_deletesDevice (deletesDevice_again hf h hfrom)
    rw [hbetween, timesListed, heq, ← timesListed] at hless
    omega

end

end Aqualarm
