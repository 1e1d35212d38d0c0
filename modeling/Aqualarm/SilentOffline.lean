import Aqualarm.HeartCheck
import Aqualarm.TwiceEnrolled
import Aqualarm.ValveChecks

/-
  Who was heard between two runs of aq_device_heart_check, and who it takes
  offline.

  What is proved: `offline_silent_iff` — in a run that never lists an id twice, a
  device that a check takes offline was not heard since the check before it,
  throughout exactly when no check finds a device that was enrolled since the
  check before it and not heard again. `aq_device_create` leaves `recv` at 0, and
  the frame that enrols a device is not counted: the handler looked the device up
  before the learn part added it.

  The log beside the unit is of the frames, not of `recv`. Where an id is listed
  twice `aq_device_heart_recv` marks one of the two nodes only.
-/

namespace Aqualarm

open Lib

/-- Since the previous check, or the reset: who was heard, and whom the last
frame heard from it enrolled. -/
structure HeardLog where
  heard : UInt32 → Bool := fun _ => false
  justEnrolled : UInt32 → Bool := fun _ => false

/-- To this unit, and of a type whose frames mark their source. -/
structure RxFrame.ToUnit (rx : RxFrame) (u : MainUnit) : Prop where
  toUnit : rx.destAddr = getLocalAddress u
  deviceType : rx.deviceType = deviceTypeMotionSensor ∨ rx.deviceType = deviceTypeEndunit ∨
    rx.deviceType = deviceTypeDoorunit ∨ rx.deviceType = deviceTypeGateway

instance (rx : RxFrame) (u : MainUnit) : Decidable (rx.ToUnit u) :=
  decidable_of_iff (rx.destAddr = getLocalAddress u ∧ (rx.deviceType = deviceTypeMotionSensor ∨
      rx.deviceType = deviceTypeEndunit ∨ rx.deviceType = deviceTypeDoorunit ∨ rx.deviceType = deviceTypeGateway))
    ⟨fun h => ⟨h.1, h.2⟩, fun h => ⟨h.toUnit, h.deviceType⟩⟩

/-- A frame from a device that is listed, or is listed by it, is heard. -/
def RxFrame.log (rx : RxFrame) (s : State) (log : HeardLog) : HeardLog :=
  if rx.ToUnit s.unit ∧
      (Listed rx.sourceAddr s.unit.storage ∨ Listed rx.sourceAddr (radioFrameDispatch rx s).unit.storage) then
    { heard := Function.update log.heard rx.sourceAddr true
      justEnrolled := Function.update log.justEnrolled rx.sourceAddr (¬ Listed rx.sourceAddr s.unit.storage) }
  else log

/-- A reset and a check start the log afresh. -/
def heardLog (s : State) (i : Env × Event) (log : HeardLog) : HeardLog :=
  if i.2.resetsUnit (s.onUnit (MainUnit.begin i.1)) then {}
  else
    match i.2 with
    | .rtcDeviceHeartCheck => {}
    | .radio rssi _ data len =>
      if radioAccepted s.unit.cfg data len then
        (rxFrameOf i.1.stackSnr rssi data len).log (s.onUnit (MainUnit.begin i.1)) log
      else log
    | _ => log

/-- The unit with the log beside it. -/
def heardSystem (cfg : Config) : Machine (State × HeardLog) (Env × Event) := (system cfg).logged heardLog {}

/-! What should hold. -/

/-- A device that is no gateway, and that a check changes from online to offline,
was not heard. -/
def OfflineSilent (p : State × HeardLog) (i : Env × Event) (p' : State × HeardLog) : Prop :=
  i.2 = .rtcDeviceHeartCheck → ∀ d ∈ p.1.unit.storage.deviceList, ∀ d' ∈ p'.1.unit.storage.deviceList,
    d'.deviceId = d.deviceId → d.type ≠ deviceTypeGateway → d.online = 1 → d'.online = 0 →
      p.2.heard d.deviceId = false

/-- A check finds no device that is no gateway just enrolled. -/
def NoneJustEnrolled (p : State × HeardLog) (i : Env × Event) : Prop :=
  i.2 = .rtcDeviceHeartCheck → ∀ d ∈ p.1.unit.storage.deviceList, d.type ≠ deviceTypeGateway →
    p.2.justEnrolled d.deviceId = false

/-! What a frame does to the nodes. -/

section
variable {rx : RxFrame} {s : State} {u : MainUnit} {d : Device}

theorem plan_of : ∀ op ∈ (rx.plan u).ops ++ (rx.plan u).ops', op.Of rx.sourceAddr := by
  have hheard : ∀ op ∈ rx.commandOps ++ heardOps rx, op.Of rx.sourceAddr := fun op hop =>
    (List.mem_append.1 hop).elim (commandOps_of rx op) (heardOps_of rx op)
  refine planOps_cases (P := fun ops => ∀ op ∈ ops, op.Of rx.sourceAddr) rx u ?_ (fun _ => hheard) ?_
  · exact fun _ h => absurd h List.not_mem_nil
  · intro _ op hop
    obtain rfl := List.mem_singleton.1 hop
    rfl

/-- The frames that are for others change no node. -/
theorem plan_quiet (h : ¬ (rx.ToUnit u ∧ Listed rx.sourceAddr u.storage)) :
    (rx.plan u).ops ++ (rx.plan u).ops' = [] := by
  refine plan_cases (P := fun p => p.ops ++ p.ops' = []) rx u rfl ?_ ?_ ?_ ?_ fun _ => rfl
  · exact fun hfrom hm => absurd ⟨⟨hfrom.toUnit, Or.inl hm⟩, hfrom.listed⟩ h
  · exact fun hfrom he => absurd ⟨⟨hfrom.toUnit, Or.inr (Or.inl he)⟩, hfrom.listed⟩ h
  · exact fun hfrom hd => absurd ⟨⟨hfrom.toUnit, Or.inr (Or.inr (Or.inl hd))⟩, hfrom.listed⟩ h
  · exact fun hfrom hg => absurd ⟨⟨hfrom.toUnit, Or.inr (Or.inr (Or.inr hg))⟩, hfrom.listed⟩ h

/-- The node found is marked last. -/
theorem plan_recv (h : rx.FromListed u) (ht : rx.ToUnit u) (hd : d.deviceId = rx.sourceAddr) :
    (chained true ((rx.plan u).ops ++ (rx.plan u).ops') d).recv = 1 := by
  have hheard : (chained true (rx.commandOps ++ heardOps rx) d).recv = 1 := by
    have hid : (chained true rx.commandOps d).deviceId = rx.sourceAddr := ((chained_same _ _ d).deviceId).trans hd
    rw [chained_append, chained_eq (heardOps_of rx), if_pos hid]
    rfl
  rcases ht.deviceType with ht | ht | ht | ht
  · rw [plan_motion h ht]
    exact hheard
  · rw [plan_endunit h ht]
    exact hheard
  · rw [plan_doorunit h ht]
    exact hheard
  · rw [plan_gateway h ht]
    change (if d.deviceId = rx.sourceAddr then { d with recv := 1 } else d).recv = 1
    rw [if_pos hd]

theorem dispatch_planned (hno : ¬ rx.AddDevice s.unit) (hsync : ¬ rx.DeletesDevice s.unit)
    (hend : ¬ rx.OtaEnd s.unit) :
    (radioFrameDispatch rx s).unit.storage.deviceList =
      chainedList rx.sourceAddr ((rx.plan s.unit).ops ++ (rx.plan s.unit).ops') s.unit.storage.deviceList :=
  (dispatch_plan hno hsync hend).deviceList (plan_settled rx s.unit).of

theorem recvSet_deviceList (a : UInt32) (value : UInt8) (st : Storage) :
    (aqDeviceRecvSet a value st).deviceList = st.deviceList.map (RegOp.recvSet a value).change :=
  @RegOp.Everywhere.deviceList (.recvSet a value) ⟨trivial, trivial⟩ st

/-- A deletion marks its source, and adds nothing. -/
theorem dispatch_deleted (h : rx.DeletesDevice s.unit) (hd : d ∈ (radioFrameDispatch rx s).unit.storage.deviceList) :
    ∃ x ∈ s.unit.storage.deviceList, (RegOp.recvSet rx.sourceAddr 1).change x = d := by
  rw [(deletesDevice_handled h).1] at hd
  have hd := (aqDeviceDelete_sublist rx.word _).subset hd
  rw [recvSet_deviceList] at hd
  exact List.mem_map.1 hd

/-- Heard, and listed before, once at most: its node is marked. -/
theorem dispatch_marked (hids : Ids s.unit.storage) (ht : rx.ToUnit s.unit) (hl : Listed rx.sourceAddr s.unit.storage)
    (hend : ¬ rx.OtaEnd s.unit) (hd : d ∈ (radioFrameDispatch rx s).unit.storage.deviceList)
    (hid : d.deviceId = rx.sourceAddr) : d.recv = 1 := by
  by_cases ha : rx.AddDevice s.unit
  · rw [(addDevice_enrols ha).storage, RxFrame.enrolled, if_pos hl, marks_deviceList] at hd
    have hlearned : Ids (learnStorage s.unit.env.mallocDevice rx.addLevel rx.deviceType rx.sourceAddr s.unit.storage).2 :=
      (hids.sublist (replaceByType_sublist rx.deviceType s.unit.storage)).create ..
    obtain ⟨x, -, rfl⟩ := mem_chainedList_of_nodup hlearned hd hid
    exact marks_recv rx ((chained_same true _ x).deviceId.symm.trans hid)
  by_cases hsync : rx.DeletesDevice s.unit
  · obtain ⟨x, -, rfl⟩ := dispatch_deleted hsync hd
    have hx : x.deviceId = rx.sourceAddr := (RegOp.change_same _ x).deviceId.symm.trans hid
    exact congrArg Device.recv (if_pos hx)
  · rw [dispatch_planned ha hsync hend] at hd
    obtain ⟨x, -, rfl⟩ := mem_chainedList_of_nodup hids hd hid
    exact plan_recv ⟨hl, ht.toUnit⟩ ht ((chained_same true _ x).deviceId.symm.trans hid)

/-- The other nodes are as they were. -/
theorem dispatch_kept (hl : Listed rx.sourceAddr s.unit.storage) (hend : ¬ rx.OtaEnd s.unit)
    (hd : d ∈ (radioFrameDispatch rx s).unit.storage.deviceList) (hne : d.deviceId ≠ rx.sourceAddr) :
    d ∈ s.unit.storage.deviceList := by
  by_cases ha : rx.AddDevice s.unit
  · rw [(addDevice_enrols ha).storage, RxFrame.enrolled, if_pos hl, marks_deviceList] at hd
    obtain ⟨x, hx, first, rfl⟩ := mem_chainedList hd
    rw [(chained_same _ _ x).deviceId] at hne
    rw [chained_eq (marks_of rx), if_neg hne]
    rcases learnStorage_mem hx with hx | ⟨⟨slot, rfl⟩, _⟩
    · exact hx
    · exact absurd rfl hne
  by_cases hsync : rx.DeletesDevice s.unit
  · obtain ⟨x, hx, rfl⟩ := dispatch_deleted hsync hd
    rw [(RegOp.change_same _ x).deviceId] at hne
    change (if x.deviceId = rx.sourceAddr then { x with recv := 1 } else x) ∈ _
    rw [if_neg hne]
    exact hx
  · rw [dispatch_planned ha hsync hend] at hd
    obtain ⟨x, hx, first, rfl⟩ := mem_chainedList hd
    rw [(chained_same _ _ x).deviceId] at hne
    rw [chained_eq plan_of, if_neg hne]
    exact hx

/-- Not listed before: at most a node is added for it. -/
theorem dispatch_unlisted (hl : ¬ Listed rx.sourceAddr s.unit.storage)
    (hd : d ∈ (radioFrameDispatch rx s).unit.storage.deviceList) :
    d ∈ s.unit.storage.deviceList ∨ d.deviceId = rx.sourceAddr ∧ d.recv = 0 ∧ d.online = 1 := by
  by_cases ha : rx.AddDevice s.unit
  · rw [(addDevice_enrols ha).storage, RxFrame.enrolled, if_neg hl] at hd
    rcases learnStorage_mem hd with hd | ⟨⟨slot, rfl⟩, _⟩
    · exact Or.inl hd
    · exact Or.inr ⟨rfl, rfl, rfl⟩
  · have hplan := dispatch_planned ha (fun h => hl h.fromListed.listed)
      fun h => hl (aqDeviceFind_isSome.1 h.registered)
    rw [hplan, plan_quiet fun h => hl h.2] at hd
    obtain ⟨x, hx, first, rfl⟩ := mem_chainedList hd
    exact Or.inl hx

/-- For others, or of another type. -/
theorem dispatch_other (ht : ¬ rx.ToUnit s.unit) :
    (radioFrameDispatch rx s).unit.storage.deviceList = s.unit.storage.deviceList := by
  rw [dispatch_planned (fun h => ht ⟨h.toUnit, h.deviceType⟩)
    (fun h => ht ⟨h.fromListed.toUnit, Or.inr (Or.inr (Or.inr h.deviceType))⟩)
    (fun h => ht ⟨h.toUnit, Or.inr (Or.inr (Or.inr h.deviceType))⟩), plan_quiet fun h => ht h.1]
  exact (mapFirst_same _ _ _).trans (List.map_id _)

end

/-! The other events. -/

section
variable {s : State} {e : Event} {u : MainUnit} {d : Device}

/-- Only frames, the two heartbeat checks and resets change the list. -/
theorem Event.keeps_deviceList (hno : e.resetsUnit s = false)
    (hradio : ∀ rssi snr data len, e ≠ .radio rssi snr data len) (hcheck : e ≠ .rtcDeviceHeartCheck) (hcheck' : e ≠ .rtcGatewayHeartCheck) :
    (e.handle s).unit.storage.deviceList = s.unit.storage.deviceList := by
  cases e with
  | radio rssi snr data len => exact absurd rfl (hradio rssi snr data len)
  | rtcDeviceHeartCheck => exact absurd rfl hcheck
  | rtcGatewayHeartCheck => exact absurd rfl hcheck'
  | reboot => cases hno
  | keyOnClick => exact congrArg Storage.deviceList (keyOnClick_storage s.unit)
  | keyOffClick => exact congrArg Storage.deviceList (keyOffClick_storage s.unit)
  | keyOnLongHold =>
    have hlong := longClick_unit (Or.inl rfl) hno
    unfold Event.handle keyOnLongHoldHandle
    dsimp only
    split
    · rfl
    · split
      · rw [hlong]
      · split <;> rfl
  | keyOffLongHold =>
    have hlong := longClick_unit (Or.inr rfl) hno
    unfold Event.handle keyOffLongHoldHandle
    dsimp only
    split
    · rfl
    · split
      · rw [hlong]
      · split
        · exact congrArg Storage.deviceList (startLearn_storage s.unit)
        · rfl
  | modbusCoils reg usAddress usNCoils =>
    exact congrArg Storage.deviceList (mbWriteCoils_storage reg usAddress usNCoils s)
  | modbusHolding reg usAddress usNRegs =>
    exact congrArg Storage.deviceList (mbWriteHolding_storage reg usAddress usNRegs s)
  | dryContact level =>
    rw [Event.handle, dryContactPollingTimerCallback]
    split
    · exact congrArg Storage.deviceList (dryContact_storage level s.unit)
    · rfl
  | heartConnectStart => exact congrArg Storage.deviceList (gatewayConnectStart_core s.unit).2
  | heartUpload => exact congrArg Storage.deviceList (heartUpload_storage s.unit)
  | timer t => exact (timer_written t s.unit).deviceList
  | keyOnLongFree | keyOffLongFree | rtcValveCheck | rfAckInit => rfl

/-- The gateway's mark is taken back, and no other's where ids are distinct. -/
theorem gatewayHeartCheck_mem (hids : Ids u.storage) (hd : d ∈ (gatewayHeartCheck u).storage.deviceList)
    (ht : d.type ≠ deviceTypeGateway) : d ∈ u.storage.deviceList := by
  unfold gatewayHeartCheck at hd
  split at hd
  · exact hd
  · rename_i hg
    split at hd
    · rw [MainUnit.onStorage_storage, recvSet_deviceList] at hd
      obtain ⟨x, hx, rfl⟩ := List.mem_map.1 hd
      rw [(RegOp.change_same _ x).type] at ht
      have hne : x.deviceId ≠ aqGatewayFind u.storage := by
        intro hid
        unfold aqGatewayFind at hg hid
        cases hfind : u.storage.deviceList.find? fun d => d.type = deviceTypeGateway with
        | none => exact hg (by rw [hfind])
        | some y =>
          rw [hfind] at hid
          obtain rfl : x = y := List.inj_on_of_nodup_map hids hx (List.mem_of_find?_eq_some hfind) hid
          exact ht (by simpa using List.find?_some hfind)
      change (if x.deviceId = aqGatewayFind u.storage then { x with recv := 0 } else x) ∈ _
      rw [if_neg hne]
      exact hx
    · exact hd

end

/-! One event. -/

/-- Unmarked though heard: only who was just enrolled; who was, is unmarked and
online. -/
structure HeardInv (p : State × HeardLog) : Prop where
  unmarked : ∀ d ∈ p.1.unit.storage.deviceList, d.type ≠ deviceTypeGateway → d.recv = 0 →
    p.2.heard d.deviceId = true → p.2.justEnrolled d.deviceId = true
  enrolled : ∀ d ∈ p.1.unit.storage.deviceList, d.type ≠ deviceTypeGateway → p.2.justEnrolled d.deviceId = true →
    p.2.heard d.deviceId = true ∧ d.recv = 0 ∧ d.online = 1

section
variable {cfg : Config} {s s' : State} {log log' : HeardLog} {i : Env × Event} {rx : RxFrame}

/-- With nobody in the log. -/
theorem HeardInv.afresh (s : State) : HeardInv (s, {}) :=
  ⟨fun _ _ _ _ h => absurd h Bool.false_ne_true, fun _ _ _ h => absurd h Bool.false_ne_true⟩

/-- A list with no new nodes of the kind, and the same log. -/
theorem HeardInv.mono (h : HeardInv (s, log))
    (hl : ∀ d ∈ s'.unit.storage.deviceList, d.type ≠ deviceTypeGateway → d ∈ s.unit.storage.deviceList) :
    HeardInv (s', log) :=
  ⟨fun d hd ht => h.unmarked d (hl d hd ht) ht, fun d hd ht => h.enrolled d (hl d hd ht) ht⟩

/-- **A frame.** -/
theorem HeardInv.frame (h : HeardInv (s, log)) (hids : Ids s.unit.storage) (hend : ¬ rx.OtaEnd s.unit) :
    HeardInv (radioFrameDispatch rx s, rx.log s log) := by
  unfold RxFrame.log
  by_cases ht : rx.ToUnit s.unit
  · by_cases hl : Listed rx.sourceAddr s.unit.storage
    · -- the source is marked
      rw [if_pos ⟨ht, Or.inl hl⟩]
      refine ⟨fun d hd hgt hrecv hheard => ?_, fun d hd hgt hjust => ?_⟩
      · by_cases hid : d.deviceId = rx.sourceAddr
        · rw [dispatch_marked hids ht hl hend hd hid] at hrecv
          cases hrecv
        · simp only [Function.update_of_ne hid] at hheard ⊢
          exact h.unmarked d (dispatch_kept hl hend hd hid) hgt hrecv hheard
      · by_cases hid : d.deviceId = rx.sourceAddr
        · simp [hid, hl] at hjust
        · simp only [Function.update_of_ne hid] at hjust ⊢
          exact h.enrolled d (dispatch_kept hl hend hd hid) hgt hjust
    · by_cases hl' : Listed rx.sourceAddr (radioFrameDispatch rx s).unit.storage
      · -- the source is enrolled, and not marked
        rw [if_pos ⟨ht, Or.inr hl'⟩]
        have hold : ∀ d ∈ s.unit.storage.deviceList, d.deviceId ≠ rx.sourceAddr := fun d hd hid => hl ⟨d, hd, hid⟩
        refine ⟨fun d hd hgt hrecv hheard => ?_, fun d hd hgt hjust => ?_⟩
        · rcases dispatch_unlisted hl hd with hd | ⟨hid, _, _⟩
          · simp only [Function.update_of_ne (hold d hd)] at hheard ⊢
            exact h.unmarked d hd hgt hrecv hheard
          · simp [hid, hl]
        · rcases dispatch_unlisted hl hd with hd | ⟨hid, hrecv, honline⟩
          · simp only [Function.update_of_ne (hold d hd)] at hjust ⊢
            exact h.enrolled d hd hgt hjust
          · exact ⟨by simp [hid], hrecv, honline⟩
      · rw [if_neg fun hc => hc.2.elim hl hl']
        refine h.mono fun d hd _ => ?_
        exact (dispatch_unlisted hl hd).resolve_right fun hc => hl' ⟨d, hd, hc.1⟩
  · rw [if_neg fun hc => ht hc.1]
    exact h.mono fun d hd _ => dispatch_other ht ▸ hd

theorem heardLog_reset (h : i.2.resetsUnit (s.onUnit (MainUnit.begin i.1)) = true) : heardLog s i log = {} :=
  if_pos h

/-- Only resets, checks and frames are logged. -/
theorem heardLog_other (hno : i.2.resetsUnit (s.onUnit (MainUnit.begin i.1)) = false)
    (hradio : ∀ rssi snr data len, i.2 ≠ .radio rssi snr data len) (hcheck : i.2 ≠ .rtcDeviceHeartCheck) :
    heardLog s i log = log := by
  obtain ⟨env, e⟩ := i
  unfold heardLog
  rw [if_neg (by rw [hno]; decide)]
  cases e with
  | radio rssi snr data len => exact absurd rfl (hradio rssi snr data len)
  | rtcDeviceHeartCheck => exact absurd rfl hcheck
  | _ => rfl

/-- **One event** of a unit that lists no id twice. -/
theorem HeardInv.next {p p' : State × HeardLog} (h : HeardInv p) (hids : Ids p.1.unit.storage)
    (hn : (heardSystem cfg).next p i = some p') : HeardInv p' := by
  obtain ⟨s, log⟩ := p
  obtain ⟨s', log'⟩ := p'
  obtain ⟨hnext, rfl⟩ := Machine.logged_next_eq_some.1 hn
  obtain ⟨_, rfl⟩ := system_next_eq_some.1 hnext
  have hbegun : HeardInv (s.onUnit (MainUnit.begin i.1), log) := ⟨h.unmarked, h.enrolled⟩
  have hids : Ids (s.onUnit (MainUnit.begin i.1)).unit.storage := hids
  dsimp only
  by_cases hreset : i.2.resetsUnit (s.onUnit (MainUnit.begin i.1)) = true
  · rw [heardLog_reset hreset]
    exact .afresh _
  have hno := Bool.eq_false_of_not_eq_true hreset
  obtain ⟨env, e⟩ := i
  dsimp only at hno hbegun hids ⊢
  by_cases hradio : ∃ rssi snr data len, e = .radio rssi snr data len
  · obtain ⟨rssi, snr, data, len, rfl⟩ := hradio
    have hlog : heardLog s (env, .radio rssi snr data len) log =
        if radioAccepted s.unit.cfg data len then
          (rxFrameOf env.stackSnr rssi data len).log (s.onUnit (MainUnit.begin env)) log
        else log := if_neg hreset
    rw [hlog, Event.handle, radioProtocolParse_eq]
    by_cases hacc : radioAccepted s.unit.cfg data len
    · rw [if_pos hacc, if_pos (show radioAccepted (s.onUnit (MainUnit.begin env)).unit.cfg data len from hacc)]
      exact hbegun.frame hids fun hend => of_decide_eq_false hno ⟨hacc, hend⟩
    · rw [if_neg hacc, if_neg (show ¬ radioAccepted (s.onUnit (MainUnit.begin env)).unit.cfg data len from hacc)]
      exact hbegun
  have hradio : ∀ rssi snr data len, e ≠ .radio rssi snr data len :=
    fun rssi snr data len he => hradio ⟨rssi, snr, data, len, he⟩
  by_cases hcheck : e = .rtcDeviceHeartCheck
  · have hlog : heardLog s (env, e) log = {} := by
      rw [hcheck]
      rfl
    rw [hlog]
    exact .afresh _
  rw [heardLog_other hno hradio hcheck]
  by_cases hcheck' : e = .rtcGatewayHeartCheck
  · rw [hcheck']
    exact hbegun.mono fun d hd ht => gatewayHeartCheck_mem hids hd ht
  · exact hbegun.mono fun d hd _ => Event.keeps_deviceList hno hradio hcheck hcheck' ▸ hd

/-- **One check**: what it takes offline was not heard exactly if nobody it finds
was just enrolled. -/
theorem HeardInv.silent_iff {p p' : State × HeardLog} (h : HeardInv p) (hids : Ids p.1.unit.storage)
    (hn : (heardSystem cfg).next p i = some p') : OfflineSilent p i p' ↔ NoneJustEnrolled p i := by
  obtain ⟨s, log⟩ := p
  obtain ⟨s', log'⟩ := p'
  obtain ⟨hnext, _⟩ := Machine.logged_next_eq_some.1 hn
  obtain ⟨_, rfl⟩ := system_next_eq_some.1 hnext
  obtain ⟨env, e⟩ := i
  refine forall_congr' fun he => ?_
  obtain rfl : e = .rtcDeviceHeartCheck := he
  have hlist : (Event.handle .rtcDeviceHeartCheck (s.onUnit (MainUnit.begin env))).unit.storage.deviceList =
      s.unit.storage.deviceList.map (Device.checked s.unit.storage.deviceList) := by
    change (aqDeviceHeartCheck (s.unit.begin env)).storage.deviceList = _
    rw [(heartCheck_spec (s.unit.begin env)).1, heartCheckMark_deviceList]
    rfl
  dsimp only
  rw [hlist]
  constructor
  · intro hsilent d hd ht
    by_contra hjust
    obtain ⟨hheard, hrecv, honline⟩ := h.enrolled d hd ht (Bool.eq_true_of_not_eq_false hjust)
    have hoffline : (d.checked s.unit.storage.deviceList).online = 0 :=
      Device.checked_online.2 (Or.inr ⟨d, hd, rfl, ht, hrecv⟩)
    have hnot := hsilent d hd _ (List.mem_map_of_mem hd) rfl ht honline hoffline
    rw [hheard] at hnot
    cases hnot
  · intro hnone d hd d' hd' hid ht honline hoffline
    obtain ⟨x, hx, rfl⟩ := List.mem_map.1 hd'
    obtain rfl : x = d := List.inj_on_of_nodup_map hids hx hd hid
    by_contra hheard
    -- offline now, so one of its nodes was not marked: it was just enrolled
    rcases Device.checked_online.1 hoffline with hoff | ⟨y, hy, hyid, hyt, hyr⟩
    · rw [honline] at hoff
      cases hoff
    · have hjust := h.unmarked y hy hyt hyr (hyid ▸ Bool.eq_true_of_not_eq_false hheard)
      rw [hnone y hy hyt] at hjust
      cases hjust

end

/-- **Offline means silent**, in a run that lists no id twice, exactly when no
check finds a device just enrolled. -/
theorem offline_silent_iff (cfg : Config) (env : Env) (flash : Flash) (download : Nat → UInt8)
    (is : List (Env × Event))
    (hids : (heardSystem cfg).Always (fun p => Ids p.1.unit.storage) (powerOn cfg env flash download, {}) is) :
    (heardSystem cfg).Steps OfflineSilent (powerOn cfg env flash download, {}) is ↔
      (heardSystem cfg).Steps (fun p i _ => NoneJustEnrolled p i) (powerOn cfg env flash download, {}) is := by
  have hinv : (heardSystem cfg).Always HeardInv (powerOn cfg env flash download, {}) is :=
    Machine.always_of_steps (.afresh _) (fun p i p' h hp hn => h.next hp hn) hids.steps
  refine Machine.steps_congr fun pre i p p' hpre hr hn => ?_
  have hpre := (List.prefix_append pre [i]).trans hpre
  exact (hinv pre p hpre hr).silent_iff (hids pre p hpre hr) hn

/-- End unit 7 is added, sends a heartbeat, and is found by the check. -/
theorem offline_silent_sample :
    (heardSystem sampleConfig).Steps OfflineSilent (sampleStart, {})
      [(sampleEnv, sampleFrame deviceTypeEndunit 7 [learnDeviceCmd, 1, 1]),
        (sampleEnv, sampleFrame deviceTypeEndunit 7 [heartUploadCmd, 1, 1]),
        (sampleEnv, .rtcDeviceHeartCheck)] := by
  refine (offline_silent_iff sampleConfig _ _ _ _ ?_).2 ?_
  · exact Machine.always_of_inits (by decide +kernel)
  · -- the one check of the run is its last step
    have hlast : ∀ q, (heardSystem sampleConfig).run (sampleStart, {})
        [(sampleEnv, sampleFrame deviceTypeEndunit 7 [learnDeviceCmd, 1, 1]),
          (sampleEnv, sampleFrame deviceTypeEndunit 7 [heartUploadCmd, 1, 1])] = some q →
        ∀ d ∈ q.1.unit.storage.deviceList, q.2.justEnrolled d.deviceId = false := by
      intro q hq
      have hrun : ((heardSystem sampleConfig).run (sampleStart, {})
          [(sampleEnv, sampleFrame deviceTypeEndunit 7 [learnDeviceCmd, 1, 1]),
            (sampleEnv, sampleFrame deviceTypeEndunit 7 [heartUploadCmd, 1, 1])]).all (fun q =>
          decide (∀ d ∈ q.1.unit.storage.deviceList, q.2.justEnrolled d.deviceId = false)) = true := by
        decide +kernel
      rw [hq] at hrun
      exact of_decide_eq_true hrun
    intro pre i p p' hpre hr _ he d hd _
    rcases pre with _ | ⟨a, _ | ⟨b, pre⟩⟩
    · obtain rfl := (List.cons_prefix_cons.1 hpre).1
      cases he
    · obtain rfl := (List.cons_prefix_cons.1 (List.cons_prefix_cons.1 hpre).2).1
      cases he
    · obtain ⟨ha, hrest⟩ := List.cons_prefix_cons.1 hpre
      obtain ⟨hb, hend⟩ := List.cons_prefix_cons.1 hrest
      obtain rfl : pre = [] := by
        have := hend.length_le
        simp at this
        exact this
      rw [ha, hb] at hr
      exact hlast p hr d hd

/-- End unit 7 is added, and the next check takes it offline. -/
theorem offline_silent_fails :
    ¬ ∀ (cfg : Config) (env : Env) (flash : Flash) (download : Nat → UInt8) (is : List (Env × Event)),
      (heardSystem cfg).Steps OfflineSilent (powerOn cfg env flash download, {}) is := by
  intro h
  obtain ⟨p, p', hr, hn, hp⟩ := @Machine.exists_step_of_run _ _ (heardSystem sampleConfig) (sampleStart, {})
    [(sampleEnv, sampleFrame deviceTypeEndunit 7 [learnDeviceCmd, 1, 1])] (sampleEnv, .rtcDeviceHeartCheck)
    (fun p p' => p.2.heard 7 = true ∧
      (∃ d ∈ p.1.unit.storage.deviceList, d.deviceId = 7 ∧ d.type = deviceTypeEndunit ∧ d.online = 1) ∧
      ∃ d' ∈ p'.1.unit.storage.deviceList, d'.deviceId = 7 ∧ d'.online = 0) (by decide +kernel)
  obtain ⟨hheard, ⟨d, hd, hid, ht, hon⟩, d', hd', hid', hoff⟩ := of_decide_eq_true hp
  have hsilent := h sampleConfig _ _ _ _ _ _ p p' List.prefix_rfl hr hn rfl d hd d' hd' (hid'.trans hid.symm)
    (by rw [ht]; decide) hon hoff
  rw [hid, hheard] at hsilent
  cases hsilent

end Aqualarm
