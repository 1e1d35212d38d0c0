import Aqualarm.Board
import Aqualarm.SilentOffline

/-
  The rounds of the RTC thread, one for each hour's alarm, and what their checks
  do in time.

  What is proved:
    1. `rtc_schedule` — since the last reset the thread has checked the valve in
       every 120th round, the devices in every 48th and the gateway in each, and
       has lost no alarm that its semaphore could hold.
    2. `silent_offline` — a device that was not heard for 96 rounds is offline, in
       every state of the firmware.

  The log beside the firmware is of the rounds at which frames came, not of the
  `recv` marks, so that it also speaks of devices that are listed twice.
-/

namespace Aqualarm

open Lib

/-! The counters of the thread. -/

/-- The two counters, from the number of rounds. -/
structure RtcThread.OnTime (r : RtcThread) : Prop where
  valveHours : r.valveHours.toNat = r.jobs % 120
  rtcHours : r.rtcHours.toNat = r.jobs % 48

namespace RtcThread.OnTime

variable {r : RtcThread}

theorem valve_iff (h : r.OnTime) : (r.valveHours + 1) % 120 = 0 ↔ (r.jobs + 1) % 120 = 0 := by
  have hlt : r.valveHours.toNat < 120 := h.valveHours ▸ Nat.mod_lt _ (by decide)
  rw [← UInt8.toNat_inj, UInt8.toNat_mod, UInt8.toNat_add]
  change (r.valveHours.toNat + 1) % 256 % 120 = 0 ↔ _
  rw [Nat.mod_eq_of_lt (by omega : r.valveHours.toNat + 1 < 256), h.valveHours]
  omega

theorem device_iff (h : r.OnTime) : ¬ r.rtcHours < 47 ↔ (r.jobs + 1) % 48 = 0 := by
  rw [UInt8.lt_iff_toNat_lt, h.rtcHours]
  change ¬ r.jobs % 48 < 47 ↔ _
  omega

theorem round (h : r.OnTime) : r.round.1.OnTime where
  valveHours := by
    have hlt : r.valveHours.toNat < 120 := h.valveHours ▸ Nat.mod_lt _ (by decide)
    change (if (r.valveHours + 1) % 120 = 0 then 0 else r.valveHours + 1).toNat = (r.jobs + 1) % 120
    by_cases hcheck : (r.jobs + 1) % 120 = 0
    · rw [if_pos (h.valve_iff.2 hcheck), hcheck]
      rfl
    · rw [if_neg (mt h.valve_iff.1 hcheck), UInt8.toNat_add]
      change (r.valveHours.toNat + 1) % 256 = _
      rw [Nat.mod_eq_of_lt (by omega), h.valveHours]
      omega
  rtcHours := by
    have hlt : r.rtcHours.toNat < 48 := h.rtcHours ▸ Nat.mod_lt _ (by decide)
    change (if ¬ r.rtcHours < 47 then 0 else r.rtcHours + 1).toNat = (r.jobs + 1) % 48
    by_cases hcheck : (r.jobs + 1) % 48 = 0
    · rw [if_pos (h.device_iff.2 hcheck), hcheck]
      rfl
    · rw [if_neg (mt h.device_iff.1 hcheck), UInt8.toNat_add]
      change (r.rtcHours.toNat + 1) % 256 = _
      rw [Nat.mod_eq_of_lt (by omega), h.rtcHours]
      omega

/-- The jobs of a round. -/
theorem events (h : r.OnTime) :
    r.round.2 = (if (r.jobs + 1) % 120 = 0 then [.rtcValveCheck] else []) ++
      (if (r.jobs + 1) % 48 = 0 then [.rtcDeviceHeartCheck] else []) ++ [.rtcGatewayHeartCheck] := by
  change (if (r.valveHours + 1) % 120 = 0 then _ else _) ++ (if ¬ r.rtcHours < 47 then _ else _) ++ _ = _
  rw [if_congr h.valve_iff rfl rfl, if_congr h.device_iff rfl rfl]

end RtcThread.OnTime

/-! The log. -/

/-- A frame that the unit takes from `a`. -/
def Event.hears (a : UInt32) (s : State) : Event → Bool
  | .radio rssi _ data len =>
    radioAccepted s.unit.cfg data len ∧ (rxFrameOf s.unit.env.stackSnr rssi data len).ToUnit s.unit ∧
      (rxFrameOf s.unit.env.stackSnr rssi data len).sourceAddr = a
  | _ => false

def Event.valveCheck : Event → Bool
  | .rtcValveCheck => true
  | _ => false

def Event.deviceCheck : Event → Bool
  | .rtcDeviceHeartCheck => true
  | _ => false

def Event.gatewayCheck : Event → Bool
  | .rtcGatewayHeartCheck => true
  | _ => false

def BoardInput.alarm : BoardInput → Nat
  | .rtcAlarm => 1
  | _ => 0

/-- Since the last reset: the alarms, the checks, and the round after which each
address was last heard. -/
structure RoundLog where
  alarms : Nat := 0
  valveChecks : Nat := 0
  deviceChecks : Nat := 0
  gatewayChecks : Nat := 0
  heardAt : UInt32 → Nat := fun _ => 0

def roundLog (p : State × Board) (i : Env × BoardInput) (log : RoundLog) : RoundLog :=
  let s := p.1.onUnit (MainUnit.begin i.1)
  let es := (board.emitted p i).map Prod.snd
  if es.any (·.resetsUnit s) then {}
  else
    { alarms := log.alarms + i.2.alarm
      valveChecks := log.valveChecks + es.countP Event.valveCheck
      deviceChecks := log.deviceChecks + es.countP Event.deviceCheck
      gatewayChecks := log.gatewayChecks + es.countP Event.gatewayCheck
      heardAt := fun a => if es.any (·.hears a s) then p.2.rtc.jobs else log.heardAt a }

/-- The firmware with the log beside it. -/
def watched (cfg : Config) : Machine ((State × Board) × RoundLog) (Env × BoardInput) := (firmware cfg).logged roundLog {}

/-! What an input does to the thread. -/

theorem react_rounds {s : State} {b b' : Board} {i : BoardInput} {es : List Event} (h : b.react s i = some (b', es)) :
    (b.rtc.rtcSem ≠ 0 ∧ i = .rtcThread ∧ b'.rtc = b.rtc.round.1 ∧ es = b.rtc.round.2) ∨
      (i = .rtcAlarm ∧ b'.rtc = { b.rtc with rtcSem := rtSemRelease b.rtc.rtcSem } ∧ es = []) ∨
      (i ≠ .rtcAlarm ∧ b'.rtc = b.rtc ∧ (es = [] ∨ ∃ e, es = [e] ∧ ¬ e.Job)) := by
  cases i with
  | elapse ms =>
    cases h
    exact Or.inr (Or.inr ⟨by simp, rfl, Or.inl rfl⟩)
  | rtcAlarm =>
    cases h
    exact Or.inr (Or.inl ⟨rfl, rfl, rfl⟩)
  | scan k active =>
    have hevents := react_events h
    cases h
    have hkey : ∀ e ∈ (b.scanned k active).2, ¬ e.Job := by
      intro e he
      rcases scanned_mem he with rfl | rfl | rfl <;> cases k <;> simp [Event.Job, Key.click, Key.hold, Key.free]
    refine Or.inr (Or.inr ⟨by simp, rfl, ?_⟩)
    change (b.scanned k active).2 = [] ∨ (∃ e, (b.scanned k active).2 = [e]) ∨ ∀ e ∈ (b.scanned k active).2, e.Job
      at hevents
    change (b.scanned k active).2 = [] ∨ ∃ e, (b.scanned k active).2 = [e] ∧ ¬ e.Job
    rcases hevents with hnil | ⟨e, hone⟩ | hjobs
    · exact Or.inl hnil
    · exact Or.inr ⟨e, hone, hkey e (hone ▸ List.mem_cons_self)⟩
    · exact Or.inl (List.eq_nil_iff_forall_not_mem.2 fun e he => hkey e he (hjobs e he))
  | rtcThread =>
    obtain ⟨hsem, h⟩ := Option.ite_none_right_eq_some.1 h
    cases h
    exact Or.inl ⟨hsem, rfl, rfl, rfl⟩
  | rxByte ucByte | t35Expired | txReady =>
    obtain ⟨-, h⟩ := Option.ite_none_right_eq_some.1 h
    cases h
    exact Or.inr (Or.inr ⟨by simp, rfl, Or.inl rfl⟩)
  | mbPoll stack fullyClose =>
    obtain ⟨-, h⟩ := Option.ite_none_right_eq_some.1 h
    cases h
    refine Or.inr (Or.inr ⟨by simp, rfl, Or.inr ⟨_, rfl, ?_⟩⟩)
    rcases served_modbus b.rtu stack with ⟨reg, a, n, hserved⟩ | ⟨reg, a, n, hserved⟩ <;> rw [hserved] <;>
      simp [Event.Job]
  | dryPoll level =>
    cases h
    exact Or.inr (Or.inr ⟨by simp, rfl, Or.inr ⟨_, rfl, by simp [Event.Job]⟩⟩)
  | event e =>
    obtain ⟨hdirect, h⟩ := Option.ite_none_right_eq_some.1 h
    cases h
    refine Or.inr (Or.inr ⟨by simp, rfl, Or.inr ⟨e, rfl, ?_⟩⟩)
    rintro (rfl | rfl | rfl) <;> cases hdirect

/-! The nodes of one address. -/

/-- No mark that `a` was heard is left. -/
def Unmarked (a : UInt32) (l : List Device) : Prop :=
  ∀ d ∈ l, d.deviceId = a → d.type ≠ deviceTypeGateway → d.recv = 0

def AllOffline (a : UInt32) (l : List Device) : Prop :=
  ∀ d ∈ l, d.deviceId = a → d.type ≠ deviceTypeGateway → d.online = 0

/-- The nodes of `a` are old ones, at most with the mark taken back. -/
def KeepsNodes (a : UInt32) (l l' : List Device) : Prop :=
  ∀ d' ∈ l', d'.deviceId = a → d'.type ≠ deviceTypeGateway →
    ∃ d ∈ l, d.deviceId = a ∧ d.type ≠ deviceTypeGateway ∧ d.online = d'.online ∧ (d.recv = 0 → d'.recv = 0)

section
variable {a : UInt32} {l l' l'' : List Device} {s : State} {e : Event}

theorem KeepsNodes.of_mem (h : ∀ d ∈ l', d.deviceId = a → d ∈ l) : KeepsNodes a l l' :=
  fun d' hd' hid ht => ⟨d', h d' hd' hid, hid, ht, rfl, id⟩

theorem KeepsNodes.trans (h : KeepsNodes a l l') (h' : KeepsNodes a l' l'') : KeepsNodes a l l'' := by
  intro d'' hd'' hid'' ht''
  obtain ⟨d', hd', hid', ht', honline', hrecv'⟩ := h' d'' hd'' hid'' ht''
  obtain ⟨d, hd, hid, ht, honline, hrecv⟩ := h d' hd' hid' ht'
  exact ⟨d, hd, hid, ht, honline.trans honline', hrecv' ∘ hrecv⟩

theorem KeepsNodes.unmarked (h : KeepsNodes a l l') (hl : Unmarked a l) : Unmarked a l' := by
  intro d' hd' hid' ht'
  obtain ⟨d, hd, hid, ht, -, hrecv⟩ := h d' hd' hid' ht'
  exact hrecv (hl d hd hid ht)

theorem KeepsNodes.allOffline (h : KeepsNodes a l l') (hl : AllOffline a l) : AllOffline a l' := by
  intro d' hd' hid' ht'
  obtain ⟨d, hd, hid, ht, honline, -⟩ := h d' hd' hid' ht'
  exact honline ▸ hl d hd hid ht

theorem gatewayHeartCheck_keeps (u : MainUnit) :
    KeepsNodes a u.storage.deviceList (gatewayHeartCheck u).storage.deviceList := by
  unfold gatewayHeartCheck
  split
  · exact .of_mem fun d hd _ => hd
  · split
    · rw [MainUnit.onStorage_storage, recvSet_deviceList]
      intro d' hd' hid ht
      obtain ⟨x, hx, rfl⟩ := List.mem_map.1 hd'
      have hsame := RegOp.change_same (.recvSet (aqGatewayFind u.storage) 0) x
      refine ⟨x, hx, hsame.deviceId ▸ hid, hsame.type ▸ ht, ?_, fun hrecv => ?_⟩
      · change _ = (if x.deviceId = aqGatewayFind u.storage then { x with recv := 0 } else x).online
        split <;> rfl
      · change (if x.deviceId = aqGatewayFind u.storage then { x with recv := 0 } else x).recv = 0
        split
        · rfl
        · exact hrecv
    · exact .of_mem fun d hd _ => hd

/-- **An event** that hears nothing of `a`. -/
theorem handle_keeps (hno : e.resetsUnit s = false) (hcheck : e ≠ .rtcDeviceHeartCheck) (hhears : e.hears a s = false) :
    KeepsNodes a s.unit.storage.deviceList (e.handle s).unit.storage.deviceList := by
  by_cases hradio : ∃ rssi snr data len, e = .radio rssi snr data len
  · obtain ⟨rssi, snr, data, len, rfl⟩ := hradio
    rw [Event.handle, radioProtocolParse_eq]
    split
    · rename_i hacc
      refine .of_mem fun d hd hid => ?_
      by_cases ht : (rxFrameOf s.unit.env.stackSnr rssi data len).ToUnit s.unit
      · have hne : d.deviceId ≠ (rxFrameOf s.unit.env.stackSnr rssi data len).sourceAddr := fun h =>
          of_decide_eq_false hhears ⟨hacc, ht, h.symm.trans hid⟩
        by_cases hl : Listed (rxFrameOf s.unit.env.stackSnr rssi data len).sourceAddr s.unit.storage
        · exact dispatch_kept hl (fun hend => of_decide_eq_false hno ⟨hacc, hend⟩) hd hne
        · exact (dispatch_unlisted hl hd).resolve_right fun h => hne h.1
      · exact dispatch_other ht ▸ hd
    · exact .of_mem fun d hd _ => hd
  have hradio : ∀ rssi snr data len, e ≠ .radio rssi snr data len :=
    fun rssi snr data len he => hradio ⟨rssi, snr, data, len, he⟩
  by_cases hgateway : e = .rtcGatewayHeartCheck
  · rw [hgateway]
    exact gatewayHeartCheck_keeps s.unit
  · exact .of_mem fun d hd _ => Event.keeps_deviceList hno hradio hcheck hgateway ▸ hd

theorem deviceCheck_deviceList (s : State) :
    (Event.handle .rtcDeviceHeartCheck s).unit.storage.deviceList =
      s.unit.storage.deviceList.map (Device.checked s.unit.storage.deviceList) := by
  change (aqDeviceHeartCheck s.unit).storage.deviceList = _
  rw [(heartCheck_spec s.unit).1, heartCheckMark_deviceList]

/-- **A check** takes all marks back, also where several nodes have the address. -/
theorem deviceCheck_unmarks (s : State) :
    Unmarked a (Event.handle .rtcDeviceHeartCheck s).unit.storage.deviceList := by
  rw [deviceCheck_deviceList]
  intro d' hd' hid ht
  obtain ⟨d, hd, rfl⟩ := List.mem_map.1 hd'
  exact if_pos ht

/-- A check takes offline what was not marked, and leaves offline what is. -/
theorem deviceCheck_offline (h : Unmarked a s.unit.storage.deviceList ∨ AllOffline a s.unit.storage.deviceList) :
    AllOffline a (Event.handle .rtcDeviceHeartCheck s).unit.storage.deviceList := by
  rw [deviceCheck_deviceList]
  intro d' hd' hid ht
  obtain ⟨d, hd, rfl⟩ := List.mem_map.1 hd'
  rcases h with h | h
  · exact Device.checked_online.2 (Or.inr ⟨d, hd, rfl, ht, h d hd hid ht⟩)
  · exact Device.checked_online.2 (Or.inl (h d hd hid ht))

end

/-! A round and a step. -/

section
variable {cfg : Config} {a : UInt32} {s s' : State} {env : Env} {es : List Event}

theorem jobs_keep (hjobs : ∀ e ∈ es, e = .rtcValveCheck ∨ e = .rtcGatewayHeartCheck)
    (hrun : (system cfg).run s (es.map (env, ·)) = some s') :
    KeepsNodes a s.unit.storage.deviceList s'.unit.storage.deviceList := by
  induction es generalizing s with
  | nil =>
    cases hrun
    exact .of_mem fun d hd _ => hd
  | cons e es ih =>
    obtain ⟨m, hn, hr⟩ := Option.bind_eq_some_iff.1 hrun
    obtain ⟨-, rfl⟩ := system_next_eq_some.1 hn
    have hrest := ih (fun e he => hjobs e (List.mem_cons_of_mem _ he)) hr
    have hfirst : KeepsNodes a s.unit.storage.deviceList
        (e.handle (s.onUnit (MainUnit.begin env))).unit.storage.deviceList := by
      rcases hjobs e List.mem_cons_self with rfl | rfl
      · exact @handle_keeps a (s.onUnit (MainUnit.begin env)) .rtcValveCheck rfl (by simp) rfl
      · exact @handle_keeps a (s.onUnit (MainUnit.begin env)) .rtcGatewayHeartCheck rfl (by simp) rfl
    exact hfirst.trans hrest

/-- The jobs of a round, with its check of the devices and without. -/
theorem round_nodes {valve device : Prop} [Decidable valve] [Decidable device]
    (hes : es = (if valve then [.rtcValveCheck] else []) ++ (if device then [.rtcDeviceHeartCheck] else []) ++
      [.rtcGatewayHeartCheck])
    (hrun : (system cfg).run s (es.map (env, ·)) = some s') :
    (¬ device → KeepsNodes a s.unit.storage.deviceList s'.unit.storage.deviceList) ∧
      (device → Unmarked a s'.unit.storage.deviceList ∧
        (Unmarked a s.unit.storage.deviceList ∨ AllOffline a s.unit.storage.deviceList →
          AllOffline a s'.unit.storage.deviceList)) := by
  have hvalve : ∀ e ∈ (if valve then [Event.rtcValveCheck] else []), e = .rtcValveCheck ∨ e = .rtcGatewayHeartCheck := by
    intro e he
    split at he
    · exact Or.inl (List.mem_singleton.1 he)
    · cases he
  have hgateway : ∀ e ∈ [Event.rtcGatewayHeartCheck], e = .rtcValveCheck ∨ e = .rtcGatewayHeartCheck :=
    fun e he => Or.inr (List.mem_singleton.1 he)
  constructor
  · intro hno
    rw [if_neg hno, List.append_nil] at hes
    refine jobs_keep (fun e he => ?_) hrun
    rw [hes] at he
    exact (List.mem_append.1 he).elim (hvalve e) (hgateway e)
  · intro hcheck
    rw [if_pos hcheck] at hes
    rw [hes, List.map_append, List.map_append, Machine.run_append] at hrun
    obtain ⟨m₂, hrun, hafter⟩ := Option.bind_eq_some_iff.1 hrun
    rw [Machine.run_append] at hrun
    obtain ⟨m₁, hbefore, hrun⟩ := Option.bind_eq_some_iff.1 hrun
    have hcheck := enabled_of_handles hrun
    have hkept := @jobs_keep cfg a _ _ _ _ hvalve hbefore
    have hkept' := @jobs_keep cfg a _ _ _ _ hgateway hafter
    refine ⟨hkept'.unmarked ?_, fun h => hkept'.allOffline ?_⟩
    · rw [hcheck]
      exact deviceCheck_unmarks _
    · rw [hcheck]
      exact deviceCheck_offline (h.imp hkept.unmarked hkept.allOffline)

end

theorem firmware_emitted {cfg : Config} {p p' : State × Board} {i : Env × BoardInput} {b : Board} {es : List Event}
    (hn : (firmware cfg).next p i = some p')
    (hreact : p.2.react (p.1.onUnit (MainUnit.begin i.1)) i.2 = some (b, es)) :
    (board.emitted p i).map Prod.snd = es := by
  obtain ⟨b', es', hfault, -⟩ := firmware_next_eq_some.1 hn
  have hstep : board.step p.1 p.2 i =
      (p.2.react (p.1.onUnit (MainUnit.begin i.1)) i.2).map fun r =>
        (if r.2.any (·.resetsUnit (p.1.onUnit (MainUnit.begin i.1))) then r.1.restart else r.1, r.2.map (i.1, ·)) :=
    if_neg hfault
  unfold FrontEnd.emitted
  rw [hstep, hreact]
  change (es.map (i.1, ·)).map Prod.snd = es
  rw [List.map_map]
  exact List.map_id _

/-- What a round counts. -/
theorem round_counts {r : RtcThread} (h : r.OnTime) :
    r.round.2.countP Event.valveCheck = (if (r.jobs + 1) % 120 = 0 then 1 else 0) ∧
      r.round.2.countP Event.deviceCheck = (if (r.jobs + 1) % 48 = 0 then 1 else 0) ∧
      r.round.2.countP Event.gatewayCheck = 1 ∧ ∀ a s, r.round.2.any (·.hears a s) = false := by
  rw [h.events]
  by_cases hvalve : (r.jobs + 1) % 120 = 0 <;> by_cases hdevice : (r.jobs + 1) % 48 = 0 <;>
    simp only [if_pos, if_neg, hvalve, hdevice, not_false_iff] <;> exact ⟨rfl, rfl, rfl, fun _ _ => rfl⟩

/-- Other events are not counted. -/
theorem other_counts {e : Event} (h : ¬ e.Job) :
    e.valveCheck = false ∧ e.deviceCheck = false ∧ e.gatewayCheck = false := by
  cases e with
  | rtcValveCheck => exact absurd (Or.inl rfl) h
  | rtcDeviceHeartCheck => exact absurd (Or.inr (Or.inl rfl)) h
  | rtcGatewayHeartCheck => exact absurd (Or.inr (Or.inr rfl)) h
  | _ => exact ⟨rfl, rfl, rfl⟩

/-- What the log says of the firmware. -/
structure Watched (p : (State × Board) × RoundLog) : Prop where
  onTime : p.1.2.rtc.OnTime
  alarms : p.1.2.rtc.jobs + p.1.2.rtc.rtcSem ≤ p.2.alarms ∧
    (p.2.alarms ≤ 65535 → p.1.2.rtc.jobs + p.1.2.rtc.rtcSem = p.2.alarms)
  valveChecks : p.2.valveChecks = p.1.2.rtc.jobs / 120
  deviceChecks : p.2.deviceChecks = p.1.2.rtc.jobs / 48
  gatewayChecks : p.2.gatewayChecks = p.1.2.rtc.jobs
  unmarked : ∀ a, p.2.heardAt a / 48 < p.1.2.rtc.jobs / 48 → Unmarked a p.1.1.unit.storage.deviceList
  offline : ∀ a, p.2.heardAt a / 48 + 1 < p.1.2.rtc.jobs / 48 → AllOffline a p.1.1.unit.storage.deviceList

/-- Since the reset no round has gone by. -/
theorem Watched.afresh (s : State) {b : Board} (hb : b.rtc = {}) : Watched ((s, b), {}) where
  onTime := hb ▸ ⟨rfl, rfl⟩
  alarms := hb ▸ ⟨le_rfl, fun _ => rfl⟩
  valveChecks := hb ▸ rfl
  deviceChecks := hb ▸ rfl
  gatewayChecks := hb ▸ rfl
  unmarked a h := by
    rw [hb] at h
    cases h
  offline a h := by
    rw [hb] at h
    cases h

section
variable {cfg : Config} {s s' : State} {b b' : Board} {log : RoundLog} {env : Env} {es : List Event}

/-- The log after a step that is no reset. -/
def RoundLog.counted (log : RoundLog) (s : State) (b : Board) (alarm : Nat) (es : List Event) : RoundLog :=
  { alarms := log.alarms + alarm
    valveChecks := log.valveChecks + es.countP Event.valveCheck
    deviceChecks := log.deviceChecks + es.countP Event.deviceCheck
    gatewayChecks := log.gatewayChecks + es.countP Event.gatewayCheck
    heardAt := fun a => if es.any (·.hears a s) then b.rtc.jobs else log.heardAt a }

/-- **A round** of the thread. -/
theorem Watched.round (h : Watched ((s, b), log)) (hsem : b.rtc.rtcSem ≠ 0) (hrtc : b'.rtc = b.rtc.round.1)
    (hround : es = b.rtc.round.2) (hrun : (system cfg).run s (es.map (env, ·)) = some s') (s₀ : State) :
    Watched ((s', b'), log.counted s₀ b 0 es) := by
  have hjobs : b'.rtc.jobs = b.rtc.jobs + 1 := by rw [hrtc]; rfl
  have hsem' : b'.rtc.rtcSem = b.rtc.rtcSem - 1 := by rw [hrtc]; rfl
  obtain ⟨hvalve, hdevice, hgateway, hhears⟩ := round_counts h.onTime
  dsimp only at hvalve hdevice hgateway hhears
  rw [← hround] at hvalve hdevice hgateway hhears
  rw [h.onTime.events] at hround
  have hnodes : ∀ a, _ := fun a => @round_nodes cfg a s s' env es _ _ _ _ hround hrun
  have halarms := h.alarms
  have hv := h.valveChecks
  have hd := h.deviceChecks
  have hg := h.gatewayChecks
  dsimp only at halarms hv hd hg
  refine ⟨hrtc ▸ h.onTime.round, ?_, ?_, ?_, ?_, fun a ha => ?_, fun a ha => ?_⟩
  · dsimp only [RoundLog.counted]
    rw [hjobs, hsem']
    omega
  · dsimp only [RoundLog.counted]
    rw [hjobs, hvalve]
    split <;> omega
  · dsimp only [RoundLog.counted]
    rw [hjobs, hdevice]
    split <;> omega
  · dsimp only [RoundLog.counted]
    rw [hjobs, hgateway, hg]
  · dsimp only [RoundLog.counted] at ha ⊢
    rw [hhears, if_neg (by decide), hjobs] at ha
    by_cases hcheck : (b.rtc.jobs + 1) % 48 = 0
    · exact ((hnodes a).2 hcheck).1
    · exact ((hnodes a).1 hcheck).unmarked (h.unmarked a (by dsimp only; omega))
  · dsimp only [RoundLog.counted] at ha ⊢
    rw [hhears, if_neg (by decide), hjobs] at ha
    by_cases hcheck : (b.rtc.jobs + 1) % 48 = 0
    · exact ((hnodes a).2 hcheck).2 (Or.inl (h.unmarked a (by dsimp only; omega)))
    · exact ((hnodes a).1 hcheck).allOffline (h.offline a (by dsimp only; omega))

/-- **An alarm** waits in the semaphore, if that is not full. -/
theorem Watched.alarm (h : Watched ((s, b), log)) (hrtc : b'.rtc = { b.rtc with rtcSem := rtSemRelease b.rtc.rtcSem })
    (s₀ : State) : Watched ((s, b'), log.counted s₀ b 1 []) := by
  have hjobs : b'.rtc.jobs = b.rtc.jobs := by rw [hrtc]
  have hsem' : b'.rtc.rtcSem = rtSemRelease b.rtc.rtcSem := by rw [hrtc]
  have halarms := h.alarms
  dsimp only at halarms
  refine ⟨hrtc ▸ ⟨h.onTime.valveHours, h.onTime.rtcHours⟩, ?_, ?_, ?_, ?_, fun a ha => ?_, fun a ha => ?_⟩
  · dsimp only [RoundLog.counted]
    rw [hjobs, hsem']
    unfold rtSemRelease
    split <;> omega
  · dsimp only
    rw [hjobs]
    exact h.valveChecks
  · dsimp only
    rw [hjobs]
    exact h.deviceChecks
  · dsimp only
    rw [hjobs]
    exact h.gatewayChecks
  · dsimp only at ha ⊢
    rw [hjobs] at ha
    exact h.unmarked a ha
  · dsimp only at ha ⊢
    rw [hjobs] at ha
    exact h.offline a ha

/-- **Another input**: the nodes of those it does not hear stay. -/
theorem Watched.other (h : Watched ((s, b), log)) (hrtc : b'.rtc = b.rtc) (hother : es = [] ∨ ∃ e, es = [e] ∧ ¬ e.Job)
    {s₀ : State} (hkept : ∀ a, es.any (·.hears a s₀) = false →
      KeepsNodes a s.unit.storage.deviceList s'.unit.storage.deviceList) :
    Watched ((s', b'), log.counted s₀ b 0 es) := by
  have hcounts : es.countP Event.valveCheck = 0 ∧ es.countP Event.deviceCheck = 0 ∧
      es.countP Event.gatewayCheck = 0 := by
    rcases hother with rfl | ⟨e, rfl, hjob⟩
    · exact ⟨rfl, rfl, rfl⟩
    · obtain ⟨hvalve, hdevice, hgateway⟩ := other_counts hjob
      simp [hvalve, hdevice, hgateway]
  unfold RoundLog.counted
  rw [hcounts.1, hcounts.2.1, hcounts.2.2]
  refine ⟨hrtc ▸ h.onTime, hrtc ▸ h.alarms, hrtc ▸ h.valveChecks, hrtc ▸ h.deviceChecks, hrtc ▸ h.gatewayChecks,
    fun a ha => ?_, fun a ha => ?_⟩
  · dsimp only at ha ⊢
    rw [hrtc] at ha
    by_cases hhears : es.any (·.hears a s₀) = true
    · rw [if_pos hhears] at ha
      exact absurd ha (lt_irrefl _)
    · rw [if_neg hhears] at ha
      exact (hkept a (Bool.eq_false_of_not_eq_true hhears)).unmarked (h.unmarked a ha)
  · dsimp only at ha ⊢
    rw [hrtc] at ha
    by_cases hhears : es.any (·.hears a s₀) = true
    · rw [if_pos hhears] at ha
      omega
    · rw [if_neg hhears] at ha
      exact (hkept a (Bool.eq_false_of_not_eq_true hhears)).allOffline (h.offline a ha)

/-- An event that is no job, and no reset. -/
theorem other_keeps {a : UInt32} (hother : es = [] ∨ ∃ e, es = [e] ∧ ¬ e.Job)
    (hrun : (system cfg).run s (es.map (env, ·)) = some s')
    (hreset : ¬ es.any (·.resetsUnit (s.onUnit (MainUnit.begin env))) = true)
    (hhears : es.any (·.hears a (s.onUnit (MainUnit.begin env))) = false) :
    KeepsNodes a s.unit.storage.deviceList s'.unit.storage.deviceList := by
  rcases hother with rfl | ⟨e, rfl, hjob⟩
  · obtain rfl : s = s' := Option.some_inj.1 hrun
    exact .of_mem fun d hd _ => hd
  · rw [enabled_of_handles hrun]
    have hno : e.resetsUnit (s.onUnit (MainUnit.begin env)) = false := by simpa using hreset
    have hcheck : e ≠ .rtcDeviceHeartCheck := fun h => hjob (Or.inr (Or.inl h))
    exact @handle_keeps a (s.onUnit (MainUnit.begin env)) e hno hcheck (by simpa using hhears)

end

theorem Watched.next {cfg : Config} {p p' : (State × Board) × RoundLog} {i : Env × BoardInput} (h : Watched p)
    (hn : (watched cfg).next p i = some p') : Watched p' := by
  obtain ⟨⟨s, b⟩, log⟩ := p
  obtain ⟨⟨s', b'⟩, log'⟩ := p'
  obtain ⟨hnext, rfl⟩ := Machine.logged_next_eq_some.1 hn
  obtain ⟨b₁, es, -, hreact, hb, hrun⟩ := firmware_next_eq_some.1 hnext
  have hes := firmware_emitted hnext hreact
  dsimp only at hreact hb hrun hes ⊢
  unfold roundLog
  dsimp only
  rw [hes]
  by_cases hreset : es.any (·.resetsUnit (s.onUnit (MainUnit.begin i.1))) = true
  · rw [if_pos hreset] at hb ⊢
    rw [hb]
    exact .afresh s' rfl
  rw [if_neg hreset] at hb ⊢
  obtain rfl := hb
  obtain ⟨env, i⟩ := i
  rcases react_rounds hreact with ⟨hsem, rfl, hrtc, hround⟩ | ⟨rfl, hrtc, rfl⟩ | ⟨halarm, hrtc, hother⟩
  · exact h.round hsem hrtc hround hrun _
  · obtain rfl : s = s' := Option.some_inj.1 hrun
    exact h.alarm hrtc _
  · have halarms : i.alarm = 0 := by
      cases i with
      | rtcAlarm => exact absurd rfl halarm
      | _ => rfl
    dsimp only
    rw [halarms]
    exact h.other hrtc hother fun a => other_keeps hother hrun hreset

theorem watched_reachable {cfg : Config} {p : (State × Board) × RoundLog} (h : (watched cfg).Reachable p) : Watched p := by
  refine @Machine.reachable_inv _ _ (watched cfg) Watched ?_ ?_ p h
  · rintro ⟨⟨s, b⟩, log⟩ ⟨⟨-, hb⟩, hlog⟩
    obtain rfl : log = {} := hlog
    exact .afresh s (by rw [show b = {} from hb])
  · exact fun p i p' hp hn => hp.next hn

/-- **The rounds**: since the last reset the valve was checked in every 120th
round, the devices in every 48th and the gateway in each; an alarm is a round or
waits for one, unless there were more alarms than the semaphore holds. -/
theorem rtc_schedule {cfg : Config} {p : (State × Board) × RoundLog} (h : (watched cfg).Reachable p) :
    p.2.valveChecks = p.2.gatewayChecks / 120 ∧ p.2.deviceChecks = p.2.gatewayChecks / 48 ∧
      p.2.gatewayChecks + p.1.2.rtc.rtcSem ≤ p.2.alarms ∧
      (p.2.alarms ≤ 65535 → p.2.gatewayChecks + p.1.2.rtc.rtcSem = p.2.alarms) := by
  have hw := watched_reachable h
  rw [hw.valveChecks, hw.deviceChecks, hw.gatewayChecks]
  exact ⟨rfl, rfl, hw.alarms⟩

/-- End unit 7 is added, and 96 hours go by. -/
def sampleDays : List (Env × BoardInput) :=
  (sampleEnv, .event (sampleFrame deviceTypeEndunit 7 [learnDeviceCmd, 1, 1])) ::
    (List.replicate 96 [(sampleEnv, .rtcAlarm), (sampleEnv, .rtcThread)]).flatten

theorem sampleDays_reachable {p : (State × Board) × RoundLog}
    (hr : (watched sampleConfig).run ((sampleStart, {}), {}) sampleDays = some p) : (watched sampleConfig).Reachable p :=
  ⟨((sampleStart, {}), {}), sampleDays, ⟨⟨⟨_, _, _, rfl⟩, rfl⟩, rfl⟩, hr⟩

theorem rtc_schedule_sample :
    ∃ p, (watched sampleConfig).run ((sampleStart, {}), {}) sampleDays = some p ∧
      p.2.valveChecks = p.2.gatewayChecks / 120 ∧ p.2.deviceChecks = p.2.gatewayChecks / 48 := by
  have hrun : ((watched sampleConfig).run ((sampleStart, {}), {}) sampleDays).isSome = true := by decide +kernel
  obtain ⟨p, hr⟩ := Option.isSome_iff_exists.1 hrun
  have hschedule := rtc_schedule (sampleDays_reachable hr)
  exact ⟨p, hr, hschedule.1, hschedule.2.1⟩

/-- **A silent device is offline** once 96 rounds have gone by since it was last
heard, or since the reset. -/
theorem silent_offline {cfg : Config} {p : (State × Board) × RoundLog} (h : (watched cfg).Reachable p) {a : UInt32}
    (hsilent : p.2.heardAt a + 96 ≤ p.1.2.rtc.jobs) :
    ∀ d ∈ p.1.1.unit.storage.deviceList, d.deviceId = a → d.type ≠ deviceTypeGateway → d.online = 0 :=
  (watched_reachable h).offline a (by omega)

theorem silent_offline_sample :
    ∃ p, (watched sampleConfig).run ((sampleStart, {}), {}) sampleDays = some p ∧
      ∃ d ∈ p.1.1.unit.storage.deviceList, d.deviceId = 7 ∧ d.online = 0 := by
  have hrun : (((watched sampleConfig).run ((sampleStart, {}), {}) sampleDays).map fun p =>
      decide (p.2.heardAt 7 + 96 ≤ p.1.2.rtc.jobs ∧
        ∃ d ∈ p.1.1.unit.storage.deviceList, d.deviceId = 7 ∧ d.type ≠ deviceTypeGateway)) = some true := by
    decide +kernel
  obtain ⟨p, hr, hp⟩ := Option.map_eq_some_iff.1 hrun
  obtain ⟨hsilent, d, hd, hid, ht⟩ := of_decide_eq_true hp
  exact ⟨p, hr, d, hd, hid, silent_offline (sampleDays_reachable hr) hsilent d hd hid ht⟩

end Aqualarm
