import Aqualarm.AlarmRuns
import Aqualarm.Controls

/-
  A handler run twice.

  What is proved:
    1. `Controls.Command` and its instances — run on its own result, a command
       changes nothing more; with the offline check behind it, exactly if it
       finds nothing to do once the check has cleared the alarm
       (`Command.heard_again`, `Command.heard_clears_again`).
    2. `after_of_fixed`, `commandOps_settles` — operations that set fields leave
       nothing to set and nothing to write.
    3. `Handled.twice` — a handler run again finds what it found, and does to the
       alarm, the lock and the valve what it does to its own result.
-/

namespace Aqualarm

open Lib

/-! Commands run on their own result. -/

namespace Controls

/-- What a leak alarm and an offline alarm go with. -/
structure Coherent (v : Controls) : Prop where
  leak : v.deviceStatus = .slaverSensorLeak → v.valveStatus = .valveStatusClose ∧ v.lockStatus ≠ 0
  offline : v.deviceStatus = .slaverOffline → v.valveStatus = .valveStatusClose ∧ v.nowEvent.priority = 5

/-- Repeated, it changes nothing more; and the offline alarm shows after it only
if it showed before and nothing was changed. -/
structure Command (f : Controls → Controls) : Prop where
  again : ∀ v : Controls, v.Coherent → f (f v) = f v
  offline : ∀ v : Controls, v.Coherent → (f v).deviceStatus = .slaverOffline →
    v.deviceStatus = .slaverOffline ∧ f v = v

theorem command_id : Command id := ⟨fun _ _ => rfl, fun _ _ h => ⟨h, rfl⟩⟩

section
variable (v : Controls)

theorem openIdle_again : v.openIdle.openIdle = v.openIdle := by
  unfold openIdle unlocked opened
  grind [DeviceStatus.Idle]

theorem lockIdle_again : v.lockIdle.lockIdle = v.lockIdle := by
  unfold lockIdle locked closed
  grind [DeviceStatus.Idle]

theorem closeIdle_again : v.closeIdle.closeIdle = v.closeIdle := by
  unfold closeIdle closed
  grind [DeviceStatus.Idle]

theorem openIdle_status : v.openIdle.deviceStatus.Idle ∨ v.openIdle = v := by
  unfold openIdle unlocked opened
  grind [DeviceStatus.Idle]

theorem lockIdle_status : v.lockIdle.deviceStatus.Idle ∨ v.lockIdle = v := by
  unfold lockIdle locked closed
  grind [DeviceStatus.Idle]

/-- The alarm of a leak that is gone is cleared over a shut, locked valve. -/
theorem cleared_lockIdle (h : v.valveStatus = .valveStatusClose) (hl : v.lockStatus ≠ 0) :
    v.cleared.lockIdle = v.cleared := by
  unfold lockIdle locked closed cleared
  grind [DeviceStatus.Idle, ValveStatus.toDeviceStatus]

end

/-- A warning is accepted again, and what it does is done already. -/
theorem warned_command {w : Warning} {act : Controls → Controls} (hw : w.status ≠ .slaverOffline)
    (hact : ∀ v : Controls, (v.shown w act).shown w act = v.shown w act) : Command (warned w act) where
  again v _ := by
    unfold warned
    by_cases hp : v.nowEvent.priority ≤ w.priority
    · rw [if_pos hp, if_pos (show (v.shown w act).nowEvent.priority ≤ w.priority from Nat.le_refl _), hact]
    · rw [if_neg hp, if_neg hp]
  offline v _ h := by
    unfold warned at h ⊢
    split at h
    · exact absurd h hw
    · rename_i hp
      exact ⟨h, if_neg hp⟩

theorem endunitHeart_command (battery : UInt8) : Command (endunitHeart battery) := by
  unfold endunitHeart
  split
  · exact warned_command (by decide) fun _ => rfl
  · split
    · refine warned_command (by decide) fun v => ?_
      unfold shown locked closed
      grind
    · exact command_id

theorem endunitValve_command (value : UInt8) (leak : Bool) : Command (endunitValve value leak) := by
  by_cases hv : value = 0
  · have hf : ∀ v, endunitValve value leak v =
        if v.deviceStatus = .slaverSensorLeak then if leak = false then v.cleared else v else v.lockIdle :=
      fun v => if_neg (not_not.2 hv)
    constructor
    · intro v hc
      rw [hf v]
      split
      · rename_i hl
        obtain ⟨hshut, hlock⟩ := hc.leak hl
        split
        · have hne : v.cleared.deviceStatus ≠ .slaverSensorLeak :=
            DeviceStatus.Operable.ne_leak (Or.inl (toDeviceStatus_idle _))
          rw [hf, if_neg hne, cleared_lockIdle v hshut hlock]
        · rename_i hfind
          rw [hf, if_pos hl, if_neg hfind]
      · rename_i hl
        have hne : v.lockIdle.deviceStatus ≠ .slaverSensorLeak := by
          rcases lockIdle_status v with h | h
          · exact DeviceStatus.Operable.ne_leak (Or.inl h)
          · rwa [h]
        rw [hf, if_neg hne, lockIdle_again]
    · intro v _ h
      rw [hf] at h ⊢
      split at h
      · rename_i hl
        split at h
        · exact absurd h (toDeviceStatus_idle _).ne_offline
        · rw [hl] at h
          cases h
      · rename_i hl
        rcases lockIdle_status v with hi | hsame
        · exact absurd h hi.ne_offline
        · exact ⟨by rwa [hsame] at h, (if_neg hl).trans hsame⟩
  · have hf : ∀ v, endunitValve value leak v = v.openIdle := fun v => if_pos hv
    constructor
    · intro v _
      rw [hf, hf, openIdle_again]
    · intro v _ h
      rw [hf] at h ⊢
      rcases openIdle_status v with hi | hsame
      · exact absurd h hi.ne_offline
      · exact ⟨by rwa [hsame] at h, hsame⟩

/-- What ends an alarm leaves it ended. -/
theorem ended_command {alarm : DeviceStatus} (found : Bool) {act : Controls → Controls} (ha : alarm ≠ .slaverOffline)
    (hact : ∀ v, (act v).deviceStatus ≠ alarm ∧ (act v).deviceStatus ≠ .slaverOffline) : Command (ended alarm found act) := by
  constructor
  · intro v _
    unfold ended
    split
    · split
      · exact if_neg (hact v).1
      · rfl
    · rfl
  · intro v _ h
    unfold ended at h ⊢
    split at h
    · rename_i hl
      split at h
      · exact absurd h (hact v).2
      · exact absurd (hl.symm.trans h) ha
    · rename_i hl
      exact ⟨h, if_neg hl⟩

theorem cleared_ne_offline (v : Controls) : v.cleared.deviceStatus ≠ .slaverOffline :=
  (toDeviceStatus_idle _).ne_offline

theorem cleared_closed_idle (v : Controls) : v.cleared.closed.deviceStatus.Idle := by
  unfold closed
  split
  · exact toDeviceStatus_idle _
  · exact Or.inl rfl

theorem endunitWarn_command (sub value : UInt8) (leak lost : Bool) : Command (endunitWarn sub value leak lost) := by
  unfold endunitWarn
  split
  · split
    · refine warned_command (by decide) fun v => ?_
      simp [shown, Warning.status]
    · refine ended_command leak (by decide) fun v => ?_
      exact ⟨DeviceStatus.Operable.ne_leak (Or.inl (cleared_closed_idle v)), (cleared_closed_idle v).ne_offline⟩
  · split
    · split
      · exact warned_command (by decide) fun _ => rfl
      · refine ended_command lost (by decide) fun v => ⟨?_, cleared_ne_offline v⟩
        change v.valveStatus.toDeviceStatus ≠ _
        cases v.valveStatus <;> decide
    · exact command_id

/-! An end unit's command with the offline check behind it. -/

theorem heard_of_ne {offline : Bool} {v : Controls} (h : v.deviceStatus ≠ .slaverOffline) : v.heard offline = v :=
  if_neg h

/-- The check clears the alarm, and the command does nothing before. -/
def Clears (f : Controls → Controls) (offline : Bool) (v : Controls) : Prop :=
  (f v).deviceStatus = .slaverOffline ∧ offline = false

theorem Command.heard_clears {f : Controls → Controls} (hf : Command f) {offline : Bool} {v : Controls}
    (hc : v.Coherent) (h : Clears f offline v) : (f v).heard offline = v.cleared := by
  obtain ⟨hs, hsame⟩ := hf.offline v hc h.1
  rw [hsame]
  exact (if_pos hs).trans (if_pos h.2)

/-- Repeated, command and check change nothing more, if the command finds nothing
to do once the alarm is cleared. -/
theorem Command.heard_again {f : Controls → Controls} (hf : Command f) {offline : Bool} {v : Controls}
    (hc : v.Coherent) (h : Clears f offline v → f v.cleared = v.cleared) :
    (f ((f v).heard offline)).heard offline = (f v).heard offline := by
  by_cases hclears : Clears f offline v
  · rw [hf.heard_clears hc hclears, h hclears, heard_of_ne (cleared_ne_offline v)]
  · have hstays : (f v).heard offline = f v := by
      unfold heard ended
      split
      · rename_i hs
        exact if_neg fun ho => hclears ⟨hs, ho⟩
      · rfl
    rw [hstays, hf.again v hc, hstays]

theorem Command.heard_clears_again {f : Controls → Controls} (hf : Command f) {offline : Bool} {v : Controls}
    (hc : v.Coherent) (h : Clears f offline v) : (f ((f v).heard offline)).heard offline = f v.cleared := by
  have hcleared : v.cleared.Coherent :=
    ⟨fun hl => absurd hl (DeviceStatus.Operable.ne_leak (Or.inl (toDeviceStatus_idle _))),
      fun ho => absurd ho (cleared_ne_offline v)⟩
  rw [hf.heard_clears hc h]
  exact heard_of_ne fun ho => cleared_ne_offline v (hf.offline v.cleared hcleared ho).1

section
variable (v : Controls)

theorem doorunitValve_again (sub : UInt8) : doorunitValve sub (doorunitValve sub v) = doorunitValve sub v := by
  unfold doorunitValve
  split
  · exact lockIdle_again v
  · split
    · exact openIdle_again v
    · rfl

theorem motionControl_again (value : UInt8) : motionControl value (motionControl value v) = motionControl value v := by
  unfold motionControl
  split
  · exact openIdle_again v
  · exact closeIdle_again v

theorem gatewayControl_again (sub : UInt8) : gatewayControl sub (gatewayControl sub v) = gatewayControl sub v := by
  unfold gatewayControl
  split
  · exact closeIdle_again v
  · split
    · exact openIdle_again v
    · rfl

/-- In the learn mode's states a toggle toggles back. -/
theorem toggled_again (h : v.deviceStatus.Idle ∨ v.deviceStatus = .learnDevice) :
    v.toggled.toggled.deviceStatus ≠ v.toggled.deviceStatus := by
  unfold toggled
  rcases h with hi | hl
  · rw [if_pos hi, if_neg (show ¬ DeviceStatus.learnDevice.Idle by decide), if_pos rfl]
    change v.valveStatus.toDeviceStatus ≠ .learnDevice
    exact toDeviceStatus_ne_learnDevice _
  · rw [if_neg (show ¬ v.deviceStatus.Idle by rw [hl]; decide), if_pos hl,
      if_pos (show (cleared { v with allowAddDevice := false }).deviceStatus.Idle from toDeviceStatus_idle _)]
    exact (toDeviceStatus_ne_learnDevice v.valveStatus).symm

theorem toggled_other (h : ¬ v.deviceStatus.Idle) (hl : v.deviceStatus ≠ .learnDevice) : v.toggled = v := by
  rw [toggled, if_neg h, if_neg hl]

end

end Controls

/-! Registry operations run on their own result. -/

/-- The operations that come to the first node of an address only. -/
def RegOp.onlyFirst : RegOp → Bool
  | .rssiLevelWrite .. | .recvWrite .. => true
  | _ => false

/-- What an operation makes of a node that is the first of its address, or is not. -/
def RegOp.changeAs (first : Bool) (op : RegOp) (d : Device) : Device :=
  if op.onlyFirst = true ∧ first = false then d else op.change d

/-- A node after a chain of operations in place. -/
def chained (first : Bool) (ops : List RegOp) (d : Device) : Device := ops.foldl (fun d op => op.changeAs first d) d

/-- A list after such a chain, for the address `a`. -/
def chainedList (a : UInt32) (ops : List RegOp) (l : List Device) : List Device :=
  mapFirst (fun d => d.deviceId = a) (chained true ops) (chained false ops) l

/-- Every operation of the chain leaves a node as the chain leaves it. -/
def Settles (ops : List RegOp) : Prop :=
  ∀ first d, ∀ op ∈ ops, op.changeAs first (chained first ops d) = chained first ops d

/-- The operations that set a field of the nodes of `a`. -/
def RegOp.Of (a : UInt32) : RegOp → Prop
  | .waterleakSet b _ | .wirelostSet b _ | .batterySet b _ | .onlineSet b _ | .rssiLevelSet b _ | .recvSet b _
  | .rssiLevelWrite b _ | .recvWrite b _ => b = a
  | _ => False

/-- What they make of such a node. -/
def RegOp.assigned : RegOp → Device → Device
  | .waterleakSet _ value => fun d => { d with waterleak := value }
  | .wirelostSet _ value => fun d => { d with wirelost := value }
  | .batterySet _ value => fun d => { d with battery := value }
  | .onlineSet _ value => fun d => { d with online := value }
  | .rssiLevelSet _ value | .rssiLevelWrite _ value => fun d => { d with rssiLevel := value }
  | .recvSet _ value | .recvWrite _ value => fun d => { d with recv := value }
  | _ => id

def RegOp.assignedAs (first : Bool) (op : RegOp) (d : Device) : Device :=
  if op.onlyFirst = true ∧ first = false then d else op.assigned d

theorem map_of_fixed {α : Type} {f : α → α} {l : List α} (h : ∀ a ∈ l, f a = a) : l.map f = l := by
  rw [List.map_congr_left h, List.map_id']

/-- A change of a field sets it. -/
theorem setDevice_eq {get : Device → UInt8} {put : UInt8 → Device → Device} (hput : ∀ d, put (get d) d = d)
    (deviceId : UInt32) (value : UInt8) (d : Device) :
    setDevice get put deviceId value d = if d.deviceId = deviceId then put value d else d := by
  unfold setDevice
  by_cases hid : d.deviceId = deviceId
  · by_cases hv : get d = value
    · rw [if_neg fun h => h.2 hv, if_pos hid, ← hv, hput]
    · rw [if_pos ⟨hid, hv⟩, if_pos hid]
  · rw [if_neg fun h => hid h.1, if_neg hid]

section
variable {a : UInt32} {op : RegOp} {ops ops' : List RegOp} {st : Storage}

theorem RegOp.changeAs_same (first : Bool) (op : RegOp) (d : Device) : d.Same (op.changeAs first d) := by
  unfold RegOp.changeAs
  split
  · exact .refl d
  · exact op.change_same d

theorem chained_same (first : Bool) (ops : List RegOp) (d : Device) : d.Same (chained first ops d) := by
  unfold chained
  induction ops generalizing d with
  | nil => exact .refl d
  | cons op ops ih => exact (op.changeAs_same first d).trans (ih (op.changeAs first d))

theorem chained_append (first : Bool) (ops ops' : List RegOp) (d : Device) :
    chained first (ops ++ ops') d = chained first ops' (chained first ops d) := List.foldl_append

theorem chained_test (first : Bool) (ops : List RegOp) (a : UInt32) (d : Device) :
    decide ((chained first ops d).deviceId = a) = decide (d.deviceId = a) := by
  rw [(chained_same first ops d).deviceId]

/-- Node by node. -/
theorem chainedList_forall₂ (a : UInt32) (ops : List RegOp) (l : List Device) :
    List.Forall₂ (fun d d' => ∃ first, d' = chained first ops d) l (chainedList a ops l) := by
  refine (forall₂_mapFirst _ _ _ l).imp fun d d' h => ?_
  rcases h with ⟨_, rfl⟩ | rfl
  · exact ⟨true, rfl⟩
  · exact ⟨false, rfl⟩

theorem mem_chainedList {l : List Device} {d : Device} (h : d ∈ chainedList a ops l) :
    ∃ d₀ ∈ l, ∃ first, d = chained first ops d₀ :=
  exists_mem_of_forall₂ (chainedList_forall₂ a ops l) h

theorem chainedList_same (a : UInt32) (ops : List RegOp) (l : List Device) :
    List.Forall₂ Device.Same l (chainedList a ops l) := by
  refine (chainedList_forall₂ a ops l).imp fun d d' h => ?_
  obtain ⟨first, rfl⟩ := h
  exact chained_same first ops d

theorem chainedList_append (a : UInt32) (ops ops' : List RegOp) (l : List Device) :
    chainedList a ops' (chainedList a ops l) = chainedList a (ops ++ ops') l := by
  refine (mapFirst_mapFirst (chained_test true ops a) (chained_test false ops a) l).trans ?_
  refine congrArg₂ (fun f g => mapFirst _ f g l) (funext fun d => ?_) (funext fun d => ?_)
  · exact (chained_append true ops ops' d).symm
  · exact (chained_append false ops ops' d).symm

theorem chainedList_find (a : UInt32) (ops : List RegOp) (l : List Device) :
    (chainedList a ops l).find? (fun d => d.deviceId = a) = (l.find? fun d => d.deviceId = a).map (chained true ops) :=
  find?_mapFirst (chained_test true ops a) (chained_test false ops a) l

/-- Where the ids are distinct a node of the address is the first. -/
theorem mem_chainedList_of_nodup {l : List Device} (h : (l.map Device.deviceId).Nodup) {d : Device}
    (hd : d ∈ chainedList a ops l) (hid : d.deviceId = a) : ∃ d₀ ∈ l, d = chained true ops d₀ := by
  have hone : l.Pairwise fun d d' => decide (d.deviceId = a) = true → decide (d'.deviceId = a) = false := by
    refine (List.pairwise_map.1 h).imp fun {d d'} hne hd => decide_eq_false fun hd' => ?_
    exact hne ((of_decide_eq_true hd).trans hd'.symm)
  rw [chainedList, mapFirst_eq_map hone] at hd
  obtain ⟨d₀, hd₀, rfl⟩ := List.mem_map.1 hd
  refine ⟨d₀, hd₀, if_pos ?_⟩
  by_contra hne
  rw [if_neg hne, (chained_same false ops d₀).deviceId] at hid
  exact hne (decide_eq_true hid)

theorem RegOp.Of.inPlace (h : op.Of a) : op.InPlace := by
  cases op <;> first | exact trivial | exact absurd h id

theorem RegOp.Of.everywhere (h : op.Of a) (hop : op.onlyFirst = false) : op.Everywhere := by
  refine ⟨h.inPlace, ?_⟩
  cases op with
  | rssiLevelWrite | recvWrite => cases hop
  | recvClear => exact absurd h id
  | _ => exact trivial

theorem RegOp.Of.change (h : op.Of a) (d : Device) : op.change d = if d.deviceId = a then op.assigned d else d := by
  cases op with
  | waterleakSet | wirelostSet | batterySet | onlineSet | rssiLevelSet =>
    obtain rfl := h
    unfold RegOp.change RegOp.assigned
    exact setDevice_eq (fun _ => rfl) _ _ d
  | recvSet | rssiLevelWrite | recvWrite =>
    obtain rfl := h
    rfl
  | create | delete | gatewayDelete | doorunitDelete | recvClear | heartRecvClear => exact absurd h id

theorem RegOp.Of.changeAs (h : op.Of a) (first : Bool) (d : Device) :
    op.changeAs first d = if d.deviceId = a then op.assignedAs first d else d := by
  unfold RegOp.changeAs RegOp.assignedAs
  rw [h.change]
  split
  · exact (ite_self d).symm
  · rfl

theorem RegOp.assignedAs_deviceId (first : Bool) (op : RegOp) (d : Device) :
    (op.assignedAs first d).deviceId = d.deviceId := by
  unfold RegOp.assignedAs
  split
  · rfl
  · cases op <;> rfl

theorem foldl_assigned_deviceId (first : Bool) (ops : List RegOp) (d : Device) :
    (ops.foldl (fun d op => op.assignedAs first d) d).deviceId = d.deviceId := by
  induction ops generalizing d with
  | nil => rfl
  | cons op ops ih => exact (ih _).trans (op.assignedAs_deviceId first d)

theorem chained_eq (h : ∀ op ∈ ops, op.Of a) (first : Bool) (d : Device) :
    chained first ops d = if d.deviceId = a then ops.foldl (fun d op => op.assignedAs first d) d else d := by
  unfold chained
  induction ops generalizing d with
  | nil => exact (ite_self d).symm
  | cons op ops ih =>
    rw [List.foldl_cons, ih (fun o ho => h o (List.mem_cons_of_mem _ ho)),
      (h op (List.mem_cons_self ..)).changeAs]
    by_cases hid : d.deviceId = a
    · rw [if_pos hid, if_pos ((op.assignedAs_deviceId first d).trans hid), if_pos hid, List.foldl_cons]
    · rw [if_neg hid, if_neg hid, if_neg hid]

/-- It is enough to look at the node itself. -/
theorem settles_of_assigned (h : ∀ op ∈ ops, op.Of a)
    (hs : ∀ first d, ∀ op ∈ ops, op.assignedAs first (ops.foldl (fun d op => op.assignedAs first d) d) =
      ops.foldl (fun d op => op.assignedAs first d) d) :
    Settles ops := by
  intro first d op hop
  rw [chained_eq h, (h op hop).changeAs]
  by_cases hid : d.deviceId = a
  · rw [if_pos hid, if_pos ((foldl_assigned_deviceId first ops d).trans hid)]
    exact hs first d op hop
  · rw [if_neg hid, if_neg hid]

/-- **One operation**, on the list. -/
theorem RegOp.Of.deviceList (h : op.Of a) (st : Storage) :
    (op.apply st).deviceList = mapFirst (fun d => d.deviceId = a) (op.changeAs true) (op.changeAs false) st.deviceList := by
  cases hop : op.onlyFirst with
  | false =>
    have hchange : ∀ first, op.changeAs first = op.change := fun first => by
      funext d
      exact if_neg fun hc => by rw [hop] at hc; cases hc.1
    rw [hchange, hchange, mapFirst_same, (h.everywhere hop).deviceList]
  | true =>
    have hid : op.changeAs false = id := by
      funext d
      exact if_pos ⟨hop, rfl⟩
    rw [hid]
    cases op with
    | rssiLevelWrite | recvWrite =>
      obtain rfl := h
      refine mapFirst_congr (fun d hd => ?_) st.deviceList
      exact (if_pos (of_decide_eq_true hd)).symm
    | _ => cases hop

theorem after_deviceList (hops : ∀ op ∈ ops, op.Of a) (st : Storage) :
    (ops.foldl (fun st op => op.apply st) st).deviceList = chainedList a ops st.deviceList := by
  induction ops generalizing st with
  | nil => exact ((mapFirst_same _ _ _).trans (List.map_id' _)).symm
  | cons op ops ih =>
    have hsingle : (op.apply st).deviceList = chainedList a [op] st.deviceList :=
      (hops op (List.mem_cons_self ..)).deviceList st
    rw [List.foldl_cons, ih fun o ho => hops o (List.mem_cons_of_mem _ ho), hsingle, chainedList_append,
      List.singleton_append]

theorem setField_of_fixed {get : Device → UInt8} {put : UInt8 → Device → Device} {deviceId : UInt32} {value : UInt8}
    (hget : ∀ d, put value d = d → get d = value)
    (h : ∀ d ∈ st.deviceList, setDevice get put deviceId value d = d) :
    setField get put deviceId value st = st := by
  have hnone : ∀ d ∈ st.deviceList, ¬ (d.deviceId = deviceId ∧ get d ≠ value) := by
    intro d hd hmatch
    have hfixed := h d hd
    rw [setDevice, if_pos hmatch] at hfixed
    exact hmatch.2 (hget d hfixed)
  have hfilter : (st.deviceList.filter fun d => d.deviceId = deviceId ∧ get d ≠ value) = [] :=
    List.filter_eq_nil_iff.2 fun d hd => by simpa using hnone d hd
  have hupdate : updateDevice deviceId (fun d => if get d ≠ value then put value d else d) st = st := by
    unfold updateDevice
    rw [map_of_fixed fun d hd => ?_]
    split
    · rename_i hid
      exact if_neg fun hne => hnone d hd ⟨hid, hne⟩
    · rfl
  rw [setField, hfilter, hupdate, List.foldl_nil]

theorem updateFirst_of_fixed {f : Device → Device} (h : ∀ d ∈ aqDeviceFind a st, f d = d) : updateFirst a f st = st := by
  have hlist : mapFirst (fun d => decide (d.deviceId = a)) f id st.deviceList = st.deviceList :=
    mapFirst_of_fixed h fun _ _ => rfl
  rw [updateFirst, hlist]

/-- An operation that leaves every node it comes to as it is does nothing: it writes
nothing either. -/
theorem RegOp.Of.apply_of_fixed (h : op.Of a) (hfirst : ∀ d ∈ aqDeviceFind a st, op.change d = d)
    (hall : op.onlyFirst = false → ∀ d ∈ st.deviceList, op.change d = d) : op.apply st = st := by
  cases op with
  | waterleakSet | wirelostSet | batterySet | onlineSet | rssiLevelSet =>
    have hall := hall rfl
    unfold RegOp.change at hall
    refine setField_of_fixed (fun d hput => ?_) hall
    rw [← hput]
  | recvSet deviceId value =>
    have hlist := map_of_fixed (hall rfl)
    unfold RegOp.change at hlist
    simp only [RegOp.apply, aqDeviceRecvSet, updateDevice]
    rw [hlist]
  | rssiLevelWrite deviceId | recvWrite deviceId =>
    obtain rfl := h
    refine updateFirst_of_fixed fun d hd => ?_
    have hid : d.deviceId = deviceId := by simpa using List.find?_some hd
    exact (if_pos hid).symm.trans (hfirst d hd)
  | create | delete | gatewayDelete | doorunitDelete | recvClear | heartRecvClear => exact absurd h id

theorem after_of_fixed (hops : ∀ op ∈ ops, op.apply st = st) : ops.foldl (fun st op => op.apply st) st = st := by
  induction ops with
  | nil => rfl
  | cons op ops ih =>
    rw [List.foldl_cons, hops op (List.mem_cons_self ..)]
    exact ih fun o ho => hops o (List.mem_cons_of_mem _ ho)

/-- Nothing is done where the address is not listed. -/
theorem after_unlisted (hops : ∀ op ∈ ops, op.Of a) (hu : ¬ Listed a st) :
    ops.foldl (fun st op => op.apply st) st = st := by
  have hother : ∀ d ∈ st.deviceList, d.deviceId ≠ a := fun d hd hid => hu ⟨d, hd, hid⟩
  refine after_of_fixed fun op hop => (hops op hop).apply_of_fixed (fun d hd => ?_) fun _ d hd => ?_
  · rw [(hops op hop).change, if_neg (hother d (List.mem_of_find?_eq_some hd))]
  · rw [(hops op hop).change, if_neg (hother d hd)]

/-- Nor on what a chain that settles leaves. -/
theorem settled_apply (hops : ∀ op ∈ ops, op.Of a) (hs : Settles ops) {l : List Device}
    (hl : st.deviceList = chainedList a ops l) (hop : op ∈ ops) : op.apply st = st := by
  refine (hops op hop).apply_of_fixed (fun d hd => ?_) fun heverywhere d hd => ?_
  · unfold aqDeviceFind at hd
    rw [hl, chainedList_find] at hd
    obtain ⟨d₀, _, rfl⟩ := Option.map_eq_some_iff.1 hd
    have hfixed := hs true d₀ op hop
    rwa [RegOp.changeAs, if_neg (by simp)] at hfixed
  · rw [hl] at hd
    obtain ⟨d₀, _, first, rfl⟩ := mem_chainedList hd
    have hfixed := hs first d₀ op hop
    rwa [RegOp.changeAs, if_neg (by simp [heverywhere])] at hfixed

theorem settled_after (hops : ∀ op ∈ ops, op.Of a) (hs : Settles ops) {l : List Device}
    (hl : st.deviceList = chainedList a ops l) (hsub : ∀ op ∈ ops', op ∈ ops) :
    ops'.foldl (fun st op => op.apply st) st = st :=
  after_of_fixed fun op hop => settled_apply hops hs hl (hsub op hop)

end

/-- The changes the handlers of nodes make before the source is marked as heard. -/
def RxFrame.commandOps (rx : RxFrame) : List RegOp :=
  if rx.rxData 0 = heartUploadCmd then
    if rx.deviceType = deviceTypeEndunit then [.batterySet rx.sourceAddr (rx.rxData 2)]
    else if rx.deviceType = deviceTypeDoorunit ∧ rx.rxData 2 = 0 then [.batterySet rx.sourceAddr (rx.rxData 3)]
    else []
  else if rx.rxData 0 = controlValveCmd then assignOps rx
  else if rx.rxData 0 = warningUploadCmd ∧ rx.deviceType = deviceTypeEndunit then warnOps rx
  else []

section
variable (rx : RxFrame)

theorem commandOps_cases {P : List RegOp → Prop} (hnone : P [])
    (hbattery : ∀ value, P [.batterySet rx.sourceAddr value])
    (hassign : P [.rssiLevelWrite rx.sourceAddr rx.rssiLevel])
    (hclose : P [.rssiLevelWrite rx.sourceAddr rx.rssiLevel, .waterleakSet rx.sourceAddr 0])
    (hleak : ∀ value, P [.waterleakSet rx.sourceAddr value])
    (hlost : ∀ value, P [.wirelostSet rx.sourceAddr value]) : P rx.commandOps := by
  unfold RxFrame.commandOps assignOps warnOps
  split
  · split
    · exact hbattery _
    · split
      · exact hbattery _
      · exact hnone
  · split
    · split
      · exact hclose
      · exact hassign
    · split
      · split
        · exact hleak _
        · split
          · exact hlost _
          · exact hnone
      · exact hnone

theorem commandOps_of : ∀ op ∈ rx.commandOps, op.Of rx.sourceAddr := by
  refine commandOps_cases rx (P := fun ops => ∀ op ∈ ops, op.Of rx.sourceAddr) ?_ ?_ ?_ ?_ ?_ ?_ <;>
    simp [RegOp.Of]

theorem heardOps_of : ∀ op ∈ heardOps rx, op.Of rx.sourceAddr := by
  simp [heardOps, RegOp.Of]

theorem commandOps_settles : Settles (rx.commandOps ++ heardOps rx) := by
  refine settles_of_assigned (fun op hop => (List.mem_append.1 hop).elim (commandOps_of rx op) (heardOps_of rx op)) ?_
  refine commandOps_cases rx (P := fun ops => ∀ first d, ∀ op ∈ ops ++ heardOps rx,
    op.assignedAs first ((ops ++ heardOps rx).foldl (fun d op => op.assignedAs first d) d) =
      (ops ++ heardOps rx).foldl (fun d op => op.assignedAs first d) d) ?_ ?_ ?_ ?_ ?_ ?_ <;>
    simp [heardOps, RegOp.assigned, RegOp.assignedAs, RegOp.onlyFirst]

end

/-! A handler, what follows it, and both again. -/

/-- What a frame does to the controls, with what is found in the list. -/
def Controls.stepped (f : Bool → Bool → Controls → Controls) (check leak lost offline : Bool) (v : Controls) : Controls :=
  if check then (f leak lost v).heard offline else f leak lost v

theorem Controls.heard_lockStatus (offline : Bool) (v : Controls) : (v.heard offline).lockStatus = v.lockStatus := by
  unfold Controls.heard Controls.ended
  split
  · split <;> rfl
  · rfl

/-- A handler with its changes `ops`, the changes `ops'` behind it, and behind
them the offline check for the frames that have it. -/
structure Handled (ops ops' : List RegOp) (f : Bool → Bool → Controls → Controls) (check : Bool) (u u' : MainUnit) :
    Prop where
  run : ∃ u₁, Runs ops (f (aqDeviceWaterleakFind (u.after ops).storage) (aqDeviceWirelostFind (u.after ops).storage)) u u₁ ∧
    u'.storage = (u₁.after ops').storage ∧
    u'.core.controls =
      if check then u₁.core.controls.heard (aqDeviceEndunitOfflineFind u'.storage) else u₁.core.controls

/-- The second run finds in the list what the first found, changes no node, and
writes at most the lock, if that changes. -/
structure Twice (f : Bool → Bool → Controls → Controls) (check leak lost : Bool) (u u' u'' : MainUnit) : Prop where
  first : u'.core.controls =
    Controls.stepped f check leak lost (aqDeviceEndunitOfflineFind u'.storage) u.core.controls
  second : u''.core.controls =
    Controls.stepped f check leak lost (aqDeviceEndunitOfflineFind u'.storage) u'.core.controls
  deviceList : u''.storage.deviceList = u'.storage.deviceList
  totalSlot : u''.storage.totalSlot = u'.storage.totalSlot
  flash : u''.core.lockStatus = u'.core.lockStatus → u''.storage.flash = u'.storage.flash

theorem LockWritten.deviceList {st st' : Storage} (h : LockWritten st st') : st'.deviceList = st.deviceList := by
  obtain rfl | ⟨value, rfl⟩ := h <;> rfl

theorem LockWritten.totalSlot {st st' : Storage} (h : LockWritten st st') : st'.totalSlot = st.totalSlot := by
  obtain rfl | ⟨value, rfl⟩ := h <;> rfl

theorem Handled.deviceList {a : UInt32} {ops ops' : List RegOp} {f : Bool → Bool → Controls → Controls} {check : Bool}
    {u u' : MainUnit} (hof : ∀ op ∈ ops ++ ops', op.Of a) (h : Handled ops ops' f check u u') :
    u'.storage.deviceList = chainedList a (ops ++ ops') u.storage.deviceList := by
  obtain ⟨u₁, hruns, hs, _⟩ := h.run
  have hops' : ∀ op ∈ ops', op.Of a := fun op hop => hof op (List.mem_append_right _ hop)
  have hmid : u₁.storage.deviceList = (ops.foldl (fun st op => op.apply st) u.storage).deviceList :=
    hruns.tied.written.deviceList
  calc u'.storage.deviceList
      = chainedList a ops' u₁.storage.deviceList := by rw [hs]; exact after_deviceList hops' u₁.storage
    _ = ((ops ++ ops').foldl (fun st op => op.apply st) u.storage).deviceList := by
      rw [hmid, List.foldl_append, after_deviceList hops']
    _ = chainedList a (ops ++ ops') u.storage.deviceList := after_deviceList hof u.storage

theorem listed_of_same {st st' : Storage} (h : List.Forall₂ Device.Same st.deviceList st'.deviceList) {a : UInt32} :
    Listed a st' ↔ Listed a st := by
  have hmem : ∀ l : List Device, (∃ d ∈ l, d.deviceId = a) ↔ a ∈ l.map Device.deviceId := fun l => List.mem_map.symm
  unfold Listed
  rw [hmem, hmem, map_eq_of_same (fun _ _ hd => hd.deviceId) h]

/-- The listed addresses stay. -/
theorem Handled.listed {a b : UInt32} {ops ops' : List RegOp} {f : Bool → Bool → Controls → Controls} {check : Bool}
    {u u' : MainUnit} (hof : ∀ op ∈ ops ++ ops', op.Of b) (h : Handled ops ops' f check u u') :
    Listed a u'.storage ↔ Listed a u.storage :=
  listed_of_same (h.deviceList hof ▸ chainedList_same b (ops ++ ops') u.storage.deviceList)

theorem Handled.twice {a : UInt32} {ops ops' : List RegOp} {f : Bool → Bool → Controls → Controls} {check : Bool}
    {env : Env} {u u' u'' : MainUnit} (hof : ∀ op ∈ ops ++ ops', op.Of a) (hset : Settles (ops ++ ops'))
    (hcause : ∀ first d,
      (chained first ops' d).waterleak = d.waterleak ∧ (chained first ops' d).wirelost = d.wirelost)
    (h : Handled ops ops' f check u u') (h' : Handled ops ops' f check (u'.begin env) u'') :
    Twice f check (aqDeviceWaterleakFind (u.after ops).storage) (aqDeviceWirelostFind (u.after ops).storage) u u' u'' := by
  have hops : ∀ op ∈ ops, op ∈ ops ++ ops' := fun op hop => List.mem_append_left _ hop
  have hops' : ∀ op ∈ ops', op ∈ ops ++ ops' := fun op hop => List.mem_append_right _ hop
  have hchained := h.deviceList hof
  obtain ⟨u₁, hruns, hs₁, hc₁⟩ := h.run
  obtain ⟨u₂, hruns', hs₂, hc₂⟩ := h'.run
  have hmid : u₁.storage.deviceList = (u.after ops).storage.deviceList := hruns.tied.written.deviceList
  have hlist : u'.storage.deviceList = chainedList a ops' (u.after ops).storage.deviceList := by
    rw [hs₁, ← hmid]
    exact after_deviceList (fun op hop => hof op (hops' op hop)) u₁.storage
  -- the second time the changes before the command change nothing
  have hbefore : ((u'.begin env).after ops).storage = (u'.begin env).storage :=
    settled_after hof hset (show (u'.begin env).storage.deviceList = _ from hchained) hops
  have hwritten : LockWritten (u'.begin env).storage u₂.storage := hbefore ▸ hruns'.tied.written
  have hlist₂ : u₂.storage.deviceList = u'.storage.deviceList := hwritten.deviceList
  have hafter : u''.storage = u₂.storage := by
    rw [hs₂]
    exact settled_after hof hset (hlist₂.trans hchained) hops'
  have hcauses : ∀ alarm : Alarm, (∀ first d, alarm.caused (chained first ops' d) = alarm.caused d) →
      alarm.find u'.storage = alarm.find (u.after ops).storage := by
    intro alarm hsame
    refine alarm.find_of_map ?_
    rw [hlist]
    refine map_eq_of_forall₂ (fun d d' hd => ?_) (chainedList_forall₂ a ops' _)
    obtain ⟨first, rfl⟩ := hd
    exact hsame first d
  have hleak : aqDeviceWaterleakFind ((u'.begin env).after ops).storage = aqDeviceWaterleakFind (u.after ops).storage := by
    rw [hbefore]
    exact hcauses .leak fun first d => by simp only [Alarm.caused, (hcause first d).1]
  have hlost : aqDeviceWirelostFind ((u'.begin env).after ops).storage = aqDeviceWirelostFind (u.after ops).storage := by
    rw [hbefore]
    exact hcauses .lost fun first d => by simp only [Alarm.caused, (hcause first d).2]
  have hdevices : u''.storage.deviceList = u'.storage.deviceList := by rw [hafter, hlist₂]
  have hoffline : aqDeviceEndunitOfflineFind u''.storage = aqDeviceEndunitOfflineFind u'.storage :=
    Alarm.offline.find_congr hdevices
  refine ⟨by rw [hc₁, hruns.controls]; rfl, ?_, hdevices, ?_, fun hl => ?_⟩
  · rw [hc₂, hruns'.controls, hleak, hlost, hoffline]
    rfl
  · rw [hafter, hwritten.totalSlot]
    rfl
  · have hl₂ : u₂.core.lockStatus = ((u'.begin env).after ops).core.lockStatus := by
      refine Eq.trans ?_ hl
      change u₂.core.controls.lockStatus = u''.core.controls.lockStatus
      rw [hc₂]
      split
      · rw [Controls.heard_lockStatus]
      · rfl
    rw [hafter, hruns'.tied.storage hl₂, hbefore]
    rfl

end Aqualarm
