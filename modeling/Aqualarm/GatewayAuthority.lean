import Aqualarm.HeaderGrammar
import Aqualarm.FrameReads

/-
  What a received frame makes the unit do in the gateway's name, and for whom.

  What is proved:
    1. `radioProtocolParseLogged_fst` — the parser that also logs the calls meant
       for the gateway (valve, deletion, acknowledgement, update) is the parser.
    2. `unlogged_effect` — a frame that logs none of them leaves the update
       receiver and the acknowledgement.
    3. `gateway_authority` — a call is made only for a frame whose type field says
       gateway, addressed to this unit, from a listed source. The type the source
       is listed with is not asked: `gateway_authority_fails`.
-/

namespace Aqualarm

open Lib

/-- The calls that are the gateway's to cause. -/
inductive GatewayCall where
  | valveClose | valveOpen
  | aqDeviceDelete (deviceAddr : UInt32)
  | rfAckCallback
  | loraOtaBegin (fileSize : UInt32)
  | loraOtaReceive (offset : UInt32) (buf : List UInt8)
  | loraOtaEnd
  deriving DecidableEq, Repr

/-! The gateway's handlers with the calls they make. -/

def radioFrameGatewayParseControlLogged (rx : RxFrame) (u : MainUnit) : MainUnit × List GatewayCall :=
  let subCommand := rx.rxData 2
  if subCommand = 0 then
    if u.core.deviceStatus.Idle then
      (gatewayControlMasterControl 0 (u.onCore fun c => (valveClose c).2), [.valveClose])
    else (u, [])
  else if subCommand = 1 then
    if u.core.deviceStatus.Idle then
      (gatewayControlMasterControl 1 ((valveUnlock u).onCore fun c => (valveOpen c).2), [.valveOpen])
    else (u, [])
  else (u, [])

def radioFrameGatewayParseSyncLogged (rx : RxFrame) (u : MainUnit) : MainUnit × List GatewayCall :=
  let subCommand := rx.rxData 2
  if subCommand = 0 then (gatewaySyncDeviceUpload u, [])
  else if subCommand = 1 then
    let deviceAddr := beWord (rx.rxData 3) (rx.rxData 4) (rx.rxData 5) (rx.rxData 6)
    (u.onStorage fun st => (aqDeviceDelete deviceAddr st).2, [.aqDeviceDelete deviceAddr])
  else (u, [])

def radioFrameGatewayParseOtaLogged (rx : RxFrame) (s : State) : State × List GatewayCall :=
  let subCommand := rx.rxData 2
  if subCommand = 1 then
    let fwSize := beWord (rx.rxData 3) (rx.rxData 4) (rx.rxData 5) (rx.rxData 6)
    (s.onOta (loraOtaBegin s.unit.env fwSize.toNat), [.loraOtaBegin fwSize])
  else if subCommand = 2 then
    let fwOffset := beWord (rx.rxData 3) (rx.rxData 4) (rx.rxData 5) (rx.rxData 6)
    let pktSize := rx.rxData 7
    let buf := (List.range pktSize.toNat).map fun i => rx.rxData (8 + i)
    (s.onOta (loraOtaReceive s.unit.env buf fwOffset.toNat), [.loraOtaReceive fwOffset buf])
  else if subCommand = 3 then (loraOtaEnd s, [.loraOtaEnd])
  else (s, [])

def radioFrameGatewayParseLogged (rx : RxFrame) (s : State) : State × List GatewayCall :=
  let device := aqDeviceFind rx.sourceAddr s.unit.storage
  let s := if rx.rxData 0 = learnDeviceCmd then s.onUnit (radioFrameGatewayParseLearn rx) else s
  if device.isNone then (s, [])
  else if rx.destAddr ≠ getLocalAddress s.unit then (s, [])
  else
    let s := s.onUnit (MainUnit.onStorage (aqDeviceRecvSet rx.sourceAddr 1))
    if rx.rxData 0 = controlValveCmd then
      let r := radioFrameGatewayParseControlLogged rx s.unit
      ({ s with unit := r.1 }, r.2)
    else if rx.rxData 0 = deviceSyncCmd then
      let r := radioFrameGatewayParseSyncLogged rx s.unit
      ({ s with unit := r.1 }, r.2)
    else if rx.rxData 0 = confirmAckCmd then ({ s with rfAckSem := true }, [.rfAckCallback])
    else if rx.rxData 0 = firmwareUpdateCmd then radioFrameGatewayParseOtaLogged rx s
    else (s, [])

/-- `radio_protocol_parse` with the calls. The other handlers make none. -/
def radioProtocolParseLogged (stackSnr : Int8) (rssi : Int) (data : Nat → UInt8) (len : Nat) (s : State) :
    State × List GatewayCall :=
  match handedTo s.unit.cfg data len with
  | some .gateway => radioFrameGatewayParseLogged (rxFrameOf stackSnr rssi data len) s
  | some handler => (handler.parse (rxFrameOf stackSnr rssi data len) s, [])
  | none => (s, [])

section
variable (rx : RxFrame) (s : State)

theorem gatewayParseControlLogged_fst (u : MainUnit) :
    (radioFrameGatewayParseControlLogged rx u).1 = radioFrameGatewayParseControl rx u := by
  unfold radioFrameGatewayParseControlLogged radioFrameGatewayParseControl
  dsimp only
  split_ifs <;> rfl

theorem gatewayParseSyncLogged_fst (u : MainUnit) :
    (radioFrameGatewayParseSyncLogged rx u).1 = radioFrameGatewayParseSync rx u := by
  unfold radioFrameGatewayParseSyncLogged radioFrameGatewayParseSync
  dsimp only
  split_ifs <;> rfl

theorem gatewayParseOtaLogged_fst :
    (radioFrameGatewayParseOtaLogged rx s).1 = radioFrameGatewayParseOta rx s := by
  unfold radioFrameGatewayParseOtaLogged radioFrameGatewayParseOta
  dsimp only
  split_ifs <;> rfl

theorem gatewayParseLogged_fst : (radioFrameGatewayParseLogged rx s).1 = radioFrameGatewayParse rx s := by
  unfold radioFrameGatewayParseLogged radioFrameGatewayParse
  dsimp only
  generalize (if rx.rxData 0 = learnDeviceCmd then s.onUnit (radioFrameGatewayParseLearn rx) else s) = t
  split_ifs
  · rfl
  · rfl
  · rw [State.onUnit, gatewayParseControlLogged_fst]
    rfl
  · rw [State.onUnit, gatewayParseSyncLogged_fst]
    rfl
  · rfl
  · exact gatewayParseOtaLogged_fst rx _
  · rfl

end

section
variable (stackSnr : Int8) (rssi snr : Int) (data : Nat → UInt8) (len : Nat) (s : State)

theorem radioProtocolParseLogged_fst :
    (radioProtocolParseLogged stackSnr rssi data len s).1 =
      radioProtocolParseOn stackSnr rssi snr data len s := by
  rw [radioProtocolParseOn_handed, radioProtocolParseLogged]
  cases handedTo s.unit.cfg data len with
  | none => rfl
  | some handler =>
    cases handler with
    | gateway => exact gatewayParseLogged_fst _ s
    | motion | endunit | doorunit | factory => rfl

end

/-! What the logged calls leave out. -/

section
variable {rx : RxFrame} {s : State}

theorem gatewayParseOtaLogged_unlogged (h : (radioFrameGatewayParseOtaLogged rx s).2 = []) :
    (radioFrameGatewayParseOtaLogged rx s).1 = s := by
  unfold radioFrameGatewayParseOtaLogged at h ⊢
  dsimp only at h ⊢
  split_ifs at h ⊢
  rfl

theorem gatewayParseLogged_unlogged (h : (radioFrameGatewayParseLogged rx s).2 = []) :
    (radioFrameGatewayParseLogged rx s).1.ota = s.ota ∧
      (radioFrameGatewayParseLogged rx s).1.rfAckSem = s.rfAckSem := by
  have hlearn : (if rx.rxData 0 = learnDeviceCmd then s.onUnit (radioFrameGatewayParseLearn rx) else s).ota =
        s.ota ∧
      (if rx.rxData 0 = learnDeviceCmd then s.onUnit (radioFrameGatewayParseLearn rx) else s).rfAckSem =
        s.rfAckSem := by
    split_ifs <;> exact ⟨rfl, rfl⟩
  unfold radioFrameGatewayParseLogged at h ⊢
  dsimp only at h ⊢
  revert h hlearn
  generalize (if rx.rxData 0 = learnDeviceCmd then s.onUnit (radioFrameGatewayParseLearn rx) else s) = t
  intro h hlearn
  split_ifs at h ⊢
  · exact hlearn
  · exact hlearn
  · exact hlearn
  · exact hlearn
  · rw [gatewayParseOtaLogged_unlogged h]
    exact hlearn
  · exact hlearn

end

/-- Without a logged call the update receiver and the acknowledgement stay. -/
theorem unlogged_effect (stackSnr : Int8) (rssi : Int) (data : Nat → UInt8) (len : Nat) (s : State)
    (h : (radioProtocolParseLogged stackSnr rssi data len s).2 = []) :
    (radioProtocolParseLogged stackSnr rssi data len s).1.ota = s.ota ∧
      (radioProtocolParseLogged stackSnr rssi data len s).1.rfAckSem = s.rfAckSem := by
  unfold radioProtocolParseLogged at h ⊢
  cases hhandler : handedTo s.unit.cfg data len with
  | none => exact ⟨rfl, rfl⟩
  | some handler =>
    rw [hhandler] at h
    cases handler with
    | gateway => exact gatewayParseLogged_unlogged h
    | motion | endunit | doorunit => exact ⟨rfl, rfl⟩
    | factory =>
      simp only [Handler.parse, radioFrameFactoryParse]
      split_ifs <;> exact ⟨rfl, rfl⟩

/-! Who causes a call. -/

/-- The handler makes no call for a learn frame, a source that is not listed, or
a frame to another unit. -/
theorem gatewayParseLogged_from {rx : RxFrame} {s : State} {call : GatewayCall}
    (h : call ∈ (radioFrameGatewayParseLogged rx s).2) : rx.FromListed s.unit := by
  by_cases hlearn : rx.rxData 0 = learnDeviceCmd
  · exfalso
    unfold radioFrameGatewayParseLogged at h
    simp only [hlearn, (by decide : learnDeviceCmd ≠ controlValveCmd),
      (by decide : learnDeviceCmd ≠ deviceSyncCmd), (by decide : learnDeviceCmd ≠ confirmAckCmd),
      (by decide : learnDeviceCmd ≠ firmwareUpdateCmd), if_false] at h
    split_ifs at h <;> exact List.not_mem_nil h
  · obtain ⟨hfrom, _⟩ | ⟨_, hnone | hdest⟩ := RxFrame.FromListed.cases rx s.unit
    · exact hfrom
    · exfalso
      unfold radioFrameGatewayParseLogged at h
      simp only [hnone, Option.isNone_none, if_true] at h
      exact List.not_mem_nil h
    · exfalso
      unfold radioFrameGatewayParseLogged at h
      simp only [hlearn, if_false, ne_eq, hdest, not_false_eq_true, if_true] at h
      split_ifs at h <;> exact List.not_mem_nil h

/-- `handedTo` picks the gateway's handler by the frame's own type field. -/
theorem handedTo_gateway {cfg : Config} {data : Nat → UInt8} {len : Nat}
    (h : handedTo cfg data len = some .gateway) (stackSnr : Int8) (rssi : Int) :
    radioAccepted cfg data len ∧ (rxFrameOf stackSnr rssi data len).deviceType = deviceTypeGateway := by
  have hsome : (handedTo cfg data len).isSome = true := by rw [h]; rfl
  obtain ⟨hlen, hstart, hregion, hcheck, _⟩ := handedTo_isSome.1 hsome
  refine ⟨⟨hlen, hstart, hregion, version_guard_vacuous _, hcheck⟩, ?_⟩
  unfold handedTo at h
  rw [if_neg (Nat.not_lt.2 hlen), if_neg (not_not.2 hstart), if_neg (not_not.2 hregion),
    if_neg (not_not.2 (version_guard_vacuous _)), if_neg (not_not.2 hcheck)] at h
  exact handlerOf_gateway h

/-- The source is registered as a gateway. -/
def RegisteredGateway (u : MainUnit) (rx : RxFrame) : Prop :=
  ∃ device ∈ u.storage.deviceList, device.deviceId = rx.sourceAddr ∧ device.type = deviceTypeGateway

/-- **The gateway's calls are made for frames in its name** from registered
sources. -/
theorem gateway_authority (stackSnr : Int8) (rssi : Int) (data : Nat → UInt8) (len : Nat) (s : State) :
    ∀ call ∈ (radioProtocolParseLogged stackSnr rssi data len s).2,
      radioAccepted s.unit.cfg data len ∧
        (rxFrameOf stackSnr rssi data len).deviceType = deviceTypeGateway ∧
        (rxFrameOf stackSnr rssi data len).FromListed s.unit := by
  intro call hcall
  unfold radioProtocolParseLogged at hcall
  cases hhandler : handedTo s.unit.cfg data len with
  | none =>
    rw [hhandler] at hcall
    exact absurd hcall List.not_mem_nil
  | some handler =>
    rw [hhandler] at hcall
    cases handler with
    | gateway =>
      obtain ⟨haccepted, htype⟩ := handedTo_gateway hhandler stackSnr rssi
      exact ⟨haccepted, htype, gatewayParseLogged_from hcall⟩
    | motion | endunit | doorunit | factory => exact absurd hcall List.not_mem_nil

/-- A deletion of end unit 7, in the gateway's name and from end unit 7. -/
def forgedDeletion : List UInt8 := sampleBytes deviceTypeGateway 7 [deviceSyncCmd, 1, 1, 0, 0, 0, 7]

/-- It is obeyed once end unit 7 is enrolled, with no gateway registered. -/
theorem forgedDeletion_obeyed :
    ∃ s, (system sampleConfig).next sampleStart
        (sampleEnv, sampleFrame deviceTypeEndunit 7 [learnDeviceCmd, 1, 1]) = some s ∧
      (radioProtocolParseLogged 0 (-60) (forgedDeletion.getD · 0) forgedDeletion.length s).2 =
        [.aqDeviceDelete 7] ∧
      ∀ device ∈ s.unit.storage.deviceList, device.type ≠ deviceTypeGateway := by
  refine ⟨_, rfl, ?_⟩
  decide +kernel

theorem gateway_authority_sample :
    ∃ s : State, radioAccepted s.unit.cfg (forgedDeletion.getD · 0) forgedDeletion.length ∧
      (rxFrameOf 0 (-60) (forgedDeletion.getD · 0) forgedDeletion.length).deviceType = deviceTypeGateway ∧
      (rxFrameOf 0 (-60) (forgedDeletion.getD · 0) forgedDeletion.length).FromListed s.unit := by
  obtain ⟨s, _, hcall, _⟩ := forgedDeletion_obeyed
  exact ⟨s, gateway_authority 0 (-60) (forgedDeletion.getD · 0) forgedDeletion.length s (.aqDeviceDelete 7)
    (by rw [hcall]; exact List.mem_singleton.2 rfl)⟩

theorem gateway_authority_fails :
    ¬ ∀ (cfg : Config) (s : State), (system cfg).Reachable s →
      ∀ (stackSnr : Int8) (rssi : Int) (data : Nat → UInt8) (len : Nat),
        ∀ call ∈ (radioProtocolParseLogged stackSnr rssi data len s).2,
          RegisteredGateway s.unit (rxFrameOf stackSnr rssi data len) := by
  intro h
  obtain ⟨s, hn, hcall, hnone⟩ := forgedDeletion_obeyed
  have hreach : (system sampleConfig).Reachable s :=
    (Machine.reachable_start (M := system sampleConfig) ⟨_, _, _, rfl⟩).step hn
  obtain ⟨device, hd, _, htype⟩ := h sampleConfig s hreach 0 (-60) (forgedDeletion.getD · 0)
    forgedDeletion.length (.aqDeviceDelete 7) (by rw [hcall]; exact List.mem_singleton.2 rfl)
  exact hnone device hd htype

end Aqualarm
