import Aqualarm.TwiceEnrolled
import Aqualarm.FrameRoundTrip
import Aqualarm.Lib.Replica

/-
  What learn frames and the gateway's delete commands leave for the gateway's
  copy of the device list: the ids and types listed, and the DEVICE_SYNC
  messages that name them.

  What is proved:
    1. `roster_*` — the operations of the registry, on ids and types alone.
    2. `addDevice_learns` — a request to add lists what `learnStorage` lists and
       sends what `RxFrame.told` says; every other learn frame does neither
       (`learnFrame_quiet`).
    3. `deletesDevice_quiet` — a delete command is answered by no message.
-/

namespace Aqualarm

open Lib (Update)

/-! Ids and types. -/

/-- The ids and types listed, in order. -/
def roster (st : Storage) : List (UInt32 × UInt8) := st.deviceList.map fun d => (d.deviceId, d.type)

/-- The `(device_id, type)` set of the devices that are no gateways. -/
def entries (st : Storage) : Finset (UInt32 × UInt8) :=
  ((roster st).filter fun e => e.2 ≠ deviceTypeGateway).toFinset

/-- `gateway` is registered, and no other. -/
structure HasGateway (gateway : UInt32) (st : Storage) : Prop where
  ne_zero : gateway ≠ 0
  listed : (gateway, deviceTypeGateway) ∈ roster st
  only : ∀ e ∈ roster st, e.2 = deviceTypeGateway → e.1 = gateway

section
variable {st st' : Storage} {gateway a : UInt32}

theorem mem_roster {e : UInt32 × UInt8} : e ∈ roster st ↔ ∃ d ∈ st.deviceList, d.deviceId = e.1 ∧ d.type = e.2 := by
  unfold roster
  rw [List.mem_map]
  exact exists_congr fun d => and_congr_right fun _ => Prod.mk_inj

theorem mem_entries {e : UInt32 × UInt8} : e ∈ entries st ↔ e ∈ roster st ∧ e.2 ≠ deviceTypeGateway := by
  rw [entries, List.mem_toFinset, List.mem_filter, decide_eq_true_iff]

theorem entries_congr (h : roster st' = roster st) : entries st' = entries st := by
  rw [entries, entries, h]

theorem HasGateway.congr (hg : HasGateway gateway st) (h : roster st' = roster st) : HasGateway gateway st' :=
  ⟨hg.ne_zero, h ▸ hg.listed, h ▸ hg.only⟩

/-- `aq_gateway_find` finds the gateway. -/
theorem HasGateway.find (hg : HasGateway gateway st) : aqGatewayFind st = gateway := by
  obtain ⟨d, hd, _, htype⟩ := mem_roster.1 hg.listed
  unfold aqGatewayFind
  cases hfind : st.deviceList.find? fun d => d.type = deviceTypeGateway with
  | none => exact absurd (decide_eq_true htype) (List.find?_eq_none.1 hfind d hd)
  | some x =>
    have hx : x.type = deviceTypeGateway := by simpa using List.find?_some hfind
    exact hg.only (x.deviceId, x.type) (mem_roster.2 ⟨x, List.mem_of_find?_eq_some hfind, rfl, rfl⟩) hx

theorem roster_inPlace {op : RegOp} (h : op.InPlace) (st : Storage) : roster (op.apply st) = roster st :=
  map_eq_of_same (fun _ _ hd => Prod.ext hd.deviceId hd.type) (h.same st)

theorem roster_inPlaces {ops : List RegOp} (h : ∀ op ∈ ops, op.InPlace) (st : Storage) :
    roster (ops.foldl (fun st op => op.apply st) st) = roster st := by
  induction ops generalizing st with
  | nil => rfl
  | cons op ops ih =>
    rw [List.foldl_cons, ih fun op' h' => h op' (List.mem_cons_of_mem op h')]
    exact roster_inPlace (h op List.mem_cons_self) st

theorem roster_heartRecv (rx : RxFrame) (st : Storage) : roster (aqDeviceHeartRecv rx st).2 = roster st := by
  rw [heartRecv_after]
  exact roster_inPlaces (fun op hop => (heardOps_of rx op hop).inPlace) st

/-- A deletion takes the first entry of the id. -/
theorem roster_delete (a : UInt32) (st : Storage) :
    roster (aqDeviceDelete a st).2 = (roster st).eraseP fun e => e.1 = a := by
  rw [roster, roster, aqDeviceDelete_deviceList, List.eraseP_map]
  rfl

/-- What a creation lists: the id only if it was not listed, and there was room. -/
theorem roster_create (mallocOk : Bool) (rssiLevel type : UInt8) (a : UInt32) (st : Storage) :
    (¬ Listed a st ∧ (aqDeviceCreate mallocOk rssiLevel type a st).1.isNone = true ∧
      roster (aqDeviceCreate mallocOk rssiLevel type a st).2 = roster st) ∨
    (Listed a st ∧ (aqDeviceCreate mallocOk rssiLevel type a st).1.isNone = false ∧
      roster (aqDeviceCreate mallocOk rssiLevel type a st).2 = roster st) ∨
    (¬ Listed a st ∧ (aqDeviceCreate mallocOk rssiLevel type a st).1.isNone = false ∧
      roster (aqDeviceCreate mallocOk rssiLevel type a st).2 = roster st ++ [(a, type)]) := by
  generalize hr : aqDeviceCreate mallocOk rssiLevel type a st = r
  cases hr ▸ aqDeviceCreate_cases mallocOk rssiLevel type a st with
  | known d h => exact Or.inr (Or.inl ⟨aqDeviceFind_isSome.1 (by rw [h]; rfl), rfl, rfl⟩)
  | full h => exact Or.inl ⟨aqDeviceFind_eq_none.1 h, rfl, rfl⟩
  | noMemory h => exact Or.inl ⟨aqDeviceFind_eq_none.1 h, rfl, rfl⟩
  | added h hm slot => exact Or.inr (Or.inr ⟨aqDeviceFind_eq_none.1 h, rfl, List.map_append⟩)

end

/-! Messages. -/

/-- A DEVICE_SYNC message to the gateway: a device added, or one deleted. -/
def TxFormat.sync (gateway : UInt32) (frame : TxFormat) : Option (Update UInt32 UInt8) :=
  if frame.destAddr = gateway ∧ frame.command = deviceSyncCmd then
    match frame.txData with
    | [0, a, b, c, d, _, type] => some (.put (beWord a b c d) type)
    | [1, a, b, c, d] => some (.drop (beWord a b c d))
    | _ => none
  else none

/-- Those among what was enqueued. -/
def syncs (gateway : UInt32) (tx : List SendMsg) : List (Update UInt32 UInt8) :=
  tx.filterMap fun m => m.frame.sync gateway

section
variable {gateway : UInt32} {u : MainUnit}

theorem sync_of_command {frame : TxFormat} (h : frame.command ≠ deviceSyncCmd) : frame.sync gateway = none := by
  rw [TxFormat.sync, if_neg fun hc => h hc.2]

theorem syncs_send (parameter : UInt8) (frame : TxFormat) (u : MainUnit) :
    syncs gateway (radioCommandSend parameter frame u).tx = syncs gateway u.tx ++ (frame.sync gateway).toList := by
  rw [radioCommandSend, loraTxEnqueue, syncs, List.filterMap_append, List.filterMap_cons, List.filterMap_nil]
  cases frame.sync gateway <;> rfl

theorem syncs_gatewaySend {frame : TxFormat} (h : frame.command ≠ deviceSyncCmd) (u : MainUnit) :
    syncs gateway (radioGatewayCommandSend frame u).tx = syncs gateway u.tx := by
  unfold radioGatewayCommandSend
  split
  · rfl
  · rw [syncs_send, sync_of_command h, Option.toList_none, List.append_nil]

theorem syncs_upload {msgAck : Bool} {msgType command : UInt8} {sendBuf : List UInt8} (h : command ≠ deviceSyncCmd)
    (u : MainUnit) : syncs gateway (gatewayUpload msgAck msgType command sendBuf u).tx = syncs gateway u.tx :=
  syncs_gatewaySend h u

theorem syncs_reply (parameter : UInt8) (rx : RxFrame) {command : UInt8} (txData : List UInt8)
    (h : command ≠ deviceSyncCmd) (u : MainUnit) :
    syncs gateway (radioCommandSend parameter (replyFrame rx command txData u) u).tx = syncs gateway u.tx := by
  rw [syncs_send, sync_of_command h, Option.toList_none, List.append_nil]

/-- With the gateway registered, both messages reach the queue. -/
theorem syncs_add (hg : HasGateway gateway u.storage) (type : UInt8) (a : UInt32) (rssiLevel : UInt8) :
    syncs gateway (gatewaySyncDeviceAdd type a rssiLevel u).tx = syncs gateway u.tx ++ [.put a type] := by
  rw [gatewaySyncDeviceAdd, gatewayUpload, radioGatewayCommandSend, hg.find, if_neg hg.ne_zero, syncs_send]
  simp only [TxFormat.sync, beBytes, and_self, if_true, List.cons_append, List.nil_append, beWord_beBytes,
    Option.toList_some]

theorem syncs_del (hg : HasGateway gateway u.storage) (a : UInt32) :
    syncs gateway (gatewaySyncDeviceDel a u).tx = syncs gateway u.tx ++ [.drop a] := by
  rw [gatewaySyncDeviceDel, gatewayUpload, radioGatewayCommandSend, hg.find, if_neg hg.ne_zero, syncs_send]
  simp only [TxFormat.sync, beBytes, and_self, if_true, beWord_beBytes, Option.toList_some]

end

/-! What leaves the copy alone. -/

/-- The same ids and types are listed, and nothing is said about them. -/
structure KeepsSync (gateway : UInt32) (u u' : MainUnit) : Prop where
  listed : roster u'.storage = roster u.storage
  said : syncs gateway u'.tx = syncs gateway u.tx

section
variable {gateway : UInt32} {rx : RxFrame} {u u' u'' : MainUnit}

theorem KeepsSync.refl (u : MainUnit) : KeepsSync gateway u u := ⟨rfl, rfl⟩

theorem KeepsSync.trans (h : KeepsSync gateway u u') (h' : KeepsSync gateway u' u'') : KeepsSync gateway u u'' :=
  ⟨h'.listed.trans h.listed, h'.said.trans h.said⟩

theorem KeepsSync.reply (parameter : UInt8) (rx : RxFrame) (txData : List UInt8) (u : MainUnit) :
    KeepsSync gateway u (radioCommandSend parameter (replyFrame rx learnDeviceCmd txData u) u) :=
  ⟨rfl, syncs_reply parameter rx txData (by decide) u⟩

theorem KeepsSync.startLearn (u : MainUnit) : KeepsSync gateway u (radioStartLearnDevice u) := by
  unfold radioStartLearnDevice
  split
  · exact ⟨rfl, rfl⟩
  · split
    · unfold gatewayConnectStart
      split
      · exact ⟨congrArg roster (gatewayUpload_storage ..), syncs_upload (by decide) _⟩
      · exact ⟨rfl, rfl⟩
    · exact .refl u

/-! The part behind the learn part marks the source as heard. -/

theorem endunitParse_keepsSync (hc : rx.rxData 0 = learnDeviceCmd) :
    KeepsSync gateway (radioFrameEndunitParseLearn rx u) (radioFrameEndunitParse rx u) := by
  rw [endunitParse_eq]
  refine nodeParse_learn hc (endunitServe_learn hc) (fun _ => .refl _) fun _ _ _ => ⟨?_, ?_⟩
  · rw [offlineCheck_storage]
    exact roster_heartRecv rx _
  · rw [warningOfflineCheck_tx]
    rfl

theorem doorunitParse_keepsSync (hc : rx.rxData 0 = learnDeviceCmd) :
    KeepsSync gateway (radioFrameDoorunitParseLearn rx u) (radioFrameDoorunitParse rx u) := by
  rw [doorunitParse_eq]
  exact nodeParse_learn hc (doorunitServe_learn hc) (fun _ => .refl _) fun _ _ _ => ⟨roster_heartRecv rx _, rfl⟩

theorem motionParse_keepsSync (hc : rx.rxData 0 = learnDeviceCmd) :
    KeepsSync gateway (radioFrameMotionParseLearn rx u) (radioFrameMotionParse rx u) := by
  rw [motionParse_eq]
  exact nodeParse_learn hc (motionServe_learn hc) (fun _ => .refl _) fun _ _ _ => ⟨roster_heartRecv rx _, rfl⟩

theorem gatewayParse_keepsSync {s : State} (hc : rx.rxData 0 = learnDeviceCmd) :
    KeepsSync gateway (radioFrameGatewayParseLearn rx s.unit) (radioFrameGatewayParse rx s).unit := by
  unfold radioFrameGatewayParse
  simp only [hc, if_true, (by decide : learnDeviceCmd ≠ controlValveCmd), (by decide : learnDeviceCmd ≠ deviceSyncCmd),
    (by decide : learnDeviceCmd ≠ confirmAckCmd), (by decide : learnDeviceCmd ≠ firmwareUpdateCmd), if_false]
  split
  · exact .refl _
  · split
    · exact .refl _
    · exact ⟨@roster_inPlace (.recvSet rx.sourceAddr 1) trivial _, rfl⟩

end

/-! Requests to add. -/

/-- The door units a request replaces. -/
def RxFrame.replacedIds (rx : RxFrame) (st : Storage) : List UInt32 :=
  if rx.deviceType = deviceTypeDoorunit then
    (st.deviceList.filter fun d => d.type = deviceTypeDoorunit).map Device.deviceId
  else []

/-- What the gateway is told: the deletions, and the source under the type of the
frame where `aq_device_create` returns a device. -/
def RxFrame.told (rx : RxFrame) (mallocOk : Bool) (st : Storage) : List (Update UInt32 UInt8) :=
  (rx.replacedIds st).map .drop ++
    if rx.deviceType = deviceTypeGateway ∨
        (learnStorage mallocOk rx.addLevel rx.deviceType rx.sourceAddr st).1.isNone then []
    else [.put rx.sourceAddr rx.deviceType]

/-- A request to add leaves what `learnStorage` lists, and the messages. -/
structure Learns (gateway : UInt32) (rx : RxFrame) (u u' : MainUnit) : Prop where
  listed : roster u'.storage =
    roster (learnStorage u.env.mallocDevice rx.addLevel rx.deviceType rx.sourceAddr u.storage).2
  said : syncs gateway u'.tx = syncs gateway u.tx ++ rx.told u.env.mallocDevice u.storage

section
variable {gateway : UInt32} {rx : RxFrame} {u : MainUnit}

theorem Learns.keepsSync {u' u'' : MainUnit} (h : Learns gateway rx u u') (hk : KeepsSync gateway u' u'') :
    Learns gateway rx u u'' :=
  ⟨hk.listed.trans h.listed, hk.said.trans h.said⟩

theorem addLevel_of_ne (ht : rx.deviceType ≠ deviceTypeGateway) : rx.addLevel = rx.rssiLevel := if_neg ht

/-- A node's request, answered as it is added. -/
theorem learns_node {u₁ u' : MainUnit} {r : Option Device × Storage}
    (hr : learnStorage u.env.mallocDevice rx.addLevel rx.deviceType rx.sourceAddr u.storage = r)
    (hg : HasGateway gateway r.2) (ht : rx.deviceType ≠ deviceTypeGateway)
    (hsaid : syncs gateway u₁.tx = syncs gateway u.tx ++ (rx.replacedIds u.storage).map .drop)
    (h : u' = if r.1.isNone then { u₁ with storage := r.2 }
      else gatewaySyncDeviceAdd rx.deviceType rx.sourceAddr rx.rssiLevel
        (MainUnit.onCore radioRefreshLearnDevice { u₁ with storage := r.2 })) :
    Learns gateway rx u u' := by
  have htold : rx.told u.env.mallocDevice u.storage = (rx.replacedIds u.storage).map .drop ++
      if r.1.isNone then [] else [.put rx.sourceAddr rx.deviceType] := by
    rw [RxFrame.told, hr]
    simp only [ht, false_or]
  rw [h]
  cases hnone : r.1.isNone with
  | true =>
    rw [hnone, if_pos rfl, List.append_nil] at htold
    rw [if_pos rfl]
    exact ⟨by rw [hr], hsaid.trans (by rw [htold])⟩
  | false =>
    rw [hnone, if_neg Bool.false_ne_true] at htold
    rw [if_neg Bool.false_ne_true]
    refine ⟨?_, ?_⟩
    · rw [gatewaySyncDeviceAdd, gatewayUpload_storage, MainUnit.onCore_storage, hr]
    · rw [syncs_add (by exact hg), MainUnit.onCore_tx, hsaid, htold, List.append_assoc]

/-- One that replaces nothing. -/
theorem learns_plain {u' : MainUnit} (hgt : rx.deviceType ≠ deviceTypeGateway) (hdt : rx.deviceType ≠ deviceTypeDoorunit)
    (hg : HasGateway gateway (learnStorage u.env.mallocDevice rx.addLevel rx.deviceType rx.sourceAddr u.storage).2)
    (h : u' =
      let r := aqDeviceCreate u.env.mallocDevice rx.rssiLevel rx.deviceType rx.sourceAddr u.storage
      let u := { radioCommandSend 1 (replyFrame rx learnDeviceCmd [rx.rxData 2] u) u with storage := r.2 }
      if r.1.isNone then u
      else gatewaySyncDeviceAdd rx.deviceType rx.sourceAddr rx.rssiLevel (u.onCore radioRefreshLearnDevice)) :
    Learns gateway rx u u' := by
  have hr : learnStorage u.env.mallocDevice rx.addLevel rx.deviceType rx.sourceAddr u.storage =
      aqDeviceCreate u.env.mallocDevice rx.rssiLevel rx.deviceType rx.sourceAddr u.storage := by
    rw [addLevel_of_ne hgt, learnStorage_node (not_or.2 ⟨hgt, hdt⟩)]
  refine learns_node hr (hr ▸ hg) hgt ?_ h
  rw [RxFrame.replacedIds, if_neg hdt, List.map_nil, List.append_nil]
  exact syncs_reply 1 rx _ (by decide) u

theorem endunitLearn_learns (ha : rx.AddDevice u) (ht : rx.deviceType = deviceTypeEndunit)
    (hg : HasGateway gateway (learnStorage u.env.mallocDevice rx.addLevel rx.deviceType rx.sourceAddr u.storage).2) :
    Learns gateway rx u (radioFrameEndunitParseLearn rx u) := by
  refine learns_plain (by rw [ht]; decide) (by rw [ht]; decide) hg ?_
  unfold radioFrameEndunitParseLearn
  rw [if_neg ha.not_broadcast, if_pos ha.toUnit, ht]
  dsimp only
  rw [if_pos ha.subCommand]
  rfl

theorem motionLearn_learns (ha : rx.AddDevice u) (ht : rx.deviceType = deviceTypeMotionSensor)
    (hg : HasGateway gateway (learnStorage u.env.mallocDevice rx.addLevel rx.deviceType rx.sourceAddr u.storage).2) :
    Learns gateway rx u (radioFrameMotionParseLearn rx u) := by
  refine learns_plain (by rw [ht]; decide) (by rw [ht]; decide) hg ?_
  unfold radioFrameMotionParseLearn
  rw [if_neg ha.not_broadcast, if_pos ha.toUnit, ht]
  dsimp only
  rw [if_pos ha.subCommand]
  rfl

/-! The door unit's. -/

/-- While the deletions leave the gateway, each of them is told. -/
theorem syncs_foldDelete {l : List Device} {u : MainUnit} (hone : gateway ≠ 0)
    (honly : ∀ e ∈ roster u.storage, e.2 = deviceTypeGateway → e.1 = gateway)
    (hleft : (gateway, deviceTypeGateway) ∈
      roster (l.foldl (fun st d => (aqDeviceDelete d.deviceId st).2) u.storage)) :
    syncs gateway (l.foldl (fun u d =>
        gatewaySyncDeviceDel d.deviceId (u.onStorage fun st => (aqDeviceDelete d.deviceId st).2)) u).tx =
      syncs gateway u.tx ++ (l.map Device.deviceId).map .drop := by
  induction l generalizing u with
  | nil => rw [List.foldl_nil, List.map_nil, List.map_nil, List.append_nil]
  | cons d l ih =>
    have hdeleted : (roster (aqDeviceDelete d.deviceId u.storage).2).Sublist (roster u.storage) :=
      (aqDeviceDelete_sublist d.deviceId u.storage).map _
    have hrest : (roster (l.foldl (fun st d => (aqDeviceDelete d.deviceId st).2)
        (aqDeviceDelete d.deviceId u.storage).2)).Sublist (roster (aqDeviceDelete d.deviceId u.storage).2) :=
      (foldl_delete_sublist l _).map _
    have hg : HasGateway gateway (u.onStorage fun st => (aqDeviceDelete d.deviceId st).2).storage :=
      ⟨hone, hrest.subset hleft, fun e he => honly e (hdeleted.subset he)⟩
    have hstorage : (gatewaySyncDeviceDel d.deviceId
        (u.onStorage fun st => (aqDeviceDelete d.deviceId st).2)).storage = (aqDeviceDelete d.deviceId u.storage).2 :=
      gatewayUpload_storage ..
    rw [List.foldl_cons, ih (by rw [hstorage]; exact hg.only) (by rw [hstorage]; exact hleft), syncs_del hg,
      List.map_cons, List.map_cons, List.append_assoc]
    rfl

theorem doorunitLearn_learns (ha : rx.AddDevice u) (ht : rx.deviceType = deviceTypeDoorunit)
    (hg₀ : HasGateway gateway u.storage)
    (hg : HasGateway gateway (learnStorage u.env.mallocDevice rx.addLevel rx.deviceType rx.sourceAddr u.storage).2) :
    Learns gateway rx u (radioFrameDoorunitParseLearn rx u) := by
  have hgt : rx.deviceType ≠ deviceTypeGateway := by rw [ht]; decide
  have hr : learnStorage u.env.mallocDevice rx.addLevel rx.deviceType rx.sourceAddr u.storage =
      aqDeviceCreate u.env.mallocDevice rx.rssiLevel deviceTypeDoorunit rx.sourceAddr
        (deleteByType deviceTypeDoorunit u.storage) := by
    rw [addLevel_of_ne hgt, learnStorage_replacing (Or.inr ht), ht]
  rw [hr] at hg
  -- what is created is no gateway, so the deletions left it
  have hleft : (gateway, deviceTypeGateway) ∈ roster (deleteByType deviceTypeDoorunit u.storage) := by
    rcases roster_create u.env.mallocDevice rx.rssiLevel deviceTypeDoorunit rx.sourceAddr
      (deleteByType deviceTypeDoorunit u.storage) with ⟨_, _, h⟩ | ⟨_, _, h⟩ | ⟨_, _, h⟩
    · exact h ▸ hg.listed
    · exact h ▸ hg.listed
    · have hmem := hg.listed
      rw [h, List.mem_append, List.mem_singleton] at hmem
      exact hmem.resolve_right fun he => absurd (congrArg Prod.snd he) (by decide : deviceTypeGateway ≠ deviceTypeDoorunit)
  obtain ⟨ms, _, hdeleted⟩ :=
    aqDoorunitDelete_eq (radioDoorunitCommandSend (replyFrame rx learnDeviceCmd [rx.rxData 2] u) u)
  have hstorage : (aqDoorunitDelete
      (radioDoorunitCommandSend (replyFrame rx learnDeviceCmd [rx.rxData 2] u) u)).storage =
        deleteByType deviceTypeDoorunit u.storage := by
    rw [hdeleted]
    rfl
  have henv : (aqDoorunitDelete
      (radioDoorunitCommandSend (replyFrame rx learnDeviceCmd [rx.rxData 2] u) u)).env = u.env := by
    rw [hdeleted]
    rfl
  have hsaid : syncs gateway (aqDoorunitDelete
      (radioDoorunitCommandSend (replyFrame rx learnDeviceCmd [rx.rxData 2] u) u)).tx =
        syncs gateway u.tx ++ (rx.replacedIds u.storage).map .drop := by
    rw [RxFrame.replacedIds, if_pos ht, ← syncs_reply 1 rx [rx.rxData 2] (by decide : learnDeviceCmd ≠ deviceSyncCmd) u]
    exact syncs_foldDelete hg₀.ne_zero hg₀.only hleft
  refine learns_node hr hg hgt hsaid ?_
  unfold radioFrameDoorunitParseLearn
  rw [if_neg ha.not_broadcast, if_pos ha.toUnit]
  dsimp only
  rw [if_pos ha.subCommand, hstorage, henv, ht]

/-! The gateway's. -/

theorem gatewayLearn_learns (ha : rx.AddDevice u) (ht : rx.deviceType = deviceTypeGateway) :
    Learns gateway rx u (radioFrameGatewayParseLearn rx u) := by
  have hlevel : rx.addLevel = 0 := if_pos ht
  have htold : rx.told u.env.mallocDevice u.storage = [] := by
    rw [RxFrame.told, RxFrame.replacedIds, if_neg (by rw [ht]; decide), if_pos (Or.inl ht)]
    rfl
  refine ⟨by rw [gatewayLearn_storage ha ht, hlevel], ?_⟩
  rw [htold, List.append_nil]
  unfold radioFrameGatewayParseLearn
  rw [if_neg ha.not_broadcast, if_pos ha.toUnit, if_pos ha.subCommand]
  dsimp only
  split
  · rfl
  · exact syncs_gatewaySend (by decide : learnDeviceCmd ≠ deviceSyncCmd) _

/-- **A request to add** lists what `learnStorage` lists, and the gateway is told. -/
theorem addDevice_learns {s : State} (ha : rx.AddDevice s.unit) (hg₀ : HasGateway gateway s.unit.storage)
    (hg : HasGateway gateway
      (learnStorage s.unit.env.mallocDevice rx.addLevel rx.deviceType rx.sourceAddr s.unit.storage).2) :
    Learns gateway rx s.unit (radioFrameDispatch rx s).unit := by
  unfold radioFrameDispatch
  rcases ha.deviceType with ht | ht | ht | ht
  · rw [if_pos ht]
    exact (motionLearn_learns ha ht hg).keepsSync (motionParse_keepsSync ha.command)
  · rw [if_neg (by rw [ht]; decide), if_pos ht]
    exact (endunitLearn_learns ha ht hg).keepsSync (endunitParse_keepsSync ha.command)
  · rw [if_neg (by rw [ht]; decide), if_neg (by rw [ht]; decide), if_pos ht]
    exact (doorunitLearn_learns ha ht hg₀ hg).keepsSync (doorunitParse_keepsSync ha.command)
  · rw [if_neg (by rw [ht]; decide), if_neg (by rw [ht]; decide), if_neg (by rw [ht]; decide), if_pos ht]
    exact (gatewayLearn_learns ha ht).keepsSync (gatewayParse_keepsSync ha.command)

/-! Other learn frames. -/

theorem endunitLearn_quiet (hc : rx.rxData 0 = learnDeviceCmd) (ht : rx.deviceType = deviceTypeEndunit)
    (hno : ¬ rx.AddDevice u) : KeepsSync gateway u (radioFrameEndunitParseLearn rx u) := by
  unfold radioFrameEndunitParseLearn
  split
  · exact .reply 1 rx [0] u
  · split
    · rename_i hto
      dsimp only
      rw [if_neg fun hs => hno ⟨hc, hs, hto, Or.inr (Or.inl ht)⟩]
      have hreply : KeepsSync gateway u (radioEndunitCommandSend (replyFrame rx learnDeviceCmd [rx.rxData 2] u) u) :=
        .reply 1 rx _ u
      split
      · exact hreply.trans (.startLearn _)
      · exact hreply
    · exact .refl u

theorem motionLearn_quiet (hc : rx.rxData 0 = learnDeviceCmd) (ht : rx.deviceType = deviceTypeMotionSensor)
    (hno : ¬ rx.AddDevice u) : KeepsSync gateway u (radioFrameMotionParseLearn rx u) := by
  unfold radioFrameMotionParseLearn
  split
  · exact .reply 1 rx [0] u
  · split
    · rename_i hto
      dsimp only
      rw [if_neg fun hs => hno ⟨hc, hs, hto, Or.inl ht⟩]
      exact .reply 1 rx _ u
    · exact .refl u

theorem doorunitLearn_quiet (hc : rx.rxData 0 = learnDeviceCmd) (ht : rx.deviceType = deviceTypeDoorunit)
    (hno : ¬ rx.AddDevice u) : KeepsSync gateway u (radioFrameDoorunitParseLearn rx u) := by
  unfold radioFrameDoorunitParseLearn
  split
  · exact .reply 1 rx [0] u
  · split
    · rename_i hto
      dsimp only
      rw [if_neg fun hs => hno ⟨hc, hs, hto, Or.inr (Or.inr (Or.inl ht))⟩]
      exact .reply 1 rx _ u
    · exact .refl u

theorem gatewayLearn_quiet (hc : rx.rxData 0 = learnDeviceCmd) (ht : rx.deviceType = deviceTypeGateway)
    (hno : ¬ rx.AddDevice u) : KeepsSync gateway u (radioFrameGatewayParseLearn rx u) := by
  unfold radioFrameGatewayParseLearn
  split
  · exact ⟨congrArg roster (radioGatewayCommandSend_storage ..),
      syncs_gatewaySend (by decide : learnDeviceCmd ≠ deviceSyncCmd) u⟩
  · split
    · rename_i hto
      rw [if_neg fun hs => hno ⟨hc, hs, hto, Or.inr (Or.inr (Or.inr ht))⟩]
      exact .refl u
    · exact .refl u

/-- **Any other learn frame** lists nothing, and nothing is said. -/
theorem learnFrame_quiet {s : State} (hc : rx.rxData 0 = learnDeviceCmd) (hno : ¬ rx.AddDevice s.unit) :
    KeepsSync gateway s.unit (radioFrameDispatch rx s).unit := by
  unfold radioFrameDispatch
  split
  · rename_i ht
    exact (motionLearn_quiet hc ht hno).trans (motionParse_keepsSync hc)
  · split
    · rename_i ht
      exact (endunitLearn_quiet hc ht hno).trans (endunitParse_keepsSync hc)
    · split
      · rename_i ht
        exact (doorunitLearn_quiet hc ht hno).trans (doorunitParse_keepsSync hc)
      · split
        · rename_i ht
          exact (gatewayLearn_quiet hc ht hno).trans (gatewayParse_keepsSync hc)
        · split
          · unfold radioFrameFactoryParse
            rw [if_neg (c := rx.rxData 0 = factoryRfTestCmd) (by rw [hc]; decide)]
            split <;> exact .refl _
          · exact .refl _

/-! The gateway's delete command. -/

/-- A delete command that `gateway` sends to this unit. -/
structure RxFrame.DeletedBy (rx : RxFrame) (gateway : UInt32) (u : MainUnit) : Prop where
  deviceType : rx.deviceType = deviceTypeGateway
  sourceAddr : rx.sourceAddr = gateway
  toUnit : rx.destAddr = getLocalAddress u
  command : rx.rxData 0 = deviceSyncCmd
  subCommand : rx.rxData 2 = 1

/-- **The gateway's delete command** deletes, and nothing is said. -/
theorem deletedBy_deletes {s : State} (hg : HasGateway gateway s.unit.storage) (h : rx.DeletedBy gateway s.unit) :
    roster (radioFrameDispatch rx s).unit.storage = roster (aqDeviceDelete rx.word s.unit.storage).2 ∧
      syncs gateway (radioFrameDispatch rx s).unit.tx = syncs gateway s.unit.tx := by
  have hlisted : Listed rx.sourceAddr s.unit.storage := by
    obtain ⟨d, hd, hid, _⟩ := mem_roster.1 hg.listed
    exact ⟨d, hd, hid.trans h.sourceAddr.symm⟩
  rw [deletesDevice_unit ⟨h.deviceType, h.command, h.subCommand, hlisted, h.toUnit⟩]
  refine ⟨?_, rfl⟩
  rw [MainUnit.onStorage_storage, roster_delete, roster_delete]
  exact congrArg _ (@roster_inPlace (.recvSet rx.sourceAddr 1) trivial _)

end

end Aqualarm
