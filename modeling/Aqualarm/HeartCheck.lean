import Aqualarm.FrameRoundTrip
import Aqualarm.RegistryRuns
import Aqualarm.Lib.FixedWidth

/-
  aq_device_heart_check: what the marking loop does to the list, and the report
  of the devices that are offline after it.

  What is proved: `offline_report_iff` — one report is sent exactly if a device
  is offline, with the ids of those that are, exactly when nobody is offline, or
  the ids fit the buffer, there is a gateway to send to, and an end unit or a
  door unit is among the offline devices, but not both. The two kinds are looked
  for separately, each search sends the whole report, and motion sensors are
  looked for by none.
-/

namespace Aqualarm

open Lib

/-! The marking loop. -/

/-- A node of the address that is checked was not heard. -/
def Unheard (l : List Device) (a : UInt32) : Prop :=
  ∃ x ∈ l, x.deviceId = a ∧ x.type ≠ deviceTypeGateway ∧ x.recv = 0

instance (l : List Device) (a : UInt32) : Decidable (Unheard l a) := inferInstanceAs (Decidable (∃ x ∈ l, _))

/-- What the check of `l` leaves of a node: its own mark is cleared, and one node that
was not heard takes all of its address offline. -/
def Device.checked (l : List Device) (d : Device) : Device :=
  { d with
    recv := if d.type ≠ deviceTypeGateway then 0 else d.recv
    online := if Unheard l d.deviceId then 0 else d.online }

/-- What the turns of the loop below `n` leave of the node at `i`. -/
def Device.checkedBefore (l : List Device) (n i : Nat) (d : Device) : Device :=
  { d with
    recv := if i < n ∧ d.type ≠ deviceTypeGateway then 0 else d.recv
    online := if Unheard (l.take n) d.deviceId then 0 else d.online }

theorem unheard_take_succ {l : List Device} {n : Nat} {x : Device} (hx : l[n]? = some x) (a : UInt32) :
    Unheard (l.take (n + 1)) a ↔
      Unheard (l.take n) a ∨ x.deviceId = a ∧ x.type ≠ deviceTypeGateway ∧ x.recv = 0 := by
  unfold Unheard
  rw [List.take_add_one, hx]
  simp only [Option.toList_some, List.mem_append, List.mem_singleton, or_and_right, exists_or, exists_eq_left]

/-- A turn reads the node of its position as the loop found it, but for being online. -/
theorem heartCheckTurn_checked {l : List Device} {n : Nat} {st : Storage}
    (h : ∀ i, st.deviceList[i]? = l[i]?.map (Device.checkedBefore l n i)) (hn : n < l.length) (i : Nat) :
    (heartCheckTurn st n).deviceList[i]? = l[i]?.map (Device.checkedBefore l (n + 1) i) := by
  obtain ⟨x, hx⟩ : ∃ x, l[n]? = some x := ⟨l[n], List.getElem?_eq_getElem hn⟩
  have hnode : st.deviceList[n]? = some (x.checkedBefore l n n) := by rw [h n, hx, Option.map_some]
  have hrecv : (x.checkedBefore l n n).recv = x.recv := if_neg fun hc => absurd hc.1 (Nat.lt_irrefl n)
  have hself : ∀ d, l[i]? = some d → i = n → d = x := fun d hd hi => by
    rw [hi, hx] at hd
    exact (Option.some.inj hd).symm
  have hbelow : i ≠ n → (i < n + 1 ↔ i < n) := by omega
  unfold heartCheckTurn
  rw [hnode]
  dsimp only
  rw [hrecv, show (x.checkedBefore l n n).type = x.type from rfl,
    show (x.checkedBefore l n n).deviceId = x.deviceId from rfl]
  by_cases ht : x.type ≠ deviceTypeGateway
  · rw [if_pos ht]
    by_cases hr : x.recv ≠ 0
    · -- heard: its mark is cleared
      rw [if_pos hr, deviceRecvClear, List.getElem?_modify, h i, Option.map_eq_map, Option.map_map]
      refine Option.map_congr fun d hd => ?_
      by_cases hi : i = n
      · obtain rfl := hself d hd hi
        simp [Device.checkedBefore, unheard_take_succ hx, hi, ht, hr]
      · simp [Device.checkedBefore, unheard_take_succ hx, hbelow hi, Ne.symm hi, hr]
    · -- not heard: every node of its address goes offline
      have hplace : (RegOp.onlineSet x.deviceId 0).Everywhere := ⟨trivial, trivial⟩
      rw [if_neg hr, show (aqDeviceOnlineSet x.deviceId 0 st).deviceList = _ from hplace.deviceList st,
        List.getElem?_map, h i, Option.map_map]
      refine Option.map_congr fun d hd => ?_
      have hmark : (if i < n ∧ d.type ≠ deviceTypeGateway then 0 else d.recv) =
          if i < n + 1 ∧ d.type ≠ deviceTypeGateway then 0 else d.recv := by
        by_cases hi : i = n
        · obtain rfl := hself d hd hi
          rw [if_neg fun hc => absurd hc.1 (by omega), not_not.1 hr, ite_self]
        · simp only [hbelow hi]
      have hnext : d.checkedBefore l (n + 1) i =
          { d with
            recv := if i < n ∧ d.type ≠ deviceTypeGateway then 0 else d.recv
            online := if Unheard (l.take (n + 1)) d.deviceId then 0 else d.online } := by
        rw [hmark]
        rfl
      rw [hnext]
      by_cases ha : d.deviceId = x.deviceId
      · by_cases hu : Unheard (l.take n) x.deviceId <;> by_cases ho : d.online = 0 <;>
          simp [Device.checkedBefore, unheard_take_succ hx, RegOp.change, setDevice, ha, hu, ho, ht, not_not.1 hr]
      · simp [Device.checkedBefore, unheard_take_succ hx, RegOp.change, setDevice, ha, Ne.symm ha]
  · rw [if_neg ht, h i]
    refine Option.map_congr fun d hd => ?_
    by_cases hi : i = n
    · obtain rfl := hself d hd hi
      simp [Device.checkedBefore, unheard_take_succ hx, hi, ht]
    · simp [Device.checkedBefore, unheard_take_succ hx, hbelow hi, ht]

/-- **The marking loop**, node by node. -/
theorem heartCheckMark_deviceList (st : Storage) :
    (heartCheckMark st).deviceList = st.deviceList.map (Device.checked st.deviceList) := by
  have hloop : ∀ n ≤ st.deviceList.length, ∀ i, ((List.range n).foldl heartCheckTurn st).deviceList[i]? =
      st.deviceList[i]?.map (Device.checkedBefore st.deviceList n i) := by
    intro n
    induction n with
    | zero =>
      intro _ i
      refine ((Option.map_congr (g := id) fun d _ => ?_).trans Option.map_id_apply).symm
      simp [Device.checkedBefore, Unheard]
    | succ n ih =>
      intro hn
      rw [List.range_succ, List.foldl_append]
      exact heartCheckTurn_checked (ih (Nat.le_of_succ_le hn)) hn
  refine List.ext_getElem? fun i => ?_
  rw [heartCheckMark, hloop _ (Nat.le_refl _), List.getElem?_map]
  refine Option.map_congr fun d hd => ?_
  have hi : i < st.deviceList.length := (List.getElem?_eq_some_iff.1 hd).1
  simp [Device.checkedBefore, Device.checked, hi]

theorem aqGatewayFind_heartCheckMark (st : Storage) : aqGatewayFind (heartCheckMark st) = aqGatewayFind st := by
  have htype : (fun d : Device => decide (d.type = deviceTypeGateway)) ∘ Device.checked st.deviceList =
      fun d => decide (d.type = deviceTypeGateway) := rfl
  unfold aqGatewayFind
  rw [heartCheckMark_deviceList, List.find?_map, htype]
  cases st.deviceList.find? fun d => d.type = deviceTypeGateway <;> rfl

/-! Who is offline afterwards. -/

/-- The devices `aq_device_offline_upload` lists. -/
def offlineDevices (st : Storage) : List Device :=
  st.deviceList.filter fun d => d.online = 0 ∧ d.type ≠ deviceTypeGateway

/-- A device that is offline after the check: it is already, or was not heard. -/
def GoesOffline (st : Storage) (d : Device) : Prop :=
  (d.online = 0 ∨ Unheard st.deviceList d.deviceId) ∧ d.type ≠ deviceTypeGateway

instance (st : Storage) (d : Device) : Decidable (GoesOffline st d) := inferInstanceAs (Decidable (_ ∧ _))

/-- Those devices, in list order. -/
def offlineNext (st : Storage) : List Device := st.deviceList.filter fun d => GoesOffline st d

theorem Device.checked_online {l : List Device} {d : Device} :
    (d.checked l).online = 0 ↔ d.online = 0 ∨ Unheard l d.deviceId := by
  unfold Device.checked
  dsimp only
  split
  · rename_i hu
    exact iff_of_true rfl (Or.inr hu)
  · rename_i hu
    exact ⟨Or.inl, fun h => h.resolve_right hu⟩

theorem offlineDevices_heartCheckMark (st : Storage) :
    offlineDevices (heartCheckMark st) = (offlineNext st).map (Device.checked st.deviceList) := by
  rw [offlineDevices, heartCheckMark_deviceList, List.filter_map, offlineNext]
  congr 1
  refine List.filter_congr fun d _ => ?_
  exact decide_eq_decide.2 (and_congr_left fun _ => Device.checked_online)

/-- What the search for one kind of device finds. -/
theorem offline_any_iff {type : UInt8} (ht : type ≠ deviceTypeGateway) (st : Storage) :
    ((heartCheckMark st).deviceList.any fun d => d.online = 0 ∧ d.type = type) = true ↔
      ∃ d ∈ offlineNext st, d.type = type := by
  rw [heartCheckMark_deviceList, List.any_map, List.any_eq_true]
  constructor
  · rintro ⟨d, hd, hp⟩
    obtain ⟨ho, hdt⟩ := of_decide_eq_true hp
    have hdt : d.type = type := hdt
    exact ⟨d, List.mem_filter.2 ⟨hd, decide_eq_true ⟨Device.checked_online.1 ho, by rw [hdt]; exact ht⟩⟩, hdt⟩
  · rintro ⟨d, hd, hdt⟩
    obtain ⟨hd, hp⟩ := List.mem_filter.1 hd
    exact ⟨d, hd, decide_eq_true ⟨Device.checked_online.2 (of_decide_eq_true hp).1, hdt⟩⟩

/-! The report. -/

/-- The message reports the devices `ids`, and was built in the 255 bytes
allocated for it. -/
structure SendMsg.ReportsOffline (m : SendMsg) (ids : List UInt32) : Prop where
  command : m.frame.command = warningUploadCmd
  kind : m.frame.txData.getD 0 0 = 5
  count : (m.frame.txData.getD 1 0).toNat = ids.length
  length : m.frame.txData.length = 2 + 4 * (m.frame.txData.getD 1 0).toNat
  fits : m.frame.txData.length ≤ 255
  ids : readRecords 4 (fun l => beWord (l.getD 0 0) (l.getD 1 0) (l.getD 2 0) (l.getD 3 0))
    (m.frame.txData.getD 1 0).toNat (m.frame.txData.drop 2) = ids

/-- One report of the devices that are offline, and none if none is. -/
def OfflineReported (u u' : MainUnit) : Prop :=
  (offlineDevices u'.storage = [] → u'.tx = u.tx) ∧
    (offlineDevices u'.storage ≠ [] →
      ∃ m, u'.tx = u.tx ++ [m] ∧ m.ReportsOffline ((offlineDevices u'.storage).map Device.deviceId))

/-- The report as `gateway_warning_slaver_offline` enqueues it. -/
def offlineMsg (u : MainUnit) : SendMsg :=
  { frame :=
      { msgAck := true, msgType := msgConfirmedUplink, destAddr := aqGatewayFind u.storage
        sourceAddr := getLocalAddress u, command := warningUploadCmd
        txData := 5 :: (aqDeviceOfflineUpload u.storage).1 :: (aqDeviceOfflineUpload u.storage).2 }
    needAck := true, parameter := 0, valveStatus := u.core.valveStatus }

/-- One of the two searches has found a device, and the report is sent. -/
def SearchReports (type : UInt8) (mallocOk : Bool) (st : Storage) : Prop :=
  (∃ d ∈ offlineNext st, d.type = type) ∧ mallocOk = true

instance (type : UInt8) (mallocOk : Bool) (st : Storage) : Decidable (SearchReports type mallocOk st) :=
  inferInstanceAs (Decidable ((∃ d ∈ offlineNext st, _) ∧ _))

/-- Nobody is offline, or one search alone reports those who are. -/
def ReportedOnce (u : MainUnit) : Prop :=
  offlineNext u.storage = [] ∨
    aqGatewayFind u.storage ≠ 0 ∧ (offlineNext u.storage).length ≤ 63 ∧
      ¬ (SearchReports deviceTypeEndunit u.env.mallocEndunitOffline u.storage ↔
        SearchReports deviceTypeDoorunit u.env.mallocDoorOffline u.storage)

section
variable {u : MainUnit} {mallocOk : Bool}

theorem offlineUpload_tx :
    (gatewayWarningSlaverOffline mallocOk u).tx =
      u.tx ++ if mallocOk = true ∧ aqGatewayFind u.storage ≠ 0 then [offlineMsg u] else [] := by
  unfold gatewayWarningSlaverOffline
  cases mallocOk with
  | false => simp
  | true =>
    by_cases hg : aqGatewayFind u.storage = 0
    · simp [gatewayUpload, radioGatewayCommandSend, hg]
    · simp only [hg, ne_eq, not_false_eq_true, and_self, if_true]
      unfold gatewayUpload radioGatewayCommandSend
      rw [if_neg hg]
      rfl

theorem offlineUpload_env (mallocOk : Bool) (u : MainUnit) : (gatewayWarningSlaverOffline mallocOk u).env = u.env := by
  unfold gatewayWarningSlaverOffline
  split
  · exact gatewayUpload_env ..
  · rfl

theorem offlineUpload_cfg (mallocOk : Bool) (u : MainUnit) : (gatewayWarningSlaverOffline mallocOk u).cfg = u.cfg := by
  unfold gatewayWarningSlaverOffline
  split
  · exact gatewayUpload_cfg ..
  · rfl

/-- Raising the offline warning closes the valve at most. -/
theorem warningEnable_offline (u : MainUnit) : ∃ core, warningEnable .slaverOffline u = { u with core } := by
  unfold warningEnable
  split
  · unfold Warning.callback slaverOfflineEventCallback
    dsimp only
    split
    · exact ⟨_, rfl⟩
    · exact ⟨_, rfl⟩
  · exact ⟨u.core, rfl⟩

/-- A search sends the report if it finds a device. -/
theorem search_tx {type : UInt8} {st : Storage} {found : Bool} (mallocOk : Bool) (hs : u.storage = heartCheckMark st)
    (hfound : found = true ↔ ∃ d ∈ offlineNext st, d.type = type) :
    (if found then gatewayWarningSlaverOffline mallocOk u else u).tx =
      u.tx ++ if SearchReports type mallocOk st ∧ aqGatewayFind st ≠ 0 then [offlineMsg u] else [] := by
  cases hf : found with
  | false =>
    have hno : ¬ SearchReports type mallocOk st := fun h => by simpa [hf] using hfound.2 h.1
    rw [if_neg (by decide), if_neg fun h => hno h.1, List.append_nil]
  | true =>
    rw [if_pos rfl, offlineUpload_tx, hs, aqGatewayFind_heartCheckMark]
    congr 1
    exact if_congr (and_congr_left fun _ => (and_iff_right (hfound.1 hf)).symm) rfl rfl

/-- **The check**: the list is marked, and each search sends the report for itself. -/
theorem heartCheck_spec (u : MainUnit) :
    (aqDeviceHeartCheck u).storage = heartCheckMark u.storage ∧
      ∃ m m' : SendMsg, m.frame = (offlineMsg (u.onStorage heartCheckMark)).frame ∧
        m'.frame = (offlineMsg (u.onStorage heartCheckMark)).frame ∧
        (aqDeviceHeartCheck u).tx =
          u.tx ++
            (if SearchReports deviceTypeEndunit u.env.mallocEndunitOffline u.storage ∧ aqGatewayFind u.storage ≠ 0 then
              [m] else []) ++
            if SearchReports deviceTypeDoorunit u.env.mallocDoorOffline u.storage ∧ aqGatewayFind u.storage ≠ 0 then
              [m'] else [] := by
  obtain ⟨u₁, hu₁⟩ : ∃ u₁, u₁ = u.onStorage heartCheckMark := ⟨_, rfl⟩
  obtain ⟨u₂, hu₂⟩ : ∃ u₂, u₂ = if aqDeviceEndunitOfflineFind (heartCheckMark u.storage) then
      gatewayWarningSlaverOffline u.env.mallocEndunitOffline u₁ else u₁ := ⟨_, rfl⟩
  have hstorage : u₂.storage = heartCheckMark u.storage ∧ u₂.env = u.env ∧ u₂.cfg = u.cfg := by
    rw [hu₂, hu₁]
    split
    · exact ⟨(offlineUpload_same _ _).2, offlineUpload_env _ _, offlineUpload_cfg _ _⟩
    · exact ⟨rfl, rfl, rfl⟩
  -- the warning the first search raises changes the valve and the warning in force only
  obtain ⟨core, hcheck⟩ : ∃ core, aqDeviceHeartCheck u =
      if aqDeviceDoorOfflineFind (heartCheckMark u.storage) then
        gatewayWarningSlaverOffline u.env.mallocDoorOffline { u₂ with core } else { u₂ with core } := by
    have hwarned : ∃ core, (if aqDeviceEndunitOfflineFind (heartCheckMark u.storage) then
        warningEnable .slaverOffline (gatewayWarningSlaverOffline u.env.mallocEndunitOffline u₁) else u₁) =
          { u₂ with core } := by
      rw [hu₂]
      split
      · exact warningEnable_offline _
      · exact ⟨_, rfl⟩
    obtain ⟨core, hwarned⟩ := hwarned
    refine ⟨core, ?_⟩
    unfold aqDeviceHeartCheck
    dsimp only
    rw [← hu₁, show u₁.env = u.env by rw [hu₁]; rfl, show u₁.storage = heartCheckMark u.storage by rw [hu₁]; rfl, hwarned]
    dsimp only
    rw [hstorage.1, hstorage.2.1]
  have hendunit := offline_any_iff (by decide : deviceTypeEndunit ≠ deviceTypeGateway) u.storage
  have hdoor := offline_any_iff (by decide : deviceTypeDoorunit ≠ deviceTypeGateway) u.storage
  have hfirst := search_tx u.env.mallocEndunitOffline (show u₁.storage = heartCheckMark u.storage from hu₁ ▸ rfl) hendunit
  have hsecond := search_tx u.env.mallocDoorOffline
    (show ({ u₂ with core } : MainUnit).storage = heartCheckMark u.storage from hstorage.1) hdoor
  refine ⟨?_, offlineMsg u₁, offlineMsg { u₂ with core }, by rw [hu₁], ?_, ?_⟩
  · rw [hcheck]
    split
    · exact (offlineUpload_same _ _).2.trans hstorage.1
    · exact hstorage.1
  · simp only [offlineMsg, getLocalAddress, hstorage.1, hstorage.2.2]
    rfl
  · rw [hcheck]
    refine hsecond.trans (congrArg₂ _ ?_ rfl)
    refine ((congrArg MainUnit.tx hu₂).trans hfirst).trans ?_
    rw [hu₁]
    rfl

theorem length_beBytes (d : Device) : (beBytes d.deviceId).length = 4 := rfl

/-- Four bytes for each device, behind the kind and the count. -/
theorem length_offlineMsg (u : MainUnit) :
    (offlineMsg u).frame.txData.length = 2 + 4 * (offlineDevices u.storage).length := by
  have hbytes : (aqDeviceOfflineUpload u.storage).2.length = 4 * (offlineDevices u.storage).length :=
    length_flatMap_width length_beBytes _
  simp only [offlineMsg, List.length_cons, hbytes]
  omega

/-- The report reads as the ids of the offline devices, where they fit. -/
theorem offlineMsg_reports {m : SendMsg} (hm : m.frame = (offlineMsg u).frame) :
    m.ReportsOffline ((offlineDevices u.storage).map Device.deviceId) ↔ (offlineDevices u.storage).length ≤ 63 := by
  constructor
  · intro h
    have hfits := h.fits
    rw [hm, length_offlineMsg] at hfits
    omega
  · intro hle
    have hcount : ((offlineMsg u).frame.txData.getD 1 0).toNat = (offlineDevices u.storage).length := by
      change (UInt8.ofNat (offlineDevices u.storage).length).toNat = _
      rw [UInt8.toNat_ofNat']
      exact Nat.mod_eq_of_lt (by omega)
    have hread : readRecords 4 (fun l => beWord (l.getD 0 0) (l.getD 1 0) (l.getD 2 0) (l.getD 3 0))
        (offlineDevices u.storage).length ((offlineDevices u.storage).flatMap fun d => beBytes d.deviceId) =
          (offlineDevices u.storage).map Device.deviceId :=
      readRecords_flatMap length_beBytes (fun d => beWord_beBytes d.deviceId) _
    refine ⟨by rw [hm]; rfl, by rw [hm]; rfl, ?_, ?_, ?_, ?_⟩
    · rw [hm, hcount, List.length_map]
    · rw [hm, hcount, length_offlineMsg]
    · rw [hm, length_offlineMsg]
      omega
    · rw [hm, hcount]
      exact hread

end

/-- **The offline report is complete**, exactly where one search alone sends it. -/
theorem offline_report_iff (u : MainUnit) : OfflineReported u (aqDeviceHeartCheck u) ↔ ReportedOnce u := by
  obtain ⟨hstorage, m, m', hm, hm', htx⟩ := heartCheck_spec u
  have hlength : (offlineDevices (heartCheckMark u.storage)).length = (offlineNext u.storage).length := by
    rw [offlineDevices_heartCheckMark, List.length_map]
  have hempty : offlineDevices (heartCheckMark u.storage) = [] ↔ offlineNext u.storage = [] := by
    rw [offlineDevices_heartCheckMark, List.map_eq_nil_iff]
  have hsome : offlineDevices (heartCheckMark u.storage) ≠ [] ↔ offlineNext u.storage ≠ [] := not_congr hempty
  have hreport : m.ReportsOffline ((offlineDevices (heartCheckMark u.storage)).map Device.deviceId) ↔
      (offlineNext u.storage).length ≤ 63 := hlength ▸ offlineMsg_reports hm
  have hreport' : m'.ReportsOffline ((offlineDevices (heartCheckMark u.storage)).map Device.deviceId) ↔
      (offlineNext u.storage).length ≤ 63 := hlength ▸ offlineMsg_reports hm'
  unfold OfflineReported ReportedOnce
  rw [hstorage, htx, hempty, hsome]
  by_cases hnone : offlineNext u.storage = []
  · have hno : ∀ type mallocOk, ¬ SearchReports type mallocOk u.storage := by
      rintro type mallocOk ⟨⟨d, hd, _⟩, _⟩
      rw [hnone] at hd
      exact absurd hd List.not_mem_nil
    simp [hnone, hno]
  · by_cases hg : aqGatewayFind u.storage = 0
    · simp [hnone, hg]
    · by_cases hend : SearchReports deviceTypeEndunit u.env.mallocEndunitOffline u.storage <;>
        by_cases hdoor : SearchReports deviceTypeDoorunit u.env.mallocDoorOffline u.storage <;>
          simp [hnone, hg, hend, hdoor, hreport, hreport']

/-- A gateway, an end unit and a door unit are added, and the two nodes are silent
until the check: the same report is sent twice. -/
theorem offline_report_fails :
    ¬ ∀ (cfg : Config) (s : State), (system cfg).Reachable s →
      (∃ d ∈ s.unit.storage.deviceList, d.type = deviceTypeGateway) →
        ∀ env, OfflineReported (s.unit.begin env) (aqDeviceHeartCheck (s.unit.begin env)) := by
  intro h
  have hrun : ((system sampleConfig).run sampleStart
      [(sampleEnv, sampleFrame deviceTypeGateway 100 [learnDeviceCmd, 1, 1]),
        (sampleEnv, sampleFrame deviceTypeEndunit 7 [learnDeviceCmd, 1, 1]),
        (sampleEnv, sampleFrame deviceTypeDoorunit 8 [learnDeviceCmd, 1, 1])]).any (fun s =>
      decide ((∃ d ∈ s.unit.storage.deviceList, d.type = deviceTypeGateway) ∧
        (aqDeviceHeartCheck (s.unit.begin sampleEnv)).tx.length = 2)) = true := by decide +kernel
  obtain ⟨s, hr, hp⟩ := (Option.any_eq_true _ _).1 hrun
  obtain ⟨hg, htwo⟩ := of_decide_eq_true hp
  obtain ⟨hnone, hone⟩ := h sampleConfig s ⟨sampleStart, _, ⟨_, _, _, rfl⟩, hr⟩ hg sampleEnv
  by_cases hempty : offlineDevices (aqDeviceHeartCheck (s.unit.begin sampleEnv)).storage = []
  · rw [hnone hempty] at htwo
    cases htwo
  · obtain ⟨m, hm, _⟩ := hone hempty
    rw [hm] at htwo
    cases htwo

end Aqualarm
