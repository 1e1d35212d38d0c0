import Aqualarm.GatewayCopy

/-
  What a learn handler's success branch says, and what the registry then holds.

  What is proved: `reported_enrolment_iff` — a request that is answered as a
  success leaves its source listed once and under the type of the frame, and as
  the gateway if it asks to be that, exactly if it is not misfiled: the source
  stays listed when those it replaces are gone, and not so, or another gateway
  stays listed before it. Where no id is listed twice this says that the source
  is not listed under another type. `aq_device_create` takes any device of the
  id for the one it is to create.
-/

namespace Aqualarm

/-- The handler takes its success branch: `aq_device_create` returns a device
once those it replaces are deleted. -/
def RxFrame.Added (rx : RxFrame) (u : MainUnit) : Prop :=
  (aqDeviceCreate u.env.mallocDevice rx.addLevel rx.deviceType rx.sourceAddr
    (replaceByType rx.deviceType u.storage)).1 ≠ none

/-- The source is listed once and as what the frame says; a gateway is the one
that is found. -/
structure RxFrame.EnrolledIn (rx : RxFrame) (st : Storage) : Prop where
  once : timesListed rx.sourceAddr st = 1
  type : ∀ d ∈ st.deviceList, d.deviceId = rx.sourceAddr → d.type = rx.deviceType
  gateway : rx.deviceType = deviceTypeGateway → aqGatewayFind st = rx.sourceAddr

/-- The request cannot be filed as it says: the source stays listed under another
type or more than once, or the first gateway that stays is another device. -/
inductive RxFrame.Misfiled (rx : RxFrame) (st : Storage) : Prop
  | retyped {d : Device} (hd : d ∈ st.staying rx.deviceType) (hid : d.deviceId = rx.sourceAddr)
      (hother : d.type ≠ rx.deviceType)
  | twice (h : 1 < (st.staying rx.deviceType).countP fun d => d.deviceId = rx.sourceAddr)
  | foundFirst (ht : rx.deviceType = deviceTypeGateway) {d : Device}
      (hd : (st.staying rx.deviceType).find? (fun d => d.type = deviceTypeGateway) = some d)
      (hne : d.deviceId ≠ rx.sourceAddr)

/-! What is read of the list, read of the roster. -/

section
variable {st st' : Storage} {a : UInt32} {type : UInt8}

theorem timesListed_roster (a : UInt32) (st : Storage) : timesListed a st = (roster st).countP fun e => e.1 = a := by
  rw [timesListed, roster, List.countP_map]
  rfl

theorem types_roster :
    (∀ d ∈ st.deviceList, d.deviceId = a → d.type = type) ↔ ∀ e ∈ roster st, e.1 = a → e.2 = type := by
  constructor
  · intro h e he hid
    obtain ⟨d, hd, hdid, hdt⟩ := mem_roster.1 he
    exact hdt.symm.trans (h d hd (hdid.trans hid))
  · exact fun h d hd => h (d.deviceId, d.type) (mem_roster.2 ⟨d, hd, rfl, rfl⟩)

theorem gateways_roster : (∃ d ∈ st.deviceList, d.type = type) ↔ ∃ e ∈ roster st, e.2 = type := by
  constructor
  · rintro ⟨d, hd, ht⟩
    exact ⟨(d.deviceId, d.type), mem_roster.2 ⟨d, hd, rfl, rfl⟩, ht⟩
  · rintro ⟨e, he, ht⟩
    obtain ⟨d, hd, _, hdt⟩ := mem_roster.1 he
    exact ⟨d, hd, hdt.trans ht⟩

/-- The first gateway of a roster. -/
def gatewayOf (l : List (UInt32 × UInt8)) : UInt32 :=
  ((l.find? fun e => e.2 = deviceTypeGateway).map Prod.fst).getD 0

theorem aqGatewayFind_roster (st : Storage) : aqGatewayFind st = gatewayOf (roster st) := aqGatewayFind_eq st

/-- A gateway added last is found if it is the only one. -/
theorem gatewayOf_append (l : List (UInt32 × UInt8)) (a : UInt32) :
    gatewayOf (l ++ [(a, deviceTypeGateway)]) =
      if ∃ e ∈ l, e.2 = deviceTypeGateway then gatewayOf l else a := by
  unfold gatewayOf
  rw [List.find?_append]
  cases hfind : l.find? fun e => e.2 = deviceTypeGateway with
  | none =>
    have hno : ¬ ∃ e ∈ l, e.2 = deviceTypeGateway := by
      rintro ⟨e, he, ht⟩
      exact List.find?_eq_none.1 hfind e he (decide_eq_true ht)
    rw [if_neg hno]
    rfl
  | some e =>
    have ht : e.2 = deviceTypeGateway := by simpa using List.find?_some hfind
    rw [if_pos ⟨e, List.mem_of_find?_eq_some hfind, ht⟩]
    rfl

end

section
variable {rx : RxFrame} {st st' : Storage}

theorem RxFrame.EnrolledIn.congr (hr : roster st' = roster st) : rx.EnrolledIn st' ↔ rx.EnrolledIn st := by
  have h : ∀ st, rx.EnrolledIn st ↔ ((roster st).countP fun e => e.1 = rx.sourceAddr) = 1 ∧
      (∀ e ∈ roster st, e.1 = rx.sourceAddr → e.2 = rx.deviceType) ∧
      (rx.deviceType = deviceTypeGateway → gatewayOf (roster st) = rx.sourceAddr) := by
    intro st
    rw [← timesListed_roster, ← types_roster, ← aqGatewayFind_roster]
    exact ⟨fun h => ⟨h.once, h.type, h.gateway⟩, fun h => ⟨h.1, h.2.1, h.2.2⟩⟩
  rw [h, h, hr]

theorem aqGatewayFind_of_find? {d : Device}
    (h : st.deviceList.find? (fun d => d.type = deviceTypeGateway) = some d) : aqGatewayFind st = d.deviceId := by
  unfold aqGatewayFind
  rw [h]

/-- What the registry then holds tells a request that is misfiled. -/
theorem misfiled_iff :
    rx.Misfiled st ↔
      (Listed rx.sourceAddr (replaceByType rx.deviceType st) ∧
        ¬ (timesListed rx.sourceAddr (replaceByType rx.deviceType st) = 1 ∧
          ∀ d ∈ (replaceByType rx.deviceType st).deviceList, d.deviceId = rx.sourceAddr → d.type = rx.deviceType)) ∨
      rx.deviceType = deviceTypeGateway ∧
        (∃ d ∈ (replaceByType rx.deviceType st).deviceList, d.type = deviceTypeGateway) ∧
        aqGatewayFind (replaceByType rx.deviceType st) ≠ rx.sourceAddr := by
  have hlist := replaceByType_deviceList rx.deviceType st
  have hlisted : 0 < timesListed rx.sourceAddr (replaceByType rx.deviceType st) ↔
      Listed rx.sourceAddr (replaceByType rx.deviceType st) := timesListed_pos
  constructor
  · intro h
    cases h with
    | @retyped d hd hid hother =>
      rw [← hlist] at hd
      exact Or.inl ⟨⟨d, hd, hid⟩, fun hall => hother (hall.2 d hd hid)⟩
    | twice h =>
      rw [← hlist] at h
      exact Or.inl ⟨hlisted.1 (Nat.lt_of_succ_lt h), fun hall => (Nat.ne_of_gt h) hall.1⟩
    | @foundFirst ht d hd hne =>
      rw [← hlist] at hd
      refine Or.inr ⟨ht, ⟨d, List.mem_of_find?_eq_some hd, by simpa using List.find?_some hd⟩, ?_⟩
      rwa [aqGatewayFind_of_find? hd]
  · rintro (⟨hl, hnot⟩ | ⟨ht, ⟨d, hd, hdt⟩, hne⟩)
    · by_cases hall : ∀ d ∈ (replaceByType rx.deviceType st).deviceList,
          d.deviceId = rx.sourceAddr → d.type = rx.deviceType
      · have hcount : timesListed rx.sourceAddr (replaceByType rx.deviceType st) ≠ 1 := fun h => hnot ⟨h, hall⟩
        have hpos := hlisted.2 hl
        rw [timesListed, hlist] at hcount hpos
        exact .twice (by omega)
      · simp only [not_forall] at hall
        obtain ⟨d, hd, hid, hother⟩ := hall
        exact .retyped (hlist ▸ hd) hid hother
    · -- a gateway stays, so one is found
      cases hfind : (replaceByType rx.deviceType st).deviceList.find? fun d => d.type = deviceTypeGateway with
      | none => exact absurd (decide_eq_true hdt) (List.find?_eq_none.1 hfind d hd)
      | some x =>
        rw [aqGatewayFind_of_find? hfind] at hne
        exact .foundFirst ht (hlist ▸ hfind) hne

/-- The source is known: it is enrolled exactly if it is not misfiled. -/
theorem enrolledIn_known (hl : Listed rx.sourceAddr (replaceByType rx.deviceType st)) :
    rx.EnrolledIn (replaceByType rx.deviceType st) ↔ ¬ rx.Misfiled st := by
  rw [misfiled_iff, not_or, and_iff_right hl, not_not]
  constructor
  · intro h
    exact ⟨⟨h.once, h.type⟩, fun hg => hg.2.2 (h.gateway hg.1)⟩
  · rintro ⟨⟨honce, htype⟩, hno⟩
    refine ⟨honce, htype, fun hg => ?_⟩
    by_contra hne
    obtain ⟨d, hd, hid⟩ := hl
    exact hno ⟨hg, ⟨d, hd, (htype d hd hid).trans hg⟩, hne⟩

/-- The source is added. -/
theorem enrolledIn_added (hl : ¬ Listed rx.sourceAddr (replaceByType rx.deviceType st))
    (hr : roster st' = roster (replaceByType rx.deviceType st) ++ [(rx.sourceAddr, rx.deviceType)]) :
    rx.EnrolledIn st' ↔ ¬ rx.Misfiled st := by
  have hnone : ∀ e ∈ roster (replaceByType rx.deviceType st), e.1 ≠ rx.sourceAddr := by
    intro e he hid
    obtain ⟨d, hd, hdid, _⟩ := mem_roster.1 he
    exact hl ⟨d, hd, hdid.trans hid⟩
  have honce : timesListed rx.sourceAddr st' = 1 := by
    rw [timesListed_roster, hr, List.countP_append, List.countP_eq_zero.2 fun e he => by simpa using hnone e he]
    simp
  have htype : ∀ d ∈ st'.deviceList, d.deviceId = rx.sourceAddr → d.type = rx.deviceType := by
    rw [types_roster, hr]
    intro e he hid
    rcases List.mem_append.1 he with he | he
    · exact absurd hid (hnone e he)
    · rw [List.mem_singleton.1 he]
  have hgateway : (rx.deviceType = deviceTypeGateway → aqGatewayFind st' = rx.sourceAddr) ↔ ¬ rx.Misfiled st := by
    rw [misfiled_iff, not_or, and_iff_right fun h => hl h.1, not_and, aqGatewayFind_roster, hr, gateways_roster,
      aqGatewayFind_roster]
    refine forall_congr' fun hg => ?_
    rw [hg, gatewayOf_append]
    split
    · rename_i hex
      simp [hex]
    · rename_i hex
      simp [hex]
  rw [← hgateway]
  exact ⟨fun h => h.gateway, fun h => ⟨honce, htype, h⟩⟩

theorem Ids.timesListed_le (h : Ids st) (a : UInt32) : timesListed a st ≤ 1 := by
  have hcount : timesListed a st = (st.deviceList.map Device.deviceId).count a := by
    rw [timesListed, List.count, List.countP_map]
    exact List.countP_congr fun d _ => by simp
  rw [hcount]
  exact List.nodup_iff_count_le_one.1 h a

/-- Where no id is listed twice, only another type misfiles. -/
theorem misfiled_iff_of_ids (h : Ids st) :
    ¬ rx.Misfiled st ↔ ∀ d ∈ st.deviceList, d.deviceId = rx.sourceAddr → d.type = rx.deviceType := by
  have hmem : ∀ {e : UInt32 × UInt8}, e ∈ roster (replaceByType rx.deviceType st) ↔
      e ∈ roster st ∧ (rx.deviceType = deviceTypeGateway ∨ rx.deviceType = deviceTypeDoorunit → e.2 ≠ rx.deviceType) := by
    intro e
    rw [replaceByType]
    split
    · rename_i ht
      rw [h.mem_deleteByType, forall_prop_of_true ht]
    · rename_i ht
      exact (and_iff_left fun hc => absurd hc ht).symm
  have hids : Ids (replaceByType rx.deviceType st) := h.sublist (replaceByType_sublist rx.deviceType st)
  -- no gateway is left of those a gateway replaces
  have hgateways : ¬ (rx.deviceType = deviceTypeGateway ∧
      (∃ d ∈ (replaceByType rx.deviceType st).deviceList, d.type = deviceTypeGateway) ∧
      aqGatewayFind (replaceByType rx.deviceType st) ≠ rx.sourceAddr) := by
    rintro ⟨hg, hex, _⟩
    obtain ⟨e, he, ht⟩ := gateways_roster.1 hex
    exact (hmem.1 he).2 (Or.inl hg) (ht.trans hg.symm)
  rw [misfiled_iff, not_or, and_iff_left hgateways, not_and, not_not]
  constructor
  · intro hknown d hd hid
    by_contra hne
    have hstays := (hmem (e := (d.deviceId, d.type))).2 ⟨mem_roster.2 ⟨d, hd, rfl, rfl⟩, fun _ => hne⟩
    obtain ⟨x, hx, hxid, hxt⟩ := mem_roster.1 hstays
    exact hne (hxt.symm.trans ((hknown ⟨x, hx, hxid.trans hid⟩).2 x hx (hxid.trans hid)))
  · intro htype hl
    refine ⟨Nat.le_antisymm (hids.timesListed_le _) (timesListed_pos.2 hl), fun d hd => ?_⟩
    exact htype d ((replaceByType_sublist rx.deviceType st).subset hd)

end

/-- **A reported enrolment is real**, exactly where the request is not misfiled;
where no id is listed twice, where its source is not listed under another type. -/
theorem reported_enrolment_iff (s : State) (rx : RxFrame) (ha : rx.AddDevice s.unit) (hadded : rx.Added s.unit) :
    (rx.EnrolledIn (radioFrameDispatch rx s).unit.storage ↔ ¬ rx.Misfiled s.unit.storage) ∧
    (Ids s.unit.storage →
      (rx.EnrolledIn (radioFrameDispatch rx s).unit.storage ↔
        ∀ d ∈ s.unit.storage.deviceList, d.deviceId = rx.sourceAddr → d.type = rx.deviceType)) := by
  have hiff : rx.EnrolledIn (radioFrameDispatch rx s).unit.storage ↔ ¬ rx.Misfiled s.unit.storage := by
    rw [RxFrame.EnrolledIn.congr (roster_addDevice ha), learnStorage]
    rcases roster_create s.unit.env.mallocDevice rx.addLevel rx.deviceType rx.sourceAddr
      (replaceByType rx.deviceType s.unit.storage) with ⟨_, hnone, _⟩ | ⟨hl, _, hr⟩ | ⟨hl, _, hr⟩
    · exact absurd (Option.isNone_iff_eq_none.1 hnone) hadded
    · rw [RxFrame.EnrolledIn.congr hr]
      exact enrolledIn_known hl
    · exact enrolledIn_added hl hr
  exact ⟨hiff, fun hids => hiff.trans (misfiled_iff_of_ids hids)⟩

/-- What the handlers are given for a learn frame of device 7. -/
def sampleLearnRx (type : UInt8) : RxFrame :=
  rxFrameOf 0 (-60) (fun i => (sampleBytes type 7 [learnDeviceCmd, 1, 1]).getD i 0) 15

/-- The sample unit with gateway 100, door unit 7 and end unit 8. -/
def sampleRegistered : State :=
  [sampleFrame deviceTypeGateway 100 [learnDeviceCmd, 1, 1], sampleFrame deviceTypeDoorunit 7 [learnDeviceCmd, 1, 1],
    sampleFrame deviceTypeEndunit 8 [learnDeviceCmd, 1, 1]].foldl
      (fun s e => e.handle (s.onUnit (MainUnit.begin sampleEnv))) sampleStart

/-- Door unit 7 asks again, and replaces itself. -/
theorem reported_enrolment_sample :
    (sampleLearnRx deviceTypeDoorunit).EnrolledIn
      (radioFrameDispatch (sampleLearnRx deviceTypeDoorunit) sampleRegistered).unit.storage := by
  have hadd : (sampleLearnRx deviceTypeDoorunit).AddDevice sampleRegistered.unit :=
    ⟨by decide +kernel, by decide +kernel, by decide +kernel, by decide +kernel⟩
  have hadded : (sampleLearnRx deviceTypeDoorunit).Added sampleRegistered.unit := by
    unfold RxFrame.Added
    decide +kernel
  have hroster : roster sampleRegistered.unit.storage =
      [(100, deviceTypeGateway), (7, deviceTypeDoorunit), (8, deviceTypeEndunit)] := by decide +kernel
  have hids : Ids sampleRegistered.unit.storage := by
    unfold Ids
    decide +kernel
  refine ((reported_enrolment_iff sampleRegistered (sampleLearnRx deviceTypeDoorunit) hadd hadded).2 hids).2 ?_
  have hsource : (sampleLearnRx deviceTypeDoorunit).sourceAddr = 7 := by decide +kernel
  have htype : (sampleLearnRx deviceTypeDoorunit).deviceType = deviceTypeDoorunit := by decide +kernel
  rw [types_roster, hroster, hsource, htype]
  intro e he hid
  simp only [List.mem_cons, List.not_mem_nil, or_false] at he
  rcases he with rfl | rfl | rfl
  · exact absurd hid (by decide)
  · rfl
  · exact absurd hid (by decide)

/-- End unit 7 asks to be the gateway: gateway 100 is deleted, success is
reported, and there is no gateway any more. -/
theorem reported_enrolment_fails :
    ¬ ∀ (cfg : Config) (s : State), (system cfg).Reachable s → ∀ (env : Env) (e : Event) (rx : RxFrame) (s' : State),
      e.Frame (s.unit.begin env) rx → rx.AddDevice (s.unit.begin env) → rx.Added (s.unit.begin env) →
        (system cfg).next s (env, e) = some s' → rx.EnrolledIn s'.unit.storage := by
  intro h
  obtain ⟨s, s', hr, hn, hp⟩ := @Lib.Machine.exists_step_of_run _ _ (system sampleConfig) sampleStart
    [(sampleEnv, sampleFrame deviceTypeGateway 100 [learnDeviceCmd, 1, 1]),
      (sampleEnv, sampleFrame deviceTypeEndunit 7 [learnDeviceCmd, 1, 1])]
    (sampleEnv, sampleFrame deviceTypeGateway 7 [learnDeviceCmd, 1, 1])
    (fun s s' => radioAccepted s.unit.cfg
        (fun i => (sampleBytes deviceTypeGateway 7 [learnDeviceCmd, 1, 1]).getD i 0) 15 ∧
      s.unit.cfg.localAddress = 10000001 ∧
      (aqDeviceCreate true 0 deviceTypeGateway 7 (replaceByType deviceTypeGateway
        (s.unit.begin sampleEnv).storage)).1 ≠ none ∧
      aqGatewayFind s'.unit.storage = 0) (by decide +kernel)
  obtain ⟨hacc, haddr, hadded, hnone⟩ := of_decide_eq_true hp
  have hdest : (sampleLearnRx deviceTypeGateway).destAddr = 10000001 := by decide +kernel
  have henrolled := h sampleConfig s ⟨sampleStart, _, ⟨_, _, _, rfl⟩, hr⟩ sampleEnv _ (sampleLearnRx deviceTypeGateway) s'
    ⟨-60, 5, _, _, rfl, hacc, rfl⟩
    ⟨by decide +kernel, by decide +kernel, hdest.trans haddr.symm, by decide +kernel⟩ hadded hn
  have hfound := henrolled.gateway (by decide +kernel)
  rw [hnone] at hfound
  exact absurd hfound (by decide +kernel)

end Aqualarm
