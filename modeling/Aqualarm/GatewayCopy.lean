import Aqualarm.DeviceSync

/-
  The gateway's copy of the device list, which follows the registry by the
  messages it is sent and the delete commands it gives.

  What is proved:
    1. `told_eq_iff`, `deletion_eq_iff` — one request, and the copy before and
       after it.
    2. `gateway_copy_iff` — in a run of learn frames and delete commands with one
       gateway registered, the copy is the registry's after every event exactly
       if no step is a request to add from a device that stays listed as
       something else: `aq_device_create` returns it as it is, and the handlers
       report the type of the frame.
    3. `gateway_copy_iff_of_ids` — the condition where no id is listed twice. Of
       an id that is, a deletion leaves the second device in the registry alone.
-/

namespace Aqualarm

open Lib

/-! One request. -/

/-- A request to add that the copy cannot follow: the gateway's record is replaced
and another goes with it; the source stays listed, and not as what the frame says;
or a device that is replaced is listed a second time. -/
inductive RxFrame.Misstates (rx : RxFrame) (st : Storage) : Prop
  | replaced (ht : rx.deviceType = deviceTypeGateway) {d : Device} (hd : d ∈ st.deviceList)
      (hother : d.type ≠ deviceTypeGateway)
      (hgone : ∀ d' ∈ st.staying rx.deviceType, d'.deviceId = d.deviceId → d'.type ≠ d.type)
  | retyped (ht : rx.deviceType ≠ deviceTypeGateway) {d : Device} (hd : d ∈ st.staying rx.deviceType)
      (hid : d.deviceId = rx.sourceAddr)
      (hnot : ∀ d' ∈ st.staying rx.deviceType, d'.deviceId = rx.sourceAddr → d'.type ≠ rx.deviceType)
  | retypedToo (ht : rx.deviceType ≠ deviceTypeGateway) {d : Device} (hd : d ∈ st.staying rx.deviceType)
      (hid : d.deviceId = rx.sourceAddr) (hother : d.type ≠ rx.deviceType) (hnode : d.type ≠ deviceTypeGateway)
  | second (ht : rx.deviceType = deviceTypeDoorunit) {d d' : Device} (hd : d ∈ st.deviceList)
      (hdoor : d.type = deviceTypeDoorunit) (hne : d.deviceId ≠ rx.sourceAddr)
      (hd' : d' ∈ st.staying rx.deviceType) (hid : d'.deviceId = d.deviceId) (hnode : d'.type ≠ deviceTypeGateway)

section
variable {rx : RxFrame} {st : Storage} {mallocOk : Bool}

theorem mem_entries_iff {a : UInt32} {type : UInt8} :
    (a, type) ∈ entries st ↔ (∃ d ∈ st.deviceList, d.deviceId = a ∧ d.type = type) ∧ type ≠ deviceTypeGateway := by
  rw [mem_entries, mem_roster]

theorem holdsNone_iff {a : UInt32} :
    HoldsNone a (entries st) ↔ ∀ d ∈ st.deviceList, d.deviceId = a → d.type = deviceTypeGateway := by
  constructor
  · intro h d hd hid
    by_contra ht
    exact h d.type (mem_entries_iff.2 ⟨⟨d, hd, hid, rfl⟩, ht⟩)
  · intro h t ht
    obtain ⟨⟨d, hd, hid, rfl⟩, hnode⟩ := mem_entries_iff.1 ht
    exact hnode (h d hd hid)

theorem holdsOnly_iff {a : UInt32} {type : UInt8} (hnode : type ≠ deviceTypeGateway) :
    HoldsOnly a type (entries st) ↔ (∃ d ∈ st.deviceList, d.deviceId = a ∧ d.type = type) ∧
      ∀ d ∈ st.deviceList, d.deviceId = a → d.type = type ∨ d.type = deviceTypeGateway := by
  constructor
  · intro h
    refine ⟨(mem_entries_iff.1 ((h type).2 rfl)).1, fun d hd hid => or_iff_not_imp_right.2 fun ht => ?_⟩
    exact (h d.type).1 (mem_entries_iff.2 ⟨⟨d, hd, hid, rfl⟩, ht⟩)
  · rintro ⟨hlisted, hall⟩ t
    constructor
    · intro ht
      obtain ⟨⟨d, hd, hid, rfl⟩, hne⟩ := mem_entries_iff.1 ht
      exact (hall d hd hid).resolve_right hne
    · rintro rfl
      exact mem_entries_iff.2 ⟨hlisted, hnode⟩

theorem entries_replaceByType_subset (type : UInt8) (st : Storage) : entries (replaceByType type st) ⊆ entries st := by
  rintro ⟨a, t⟩ he
  obtain ⟨⟨d, hd, hdt⟩, ht⟩ := mem_entries_iff.1 he
  exact mem_entries_iff.2 ⟨⟨d, (replaceByType_sublist type st).subset hd, hdt⟩, ht⟩

/-- What the registry then holds tells a gateway's request that misstates. -/
theorem misstates_gateway_iff (ht : rx.deviceType = deviceTypeGateway) :
    rx.Misstates st ↔ entries (replaceByType rx.deviceType st) ≠ entries st := by
  constructor
  · intro h heq
    cases h with
    | @replaced _ d hd hother hgone =>
      have he := heq.symm ▸ mem_entries_iff.2 ⟨⟨d, hd, rfl, rfl⟩, hother⟩
      obtain ⟨⟨d', hd', hid, hdt⟩, _⟩ := mem_entries_iff.1 he
      rw [replaceByType_deviceList] at hd'
      exact hgone d' hd' hid hdt
    | retyped hn | retypedToo hn => exact hn ht
    | second hdoor => exact absurd (ht.symm.trans hdoor) (by decide)
  · intro hne
    obtain ⟨⟨a, t⟩, he, hnot⟩ :=
      Finset.exists_of_ssubset ((entries_replaceByType_subset rx.deviceType st).ssubset_of_ne hne)
    obtain ⟨⟨d, hd, hid, hdt⟩, hnode⟩ := mem_entries_iff.1 he
    refine .replaced ht hd (hdt ▸ hnode) fun d' hd' hid' hdt' => hnot (mem_entries_iff.2 ⟨⟨d', ?_, ?_⟩, hnode⟩)
    · rw [replaceByType_deviceList]
      exact hd'
    · exact ⟨hid'.trans hid, hdt'.trans hdt⟩

/-- And any other request. -/
theorem misstates_node_iff (ht : rx.deviceType ≠ deviceTypeGateway) :
    rx.Misstates st ↔
      (Listed rx.sourceAddr (replaceByType rx.deviceType st) ∧
        ¬ HoldsOnly rx.sourceAddr rx.deviceType (entries (replaceByType rx.deviceType st))) ∨
      ∃ a ∈ rx.replacedIds st, a ≠ rx.sourceAddr ∧ ¬ HoldsNone a (entries (replaceByType rx.deviceType st)) := by
  unfold Listed
  rw [holdsOnly_iff ht, replaceByType_deviceList]
  constructor
  · intro h
    cases h with
    | replaced hg => exact absurd hg ht
    | @retyped _ d hd hid hnot =>
      exact Or.inl ⟨⟨d, hd, hid⟩, fun ⟨⟨d', hd', hid', hdt⟩, _⟩ => hnot d' hd' hid' hdt⟩
    | @retypedToo _ d hd hid hother hnode =>
      exact Or.inl ⟨⟨d, hd, hid⟩, fun ⟨_, hall⟩ => (hall d hd hid).elim hother hnode⟩
    | @second hdt d d' hd hdoor hne hd' hid hnode =>
      refine Or.inr ⟨d.deviceId, ?_, hne, fun hnone => hnode ?_⟩
      · rw [RxFrame.replacedIds, if_pos hdt]
        exact List.mem_map.2 ⟨d, List.mem_filter.2 ⟨hd, decide_eq_true hdoor⟩, rfl⟩
      · rw [holdsNone_iff, replaceByType_deviceList] at hnone
        exact hnone d' hd' hid
  · rintro (⟨⟨d, hd, hid⟩, hnot⟩ | ⟨a, ha, hne, hnone⟩)
    · -- listed under its type and another one, or not under its type
      by_cases hsome : ∃ d ∈ st.staying rx.deviceType, d.deviceId = rx.sourceAddr ∧ d.type = rx.deviceType
      · have hall := not_and.1 hnot hsome
        simp only [not_forall, not_or] at hall
        obtain ⟨x, hx, hxid, hother, hnode⟩ := hall
        exact .retypedToo ht hx hxid hother hnode
      · exact .retyped ht hd hid fun d' hd' hid' hdt => hsome ⟨d', hd', hid', hdt⟩
    · unfold RxFrame.replacedIds at ha
      split at ha
      · rename_i hdt
        obtain ⟨d, hd, rfl⟩ := List.mem_map.1 ha
        obtain ⟨hd, hdoor⟩ := List.mem_filter.1 hd
        rw [holdsNone_iff, replaceByType_deviceList] at hnone
        simp only [not_forall] at hnone
        obtain ⟨d', hd', hid, hnode⟩ := hnone
        exact .second hdt hd (of_decide_eq_true hdoor) hne hd' hid hnode
      · cases ha

theorem mem_roster_foldDelete {l : List Device} {e : UInt32 × UInt8} (he : e.1 ∉ l.map Device.deviceId) :
    e ∈ roster (l.foldl (fun st d => (aqDeviceDelete d.deviceId st).2) st) ↔ e ∈ roster st := by
  induction l generalizing st with
  | nil => exact Iff.rfl
  | cons d l ih =>
    rw [List.map_cons, List.mem_cons, not_or] at he
    rw [List.foldl_cons, ih he.2, roster_delete, List.mem_eraseP_of_neg (by simpa using he.1)]

/-- Replacing changes nothing under the ids it does not name. -/
theorem mem_entries_replaceByType (hgt : rx.deviceType ≠ deviceTypeGateway) {e : UInt32 × UInt8}
    (he : e.1 ∉ rx.replacedIds st) : e ∈ entries st ↔ e ∈ entries (replaceByType rx.deviceType st) := by
  rw [mem_entries, mem_entries, replaceByType]
  by_cases hdt : rx.deviceType = deviceTypeDoorunit
  · rw [RxFrame.replacedIds, if_pos hdt] at he
    rw [if_pos (Or.inr hdt), hdt, deleteByType, mem_roster_foldDelete he]
  · rw [if_neg (not_or.2 ⟨hgt, hdt⟩)]

theorem holdsNone_of_unlisted {a : UInt32} (h : ¬ Listed a st) : HoldsNone a (entries st) := by
  intro t ht
  obtain ⟨d, hd, hid, _⟩ := mem_roster.1 (mem_entries.1 ht).1
  exact h ⟨d, hd, hid⟩

/-- Adding a gateway is no news. -/
theorem entries_append_gateway {st' : Storage} {a : UInt32} {type : UInt8} (ht : type = deviceTypeGateway)
    (h : roster st' = roster st ++ [(a, type)]) : entries st' = entries st := by
  ext e
  rw [mem_entries, mem_entries, h, List.mem_append, List.mem_singleton]
  refine and_congr_left fun he => or_iff_left ?_
  rintro rfl
  exact he ht

/-- A device that is added, in the copy. -/
theorem holdsOnly_added {st' : Storage} {a : UInt32} {type : UInt8} (hn : ¬ Listed a st)
    (h : roster st' = roster st ++ [(a, type)]) (ht : type ≠ deviceTypeGateway) :
    HoldsOnly a type (entries st') ∧ ∀ e : UInt32 × UInt8, e.1 ≠ a → (e ∈ entries st' ↔ e ∈ entries st) := by
  have hmem : ∀ e, e ∈ entries st' ↔ e ∈ entries st ∨ e = (a, type) := by
    intro e
    rw [mem_entries, mem_entries, h, List.mem_append, List.mem_singleton, or_and_right]
    refine or_congr_right (and_iff_left_of_imp ?_)
    rintro rfl
    exact ht
  refine ⟨fun w => ?_, fun e he => ?_⟩
  · rw [hmem, Prod.mk.injEq, or_iff_right (holdsNone_of_unlisted hn w)]
    exact and_iff_right rfl
  · rw [hmem]
    refine or_iff_left ?_
    rintro rfl
    exact he rfl

/-- **A request to add**: the copy follows exactly if the request misstates
nothing. -/
theorem told_eq_iff (rx : RxFrame) (mallocOk : Bool) (st : Storage) :
    Update.applyAll (rx.told mallocOk st) (entries st) =
        entries (learnStorage mallocOk rx.addLevel rx.deviceType rx.sourceAddr st).2 ↔ ¬ rx.Misstates st := by
  have hcreate := roster_create mallocOk rx.addLevel rx.deviceType rx.sourceAddr (replaceByType rx.deviceType st)
  rw [← learnStorage] at hcreate
  by_cases hgt : rx.deviceType = deviceTypeGateway
  · have htold : rx.told mallocOk st = [] := by
      rw [RxFrame.told, RxFrame.replacedIds, if_neg (by rw [hgt]; decide), if_pos (Or.inl hgt)]
      rfl
    have hentries : entries (learnStorage mallocOk rx.addLevel rx.deviceType rx.sourceAddr st).2 =
        entries (replaceByType rx.deviceType st) := by
      rcases hcreate with ⟨_, _, h⟩ | ⟨_, _, h⟩ | ⟨_, _, h⟩
      · exact entries_congr h
      · exact entries_congr h
      · exact entries_append_gateway hgt h
    rw [htold, hentries, misstates_gateway_iff hgt, not_not]
    exact eq_comm
  · rw [misstates_node_iff hgt, RxFrame.told]
    simp only [hgt, false_or]
    have hrest : ∀ e, e.1 ∉ rx.replacedIds st → (e ∈ entries st ↔ e ∈ entries (replaceByType rx.deviceType st)) :=
      fun e => mem_entries_replaceByType hgt
    rcases hcreate with ⟨hn, hnone, h⟩ | ⟨hl, hnone, h⟩ | ⟨hn, hnone, h⟩
    · -- nothing is created, and only the deletions are told
      rw [hnone, if_pos rfl, List.append_nil, entries_congr h, Update.applyAll_drops_eq_iff hrest]
      simp only [hn, false_and, false_or, not_exists, not_and, not_not]
      refine forall₂_congr fun a ha => ⟨fun hnone _ => hnone, fun hnone => ?_⟩
      by_cases hax : a = rx.sourceAddr
      · rw [hax]
        exact holdsNone_of_unlisted hn
      · exact hnone hax
    · -- the source is known
      rw [hnone, if_neg Bool.false_ne_true, Update.applyAll_append, Update.applyAll_singleton, entries_congr h,
        Update.applyAll_drops_put_eq_iff fun e he _ => hrest e he]
      simp only [hl, true_and, not_or, not_not, not_exists, not_and]
      exact and_comm
    · -- it is added
      obtain ⟨honly, hothers⟩ := holdsOnly_added hn h hgt
      rw [hnone, if_neg Bool.false_ne_true, Update.applyAll_append, Update.applyAll_singleton,
        Update.applyAll_drops_put_eq_iff fun e he hne => (hrest e he).trans (hothers e hne).symm]
      simp only [hn, honly, and_true, false_and, false_or, not_exists, not_and, not_not]
      refine forall₃_congr fun a _ hax => forall_congr' fun w => not_congr (hothers (a, w) hax)

/-- **A delete command**: the copy follows exactly if the id is not listed again
behind the device that goes. -/
theorem deletion_eq_iff (a : UInt32) (st : Storage) :
    Update.applyAll [.drop a] (entries st) = entries (aqDeviceDelete a st).2 ↔
      ∀ d ∈ st.deviceList.eraseP (fun d => d.deviceId = a), d.deviceId = a → d.type = deviceTypeGateway := by
  have hrest : ∀ e : UInt32 × UInt8, e.1 ∉ [a] → (e ∈ entries st ↔ e ∈ entries (aqDeviceDelete a st).2) := by
    intro e he
    rw [mem_entries, mem_entries, roster_delete, List.mem_eraseP_of_neg (by simpa using he)]
  have hiff := Update.applyAll_drops_eq_iff hrest
  rw [List.forall_mem_singleton, holdsNone_iff, aqDeviceDelete_deviceList] at hiff
  exact hiff

end

/-! The frame. -/

/-- A frame that the copy cannot follow. -/
inductive RxFrame.MisleadsCopy (rx : RxFrame) (gateway : UInt32) (u : MainUnit) : Prop
  | adds (h : rx.AddDevice u) (hm : rx.Misstates u.storage)
  -- the id is listed again behind the device that goes
  | deletes (h : rx.DeletedBy gateway u) {d : Device}
      (hd : d ∈ u.storage.deviceList.eraseP fun d => d.deviceId = rx.word) (hid : d.deviceId = rx.word)
      (hnode : d.type ≠ deviceTypeGateway)

instance {rx : RxFrame} {gateway : UInt32} {u : MainUnit} : Decidable (rx.DeletedBy gateway u) :=
  decidable_of_iff (rx.deviceType = deviceTypeGateway ∧ rx.sourceAddr = gateway ∧ rx.destAddr = getLocalAddress u ∧
    rx.rxData 0 = deviceSyncCmd ∧ rx.rxData 2 = 1)
    ⟨fun ⟨h₁, h₂, h₃, h₄, h₅⟩ => ⟨h₁, h₂, h₃, h₄, h₅⟩, fun ⟨h₁, h₂, h₃, h₄, h₅⟩ => ⟨h₁, h₂, h₃, h₄, h₅⟩⟩

/-- The delete command that `gateway` gives with the event. -/
def Event.deletion (gateway : UInt32) (u : MainUnit) : Event → List (Update UInt32 UInt8)
  | .radio rssi _ data len =>
    let rx := rxFrameOf u.env.stackSnr rssi data len
    if rx.DeletedBy gateway u then [.drop rx.word] else []
  | _ => []

/-- What the event changes in the copy: the gateway's own command, then the
messages of the unit. -/
def copyUpdates (gateway : UInt32) (s : State) (i : Env × Event) (s' : State) : List (Update UInt32 UInt8) :=
  i.2.deletion gateway (s.unit.begin i.1) ++ syncs gateway s'.unit.tx

/-- The unit with the copy `gateway` keeps beside it. -/
def withCopy (cfg : Config) (gateway : UInt32) : Machine (State × Finset (UInt32 × UInt8)) (Env × Event) where
  start p := (system cfg).start p.1 ∧ p.2 = entries p.1.unit.storage
  next p i := ((system cfg).next p.1 i).map fun s' => (s', Update.applyAll (copyUpdates gateway p.1 i s') p.2)

/-- The copy is that of the registry. -/
def CopyAgrees (p : State × Finset (UInt32 × UInt8)) : Prop := p.2 = entries p.1.unit.storage

instance : DecidablePred CopyAgrees := fun p => inferInstanceAs (Decidable (p.2 = entries p.1.unit.storage))

/-- A learn frame, of a door unit or any other device, or a delete command of the
gateway, which is registered before and after it. -/
structure SyncEvent (gateway : UInt32) (p : State × Finset (UInt32 × UInt8)) (i : Env × Event)
    (p' : State × Finset (UInt32 × UInt8)) : Prop where
  frame : ∃ rx, i.2.Frame (p.1.unit.begin i.1) rx ∧
    (rx.rxData 0 = learnDeviceCmd ∨ rx.DeletedBy gateway (p.1.unit.begin i.1))
  before : HasGateway gateway p.1.unit.storage
  after : HasGateway gateway p'.1.unit.storage

/-- The event is no frame that the copy cannot follow. -/
def KeepsCopy (gateway : UInt32) (p : State × Finset (UInt32 × UInt8)) (i : Env × Event) : Prop :=
  ∀ rx, i.2.Frame (p.1.unit.begin i.1) rx → ¬ rx.MisleadsCopy gateway (p.1.unit.begin i.1)

section
variable {cfg : Config} {gateway : UInt32} {p p' : State × Finset (UInt32 × UInt8)} {i : Env × Event}

theorem withCopy_next (hn : (withCopy cfg gateway).next p i = some p') :
    i.2.handle (p.1.onUnit (MainUnit.begin i.1)) = p'.1 ∧ p'.2 = Update.applyAll (copyUpdates gateway p.1 i p'.1) p.2 := by
  obtain ⟨s', hs', hp'⟩ := Option.map_eq_some_iff.1 hn
  cases hp'
  exact ⟨(system_next_eq_some.1 hs').2, rfl⟩

theorem Event.Frame.deletion {e : Event} {u : MainUnit} {rx : RxFrame} (hf : e.Frame u rx) :
    e.deletion gateway u = if rx.DeletedBy gateway u then [.drop rx.word] else [] := by
  obtain ⟨rssi, snr, data, len, rfl, _, rfl⟩ := hf
  rfl

theorem roster_addDevice {s : State} {rx : RxFrame} (ha : rx.AddDevice s.unit) :
    roster (radioFrameDispatch rx s).unit.storage =
      roster (learnStorage s.unit.env.mallocDevice rx.addLevel rx.deviceType rx.sourceAddr s.unit.storage).2 := by
  rw [(addDevice_enrols ha).storage, RxFrame.enrolled]
  split
  · exact roster_inPlaces (fun op hop => (marks_of rx op hop).inPlace) _
  · rfl

theorem copyUpdates_of_command {s s' : State} {rx : RxFrame} (hf : i.2.Frame (s.unit.begin i.1) rx)
    (hc : rx.rxData 0 = learnDeviceCmd) : copyUpdates gateway s i s' = syncs gateway s'.unit.tx := by
  rw [copyUpdates, hf.deletion, if_neg fun hd => absurd (hc.symm.trans hd.command) (by decide), List.nil_append]

theorem not_misleads_of_not_adds {rx : RxFrame} {u : MainUnit} (hc : rx.rxData 0 = learnDeviceCmd) (hno : ¬ rx.AddDevice u) :
    ¬ rx.MisleadsCopy gateway u := by
  intro hm
  cases hm with
  | adds ha => exact hno ha
  | deletes hd => exact absurd (hc.symm.trans hd.command) (by decide)

/-- **One event.** -/
theorem copyAgrees_iff (hp : CopyAgrees p) (h : SyncEvent gateway p i p')
    (hn : (withCopy cfg gateway).next p i = some p') : CopyAgrees p' ↔ KeepsCopy gateway p i := by
  obtain ⟨hhandle, hcopy⟩ := withCopy_next hn
  obtain ⟨rx, hf, hkind⟩ := h.frame
  have hp : p.2 = entries (p.1.unit.begin i.1).storage := hp
  have hkeeps : KeepsCopy gateway p i ↔ ¬ rx.MisleadsCopy gateway (p.1.unit.begin i.1) :=
    ⟨fun hk => hk rx hf, fun hno rx' hf' => hf'.unique hf ▸ hno⟩
  have hafter := h.after
  obtain ⟨s, hs⟩ : ∃ s, s = p.1.onUnit (MainUnit.begin i.1) := ⟨_, rfl⟩
  have hunit : p.1.unit.begin i.1 = s.unit := by rw [hs, State.onUnit_unit]
  have hbefore : HasGateway gateway s.unit.storage := by
    rw [← hunit]
    exact h.before.congr rfl
  have htx : s.unit.tx = [] := by
    rw [← hunit]
    rfl
  rw [hunit] at hf hkind hkeeps hp
  rw [← hs, hf.handle] at hhandle
  rw [hkeeps, CopyAgrees, hcopy, hp]
  rcases hkind with hc | hd
  · rw [copyUpdates_of_command (hunit ▸ hf) hc, ← hhandle]
    rw [← hhandle] at hafter
    by_cases ha : rx.AddDevice s.unit
    · have hg := hafter.congr (roster_addDevice ha).symm
      obtain ⟨hlisted, hsaid⟩ := addDevice_learns ha hbefore hg
      rw [hsaid, htx, entries_congr hlisted]
      refine (told_eq_iff rx _ _).trans (not_congr ⟨.adds ha, fun hm => ?_⟩)
      cases hm with
      | adds _ hm => exact hm
      | deletes hd => exact absurd (hc.symm.trans hd.command) (by decide)
    · obtain ⟨hlisted, hsaid⟩ : KeepsSync gateway s.unit _ := learnFrame_quiet hc ha
      rw [hsaid, htx, entries_congr hlisted]
      exact iff_of_true rfl (not_misleads_of_not_adds hc ha)
  · obtain ⟨hlisted, hsaid⟩ := deletedBy_deletes hbefore hd
    have hupdates : copyUpdates gateway p.1 i p'.1 = [.drop rx.word] := by
      rw [copyUpdates, hunit, hf.deletion, if_pos hd, ← hhandle, hsaid, htx]
      rfl
    rw [hupdates, ← hhandle, entries_congr hlisted, deletion_eq_iff]
    refine ⟨fun hnone hm => ?_, fun hno d hmem hid => not_not.1 fun hnode => hno (.deletes hd hmem hid hnode)⟩
    cases hm with
    | adds ha => exact absurd (ha.command.symm.trans hd.command) (by decide)
    | deletes _ hmem hid hnode => exact hnode (hnone _ hmem hid)

end

/-- **The gateway's copy follows the registry** in a run of learn frames and
delete commands exactly if none of them misleads it. -/
theorem gateway_copy_iff (cfg : Config) (gateway : UInt32) (s : State) (is : List (Env × Event))
    (h : (withCopy cfg gateway).Steps (SyncEvent gateway) (s, entries s.unit.storage) is) :
    (withCopy cfg gateway).Always CopyAgrees (s, entries s.unit.storage) is ↔
      (withCopy cfg gateway).Steps (fun p i _ => KeepsCopy gateway p i) (s, entries s.unit.storage) is :=
  Machine.always_iff_steps_of_kind rfl h fun _ _ _ hp hk hn => copyAgrees_iff hp hk hn

/-- The sample unit with the gateway 100. -/
def sampleGateway : State :=
  (sampleFrame deviceTypeGateway 100 [learnDeviceCmd, 1, 1]).handle (sampleStart.onUnit (MainUnit.begin sampleEnv))

/-- A request of device 7 to be added, under a type. -/
def sampleRequestOf (type : UInt8) : Env × Event := (sampleEnv, sampleFrame type 7 [learnDeviceCmd, 1, 1])

/-- The unit and the copy after it. -/
def afterRequest (type : UInt8) (p : State × Finset (UInt32 × UInt8)) : State × Finset (UInt32 × UInt8) :=
  let s := (sampleRequestOf type).2.handle (p.1.onUnit (MainUnit.begin sampleEnv))
  (s, Update.applyAll (copyUpdates 100 p.1 (sampleRequestOf type) s) p.2)

theorem withCopy_afterRequest {type : UInt8} {p : State × Finset (UInt32 × UInt8)}
    (h : (sampleRequestOf type).2.enabled p.1 = true) :
    (withCopy sampleConfig 100).next p (sampleRequestOf type) = some (afterRequest type p) :=
  Option.map_eq_some_iff.2 ⟨_, system_next_eq_some.2 ⟨h, rfl⟩, rfl⟩

theorem sampleRequestOf_syncEvent {type : UInt8} {p : State × Finset (UInt32 × UInt8)}
    (hacc : radioAccepted p.1.unit.cfg (fun i => (sampleBytes type 7 [learnDeviceCmd, 1, 1]).getD i 0)
      (sampleBytes type 7 [learnDeviceCmd, 1, 1]).length)
    (hc : (sampleBytes type 7 [learnDeviceCmd, 1, 1]).getD 11 0 = learnDeviceCmd)
    (hbefore : HasGateway 100 p.1.unit.storage) (hafter : HasGateway 100 (afterRequest type p).1.unit.storage) :
    SyncEvent 100 p (sampleRequestOf type) (afterRequest type p) :=
  ⟨⟨_, ⟨_, _, _, _, rfl, hacc, rfl⟩, Or.inl hc⟩, hbefore, hafter⟩

/-- The sample unit with its copy. -/
def sampleBefore : State × Finset (UInt32 × UInt8) := (sampleGateway, entries sampleGateway.unit.storage)

theorem HasGateway.of_roster {st : Storage} {gateway : UInt32} {l : List (UInt32 × UInt8)}
    (h : roster st = (gateway, deviceTypeGateway) :: l) (hne : gateway ≠ 0) (hl : ∀ e ∈ l, e.2 ≠ deviceTypeGateway) :
    HasGateway gateway st := by
  refine ⟨hne, by rw [h]; exact List.mem_cons_self, fun e he ht => ?_⟩
  rw [h] at he
  rcases List.mem_cons.1 he with rfl | he
  · rfl
  · exact absurd ht (hl e he)

/-- Motion sensor 7 is added, and then asks to be added as an end unit. -/
theorem sampleBefore_syncEvents :
    (withCopy sampleConfig 100).Steps (SyncEvent 100) sampleBefore
      [sampleRequestOf deviceTypeMotionSensor, sampleRequestOf deviceTypeEndunit] := by
  have hr₀ : roster sampleBefore.1.unit.storage = [(100, deviceTypeGateway)] := by decide +kernel
  have hr₁ : roster (afterRequest deviceTypeMotionSensor sampleBefore).1.unit.storage =
      [(100, deviceTypeGateway), (7, deviceTypeMotionSensor)] := by decide +kernel
  have hr₂ : roster (afterRequest deviceTypeEndunit (afterRequest deviceTypeMotionSensor sampleBefore)).1.unit.storage =
      [(100, deviceTypeGateway), (7, deviceTypeMotionSensor)] := by decide +kernel
  have hmotion : ∀ e ∈ [((7 : UInt32), deviceTypeMotionSensor)], e.2 ≠ deviceTypeGateway :=
    List.forall_mem_singleton.2 (by decide)
  have h₀ := HasGateway.of_roster hr₀ (by decide) (List.forall_mem_nil _)
  have h₁ := HasGateway.of_roster hr₁ (by decide) hmotion
  have h₂ := HasGateway.of_roster hr₂ (by decide) hmotion
  have hn₁ := @withCopy_afterRequest deviceTypeMotionSensor sampleBefore (by decide +kernel)
  have hn₂ := @withCopy_afterRequest deviceTypeEndunit (afterRequest deviceTypeMotionSensor sampleBefore)
    (by decide +kernel)
  have hq₁ := @sampleRequestOf_syncEvent deviceTypeMotionSensor sampleBefore (by decide +kernel) (by decide +kernel) h₀ h₁
  have hq₂ := @sampleRequestOf_syncEvent deviceTypeEndunit (afterRequest deviceTypeMotionSensor sampleBefore)
    (by decide +kernel) (by decide +kernel) h₁ h₂
  exact Machine.steps_cons hn₁ hq₁ (Machine.steps_cons hn₂ hq₂ Machine.steps_nil)

theorem gateway_copy_sample :
    (withCopy sampleConfig 100).Always CopyAgrees sampleBefore
        [sampleRequestOf deviceTypeMotionSensor, sampleRequestOf deviceTypeEndunit] ↔
      (withCopy sampleConfig 100).Steps (fun p i _ => KeepsCopy 100 p i)
        sampleBefore
        [sampleRequestOf deviceTypeMotionSensor, sampleRequestOf deviceTypeEndunit] :=
  gateway_copy_iff _ _ _ _ sampleBefore_syncEvents

/-- The registry keeps the motion sensor, and the gateway is told of an end unit. -/
theorem gateway_copy_fails :
    ¬ ∀ (cfg : Config) (gateway : UInt32) (s : State), (system cfg).Reachable s → ∀ is : List (Env × Event),
      (withCopy cfg gateway).Steps (SyncEvent gateway) (s, entries s.unit.storage) is →
        (withCopy cfg gateway).Always CopyAgrees (s, entries s.unit.storage) is := by
  intro h
  have hreach : (system sampleConfig).Reachable sampleGateway :=
    (Machine.reachable_start ⟨_, _, _, rfl⟩ : (system sampleConfig).Reachable sampleStart).step
      (i := (sampleEnv, sampleFrame deviceTypeGateway 100 [learnDeviceCmd, 1, 1]))
      (system_next_eq_some.2 ⟨by decide +kernel, rfl⟩)
  refine Machine.not_always_of_run (M := withCopy sampleConfig 100) (sampleGateway, entries sampleGateway.unit.storage)
    [sampleRequestOf deviceTypeMotionSensor, sampleRequestOf deviceTypeEndunit] ?_
    (h _ _ _ hreach _ sampleBefore_syncEvents)
  decide +kernel

/-! Where no id is listed twice. -/

/-- A request to add from a device that is listed under another type. -/
structure RxFrame.Retypes (rx : RxFrame) (u : MainUnit) : Prop where
  request : rx.AddDevice u
  node : rx.deviceType ≠ deviceTypeGateway
  other : ∃ d ∈ u.storage.deviceList, d.deviceId = rx.sourceAddr ∧ d.type ≠ rx.deviceType

section
variable {rx : RxFrame} {st st' : Storage}

theorem Ids.unique (h : Ids st) {e e' : UInt32 × UInt8} (he : e ∈ roster st) (he' : e' ∈ roster st) (hid : e.1 = e'.1) :
    e = e' := by
  obtain ⟨d, hd, hdid, hdt⟩ := mem_roster.1 he
  obtain ⟨d', hd', hdid', hdt'⟩ := mem_roster.1 he'
  obtain rfl : d = d' := List.inj_on_of_nodup_map h hd hd' (by rw [hdid, hdid', hid])
  exact Prod.ext hid (hdt.symm.trans hdt')

theorem Ids.congr (h : Ids st) (hr : roster st' = roster st) : Ids st' := by
  have hids : ∀ st : Storage, st.deviceList.map Device.deviceId = (roster st).map Prod.fst := by
    intro st
    rw [roster, List.map_map]
    rfl
  unfold Ids
  rw [hids, hr, ← hids]
  exact h

/-- Replacing takes the devices of the type, and no others. -/
theorem Ids.mem_deleteByType (h : Ids st) {type : UInt8} {e : UInt32 × UInt8} :
    e ∈ roster (deleteByType type st) ↔ e ∈ roster st ∧ e.2 ≠ type := by
  constructor
  · intro he
    obtain ⟨d, hd, _, hdt⟩ := mem_roster.1 he
    exact ⟨((deleteByType_sublist type st).map _).subset he, hdt ▸ h.no_type_deleteByType type d hd⟩
  · rintro ⟨he, ht⟩
    refine (mem_roster_foldDelete fun hmem => ?_).2 he
    obtain ⟨d, hd, hid⟩ := List.mem_map.1 hmem
    obtain ⟨hd, hdt⟩ := List.mem_filter.1 hd
    have hd : (d.deviceId, d.type) ∈ roster st := mem_roster.2 ⟨d, hd, rfl, rfl⟩
    exact ht ((congrArg Prod.snd (h.unique he hd hid.symm)).trans (of_decide_eq_true hdt))

theorem Ids.mem_replaceByType (h : Ids st) (hgt : rx.deviceType ≠ deviceTypeGateway) {e : UInt32 × UInt8} :
    e ∈ roster (replaceByType rx.deviceType st) ↔
      e ∈ roster st ∧ (rx.deviceType = deviceTypeDoorunit → e.2 ≠ rx.deviceType) := by
  rw [replaceByType]
  by_cases hdt : rx.deviceType = deviceTypeDoorunit
  · rw [if_pos (Or.inr hdt), h.mem_deleteByType]
    exact and_congr_right fun _ => ⟨fun ht _ => ht, fun ht => ht hdt⟩
  · rw [if_neg (not_or.2 ⟨hgt, hdt⟩)]
    exact (and_iff_left fun hc => absurd hc hdt).symm

theorem misstates_iff_of_ids (h : Ids st) :
    rx.Misstates st ↔ rx.deviceType ≠ deviceTypeGateway ∧
      ∃ d ∈ st.deviceList, d.deviceId = rx.sourceAddr ∧ d.type ≠ rx.deviceType := by
  by_cases hgt : rx.deviceType = deviceTypeGateway
  · rw [misstates_gateway_iff hgt]
    refine iff_of_false (not_not.2 ?_) fun hc => hc.1 hgt
    ext e
    rw [mem_entries, mem_entries, replaceByType, if_pos (Or.inl hgt), hgt, h.mem_deleteByType]
    exact and_congr_left fun hne => and_iff_left hne
  · rw [misstates_node_iff hgt]
    constructor
    · rintro (⟨⟨d, hd, hid⟩, honly⟩ | ⟨a, ha, _, hnone⟩)
      · have hin : (rx.sourceAddr, d.type) ∈ roster (replaceByType rx.deviceType st) := mem_roster.2 ⟨d, hd, hid, rfl⟩
        refine ⟨hgt, d, (replaceByType_sublist _ st).subset hd, hid, fun ht => honly fun w => ?_⟩
        rw [mem_entries]
        constructor
        · rintro ⟨hw, _⟩
          have hw := h.unique ((h.mem_replaceByType hgt).1 hw).1 ((h.mem_replaceByType hgt).1 hin).1 rfl
          exact (congrArg Prod.snd hw).trans ht
        · rintro rfl
          exact ⟨ht ▸ hin, hgt⟩
      · -- a door unit's id has no second device
        refine absurd (fun w hw => ?_) hnone
        obtain ⟨hw, hnot⟩ := (h.mem_replaceByType hgt).1 (mem_entries.1 hw).1
        unfold RxFrame.replacedIds at ha
        split at ha
        · rename_i hdt
          obtain ⟨d, hd, hid⟩ := List.mem_map.1 ha
          obtain ⟨hd, ht⟩ := List.mem_filter.1 hd
          have hin : (a, d.type) ∈ roster st := mem_roster.2 ⟨d, hd, hid, rfl⟩
          have hw := congrArg Prod.snd (h.unique hw hin rfl)
          exact hnot hdt (hw.trans ((of_decide_eq_true ht).trans hdt.symm))
        · cases ha
    · rintro ⟨_, d, hd, hid, ht⟩
      have hin : (rx.sourceAddr, d.type) ∈ roster st := mem_roster.2 ⟨d, hd, hid, rfl⟩
      have hstays := (h.mem_replaceByType hgt).2 ⟨hin, fun _ => ht⟩
      obtain ⟨d', hd', hid', _⟩ := mem_roster.1 hstays
      refine Or.inl ⟨⟨d', hd', hid'⟩, fun honly => ht ?_⟩
      have hthis := (mem_entries.1 ((honly rx.deviceType).2 rfl)).1
      exact congrArg Prod.snd (h.unique hin ((h.mem_replaceByType hgt).1 hthis).1 rfl)

theorem misleads_iff_of_ids {gateway : UInt32} {u : MainUnit} (h : Ids u.storage) :
    rx.MisleadsCopy gateway u ↔ rx.Retypes u := by
  constructor
  · intro hm
    cases hm with
    | adds ha hm =>
      obtain ⟨hgt, hother⟩ := (misstates_iff_of_ids h).1 hm
      exact ⟨ha, hgt, hother⟩
    | @deletes hd d hmem hid hnode =>
      rw [← aqDeviceDelete_deviceList] at hmem
      exact absurd ⟨d, hmem, hid⟩ (h.not_listed_delete rx.word)
  · exact fun hr => .adds hr.request ((misstates_iff_of_ids h).2 ⟨hr.node, hr.other⟩)

end

section
variable {cfg : Config} {gateway : UInt32} {p p' : State × Finset (UInt32 × UInt8)} {i : Env × Event}

/-- The events of such a run list no id twice. -/
theorem SyncEvent.ids (h : SyncEvent gateway p i p') (hids : Ids p.1.unit.storage)
    (hn : (withCopy cfg gateway).next p i = some p') : Ids p'.1.unit.storage := by
  obtain ⟨hhandle, _⟩ := withCopy_next hn
  obtain ⟨rx, hf, hkind⟩ := h.frame
  have hbegin : Ids (p.1.unit.begin i.1).storage := hids
  obtain ⟨s, hs⟩ : ∃ s, s = p.1.onUnit (MainUnit.begin i.1) := ⟨_, rfl⟩
  have hunit : p.1.unit.begin i.1 = s.unit := by rw [hs, State.onUnit_unit]
  have hbefore : HasGateway gateway s.unit.storage := by
    rw [← hunit]
    exact h.before.congr rfl
  rw [hunit] at hf hkind hbegin
  rw [← hs, hf.handle] at hhandle
  rw [← hhandle]
  rcases hkind with hc | hd
  · by_cases ha : rx.AddDevice s.unit
    · refine Ids.congr ?_ (roster_addDevice ha)
      exact (hbegin.sublist (replaceByType_sublist rx.deviceType s.unit.storage)).create ..
    · have hquiet : KeepsSync gateway s.unit _ := learnFrame_quiet hc ha
      exact hbegin.congr hquiet.listed
  · exact (hbegin.sublist (aqDeviceDelete_sublist _ _)).congr (deletedBy_deletes hbefore hd).1

/-- **From a registry without an id listed twice** the copy follows exactly if no
request to add comes from a device listed under another type. -/
theorem gateway_copy_iff_of_ids (cfg : Config) (gateway : UInt32) (s : State) (hids : Ids s.unit.storage)
    (is : List (Env × Event)) (h : (withCopy cfg gateway).Steps (SyncEvent gateway) (s, entries s.unit.storage) is) :
    (withCopy cfg gateway).Always CopyAgrees (s, entries s.unit.storage) is ↔
      (withCopy cfg gateway).Steps
        (fun p i _ => ∀ rx, i.2.Frame (p.1.unit.begin i.1) rx → ¬ rx.Retypes (p.1.unit.begin i.1))
        (s, entries s.unit.storage) is := by
  have hall : (withCopy cfg gateway).Always (fun p => Ids p.1.unit.storage) (s, entries s.unit.storage) is :=
    @Machine.always_of_steps _ _ (withCopy cfg gateway) (fun p => Ids p.1.unit.storage) (SyncEvent gateway) _ hids
      (fun _ _ _ hp hk hn => hk.ids hp hn) _ h
  have hcopy := @Machine.always_iff_steps_of_kind _ _ (withCopy cfg gateway) CopyAgrees (SyncEvent gateway)
    (KeepsCopy gateway) (s, entries s.unit.storage) is rfl h fun _ _ _ hp hk hn => copyAgrees_iff hp hk hn
  rw [hcopy]
  have hiff : ∀ pre i p, pre ++ [i] <+: is → (withCopy cfg gateway).run (s, entries s.unit.storage) pre = some p →
      ∀ rx : RxFrame, (¬ rx.MisleadsCopy gateway (p.1.unit.begin i.1) ↔ ¬ rx.Retypes (p.1.unit.begin i.1)) := by
    intro pre i p hpre hr rx
    exact not_congr (misleads_iff_of_ids (hall pre p ((List.prefix_append _ _).trans hpre) hr))
  exact ⟨fun hk pre i p p' hpre hr hn rx hf => (hiff pre i p hpre hr rx).1 (hk pre i p p' hpre hr hn rx hf),
    fun hk pre i p p' hpre hr hn rx hf => (hiff pre i p hpre hr rx).2 (hk pre i p p' hpre hr hn rx hf)⟩

end

end Aqualarm
