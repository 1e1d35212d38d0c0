import Aqualarm.Registry
import Aqualarm.RadioUnits
import Aqualarm.Lib.LinkedStore

/-
  `aq_gateway_delete` and `aq_doorunit_delete` on the nodes they work on: a store
  by address, from which `rt_free` takes the address.

  What is proved:
    1. `bulk_removal_iff` — the loops come through without looking up a freed
       node exactly where there is nothing to remove: the cursor's own node is
       the one `aq_device_delete` frees, and the loop goes on from it.
    2. `bulkDelete_refines` — where a freed node can still be read, as long as
       nothing else is allocated over it, they do what `deleteByType` does.
-/

namespace Aqualarm

open Lib (LinkedStore Fault)

/-- The list as nodes, and the variables beside it. -/
structure NodeHeap where
  list : LinkedStore Device
  vars : Storage

section
variable (rtFree : Nat → LinkedStore Device → LinkedStore Device) (fuel : Nat)

/-- `aq_device_delete`: the node is unlinked in a second pass over the list, and
freed. -/
def aqDeviceDeleteNode (deviceId : UInt32) (h : NodeHeap) : Except Fault (RtErr × NodeHeap) := do
  match ← h.list.findFrom (fun d => d.deviceId = deviceId) fuel h.list.first with
  | none => .ok (.rtError, h)
  | some node => do
    let device ← h.list.read node
    let vars := deleteSelectDeviceSlot device.val.slot h.vars
    let vars := flashSetKey .slot vars.totalSlot vars
    let list ← h.list.removeFrom node fuel none
    .ok (.rtEok, { list := rtFree node list, vars })

/-- The body of the loop of `aq_gateway_delete` and, where the gateway is told,
`aq_doorunit_delete`. Besides the heap it leaves the ids passed to
`gateway_sync_device_del`. -/
def bulkDeleteAt (type : UInt8) (tells : Bool) (node : Nat) (p : NodeHeap × List UInt32) :
    Except Fault (NodeHeap × List UInt32) := do
  let device ← p.1.list.read node
  if device.val.type = type then do
    let r ← aqDeviceDeleteNode rtFree fuel device.val.deviceId p.1
    if tells then do
      let device ← r.2.list.read node
      .ok (r.2, p.2 ++ [device.val.deviceId])
    else .ok (r.2, p.2)
  else .ok p

/-- The loop, from a cursor on: `node = node->next`. -/
def bulkDeleteFrom (type : UInt8) (tells : Bool) :
    Nat → Option Nat → NodeHeap × List UInt32 → Except Fault (NodeHeap × List UInt32)
  | _, none, p => .ok p
  | 0, some _, _ => .error .fuel
  | n + 1, some node, p => do
    let p ← bulkDeleteAt rtFree fuel type tells node p
    let device ← p.1.list.read node
    bulkDeleteFrom type tells n device.next p

def bulkDelete (type : UInt8) (tells : Bool) (h : NodeHeap) : Except Fault (NodeHeap × List UInt32) :=
  bulkDeleteFrom rtFree fuel type tells fuel h.list.first (h, [])

def aqGatewayDeleteNodes : NodeHeap → Except Fault (NodeHeap × List UInt32) :=
  bulkDelete rtFree fuel deviceTypeGateway false

def aqDoorunitDeleteNodes : NodeHeap → Except Fault (NodeHeap × List UInt32) :=
  bulkDelete rtFree fuel deviceTypeDoorunit true

end

/-- The removal ends without a fault, with the nodes of the other types in their
order, and with one message for each node removed. -/
def RemovesCleanly (type : UInt8) (tells : Bool) (r : Except Fault (NodeHeap × List UInt32))
    (l : List (Nat × Device)) : Prop :=
  ∃ h told, r = .ok (h, told) ∧ h.list.Lists (l.filter fun x => x.2.type ≠ type) ∧
    told = if tells then (l.filter fun x => x.2.type = type).map fun x => x.2.deviceId else []

/-! One deletion. -/

section
variable {rtFree : Nat → LinkedStore Device → LinkedStore Device} {fuel : Nat} {h : NodeHeap} {l l' : List (Nat × Device)}
  {x : Nat × Device} {deviceId : UInt32}

/-- The first node of the id is unlinked and freed. -/
theorem aqDeviceDeleteNode_eq (hl : h.list.Lists (l ++ x :: l')) (hx : x.2.deviceId = deviceId)
    (hfirst : ∀ y ∈ l, y.2.deviceId ≠ deviceId) (hf : (l ++ x :: l').length < fuel) :
    ∃ list, aqDeviceDeleteNode rtFree fuel deviceId h =
        .ok (.rtEok,
          { list := rtFree x.1 list
            vars := flashSetKey .slot (h.vars.totalSlot &&& ~~~(Lib.bit 32 x.2.slot))
              (deleteSelectDeviceSlot x.2.slot h.vars) }) ∧
      list.Lists (l ++ l') ∧ ∀ b, b ∉ l.map Prod.fst → list.node b = h.list.node b := by
  have hfind : (l ++ x :: l').find? (fun y => decide (y.2.deviceId = deviceId)) = some x := by
    rw [List.find?_append, List.find?_eq_none.2 (by simpa using hfirst), Option.none_or, List.find?_cons_of_pos]
    exact decide_eq_true hx
  have hlen : l.length < fuel := by
    rw [List.length_append, List.length_cons] at hf
    omega
  obtain ⟨list, hremove, hlists, hnode⟩ := LinkedStore.remove_spec hl hlen
  refine ⟨list, ?_, hlists, hnode⟩
  unfold aqDeviceDeleteNode
  rw [LinkedStore.findFrom_eq hl.seg (Nat.le_of_lt hf), hfind]
  simp only [Option.map_some, bind, Except.bind, LinkedStore.read_eq hl.node, hremove]
  rfl

/-- The first node of a kind that is listed. -/
theorem exists_first {p : Device → Prop} [DecidablePred p] (hx : x ∈ l) (hp : p x.2) :
    ∃ y l₁ l₂, l = l₁ ++ y :: l₂ ∧ p y.2 ∧ ∀ z ∈ l₁, ¬ p z.2 := by
  have hsome : (l.find? fun y => decide (p y.2)).isSome = true := List.find?_isSome.2 ⟨x, hx, decide_eq_true hp⟩
  obtain ⟨y, hy⟩ := Option.isSome_iff_exists.1 hsome
  obtain ⟨hpy, l₁, l₂, hl, hfirst⟩ := List.find?_eq_some_iff_append.1 hy
  exact ⟨y, l₁, l₂, hl, of_decide_eq_true hpy, fun z hz => by simpa using hfirst z hz⟩

/-! The loop, node by node. -/

variable {type : UInt8} {tells : Bool} {told : List UInt32}

/-- The start of what is still ahead of the cursor. -/
def cursor (l : List (Nat × Device)) : Option Nat := l.head?.map Prod.fst

theorem lists_first (hl : h.list.Lists l) : h.list.first = cursor l := by
  have hseg := hl.seg
  cases l with
  | nil => exact hseg
  | cons x l => exact hseg.1

/-- A node of another type is passed over. -/
theorem bulkDeleteFrom_skip (hl : h.list.Lists (l ++ x :: l')) (hx : x.2.type ≠ type) (n : Nat) :
    bulkDeleteFrom rtFree fuel type tells (n + 1) (some x.1) (h, told) =
      bulkDeleteFrom rtFree fuel type tells n (cursor l') (h, told) := by
  rw [bulkDeleteFrom, bulkDeleteAt]
  simp only [bind, Except.bind, LinkedStore.read_eq hl.node, if_neg hx]
  rfl

theorem bulkDeleteFrom_skips (hl : h.list.Lists (l ++ l')) (hno : ∀ x ∈ l, x.2.type ≠ type) (n : Nat) :
    bulkDeleteFrom rtFree fuel type tells (l.length + n) (cursor (l ++ l')) (h, told) =
      bulkDeleteFrom rtFree fuel type tells n (cursor l') (h, told) := by
  have hskip : ∀ (l₂ l₁ : List (Nat × Device)), h.list.Lists (l₁ ++ (l₂ ++ l')) → (∀ x ∈ l₂, x.2.type ≠ type) →
      bulkDeleteFrom rtFree fuel type tells (l₂.length + n) (cursor (l₂ ++ l')) (h, told) =
        bulkDeleteFrom rtFree fuel type tells n (cursor l') (h, told) := by
    intro l₂
    induction l₂ with
    | nil =>
      intro _ _ _
      rw [List.length_nil, Nat.zero_add, List.nil_append]
    | cons x l₂ ih =>
      intro l₁ hl hno
      rw [List.length_cons, Nat.add_right_comm]
      refine (bulkDeleteFrom_skip hl (hno x List.mem_cons_self) _).trans (ih (l₁ ++ [x]) ?_ ?_)
      · rwa [List.append_assoc]
      · exact fun y hy => hno y (List.mem_cons_of_mem x hy)
  exact hskip l [] hl hno

end

/-! Freed nodes are gone. -/

section
variable {fuel : Nat} {h : NodeHeap} {type : UInt8} {tells : Bool} {b : Nat}

theorem ok_of_bind {α β : Type} {r : Except Fault α} {f : α → Except Fault β} {b : β} (h : r >>= f = .ok b) :
    ∃ a, r = .ok a ∧ f a = .ok b := by
  cases r with
  | error _ => cases h
  | ok a => exact ⟨a, rfl, h⟩

theorem aqDeviceDeleteNode_none {deviceId : UInt32} {r : RtErr × NodeHeap}
    (hr : aqDeviceDeleteNode LinkedStore.free fuel deviceId h = .ok r) (hb : h.list.node b = none) :
    r.2.list.node b = none := by
  obtain ⟨found, _, hr⟩ := ok_of_bind hr
  cases found with
  | none =>
    cases hr
    exact hb
  | some node =>
    obtain ⟨device, _, hr⟩ := ok_of_bind hr
    obtain ⟨list, hremove, hr⟩ := ok_of_bind hr
    cases hr
    change Function.update list.node node none b = none
    by_cases hbn : b = node
    · rw [hbn, Function.update_self]
    · rw [Function.update_of_ne hbn]
      exact LinkedStore.removeFrom_none hremove hb

theorem bulkDeleteAt_none {node : Nat} {p p' : NodeHeap × List UInt32}
    (hr : bulkDeleteAt LinkedStore.free fuel type tells node p = .ok p') (hb : p.1.list.node b = none) :
    p'.1.list.node b = none := by
  obtain ⟨device, _, hr⟩ := ok_of_bind hr
  split at hr
  · obtain ⟨r, hdelete, hr⟩ := ok_of_bind hr
    have hbr := aqDeviceDeleteNode_none hdelete hb
    split at hr
    · obtain ⟨_, _, hr⟩ := ok_of_bind hr
      cases hr
      exact hbr
    · cases hr
      exact hbr
  · cases hr
    exact hb

/-- What is freed stays freed. -/
theorem bulkDeleteFrom_none {n : Nat} {start : Option Nat} {p p' : NodeHeap × List UInt32}
    (hr : bulkDeleteFrom LinkedStore.free fuel type tells n start p = .ok p') (hb : p.1.list.node b = none) :
    p'.1.list.node b = none := by
  induction n generalizing start p with
  | zero =>
    cases start with
    | none =>
      cases hr
      exact hb
    | some node => cases hr
  | succ n ih =>
    cases start with
    | none =>
      cases hr
      exact hb
    | some node =>
      obtain ⟨p₁, hat, hr⟩ := ok_of_bind hr
      obtain ⟨device, _, hr⟩ := ok_of_bind hr
      exact ih hr (bulkDeleteAt_none hat hb)

/-- The heap the body leaves for a node of the type is that of the deletion. -/
theorem bulkDeleteAt_delete {rtFree : Nat → LinkedStore Device → LinkedStore Device} {x : Nat × Device} {next : Option Nat}
    {p p' : NodeHeap × List UInt32} (hx : p.1.list.node x.1 = some ⟨x.2, next⟩) (htype : x.2.type = type)
    (hr : bulkDeleteAt rtFree fuel type tells x.1 p = .ok p') :
    ∃ r, aqDeviceDeleteNode rtFree fuel x.2.deviceId p.1 = .ok r ∧ p'.1 = r.2 := by
  obtain ⟨device, hread, hr⟩ := ok_of_bind hr
  obtain rfl : ⟨x.2, next⟩ = device := Except.ok.inj ((LinkedStore.read_eq hx).symm.trans hread)
  rw [if_pos htype] at hr
  obtain ⟨r, hdelete, hr⟩ := ok_of_bind hr
  refine ⟨r, hdelete, ?_⟩
  split at hr
  · obtain ⟨_, _, hr⟩ := ok_of_bind hr
    cases hr
    rfl
  · cases hr
    rfl

end

/-! Where the removal goes wrong. -/

section
variable {fuel : Nat} {h : NodeHeap} {type : UInt8} {tells : Bool} {l : List (Nat × Device)}

/-- The first node of the id of `x` is `x`, or stands in front of it. -/
theorem first_of_id {x y : Nat × Device} {pre suf l₁ l₂ : List (Nat × Device)} (hl : pre ++ x :: suf = l₁ ++ y :: l₂)
    (hfirst : ∀ z ∈ l₁, z.2.deviceId ≠ x.2.deviceId) :
    (x = y ∧ pre = l₁ ∧ suf = l₂) ∨ ∃ mid, pre = l₁ ++ y :: mid ∧ l₂ = mid ++ x :: suf := by
  rcases List.append_eq_append_iff.1 hl with ⟨mid, rfl, hmid⟩ | ⟨mid, rfl, hmid⟩
  · cases mid with
    | nil =>
      cases hmid
      exact Or.inl ⟨rfl, (List.append_nil _).symm, rfl⟩
    | cons z mid =>
      cases hmid
      exact absurd rfl (hfirst x (by simp))
  · cases mid with
    | nil =>
      cases hmid
      exact Or.inl ⟨rfl, List.append_nil _, rfl⟩
    | cons z mid =>
      cases hmid
      exact Or.inr ⟨mid, rfl, rfl⟩

theorem bulkDelete_clean (hl : h.list.Lists l) (hf : l.length < fuel) (hno : ∀ x ∈ l, x.2.type ≠ type) :
    RemovesCleanly type tells (bulkDelete LinkedStore.free fuel type tells h) l := by
  have hkept : l.filter (fun x => x.2.type ≠ type) = l := List.filter_eq_self.2 fun x hx => decide_eq_true (hno x hx)
  have hremoved : l.filter (fun x => x.2.type = type) = [] :=
    List.filter_eq_nil_iff.2 fun x hx => by simpa using hno x hx
  obtain ⟨n, rfl⟩ := Nat.exists_eq_add_of_lt hf
  have hpassed : bulkDelete LinkedStore.free (l.length + n + 1) type tells h = .ok (h, []) := by
    rw [← List.append_nil l] at hl
    rw [bulkDelete, lists_first hl, Nat.add_assoc, bulkDeleteFrom_skips hl hno]
    rfl
  refine ⟨h, [], hpassed, hkept.symm ▸ hl, ?_⟩
  rw [hremoved]
  cases tells <;> rfl

theorem bulkDelete_not_clean (hl : h.list.Lists l) (hf : l.length < fuel) {x : Nat × Device} (hx : x ∈ l)
    (htype : x.2.type = type) : ¬ RemovesCleanly type tells (bulkDelete LinkedStore.free fuel type tells h) l := by
  rintro ⟨h', told, hr, hlists, -⟩
  -- the loop reaches the first node of the type
  obtain ⟨x, pre, suf, rfl, htype, hpre⟩ := exists_first (p := fun d => d.type = type) hx htype
  obtain ⟨n, rfl⟩ : ∃ n, fuel = pre.length + (n + 1) := by
    refine ⟨fuel - pre.length - 1, ?_⟩
    rw [List.length_append, List.length_cons] at hf
    omega
  rw [bulkDelete, lists_first hl, bulkDeleteFrom_skips hl hpre] at hr
  obtain ⟨p, hat, hr⟩ := ok_of_bind hr
  obtain ⟨device, hread, hr⟩ := ok_of_bind hr
  obtain ⟨r, hdelete, hp⟩ := bulkDeleteAt_delete hl.node htype hat
  -- `aq_device_delete` frees the first node of its id
  obtain ⟨y, l₁, l₂, hsplit, hid, hfirst⟩ := exists_first (p := fun d => d.deviceId = x.2.deviceId)
    (List.mem_append_right pre List.mem_cons_self) rfl
  obtain ⟨list, hdelete', -⟩ := @aqDeviceDeleteNode_eq LinkedStore.free _ _ _ _ _ _ (hsplit ▸ hl) hid hfirst (hsplit ▸ hf)
  obtain rfl := Except.ok.inj (hdelete'.symm.trans hdelete)
  have hgone : p.1.list.node y.1 = none := by
    rw [hp]
    exact Function.update_self ..
  rcases first_of_id hsplit hfirst with ⟨rfl, -⟩ | ⟨mid, rfl, -⟩
  · -- it is the cursor's own
    rw [LinkedStore.read_eq_none hgone] at hread
    cases hread
  · -- it is one of another type, which was to stay
    have hy : y ∈ (l₁ ++ y :: mid ++ x :: suf).filter fun x => x.2.type ≠ type :=
      List.mem_filter.2 ⟨by simp, decide_eq_true (hpre y (by simp))⟩
    obtain ⟨next, hnode⟩ := hlists.seg.lookup hy
    rw [bulkDeleteFrom_none hr hgone] at hnode
    cases hnode

/-- **Bulk removal reads live nodes only** where there is nothing to remove. -/
theorem bulk_removal_iff (hl : h.list.Lists l) (hf : l.length < fuel) :
    (RemovesCleanly deviceTypeGateway false (aqGatewayDeleteNodes LinkedStore.free fuel h) l ↔
      ∀ x ∈ l, x.2.type ≠ deviceTypeGateway) ∧
    (RemovesCleanly deviceTypeDoorunit true (aqDoorunitDeleteNodes LinkedStore.free fuel h) l ↔
      ∀ x ∈ l, x.2.type ≠ deviceTypeDoorunit) := by
  have hiff : ∀ type tells, RemovesCleanly type tells (bulkDelete LinkedStore.free fuel type tells h) l ↔
      ∀ x ∈ l, x.2.type ≠ type := fun type tells =>
    ⟨fun hclean x hx htype => bulkDelete_not_clean hl hf hx htype hclean, bulkDelete_clean hl hf⟩
  exact ⟨hiff _ _, hiff _ _⟩

/-- End unit 7, gateway 100, door unit 9 and motion sensor 8, at the addresses 0 to 3. -/
def sampleNodes : List (Nat × Device) :=
  [(0, { slot := 0, type := deviceTypeEndunit, deviceId := 7 }),
    (1, { slot := 1, type := deviceTypeGateway, deviceId := 100 }),
    (2, { slot := 2, type := deviceTypeDoorunit, deviceId := 9 }),
    (3, { slot := 3, type := deviceTypeMotionSensor, deviceId := 8 })]

def sampleNodeHeap : NodeHeap where
  list :=
    { first := some 0
      node := fun a => sampleNodes[a]?.map fun x => ⟨x.2, if a < 3 then some (a + 1) else none⟩ }
  vars := { totalSlot := 15, flash := Flash.default, writeOk := fun _ => true }

theorem sampleNodeHeap_lists : sampleNodeHeap.list.Lists sampleNodes :=
  ⟨⟨rfl, _, rfl, rfl, _, rfl, rfl, _, rfl, rfl, _, rfl, rfl⟩, by decide⟩

theorem bulk_removal_sample :
    (RemovesCleanly deviceTypeGateway false (aqGatewayDeleteNodes LinkedStore.free 5 sampleNodeHeap) sampleNodes ↔
      ∀ x ∈ sampleNodes, x.2.type ≠ deviceTypeGateway) ∧
    (RemovesCleanly deviceTypeDoorunit true (aqDoorunitDeleteNodes LinkedStore.free 5 sampleNodeHeap) sampleNodes ↔
      ∀ x ∈ sampleNodes, x.2.type ≠ deviceTypeDoorunit) :=
  bulk_removal_iff sampleNodeHeap_lists (by decide)

/-- Past gateway 100, `node->next` is read from the node just freed. -/
theorem bulk_removal_fails :
    ¬ ∀ (h : NodeHeap) (l : List (Nat × Device)), h.list.Lists l → ∀ fuel, l.length < fuel →
      RemovesCleanly deviceTypeGateway false (aqGatewayDeleteNodes LinkedStore.free fuel h) l ∧
      RemovesCleanly deviceTypeDoorunit true (aqDoorunitDeleteNodes LinkedStore.free fuel h) l := by
  intro hall
  obtain ⟨⟨h', told, hr, -⟩, -⟩ := hall _ _ sampleNodeHeap_lists 5 (by decide)
  have hfault : aqGatewayDeleteNodes LinkedStore.free 5 sampleNodeHeap = .error .dangling := rfl
  rw [hfault] at hr
  cases hr

end

/-! Where a freed node can still be read. -/

section
variable {fuel : Nat} {h : NodeHeap} {type : UInt8} {tells : Bool} {l l' : List (Nat × Device)}

/-- What the list and the variables come to. -/
def NodeHeap.storage (h : NodeHeap) (l : List (Nat × Device)) : Storage :=
  { h.vars with deviceList := l.map Prod.snd }

theorem aqDeviceDeleteNode_refines {x : Nat × Device} {deviceId : UInt32} (hl : h.list.Lists (l ++ x :: l'))
    (hx : x.2.deviceId = deviceId) (hfirst : ∀ y ∈ l, y.2.deviceId ≠ deviceId) (hf : (l ++ x :: l').length < fuel) :
    ∃ h', aqDeviceDeleteNode (fun _ s => s) fuel deviceId h = .ok (.rtEok, h') ∧ h'.list.Lists (l ++ l') ∧
      (∀ b, b ∉ l.map Prod.fst → h'.list.node b = h.list.node b) ∧
      h'.storage (l ++ l') = (aqDeviceDelete deviceId (h.storage (l ++ x :: l'))).2 := by
  obtain ⟨list, hdelete, hlists, hnode⟩ := @aqDeviceDeleteNode_eq (fun _ s => s) _ _ _ _ _ _ hl hx hfirst hf
  refine ⟨_, hdelete, hlists, hnode, ?_⟩
  have hmiss : ∀ d ∈ l.map Prod.snd, ¬ decide (d.deviceId = deviceId) = true := by
    intro d hd
    obtain ⟨y, hy, rfl⟩ := List.mem_map.1 hd
    simpa using hfirst y hy
  have hsplit : (h.storage (l ++ x :: l')).deviceList = l.map Prod.snd ++ x.2 :: l'.map Prod.snd :=
    List.map_append.trans (by rw [List.map_cons])
  have hfind : aqDeviceFind deviceId (h.storage (l ++ x :: l')) = some x.2 := by
    rw [aqDeviceFind, hsplit, List.find?_append, List.find?_eq_none.2 hmiss, Option.none_or, List.find?_cons_of_pos]
    exact decide_eq_true hx
  have herase : (h.storage (l ++ x :: l')).deviceList.eraseP (fun d => decide (d.deviceId = deviceId)) =
      (l ++ l').map Prod.snd := by
    rw [hsplit, List.eraseP_append_right _ hmiss, List.map_append]
    exact congrArg _ (List.eraseP_cons_of_pos (decide_eq_true hx))
  rw [aqDeviceDelete, hfind]
  exact congrArg (fun deviceList => { flashSetKey .slot (h.vars.totalSlot &&& ~~~(Lib.bit 32 x.2.slot))
    (deleteSelectDeviceSlot x.2.slot h.vars) with deviceList }) herase.symm

/-- One removal, after which the cursor's node still leads on. -/
theorem bulkDeleteFrom_remove {rtFree : Nat → LinkedStore Device → LinkedStore Device} {x : Nat × Device} {h₁ : NodeHeap}
    {next : Option Nat} {told : List UInt32} {e : RtErr} (hx : h.list.node x.1 = some ⟨x.2, next⟩) (htype : x.2.type = type)
    (hdelete : aqDeviceDeleteNode rtFree fuel x.2.deviceId h = .ok (e, h₁)) (hx₁ : h₁.list.node x.1 = some ⟨x.2, next⟩)
    (n : Nat) :
    bulkDeleteFrom rtFree fuel type tells (n + 1) (some x.1) (h, told) =
      bulkDeleteFrom rtFree fuel type tells n next (h₁, told ++ if tells then [x.2.deviceId] else []) := by
  rw [bulkDeleteFrom, bulkDeleteAt]
  simp only [bind, Except.bind, LinkedStore.read_eq hx, if_pos htype, hdelete]
  cases tells with
  | true => simp only [if_true, LinkedStore.read_eq hx₁]
  | false => simp only [Bool.false_eq_true, if_false, List.append_nil, LinkedStore.read_eq hx₁]

/-- The loop from a cursor on, with the nodes in front of it as it left them. -/
theorem bulkDeleteFrom_refines {suf pre : List (Nat × Device)} {told : List UInt32} {n : Nat}
    (hl : h.list.Lists (pre ++ suf)) (hn : suf.length ≤ n) (hf : (pre ++ suf).length < fuel) :
    ∃ h' l', bulkDeleteFrom (fun _ s => s) fuel type tells n (cursor suf) (h, told) =
        .ok (h', told ++ if tells then (suf.filter fun x => x.2.type = type).map (fun x => x.2.deviceId) else []) ∧
      h'.list.Lists l' ∧
      h'.storage l' = (suf.filter fun x => x.2.type = type).foldl
        (fun st x => (aqDeviceDelete x.2.deviceId st).2) (h.storage (pre ++ suf)) := by
  induction suf generalizing pre h told n with
  | nil =>
    rw [List.append_nil] at hl ⊢
    refine ⟨h, pre, ?_, hl, rfl⟩
    cases n <;> cases tells <;> simp [bulkDeleteFrom, cursor]
  | cons x suf ih =>
    obtain ⟨n, rfl⟩ := Nat.exists_eq_add_of_lt (Nat.lt_of_lt_of_le (Nat.succ_pos _) hn)
    rw [Nat.zero_add] at hn ⊢
    by_cases htype : x.2.type = type
    · have hfilter : (x :: suf).filter (fun x => decide (x.2.type = type)) =
          x :: suf.filter fun x => decide (x.2.type = type) := List.filter_cons_of_pos (decide_eq_true htype)
      obtain ⟨y, l₁, l₂, hsplit, hid, hfirst⟩ := exists_first (p := fun d => d.deviceId = x.2.deviceId)
        (List.mem_append_right pre List.mem_cons_self) rfl
      obtain ⟨h₁, hdelete, hlists₁, hnode, hst₁⟩ := aqDeviceDeleteNode_refines (hsplit ▸ hl) hid hfirst (hsplit ▸ hf)
      -- in front of the cursor one node may be gone; the cursor's is not written
      obtain ⟨front, hfront, hx₁⟩ : ∃ front, l₁ ++ l₂ = front ++ suf ∧ x.1 ∉ l₁.map Prod.fst := by
        have hdistinct := hl.distinct
        rw [List.map_append, List.nodup_append] at hdistinct
        have hx : x.1 ∉ pre.map Prod.fst := fun hmem => hdistinct.2.2 x.1 hmem x.1 (by simp) rfl
        rcases first_of_id hsplit hfirst with ⟨rfl, rfl, rfl⟩ | ⟨mid, rfl, rfl⟩
        · exact ⟨pre, rfl, hx⟩
        · refine ⟨l₁ ++ mid ++ [x], by simp, fun hmem => hx ?_⟩
          rw [List.map_append]
          exact List.mem_append_left _ hmem
      have hlen : (front ++ suf).length < fuel := by
        rw [← hfront]
        rw [hsplit] at hf
        simp only [List.length_append, List.length_cons] at hf ⊢
        omega
      rw [← hsplit, hfront] at hst₁
      rw [hfront] at hlists₁
      obtain ⟨h', l', hr, hlists, hst⟩ := @ih h₁ front (told ++ if tells then [x.2.deviceId] else []) n hlists₁
        (Nat.le_of_succ_le_succ hn) hlen
      refine ⟨h', l', (bulkDeleteFrom_remove hl.node htype hdelete ((hnode _ hx₁).trans hl.node) n).trans (hr.trans ?_),
        hlists, ?_⟩
      · rw [hfilter]
        cases tells <;> simp
      · rw [hst, hst₁, hfilter, List.foldl_cons]
    · rw [List.filter_cons_of_neg (by simpa using htype)]
      obtain ⟨h', l', hr, hlists, hst⟩ := @ih h (pre ++ [x]) told n (by rwa [List.append_assoc])
        (Nat.le_of_succ_le_succ hn) (by rwa [List.append_assoc])
      refine ⟨h', l', (bulkDeleteFrom_skip hl htype n).trans hr, hlists, ?_⟩
      rwa [List.append_assoc] at hst

/-- **Bulk removal does what `deleteByType` does**, and tells of each removal. -/
theorem bulkDelete_refines (hl : h.list.Lists l) (hf : l.length < fuel) :
    ∃ h' l', bulkDelete (fun _ s => s) fuel type tells h =
        .ok (h', if tells then (l.filter fun x => x.2.type = type).map (fun x => x.2.deviceId) else []) ∧
      h'.list.Lists l' ∧ h'.storage l' = deleteByType type (h.storage l) := by
  obtain ⟨h', l', hr, hlists, hst⟩ :=
    @bulkDeleteFrom_refines _ _ type tells l [] [] fuel hl (Nat.le_of_lt hf) hf
  refine ⟨h', l', ?_, hlists, ?_⟩
  · rw [bulkDelete, lists_first hl, hr, List.nil_append]
  · rw [hst, deleteByType]
    change _ = ((l.map Prod.snd).filter fun d => decide (d.type = type)).foldl _ _
    rw [List.filter_map, List.foldl_map]
    rfl

end

end Aqualarm
