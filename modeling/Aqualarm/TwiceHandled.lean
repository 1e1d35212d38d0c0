import Aqualarm.Retransmission

/-
  The second copy of a frame that neither adds nor deletes a device.

  What is proved:
    1. `dispatch_again` — the second copy follows the same plan as the first.
    2. `dispatch_twice` — so the pair is an instance of `Twice`.
    3. `dispatch_cursor` — the update cursor is where the first copy left it.
-/

namespace Aqualarm

open Lib Relation

/-! The changes of a plan. -/

/-- The changes of a plan settle, and those behind the command leave the causes
of the alarms alone. -/
structure Plan.Settled (a : UInt32) (p : Plan) : Prop where
  of : ∀ op ∈ p.ops ++ p.ops', op.Of a
  settles : Settles (p.ops ++ p.ops')
  causes : ∀ first d, (chained first p.ops' d).waterleak = d.waterleak ∧ (chained first p.ops' d).wirelost = d.wirelost

section
variable (rx : RxFrame) {f : Bool → Bool → Controls → Controls} {check : Bool}

theorem settled_none (a : UInt32) : Plan.Settled a { f, check } :=
  ⟨fun _ h => absurd h List.not_mem_nil, fun _ _ _ h => absurd h List.not_mem_nil, fun _ _ => ⟨rfl, rfl⟩⟩

theorem heardOps_causes (first : Bool) (d : Device) :
    (chained first (heardOps rx) d).waterleak = d.waterleak ∧ (chained first (heardOps rx) d).wirelost = d.wirelost := by
  rw [chained_eq (heardOps_of rx)]
  cases first <;> split <;> exact ⟨rfl, rfl⟩

theorem settled_heard : Plan.Settled rx.sourceAddr { ops := rx.commandOps, ops' := heardOps rx, f, check } :=
  ⟨fun op hop => (List.mem_append.1 hop).elim (commandOps_of rx op) (heardOps_of rx op), commandOps_settles rx,
    heardOps_causes rx⟩

theorem settled_recv (a : UInt32) : Plan.Settled a { ops := [.recvSet a 1], f, check } := by
  refine ⟨?_, settles_of_assigned (a := a) ?_ ?_, fun _ _ => ⟨rfl, rfl⟩⟩
  · simp [RegOp.Of]
  · simp [RegOp.Of]
  · simp [RegOp.assigned, RegOp.assignedAs, RegOp.onlyFirst]

theorem plan_settled (u : MainUnit) : (rx.plan u).Settled rx.sourceAddr :=
  plan_cases (P := Plan.Settled rx.sourceAddr) rx u (settled_none _) (fun _ _ => settled_heard rx)
    (fun _ _ => settled_heard rx) (fun _ _ => settled_heard rx) (fun _ _ => settled_recv rx.sourceAddr)
    fun _ => settled_none _

end

/-! The second copy. -/

section
variable {rx : RxFrame} {e : Event} {s : State}

/-- The unit as the second copy finds it. -/
def State.again (env : Env) (rx : RxFrame) (s : State) : State :=
  (radioFrameDispatch rx s).onUnit (MainUnit.begin env)

theorem again_cfg (hf : e.Frame s.unit rx) (env : Env) : (s.again env rx).unit.cfg = s.unit.cfg := by
  change (radioFrameDispatch rx s).unit.cfg = s.unit.cfg
  rw [← hf.handle]
  exact Event.handle_cfg e s

/-- The second copy is the same frame to the handlers. -/
theorem again_frame (hf : e.Frame s.unit rx) : e.Frame (s.again s.unit.env rx).unit rx := by
  have hcfg := again_cfg hf s.unit.env
  obtain ⟨rssi, snr, data, len, he, hacc, hrx⟩ := hf
  exact ⟨rssi, snr, data, len, he, by rwa [hcfg], hrx⟩

theorem again_addDevice (hf : e.Frame s.unit rx) (env : Env) :
    rx.AddDevice (s.again env rx).unit ↔ rx.AddDevice s.unit := by
  have hcfg := again_cfg hf env
  constructor <;> rintro ⟨hc, hsub, hto, ht⟩ <;> refine ⟨hc, hsub, ?_, ht⟩ <;> simpa [getLocalAddress, hcfg] using hto

/-- What a frame neither adding nor deleting a device leaves of the list. -/
structure Same (u u' : MainUnit) : Prop where
  cfg : u'.cfg = u.cfg
  listed : ∀ a, Listed a u'.storage ↔ Listed a u.storage

theorem Same.fromListed {u u' : MainUnit} (h : Same u u') : rx.FromListed u' ↔ rx.FromListed u := by
  constructor <;> rintro ⟨hl, hto⟩ <;> refine ⟨?_, by simpa [getLocalAddress, h.cfg] using hto⟩
  · exact (h.listed _).1 hl
  · exact (h.listed _).2 hl

theorem Same.plan {u u' : MainUnit} (h : Same u u') : rx.plan u' = rx.plan u := by
  unfold RxFrame.plan getLocalAddress
  rw [h.cfg]
  simp only [h.listed]

theorem Same.otaEnd {u u' : MainUnit} (h : Same u u') (hend : ¬ rx.OtaEnd u) : ¬ rx.OtaEnd u' := by
  rintro ⟨ht, hc, hsub, hto, hreg⟩
  refine hend ⟨ht, hc, hsub, by simpa [getLocalAddress, h.cfg] using hto, ?_⟩
  exact aqDeviceFind_isSome.2 ((h.listed _).1 (aqDeviceFind_isSome.1 hreg))

theorem dispatch_same (hf : e.Frame s.unit rx) (env : Env) (hno : ¬ rx.AddDevice s.unit)
    (hsync : ¬ rx.DeletesDevice s.unit) (hend : ¬ rx.OtaEnd s.unit) : Same s.unit (s.again env rx).unit := by
  refine ⟨again_cfg hf env, fun a => ?_⟩
  change Listed a (radioFrameDispatch rx s).unit.storage ↔ _
  exact (dispatch_plan hno hsync hend).listed (plan_settled rx s.unit).of

theorem dispatch_again (hf : e.Frame s.unit rx) (env : Env) (hno : ¬ rx.AddDevice s.unit)
    (hsync : ¬ rx.DeletesDevice s.unit) (hend : ¬ rx.OtaEnd s.unit) :
    (rx.plan s.unit).Run (s.again env rx).unit (radioFrameDispatch rx (s.again env rx)).unit := by
  have hsame := dispatch_same hf env hno hsync hend
  rw [← hsame.plan]
  refine dispatch_plan (fun h => hno ((again_addDevice hf env).1 h)) (fun h => hsync ?_) (hsame.otaEnd hend)
  exact ⟨h.deviceType, h.command, h.subCommand, hsame.fromListed.1 h.fromListed⟩

/-- **A frame that neither adds nor deletes a device, twice.** -/
theorem dispatch_twice (hf : e.Frame s.unit rx) (env : Env) (hno : ¬ rx.AddDevice s.unit)
    (hsync : ¬ rx.DeletesDevice s.unit) (hend : ¬ rx.OtaEnd s.unit) :
    ∃ leak lost, Twice (rx.plan s.unit).f (rx.plan s.unit).check leak lost s.unit (radioFrameDispatch rx s).unit
      (radioFrameDispatch rx (s.again env rx)).unit :=
  have hset := plan_settled rx s.unit
  ⟨_, _, Handled.twice hset.of hset.settles hset.causes (dispatch_plan hno hsync hend)
    (dispatch_again hf env hno hsync hend)⟩

/-! The update cursor. -/

theorem dispatch_cursor_away (hend : ¬ rx.OtaEnd s.unit) (hup : ¬ rx.Updates s.unit) :
    (radioFrameDispatch rx s).ota = s.ota :=
  (dispatch_ota hend).elim (fun h => absurd h.1 hup) fun h => h.2

theorem dispatch_cursor (hf : e.Frame s.unit rx) (hno : ¬ rx.AddDevice s.unit)
    (hsync : ¬ rx.DeletesDevice s.unit) (hend : ¬ rx.OtaEnd s.unit) :
    (radioFrameDispatch rx (s.again s.unit.env rx)).ota.updateFileCurSize =
      (radioFrameDispatch rx s).ota.updateFileCurSize := by
  have hsame := dispatch_same hf s.unit.env hno hsync hend
  have hend' := hsame.otaEnd hend
  rcases dispatch_ota hend with ⟨hup, h⟩ | ⟨hup, h⟩
  · have hup' : rx.Updates (s.again s.unit.env rx).unit :=
      ⟨hup.deviceType, hup.command, hsame.fromListed.2 hup.fromListed⟩
    obtain ⟨_, h'⟩ := (dispatch_ota hend').resolve_right fun hc => hc.1 hup'
    rw [h', State.again, State.onUnit_ota, h]
    exact otaAfter_twice rx s.unit.env s.ota
  · have hup' : ¬ rx.Updates (s.again s.unit.env rx).unit := fun hc =>
      hup ⟨hc.deviceType, hc.command, hsame.fromListed.1 hc.fromListed⟩
    rw [dispatch_cursor_away hend' hup']
    rfl

end

end Aqualarm
