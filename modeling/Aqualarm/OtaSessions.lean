import Aqualarm.Frames
import Mathlib.Data.List.GetD

/-
  Update sessions: `lora_ota_begin` and `lora_ota_receive` called in any order
  between two resets, packets arriving in any order, lost and repeated.

  What is proved: `ota_sound_iff` — the partition holds the image up to
  `update_file_cur_size`, and a packet is acknowledged only when it is stored,
  throughout a run exactly when (1) each session begins with the cursor at 0, or
  the new image repeats the erased value up to it, and (2) no packet away from
  the cursor carries bytes, other than the erased value, that are not stored yet.

  The session's image is what the sender sends; the code does not hold it.
  `Event.handle_ota` ties the sessions to the unit: an event resets the
  receiver, or makes at most one of the two calls.
-/

namespace Aqualarm

open Lib

/-- The receiver, and the image of the session the last successful
`lora_ota_begin` started. -/
structure OtaRun where
  ota : Ota
  image : Option (List UInt8) := none

/-- One call. `image` is what the sender is about to send. -/
inductive OtaCall where
  | loraOtaBegin (env : Env) (fileSize : UInt32) (image : List UInt8)
  | loraOtaReceive (env : Env) (offset : UInt32) (buf : List UInt8)

/-- The `len` bytes of the partition from `offset`. -/
def downloadSlice (download : Nat → UInt8) (offset len : Nat) : List UInt8 :=
  (List.range len).map fun j => download (offset + j)

/-- The sender's side: an image fits in the size announced, and a packet of a
session is a slice of its image. Lengths are of type `rt_size_t`. -/
def OtaCall.Sendable (r : OtaRun) : OtaCall → Prop
  | .loraOtaBegin _ fileSize image => image.length ≤ fileSize.toNat
  | .loraOtaReceive _ offset buf =>
    buf.length < 2 ^ 32 ∧ r.image.all (fun image =>
      offset.toNat + buf.length ≤ image.length ∧ buf = (image.drop offset.toNat).take buf.length) = true

instance (r : OtaRun) (c : OtaCall) : Decidable (c.Sendable r) :=
  match c with
  | .loraOtaBegin .. => inferInstanceAs (Decidable (_ ≤ _))
  | .loraOtaReceive .. => inferInstanceAs (Decidable (_ ∧ _))

/-- What the call replies, and the receiver after it. -/
def OtaCall.reply (ota : Ota) : OtaCall → Option OtaReply × Ota
  | .loraOtaBegin env fileSize _ => Aqualarm.loraOtaBegin env fileSize.toNat ota
  | .loraOtaReceive env offset buf => Aqualarm.loraOtaReceive env buf offset.toNat ota

/-- A begin that is answered starts a session. -/
def OtaCall.perform (r : OtaRun) (c : OtaCall) : OtaRun :=
  { ota := (c.reply r.ota).2
    image :=
      match c with
      | .loraOtaBegin _ _ image => if (c.reply r.ota).1 = some .respStart then some image else r.image
      | .loraOtaReceive .. => r.image }

/-- The receiver between two resets. -/
def otaSessions : Machine OtaRun OtaCall where
  start r := ∃ download, r = { ota := { download } }
  next r c := if r.ota.fault = false ∧ c.Sendable r then some (c.perform r) else none

/-! What should hold. -/

/-- The partition holds the session's image up to the cursor. -/
def PrefixStored (r : OtaRun) : Prop :=
  ∀ image, r.image = some image →
    downloadSlice r.ota.download 0 r.ota.updateFileCurSize = image.take r.ota.updateFileCurSize

/-- A packet that is acknowledged is stored. -/
def AckStored (r : OtaRun) (c : OtaCall) (r' : OtaRun) : Prop :=
  ∀ env offset buf, c = .loraOtaReceive env offset buf →
    (c.reply r.ota).1 = some .ackTransfer → downloadSlice r'.ota.download offset.toNat buf.length = buf

/-- One call keeps the prefix stored and acknowledges what is stored. -/
def OtaSound (r : OtaRun) (c : OtaCall) (r' : OtaRun) : Prop := PrefixStored r' ∧ AckStored r c r'

/-- The cursor a session begins with is 0, or the image repeats the erased value
up to it. -/
def BeginsClean (cur : Nat) (image : List UInt8) : Prop :=
  cur ≤ image.length ∧ ∀ b ∈ image.take cur, b = 0xFF

/-- A packet away from the cursor carries only bytes stored before, or the
erased value. -/
def OldPacket (cur offset : Nat) (buf : List UInt8) : Prop :=
  ∀ j, j < buf.length → offset + j < cur ∨ buf.getD j 0 = 0xFF

/-- The condition on one call. A packet of no session, away from the cursor, is
one the partition holds already. -/
def OtaOk (r : OtaRun) : OtaCall → Prop
  | .loraOtaBegin env fileSize image =>
    env.falPartitionFind = true → fileSize.toNat ≤ downloadLen → env.falPartitionErase = true →
      BeginsClean r.ota.updateFileCurSize image
  | .loraOtaReceive _ offset buf =>
    r.ota.updateFileCurSize ≠ offset.toNat →
      match r.image with
      | some _ => OldPacket r.ota.updateFileCurSize offset.toNat buf
      | none => downloadSlice r.ota.download offset.toNat buf.length = buf

/-! Slices. -/

section
variable {download : Nat → UInt8} {offset len : Nat} {buf : List UInt8}

@[simp] theorem length_downloadSlice : (downloadSlice download offset len).length = len := by
  simp [downloadSlice]

theorem downloadSlice_eq_iff (hlen : buf.length = len) :
    downloadSlice download offset len = buf ↔ ∀ j, j < len → download (offset + j) = buf.getD j 0 := by
  subst hlen
  have hget : ∀ j (hj : j < buf.length), buf.getD j 0 = buf[j] := fun j hj => List.getD_eq_getElem _ _ hj
  constructor
  · intro h j hj
    have hslice : (downloadSlice download offset buf.length)[j]? = buf[j]? := by rw [h]
    simpa [downloadSlice, hj, hget j hj] using hslice
  · intro h
    refine List.ext_getElem length_downloadSlice fun j hj hj' => ?_
    rw [← hget j hj', ← h j hj']
    simp [downloadSlice]

/-- The partition holds `image` up to `cur`. -/
theorem downloadSlice_eq_take_iff {cur : Nat} {image : List UInt8} :
    downloadSlice download 0 cur = image.take cur ↔
      cur ≤ image.length ∧ ∀ k, k < cur → download k = image.getD k 0 := by
  by_cases hcur : cur ≤ image.length
  · have hget : ∀ k, k < cur → (image.take cur).getD k 0 = image.getD k 0 := by
      intro k hk
      simp [List.getD_eq_getElem?_getD, hk]
    rw [downloadSlice_eq_iff (by simp [hcur])]
    simp only [Nat.zero_add, hcur, true_and]
    exact forall_congr' fun k => imp_congr_right fun hk => by rw [hget k hk]
  · refine iff_of_false (fun h => ?_) fun h => hcur h.1
    have := congrArg List.length h
    simp only [length_downloadSlice, List.length_take] at this
    omega

/-- What is read back after a write. -/
theorem writeDownload_inside {addr k : Nat} (h : addr ≤ k) (h' : k < addr + buf.length) :
    writeDownload addr buf download k = buf.getD (k - addr) 0 := by
  simp [writeDownload, h, h']

theorem writeDownload_outside {addr k : Nat} (h : k < addr ∨ addr + buf.length ≤ k) :
    writeDownload addr buf download k = download k := by
  unfold writeDownload
  rw [if_neg]
  omega

end

/-! One call. -/

/-- Within a session: the cursor is in the image, the image in the partition; up
to the cursor the partition holds the image, and beyond it the erased value. -/
structure SessionInv (ota : Ota) (image : List UInt8) : Prop where
  cursor : ota.updateFileCurSize ≤ image.length
  fits : image.length ≤ downloadLen
  stored : ∀ k, k < ota.updateFileCurSize → ota.download k = image.getD k 0
  erased : ∀ k, ota.updateFileCurSize ≤ k → k < image.length → ota.download k = 0xFF

def OtaInv (r : OtaRun) : Prop := ∀ image, r.image = some image → SessionInv r.ota image

theorem SessionInv.prefixStored {ota : Ota} {image : List UInt8} (h : SessionInv ota image) :
    downloadSlice ota.download 0 ota.updateFileCurSize = image.take ota.updateFileCurSize :=
  downloadSlice_eq_take_iff.2 ⟨h.cursor, h.stored⟩

theorem OtaInv.prefixStored {r : OtaRun} (h : OtaInv r) : PrefixStored r :=
  fun image hi => (h image hi).prefixStored

section
variable {env : Env} {ota : Ota}

/-- `lora_ota_begin` either answers, having erased the range, or leaves the
cursor and the partition. -/
theorem loraOtaBegin_cases (env : Env) (fileSize : Nat) (ota : Ota) :
    (env.falPartitionFind = true ∧ fileSize ≤ downloadLen ∧ env.falPartitionErase = true ∧
      loraOtaBegin env fileSize ota =
        (some .respStart,
          { ota with
            updateFileTotalSize := fileSize, dlPart := true
            download := eraseDownload fileSize ota.download })) ∨
    ¬ (env.falPartitionFind = true ∧ fileSize ≤ downloadLen ∧ env.falPartitionErase = true) ∧
      loraOtaBegin env fileSize ota =
        (none, { ota with updateFileTotalSize := fileSize, dlPart := env.falPartitionFind }) := by
  unfold loraOtaBegin
  dsimp only
  cases env.falPartitionFind with
  | false => exact Or.inr ⟨by simp, rfl⟩
  | true =>
    rw [if_neg (by decide)]
    by_cases hlen : fileSize > downloadLen
    · rw [if_pos hlen]
      exact Or.inr ⟨by omega, rfl⟩
    · rw [if_neg hlen]
      cases env.falPartitionErase with
      | false => exact Or.inr ⟨by simp, rfl⟩
      | true => exact Or.inl ⟨rfl, by omega, rfl, rfl⟩

/-- `lora_ota_receive` acknowledges a packet away from the cursor and drops it;
at the cursor it writes it or says nothing. -/
theorem loraOtaReceive_cases (env : Env) (buf : List UInt8) (offset : Nat) (ota : Ota) :
    (ota.updateFileCurSize ≠ offset ∧ loraOtaReceive env buf offset ota = (some .ackTransfer, ota)) ∨
    (ota.updateFileCurSize = offset ∧ (loraOtaReceive env buf offset ota).1 = none ∧
      (loraOtaReceive env buf offset ota).2.updateFileCurSize = ota.updateFileCurSize ∧
      (loraOtaReceive env buf offset ota).2.download = ota.download) ∨
    (ota.updateFileCurSize = offset ∧
      loraOtaReceive env buf offset ota =
        (some .ackTransfer,
          { ota with
            download := writeDownload ota.updateFileCurSize buf ota.download
            updateFileCurSize := (ota.updateFileCurSize + buf.length) % 2 ^ 32 })) := by
  unfold loraOtaReceive
  by_cases hoff : ota.updateFileCurSize ≠ offset
  · rw [if_pos hoff]
    exact Or.inl ⟨hoff, rfl⟩
  · rw [if_neg hoff]
    have heq := not_not.1 hoff
    split
    · exact Or.inr (Or.inl ⟨heq, rfl, rfl, rfl⟩)
    · split
      · exact Or.inr (Or.inl ⟨heq, rfl, rfl, rfl⟩)
      · exact Or.inr (Or.inr ⟨heq, rfl⟩)

/-- A session begun by `lora_ota_begin`. -/
theorem eraseDownload_stored_iff {cur fileSize : Nat} {image : List UInt8} {download : Nat → UInt8}
    (hlen : image.length ≤ fileSize) :
    downloadSlice (eraseDownload fileSize download) 0 cur = image.take cur ↔ BeginsClean cur image := by
  rw [downloadSlice_eq_take_iff, BeginsClean]
  refine and_congr_right fun hcur => ?_
  rw [List.forall_mem_iff_getElem]
  have herased : ∀ k, k < cur → eraseDownload fileSize download k = 0xFF := by
    intro k hk
    rw [eraseDownload, if_pos (by omega)]
  constructor
  · intro h k hk
    have hk' : k < cur := by simp at hk; omega
    rw [List.getElem_take, ← List.getD_eq_getElem _ 0, ← h k hk', herased k hk']
  · intro h k hk
    rw [herased k hk, List.getD_eq_getElem _ _ (by omega), ← h k (by simp; omega), List.getElem_take]

theorem SessionInv.congr {ota' : Ota} {image : List UInt8} (h : SessionInv ota image)
    (hc : ota'.updateFileCurSize = ota.updateFileCurSize) (hd : ota'.download = ota.download) :
    SessionInv ota' image := by
  obtain ⟨h₁, h₂, h₃, h₄⟩ := h
  rw [← hc] at h₁ h₃ h₄
  rw [← hd] at h₃ h₄
  exact ⟨h₁, h₂, h₃, h₄⟩

theorem SessionInv.begin {fileSize : Nat} {image : List UInt8} (hlen : image.length ≤ fileSize)
    (hfits : fileSize ≤ downloadLen) (hc : BeginsClean ota.updateFileCurSize image) :
    SessionInv
      { ota with
        updateFileTotalSize := fileSize, dlPart := true
        download := eraseDownload fileSize ota.download } image := by
  have hslice : downloadSlice (eraseDownload fileSize ota.download) 0 ota.updateFileCurSize =
      image.take ota.updateFileCurSize := (eraseDownload_stored_iff hlen).2 hc
  have hstored := downloadSlice_eq_take_iff.1 hslice
  refine ⟨hc.1, hlen.trans hfits, hstored.2, fun k _ hk => ?_⟩
  show eraseDownload fileSize ota.download k = 0xFF
  rw [eraseDownload, if_pos (hk.trans_le hlen)]

/-- A byte of a slice. -/
theorem slice_getD {image buf : List UInt8} {offset j : Nat}
    (hbuf : buf = (image.drop offset).take buf.length) (hj : j < buf.length) :
    buf.getD j 0 = image.getD (offset + j) 0 := by
  conv_lhs => rw [hbuf]
  simp [List.getD_eq_getElem?_getD, hj]

/-- Writing the packet at the cursor. -/
theorem SessionInv.write {image buf : List UInt8} (h : SessionInv ota image)
    (hin : ota.updateFileCurSize + buf.length ≤ image.length)
    (hbuf : buf = (image.drop ota.updateFileCurSize).take buf.length) :
    SessionInv
      { ota with
        download := writeDownload ota.updateFileCurSize buf ota.download
        updateFileCurSize := ota.updateFileCurSize + buf.length } image := by
  refine ⟨hin, h.fits, fun k hk => ?_, fun k hk hk' => ?_⟩
  · change k < ota.updateFileCurSize + buf.length at hk
    by_cases hold : k < ota.updateFileCurSize
    · exact (writeDownload_outside (Or.inl hold)).trans (h.stored k hold)
    · have hge := Nat.le_of_not_lt hold
      refine (writeDownload_inside hge hk).trans ?_
      rw [slice_getD hbuf (by omega), Nat.add_sub_cancel' hge]
  · change ota.updateFileCurSize + buf.length ≤ k at hk
    exact (writeDownload_outside (Or.inr hk)).trans (h.erased k (by omega) hk')

/-- In a session a packet away from the cursor is stored exactly when it is old. -/
theorem SessionInv.slice_iff {image buf : List UInt8} {offset : Nat} (h : SessionInv ota image)
    (hin : offset + buf.length ≤ image.length) (hbuf : buf = (image.drop offset).take buf.length) :
    downloadSlice ota.download offset buf.length = buf ↔ OldPacket ota.updateFileCurSize offset buf := by
  rw [downloadSlice_eq_iff rfl]
  refine forall_congr' fun j => imp_congr_right fun hj => ?_
  by_cases hold : offset + j < ota.updateFileCurSize
  · refine iff_of_true ?_ (Or.inl hold)
    rw [h.stored _ hold, slice_getD hbuf hj]
  · rw [h.erased _ (by omega) (by omega), or_iff_right hold]
    exact eq_comm

theorem downloadSlice_written {addr : Nat} {buf : List UInt8} {download : Nat → UInt8} :
    downloadSlice (writeDownload addr buf download) addr buf.length = buf := by
  rw [downloadSlice_eq_iff rfl]
  intro j hj
  rw [writeDownload_inside (by omega) (by omega), Nat.add_sub_cancel_left]

end

section
variable {r r' : OtaRun} {c : OtaCall}

theorem otaSessions_next (hn : otaSessions.next r c = some r') : c.Sendable r ∧ c.perform r = r' := by
  simp only [otaSessions] at hn
  split at hn
  · rename_i h
    exact ⟨h.2, Option.some.inj hn⟩
  · cases hn

/-- **One begin.** -/
theorem otaSound_begin {env : Env} {fileSize : UInt32} {image : List UInt8} (hi : OtaInv r)
    (hn : otaSessions.next r (.loraOtaBegin env fileSize image) = some r') :
    (OtaSound r (.loraOtaBegin env fileSize image) r' ↔ OtaOk r (.loraOtaBegin env fileSize image)) ∧
      (OtaOk r (.loraOtaBegin env fileSize image) → OtaInv r') := by
  obtain ⟨hlen, rfl⟩ := otaSessions_next hn
  have hack : ∀ r', AckStored r (.loraOtaBegin env fileSize image) r' := by
    intro r' env' offset buf hc
    cases hc
  rw [OtaSound, and_iff_left (hack _)]
  obtain ⟨hfind, hfits, herase, he⟩ | ⟨hfail, he⟩ := loraOtaBegin_cases env fileSize.toNat r.ota
  · have hok : OtaOk r (.loraOtaBegin env fileSize image) ↔ BeginsClean r.ota.updateFileCurSize image :=
      ⟨fun h => h hfind hfits herase, fun h _ _ _ => h⟩
    rw [hok]
    simp only [PrefixStored, OtaInv, OtaCall.perform, OtaCall.reply, he, if_true, Option.some.injEq,
      forall_eq']
    exact ⟨eraseDownload_stored_iff hlen, SessionInv.begin hlen hfits⟩
  · have hok : OtaOk r (.loraOtaBegin env fileSize image) := fun h₁ h₂ h₃ => absurd ⟨h₁, h₂, h₃⟩ hfail
    have hinv : OtaInv (OtaCall.perform r (.loraOtaBegin env fileSize image)) := by
      intro image' hi'
      simp only [OtaCall.perform, OtaCall.reply, he, reduceCtorEq, if_false] at hi' ⊢
      exact (hi image' hi').congr rfl rfl
    exact ⟨iff_of_true hinv.prefixStored hok, fun _ => hinv⟩

/-- **One packet.** -/
theorem otaSound_receive {env : Env} {offset : UInt32} {buf : List UInt8} (hi : OtaInv r)
    (hn : otaSessions.next r (.loraOtaReceive env offset buf) = some r') :
    (OtaSound r (.loraOtaReceive env offset buf) r' ↔ OtaOk r (.loraOtaReceive env offset buf)) ∧
      OtaInv r' := by
  obtain ⟨⟨_, hslice⟩, rfl⟩ := otaSessions_next hn
  have hack : AckStored r (.loraOtaReceive env offset buf) (OtaCall.perform r (.loraOtaReceive env offset buf)) ↔
      ((loraOtaReceive env buf offset.toNat r.ota).1 = some .ackTransfer →
        downloadSlice (loraOtaReceive env buf offset.toNat r.ota).2.download offset.toNat buf.length = buf) := by
    constructor
    · intro h
      exact h env offset buf rfl
    · intro h env' offset' buf' hc
      cases hc
      exact h
  obtain ⟨haway, he⟩ | ⟨hat, hnone, hcur, hdl⟩ | ⟨hat, he⟩ :=
    loraOtaReceive_cases env buf offset.toNat r.ota
  · have hinv : OtaInv (OtaCall.perform r (.loraOtaReceive env offset buf)) := by
      intro image hi'
      simp only [OtaCall.perform, OtaCall.reply, he] at hi' ⊢
      exact hi image hi'
    refine ⟨?_, hinv⟩
    rw [OtaSound, and_iff_right hinv.prefixStored, hack, he]
    simp only [true_imp_iff, OtaOk, ne_eq, haway, not_false_eq_true]
    cases hr : r.image with
    | none => exact Iff.rfl
    | some image =>
      rw [hr, Option.all_some, decide_eq_true_eq] at hslice
      exact (hi image hr).slice_iff hslice.1 hslice.2
  · have hinv : OtaInv (OtaCall.perform r (.loraOtaReceive env offset buf)) :=
      fun image hi' => (hi image hi').congr hcur hdl
    refine ⟨iff_of_true ⟨hinv.prefixStored, ?_⟩ fun haway => absurd hat haway, hinv⟩
    rw [hack, hnone]
    intro hc
    cases hc
  · have hinv : OtaInv (OtaCall.perform r (.loraOtaReceive env offset buf)) := by
      intro image hi'
      change r.image = some image at hi'
      rw [hi', Option.all_some, decide_eq_true_eq, ← hat] at hslice
      have hsession := hi image hi'
      have hsmall : (r.ota.updateFileCurSize + buf.length) % 2 ^ 32 = r.ota.updateFileCurSize + buf.length := by
        have : downloadLen < 2 ^ 32 := by decide
        have := hsession.fits
        exact Nat.mod_eq_of_lt (by omega)
      simp only [OtaCall.perform, OtaCall.reply, he, hsmall]
      exact hsession.write hslice.1 hslice.2
    refine ⟨iff_of_true ⟨hinv.prefixStored, ?_⟩ fun haway => absurd hat haway, hinv⟩
    rw [hack, he, ← hat]
    exact fun _ => downloadSlice_written

end

/-- **Prefix and acknowledgements are sound** along a run exactly when its
sessions begin clean and its packets away from the cursor are old. -/
theorem ota_sound_iff (download : Nat → UInt8) (cs : List OtaCall) :
    otaSessions.Steps OtaSound { ota := { download } } cs ↔
      otaSessions.Steps (fun r c _ => OtaOk r c) { ota := { download } } cs := by
  have hstart : OtaInv { ota := { download } } := fun image hi => by cases hi
  have hcall : ∀ r c r', OtaInv r → otaSessions.next r c = some r' →
      (OtaSound r c r' ↔ OtaOk r c) ∧ (OtaOk r c → OtaInv r') := by
    intro r c r' hi hn
    cases c with
    | loraOtaBegin => exact otaSound_begin hi hn
    | loraOtaReceive => exact ⟨(otaSound_receive hi hn).1, fun _ => (otaSound_receive hi hn).2⟩
  exact @Machine.steps_iff_of_inv _ _ otaSessions OtaInv _ _ _ hstart
    (fun r c r' hi hok hn => (hcall r c r' hi hn).2 hok) (fun r c r' hi hn => (hcall r c r' hi hn).1) cs

/-- A second session begins where the first stopped, and loses the start of its
image; a packet ahead of the cursor is acknowledged and not stored. -/
theorem ota_sound_fails :
    (¬ otaSessions.Steps OtaSound { ota := { download := fun _ => 0xFF } }
      [.loraOtaBegin sampleEnv 4 [1, 2, 3, 4], .loraOtaReceive sampleEnv 0 [1, 2],
        .loraOtaBegin sampleEnv 4 [5, 6, 7, 8]]) ∧
    ¬ otaSessions.Steps OtaSound { ota := { download := fun _ => 0xFF } }
      [.loraOtaBegin sampleEnv 4 [1, 2, 3, 4], .loraOtaReceive sampleEnv 2 [3, 4]] := by
  constructor
  · have hrun : ∃ r r', otaSessions.run { ota := { download := fun _ => 0xFF } }
          [.loraOtaBegin sampleEnv 4 [1, 2, 3, 4], .loraOtaReceive sampleEnv 0 [1, 2]] = some r ∧
        otaSessions.next r (.loraOtaBegin sampleEnv 4 [5, 6, 7, 8]) = some r' ∧
        r'.image = some [5, 6, 7, 8] ∧ r'.ota.updateFileCurSize = 2 ∧ r'.ota.download 0 = 0xFF :=
      ⟨_, _, rfl, rfl, by decide +kernel⟩
    obtain ⟨r, r', hr, hn, himage, hcur, hbyte⟩ := hrun
    intro h
    have hstored₀ := (h _ _ r r' List.prefix_rfl hr hn).1 _ himage
    rw [hcur, downloadSlice_eq_take_iff] at hstored₀
    exact absurd (hstored₀.2 0 (by decide)) (by rw [hbyte]; decide)
  · have hrun : ∃ r r', otaSessions.run { ota := { download := fun _ => 0xFF } }
          [.loraOtaBegin sampleEnv 4 [1, 2, 3, 4]] = some r ∧
        otaSessions.next r (.loraOtaReceive sampleEnv 2 [3, 4]) = some r' ∧
        (loraOtaReceive sampleEnv [3, 4] 2 r.ota).1 = some .ackTransfer ∧ r'.ota.download 2 = 0xFF :=
      ⟨_, _, rfl, rfl, by decide +kernel⟩
    obtain ⟨r, r', hr, hn, hack, hbyte⟩ := hrun
    intro h
    have hstored := (h _ _ r r' List.prefix_rfl hr hn).2 sampleEnv 2 [3, 4] rfl hack
    rw [downloadSlice_eq_iff rfl] at hstored
    exact absurd (hstored 0 (by decide)) (by
      show r'.ota.download 2 ≠ 3
      rw [hbyte]
      decide)

/-! The receiver in the unit. -/

/-- What an event does to the receiver. -/
inductive OtaStep (env : Env) (ota : Ota) : Ota → Prop
  | idle : OtaStep env ota ota
  | begin (fileSize : UInt32) : OtaStep env ota (loraOtaBegin env fileSize.toNat ota).2
  | receive (offset : UInt32) (buf : List UInt8) (h : buf.length < 256) :
      OtaStep env ota (loraOtaReceive env buf offset.toNat ota).2
  | reset : OtaStep env ota { download := ota.download }

@[simp] theorem State.onOta_ota (f : Ota → Option OtaReply × Ota) (s : State) :
    (s.onOta f).ota = (f s.ota).2 := by
  unfold State.onOta
  dsimp only
  split <;> rfl

theorem radioFrameGatewayParseOta_ota (rx : RxFrame) (s : State) :
    OtaStep s.unit.env s.ota (radioFrameGatewayParseOta rx s).ota := by
  unfold radioFrameGatewayParseOta
  dsimp only
  split_ifs
  · rw [State.onOta_ota]
    exact .begin _
  · rw [State.onOta_ota]
    refine .receive _ _ ?_
    rw [List.length_map, List.length_range]
    exact (rx.rxData 7).toNat_lt
  · exact .reset
  · exact .idle

theorem radioFrameGatewayParse_ota (rx : RxFrame) (s : State) :
    OtaStep s.unit.env s.ota (radioFrameGatewayParse rx s).ota := by
  unfold radioFrameGatewayParse
  dsimp only
  by_cases hlearn : rx.rxData 0 = learnDeviceCmd
  · have hota : rx.rxData 0 ≠ firmwareUpdateCmd := by rw [hlearn]; decide
    simp only [hlearn, if_true, (by decide : learnDeviceCmd ≠ firmwareUpdateCmd), if_false]
    split_ifs <;> exact .idle
  · simp only [hlearn, if_false]
    split_ifs
    any_goals exact .idle
    exact radioFrameGatewayParseOta_ota rx (s.onUnit (MainUnit.onStorage (aqDeviceRecvSet rx.sourceAddr 1)))

theorem keyOnOffLongClickHandle_ota (env : Env) (s : State) :
    OtaStep env s.ota (keyOnOffLongClickHandle s).ota := by
  unfold keyOnOffLongClickHandle
  split_ifs
  · exact .reset
  · exact .idle
  · exact .idle

theorem Event.handle_ota (e : Event) (s : State) : OtaStep s.unit.env s.ota (e.handle s).ota := by
  cases e with
  | radio rssi snr data len =>
    rw [Event.handle, radioProtocolParse_eq]
    split
    · unfold radioFrameDispatch
      split_ifs
      · exact .idle
      · exact .idle
      · exact .idle
      · exact radioFrameGatewayParse_ota _ s
      · unfold radioFrameFactoryParse
        split_ifs <;> exact .idle
      · exact .idle
    · exact .idle
  | keyOnLongHold =>
    simp only [Event.handle, keyOnLongHoldHandle]
    split_ifs
    · exact .idle
    · exact keyOnOffLongClickHandle_ota _ s
    · exact .idle
    · exact .idle
  | keyOffLongHold =>
    simp only [Event.handle, keyOffLongHoldHandle]
    split_ifs
    · exact .idle
    · exact keyOnOffLongClickHandle_ota _ s
    · exact .idle
    · exact .idle
  | modbusCoils reg usAddress usNCoils =>
    simp only [Event.handle, mbWriteCoils]
    split_ifs
    · split
      · exact .idle
      · unfold mbValveSingleControlWriteCallback
        split_ifs <;> exact .idle
    · exact .idle
  | modbusHolding reg usAddress usNRegs =>
    simp only [Event.handle, mbWriteHolding]
    split_ifs
    · split
      · exact .idle
      · unfold mbHoldingWriteCallback
        split_ifs <;> exact .idle
    · exact .idle
  | dryContact level =>
    simp only [Event.handle, dryContactPollingTimerCallback]
    split_ifs <;> exact .idle
  | reboot => exact .reset
  | keyOnClick | keyOffClick | keyOnLongFree | keyOffLongFree | rtcValveCheck | rtcDeviceHeartCheck
  | rtcGatewayHeartCheck | heartConnectStart | heartUpload | rfAckInit | timer => exact .idle

theorem OtaStep.cursor_le {env : Env} {ota ota' : Ota} (h : OtaStep env ota ota')
    (hc : ota.updateFileCurSize ≤ downloadLen) : ota'.updateFileCurSize ≤ downloadLen := by
  cases h with
  | idle => exact hc
  | begin fileSize =>
    obtain ⟨_, _, _, h⟩ | ⟨_, h⟩ := loraOtaBegin_cases env fileSize.toNat ota
    · rwa [h]
    · rwa [h]
  | receive offset buf =>
    unfold loraOtaReceive
    split_ifs with h₁ h₂ h₃
    · exact hc
    · exact hc
    · exact hc
    · exact Nat.le_of_not_lt fun hlt => h₃ (Or.inl hlt)
  | reset => exact Nat.zero_le _

/-- The cursor stays in the partition. -/
theorem cursor_le_of_reachable {cfg : Config} {s : State} (h : (system cfg).Reachable s) :
    s.ota.updateFileCurSize ≤ downloadLen := by
  refine @Machine.reachable_inv _ _ (system cfg) (fun s => s.ota.updateFileCurSize ≤ downloadLen)
    (fun s hs => ?_) (fun s i s' hs hn => ?_) s h
  · obtain ⟨env, flash, download, rfl⟩ := hs
    exact Nat.zero_le _
  · obtain ⟨_, rfl⟩ := system_next_eq_some.1 hn
    exact (i.2.handle_ota (s.onUnit (MainUnit.begin i.1))).cursor_le hs

end Aqualarm
