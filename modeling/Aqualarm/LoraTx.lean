import Aqualarm.System
import Aqualarm.Lib.SharedBuffer

/-
  The bytes of a sent frame: radio_protocol_utils.c, the five
  `radio_*_command_send` functions, and `lora_tx_enqueue` (radio_encoder.c).

  What is proved:
    1. `send_queue` — a send that is not disturbed queues the frame's bytes.
    2. `send_tx` — these are the bytes of the frames the handlers enqueue.
    3. `preempted_send_iff` — a send preempted by another queues what the two
       queue one after the other exactly when, as far as the first had come, the
       two frames agree. Both build their frame in the one `lora_tx_buf`.

  A frame too long for `lora_tx_buf` runs on into the addresses behind it.
-/

namespace Aqualarm

open Lib

/-! radio_protocol_utils.c -/

def setLoraTxByte (dest : Nat) (byte : UInt8) (loraTxBuf : Nat → UInt8) : Nat × (Nat → UInt8) :=
  (dest + 1, Function.update loraTxBuf dest byte)

def setLoraTxBuffer (dest : Nat) (src : List UInt8) (loraTxBuf : Nat → UInt8) : Nat × (Nat → UInt8) :=
  (dest + src.length, writeAt dest src loraTxBuf)

def setLoraTxWord (dest : Nat) (word : UInt32) (loraTxBuf : Nat → UInt8) : Nat × (Nat → UInt8) :=
  let buf := Function.update loraTxBuf dest (word >>> 24).toUInt8
  let buf := Function.update buf (dest + 1) (word >>> 16).toUInt8
  let buf := Function.update buf (dest + 2) (word >>> 8).toUInt8
  let buf := Function.update buf (dest + 3) word.toUInt8
  (dest + 4, buf)

/-- The CRC of what stands in the buffer, whoever wrote it. -/
def setLoraTxCrc (crc : List UInt8 → UInt8) (dest : Nat) (loraTxBuf : Nat → UInt8) : Nat × (Nat → UInt8) :=
  (dest + 1, Function.update loraTxBuf dest (crc (readTo dest loraTxBuf)))

/-! radio_encoder.c -/

/-- `struct send_msg`, with the bytes copied into `data_ptr`. -/
structure QueuedMsg where
  dataPtr : List UInt8
  dataSize : UInt8
  needAck : Bool
  parameter : UInt8
  deriving DecidableEq, Repr

/-- How many bytes `lora_tx_enqueue` copies; `length` is a `uint8_t`. -/
def copied (length : Nat) : Nat := if length % 256 < 253 then length % 256 else 253

/-- The message `lora_tx_enqueue` hands to the queue. -/
def queuedMsg (data : Nat → UInt8) (length : Nat) (needAck : Bool) (parameter : UInt8) : QueuedMsg :=
  { dataPtr := readTo (copied length) data, dataSize := UInt8.ofNat length, needAck, parameter }

/-! The send functions. -/

/-- One of the calls a send function makes before `lora_tx_enqueue`. -/
inductive TxCall where
  | setByte (b : UInt8)
  | setWord (w : UInt32)
  | setBuffer (src : List UInt8)
  | setCrc

def TxCall.run (crc : List UInt8 → UInt8) : TxCall → Nat × (Nat → UInt8) → Nat × (Nat → UInt8)
  | .setByte b, s => setLoraTxByte s.1 b s.2
  | .setWord w, s => setLoraTxWord s.1 w s.2
  | .setBuffer src, s => setLoraTxBuffer s.1 src s.2
  | .setCrc, s => setLoraTxCrc crc s.1 s.2

/-- `(msg_ack << 7) | (DEVICE_TYPE_SELECT << 3) | msg_type`. -/
def typeByte (frame : TxFormat) : UInt8 :=
  frame.msgAck.toUInt8 <<< 7 ||| deviceTypeMainunit <<< 3 ||| frame.msgType

/-- The calls, as the five functions make them. -/
def sendCalls (frame : TxFormat) : List TxCall :=
  [.setByte 0xEF, .setByte (netRegionSelect <<< 4 ||| networkVersion), .setByte (typeByte frame),
    .setWord frame.destAddr, .setWord frame.sourceAddr, .setByte frame.command,
    .setByte (UInt8.ofNat frame.txData.length), .setBuffer frame.txData, .setCrc]

/-- The send functions, which differ in the last argument to `lora_tx_enqueue`
and in the gateway's check of the address. -/
inductive Sender where
  | gateway | endunit | doorunit | motion | factory
  deriving DecidableEq, Repr

def Sender.parameter : Sender → UInt8
  | .gateway => 0
  | .endunit | .doorunit | .motion => 1
  | .factory => 2

/-- `radio_gateway_command_send` returns at once where there is no gateway. -/
def Sender.sends (p : Sender) (frame : TxFormat) : Prop := ¬ (p = .gateway ∧ frame.destAddr = 0)

instance (p : Sender) (frame : TxFormat) : Decidable (p.sends frame) := inferInstanceAs (Decidable (¬ _))

/-- The buffer, and what was handed to the queue. -/
structure TxMemory where
  loraTxBuf : Nat → UInt8
  queue : List QueuedMsg := []

/-- The calls `cs` from cursor `dest`, then `lora_tx_enqueue`. -/
def finishSend (crc : List UInt8 → UInt8) (p : Sender) (frame : TxFormat) (cs : List TxCall) (dest : Nat)
    (t : TxMemory) : TxMemory :=
  let r := cs.foldl (fun s c => c.run crc s) (dest, t.loraTxBuf)
  { loraTxBuf := r.2
    queue := t.queue ++ [queuedMsg r.2 r.1 (frame.msgType = msgConfirmedUplink) p.parameter] }

/-- `radio_*_command_send`. -/
def commandSend (crc : List UInt8 → UInt8) (p : Sender) (frame : TxFormat) (t : TxMemory) : TxMemory :=
  if p.sends frame then finishSend crc p frame (sendCalls frame) 0 t else t

/-- The send of `a`, with all of the send of `b` after its first `k` calls. -/
def preemptedSend (crc : List UInt8 → UInt8) (p : Sender) (a : TxFormat) (q : Sender) (b : TxFormat) (k : Nat)
    (t : TxMemory) : TxMemory :=
  if p.sends a then
    let r := ((sendCalls a).take k).foldl (fun s c => c.run crc s) (0, t.loraTxBuf)
    finishSend crc p a ((sendCalls a).drop k) r.1 (commandSend crc q b { t with loraTxBuf := r.2 })
  else commandSend crc q b t

/-! The frame on the air. -/

def frameHeader (frame : TxFormat) : List UInt8 :=
  [(0xEF : UInt8), netRegionSelect <<< 4 ||| networkVersion, typeByte frame] ++
    beBytes frame.destAddr ++ beBytes frame.sourceAddr ++ [frame.command, UInt8.ofNat frame.txData.length]

/-- Header, data, and the CRC of both. -/
def frameBytes (crc : List UInt8 → UInt8) (frame : TxFormat) : List UInt8 :=
  frameHeader frame ++ frame.txData ++ [crc (frameHeader frame ++ frame.txData)]

/-- What the send of `frame` puts in the queue. -/
def encode (crc : List UInt8 → UInt8) (p : Sender) (frame : TxFormat) : List QueuedMsg :=
  if p.sends frame then
    let bytes := frameBytes crc frame
    [{ dataPtr := bytes.take (copied bytes.length), dataSize := UInt8.ofNat bytes.length
       needAck := frame.msgType = msgConfirmedUplink, parameter := p.parameter }]
  else []

/-! The calls as pieces. -/

/-- What a call appends. -/
def TxCall.piece (crc : List UInt8 → UInt8) : TxCall → Piece UInt8
  | .setByte b => fun _ => [b]
  | .setWord w => fun _ => beBytes w
  | .setBuffer src => fun _ => src
  | .setCrc => fun l => [crc l]

/-- How much a call appends. -/
def TxCall.size : TxCall → Nat
  | .setByte _ => 1
  | .setWord _ => 4
  | .setBuffer src => src.length
  | .setCrc => 1

section
variable (crc : List UInt8 → UInt8)

theorem length_piece (c : TxCall) (l : List UInt8) : (c.piece crc l).length = c.size := by
  cases c <;> rfl

theorem writeAt_singleton (dest : Nat) (b : UInt8) (buf : Nat → UInt8) :
    writeAt dest [b] buf = Function.update buf dest b := by
  funext i
  unfold writeAt
  by_cases hi : i = dest
  · subst hi
    simp
  · rw [Function.update_of_ne hi]
    split_ifs
    · exact List.getD_eq_default _ _ (by simp; omega)
    · rfl

theorem writeAt_append (dest : Nat) (l l' : List UInt8) (buf : Nat → UInt8) :
    writeAt dest (l ++ l') buf = writeAt (dest + l.length) l' (writeAt dest l buf) := by
  funext i
  unfold writeAt
  by_cases h₁ : dest ≤ i
  · by_cases h₂ : dest + l.length ≤ i
    · rw [if_pos h₁, if_pos h₂, if_pos h₁, List.getD_append_right _ _ _ _ (by omega),
        List.getD_eq_default l _ (by omega), Nat.sub_sub]
    · rw [if_pos h₁, if_neg h₂, if_pos h₁, List.getD_append _ _ _ _ (by omega)]
  · rw [if_neg h₁, if_neg (by omega), if_neg h₁]

/-- Each call reads to its cursor and writes from there. -/
theorem TxCall.run_eq (c : TxCall) (s : Nat × (Nat → UInt8)) : c.run crc s = runPiece (c.piece crc) s := by
  cases c with
  | setByte b => exact Prod.ext rfl (writeAt_singleton s.1 b s.2).symm
  | setWord w =>
    refine Prod.ext rfl ?_
    change _ = writeAt s.1 ([(w >>> 24).toUInt8] ++ ([(w >>> 16).toUInt8] ++
      ([(w >>> 8).toUInt8] ++ [w.toUInt8]))) s.2
    simp only [writeAt_append, writeAt_singleton, List.length_singleton]
    rfl
  | setBuffer src => rfl
  | setCrc => exact Prod.ext rfl (writeAt_singleton s.1 _ s.2).symm

def pieces (cs : List TxCall) : List (Piece UInt8) := cs.map (TxCall.piece crc)

theorem foldl_run (cs : List TxCall) (s : Nat × (Nat → UInt8)) :
    cs.foldl (fun s c => c.run crc s) s = runPieces (pieces crc cs) s := by
  simp only [TxCall.run_eq, runPieces, pieces, List.foldl_map]

theorem build_sendCalls (frame : TxFormat) : build (pieces crc (sendCalls frame)) [] = frameBytes crc frame := by
  simp [build, pieces, sendCalls, TxCall.piece, frameBytes, frameHeader]

theorem length_build (cs : List TxCall) (l : List UInt8) :
    (build (pieces crc cs) l).length = l.length + (cs.map TxCall.size).sum := by
  induction cs generalizing l with
  | nil => rfl
  | cons c cs ih =>
    rw [pieces, List.map_cons, build_cons, ← pieces, ih, List.length_append, length_piece, List.map_cons,
      List.sum_cons, Nat.add_assoc]

theorem copied_le (n : Nat) : copied n ≤ n := by
  unfold copied
  split_ifs with h
  · exact Nat.mod_le n 256
  · have := Nat.mod_le n 256
    omega

variable {crc}

/-- Finishing a send queues what its calls build on the bytes they find. -/
theorem finishSend_queue {p : Sender} {frame : TxFormat} {cs : List TxCall} {dest : Nat} {t : TxMemory}
    {l : List UInt8} (h : Holds l (dest, t.loraTxBuf)) :
    (finishSend crc p frame cs dest t).queue =
      t.queue ++
        [{ dataPtr := (build (pieces crc cs) l).take (copied (build (pieces crc cs) l).length)
           dataSize := UInt8.ofNat (build (pieces crc cs) l).length
           needAck := frame.msgType = msgConfirmedUplink, parameter := p.parameter }] := by
  obtain ⟨hlen, hread⟩ := runPieces_holds h (pieces crc cs)
  have htake : readTo (copied (build (pieces crc cs) l).length) (runPieces (pieces crc cs) (dest, t.loraTxBuf)).2 =
      (build (pieces crc cs) l).take (copied (build (pieces crc cs) l).length) := by
    rw [hlen] at hread
    rw [← hread, length_readTo]
    simp only [readTo, ← List.map_take, List.take_range, Nat.min_eq_left (copied_le _)]
  simp only [finishSend, foldl_run, queuedMsg, hlen, htake]

theorem send_queue (p : Sender) (frame : TxFormat) (t : TxMemory) :
    (commandSend crc p frame t).queue = t.queue ++ encode crc p frame := by
  unfold commandSend encode
  split_ifs
  · rw [finishSend_queue (holds_nil t.loraTxBuf), build_sendCalls]
  · exact (List.append_nil _).symm

theorem commandSend_buf {p : Sender} {frame : TxFormat} (h : p.sends frame) (t : TxMemory) :
    (commandSend crc p frame t).loraTxBuf = (runPieces (pieces crc (sendCalls frame)) (0, t.loraTxBuf)).2 := by
  unfold commandSend
  rw [if_pos h]
  simp only [finishSend, foldl_run]

end

/-! The frames the unit enqueues are sent as these bytes. -/

/-- The send functions on the unit. -/
def Sender.send : Sender → TxFormat → MainUnit → MainUnit
  | .gateway => radioGatewayCommandSend
  | .endunit => radioEndunitCommandSend
  | .doorunit => radioDoorunitCommandSend
  | .motion => radioMotionCommandSend
  | .factory => radioCommandSend 2

def SendMsg.queued (crc : List UInt8 → UInt8) (m : SendMsg) : QueuedMsg :=
  { dataPtr := (frameBytes crc m.frame).take (copied (frameBytes crc m.frame).length)
    dataSize := UInt8.ofNat (frameBytes crc m.frame).length, needAck := m.needAck, parameter := m.parameter }

theorem send_tx (crc : List UInt8 → UInt8) (p : Sender) (frame : TxFormat) (u : MainUnit) :
    (p.send frame u).tx.map (SendMsg.queued crc) = u.tx.map (SendMsg.queued crc) ++ encode crc p frame := by
  unfold encode
  cases p with
  | gateway =>
    rw [Sender.send, radioGatewayCommandSend]
    by_cases h : frame.destAddr = 0
    · rw [if_pos h, if_neg fun hs => hs ⟨rfl, h⟩, List.append_nil]
    · have hsends : Sender.gateway.sends frame := fun hs => h hs.2
      rw [if_neg h, if_pos hsends, radioCommandSend, loraTxEnqueue, List.map_append]
      rfl
  | endunit | doorunit | motion | factory =>
    rw [if_pos (by simp [Sender.sends])]
    exact List.map_append

/-! A send preempted by another. -/

/-- How many bytes of its frame the first `k` calls of a send have written. -/
def writtenAfter (frame : TxFormat) (k : Nat) : Nat := (((sendCalls frame).take k).map TxCall.size).sum

/-- The two frames agree in the bytes that `a` had written after `k` calls and
that are sent of it, as far as `b` writes over them. -/
def WrittenAgree (crc : List UInt8 → UInt8) (a b : TxFormat) (k : Nat) : Prop :=
  ∀ i, i < copied (frameBytes crc a).length → i < writtenAfter a k → i < (frameBytes crc b).length →
    (frameBytes crc b)[i]? = (frameBytes crc a)[i]?

section
variable {crc : List UInt8 → UInt8} {a b : TxFormat} {k : Nat}

/-- The bytes written after `k` calls. -/
theorem build_take (k : Nat) :
    build (pieces crc ((sendCalls a).take k)) [] = (frameBytes crc a).take (writtenAfter a k) := by
  have hlen : (build (pieces crc ((sendCalls a).take k)) []).length = writtenAfter a k := by
    rw [length_build, List.length_nil, Nat.zero_add]
    rfl
  have hsplit : pieces crc (sendCalls a) =
      pieces crc ((sendCalls a).take k) ++ pieces crc ((sendCalls a).drop k) := by
    rw [pieces, pieces, pieces, ← List.map_append, List.take_append_drop]
  obtain ⟨t, ht⟩ := exists_build (pieces crc ((sendCalls a).drop k)) (build (pieces crc ((sendCalls a).take k)) [])
  rw [← build_append, ← hsplit, build_sendCalls] at ht
  rw [ht, ← hlen, List.take_left]

theorem build_drop (k : Nat) :
    build (pieces crc ((sendCalls a).drop k)) ((frameBytes crc a).take (writtenAfter a k)) =
      frameBytes crc a := by
  rw [← build_take, ← build_append, pieces, pieces, ← List.map_append, List.take_append_drop, ← pieces,
    build_sendCalls]

/-- What the preempted send queues: the message of `b`, then a message of the
length of `a`, built on the bytes of both. -/
theorem preemptedSend_queue {p q : Sender} (hp : p.sends a) (hq : q.sends b) (k : Nat) (t : TxMemory) :
    (preemptedSend crc p a q b k t).queue =
      t.queue ++ encode crc q b ++
        [{ dataPtr := (build (pieces crc ((sendCalls a).drop k))
              (overlay (frameBytes crc b) ((frameBytes crc a).take (writtenAfter a k)))).take
                (copied (frameBytes crc a).length)
           dataSize := UInt8.ofNat (frameBytes crc a).length
           needAck := a.msgType = msgConfirmedUplink, parameter := p.parameter }] := by
  have hholds := runPieces_holds (holds_nil t.loraTxBuf) (pieces crc ((sendCalls a).take k))
  rw [build_take] at hholds
  have hover := holds_overlay hholds (pieces crc (sendCalls b))
  rw [build_sendCalls] at hover
  have hlen : (build (pieces crc ((sendCalls a).drop k))
      (overlay (frameBytes crc b) ((frameBytes crc a).take (writtenAfter a k)))).length =
        (frameBytes crc a).length := by
    rw [length_build, length_overlay, ← length_build crc, build_drop]
  unfold preemptedSend
  rw [if_pos hp]
  dsimp only
  rw [foldl_run, finishSend_queue (l := overlay (frameBytes crc b) ((frameBytes crc a).take (writtenAfter a k))),
    send_queue, hlen]
  rw [commandSend_buf hq]
  exact hover

end

/-- **A preempted send equals serial sends** exactly when the frames agree in
what had been written of the first. -/
theorem preempted_send_iff (crc : List UInt8 → UInt8) (p : Sender) (a : TxFormat) (q : Sender) (b : TxFormat)
    (k : Nat) (t : TxMemory) :
    (preemptedSend crc p a q b k t).queue = t.queue ++ encode crc q b ++ encode crc p a ↔
      (p.sends a → q.sends b → WrittenAgree crc a b k) := by
  by_cases hp : p.sends a
  · by_cases hq : q.sends b
    · have hagree : (overlay (frameBytes crc b) ((frameBytes crc a).take (writtenAfter a k))).take
            (copied (frameBytes crc a).length) =
          ((frameBytes crc a).take (writtenAfter a k)).take (copied (frameBytes crc a).length) ↔
          WrittenAgree crc a b k := by
        rw [take_overlay_eq_iff]
        unfold WrittenAgree
        refine forall_congr' fun i => imp_congr_right fun hcopied => ?_
        have hin : i < (frameBytes crc a).length := Nat.lt_of_lt_of_le hcopied (copied_le _)
        rw [List.length_take, Nat.lt_min, and_iff_left hin]
        exact imp_congr_right fun hw => by rw [List.getElem?_take_of_lt hw]
      have hbuild := @take_build_congr_iff _ (pieces crc ((sendCalls a).drop k))
        ((frameBytes crc a).take (writtenAfter a k))
        (overlay (frameBytes crc b) ((frameBytes crc a).take (writtenAfter a k))) (length_overlay _ _)
        (copied (frameBytes crc a).length)
      rw [build_drop] at hbuild
      rw [preemptedSend_queue hp hq, List.append_cancel_left_eq, encode, if_pos hp, ← hagree, ← hbuild]
      simp [hp, hq]
    · -- `b` is not sent, so the send of `a` goes on where it was
      refine iff_of_true ?_ fun _ hq' => absurd hq' hq
      have hholds := runPieces_holds (holds_nil t.loraTxBuf) (pieces crc ((sendCalls a).take k))
      rw [build_take] at hholds
      unfold preemptedSend
      rw [if_pos hp]
      dsimp only
      rw [foldl_run, commandSend, if_neg hq, finishSend_queue hholds, build_drop, encode, if_neg hq, encode,
        if_pos hp, List.append_nil]
  · refine iff_of_true ?_ fun hp' => absurd hp' hp
    rw [preemptedSend, if_neg hp, send_queue]
    simp only [encode, hp, if_false, List.append_nil]

def sampleReport : TxFormat :=
  { msgAck := true, msgType := msgConfirmedUplink, destAddr := 9, sourceAddr := 10000001,
    command := controlValveCmd, txData := [0, 1] }

def sampleReply : TxFormat :=
  { msgAck := true, msgType := msgUnconfirmedDownlink, destAddr := 7, sourceAddr := 10000001,
    command := heartUploadCmd }

/-- A valve report preempted, once its destination is written, by a reply to end
unit 7: the report goes out with the reply's type and destination. -/
theorem preempted_send_fails :
    ¬ ∀ (crc : List UInt8 → UInt8) (p : Sender) (a : TxFormat) (q : Sender) (b : TxFormat) (k : Nat)
        (t : TxMemory),
      (preemptedSend crc p a q b k t).queue = t.queue ++ encode crc q b ++ encode crc p a := by
  intro h
  exact absurd (h crc8 .gateway sampleReport .endunit sampleReply 4 { loraTxBuf := fun _ => 0 })
    (by decide +kernel)

end Aqualarm
