import Jincubator.AlarmThread
import Jincubator.Co2
import Jincubator.Library.Crc

/-! # The frames of the synchronous motor

Requests to the motor and its replies end in a checksum, a remainder of 16 bits with
its low byte first. A reply is looked at only if its checksum is right, so no reply
that a burst of at most 16 bits has altered is.
-/

namespace Jincubator

open Crc Incubator Run

/-! ## The checksum -/

def crcShift (crcValue : Word32) : Word32 :=
  if crcValue &&& 0x0001 ≠ 0 then crcValue >>> 1 ^^^ 0xa001 else crcValue >>> 1

def crcByte (crcValue : Word32) (data : Byte) : Word32 :=
  crcShift^[8] (crcValue ^^^ data.setWidth 32)

/-- The length is a byte. -/
def crcChkValue (dataValue : List Byte) (length : Nat) : Word32 :=
  (dataValue.take (length % 256)).foldl crcByte 0xFFFF

/-- `check`, an `unsigned short` -/
def crcCheck (dataValue : List Byte) (length : Nat) : Word :=
  (crcChkValue dataValue length).setWidth 16

/-- A message, followed by the low and the high byte of its checksum. -/
def frame (m : List Byte) : List Byte := m ++ wordBytes (crcCheck m m.length)

namespace Reply

def bytes (n : Nat) (r : Reply) : List Byte := (List.range n).map r.recvBuf

/-- The reply is long enough, it comes from the motor and repeats the function, and the checksum of
its first bytes follows them. -/
def Accepted (func : Byte) (len : Nat) (r : Reply) : Prop :=
  r.recvLen ≥ len + 2 ∧ r.recvBuf 0 = 0x01 ∧ r.recvBuf 1 = func ∧
    [r.recvBuf len, r.recvBuf (len + 1)] = wordBytes (crcCheck (r.bytes len) len)

instance (func : Byte) (len : Nat) (r : Reply) : Decidable (r.Accepted func len) :=
  inferInstanceAs (Decidable (_ ∧ _ ∧ _ ∧ _))

end Reply

/-! ## The thread of the motor -/

def syncMotorMbRunFreqAddr : Word := 0x1000

def syncMotorMbCurrentFreqAddr : Word := 0x1001

def syncMotorMbControlCmdAddr : Word := 0x2000

def syncMotorMbControlParaAddr : Word := 0x3000

def syncMotorMbControlJustRun : Word := 0x0001

def syncMotorMbControlDecelStop : Word := 0x0006

/-- The registers, `i_alarm_status` and the frames that were sent. -/
structure MotorThread where
  inc : Incubator
  alarmStatus : Int
  sent : List (List Byte)

/-- What comes back to the five requests of a round. -/
structure MotorReplies where
  start : Reply
  stop : Reply
  state : Reply
  setFreq : Reply
  currentFreq : Reply

def highLow (v : Word) : List Byte := [v.extractLsb' 8 8, v.extractLsb' 0 8]

def connectStatus (bit : Word) (fails : Prop) [Decidable fails] (s : Incubator) : Incubator :=
  setUval Reg.rSyncMotorConnectStatus
    (flag fails bit (s.reg Reg.rSyncMotorConnectStatus)).toNat s

/-- The fan is one of variable frequency, or not. -/
def motorMode (s : Incubator) : Incubator :=
  if (s.reg Reg.rSyncMotorMode).setWidth 8 ≠ 0#8 then
    setVal Reg.rSyncVersion 20007 { s with fanStatus := 1 }
  else setVal Reg.rSyncVersion 10007 { s with fanStatus := 0 }

namespace MotorThread

def onInc (f : Incubator → Incubator) (m : MotorThread) : MotorThread := { m with inc := f m.inc }

def send (func : Byte) (addr : Word) (data : List Byte) (m : MotorThread) : MotorThread :=
  { m with sent := m.sent ++ [frame ([0x01, func] ++ highLow addr ++ data)] }

/-- A command is asked for again until the motor has answered it. -/
def command (cmd : Int) (value bit : Word) (r : Reply) (m : MotorThread) : MotorThread :=
  if m.inc.getVal Reg.sSyncMotorControlCmd = cmd then
    let m := m.send 0x06 syncMotorMbControlCmdAddr (highLow value)
    if r.Accepted 0x06 6 then
      m.onInc fun s => s |> connectStatus bit False |> setUval Reg.sSyncMotorControlCmd 0
    else m.onInc (connectStatus bit True)
  else m

def start (r : Reply) (m : MotorThread) : MotorThread :=
  m.command 1 syncMotorMbControlJustRun 0x01 r

def stop (r : Reply) (m : MotorThread) : MotorThread :=
  m.command 2 syncMotorMbControlDecelStop 0x02 r

/-- The state is reported missing after ten requests without it. -/
def readState (r : Reply) (m : MotorThread) : MotorThread :=
  let m := m.send 0x03 syncMotorMbControlParaAddr (highLow 1)
  if r.Accepted 0x03 5 then
    { m with
      inc := m.inc.put Reg.rSyncMotorControlPara (bytesWord [r.recvBuf 3, r.recvBuf 4])
        |> connectStatus 0x04 False
      alarmStatus := 0 }
  else
    let count := int32 (m.alarmStatus + 1)
    let count := if count ≥ 65535 then 10 else count
    { m with
      inc := connectStatus 0x04 (count ≥ 10) m.inc
      alarmStatus := count }

/-- A changed frequency is sent as it stands in the memory, and taken as sent at once. -/
def setFreq (r : Reply) (m : MotorThread) : MotorThread :=
  if m.inc.getVal Reg.sSyncMotorControlrunFreq ≠ m.inc.getOld Reg.sSyncMotorControlrunFreq ∧
      m.inc.getUval Reg.sSyncMotorControlrunFreq ≠ 0 then
    let freq := m.inc.shmOut Reg.sSyncMotorControlrunFreq
    let m := m.onInc fun s =>
      { s with shmOld := Function.update s.shmOld Reg.sSyncMotorControlrunFreq freq }
    let m := m.send 0x06 syncMotorMbRunFreqAddr (wordBytes freq)
    if r.Accepted 0x06 6 then m.onInc (connectStatus 0x08 False)
    else m.onInc (connectStatus 0x08 True)
  else m

def readFreq (r : Reply) (m : MotorThread) : MotorThread :=
  let m := m.send 0x03 syncMotorMbCurrentFreqAddr (highLow 1)
  if r.Accepted 0x03 5 then
    m.onInc fun s => s.put Reg.rSyncMotorCurrentFreq (bytesWord [r.recvBuf 3, r.recvBuf 4])
      |> connectStatus 0x20 False
  else m.onInc (connectStatus 0x20 True)

/-- One round of `synchronous_motor_func`. -/
def synchronousMotorFunc (replies : MotorReplies) (m : MotorThread) : MotorThread :=
  let m := m.onInc motorMode
  if m.inc.fanStatus ≠ 0 then
    m |> start replies.start |> stop replies.stop |> readState replies.state
      |> setFreq replies.setFreq |> readFreq replies.currentFreq
  else m

end MotorThread

/-! ## The checksum as a remainder -/

def bits (bytes : List Byte) : List Bool := bytes.flatMap bitsOf

/-- The remainder of 16 bits that a message leaves. -/
def remainder (bytes : List Byte) : Word := run (feed 0xa001) 0xFFFF (bits bytes)

section

variable {m received : List Byte} {r : Word}

theorem bits_cons (b : Byte) (bytes : List Byte) : bits (b :: bytes) = bitsOf b ++ bits bytes :=
  List.flatMap_cons

theorem bits_append (m n : List Byte) : bits (m ++ n) = bits m ++ bits n := List.flatMap_append

theorem length_bits (bytes : List Byte) : (bits bytes).length = 8 * bytes.length := by
  induction bytes with
  | nil => rfl
  | cons b bytes ih =>
      rw [bits_cons, List.length_append, ih, length_bitsOf, List.length_cons]
      omega

/-- The remainder never leaves its 16 bits. -/
theorem crcShift_setWidth (r : Word) : crcShift (r.setWidth 32) = (shift 0xa001 r).setWidth 32 := by
  have low : (r.setWidth 32 &&& 0x0001) ≠ (0 : Word32) ↔ r.getLsbD 0 = true := by
    have bit : r.setWidth 32 &&& 1#32 = (BitVec.ofBool (r.getLsbD 0)).setWidth 32 := by
      rw [BitVec.and_one_eq_setWidth_ofBool_getLsbD, BitVec.getLsbD_setWidth]
      rfl
    rw [show (0x0001 : Word32) = 1#32 from rfl, bit]
    cases r.getLsbD 0 <;> decide
  unfold crcShift shift
  by_cases set : r.getLsbD 0 = true
  · rw [if_pos (low.mpr set), if_pos set, BitVec.setWidth_xor,
      BitVec.setWidth_ushiftRight (by decide)]
    rfl
  · rw [if_neg (mt low.mp set), if_neg set, BitVec.setWidth_ushiftRight (by decide)]

/-- A byte is eight bits of the message. -/
theorem crcByte_setWidth (r : Word) (data : Byte) :
    crcByte (r.setWidth 32) data = (run (feed 0xa001) r (bitsOf data)).setWidth 32 := by
  have shifts : Function.Semiconj (BitVec.setWidth 32) (shift (0xa001 : Word)) crcShift :=
    fun r => (crcShift_setWidth r).symm
  have taken : r.setWidth 32 ^^^ data.setWidth 32 = (r ^^^ data.setWidth 16).setWidth 32 := by
    rw [BitVec.setWidth_xor, BitVec.setWidth_setWidth (by decide)]
  rw [crcByte, taken, run_bitsOf _ _ _ (by decide)]
  exact ((shifts.iterate_right 8).eq _).symm

theorem crcChkValue_eq (dataValue : List Byte) (length : Nat) : crcChkValue dataValue length =
    (remainder (dataValue.take (length % 256))).setWidth 32 := by
  have taken (bytes : List Byte) (r : Word) : bytes.foldl crcByte (r.setWidth 32) =
      (run (feed 0xa001) r (bits bytes)).setWidth 32 := by
    induction bytes generalizing r with
    | nil => rfl
    | cons data bytes ih =>
        rw [List.foldl_cons, crcByte_setWidth, ih, bits_cons, run_append]
  exact taken _ 0xFFFF

theorem crcChkValue_length (short : m.length < 256) :
    crcChkValue m m.length = (remainder m).setWidth 32 := by
  rw [crcChkValue_eq, Nat.mod_eq_of_lt short, List.take_length]

theorem crcCheck_length (short : m.length < 256) : crcCheck m m.length = remainder m := by
  rw [crcCheck, crcChkValue_length short, BitVec.setWidth_setWidth_of_le _ (by decide),
    BitVec.setWidth_eq]

theorem remainder_wordBytes (m : List Byte) (v : Word) :
    remainder (m ++ wordBytes v) = run (feed 0xa001) (remainder m) (bitsOf v) := by
  have halves : bitsOf v = bits (wordBytes v) := by
    have whole : v = v.extractLsb' 8 8 ++ v.extractLsb' 0 8 := (bytesWord_wordBytes v).symm
    rw [whole, bitsOf_append, ← whole]
    simp [bits, wordBytes]
  rw [halves, remainder, bits_append, run_append, remainder]

/-- A frame leaves no remainder. -/
theorem remainder_frame (short : m.length < 256) : remainder (frame m) = 0#16 := by
  rw [frame, remainder_wordBytes, crcCheck_length short, run_remainder]

theorem length_frame (m : List Byte) : (frame m).length = m.length + 2 := by
  rw [frame, List.length_append]
  rfl

/-! ## Corrupted frames -/

/-- What is received differs from what was sent by a burst of at most 16 bits. -/
def Corrupted (sent received : List Byte) : Prop :=
  ∃ errors : List Byte, errors.length = sent.length ∧ Burst 16 (bits errors) ∧
    received = List.zipWith (· ^^^ ·) sent errors

theorem bits_xor {errors : List Byte} (same : m.length = errors.length) :
    bits (List.zipWith (· ^^^ ·) m errors) = List.zipWith xor (bits m) (bits errors) := by
  induction m generalizing errors with
  | nil => rfl
  | cons b m ih =>
      cases errors with
      | nil => cases same
      | cons e errors =>
          have eight : (bitsOf b).length = (bitsOf e).length := by
            rw [length_bitsOf, length_bitsOf]
          rw [List.zipWith_cons_cons, bits_cons, bits_cons, bits_cons, bitsOf_xor,
            List.zipWith_append eight, ih (Nat.succ.inj same)]

theorem Corrupted.length (corrupted : Corrupted m received) : received.length = m.length := by
  obtain ⟨errors, same, -, rfl⟩ := corrupted
  rw [List.length_zipWith, same, Nat.min_self]

/-- A corrupted frame leaves a remainder. -/
theorem Corrupted.remainder (corrupted : Corrupted (frame m) received) (short : m.length < 256) :
    remainder received ≠ 0#16 := by
  obtain ⟨errors, same, burst, rfl⟩ := corrupted
  rw [Jincubator.remainder, bits_xor same.symm]
  refine run_corrupt (by decide) (remainder_frame short) ?_ burst
  rw [length_bits, length_bits, same]

end

/-! ## Replies -/

/-- No reply at all. -/
def Reply.silent : Reply := ⟨0, fun _ => 0⟩

section

variable {m : List Byte} {r : Reply} {t : MotorThread} {func : Byte} {len : Nat}

theorem Reply.bytes_add_two (r : Reply) (len : Nat) :
    r.bytes (len + 2) = r.bytes len ++ [r.recvBuf len, r.recvBuf (len + 1)] := by
  simp [bytes, List.range_succ]

theorem Reply.length_bytes (r : Reply) (len : Nat) : (r.bytes len).length = len := by
  simp [bytes]

/-- A reply that is looked at leaves no remainder. -/
theorem Reply.Accepted.remainder (accepted : r.Accepted func len) (short : len < 256) :
    remainder (r.bytes (len + 2)) = 0#16 := by
  have checked : crcCheck (r.bytes len) len = Jincubator.remainder (r.bytes len) := by
    have same := crcCheck_length (m := r.bytes len)
    rw [r.length_bytes] at same
    exact same short
  rw [r.bytes_add_two, accepted.2.2.2, remainder_wordBytes, checked, run_remainder]

theorem Corrupted.rejected (corrupted : Corrupted (frame m) (r.bytes (m.length + 2)))
    (short : m.length < 256) (func : Byte) : ¬r.Accepted func m.length := by
  intro accepted
  exact corrupted.remainder short (accepted.remainder short)

theorem not_accepted_silent (func : Byte) (len : Nat) : ¬Reply.silent.Accepted func len := by
  intro accepted
  have long : (0 : Int) ≥ len + 2 := accepted.1
  omega

/-- What the checks over six bytes do not accept changes nothing beyond what no reply does. -/
theorem reply6_rejected (rejected : ¬r.Accepted 0x06 6) (t : MotorThread) :
    t.start r = t.start .silent ∧ t.stop r = t.stop .silent ∧ t.setFreq r = t.setFreq .silent := by
  have silent := not_accepted_silent 0x06 6
  have command (cmd : Int) (value bit : Word) :
      t.command cmd value bit r = t.command cmd value bit .silent := by
    simp only [MotorThread.command, if_neg rejected, if_neg silent]
  refine ⟨command _ _ _, command _ _ _, ?_⟩
  simp only [MotorThread.setFreq, if_neg rejected, if_neg silent]

theorem reply5_rejected (rejected : ¬r.Accepted 0x03 5) (t : MotorThread) :
    t.readState r = t.readState .silent ∧ t.readFreq r = t.readFreq .silent := by
  have silent := not_accepted_silent 0x03 5
  constructor
  · simp only [MotorThread.readState, if_neg rejected, if_neg silent]
  · simp only [MotorThread.readFreq, if_neg rejected, if_neg silent]

/-! ## Rounds -/

/-- A reply of a message and its checksum is heard as it is, or not at all if it is corrupted. -/
def Hears (len : Nat) (r heard : Reply) : Prop :=
  heard = r ∨ heard = .silent ∧
    ∃ m : List Byte, m.length = len ∧ Corrupted (frame m) (r.bytes (len + 2))

structure HearsAll (replies heard : MotorReplies) : Prop where
  start : Hears 6 replies.start heard.start
  stop : Hears 6 replies.stop heard.stop
  state : Hears 5 replies.state heard.state
  setFreq : Hears 6 replies.setFreq heard.setFreq
  currentFreq : Hears 5 replies.currentFreq heard.currentFreq

def motorStep (t : MotorThread) (replies : MotorReplies) : MotorThread :=
  t.synchronousMotorFunc replies

theorem Hears.rejected {heard : Reply} (hears : Hears len r heard) (short : len < 256)
    (func : Byte) : heard = r ∨ heard = .silent ∧ ¬r.Accepted func len := by
  rcases hears with same | ⟨silent, m, rfl, corrupted⟩
  · exact .inl same
  · exact .inr ⟨silent, corrupted.rejected short func⟩

/-- Whether a corrupted reply comes or none makes no difference to a round. -/
theorem motorStep_hears {replies heard : MotorReplies} (hears : HearsAll replies heard)
    (t : MotorThread) : motorStep t replies = motorStep t heard := by
  have six {r heard : Reply} (hears : Hears 6 r heard) (t : MotorThread) :
      t.start r = t.start heard ∧ t.stop r = t.stop heard ∧ t.setFreq r = t.setFreq heard := by
    rcases hears.rejected (by decide) 0x06 with same | ⟨silent, rejected⟩
    · rw [same]
      exact ⟨rfl, rfl, rfl⟩
    · rw [silent]
      exact reply6_rejected rejected t
  have five {r heard : Reply} (hears : Hears 5 r heard) (t : MotorThread) :
      t.readState r = t.readState heard ∧ t.readFreq r = t.readFreq heard := by
    rcases hears.rejected (by decide) 0x03 with same | ⟨silent, rejected⟩
    · rw [same]
      exact ⟨rfl, rfl⟩
    · rw [silent]
      exact reply5_rejected rejected t
  rw [motorStep, motorStep, MotorThread.synchronousMotorFunc, MotorThread.synchronousMotorFunc]
  simp only [(six hears.start _).1, (six hears.stop _).2.1, (five hears.state _).1,
    (six hears.setFreq _).2.2, (five hears.currentFreq _).2]

theorem frame_sound (short : m.length ≤ 253) : crcChkValue (frame m) (m.length + 2) = 0 := by
  have length := length_frame m
  rw [← length, crcChkValue_length (by omega), remainder_frame (by omega)]
  rfl

/-- Every frame that was sent leaves no remainder. -/
def SoundFrames (t : MotorThread) : Prop := ∀ f ∈ t.sent, crcChkValue f f.length = 0

theorem SoundFrames.send (sound : SoundFrames t) {data : List Byte} (short : data.length ≤ 2)
    (func : Byte) (addr : Word) : SoundFrames (t.send func addr data) := by
  intro f mem
  rcases List.mem_append.mp mem with before | now
  · exact sound f before
  · rw [List.mem_singleton.mp now, length_frame]
    apply frame_sound
    simp only [List.length_append, List.length_cons, List.length_nil, highLow]
    omega

theorem SoundFrames.command (sound : SoundFrames t) (cmd : Int) (value bit : Word) (r : Reply) :
    SoundFrames (t.command cmd value bit r) := by
  have sent := sound.send (Nat.le_refl (highLow value).length) 0x06 syncMotorMbControlCmdAddr
  rw [MotorThread.command]
  split
  · dsimp only
    split
    · exact sent
    · exact sent
  · exact sound

theorem SoundFrames.readState (sound : SoundFrames t) (r : Reply) :
    SoundFrames (t.readState r) := by
  have sent := sound.send (Nat.le_refl (highLow 1).length) 0x03 syncMotorMbControlParaAddr
  rw [MotorThread.readState]
  split
  · exact sent
  · exact sent

theorem SoundFrames.setFreq (sound : SoundFrames t) (r : Reply) : SoundFrames (t.setFreq r) := by
  have sent (v : Word) :=
    sound.send (Nat.le_refl (wordBytes v).length) 0x06 syncMotorMbRunFreqAddr
  rw [MotorThread.setFreq]
  split
  · dsimp only
    split
    · exact sent _
    · exact sent _
  · exact sound

theorem SoundFrames.readFreq (sound : SoundFrames t) (r : Reply) : SoundFrames (t.readFreq r) := by
  have sent := sound.send (Nat.le_refl (highLow 1).length) 0x03 syncMotorMbCurrentFreqAddr
  rw [MotorThread.readFreq]
  split
  · exact sent
  · exact sent

theorem motorStep_sound (sound : SoundFrames t) (replies : MotorReplies) :
    SoundFrames (motorStep t replies) := by
  have chosen : SoundFrames (t.onInc motorMode) := sound
  have started : SoundFrames ((t.onInc motorMode).start replies.start) := chosen.command _ _ _ _
  rw [motorStep, MotorThread.synchronousMotorFunc]
  split
  · apply SoundFrames.readFreq
    apply SoundFrames.setFreq
    apply SoundFrames.readState
    exact started.command _ _ _ _
  · exact chosen

/-- A frame of up to 253 bytes and its checksum leaves no remainder, every burst of at most 16 bits
leaves one, and the replies that the motor thread checks are not looked at after such a burst. -/
theorem motorFrame_checked (m : List Byte) (short : m.length ≤ 253) :
    crcChkValue (frame m) (m.length + 2) = 0 ∧
      (∀ received, Corrupted (frame m) received → crcChkValue received (m.length + 2) ≠ 0) ∧
      ∀ (r : Reply) (t : MotorThread), Corrupted (frame m) (r.bytes (m.length + 2)) →
        (m.length = 6 → t.start r = t.start .silent ∧ t.stop r = t.stop .silent ∧
          t.setFreq r = t.setFreq .silent) ∧
        (m.length = 5 → t.readState r = t.readState .silent ∧
          t.readFreq r = t.readFreq .silent) := by
  refine ⟨frame_sound short, ?_, ?_⟩
  · intro received corrupted none
    have length := corrupted.length
    rw [length_frame] at length
    apply corrupted.remainder (by omega)
    rw [← length, crcChkValue_length (by omega)] at none
    have low := congrArg (BitVec.setWidth 16) none
    rwa [BitVec.setWidth_setWidth_of_le _ (by decide), BitVec.setWidth_eq] at low
  · intro r t corrupted
    constructor
    · intro six
      have rejected := corrupted.rejected (by omega) 0x06
      rw [six] at rejected
      exact reply6_rejected rejected t
    · intro five
      have rejected := corrupted.rejected (by omega) 0x03
      rw [five] at rejected
      exact reply5_rejected rejected t

end

/-- The motor answers that it runs forwards, and one bit of it arrives wrong. -/
def stateReply : List Byte := [0x01, 0x03, 0x02, 0x00, 0x01]

def alteredReply : Reply where
  recvLen := 7
  recvBuf i := (List.zipWith (· ^^^ ·) (frame stateReply) [0, 0, 0, 0, 0x02, 0, 0]).getD i 0

theorem motorFrame_checked_state : crcChkValue (frame stateReply) 7 = 0 ∧
    Corrupted (frame stateReply) (alteredReply.bytes 7) ∧
    MotorThread.readState alteredReply ⟨cleared, 0, []⟩ =
      MotorThread.readState .silent ⟨cleared, 0, []⟩ := by
  have burst : Burst 16 (bits [0, 0, 0, 0, 0x02, 0, 0]) := .of_places (by decide) 33 (by decide)
  have corrupted : Corrupted (frame stateReply) (alteredReply.bytes 7) :=
    ⟨[0, 0, 0, 0, 0x02, 0, 0], (length_frame stateReply).symm, burst, by decide +kernel⟩
  obtain ⟨sound, -, rejects⟩ := motorFrame_checked stateReply (by decide)
  exact ⟨sound, corrupted, ((rejects alteredReply ⟨cleared, 0, []⟩ corrupted).2 rfl).1⟩

/-! ## Runs -/

/-- A round, after the other threads have changed the registers. -/
def motorRound (t : MotorThread) (e : (Incubator → Incubator) × MotorReplies) : MotorThread :=
  motorStep (t.onInc e.1) e.2

/-- The same round, but for corrupted replies that do not come. -/
structure RoundHears (e heard : (Incubator → Incubator) × MotorReplies) : Prop where
  others : e.1 = heard.1
  replies : HearsAll e.2 heard.2

/-- Among all other threads, in every run, a corrupted reply does what a missing one does: the
registers and the requests are the same. Every request is a frame whose checksum is right. -/
theorem motorRun_hears {rounds heard : List ((Incubator → Incubator) × MotorReplies)}
    (hears : List.Forall₂ RoundHears rounds heard) {t : MotorThread} (sound : SoundFrames t) :
    run motorRound t rounds = run motorRound t heard ∧ SoundFrames (run motorRound t rounds) := by
  constructor
  · clear sound
    induction hears generalizing t with
    | nil => rfl
    | cons first _ ih =>
        rw [run_cons, run_cons, ih]
        unfold motorRound
        rw [first.others, motorStep_hears first.replies]
  · have kept (u : MotorThread) (e : (Incubator → Incubator) × MotorReplies)
        (sound : SoundFrames u) : SoundFrames (motorRound u e) :=
      motorStep_sound (t := u.onInc e.1) sound e.2
    exact run_invariant kept sound rounds

/-- One bit of the state is wrong, after another thread has set the frequency. -/
theorem motorRun_hears_state :
    let others := setVal Reg.sSyncMotorControlrunFreq 300
    let silent : MotorReplies := ⟨.silent, .silent, .silent, .silent, .silent⟩
    let altered : MotorReplies := { silent with state := alteredReply }
    run motorRound ⟨cleared, 0, []⟩ [(others, altered)] =
        run motorRound ⟨cleared, 0, []⟩ [(others, silent)] ∧
      SoundFrames (run motorRound ⟨cleared, 0, []⟩ [(others, altered)]) := by
  intro others silent altered
  have burst : Burst 16 (bits [0, 0, 0, 0, 0x02, 0, 0]) := .of_places (by decide) 33 (by decide)
  have corrupted : Corrupted (frame stateReply) (alteredReply.bytes 7) :=
    ⟨[0, 0, 0, 0, 0x02, 0, 0], (length_frame stateReply).symm, burst, by decide +kernel⟩
  have same (len : Nat) : Hears len .silent .silent := Or.inl rfl
  have state : Hears 5 alteredReply .silent := Or.inr ⟨rfl, stateReply, rfl, corrupted⟩
  have replies : HearsAll altered silent := ⟨same 6, same 6, state, same 6, same 5⟩
  have hears : RoundHears (others, altered) (others, silent) := ⟨rfl, replies⟩
  have sound : SoundFrames ⟨cleared, 0, []⟩ := by
    intro f sent
    cases sent
  exact motorRun_hears (.cons hears .nil) sound

end Jincubator
