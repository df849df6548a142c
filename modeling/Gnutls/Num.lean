import Gnutls.Mpi

/-! Reading and writing the wire: 16-bit lengths, the remaining-length check, and byte runs in a buffer. -/

namespace Gnutls

/-- The bytes a received message occupies, and whatever lies past its end, as the decoder sees them. -/
def bufferOf (message : List UInt8) : Nat → UInt8 :=
  -- Past the end of the message this reads as zero, a stand-in for memory the decoder must not use.
  fun k => message.getD k 0

/-- The `count` bytes starting at `offset`, the run `_gnutls_mpi_scan` is handed. -/
def readBytes (data : Nat → UInt8) (offset count : Nat) : List UInt8 :=
  (List.range count).map fun k => data (offset + k)

/-- Modelled from the spec: `READuint16` reads a 2-byte big-endian length. -/
def readUint16 (data : Nat → UInt8) (offset : Nat) : UInt16 :=
  Nat.toUInt16 ((data offset).toNat * 256 + (data (offset + 1)).toNat)

/-- Modelled from the spec: `WRITEuint16` writes a 2-byte big-endian length, high byte first. -/
def writeUint16 (num : UInt16) : List UInt8 :=
  [UInt8.ofNat (num.toNat / 256), UInt8.ofNat num.toNat]

/--
Modelled from the spec: `DECR_LEN` takes the bytes about to be consumed off the remaining length.

The check fails when fewer bytes remain than are about to be read.
-/
def decrLen (len count : Nat) : Option Nat :=
  if len < count then none else some (len - count)

/-- Store `bytes` into a buffer from position `offset` on. -/
def writeAt (buf : List UInt8) (offset : Nat) (bytes : List UInt8) : List UInt8 :=
  -- The bytes before the position and after the written run are kept.
  buf.take offset ++ bytes ++ buf.drop (offset + bytes.length)

/-- Converting a length to `uint16` keeps it modulo 2^16. -/
@[simp] theorem toUInt16_toNat (n : Nat) : (Nat.toUInt16 n).toNat = n % 65536 := by
  simp [UInt16.toNat, Nat.toUInt16, UInt16.ofNat]

/-- A 16-bit length reads as the two bytes it is made of. -/
@[simp] theorem readUint16_toNat (data : Nat → UInt8) (offset : Nat) :
    (readUint16 data offset).toNat = (data offset).toNat * 256 + (data (offset + 1)).toNat := by
  have high := UInt8.toNat_lt_size (data offset)
  have low := UInt8.toNat_lt_size (data (offset + 1))
  simp only [readUint16, toUInt16_toNat, UInt8.size] at *
  omega

@[simp] theorem writeUint16_length (num : UInt16) : (writeUint16 num).length = 2 := rfl

@[simp] theorem readBytes_length (data : Nat → UInt8) (offset count : Nat) :
    (readBytes data offset count).length = count := by
  simp [readBytes]

@[simp] theorem decrLen_eq_some {len count rest : Nat} :
    decrLen len count = some rest ↔ count ≤ len ∧ rest = len - count := by
  unfold decrLen
  split <;> simp <;> omega

@[simp] theorem decrLen_eq_none {len count : Nat} : decrLen len count = none ↔ len < count := by
  unfold decrLen
  split <;> simp <;> omega

/-- Binding after `DECR_LEN` continues with the remaining length exactly when the bytes are there. -/
theorem decrLen_bind {α : Type} (len count : Nat) (f : Nat → Option α) :
    (decrLen len count >>= f) = if count ≤ len then f (len - count) else none := by
  unfold decrLen
  by_cases short : len < count
  · simp [short, Nat.not_le.mpr short]
  · simp [short, Nat.not_lt.mp short]

/-- A run inside the message reads as the matching slice of it. -/
theorem readBytes_bufferOf {message : List UInt8} {offset count : Nat}
    (inside : offset + count ≤ message.length) :
    readBytes (bufferOf message) offset count = (message.drop offset).take count := by
  apply List.ext_getElem
  · simp only [readBytes_length, List.length_take, List.length_drop]
    omega
  · intro k within _
    simp only [readBytes_length] at within
    simp [readBytes, bufferOf, List.getElem?_eq_getElem (show offset + k < message.length by omega)]

/-- A run reads the same from two buffers that agree on it. -/
theorem readBytes_congr {data data' : Nat → UInt8} {offset count : Nat}
    (agree : ∀ k, offset ≤ k → k < offset + count → data k = data' k) :
    readBytes data offset count = readBytes data' offset count := by
  simp only [readBytes, List.map_inj_left, List.mem_range]
  intro k within
  exact agree _ (by omega) (by omega)

/-- A length written by `WRITEuint16` reads back through `READuint16`. -/
theorem readUint16_writeUint16 (num : UInt16) (rest : List UInt8) :
    readUint16 (bufferOf (writeUint16 num ++ rest)) 0 = num := by
  apply UInt16.eq_of_val_eq
  apply Fin.ext
  show (readUint16 _ 0).toNat = num.toNat
  have bound : num.toNat < 65536 := UInt16.toNat_lt_size num
  simp [bufferOf, writeUint16]
  omega

/-- A 16-bit length whose two bytes lie in the message reads the same from any memory agreeing on it. -/
theorem readUint16_congr {data data' : Nat → UInt8} {dataSize offset : Nat}
    (agree : ∀ k < dataSize, data k = data' k) (inside : offset + 2 ≤ dataSize) :
    readUint16 data offset = readUint16 data' offset := by
  simp only [readUint16, agree offset (by omega), agree (offset + 1) (by omega)]

/-- Writing over a run of the same length replaces exactly that run. -/
theorem writeAt_replace (before run after bytes : List UInt8) (same : bytes.length = run.length) :
    writeAt (before ++ run ++ after) before.length bytes = before ++ bytes ++ after := by
  simp [writeAt, same, List.take_append_eq_append_take, List.drop_append_eq_append_drop,
    List.append_assoc]

end Gnutls

namespace Gnutls

/-- Writing a run as long as one segment, at that segment's offset, replaces that segment. -/
theorem writeAt_flatten (segments : List (List UInt8)) (i : Nat) (within : i < segments.length)
    {offset : Nat} (start : offset = (segments.take i).flatten.length) (bytes : List UInt8)
    (same : bytes.length = (segments.get ⟨i, within⟩).length) :
    writeAt segments.flatten offset bytes = (segments.set i bytes).flatten := by
  -- Split the segments around the one written, on both sides of the equation.
  have split : segments = segments.take i ++ segments.get ⟨i, within⟩ :: segments.drop (i + 1) := by
    simp
  rw [split, List.set_append_right _ _ (by simp only [List.length_take]; omega)]
  simp only [List.length_take, Nat.min_eq_left within.le, Nat.sub_self, List.set_cons_zero,
    List.flatten_append, List.flatten_cons] at start ⊢
  rw [start, ← List.append_assoc, writeAt_replace _ _ _ _ same, List.append_assoc]

/-- Past a prefix of the message, the buffer reads as the rest of it. -/
theorem bufferOf_append (front rest : List UInt8) (k : Nat) :
    bufferOf (front ++ rest) (front.length + k) = bufferOf rest k := by
  simp [bufferOf, List.getElem?_append_right]

/-- Within a prefix of the message, the buffer reads as that prefix. -/
theorem bufferOf_append_front (front rest : List UInt8) {k : Nat} (inside : k < front.length) :
    bufferOf (front ++ rest) k = bufferOf front k := by
  simp [bufferOf, List.getElem?_append_left inside]

/-- A 16-bit length past a prefix of the message reads from the rest of it. -/
theorem readUint16_append (front rest : List UInt8) (k : Nat) :
    readUint16 (bufferOf (front ++ rest)) (front.length + k) = readUint16 (bufferOf rest) k := by
  simp only [readUint16, Nat.add_assoc, bufferOf_append]

/-- A length that fits in 16 bits reads back as itself. -/
theorem readUint16_length (run rest : List UInt8) (fits : run.length < 65536) :
    (readUint16 (bufferOf (writeUint16 run.length.toUInt16 ++ rest)) 0).toNat = run.length := by
  rw [readUint16_writeUint16, toUInt16_toNat, Nat.mod_eq_of_lt fits]

/-- A run past a prefix of the message reads from the rest of it. -/
theorem readBytes_append (front rest : List UInt8) (k count : Nat) :
    readBytes (bufferOf (front ++ rest)) (front.length + k) count =
      readBytes (bufferOf rest) k count := by
  simp only [readBytes, Nat.add_assoc, bufferOf_append]

/-- A run at the start of the message reads as itself. -/
theorem readBytes_prefix (run rest : List UInt8) :
    readBytes (bufferOf (run ++ rest)) 0 run.length = run := by
  rw [readBytes_bufferOf (by simp)]
  simp

/-- A whole message read from its start is itself. -/
theorem readBytes_whole (run : List UInt8) : readBytes (bufferOf run) 0 run.length = run := by
  simpa using readBytes_prefix run []

end Gnutls
