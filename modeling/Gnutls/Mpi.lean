import Mathlib.Algebra.Group.Nat.Basic
import Mathlib.Data.List.Basic

/-! Multi-precision integers: their minimal big-endian bytes, their bit length, and the handles that own them. -/

namespace Gnutls

/-- Big-endian bytes of a value, most significant first, within a budget of steps. -/
def printDigits : Nat → Nat → List UInt8
  | 0, _ => []
  | fuel + 1, value =>
    -- The quotient supplies the leading bytes and the remainder the last one.
    if value = 0 then [] else printDigits fuel (value / 256) ++ [UInt8.ofNat (value % 256)]

/--
Modelled from the spec: `_gnutls_mpi_print` writes the minimal big-endian bytes of an integer.

Zero prints as no bytes at all. The value bounds its own number of bytes, so it is its own budget.
-/
def mpiPrint (value : Nat) : List UInt8 :=
  printDigits value value

/-- Modelled from the spec: the integer `_gnutls_mpi_scan` reads from a run of bytes, most significant first. -/
def mpiScanValue (bytes : List UInt8) : Nat :=
  bytes.foldl (fun acc byte => acc * 256 + byte.toNat) 0

/-- Bit length of a value, within a budget of steps. -/
def bitLength : Nat → Nat → Nat
  | 0, _ => 0
  | fuel + 1, value => if value = 0 then 0 else bitLength fuel (value / 2) + 1

/-- `gcry_mpi_get_nbits`: the number of bits the value needs, zero for zero. -/
def mpiGetNbits (value : Nat) : Nat :=
  bitLength value value

/-- Reading a byte back as a number gives its residue modulo 256. -/
@[simp] theorem UInt8.toNat_ofNat_mod (n : Nat) : (UInt8.ofNat n).toNat = n % 256 := by
  simp [UInt8.toNat, UInt8.ofNat]

/-- Any budget that covers the value prints the same bytes. -/
theorem printDigits_budget :
    ∀ (fuel fuel' value : Nat), value ≤ fuel → value ≤ fuel' →
      printDigits fuel value = printDigits fuel' value := by
  intro fuel
  induction fuel with
  | zero =>
    intro fuel' value covered _
    -- Only zero fits in no budget, and zero prints as nothing with any budget.
    obtain rfl : value = 0 := by omega
    cases fuel' <;> simp [printDigits]
  | succ fuel ih =>
    intro fuel' value covered covered'
    cases fuel' with
    | zero =>
      obtain rfl : value = 0 := by omega
      simp [printDigits]
    | succ fuel' =>
      simp only [printDigits]
      split
      · rfl
      · -- The quotient is strictly smaller, so both smaller budgets still cover it.
        rw [ih fuel' (value / 256) (by omega) (by omega)]

@[simp] theorem mpiPrint_zero : mpiPrint 0 = [] := rfl

/-- A positive value prints as its quotient by 256 followed by its last byte. -/
theorem mpiPrint_pos {value : Nat} (positive : 0 < value) :
    mpiPrint value = mpiPrint (value / 256) ++ [UInt8.ofNat (value % 256)] := by
  obtain ⟨fuel, rfl⟩ : ∃ fuel, value = fuel + 1 := ⟨value - 1, by omega⟩
  simp only [mpiPrint, printDigits, Nat.add_one_ne_zero, if_false]
  rw [printDigits_budget fuel ((fuel + 1) / 256) _ (by omega) (by omega)]

/-- Appending a byte shifts the value read so far by one byte. -/
@[simp] theorem mpiScanValue_append_byte (bytes : List UInt8) (byte : UInt8) :
    mpiScanValue (bytes ++ [byte]) = mpiScanValue bytes * 256 + byte.toNat := by
  simp [mpiScanValue, List.foldl_append]

/-- Scanning the printed bytes of a value gives the value back. -/
@[simp] theorem mpiScanValue_mpiPrint (value : Nat) : mpiScanValue (mpiPrint value) = value := by
  induction value using Nat.strong_induction_on with
  | _ value ih =>
    rcases Nat.eq_zero_or_pos value with rfl | positive
    · rfl
    · -- The quotient reads back by induction, and the last byte is the remainder.
      rw [mpiPrint_pos positive, mpiScanValue_append_byte, ih _ (Nat.div_lt_self positive (by decide))]
      simp only [UInt8.toNat_ofNat_mod]
      omega

/-- A smaller value never needs more bytes. -/
theorem mpiPrint_length_mono {small large : Nat} (le : small ≤ large) :
    (mpiPrint small).length ≤ (mpiPrint large).length := by
  induction large using Nat.strong_induction_on generalizing small with
  | _ large ih =>
    rcases Nat.eq_zero_or_pos small with rfl | positive
    · simp
    · -- Both values are positive, and their quotients keep the same order.
      rw [mpiPrint_pos positive, @mpiPrint_pos large (by omega)]
      simp only [List.length_append, List.length_singleton]
      have quotients := ih (large / 256) (Nat.div_lt_self (by omega) (by decide))
        (Nat.div_le_div_right le)
      omega

/-- Multiplying by a power of 256 appends that many zero bytes. -/
theorem mpiPrint_mul_pow {value : Nat} (positive : 0 < value) (shift : Nat) :
    mpiPrint (value * 256 ^ shift) = mpiPrint value ++ List.replicate shift 0 := by
  induction shift with
  | zero => simp
  | succ shift ih =>
    have shifted : 0 < value * 256 ^ (shift + 1) := Nat.mul_pos positive (Nat.pos_pow_of_pos _ (by decide))
    rw [mpiPrint_pos shifted, Nat.pow_succ, ← Nat.mul_assoc, Nat.mul_div_cancel _ (by decide),
      Nat.mul_mod_left, ih, List.replicate_succ', List.append_assoc]
    rfl

/-- A big integer the library has allocated: the handle that owns it and the value behind it. -/
structure Mpi where
  handle : Nat
  value : Nat
  deriving DecidableEq, Repr

/-- The allocated big integers not yet released, and the handle the next allocation receives. -/
structure Heap where
  next : Nat
  live : List Mpi
  deriving DecidableEq, Repr

namespace Heap

/-- Allocate a big integer holding `value` under a fresh handle. -/
def alloc (heap : Heap) (value : Nat) : Mpi × Heap :=
  -- The new handle is the counter, which is then moved past it.
  (⟨heap.next, value⟩, ⟨heap.next + 1, ⟨heap.next, value⟩ :: heap.live⟩)

/-- A collaborator that may return NULL: allocate only when it returned a value. -/
def allocOpt (heap : Heap) : Option Nat → Option Mpi × Heap
  | none => (none, heap)
  | some value => let (mpi, heap) := heap.alloc value; (some mpi, heap)

/-- `_gnutls_mpi_release`: release the big integer a variable points to, doing nothing on NULL. -/
def release (heap : Heap) : Option Mpi → Heap
  | none => heap
  | some mpi => { heap with live := heap.live.erase mpi }

@[simp] theorem allocOpt_none (heap : Heap) : heap.allocOpt none = (none, heap) := rfl

@[simp] theorem allocOpt_some (heap : Heap) (value : Nat) :
    heap.allocOpt (some value) =
      (some ⟨heap.next, value⟩, ⟨heap.next + 1, ⟨heap.next, value⟩ :: heap.live⟩) := rfl

/-- An allocated big integer holds the value it was allocated for. -/
@[simp] theorem allocOpt_value (heap : Heap) (value : Option Nat) :
    (heap.allocOpt value).1.map Mpi.value = value := by
  cases value <;> rfl

@[simp] theorem release_none (heap : Heap) : heap.release none = heap := rfl

@[simp] theorem release_some (heap : Heap) (mpi : Mpi) :
    heap.release (some mpi) = { heap with live := heap.live.erase mpi } := rfl

/-- Releasing some other big integer, or none, keeps this one allocated or not as it was. -/
theorem mem_release {heap : Heap} {mpi : Mpi} {other : Option Mpi} (differ : other ≠ some mpi) :
    mpi ∈ (heap.release other).live ↔ mpi ∈ heap.live := by
  cases other with
  | none => rfl
  | some other => exact List.mem_erase_of_ne fun same => differ (congrArg some same.symm)

end Heap

end Gnutls
