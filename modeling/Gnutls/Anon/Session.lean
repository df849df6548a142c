import Gnutls.Num

/-! The session state the anonymous Diffie-Hellman key exchange reads and writes, and the collaborators it calls. -/

namespace Gnutls

/-- Error codes the key exchange returns. -/
inductive GnutlsError where
  /-- `GNUTLS_E_MEMORY_ERROR`, also returned when a collaborator hands back NULL. -/
  | memoryError
  /-- `GNUTLS_E_INVALID_REQUEST`. -/
  | invalidRequest
  /-- `GNUTLS_E_UNEXPECTED_PACKET_LENGTH`. -/
  | unexpectedPacketLength
  /-- `GNUTLS_E_MPI_SCAN_FAILED`. -/
  | mpiScanFailed
  deriving DecidableEq, Repr

/-- The credential type a key exchange method tags its auth_info with. -/
inductive CredType where
  /-- `GNUTLS_ANON`. -/
  | anon
  /-- The type of some other key exchange method. -/
  | other (code : Nat)
  deriving DecidableEq, Repr

/-- `ANON_SERVER_AUTH_INFO_INT` and `ANON_CLIENT_AUTH_INFO_INT`, of which this code writes one field. -/
structure AuthInfo where
  dhBits : Nat
  deriving DecidableEq, Repr

/-- `GNUTLS_ANON_SERVER_CREDENTIALS`, of which this code reads the configured modulus size. -/
structure AnonServerCredentials where
  dhBits : Nat
  deriving DecidableEq, Repr

/--
One session as the four operations see it: the fields of `state->gnutls_key` they touch,
the type `gnutls_auth_get_type` reports for the negotiated method, and the allocated big integers.
-/
structure Session where
  dhSecret : Option Mpi
  clientP : Option Mpi
  clientG : Option Mpi
  clientY : Option Mpi
  KEY : Option Mpi
  key : Option (List UInt8)
  authInfo : Option AuthInfo
  authInfoType : CredType
  authInfoSize : Nat
  cred : Option AnonServerCredentials
  authType : CredType
  heap : Heap
  deriving DecidableEq, Repr

/-- Constants the source takes from headers it does not contain. -/
structure Header where
  /-- `DEFAULT_BITS`, the modulus size used without anon credentials. -/
  defaultBits : Nat
  /-- `sizeof(ANON_SERVER_AUTH_INFO_INT)`. -/
  sizeofAnonServerAuthInfo : Nat
  /-- `sizeof(ANON_CLIENT_AUTH_INFO_INT)`. -/
  sizeofAnonClientAuthInfo : Nat

/-- What the collaborators outside the source answer during one call of an operation. -/
structure Oracle where
  /-- `gnutls_get_dh_params(&p, bits)`: the generator and the modulus, either of them possibly NULL. -/
  getDhParams : Nat → Option Nat × Option Nat
  /-- `gnutls_calc_dh_secret(&x, g, p)`: the public value and the private exponent, either possibly NULL. -/
  calcDhSecret : Option Nat → Option Nat → Option Nat × Option Nat
  /-- `gnutls_calc_dh_key(Y, x, p)`: the shared value, or NULL. -/
  calcDhKey : Option Nat → Option Nat → Option Nat → Option Nat
  /-- Whether `gnutls_malloc` of a new auth_info block succeeds. -/
  mallocAuthInfo : Bool
  /-- Whether `gnutls_malloc` of the outgoing message succeeds. -/
  mallocData : Bool
  /-- Whether `gnutls_secure_malloc` of the raw key succeeds. -/
  secureMalloc : Bool
  /-- Whether `_gnutls_mpi_scan` of the public value succeeds. -/
  scanY : Bool
  /-- Whether `_gnutls_mpi_scan` of the generator succeeds. -/
  scanG : Bool
  /-- Whether `_gnutls_mpi_scan` of the modulus succeeds. -/
  scanP : Bool

/-- The session fields that hold a big integer. -/
inductive MpiField where
  | dhSecret
  | clientP
  | clientG
  | clientY
  | KEY
  deriving DecidableEq, Repr

namespace MpiField

/-- Every big-integer field, in the order the session declares them. -/
def all : List MpiField := [dhSecret, clientP, clientG, clientY, KEY]

theorem mem_all (field : MpiField) : field ∈ all := by
  cases field <;> simp [all]

end MpiField

namespace Session

/-- A session before its first key exchange: nothing allocated, no key and no auth_info. -/
def init (cred : Option AnonServerCredentials) (authType : CredType) : Session :=
  -- The tag of a NULL auth_info is never read.
  { dhSecret := none, clientP := none, clientG := none, clientY := none, KEY := none, key := none,
    authInfo := none, authInfoType := authType, authInfoSize := 0, cred := cred,
    authType := authType, heap := ⟨0, []⟩ }

/-- The big integer a field holds. -/
def get (s : Session) : MpiField → Option Mpi
  | .dhSecret => s.dhSecret
  | .clientP => s.clientP
  | .clientG => s.clientG
  | .clientY => s.clientY
  | .KEY => s.KEY

/-- Point a field at a big integer, or at NULL, leaving whatever it held before. -/
def set (s : Session) (field : MpiField) (value : Option Mpi) : Session :=
  -- Only the named field changes; the others keep their pointers.
  { s with
    dhSecret := if field = .dhSecret then value else s.dhSecret
    clientP := if field = .clientP then value else s.clientP
    clientG := if field = .clientG then value else s.clientG
    clientY := if field = .clientY then value else s.clientY
    KEY := if field = .KEY then value else s.KEY }

/-- Allocate what a collaborator returned, if it returned anything. -/
def alloc (s : Session) (value : Option Nat) : Option Mpi × Session :=
  ((s.heap.allocOpt value).1, { s with heap := (s.heap.allocOpt value).2 })

/-- `_gnutls_mpi_release` of a local variable. -/
def free (s : Session) (mpi : Option Mpi) : Session :=
  { s with heap := s.heap.release mpi }

/-- `_gnutls_mpi_release` of a session field: release what it holds and point it at NULL. -/
def release (s : Session) (field : MpiField) : Session :=
  (s.set field none).free (s.get field)

/-- Some field of the session holds this big integer. -/
def holds (s : Session) (mpi : Mpi) : Bool :=
  MpiField.all.any fun field => s.get field == some mpi

/-- Big integers still allocated that no field of the session holds: nothing can release them any more. -/
def leaked (s : Session) : List Mpi :=
  s.heap.live.filter fun mpi => !s.holds mpi

@[simp] theorem get_set_self (s : Session) (field : MpiField) (value : Option Mpi) :
    (s.set field value).get field = value := by
  cases field <;> simp [get, set]

@[simp] theorem get_set_of_ne (s : Session) {field other : MpiField} (value : Option Mpi)
    (differ : field ≠ other) : (s.set field value).get other = s.get other := by
  cases field <;> cases other <;> simp_all [get, set]

/-- Reading a field after pointing one at a value. -/
theorem get_set (s : Session) (field other : MpiField) (value : Option Mpi) :
    (s.set field value).get other = if field = other then value else s.get other := by
  split_ifs with same
  · exact same ▸ get_set_self s field value
  · exact get_set_of_ne s value same

/-- No field holds the big integer exactly when `holds` says so. -/
theorem holds_eq_false {s : Session} {mpi : Mpi} :
    s.holds mpi = false ↔ ∀ field, s.get field ≠ some mpi := by
  simp only [holds, List.any_eq_false, beq_iff_eq]
  exact ⟨fun unheld field => unheld field (MpiField.mem_all field), fun unheld field _ => unheld field⟩

/-- A leaked big integer is one still allocated that no field holds. -/
theorem mem_leaked {s : Session} {mpi : Mpi} :
    mpi ∈ s.leaked ↔ mpi ∈ s.heap.live ∧ ∀ field, s.get field ≠ some mpi := by
  simp only [leaked, List.mem_filter, Bool.not_eq_true', holds_eq_false]

@[simp] theorem get_free (s : Session) (mpi : Option Mpi) (field : MpiField) :
    (s.free mpi).get field = s.get field := by
  cases field <;> rfl

@[simp] theorem get_alloc (s : Session) (value : Option Nat) (field : MpiField) :
    (s.alloc value).2.get field = s.get field := by
  cases field <;> rfl

/-- An allocation hands back NULL and changes nothing, or hands back the next handle and adds it to the heap. -/
theorem alloc_cases {s s' : Session} {value : Option Nat} {mpi : Option Mpi}
    (allocated : s.alloc value = (mpi, s')) :
    (mpi = none ∧ s' = s) ∨
      ∃ v, mpi = some ⟨s.heap.next, v⟩ ∧
        s' = { s with heap := ⟨s.heap.next + 1, ⟨s.heap.next, v⟩ :: s.heap.live⟩ } := by
  cases value with
  | none => exact .inl ⟨(Prod.mk.inj allocated).1.symm, (Prod.mk.inj allocated).2.symm⟩
  | some v => exact .inr ⟨v, (Prod.mk.inj allocated).1.symm, (Prod.mk.inj allocated).2.symm⟩

end Session

/-- Lines 77–82 and 270–275: the configured modulus size, or `DEFAULT_BITS` without anon credentials. -/
def anonBits (hdr : Header) (s : Session) : Nat :=
  match s.cred with
  | none => hdr.defaultBits
  | some cred => cred.dhBits

end Gnutls
