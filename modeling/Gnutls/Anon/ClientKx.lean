import Gnutls.Anon.Session

/-! The client's key exchange message: `gen_anon_client_kx` writes it and `proc_anon_client_kx` reads it. -/

namespace Gnutls

/-- `_gnutls_generate_key`: copy `KEY` into the raw key bytes, in memory that has to be allocated. -/
def generateKey (o : Oracle) (s : Session) : Session × Except GnutlsError Unit :=
  -- On failure the size is set but the data pointer is NULL.
  if o.secureMalloc then ({ s with key := s.KEY.map fun k => mpiPrint k.value }, .ok ())
  else ({ s with key := none }, .error .memoryError)

/-- Lines 156–166 of `gen_anon_client_kx`: X behind its 16-bit length, after a stray write of byte 0. -/
def clientKxData (X : Nat) : List UInt8 :=
  let nX := (mpiPrint X).length
  -- `gnutls_malloc(n_X + 2)`; every byte of it is written below.
  let data := List.replicate (nX + 2) 0
  let data := writeAt data 2 (mpiPrint X)
  let data := data.set 0 1
  writeAt data 0 (writeUint16 nX.toUInt16)

/-- The client's message is X behind its length taken as a `uint16`; the stray byte is written over. -/
theorem clientKxData_eq (X : Nat) :
    clientKxData X = writeUint16 (mpiPrint X).length.toUInt16 ++ mpiPrint X := by
  have fresh : List.replicate ((mpiPrint X).length + 2) (0 : UInt8) =
      [List.replicate 2 0, List.replicate (mpiPrint X).length 0].flatten := by
    simp only [List.flatten, ← List.replicate_add, List.append_nil]
    congr 1
    omega
  simp only [clientKxData, fresh]
  rw [writeAt_flatten _ 1 (by simp) (by simp) _ (by simp [List.get])]
  -- The stray byte lands in the length field, which is written over next.
  rw [show ([List.replicate 2 0, List.replicate (mpiPrint X).length 0].set 1 (mpiPrint X)).flatten.set 0 1
      = [[1, 0], mpiPrint X].flatten from rfl,
    writeAt_flatten _ 0 (by simp) (by simp) _ (by simp [List.get])]
  simp

/--
`gen_anon_client_kx`: the client's message and the length it returns.

The key is derived from `client_Y` after the message is written; `client_Y`, `client_p` and
`client_g` are released afterwards.
-/
def genAnonClientKx (o : Oracle) (s : Session) : Session × Except GnutlsError (List UInt8 × Nat) :=
  let secret := o.calcDhSecret (s.clientG.map Mpi.value) (s.clientP.map Mpi.value)
  let (x, s) := s.alloc secret.2
  let (X, s) := s.alloc secret.1
  match X with
  | none => (s, .error .memoryError)
  | some X =>
    if !o.mallocData then (s, .error .memoryError) else
    let nX := (mpiPrint X.value).length
    let s := s.free (some X)
    match o.calcDhKey (s.clientY.map Mpi.value) (x.map Mpi.value) (s.clientP.map Mpi.value) with
    | none => (s.set .KEY none, .error .memoryError)
    | some k =>
      let (KEY, s) := s.alloc (some k)
      let s := s.set .KEY KEY
      let s := ((s.release .clientY).release .clientP).release .clientG
      let (s, ret) := generateKey o s
      let s := s.release .KEY
      match ret with
      | .error e => (s, .error e)
      | .ok () => (s, .ok (clientKxData X.value, nX + 2))

/-- Lines 277–281 of `proc_anon_client_kx`: the length checks, giving the length of Y. -/
def clientKxLayout (data : Nat → UInt8) (dataSize : Nat) : Option Nat := do
  let dataSize ← decrLen dataSize 2
  let nY := (readUint16 data 0).toNat
  let _ ← decrLen dataSize nY
  some nY

/-- The length checks pass exactly when the declared public value fits. -/
theorem clientKxLayout_eq (data : Nat → UInt8) (dataSize : Nat) :
    clientKxLayout data dataSize =
      if 2 + (readUint16 data 0).toNat ≤ dataSize then some (readUint16 data 0).toNat else none := by
  simp only [clientKxLayout, decrLen_bind]
  split_ifs <;> first | rfl | omega

/-- Lines 287–309 of `proc_anon_client_kx`: derive the key from `client_Y` and `dh_secret`, then release what was used. -/
def deriveClientKxKey (o : Oracle) (bits : Nat) (s : Session) : Session × Except GnutlsError Unit :=
  -- The modulus is fetched again for the configured size; it is not kept from the first message.
  let params := o.getDhParams bits
  let (p, s) := s.alloc params.2
  let (g, s) := s.alloc params.1
  match g with
  | none => (s, .error .memoryError)
  | some g =>
    match o.calcDhKey (s.clientY.map Mpi.value) (s.dhSecret.map Mpi.value) (p.map Mpi.value) with
    | none => (s.set .KEY none, .error .memoryError)
    | some k =>
      let (KEY, s) := s.alloc (some k)
      let s := s.set .KEY KEY
      let s := (((s.release .clientY).release .dhSecret).free p).free (some g)
      let (s, ret) := generateKey o s
      (s.release .KEY, ret)

/-- Lines 282–309 of `proc_anon_client_kx`: scan Y into `client_Y`, then derive the key. -/
def finishClientKx (o : Oracle) (bits : Nat) (runY : List UInt8) (s : Session) :
    Session × Except GnutlsError Unit :=
  if !o.scanY then (s, .error .mpiScanFailed) else
  let (Y, s) := s.alloc (some (mpiScanValue runY))
  deriveClientKxKey o bits (s.set .clientY Y)

/-- `proc_anon_client_kx`: read the client's public value and derive the server's key. -/
def procAnonClientKx (hdr : Header) (o : Oracle) (data : Nat → UInt8) (dataSize : Nat)
    (s : Session) : Session × Except GnutlsError Unit :=
  let bits := anonBits hdr s
  match clientKxLayout data dataSize with
  | none => (s, .error .unexpectedPacketLength)
  | some nY => finishClientKx o bits (readBytes data 2 nY) s


variable {o : Oracle}

/-- Copying the key changes the raw key bytes only, and fails exactly when the allocation does. -/
theorem generateKey_eq (s : Session) :
    generateKey o s = if o.secureMalloc then ({ s with key := s.KEY.map fun k => mpiPrint k.value }, .ok ())
      else ({ s with key := none }, .error .memoryError) := rfl

/-- What a successful `gen_anon_client_kx` did: the key pair, the derived key and the message. -/
theorem genAnonClientKx_ok {s s' : Session} {data : List UInt8} {n : Nat}
    (ok : genAnonClientKx o s = (s', .ok (data, n))) :
    ∃ X x k, o.calcDhSecret (s.clientG.map Mpi.value) (s.clientP.map Mpi.value) = (some X, x) ∧
      o.calcDhKey (s.clientY.map Mpi.value) x (s.clientP.map Mpi.value) = some k ∧
      data = clientKxData X ∧ n = data.length ∧ s'.key = some (mpiPrint k) ∧
      s'.authInfo = s.authInfo ∧ s'.dhSecret = s.dhSecret ∧ s'.cred = s.cred := by
  rcases secret : o.calcDhSecret (s.clientG.map Mpi.value) (s.clientP.map Mpi.value) with ⟨_ | X, x⟩ <;>
    cases malloc : o.mallocData <;>
    simp only [genAnonClientKx, secret, malloc, Session.alloc, Session.free, Heap.allocOpt_none,
      Heap.allocOpt_some, Bool.not_true, Bool.not_false, if_true, if_false] at ok
  all_goals try simp at ok
  split at ok
  · simp at ok
  · rename_i k key
    cases keyMalloc : o.secureMalloc <;> simp only [generateKey_eq, keyMalloc, if_true, if_false] at ok
    · simp at ok
    · simp only [Prod.mk.injEq, Except.ok.injEq] at ok
      obtain ⟨rfl, rfl, rfl⟩ := ok
      refine ⟨X, x, k, rfl, key, rfl, by simp [clientKxData_eq, Nat.add_comm], ?_⟩
      simp [Session.release, Session.set, Session.get, Session.free]

/-- With the key pair, the key and every allocation there, `gen_anon_client_kx` returns its message and keeps the key. -/
theorem genAnonClientKx_returns {s : Session} {X k : Nat} {x : Option Nat}
    (keygen : o.calcDhSecret (s.clientG.map Mpi.value) (s.clientP.map Mpi.value) = (some X, x))
    (derive : o.calcDhKey (s.clientY.map Mpi.value) x (s.clientP.map Mpi.value) = some k)
    (mallocs : o.mallocData = true ∧ o.secureMalloc = true) :
    (genAnonClientKx o s).2 = .ok (clientKxData X, (mpiPrint X).length + 2) ∧
      (genAnonClientKx o s).1.key = some (mpiPrint k) := by
  cases x <;>
    simp [genAnonClientKx, keygen, Session.alloc, Session.free, mallocs.1] at derive ⊢ <;>
    simp [derive, generateKey_eq, mallocs.2, Session.release, Session.set, Session.get, Session.free]

/-- On every path `gen_anon_client_kx` leaves auth_info, the credentials and `dh_secret` alone. -/
theorem genAnonClientKx_frame (s : Session) :
    let s' := (genAnonClientKx o s).1
    s'.authInfo = s.authInfo ∧ s'.authInfoType = s.authInfoType ∧
      s'.authInfoSize = s.authInfoSize ∧ s'.cred = s.cred ∧ s'.authType = s.authType ∧
      s'.dhSecret = s.dhSecret := by
  rcases secret : o.calcDhSecret (s.clientG.map Mpi.value) (s.clientP.map Mpi.value) with ⟨_ | X, x⟩ <;>
    cases malloc : o.mallocData <;>
    simp only [genAnonClientKx, secret, malloc, Session.alloc, Session.free, Heap.allocOpt_none,
      Heap.allocOpt_some, Bool.not_true, Bool.not_false, if_true, if_false]
  all_goals try trivial
  cases derived : o.calcDhKey (s.clientY.map Mpi.value) x (s.clientP.map Mpi.value) <;>
    cases keyMalloc : o.secureMalloc <;>
    simp [derived, keyMalloc, generateKey_eq, Session.release, Session.set, Session.get, Session.free]

/-- Every failure of `gen_anon_client_kx` is a memory error: it checks no field for presence. -/
theorem genAnonClientKx_error {s : Session} {e : GnutlsError}
    (failed : (genAnonClientKx o s).2 = .error e) : e = .memoryError := by
  rcases secret : o.calcDhSecret (s.clientG.map Mpi.value) (s.clientP.map Mpi.value) with ⟨_ | X, x⟩ <;>
    cases malloc : o.mallocData <;>
    simp only [genAnonClientKx, secret, malloc, Session.alloc, Session.free, Heap.allocOpt_none,
      Heap.allocOpt_some, Bool.not_true, Bool.not_false, if_true, if_false] at failed
  all_goals try (simp at failed; exact failed.symm)
  cases derived : o.calcDhKey (s.clientY.map Mpi.value) x (s.clientP.map Mpi.value) <;>
    cases keyMalloc : o.secureMalloc <;> simp [derived, keyMalloc, generateKey_eq] at failed <;>
    exact failed.symm

/-- What a successful derivation did: the parameters it fetched and the key it copied. -/
theorem deriveClientKxKey_ok {bits : Nat} {s s' : Session}
    (ok : deriveClientKxKey o bits s = (s', .ok ())) :
    ∃ g p k, o.getDhParams bits = (some g, p) ∧
      o.calcDhKey (s.clientY.map Mpi.value) (s.dhSecret.map Mpi.value) p = some k ∧
      s'.key = some (mpiPrint k) ∧ s'.authInfo = s.authInfo := by
  rcases params : o.getDhParams bits with ⟨_ | g, p⟩ <;>
    simp only [deriveClientKxKey, params, Session.alloc, Heap.allocOpt_none, Heap.allocOpt_some] at ok
  · simp at ok
  · simp only [Option.map_some', Heap.allocOpt_value] at ok
    cases derived : o.calcDhKey (s.clientY.map Mpi.value) (s.dhSecret.map Mpi.value) p <;>
      cases keyMalloc : o.secureMalloc <;>
      simp [derived, keyMalloc, generateKey_eq] at ok
    obtain ⟨rfl, -⟩ := ok
    exact ⟨g, p, _, rfl, derived, by simp [Session.release, Session.set, Session.get, Session.free], rfl⟩

/-- On every path the derivation leaves auth_info and the credentials alone, and fails only for memory. -/
theorem deriveClientKxKey_frame (bits : Nat) (s : Session) :
    let r := deriveClientKxKey o bits s
    r.1.authInfo = s.authInfo ∧ r.1.authInfoType = s.authInfoType ∧
      r.1.authInfoSize = s.authInfoSize ∧ r.1.cred = s.cred ∧ r.1.authType = s.authType ∧
      ∀ e, r.2 = .error e → e = .memoryError := by
  rcases params : o.getDhParams bits with ⟨_ | g, p⟩ <;>
    simp only [deriveClientKxKey, params, Session.alloc, Heap.allocOpt_none, Heap.allocOpt_some]
  · simp
  · simp only [Option.map_some', Heap.allocOpt_value]
    cases derived : o.calcDhKey (s.clientY.map Mpi.value) (s.dhSecret.map Mpi.value) p <;>
      cases keyMalloc : o.secureMalloc <;>
      simp [derived, keyMalloc, generateKey_eq, Session.release, Session.set, Session.get, Session.free]

/-- What a successful scan and derivation did: the parameters, the key from the scanned value, and auth_info kept. -/
theorem finishClientKx_ok {bits : Nat} {runY : List UInt8} {s s' : Session}
    (ok : finishClientKx o bits runY s = (s', .ok ())) :
    ∃ g p k, o.getDhParams bits = (some g, p) ∧
      o.calcDhKey (some (mpiScanValue runY)) (s.dhSecret.map Mpi.value) p = some k ∧
      s'.key = some (mpiPrint k) ∧ s'.authInfo = s.authInfo := by
  cases scan : o.scanY <;> simp only [finishClientKx, scan, Bool.not_false, Bool.not_true, if_true,
    Bool.false_eq_true, if_false] at ok
  · simp at ok
  · simpa [Session.alloc, Session.set] using deriveClientKxKey_ok ok

/-- With the scan, the parameters, the key and the allocation there, the scan and derivation return and keep the key. -/
theorem finishClientKx_returns {bits g k : Nat} {p : Option Nat} {runY : List UInt8} {s : Session}
    (scan : o.scanY = true) (params : o.getDhParams bits = (some g, p))
    (derive : o.calcDhKey (some (mpiScanValue runY)) (s.dhSecret.map Mpi.value) p = some k)
    (malloc : o.secureMalloc = true) :
    (finishClientKx o bits runY s).2 = .ok () ∧
      (finishClientKx o bits runY s).1.key = some (mpiPrint k) := by
  simp [finishClientKx, deriveClientKxKey, scan, params, Session.alloc, Session.set] at derive ⊢
  simp [derive, generateKey_eq, malloc, Session.release, Session.set, Session.get, Session.free]

/-- With the scan there, the derivation runs on the session whose `client_Y` holds the scanned value under the next handle. -/
theorem finishClientKx_scanned {bits : Nat} {runY : List UInt8} (scan : o.scanY = true) (s : Session) :
    finishClientKx o bits runY s = deriveClientKxKey o bits
      ({ s with heap := ⟨s.heap.next + 1, ⟨s.heap.next, mpiScanValue runY⟩ :: s.heap.live⟩ }.set .clientY
        (some ⟨s.heap.next, mpiScanValue runY⟩)) := by
  simp [finishClientKx, scan, Session.alloc]

/--
With the scan there but no generator or no key, the derivation fails for memory with the scanned
value left in `client_Y`: nothing checked `dh_secret` or the parameters before.
-/
theorem finishClientKx_unkeyed {bits : Nat} {runY : List UInt8} {s : Session} (scan : o.scanY = true)
    (failed : (o.getDhParams bits).1 = none ∨
      o.calcDhKey (some (mpiScanValue runY)) (s.dhSecret.map Mpi.value) (o.getDhParams bits).2 = none) :
    (finishClientKx o bits runY s).2 = .error .memoryError ∧
      (finishClientKx o bits runY s).1.clientY = some ⟨s.heap.next, mpiScanValue runY⟩ := by
  rw [finishClientKx_scanned scan]
  simp only [deriveClientKxKey]
  generalize o.getDhParams bits = params at failed ⊢
  rcases params with ⟨_ | g, p⟩
  · -- No generator: the exit comes before the key is computed.
    simp [Session.alloc, Session.set]
  · simp only [reduceCtorEq, false_or] at failed
    simp [Session.alloc, Session.set, failed]

/-- `gen_anon_client_kx` never reads auth_info, its tag or its size, and writes none of them. -/
theorem genAnonClientKx_withAuth (s : Session) (info : Option AuthInfo) (type : CredType) (size : Nat) :
    genAnonClientKx o { s with authInfo := info, authInfoType := type, authInfoSize := size } =
      ({ (genAnonClientKx o s).1 with authInfo := info, authInfoType := type, authInfoSize := size },
        (genAnonClientKx o s).2) := by
  rcases secret : o.calcDhSecret (s.clientG.map Mpi.value) (s.clientP.map Mpi.value) with ⟨_ | X, x⟩ <;>
    cases malloc : o.mallocData <;>
    simp only [genAnonClientKx, secret, malloc, Session.alloc, Session.free, Heap.allocOpt_none,
      Heap.allocOpt_some, Bool.not_true, Bool.not_false, if_true, if_false]
  cases derived : o.calcDhKey (s.clientY.map Mpi.value) x (s.clientP.map Mpi.value) <;>
    cases keyMalloc : o.secureMalloc <;>
    simp [derived, keyMalloc, generateKey_eq, Session.release, Session.set, Session.get, Session.free]

/-- The derivation never reads auth_info, its tag or its size, and writes none of them. -/
theorem deriveClientKxKey_withAuth (bits : Nat) (s : Session) (info : Option AuthInfo) (type : CredType)
    (size : Nat) :
    deriveClientKxKey o bits { s with authInfo := info, authInfoType := type, authInfoSize := size } =
      ({ (deriveClientKxKey o bits s).1 with authInfo := info, authInfoType := type, authInfoSize := size },
        (deriveClientKxKey o bits s).2) := by
  rcases params : o.getDhParams bits with ⟨_ | g, p⟩ <;>
    simp only [deriveClientKxKey, params, Session.alloc, Heap.allocOpt_none, Heap.allocOpt_some]
  simp only [Option.map_some', Heap.allocOpt_value]
  cases derived : o.calcDhKey (s.clientY.map Mpi.value) (s.dhSecret.map Mpi.value) p <;>
    cases keyMalloc : o.secureMalloc <;>
    simp [derived, keyMalloc, generateKey_eq, Session.release, Session.set, Session.get, Session.free]

/-- `proc_anon_client_kx` never reads auth_info, its tag or its size, and writes none of them. -/
theorem procAnonClientKx_withAuth (hdr : Header) (data : Nat → UInt8) (dataSize : Nat) (s : Session)
    (info : Option AuthInfo) (type : CredType) (size : Nat) :
    procAnonClientKx hdr o data dataSize { s with authInfo := info, authInfoType := type, authInfoSize := size } =
      let r := procAnonClientKx hdr o data dataSize s
      ({ r.1 with authInfo := info, authInfoType := type, authInfoSize := size }, r.2) := by
  -- `anonBits` reads the credentials only, so both sides fetch the same parameters.
  rcases layout : clientKxLayout data dataSize with _ | nY <;> simp only [procAnonClientKx, layout]
  cases scan : o.scanY
  · simp [finishClientKx, scan]
  · rw [finishClientKx_scanned scan, finishClientKx_scanned scan]
    exact deriveClientKxKey_withAuth _ ({ s with heap := ⟨s.heap.next + 1,
      ⟨s.heap.next, mpiScanValue (readBytes data 2 nY)⟩ :: s.heap.live⟩ }.set .clientY
        (some ⟨s.heap.next, mpiScanValue (readBytes data 2 nY)⟩)) info type size

/-- On a message `gen_anon_client_kx` wrote, with a value short enough for its length, the length
checks pass and the public value scanned is the one written. -/
theorem procAnonClientKx_clientKxData (hdr : Header) {X : Nat} (fit : (mpiPrint X).length < 65536)
    (s : Session) :
    procAnonClientKx hdr o (bufferOf (clientKxData X)) (clientKxData X).length s =
      finishClientKx o (anonBits hdr s) (mpiPrint X) s := by
  simp only [procAnonClientKx, clientKxLayout_eq, clientKxData_eq, readUint16_length _ _ fit,
    List.length_append, writeUint16_length, Nat.add_comm 2, le_refl, if_true]
  rw [show 2 = (writeUint16 (mpiPrint X).length.toUInt16).length + 0 by simp, readBytes_append,
    readBytes_whole]

/-- On every path `proc_anon_client_kx` leaves auth_info alone and never refuses the request; a
length or scan failure leaves the whole session as it was. -/
theorem procAnonClientKx_frame (hdr : Header) (data : Nat → UInt8) (dataSize : Nat) (s : Session) :
    let r := procAnonClientKx hdr o data dataSize s
    r.1.authInfo = s.authInfo ∧ r.1.authInfoType = s.authInfoType ∧
      r.1.authInfoSize = s.authInfoSize ∧
      (r.2 = .error .unexpectedPacketLength ∨ r.2 = .error .mpiScanFailed → r.1 = s) ∧
      r.2 ≠ .error .invalidRequest := by
  simp only [procAnonClientKx]
  cases clientKxLayout data dataSize with
  | none => simp
  | some nY =>
    simp only [finishClientKx]
    cases scan : o.scanY
    · simp
    · -- Past the scan, only the derivation can fail, and only for memory.
      obtain ⟨info, type, size, -, -, memory⟩ := deriveClientKxKey_frame (o := o) (anonBits hdr s)
        ((s.alloc (some (mpiScanValue (readBytes data 2 nY)))).2.set .clientY
          (s.alloc (some (mpiScanValue (readBytes data 2 nY)))).1)
      simp only [Bool.not_true, Bool.false_eq_true, if_false]
      refine ⟨by simpa [Session.alloc, Session.set] using info, by simpa [Session.alloc, Session.set] using type,
        by simpa [Session.alloc, Session.set] using size, ?_, ?_⟩
      · rintro (failed | failed) <;> cases memory _ failed
      · intro failed
        cases memory _ failed
end Gnutls
