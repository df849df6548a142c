import Gnutls.Anon.Session

/-! The server's key exchange message: `gen_anon_server_kx` writes it and `proc_anon_server_kx` reads it. -/

namespace Gnutls

/-- Lines 90–101 of `gen_anon_server_kx`: allocate auth_info or check its tag, then record the modulus size. -/
def serverAuthInfo (hdr : Header) (o : Oracle) (p : Nat) (s : Session) : Except GnutlsError Session :=
  match s.authInfo with
  | none =>
    -- A new block is tagged as anon info of the server's size.
    if o.mallocAuthInfo then
      .ok { s with authInfo := some ⟨mpiGetNbits p⟩, authInfoType := .anon,
                   authInfoSize := hdr.sizeofAnonServerAuthInfo }
    else .error .memoryError
  | some _ =>
    -- A block already there must carry the tag of the negotiated method.
    if s.authType ≠ s.authInfoType then .error .invalidRequest
    else .ok { s with authInfo := some ⟨mpiGetNbits p⟩ }

/-- Lines 114–140 of `gen_anon_server_kx`: p, g and X, each written behind its 16-bit length. -/
def serverKxData (p g X : Nat) : List UInt8 :=
  let nG := (mpiPrint g).length
  let nP := (mpiPrint p).length
  let nX := (mpiPrint X).length
  -- `gnutls_malloc(n_g + n_p + n_X + 6)`; every byte of it is written below.
  let data := List.replicate (nG + nP + nX + 6) 0
  let data := writeAt data 2 (mpiPrint p)
  let data := writeAt data 0 (writeUint16 nP.toUInt16)
  let data := writeAt data (2 + nP + 2) (mpiPrint g)
  let data := writeAt data (2 + nP) (writeUint16 nG.toUInt16)
  let data := writeAt data (2 + nP + 2 + nG + 2) (mpiPrint X)
  writeAt data (2 + nP + 2 + nG) (writeUint16 nX.toUInt16)

/-- Lines 103–142 of `gen_anon_server_kx`: the key pair, `dh_secret`, and the message. -/
def serverKxSecret (o : Oracle) (g p : Mpi) (s : Session) :
    Session × Except GnutlsError (List UInt8 × Nat) :=
  let secret := o.calcDhSecret (some g.value) (some p.value)
  let (x, s) := s.alloc secret.2
  let (X, s) := s.alloc secret.1
  match X, x with
  | some X, some x =>
    -- Whatever `dh_secret` held before is overwritten, not released.
    let s := s.set .dhSecret (some x)
    if o.mallocData then
      (((s.free (some p)).free (some g)).free (some X),
        .ok (serverKxData p.value g.value X.value,
          (mpiPrint p.value).length + (mpiPrint g.value).length + (mpiPrint X.value).length + 6))
    else (((s.free (some X)).free (some g)).free (some p), .error .memoryError)
  | X, x => ((((s.free (some g)).free (some p)).free x).free X, .error .memoryError)

/--
`gen_anon_server_kx`: the server's message and the length it returns.

The private exponent stays in `dh_secret` for `proc_anon_client_kx`.
-/
def genAnonServerKx (hdr : Header) (o : Oracle) (s : Session) :
    Session × Except GnutlsError (List UInt8 × Nat) :=
  let params := o.getDhParams (anonBits hdr s)
  let (p, s) := s.alloc params.2
  let (g, s) := s.alloc params.1
  match g, p with
  | some g, some p =>
    match serverAuthInfo hdr o p.value s with
    | .error e => (s, .error e)
    | .ok s => serverKxSecret o g p s
  | _, _ => (s, .error .memoryError)

/-- The fresh buffer is six zero segments: three lengths and the three fields. -/
private theorem serverKxData_fresh (nP nG nX : Nat) :
    List.replicate (nG + nP + nX + 6) (0 : UInt8) =
      [List.replicate 2 0, List.replicate nP 0, List.replicate 2 0, List.replicate nG 0,
        List.replicate 2 0, List.replicate nX 0].flatten := by
  simp only [List.flatten, ← List.replicate_add, List.append_nil]
  congr 1
  omega

/-- The server's message is p, g and X in order, each behind its length taken as a `uint16`. -/
theorem serverKxData_eq (p g X : Nat) :
    serverKxData p g X =
      writeUint16 (mpiPrint p).length.toUInt16 ++ mpiPrint p ++
      writeUint16 (mpiPrint g).length.toUInt16 ++ mpiPrint g ++
      writeUint16 (mpiPrint X).length.toUInt16 ++ mpiPrint X := by
  simp only [serverKxData, serverKxData_fresh]
  -- Each of the six writes fills exactly one segment.
  rw [writeAt_flatten _ 1 (by simp) (by simp) _ (by simp [List.get]),
    writeAt_flatten _ 0 (by simp) (by simp) _ (by simp [List.get]),
    writeAt_flatten _ 3 (by simp) (by simp; omega) _ (by simp [List.get]),
    writeAt_flatten _ 2 (by simp) (by simp) _ (by simp [List.get]),
    writeAt_flatten _ 5 (by simp) (by simp; omega) _ (by simp [List.get]),
    writeAt_flatten _ 4 (by simp) (by simp; omega) _ (by simp [List.get])]
  simp [List.append_assoc]

/-- Where the three fields of a server message lie, as the length checks found them. -/
structure ServerKxLayout where
  dataP : Nat
  nP : Nat
  dataG : Nat
  nG : Nat
  dataY : Nat
  nY : Nat
  deriving DecidableEq, Repr

/-- Lines 196–222 of `proc_anon_server_kx`: the length checks, and where each field starts. -/
def serverKxLayout (data : Nat → UInt8) (dataSize : Nat) : Option ServerKxLayout := do
  let i := 0
  let dataSize ← decrLen dataSize 2
  let nP := (readUint16 data i).toNat
  let i := i + 2
  let dataSize ← decrLen dataSize nP
  let dataP := i
  let i := i + nP
  -- The read index is compared with the remaining length, not with the message size.
  if i > dataSize then none
  let dataSize ← decrLen dataSize 2
  let nG := (readUint16 data i).toNat
  let i := i + 2
  let dataSize ← decrLen dataSize nG
  let dataG := i
  let i := i + nG
  let dataSize ← decrLen dataSize 2
  let nY := (readUint16 data i).toNat
  let i := i + 2
  let _ ← decrLen dataSize nY
  some ⟨dataP, nP, dataG, nG, i, nY⟩

/--
The length checks pass exactly when the three declared fields fit, and the modulus is not longer
than what follows it: the index after p is compared with the length left after p.
-/
theorem serverKxLayout_eq (data : Nat → UInt8) (dataSize : Nat) :
    serverKxLayout data dataSize =
      let nP := (readUint16 data 0).toNat
      let nG := (readUint16 data (2 + nP)).toNat
      let nY := (readUint16 data (4 + nP + nG)).toNat
      if 6 + nP + nG + nY ≤ dataSize ∧ 4 + 2 * nP ≤ dataSize then
        some ⟨2, nP, 4 + nP, nG, 6 + nP + nG, nY⟩
      else none := by
  -- The code advances its index two bytes at a time; gather the constants.
  have twice : ∀ a : Nat, 2 + a + 2 = 4 + a := fun a => by omega
  have thrice : ∀ a b : Nat, 4 + a + b + 2 = 6 + a + b := fun a b => by omega
  -- Every check either stops with none or goes on, so the checks merge into one condition.
  simp only [serverKxLayout, decrLen_bind, Nat.zero_add, Option.bind_eq_bind, Option.none_bind,
    pure_bind, twice, thrice, (ite_not _ _ none).symm, ← ite_and]
  exact if_congr (by omega) rfl rfl

/-- Record the modulus size and tag auth_info as the client's anon info. -/
def recordClientAuthInfo (hdr : Header) (p : Nat) (s : Session) : Session :=
  { s with authInfo := some ⟨mpiGetNbits p⟩, authInfoSize := hdr.sizeofAnonClientAuthInfo,
           authInfoType := .anon }

/-- Lines 243–254 of `proc_anon_server_kx`: allocate auth_info or check its tag, then record it. -/
def clientAuthInfo (hdr : Header) (o : Oracle) (p : Nat) (s : Session) :
    Except GnutlsError Session :=
  match s.authInfo with
  | none => if o.mallocAuthInfo then .ok (recordClientAuthInfo hdr p s) else .error .memoryError
  | some _ =>
    if s.authType ≠ s.authInfoType then .error .invalidRequest
    else .ok (recordClientAuthInfo hdr p s)

/-- Lines 228–260 of `proc_anon_server_kx`: scan Y, g and p straight into the session, then record the auth info. -/
def storeServerKx (hdr : Header) (o : Oracle) (runY runG runP : List UInt8) (s : Session) :
    Session × Except GnutlsError Unit :=
  if !o.scanY then (s, .error .mpiScanFailed) else
  let (Y, s) := s.alloc (some (mpiScanValue runY))
  let s := s.set .clientY Y
  if !o.scanG then (s, .error .mpiScanFailed) else
  let (G, s) := s.alloc (some (mpiScanValue runG))
  let s := s.set .clientG G
  if !o.scanP then (s, .error .mpiScanFailed) else
  let (P, s) := s.alloc (some (mpiScanValue runP))
  let s := s.set .clientP P
  match clientAuthInfo hdr o (mpiScanValue runP) s with
  | .error e => (s, .error e)
  | .ok s => (s, .ok ())

/-- `proc_anon_server_kx`: read the server's message into `client_p`, `client_g` and `client_Y`. -/
def procAnonServerKx (hdr : Header) (o : Oracle) (data : Nat → UInt8) (dataSize : Nat)
    (s : Session) : Session × Except GnutlsError Unit :=
  match serverKxLayout data dataSize with
  | none => (s, .error .unexpectedPacketLength)
  | some l =>
    storeServerKx hdr o (readBytes data l.dataY l.nY) (readBytes data l.dataG l.nG)
      (readBytes data l.dataP l.nP) s


variable {hdr : Header} {o : Oracle}

/-- `proc_anon_server_kx` on any memory: a length error, or the store on the three declared runs. -/
theorem procAnonServerKx_eq (data : Nat → UInt8) (dataSize : Nat) (s : Session) :
    procAnonServerKx hdr o data dataSize s =
      let nP := (readUint16 data 0).toNat
      let nG := (readUint16 data (2 + nP)).toNat
      let nY := (readUint16 data (4 + nP + nG)).toNat
      if 6 + nP + nG + nY ≤ dataSize ∧ 4 + 2 * nP ≤ dataSize then
        storeServerKx hdr o (readBytes data (6 + nP + nG) nY) (readBytes data (4 + nP) nG)
          (readBytes data 2 nP) s
      else (s, .error .unexpectedPacketLength) := by
  simp only [procAnonServerKx, serverKxLayout_eq]
  split_ifs <;> rfl

/-- A successful check leaves auth_info holding the modulus size, tagged anon if it was new. -/
theorem serverAuthInfo_ok {p : Nat} {s s' : Session} (ok : serverAuthInfo hdr o p s = .ok s') :
    s' = { s with authInfo := some ⟨mpiGetNbits p⟩,
                  authInfoType := if s.authInfo = none then .anon else s.authInfoType,
                  authInfoSize := if s.authInfo = none then hdr.sizeofAnonServerAuthInfo
                    else s.authInfoSize } ∧
      (s.authInfo = none ∨ s.authInfoType = s.authType) := by
  unfold serverAuthInfo at ok
  cases info : s.authInfo <;> simp only [info] at ok <;> split at ok <;> cases ok
  · simp
  · simp_all

/-- An auth_info block tagged for another method than the negotiated one is refused. -/
theorem serverAuthInfo_mismatch {p : Nat} {s : Session} (present : s.authInfo ≠ none)
    (mismatch : s.authType ≠ s.authInfoType) : serverAuthInfo hdr o p s = .error .invalidRequest := by
  obtain ⟨info, found⟩ := Option.ne_none_iff_exists'.mp present
  simp [serverAuthInfo, found, mismatch]

/-- Generating the key pair touches only `dh_secret` and the allocated big integers. -/
theorem serverKxSecret_frame (g p : Mpi) (s : Session) :
    ∃ secret heap, (serverKxSecret o g p s).1 = { s with dhSecret := secret, heap := heap } := by
  rcases secret : o.calcDhSecret (some g.value) (some p.value) with ⟨_ | X, _ | x⟩ <;>
    cases malloc : o.mallocData <;>
    simp [serverKxSecret, Session.alloc, Session.free, Session.set, secret, malloc]

/-- A successful key pair step keeps the private exponent and writes p, g and X. -/
theorem serverKxSecret_ok {g p : Mpi} {s s' : Session} {data : List UInt8} {n : Nat}
    (ok : serverKxSecret o g p s = (s', .ok (data, n))) :
    ∃ X x, o.calcDhSecret (some g.value) (some p.value) = (some X, some x) ∧
      data = serverKxData p.value g.value X ∧ n = data.length ∧
      s'.dhSecret.map Mpi.value = some x ∧ s' = { s with dhSecret := s'.dhSecret, heap := s'.heap } := by
  rcases secret : o.calcDhSecret (some g.value) (some p.value) with ⟨_ | X, _ | x⟩ <;>
    cases malloc : o.mallocData <;>
    simp [serverKxSecret, Session.alloc, Session.free, Session.set, secret, malloc] at ok
  obtain ⟨rfl, rfl, rfl⟩ := ok
  refine ⟨X, x, rfl, rfl, ?_, by simp, rfl⟩
  simp [serverKxData_eq]
  omega

/-- What a successful `gen_anon_server_kx` did: the parameters, the key pair, the message and auth_info. -/
theorem genAnonServerKx_ok {s s' : Session} {data : List UInt8} {n : Nat}
    (ok : genAnonServerKx hdr o s = (s', .ok (data, n))) :
    ∃ g p X x, o.getDhParams (anonBits hdr s) = (some g, some p) ∧
      o.calcDhSecret (some g) (some p) = (some X, some x) ∧
      data = serverKxData p g X ∧ n = data.length ∧
      s'.dhSecret.map Mpi.value = some x ∧ s'.cred = s.cred ∧ s'.authType = s.authType ∧
      s'.authInfo = some ⟨mpiGetNbits p⟩ ∧
      s'.authInfoType = (if s.authInfo = none then .anon else s.authInfoType) ∧
      s'.authInfoSize =
        (if s.authInfo = none then hdr.sizeofAnonServerAuthInfo else s.authInfoSize) ∧
      (s.authInfo = none ∨ s.authInfoType = s.authType) := by
  rcases params : o.getDhParams (anonBits hdr s) with ⟨_ | g, _ | p⟩ <;>
    simp only [genAnonServerKx, Session.alloc, params, Heap.allocOpt_none, Heap.allocOpt_some] at ok
  all_goals try simp at ok
  split at ok
  · simp at ok
  · rename_i checked auth
    obtain ⟨rfl, compatible⟩ := serverAuthInfo_ok auth
    obtain ⟨X, x, secret, rfl, rfl, kept, frame⟩ := serverKxSecret_ok ok
    rw [frame]
    refine ⟨g, p, X, x, rfl, secret, rfl, rfl, kept, ?_⟩
    simpa using compatible

/-- auth_info new and allocated, or of the negotiated type: the check passes. -/
theorem serverAuthInfo_of_compatible {p : Nat} {s : Session} (malloc : o.mallocAuthInfo = true)
    (compatible : s.authInfo = none ∨ s.authInfoType = s.authType) (e : GnutlsError) :
    serverAuthInfo hdr o p s ≠ .error e := by
  unfold serverAuthInfo
  rcases compatible with fresh | same
  · simp [fresh, malloc]
  · cases s.authInfo <;> simp [malloc, same]

/--
With the parameters, the key pair and every allocation there, and auth_info new or of the
negotiated type, `gen_anon_server_kx` returns its message and the length it computed.
-/
theorem genAnonServerKx_returns {g p X x : Nat} {s : Session}
    (params : o.getDhParams (anonBits hdr s) = (some g, some p))
    (keygen : o.calcDhSecret (some g) (some p) = (some X, some x))
    (mallocs : o.mallocAuthInfo = true ∧ o.mallocData = true)
    (compatible : s.authInfo = none ∨ s.authInfoType = s.authType) :
    (genAnonServerKx hdr o s).2 =
      .ok (serverKxData p g X, (mpiPrint p).length + (mpiPrint g).length + (mpiPrint X).length + 6) := by
  simp only [genAnonServerKx, Session.alloc, params, Heap.allocOpt_some]
  split
  · rename_i e auth
    exact absurd auth (serverAuthInfo_of_compatible mallocs.1 (by exact compatible) e)
  · simp [serverKxSecret, Session.alloc, keygen, mallocs.2]

/-- On every path auth_info is left alone, or is what a successful check made of it. -/
theorem genAnonServerKx_auth (s : Session) :
    let s' := (genAnonServerKx hdr o s).1
    (s'.authInfo = s.authInfo ∧ s'.authInfoType = s.authInfoType ∧
        s'.authInfoSize = s.authInfoSize) ∨
      ∃ p, s'.authInfo = some ⟨mpiGetNbits p⟩ ∧
        s'.authInfoType = (if s.authInfo = none then .anon else s.authInfoType) ∧
        s'.authInfoSize =
          (if s.authInfo = none then hdr.sizeofAnonServerAuthInfo else s.authInfoSize) ∧
        (s.authInfo = none ∨ s.authInfoType = s.authType) := by
  rcases params : o.getDhParams (anonBits hdr s) with ⟨_ | g, _ | p⟩ <;>
    simp only [genAnonServerKx, Session.alloc, params, Heap.allocOpt_none, Heap.allocOpt_some]
  all_goals try exact Or.inl (by simp)
  split
  · left; simp
  · rename_i checked auth
    obtain ⟨rfl, compatible⟩ := serverAuthInfo_ok auth
    obtain ⟨d, h, frame⟩ := serverKxSecret_frame (o := o) ⟨s.heap.next + 1, g⟩ ⟨s.heap.next, p⟩
      { s with heap := ⟨s.heap.next + 1 + 1, ⟨s.heap.next + 1, g⟩ :: ⟨s.heap.next, p⟩ :: s.heap.live⟩,
               authInfo := some ⟨mpiGetNbits p⟩,
               authInfoType := if s.authInfo = none then .anon else s.authInfoType,
               authInfoSize := if s.authInfo = none then hdr.sizeofAnonServerAuthInfo
                 else s.authInfoSize }
    right
    refine ⟨p, ?_⟩
    simp only [frame]
    simpa using compatible

/-- A successful check of a new or matching block records it as the client's anon info. -/
theorem clientAuthInfo_ok {p : Nat} {s s' : Session} (ok : clientAuthInfo hdr o p s = .ok s') :
    s' = recordClientAuthInfo hdr p s ∧ (s.authInfo = none ∨ s.authInfoType = s.authType) := by
  unfold clientAuthInfo at ok
  cases info : s.authInfo <;> simp only [info] at ok <;> split at ok <;> cases ok
  · simp
  · simp_all

/-- What a successful store did: the three scanned values and the recorded auth info. -/
theorem storeServerKx_ok {runY runG runP : List UInt8} {s s' : Session}
    (ok : storeServerKx hdr o runY runG runP s = (s', .ok ())) :
    s'.clientY.map Mpi.value = some (mpiScanValue runY) ∧
      s'.clientG.map Mpi.value = some (mpiScanValue runG) ∧
      s'.clientP.map Mpi.value = some (mpiScanValue runP) ∧
      s'.authInfo = some ⟨mpiGetNbits (mpiScanValue runP)⟩ ∧ s'.authInfoType = .anon ∧
      s'.authInfoSize = hdr.sizeofAnonClientAuthInfo ∧
      (s.authInfo = none ∨ s.authInfoType = s.authType) ∧
      s'.dhSecret = s.dhSecret ∧ s'.cred = s.cred ∧ s'.authType = s.authType := by
  -- The three scans in the source's order: a failed one returns an error.
  have scanned : o.scanY = true ∧ o.scanG = true ∧ o.scanP = true := by
    unfold storeServerKx at ok
    cases scanY : o.scanY
    · simp [scanY] at ok
    cases scanG : o.scanG
    · simp [scanY, scanG] at ok
    cases scanP : o.scanP
    · simp [scanY, scanG, scanP] at ok
    exact ⟨rfl, rfl, rfl⟩
  simp only [storeServerKx, scanned, Session.alloc, Heap.allocOpt_some, Bool.not_true,
    Bool.false_eq_true, if_false] at ok
  split at ok
  · simp at ok
  · rename_i checked auth
    obtain ⟨rfl, compatible⟩ := clientAuthInfo_ok auth
    simp only [Prod.mk.injEq] at ok
    obtain ⟨rfl, -⟩ := ok
    simpa [recordClientAuthInfo, Session.set] using compatible

/-- A failed store leaves auth_info, its tag and its size as they were. -/
theorem storeServerKx_error {runY runG runP : List UInt8} {s s' : Session} {e : GnutlsError}
    (failed : storeServerKx hdr o runY runG runP s = (s', .error e)) :
    s'.authInfo = s.authInfo ∧ s'.authInfoType = s.authInfoType ∧
      s'.authInfoSize = s.authInfoSize ∧ e ≠ .unexpectedPacketLength := by
  cases scanY : o.scanY <;> cases scanG : o.scanG <;> cases scanP : o.scanP <;>
    simp only [storeServerKx, scanY, scanG, scanP, Session.alloc, Heap.allocOpt_some, Bool.not_true,
      Bool.not_false, Bool.false_eq_true, if_false, if_true, Prod.mk.injEq, Except.error.injEq] at failed
  all_goals try (obtain ⟨rfl, rfl⟩ := failed; exact ⟨rfl, rfl, rfl, by simp⟩)
  split at failed
  · -- Only the auth_info check is left to fail, with a memory error or a mismatch.
    rename_i e' checked
    simp only [Prod.mk.injEq, Except.error.injEq] at failed
    obtain ⟨rfl, rfl⟩ := failed
    refine ⟨by simp [Session.set], by simp [Session.set], by simp [Session.set], ?_⟩
    unfold clientAuthInfo at checked
    split at checked <;> split at checked <;> cases checked <;> simp
  · simp at failed

/-- Recording the auth info keeps what the scans stored. -/
theorem clientAuthInfo_scans {p : Nat} {s s' : Session} (ok : clientAuthInfo hdr o p s = .ok s') :
    s'.clientY = s.clientY ∧ s'.clientG = s.clientG ∧ s'.clientP = s.clientP := by
  obtain ⟨rfl, -⟩ := clientAuthInfo_ok ok
  exact ⟨rfl, rfl, rfl⟩

/--
Whatever the store returns, each scan that succeeded left its value in its field under a handle of
its own, in the source's order: `client_Y` first, then `client_g`, then `client_p`.
-/
theorem storeServerKx_scanned (runY runG runP : List UInt8) (s : Session) :
    let r := (storeServerKx hdr o runY runG runP s).1
    (o.scanY = true → r.clientY = some ⟨s.heap.next, mpiScanValue runY⟩) ∧
      (o.scanY = true → o.scanG = true → r.clientG = some ⟨s.heap.next + 1, mpiScanValue runG⟩) ∧
      (o.scanY = true → o.scanG = true → o.scanP = true →
        r.clientP = some ⟨s.heap.next + 2, mpiScanValue runP⟩) := by
  cases scanY : o.scanY
  · simp
  cases scanG : o.scanG
  · simp [storeServerKx, scanY, scanG, Session.alloc, Session.set]
  cases scanP : o.scanP
  · simp [storeServerKx, scanY, scanG, scanP, Session.alloc, Session.set]
  -- All three scans ran; the auth_info step either fails before writing or keeps the scanned fields.
  simp only [storeServerKx, scanY, scanG, scanP, Bool.not_true, Bool.false_eq_true, if_false]
  split
  · simp [Session.alloc, Session.set]
  · rename_i s' recorded
    obtain ⟨Y, G, P⟩ := clientAuthInfo_scans recorded
    simp [Y, G, P, Session.alloc, Session.set]

/--
A failed `proc_anon_server_kx` leaves auth_info, its tag and its size as they were, and a length
failure leaves the whole session so.
-/
theorem procAnonServerKx_error {data : Nat → UInt8} {dataSize : Nat} {s s' : Session} {e : GnutlsError}
    (failed : procAnonServerKx hdr o data dataSize s = (s', .error e)) :
    s'.authInfo = s.authInfo ∧ s'.authInfoType = s.authInfoType ∧
      s'.authInfoSize = s.authInfoSize ∧ (e = .unexpectedPacketLength → s' = s) := by
  unfold procAnonServerKx at failed
  split at failed
  · -- The length checks failed before anything was touched.
    obtain ⟨rfl, -⟩ := Prod.mk.inj failed
    exact ⟨rfl, rfl, rfl, fun _ => rfl⟩
  · obtain ⟨info, type, size, scanned⟩ := storeServerKx_error failed
    exact ⟨info, type, size, fun unexpected => absurd unexpected scanned⟩

/-- A successful `proc_anon_server_kx` passed the tag check and recorded the client's anon info. -/
theorem procAnonServerKx_ok {data : Nat → UInt8} {dataSize : Nat} {s s' : Session}
    (ok : procAnonServerKx hdr o data dataSize s = (s', .ok ())) :
    s'.authInfo ≠ none ∧ s'.authInfoType = .anon ∧ s'.authInfoSize = hdr.sizeofAnonClientAuthInfo ∧
      (s.authInfo = none ∨ s.authInfoType = s.authType) := by
  unfold procAnonServerKx at ok
  split at ok
  · cases ok
  · obtain ⟨-, -, -, info, type, size, compatible, -⟩ := storeServerKx_ok ok
    exact ⟨by simp [info], type, size, compatible⟩

/-- The message is its three fields with their prefixes: six bytes more than the fields. -/
theorem serverKxData_length (p g X : Nat) :
    (serverKxData p g X).length = (mpiPrint p).length + (mpiPrint g).length + (mpiPrint X).length + 6 := by
  simp only [serverKxData_eq, List.length_append, writeUint16_length]
  omega

/-- Read back from the message, each prefix is its field's byte length modulo 2^16. -/
theorem serverKxData_lengths (p g X : Nat) :
    (readUint16 (bufferOf (serverKxData p g X)) 0).toNat = (mpiPrint p).length % 65536 ∧
      (readUint16 (bufferOf (serverKxData p g X)) (2 + (mpiPrint p).length)).toNat =
        (mpiPrint g).length % 65536 ∧
      (readUint16 (bufferOf (serverKxData p g X)) (4 + (mpiPrint p).length + (mpiPrint g).length)).toNat =
        (mpiPrint X).length % 65536 := by
  rw [serverKxData_eq]
  generalize mpiPrint p = P, mpiPrint g = G, mpiPrint X = Y
  simp only [List.append_assoc]
  -- Each prefix is found by stepping over the pieces before it.
  refine ⟨by rw [readUint16_writeUint16, toUInt16_toNat], ?_, ?_⟩
  · rw [show 2 + P.length = (writeUint16 P.length.toUInt16).length + (P.length + 0) by simp,
      readUint16_append, readUint16_append, readUint16_writeUint16, toUInt16_toNat]
  · rw [show 4 + P.length + G.length = (writeUint16 P.length.toUInt16).length + (P.length +
        ((writeUint16 G.length.toUInt16).length + (G.length + 0))) by simp; omega,
      readUint16_append, readUint16_append, readUint16_append, readUint16_append,
      readUint16_writeUint16, toUInt16_toNat]

/-- Read back from the message at the offsets its prefixes give, the fields are the printed values. -/
theorem serverKxData_fields (p g X : Nat) :
    readBytes (bufferOf (serverKxData p g X)) 2 (mpiPrint p).length = mpiPrint p ∧
      readBytes (bufferOf (serverKxData p g X)) (4 + (mpiPrint p).length) (mpiPrint g).length =
        mpiPrint g ∧
      readBytes (bufferOf (serverKxData p g X)) (6 + (mpiPrint p).length + (mpiPrint g).length)
        (mpiPrint X).length = mpiPrint X := by
  rw [serverKxData_eq]
  generalize mpiPrint p = P, mpiPrint g = G, mpiPrint X = Y
  simp only [List.append_assoc]
  refine ⟨?_, ?_, ?_⟩
  · rw [show 2 = (writeUint16 P.length.toUInt16).length + 0 by simp, readBytes_append, readBytes_prefix]
  · rw [show 4 + P.length = (writeUint16 P.length.toUInt16).length + (P.length +
        ((writeUint16 G.length.toUInt16).length + 0)) by simp; omega,
      readBytes_append, readBytes_append, readBytes_append, readBytes_prefix]
  · rw [show 6 + P.length + G.length = (writeUint16 P.length.toUInt16).length + (P.length +
        ((writeUint16 G.length.toUInt16).length + (G.length + ((writeUint16 Y.length.toUInt16).length + 0))))
        by simp; omega,
      readBytes_append, readBytes_append, readBytes_append, readBytes_append, readBytes_append,
      readBytes_whole]

/--
On a message `gen_anon_server_kx` wrote, with fields short enough for their lengths,
`proc_anon_server_kx` stores the three fields exactly when the modulus is no longer
than 2 bytes plus the generator and the public value.
-/
theorem procAnonServerKx_serverKxData {p g X : Nat} (fitP : (mpiPrint p).length < 65536)
    (fitG : (mpiPrint g).length < 65536) (fitX : (mpiPrint X).length < 65536) (s : Session) :
    procAnonServerKx hdr o (bufferOf (serverKxData p g X)) (serverKxData p g X).length s =
      if (mpiPrint p).length ≤ 2 + (mpiPrint g).length + (mpiPrint X).length then
        storeServerKx hdr o (mpiPrint X) (mpiPrint g) (mpiPrint p) s
      else (s, .error .unexpectedPacketLength) := by
  obtain ⟨lenP, lenG, lenY⟩ := serverKxData_lengths p g X
  obtain ⟨runP, runG, runY⟩ := serverKxData_fields p g X
  rw [Nat.mod_eq_of_lt fitP] at lenP
  rw [Nat.mod_eq_of_lt fitG] at lenG
  rw [Nat.mod_eq_of_lt fitX] at lenY
  rw [procAnonServerKx_eq]
  simp only [lenP, lenG, lenY, serverKxData_length]
  -- The reader's extra check is the only one that can fail on a message the writer produced.
  by_cases fits : (mpiPrint p).length ≤ 2 + (mpiPrint g).length + (mpiPrint X).length
  · rw [if_pos ⟨by omega, by omega⟩, if_pos fits, runP, runG, runY]
  · rw [if_neg (by omega), if_neg fits]

end Gnutls
