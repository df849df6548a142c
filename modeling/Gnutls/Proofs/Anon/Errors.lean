import Gnutls.Anon.Exchange

/-! What the four operations leave behind when they fail, and which failures they report. -/

namespace Gnutls

/--
On a fresh session neither client operation refuses to run: `gen_anon_client_kx` hands the absent
p and g to the key generator and fails only because it returns nothing, and `proc_anon_client_kx`
stores `client_Y` and hands the absent `dh_secret` to the deriver before failing the same way.
-/
theorem clientKx_misuse_on_fresh_session :
    (genAnonClientKx (dhOracle (fun _ => (some 2, some 23)) 1) (Session.init none .anon)).2 =
        .error .memoryError ∧
      (procAnonClientKx ⟨1024, 4, 4⟩ (dhOracle (fun _ => (some 2, some 23)) 1) (bufferOf [0, 1, 8]) 3
        (Session.init none .anon)).2 = .error .memoryError ∧
      (procAnonClientKx ⟨1024, 4, 4⟩ (dhOracle (fun _ => (some 2, some 23)) 1) (bufferOf [0, 1, 8]) 3
        (Session.init none .anon)).1.clientY ≠ none :=
  ⟨rfl, rfl, by decide⟩

/-- With no public value from the key generator, `gen_anon_client_kx` fails for memory. -/
theorem genAnonClientKx_ungenerated {o : Oracle} {s : Session}
    (none_ : (o.calcDhSecret (s.clientG.map Mpi.value) (s.clientP.map Mpi.value)).1 = none) :
    (genAnonClientKx o s).2 = .error .memoryError := by
  -- The generator's empty answer is the only case; the call's first test fails on it.
  rcases secret : o.calcDhSecret (s.clientG.map Mpi.value) (s.clientP.map Mpi.value) with ⟨_ | X, x⟩
  · simp [genAnonClientKx, secret, Session.alloc]
  · simp [secret] at none_

/--
Neither client operation checks that the fields it uses are present, on any session.

What `gen_anon_client_kx` does is decided by what the key generator and the deriver answer on
`client_g`, `client_p` and `client_Y` as they are, NULL or not, and every failure is
`GNUTLS_E_MEMORY_ERROR`. Once its length checks pass, `proc_anon_client_kx` stores the scanned public
value in `client_Y` and hands it, with `dh_secret` as it is, to the deriver: it fails for memory,
`client_Y` stored, when the generator or the key is missing, succeeds when both are there, and
never returns `GNUTLS_E_INVALID_REQUEST`.
-/
theorem clientKx_misuse_unchecked (hdr : Header) (o : Oracle) (data : Nat → UInt8) (dataSize : Nat)
    (s : Session) :
    let secret := o.calcDhSecret (s.clientG.map Mpi.value) (s.clientP.map Mpi.value)
    (secret.1 = none → (genAnonClientKx o s).2 = .error .memoryError) ∧
    (∀ X k, secret.1 = some X →
      o.calcDhKey (s.clientY.map Mpi.value) secret.2 (s.clientP.map Mpi.value) = some k →
      o.mallocData = true → o.secureMalloc = true →
      (genAnonClientKx o s).2 = .ok (clientKxData X, (mpiPrint X).length + 2)) ∧
    (∀ e, (genAnonClientKx o s).2 = .error e → e = .memoryError) ∧
    (∀ nY, clientKxLayout data dataSize = some nY → o.scanY = true →
      let Y := mpiScanValue (readBytes data 2 nY)
      let params := o.getDhParams (anonBits hdr s)
      ((params.1 = none ∨ o.calcDhKey (some Y) (s.dhSecret.map Mpi.value) params.2 = none) →
        (procAnonClientKx hdr o data dataSize s).2 = .error .memoryError ∧
          (procAnonClientKx hdr o data dataSize s).1.clientY = some ⟨s.heap.next, Y⟩) ∧
      (∀ g k, params.1 = some g → o.calcDhKey (some Y) (s.dhSecret.map Mpi.value) params.2 = some k →
        o.secureMalloc = true → (procAnonClientKx hdr o data dataSize s).2 = .ok ())) ∧
    (procAnonClientKx hdr o data dataSize s).2 ≠ .error .invalidRequest := by
  refine ⟨genAnonClientKx_ungenerated, fun X k generated derived malloc keyMalloc => ?_,
    fun _ failed => genAnonClientKx_error failed, fun nY layout scan => ?_,
    (procAnonClientKx_frame hdr data dataSize s).2.2.2.2⟩
  · -- Whatever the fields held, the generator's answer decides.
    exact (genAnonClientKx_returns (Prod.ext generated rfl) derived ⟨malloc, keyMalloc⟩).1
  · -- Past the length checks the operation is the scan and the derivation.
    have scanned : procAnonClientKx hdr o data dataSize s =
        finishClientKx o (anonBits hdr s) (readBytes data 2 nY) s := by
      simp only [procAnonClientKx, layout]
    rw [scanned]
    exact ⟨finishClientKx_unkeyed scan, fun g k params derived keyMalloc =>
      (finishClientKx_returns scan (Prod.ext params rfl) derived keyMalloc).1⟩

/--
A key generator that answers even for NULL p and g, and a deriver that answers even for a NULL
`dh_secret`, carry both client operations through on a fresh session; with the deriver of
`dhOracle`, `proc_anon_client_kx` fails for memory after storing `client_Y`.
-/
theorem clientKx_misuse_unchecked_fresh :
    (genAnonClientKx { dhOracle (fun _ => (some 2, some 23)) 1 with
        calcDhSecret := fun _ _ => (some 8, some 3), calcDhKey := fun _ _ _ => some 7 }
        (Session.init none .anon)).2 = .ok (clientKxData 8, 3) ∧
      (procAnonClientKx ⟨1024, 4, 4⟩ { dhOracle (fun _ => (some 2, some 23)) 1 with
        calcDhSecret := fun _ _ => (some 8, some 3), calcDhKey := fun _ _ _ => some 7 }
        (bufferOf [0, 1, 8]) 3 (Session.init none .anon)).2 = .ok () ∧
      (procAnonClientKx ⟨1024, 4, 4⟩ (dhOracle (fun _ => (some 2, some 23)) 1) (bufferOf [0, 1, 8]) 3
        (Session.init none .anon)).1.clientY = some ⟨0, 8⟩ :=
  ⟨(clientKx_misuse_unchecked ⟨1024, 4, 4⟩ { dhOracle (fun _ => (some 2, some 23)) 1 with
      calcDhSecret := fun _ _ => (some 8, some 3), calcDhKey := fun _ _ _ => some 7 }
      (bufferOf [0, 1, 8]) 3 (Session.init none .anon)).2.1 8 7 rfl rfl rfl rfl,
    ((clientKx_misuse_unchecked ⟨1024, 4, 4⟩ { dhOracle (fun _ => (some 2, some 23)) 1 with
      calcDhSecret := fun _ _ => (some 8, some 3), calcDhKey := fun _ _ _ => some 7 }
      (bufferOf [0, 1, 8]) 3 (Session.init none .anon)).2.2.2.1 1 rfl rfl).2 2 7 rfl rfl rfl,
    (((clientKx_misuse_unchecked ⟨1024, 4, 4⟩ (dhOracle (fun _ => (some 2, some 23)) 1)
      (bufferOf [0, 1, 8]) 3 (Session.init none .anon)).2.2.2.1 1 rfl rfl).1 (.inr rfl)).2⟩

/--
A client whose auth_info another method installed refuses a well-formed server message, but only
after scanning it: `client_p`, `client_g` and `client_Y` already hold the new values.
-/
theorem procAnonServerKx_mismatch_after_scan :
    (procAnonServerKx ⟨1024, 4, 4⟩ (dhOracle (fun _ => (some 5, some 23)) 1)
        (bufferOf (serverKxData 23 5 10)) (serverKxData 23 5 10).length
        { Session.init none .anon with authInfo := some ⟨0⟩, authInfoType := .other 1 }).2 =
        .error .invalidRequest ∧
      (procAnonServerKx ⟨1024, 4, 4⟩ (dhOracle (fun _ => (some 5, some 23)) 1)
        (bufferOf (serverKxData 23 5 10)) (serverKxData 23 5 10).length
        { Session.init none .anon with authInfo := some ⟨0⟩, authInfoType := .other 1 }).1.clientP ≠ none :=
  ⟨rfl, by decide⟩

/--
A failed `proc_anon_server_kx` leaves auth_info, its tag and its size as they were, and a length
failure leaves the whole session so. Past the length checks the scans write straight into the
session: whatever the call returns, `client_Y`, then `client_g`, then `client_p` hold the scanned
values under the handles the next allocations receive, as far as the scans got. A length or scan
failure of `proc_anon_client_kx` leaves the whole session as it was.
-/
theorem procAnonKx_error_frame (hdr : Header) (o : Oracle) (data : Nat → UInt8) (dataSize : Nat)
    (s : Session) :
    (∀ s' e, procAnonServerKx hdr o data dataSize s = (s', .error e) →
      s'.authInfo = s.authInfo ∧ s'.authInfoType = s.authInfoType ∧
        s'.authInfoSize = s.authInfoSize ∧ (e = .unexpectedPacketLength → s' = s)) ∧
    (∀ l, serverKxLayout data dataSize = some l →
      let r := (procAnonServerKx hdr o data dataSize s).1
      (o.scanY = true → r.clientY = some ⟨s.heap.next, mpiScanValue (readBytes data l.dataY l.nY)⟩) ∧
      (o.scanY = true → o.scanG = true →
        r.clientG = some ⟨s.heap.next + 1, mpiScanValue (readBytes data l.dataG l.nG)⟩) ∧
      (o.scanY = true → o.scanG = true → o.scanP = true →
        r.clientP = some ⟨s.heap.next + 2, mpiScanValue (readBytes data l.dataP l.nP)⟩)) ∧
    ((procAnonClientKx hdr o data dataSize s).2 = .error .unexpectedPacketLength ∨
        (procAnonClientKx hdr o data dataSize s).2 = .error .mpiScanFailed →
      (procAnonClientKx hdr o data dataSize s).1 = s) := by
  refine ⟨fun _ _ failed => procAnonServerKx_error failed, fun l found => ?_,
    (procAnonClientKx_frame hdr data dataSize s).2.2.2.1⟩
  -- With the layout found, the call is the store on the three runs, whatever it then returns.
  simp only [procAnonServerKx, found]
  exact storeServerKx_scanned _ _ _ s

/--
The mismatched client keeps the auth_info another method installed, but `client_Y`, `client_g`
and `client_p` now hold 10, 5 and 23.
-/
theorem procAnonKx_error_frame_mismatch :
    let s : Session := { Session.init none .anon with authInfo := some ⟨0⟩, authInfoType := .other 1 }
    let r := procAnonServerKx ⟨1024, 4, 4⟩ (dhOracle (fun _ => (some 5, some 23)) 1)
      (bufferOf (serverKxData 23 5 10)) (serverKxData 23 5 10).length s
    r.2 = .error .invalidRequest ∧ r.1.authInfo = s.authInfo ∧ r.1.authInfoType = s.authInfoType ∧
      r.1.authInfoSize = s.authInfoSize ∧ r.1.clientY = some ⟨0, 10⟩ ∧ r.1.clientG = some ⟨1, 5⟩ ∧
      r.1.clientP = some ⟨2, 23⟩ :=
  let frame := procAnonKx_error_frame ⟨1024, 4, 4⟩ (dhOracle (fun _ => (some 5, some 23)) 1)
    (bufferOf (serverKxData 23 5 10)) (serverKxData 23 5 10).length
    { Session.init none .anon with authInfo := some ⟨0⟩, authInfoType := .other 1 }
  let kept := frame.1 _ _ (Prod.ext rfl rfl)
  let scanned := frame.2.1 ⟨2, 1, 5, 1, 8, 1⟩ rfl
  ⟨rfl, kept.1, kept.2.1, kept.2.2.1, scanned.1 rfl, scanned.2.1 rfl rfl, scanned.2.2 rfl rfl rfl⟩

end Gnutls
