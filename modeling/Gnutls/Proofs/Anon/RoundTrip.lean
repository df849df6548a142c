import Gnutls.Anon.Exchange

/-! What each writer puts out, and what the matching reader makes of it. -/

namespace Gnutls

/--
A five-byte modulus beside a one-byte generator and public value: `gen_anon_server_kx` writes
13 bytes, and `proc_anon_server_kx` rejects exactly those 13 bytes.

Past the modulus the reader compares its index, 7, with the count of bytes left, 6.
-/
theorem procAnonServerKx_rejects_own_message :
    (genAnonServerKx ⟨1024, 4, 4⟩ (dhOracle (fun _ => (some 2, some 0x10000000F)) 1)
        (Session.init none .anon)).2 = .ok ([0, 5, 1, 0, 0, 0, 15, 0, 1, 2, 0, 1, 2], 13) ∧
      procAnonServerKx ⟨1024, 4, 4⟩ (dhOracle (fun _ => (some 2, some 0x10000000F)) 1)
        (bufferOf [0, 5, 1, 0, 0, 0, 15, 0, 1, 2, 0, 1, 2]) 13 (Session.init none .anon) =
        (Session.init none .anon, .error .unexpectedPacketLength) :=
  ⟨rfl, rfl⟩

/--
The client's message is its public value behind its length, whatever the stray byte written
first: read back with the length returned, it passes the length checks, and its value is what
is scanned into `client_Y` before the key is derived.
-/
theorem clientKx_round_trip (hdr : Header) {o o' : Oracle} {s s' c : Session} {data : List UInt8}
    {n X : Nat} {x : Option Nat}
    (keygen : o.calcDhSecret (s.clientG.map Mpi.value) (s.clientP.map Mpi.value) = (some X, x))
    (fit : (mpiPrint X).length ≤ 65535) (sent : genAnonClientKx o s = (s', .ok (data, n))) :
    data = writeUint16 (mpiPrint X).length.toUInt16 ++ mpiPrint X ∧ n = (mpiPrint X).length + 2 ∧
      clientKxLayout (bufferOf data) n = some (mpiPrint X).length ∧
      procAnonClientKx hdr o' (bufferOf data) n c =
        if o'.scanY then
          deriveClientKxKey o' (anonBits hdr c) ((c.alloc (some X)).2.set .clientY (c.alloc (some X)).1)
        else (c, .error .mpiScanFailed) := by
  -- The message sent is the one built from the generator's public value.
  obtain ⟨X', x', k, keygen', -, rfl, rfl, -⟩ := genAnonClientKx_ok sent
  simp only [keygen, Prod.mk.injEq, Option.some.injEq] at keygen'
  obtain ⟨rfl, -⟩ := keygen'
  have length : (clientKxData X).length = (mpiPrint X).length + 2 := by
    simp [clientKxData_eq, Nat.add_comm]
  refine ⟨clientKxData_eq X, length, ?_, ?_⟩
  · -- The prefix holds the length exactly, since it fits in 16 bits.
    rw [clientKxLayout_eq, clientKxData_eq, readUint16_length _ _ (by omega), if_pos (by simp)]
  · -- Read back, the value run is the printed X, which scans to X.
    rw [procAnonClientKx_clientKxData hdr (by omega)]
    cases scan : o'.scanY <;> simp [finishClientKx, scan]

/--
A client with p = 23, g = 5 and exponent 3 sends its public value 10 behind its length, and the
server, reading the message back with the length returned, scans 10 into `client_Y`.
-/
theorem clientKx_round_trip_small :
    ∃ data n, (genAnonClientKx (dhOracle (fun _ => (some 5, some 23)) 3)
        (storeServerKx ⟨1024, 4, 4⟩ (dhOracle (fun _ => (some 5, some 23)) 3) [8] [5] [23]
          (Session.init none .anon)).1).2 = .ok (data, n) ∧
      data = writeUint16 (mpiPrint 10).length.toUInt16 ++ mpiPrint 10 ∧ n = (mpiPrint 10).length + 2 ∧
      clientKxLayout (bufferOf data) n = some (mpiPrint 10).length ∧
      procAnonClientKx ⟨1024, 4, 4⟩ (dhOracle (fun _ => (some 5, some 23)) 3) (bufferOf data) n
          (Session.init none .anon) =
        if (dhOracle (fun _ => (some 5, some 23)) 3).scanY then
          deriveClientKxKey (dhOracle (fun _ => (some 5, some 23)) 3) (anonBits ⟨1024, 4, 4⟩ (Session.init none .anon))
            (((Session.init none .anon).alloc (some 10)).2.set .clientY ((Session.init none .anon).alloc (some 10)).1)
        else (Session.init none .anon, .error .mpiScanFailed) :=
  ⟨_, _, rfl, @clientKx_round_trip ⟨1024, 4, 4⟩ (dhOracle (fun _ => (some 5, some 23)) 3)
    (dhOracle (fun _ => (some 5, some 23)) 3) (storeServerKx ⟨1024, 4, 4⟩
      (dhOracle (fun _ => (some 5, some 23)) 3) [8] [5] [23] (Session.init none .anon)).1 _
    (Session.init none .anon) _ _ 10 (some 3) rfl (by decide) (Prod.ext rfl rfl)⟩

/-- With a modulus above 256^65536, g = 2 and the exponent 524288, the client's public value is 256^65536. -/
private theorem genAnonClientKx_wrapped {P : Nat} (large : 256 ^ 65536 < P) :
    (genAnonClientKx (dhOracle (fun _ => (some 2, some P)) 524288)
        (storeServerKx ⟨1024, 4, 4⟩ (dhOracle (fun _ => (some 2, some P)) 1) [8] [2] (mpiPrint P)
          (Session.init none .anon)).1).2 =
        .ok (clientKxData (2 ^ 524288 % P), (mpiPrint (2 ^ 524288 % P)).length + 2) ∧
      (mpiPrint (2 ^ 524288 % P)).length = 65537 ∧
      (readUint16 (bufferOf (clientKxData (2 ^ 524288 % P))) 0).toNat = 1 := by
  -- The client's session holds the scanned p, g = 2 and Y = 8.
  obtain ⟨Y, G, Pscan⟩ := @storeServerKx_scanned ⟨1024, 4, 4⟩
    (dhOracle (fun _ => (some 2, some P)) 1) [8] [2] (mpiPrint P) (Session.init none .anon)
  -- Rewriting only: the powers here are too large to evaluate.
  have public : 2 ^ 524288 % P = 1 * 256 ^ 65536 := by
    rw [Nat.one_mul, show 524288 = 8 * 65536 from rfl, Nat.pow_mul]
    exact Nat.mod_eq_of_lt large
  have length : (mpiPrint (2 ^ 524288 % P)).length = 65537 := by
    rw [public, mpiPrint_mul_pow (by decide), List.length_append, List.length_replicate]
    rfl
  -- The generator and the deriver answer as Diffie–Hellman does, and every allocation succeeds.
  have sent := genAnonClientKx_returns (o := dhOracle (fun _ => (some 2, some P)) 524288)
    (X := 2 ^ 524288 % P) (k := 8 ^ 524288 % P) (x := some 524288)
    (by rw [G rfl rfl, Pscan rfl rfl rfl, mpiScanValue_mpiPrint]; rfl)
    (by rw [Y rfl, Pscan rfl rfl rfl, mpiScanValue_mpiPrint]; rfl) ⟨rfl, rfl⟩
  refine ⟨sent.1, length, ?_⟩
  rw [clientKxData_eq, readUint16_writeUint16, toUInt16_toNat, length]

end Gnutls
