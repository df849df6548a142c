import Gnutls.Anon.Exchange

/-! Both inbound messages are read defensively: nothing past the message, and nothing it does not declare. -/

namespace Gnutls

variable {hdr : Header} {o : Oracle}

/-- The server message's length checks read only bytes of the message. -/
theorem serverKxLayout_congr {data data' : Nat → UInt8} {dataSize : Nat}
    (agree : ∀ k < dataSize, data k = data' k) :
    serverKxLayout data dataSize = serverKxLayout data' dataSize := by
  simp only [serverKxLayout_eq]
  -- Each length is read only once the two bytes it sits in are known to be there.
  by_cases lenP : 2 ≤ dataSize
  · have readP := readUint16_congr agree (by omega : 0 + 2 ≤ dataSize)
    simp only [readP]
    by_cases lenG : 4 + (readUint16 data' 0).toNat ≤ dataSize
    · have readG := readUint16_congr agree (by omega : 2 + (readUint16 data' 0).toNat + 2 ≤ dataSize)
      simp only [readG]
      by_cases lenY : 6 + (readUint16 data' 0).toNat +
          (readUint16 data' (2 + (readUint16 data' 0).toNat)).toNat ≤ dataSize
      · have readY := readUint16_congr agree (by omega : 4 + (readUint16 data' 0).toNat +
          (readUint16 data' (2 + (readUint16 data' 0).toNat)).toNat + 2 ≤ dataSize)
        simp only [readY]
      · split_ifs <;> first | omega | rfl
    · split_ifs <;> first | omega | rfl
  · split_ifs <;> first | omega | rfl

/-- The three runs the length checks hand on lie inside the message. -/
theorem serverKxLayout_inside {data : Nat → UInt8} {dataSize : Nat} {l : ServerKxLayout}
    (found : serverKxLayout data dataSize = some l) :
    l.dataP + l.nP ≤ dataSize ∧ l.dataG + l.nG ≤ dataSize ∧ l.dataY + l.nY ≤ dataSize := by
  simp only [serverKxLayout_eq] at found
  split_ifs at found with fits
  cases found
  simp only
  omega

/-- `proc_anon_server_kx` reads nothing past `data_size`. -/
theorem procAnonServerKx_congr {data data' : Nat → UInt8} {dataSize : Nat}
    (agree : ∀ k < dataSize, data k = data' k) (s : Session) :
    procAnonServerKx hdr o data dataSize s = procAnonServerKx hdr o data' dataSize s := by
  simp only [procAnonServerKx, serverKxLayout_congr agree]
  cases found : serverKxLayout data' dataSize with
  | none => rfl
  | some l =>
    -- Every run lies below `data_size`, where the two memories agree.
    obtain ⟨inP, inG, inY⟩ := serverKxLayout_inside ((serverKxLayout_congr agree).trans found)
    have run : ∀ offset count, offset + count ≤ dataSize →
        readBytes data offset count = readBytes data' offset count := fun _ _ inside =>
      readBytes_congr fun k _ below => agree k (by omega)
    simp only [run _ _ inP, run _ _ inG, run _ _ inY]

/-- `proc_anon_client_kx` reads nothing past `data_size`. -/
theorem procAnonClientKx_congr {data data' : Nat → UInt8} {dataSize : Nat}
    (agree : ∀ k < dataSize, data k = data' k) (s : Session) :
    procAnonClientKx hdr o data dataSize s = procAnonClientKx hdr o data' dataSize s := by
  simp only [procAnonClientKx, clientKxLayout_eq]
  by_cases lenY : 2 ≤ dataSize
  · have readY := readUint16_congr agree (by omega : 0 + 2 ≤ dataSize)
    simp only [readY]
    split_ifs with fits
    · have run : readBytes data 2 (readUint16 data' 0).toNat =
          readBytes data' 2 (readUint16 data' 0).toNat :=
        readBytes_congr fun k _ below => agree k (by omega)
      simp only [run]
    · rfl
  · split_ifs <;> first | omega | rfl

/--
Both inbound messages are decoded defensively, whatever bytes arrive.

Neither operation reads past `data_size`; each answers `GNUTLS_E_UNEXPECTED_PACKET_LENGTH` when the
declared lengths need more bytes than arrived; and once its length checks pass, each scan that
succeeds stores the big-endian value of its declared run: `client_p`, `client_g` and `client_Y` on
the client, `client_Y` on the server, where the key is then derived from that value.
-/
theorem procAnonKx_decodes_defensively (b : List UInt8) (s : Session) :
    (let nP := (readUint16 (bufferOf b) 0).toNat
     let nG := (readUint16 (bufferOf b) (2 + nP)).toNat
     let nY := (readUint16 (bufferOf b) (4 + nP + nG)).toNat
     let runP := (b.drop 2).take nP
     let runG := (b.drop (4 + nP)).take nG
     let runY := (b.drop (6 + nP + nG)).take nY
     let r := procAnonServerKx hdr o (bufferOf b) b.length s
     (∀ data : Nat → UInt8, (∀ k < b.length, data k = bufferOf b k) →
        procAnonServerKx hdr o data b.length s = r) ∧
     (b.length < 6 + nP + nG + nY → r = (s, .error .unexpectedPacketLength)) ∧
     (r.2 ≠ .error .unexpectedPacketLength →
        r = storeServerKx hdr o runY runG runP s ∧
        (o.scanY = true → r.1.clientY.map Mpi.value = some (mpiScanValue runY)) ∧
        (o.scanY = true → o.scanG = true → r.1.clientG.map Mpi.value = some (mpiScanValue runG)) ∧
        (o.scanY = true → o.scanG = true → o.scanP = true →
          r.1.clientP.map Mpi.value = some (mpiScanValue runP)))) ∧
    (let nY := (readUint16 (bufferOf b) 0).toNat
     let runY := (b.drop 2).take nY
     let r := procAnonClientKx hdr o (bufferOf b) b.length s
     (∀ data : Nat → UInt8, (∀ k < b.length, data k = bufferOf b k) →
        procAnonClientKx hdr o data b.length s = r) ∧
     (b.length < 2 + nY → r = (s, .error .unexpectedPacketLength)) ∧
     (r.2 ≠ .error .unexpectedPacketLength → o.scanY = true →
        r = deriveClientKxKey o (anonBits hdr s)
          ({ s with heap := ⟨s.heap.next + 1, ⟨s.heap.next, mpiScanValue runY⟩ :: s.heap.live⟩ }.set .clientY
            (some ⟨s.heap.next, mpiScanValue runY⟩)) ∧
        (r.2 = .ok () → ∃ g p k, o.getDhParams (anonBits hdr s) = (some g, p) ∧
          o.calcDhKey (some (mpiScanValue runY)) (s.dhSecret.map Mpi.value) p = some k ∧
          r.1.key = some (mpiPrint k)))) := by
  refine ⟨⟨fun data agree => procAnonServerKx_congr agree s, fun short => ?_, fun passed => ?_⟩,
    ⟨fun data agree => procAnonClientKx_congr agree s, fun short => ?_, fun passed scan => ?_⟩⟩
  · -- Too short for what it declares: the length checks fail before anything is stored.
    rw [procAnonServerKx_eq, if_neg (by omega)]
  · -- The checks passed, so each declared run lies in the message and reads as its slice.
    have stored : procAnonServerKx hdr o (bufferOf b) b.length s =
        storeServerKx hdr o ((b.drop (6 + (readUint16 (bufferOf b) 0).toNat +
            (readUint16 (bufferOf b) (2 + (readUint16 (bufferOf b) 0).toNat)).toNat)).take
              (readUint16 (bufferOf b) (4 + (readUint16 (bufferOf b) 0).toNat +
                (readUint16 (bufferOf b) (2 + (readUint16 (bufferOf b) 0).toNat)).toNat)).toNat)
          ((b.drop (4 + (readUint16 (bufferOf b) 0).toNat)).take
            (readUint16 (bufferOf b) (2 + (readUint16 (bufferOf b) 0).toNat)).toNat)
          ((b.drop 2).take (readUint16 (bufferOf b) 0).toNat) s := by
      rw [procAnonServerKx_eq] at passed ⊢
      dsimp only at passed ⊢
      split_ifs at passed ⊢ with fits
      · rw [readBytes_bufferOf, readBytes_bufferOf, readBytes_bufferOf] <;> omega
      · exact absurd rfl passed
    -- What each scan stored is then read off the store.
    obtain ⟨Y, G, P⟩ := @storeServerKx_scanned hdr o _ _ _ s
    rw [stored]
    exact ⟨rfl, fun sY => by rw [Y sY]; rfl, fun sY sG => by rw [G sY sG]; rfl,
      fun sY sG sP => by rw [P sY sG sP]; rfl⟩
  · rw [procAnonClientKx, clientKxLayout_eq, if_neg (by omega)]
  · -- The check passed, so the declared run reads as its slice and the derivation starts from it.
    have scanned : procAnonClientKx hdr o (bufferOf b) b.length s =
        finishClientKx o (anonBits hdr s) ((b.drop 2).take (readUint16 (bufferOf b) 0).toNat) s := by
      rw [procAnonClientKx, clientKxLayout_eq] at passed ⊢
      split_ifs at passed ⊢ with fits
      · exact congrArg (finishClientKx o (anonBits hdr s) · s) (readBytes_bufferOf fits)
      · exact absurd rfl passed
    rw [scanned]
    refine ⟨finishClientKx_scanned scan s, fun ok => ?_⟩
    obtain ⟨g, p, k, params, key, stored, -⟩ := finishClientKx_ok (Prod.ext rfl ok)
    exact ⟨g, p, k, params, key, stored⟩

/--
Four bytes declaring a nine-byte modulus, or a nine-byte public value, are refused by both readers;
the server's message for p = 23, g = 5 and Y = 10 is scanned into 23, 5 and 10, and the client's
message 0, 1, 10 into `client_Y` = 10 before the key is derived.
-/
theorem procAnonKx_decodes_defensively_small :
    procAnonServerKx ⟨1024, 4, 4⟩ (dhOracle (fun _ => (some 2, some 23)) 1) (bufferOf [0, 9, 1, 2]) 4
        (Session.init none .anon) = (Session.init none .anon, .error .unexpectedPacketLength) ∧
      procAnonClientKx ⟨1024, 4, 4⟩ (dhOracle (fun _ => (some 2, some 23)) 1) (bufferOf [0, 9, 1, 2]) 4
        (Session.init none .anon) = (Session.init none .anon, .error .unexpectedPacketLength) ∧
      (procAnonServerKx ⟨1024, 4, 4⟩ (dhOracle (fun _ => (some 5, some 23)) 1)
        (bufferOf (serverKxData 23 5 10)) (serverKxData 23 5 10).length
        (Session.init none .anon)).1.clientP.map Mpi.value = some 23 ∧
      procAnonClientKx ⟨1024, 4, 4⟩ (dhOracle (fun _ => (some 5, some 23)) 1) (bufferOf [0, 1, 10]) 3
          (Session.init none .anon) =
        deriveClientKxKey (dhOracle (fun _ => (some 5, some 23)) 1) 1024
          ({ Session.init none .anon with heap := ⟨1, [⟨0, 10⟩]⟩ }.set .clientY (some ⟨0, 10⟩)) :=
  ⟨(@procAnonKx_decodes_defensively ⟨1024, 4, 4⟩ (dhOracle (fun _ => (some 2, some 23)) 1) [0, 9, 1, 2]
      (Session.init none .anon)).1.2.1 (by decide),
    (@procAnonKx_decodes_defensively ⟨1024, 4, 4⟩ (dhOracle (fun _ => (some 2, some 23)) 1) [0, 9, 1, 2]
      (Session.init none .anon)).2.2.1 (by decide),
    ((@procAnonKx_decodes_defensively ⟨1024, 4, 4⟩ (dhOracle (fun _ => (some 5, some 23)) 1)
      (serverKxData 23 5 10) (Session.init none .anon)).1.2.2 nofun).2.2.2 rfl rfl rfl,
    ((@procAnonKx_decodes_defensively ⟨1024, 4, 4⟩ (dhOracle (fun _ => (some 5, some 23)) 1) [0, 1, 10]
      (Session.init none .anon)).2.2.2 nofun rfl).1⟩

end Gnutls
