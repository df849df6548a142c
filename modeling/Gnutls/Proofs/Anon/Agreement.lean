import Gnutls.Anon.Exchange

/-! Both parties of a completed anonymous exchange hold the same key, when every length fits its prefix. -/

namespace Gnutls

variable {hdr : Header} {server client : Oracle}

/-- Raising a residue to a second exponent is raising the base to the product, modulo p. -/
private theorem pow_mod_pow_mod (g a b p : Nat) : (g ^ a % p) ^ b % p = g ^ (a * b) % p := by
  rw [← Nat.pow_mod, ← Nat.pow_mul]

/-- A residue modulo p prints to no more bytes than p itself. -/
private theorem mpiPrint_mod_length {v p : Nat} (modulus : 1 < p) :
    (mpiPrint (v % p)).length ≤ (mpiPrint p).length :=
  mpiPrint_length_mono (Nat.mod_lt _ (by omega)).le

/--
A completed exchange gives both parties the key `g ^ (x_s * x_c) mod p`, and both record the size
of p, when the collaborators compute Diffie–Hellman and p and g print to at most 65535 bytes.
-/
theorem anonExchange_agrees {s c s' c' : Session} {g p xs xc : Nat}
    (params : server.getDhParams (anonBits hdr s) = (some g, some p)) (modulus : 1 < p)
    (serverKeygen : ∀ g p, server.calcDhSecret (some g) (some p) = (some (g ^ xs % p), some xs))
    (clientKeygen : ∀ g p, client.calcDhSecret (some g) (some p) = (some (g ^ xc % p), some xc))
    (serverDerive : ∀ Y x p, server.calcDhKey (some Y) (some x) (some p) = some (Y ^ x % p))
    (clientDerive : ∀ Y x p, client.calcDhKey (some Y) (some x) (some p) = some (Y ^ x % p))
    (fitP : (mpiPrint p).length ≤ 65535) (fitG : (mpiPrint g).length ≤ 65535)
    (done : anonExchange hdr server client s c = some (s', c')) :
    s'.key = some (mpiPrint (g ^ (xs * xc) % p)) ∧ c'.key = s'.key ∧
      s'.authInfo = some ⟨mpiGetNbits p⟩ ∧ c'.authInfo = some ⟨mpiGetNbits p⟩ := by
  obtain ⟨s₁, c₁, data₁, n₁, data₂, n₂, serverKx, serverProc, clientKx, clientProc⟩ :=
    anonExchange_some done
  -- The server's message carries p, g and its public value g ^ x_s mod p.
  obtain ⟨g', p', X, x, params', keygen, rfl, rfl, secret, cred, -, auth, -⟩ :=
    genAnonServerKx_ok serverKx
  simp only [params, Prod.mk.injEq, Option.some.injEq] at params'
  obtain ⟨rfl, rfl⟩ := params'
  simp only [serverKeygen, Prod.mk.injEq, Option.some.injEq] at keygen
  obtain ⟨rfl, rfl⟩ := keygen
  -- Every field fits its prefix, so the client stores exactly what was written.
  rw [procAnonServerKx_serverKxData (by omega) (by omega)
    (by have := mpiPrint_mod_length (v := g ^ xs) modulus; omega)] at serverProc
  split_ifs at serverProc
  swap
  · cases serverProc
  obtain ⟨clientY, clientG, clientP, clientAuth, -⟩ := storeServerKx_ok serverProc
  simp only [mpiScanValue_mpiPrint] at clientY clientG clientP clientAuth
  -- The client answers with g ^ x_c mod p and keeps (g ^ x_s) ^ x_c mod p.
  obtain ⟨Xc, x', k, keygenC, deriveC, rfl, rfl, keyC, authC, -⟩ := genAnonClientKx_ok clientKx
  simp only [clientG, clientP, clientKeygen, Prod.mk.injEq, Option.some.injEq] at keygenC
  obtain ⟨rfl, rfl⟩ := keygenC
  simp only [clientY, clientP, clientDerive, Option.some.injEq] at deriveC
  subst deriveC
  -- The server reads the client's value back and keeps (g ^ x_c) ^ x_s mod p.
  rw [procAnonClientKx_clientKxData hdr (by have := mpiPrint_mod_length (v := g ^ xc) modulus; omega)]
    at clientProc
  obtain ⟨g'', p'', k', params'', deriveS, keyS, authS⟩ := finishClientKx_ok clientProc
  have bits : anonBits hdr s₁ = anonBits hdr s := by simp only [anonBits, cred]
  simp only [bits, params, Prod.mk.injEq, Option.some.injEq] at params''
  obtain ⟨rfl, rfl⟩ := params''
  simp only [mpiScanValue_mpiPrint, secret, serverDerive, Option.some.injEq] at deriveS
  subst deriveS
  refine ⟨?_, ?_, by rw [authS, auth], by rw [authC, clientAuth]⟩
  · rw [keyS, pow_mod_pow_mod, Nat.mul_comm]
  · rw [keyC, keyS, pow_mod_pow_mod, pow_mod_pow_mod, Nat.mul_comm]

/-- With p = 23, g = 5 and exponents 6 and 15, the exchange completes and both keep 5 ^ 90 mod 23. -/
theorem anonExchange_agrees_small :
    ∃ s' c', anonExchange ⟨1024, 4, 4⟩ (dhOracle (fun _ => (some 5, some 23)) 6)
        (dhOracle (fun _ => (some 5, some 23)) 15) (Session.init none .anon) (Session.init none .anon) =
        some (s', c') ∧
      s'.key = some (mpiPrint (5 ^ (6 * 15) % 23)) ∧ c'.key = s'.key ∧
      s'.authInfo = some ⟨mpiGetNbits 23⟩ ∧ c'.authInfo = some ⟨mpiGetNbits 23⟩ :=
  ⟨_, _, rfl, @anonExchange_agrees ⟨1024, 4, 4⟩ (dhOracle (fun _ => (some 5, some 23)) 6)
    (dhOracle (fun _ => (some 5, some 23)) 15) (Session.init none .anon) (Session.init none .anon) _ _
    5 23 6 15 rfl (by decide) (fun _ _ => rfl) (fun _ _ => rfl) (fun _ _ _ => rfl) (fun _ _ _ => rfl)
    (by decide) (by decide) rfl⟩

/-- The client reads a message opening with these nine bytes as p = 5, g = 3 and Y = 2, whatever follows. -/
private theorem procAnonServerKx_nine_bytes (hdr : Header) (o : Oracle) (tail : List UInt8) {n : Nat}
    (long : 9 ≤ n) (s : Session) :
    procAnonServerKx hdr o (bufferOf ([0, 1, 5, 0, 1, 3, 0, 1, 2] ++ tail)) n s =
      storeServerKx hdr o [2] [3] [5] s := by
  have agree : ∀ k < 9, bufferOf ([0, 1, 5, 0, 1, 3, 0, 1, 2] ++ tail) k =
      bufferOf [0, 1, 5, 0, 1, 3, 0, 1, 2] k := fun k inside => bufferOf_append_front _ _ inside
  -- Every length and field the checks and scans touch lies in the nine bytes.
  have length : ∀ k, k + 2 ≤ 9 → (readUint16 (bufferOf ([0, 1, 5, 0, 1, 3, 0, 1, 2] ++ tail)) k).toNat =
      (readUint16 (bufferOf [0, 1, 5, 0, 1, 3, 0, 1, 2]) k).toNat := fun k inside => by
    rw [readUint16_congr agree inside]
  have field : ∀ k, k + 1 ≤ 9 → readBytes (bufferOf ([0, 1, 5, 0, 1, 3, 0, 1, 2] ++ tail)) k 1 =
      readBytes (bufferOf [0, 1, 5, 0, 1, 3, 0, 1, 2]) k 1 := fun k inside =>
    readBytes_congr fun j _ below => agree j (by omega)
  rw [procAnonServerKx_eq]
  simp only [length 0 (by omega), show (readUint16 (bufferOf [0, 1, 5, 0, 1, 3, 0, 1, 2]) 0).toNat = 1 from rfl,
    length 3 (by omega), show (readUint16 (bufferOf [0, 1, 5, 0, 1, 3, 0, 1, 2]) 3).toNat = 1 from rfl,
    length 6 (by omega), show (readUint16 (bufferOf [0, 1, 5, 0, 1, 3, 0, 1, 2]) 6).toNat = 1 from rfl]
  rw [if_pos (by omega), field 8 (by omega), field 5 (by omega), field 2 (by omega)]
  rfl

/-- A modulus of 65537 bytes whose first seven bytes are 5, 0, 1, 3, 0, 1, 2 is written behind the prefix 1. -/
private theorem serverKxData_wrapped {P : Nat}
    (printed : mpiPrint P = [5, 0, 1, 3, 0, 1, 2] ++ List.replicate 65530 0) :
    serverKxData P 2 2 = [0, 1, 5, 0, 1, 3, 0, 1, 2] ++ (List.replicate 65530 0 ++ [0, 1, 2, 0, 1, 2]) := by
  -- Rewriting only: a simp proof here makes the kernel walk the long run of zeros.
  rw [serverKxData_eq, printed, show mpiPrint 2 = [2] from rfl, List.length_append, List.length_replicate,
    show writeUint16 (([5, 0, 1, 3, 0, 1, 2] : List UInt8).length + 65530).toUInt16 = [0, 1] from rfl,
    show writeUint16 ([2] : List UInt8).length.toUInt16 = [0, 1] from rfl]
  rw [List.append_assoc, List.append_assoc, List.append_assoc, List.append_assoc, List.append_assoc]
  rfl

/-- With such a modulus every step of the exchange succeeds, yet the server keeps 3 and the client 2. -/
private theorem anonExchange_wrapped {P : Nat}
    (printed : mpiPrint P = [5, 0, 1, 3, 0, 1, 2] ++ List.replicate 65530 0) (large : 3 < P) :
    ∃ s' c', anonExchange ⟨1024, 4, 4⟩ (dhOracle (fun _ => (some 2, some P)) 1)
        (dhOracle (fun _ => (some 2, some P)) 1) (Session.init none .anon) (Session.init none .anon) =
        some (s', c') ∧ s'.key = some [3] ∧ c'.key = some [2] := by
  have two : 2 ^ 1 % P = 2 := by rw [Nat.pow_one]; exact Nat.mod_eq_of_lt (by omega)
  have three : 3 ^ 1 % P = 3 := by rw [Nat.pow_one]; exact Nat.mod_eq_of_lt large
  have lenP : (mpiPrint P).length = 65537 := by
    rw [printed, List.length_append, List.length_replicate]
    rfl
  -- The server writes its message and keeps the exponent 1.
  have gen := @genAnonServerKx_returns ⟨1024, 4, 4⟩ (dhOracle (fun _ => (some 2, some P)) 1) 2 P _ 1
    (Session.init none .anon) rfl rfl ⟨rfl, rfl⟩ (Or.inl rfl)
  rw [two, serverKxData_wrapped printed] at gen
  obtain ⟨s₁, serverKx⟩ : ∃ s₁, genAnonServerKx ⟨1024, 4, 4⟩ (dhOracle (fun _ => (some 2, some P)) 1)
      (Session.init none .anon) = (s₁, .ok ([0, 1, 5, 0, 1, 3, 0, 1, 2] ++
        (List.replicate 65530 0 ++ [0, 1, 2, 0, 1, 2]),
        (mpiPrint P).length + (mpiPrint 2).length + (mpiPrint 2).length + 6)) :=
    ⟨_, Prod.ext rfl gen⟩
  have secret : s₁.dhSecret.map Mpi.value = some 1 := by
    obtain ⟨g, p, X, x, params, keygen, -, -, secret, -⟩ := genAnonServerKx_ok serverKx
    simp only [dhOracle, Prod.mk.injEq, Option.some.injEq] at params
    obtain ⟨rfl, rfl⟩ := params
    simp only [dhOracle, Prod.mk.injEq, Option.some.injEq] at keygen
    rw [secret, ← keygen.2]
  -- The client reads p = 5, g = 3 and Y = 2 from the first nine bytes.
  obtain ⟨c₁, serverProc, clientG, clientP, clientY⟩ : ∃ c₁,
      procAnonServerKx ⟨1024, 4, 4⟩ (dhOracle (fun _ => (some 2, some P)) 1)
        (bufferOf ([0, 1, 5, 0, 1, 3, 0, 1, 2] ++ (List.replicate 65530 0 ++ [0, 1, 2, 0, 1, 2])))
        ((mpiPrint P).length + (mpiPrint 2).length + (mpiPrint 2).length + 6) (Session.init none .anon) =
        (c₁, .ok ()) ∧ c₁.clientG.map Mpi.value = some 3 ∧ c₁.clientP.map Mpi.value = some 5 ∧
        c₁.clientY.map Mpi.value = some 2 :=
    ⟨_, (procAnonServerKx_nine_bytes _ _ _ (by rw [lenP]; omega) _).trans (Prod.ext rfl rfl), rfl, rfl, rfl⟩
  -- It answers 3 and keeps 2 ^ 1 mod 5.
  have clientKx := @genAnonClientKx_returns (dhOracle (fun _ => (some 2, some P)) 1) c₁ 3 2 (some 1)
    (by rw [clientG, clientP]; rfl) (by rw [clientY, clientP]; rfl) ⟨rfl, rfl⟩
  -- The server reads 3 back and keeps 3 ^ 1 mod P.
  have clientProc := @finishClientKx_returns (dhOracle (fun _ => (some 2, some P)) 1)
    (anonBits ⟨1024, 4, 4⟩ s₁) 2 _ (some P) (mpiPrint 3) s₁ rfl rfl
    (by rw [mpiScanValue_mpiPrint, secret]; rfl) rfl
  rw [three, ← procAnonClientKx_clientKxData ⟨1024, 4, 4⟩ (by decide)] at clientProc
  exact ⟨_, _, anonExchange_of_steps serverKx serverProc (Prod.ext rfl clientKx.1)
    (Prod.ext rfl clientProc.1), clientProc.2, clientKx.2⟩

/--
A modulus of 65537 bytes goes out behind the length 1: all four operations succeed with honest
Diffie–Hellman collaborators, and the two parties end with different keys.
-/
theorem anonExchange_wrapped_modulus :
    ∃ s' c', anonExchange ⟨1024, 4, 4⟩
        (dhOracle (fun _ => (some 2, some (0x05000103000102 * 256 ^ 65530))) 1)
        (dhOracle (fun _ => (some 2, some (0x05000103000102 * 256 ^ 65530))) 1)
        (Session.init none .anon) (Session.init none .anon) = some (s', c') ∧ s'.key ≠ c'.key := by
  have printed : mpiPrint (0x05000103000102 * 256 ^ 65530) =
      [5, 0, 1, 3, 0, 1, 2] ++ List.replicate 65530 0 := by
    rw [mpiPrint_mul_pow (by decide)]
    rfl
  have large : 3 < 0x05000103000102 * 256 ^ 65530 :=
    Nat.lt_of_lt_of_le (by decide : 3 < 0x05000103000102)
      (Nat.le_mul_of_pos_right _ (Nat.pow_pos (by decide : 0 < 256)))
  obtain ⟨s', c', done, server, client⟩ := anonExchange_wrapped printed large
  exact ⟨s', c', done, by rw [server, client]; decide⟩

end Gnutls
