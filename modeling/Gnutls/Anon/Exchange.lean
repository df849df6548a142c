import Gnutls.Anon.ServerKx
import Gnutls.Anon.ClientKx

/-! One anonymous key exchange between a server session and a client session, message by message. -/

namespace Gnutls

/--
One anonymous key exchange as the handshake drives the four operations: the server's message,
the client's processing of it and its reply, and the server's processing of the reply.

Each message is handed on with the length its writer returned, and each party's collaborators
answer through its own oracle. The run stops at the first operation that returns an error.
-/
def anonExchange (hdr : Header) (server client : Oracle) (s c : Session) :
    Option (Session × Session) :=
  match genAnonServerKx hdr server s with
  | (s, .ok (data, n)) =>
    match procAnonServerKx hdr client (bufferOf data) n c with
    | (c, .ok ()) =>
      match genAnonClientKx client c with
      | (c, .ok (data, n)) =>
        match procAnonClientKx hdr server (bufferOf data) n s with
        | (s, .ok ()) => some (s, c)
        | (_, .error _) => none
      | (_, .error _) => none
    | (_, .error _) => none
  | (_, .error _) => none

/--
Collaborators that compute Diffie–Hellman with the private exponent `x`: the key generator
returns `g ^ x mod p` with `x`, the deriver raises its value to the exponent it is handed, and
every allocation and scan succeeds.
-/
def dhOracle (params : Nat → Option Nat × Option Nat) (x : Nat) : Oracle where
  getDhParams := params
  calcDhSecret
    | some g, some p => (some (g ^ x % p), some x)
    | _, _ => (none, none)
  calcDhKey
    | some Y, some x, some p => some (Y ^ x % p)
    | _, _, _ => none
  mallocAuthInfo := true
  mallocData := true
  secureMalloc := true
  scanY := true
  scanG := true
  scanP := true

/-- A completed exchange is four successful operations, each on the state and message the one before left. -/
theorem anonExchange_some {hdr : Header} {server client : Oracle} {s c s' c' : Session}
    (done : anonExchange hdr server client s c = some (s', c')) :
    ∃ s₁ c₁ data₁ n₁ data₂ n₂, genAnonServerKx hdr server s = (s₁, .ok (data₁, n₁)) ∧
      procAnonServerKx hdr client (bufferOf data₁) n₁ c = (c₁, .ok ()) ∧
      genAnonClientKx client c₁ = (c', .ok (data₂, n₂)) ∧
      procAnonClientKx hdr server (bufferOf data₂) n₂ s₁ = (s', .ok ()) := by
  unfold anonExchange at done
  split at done <;> try contradiction
  rename_i s₁ data₁ n₁ serverKx
  split at done <;> try contradiction
  rename_i c₁ serverProc
  split at done <;> try contradiction
  rename_i c₂ data₂ n₂ clientKx
  split at done <;> try contradiction
  rename_i s₂ clientProc
  cases done
  exact ⟨s₁, c₁, data₁, n₁, data₂, n₂, serverKx, serverProc, clientKx, clientProc⟩

/-- Four successful operations, each on the state and message the one before left, complete the exchange. -/
theorem anonExchange_of_steps {hdr : Header} {server client : Oracle} {s c s₁ c₁ s' c' : Session}
    {data₁ data₂ : List UInt8} {n₁ n₂ : Nat}
    (serverKx : genAnonServerKx hdr server s = (s₁, .ok (data₁, n₁)))
    (serverProc : procAnonServerKx hdr client (bufferOf data₁) n₁ c = (c₁, .ok ()))
    (clientKx : genAnonClientKx client c₁ = (c', .ok (data₂, n₂)))
    (clientProc : procAnonClientKx hdr server (bufferOf data₂) n₂ s₁ = (s', .ok ())) :
    anonExchange hdr server client s c = some (s', c') := by
  simp only [anonExchange, serverKx, serverProc, clientKx, clientProc]

end Gnutls
