import Gnutls.Anon.ServerKx
import Gnutls.Anon.ClientKx

/-! One session's life: the four operations, called one after another, and what other methods do between them. -/

namespace Gnutls

/-- One step on a session: an operation of this file with what its collaborators answer, or a step around it. -/
inductive KxCall where
  /-- `gen_anon_server_kx`. -/
  | genServer (o : Oracle)
  /-- `proc_anon_server_kx` on a received message of `message.length` bytes. -/
  | procServer (o : Oracle) (message : List UInt8)
  /-- `gen_anon_client_kx`. -/
  | genClient (o : Oracle)
  /-- `proc_anon_client_kx` on a received message of `message.length` bytes. -/
  | procClient (o : Oracle) (message : List UInt8)
  /-- Modelled from the spec: a handshake settles the method that `gnutls_auth_get_type` reports. -/
  | negotiate (method : CredType)
  /--
  Modelled from the spec: another key exchange method leaves auth_info pointing at its own
  block, tagged with its own type.
  -/
  | install (code : Nat) (info : AuthInfo) (size : Nat)

namespace KxCall

/-- The four operations of `auth_anon.c`. -/
def isAnon : KxCall → Bool
  | .negotiate _ | .install .. => false
  | _ => true

/-- The two operations on the server's message, which are the ones that write auth_info. -/
def isServerMessage : KxCall → Bool
  | .genServer _ | .procServer .. => true
  | _ => false

end KxCall

/-- One step: the session after it, and what the operation returned, without the message a writer returned. -/
def kxStep (hdr : Header) (s : Session) : KxCall → Session × Except GnutlsError Unit
  | .genServer o =>
    match genAnonServerKx hdr o s with
    | (s, .ok _) => (s, .ok ())
    | (s, .error e) => (s, .error e)
  | .procServer o message => procAnonServerKx hdr o (bufferOf message) message.length s
  | .genClient o =>
    match genAnonClientKx o s with
    | (s, .ok _) => (s, .ok ())
    | (s, .error e) => (s, .error e)
  | .procClient o message => procAnonClientKx hdr o (bufferOf message) message.length s
  | .negotiate method => ({ s with authType := method }, .ok ())
  | .install code info size =>
    ({ s with authInfo := some info, authInfoType := .other code, authInfoSize := size }, .ok ())

/-- A server-message step leaves the session `gen_anon_server_kx` leaves. -/
theorem kxStep_genServer (hdr : Header) (o : Oracle) (s : Session) :
    (kxStep hdr s (.genServer o)).1 = (genAnonServerKx hdr o s).1 ∧
      ((kxStep hdr s (.genServer o)).2 = .ok () ↔ ∃ out, (genAnonServerKx hdr o s).2 = .ok out) := by
  rcases r : genAnonServerKx hdr o s with ⟨s', _ | out⟩ <;> simp [kxStep, r]

/-- A client-message step leaves the session `gen_anon_client_kx` leaves. -/
theorem kxStep_genClient (hdr : Header) (o : Oracle) (s : Session) :
    (kxStep hdr s (.genClient o)).1 = (genAnonClientKx o s).1 ∧
      ((kxStep hdr s (.genClient o)).2 = .ok () ↔ ∃ out, (genAnonClientKx o s).2 = .ok out) := by
  rcases r : genAnonClientKx o s with ⟨s', _ | out⟩ <;> simp [kxStep, r]

/-- The steps taken one after another on one session, whatever each returned. -/
def kxRun (hdr : Header) : List KxCall → Session → Session
  | [], s => s
  | call :: calls, s => kxRun hdr calls (kxStep hdr s call).1

end Gnutls
