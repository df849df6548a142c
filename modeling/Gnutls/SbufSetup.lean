import Gnutls.Sbuf

/-! Making and unmaking a `gnutls_sbuf_t`: the objects `sbuf.c` allocates, its retry loops, and what each exit frees. -/

namespace Gnutls

/--
`do ret = f (); while (ret < 0 && gnutls_error_is_fatal (ret) == 0);` over the answers of
successive calls of `f`: the answer that ends the loop, or `none` when the answers run out first.
-/
def retryNonFatal (isFatal : Int → Bool) : List Int → Option Int
  | [] => none
  | ret :: rest => if ret < 0 ∧ isFatal ret = false then retryNonFatal isFatal rest else some ret

/--
The negative `int` a function of `sbuf.c` returns on failure: one of its own codes, or the code a
library call returned, handed on unchanged. Nothing tells the two apart: a library call that
returns `GNUTLS_E_INVALID_REQUEST` is seen as that code.
-/
structure SetupError where
  code : Int
  deriving DecidableEq, Repr

namespace SetupError

/-- `GNUTLS_E_MEMORY_ERROR`. -/
def memoryError : SetupError := ⟨-25⟩

/-- `GNUTLS_E_INVALID_REQUEST`. -/
def invalidRequest : SetupError := ⟨-50⟩

/-- `GNUTLS_E_INTERNAL_ERROR`. -/
def internalError : SetupError := ⟨-59⟩

/-- The negative code a library call returned, handed on. -/
def call (code : Int) : SetupError := ⟨code⟩

end SetupError

/-- Where a call stands: returned with its result, or still in a retry loop when the answers ran out. -/
inductive SetupStatus (α : Type) where
  | returned (result : Except SetupError α)
  | running

/-- The end of the connection `gnutls_init` is asked for. -/
inductive Role where
  /-- `GNUTLS_CLIENT`. -/
  | client
  /-- `GNUTLS_SERVER`. -/
  | server
  deriving DecidableEq, Repr

/-- The bits of `vflags` that `gnutls_credentials_set_trust` tests. -/
structure VFlags where
  /-- `GNUTLS_VMETHOD_SYSTEM_CAS`. -/
  systemCas : Bool
  /-- `GNUTLS_VMETHOD_GIVEN_CAS`. -/
  givenCas : Bool
  /-- `GNUTLS_VMETHOD_TOFU`. -/
  tofu : Bool
  deriving DecidableEq, Repr

/-- A session `gnutls_init` made, with what `sbuf.c` stores in it. -/
structure SessionObj where
  handle : Nat
  role : Role
  /-- The pointer `gnutls_session_set_ptr` stored, which `gnutls_session_get_ptr` returns. -/
  ptr : Option Nat
  /-- The certificate credentials `gnutls_credentials_set` gave it, which it keeps using. -/
  xcred : Option Nat
  deriving DecidableEq, Repr

/-- A `struct gnutls_sbuf_st`; the strings are their bytes up to the terminating zero. -/
structure SbufObj where
  handle : Nat
  /-- `sb->session`. -/
  session : Option Nat
  /-- `sb->server_name`. -/
  serverName : List UInt8
  /-- `sb->service_name`. -/
  serviceName : List UInt8
  /-- `sb->cred`. -/
  cred : Option Nat
  /-- `sb->buf` and the `GNUTLS_SBUF_WRITE_FLUSHES` bit of `sb->flags`. -/
  writer : Sbuf
  deriving DecidableEq, Repr

/--
A `struct gnutls_credentials_st` as `gnutls_credentials_init` allocates it: `gnutls_calloc(1,
sizeof(*cred))` with `cred` a `gnutls_credentials_t *` gives a block the size of one pointer. It
holds `xcred`, the first field; `vflags` and `tofu_file` lie past its end.
-/
structure CredObj where
  handle : Nat
  /-- `cred->xcred`. -/
  xcred : Option Nat
  deriving DecidableEq, Repr

/-- Certificate credentials `gnutls_certificate_allocate_credentials` made. -/
structure XcredObj where
  handle : Nat
  /-- Whether `gnutls_certificate_set_verify_function` installed `_verify_certificate_callback`. -/
  verifies : Bool
  deriving DecidableEq, Repr

/-- A misuse of memory, recorded where the program would go on with undefined behaviour. -/
inductive Fault where
  /-- `gnutls_deinit` on a session already deinitialised. -/
  | deinitFreed (session : Nat)
  /-- `gnutls_certificate_free_credentials` on credentials already freed. -/
  | freeFreed (xcred : Nat)
  /-- A caller passed a handle that names no live object. -/
  | dangling (handle : Nat)
  /-- `gnutls_credentials_set_trust` copied a TOFU file name into `tofu_file`, past the block of the credentials. -/
  | overflow (cred : Nat)
  deriving DecidableEq, Repr

/-- The objects the functions of `sbuf.c` allocate and free, and the memory faults so far. -/
structure World where
  /-- The address the next allocation returns. -/
  next : Nat
  sessions : List SessionObj
  sbufs : List SbufObj
  creds : List CredObj
  xcreds : List XcredObj
  faults : List Fault
  deriving DecidableEq, Repr

namespace World

/-- Nothing allocated yet. -/
def empty : World := ⟨0, [], [], [], [], []⟩

/-- The live sbuf at an address. -/
def sbuf? (w : World) (handle : Nat) : Option SbufObj := w.sbufs.find? (·.handle = handle)

/-- The live credentials at an address. -/
def cred? (w : World) (handle : Nat) : Option CredObj := w.creds.find? (·.handle = handle)

/-- Change the live sessions at an address. -/
def updateSession (w : World) (session : Nat) (f : SessionObj → SessionObj) : World :=
  { w with sessions := w.sessions.map fun obj => if obj.handle = session then f obj else obj }

/-- Store an sbuf's fields back at its address. -/
def writeSbuf (w : World) (sb : SbufObj) : World :=
  { w with sbufs := w.sbufs.map fun obj => if obj.handle = sb.handle then sb else obj }

/-- Store credentials' fields back at their address. -/
def writeCred (w : World) (cred : CredObj) : World :=
  { w with creds := w.creds.map fun obj => if obj.handle = cred.handle then cred else obj }

end World

/-- `gnutls_init` when it succeeds: a fresh session of the role asked for. -/
def gnutlsInit (role : Role) (w : World) : Nat × World :=
  (w.next, { w with next := w.next + 1, sessions := ⟨w.next, role, none, none⟩ :: w.sessions })

/-- `gnutls_deinit`: free a live session, or record the double free of one already freed. -/
def gnutlsDeinit (session : Nat) (w : World) : World :=
  if w.sessions.any (·.handle = session) then { w with sessions := w.sessions.filter (·.handle ≠ session) }
  else { w with faults := .deinitFreed session :: w.faults }

/-- `gnutls_deinit` frees no credentials. -/
@[simp] theorem gnutlsDeinit_creds (session : Nat) (w : World) : (gnutlsDeinit session w).creds = w.creds := by
  unfold gnutlsDeinit; split <;> rfl

/--
`gnutls_sbuf_deinit`: deinitialise the session it wraps, after `gnutls_bye` on it, then free the
buffer and the structure.
-/
def gnutlsSbufDeinit (sb : SbufObj) (w : World) : World :=
  let w := match sb.session with
    | some session => gnutlsDeinit session w
    | none => w
  { w with sbufs := w.sbufs.filter (·.handle ≠ sb.handle) }

/-- `gnutls_sbuf_deinit` frees no credentials. -/
@[simp] theorem gnutlsSbufDeinit_creds (sb : SbufObj) (w : World) : (gnutlsSbufDeinit sb w).creds = w.creds := by
  unfold gnutlsSbufDeinit; split <;> simp

/-- What the bytes `gnutls_malloc` returns hold in the fields `gnutls_sbuf_sinit` leaves unset. -/
structure Leftover where
  serverName : List UInt8
  serviceName : List UInt8
  cred : Option Nat
  deriving DecidableEq, Repr

/-- `gnutls_sbuf_sinit`: wrap a session the caller made; `malloc` is whether `gnutls_malloc` found memory. -/
def gnutlsSbufSinit (malloc : Bool) (leftover : Leftover) (session : Option Nat) (writeFlushes : Bool)
    (w : World) : World × Except SetupError Nat :=
  if !malloc then (w, .error .memoryError) else
  let sb : SbufObj :=
    ⟨w.next, session, leftover.serverName, leftover.serviceName, leftover.cred, ⟨[], writeFlushes⟩⟩
  ({ w with next := w.next + 1, sbufs := sb :: w.sbufs }, .ok sb.handle)

/-- `gnutls_sbuf_get_session`. -/
def gnutlsSbufGetSession (sb : SbufObj) : Option Nat := sb.session

/-- What the library calls outside `sbuf.c` answer during one `gnutls_sbuf_client_init` or `gnutls_sbuf_server_init`. -/
structure SetupCalls where
  /-- `gnutls_init`. -/
  init : Int
  /-- Whether `gnutls_calloc` found memory. -/
  calloc : Bool
  /-- `gnutls_priority_set_direct`, on the priority string it is given. -/
  prioritySetDirect : String → Int
  /-- `gnutls_credentials_set`. -/
  credentialsSet : Int
  /-- `gnutls_server_name_set`. -/
  serverNameSet : Int
  /-- What successive calls of `gnutls_handshake` return. -/
  handshake : List Int

/-- The sizes of the arrays of `sbuf.h`, which is not part of this source. -/
structure SbufLayout where
  serverNameSize : Nat
  serviceNameSize : Nat
  tofuFileSize : Nat

/-- The `fail1:` exit of both setup functions: unmake the sbuf if there is one, then deinit the session. -/
def setupFail (session : Nat) (sb : Option SbufObj) (ret : SetupError) (w : World) :
    World × SetupStatus Nat :=
  let w := match sb with
    | some sb => gnutlsSbufDeinit sb w
    | none => w
  (gnutlsDeinit session w, .returned (.error ret))

/--
What both setup functions do first: make the session, allocate the sbuf, apply the priority
string (`"NORMAL:%COMPAT"` when none is given) and the certificate credentials. `.error` is an
exit with what the function returns.
-/
def sbufSetupOpen (role : Role) (calls : SetupCalls) (priority : Option String) (cred : CredObj)
    (writeFlushes : Bool) (w : World) : Except (World × SetupStatus Nat) (Nat × SbufObj × World) :=
  if calls.init < 0 then .error (w, .returned (.error (.call calls.init))) else
  let (session, w) := gnutlsInit role w
  if !calls.calloc then .error (setupFail session none .memoryError w) else
  let sb : SbufObj := ⟨w.next, some session, [], [], none, ⟨[], writeFlushes⟩⟩
  let w := { w with next := w.next + 1, sbufs := sb :: w.sbufs }
  -- `gnutls_handshake_set_timeout` sets nothing the model reads.
  let ret := calls.prioritySetDirect (priority.getD "NORMAL:%COMPAT")
  if ret < 0 then .error (setupFail session (some sb) (.call ret) w) else
  match cred.xcred with
  | none => .ok (session, sb, w)
  | some xcred =>
    if calls.credentialsSet < 0 then .error (setupFail session (some sb) (.call calls.credentialsSet) w)
    else .ok (session, sb, w.updateSession session fun obj => { obj with xcred := some xcred })

/--
The client's copy of the host name (lines 330–344): a name too long for the array returns
`GNUTLS_E_INVALID_REQUEST` at once, not through `fail1:`.
-/
def sbufServerName (layout : SbufLayout) (serverNameSet : Int) (hostname : Option (List UInt8))
    (session : Nat) (sb : SbufObj) (w : World) : Except (World × SetupStatus Nat) (SbufObj × World) :=
  match hostname with
  | none => .ok (sb, w)
  | some hostname =>
    if layout.serverNameSize ≤ hostname.length then .error (w, .returned (.error .invalidRequest)) else
    let sb := { sb with serverName := hostname }
    if serverNameSet < 0 then .error (setupFail session (some sb) (.call serverNameSet) (w.writeSbuf sb))
    else .ok (sb, w.writeSbuf sb)

/--
The client's copy of the service name (lines 346–353): a name too long for the array returns
`GNUTLS_E_INVALID_REQUEST` at once, not through `fail1:`.
-/
def sbufServiceName (layout : SbufLayout) (service : Option (List UInt8)) (sb : SbufObj) (w : World) :
    Except (World × SetupStatus Nat) (SbufObj × World) :=
  match service with
  | none => .ok (sb, w)
  | some service =>
    if layout.serviceNameSize ≤ service.length then .error (w, .returned (.error .invalidRequest)) else
    let sb := { sb with serviceName := service }
    .ok (sb, w.writeSbuf sb)

/--
What both setup functions do last: point the session at the sbuf, and hand-shake until success or
a fatal error, which exits through `fail1:`.
-/
def sbufSetupFinish (isFatal : Int → Bool) (handshake : List Int) (session : Nat) (sb : SbufObj)
    (w : World) : World × SetupStatus Nat :=
  -- `gnutls_transport_set_ptr` sets nothing the model reads.
  let w := w.updateSession session fun obj => { obj with ptr := some sb.handle }
  match retryNonFatal isFatal handshake with
  | none => (w, .running)
  | some ret => if ret < 0 then setupFail session (some sb) (.call ret) w else (w, .returned (.ok sb.handle))

/-- `gnutls_sbuf_server_init`: the sbuf of a new server session, after its handshake. -/
def gnutlsSbufServerInit (isFatal : Int → Bool) (calls : SetupCalls) (priority : Option String)
    (cred : CredObj) (writeFlushes : Bool) (w : World) : World × SetupStatus Nat :=
  match sbufSetupOpen .server calls priority cred writeFlushes w with
  | .error exit => exit
  | .ok (session, sb, w) => sbufSetupFinish isFatal calls.handshake session sb w

/-- `gnutls_sbuf_client_init`: the sbuf of a new client session, after its handshake. -/
def gnutlsSbufClientInit (layout : SbufLayout) (isFatal : Int → Bool) (calls : SetupCalls)
    (hostname service : Option (List UInt8)) (priority : Option String) (cred : CredObj)
    (writeFlushes : Bool) (w : World) : World × SetupStatus Nat :=
  match sbufSetupOpen .client calls priority cred writeFlushes w with
  | .error exit => exit
  | .ok (session, sb, w) =>
    match sbufServerName layout calls.serverNameSet hostname session sb w with
    | .error exit => exit
    | .ok (sb, w) =>
      match sbufServiceName layout service sb w with
      | .error exit => exit
      | .ok (sb, w) => sbufSetupFinish isFatal calls.handshake session sb w

/--
`gnutls_sbuf_handshake`, given what successive calls of `gnutls_handshake` and of
`gnutls_alert_send_appropriate` on the sbuf's session return: after a fatal handshake error it
sends alerts the same way, and returns the handshake's error.
-/
def gnutlsSbufHandshake (isFatal : Int → Bool) (handshake alerts : List Int) : SetupStatus Unit :=
  match retryNonFatal isFatal handshake with
  | none => .running
  | some ret =>
    if ret < 0 then
      match retryNonFatal isFatal alerts with
      | none => .running
      | some _ => .returned (.error (.call ret))
    else .returned (.ok ())

/-- `gnutls_sbuf_read`, given what successive calls of `gnutls_record_recv` on the sbuf's session return. -/
def gnutlsSbufRead (isFatal : Int → Bool) (received : List Int) : SetupStatus Nat :=
  match retryNonFatal isFatal received with
  | none => .running
  | some ret => if ret < 0 then .returned (.error (.call ret)) else .returned (.ok 0)

end Gnutls
