import Gnutls.SbufSetup

/-! The credentials of `sbuf.c`, what `_verify_certificate_callback` reads of them, and whole runs of calls on its objects. -/

namespace Gnutls

/--
`gnutls_credentials_init`: a zeroed block the size of one pointer, holding a NULL `xcred`, or
`GNUTLS_E_MEMORY_ERROR` when `gnutls_calloc` fails.
-/
def gnutlsCredentialsInit (calloc : Bool) (w : World) : World × Except SetupError Nat :=
  if !calloc then (w, .error .memoryError) else
  ({ w with next := w.next + 1, creds := ⟨w.next, none⟩ :: w.creds }, .ok w.next)

/-- `gnutls_certificate_free_credentials`: free live certificate credentials, or record the double free. -/
def gnutlsCertificateFreeCredentials (xcred : Nat) (w : World) : World :=
  if w.xcreds.any (·.handle = xcred) then { w with xcreds := w.xcreds.filter (·.handle ≠ xcred) }
  else { w with faults := .freeFreed xcred :: w.faults }

/-- Freeing certificate credentials leaves everything but them and the faults. -/
@[simp] theorem gnutlsCertificateFreeCredentials_frame (xcred : Nat) (w : World) :
    (gnutlsCertificateFreeCredentials xcred w).next = w.next ∧
      (gnutlsCertificateFreeCredentials xcred w).sessions = w.sessions ∧
      (gnutlsCertificateFreeCredentials xcred w).sbufs = w.sbufs ∧
      (gnutlsCertificateFreeCredentials xcred w).creds = w.creds := by
  unfold gnutlsCertificateFreeCredentials; split <;> simp

/-- Freeing certificate credentials keeps every fault recorded, and may add its own. -/
theorem gnutlsCertificateFreeCredentials_faults (xcred : Nat) (w : World) :
    ∀ fault ∈ w.faults, fault ∈ (gnutlsCertificateFreeCredentials xcred w).faults := by
  unfold gnutlsCertificateFreeCredentials
  split
  · exact fun _ => id
  · exact fun _ => List.mem_cons_of_mem _

/-- After `gnutls_certificate_free_credentials`, no live certificate credentials sit at the address. -/
theorem gnutlsCertificateFreeCredentials_gone (xcred : Nat) (w : World) :
    ∀ obj ∈ (gnutlsCertificateFreeCredentials xcred w).xcreds, obj.handle ≠ xcred := by
  unfold gnutlsCertificateFreeCredentials
  split <;> rename_i live
  · intro obj mem
    simpa using (List.mem_filter.mp mem).2
  · intro obj mem same
    exact live (List.any_eq_true.mpr ⟨obj, mem, by simp [same]⟩)

/-- `gnutls_credentials_deinit`: free the certificate credentials, if any, then the structure. -/
def gnutlsCredentialsDeinit (cred : CredObj) (w : World) : World :=
  let w := match cred.xcred with
    | some xcred => gnutlsCertificateFreeCredentials xcred w
    | none => w
  { w with creds := w.creds.filter (·.handle ≠ cred.handle) }

/-- `aux[i].contents`. -/
inductive CInputContents where
  /-- `GNUTLS_CINPUT_CAS`. -/
  | cas
  /-- `GNUTLS_CINPUT_CRLS`. -/
  | crls
  /-- `GNUTLS_CINPUT_TOFU_DB`. -/
  | tofuDb
  /-- Any other kind of input. -/
  | other (code : Nat)
  deriving DecidableEq, Repr

/-- `aux[i].type`. -/
inductive CredInputType where
  /-- `GNUTLS_CRED_FILE`. -/
  | file
  /-- `GNUTLS_CRED_MEM`. -/
  | mem
  /-- Any other type. -/
  | other (code : Nat)
  deriving DecidableEq, Repr

/-- A `gnutls_cinput_st`. -/
structure CInput where
  contents : CInputContents
  type : CredInputType
  /-- `aux[i].i`: the file name or the bytes, as `type` says. -/
  data : List UInt8
  fmt : Nat
  deriving DecidableEq, Repr

/-- What the library calls outside `sbuf.c` answer during one `gnutls_credentials_set_trust`. -/
structure TrustCalls where
  /-- `gnutls_certificate_allocate_credentials`. -/
  allocate : Int
  /-- `gnutls_certificate_set_x509_system_trust`. -/
  systemTrust : Int
  /-- `gnutls_certificate_set_x509_trust_file`, `_trust_mem`, `_crl_file` or `_crl_mem`, as the input says. -/
  load : CInput → Int

/--
The loop over `aux` for `GNUTLS_VMETHOD_GIVEN_CAS`: load every CA and CRL input, skip the others,
and stop at the first negative code.
-/
def loadGivenCas (load : CInput → Int) : List CInput → Option Int
  | [] => none
  | input :: rest =>
    let ret := match input.contents, input.type with
      | .cas, .file | .cas, .mem | .crls, .file | .crls, .mem => load input
      | _, _ => 0
    if ret < 0 then some ret else loadGivenCas load rest

/--
The loop over `aux` for `GNUTLS_VMETHOD_TOFU`: copy each TOFU database file name into `tofu_file`.
A database that is not a file, or a name too long for the array, stops it with
`GNUTLS_E_INVALID_REQUEST`. The result says whether a name was copied before it ended.
-/
def copyTofuFile (tofuFileSize : Nat) : List CInput → Bool × Option SetupError
  | [] => (false, none)
  | input :: rest =>
    if input.contents = .tofuDb then
      if input.type ≠ .file then (false, some .invalidRequest)
      else if tofuFileSize ≤ input.data.length then (false, some .invalidRequest)
      else (true, (copyTofuFile tofuFileSize rest).2)
    else copyTofuFile tofuFileSize rest

/-- The loading steps of `gnutls_credentials_set_trust`: whether they copied a TOFU file name, and their failure if any. -/
def trustChecks (tofuFileSize : Nat) (calls : TrustCalls) (vflags : VFlags) (aux : List CInput) :
    Bool × Option SetupError :=
  if vflags.systemCas ∧ calls.systemTrust < 0 then (false, some (.call calls.systemTrust)) else
  match (if vflags.givenCas then loadGivenCas calls.load aux else none) with
  | some ret => (false, some (.call ret))
  | none => if vflags.tofu then copyTofuFile tofuFileSize aux else (false, none)

/-- `gnutls_certificate_allocate_credentials (&cred->xcred)` when `cred->xcred` is NULL. -/
def allocateXcred (allocate : Int) (cred : CredObj) (w : World) : Except Int (Nat × CredObj × World) :=
  match cred.xcred with
  | some xcred => .ok (xcred, cred, w)
  | none =>
    if allocate < 0 then .error allocate else
    let cred := { cred with xcred := some w.next }
    .ok (w.next, cred, World.writeCred { w with next := w.next + 1, xcreds := ⟨w.next, false⟩ :: w.xcreds } cred)

/--
What the bytes written past a credentials block make of the live objects: the layout of the heap
decides, and nothing in `sbuf.c` does. Any field of any live object may change, but no object
moves, and none is allocated or freed.
-/
structure Clobber where
  session : SessionObj → SessionObj
  sbuf : SbufObj → SbufObj
  cred : CredObj → CredObj
  xcred : XcredObj → XcredObj
  session_handle : ∀ obj, (session obj).handle = obj.handle
  sbuf_handle : ∀ sb, (sbuf sb).handle = sb.handle
  cred_handle : ∀ c, (cred c).handle = c.handle
  xcred_handle : ∀ obj, (xcred obj).handle = obj.handle

/-- The live objects after the bytes are written. -/
def Clobber.apply (clobber : Clobber) (w : World) : World :=
  { w with sessions := w.sessions.map clobber.session, sbufs := w.sbufs.map clobber.sbuf,
           creds := w.creds.map clobber.cred, xcreds := w.xcreds.map clobber.xcred }

/-- Bytes that leave every object as it was. -/
def Clobber.keep : Clobber := ⟨id, id, id, id, fun _ => rfl, fun _ => rfl, fun _ => rfl, fun _ => rfl⟩

/--
`gnutls_credentials_set_trust`: load what `vflags` asks for into the certificate credentials and
install `_verify_certificate_callback` on them. On failure (`fail1:`) it frees them, whoever
holds them, and sets `cred->xcred` to NULL. `vflags` itself is not stored.

A TOFU file name is copied into `tofu_file`, past the block `gnutls_credentials_init` allocated:
the fault is recorded, and `overflow` says what the bytes written there do to the live objects.
-/
def gnutlsCredentialsSetTrust (layout : SbufLayout) (calls : TrustCalls) (vflags : VFlags)
    (aux : List CInput) (overflow : Clobber) (cred : CredObj) (w : World) :
    World × Except SetupError Unit :=
  match allocateXcred calls.allocate cred w with
  | .error ret => (w, .error (.call ret))
  | .ok (xcred, cred, w) =>
    let (copied, failure) := trustChecks layout.tofuFileSize calls vflags aux
    let w := if copied then { overflow.apply w with faults := .overflow cred.handle :: w.faults } else w
    match failure with
    | none =>
      ({ w with xcreds := w.xcreds.map fun obj => if obj.handle = xcred then { obj with verifies := true } else obj },
        .ok ())
    | some ret => (gnutlsCertificateFreeCredentials xcred (w.writeCred { cred with xcred := none }), .error ret)

/-- How `_verify_certificate_callback` ends, as far as the model follows it. -/
inductive CallbackOutcome where
  /-- It returned. -/
  | returned (result : Except SetupError Unit)
  /-- The session's pointer, or `sb->cred`, names memory already freed. -/
  | freed
  /-- It read through `sb->cred` while that pointer is NULL. -/
  | nullCred
  /-- It read `sb->cred->tofu_file[0]` (line 120), past the pointer-sized block of the credentials. -/
  | overread

/--
`_verify_certificate_callback` on a session, up to its first read of the credentials: find the
sbuf through the session's pointer, then read `sb->cred->tofu_file[0]`. That byte lies past the
block `gnutls_credentials_init` allocates, so what the callback does after it (the checks `vflags`
asks for) is not modelled.
-/
def verifyCertificateCallback (w : World) (session : SessionObj) : CallbackOutcome :=
  match session.ptr with
  | none => .returned (.error .internalError)
  | some handle =>
    match w.sbuf? handle with
    | none => .freed
    | some sb =>
      match sb.cred with
      | none => .nullCred
      | some credHandle =>
        match w.cred? credHandle with
        | none => .freed
        | some _ => .overread

/-- One call on the objects of `sbuf.c`, naming its objects by address, with what the library answers to it. -/
inductive SetupCall where
  | clientInit (calls : SetupCalls) (hostname service : Option (List UInt8)) (priority : Option String)
      (cred : Nat) (writeFlushes : Bool)
  | serverInit (calls : SetupCalls) (priority : Option String) (cred : Nat) (writeFlushes : Bool)
  | sinit (malloc : Bool) (leftover : Leftover) (session : Option Nat) (writeFlushes : Bool)
  | deinit (sb : Nat)
  | credentialsInit (calloc : Bool)
  | credentialsDeinit (cred : Nat)
  | setTrust (cred : Nat) (calls : TrustCalls) (vflags : VFlags) (aux : List CInput) (overflow : Clobber)

/-- Run a call on the object at an address, or record that the address names no live object. -/
def World.withLive {α : Type} (w : World) (handle : Nat) (found : Option α) (f : α → World) : World :=
  match found with
  | some obj => f obj
  | none => { w with faults := .dangling handle :: w.faults }

/-- The world after one call. -/
def setupStep (layout : SbufLayout) (isFatal : Int → Bool) (w : World) : SetupCall → World
  | .clientInit calls hostname service priority cred writeFlushes =>
    w.withLive cred (w.cred? cred) fun cred =>
      (gnutlsSbufClientInit layout isFatal calls hostname service priority cred writeFlushes w).1
  | .serverInit calls priority cred writeFlushes =>
    w.withLive cred (w.cred? cred) fun cred =>
      (gnutlsSbufServerInit isFatal calls priority cred writeFlushes w).1
  | .sinit malloc leftover session writeFlushes => (gnutlsSbufSinit malloc leftover session writeFlushes w).1
  | .deinit sb => w.withLive sb (w.sbuf? sb) fun sb => gnutlsSbufDeinit sb w
  | .credentialsInit calloc => (gnutlsCredentialsInit calloc w).1
  | .credentialsDeinit cred => w.withLive cred (w.cred? cred) fun cred => gnutlsCredentialsDeinit cred w
  | .setTrust cred calls vflags aux overflow =>
    w.withLive cred (w.cred? cred) fun cred => (gnutlsCredentialsSetTrust layout calls vflags aux overflow cred w).1

/-- The calls made one after another. -/
def setupRun (layout : SbufLayout) (isFatal : Int → Bool) : List SetupCall → World → World
  | [], w => w
  | call :: calls, w => setupRun layout isFatal calls (setupStep layout isFatal w call)

/-- A fault that writes past a credentials block. -/
def Fault.isOverflow : Fault → Bool
  | .overflow _ => true
  | _ => false

/-- No TOFU file name has been copied past a credentials block: so far the model follows the C heap. -/
def World.Clean (w : World) : Prop := ∀ fault ∈ w.faults, fault.isOverflow = false

instance (w : World) : Decidable w.Clean := inferInstanceAs (Decidable (∀ fault ∈ w.faults, _))

end Gnutls
