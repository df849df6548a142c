import Mathlib.Data.List.Basic

/-! A `gnutls_pkcs11_privkey_t`, the lookup `FIND_OBJECT` makes, and the token calls `pkcs11_privkey.c` makes through the handles it finds. -/

namespace Gnutls

/-- `GNUTLS_E_MEMORY_ERROR`. -/
def gnutlsEMemoryError : Int := -25

/-- `GNUTLS_E_INVALID_REQUEST`. -/
def gnutlsEInvalidRequest : Int := -50

/-- `GNUTLS_E_REQUESTED_DATA_NOT_AVAILABLE`. -/
def gnutlsERequestedDataNotAvailable : Int := -56

/-- `GNUTLS_E_UNKNOWN_ALGORITHM`. -/
def gnutlsEUnknownAlgorithm : Int := -105

/-- `CKR_OK`, the `ck_rv_t` of a call that succeeded. -/
def ckrOk : Nat := 0

/-- `CKM_RSA_PKCS`. -/
def ckmRsaPkcs : Nat := 1

/-- `CKO_PRIVATE_KEY`. -/
def ckoPrivateKey : Nat := 3

/-- `sizeof (ck_object_class_t)`, an `unsigned long` on an LP64 platform. -/
def sizeofCkObjectClass : Nat := 8

/-- The `gnutls_pk_algorithm_t` values the code stores and tests. -/
inductive PkAlgorithm where
  /-- `GNUTLS_PK_UNKNOWN`, the 0 that `gnutls_calloc` leaves. -/
  | unknown
  /-- `GNUTLS_PK_RSA`. -/
  | rsa
  /-- `GNUTLS_PK_DSA`. -/
  | dsa
  /-- `GNUTLS_PK_EC`. -/
  | ec
  /-- Any other algorithm. -/
  | other
  deriving DecidableEq, Repr

/-- An attribute `p11_kit_uri_get_attribute` returns: its `value_len`, and its value read as the integer the code casts it to. -/
structure UriAttribute where
  valueLen : Nat
  value : Nat
  deriving DecidableEq, Repr

/-- The attributes of a parsed URL (`struct p11_kit_uri`) that the code reads: `CKA_CLASS` and `CKA_ID`, when present. -/
structure UriInfo where
  cls : Option UriAttribute
  id : Option UriAttribute
  deriving DecidableEq, Repr

/-- A `struct gnutls_pkcs11_privkey_st` (lines 31–38) with the fields the modelled functions read and write; `pin_func` and `pin_data` are read by none. -/
structure Pkcs11Privkey where
  pkAlgorithm : PkAlgorithm
  flags : Nat
  info : UriInfo
  deriving DecidableEq, Repr

/-- Where `*key` points after `gnutls_pkcs11_privkey_init`. -/
inductive KeyPointer where
  /-- NULL, as a failed `gnutls_calloc` returns it. -/
  | null
  /-- The structure, already released with `free`: `*key` is left dangling. -/
  | freed
  /-- A live key. -/
  | live (key : Pkcs11Privkey)
  deriving DecidableEq, Repr

/--
`gnutls_pkcs11_privkey_init` (lines 49–67), given whether `gnutls_calloc` and `p11_kit_uri_new`
return memory: a zeroed structure, so with `pk_algorithm` `GNUTLS_PK_UNKNOWN` and no flag, whose
`info` is a URI with no attribute. When `p11_kit_uri_new` fails, the structure is released with
`free` and `*key` keeps pointing at it.
-/
def gnutlsPkcs11PrivkeyInit (calloc uriNew : Bool) : KeyPointer × Int :=
  if !calloc then (.null, gnutlsEMemoryError)
  else if !uriNew then (.freed, gnutlsEMemoryError)
  else (.live ⟨.unknown, 0, ⟨none, none⟩⟩, 0)

/--
`gnutls_pkcs11_privkey_get_pk_algorithm` (lines 94–101): the key's algorithm, and what it writes to
`*bits` when `bits` is not NULL, which is always 0.
-/
def gnutlsPkcs11PrivkeyGetPkAlgorithm (key : Pkcs11Privkey) (bits : Option Nat) : PkAlgorithm × Option Nat :=
  (key.pkAlgorithm, bits.map fun _ => 0)

/-- What a successful `pkcs11_find_object` writes through its three pointers: the module, the session it opened on it, and the object found in that session. -/
structure Handles where
  module : Nat
  session : Nat
  object : Nat
  deriving DecidableEq, Repr

/-- An answer of `pkcs11_find_object` (in `pkcs11.c`, not in the source): 0 with the handles it writes, or a negative code with nothing written. -/
inductive FindResult where
  | found (handles : Handles)
  | failed (ret : Int) (negative : ret < 0)

/-- The code `pkcs11_find_object` returns. -/
def FindResult.ret : FindResult → Int
  | .found _ => 0
  | .failed ret _ => ret

/--
What `FIND_OBJECT` consults: the answers of `pkcs11_find_object`, and the application's callback
that `pkcs11_call_token_func` runs when `token_func` is set. Each is indexed by how many times it
has been called, so every sequence of answers is one `Lookup`; the callback is also told `retry`.
-/
structure Lookup where
  pkcs11FindObject : Nat → FindResult
  tokenFunc : Option (Nat → Nat → Int)

/--
What `FIND_OBJECT` reads and writes: `ret`, the locals `module`, `pks` and `obj` (`none` while no
successful lookup has written them, so that they hold uninitialised stack), and how many lookups and
callbacks have run, which index their answers.
-/
structure FindState where
  ret : Int
  handles : Option Handles
  lookups : Nat
  callbacks : Nat
  deriving DecidableEq, Repr

/-- The state at the top of `FIND_OBJECT`: nothing looked up, the handle locals unwritten. -/
def FindState.start : FindState := ⟨0, none, 0, 0⟩

/-- How one pass of a loop body ends (C99 6.8.6): at its closing brace, at `continue`, or at a `return` from the function. -/
inductive PassEnd (σ α : Type) where
  | fellThrough (s : σ)
  | continued (s : σ)
  | returned (r : α)

/-- How a loop ends: its test fails and execution goes on after it, or its body returns from the function. -/
inductive LoopEnd (σ α : Type) where
  | left (s : σ)
  | returned (r : α)
  deriving DecidableEq, Repr

/--
`do body while (test);` (C99 6.8.5.2) with at most `fuel` passes: a pass that reaches the closing
brace or runs `continue` goes on to the test (6.8.6.2), and the loop is left when the test is false.
`none` when the fuel runs out first.
-/
def doWhile {σ α : Type} (test : σ → Bool) (body : σ → PassEnd σ α) : Nat → σ → Option (LoopEnd σ α)
  | 0, _ => none
  | fuel + 1, s =>
    match body s with
    | .returned r => some (.returned r)
    | .fellThrough s | .continued s => if test s then doWhile test body fuel s else some (.left s)

/--
One pass of the body of `FIND_OBJECT` (lines 128–141). `retries` is declared inside the body, so
`retries++` hands the callback 0.
-/
def findObjectPass (lookup : Lookup) (s : FindState) : PassEnd FindState Int :=
  let retries := 0
  match lookup.pkcs11FindObject s.lookups with
  | .found handles => .fellThrough { s with ret := 0, handles := some handles, lookups := s.lookups + 1 }
  | .failed ret _ =>
    let s := { s with ret := ret, lookups := s.lookups + 1 }
    if ret = gnutlsERequestedDataNotAvailable then
      match lookup.tokenFunc with
      | some callback =>
        let rret := callback s.callbacks retries
        let s := { s with callbacks := s.callbacks + 1 }
        if rret = 0 then .continued s else .returned ret
      | none => .returned ret
    else if ret < 0 then .returned ret
    else .fellThrough s

/--
`FIND_OBJECT` (lines 126–142): one pass of its body, which sits in `do … while (0)`. Both the end
of the body and `continue` go to the test `0`, which leaves the loop.
-/
def findObject (lookup : Lookup) : LoopEnd FindState Int :=
  match findObjectPass lookup FindState.start with
  | .returned ret => .returned ret
  | .fellThrough s | .continued s => .left s

/-- The functions of the token the three callers run after `FIND_OBJECT`. -/
inductive TokenFunction where
  /-- `pkcs11_sign_init` with a mechanism. -/
  | signInit (mechanism : Nat)
  /-- `pkcs11_sign`, given an output buffer or `NULL` (which asks for the length). -/
  | sign (output : Bool)
  /-- `pkcs11_decrypt_init` with a mechanism. -/
  | decryptInit (mechanism : Nat)
  /-- `pkcs11_decrypt`, given an output buffer or `NULL` (which asks for the length). -/
  | decrypt (output : Bool)
  /-- `pkcs11_get_attribute_value`. -/
  | getAttributeValue
  /-- `pkcs11_close_session`. -/
  | closeSession
  deriving DecidableEq, Repr

/-- A call of a token function, with what the locals `module`, `pks` and `obj` hold when it is made. -/
structure TokenCall where
  function : TokenFunction
  handles : Option Handles
  deriving DecidableEq, Repr

/--
What the calls after the lookup answer (`pkcs11.c`, the token's module and `gnutls_malloc`, none of
them in the source): the `ck_rv_t` of each call and the value it writes, and the conversions the
code applies.
-/
structure TokenAnswers where
  /-- `pk_to_mech`. -/
  pkToMech : PkAlgorithm → Nat
  /-- `mech_to_pk`. -/
  mechToPk : Nat → PkAlgorithm
  /-- `pkcs11_rv_to_err`. -/
  pkcs11RvToErr : Nat → Int
  /-- `pkcs11_sign_init` or `pkcs11_decrypt_init`. -/
  init : Nat
  /-- `pkcs11_sign` or `pkcs11_decrypt` given `NULL`: the `ck_rv_t` and the length it writes. -/
  length : Nat × Nat
  /-- `gnutls_malloc`: whether it returns a buffer. -/
  malloc : Bool
  /-- `pkcs11_sign` or `pkcs11_decrypt` given the buffer: the `ck_rv_t` and the length it writes. -/
  output : Nat × Nat
  /-- `pkcs11_get_attribute_value` for `CKA_KEY_TYPE`: the `ck_rv_t` and the key type it writes. -/
  keyType : Nat × Nat

/-- Where the `data` pointer of an output `gnutls_datum_t` points. -/
inductive DatumData where
  /-- As the caller passed it. -/
  | unset
  /-- `NULL`, as a failed `gnutls_malloc` returns it. -/
  | null
  /-- A buffer `gnutls_malloc` returned. -/
  | buffer
  /-- A buffer the function has freed again. -/
  | freed
  deriving DecidableEq, Repr

/-- An output `gnutls_datum_t`: where `data` points, and `size`. -/
structure Datum where
  data : DatumData
  size : Nat
  deriving DecidableEq, Repr

/-- The two operations a caller runs on the key, each with its pair of token functions. -/
inductive Operation where
  | sign
  | decrypt
  deriving DecidableEq, Repr

/-- `pkcs11_sign_init` or `pkcs11_decrypt_init`. -/
def Operation.init : Operation → Nat → TokenFunction
  | .sign => .signInit
  | .decrypt => .decryptInit

/-- `pkcs11_sign` or `pkcs11_decrypt`. -/
def Operation.run : Operation → Bool → TokenFunction
  | .sign => .sign
  | .decrypt => .decrypt

/--
What `_gnutls_pkcs11_privkey_sign_hash` (lines 176–214) and `_gnutls_pkcs11_privkey_decrypt_data`
(lines 327–367) do once the mechanism is chosen: initialise, ask for the output length, allocate
the output (the result of `gnutls_malloc` is not checked), run into it, and close the session at
`cleanup` on every path. The calls are made with whatever `handles` the locals hold.
-/
def runOperation (op : Operation) (token : TokenAnswers) (mechanism : Nat) (handles : Option Handles)
    (out : Datum) : List TokenCall × Int × Datum :=
  let initCall : TokenCall := ⟨op.init mechanism, handles⟩
  let lengthCall : TokenCall := ⟨op.run false, handles⟩
  let outputCall : TokenCall := ⟨op.run token.malloc, handles⟩
  let closeCall : TokenCall := ⟨.closeSession, handles⟩
  if token.init ≠ ckrOk then
    ([initCall, closeCall], token.pkcs11RvToErr token.init, out)
  else if token.length.1 ≠ ckrOk then
    ([initCall, lengthCall, closeCall], token.pkcs11RvToErr token.length.1, out)
  else if token.output.1 ≠ ckrOk then
    ([initCall, lengthCall, outputCall, closeCall], token.pkcs11RvToErr token.output.1,
      ⟨if token.malloc then .freed else .null, token.length.2⟩)
  else
    ([initCall, lengthCall, outputCall, closeCall], 0,
      ⟨if token.malloc then .buffer else .null, token.output.2⟩)

/-- `_gnutls_pkcs11_privkey_sign_hash` (lines 157–215): the token calls, the code returned and the `signature` written. -/
def gnutlsPkcs11PrivkeySignHash (lookup : Lookup) (token : TokenAnswers) (key : Pkcs11Privkey)
    (signature : Datum) : List TokenCall × Int × Datum :=
  match findObject lookup with
  | .returned ret => ([], ret, signature)
  | .left s => runOperation .sign token (token.pkToMech key.pkAlgorithm) s.handles signature

/--
`_gnutls_pkcs11_privkey_decrypt_data` (lines 304–368): the token calls, the code returned and the
`plaintext` written. Unlike signing, it returns on a key that is not RSA before any token call,
without reaching `cleanup`.
-/
def gnutlsPkcs11PrivkeyDecryptData (lookup : Lookup) (token : TokenAnswers) (key : Pkcs11Privkey)
    (plaintext : Datum) : List TokenCall × Int × Datum :=
  match findObject lookup with
  | .returned ret => ([], ret, plaintext)
  | .left s =>
    if key.pkAlgorithm ≠ .rsa then ([], gnutlsEInvalidRequest, plaintext)
    else runOperation .decrypt token ckmRsaPkcs s.handles plaintext

/-- The `CKA_CLASS` test of `gnutls_pkcs11_privkey_import_url` (lines 252–254): present, of the size of a `ck_object_class_t`, and `CKO_PRIVATE_KEY`. -/
def isPrivateKeyClass : Option UriAttribute → Bool
  | some attr => attr.valueLen = sizeofCkObjectClass && attr.value = ckoPrivateKey
  | none => false

/-- The `CKA_ID` test of `gnutls_pkcs11_privkey_import_url` (lines 260–261): present and not empty. -/
def hasId : Option UriAttribute → Bool
  | some attr => attr.valueLen ≠ 0
  | none => false

/--
`gnutls_pkcs11_privkey_import_url` (lines 231–289), given the answer of `pkcs11_url_to_info` (a
negative code, or the parsed URL, which it writes into `pkey->info`): the token calls, the code
returned and the key.
-/
def gnutlsPkcs11PrivkeyImportUrl (lookup : Lookup) (token : TokenAnswers)
    (pkcs11UrlToInfo : Except Int UriInfo) (flags : Nat) (pkey : Pkcs11Privkey) :
    List TokenCall × Int × Pkcs11Privkey :=
  match pkcs11UrlToInfo with
  | .error ret => ([], ret, pkey)
  | .ok info =>
    let pkey := { pkey with info := info, flags := flags }
    if !isPrivateKeyClass info.cls then ([], gnutlsEInvalidRequest, pkey)
    else if !hasId info.id then ([], gnutlsERequestedDataNotAvailable, pkey)
    else
      match findObject lookup with
      | .returned ret => ([], ret, pkey)
      | .left s =>
        let calls : List TokenCall := [⟨.getAttributeValue, s.handles⟩, ⟨.closeSession, s.handles⟩]
        if token.keyType.1 = ckrOk then
          let pkey := { pkey with pkAlgorithm := token.mechToPk token.keyType.2 }
          if pkey.pkAlgorithm = .unknown then (calls, gnutlsEUnknownAlgorithm, pkey)
          else (calls, 0, pkey)
        else (calls, 0, pkey)

/-- The attribute types in the templates of `gnutls_pkcs11_privkey_generate`. -/
inductive CkAttributeType where
  | ckaDecrypt
  | ckaSign
  | ckaEncrypt
  | ckaVerify
  | ckaModulusBits
  | ckaPrivate
  | ckaToken
  | ckaLabel
  | ckaSensitive
  deriving DecidableEq, Repr

/-- What a template entry's `value` points to: `tval` or `fval` (a `ck_bool_t`), `_bits` (an `unsigned long`), or the label. -/
inductive CkValue where
  | bool (b : Bool)
  | ulong (n : Nat)
  | label (s : String)
  deriving DecidableEq, Repr

/-- An entry `struct ck_attribute` of a template: its type and its value (`value_len` is the value's size). -/
structure CkAttribute where
  type : CkAttributeType
  value : CkValue
  deriving DecidableEq, Repr

/-- The bits of `flags` that `gnutls_pkcs11_privkey_generate` tests. -/
structure GenerateFlags where
  /-- `GNUTLS_PKCS11_OBJ_FLAG_MARK_NOT_PRIVATE`. -/
  markNotPrivate : Bool
  /-- `GNUTLS_PKCS11_OBJ_FLAG_MARK_SENSITIVE`. -/
  markSensitive : Bool
  deriving DecidableEq, Repr

/--
The templates `gnutls_pkcs11_privkey_generate` writes (lines 452–573), entry after entry as
`a[a_val++]` and `p[p_val++]` write them: the public key's `a` and the private key's `p`, or `none`
for an algorithm the `switch` refuses.
-/
def generateTemplates (pk : PkAlgorithm) (bits : Nat) (label : Option String) (flags : GenerateFlags) :
    Option (List CkAttribute × List CkAttribute) :=
  let usage : Option (List CkAttribute × List CkAttribute) :=
    match pk with
    | .rsa => some ([⟨.ckaEncrypt, .bool true⟩, ⟨.ckaVerify, .bool true⟩, ⟨.ckaModulusBits, .ulong bits⟩],
        [⟨.ckaDecrypt, .bool true⟩, ⟨.ckaSign, .bool true⟩])
    | .dsa | .ec => some ([⟨.ckaVerify, .bool true⟩, ⟨.ckaModulusBits, .ulong bits⟩], [⟨.ckaSign, .bool true⟩])
    | _ => none
  usage.map fun (a, p) =>
    let p := p ++ [⟨.ckaPrivate, .bool !flags.markNotPrivate⟩, ⟨.ckaToken, .bool true⟩]
    let labelled : List CkAttribute :=
      match label with
      | some label => [⟨.ckaLabel, .label label⟩]
      | none => []
    (a ++ labelled, p ++ labelled ++ [⟨.ckaSensitive, .bool flags.markSensitive⟩])

/-- What `gnutls_pkcs11_privkey_generate` gets back from the calls it makes outside the source. -/
structure GenerateAnswers where
  /-- `pkcs11_url_to_info`: 0, or a negative code. -/
  pkcs11UrlToInfo : Int
  /-- `pkcs11_open_session`: the session it opens, or a negative code with `pks` left at 0. -/
  pkcs11OpenSession : Except Int Nat
  /-- `pk_to_genmech`. -/
  pkToGenmech : PkAlgorithm → Nat
  /-- `pkcs11_generate_key_pair`: its `ck_rv_t`. -/
  pkcs11GenerateKeyPair : Nat
  /-- `pkcs11_rv_to_err`. -/
  pkcs11RvToErr : Nat → Int

/-- A call `gnutls_pkcs11_privkey_generate` makes on the session it opens. -/
inductive GenerateCall where
  /-- `pkcs11_generate_key_pair` with the mechanism and the public and private templates. -/
  | generateKeyPair (session mechanism : Nat) (publicTemplate privateTemplate : List CkAttribute)
  /-- `pkcs11_close_session`. -/
  | closeSession (session : Nat)
  deriving DecidableEq, Repr

/--
`gnutls_pkcs11_privkey_generate` (lines 416–590): the calls it makes on the session and the code it
returns. `pks` starts at 0, and `cleanup` closes the session only when `pks` is not 0.
-/
def gnutlsPkcs11PrivkeyGenerate (answers : GenerateAnswers) (pk : PkAlgorithm) (bits : Nat)
    (label : Option String) (flags : GenerateFlags) : List GenerateCall × Int :=
  if answers.pkcs11UrlToInfo < 0 then ([], answers.pkcs11UrlToInfo) else
  match answers.pkcs11OpenSession with
  | .error ret => ([], ret)
  | .ok pks =>
    let cleanup : List GenerateCall := if pks ≠ 0 then [.closeSession pks] else []
    match generateTemplates pk bits label flags with
    | none => (cleanup, gnutlsEInvalidRequest)
    | some (a, p) =>
      let rv := answers.pkcs11GenerateKeyPair
      let calls := .generateKeyPair pks (answers.pkToGenmech pk) a p :: cleanup
      if rv ≠ ckrOk then (calls, answers.pkcs11RvToErr rv) else (calls, 0)

end Gnutls
