import Gnutls.Pkcs11Privkey

/-! Which handles the token calls of `pkcs11_privkey.c` are made with, and what becomes of the session the lookup opens. -/

namespace Gnutls

/-! ### The lookup -/

/-- The first lookup answered `GNUTLS_E_REQUESTED_DATA_NOT_AVAILABLE` and the application's callback, set, answered 0: it reports the token inserted. -/
def Lookup.Inserted (lookup : Lookup) : Prop :=
  (lookup.pkcs11FindObject 0).ret = gnutlsERequestedDataNotAvailable ∧
    ∃ callback, lookup.tokenFunc = some callback ∧ callback 0 0 = 0

/--
A pass of the body of `FIND_OBJECT` goes on to the loop's test in two ways only: after a lookup
that succeeds, with `ret` 0 and the handles found, or after the callback reports the token
inserted, with `ret` still `GNUTLS_E_REQUESTED_DATA_NOT_AVAILABLE` and the handle locals as they were.
-/
theorem findObjectPass_next {lookup : Lookup} {s s' : FindState}
    (next : findObjectPass lookup s = .fellThrough s' ∨ findObjectPass lookup s = .continued s') :
    (∃ h, lookup.pkcs11FindObject s.lookups = .found h ∧ s' = ⟨0, some h, s.lookups + 1, s.callbacks⟩) ∨
      ((lookup.pkcs11FindObject s.lookups).ret = gnutlsERequestedDataNotAvailable ∧
        (∃ callback, lookup.tokenFunc = some callback ∧ callback s.callbacks 0 = 0) ∧
        s' = ⟨gnutlsERequestedDataNotAvailable, s.handles, s.lookups + 1, s.callbacks + 1⟩) := by
  unfold findObjectPass at next
  cases found : lookup.pkcs11FindObject s.lookups with
  | found h =>
    -- A lookup that succeeds falls through with its handles.
    simp_all
  | failed ret negative =>
    simp only [found] at next
    split_ifs at next with req
    · -- Only the callback's 0 reaches `continue`; without a callback, or with another answer, the body returns.
      cases tokenFunc : lookup.tokenFunc with
      | none => simp [tokenFunc] at next
      | some callback =>
        simp only [tokenFunc] at next
        split_ifs at next with inserted <;>
          simp only [reduceCtorEq, PassEnd.continued.injEq, false_or, or_self] at next
        subst req next
        exact .inr ⟨rfl, ⟨callback, rfl, inserted⟩, rfl⟩
    · -- Any other failure is negative, so the body returns.
      simp at next

/-- `FIND_OBJECT` is its body run in `do … while (0)`: one pass, whatever the fuel. -/
theorem doWhile_zero_findObjectPass (lookup : Lookup) (fuel : Nat) :
    doWhile (fun _ => false) (findObjectPass lookup) (fuel + 1) FindState.start =
      some (findObject lookup) := by
  -- The test `0` fails after the first pass, whichever way the pass ends.
  simp only [doWhile, findObject]
  cases findObjectPass lookup FindState.start <;> rfl

/-- After a lookup that succeeds, `FIND_OBJECT` goes on with `ret` 0 and the handles found. -/
theorem findObject_of_found {lookup : Lookup} {h : Handles}
    (found : lookup.pkcs11FindObject 0 = .found h) : findObject lookup = .left ⟨0, some h, 1, 0⟩ := by
  -- The first lookup is the one answered, and the pass falls through.
  simp [findObject, findObjectPass, FindState.start, found]

/--
`FIND_OBJECT` goes on past its loop after a lookup that succeeds, with its handles, or after the
callback reports the token inserted, with `ret` negative and the handle locals never written.
-/
theorem findObject_left {lookup : Lookup} {s : FindState} (left : findObject lookup = .left s) :
    (∃ h, lookup.pkcs11FindObject 0 = .found h ∧ s = ⟨0, some h, 1, 0⟩) ∨
      (lookup.Inserted ∧ s = ⟨gnutlsERequestedDataNotAvailable, none, 1, 1⟩) := by
  -- `FIND_OBJECT` goes on exactly when its one pass does.
  have next : findObjectPass lookup FindState.start = .fellThrough s ∨
      findObjectPass lookup FindState.start = .continued s := by
    unfold findObject at left
    cases pass : findObjectPass lookup FindState.start <;> simp_all
  rcases findObjectPass_next next with ⟨h, found, rfl⟩ | ⟨req, inserted, rfl⟩
  exacts [.inl ⟨h, found, rfl⟩, .inr ⟨⟨req, inserted⟩, rfl⟩]

/-- After the callback reports the token inserted, `FIND_OBJECT` goes on with `ret` negative and the handle locals never written. -/
theorem findObject_of_inserted {lookup : Lookup} (inserted : lookup.Inserted) :
    findObject lookup = .left ⟨gnutlsERequestedDataNotAvailable, none, 1, 1⟩ := by
  obtain ⟨req, callback, tokenFunc, answer⟩ := inserted
  unfold findObject findObjectPass
  cases found : lookup.pkcs11FindObject 0 with
  | found h => simp [found, FindResult.ret, gnutlsERequestedDataNotAvailable] at req
  | failed ret negative =>
    -- The lookup reports no token, and the callback's 0 takes the pass to `continue`.
    simp only [found, FindResult.ret] at req
    subst req
    simp [FindState.start, found, tokenFunc, answer]

/-- A pass of the body of `FIND_OBJECT` returns from the function only with the negative code of a lookup that failed. -/
theorem findObjectPass_returned {lookup : Lookup} {s : FindState} {ret : Int}
    (returned : findObjectPass lookup s = .returned ret) : ret < 0 := by
  unfold findObjectPass at returned
  cases found : lookup.pkcs11FindObject s.lookups with
  | found h => simp [found] at returned
  | failed r negative =>
    -- Every `return` in the body hands back the code of the failed lookup.
    cases tokenFunc : lookup.tokenFunc <;> simp only [found, tokenFunc] at returned <;>
      split_ifs at returned <;> cases returned <;> exact negative

/-- `FIND_OBJECT` returns from the function only with a negative code. -/
theorem findObject_returned {lookup : Lookup} {ret : Int} (returned : findObject lookup = .returned ret) : ret < 0 := by
  unfold findObject at returned
  cases pass : findObjectPass lookup FindState.start <;> simp only [pass, reduceCtorEq] at returned
  cases returned
  exact findObjectPass_returned pass

/-! ### The token calls -/

/-- Every call in `calls` is made after `FIND_OBJECT` went on past its loop, with the handles it left in the locals. -/
def AfterLookup (lookup : Lookup) (calls : List TokenCall) : Prop :=
  ∀ c ∈ calls, ∃ s, findObject lookup = .left s ∧ c.handles = s.handles

/-- `runOperation` opens with the initialisation, ends by closing the session, and makes every call with the handles it is given. -/
theorem runOperation_calls (op : Operation) (token : TokenAnswers) (mechanism : Nat)
    (handles : Option Handles) (out : Datum) :
    (runOperation op token mechanism handles out).1.head? = some ⟨op.init mechanism, handles⟩ ∧
      (runOperation op token mechanism handles out).1.getLast? = some ⟨.closeSession, handles⟩ ∧
      ∀ c ∈ (runOperation op token mechanism handles out).1, c.handles = handles := by
  -- the three tests of the source, in its order
  by_cases initialised : token.init = ckrOk
  · by_cases sized : token.length.1 = ckrOk
    · by_cases written : token.output.1 = ckrOk <;> simp [runOperation, initialised, sized, written]
    · simp [runOperation, initialised, sized]
  · simp [runOperation, initialised]

/-- Signing makes its token calls only once `FIND_OBJECT` has gone on past its loop. -/
theorem gnutlsPkcs11PrivkeySignHash_afterLookup (lookup : Lookup) (token : TokenAnswers)
    (key : Pkcs11Privkey) (signature : Datum) :
    AfterLookup lookup (gnutlsPkcs11PrivkeySignHash lookup token key signature).1 := by
  intro c mem
  unfold gnutlsPkcs11PrivkeySignHash at mem
  cases left : findObject lookup with
  | returned ret =>
    -- A failed lookup returns before any token call.
    simp [left] at mem
  | left s =>
    simp only [left] at mem
    exact ⟨s, rfl, (runOperation_calls ..).2.2 c mem⟩

/-- Decrypting makes its token calls only once `FIND_OBJECT` has gone on past its loop. -/
theorem gnutlsPkcs11PrivkeyDecryptData_afterLookup (lookup : Lookup) (token : TokenAnswers)
    (key : Pkcs11Privkey) (plaintext : Datum) :
    AfterLookup lookup (gnutlsPkcs11PrivkeyDecryptData lookup token key plaintext).1 := by
  intro c mem
  unfold gnutlsPkcs11PrivkeyDecryptData at mem
  cases left : findObject lookup with
  | returned ret => simp [left] at mem
  | left s =>
    simp only [left] at mem
    split_ifs at mem
    · -- A key that is not RSA returns with no call.
      simp at mem
    · exact ⟨s, rfl, (runOperation_calls ..).2.2 c mem⟩

/-- Importing makes its token calls only once `FIND_OBJECT` has gone on past its loop. -/
theorem gnutlsPkcs11PrivkeyImportUrl_afterLookup (lookup : Lookup) (token : TokenAnswers)
    (url : Except Int UriInfo) (flags : Nat) (pkey : Pkcs11Privkey) :
    AfterLookup lookup (gnutlsPkcs11PrivkeyImportUrl lookup token url flags pkey).1 := by
  intro c mem
  cases url with
  | error ret => simp [gnutlsPkcs11PrivkeyImportUrl] at mem
  | ok info =>
    -- no call is made before the lookup, and the same two after it on every path
    have after : ∃ s, findObject lookup = .left s ∧
        c ∈ [⟨.getAttributeValue, s.handles⟩, ⟨.closeSession, s.handles⟩] := by
      cases named : isPrivateKeyClass info.cls <;> cases id : hasId info.id <;>
        cases left : findObject lookup <;>
        simp only [gnutlsPkcs11PrivkeyImportUrl, named, id, left, Bool.not_true, Bool.not_false,
          Bool.false_eq_true, if_true, if_false, List.not_mem_nil] at mem
      exact ⟨_, rfl, by split_ifs at mem <;> exact mem⟩
    obtain ⟨s, left, mem⟩ := after
    simp only [List.mem_cons, List.mem_singleton, List.not_mem_nil, or_false] at mem
    rcases mem with rfl | rfl <;> exact ⟨s, left, rfl⟩

/--
A call made after `FIND_OBJECT` is made with the handles of a lookup that succeeded, or, when the
callback reported the token inserted, with handle locals no lookup wrote.
-/
theorem AfterLookup.handles {lookup : Lookup} {calls : List TokenCall} (after : AfterLookup lookup calls)
    {c : TokenCall} (mem : c ∈ calls) :
    (∃ h, lookup.pkcs11FindObject 0 = .found h ∧ c.handles = some h) ∨
      (lookup.Inserted ∧ c.handles = none) := by
  -- The call was made with the locals `FIND_OBJECT` left, and it leaves them in two ways only.
  obtain ⟨s, left, same⟩ := after c mem
  rcases findObject_left left with ⟨h, found, rfl⟩ | ⟨inserted, rfl⟩
  · exact .inl ⟨h, found, same⟩
  · exact .inr ⟨inserted, same⟩

/-- The call made in place of `c` when `NULL` is passed where the output buffer belongs. -/
def TokenCall.withoutBuffer (c : TokenCall) : TokenCall :=
  match c.function with
  | .sign _ => { c with function := .sign false }
  | .decrypt _ => { c with function := .decrypt false }
  | _ => c

/--
`runOperation` does not look at what `gnutls_malloc` returned: when it fails, the calls are those
made when it succeeds with `NULL` for the buffer, the code returned is the same, and the output is
left as passed or has `data` `NULL` with the size the token wrote.
-/
theorem runOperation_unallocated (op : Operation) (token : TokenAnswers) (mechanism : Nat)
    (handles : Option Handles) (out : Datum) :
    let r := runOperation op { token with malloc := false } mechanism handles out
    let r' := runOperation op { token with malloc := true } mechanism handles out
    r.1 = r'.1.map TokenCall.withoutBuffer ∧ r.2.1 = r'.2.1 ∧ (r.2.2 = out ∨ r.2.2 = ⟨.null, r'.2.2.size⟩) := by
  -- the three tests of the source, in its order; the allocation sits between the second and the third
  by_cases initialised : token.init = ckrOk
  · by_cases sized : token.length.1 = ckrOk
    · by_cases written : token.output.1 = ckrOk <;> cases op <;>
        simp [runOperation, initialised, sized, written, TokenCall.withoutBuffer, Operation.init, Operation.run]
    · cases op <;> simp [runOperation, initialised, sized, TokenCall.withoutBuffer, Operation.init, Operation.run]
  · cases op <;> simp [runOperation, initialised, TokenCall.withoutBuffer, Operation.init]

/-! ### Results -/

/--
Every lookup answers `GNUTLS_E_REQUESTED_DATA_NOT_AVAILABLE` and the callback answers 0. The
`continue` of `FIND_OBJECT` goes to the test `0` and leaves the loop after one lookup, with `ret`
negative and the handle locals unwritten, and whatever the token answers, signing, decrypting with
an RSA key and importing a URL that names a private key by its id each make their first token call
with those locals.
-/
theorem findObject_continues_past_failed_lookup (token : TokenAnswers) (key : Pkcs11Privkey)
    (out : Datum) (attr : UriAttribute) (flags : Nat) :
    let lookup : Lookup := ⟨fun _ => .failed gnutlsERequestedDataNotAvailable (by decide), some fun _ _ => 0⟩
    findObject lookup = .left ⟨gnutlsERequestedDataNotAvailable, none, 1, 1⟩ ∧
      (gnutlsPkcs11PrivkeySignHash lookup token key out).1.head? =
        some ⟨.signInit (token.pkToMech key.pkAlgorithm), none⟩ ∧
      (gnutlsPkcs11PrivkeyDecryptData lookup token { key with pkAlgorithm := .rsa } out).1.head? =
        some ⟨.decryptInit ckmRsaPkcs, none⟩ ∧
      (gnutlsPkcs11PrivkeyImportUrl lookup token (.ok ⟨some ⟨sizeofCkObjectClass, ckoPrivateKey⟩,
        some ⟨attr.valueLen + 1, attr.value⟩⟩)
        flags key).1.head? = some ⟨.getAttributeValue, none⟩ := by
  intro lookup
  have left : findObject lookup = .left ⟨gnutlsERequestedDataNotAvailable, none, 1, 1⟩ := rfl
  refine ⟨left, ?_, ?_, ?_⟩
  · simp only [gnutlsPkcs11PrivkeySignHash, left]
    exact (runOperation_calls ..).1
  · simp only [gnutlsPkcs11PrivkeyDecryptData, left, ne_eq, not_true_eq_false, if_false]
    exact (runOperation_calls ..).1
  · simp only [gnutlsPkcs11PrivkeyImportUrl, left, isPrivateKeyClass, hasId, decide_True, Bool.and_self,
      Bool.not_true, Bool.false_eq_true, if_false, ne_eq, Nat.succ_ne_zero, not_false_eq_true, decide_not]
    split_ifs <;> rfl

/--
Whatever the lookup, the callback and the token answer, every token call that signing, decrypting
or importing makes is made with the handles of the first lookup when it succeeded; the only other
case is a callback reporting the token inserted, where the calls are made with handle locals no
lookup wrote.
-/
theorem privkey_calls_use_found_handles (lookup : Lookup) (token : TokenAnswers) (key : Pkcs11Privkey)
    (out : Datum) (url : Except Int UriInfo) (flags : Nat) :
    ∀ c ∈ (gnutlsPkcs11PrivkeySignHash lookup token key out).1 ++
        (gnutlsPkcs11PrivkeyDecryptData lookup token key out).1 ++
        (gnutlsPkcs11PrivkeyImportUrl lookup token url flags key).1,
      (∃ h, lookup.pkcs11FindObject 0 = .found h ∧ c.handles = some h) ∨
        (lookup.Inserted ∧ c.handles = none) := by
  -- Each of the three makes its calls after its lookup, so the one lemma on `FIND_OBJECT` covers them all.
  intro c mem
  simp only [List.mem_append] at mem
  rcases mem with (mem | mem) | mem
  · exact AfterLookup.handles (gnutlsPkcs11PrivkeySignHash_afterLookup lookup token key out) mem
  · exact AfterLookup.handles (gnutlsPkcs11PrivkeyDecryptData_afterLookup lookup token key out) mem
  · exact AfterLookup.handles (gnutlsPkcs11PrivkeyImportUrl_afterLookup lookup token url flags key) mem

/-- Signing with a key the lookup finds opens with a call made with the handles found. -/
theorem privkey_calls_use_found_handles_sign :
    let lookup : Lookup := ⟨fun _ => .found ⟨1, 2, 3⟩, none⟩
    let token : TokenAnswers := ⟨fun _ => 1, fun _ => .rsa, fun _ => -1, 0, (0, 64), true, (0, 64), (0, 0)⟩
    let key : Pkcs11Privkey := ⟨.rsa, 0, ⟨none, none⟩⟩
    (⟨.signInit 1, some ⟨1, 2, 3⟩⟩ : TokenCall) ∈ (gnutlsPkcs11PrivkeySignHash lookup token key ⟨.unset, 0⟩).1 ++
        (gnutlsPkcs11PrivkeyDecryptData lookup token key ⟨.unset, 0⟩).1 ++
        (gnutlsPkcs11PrivkeyImportUrl lookup token (.error (-1)) 0 key).1 ∧
      ((∃ h, lookup.pkcs11FindObject 0 = .found h ∧ (some ⟨1, 2, 3⟩ : Option Handles) = some h) ∨
        (lookup.Inserted ∧ (some ⟨1, 2, 3⟩ : Option Handles) = none)) :=
  ⟨by decide, privkey_calls_use_found_handles ⟨fun _ => .found ⟨1, 2, 3⟩, none⟩
    ⟨fun _ => 1, fun _ => .rsa, fun _ => -1, 0, (0, 64), true, (0, 64), (0, 0)⟩ ⟨.rsa, 0, ⟨none, none⟩⟩
    ⟨.unset, 0⟩ (.error (-1)) 0 ⟨.signInit 1, some ⟨1, 2, 3⟩⟩ (by decide)⟩

/--
After a lookup that succeeds, signing and importing a URL that names a private key by its id close
the session the lookup opened as their last token call, whatever the token answers; decrypting does
so for an RSA key only, and for any other key returns `GNUTLS_E_INVALID_REQUEST` having made no token
call, so that session is never closed.
-/
theorem privkey_closes_found_session {lookup : Lookup} {h : Handles}
    (found : lookup.pkcs11FindObject 0 = .found h) (token : TokenAnswers) (key : Pkcs11Privkey)
    (out : Datum) (info : UriInfo) (flags : Nat)
    (named : isPrivateKeyClass info.cls = true ∧ hasId info.id = true) :
    (gnutlsPkcs11PrivkeySignHash lookup token key out).1.getLast? = some ⟨.closeSession, some h⟩ ∧
      (gnutlsPkcs11PrivkeyImportUrl lookup token (.ok info) flags key).1.getLast? =
        some ⟨.closeSession, some h⟩ ∧
      ((gnutlsPkcs11PrivkeyDecryptData lookup token key out).1.getLast? = some ⟨.closeSession, some h⟩ ↔
        key.pkAlgorithm = .rsa) ∧
      (key.pkAlgorithm ≠ .rsa →
        gnutlsPkcs11PrivkeyDecryptData lookup token key out = ([], gnutlsEInvalidRequest, out)) := by
  have left := findObject_of_found found
  refine ⟨?_, ?_, ?_, fun other => by simp [gnutlsPkcs11PrivkeyDecryptData, left, other]⟩
  · -- Signing ends at `cleanup` on every path.
    simp only [gnutlsPkcs11PrivkeySignHash, left]
    exact (runOperation_calls ..).2.1
  · -- Importing closes the session whatever the key-type query answers.
    simp only [gnutlsPkcs11PrivkeyImportUrl, left, named, Bool.not_true, Bool.false_eq_true, if_false]
    split_ifs <;> rfl
  · -- Decrypting reaches `cleanup` only past the RSA test.
    simp only [gnutlsPkcs11PrivkeyDecryptData, left]
    split_ifs with other
    · simp [other]
    · simpa [(runOperation_calls ..).2.1] using other

/-- A DSA key found by the lookup: decrypting returns at once and never closes the session. -/
theorem privkey_closes_found_session_dsa :
    let lookup : Lookup := ⟨fun _ => .found ⟨1, 2, 3⟩, none⟩
    let token : TokenAnswers := ⟨fun _ => 1, fun _ => .rsa, fun _ => -1, 0, (0, 64), true, (0, 64), (0, 0)⟩
    let key : Pkcs11Privkey := ⟨.dsa, 0, ⟨none, none⟩⟩
    let info : UriInfo := ⟨some ⟨sizeofCkObjectClass, ckoPrivateKey⟩, some ⟨1, 7⟩⟩
    lookup.pkcs11FindObject 0 = .found ⟨1, 2, 3⟩ ∧ (isPrivateKeyClass info.cls = true ∧ hasId info.id = true) ∧
      (gnutlsPkcs11PrivkeySignHash lookup token key ⟨.unset, 0⟩).1.getLast? =
        some ⟨.closeSession, some ⟨1, 2, 3⟩⟩ ∧
      (gnutlsPkcs11PrivkeyImportUrl lookup token (.ok info) 0 key).1.getLast? =
        some ⟨.closeSession, some ⟨1, 2, 3⟩⟩ ∧
      ((gnutlsPkcs11PrivkeyDecryptData lookup token key ⟨.unset, 0⟩).1.getLast? =
          some ⟨.closeSession, some ⟨1, 2, 3⟩⟩ ↔ key.pkAlgorithm = .rsa) ∧
      (key.pkAlgorithm ≠ .rsa → gnutlsPkcs11PrivkeyDecryptData lookup token key ⟨.unset, 0⟩ =
        ([], gnutlsEInvalidRequest, ⟨.unset, 0⟩)) :=
  ⟨rfl, ⟨rfl, rfl⟩, @privkey_closes_found_session ⟨fun _ => .found ⟨1, 2, 3⟩, none⟩ ⟨1, 2, 3⟩ rfl
    ⟨fun _ => 1, fun _ => .rsa, fun _ => -1, 0, (0, 64), true, (0, 64), (0, 0)⟩ ⟨.dsa, 0, ⟨none, none⟩⟩
    ⟨.unset, 0⟩ ⟨some ⟨sizeofCkObjectClass, ckoPrivateKey⟩, some ⟨1, 7⟩⟩ 0 ⟨rfl, rfl⟩⟩

/--
When the token refuses the `CKA_KEY_TYPE` query, `gnutls_pkcs11_privkey_import_url` leaves the
key's algorithm as it was, and returns 0 exactly when the URL names a private key by its id and
`FIND_OBJECT` goes on past its loop.
-/
theorem gnutlsPkcs11PrivkeyImportUrl_refused (lookup : Lookup) {token : TokenAnswers} (refused : token.keyType.1 ≠ ckrOk)
    (info : UriInfo) (flags : Nat) (pkey : Pkcs11Privkey) :
    (gnutlsPkcs11PrivkeyImportUrl lookup token (.ok info) flags pkey).2.2.pkAlgorithm = pkey.pkAlgorithm ∧
      ((gnutlsPkcs11PrivkeyImportUrl lookup token (.ok info) flags pkey).2.1 = 0 ↔
        isPrivateKeyClass info.cls = true ∧ hasId info.id = true ∧ ∃ s, findObject lookup = .left s) := by
  cases named : isPrivateKeyClass info.cls
  · -- Not a private key: `GNUTLS_E_INVALID_REQUEST`.
    simp [gnutlsPkcs11PrivkeyImportUrl, named, gnutlsEInvalidRequest]
  cases id : hasId info.id
  · -- No id: `GNUTLS_E_REQUESTED_DATA_NOT_AVAILABLE`.
    simp [gnutlsPkcs11PrivkeyImportUrl, named, id, gnutlsERequestedDataNotAvailable]
  cases left : findObject lookup with
  | returned ret =>
    -- The lookup's own code, which is negative.
    have negative := findObject_returned left
    simp only [gnutlsPkcs11PrivkeyImportUrl, named, id, left, Bool.not_true, Bool.false_eq_true, if_false,
      true_and, reduceCtorEq, exists_false, iff_false]
    omega
  | left s => simp [gnutlsPkcs11PrivkeyImportUrl, named, id, left, refused]

/--
`gnutls_pkcs11_privkey_import_url` reports success on a key whose algorithm it could not learn.
Take the key `gnutls_pkcs11_privkey_init` makes, any URL and any lookup. When the token refuses the
`CKA_KEY_TYPE` query, import returns 0 exactly when the URL names a private key by its id and the
lookup goes on, and the key keeps the `GNUTLS_PK_UNKNOWN` that `gnutls_calloc` left, which
`gnutls_pkcs11_privkey_get_pk_algorithm` reports with 0 bits. With any later lookup and token,
signing then asks the token for the mechanism of `GNUTLS_PK_UNKNOWN`, and decrypting makes no token
call, so it never closes the session its lookup opened, and returns `GNUTLS_E_INVALID_REQUEST`
once that lookup goes on.
-/
theorem privkey_import_keeps_unknown (lookup lookup' : Lookup) (token token' : TokenAnswers)
    (refused : token.keyType.1 ≠ ckrOk) (info : UriInfo) (flags bits : Nat) (out : Datum) :
    ∃ key, gnutlsPkcs11PrivkeyInit true true = (.live key, 0) ∧
      let imported := (gnutlsPkcs11PrivkeyImportUrl lookup token (.ok info) flags key).2
      (imported.1 = 0 ↔ isPrivateKeyClass info.cls = true ∧ hasId info.id = true ∧ ∃ s, findObject lookup = .left s) ∧
      gnutlsPkcs11PrivkeyGetPkAlgorithm imported.2 (some bits) = (.unknown, some 0) ∧
      (∀ s, findObject lookup' = .left s → (gnutlsPkcs11PrivkeySignHash lookup' token' imported.2 out).1.head? =
        some ⟨.signInit (token'.pkToMech .unknown), s.handles⟩) ∧
      (gnutlsPkcs11PrivkeyDecryptData lookup' token' imported.2 out).1 = [] ∧
      ∀ s, findObject lookup' = .left s →
        gnutlsPkcs11PrivkeyDecryptData lookup' token' imported.2 out = ([], gnutlsEInvalidRequest, out) := by
  refine ⟨_, rfl, ?_⟩
  obtain ⟨unknown, imported⟩ := gnutlsPkcs11PrivkeyImportUrl_refused lookup refused info flags ⟨.unknown, 0, ⟨none, none⟩⟩
  refine ⟨imported, by simp [gnutlsPkcs11PrivkeyGetPkAlgorithm, unknown], fun s left => ?_, ?_, fun s left => ?_⟩
  · -- The mechanism is chosen from the algorithm left unknown.
    simp only [gnutlsPkcs11PrivkeySignHash, left, unknown]
    exact (runOperation_calls ..).1
  · -- Either the lookup returns, or the key is not RSA: no token call either way.
    unfold gnutlsPkcs11PrivkeyDecryptData
    cases findObject lookup' <;> simp [unknown]
  · simp [gnutlsPkcs11PrivkeyDecryptData, left, unknown]

/-- A lookup that finds the key and a token that refuses every attribute query: the imported key stays unknown. -/
theorem privkey_import_keeps_unknown_refused :
    let lookup : Lookup := ⟨fun _ => .found ⟨1, 2, 3⟩, none⟩
    let token : TokenAnswers := ⟨fun _ => 7, fun _ => .rsa, fun _ => -1, 0, (0, 64), true, (0, 64), (6, 0)⟩
    let info : UriInfo := ⟨some ⟨sizeofCkObjectClass, ckoPrivateKey⟩, some ⟨1, 7⟩⟩
    ∃ key, gnutlsPkcs11PrivkeyInit true true = (.live key, 0) ∧
      let imported := (gnutlsPkcs11PrivkeyImportUrl lookup token (.ok info) 0 key).2
      (imported.1 = 0 ↔ isPrivateKeyClass info.cls = true ∧ hasId info.id = true ∧ ∃ s, findObject lookup = .left s) ∧
      gnutlsPkcs11PrivkeyGetPkAlgorithm imported.2 (some 2048) = (.unknown, some 0) ∧
      (∀ s, findObject lookup = .left s → (gnutlsPkcs11PrivkeySignHash lookup token imported.2 ⟨.unset, 0⟩).1.head? =
        some ⟨.signInit (token.pkToMech .unknown), s.handles⟩) ∧
      (gnutlsPkcs11PrivkeyDecryptData lookup token imported.2 ⟨.unset, 0⟩).1 = [] ∧
      ∀ s, findObject lookup = .left s →
        gnutlsPkcs11PrivkeyDecryptData lookup token imported.2 ⟨.unset, 0⟩ = ([], gnutlsEInvalidRequest, ⟨.unset, 0⟩) :=
  privkey_import_keeps_unknown ⟨fun _ => .found ⟨1, 2, 3⟩, none⟩ ⟨fun _ => .found ⟨1, 2, 3⟩, none⟩
    ⟨fun _ => 7, fun _ => .rsa, fun _ => -1, 0, (0, 64), true, (0, 64), (6, 0)⟩
    ⟨fun _ => 7, fun _ => .rsa, fun _ => -1, 0, (0, 64), true, (0, 64), (6, 0)⟩ (by decide)
    ⟨some ⟨sizeofCkObjectClass, ckoPrivateKey⟩, some ⟨1, 7⟩⟩ 0 2048 ⟨.unset, 0⟩

/-! ### Key generation -/

/--
The templates of an algorithm the `switch` accepts: the public one has at most 4 entries, the
private one at most 6, and the private one makes the key a token object, private unless
`GNUTLS_PKCS11_OBJ_FLAG_MARK_NOT_PRIVATE` is set, and sensitive only under
`GNUTLS_PKCS11_OBJ_FLAG_MARK_SENSITIVE`, with no other value for either attribute.
-/
theorem generateTemplates_some {pk : PkAlgorithm} {bits : Nat} {label : Option String}
    {flags : GenerateFlags} {a p : List CkAttribute} (filled : generateTemplates pk bits label flags = some (a, p)) :
    a.length ≤ 4 ∧ p.length ≤ 6 ∧ ⟨.ckaToken, .bool true⟩ ∈ p ∧
      ⟨.ckaPrivate, .bool !flags.markNotPrivate⟩ ∈ p ∧ ⟨.ckaSensitive, .bool flags.markSensitive⟩ ∈ p ∧
      (∀ v, ⟨.ckaPrivate, v⟩ ∈ p → v = .bool !flags.markNotPrivate) ∧
      (∀ v, ⟨.ckaSensitive, v⟩ ∈ p → v = .bool flags.markSensitive) := by
  -- One template pair per accepted algorithm, with or without the label entry.
  unfold generateTemplates at filled
  cases pk <;> cases label <;> simp only [Option.map_some', Option.map_none', reduceCtorEq,
    Option.some.injEq, Prod.mk.injEq] at filled <;> obtain ⟨rfl, rfl⟩ := filled <;> simp +contextual

/-- The only key pair `gnutls_pkcs11_privkey_generate` asks for is the one with the templates it wrote. -/
theorem gnutlsPkcs11PrivkeyGenerate_keyPair {answers : GenerateAnswers} {pk : PkAlgorithm} {bits : Nat}
    {label : Option String} {flags : GenerateFlags} {session mechanism : Nat} {a p : List CkAttribute}
    (mem : .generateKeyPair session mechanism a p ∈ (gnutlsPkcs11PrivkeyGenerate answers pk bits label flags).1) :
    generateTemplates pk bits label flags = some (a, p) := by
  cases opened : answers.pkcs11OpenSession <;> cases filled : generateTemplates pk bits label flags <;>
    simp [gnutlsPkcs11PrivkeyGenerate, opened, filled, apply_ite Prod.fst] at mem
  obtain ⟨-, -, -, rfl, rfl⟩ := mem
  rfl

end Gnutls
