import Gnutls.Anon.Exchange
import Gnutls.Proofs.Anon.Heap

/-! Which big integers the four operations leave allocated with nothing holding them, and for how long. -/

namespace Gnutls

/--
After the server's message, `client_p`, `client_g` and `client_Y` hold handles 0 to 2; the client
then allocates its exponent 3 as handle 3, sends, and returns with handle 3 still allocated and
held by no field, while every other big integer it allocated has been released.
-/
theorem genAnonClientKx_exponent_unreleased :
    (genAnonClientKx (dhOracle (fun _ => (some 5, some 23)) 3)
        (procAnonServerKx ⟨1024, 4, 4⟩ (dhOracle (fun _ => (some 5, some 23)) 3)
          (bufferOf (serverKxData 23 5 10)) (serverKxData 23 5 10).length (Session.init none .anon)).1).2 =
        .ok (clientKxData 10, 3) ∧
      (genAnonClientKx (dhOracle (fun _ => (some 5, some 23)) 3)
        (procAnonServerKx ⟨1024, 4, 4⟩ (dhOracle (fun _ => (some 5, some 23)) 3)
          (bufferOf (serverKxData 23 5 10)) (serverKxData 23 5 10).length (Session.init none .anon)).1).1.leaked =
        [⟨3, 3⟩] :=
  ⟨rfl, by decide⟩

/--
Over every run of a session, no field points at a released big integer and no two fields share
one, and a big integer that nothing holds is never released or picked up again, whatever the
session does next.
-/
theorem kxRun_heap_discipline (hdr : Header) (cred : Option AnonServerCredentials) (method : CredType)
    (calls rest : List KxCall) :
    let s := kxRun hdr calls (Session.init cred method)
    (∀ field mpi, s.get field = some mpi → mpi ∈ s.heap.live ∧ ∀ other, s.get other = some mpi → other = field) ∧
      ∀ mpi ∈ s.leaked, mpi ∈ (kxRun hdr rest s).leaked := by
  have owned : (kxRun hdr calls (Session.init cred method)).Owned :=
    (kxRun_keeps (init_owned cred method) calls).1
  exact ⟨fun field mpi found => ⟨owned.held field mpi found, fun other found' =>
    owned.distinct other field mpi found' found⟩, (kxRun_keeps owned rest).2⟩

/-- After the client's exchange with p = 23, g = 5 and exponent 3, its exponent stays leaked through a second server message. -/
theorem kxRun_heap_discipline_client :
    let s := kxRun ⟨1024, 4, 4⟩ [.procServer (dhOracle (fun _ => (some 5, some 23)) 3) (serverKxData 23 5 10),
      .genClient (dhOracle (fun _ => (some 5, some 23)) 3)] (Session.init none .anon)
    (⟨3, 3⟩ : Mpi) ∈ (kxRun ⟨1024, 4, 4⟩ [.procServer (dhOracle (fun _ => (some 5, some 23)) 3)
      (serverKxData 23 5 10)] s).leaked :=
  (kxRun_heap_discipline ⟨1024, 4, 4⟩ none .anon
    [.procServer (dhOracle (fun _ => (some 5, some 23)) 3) (serverKxData 23 5 10),
      .genClient (dhOracle (fun _ => (some 5, some 23)) 3)]
    [.procServer (dhOracle (fun _ => (some 5, some 23)) 3) (serverKxData 23 5 10)]).2 _ (by decide)

/--
Whenever `gen_anon_client_kx` is handed a private exponent, on any session of any run and
whatever it returns, the exponent is never released: it stays allocated and held by no field
for the rest of the session's life.
-/
theorem kxRun_client_exponent_leaked (hdr : Header) (cred : Option AnonServerCredentials)
    (method : CredType) (calls rest : List KxCall) (o : Oracle) (x : Nat) :
    let s := kxRun hdr calls (Session.init cred method)
    (o.calcDhSecret (s.clientG.map Mpi.value) (s.clientP.map Mpi.value)).2 = some x →
      ⟨s.heap.next, x⟩ ∈ (kxRun hdr (.genClient o :: rest) s).leaked := by
  intro s handed
  have owned : s.Owned := (kxRun_keeps (init_owned cred method) calls).1
  obtain ⟨keeps, exponent⟩ := genAnonClientKx_keeps (o := o) owned
  have loose := exponent x handed
  -- The client step leaves the exponent leaked, and the rest of the run keeps it so.
  have leaked : ⟨s.heap.next, x⟩ ∈ (kxStep hdr s (.genClient o)).1.leaked := by
    rw [(kxStep_genClient hdr o s).1]
    exact Session.mem_leaked.mpr ⟨loose.live, loose.unheld⟩
  exact (kxRun_keeps ((kxStep_genClient hdr o s).1 ▸ keeps.owned) rest).2 _ leaked

/-- The client of the exchange with p = 23, g = 5 and exponent 3 leaks its exponent, handle 3, for good. -/
theorem kxRun_client_exponent_leaked_small :
    let s := kxRun ⟨1024, 4, 4⟩ [.procServer (dhOracle (fun _ => (some 5, some 23)) 3) (serverKxData 23 5 10)]
      (Session.init none .anon)
    (⟨s.heap.next, 3⟩ : Mpi) ∈ (kxRun ⟨1024, 4, 4⟩ [.genClient (dhOracle (fun _ => (some 5, some 23)) 3),
      .genServer (dhOracle (fun _ => (some 5, some 23)) 3)] s).leaked :=
  kxRun_client_exponent_leaked ⟨1024, 4, 4⟩ none .anon
    [.procServer (dhOracle (fun _ => (some 5, some 23)) 3) (serverKxData 23 5 10)]
    [.genServer (dhOracle (fun _ => (some 5, some 23)) 3)] (dhOracle (fun _ => (some 5, some 23)) 3) 3 rfl

/-- Exits of `gen_anon_server_kx` before its key pair: the session right after its two allocations, and an error. -/
theorem genAnonServerKx_early {hdr : Header} {o : Oracle} {s : Session}
    (early : (o.getDhParams (anonBits hdr s)).1 = none ∨ (o.getDhParams (anonBits hdr s)).2 = none ∨
      (s.authInfo = none ∧ o.mallocAuthInfo = false) ∨ (s.authInfo ≠ none ∧ s.authType ≠ s.authInfoType)) :
    ∃ e, genAnonServerKx hdr o s =
      (((s.alloc (o.getDhParams (anonBits hdr s)).2).2.alloc (o.getDhParams (anonBits hdr s)).1).2, .error e) := by
  unfold genAnonServerKx
  generalize o.getDhParams (anonBits hdr s) = params at early ⊢
  rcases params with ⟨_ | g, _ | p⟩ <;>
    simp only [Session.alloc, Heap.allocOpt_none, Heap.allocOpt_some, reduceCtorEq, false_or] at early ⊢
  -- A NULL g or p returns at once.
  iterate 3 exact ⟨_, rfl⟩
  -- With both, auth_info is refused: no block could be allocated, or it carries another method's tag.
  rcases early with ⟨unset, malloc⟩ | ⟨present, mismatch⟩
  · exact ⟨.memoryError, by simp [serverAuthInfo, unset, malloc]⟩
  · obtain ⟨info, found⟩ := Option.ne_none_iff_exists'.mp present
    exact ⟨.invalidRequest, by simp [serverAuthInfo, found, mismatch]⟩

/--
Over every run of a session, when `gen_anon_server_kx` exits before generating its key pair (because
`gnutls_get_dh_params` returned NULL for g or p, because no auth_info block could be allocated, or
because auth_info carries another method's tag), it returns an error without releasing what
`gnutls_get_dh_params` returned: p, if returned, stays allocated, and every big integer the call
allocated is held by no field for the rest of the session's life.
-/
theorem genAnonServerKx_leaks_params (hdr : Header) (cred : Option AnonServerCredentials) (method : CredType)
    (calls rest : List KxCall) (o : Oracle) :
    let s := kxRun hdr calls (Session.init cred method)
    ((o.getDhParams (anonBits hdr s)).1 = none ∨ (o.getDhParams (anonBits hdr s)).2 = none ∨
        (s.authInfo = none ∧ o.mallocAuthInfo = false) ∨ (s.authInfo ≠ none ∧ s.authType ≠ s.authInfoType)) →
      (∃ e, (genAnonServerKx hdr o s).2 = .error e) ∧
      (∀ p, (o.getDhParams (anonBits hdr s)).2 = some p →
        (⟨s.heap.next, p⟩ : Mpi) ∈ (genAnonServerKx hdr o s).1.heap.live) ∧
      ∀ mpi ∈ (genAnonServerKx hdr o s).1.heap.live, s.heap.next ≤ mpi.handle →
        mpi ∈ (kxRun hdr (.genServer o :: rest) s).leaked := by
  intro s early
  have owned : s.Owned := (kxRun_keeps (init_owned cred method) calls).1
  obtain ⟨e, exited⟩ := genAnonServerKx_early early
  refine ⟨⟨e, by rw [exited]⟩, fun p answered => ?_, fun mpi live fresh => ?_⟩
  · rw [exited, answered]
    cases (o.getDhParams (anonBits hdr s)).1 <;> simp [Session.alloc]
  -- The call set no field, and every field holds a big integer allocated before it.
  have leaked : mpi ∈ (genAnonServerKx hdr o s).1.leaked := by
    refine Session.mem_leaked.mpr ⟨live, fun field found => ?_⟩
    rw [exited, Session.get_alloc, Session.get_alloc] at found
    exact absurd (owned.below _ (owned.held field _ found)) (Nat.not_lt.mpr fresh)
  show mpi ∈ (kxRun hdr rest (kxStep hdr s (.genServer o)).1).leaked
  rw [(kxStep_genServer hdr o s).1]
  exact (kxRun_keeps (genAnonServerKx_keeps owned).owned rest).2 _ leaked

/-- On a session whose auth_info another method installed, the refused call leaves p = 23 at handle 0 leaked. -/
theorem genAnonServerKx_leaks_params_foreign :
    (⟨0, 23⟩ : Mpi) ∈ (kxRun ⟨1024, 4, 4⟩ [.genServer (dhOracle (fun _ => (some 5, some 23)) 3)]
      (kxRun ⟨1024, 4, 4⟩ [.install 7 ⟨0⟩ 0] (Session.init none .anon))).leaked :=
  (genAnonServerKx_leaks_params ⟨1024, 4, 4⟩ none .anon [.install 7 ⟨0⟩ 0] []
    (dhOracle (fun _ => (some 5, some 23)) 3) (.inr (.inr (.inr ⟨by decide, by decide⟩)))).2.2 _ (by decide)
    (by decide)

/--
Exits of `proc_anon_client_kx` between its scan of Y and its key: with Y in `client_Y` and the
parameters allocated after it, `GNUTLS_E_MEMORY_ERROR` when g is NULL, or when the key cannot be
computed, having pointed `KEY` at NULL.
-/
theorem procAnonClientKx_unkeyed {hdr : Header} {o : Oracle} {s : Session} {message : List UInt8} {nY : Nat}
    (layout : clientKxLayout (bufferOf message) message.length = some nY) (scan : o.scanY = true)
    (failed : (o.getDhParams (anonBits hdr s)).1 = none ∨
      o.calcDhKey (some (mpiScanValue (readBytes (bufferOf message) 2 nY))) (s.dhSecret.map Mpi.value)
        (o.getDhParams (anonBits hdr s)).2 = none) :
    let scanned := s.alloc (some (mpiScanValue (readBytes (bufferOf message) 2 nY)))
    let s' := (((scanned.2.set .clientY scanned.1).alloc (o.getDhParams (anonBits hdr s)).2).2.alloc
      (o.getDhParams (anonBits hdr s)).1).2
    procAnonClientKx hdr o (bufferOf message) message.length s = (s', .error .memoryError) ∨
      procAnonClientKx hdr o (bufferOf message) message.length s = (s'.set .KEY none, .error .memoryError) := by
  simp only [procAnonClientKx, layout, finishClientKx, scan, Bool.not_true, Bool.false_eq_true, if_false,
    deriveClientKxKey]
  generalize o.getDhParams (anonBits hdr s) = params at failed ⊢
  rcases params with ⟨_ | g, p⟩
  · exact .inl rfl
  · simp only [reduceCtorEq, false_or] at failed
    right
    simp [Session.alloc, Session.set, Session.get, failed]

/--
Over every run of a session, when `proc_anon_client_kx` has scanned the client's public value but
then gets no generator from `gnutls_get_dh_params` or cannot compute the key, it returns
`GNUTLS_E_MEMORY_ERROR` without releasing the parameters it fetched: p, if returned, stays
allocated, and every big integer the call allocated after the public value it stored in `client_Y`
is held by no session field for the rest of the session's life.
-/
theorem procAnonClientKx_leaks_params (hdr : Header) (cred : Option AnonServerCredentials) (method : CredType)
    (calls rest : List KxCall) (o : Oracle) (message : List UInt8) (nY : Nat) :
    let s := kxRun hdr calls (Session.init cred method)
    clientKxLayout (bufferOf message) message.length = some nY → o.scanY = true →
    ((o.getDhParams (anonBits hdr s)).1 = none ∨
      o.calcDhKey (some (mpiScanValue (readBytes (bufferOf message) 2 nY))) (s.dhSecret.map Mpi.value)
        (o.getDhParams (anonBits hdr s)).2 = none) →
    (procAnonClientKx hdr o (bufferOf message) message.length s).2 = .error .memoryError ∧
    (∀ p, (o.getDhParams (anonBits hdr s)).2 = some p →
      (⟨s.heap.next + 1, p⟩ : Mpi) ∈ (procAnonClientKx hdr o (bufferOf message) message.length s).1.heap.live) ∧
    ∀ mpi ∈ (procAnonClientKx hdr o (bufferOf message) message.length s).1.heap.live, s.heap.next < mpi.handle →
      mpi ∈ (kxRun hdr (.procClient o message :: rest) s).leaked := by
  intro s layout scan failed
  have owned : s.Owned := (kxRun_keeps (init_owned cred method) calls).1
  have owned' : (procAnonClientKx hdr o (bufferOf message) message.length s).1.Owned :=
    (procAnonClientKx_keeps owned _ _).owned
  have exits := procAnonClientKx_unkeyed layout scan failed
  -- After either exit a field holds what it held before, or the scanned Y at `next`.
  have fields : ∀ field mpi, (procAnonClientKx hdr o (bufferOf message) message.length s).1.get field = some mpi →
      s.get field = some mpi ∨ mpi.handle = s.heap.next := by
    intro field mpi found
    rcases exits with exited | exited <;> rw [exited] at found <;>
      simp only [Session.get_set, Session.get_alloc] at found <;> split_ifs at found
    -- a field the call left alone, or `client_Y` holding the scanned Y at `next`
    all_goals first | exact .inl found | exact .inr (Option.some.inj found ▸ rfl)
  refine ⟨by rcases exits with exited | exited <;> rw [exited], fun p answered => ?_, fun mpi live fresh => ?_⟩
  · rcases exits with exited | exited <;> rw [exited, answered] <;>
      cases (o.getDhParams (anonBits hdr s)).1 <;> simp [Session.alloc, Session.set]
  · refine (kxRun_keeps owned' rest).2 _ (Session.mem_leaked.mpr ⟨live, fun field found => ?_⟩)
    rcases fields field mpi found with old | at_next
    · exact absurd (owned.below _ (owned.held field _ old)) (by omega)
    · omega

/-- On a fresh server session, a client message with NULL for g leaves p = 23 at handle 1 leaked. -/
theorem procAnonClientKx_leaks_params_ungenerated :
    (⟨1, 23⟩ : Mpi) ∈ (kxRun ⟨1024, 4, 4⟩ [.procClient (dhOracle (fun _ => (none, some 23)) 3) (clientKxData 10)]
      (kxRun ⟨1024, 4, 4⟩ [] (Session.init none .anon))).leaked :=
  let leaks := procAnonClientKx_leaks_params ⟨1024, 4, 4⟩ none .anon [] [] (dhOracle (fun _ => (none, some 23)) 3)
    (clientKxData 10) 1 (by decide) rfl (.inl rfl)
  leaks.2.2 _ (leaks.2.1 23 rfl) (by decide)

namespace Session

/--
From `s₀` to `s` an operation touched only big integers it allocated itself: it released none
allocated before, and every field holds what it held in `s₀` or one allocated since.
-/
structure FreshOnly (s₀ s : Session) : Prop where
  next_le : s₀.heap.next ≤ s.heap.next
  live : ∀ mpi ∈ s₀.heap.live, mpi ∈ s.heap.live
  fields : ∀ field mpi, s.get field = some mpi → s₀.get field = some mpi ∨ s₀.heap.next ≤ mpi.handle

variable {s₀ s s' : Session}

/-- An operation that has done nothing yet. -/
theorem FreshOnly.refl (s : Session) : FreshOnly s s :=
  ⟨le_rfl, fun _ => id, fun _ _ => .inl⟩

/-- A step that changes neither the big-integer fields nor the heap. -/
theorem FreshOnly.congr (fresh : FreshOnly s₀ s) (fields : ∀ field, s'.get field = s.get field)
    (heap : s'.heap = s.heap) : FreshOnly s₀ s' :=
  ⟨heap ▸ fresh.next_le, heap ▸ fresh.live, fun field m found => fresh.fields field m ((fields field).symm.trans found)⟩

/-- An allocation touches nothing old, and what it hands back was allocated since `s₀`. -/
theorem FreshOnly.alloc (fresh : FreshOnly s₀ s) {value : Option Nat} {mpi : Option Mpi}
    (allocated : s.alloc value = (mpi, s')) :
    FreshOnly s₀ s' ∧ ∀ m, mpi = some m → s₀.heap.next ≤ m.handle := by
  rcases alloc_cases allocated with ⟨rfl, rfl⟩ | ⟨v, rfl, rfl⟩
  · exact ⟨fresh, nofun⟩
  · exact ⟨⟨Nat.le_succ_of_le fresh.next_le, fun m live => List.mem_cons_of_mem _ (fresh.live m live),
      fresh.fields⟩, fun m found => Option.some.inj found ▸ fresh.next_le⟩

/-- An allocation, read through its two results. -/
theorem FreshOnly.alloc_eq (fresh : FreshOnly s₀ s) (value : Option Nat) :
    FreshOnly s₀ (s.alloc value).2 ∧ ∀ m, (s.alloc value).1 = some m → s₀.heap.next ≤ m.handle :=
  fresh.alloc rfl

/-- Pointing a field at NULL or at a big integer allocated since `s₀`. -/
theorem FreshOnly.set (fresh : FreshOnly s₀ s) (field : MpiField) {value : Option Mpi}
    (since : ∀ m, value = some m → s₀.heap.next ≤ m.handle) : FreshOnly s₀ (s.set field value) := by
  refine ⟨fresh.next_le, fresh.live, fun other m found => ?_⟩
  rw [get_set] at found
  split_ifs at found
  · exact .inr (since m found)
  · exact fresh.fields other m found

/-- Releasing NULL or a big integer allocated since `s₀`, which is none of those allocated before. -/
theorem FreshOnly.free (owned : s₀.Owned) (fresh : FreshOnly s₀ s) {value : Option Mpi}
    (since : ∀ m, value = some m → s₀.heap.next ≤ m.handle) : FreshOnly s₀ (s.free value) := by
  cases value with
  | none => exact fresh
  | some freed =>
    refine ⟨fresh.next_le, fun m live => ?_, fresh.fields⟩
    have old := owned.below m live
    exact (Heap.mem_release fun same => absurd (since m same) (by omega)).mpr (fresh.live m live)

/--
After an operation that touched only big integers it allocated, what a field held before and no
longer holds is still allocated and held by no field.
-/
theorem FreshOnly.leaked (owned : s₀.Owned) (fresh : FreshOnly s₀ s) {field : MpiField} {mpi : Mpi}
    (held : s₀.get field = some mpi) (dropped : s.get field ≠ some mpi) : mpi ∈ s.leaked := by
  refine mem_leaked.mpr ⟨fresh.live mpi (owned.held field mpi held), fun other found => ?_⟩
  rcases fresh.fields other mpi found with old | since
  · exact dropped (owned.distinct other field mpi old held ▸ found)
  · exact absurd (owned.below mpi (owned.held field mpi held)) (Nat.not_lt.mpr since)

end Session

section Replaced

open Session

variable {hdr : Header} {o : Oracle} {s : Session}

/-- The key pair step of the server, on p and g it allocated, touches only what it allocated. -/
theorem serverKxSecret_freshOnly {s₀ : Session} (owned : s₀.Owned) (fresh : FreshOnly s₀ s) {g p : Mpi}
    (fg : s₀.heap.next ≤ g.handle) (fp : s₀.heap.next ≤ p.handle) :
    FreshOnly s₀ (serverKxSecret o g p s).1 := by
  unfold serverKxSecret
  dsimp only
  rcases ax : s.alloc (o.calcDhSecret (some g.value) (some p.value)).2 with ⟨x, s₁⟩
  obtain ⟨f₁, fx⟩ := fresh.alloc ax
  rcases aX : s₁.alloc (o.calcDhSecret (some g.value) (some p.value)).1 with ⟨X, s₂⟩
  obtain ⟨f₂, fX⟩ := f₁.alloc aX
  -- Every store below is of x, and every release is of p, g, x or X.
  have fresh_some : ∀ {m : Mpi}, s₀.heap.next ≤ m.handle → ∀ m', some m = some m' → s₀.heap.next ≤ m'.handle :=
    fun since _ same => Option.some.inj same ▸ since
  dsimp only
  split
  · rename_i X x
    have f₃ := f₂.set .dhSecret (fresh_some (fx x rfl))
    split
    · exact ((f₃.free owned (fresh_some fp)).free owned (fresh_some fg)).free owned (fresh_some (fX X rfl))
    · exact ((f₃.free owned (fresh_some (fX X rfl))).free owned (fresh_some fg)).free owned (fresh_some fp)
  · exact (((f₂.free owned (fresh_some fg)).free owned (fresh_some fp)).free owned fx).free owned fX

/-- `gen_anon_server_kx` releases only what it allocated, and stores only its new exponent. -/
theorem genAnonServerKx_freshOnly (owned : s.Owned) : FreshOnly s (genAnonServerKx hdr o s).1 := by
  unfold genAnonServerKx
  dsimp only
  rcases ap : s.alloc (o.getDhParams (anonBits hdr s)).2 with ⟨_ | p, s₁⟩ <;>
    obtain ⟨f₁, fp⟩ := (FreshOnly.refl s).alloc ap <;>
    rcases ag : s₁.alloc (o.getDhParams (anonBits hdr s)).1 with ⟨_ | g, s₂⟩ <;>
    obtain ⟨f₂, fg⟩ := f₁.alloc ag <;> dsimp only
  iterate 3 exact f₂
  split
  · exact f₂
  · rename_i auth
    obtain ⟨rfl, -⟩ := serverAuthInfo_ok auth
    refine serverKxSecret_freshOnly owned (f₂.congr (fun field => ?_) ?_) (fg g rfl) (fp p rfl)
    · cases field <;> rfl
    · rfl

/-- Scanning the server's message releases nothing, and stores only what it scanned. -/
theorem storeServerKx_freshOnly {s₀ : Session} (fresh : FreshOnly s₀ s) (runY runG runP : List UInt8) :
    FreshOnly s₀ (storeServerKx hdr o runY runG runP s).1 := by
  unfold storeServerKx
  dsimp only
  obtain ⟨fY, sY⟩ := fresh.alloc_eq (some (mpiScanValue runY))
  have f₁ := fY.set .clientY sY
  obtain ⟨fG, sG⟩ := f₁.alloc_eq (some (mpiScanValue runG))
  have f₂ := fG.set .clientG sG
  obtain ⟨fP, sP⟩ := f₂.alloc_eq (some (mpiScanValue runP))
  have f₃ := fP.set .clientP sP
  split
  · exact fresh
  split
  · exact f₁
  split
  · exact f₂
  split
  · exact f₃
  · rename_i auth
    obtain ⟨rfl, -⟩ := clientAuthInfo_ok auth
    exact f₃.congr (fun field => by cases field <;> rfl) rfl

/-- `proc_anon_server_kx` releases nothing, and stores only what it scanned. -/
theorem procAnonServerKx_freshOnly (data : Nat → UInt8) (dataSize : Nat) :
    FreshOnly s (procAnonServerKx hdr o data dataSize s).1 := by
  unfold procAnonServerKx
  split
  · exact FreshOnly.refl s
  · exact storeServerKx_freshOnly (FreshOnly.refl s) _ _ _

/--
Over every run of a session, the two operations on the server's message release only big
integers they allocated themselves: what a field held before `gen_anon_server_kx` or
`proc_anon_server_kx` and no longer holds after it (`dh_secret` overwritten by a new exponent, or
`client_Y`, `client_g` and `client_p` by a second message) stays allocated and held by no field
for the rest of the session.
-/
theorem serverMessage_leaks_replaced (hdr : Header) (cred : Option AnonServerCredentials) (method : CredType)
    (calls rest : List KxCall) (call : KxCall) (field : MpiField) (mpi : Mpi) :
    let s := kxRun hdr calls (Session.init cred method)
    call.isServerMessage = true → s.get field = some mpi → (kxStep hdr s call).1.get field ≠ some mpi →
      mpi ∈ (kxRun hdr (call :: rest) s).leaked := by
  intro s server held dropped
  have owned : s.Owned := (kxRun_keeps (init_owned cred method) calls).1
  -- Neither operation releases, or moves into another field, a big integer it did not allocate.
  have fresh : FreshOnly s (kxStep hdr s call).1 := by
    cases call with
    | genServer o => exact (kxStep_genServer hdr o s).1 ▸ genAnonServerKx_freshOnly owned
    | procServer o message => exact procAnonServerKx_freshOnly _ _
    | _ => cases server
  exact (kxRun_keeps (kxStep_keeps owned call).owned rest).2 _ (fresh.leaked owned held dropped)

/-- A client that processes the same server message twice leaks the first message's Y, handle 0. -/
theorem serverMessage_leaks_replaced_twice :
    (⟨0, 8⟩ : Mpi) ∈ (kxRun ⟨1024, 4, 4⟩ [.procServer (dhOracle (fun _ => (none, none)) 3) (serverKxData 23 5 8)]
      (kxRun ⟨1024, 4, 4⟩ [.procServer (dhOracle (fun _ => (none, none)) 3) (serverKxData 23 5 8)]
        (Session.init none .anon))).leaked :=
  serverMessage_leaks_replaced ⟨1024, 4, 4⟩ none .anon
    [.procServer (dhOracle (fun _ => (none, none)) 3) (serverKxData 23 5 8)] []
    (.procServer (dhOracle (fun _ => (none, none)) 3) (serverKxData 23 5 8)) .clientY ⟨0, 8⟩ rfl
    (by decide) (by decide)

end Replaced

end Gnutls
