import Gnutls.Proofs.SbufTrust

/-! Ownership over whole runs of `sbuf.c`: certificate credentials are freed once and held by one credentials object, each sbuf owns its session alone, a session points only at a live sbuf that wraps it, and no call frees or changes an object it does not name. -/

namespace Gnutls

variable {w w' : World}

/-- Storing credentials back replaces those at their address and leaves the others. -/
theorem World.mem_writeCred_cases {cred c : CredObj} (mem : c ∈ (w.writeCred cred).creds) :
    c = cred ∨ c ∈ w.creds ∧ c.handle ≠ cred.handle := by
  obtain ⟨c', mem', rfl⟩ := List.mem_map.mp mem
  by_cases same : c'.handle = cred.handle <;> simp [same, mem']

/-- Storing credentials back keeps the credentials at every other address. -/
theorem World.mem_writeCred_of_ne {cred c : CredObj} (mem : c ∈ w.creds) (other : c.handle ≠ cred.handle) :
    c ∈ (w.writeCred cred).creds :=
  List.mem_map.mpr ⟨c, mem, if_neg other⟩

variable {layout : SbufLayout} {calls : TrustCalls} {vflags : VFlags} {aux : List CInput} {overflow : Clobber}

/-- `gnutls_credentials_set_trust`, when it leaves a clean world, keeps the credentials at every other address. -/
theorem gnutlsCredentialsSetTrust_keeps {cred c : CredObj} (mem : c ∈ w.creds) (other : c.handle ≠ cred.handle)
    (clean : (gnutlsCredentialsSetTrust layout calls vflags aux overflow cred w).1.Clean) :
    c ∈ (gnutlsCredentialsSetTrust layout calls vflags aux overflow cred w).1.creds := by
  rcases allocated : allocateXcred calls.allocate cred w with _ | ⟨x, cred₁, w₁⟩
  · simpa only [gnutlsCredentialsSetTrust, allocated] using mem
  -- `gnutls_certificate_allocate_credentials` stores the credentials back at their own address.
  have kept : c ∈ w₁.creds := by
    unfold allocateXcred at allocated
    split at allocated
    · cases allocated
      exact mem
    split at allocated
    · cases allocated
    · cases allocated
      exact World.mem_writeCred_of_ne mem other
  have other₁ : c.handle ≠ cred₁.handle := (allocateXcred_ok allocated).1 ▸ other
  rw [gnutlsCredentialsSetTrust_of_clean allocated clean]
  split
  · -- Success changes only the certificate credentials.
    exact kept
  · -- `fail1:` stores the credentials named back, and frees no credentials.
    simp only [gnutlsCertificateFreeCredentials_frame]
    exact World.mem_writeCred_of_ne kept other₁

/--
Every live credentials object holds live certificate credentials, if any, that no credentials at
another address hold; live certificate credentials lie below `next`; and no certificate credentials
were freed twice.
-/
structure World.CredsOwned (w : World) : Prop where
  live : ∀ c ∈ w.creds, ∀ x, c.xcred = some x → ∃ obj ∈ w.xcreds, obj.handle = x
  own : ∀ c ∈ w.creds, ∀ c' ∈ w.creds, ∀ x, c.xcred = some x → c'.xcred = some x → c'.handle = c.handle
  below : ∀ obj ∈ w.xcreds, obj.handle < w.next
  once : ∀ x, Fault.freeFreed x ∉ w.faults

namespace World.CredsOwned

variable {c cred : CredObj} {x : Nat}

/-- Nothing allocated owns nothing. -/
theorem empty : World.empty.CredsOwned := ⟨fun _ => nofun, fun _ => nofun, fun _ => nofun, fun _ => nofun⟩

/-- Changing sessions, sbufs and `next` upward, and recording no double free, keeps the ownership. -/
theorem frame (owned : w.CredsOwned) (creds : w'.creds = w.creds) (xcreds : w'.xcreds = w.xcreds)
    (next : w.next ≤ w'.next) (faults : ∀ x, Fault.freeFreed x ∈ w'.faults → Fault.freeFreed x ∈ w.faults) :
    w'.CredsOwned where
  live c mem x held := xcreds ▸ owned.live c (creds ▸ mem) x held
  own c mem c' mem' := owned.own c (creds ▸ mem) c' (creds ▸ mem')
  below obj mem := Nat.lt_of_lt_of_le (owned.below obj (xcreds ▸ mem)) next
  once x mem := owned.once x (faults x mem)

/-- Storing back credentials that hold live certificate credentials no credentials elsewhere hold. -/
theorem writeCred (owned : w.CredsOwned) (cred : CredObj) (live : ∀ x, cred.xcred = some x → ∃ obj ∈ w.xcreds, obj.handle = x)
    (alone : ∀ c ∈ w.creds, c.handle ≠ cred.handle → ∀ x, cred.xcred = some x → c.xcred ≠ some x) :
    (w.writeCred cred).CredsOwned where
  live c mem := by
    rcases World.mem_writeCred_cases mem with rfl | ⟨mem, -⟩
    · exact live
    · exact owned.live c mem
  own c mem c' mem' x held held' := by
    rcases World.mem_writeCred_cases mem with same | ⟨old, other⟩ <;>
      rcases World.mem_writeCred_cases mem' with same' | ⟨old', other'⟩
    · rw [same, same']
    · exact absurd held' (alone c' old' other' x (same ▸ held))
    · exact absurd held (alone c old other x (same' ▸ held'))
    · exact owned.own c old c' old' x held held'
  below := owned.below
  once := owned.once

/-- Changing certificate credentials in place, at the same addresses, keeps the ownership. -/
theorem mapXcreds (owned : w.CredsOwned) (f : XcredObj → XcredObj) (handle : ∀ obj, (f obj).handle = obj.handle) :
    ({ w with xcreds := w.xcreds.map f } : World).CredsOwned where
  live c mem x held := by
    obtain ⟨obj, mem', rfl⟩ := owned.live c mem x held
    exact ⟨f obj, List.mem_map_of_mem f mem', handle obj⟩
  own := owned.own
  below obj mem := by
    obtain ⟨obj', mem', rfl⟩ := List.mem_map.mp mem
    exact (handle obj').symm ▸ owned.below obj' mem'
  once := owned.once

/-- Dropping the credentials at an address keeps the ownership. -/
theorem drop (owned : w.CredsOwned) (handle : Nat) :
    ({ w with creds := w.creds.filter (·.handle ≠ handle) } : World).CredsOwned where
  live c mem := owned.live c (List.mem_filter.mp mem).1
  own c mem c' mem' := owned.own c (List.mem_filter.mp mem).1 c' (List.mem_filter.mp mem').1
  below := owned.below
  once := owned.once

/-- Freeing live certificate credentials that no live credentials hold records no double free. -/
theorem free (owned : w.CredsOwned) (live : ∃ obj ∈ w.xcreds, obj.handle = x)
    (unheld : ∀ c ∈ w.creds, c.xcred ≠ some x) : (gnutlsCertificateFreeCredentials x w).CredsOwned := by
  have found : w.xcreds.any (·.handle = x) := by simpa using live
  simp only [gnutlsCertificateFreeCredentials, found, if_true]
  refine ⟨fun c mem y held => ?_, owned.own, fun obj mem => owned.below obj (List.mem_filter.mp mem).1, owned.once⟩
  obtain ⟨obj, mem', rfl⟩ := owned.live c mem y held
  have other : obj.handle ≠ x := fun same => unheld c mem (same ▸ held)
  exact ⟨obj, List.mem_filter.mpr ⟨mem', by simpa using other⟩, rfl⟩

/--
`gnutls_certificate_allocate_credentials` for credentials that own their certificate credentials:
afterwards they hold live ones that no credentials elsewhere hold.
-/
theorem allocateXcred {allocate : Int} {c' : CredObj} (owned : w.CredsOwned) (mem : c ∈ w.creds)
    (allocated : Gnutls.allocateXcred allocate c w = .ok (x, c', w')) :
    w'.CredsOwned ∧ c'.xcred = some x ∧ (∃ obj ∈ w'.xcreds, obj.handle = x) ∧
      ∀ c'' ∈ w'.creds, c''.handle ≠ c'.handle → c''.xcred ≠ some x := by
  unfold Gnutls.allocateXcred at allocated
  split at allocated <;> rename_i held
  · -- Already held: nothing changes, and only credentials at the same address hold them.
    cases allocated
    exact ⟨owned, held, owned.live c mem x held, fun c'' mem'' other held'' =>
      other (owned.own c mem c'' mem'' x held held'')⟩
  split at allocated
  · cases allocated
  cases allocated
  -- New certificate credentials at `next`, which no live credentials can hold yet.
  have fresh : ∀ c'' ∈ w.creds, c''.xcred ≠ some w.next := fun c'' mem'' held'' => by
    obtain ⟨obj, mem', handle⟩ := owned.live c'' mem'' _ held''
    exact absurd (owned.below obj mem') (by omega)
  have allocated : ({ w with next := w.next + 1, xcreds := ⟨w.next, false⟩ :: w.xcreds } : World).CredsOwned :=
    { live := fun c mem x held => (owned.live c mem x held).imp fun _ ⟨mem, same⟩ => ⟨List.mem_cons_of_mem _ mem, same⟩
      own := owned.own
      below := fun obj mem => by
        rcases List.mem_cons.mp mem with rfl | mem
        · exact Nat.lt_succ_self _
        · exact Nat.lt_succ_of_lt (owned.below obj mem)
      once := owned.once }
  have live : ∃ obj ∈ (⟨w.next, false⟩ :: w.xcreds : List XcredObj), obj.handle = w.next :=
    ⟨_, List.mem_cons_self _ _, rfl⟩
  refine ⟨allocated.writeCred _ (fun _ held => Option.some.inj held ▸ live) fun c'' mem'' _ _ held => ?_, rfl, live,
    fun c'' mem'' other => ?_⟩
  · exact Option.some.inj held ▸ fresh c'' mem''
  · rcases World.mem_writeCred_cases mem'' with rfl | ⟨mem'', -⟩
    · exact absurd rfl other
    · exact fresh c'' mem''

/-- `gnutls_credentials_set_trust`, when it leaves a clean world, keeps the ownership, on success and through `fail1:`. -/
theorem setTrust (owned : w.CredsOwned) (mem : c ∈ w.creds)
    (clean : (gnutlsCredentialsSetTrust layout calls vflags aux overflow c w).1.Clean) :
    (gnutlsCredentialsSetTrust layout calls vflags aux overflow c w).1.CredsOwned := by
  rcases allocated : Gnutls.allocateXcred calls.allocate c w with _ | ⟨x, c₁, w₁⟩
  · simpa only [gnutlsCredentialsSetTrust, allocated] using owned
  obtain ⟨owned₁, -, live, alone⟩ := owned.allocateXcred mem allocated
  rw [gnutlsCredentialsSetTrust_of_clean allocated clean]
  split
  · -- Success: the certificate credentials now verify, at the same address.
    exact owned₁.mapXcreds _ fun obj => by split <;> rfl
  · -- `fail1:` stores NULL first, so freeing finds no other holder.
    refine (owned₁.writeCred { c₁ with xcred := none } (fun _ => nofun) fun _ _ _ _ => nofun).free live
      fun c'' mem'' held'' => ?_
    rcases World.mem_writeCred_cases mem'' with rfl | ⟨mem'', other⟩
    · cases held''
    · exact alone c'' mem'' other held''

/-- `gnutls_credentials_deinit` frees certificate credentials only its own credentials held. -/
theorem credentialsDeinit (owned : w.CredsOwned) (mem : c ∈ w.creds) : (gnutlsCredentialsDeinit c w).CredsOwned := by
  rcases held : c.xcred with _ | x
  · simpa [gnutlsCredentialsDeinit, held] using owned.drop c.handle
  -- Freeing reads no credentials, so it can come after dropping them.
  have dropped : gnutlsCredentialsDeinit c w =
      gnutlsCertificateFreeCredentials x { w with creds := w.creds.filter (·.handle ≠ c.handle) } := by
    unfold gnutlsCredentialsDeinit gnutlsCertificateFreeCredentials
    simp only [held]
    split <;> rfl
  rw [dropped]
  refine (owned.drop c.handle).free (owned.live c mem x held) fun c' mem' held' => ?_
  obtain ⟨mem', other⟩ := List.mem_filter.mp mem'
  exact absurd (owned.own c mem c' mem' x held held') (by simpa using other)

/-- `gnutls_credentials_init` makes credentials that hold no certificate credentials. -/
theorem credentialsInit (owned : w.CredsOwned) (calloc : Bool) : (gnutlsCredentialsInit calloc w).1.CredsOwned := by
  unfold gnutlsCredentialsInit
  split
  · exact owned
  have old : ∀ c ∈ (⟨w.next, none⟩ :: w.creds : List CredObj), ∀ x, c.xcred = some x → c ∈ w.creds :=
    fun c mem x held => (List.mem_cons.mp mem).resolve_left fun same => by simp [same] at held
  exact ⟨fun c mem x held => owned.live c (old c mem x held) x held,
    fun c mem c' mem' x held held' => owned.own c (old c mem x held) c' (old c' mem' x held') x held held',
    fun obj mem => Nat.lt_succ_of_lt (owned.below obj mem), owned.once⟩

end World.CredsOwned

/--
Each live sbuf wraps a live session, if any, that no other live sbuf wraps; each live session is
wrapped by a live sbuf; and no two live sbufs share an address.
-/
structure World.Wrapped (w : World) : Prop where
  live : ∀ sb ∈ w.sbufs, ∀ s, sb.session = some s → ∃ obj ∈ w.sessions, obj.handle = s
  own : ∀ sb ∈ w.sbufs, ∀ sb' ∈ w.sbufs, ∀ s, sb.session = some s → sb'.session = some s → sb' = sb
  held : ∀ obj ∈ w.sessions, ∃ sb ∈ w.sbufs, sb.session = some obj.handle
  unique : ∀ sb ∈ w.sbufs, ∀ sb' ∈ w.sbufs, sb'.handle = sb.handle → sb' = sb

/-- `gnutls_sbuf_deinit` of an sbuf whose session is live frees that session and the sbuf, and records nothing. -/
theorem gnutlsSbufDeinit_of_live {sb : SbufObj} (live : ∀ s, sb.session = some s → ∃ obj ∈ w.sessions, obj.handle = s) :
    gnutlsSbufDeinit sb w =
      { w with
        sessions := w.sessions.filter (fun obj => sb.session ≠ some obj.handle)
        sbufs := w.sbufs.filter (·.handle ≠ sb.handle) } := by
  unfold gnutlsSbufDeinit
  rcases wraps : sb.session with _ | s
  · simp
  obtain ⟨obj, mem, rfl⟩ := live _ wraps
  have found : w.sessions.any (·.handle = obj.handle) := List.any_eq_true.mpr ⟨obj, mem, by simp⟩
  simp only [gnutlsDeinit, found, if_true, ne_eq, Option.some.injEq]
  congr 1
  exact List.filter_congr fun o _ => by simp only [@eq_comm _ obj.handle]

namespace World.Wrapped

variable {sb : SbufObj}

/-- Nothing allocated wraps nothing. -/
theorem empty : World.empty.Wrapped := ⟨fun _ => nofun, fun _ => nofun, fun _ => nofun, fun _ => nofun⟩

/-- A change that keeps the sessions and the sbufs keeps the wrapping. -/
theorem frame (wrapped : w.Wrapped) (sessions : w'.sessions = w.sessions) (sbufs : w'.sbufs = w.sbufs) :
    w'.Wrapped := by
  obtain ⟨live, own, held, unique⟩ := wrapped
  exact ⟨sbufs ▸ sessions ▸ live, sbufs ▸ own, sbufs ▸ sessions ▸ held, sbufs ▸ unique⟩

/-- `gnutls_sbuf_deinit` of a live sbuf keeps the wrapping, and records nothing. -/
theorem sbufDeinit (wrapped : w.Wrapped) (mem : sb ∈ w.sbufs) :
    (gnutlsSbufDeinit sb w).Wrapped ∧ (gnutlsSbufDeinit sb w).faults = w.faults := by
  rw [gnutlsSbufDeinit_of_live (wrapped.live sb mem)]
  refine ⟨⟨fun x mem' t wraps => ?_, fun x mem' x' mem'' => ?_, fun o mem' => ?_, fun x mem' x' mem'' => ?_⟩, rfl⟩
  · -- The other sbufs keep their sessions: none of them wraps the one freed.
    obtain ⟨old, other⟩ := List.mem_filter.mp mem'
    obtain ⟨obj, live, rfl⟩ := wrapped.live x old t wraps
    refine ⟨obj, List.mem_filter.mpr ⟨live, ?_⟩, rfl⟩
    simp only [ne_eq, decide_not, Bool.not_eq_true', decide_eq_false_iff_not]
    intro same
    exact absurd (congrArg SbufObj.handle (wrapped.own x old sb mem _ wraps same)).symm (by simpa using other)
  · exact wrapped.own x (List.mem_filter.mp mem').1 x' (List.mem_filter.mp mem'').1
  · -- A session left live is wrapped by an sbuf other than the one unmade.
    obtain ⟨old, other⟩ := List.mem_filter.mp mem'
    obtain ⟨x, mem'', wraps⟩ := wrapped.held o old
    refine ⟨x, List.mem_filter.mpr ⟨mem'', ?_⟩, wraps⟩
    simp only [ne_eq, decide_not, Bool.not_eq_true', decide_eq_false_iff_not]
    intro same
    rw [wrapped.unique sb mem x mem'' same] at wraps
    simp [wraps] at other
  · exact wrapped.unique x (List.mem_filter.mp mem').1 x' (List.mem_filter.mp mem'').1

/-- `gnutls_sbuf_sinit` of NULL keeps the wrapping: its sbuf wraps nothing, at a new address. -/
theorem sinit (wrapped : w.Wrapped) (bounded : w.Bounded) (malloc : Bool) (leftover : Leftover) (writeFlushes : Bool) :
    (gnutlsSbufSinit malloc leftover none writeFlushes w).1.Wrapped := by
  unfold gnutlsSbufSinit
  split
  · exact wrapped
  have old : ∀ x ∈ (⟨w.next, none, leftover.serverName, leftover.serviceName, leftover.cred, ⟨[], writeFlushes⟩⟩ ::
      w.sbufs : List SbufObj), x.session ≠ none → x ∈ w.sbufs :=
    fun x mem some => (List.mem_cons.mp mem).resolve_left fun same => some (same ▸ rfl)
  refine ⟨fun x mem t wraps => wrapped.live x (old x mem (by simp [wraps])) t wraps,
    fun x mem x' mem' t wraps wraps' =>
      wrapped.own x (old x mem (by simp [wraps])) x' (old x' mem' (by simp [wraps'])) t wraps wraps',
    fun o mem => (wrapped.held o mem).imp fun x ⟨mem, wraps⟩ => ⟨List.mem_cons_of_mem _ mem, wraps⟩,
    fun x mem x' mem' same => ?_⟩
  rcases List.mem_cons.mp mem with rfl | mem <;> rcases List.mem_cons.mp mem' with rfl | mem'
  · rfl
  · exact absurd (same ▸ bounded.sbufs x' mem') (Nat.lt_irrefl _)
  · exact absurd (same.symm ▸ bounded.sbufs x mem) (Nat.lt_irrefl _)
  · exact wrapped.unique x mem x' mem' same

end World.Wrapped

/-- A setup keeps the wrapping: the sbuf it leaves wraps the session it leaves, both new. -/
theorem SetupLeaves.wrapped (leaves : SetupLeaves w w') (bounded : w.Bounded) (wrapped : w.Wrapped) : w'.Wrapped := by
  cases leaves with
  | untouched => exact wrapped
  | undone => exact wrapped.frame rfl rfl
  | failed => exact wrapped.frame rfl rfl
  | added obj sb handle sbHandle wraps _ =>
    -- No old sbuf sits at the new address or wraps the new session.
    have fresh : ∀ x ∈ w.sbufs, x.handle ≠ sb.handle ∧ x.session ≠ some w.next := fun x mem => by
      refine ⟨by have := bounded.sbufs x mem; omega, fun wraps' => ?_⟩
      obtain ⟨o, mem', same⟩ := wrapped.live x mem _ wraps'
      exact absurd (bounded.sessions o mem') (by omega)
    refine ⟨fun x mem t wraps' => ?_, fun x mem x' mem' t held held' => ?_, fun o mem => ?_, fun x mem x' mem' same => ?_⟩
    · rcases List.mem_cons.mp mem with rfl | mem
      · exact ⟨obj, List.mem_cons_self _ _, handle.trans (Option.some.inj (wraps.symm.trans wraps'))⟩
      · exact (wrapped.live x mem t wraps').imp fun o ⟨mem, same⟩ => ⟨List.mem_cons_of_mem _ mem, same⟩
    · rcases List.mem_cons.mp mem with rfl | old <;> rcases List.mem_cons.mp mem' with rfl | old'
      · rfl
      · exact absurd ((Option.some.inj (wraps.symm.trans held)) ▸ held') ((fresh x' old').2)
      · exact absurd ((Option.some.inj (wraps.symm.trans held')) ▸ held) ((fresh x old).2)
      · exact wrapped.own x old x' old' t held held'
    · rcases List.mem_cons.mp mem with rfl | mem
      · exact ⟨sb, List.mem_cons_self _ _, by rw [wraps, handle]⟩
      · exact (wrapped.held o mem).imp fun x ⟨mem, wraps⟩ => ⟨List.mem_cons_of_mem _ mem, wraps⟩
    · rcases List.mem_cons.mp mem with rfl | old <;> rcases List.mem_cons.mp mem' with rfl | old'
      · rfl
      · exact absurd same (fresh x' old').1
      · exact absurd same.symm (fresh x old).1
      · exact wrapped.unique x old x' old' same

/--
Every live session that points at an address finds a live sbuf there, and every live sbuf there
wraps that session.
-/
structure World.Linked (w : World) : Prop where
  live : ∀ obj ∈ w.sessions, ∀ h, obj.ptr = some h → ∃ sb ∈ w.sbufs, sb.handle = h
  wraps : ∀ obj ∈ w.sessions, ∀ h, obj.ptr = some h → ∀ sb ∈ w.sbufs, sb.handle = h → sb.session = some obj.handle

namespace World.Linked

variable {sb : SbufObj}

/-- With nothing allocated, no session points anywhere. -/
theorem empty : World.empty.Linked := ⟨fun _ => nofun, fun _ => nofun⟩

/-- A change that keeps the sessions and the sbufs keeps the links. -/
theorem frame (linked : w.Linked) (sessions : w'.sessions = w.sessions) (sbufs : w'.sbufs = w.sbufs) :
    w'.Linked := by
  obtain ⟨live, wraps⟩ := linked
  exact ⟨sbufs ▸ sessions ▸ live, sbufs ▸ sessions ▸ wraps⟩

/-- `gnutls_sbuf_sinit` keeps the links: no session points at the next address. -/
theorem sinit (linked : w.Linked) (tidy : w.Tidy) (malloc : Bool) (leftover : Leftover) (session : Option Nat)
    (writeFlushes : Bool) : (gnutlsSbufSinit malloc leftover session writeFlushes w).1.Linked := by
  unfold gnutlsSbufSinit
  split
  · exact linked
  refine ⟨fun obj mem h ptr => ?_, fun obj mem h ptr x mem' same => ?_⟩
  · obtain ⟨x, old, same⟩ := linked.live obj mem h ptr
    exact ⟨x, List.mem_cons_of_mem _ old, same⟩
  · rcases List.mem_cons.mp mem' with rfl | old
    · exact absurd (tidy.ptr_below obj mem h ptr) (by simp [← same])
    · exact linked.wraps obj mem h ptr x old same

/-- `gnutls_sbuf_deinit` of a live sbuf keeps the links: a session pointing at it was its own, and is freed with it. -/
theorem sbufDeinit (linked : w.Linked) (mem : sb ∈ w.sbufs) : (gnutlsSbufDeinit sb w).Linked := by
  obtain ⟨-, sessions, sbufs, -⟩ := gnutlsSbufDeinit_frame sb w
  refine ⟨fun obj mem' h ptr => ?_, fun obj mem' h ptr x mem'' same => ?_⟩
  · obtain ⟨old, unwrapped⟩ := sessions obj mem'
    obtain ⟨x, held, rfl⟩ := linked.live obj old h ptr
    have other : x.handle ≠ sb.handle := fun same => unwrapped (linked.wraps obj old _ ptr sb mem same.symm)
    exact ⟨x, sbufs ▸ List.mem_filter.mpr ⟨held, by simpa using other⟩, rfl⟩
  · exact linked.wraps obj (sessions obj mem').1 h ptr x (List.mem_filter.mp (sbufs ▸ mem'')).1 same

end World.Linked

/-- A setup keeps the links: its session, if it points anywhere, points at the sbuf it made, above every old one. -/
theorem SetupLeaves.linked (leaves : SetupLeaves w w') (bounded : w.Bounded) (tidy : w.Tidy) (linked : w.Linked) :
    w'.Linked := by
  cases leaves with
  | untouched => exact linked
  | undone => exact linked.frame rfl rfl
  | failed => exact linked.frame rfl rfl
  | added obj sb handle sbHandle wraps ptr =>
    refine ⟨fun o mem h ptr' => ?_, fun o mem h ptr' x mem' same => ?_⟩
    · rcases List.mem_cons.mp mem with rfl | old
      · rcases ptr with ptr | ptr <;> rw [ptr] at ptr'
        · cases ptr'
        · exact ⟨sb, List.mem_cons_self _ _, Option.some.inj ptr'⟩
      · obtain ⟨x, mem', same⟩ := linked.live o old h ptr'
        exact ⟨x, List.mem_cons_of_mem _ mem', same⟩
    · rcases List.mem_cons.mp mem with rfl | old <;> rcases List.mem_cons.mp mem' with rfl | old'
      · rw [wraps, handle]
      · -- The new session points at the new sbuf, which no old sbuf shares an address with.
        have below := bounded.sbufs x old'
        rcases ptr with ptr | ptr <;> rw [ptr] at ptr'
        · cases ptr'
        · have pointed := Option.some.inj ptr'
          omega
      · -- An old session points below `next`, where the new sbuf is not.
        have below := tidy.ptr_below o old h ptr'
        omega
      · exact linked.wraps o old h ptr' x old' same

section Run

variable (layout : SbufLayout) (isFatal : Int → Bool)

/-- Each call that leaves a clean world keeps the ownership of certificate credentials. -/
theorem setupStep_credsOwned (owned : w.CredsOwned) (bounded : w.Bounded) (call : SetupCall)
    (clean : (setupStep layout isFatal w call).Clean) : (setupStep layout isFatal w call).CredsOwned := by
  have dangling : ∀ handle, ({ w with faults := .dangling handle :: w.faults } : World).CredsOwned :=
    fun _ => owned.frame rfl rfl le_rfl fun x mem => by simpa using mem
  have setup : ∀ w', SetupLeaves w w' → w'.CredsOwned := fun w' leaves =>
    owned.frame leaves.frame.1 leaves.frame.2.1 leaves.frame.2.2.1 leaves.frame.2.2.2
  cases call with
  | clientInit calls hostname service priority cred writeFlushes =>
    exact World.withLive_of (dangling _) fun c _ =>
      setup _ ((gnutlsSbufClientInit_cases Prod.mk.eta.symm).2.2.1 bounded)
  | serverInit calls priority cred writeFlushes =>
    exact World.withLive_of (dangling _) fun c _ =>
      setup _ ((gnutlsSbufServerInit_cases Prod.mk.eta.symm).2.2.1 bounded)
  | sinit malloc leftover session writeFlushes =>
    show (gnutlsSbufSinit malloc leftover session writeFlushes w).1.CredsOwned
    unfold gnutlsSbufSinit
    split
    · exact owned
    · exact owned.frame rfl rfl (Nat.le_succ _) fun _ => id
  | deinit sb =>
    refine World.withLive_of (dangling _) fun obj _ => ?_
    obtain ⟨next, -, -, xcreds, faults⟩ := gnutlsSbufDeinit_frame obj w
    exact owned.frame (gnutlsSbufDeinit_creds obj w) xcreds next.ge faults
  | credentialsInit calloc => exact owned.credentialsInit calloc
  | credentialsDeinit cred =>
    exact World.withLive_of (dangling _) fun c found => owned.credentialsDeinit (List.mem_of_find?_eq_some found)
  | setTrust cred calls vflags aux overflow =>
    -- Clean, so the credentials block was not overrun.
    exact World.withLive_of (P := fun w' => w'.Clean → w'.CredsOwned) (fun _ => dangling _)
      (fun c found => owned.setTrust (List.mem_of_find?_eq_some found)) clean

/-- Every run that ends in a clean world keeps the ownership of certificate credentials. -/
theorem setupRun_credsOwned (calls : List SetupCall) (owned : w.CredsOwned) (bounded : w.Bounded)
    (clean : (setupRun layout isFatal calls w).Clean) : (setupRun layout isFatal calls w).CredsOwned := by
  induction calls generalizing w with
  | nil => exact owned
  | cons call calls ih =>
    exact ih (setupStep_credsOwned layout isFatal owned bounded call (clean.head layout isFatal bounded))
      (setupStep_bounded layout isFatal bounded call) clean

/-- Each call that leaves a clean world keeps the wrapping, unless it is a `gnutls_sbuf_sinit` of a session. -/
theorem setupStep_wrapped (wrapped : w.Wrapped) (bounded : w.Bounded) (call : SetupCall)
    (unwrapped : ∀ malloc leftover session writeFlushes,
      call = .sinit malloc leftover session writeFlushes → session = none)
    (clean : (setupStep layout isFatal w call).Clean) : (setupStep layout isFatal w call).Wrapped := by
  have dangling : ∀ handle, ({ w with faults := .dangling handle :: w.faults } : World).Wrapped :=
    fun _ => wrapped.frame rfl rfl
  cases call with
  | clientInit calls hostname service priority cred writeFlushes =>
    exact World.withLive_of (dangling _) fun c _ =>
      ((gnutlsSbufClientInit_cases Prod.mk.eta.symm).2.2.1 bounded).wrapped bounded wrapped
  | serverInit calls priority cred writeFlushes =>
    exact World.withLive_of (dangling _) fun c _ =>
      ((gnutlsSbufServerInit_cases Prod.mk.eta.symm).2.2.1 bounded).wrapped bounded wrapped
  | sinit malloc leftover session writeFlushes =>
    obtain rfl := unwrapped malloc leftover session writeFlushes rfl
    exact wrapped.sinit bounded malloc leftover writeFlushes
  | deinit sb =>
    exact World.withLive_of (dangling _) fun obj found => (wrapped.sbufDeinit (List.mem_of_find?_eq_some found)).1
  | credentialsInit calloc =>
    obtain ⟨sessions, sbufs, -⟩ := gnutlsCredentialsInit_frame calloc w
    exact wrapped.frame sessions sbufs
  | credentialsDeinit cred =>
    refine World.withLive_of (dangling _) fun c _ => ?_
    obtain ⟨sessions, sbufs, -⟩ := gnutlsCredentialsDeinit_frame c w
    exact wrapped.frame sessions sbufs
  | setTrust cred calls vflags aux overflow =>
    obtain ⟨sessions, sbufs, -⟩ := setupStep_setTrust_frame layout isFatal clean
    exact wrapped.frame sessions sbufs

/-- Every run that ends in a clean world and in which `gnutls_sbuf_sinit` wraps no session keeps the wrapping. -/
theorem setupRun_wrapped (calls : List SetupCall)
    (unwrapped : ∀ call ∈ calls, ∀ malloc leftover session writeFlushes,
      call = .sinit malloc leftover session writeFlushes → session = none)
    (wrapped : w.Wrapped) (bounded : w.Bounded) (clean : (setupRun layout isFatal calls w).Clean) :
    (setupRun layout isFatal calls w).Wrapped := by
  induction calls generalizing w with
  | nil => exact wrapped
  | cons call calls ih =>
    exact ih (fun call' mem => unwrapped call' (List.mem_cons_of_mem _ mem))
      (setupStep_wrapped layout isFatal wrapped bounded call (unwrapped call (List.mem_cons_self _ _))
        (clean.head layout isFatal bounded))
      (setupStep_bounded layout isFatal bounded call) clean

/-- Each call that leaves a clean world keeps the links between sessions and the sbufs they point at. -/
theorem setupStep_linked (linked : w.Linked) (tidy : w.Tidy) (bounded : w.Bounded) (call : SetupCall)
    (clean : (setupStep layout isFatal w call).Clean) : (setupStep layout isFatal w call).Linked := by
  have dangling : ∀ handle, ({ w with faults := .dangling handle :: w.faults } : World).Linked :=
    fun _ => linked.frame rfl rfl
  cases call with
  | clientInit calls hostname service priority cred writeFlushes =>
    exact World.withLive_of (dangling _) fun c _ =>
      ((gnutlsSbufClientInit_cases Prod.mk.eta.symm).2.2.1 bounded).linked bounded tidy linked
  | serverInit calls priority cred writeFlushes =>
    exact World.withLive_of (dangling _) fun c _ =>
      ((gnutlsSbufServerInit_cases Prod.mk.eta.symm).2.2.1 bounded).linked bounded tidy linked
  | sinit malloc leftover session writeFlushes => exact linked.sinit tidy malloc leftover session writeFlushes
  | deinit sb =>
    exact World.withLive_of (dangling _) fun obj found => linked.sbufDeinit (List.mem_of_find?_eq_some found)
  | credentialsInit calloc =>
    obtain ⟨sessions, sbufs, -⟩ := gnutlsCredentialsInit_frame calloc w
    exact linked.frame sessions sbufs
  | credentialsDeinit cred =>
    refine World.withLive_of (dangling _) fun c _ => ?_
    obtain ⟨sessions, sbufs, -⟩ := gnutlsCredentialsDeinit_frame c w
    exact linked.frame sessions sbufs
  | setTrust cred calls vflags aux overflow =>
    obtain ⟨sessions, sbufs, -⟩ := setupStep_setTrust_frame layout isFatal clean
    exact linked.frame sessions sbufs

/-- Every run that ends in a clean world keeps the links between sessions and the sbufs they point at. -/
theorem setupRun_linked (calls : List SetupCall) (linked : w.Linked) (tidy : w.Tidy) (bounded : w.Bounded)
    (clean : (setupRun layout isFatal calls w).Clean) : (setupRun layout isFatal calls w).Linked := by
  induction calls generalizing w with
  | nil => exact linked
  | cons call calls ih =>
    have clean₁ := clean.head layout isFatal bounded
    exact ih (setupStep_linked layout isFatal linked tidy bounded call clean₁)
      (setupStep_tidy layout isFatal tidy call clean₁) (setupStep_bounded layout isFatal bounded call) clean

/-- Each call that leaves a clean world keeps every live sbuf it does not name. -/
theorem setupStep_keeps_sbuf (bounded : w.Bounded) (call : SetupCall) {sb : SbufObj} (mem : sb ∈ w.sbufs)
    (unnamed : call ≠ .deinit sb.handle) (clean : (setupStep layout isFatal w call).Clean) :
    sb ∈ (setupStep layout isFatal w call).sbufs := by
  have dangling : ∀ handle, sb ∈ ({ w with faults := .dangling handle :: w.faults } : World).sbufs := fun _ => mem
  cases call with
  | clientInit calls hostname service priority cred writeFlushes =>
    exact World.withLive_of (P := fun w' => sb ∈ w'.sbufs) (dangling _) fun c _ =>
      ((gnutlsSbufClientInit_cases Prod.mk.eta.symm).2.2.1 bounded).keeps.2.1 sb mem
  | serverInit calls priority cred writeFlushes =>
    exact World.withLive_of (P := fun w' => sb ∈ w'.sbufs) (dangling _) fun c _ =>
      ((gnutlsSbufServerInit_cases Prod.mk.eta.symm).2.2.1 bounded).keeps.2.1 sb mem
  | sinit malloc leftover session writeFlushes =>
    show sb ∈ (gnutlsSbufSinit malloc leftover session writeFlushes w).1.sbufs
    unfold gnutlsSbufSinit
    split
    · exact mem
    · exact List.mem_cons_of_mem _ mem
  | deinit h =>
    refine World.withLive_of (P := fun w' => sb ∈ w'.sbufs) (dangling _) fun sb' found => ?_
    -- The sbuf unmade sits at the address named, which is not this one's.
    have other : sb.handle ≠ sb'.handle := by
      have handle : sb'.handle = h := by simpa using List.find?_some found
      rw [handle]
      exact fun same => unnamed (same ▸ rfl)
    show sb ∈ (gnutlsSbufDeinit sb' w).sbufs
    rw [(gnutlsSbufDeinit_frame sb' w).2.2.1]
    exact List.mem_filter.mpr ⟨mem, by simpa using other⟩
  | credentialsInit calloc => exact (gnutlsCredentialsInit_frame calloc w).2.1 ▸ mem
  | credentialsDeinit cred =>
    exact World.withLive_of (P := fun w' => sb ∈ w'.sbufs) (dangling _) fun c _ =>
      ((gnutlsCredentialsDeinit_frame c w).2.1 ▸ mem :)
  | setTrust cred calls vflags aux overflow => exact (setupStep_setTrust_frame layout isFatal clean).2.1 ▸ mem

/-- Each call that leaves a clean world keeps every live credentials object it does not name. -/
theorem setupStep_keeps_cred (bounded : w.Bounded) (call : SetupCall) {c : CredObj} (mem : c ∈ w.creds)
    (unnamed : call ≠ .credentialsDeinit c.handle ∧
      ∀ trust vflags aux overflow, call ≠ .setTrust c.handle trust vflags aux overflow)
    (clean : (setupStep layout isFatal w call).Clean) : c ∈ (setupStep layout isFatal w call).creds := by
  have dangling : ∀ handle, c ∈ ({ w with faults := .dangling handle :: w.faults } : World).creds := fun _ => mem
  have setup : ∀ w', SetupLeaves w w' → c ∈ w'.creds := fun w' leaves => leaves.frame.1 ▸ mem
  -- The credentials a call names sit at the address it names, which is not these ones'.
  have other : ∀ h c', w.cred? h = some c' → h ≠ c.handle → c.handle ≠ c'.handle := fun h c' found named same => by
    have handle : c'.handle = h := by simpa using List.find?_some found
    exact named (handle ▸ same).symm
  cases call with
  | clientInit calls hostname service priority cred writeFlushes =>
    exact World.withLive_of (P := fun w' => c ∈ w'.creds) (dangling _) fun c' _ =>
      setup _ ((gnutlsSbufClientInit_cases Prod.mk.eta.symm).2.2.1 bounded)
  | serverInit calls priority cred writeFlushes =>
    exact World.withLive_of (P := fun w' => c ∈ w'.creds) (dangling _) fun c' _ =>
      setup _ ((gnutlsSbufServerInit_cases Prod.mk.eta.symm).2.2.1 bounded)
  | sinit malloc leftover session writeFlushes => exact (gnutlsSbufSinit_creds malloc leftover session writeFlushes w).symm ▸ mem
  | deinit h => exact World.withLive_of (P := fun w' => c ∈ w'.creds) (dangling _) fun sb _ =>
      ((gnutlsSbufDeinit_creds sb w).symm ▸ mem :)
  | credentialsInit calloc =>
    show c ∈ (gnutlsCredentialsInit calloc w).1.creds
    unfold gnutlsCredentialsInit
    split
    · exact mem
    · exact List.mem_cons_of_mem _ mem
  | credentialsDeinit h =>
    refine World.withLive_of (P := fun w' => c ∈ w'.creds) (dangling _) fun c' found => ?_
    have other := other h c' found fun same => unnamed.1 (same ▸ rfl)
    unfold gnutlsCredentialsDeinit
    split <;> simp only [gnutlsCertificateFreeCredentials_frame] <;>
      exact List.mem_filter.mpr ⟨mem, by simpa using other⟩
  | setTrust h trust vflags aux overflow =>
    exact World.withLive_of (P := fun w' => w'.Clean → c ∈ w'.creds) (fun _ => dangling _)
      (fun c' found => gnutlsCredentialsSetTrust_keeps mem
        (other h c' found fun same => unnamed.2 trust vflags aux overflow (same ▸ rfl))) clean

/-- Each call that leaves a clean world keeps every live session whose own sbuf it does not name. -/
theorem setupStep_keeps_session (wrapped : w.Wrapped) (bounded : w.Bounded) (call : SetupCall) {obj : SessionObj}
    (mem : obj ∈ w.sessions) {sb : SbufObj} (held : sb ∈ w.sbufs) (wraps : sb.session = some obj.handle)
    (unnamed : call ≠ .deinit sb.handle) (clean : (setupStep layout isFatal w call).Clean) :
    obj ∈ (setupStep layout isFatal w call).sessions := by
  have dangling : ∀ handle, obj ∈ ({ w with faults := .dangling handle :: w.faults } : World).sessions :=
    fun _ => mem
  cases call with
  | clientInit calls hostname service priority cred writeFlushes =>
    exact World.withLive_of (P := fun w' => obj ∈ w'.sessions) (dangling _) fun c _ =>
      ((gnutlsSbufClientInit_cases Prod.mk.eta.symm).2.2.1 bounded).keeps.1 obj mem
  | serverInit calls priority cred writeFlushes =>
    exact World.withLive_of (P := fun w' => obj ∈ w'.sessions) (dangling _) fun c _ =>
      ((gnutlsSbufServerInit_cases Prod.mk.eta.symm).2.2.1 bounded).keeps.1 obj mem
  | sinit malloc leftover session writeFlushes =>
    show obj ∈ (gnutlsSbufSinit malloc leftover session writeFlushes w).1.sessions
    unfold gnutlsSbufSinit
    split <;> exact mem
  | deinit h =>
    refine World.withLive_of (P := fun w' => obj ∈ w'.sessions) (dangling _) fun sb' found => ?_
    have mem' := List.mem_of_find?_eq_some found
    rw [gnutlsSbufDeinit_of_live (wrapped.live sb' mem')]
    refine List.mem_filter.mpr ⟨mem, ?_⟩
    -- Only the session's own sbuf wraps it, and the call names another.
    simp only [ne_eq, decide_not, Bool.not_eq_true', decide_eq_false_iff_not]
    intro same
    have handle : sb'.handle = h := by simpa using List.find?_some found
    exact unnamed (by rw [← handle, wrapped.own sb held sb' mem' _ wraps same])
  | credentialsInit calloc => exact (gnutlsCredentialsInit_frame calloc w).1 ▸ mem
  | credentialsDeinit cred =>
    exact World.withLive_of (P := fun w' => obj ∈ w'.sessions) (dangling _) fun c _ =>
      ((gnutlsCredentialsDeinit_frame c w).1 ▸ mem :)
  | setTrust cred calls vflags aux overflow => exact (setupStep_setTrust_frame layout isFatal clean).1 ▸ mem

/-- Every run that ends in a clean world keeps every live sbuf none of its calls names. -/
theorem setupRun_keeps_sbuf (calls : List SetupCall) (bounded : w.Bounded) {sb : SbufObj} (mem : sb ∈ w.sbufs)
    (unnamed : ∀ call ∈ calls, call ≠ .deinit sb.handle) (clean : (setupRun layout isFatal calls w).Clean) :
    sb ∈ (setupRun layout isFatal calls w).sbufs := by
  induction calls generalizing w with
  | nil => exact mem
  | cons call calls ih =>
    exact ih (setupStep_bounded layout isFatal bounded call)
      (setupStep_keeps_sbuf layout isFatal bounded call mem (unnamed call (List.mem_cons_self _ _))
        (clean.head layout isFatal bounded))
      (fun call' mem' => unnamed call' (List.mem_cons_of_mem _ mem')) clean

/-- Every run that ends in a clean world keeps every live credentials object none of its calls names. -/
theorem setupRun_keeps_cred (calls : List SetupCall) (bounded : w.Bounded) {c : CredObj} (mem : c ∈ w.creds)
    (unnamed : ∀ call ∈ calls, call ≠ .credentialsDeinit c.handle ∧
      ∀ trust vflags aux overflow, call ≠ .setTrust c.handle trust vflags aux overflow)
    (clean : (setupRun layout isFatal calls w).Clean) : c ∈ (setupRun layout isFatal calls w).creds := by
  induction calls generalizing w with
  | nil => exact mem
  | cons call calls ih =>
    exact ih (setupStep_bounded layout isFatal bounded call)
      (setupStep_keeps_cred layout isFatal bounded call mem (unnamed call (List.mem_cons_self _ _))
        (clean.head layout isFatal bounded))
      (fun call' mem' => unnamed call' (List.mem_cons_of_mem _ mem')) clean

/--
Every run that ends in a clean world and in which `gnutls_sbuf_sinit` wraps no session keeps every
live session whose own sbuf none of its calls names.
-/
theorem setupRun_keeps_session (calls : List SetupCall)
    (unwrapped : ∀ call ∈ calls, ∀ malloc leftover session writeFlushes,
      call = .sinit malloc leftover session writeFlushes → session = none)
    (wrapped : w.Wrapped) (bounded : w.Bounded) {obj : SessionObj} (mem : obj ∈ w.sessions) {sb : SbufObj}
    (held : sb ∈ w.sbufs) (wraps : sb.session = some obj.handle) (unnamed : ∀ call ∈ calls, call ≠ .deinit sb.handle)
    (clean : (setupRun layout isFatal calls w).Clean) : obj ∈ (setupRun layout isFatal calls w).sessions := by
  induction calls generalizing w with
  | nil => exact mem
  | cons call calls ih =>
    have named := unnamed call (List.mem_cons_self _ _)
    have clean₁ := clean.head layout isFatal bounded
    exact ih (fun call' mem' => unwrapped call' (List.mem_cons_of_mem _ mem'))
      (setupStep_wrapped layout isFatal wrapped bounded call (unwrapped call (List.mem_cons_self _ _)) clean₁)
      (setupStep_bounded layout isFatal bounded call)
      (setupStep_keeps_session layout isFatal wrapped bounded call mem held wraps named clean₁)
      (setupStep_keeps_sbuf layout isFatal bounded call held named clean₁)
      (fun call' mem' => unnamed call' (List.mem_cons_of_mem _ mem')) clean

end Run

/-- On a world whose sessions point only at live sbufs, the callback run on a live session never reads freed memory. -/
theorem verifyCertificateCallback_of_linked (tidy : w.Tidy) (linked : w.Linked) {session : SessionObj}
    (live : session ∈ w.sessions) :
    verifyCertificateCallback w session = .returned (.error .internalError) ∨
      verifyCertificateCallback w session = .nullCred := by
  unfold verifyCertificateCallback
  rcases ptr : session.ptr with _ | h
  · -- No pointer: `GNUTLS_E_INTERNAL_ERROR`.
    exact .inl rfl
  obtain ⟨sb, mem, handle⟩ := linked.live session live h ptr
  dsimp only
  rcases found : w.sbuf? h with _ | sb'
  · exact absurd found (List.find?_eq_none.not.mpr fun none => none sb mem (by simp [handle]))
  -- The sbuf found is live, and the discipline gives it NULL credentials.
  have handle' : sb'.handle = h := by simpa using List.find?_some found
  dsimp only
  rw [tidy.ptr_cred session live h ptr sb' (List.mem_of_find?_eq_some found) handle']
  exact .inr rfl

/--
A setup from a world with everything below `next` touches nothing that was live before it: every
live session and sbuf stays, unchanged; it adds at most a session at `next` and an sbuf at the
address after, wrapping that session; credentials and certificate credentials are untouched; and
the only fault it can record is the second `gnutls_deinit` of its own session.
-/
theorem sbufInit_isolated (layout : SbufLayout) (isFatal : Int → Bool) (calls : SetupCalls)
    (hostname service : Option (List UInt8)) (priority : Option String) (cred : CredObj) (writeFlushes : Bool)
    (w : World) (bounded : w.Bounded) (w' : World)
    (made : w' = (gnutlsSbufServerInit isFatal calls priority cred writeFlushes w).1 ∨
      w' = (gnutlsSbufClientInit layout isFatal calls hostname service priority cred writeFlushes w).1) :
    (∀ obj ∈ w.sessions, obj ∈ w'.sessions) ∧ (∀ sb ∈ w.sbufs, sb ∈ w'.sbufs) ∧
    (∀ obj ∈ w'.sessions, obj ∈ w.sessions ∨ obj.handle = w.next) ∧
    (∀ sb ∈ w'.sbufs, sb ∈ w.sbufs ∨ sb.handle = w.next + 1 ∧ sb.session = some w.next) ∧
    w'.creds = w.creds ∧ w'.xcreds = w.xcreds ∧ (w'.faults = w.faults ∨ w'.faults = .deinitFreed w.next :: w.faults) := by
  have leaves : SetupLeaves w w' := by
    rcases made with rfl | rfl
    · exact (gnutlsSbufServerInit_cases Prod.mk.eta.symm).2.2.1 bounded
    · exact (gnutlsSbufClientInit_cases Prod.mk.eta.symm).2.2.1 bounded
  -- Each way a setup can end records at most the one fault.
  have faults : w'.faults = w.faults ∨ w'.faults = .deinitFreed w.next :: w.faults := by
    cases leaves <;> simp [World.added]
  obtain ⟨creds, xcreds, -⟩ := leaves.frame
  exact ⟨leaves.keeps.1, leaves.keeps.2.1, leaves.keeps.2.2.1, leaves.keeps.2.2.2, creds, xcreds, faults⟩

/-- A server setup whose priority string is refused, on an empty world, records only its own second `gnutls_deinit`. -/
theorem sbufInit_isolated_priority :
    (gnutlsSbufServerInit (fun _ => true) ⟨0, true, fun _ => -1, 0, 0, []⟩ none ⟨0, none⟩ false
        World.empty).1.faults = [] ∨
      (gnutlsSbufServerInit (fun _ => true) ⟨0, true, fun _ => -1, 0, 0, []⟩ none ⟨0, none⟩ false
        World.empty).1.faults = [.deinitFreed 0] :=
  (sbufInit_isolated ⟨8, 8, 8⟩ (fun _ => true) ⟨0, true, fun _ => -1, 0, 0, []⟩ none none none
    ⟨0, none⟩ false World.empty World.Bounded.empty _ (.inl rfl)).2.2.2.2.2.2

end Gnutls
