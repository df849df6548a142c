import Gnutls.SbufTrust
import Gnutls.Proofs.SbufSetup

/-! What `gnutls_credentials_set_trust` changes, a fault log that only grows, and the pointer discipline over runs that copy no TOFU file name past a credentials block. -/

namespace Gnutls

variable {w w' : World}

/-- Storing credentials back adds no other credentials. -/
theorem World.mem_writeCred {cred c : CredObj} (mem : c ∈ (w.writeCred cred).creds) : c ∈ w.creds ∨ c = cred := by
  obtain ⟨c', mem', rfl⟩ := List.mem_map.mp mem
  split
  · exact .inr rfl
  · exact .inl mem'

/--
What `gnutls_certificate_allocate_credentials` leaves: the credentials it is given with their
certificate credentials, and the world with nothing changed but those and `next`.
-/
theorem allocateXcred_ok {allocate : Int} {cred cred' : CredObj} {x : Nat}
    (allocated : allocateXcred allocate cred w = .ok (x, cred', w')) :
    cred'.handle = cred.handle ∧ w'.sessions = w.sessions ∧ w'.sbufs = w.sbufs ∧ w.next ≤ w'.next ∧
      w'.faults = w.faults ∧ (∀ c ∈ w'.creds, c ∈ w.creds ∨ c = cred') ∧ (cred.xcred = some x → w' = w) := by
  unfold allocateXcred at allocated
  split at allocated <;> rename_i held
  · -- Already held: nothing is allocated.
    cases allocated
    exact ⟨rfl, rfl, rfl, le_rfl, rfl, fun c mem => .inl mem, fun _ => rfl⟩
  · split at allocated
    · cases allocated
    · cases allocated
      exact ⟨rfl, rfl, rfl, Nat.le_succ _, rfl, fun c mem => World.mem_writeCred mem, by simp [held]⟩

/-- A clean world records no overflow of any credentials. -/
theorem World.Clean.not_overflow (clean : w.Clean) (cred : Nat) : Fault.overflow cred ∉ w.faults :=
  fun mem => by simpa [Fault.isOverflow] using clean _ mem

/-- A world whose faults a clean world records is clean. -/
theorem World.Clean.mono (clean : w'.Clean) (faults : ∀ fault ∈ w.faults, fault ∈ w'.faults) : w.Clean :=
  fun fault mem => clean fault (faults fault mem)

/-- Bytes written past a credentials block move no live session or sbuf, so they keep them below `next`. -/
theorem Clobber.bounded (clobber : Clobber) (bounded : w.Bounded) : (clobber.apply w).Bounded where
  sessions obj mem := by
    obtain ⟨o, old, rfl⟩ := List.mem_map.mp mem
    exact (clobber.session_handle o).symm ▸ bounded.sessions o old
  sbufs sb mem := by
    obtain ⟨o, old, rfl⟩ := List.mem_map.mp mem
    exact (clobber.sbuf_handle o).symm ▸ bounded.sbufs o old

/-- Freeing certificate credentials keeps every live session and sbuf below `next`. -/
theorem gnutlsCertificateFreeCredentials_bounded (xcred : Nat) (bounded : w.Bounded) :
    (gnutlsCertificateFreeCredentials xcred w).Bounded :=
  bounded.mono (by simp) (by simp) (by simp)

variable {layout : SbufLayout} {calls : TrustCalls} {vflags : VFlags} {aux : List CInput} {overflow : Clobber}

/-- A clean world left by `gnutls_credentials_set_trust` means that it copied no TOFU file name. -/
theorem gnutlsCredentialsSetTrust_uncopied {cred cred₁ : CredObj} {x : Nat}
    (allocated : allocateXcred calls.allocate cred w = .ok (x, cred₁, w'))
    (clean : (gnutlsCredentialsSetTrust layout calls vflags aux overflow cred w).1.Clean) :
    (trustChecks layout.tofuFileSize calls vflags aux).1 = false := by
  unfold gnutlsCredentialsSetTrust at clean
  rcases checks : trustChecks layout.tofuFileSize calls vflags aux with ⟨_ | _, _ | ret⟩ <;>
    simp only [allocated, checks, if_true] at clean ⊢
  · -- The checks passed after the copy: the world returned records the overflow.
    exact absurd (List.mem_cons_self _ _) (clean.not_overflow cred₁.handle)
  · -- `fail1:` after the copy frees the certificate credentials, which keeps the fault.
    exact absurd (gnutlsCertificateFreeCredentials_faults _ _ _ (List.mem_cons_self _ _))
      (clean.not_overflow cred₁.handle)

/--
A `gnutls_credentials_set_trust` that leaves a clean world, past the allocation, either marks the
certificate credentials as verifying or goes through `fail1:`, on the world the allocation left.
-/
theorem gnutlsCredentialsSetTrust_of_clean {cred cred₁ : CredObj} {x : Nat}
    (allocated : allocateXcred calls.allocate cred w = .ok (x, cred₁, w'))
    (clean : (gnutlsCredentialsSetTrust layout calls vflags aux overflow cred w).1.Clean) :
    (gnutlsCredentialsSetTrust layout calls vflags aux overflow cred w).1 =
      match (trustChecks layout.tofuFileSize calls vflags aux).2 with
      | none => { w' with xcreds := w'.xcreds.map fun obj => if obj.handle = x then { obj with verifies := true } else obj }
      | some _ => gnutlsCertificateFreeCredentials x (w'.writeCred { cred₁ with xcred := none }) := by
  have uncopied := gnutlsCredentialsSetTrust_uncopied allocated clean
  unfold gnutlsCredentialsSetTrust
  rcases checks : trustChecks layout.tofuFileSize calls vflags aux with ⟨copied, _ | ret⟩ <;>
    simp only [allocated, checks] at uncopied ⊢ <;> simp only [uncopied, Bool.false_eq_true, if_false]

/--
What `gnutls_credentials_set_trust` changes: it keeps every fault recorded, moves `next` on, and
keeps every live session and sbuf below `next`, whatever bytes it writes past the credentials
block. When it leaves a clean world, it copied no TOFU file name, and the sessions and sbufs are as
they were.
-/
theorem gnutlsCredentialsSetTrust_frame (layout : SbufLayout) (calls : TrustCalls) (vflags : VFlags)
    (aux : List CInput) (overflow : Clobber) (cred : CredObj) (w : World) :
    let r := (gnutlsCredentialsSetTrust layout calls vflags aux overflow cred w).1
    (∀ fault ∈ w.faults, fault ∈ r.faults) ∧ w.next ≤ r.next ∧ (w.Bounded → r.Bounded) ∧
      (r.Clean → r.sessions = w.sessions ∧ r.sbufs = w.sbufs) := by
  intro r
  rcases allocated : allocateXcred calls.allocate cred w with _ | ⟨x, cred₁, w₁⟩
  · -- Nothing allocated: nothing changes.
    have unchanged : r = w := by simp only [r, gnutlsCredentialsSetTrust, allocated]
    rw [unchanged]
    exact ⟨fun _ => id, le_rfl, id, fun _ => ⟨rfl, rfl⟩⟩
  have uncopied (clean : r.Clean) := gnutlsCredentialsSetTrust_uncopied allocated clean
  obtain ⟨-, sessions, sbufs, next, faults, -⟩ := allocateXcred_ok allocated
  have bounded₁ (bounded : w.Bounded) : w₁.Bounded :=
    bounded.mono next (fun _ mem => sessions ▸ mem) fun _ mem => sbufs ▸ mem
  simp only [r, gnutlsCredentialsSetTrust, allocated] at uncopied ⊢
  rcases checks : trustChecks layout.tofuFileSize calls vflags aux with ⟨_ | _, _ | ret⟩ <;>
    simp only [checks, Bool.false_eq_true, if_false, if_true] at uncopied ⊢
  · -- Nothing copied, and the checks passed: only the certificate credentials change.
    exact ⟨fun _ mem => faults ▸ mem, next, fun bounded => ⟨(bounded₁ bounded).1, (bounded₁ bounded).2⟩,
      fun _ => ⟨sessions, sbufs⟩⟩
  · -- Nothing copied, and `fail1:` frees the certificate credentials.
    simp only [gnutlsCertificateFreeCredentials_frame]
    exact ⟨fun _ mem => gnutlsCertificateFreeCredentials_faults _ _ _ (faults ▸ mem), next,
      fun bounded => gnutlsCertificateFreeCredentials_bounded _ ⟨(bounded₁ bounded).1, (bounded₁ bounded).2⟩,
      fun _ => ⟨sessions, sbufs⟩⟩
  · -- A name was copied, so the world left is not clean.
    exact ⟨fun _ mem => List.mem_cons_of_mem _ (faults ▸ mem), next,
      fun bounded => ⟨(overflow.bounded (bounded₁ bounded)).1, (overflow.bounded (bounded₁ bounded)).2⟩,
      fun clean => nomatch uncopied clean⟩
  · simp only [gnutlsCertificateFreeCredentials_frame]
    exact ⟨fun _ mem => gnutlsCertificateFreeCredentials_faults _ _ _ (List.mem_cons_of_mem _ (faults ▸ mem)),
      next, fun bounded => gnutlsCertificateFreeCredentials_bounded _
        ⟨(overflow.bounded (bounded₁ bounded)).1, (overflow.bounded (bounded₁ bounded)).2⟩,
      fun clean => nomatch uncopied clean⟩

/-- `gnutls_credentials_init` touches no session or sbuf, and records no fault. -/
theorem gnutlsCredentialsInit_frame (calloc : Bool) (w : World) :
    (gnutlsCredentialsInit calloc w).1.sessions = w.sessions ∧ (gnutlsCredentialsInit calloc w).1.sbufs = w.sbufs ∧
      w.next ≤ (gnutlsCredentialsInit calloc w).1.next ∧ (gnutlsCredentialsInit calloc w).1.faults = w.faults := by
  unfold gnutlsCredentialsInit
  split
  · exact ⟨rfl, rfl, le_rfl, rfl⟩
  · exact ⟨rfl, rfl, Nat.le_succ _, rfl⟩

/-- `gnutls_credentials_deinit` touches no session or sbuf, and keeps every fault recorded. -/
theorem gnutlsCredentialsDeinit_frame (cred : CredObj) (w : World) :
    (gnutlsCredentialsDeinit cred w).sessions = w.sessions ∧ (gnutlsCredentialsDeinit cred w).sbufs = w.sbufs ∧
      (gnutlsCredentialsDeinit cred w).next = w.next ∧
      ∀ fault ∈ w.faults, fault ∈ (gnutlsCredentialsDeinit cred w).faults := by
  unfold gnutlsCredentialsDeinit
  split
  · -- Certificate credentials held are freed first.
    simp only [gnutlsCertificateFreeCredentials_frame, true_and]
    exact gnutlsCertificateFreeCredentials_faults _ _
  · exact ⟨rfl, rfl, rfl, fun _ => id⟩

/-- `gnutls_sbuf_deinit` keeps every fault recorded, and may add the `gnutls_deinit` of a freed session. -/
theorem gnutlsSbufDeinit_faults (sb : SbufObj) (w : World) :
    ∀ fault ∈ w.faults, fault ∈ (gnutlsSbufDeinit sb w).faults := by
  unfold gnutlsSbufDeinit
  split
  · unfold gnutlsDeinit
    split
    · exact fun _ => id
    · exact fun _ => List.mem_cons_of_mem _
  · exact fun _ => id

/-- A call on an address runs on the live object there, or records that the address is dangling. -/
theorem World.withLive_of {α : Type} {P : World → Prop} {handle : Nat} {found : Option α} {f : α → World}
    (dangling : P { w with faults := .dangling handle :: w.faults }) (live : ∀ obj, found = some obj → P (f obj)) :
    P (w.withLive handle found f) := by
  cases found with
  | none => exact dangling
  | some obj => exact live obj rfl

section Run

variable (layout : SbufLayout) (isFatal : Int → Bool)

/-- Each call keeps every live session and sbuf below `next`, whatever bytes it writes past a credentials block. -/
theorem setupStep_bounded (bounded : w.Bounded) (call : SetupCall) :
    (setupStep layout isFatal w call).Bounded := by
  have dangling : ∀ handle, ({ w with faults := .dangling handle :: w.faults } : World).Bounded :=
    fun _ => bounded.mono le_rfl (fun _ => id) fun _ => id
  cases call with
  | clientInit calls hostname service priority cred writeFlushes =>
    exact World.withLive_of (dangling _) fun c _ =>
      ((gnutlsSbufClientInit_cases Prod.mk.eta.symm).2.2.1 bounded).bounded bounded
  | serverInit calls priority cred writeFlushes =>
    exact World.withLive_of (dangling _) fun c _ =>
      ((gnutlsSbufServerInit_cases Prod.mk.eta.symm).2.2.1 bounded).bounded bounded
  | sinit malloc leftover session writeFlushes =>
    show (gnutlsSbufSinit malloc leftover session writeFlushes w).1.Bounded
    unfold gnutlsSbufSinit
    split
    · exact bounded
    · -- The new sbuf sits at the old `next`.
      refine ⟨fun o mem => Nat.lt_succ_of_lt (bounded.sessions o mem), fun o mem => ?_⟩
      rcases List.mem_cons.mp mem with rfl | mem
      · exact Nat.lt_succ_self _
      · exact Nat.lt_succ_of_lt (bounded.sbufs o mem)
  | deinit sb =>
    refine World.withLive_of (dangling _) fun obj _ => ?_
    obtain ⟨next, sessions, sbufs, -⟩ := gnutlsSbufDeinit_frame obj w
    exact bounded.mono next.ge (fun o mem => (sessions o mem).1) fun o mem => (List.mem_filter.mp (sbufs ▸ mem)).1
  | credentialsInit calloc =>
    obtain ⟨sessions, sbufs, next, -⟩ := gnutlsCredentialsInit_frame calloc w
    exact bounded.mono next (fun _ => sessions ▸ id) fun _ => sbufs ▸ id
  | credentialsDeinit cred =>
    refine World.withLive_of (dangling _) fun c _ => ?_
    obtain ⟨sessions, sbufs, next, -⟩ := gnutlsCredentialsDeinit_frame c w
    exact bounded.mono next.ge (fun _ => sessions ▸ id) fun _ => sbufs ▸ id
  | setTrust cred calls vflags aux overflow =>
    exact World.withLive_of (dangling _) fun c _ =>
      (gnutlsCredentialsSetTrust_frame layout calls vflags aux overflow c w).2.2.1 bounded

/-- Every run keeps every live session and sbuf below `next`. -/
theorem setupRun_bounded (calls : List SetupCall) (bounded : w.Bounded) :
    (setupRun layout isFatal calls w).Bounded := by
  induction calls generalizing w with
  | nil => exact bounded
  | cons call calls ih => exact ih (setupStep_bounded layout isFatal bounded call)

/-- Each call keeps every fault recorded. -/
theorem setupStep_faults (bounded : w.Bounded) (call : SetupCall) :
    ∀ fault ∈ w.faults, fault ∈ (setupStep layout isFatal w call).faults := by
  have dangling : ∀ handle, ∀ fault ∈ w.faults, fault ∈ ({ w with faults := .dangling handle :: w.faults } : World).faults :=
    fun _ _ => List.mem_cons_of_mem _
  cases call with
  | clientInit calls hostname service priority cred writeFlushes =>
    exact World.withLive_of (P := fun w' => ∀ fault ∈ w.faults, fault ∈ w'.faults) (dangling _) fun c _ =>
      ((gnutlsSbufClientInit_cases Prod.mk.eta.symm).2.2.1 bounded).faults
  | serverInit calls priority cred writeFlushes =>
    exact World.withLive_of (P := fun w' => ∀ fault ∈ w.faults, fault ∈ w'.faults) (dangling _) fun c _ =>
      ((gnutlsSbufServerInit_cases Prod.mk.eta.symm).2.2.1 bounded).faults
  | sinit malloc leftover session writeFlushes =>
    show ∀ fault ∈ w.faults, fault ∈ (gnutlsSbufSinit malloc leftover session writeFlushes w).1.faults
    unfold gnutlsSbufSinit
    split <;> exact fun _ => id
  | deinit sb =>
    exact World.withLive_of (P := fun w' => ∀ fault ∈ w.faults, fault ∈ w'.faults) (dangling _) fun obj _ =>
      gnutlsSbufDeinit_faults obj w
  | credentialsInit calloc => exact fun _ mem => (gnutlsCredentialsInit_frame calloc w).2.2.2 ▸ mem
  | credentialsDeinit cred =>
    exact World.withLive_of (P := fun w' => ∀ fault ∈ w.faults, fault ∈ w'.faults) (dangling _) fun c _ =>
      (gnutlsCredentialsDeinit_frame c w).2.2.2
  | setTrust cred calls vflags aux overflow =>
    exact World.withLive_of (P := fun w' => ∀ fault ∈ w.faults, fault ∈ w'.faults) (dangling _) fun c _ =>
      (gnutlsCredentialsSetTrust_frame layout calls vflags aux overflow c w).1

/-- Every run keeps every fault recorded. -/
theorem setupRun_faults (calls : List SetupCall) (bounded : w.Bounded) :
    ∀ fault ∈ w.faults, fault ∈ (setupRun layout isFatal calls w).faults := by
  induction calls generalizing w with
  | nil => exact fun _ => id
  | cons call calls ih =>
    exact fun fault mem =>
      ih (setupStep_bounded layout isFatal bounded call) fault (setupStep_faults layout isFatal bounded call fault mem)

/-- A run that ends in a clean world went through clean worlds only: its first step among them. -/
theorem World.Clean.head {call : SetupCall} {calls : List SetupCall} (bounded : w.Bounded)
    (clean : (setupRun layout isFatal (call :: calls) w).Clean) : (setupStep layout isFatal w call).Clean :=
  clean.mono (setupRun_faults layout isFatal calls (setupStep_bounded layout isFatal bounded call))

/-- A `gnutls_credentials_set_trust` call that leaves a clean world touches no session or sbuf. -/
theorem setupStep_setTrust_frame {cred : Nat} (clean : (setupStep layout isFatal w (.setTrust cred calls vflags aux overflow)).Clean) :
    (setupStep layout isFatal w (.setTrust cred calls vflags aux overflow)).sessions = w.sessions ∧
      (setupStep layout isFatal w (.setTrust cred calls vflags aux overflow)).sbufs = w.sbufs ∧
      w.next ≤ (setupStep layout isFatal w (.setTrust cred calls vflags aux overflow)).next := by
  revert clean
  refine World.withLive_of (P := fun w' => w'.Clean → w'.sessions = w.sessions ∧ w'.sbufs = w.sbufs ∧ w.next ≤ w'.next)
    (fun _ => ⟨rfl, rfl, le_rfl⟩) fun c _ clean => ?_
  obtain ⟨-, next, -, frame⟩ := gnutlsCredentialsSetTrust_frame layout calls vflags aux overflow c w
  exact ⟨(frame clean).1, (frame clean).2, next⟩

/-- Each call that leaves a clean world keeps the pointer discipline. -/
theorem setupStep_tidy (tidy : w.Tidy) (call : SetupCall) (clean : (setupStep layout isFatal w call).Clean) :
    (setupStep layout isFatal w call).Tidy := by
  have dangling : ∀ handle, ({ w with faults := .dangling handle :: w.faults } : World).Tidy :=
    fun _ => tidy.mono le_rfl (fun _ => id) fun _ => id
  cases call with
  | clientInit calls hostname service priority cred writeFlushes =>
    exact World.withLive_of (dangling _) fun c _ => tidy.clientInit ..
  | serverInit calls priority cred writeFlushes => exact World.withLive_of (dangling _) fun c _ => tidy.serverInit ..
  | sinit malloc leftover session writeFlushes => exact tidy.sinit ..
  | deinit sb => exact World.withLive_of (dangling _) fun obj _ => tidy.sbufDeinit obj
  | credentialsInit calloc =>
    obtain ⟨sessions, sbufs, next, -⟩ := gnutlsCredentialsInit_frame calloc w
    exact tidy.mono next (fun _ => sessions ▸ id) fun _ => sbufs ▸ id
  | credentialsDeinit cred =>
    refine World.withLive_of (dangling _) fun c _ => ?_
    obtain ⟨sessions, sbufs, next, -⟩ := gnutlsCredentialsDeinit_frame c w
    exact tidy.mono next.ge (fun _ => sessions ▸ id) fun _ => sbufs ▸ id
  | setTrust cred calls vflags aux overflow =>
    -- Clean, so no TOFU file name was copied over the sessions and sbufs.
    obtain ⟨sessions, sbufs, next⟩ := setupStep_setTrust_frame layout isFatal clean
    exact tidy.mono next (fun _ => sessions ▸ id) fun _ => sbufs ▸ id

/-- Every run that ends in a clean world keeps the pointer discipline. -/
theorem setupRun_tidy (calls : List SetupCall) (tidy : w.Tidy) (bounded : w.Bounded)
    (clean : (setupRun layout isFatal calls w).Clean) : (setupRun layout isFatal calls w).Tidy := by
  induction calls generalizing w with
  | nil => exact tidy
  | cons call calls ih =>
    exact ih (setupStep_tidy layout isFatal tidy call (clean.head layout isFatal bounded))
      (setupStep_bounded layout isFatal bounded call) clean

end Run

/--
A failed `gnutls_credentials_set_trust` that leaves a clean world, on credentials that already hold
certificate credentials, went through `fail1:`: it stored NULL in the credentials and freed them.
-/
theorem gnutlsCredentialsSetTrust_failed_held {cred : CredObj} {x : Nat} {e : SetupError}
    (held : cred.xcred = some x)
    (failed : (gnutlsCredentialsSetTrust layout calls vflags aux overflow cred w).2 = .error e)
    (clean : (gnutlsCredentialsSetTrust layout calls vflags aux overflow cred w).1.Clean) :
    (gnutlsCredentialsSetTrust layout calls vflags aux overflow cred w).1 =
      gnutlsCertificateFreeCredentials x (w.writeCred { cred with xcred := none }) := by
  have allocated : allocateXcred calls.allocate cred w = .ok (x, cred, w) := by simp [allocateXcred, held]
  rw [gnutlsCredentialsSetTrust_of_clean allocated clean]
  rcases checks : trustChecks layout.tofuFileSize calls vflags aux with ⟨copied, _ | ret⟩
  · -- The checks passed, so nothing failed.
    simp [gnutlsCredentialsSetTrust, allocated, checks] at failed
  · rfl

end Gnutls
