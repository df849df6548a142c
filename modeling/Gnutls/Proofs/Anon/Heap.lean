import Gnutls.Anon.Handshake

/-! How the four operations treat the big integers they allocate, over every run of a session. -/

namespace Gnutls

namespace Session

/--
The discipline the four operations keep on the big integers of a session: every handle in use
was handed out, no field points at a released big integer, and no two fields share one.
-/
structure Owned (s : Session) : Prop where
  below : ∀ mpi ∈ s.heap.live, mpi.handle < s.heap.next
  held : ∀ field mpi, s.get field = some mpi → mpi ∈ s.heap.live
  distinct : ∀ field other mpi, s.get field = some mpi → s.get other = some mpi → field = other

/--
From the session `s₀` an operation started on to the current one: the discipline holds, handles
only move on, and what was leaked before the operation is still leaked.
-/
structure Keeps (s₀ s : Session) : Prop where
  owned : s.Owned
  next_le : s₀.heap.next ≤ s.heap.next
  leaked : ∀ mpi ∈ s₀.leaked, mpi.handle < s₀.heap.next → mpi ∈ s.leaked

/-- A big integer the current operation allocated, still allocated and held by no field. -/
structure Loose (s₀ s : Session) (mpi : Mpi) : Prop where
  fresh : s₀.heap.next ≤ mpi.handle
  live : mpi ∈ s.heap.live
  unheld : ∀ field, s.get field ≠ some mpi

variable {s₀ s s' : Session}

/-- An operation that has done nothing yet. -/
theorem Keeps.refl (owned : s.Owned) : Keeps s s :=
  ⟨owned, le_rfl, fun _ leaked _ => leaked⟩

/-- A step that changes neither the big-integer fields nor the heap keeps everything. -/
theorem Keeps.congr (keeps : Keeps s₀ s) (fields : ∀ field, s'.get field = s.get field)
    (heap : s'.heap = s.heap) : Keeps s₀ s' := by
  obtain ⟨⟨below, held, distinct⟩, next_le, leaked⟩ := keeps
  refine ⟨⟨?_, ?_, ?_⟩, heap ▸ next_le, fun m was old => ?_⟩
  · exact heap ▸ below
  · intro field m found
    exact heap ▸ held field m ((fields field).symm.trans found)
  · intro field other m found found'
    exact distinct field other m ((fields field).symm.trans found) ((fields other).symm.trans found')
  · obtain ⟨live, unheld⟩ := mem_leaked.mp (leaked m was old)
    exact mem_leaked.mpr ⟨heap ▸ live, fun field => fields field ▸ unheld field⟩

/-- An allocation keeps the discipline, and what it hands back is loose. -/
theorem Keeps.alloc (keeps : Keeps s₀ s) {value : Option Nat} {mpi : Option Mpi}
    (allocated : s.alloc value = (mpi, s')) :
    Keeps s₀ s' ∧ ∀ m, mpi = some m → Loose s₀ s' m := by
  rcases alloc_cases allocated with ⟨rfl, rfl⟩ | ⟨v, rfl, rfl⟩
  · exact ⟨keeps, nofun⟩
  obtain ⟨⟨below, held, distinct⟩, next_le, leaked⟩ := keeps
  -- The new handle is above every handle in use, so no field can point at it.
  have unheld : ∀ field, s.get field ≠ some ⟨s.heap.next, v⟩ := fun field found =>
    absurd (below _ (held field _ found)) (Nat.lt_irrefl _)
  refine ⟨⟨⟨fun m live => ?_, fun field m found => ?_, distinct⟩, Nat.le_succ_of_le next_le,
    fun m was old => ?_⟩, fun m found => ?_⟩
  · rcases List.mem_cons.mp live with rfl | live
    · exact Nat.lt_succ_self _
    · exact Nat.lt_succ_of_lt (below m live)
  · exact List.mem_cons_of_mem _ (held field m found)
  · obtain ⟨live, unheld⟩ := mem_leaked.mp (leaked m was old)
    exact mem_leaked.mpr ⟨List.mem_cons_of_mem _ live, unheld⟩
  · cases found
    exact ⟨next_le, List.mem_cons_self _ _, unheld⟩

/-- An allocation, read through its two results. -/
theorem Keeps.alloc_eq (keeps : Keeps s₀ s) (value : Option Nat) :
    Keeps s₀ (s.alloc value).2 ∧ ∀ m, (s.alloc value).1 = some m → Loose s₀ (s.alloc value).2 m :=
  keeps.alloc rfl

/-- A new allocation is not any big integer already allocated. -/
theorem Keeps.alloc_ne (keeps : Keeps s₀ s) {mpi : Mpi} (live : mpi ∈ s.heap.live) {value : Option Nat}
    {x : Option Mpi} (allocated : s.alloc value = (x, s')) : x ≠ some mpi := by
  rcases alloc_cases allocated with ⟨rfl, -⟩ | ⟨v, rfl, -⟩
  · exact nofun
  · -- The new handle is the next one, above every handle in use.
    intro same
    cases same
    exact Nat.lt_irrefl _ (keeps.owned.below _ live)

/-- A new allocation, read through its result, is not any big integer already allocated. -/
theorem Keeps.alloc_ne_eq (keeps : Keeps s₀ s) {mpi : Mpi} (live : mpi ∈ s.heap.live) (value : Option Nat) :
    (s.alloc value).1 ≠ some mpi :=
  keeps.alloc_ne live rfl

/-- Pointing a field at NULL or at a loose big integer keeps the discipline. -/
theorem Keeps.set (keeps : Keeps s₀ s) (value : Option Mpi) (loose : ∀ m, value = some m → Loose s₀ s m)
    (field : MpiField) : Keeps s₀ (s.set field value) := by
  obtain ⟨⟨below, held, distinct⟩, next_le, leaked⟩ := keeps
  refine ⟨⟨below, fun other m found => ?_, fun f g m found found' => ?_⟩, next_le, fun m was old => ?_⟩
  · rw [get_set] at found
    split_ifs at found
    · exact (loose m found).live
    · exact held other m found
  · rw [get_set] at found found'
    split_ifs at found found' with same same'
    · exact same.symm.trans same'
    · exact absurd found' ((loose m found).unheld g)
    · exact absurd found ((loose m found').unheld f)
    · exact distinct f g m found found'
  · obtain ⟨live, unheld⟩ := mem_leaked.mp (leaked m was old)
    refine mem_leaked.mpr ⟨live, fun other found => ?_⟩
    rw [get_set] at found
    split_ifs at found
    · exact absurd (loose m found).fresh (Nat.not_le.mpr old)
    · exact unheld other found

/-- Pointing a field at a loose big integer keeps the discipline. -/
theorem Keeps.set_some (keeps : Keeps s₀ s) {mpi : Mpi} (loose : Loose s₀ s mpi) (field : MpiField) :
    Keeps s₀ (s.set field (some mpi)) :=
  keeps.set _ (fun _ found => Option.some.inj found ▸ loose) field

/-- Releasing a big integer that no field holds and that is none of the earlier leaks keeps the discipline. -/
private theorem Keeps.free (keeps : Keeps s₀ s) {value : Option Mpi}
    (unheld : ∀ m, value = some m → ∀ field, s.get field ≠ some m)
    (spared : ∀ m, value = some m → ∀ l ∈ s₀.leaked, l.handle < s₀.heap.next → l ≠ m) :
    Keeps s₀ (s.free value) := by
  cases value with
  | none => exact keeps
  | some v =>
  obtain ⟨⟨below, held, distinct⟩, next_le, leaked⟩ := keeps
  refine ⟨⟨fun m live => below m (List.mem_of_mem_erase live), fun field m found => ?_, distinct⟩, next_le,
    fun m was old => ?_⟩
  · exact (Heap.mem_release fun same => unheld m same field found).mpr (held field m found)
  · obtain ⟨live, unheld'⟩ := mem_leaked.mp (leaked m was old)
    exact mem_leaked.mpr ⟨(Heap.mem_release fun same => spared m same m was old rfl).mpr live, unheld'⟩

/-- Releasing a local that is NULL or loose keeps the discipline. -/
theorem Keeps.free_loose (keeps : Keeps s₀ s) {value : Option Mpi}
    (loose : ∀ m, value = some m → Loose s₀ s m) : Keeps s₀ (s.free value) :=
  keeps.free (fun m found => (loose m found).unheld) fun m found _ _ old same =>
    absurd (loose m found).fresh (same ▸ Nat.not_le.mpr old)

/-- Releasing a loose big integer keeps the discipline. -/
theorem Keeps.free_some (keeps : Keeps s₀ s) {mpi : Mpi} (loose : Loose s₀ s mpi) :
    Keeps s₀ (s.free (some mpi)) :=
  keeps.free_loose fun _ found => Option.some.inj found ▸ loose

/-- `_gnutls_mpi_release` of NULL does nothing. -/
theorem Keeps.free_none (keeps : Keeps s₀ s) : Keeps s₀ (s.free none) :=
  keeps.free_loose nofun

/-- `_gnutls_mpi_release` of a field keeps the discipline: no other field held that big integer. -/
theorem Keeps.release (keeps : Keeps s₀ s) (field : MpiField) : Keeps s₀ (s.release field) := by
  have unset : Keeps s₀ (s.set field none) := keeps.set none nofun field
  refine unset.free (fun m found other held => ?_) fun m found l was old same => ?_
  · -- Only `field` held it, and `field` now points at NULL.
    rw [get_set] at held
    split at held
    · cases held
    · rename_i same
      exact same (keeps.owned.distinct field other m found held)
  · exact (mem_leaked.mp (keeps.leaked l was old)).2 field (same ▸ found)

/-- A loose big integer stays loose through a step that changes neither the fields nor the heap. -/
theorem Loose.congr {mpi : Mpi} (loose : Loose s₀ s mpi) (fields : ∀ field, s'.get field = s.get field)
    (heap : s'.heap = s.heap) : Loose s₀ s' mpi :=
  ⟨loose.fresh, heap ▸ loose.live, fun field => fields field ▸ loose.unheld field⟩

/-- Allocating keeps a loose big integer loose. -/
theorem Loose.alloc {mpi : Mpi} (loose : Loose s₀ s mpi) {value : Option Nat} {x : Option Mpi}
    (allocated : s.alloc value = (x, s')) : Loose s₀ s' mpi := by
  rcases alloc_cases allocated with ⟨rfl, rfl⟩ | ⟨v, rfl, rfl⟩
  · exact loose
  · exact ⟨loose.fresh, List.mem_cons_of_mem _ loose.live, loose.unheld⟩

/-- Allocating keeps a loose big integer loose, read through the allocation's results. -/
theorem Loose.alloc_eq {mpi : Mpi} (loose : Loose s₀ s mpi) (value : Option Nat) :
    Loose s₀ (s.alloc value).2 mpi :=
  loose.alloc rfl

/-- A loose big integer stays loose while other fields change. -/
theorem Loose.set {mpi : Mpi} (loose : Loose s₀ s mpi) (value : Option Mpi) (other : value ≠ some mpi)
    (field : MpiField) : Loose s₀ (s.set field value) mpi := by
  refine ⟨loose.fresh, loose.live, fun f found => ?_⟩
  rw [get_set] at found
  split at found
  · exact other found
  · exact loose.unheld f found

/-- A loose big integer stays loose while another is released. -/
theorem Loose.free {mpi : Mpi} (loose : Loose s₀ s mpi) {value : Option Mpi} (other : value ≠ some mpi) :
    Loose s₀ (s.free value) mpi :=
  ⟨loose.fresh, (Heap.mem_release other).mpr loose.live, loose.unheld⟩

/-- A loose big integer stays loose while a field is released: the field did not hold it. -/
theorem Loose.release {mpi : Mpi} (loose : Loose s₀ s mpi) (field : MpiField) :
    Loose s₀ (s.release field) mpi := by
  have unset : Loose s₀ (s.set field none) mpi := loose.set none nofun field
  exact unset.free (loose.unheld field)

/-- Copying the key into its raw bytes touches neither the big integers nor the heap. -/
theorem generateKey_frame (o : Oracle) (s : Session) :
    (∀ field, (generateKey o s).1.get field = s.get field) ∧ (generateKey o s).1.heap = s.heap := by
  unfold Gnutls.generateKey
  split <;> exact ⟨fun field => by cases field <;> rfl, rfl⟩

/-- Copying the key keeps the discipline. -/
theorem Keeps.generateKey (keeps : Keeps s₀ s) (o : Oracle) : Keeps s₀ (generateKey o s).1 :=
  keeps.congr (generateKey_frame o s).1 (generateKey_frame o s).2

/-- Copying the key keeps a loose big integer loose. -/
theorem Loose.generateKey {mpi : Mpi} (loose : Loose s₀ s mpi) (o : Oracle) :
    Loose s₀ (generateKey o s).1 mpi :=
  loose.congr (generateKey_frame o s).1 (generateKey_frame o s).2

/-- Updating auth_info touches neither the big integers nor the heap. -/
theorem Keeps.auth (keeps : Keeps s₀ s) (info : Option AuthInfo) (type : CredType) (size : Nat) :
    Keeps s₀ { s with authInfo := info, authInfoType := type, authInfoSize := size } :=
  keeps.congr (fun field => by cases field <;> rfl) rfl

end Session

open Session

variable {hdr : Header} {o : Oracle} {s : Session}

/-- The key pair step of the server keeps the discipline, given its loose p and g. -/
theorem serverKxSecret_keeps {s₀ : Session} (keeps : Keeps s₀ s) {g p : Mpi} (lg : Loose s₀ s g)
    (lp : Loose s₀ s p) (gp : some g ≠ some p) : Keeps s₀ (serverKxSecret o g p s).1 := by
  unfold Gnutls.serverKxSecret
  dsimp only
  rcases ax : s.alloc (o.calcDhSecret (some g.value) (some p.value)).2 with ⟨_ | x, s₁⟩ <;>
    obtain ⟨k₁, lx⟩ := keeps.alloc ax <;>
    have lg₁ := lg.alloc ax <;> have lp₁ := lp.alloc ax <;>
    rcases aX : s₁.alloc (o.calcDhSecret (some g.value) (some p.value)).1 with ⟨_ | X, s₂⟩ <;>
    obtain ⟨k₂, lX⟩ := k₁.alloc aX <;>
    have lg₂ := lg₁.alloc aX <;> have lp₂ := lp₁.alloc aX <;> dsimp only
  -- Without both halves of the pair, p, g and whatever came back are released.
  · exact (((k₂.free_some lg₂).free_some (lp₂.free gp)).free_none).free_none
  · have Xg := k₁.alloc_ne lg₁.live aX
    have Xp := k₁.alloc_ne lp₁.live aX
    exact (((k₂.free_some lg₂).free_some (lp₂.free gp)).free_none).free_some
      (((lX X rfl).free (Ne.symm Xg)).free (Ne.symm Xp))
  · have lx₂ := (lx x rfl).alloc aX
    exact (((k₂.free_some lg₂).free_some (lp₂.free gp)).free_some
      ((lx₂.free (Ne.symm (keeps.alloc_ne lg.live ax))).free (Ne.symm (keeps.alloc_ne lp.live ax)))).free_none
  -- With both, `dh_secret` takes x and p, g and X are released, in either order.
  · have xg := keeps.alloc_ne lg.live ax
    have xp := keeps.alloc_ne lp.live ax
    have Xx := k₁.alloc_ne (lx x rfl).live aX
    have Xg := k₁.alloc_ne lg₁.live aX
    have Xp := k₁.alloc_ne lp₁.live aX
    have k₃ := k₂.set_some ((lx x rfl).alloc aX) .dhSecret
    have lg₃ := lg₂.set _ xg .dhSecret
    have lp₃ := lp₂.set _ xp .dhSecret
    have lX₃ := (lX X rfl).set _ (Ne.symm Xx) .dhSecret
    split
    · exact ((k₃.free_some lp₃).free_some (lg₃.free (Ne.symm gp))).free_some
        ((lX₃.free (Ne.symm Xp)).free (Ne.symm Xg))
    · exact ((k₃.free_some lX₃).free_some (lg₃.free Xg)).free_some ((lp₃.free Xp).free gp)

/-- `gen_anon_server_kx` keeps the discipline. -/
theorem genAnonServerKx_keeps (owned : s.Owned) : Keeps s (genAnonServerKx hdr o s).1 := by
  unfold genAnonServerKx
  dsimp only
  rcases ap : s.alloc (o.getDhParams (anonBits hdr s)).2 with ⟨_ | p, s₁⟩ <;>
    obtain ⟨k₁, lp⟩ := (Keeps.refl owned).alloc ap <;>
    rcases ag : s₁.alloc (o.getDhParams (anonBits hdr s)).1 with ⟨_ | g, s₂⟩ <;>
    obtain ⟨k₂, lg⟩ := k₁.alloc ag <;> dsimp only
  -- Without both parameters the function returns at once, leaving what it got allocated.
  iterate 3 exact k₂
  split
  · exact k₂
  · rename_i auth
    obtain ⟨rfl, -⟩ := serverAuthInfo_ok auth
    exact serverKxSecret_keeps (k₂.auth _ _ _) ((lg g rfl).congr (fun field => by cases field <;> rfl) rfl)
      (((lp p rfl).alloc ag).congr (fun field => by cases field <;> rfl) rfl) (k₁.alloc_ne (lp p rfl).live ag)

/-- Scanning the server's message into the session keeps the discipline. -/
theorem storeServerKx_keeps {s₀ : Session} (keeps : Keeps s₀ s) (runY runG runP : List UInt8) :
    Keeps s₀ (storeServerKx hdr o runY runG runP s).1 := by
  unfold storeServerKx
  dsimp only
  -- Each value goes straight from its allocation into its field.
  obtain ⟨kY, lY⟩ := keeps.alloc_eq (some (mpiScanValue runY))
  have k₁ := kY.set _ lY .clientY
  obtain ⟨kG, lG⟩ := k₁.alloc_eq (some (mpiScanValue runG))
  have k₂ := kG.set _ lG .clientG
  obtain ⟨kP, lP⟩ := k₂.alloc_eq (some (mpiScanValue runP))
  have k₃ := kP.set _ lP .clientP
  split
  · exact keeps
  split
  · exact k₁
  split
  · exact k₂
  split
  · exact k₃
  · rename_i auth
    obtain ⟨rfl, -⟩ := clientAuthInfo_ok auth
    exact k₃.auth _ _ _

/-- `proc_anon_server_kx` keeps the discipline. -/
theorem procAnonServerKx_keeps (owned : s.Owned) (data : Nat → UInt8) (dataSize : Nat) :
    Keeps s (procAnonServerKx hdr o data dataSize s).1 := by
  unfold procAnonServerKx
  split
  · exact Keeps.refl owned
  · exact storeServerKx_keeps (Keeps.refl owned) _ _ _

/--
`gen_anon_client_kx` keeps the discipline, and on every path it leaves the private exponent it
was handed allocated and held by no field.
-/
theorem genAnonClientKx_keeps (owned : s.Owned) :
    Keeps s (genAnonClientKx o s).1 ∧
      ∀ x, (o.calcDhSecret (s.clientG.map Mpi.value) (s.clientP.map Mpi.value)).2 = some x →
        Loose s (genAnonClientKx o s).1 ⟨s.heap.next, x⟩ := by
  unfold genAnonClientKx
  dsimp only
  rcases secret : o.calcDhSecret (s.clientG.map Mpi.value) (s.clientP.map Mpi.value) with ⟨X?, x?⟩
  rcases ax : s.alloc x? with ⟨x, s₁⟩
  obtain ⟨k₁, lx⟩ := (Keeps.refl owned).alloc ax
  -- The exponent is what the first allocation handed back.
  have exponent : ∀ v, x? = some v → Loose s s₁ ⟨s.heap.next, v⟩ := fun v found => by
    subst found
    simp only [Session.alloc, Heap.allocOpt_some, Prod.mk.injEq] at ax
    exact lx _ ax.1.symm
  rcases aX : s₁.alloc X? with ⟨_ | X, s₂⟩ <;> obtain ⟨k₂, lX⟩ := k₁.alloc aX <;> dsimp only
  · exact ⟨k₂, fun v found => (exponent v found).alloc aX⟩
  -- X is released once written out; the exponent stays loose through every later step.
  have k₃ := k₂.free_some (lX X rfl)
  have lx₃ : ∀ v, x? = some v → Loose s (s₂.free (some X)) ⟨s.heap.next, v⟩ := fun v found =>
    ((exponent v found).alloc aX).free (k₁.alloc_ne (exponent v found).live aX)
  split
  · exact ⟨k₂, fun v found => (exponent v found).alloc aX⟩
  split
  · exact ⟨k₃.set none nofun .KEY, fun v found => (lx₃ v found).set none nofun .KEY⟩
  rename_i k _
  obtain ⟨k₄, lKEY⟩ := k₃.alloc_eq (some k)
  have k₅ := ((((k₄.set _ lKEY .KEY).release .clientY).release .clientP).release .clientG).generateKey o
  have lx₅ := fun v found => ((((((lx₃ v found).alloc_eq (some k)).set _
    (k₃.alloc_ne_eq (lx₃ v found).live (some k)) .KEY).release .clientY).release .clientP).release
    .clientG).generateKey o
  split <;> exact ⟨k₅.release .KEY, fun v found => (lx₅ v found).release .KEY⟩

/-- Deriving the server's key keeps the discipline: p and g are released after the two fields. -/
theorem deriveClientKxKey_keeps {s₀ : Session} (keeps : Keeps s₀ s) (bits : Nat) :
    Keeps s₀ (deriveClientKxKey o bits s).1 := by
  unfold deriveClientKxKey
  dsimp only
  rcases ap : s.alloc (o.getDhParams bits).2 with ⟨p, s₁⟩
  obtain ⟨k₁, lp⟩ := keeps.alloc ap
  rcases ag : s₁.alloc (o.getDhParams bits).1 with ⟨_ | g, s₂⟩ <;> obtain ⟨k₂, lg⟩ := k₁.alloc ag <;>
    dsimp only
  · exact k₂
  split
  · exact k₂.set none nofun .KEY
  rename_i k _
  obtain ⟨k₃, lKEY⟩ := k₂.alloc_eq (some k)
  -- p and g stay loose through the new key and the two released fields.
  have gp : p ≠ some g := fun found => k₁.alloc_ne (lp g found).live ag rfl
  have lp₄ : ∀ m, p = some m → Loose s₀ ((((s₂.alloc (some k)).2.set .KEY (s₂.alloc (some k)).1).release
      .clientY).release .dhSecret) m := fun m found =>
    (((((lp m found).alloc ag).alloc_eq (some k)).set _
      (k₂.alloc_ne_eq ((lp m found).alloc ag).live (some k)) .KEY).release .clientY).release .dhSecret
  have lg₄ := ((((lg g rfl).alloc_eq (some k)).set _ (k₂.alloc_ne_eq (lg g rfl).live (some k)) .KEY).release
    .clientY).release .dhSecret
  have k₄ := ((((k₃.set _ lKEY .KEY).release .clientY).release .dhSecret).free_loose lp₄).free_some
    (lg₄.free gp)
  exact (k₄.generateKey o).release .KEY

/-- `proc_anon_client_kx` keeps the discipline. -/
theorem procAnonClientKx_keeps (owned : s.Owned) (data : Nat → UInt8) (dataSize : Nat) :
    Keeps s (procAnonClientKx hdr o data dataSize s).1 := by
  unfold procAnonClientKx finishClientKx
  dsimp only
  split
  · exact Keeps.refl owned
  split
  · exact Keeps.refl owned
  obtain ⟨kY, lY⟩ := (Keeps.refl owned).alloc_eq (some (mpiScanValue (readBytes data 2 _)))
  exact deriveClientKxKey_keeps (kY.set _ lY .clientY) _

/-- A fresh session has nothing allocated and no field set. -/
theorem init_owned (cred : Option AnonServerCredentials) (method : CredType) :
    (Session.init cred method).Owned := by
  refine ⟨nofun, fun field _ found => ?_, fun field _ _ found => ?_⟩ <;> cases field <;> cases found

/-- Every step of a session keeps the discipline. -/
theorem kxStep_keeps (owned : s.Owned) (call : KxCall) : Keeps s (kxStep hdr s call).1 := by
  cases call with
  | genServer o => exact (kxStep_genServer hdr o s).1 ▸ genAnonServerKx_keeps owned
  | procServer o message => exact procAnonServerKx_keeps owned _ _
  | genClient o => exact (kxStep_genClient hdr o s).1 ▸ (genAnonClientKx_keeps owned).1
  | procClient o message => exact procAnonClientKx_keeps owned _ _
  | negotiate method => exact (Keeps.refl owned).congr (fun field => by cases field <;> rfl) rfl
  | install code info size => exact (Keeps.refl owned).auth _ _ _

/-- Over every run the discipline holds, and whatever was leaked before it stays leaked. -/
theorem kxRun_keeps (owned : s.Owned) (calls : List KxCall) :
    (kxRun hdr calls s).Owned ∧ ∀ mpi ∈ s.leaked, mpi ∈ (kxRun hdr calls s).leaked := by
  induction calls generalizing s with
  | nil => exact ⟨owned, fun _ leaked => leaked⟩
  | cons call calls ih =>
    have step : Keeps s (kxStep hdr s call).1 := kxStep_keeps owned call
    obtain ⟨owned', persist⟩ := ih step.owned
    exact ⟨owned', fun mpi leaked =>
      persist mpi (step.leaked mpi leaked (owned.below mpi (mem_leaked.mp leaked).1))⟩

end Gnutls
