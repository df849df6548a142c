import Gnutls.SbufSetup

/-! What the setup functions of `sbuf.c` leave behind on each exit, and what their retry loops return. -/

namespace Gnutls

section Retry

variable {isFatal : Int → Bool}

/-- The answer that ends a retry loop is one of the answers, and a success or a fatal error. -/
theorem retryNonFatal_ends {answers : List Int} {ret : Int} (ended : retryNonFatal isFatal answers = some ret) :
    ret ∈ answers ∧ (0 ≤ ret ∨ isFatal ret = true) := by
  induction answers with
  | nil => cases ended
  | cons answer rest ih =>
    simp only [retryNonFatal] at ended
    split at ended
    · -- A non-fatal error: the loop goes on with the later answers.
      exact ⟨List.mem_cons_of_mem _ (ih ended).1, (ih ended).2⟩
    · -- The loop stops at this answer, which is not a non-fatal error.
      rename_i retried
      cases ended
      refine ⟨List.mem_cons_self _ _, ?_⟩
      by_cases negative : ret < 0
      · exact .inr (by simpa [negative] using retried)
      · exact .inl (by omega)

/-- A retry loop ends once one of its answers is a success or a fatal error. -/
theorem retryNonFatal_isSome {answers : List Int} (decisive : ∃ ret ∈ answers, 0 ≤ ret ∨ isFatal ret = true) :
    (retryNonFatal isFatal answers).isSome := by
  induction answers with
  | nil => simp at decisive
  | cons answer rest ih =>
    simp only [retryNonFatal]
    split
    · -- This answer is retried, so the decisive one comes later.
      rename_i retried
      refine ih ?_
      obtain ⟨ret, mem, ended⟩ := decisive
      rcases List.mem_cons.mp mem with rfl | mem
      · rcases ended with ended | ended
        · exact absurd retried.1 (by omega)
        · simp [ended] at retried
      · exact ⟨ret, mem, ended⟩
    · rfl

/-- How `gnutls_sbuf_handshake` returns: with the handshake's answer, as its error when negative. -/
theorem gnutlsSbufHandshake_returned {handshake alerts : List Int} {result : Except SetupError Unit}
    (returned : gnutlsSbufHandshake isFatal handshake alerts = .returned result) :
    ∃ ret, retryNonFatal isFatal handshake = some ret ∧
      (ret < 0 ∧ result = .error (.call ret) ∨ 0 ≤ ret ∧ result = .ok ()) := by
  unfold gnutlsSbufHandshake at returned
  rcases h : retryNonFatal isFatal handshake with _ | ret
  · simp [h] at returned
  by_cases negative : ret < 0
  · -- A failed handshake sends its alert, retried the same way, and returns the handshake's code.
    rcases h' : retryNonFatal isFatal alerts with _ | _ <;> simp [h, h', negative] at returned
    exact ⟨ret, rfl, .inl ⟨negative, returned.symm⟩⟩
  · simp [h, negative] at returned
    exact ⟨ret, rfl, .inr ⟨by omega, returned.symm⟩⟩

/-- How `gnutls_sbuf_read` returns: with the answer that ended its loop, as an error when negative and as 0 otherwise. -/
theorem gnutlsSbufRead_returned {received : List Int} {result : Except SetupError Nat}
    (returned : gnutlsSbufRead isFatal received = .returned result) :
    ∃ ret, retryNonFatal isFatal received = some ret ∧
      (ret < 0 ∧ result = .error (.call ret) ∨ 0 ≤ ret ∧ result = .ok 0) := by
  unfold gnutlsSbufRead at returned
  rcases h : retryNonFatal isFatal received with _ | ret
  · simp [h] at returned
  by_cases negative : ret < 0 <;> simp [h, negative] at returned
  · exact ⟨ret, rfl, .inl ⟨negative, returned.symm⟩⟩
  · exact ⟨ret, rfl, .inr ⟨by omega, returned.symm⟩⟩

end Retry

/--
`gnutls_sbuf_handshake` and `gnutls_sbuf_read` hand back only fatal errors, and only once a call
has succeeded or failed fatally; and on every success `gnutls_sbuf_read` returns 0, whatever
count `gnutls_record_recv` returned.
-/
theorem sbuf_retries_fatal_only (isFatal : Int → Bool) (handshake alerts received : List Int) :
    (∀ e, gnutlsSbufHandshake isFatal handshake alerts = .returned (.error e) →
      ∃ code, e = .call code ∧ code < 0 ∧ isFatal code = true) ∧
    ((∃ ret ∈ handshake, 0 ≤ ret ∨ isFatal ret = true) → (∃ ret ∈ alerts, 0 ≤ ret ∨ isFatal ret = true) →
      ∃ result, gnutlsSbufHandshake isFatal handshake alerts = .returned result) ∧
    (∀ e, gnutlsSbufRead isFatal received = .returned (.error e) →
      ∃ code, e = .call code ∧ code < 0 ∧ isFatal code = true) ∧
    (∀ count, gnutlsSbufRead isFatal received = .returned (.ok count) → count = 0) ∧
    ((∃ ret ∈ received, 0 ≤ ret ∨ isFatal ret = true) → ∃ result, gnutlsSbufRead isFatal received = .returned result) := by
  refine ⟨fun e returned => ?_, fun decisive decisive' => ?_, fun e returned => ?_, fun count returned => ?_,
    fun decisive => ?_⟩
  · -- The error is the code that ended the loop, which was negative and so fatal.
    obtain ⟨ret, ended, ⟨negative, failed⟩ | ⟨_, failed⟩⟩ := gnutlsSbufHandshake_returned returned
    · exact ⟨ret, Except.error.inj failed, negative, (retryNonFatal_ends ended).2.resolve_left (by omega)⟩
    · cases failed
  · -- Both loops end, the handshake's and the alert's.
    obtain ⟨ret, h⟩ := Option.isSome_iff_exists.mp (retryNonFatal_isSome decisive)
    obtain ⟨_, h'⟩ := Option.isSome_iff_exists.mp (retryNonFatal_isSome decisive')
    unfold gnutlsSbufHandshake
    by_cases negative : ret < 0 <;> simp [h, h', negative]
  · obtain ⟨ret, ended, ⟨negative, failed⟩ | ⟨_, failed⟩⟩ := gnutlsSbufRead_returned returned
    · exact ⟨ret, Except.error.inj failed, negative, (retryNonFatal_ends ended).2.resolve_left (by omega)⟩
    · cases failed
  · -- A success returns 0, not the count received.
    obtain ⟨_, _, ⟨_, failed⟩ | ⟨_, succeeded⟩⟩ := gnutlsSbufRead_returned returned
    · cases failed
    · exact Except.ok.inj succeeded
  · obtain ⟨ret, h⟩ := Option.isSome_iff_exists.mp (retryNonFatal_isSome decisive)
    unfold gnutlsSbufRead
    by_cases negative : ret < 0 <;> simp [h, negative]


/-- A handshake that ends on a fatal error, and a read that ends on a success. -/
theorem sbuf_retries_fatal_only_small :
    (∃ result, gnutlsSbufHandshake (fun code => decide (code < -10)) [-1, -20] [0] = .returned result) ∧
      ∃ result, gnutlsSbufRead (fun code => decide (code < -10)) [-1, 5] = .returned result :=
  ⟨(sbuf_retries_fatal_only (fun code => decide (code < -10)) [-1, -20] [0] [-1, 5]).2.1
      ⟨-20, by decide, .inr (by decide)⟩ ⟨0, by decide, .inl (by decide)⟩,
    (sbuf_retries_fatal_only (fun code => decide (code < -10)) [-1, -20] [0] [-1, 5]).2.2.2.2
      ⟨5, by decide, .inl (by decide)⟩⟩

/--
The pointer discipline of `sbuf.c`: live sbufs and session pointers lie below `next`, and a live
sbuf that a live session points at has NULL credentials.
-/
structure World.Tidy (w : World) : Prop where
  below : ∀ sb ∈ w.sbufs, sb.handle < w.next
  ptr_below : ∀ obj ∈ w.sessions, ∀ h, obj.ptr = some h → h < w.next
  ptr_cred : ∀ obj ∈ w.sessions, ∀ h, obj.ptr = some h → ∀ sb ∈ w.sbufs, sb.handle = h → sb.cred = none

namespace World.Tidy

variable {w w' : World}

/-- Nothing allocated keeps the discipline. -/
theorem empty : World.empty.Tidy := ⟨nofun, nofun, nofun⟩

/-- Dropping sessions and sbufs, and moving `next` on, keeps the discipline. -/
theorem mono (tidy : w.Tidy) (next : w.next ≤ w'.next) (sessions : ∀ obj ∈ w'.sessions, obj ∈ w.sessions)
    (sbufs : ∀ sb ∈ w'.sbufs, sb ∈ w.sbufs) : w'.Tidy where
  below sb mem := Nat.lt_of_lt_of_le (tidy.below sb (sbufs sb mem)) next
  ptr_below obj mem h ptr := Nat.lt_of_lt_of_le (tidy.ptr_below obj (sessions obj mem) h ptr) next
  ptr_cred obj mem h ptr sb mem' := tidy.ptr_cred obj (sessions obj mem) h ptr sb (sbufs sb mem')

/-- `gnutls_deinit` keeps the discipline. -/
theorem deinit (tidy : w.Tidy) (session : Nat) : (gnutlsDeinit session w).Tidy := by
  unfold gnutlsDeinit
  split
  · -- The session is dropped.
    exact tidy.mono le_rfl (fun obj mem => (List.mem_filter.mp mem).1) fun _ => id
  · -- Only a fault is recorded.
    exact tidy.mono le_rfl (fun _ => id) fun _ => id

/-- `gnutls_sbuf_deinit` keeps the discipline. -/
theorem sbufDeinit (tidy : w.Tidy) (sb : SbufObj) : (gnutlsSbufDeinit sb w).Tidy := by
  -- The wrapped session goes first, then the sbuf is dropped.
  have wrapped : (match sb.session with | some session => gnutlsDeinit session w | none => w).Tidy := by
    split
    · exact tidy.deinit _
    · exact tidy
  exact wrapped.mono le_rfl (fun _ => id) fun _ mem => (List.mem_filter.mp mem).1

/-- The `fail1:` exit keeps the discipline. -/
theorem setupFail (tidy : w.Tidy) (session : Nat) (sb : Option SbufObj) (e : SetupError) :
    (Gnutls.setupFail session sb e w).1.Tidy := by
  unfold Gnutls.setupFail
  split
  · -- With the sbuf made: `gnutls_sbuf_deinit`, then `gnutls_deinit` again.
    exact (tidy.sbufDeinit _).deinit _
  · exact tidy.deinit _

/-- `gnutls_init` keeps the discipline: its session points nowhere. -/
theorem init (tidy : w.Tidy) (role : Role) : (gnutlsInit role w).2.Tidy where
  below sb mem := Nat.lt_succ_of_lt (tidy.below sb mem)
  ptr_below obj mem h ptr := by
    -- The new session's pointer is NULL; the old ones still point below `next`.
    rcases List.mem_cons.mp mem with rfl | mem
    · cases ptr
    · exact Nat.lt_succ_of_lt (tidy.ptr_below obj mem h ptr)
  ptr_cred obj mem h ptr := by
    rcases List.mem_cons.mp mem with rfl | mem
    · cases ptr
    · exact tidy.ptr_cred obj mem h ptr

/-- A new sbuf at the next address keeps the discipline: no session points there yet. -/
theorem alloc (tidy : w.Tidy) {sb : SbufObj} (at_next : sb.handle = w.next) :
    ({ w with next := w.next + 1, sbufs := sb :: w.sbufs } : World).Tidy where
  below obj mem := by
    rcases List.mem_cons.mp mem with rfl | mem
    · exact at_next ▸ Nat.lt_succ_self _
    · exact Nat.lt_succ_of_lt (tidy.below obj mem)
  ptr_below obj mem h ptr := Nat.lt_succ_of_lt (tidy.ptr_below obj mem h ptr)
  ptr_cred obj mem h ptr obj' mem' handle := by
    rcases List.mem_cons.mp mem' with rfl | mem'
    · -- Every pointer is below the old `next`, where the new sbuf sits.
      exact absurd (tidy.ptr_below obj mem h ptr) (by omega)
    · exact tidy.ptr_cred obj mem h ptr obj' mem' handle

/-- A change to a session that keeps its pointer keeps the discipline. -/
theorem update (tidy : w.Tidy) (session : Nat) {f : SessionObj → SessionObj} (ptr : ∀ obj, (f obj).ptr = obj.ptr) :
    (w.updateSession session f).Tidy := by
  -- Each session after the change has the pointer of one before it.
  have kept : ∀ obj ∈ (w.updateSession session f).sessions, ∃ obj' ∈ w.sessions, obj.ptr = obj'.ptr := by
    intro obj mem
    obtain ⟨obj', mem', rfl⟩ := List.mem_map.mp mem
    exact ⟨obj', mem', by split <;> simp [ptr]⟩
  refine ⟨tidy.below, fun obj mem h found => ?_, fun obj mem h found => ?_⟩ <;>
    obtain ⟨obj', mem', same⟩ := kept obj mem
  · exact tidy.ptr_below obj' mem' h (same ▸ found)
  · exact tidy.ptr_cred obj' mem' h (same ▸ found)

/-- Pointing a session at an address below `next` whose live sbufs have NULL credentials keeps the discipline. -/
theorem setPtr (tidy : w.Tidy) (session : Nat) {h : Nat} (below : h < w.next)
    (cred : ∀ sb ∈ w.sbufs, sb.handle = h → sb.cred = none) :
    (w.updateSession session fun obj => { obj with ptr := some h }).Tidy := by
  have kept : ∀ obj ∈ (w.updateSession session fun obj => { obj with ptr := some h }).sessions,
      obj.ptr = some h ∨ obj ∈ w.sessions := by
    intro obj mem
    obtain ⟨obj', mem', rfl⟩ := List.mem_map.mp mem
    split
    · exact .inl rfl
    · exact .inr mem'
  -- The session changed points at `h`, which the premises cover; the others are as they were.
  refine ⟨tidy.below, fun obj mem h' found => ?_, fun obj mem h' found => ?_⟩ <;>
    rcases kept obj mem with ptr | mem
  · exact Option.some.inj (ptr.symm.trans found) ▸ below
  · exact tidy.ptr_below obj mem h' found
  · exact Option.some.inj (ptr.symm.trans found) ▸ cred
  · exact tidy.ptr_cred obj mem h' found

/-- Storing back an sbuf with NULL credentials keeps the discipline. -/
theorem write (tidy : w.Tidy) {sb : SbufObj} (cred : sb.cred = none) : (w.writeSbuf sb).Tidy := by
  have kept : ∀ obj ∈ (w.writeSbuf sb).sbufs, (obj = sb ∨ obj ∈ w.sbufs) ∧ ∃ obj' ∈ w.sbufs, obj.handle = obj'.handle := by
    intro obj mem
    obtain ⟨obj', mem', rfl⟩ := List.mem_map.mp mem
    split
    · exact ⟨.inl rfl, obj', mem', by simp_all⟩
    · exact ⟨.inr mem', obj', mem', rfl⟩
  refine ⟨fun obj mem => ?_, tidy.ptr_below, fun obj mem h found obj' mem' handle => ?_⟩
  · -- Storing back keeps every address.
    obtain ⟨-, obj', mem', same⟩ := kept obj mem
    exact same ▸ tidy.below obj' mem'
  · -- The sbuf stored has NULL credentials; the others are as they were.
    rcases (kept obj' mem').1 with rfl | mem'
    · exact cred
    · exact tidy.ptr_cred obj mem h found obj' mem' handle

end World.Tidy

/-- Every live session and sbuf sits below the next address, as allocation leaves them. -/
structure World.Bounded (w : World) : Prop where
  sessions : ∀ obj ∈ w.sessions, obj.handle < w.next
  sbufs : ∀ sb ∈ w.sbufs, sb.handle < w.next

/-- The world with a setup's new session and the sbuf wrapping it put in front. -/
def World.added (w : World) (obj : SessionObj) (sb : SbufObj) : World :=
  { w with next := w.next + 1 + 1, sessions := obj :: w.sessions, sbufs := sb :: w.sbufs }

/--
The worlds a setup can leave, from a world with everything below `next`: it changes nothing, or
makes a session and unmakes it again, or makes a session and an sbuf and unmakes both through
`fail1:`, which records the second `gnutls_deinit`, or keeps a new session and an sbuf wrapping it,
the session pointing nowhere or at that sbuf.
-/
inductive SetupLeaves (w : World) : World → Prop where
  | untouched : SetupLeaves w w
  | undone : SetupLeaves w { w with next := w.next + 1 }
  | failed : SetupLeaves w { w with next := w.next + 1 + 1, faults := .deinitFreed w.next :: w.faults }
  | added (obj : SessionObj) (sb : SbufObj) (handle : obj.handle = w.next) (sbHandle : sb.handle = w.next + 1)
      (wraps : sb.session = some w.next) (ptr : obj.ptr = none ∨ obj.ptr = some sb.handle) :
      SetupLeaves w (w.added obj sb)

namespace World.Bounded

variable {w : World} {obj : SessionObj} {sb sb' : SbufObj}

/-- A change to the setup's own session leaves every other session as it was. -/
theorem updateSession_added (bounded : w.Bounded) (handle : obj.handle = w.next) (sb : SbufObj)
    (f : SessionObj → SessionObj) : (w.added obj sb).updateSession w.next f = w.added (f obj) sb := by
  -- Every old session sits below `next`, so only the new one matches.
  have old : ∀ o ∈ w.sessions, o.handle ≠ w.next := fun o mem => (bounded.sessions o mem).ne
  simp only [World.added, World.updateSession, List.map_cons, handle, if_true]
  rw [(List.map_congr_left fun o mem => if_neg (old o mem)).trans (List.map_id' _)]

/-- Storing the setup's own sbuf back leaves every other sbuf as it was. -/
theorem writeSbuf_added (bounded : w.Bounded) (obj : SessionObj) (handle : sb.handle = w.next + 1)
    (same : sb'.handle = sb.handle) : (w.added obj sb).writeSbuf sb' = w.added obj sb' := by
  -- Every old sbuf sits below `next`, so only the new one matches.
  have old : ∀ o ∈ w.sbufs, o.handle ≠ sb.handle := fun o mem => by
    have := bounded.sbufs o mem; omega
  simp only [World.added, World.writeSbuf, List.map_cons, same, if_true]
  rw [(List.map_congr_left fun o mem => if_neg (old o mem)).trans (List.map_id' _)]

/-- `fail1:` after the sbuf was made takes both away again, and records the second `gnutls_deinit`. -/
theorem fail_added (bounded : w.Bounded) (handle : obj.handle = w.next) (sbHandle : sb.handle = w.next + 1)
    (wraps : sb.session = some w.next) :
    gnutlsDeinit w.next (gnutlsSbufDeinit sb (w.added obj sb)) =
      { w with next := w.next + 1 + 1, faults := .deinitFreed w.next :: w.faults } := by
  -- The first `gnutls_deinit` and the filter take only the new objects; the second finds nothing.
  have sessions : ∀ o ∈ w.sessions, o.handle ≠ w.next := fun o mem => (bounded.sessions o mem).ne
  have sbufs : ∀ o ∈ w.sbufs, o.handle ≠ sb.handle := fun o mem => by have := bounded.sbufs o mem; omega
  simp +contextual [gnutlsSbufDeinit, wraps, gnutlsDeinit, World.added, handle, sessions, sbufs,
    List.filter_cons, List.filter_eq_self]

/-- A session made and deinitialised at once leaves only `next` moved on. -/
theorem deinit_init (bounded : w.Bounded) (role : Role) :
    gnutlsDeinit w.next (gnutlsInit role w).2 = { w with next := w.next + 1 } := by
  -- No old session sits at `next`.
  have sessions : ∀ o ∈ w.sessions, o.handle ≠ w.next := fun o mem => (bounded.sessions o mem).ne
  simp +contextual [gnutlsDeinit, gnutlsInit, sessions, List.filter_cons, List.filter_eq_self]

end World.Bounded

section Exits

variable {w w₀ w' : World} {role : Role} {xcred : Option Nat} {sb sb' : SbufObj}

/--
Between a setup's allocation of its sbuf and its exit: the session and the sbuf it made are live,
no fault was recorded, and no credentials were touched; from a world with everything below `next`,
those two are all that was added, the session pointing nowhere or at the sbuf.
-/
structure Opened (w : World) (role : Role) (xcred : Option Nat) (sb : SbufObj) (w' : World) : Prop where
  faults : w'.faults = w.faults
  session : ∃ obj ∈ w'.sessions, obj.handle = w.next ∧ obj.role = role ∧ obj.xcred = xcred
  sbuf : sb ∈ w'.sbufs
  wraps : sb.session = some w.next
  cred : sb.cred = none
  handle : sb.handle = w.next + 1
  creds : w'.creds = w.creds
  added : w.Bounded → ∃ obj : SessionObj, obj.handle = w.next ∧ (obj.ptr = none ∨ obj.ptr = some sb.handle) ∧
    w' = w.added obj sb

/-- The discipline, with room to point the setup's session at its sbuf. -/
structure Fresh (sb : SbufObj) (w : World) : Prop where
  tidy : w.Tidy
  below : sb.handle < w.next
  cred : ∀ obj ∈ w.sbufs, obj.handle = sb.handle → obj.cred = none

/-- Right after a setup's `gnutls_init` and `gnutls_calloc`. -/
theorem opened_alloc (role : Role) (writeFlushes : Bool) (w : World) :
    Opened w role none ⟨w.next + 1, some w.next, [], [], none, ⟨[], writeFlushes⟩⟩
      { (gnutlsInit role w).2 with
        next := w.next + 1 + 1, sbufs := ⟨w.next + 1, some w.next, [], [], none, ⟨[], writeFlushes⟩⟩ :: w.sbufs } ∧
    (w.Tidy → Fresh ⟨w.next + 1, some w.next, [], [], none, ⟨[], writeFlushes⟩⟩
      { (gnutlsInit role w).2 with
        next := w.next + 1 + 1, sbufs := ⟨w.next + 1, some w.next, [], [], none, ⟨[], writeFlushes⟩⟩ :: w.sbufs }) := by
  refine ⟨⟨rfl, ⟨_, List.mem_cons_self _ _, rfl, rfl, rfl⟩, List.mem_cons_self _ _, rfl, rfl, rfl, rfl,
    fun _ => ⟨_, rfl, .inl rfl, rfl⟩⟩, fun tidy => ?_⟩
  -- The only sbuf at the new address is the new one, and its credentials are NULL.
  refine ⟨(tidy.init role).alloc rfl, Nat.lt_succ_self _, fun obj mem handle => ?_⟩
  rcases List.mem_cons.mp mem with rfl | mem
  · rfl
  · exact absurd (tidy.below obj mem) (by simp only [handle]; omega)

/-- Giving the session certificate credentials. -/
theorem Opened.setXcred (opened : Opened w role none sb w') (x : Nat) :
    Opened w role (some x) sb (w'.updateSession w.next fun obj => { obj with xcred := some x }) := by
  obtain ⟨faults, ⟨obj, mem, handle, role, -⟩, sbuf, wraps, cred, at_next, creds, added⟩ := opened
  refine ⟨faults, ⟨_, List.mem_map_of_mem _ mem, by simp [handle, role]⟩, sbuf, wraps, cred, at_next, creds,
    fun bounded => ?_⟩
  -- The change reaches the new session only.
  obtain ⟨obj', handle', ptr, rfl⟩ := added bounded
  exact ⟨{ obj' with xcred := some x }, handle', ptr, bounded.updateSession_added handle' sb _⟩

/-- A change to a session that keeps its pointer keeps room for the sbuf. -/
theorem Fresh.update (fresh : Fresh sb w') (session : Nat) {f : SessionObj → SessionObj}
    (ptr : ∀ obj, (f obj).ptr = obj.ptr) : Fresh sb (w'.updateSession session f) :=
  ⟨fresh.tidy.update session ptr, fresh.below, fresh.cred⟩

/-- The allocated sbuf, with fields stored back that keep its address, session and credentials. -/
theorem Opened.write (opened : Opened w role xcred sb w') (handle : sb'.handle = sb.handle)
    (wraps : sb'.session = sb.session) (cred : sb'.cred = sb.cred) : Opened w role xcred sb' (w'.writeSbuf sb') :=
  ⟨opened.faults, opened.session, List.mem_map.mpr ⟨sb, opened.sbuf, by simp [handle]⟩, wraps ▸ opened.wraps,
    cred ▸ opened.cred, handle ▸ opened.handle, opened.creds, fun bounded => by
      obtain ⟨obj, at_next, ptr, rfl⟩ := opened.added bounded
      exact ⟨obj, at_next, handle ▸ ptr, bounded.writeSbuf_added obj opened.handle handle⟩⟩

/-- Storing the sbuf back with its address and NULL credentials keeps room for it. -/
theorem Fresh.write (fresh : Fresh sb w') (handle : sb'.handle = sb.handle) (cred : sb'.cred = none) :
    Fresh sb' (w'.writeSbuf sb') := by
  refine ⟨fresh.tidy.write cred, handle ▸ fresh.below, fun obj mem same => ?_⟩
  -- An sbuf at the address is the one stored, or was there before with NULL credentials.
  obtain ⟨obj', mem', rfl⟩ := List.mem_map.mp mem
  by_cases stored : obj'.handle = sb'.handle <;> simp [stored, cred] at same ⊢

/-- Pointing the setup's session at its sbuf. -/
theorem Opened.setPtr (opened : Opened w role xcred sb w') :
    Opened w role xcred sb (w'.updateSession w.next fun obj => { obj with ptr := some sb.handle }) ∧
      ∃ obj ∈ (w'.updateSession w.next fun obj => { obj with ptr := some sb.handle }).sessions,
        obj.handle = w.next ∧ obj.role = role ∧ obj.xcred = xcred ∧ obj.ptr = some sb.handle := by
  obtain ⟨faults, ⟨obj, mem, handle, same_role, x⟩, sbuf, wraps, cred, at_next, creds, added⟩ := opened
  have pointed : ∃ obj ∈ (w'.updateSession w.next fun obj => { obj with ptr := some sb.handle }).sessions,
      obj.handle = w.next ∧ obj.role = role ∧ obj.xcred = xcred ∧ obj.ptr = some sb.handle :=
    ⟨_, List.mem_map_of_mem _ mem, by simp [handle, same_role, x]⟩
  refine ⟨⟨faults, ?_, sbuf, wraps, cred, at_next, creds, fun bounded => ?_⟩, pointed⟩
  · obtain ⟨obj', mem', handle', role', x', -⟩ := pointed
    exact ⟨obj', mem', handle', role', x'⟩
  · -- The pointer is set on the new session only.
    obtain ⟨obj', handle', -, rfl⟩ := added bounded
    exact ⟨{ obj' with ptr := some sb.handle }, handle', .inr rfl, bounded.updateSession_added handle' sb _⟩

/-- The `fail1:` exit after the sbuf was allocated deinitialises the session twice. -/
theorem Opened.fail (opened : Opened w role xcred sb w') :
    (gnutlsDeinit w.next (gnutlsSbufDeinit sb w')).faults = .deinitFreed w.next :: w.faults ∧
      (gnutlsDeinit w.next (gnutlsSbufDeinit sb w')).creds = w.creds ∧
      (w.Bounded → SetupLeaves w (gnutlsDeinit w.next (gnutlsSbufDeinit sb w'))) := by
  obtain ⟨faults, ⟨obj, mem, handle, -⟩, -, wraps, -, at_next, creds, added⟩ := opened
  -- The session is live, so `gnutls_sbuf_deinit` frees it; the second `gnutls_deinit` finds it gone.
  have live : w'.sessions.any (·.handle = w.next) := List.any_eq_true.mpr ⟨obj, mem, by simp [handle]⟩
  refine ⟨by simp [gnutlsSbufDeinit, wraps, gnutlsDeinit, live, faults], by simp [creds], fun bounded => ?_⟩
  obtain ⟨obj, handle, -, rfl⟩ := added bounded
  rw [bounded.fail_added handle at_next wraps]
  exact .failed

/-- From a world with everything below `next`, the world between allocation and exit is one a setup can leave. -/
theorem Opened.leaves (opened : Opened w role xcred sb w') (bounded : w.Bounded) : SetupLeaves w w' := by
  obtain ⟨obj, handle, ptr, rfl⟩ := opened.added bounded
  exact .added obj sb handle opened.handle opened.wraps ptr

variable {calls : SetupCalls} {priority : Option String} {cred : CredObj} {writeFlushes : Bool} {session : Nat}
  {status : SetupStatus Nat}

/-- How the first part of a setup goes on: with the session and sbuf it made, nothing recorded. -/
theorem sbufSetupOpen_ok (opened : sbufSetupOpen role calls priority cred writeFlushes w = .ok (session, sb, w')) :
    session = w.next ∧ 0 ≤ calls.init ∧ calls.calloc = true ∧ sb.serverName = [] ∧ sb.serviceName = [] ∧
      Opened w role cred.xcred sb w' ∧ (w.Tidy → Fresh sb w') := by
  -- The first part went on, so each test that leads to an exit failed.
  unfold sbufSetupOpen gnutlsInit at opened
  by_cases init : calls.init < 0
  · simp only [init, if_true, reduceCtorEq] at opened
  cases calloc : calls.calloc
  · simp only [init, calloc, if_false, Bool.not_false, if_true, reduceCtorEq] at opened
  by_cases refused : calls.prioritySetDirect (priority.getD "NORMAL:%COMPAT") < 0
  · simp only [init, calloc, refused, if_false, Bool.not_true, Bool.false_eq_true, if_true, reduceCtorEq] at opened
  have alloc := opened_alloc role writeFlushes w
  rcases held : cred.xcred with _ | x
  · -- No certificate credentials to give the session.
    simp only [init, calloc, refused, held, if_false, Bool.not_true, Bool.false_eq_true] at opened
    cases opened
    exact ⟨rfl, by omega, rfl, rfl, rfl, alloc.1, alloc.2⟩
  by_cases unset : calls.credentialsSet < 0
  · simp only [init, calloc, refused, held, unset, if_false, Bool.not_true, Bool.false_eq_true, if_true,
      reduceCtorEq] at opened
  -- `gnutls_credentials_set` succeeded.
  simp only [init, calloc, refused, held, unset, if_false, Bool.not_true, Bool.false_eq_true] at opened
  cases opened
  exact ⟨rfl, by omega, rfl, rfl, rfl, alloc.1.setXcred _, fun tidy => (alloc.2 tidy).update _ fun _ => rfl⟩

/-- How the first part of a setup exits: at `gnutls_init`, at `gnutls_calloc`, or through `fail1:`. -/
theorem sbufSetupOpen_error (opened : sbufSetupOpen role calls priority cred writeFlushes w = .error (w', status)) :
    ((calls.init < 0 ∧ w' = w ∧ status = .returned (.error (.call calls.init))) ∨
      (0 ≤ calls.init ∧ calls.calloc = false ∧ w'.faults = w.faults ∧ status = .returned (.error .memoryError)) ∨
      (0 ≤ calls.init ∧ calls.calloc = true ∧ ∃ code, status = .returned (.error (.call code)) ∧
        w'.faults = .deinitFreed w.next :: w.faults)) ∧ w'.creds = w.creds ∧ (w.Tidy → w'.Tidy) ∧
      (w.Bounded → SetupLeaves w w') := by
  unfold sbufSetupOpen gnutlsInit at opened
  by_cases init : calls.init < 0
  · -- `gnutls_init` failed: nothing was made.
    simp only [init, if_true, Except.error.injEq, Prod.mk.injEq] at opened
    obtain ⟨rfl, rfl⟩ := opened
    exact ⟨.inl ⟨init, rfl, rfl⟩, rfl, id, fun _ => .untouched⟩
  have alloc := opened_alloc role writeFlushes w
  cases calloc : calls.calloc
  · -- `gnutls_calloc` failed: `fail1:` deinitialises the session alone.
    simp only [init, calloc, if_false, Bool.not_false, if_true] at opened
    cases opened
    refine ⟨.inr (.inl ⟨by omega, rfl, ?_, rfl⟩), by simp [setupFail, gnutlsInit],
      fun tidy => (tidy.init role).setupFail _ none .memoryError, fun bounded => ?_⟩
    · simp [setupFail, gnutlsDeinit, gnutlsInit]
    · show SetupLeaves w (gnutlsDeinit w.next (gnutlsInit role w).2)
      rw [bounded.deinit_init]
      exact .undone
  by_cases refused : calls.prioritySetDirect (priority.getD "NORMAL:%COMPAT") < 0
  · -- The priority string was refused: `fail1:` with the sbuf made.
    simp only [init, calloc, refused, if_false, Bool.not_true, Bool.false_eq_true, if_true] at opened
    cases opened
    exact ⟨.inr (.inr ⟨by omega, rfl, _, rfl, alloc.1.fail.1⟩), alloc.1.fail.2.1,
      fun tidy => ((alloc.2 tidy).tidy.sbufDeinit _).deinit _, alloc.1.fail.2.2⟩
  rcases held : cred.xcred with _ | x
  · -- No certificate credentials: the first part goes on, so this is no exit.
    simp only [init, calloc, refused, held, if_false, Bool.not_true, Bool.false_eq_true, reduceCtorEq] at opened
  by_cases unset : calls.credentialsSet < 0
  · -- `gnutls_credentials_set` failed: the same exit.
    simp only [init, calloc, refused, held, unset, if_false, Bool.not_true, Bool.false_eq_true, if_true] at opened
    cases opened
    exact ⟨.inr (.inr ⟨by omega, rfl, _, rfl, alloc.1.fail.1⟩), alloc.1.fail.2.1,
      fun tidy => ((alloc.2 tidy).tidy.sbufDeinit _).deinit _, alloc.1.fail.2.2⟩
  · simp only [init, calloc, refused, held, unset, if_false, Bool.not_true, Bool.false_eq_true, reduceCtorEq] at opened


variable {layout : SbufLayout} {serverNameSet : Int} {hostname service : Option (List UInt8)}

/-- How the copy of the host name goes on. -/
theorem sbufServerName_ok (named : sbufServerName layout serverNameSet hostname w.next sb w₀ = .ok (sb', w'))
    (opened : Opened w role xcred sb w₀) :
    sb'.serverName = hostname.getD sb.serverName ∧ sb'.serviceName = sb.serviceName ∧ Opened w role xcred sb' w' ∧
      (Fresh sb w₀ → Fresh sb' w') := by
  unfold sbufServerName at named
  split at named
  · -- No host name: nothing changes.
    cases named
    exact ⟨rfl, rfl, opened, id⟩
  split at named
  · cases named
  split at named
  · cases named
  · -- The name fits and `gnutls_server_name_set` accepts it: it is stored in the sbuf.
    cases named
    exact ⟨rfl, rfl, opened.write rfl rfl rfl, fun fresh => fresh.write rfl opened.cred⟩

/-- How the copy of the host name exits: at once for a name too long, or through `fail1:`. -/
theorem sbufServerName_error (named : sbufServerName layout serverNameSet hostname w.next sb w₀ = .error (w', status))
    (opened : Opened w role xcred sb w₀) :
    ((status = .returned (.error .invalidRequest) ∧ (∃ name, hostname = some name ∧ layout.serverNameSize ≤ name.length) ∧
        Opened w role xcred sb w') ∨
      (∃ code, status = .returned (.error (.call code)) ∧ w'.faults = .deinitFreed w.next :: w.faults)) ∧
    w'.creds = w.creds ∧ (Fresh sb w₀ → w'.Tidy) ∧ (w.Bounded → SetupLeaves w w') := by
  unfold sbufServerName at named
  split at named
  · cases named
  split at named
  · -- Too long: the direct return, leaving everything made.
    cases named
    exact ⟨.inl ⟨rfl, ⟨_, rfl, by assumption⟩, opened⟩, opened.creds, fun fresh => fresh.tidy, opened.leaves⟩
  split at named
  · -- `gnutls_server_name_set` failed: `fail1:` after the name was stored.
    cases named
    rename_i name _ _
    have written : Opened w role xcred { sb with serverName := name } (w₀.writeSbuf { sb with serverName := name }) :=
      opened.write rfl rfl rfl
    have tidy : w₀.Tidy → (w₀.writeSbuf { sb with serverName := name }).Tidy := fun tidy => tidy.write opened.cred
    exact ⟨.inr ⟨_, rfl, written.fail.1⟩, written.fail.2.1, fun fresh => ((tidy fresh.tidy).sbufDeinit _).deinit _,
      written.fail.2.2⟩
  · cases named

/-- How the copy of the service name goes on. -/
theorem sbufServiceName_ok (named : sbufServiceName layout service sb w₀ = .ok (sb', w'))
    (opened : Opened w role xcred sb w₀) :
    sb'.serverName = sb.serverName ∧ sb'.serviceName = service.getD sb.serviceName ∧ Opened w role xcred sb' w' ∧
      (Fresh sb w₀ → Fresh sb' w') := by
  unfold sbufServiceName at named
  split at named
  · cases named
    exact ⟨rfl, rfl, opened, id⟩
  split at named
  · cases named
  · cases named
    exact ⟨rfl, rfl, opened.write rfl rfl rfl, fun fresh => fresh.write rfl opened.cred⟩

/-- How the copy of the service name exits: at once, for a name too long. -/
theorem sbufServiceName_error (named : sbufServiceName layout service sb w₀ = .error (w', status))
    (opened : Opened w role xcred sb w₀) :
    status = .returned (.error .invalidRequest) ∧ (∃ name, service = some name ∧ layout.serviceNameSize ≤ name.length) ∧
      Opened w role xcred sb w' ∧ (Fresh sb w₀ → w'.Tidy) ∧ (w.Bounded → SetupLeaves w w') := by
  unfold sbufServiceName at named
  split at named
  · cases named
  split at named
  · -- Too long: the direct return, leaving everything made.
    cases named
    exact ⟨rfl, ⟨_, rfl, by assumption⟩, opened, fun fresh => fresh.tidy, opened.leaves⟩
  · cases named

variable {isFatal : Int → Bool} {handshake : List Int}

/-- How the last part of a setup ends: still hand-shaking, pointing the session at its sbuf, or through `fail1:`. -/
theorem sbufSetupFinish_cases (finished : sbufSetupFinish isFatal handshake w.next sb w₀ = (w', status))
    (opened : Opened w role xcred sb w₀) :
    (status = .running ∨
      (status = .returned (.ok sb.handle) ∧ Opened w role xcred sb w' ∧
        ∃ obj ∈ w'.sessions, obj.handle = w.next ∧ obj.role = role ∧ obj.xcred = xcred ∧ obj.ptr = some sb.handle) ∨
      (∃ code, status = .returned (.error (.call code)) ∧ w'.faults = .deinitFreed w.next :: w.faults)) ∧
    w'.creds = w.creds ∧ (Fresh sb w₀ → w'.Tidy) ∧ (w.Bounded → SetupLeaves w w') := by
  have pointed := opened.setPtr
  have tidy : Fresh sb w₀ → (w₀.updateSession w.next fun obj => { obj with ptr := some sb.handle }).Tidy :=
    fun fresh => fresh.tidy.setPtr _ fresh.below fresh.cred
  dsimp only [sbufSetupFinish] at finished
  split at finished
  · -- Every handshake answer was a non-fatal error: still hand-shaking.
    cases finished
    exact ⟨.inl rfl, opened.creds, tidy, pointed.1.leaves⟩
  split at finished
  · -- A fatal handshake error: `fail1:`.
    cases finished
    exact ⟨.inr (.inr ⟨_, rfl, pointed.1.fail.1⟩), pointed.1.fail.2.1, fun fresh => ((tidy fresh).sbufDeinit _).deinit _,
      pointed.1.fail.2.2⟩
  · -- The handshake succeeded.
    cases finished
    exact ⟨.inr (.inl ⟨rfl, pointed⟩), opened.creds, tidy, pointed.1.leaves⟩

/-- How a setup that made its session and sbuf and pointed the one at the other ends, seen from the start. -/
theorem sbufSetupFinish_from (finished : sbufSetupFinish isFatal handshake w.next sb w₀ = (w', status))
    (opened : Opened w role xcred sb w₀) (fresh : w.Tidy → Fresh sb w₀) :
    (w.Tidy → w'.Tidy) ∧ w'.creds = w.creds ∧ (w.Bounded → SetupLeaves w w') ∧
      (status = .running ∨
        (status = .returned (.ok (w.next + 1)) ∧ Opened w role xcred sb w' ∧
          ∃ obj ∈ w'.sessions, obj.handle = w.next ∧ obj.role = role ∧ obj.xcred = xcred ∧ obj.ptr = some (w.next + 1)) ∨
        (∃ code, status = .returned (.error (.call code)) ∧ w'.faults = .deinitFreed w.next :: w.faults)) := by
  obtain ⟨ended, creds, tidy, leaves⟩ := sbufSetupFinish_cases finished opened
  rw [opened.handle] at ended
  exact ⟨fun t => tidy (fresh t), creds, leaves, ended⟩

/-- Every way `gnutls_sbuf_server_init` can end. -/
theorem gnutlsSbufServerInit_cases
    (init : gnutlsSbufServerInit isFatal calls priority cred writeFlushes w = (w', status)) :
    (w.Tidy → w'.Tidy) ∧ w'.creds = w.creds ∧ (w.Bounded → SetupLeaves w w') ∧
    ((calls.init < 0 ∧ w' = w ∧ status = .returned (.error (.call calls.init))) ∨
      (0 ≤ calls.init ∧ calls.calloc = false ∧ w'.faults = w.faults ∧ status = .returned (.error .memoryError)) ∨
      (0 ≤ calls.init ∧ calls.calloc = true ∧
        (status = .running ∨
          (status = .returned (.ok (w.next + 1)) ∧ (∃ sb, Opened w .server cred.xcred sb w' ∧ sb.serverName = [] ∧
            sb.serviceName = []) ∧ ∃ obj ∈ w'.sessions, obj.handle = w.next ∧ obj.role = .server ∧
              obj.xcred = cred.xcred ∧ obj.ptr = some (w.next + 1)) ∨
          (∃ code, status = .returned (.error (.call code)) ∧ w'.faults = .deinitFreed w.next :: w.faults)))) := by
  unfold gnutlsSbufServerInit at init
  split at init <;> rename_i opened
  · -- An exit of the first part.
    subst init
    obtain ⟨early | early | ⟨initialised, allocated, failed⟩, creds, tidy, leaves⟩ := sbufSetupOpen_error opened
    · exact ⟨tidy, creds, leaves, .inl early⟩
    · exact ⟨tidy, creds, leaves, .inr (.inl early)⟩
    · exact ⟨tidy, creds, leaves, .inr (.inr ⟨initialised, allocated, .inr (.inr failed)⟩)⟩
  · -- The first part went on, so the setup ends as its last part does.
    obtain ⟨rfl, initialised, allocated, named, served, opened, fresh⟩ := sbufSetupOpen_ok opened
    obtain ⟨tidy, creds, leaves, running | ⟨ok, built, pointed⟩ | failed⟩ := sbufSetupFinish_from init opened fresh
    · exact ⟨tidy, creds, leaves, .inr (.inr ⟨initialised, allocated, .inl running⟩)⟩
    · exact ⟨tidy, creds, leaves,
        .inr (.inr ⟨initialised, allocated, .inr (.inl ⟨ok, ⟨_, built, named, served⟩, pointed⟩)⟩)⟩
    · exact ⟨tidy, creds, leaves, .inr (.inr ⟨initialised, allocated, .inr (.inr failed)⟩)⟩

/-- Every way `gnutls_sbuf_client_init` can end. -/
theorem gnutlsSbufClientInit_cases
    (init : gnutlsSbufClientInit layout isFatal calls hostname service priority cred writeFlushes w = (w', status)) :
    (w.Tidy → w'.Tidy) ∧ w'.creds = w.creds ∧ (w.Bounded → SetupLeaves w w') ∧
    ((calls.init < 0 ∧ w' = w ∧ status = .returned (.error (.call calls.init))) ∨
      (0 ≤ calls.init ∧ calls.calloc = false ∧ w'.faults = w.faults ∧ status = .returned (.error .memoryError)) ∨
      (0 ≤ calls.init ∧ calls.calloc = true ∧
        (status = .running ∨
          (status = .returned (.ok (w.next + 1)) ∧ (∃ sb, Opened w .client cred.xcred sb w' ∧
            sb.serverName = hostname.getD [] ∧ sb.serviceName = service.getD []) ∧ ∃ obj ∈ w'.sessions,
              obj.handle = w.next ∧ obj.role = .client ∧ obj.xcred = cred.xcred ∧ obj.ptr = some (w.next + 1)) ∨
          (status = .returned (.error .invalidRequest) ∧
            ((∃ name, hostname = some name ∧ layout.serverNameSize ≤ name.length) ∨
              (∃ name, service = some name ∧ layout.serviceNameSize ≤ name.length)) ∧
            ∃ sb, Opened w .client cred.xcred sb w') ∨
          (∃ code, status = .returned (.error (.call code)) ∧ w'.faults = .deinitFreed w.next :: w.faults)))) := by
  unfold gnutlsSbufClientInit at init
  split at init <;> rename_i opened
  · -- An exit of the first part.
    subst init
    obtain ⟨early | early | ⟨initialised, allocated, failed⟩, creds, tidy, leaves⟩ := sbufSetupOpen_error opened
    · exact ⟨tidy, creds, leaves, .inl early⟩
    · exact ⟨tidy, creds, leaves, .inr (.inl early)⟩
    · exact ⟨tidy, creds, leaves, .inr (.inr ⟨initialised, allocated, .inr (.inr (.inr failed))⟩)⟩
  obtain ⟨rfl, initialised, allocated, named, served, opened, fresh⟩ := sbufSetupOpen_ok opened
  split at init <;> rename_i hostnamed
  · -- An exit at the host name.
    subst init
    obtain ⟨⟨rejected, long, opened⟩ | failed, creds, tidy, leaves⟩ := sbufServerName_error hostnamed opened
    · exact ⟨fun t => tidy (fresh t), creds, leaves,
        .inr (.inr ⟨initialised, allocated, .inr (.inr (.inl ⟨rejected, .inl long, _, opened⟩))⟩)⟩
    · exact ⟨fun t => tidy (fresh t), creds, leaves,
        .inr (.inr ⟨initialised, allocated, .inr (.inr (.inr failed))⟩)⟩
  obtain ⟨named', served', opened, fresh'⟩ := sbufServerName_ok hostnamed opened
  split at init <;> rename_i servicenamed
  · -- An exit at the service name.
    subst init
    obtain ⟨rejected, long, opened, tidy, leaves⟩ := sbufServiceName_error servicenamed opened
    exact ⟨fun t => tidy (fresh' (fresh t)), opened.creds, leaves,
      .inr (.inr ⟨initialised, allocated, .inr (.inr (.inl ⟨rejected, .inr long, _, opened⟩))⟩)⟩
  -- Both names copied: the setup ends as its last part does.
  obtain ⟨named'', served'', opened, fresh''⟩ := sbufServiceName_ok servicenamed opened
  obtain ⟨tidy, creds, leaves, running | ⟨ok, built, pointed⟩ | failed⟩ :=
    sbufSetupFinish_from init opened fun t => fresh'' (fresh' (fresh t))
  · exact ⟨tidy, creds, leaves, .inr (.inr ⟨initialised, allocated, .inl running⟩)⟩
  · refine ⟨tidy, creds, leaves,
      .inr (.inr ⟨initialised, allocated, .inr (.inl ⟨ok, ⟨_, built, ?_, ?_⟩, pointed⟩)⟩)⟩
    · rw [named'', named', named]
    · rw [served'', served', served]
  · exact ⟨tidy, creds, leaves, .inr (.inr ⟨initialised, allocated, .inr (.inr (.inr failed))⟩)⟩

end Exits

namespace World.Tidy

variable {w : World}

/-- `gnutls_sbuf_sinit` keeps the discipline: no session points at its new sbuf. -/
theorem sinit (tidy : w.Tidy) (malloc : Bool) (leftover : Leftover) (session : Option Nat) (writeFlushes : Bool) :
    (gnutlsSbufSinit malloc leftover session writeFlushes w).1.Tidy := by
  unfold gnutlsSbufSinit
  split
  · -- `malloc` failed: nothing changes.
    exact tidy
  · exact tidy.alloc rfl

/-- `gnutls_sbuf_server_init` keeps the discipline. -/
theorem serverInit (tidy : w.Tidy) (isFatal : Int → Bool) (calls : SetupCalls) (priority : Option String)
    (cred : CredObj) (writeFlushes : Bool) : (gnutlsSbufServerInit isFatal calls priority cred writeFlushes w).1.Tidy :=
  (gnutlsSbufServerInit_cases Prod.mk.eta.symm).1 tidy

/-- `gnutls_sbuf_client_init` keeps the discipline. -/
theorem clientInit (tidy : w.Tidy) (layout : SbufLayout) (isFatal : Int → Bool) (calls : SetupCalls)
    (hostname service : Option (List UInt8)) (priority : Option String) (cred : CredObj) (writeFlushes : Bool) :
    (gnutlsSbufClientInit layout isFatal calls hostname service priority cred writeFlushes w).1.Tidy :=
  (gnutlsSbufClientInit_cases Prod.mk.eta.symm).1 tidy

end World.Tidy

/-- `gnutls_sbuf_server_init` touches no credentials. -/
theorem gnutlsSbufServerInit_creds (isFatal : Int → Bool) (calls : SetupCalls) (priority : Option String)
    (cred : CredObj) (writeFlushes : Bool) (w : World) :
    (gnutlsSbufServerInit isFatal calls priority cred writeFlushes w).1.creds = w.creds :=
  (gnutlsSbufServerInit_cases Prod.mk.eta.symm).2.1

/-- `gnutls_sbuf_client_init` touches no credentials. -/
theorem gnutlsSbufClientInit_creds (layout : SbufLayout) (isFatal : Int → Bool) (calls : SetupCalls)
    (hostname service : Option (List UInt8)) (priority : Option String) (cred : CredObj) (writeFlushes : Bool)
    (w : World) : (gnutlsSbufClientInit layout isFatal calls hostname service priority cred writeFlushes w).1.creds = w.creds :=
  (gnutlsSbufClientInit_cases Prod.mk.eta.symm).2.1

/-- `gnutls_sbuf_sinit` touches no credentials. -/
theorem gnutlsSbufSinit_creds (malloc : Bool) (leftover : Leftover) (session : Option Nat) (writeFlushes : Bool)
    (w : World) : (gnutlsSbufSinit malloc leftover session writeFlushes w).1.creds = w.creds := by
  unfold gnutlsSbufSinit; split <;> rfl

/-- With `gnutls_init`, `gnutls_calloc`, the priority string and the credentials accepted, the first part of a setup goes on. -/
theorem sbufSetupOpen_succeeds (initialised : 0 ≤ calls.init) (allocated : calls.calloc = true)
    (accepted : 0 ≤ calls.prioritySetDirect (priority.getD "NORMAL:%COMPAT"))
    (credentialsSet : cred.xcred ≠ none → 0 ≤ calls.credentialsSet) :
    ∃ sb w', sbufSetupOpen role calls priority cred writeFlushes w = .ok (w.next, sb, w') := by
  have early : ¬calls.init < 0 := by omega
  have refused : ¬calls.prioritySetDirect (priority.getD "NORMAL:%COMPAT") < 0 := by omega
  -- Each test that leads to an exit fails, so the setup reaches the credentials.
  rcases held : cred.xcred with _ | x
  · exact ⟨_, _, by simp [sbufSetupOpen, early, allocated, refused, held, gnutlsInit]; exact ⟨rfl, rfl⟩⟩
  · have set : ¬calls.credentialsSet < 0 := by have := credentialsSet (by simp [held]); omega
    exact ⟨_, _, by simp [sbufSetupOpen, early, allocated, refused, held, set, gnutlsInit]; exact ⟨rfl, rfl⟩⟩

/--
A host or service name too long for its array makes `gnutls_sbuf_client_init` return
`GNUTLS_E_INVALID_REQUEST` at once, not through `fail1:`, on the path where every step before the
copy of that name succeeded: its session and its sbuf stay allocated, the sbuf still wrapping the
session, no fault is recorded, and the caller is handed neither.
-/
theorem gnutlsSbufClientInit_leaks_on_long_name (layout : SbufLayout) (isFatal : Int → Bool) (calls : SetupCalls)
    (hostname service : Option (List UInt8)) (priority : Option String) (cred : CredObj) (writeFlushes : Bool)
    (w : World) (initialised : 0 ≤ calls.init) (allocated : calls.calloc = true)
    (accepted : 0 ≤ calls.prioritySetDirect (priority.getD "NORMAL:%COMPAT"))
    (credentialsSet : cred.xcred ≠ none → 0 ≤ calls.credentialsSet)
    (long : (∃ name, hostname = some name ∧ layout.serverNameSize ≤ name.length) ∨
      ((∀ name, hostname = some name → name.length < layout.serverNameSize ∧ 0 ≤ calls.serverNameSet) ∧
        ∃ name, service = some name ∧ layout.serviceNameSize ≤ name.length)) :
    let r := gnutlsSbufClientInit layout isFatal calls hostname service priority cred writeFlushes w
    r.2 = .returned (.error .invalidRequest) ∧ r.1.faults = w.faults ∧ (∃ obj ∈ r.1.sessions, obj.handle = w.next) ∧
      ∃ sb ∈ r.1.sbufs, sb.handle = w.next + 1 ∧ sb.session = some w.next := by
  have succeeds : ∃ sb w', sbufSetupOpen .client calls priority cred writeFlushes w = .ok (w.next, sb, w') :=
    sbufSetupOpen_succeeds initialised allocated accepted credentialsSet
  obtain ⟨sb, w₁, opened⟩ := succeeds
  obtain ⟨-, -, -, -, -, built, -⟩ := sbufSetupOpen_ok opened
  -- The call returns the world between allocation and exit, whichever name is too long.
  suffices exits : ∃ w₂ sb', gnutlsSbufClientInit layout isFatal calls hostname service priority cred writeFlushes w =
      (w₂, .returned (.error .invalidRequest)) ∧ Opened w .client cred.xcred sb' w₂ by
    obtain ⟨w₂, sb', done, kept⟩ := exits
    obtain ⟨obj, mem, handle, -⟩ := kept.session
    rw [done]
    exact ⟨rfl, kept.faults, ⟨obj, mem, handle⟩, sb', kept.sbuf, kept.handle, kept.wraps⟩
  simp only [gnutlsSbufClientInit, opened]
  rcases long with ⟨name, rfl, tooLong⟩ | ⟨fits, name, rfl, tooLong⟩
  · -- The host name is refused before anything is stored.
    exact ⟨w₁, sb, by simp [sbufServerName, tooLong], built⟩
  · -- The host name, if any, fits and is accepted; then the service name is refused.
    obtain ⟨sb', w₂, named⟩ : ∃ sb' w₂, sbufServerName layout calls.serverNameSet hostname w.next sb w₁ =
        .ok (sb', w₂) := by
      cases hostname with
      | none => exact ⟨_, _, rfl⟩
      | some host =>
        obtain ⟨fit, set⟩ := fits host rfl
        have set : ¬calls.serverNameSet < 0 := by omega
        exact ⟨_, _, by simp [sbufServerName, Nat.not_le.mpr fit, set]; exact ⟨rfl, rfl⟩⟩
    obtain ⟨-, -, opened₂, -⟩ := sbufServerName_ok named built
    exact ⟨w₂, sb', by simp [named, sbufServiceName, tooLong], opened₂⟩

/-- A three-byte host name for a two-byte array leaves the sbuf allocated. -/
theorem gnutlsSbufClientInit_leaks_on_long_name_host :
    ∃ sb ∈ (gnutlsSbufClientInit ⟨2, 8, 8⟩ (fun _ => true) ⟨0, true, fun _ => 0, 0, 0, [0]⟩ (some [1, 2, 3]) none none
      ⟨0, none⟩ false World.empty).1.sbufs, sb.handle = 1 ∧ sb.session = some 0 :=
  (gnutlsSbufClientInit_leaks_on_long_name ⟨2, 8, 8⟩ (fun _ => true) ⟨0, true, fun _ => 0, 0, 0, [0]⟩ (some [1, 2, 3])
    none none ⟨0, none⟩ false World.empty (by decide) rfl (by decide) (fun held => absurd rfl held)
    (.inl ⟨_, rfl, by decide⟩)).2.2.2

/--
What a successful setup builds: a new session of its role, holding the certificate credentials
and pointing at a new sbuf that wraps it; the sbuf holds the names given and a NULL credentials
pointer, and no fault is recorded.
-/
theorem sbufInit_ok (layout : SbufLayout) (isFatal : Int → Bool) (calls : SetupCalls)
    (hostname service : Option (List UInt8)) (priority : Option String) (cred : CredObj) (writeFlushes : Bool)
    (w : World) :
    (∀ w' h, gnutlsSbufServerInit isFatal calls priority cred writeFlushes w = (w', .returned (.ok h)) →
      h = w.next + 1 ∧ w'.faults = w.faults ∧
      (∃ obj ∈ w'.sessions, obj.handle = w.next ∧ obj.role = .server ∧ obj.xcred = cred.xcred ∧ obj.ptr = some h) ∧
      ∃ sb ∈ w'.sbufs, sb.handle = h ∧ sb.session = some w.next ∧ sb.cred = none ∧ sb.serverName = [] ∧
        sb.serviceName = []) ∧
    (∀ w' h, gnutlsSbufClientInit layout isFatal calls hostname service priority cred writeFlushes w =
        (w', .returned (.ok h)) →
      h = w.next + 1 ∧ w'.faults = w.faults ∧
      (∃ obj ∈ w'.sessions, obj.handle = w.next ∧ obj.role = .client ∧ obj.xcred = cred.xcred ∧ obj.ptr = some h) ∧
      ∃ sb ∈ w'.sbufs, sb.handle = h ∧ sb.session = some w.next ∧ sb.cred = none ∧
        sb.serverName = hostname.getD [] ∧ sb.serviceName = service.getD []) := by
  -- Of all the ways a setup can end, only the successful handshake returns a handle.
  constructor <;> intro w' h init
  · obtain ⟨-, -, -, ⟨-, -, early⟩ | ⟨-, -, -, early⟩ | ⟨-, -, running | ⟨ok, ⟨sb, opened, named, served⟩, pointed⟩ |
      ⟨_, failed, -⟩⟩⟩ := gnutlsSbufServerInit_cases init
    · cases early
    · cases early
    · cases running
    · cases ok
      exact ⟨rfl, opened.faults, pointed, sb, opened.sbuf, opened.handle, opened.wraps, opened.cred, named, served⟩
    · cases failed
  · obtain ⟨-, -, -, ⟨-, -, early⟩ | ⟨-, -, -, early⟩ | ⟨-, -, running | ⟨ok, ⟨sb, opened, named, served⟩, pointed⟩ |
      ⟨rejected, -⟩ | ⟨_, failed, -⟩⟩⟩ := gnutlsSbufClientInit_cases init
    · cases early
    · cases early
    · cases running
    · cases ok
      exact ⟨rfl, opened.faults, pointed, sb, opened.sbuf, opened.handle, opened.wraps, opened.cred, named, served⟩
    · cases rejected
    · cases failed

/-- A client setup that hand-shakes at once keeps the host name and no credentials pointer. -/
theorem sbufInit_ok_client :
    ∃ sb ∈ (gnutlsSbufClientInit ⟨8, 8, 8⟩ (fun _ => true) ⟨0, true, fun _ => 0, 0, 0, [0]⟩ (some [1, 2, 3]) none none
      ⟨0, none⟩ false World.empty).1.sbufs, sb.handle = 1 ∧ sb.session = some 0 ∧ sb.cred = none ∧
        sb.serverName = [1, 2, 3] ∧ sb.serviceName = [] :=
  ((sbufInit_ok ⟨8, 8, 8⟩ (fun _ => true) ⟨0, true, fun _ => 0, 0, 0, [0]⟩ (some [1, 2, 3]) none none
    ⟨0, none⟩ false World.empty).2 _ 1 rfl).2.2.2

section Leaves

variable {w w' : World}

/--
What `gnutls_sbuf_deinit` changes: it frees the sbufs at the sbuf's address and no other, and drops
sessions, leaving none the sbuf wrapped; `next`, the certificate credentials and their faults stay.
-/
theorem gnutlsSbufDeinit_frame (sb : SbufObj) (w : World) :
    (gnutlsSbufDeinit sb w).next = w.next ∧
      (∀ obj ∈ (gnutlsSbufDeinit sb w).sessions, obj ∈ w.sessions ∧ sb.session ≠ some obj.handle) ∧
      (gnutlsSbufDeinit sb w).sbufs = w.sbufs.filter (·.handle ≠ sb.handle) ∧
      (gnutlsSbufDeinit sb w).xcreds = w.xcreds ∧
      ∀ x, Fault.freeFreed x ∈ (gnutlsSbufDeinit sb w).faults → Fault.freeFreed x ∈ w.faults := by
  unfold gnutlsSbufDeinit
  rcases wraps : sb.session with _ | s
  · -- Wrapping nothing, it frees the sbuf alone.
    simp
  dsimp only [gnutlsDeinit]
  split <;> rename_i live
  · -- The wrapped session is live and dropped with every session at its address.
    simp +contextual [List.mem_filter, @eq_comm _ s]
  · -- No live session had the address, so none left has it; the fault recorded is a `gnutls_deinit`.
    simp only [List.any_eq_true, decide_eq_true_eq, not_exists, not_and] at live
    exact ⟨rfl, fun obj mem => ⟨mem, fun same => live obj mem (Option.some.inj same).symm⟩, rfl, rfl,
      fun x mem => by simpa using mem⟩

namespace World.Bounded

/-- Dropping sessions and sbufs, and moving `next` on, keeps everything below `next`. -/
theorem mono (bounded : w.Bounded) (next : w.next ≤ w'.next) (sessions : ∀ obj ∈ w'.sessions, obj ∈ w.sessions)
    (sbufs : ∀ sb ∈ w'.sbufs, sb ∈ w.sbufs) : w'.Bounded where
  sessions obj mem := Nat.lt_of_lt_of_le (bounded.sessions obj (sessions obj mem)) next
  sbufs sb mem := Nat.lt_of_lt_of_le (bounded.sbufs sb (sbufs sb mem)) next

/-- Nothing allocated lies below `next`. -/
theorem empty : World.empty.Bounded := ⟨fun _ => nofun, fun _ => nofun⟩

end World.Bounded

namespace SetupLeaves

/-- A setup keeps everything below `next`. -/
theorem bounded (leaves : SetupLeaves w w') (bounded : w.Bounded) : w'.Bounded := by
  cases leaves with
  | untouched => exact bounded
  | undone => exact bounded.mono (Nat.le_succ _) (fun _ => id) fun _ => id
  | failed => exact bounded.mono (by dsimp only; omega) (fun _ => id) fun _ => id
  | added obj sb handle sbHandle wraps _ =>
    -- The new session and sbuf sit at the two addresses below the new `next`.
    have next : (w.added obj sb).next = w.next + 1 + 1 := rfl
    refine ⟨fun o mem => ?_, fun o mem => ?_⟩ <;> rw [next]
    · rcases List.mem_cons.mp mem with rfl | mem
      · omega
      · have := bounded.sessions o mem; omega
    · rcases List.mem_cons.mp mem with rfl | mem
      · omega
      · have := bounded.sbufs o mem; omega

/-- A setup touches no credentials or certificate credentials, moves `next` on, and frees no certificate credentials. -/
theorem frame (leaves : SetupLeaves w w') :
    w'.creds = w.creds ∧ w'.xcreds = w.xcreds ∧ w.next ≤ w'.next ∧
      ∀ x, Fault.freeFreed x ∈ w'.faults → Fault.freeFreed x ∈ w.faults := by
  cases leaves <;> simp [World.added] <;> omega

/-- A setup keeps every fault recorded, adding at most the second `gnutls_deinit` of its session. -/
theorem faults (leaves : SetupLeaves w w') : ∀ fault ∈ w.faults, fault ∈ w'.faults := by
  cases leaves with
  | failed => exact fun _ => List.mem_cons_of_mem _
  | _ => exact fun _ => id

/-- A setup keeps every live session and sbuf, unchanged, and adds at most a session at `next` and an sbuf wrapping it. -/
theorem keeps (leaves : SetupLeaves w w') :
    (∀ obj ∈ w.sessions, obj ∈ w'.sessions) ∧ (∀ sb ∈ w.sbufs, sb ∈ w'.sbufs) ∧
      (∀ obj ∈ w'.sessions, obj ∈ w.sessions ∨ obj.handle = w.next) ∧
      ∀ sb ∈ w'.sbufs, sb ∈ w.sbufs ∨ sb.handle = w.next + 1 ∧ sb.session = some w.next := by
  cases leaves with
  | untouched | undone | failed => exact ⟨fun _ => id, fun _ => id, fun _ => .inl, fun _ => .inl⟩
  | added obj sb handle sbHandle wraps _ =>
    -- Everything old is kept behind the new session and sbuf.
    refine ⟨fun _ => List.mem_cons_of_mem _, fun _ => List.mem_cons_of_mem _, fun o mem => ?_, fun x mem => ?_⟩
    · rcases List.mem_cons.mp mem with rfl | old
      · exact .inr handle
      · exact .inl old
    · rcases List.mem_cons.mp mem with rfl | old
      · exact .inr ⟨sbHandle, wraps⟩
      · exact .inl old

end SetupLeaves

end Leaves

/-- After `gnutls_deinit`, no live session is left at its address, whether or not one was live. -/
theorem gnutlsDeinit_gone (session : Nat) (w : World) :
    ∀ obj ∈ (gnutlsDeinit session w).sessions, obj.handle ≠ session := by
  unfold gnutlsDeinit
  split <;> rename_i live
  · -- A live session there is filtered out.
    intro obj mem
    simpa using (List.mem_filter.mp mem).2
  · -- None was there, and nothing is added.
    intro obj mem same
    exact live (List.any_eq_true.mpr ⟨obj, mem, by simp [same]⟩)

end Gnutls
