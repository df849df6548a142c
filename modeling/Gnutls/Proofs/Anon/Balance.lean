import Gnutls.Anon.Exchange

/-! What a completed anonymous exchange leaves allocated on each side. -/

namespace Gnutls

variable {hdr : Header} {o : Oracle}

/-- Releasing a big integer passes over one of another handle. -/
theorem erase_cons_of_ne {h h' v v' : Nat} {l : List Mpi} (differ : h ≠ h') :
    ((⟨h, v⟩ : Mpi) :: l).erase ⟨h', v'⟩ = ⟨h, v⟩ :: l.erase ⟨h', v'⟩ :=
  List.erase_cons_tail fun same => differ (congrArg Mpi.handle (beq_iff_eq.mp same))

/-- Copying the key changes the raw key bytes and nothing else. -/
theorem generateKey_fst (s : Session) :
    (generateKey o s).1 =
      { s with key := if o.secureMalloc then s.KEY.map fun k => mpiPrint k.value else none } := by
  unfold generateKey
  split <;> simp_all

/--
What a successful `gen_anon_server_kx` leaves allocated: the heap it found, and on top the
exponent it stored in `dh_secret`; the other fields are as they were.
-/
theorem genAnonServerKx_ok_heap {s s' : Session} {out : List UInt8 × Nat}
    (ok : genAnonServerKx hdr o s = (s', .ok out)) :
    ∃ x, s'.heap = ⟨s.heap.next + 4, ⟨s.heap.next + 2, x⟩ :: s.heap.live⟩ ∧
      s'.dhSecret = some ⟨s.heap.next + 2, x⟩ ∧ s'.clientP = s.clientP ∧ s'.clientG = s.clientG ∧
      s'.clientY = s.clientY ∧ s'.KEY = s.KEY := by
  obtain ⟨g, p, X, x, params, secret, -⟩ := genAnonServerKx_ok ok
  simp only [genAnonServerKx, Session.alloc, params, Heap.allocOpt_some] at ok
  split at ok
  · simp only [Prod.mk.injEq, reduceCtorEq, and_false] at ok
  rename_i auth
  obtain ⟨rfl, -⟩ := serverAuthInfo_ok auth
  cases malloc : o.mallocData <;>
    simp only [serverKxSecret, Session.alloc, secret, malloc, Heap.allocOpt_some, Bool.not_true,
      Bool.not_false, if_true, if_false, Prod.mk.injEq, reduceCtorEq, and_false] at ok
  obtain ⟨rfl, -⟩ := ok
  refine ⟨x, ?_, rfl, rfl, rfl, rfl, rfl⟩
  simp (disch := omega) only [Session.free, Session.set, Heap.release_some, erase_cons_of_ne,
    List.erase_cons_head]

/--
What a successful `proc_anon_client_kx` leaves allocated: the heap it found without the exponent
in `dh_secret`, with `dh_secret`, `client_Y` and `KEY` pointed at NULL.
-/
theorem procAnonClientKx_ok_heap {data : Nat → UInt8} {dataSize : Nat} {s s' : Session} {d : Mpi}
    (ok : procAnonClientKx hdr o data dataSize s = (s', .ok ())) (secret : s.dhSecret = some d)
    (older : d.handle < s.heap.next) :
    s'.heap.live = s.heap.live.erase d ∧ s'.dhSecret = none ∧ s'.clientY = none ∧ s'.KEY = none ∧
      s'.clientP = s.clientP ∧ s'.clientG = s.clientG := by
  obtain ⟨dh, dv⟩ := d
  dsimp only at older
  unfold procAnonClientKx at ok
  split at ok
  · simp only [Prod.mk.injEq, reduceCtorEq, and_false] at ok
  obtain ⟨g, p, k, params, derived, -⟩ := finishClientKx_ok ok
  rw [secret, Option.map_some'] at derived
  have scan : o.scanY = true := by
    cases unscanned : o.scanY
    · simp only [finishClientKx, unscanned, Bool.not_false, if_true, Prod.mk.injEq, reduceCtorEq,
        and_false] at ok
    · rfl
  cases p <;>
    simp only [finishClientKx, deriveClientKxKey, generateKey_fst, scan, params, derived, secret,
      Session.alloc, Session.set, Session.get, Heap.allocOpt_some, Heap.allocOpt_none, Option.map_some',
      Option.map_none', Bool.not_true, Bool.false_eq_true, if_true, if_false, reduceIte, reduceCtorEq,
      Prod.mk.injEq] at ok
  all_goals obtain ⟨rfl, -⟩ := ok
  all_goals refine ⟨?_, rfl, rfl, rfl, rfl, rfl⟩
  all_goals simp only [Session.release, Session.set, Session.get, Session.free, reduceCtorEq,
    if_true, if_false, Heap.release_some, Heap.release_none]
  all_goals simp (disch := omega) only [erase_cons_of_ne, List.erase_cons_head]

/--
What a successful `proc_anon_server_kx` leaves allocated: the heap it found with Y, g and p on
top, held by `client_Y`, `client_g` and `client_p`.
-/
theorem procAnonServerKx_ok_heap {data : Nat → UInt8} {dataSize : Nat} {s s' : Session}
    (ok : procAnonServerKx hdr o data dataSize s = (s', .ok ())) :
    ∃ Y G P, s'.heap = ⟨s.heap.next + 3,
        ⟨s.heap.next + 2, P⟩ :: ⟨s.heap.next + 1, G⟩ :: ⟨s.heap.next, Y⟩ :: s.heap.live⟩ ∧
      s'.clientY = some ⟨s.heap.next, Y⟩ ∧ s'.clientG = some ⟨s.heap.next + 1, G⟩ ∧
      s'.clientP = some ⟨s.heap.next + 2, P⟩ ∧ s'.dhSecret = s.dhSecret ∧ s'.KEY = s.KEY := by
  unfold procAnonServerKx at ok
  split at ok
  · cases ok
  cases scanY : o.scanY <;> cases scanG : o.scanG <;> cases scanP : o.scanP <;>
    simp only [storeServerKx, scanY, scanG, scanP, Session.alloc, Heap.allocOpt_some, Bool.not_true,
      Bool.not_false, Bool.false_eq_true, if_false, if_true, Prod.mk.injEq, reduceCtorEq, and_false] at ok
  split at ok
  · simp at ok
  · rename_i checked auth
    obtain ⟨rfl, -⟩ := clientAuthInfo_ok auth
    obtain ⟨rfl, -⟩ := ok
    exact ⟨_, _, _, rfl, rfl, rfl, rfl, rfl, rfl⟩

/--
What a successful `gen_anon_client_kx` leaves allocated: the heap it found without what
`client_Y`, `client_p` and `client_g` held, and on top the private exponent, if
`gnutls_calc_dh_secret` handed one back.
-/
theorem genAnonClientKx_ok_heap {s s' : Session} {out : List UInt8 × Nat} {Y P G : Mpi}
    (ok : genAnonClientKx o s = (s', .ok out))
    (fields : s.clientY = some Y ∧ s.clientP = some P ∧ s.clientG = some G)
    (older : Y.handle < s.heap.next ∧ P.handle < s.heap.next ∧ G.handle < s.heap.next) :
    s'.heap.live = ((o.calcDhSecret (some G.value) (some P.value)).2.map (⟨s.heap.next, ·⟩)).toList ++
        ((s.heap.live.erase Y).erase P).erase G ∧
      s'.clientY = none ∧ s'.clientP = none ∧ s'.clientG = none ∧ s'.KEY = none ∧ s'.dhSecret = s.dhSecret := by
  obtain ⟨yh, yv⟩ := Y
  obtain ⟨ph, pv⟩ := P
  obtain ⟨gh, gv⟩ := G
  obtain ⟨fy, fp, fg⟩ := fields
  obtain ⟨oy, op, og⟩ := older
  dsimp only at oy op og ⊢
  simp only [genAnonClientKx, fp, fg, Option.map_some'] at ok
  rcases secret : o.calcDhSecret (some gv) (some pv) with ⟨_ | X, _ | x⟩ <;>
    simp only [secret, Session.alloc, Heap.allocOpt_some, Heap.allocOpt_none, Prod.mk.injEq, reduceCtorEq,
      and_false] at ok
  -- The allocation of the message, the key and the copy of the key all succeeded.
  all_goals
    split at ok
    · simp only [Prod.mk.injEq, reduceCtorEq, and_false] at ok
    split at ok
    · simp only [Prod.mk.injEq, reduceCtorEq, and_false] at ok
    split at ok
    · simp only [Prod.mk.injEq, reduceCtorEq, and_false] at ok
    obtain ⟨rfl, -⟩ := Prod.mk.inj ok
  all_goals simp only [generateKey_fst, Session.release, Session.set, Session.free, Session.get, fy, fp, fg,
    reduceCtorEq, if_true, if_false, Heap.release_some, Option.map_some', Option.map_none', Option.toList_some,
    Option.toList_none, List.singleton_append, List.nil_append, and_self, and_true]
  all_goals simp (disch := omega) only [erase_cons_of_ne, List.erase_cons_head]

end Gnutls
