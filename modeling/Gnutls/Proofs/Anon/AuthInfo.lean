import Gnutls.Anon.Handshake
import Gnutls.Anon.Exchange

/-! What the four operations make of auth_info, its tag and its size, over every run of a session. -/

namespace Gnutls

/-- An auth_info tagged anon has the size of one of the two anon structures. -/
def AnonSized (hdr : Header) (s : Session) : Prop :=
  s.authInfo ≠ none → s.authInfoType = .anon →
    s.authInfoSize = hdr.sizeofAnonServerAuthInfo ∨ s.authInfoSize = hdr.sizeofAnonClientAuthInfo

variable {hdr : Header} {o : Oracle} {s : Session}

/-- The invariant reads auth_info, its tag and its size, and nothing else. -/
theorem AnonSized.of_auth {s' : Session} (sized : AnonSized hdr s) (info : s'.authInfo = s.authInfo)
    (type : s'.authInfoType = s.authInfoType) (size : s'.authInfoSize = s.authInfoSize) :
    AnonSized hdr s' := by
  unfold AnonSized
  rw [info, type, size]
  exact sized

/-- `gen_anon_server_kx` tags a new block as the server's anon info and keeps an old block's tag and size. -/
theorem genAnonServerKx_anonSized (sized : AnonSized hdr s) : AnonSized hdr (genAnonServerKx hdr o s).1 := by
  rcases @genAnonServerKx_auth hdr o s with ⟨info, type, size⟩ | ⟨p, -, type, size, -⟩
  · exact sized.of_auth info type size
  · intro _ anon
    by_cases fresh : s.authInfo = none
    · exact .inl (by simp only [size, fresh, if_true])
    · simp only [type, fresh, if_false] at anon
      simpa only [size, fresh, if_false] using sized fresh anon

/-- `proc_anon_server_kx` records the client's anon info or leaves auth_info as it was. -/
theorem procAnonServerKx_anonSized (sized : AnonSized hdr s) (data : Nat → UInt8) (dataSize : Nat) :
    AnonSized hdr (procAnonServerKx hdr o data dataSize s).1 := by
  rcases r : procAnonServerKx hdr o data dataSize s with ⟨s', _ | _⟩
  · obtain ⟨info, type, size, -⟩ := procAnonServerKx_error r
    exact sized.of_auth info type size
  · exact fun _ _ => .inr (procAnonServerKx_ok r).2.2.1

/-- Every step keeps every auth_info tagged anon at an anon size. -/
theorem kxStep_anonSized (sized : AnonSized hdr s) (call : KxCall) : AnonSized hdr (kxStep hdr s call).1 := by
  cases call with
  | genServer o => exact (kxStep_genServer hdr o s).1 ▸ genAnonServerKx_anonSized sized
  | procServer o message => exact procAnonServerKx_anonSized sized _ _
  | genClient o =>
    obtain ⟨info, type, size, -⟩ := genAnonClientKx_frame (o := o) s
    exact (kxStep_genClient hdr o s).1 ▸ sized.of_auth info type size
  | procClient o message =>
    obtain ⟨info, type, size, -⟩ := procAnonClientKx_frame (o := o) hdr (bufferOf message) message.length s
    exact sized.of_auth info type size
  | negotiate method => exact sized
  -- Another method's block carries that method's tag.
  | install code info size => exact fun _ anon => nomatch anon

/-- Every run keeps it. -/
theorem kxRun_anonSized (calls : List KxCall) (sized : AnonSized hdr s) : AnonSized hdr (kxRun hdr calls s) := by
  induction calls generalizing s with
  | nil => exact sized
  | cons call calls ih => exact ih (kxStep_anonSized sized call)

/-- A fresh session has no auth_info. -/
theorem init_anonSized (cred : Option AnonServerCredentials) (method : CredType) :
    AnonSized hdr (Session.init cred method) :=
  fun present => absurd rfl present

section Negotiated

variable (negotiated : s.authType = .anon)
include negotiated

/-- With anon negotiated, a successful `gen_anon_server_kx` leaves auth_info present and tagged anon. -/
theorem genAnonServerKx_tagged {out : List UInt8 × Nat} (ok : (genAnonServerKx hdr o s).2 = .ok out) :
    (genAnonServerKx hdr o s).1.authInfo ≠ none ∧ (genAnonServerKx hdr o s).1.authInfoType = .anon := by
  obtain ⟨_, _, _, _, -, -, -, -, -, -, -, info, type, -, compatible⟩ := genAnonServerKx_ok (Prod.ext rfl ok)
  refine ⟨by simp [info], ?_⟩
  rw [type]
  split_ifs with fresh
  · rfl
  · exact (compatible.resolve_left fresh).trans negotiated

variable (present : s.authInfo ≠ none) (foreign : s.authInfoType ≠ .anon)
include present foreign

/-- The tag check compares with the negotiated method, so it refuses a block of another method. -/
theorem foreign_refused : ¬(s.authInfo = none ∨ s.authInfoType = s.authType) := by
  rw [negotiated]
  exact fun compatible => compatible.elim present foreign

/-- With anon negotiated, `gen_anon_server_kx` fails on a block of another method and leaves it alone. -/
theorem genAnonServerKx_foreign :
    let r := genAnonServerKx hdr o s
    r.1.authInfo = s.authInfo ∧ r.1.authInfoType = s.authInfoType ∧ r.1.authInfoSize = s.authInfoSize ∧
      ∀ out, r.2 ≠ .ok out := by
  have refused := foreign_refused negotiated present foreign
  -- A step that wrote the block, or returned 0, passed the check.
  rcases @genAnonServerKx_auth hdr o s with ⟨info, type, size⟩ | ⟨-, -, -, -, compatible⟩
  · refine ⟨info, type, size, fun out ok => refused ?_⟩
    obtain ⟨-, -, -, -, -, -, -, -, -, -, -, -, -, -, compatible⟩ := genAnonServerKx_ok (Prod.ext rfl ok)
    exact compatible
  · exact absurd compatible refused

/-- With anon negotiated, `proc_anon_server_kx` fails on a block of another method and leaves it alone. -/
theorem procAnonServerKx_foreign (data : Nat → UInt8) (dataSize : Nat) :
    let r := procAnonServerKx hdr o data dataSize s
    r.1.authInfo = s.authInfo ∧ r.1.authInfoType = s.authInfoType ∧ r.1.authInfoSize = s.authInfoSize ∧
      r.2 ≠ .ok () := by
  rcases result : procAnonServerKx hdr o data dataSize s with ⟨s', _ | _⟩
  · obtain ⟨info, type, size, -⟩ := procAnonServerKx_error result
    exact ⟨info, type, size, nofun⟩
  · exact absurd (procAnonServerKx_ok result).2.2.2 (foreign_refused negotiated present foreign)

end Negotiated

end Gnutls
