import Gnutls.Sbuf

/-! The buffered writer hands the record layer every appended byte once, in order, and nothing else. -/

namespace Gnutls

variable {rs : RecordSend}

/-- A send loop moves bytes from the front of the buffer to the record layer, and keeps the flags. -/
theorem sendLoop_conserves (rs : RecordSend) (more : List UInt8 → Bool) (fuel total : Nat)
    (sb : Sbuf) (layer : RecordLayer) :
    let r := sendLoop rs more fuel total sb layer
    r.2.1.accepted ++ r.1.buf = layer.accepted ++ sb.buf ∧ r.1.writeFlushes = sb.writeFlushes := by
  induction fuel generalizing total sb layer with
  | zero => simp [sendLoop]
  | succ fuel ih =>
    simp only [sendLoop]
    split
    · split
      · exact ih _ _ _
      · simp
      · -- What was taken joins the record layer's bytes, and the rest stays buffered.
        rename_i count _
        obtain ⟨moved, flags⟩ := ih (total + count) { sb with buf := sb.buf.drop count }
          ⟨layer.calls + 1, layer.accepted ++ sb.buf.take count⟩
        exact ⟨by rw [moved, List.append_assoc, List.take_append_drop], flags⟩
    · simp

/-- A send loop that ends with its condition false has added to `total` exactly the bytes the record layer took. -/
theorem sendLoop_done {more : List UInt8 → Bool} {fuel total total' : Nat} {sb sb' : Sbuf}
    {layer layer' : RecordLayer} (ended : sendLoop rs more fuel total sb layer = (sb', layer', .done total')) :
    more sb'.buf = false ∧ total' + layer.accepted.length = total + layer'.accepted.length := by
  induction fuel generalizing total sb layer with
  | zero => simp [sendLoop] at ended
  | succ fuel ih =>
    simp only [sendLoop] at ended
    split at ended
    · split at ended
      · simpa using ih ended
      · simp at ended
      · -- The record layer took `count` bytes, all of them from the buffer.
        rename_i count answered
        have within := (rs.valid _ _ _ answered).1
        have step := (ih ended).2
        simp only [List.length_append, List.length_take, Nat.min_eq_left within] at step
        exact ⟨(ih ended).1, by omega⟩
    · simp only [Prod.mk.injEq, SendStatus.done.injEq] at ended
      obtain ⟨rfl, rfl, rfl⟩ := ended
      simp_all

/-- A successful flush empties the buffer and returns the count of bytes the record layer took, which are the buffer's. -/
theorem gnutlsSbufFlush_ok {fuel total : Nat} {sb sb' : Sbuf} {layer layer' : RecordLayer}
    (flushed : gnutlsSbufFlush rs fuel sb layer = (sb', layer', .returned (.ok total))) :
    sb'.buf = [] ∧ layer'.accepted = layer.accepted ++ sb.buf ∧ total = sb.buf.length := by
  have moved := (sendLoop_conserves rs (fun buf => decide (0 < buf.length)) fuel 0 sb layer).1
  unfold gnutlsSbufFlush at flushed
  rcases loop : sendLoop rs (fun buf => decide (0 < buf.length)) fuel 0 sb layer with
    ⟨sb₁, layer₁, _ | code | _⟩ <;> simp only [loop, Prod.mk.injEq] at flushed moved <;>
    obtain ⟨rfl, rfl, ended⟩ := flushed <;> simp only [SbufStatus.returned.injEq, Except.ok.injEq,
      reduceCtorEq] at ended
  subst ended
  -- The loop stopped on an empty buffer, having sent all of it.
  obtain ⟨stopped, count⟩ := sendLoop_done loop
  have empty : sb₁.buf = [] := by simpa using stopped
  rw [empty, List.append_nil] at moved
  refine ⟨empty, moved, ?_⟩
  rw [moved, List.length_append] at count
  omega

/-- A successful write returns the length of its data and, with `GNUTLS_SBUF_WRITE_FLUSHES`, leaves less than a record buffered. -/
theorem gnutlsSbufWrite_ok {maxRecordSendSize fuel n : Nat} {appended : Bool} {data : List UInt8}
    {sb sb' : Sbuf} {layer layer' : RecordLayer}
    (written : gnutlsSbufWrite rs maxRecordSendSize appended data fuel sb layer =
      (sb', layer', .returned (.ok n))) :
    n = data.length ∧ (sb.writeFlushes = true → sb'.buf.length < maxRecordSendSize) := by
  cases appended
  · simp [gnutlsSbufWrite] at written
  · unfold gnutlsSbufWrite at written
    rcases loop : sendLoop rs (fun buf => sb.writeFlushes && decide (maxRecordSendSize ≤ buf.length))
      fuel 0 { sb with buf := sb.buf ++ data } layer with ⟨sb₁, layer₁, _ | code | _⟩ <;>
      simp only [loop, Bool.not_true, Bool.false_eq_true, if_false, Prod.mk.injEq] at written <;>
      obtain ⟨rfl, rfl, ended⟩ := written <;>
      simp only [SbufStatus.returned.injEq, Except.ok.injEq, reduceCtorEq] at ended
    refine ⟨ended.symm, fun flushes => ?_⟩
    -- The loop stopped, so with the flag set the buffer fell below a record.
    have stopped := (sendLoop_done loop).1
    simp only [flushes, Bool.true_and, decide_eq_false_iff_not, Nat.not_le] at stopped
    exact stopped

/-- Every call adds its appended data behind what the record layer took and what is still buffered. -/
theorem sbufCall_conserves (maxRecordSendSize : Nat) (call : SbufCall) (sb : Sbuf)
    (layer : RecordLayer) :
    let r := sbufCall rs maxRecordSendSize call sb layer
    r.2.1.accepted ++ r.1.buf = layer.accepted ++ sb.buf ++ call.appendedData := by
  -- A write that appended runs its loop on the longer buffer; every other path leaves both alone.
  have write : ∀ appended data fuel,
      let r := gnutlsSbufWrite rs maxRecordSendSize appended data fuel sb layer
      r.2.1.accepted ++ r.1.buf = layer.accepted ++ sb.buf ++ if appended then data else [] := by
    intro appended data fuel
    cases appended
    · simp [gnutlsSbufWrite]
    · simpa [gnutlsSbufWrite, List.append_assoc] using
        (sendLoop_conserves rs _ fuel 0 { sb with buf := sb.buf ++ data } layer).1
  cases call with
  | write appended data fuel => exact write appended data fuel
  | printf appended formatted fuel =>
    cases formatted with
    | none => simp [sbufCall, gnutlsSbufPrintf, SbufCall.appendedData]
    | some str => exact write appended str fuel
  | flush fuel =>
    simpa [sbufCall, gnutlsSbufFlush, SbufCall.appendedData] using
      (sendLoop_conserves rs _ fuel 0 sb layer).1

/-- Over a run of calls, the record layer's bytes and the buffer together are the appended data, in call order. -/
theorem sbufRun_conserves (maxRecordSendSize : Nat) (calls : List SbufCall) (sb : Sbuf)
    (layer : RecordLayer) :
    let r := sbufRun rs maxRecordSendSize calls sb layer
    r.2.accepted ++ r.1.buf = layer.accepted ++ sb.buf ++ (calls.map SbufCall.appendedData).flatten := by
  induction calls generalizing sb layer with
  | nil => simp [sbufRun]
  | cons call calls ih =>
    simp only [sbufRun, ih, sbufCall_conserves, List.map_cons, List.flatten_cons, List.append_assoc]

/--
The buffered writer loses, duplicates and reorders nothing, whatever the record layer answers:
over every run of writes, printfs and flushes, what the record layer took followed by what is
still buffered is the data of every call whose append succeeded, in call order; a successful
flush sends exactly the buffer, empties it and returns its length; and a successful write or
printf with `GNUTLS_SBUF_WRITE_FLUSHES` leaves less than `MAX_RECORD_SEND_SIZE` bytes buffered.
-/
theorem sbuf_delivers_in_order (rs : RecordSend) (maxRecordSendSize : Nat) :
    (∀ calls sb layer, let r := sbufRun rs maxRecordSendSize calls sb layer
      r.2.accepted ++ r.1.buf = layer.accepted ++ sb.buf ++ (calls.map SbufCall.appendedData).flatten) ∧
    (∀ fuel sb layer sb' layer' total,
      gnutlsSbufFlush rs fuel sb layer = (sb', layer', .returned (.ok total)) →
        layer'.accepted = layer.accepted ++ sb.buf ∧ total = sb.buf.length ∧ sb'.buf = []) ∧
    (∀ appended data fuel sb layer sb' layer' n, sb.writeFlushes = true →
      (gnutlsSbufWrite rs maxRecordSendSize appended data fuel sb layer =
          (sb', layer', .returned (.ok n)) →
        sb'.buf.length < maxRecordSendSize)) ∧
    (∀ appended formatted fuel sb layer sb' layer' n, sb.writeFlushes = true →
      (gnutlsSbufPrintf rs maxRecordSendSize appended formatted fuel sb layer =
          (sb', layer', .returned (.ok n)) →
        sb'.buf.length < maxRecordSendSize)) := by
  refine ⟨sbufRun_conserves maxRecordSendSize, fun fuel sb layer sb' layer' total flushed => ?_,
    fun appended data fuel sb layer sb' layer' n flushes written =>
      (gnutlsSbufWrite_ok written).2 flushes, fun appended formatted fuel sb layer sb' layer' n flushes written => ?_⟩
  · obtain ⟨empty, moved, count⟩ := gnutlsSbufFlush_ok flushed
    exact ⟨moved, count, empty⟩
  · cases formatted with
    | none => simp [gnutlsSbufPrintf] at written
    | some str => exact (gnutlsSbufWrite_ok written).2 flushes

/-- A record layer that answers every other call with a non-fatal error and otherwise takes at most three bytes. -/
def slowRecordSend : RecordSend where
  answer k bytes := if k % 2 = 0 then .again else .sent (min 3 bytes.length)
  valid k bytes count answered := by
    dsimp only at answered
    split at answered
    · cases answered
    · cases answered
      exact ⟨Nat.min_le_right _ _, fun present => by
        have := List.length_pos.mpr present
        omega⟩

/-- Flushing five bytes through it takes four calls, and sends and returns all five. -/
theorem sbuf_delivers_in_order_flush :
    let r := gnutlsSbufFlush slowRecordSend 10 ⟨[1, 2, 3, 4, 5], false⟩ ⟨0, []⟩
    r.2.2 = .returned (.ok 5) ∧ r.2.1.accepted = [1, 2, 3, 4, 5] ∧ r.1.buf = [] :=
  have flushed := (sbuf_delivers_in_order slowRecordSend 4).2.1 10 ⟨[1, 2, 3, 4, 5], false⟩ ⟨0, []⟩ ⟨[], false⟩
    ⟨4, [1, 2, 3, 4, 5]⟩ 5 rfl
  ⟨rfl, flushed.1, flushed.2.2⟩

/--
A send loop whose condition holds only of a non-empty buffer, on a record layer that never asks
for a retry, returns within one call per buffered byte.
-/
theorem sendLoop_returns (noRetry : ∀ k bytes, rs.answer k bytes ≠ .again) {more : List UInt8 → Bool}
    (nonempty : ∀ buf, more buf = true → buf ≠ []) {fuel total : Nat} {sb : Sbuf} {layer : RecordLayer}
    (enough : sb.buf.length < fuel) : (sendLoop rs more fuel total sb layer).2.2 ≠ .running := by
  induction fuel generalizing total sb layer with
  | zero => omega
  | succ fuel ih =>
    simp only [sendLoop]
    split
    · rename_i sending
      split
      · exact absurd ‹_› (noRetry _ _)
      · exact nofun
      · -- The record layer took at least one byte, so less is left than there is fuel.
        rename_i count answered
        obtain ⟨within, took⟩ := rs.valid _ _ _ answered
        have moved := took (nonempty _ sending)
        exact ih (by simp only [List.length_drop]; omega)
    · exact nofun

/--
On a record layer that never asks for a retry, `gnutls_sbuf_flush` returns within one call per
buffered byte, and `gnutls_sbuf_write` within one call per byte buffered after the append.
-/
theorem sbuf_returns (rs : RecordSend) (maxRecordSendSize : Nat) (positive : 0 < maxRecordSendSize)
    (noRetry : ∀ k bytes, rs.answer k bytes ≠ .again) :
    (∀ fuel sb layer, sb.buf.length < fuel → (gnutlsSbufFlush rs fuel sb layer).2.2 ≠ .running) ∧
    (∀ appended data fuel sb layer, sb.buf.length + data.length < fuel →
      (gnutlsSbufWrite rs maxRecordSendSize appended data fuel sb layer).2.2 ≠ .running) := by
  refine ⟨fun fuel sb layer enough => ?_, fun appended data fuel sb layer enough => ?_⟩
  · -- The flush loop runs only on a non-empty buffer.
    have returned : (sendLoop rs (fun buf => decide (0 < buf.length)) fuel 0 sb layer).2.2 ≠ .running :=
      sendLoop_returns noRetry (fun buf sending => List.ne_nil_of_length_pos (of_decide_eq_true sending))
        enough
    unfold gnutlsSbufFlush
    rcases loop : sendLoop rs (fun buf => decide (0 < buf.length)) fuel 0 sb layer with ⟨_, _, _ | _ | _⟩ <;>
      simp only [loop] at returned ⊢
    · exact SbufStatus.noConfusion
    · exact SbufStatus.noConfusion
    · exact (returned rfl).elim
  · -- With the flag set the write loop runs only while a whole record is buffered, so never on an empty buffer.
    have returned : (sendLoop rs (fun buf => sb.writeFlushes && decide (maxRecordSendSize ≤ buf.length)) fuel 0
        { sb with buf := sb.buf ++ data } layer).2.2 ≠ .running :=
      sendLoop_returns noRetry (fun buf sending => List.ne_nil_of_length_pos (by
        simp only [Bool.and_eq_true, decide_eq_true_eq] at sending
        omega)) (by simp only [List.length_append]; omega)
    cases appended
    · exact SbufStatus.noConfusion
    unfold gnutlsSbufWrite
    rcases loop : sendLoop rs (fun buf => sb.writeFlushes && decide (maxRecordSendSize ≤ buf.length)) fuel 0
      { sb with buf := sb.buf ++ data } layer with ⟨_, _, _ | _ | _⟩ <;>
      simp only [loop, Bool.not_true, Bool.false_eq_true, if_false] at returned ⊢
    · exact SbufStatus.noConfusion
    · exact SbufStatus.noConfusion
    · exact (returned rfl).elim

/-- A record layer that takes every byte it is offered. -/
def wholeRecordSend : RecordSend where
  answer _ bytes := .sent bytes.length
  valid _ bytes count answered := by
    cases answered
    exact ⟨le_rfl, fun present => List.length_pos.mpr present⟩

/-- Flushing three bytes through it with a budget of four calls returns. -/
theorem sbuf_returns_whole :
    (gnutlsSbufFlush wholeRecordSend 4 ⟨[1, 2, 3], false⟩ ⟨0, []⟩).2.2 ≠ .running :=
  (sbuf_returns wholeRecordSend 16384 (by decide) fun _ _ => SendOutcome.noConfusion).1 4 _ _ (by decide)

end Gnutls
