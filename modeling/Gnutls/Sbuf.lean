import Mathlib.Algebra.Group.Nat.Basic
import Mathlib.Data.List.Basic

/-! The buffered writer of `sbuf.c`: writes gather in a buffer that `gnutls_record_send` drains. -/

namespace Gnutls

/-- What one call of `gnutls_record_send` answers. -/
inductive SendOutcome where
  /-- A negative code that `gnutls_error_is_fatal` calls non-fatal: the call is made again. -/
  | again
  /-- A fatal negative code, handed back to the caller. -/
  | fatal (code : Int)
  /-- The count of leading bytes the record layer took. -/
  | sent (count : Nat)
  deriving DecidableEq, Repr

/--
`gnutls_record_send` as the writer sees it: the answer to its `k`-th call, given the bytes offered.

It never takes more bytes than it is offered, and from a non-empty buffer it takes at least one.
-/
structure RecordSend where
  answer : Nat → List UInt8 → SendOutcome
  valid : ∀ k bytes count, answer k bytes = .sent count →
    count ≤ bytes.length ∧ (bytes ≠ [] → 0 < count)

/-- A `gnutls_sbuf_t` as the three operations see it. -/
structure Sbuf where
  /-- `sb->buf`: the `buf.length` bytes from `buf.data` on. -/
  buf : List UInt8
  /-- Whether `sb->flags` has `GNUTLS_SBUF_WRITE_FLUSHES`. -/
  writeFlushes : Bool
  deriving DecidableEq, Repr

/-- The record layer's side of the session: how many sends it has answered, and every byte it took, in order. -/
structure RecordLayer where
  calls : Nat
  accepted : List UInt8
  deriving DecidableEq, Repr

/-- How a send loop ended: its condition false with the bytes sent, a fatal error, or its budget spent. -/
inductive SendStatus where
  | done (total : Nat)
  | failed (code : Int)
  | running
  deriving DecidableEq, Repr

/--
The send loops of `gnutls_sbuf_write` (lines 519–532) and `gnutls_sbuf_flush` (lines 590–603):
while `more` holds of the buffer, offer it to `gnutls_record_send`, drop what was taken and add
that count to `total`.

A non-fatal error leaves the buffer as it was, so the loop condition still holds and repeating
the outer loop repeats the call, as the inner `do ... while` does. `fuel` bounds the calls.
-/
def sendLoop (rs : RecordSend) (more : List UInt8 → Bool) :
    Nat → Nat → Sbuf → RecordLayer → Sbuf × RecordLayer × SendStatus
  | 0, _, sb, layer => (sb, layer, .running)
  | fuel + 1, total, sb, layer =>
    if more sb.buf then
      match rs.answer layer.calls sb.buf with
      | .again => sendLoop rs more fuel total sb { layer with calls := layer.calls + 1 }
      | .fatal code => (sb, { layer with calls := layer.calls + 1 }, .failed code)
      | .sent count =>
        -- `sb->buf.data += ret; sb->buf.length -= ret;`
        sendLoop rs more fuel (total + count) { sb with buf := sb.buf.drop count }
          ⟨layer.calls + 1, layer.accepted ++ sb.buf.take count⟩
    else (sb, layer, .done total)

/-- Errors the writer returns: a failed allocation, or the fatal code of `gnutls_record_send`. -/
inductive SbufError where
  | memoryError
  | send (code : Int)
  deriving DecidableEq, Repr

/-- Where a call stands: returned with its result, or still sending when its budget ran out. -/
inductive SbufStatus where
  | returned (result : Except SbufError Nat)
  | running

/--
`gnutls_sbuf_write`: append the data, then, with `GNUTLS_SBUF_WRITE_FLUSHES`, send while at least
`MAX_RECORD_SEND_SIZE` bytes are buffered.

`appended` is whether `_gnutls_buffer_append_data` could make room; when it cannot, the buffer
is left as it was.
-/
def gnutlsSbufWrite (rs : RecordSend) (maxRecordSendSize : Nat) (appended : Bool)
    (data : List UInt8) (fuel : Nat) (sb : Sbuf) (layer : RecordLayer) :
    Sbuf × RecordLayer × SbufStatus :=
  if !appended then (sb, layer, .returned (.error .memoryError)) else
  let full := fun buf : List UInt8 => sb.writeFlushes && decide (maxRecordSendSize ≤ buf.length)
  let (sb, layer, status) := sendLoop rs full fuel 0 { sb with buf := sb.buf ++ data } layer
  (sb, layer, match status with
    | .done _ => .returned (.ok data.length)
    | .failed code => .returned (.error (.send code))
    | .running => .running)

/--
`gnutls_sbuf_printf`: the bytes `vasprintf` formatted, or `none` when it failed, written as by
`gnutls_sbuf_write`.
-/
def gnutlsSbufPrintf (rs : RecordSend) (maxRecordSendSize : Nat) (appended : Bool)
    (formatted : Option (List UInt8)) (fuel : Nat) (sb : Sbuf) (layer : RecordLayer) :
    Sbuf × RecordLayer × SbufStatus :=
  match formatted with
  | none => (sb, layer, .returned (.error .memoryError))
  | some str => gnutlsSbufWrite rs maxRecordSendSize appended str fuel sb layer

/-- `gnutls_sbuf_flush`: send until the buffer is empty, and return the count of bytes sent. -/
def gnutlsSbufFlush (rs : RecordSend) (fuel : Nat) (sb : Sbuf) (layer : RecordLayer) :
    Sbuf × RecordLayer × SbufStatus :=
  let (sb, layer, status) := sendLoop rs (fun buf => decide (0 < buf.length)) fuel 0 sb layer
  (sb, layer, match status with
    | .done total => .returned (.ok total)
    | .failed code => .returned (.error (.send code))
    | .running => .running)

/-- One call on a `gnutls_sbuf_t`, with what the collaborators outside the source answer to it. -/
inductive SbufCall where
  | write (appended : Bool) (data : List UInt8) (fuel : Nat)
  | printf (appended : Bool) (formatted : Option (List UInt8)) (fuel : Nat)
  | flush (fuel : Nat)

/-- The operation a call runs. -/
def sbufCall (rs : RecordSend) (maxRecordSendSize : Nat) :
    SbufCall → Sbuf → RecordLayer → Sbuf × RecordLayer × SbufStatus
  | .write appended data fuel => gnutlsSbufWrite rs maxRecordSendSize appended data fuel
  | .printf appended formatted fuel => gnutlsSbufPrintf rs maxRecordSendSize appended formatted fuel
  | .flush fuel => gnutlsSbufFlush rs fuel

/-- The calls made one after another on one `gnutls_sbuf_t`. -/
def sbufRun (rs : RecordSend) (maxRecordSendSize : Nat) :
    List SbufCall → Sbuf → RecordLayer → Sbuf × RecordLayer
  | [], sb, layer => (sb, layer)
  | call :: calls, sb, layer =>
    let (sb, layer, _) := sbufCall rs maxRecordSendSize call sb layer
    sbufRun rs maxRecordSendSize calls sb layer

/-- The bytes a call adds to the buffer: its data when the append succeeds, and nothing otherwise. -/
def SbufCall.appendedData : SbufCall → List UInt8
  | .write appended data _ => if appended then data else []
  | .printf appended (some str) _ => if appended then str else []
  | .printf _ none _ => []
  | .flush _ => []

end Gnutls
