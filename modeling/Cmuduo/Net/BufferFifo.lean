import Cmuduo.Lib.Machine
import Cmuduo.Net.Buffer

set_option autoImplicit false

namespace Cmuduo.Net

open Machine

inductive BufferOp where
  | append (data : List UInt8)
  | ensureWriteableBytes (len : Nat)
  | retrieve (len : Nat)
  | retrieveAll
  | retrieveAllAsString
  | retrieveAsString (len : Nat)

namespace BufferOp

def input : BufferOp → List UInt8
  | .append data => data
  | _ => []

-- The bytes a call takes out, with the buffer it leaves. retrieve and
-- retrieveAll return nothing; they count as taking out what they drop.
def call (b : Buffer) : BufferOp → Except Stop (List UInt8 × Buffer)
  | .append data => (b.append data).map fun next => ([], next)
  | .ensureWriteableBytes len => (b.ensureWriteableBytes len).map fun next => ([], next)
  | .retrieve len => .ok (b.readable.take (min len b.readableBytes), b.retrieve len)
  | .retrieveAll => .ok (b.readable, b.retrieveAll)
  | .retrieveAllAsString => b.retrieveAllAsString
  | .retrieveAsString len => b.retrieveAsString len

-- No requested length wraps size_t, and no string longer than the readable
-- region is asked for.
def Fits (b : Buffer) : BufferOp → Prop
  | .append data => data.length + b.writeIndex < 2 ^ 64
  | .ensureWriteableBytes len => len + b.writeIndex < 2 ^ 64
  | .retrieveAsString len => len ≤ b.readableBytes
  | _ => True

instance (b : Buffer) (op : BufferOp) : Decidable (op.Fits b) := by
  unfold Fits
  split <;> infer_instance

end BufferOp

structure BufferHistory where
  buffer : Buffer
  appended : List UInt8
  retrieved : List UInt8

namespace BufferHistory

def fresh (initiaSize : Nat) : BufferHistory := ⟨Buffer.new initiaSize, [], []⟩

-- A length_error is thrown before anything has changed, so the caller can go
-- on with the same buffer. After an undefined access there is no next state.
def step (h : BufferHistory) (op : BufferOp) : Option BufferHistory :=
  match op.call h.buffer with
  | .ok (out, next) => some ⟨next, h.appended ++ op.input, h.retrieved ++ out⟩
  | .error .lengthError => some h
  | .error .badAccess => none
  | .error .fatalExit => none

def Fits (h : BufferHistory) (op : BufferOp) : Prop := op.Fits h.buffer

instance (h : BufferHistory) (op : BufferOp) : Decidable (h.Fits op) :=
  inferInstanceAs (Decidable (op.Fits h.buffer))

structure Fifo (h : BufferHistory) : Prop where
  valid : h.buffer.Valid
  order : h.retrieved ++ h.buffer.readable = h.appended

theorem fresh_fifo (initiaSize : Nat) : (fresh initiaSize).Fifo :=
  ⟨Buffer.new_valid initiaSize, Buffer.new_readable initiaSize⟩

end BufferHistory

-- A call in a valid buffer keeps the byte order: what it takes out and what it
-- leaves are what was there and what it put in.
structure BufferOp.Ordered (b : Buffer) (op : BufferOp) (out : List UInt8) (next : Buffer) : Prop where
  valid : next.Valid
  bytes : out ++ next.readable = b.readable ++ op.input

theorem call_outcome (b : Buffer) (op : BufferOp) (valid : b.Valid) (fits : op.Fits b) :
    op.call b = .error .lengthError ∨ ∃ out next, op.call b = .ok (out, next) ∧ op.Ordered b out next := by
  cases op with
  | append data =>
      rcases b.append_outcome data valid fits with thrown | ⟨next, done, nextValid, bytes⟩
      · exact .inl (by rw [BufferOp.call, thrown]; rfl)
      · exact .inr ⟨[], next, by rw [BufferOp.call, done]; rfl, nextValid, bytes⟩
  | ensureWriteableBytes len =>
      rcases b.ensure_outcome len valid fits with thrown | ⟨next, done, nextValid, bytes, _⟩
      · exact .inl (by rw [BufferOp.call, thrown]; rfl)
      · exact .inr ⟨[], next, by rw [BufferOp.call, done]; rfl, nextValid, by simpa [BufferOp.input] using bytes⟩
  | retrieve len =>
      refine .inr ⟨_, _, rfl, b.retrieve_valid len valid, ?_⟩
      change _ = b.readable ++ []
      rw [b.retrieve_readable len valid, ← b.readable_length valid, List.append_nil, Nat.min_comm,
        ← List.take_take, List.take_of_length_le (by rw [List.length_take]; omega)]
      exact List.take_append_drop len b.readable
  | retrieveAll =>
      refine .inr ⟨_, _, rfl, b.retrieve_all_valid valid, ?_⟩
      change b.readable ++ b.retrieveAll.readable = b.readable ++ []
      rw [b.retrieve_all_readable]
  | retrieveAllAsString =>
      refine .inr ⟨_, _, b.retrieve_as_string_ok _ valid (Nat.le_refl _), b.retrieve_valid _ valid, ?_⟩
      change _ = b.readable ++ []
      rw [b.retrieve_readable _ valid, List.take_append_drop, List.append_nil]
  | retrieveAsString len =>
      refine .inr ⟨_, _, b.retrieve_as_string_ok len valid fits, b.retrieve_valid _ valid, ?_⟩
      change _ = b.readable ++ []
      rw [b.retrieve_readable _ valid, List.take_append_drop, List.append_nil]

theorem fifo_step (h t : BufferHistory) (op : BufferOp) (fifo : h.Fifo) (fits : h.Fits op)
    (taken : h.step op = some t) : t.Fifo := by
  rcases call_outcome h.buffer op fifo.valid fits with thrown | ⟨out, next, done, ordered⟩
  · rw [BufferHistory.step, thrown] at taken
    cases taken
    exact fifo
  · rw [BufferHistory.step, done] at taken
    cases taken
    refine ⟨ordered.valid, ?_⟩
    calc (h.retrieved ++ out) ++ next.readable
        = h.retrieved ++ (out ++ next.readable) := List.append_assoc _ _ _
      _ = h.retrieved ++ (h.buffer.readable ++ op.input) := by rw [ordered.bytes]
      _ = h.appended ++ op.input := by rw [← List.append_assoc, fifo.order]

theorem buffer_is_byte_fifo (initiaSize : Nat) (ops : List BufferOp) (h : BufferHistory)
    (allowed : Guarded BufferHistory.step BufferHistory.Fits (.fresh initiaSize) ops)
    (ran : run BufferHistory.step (.fresh initiaSize) ops = some h) :
    (kCheapPrepend ≤ h.buffer.readerIndex ∧ h.buffer.readerIndex ≤ h.buffer.writeIndex ∧
      h.buffer.writeIndex ≤ h.buffer.buffer.length) ∧
    h.retrieved ++ h.buffer.readable = h.appended ∧
    (∀ op, h.Fits op → op.call h.buffer ≠ .error .badAccess) ∧
    (∀ len next, len + h.buffer.writeIndex < 2 ^ 64 → h.buffer.ensureWriteableBytes len = .ok next →
      len ≤ next.writableBytes ∧ next.readable = h.buffer.readable) := by
  have fifo : h.Fifo := guarded_invariant BufferHistory.step BufferHistory.Fits BufferHistory.Fifo
    (fun s op t => fifo_step s t op) _ _ ops (BufferHistory.fresh_fifo initiaSize) allowed ran
  refine ⟨⟨fifo.valid.prepend, fifo.valid.ordered, fifo.valid.inside⟩, fifo.order, ?_, ?_⟩
  · intro op fits
    rcases call_outcome h.buffer op fifo.valid fits with thrown | ⟨out, next, done, _⟩
    · simp [thrown]
    · simp [done]
  · intro len next fits done
    rcases h.buffer.ensure_outcome len fifo.valid fits with thrown | ⟨other, same, _, kept, space⟩
    · rw [thrown] at done
      cases done
    · rw [same] at done
      cases done
      exact ⟨space, kept⟩

-- A partly read buffer that is appended to past its end, so that it compacts.
def sampleOps : List BufferOp :=
  [.append (List.replicate 1000 7), .retrieve 990, .append (List.replicate 100 9), .retrieveAsString 5]

theorem buffer_is_byte_fifo_sample :
    ∃ h, run BufferHistory.step (.fresh 0) sampleOps = some h ∧
      h.retrieved ++ h.buffer.readable = h.appended ∧ h.buffer.readable.length = 105 := by
  have allowed : Guarded BufferHistory.step BufferHistory.Fits (.fresh 0) sampleOps := by decide +kernel
  have finished : (run BufferHistory.step (.fresh 0) sampleOps).isSome := by decide +kernel
  obtain ⟨h, ran⟩ := Option.isSome_iff_exists.mp finished
  refine ⟨h, ran, (buffer_is_byte_fifo 0 sampleOps h allowed ran).2.1, ?_⟩
  have count : (run BufferHistory.step (.fresh 0) sampleOps).map (·.buffer.readable.length) = some 105 := by
    decide +kernel
  rw [ran] at count
  exact Option.some.inj count

end Cmuduo.Net
