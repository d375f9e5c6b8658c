import Cmuduo.Net.ScatterRead

set_option autoImplicit false

namespace Cmuduo.Net

open Machine Region Throwing

namespace Buffer

-- retrieveAsString(len) hands out just what retrieve(len) removes, and reads no
-- byte that lies behind the write index: it also ends well in a vector that ends
-- there.
structure Conserves (b : Buffer) (len : Nat) : Prop where
  bytes : ∃ out, b.retrieveAsString len = .ok (out, b.retrieve len) ∧ out ++ (b.retrieve len).readable = b.readable
  inside : { b with buffer := b.buffer.take b.writeIndex }.retrieveAsString len ≠ .error .badAccess

theorem readable_length_le (b : Buffer) : b.readable.length ≤ b.writeIndex - b.readerIndex := by
  rw [readable, slice, List.length_drop, List.length_take]
  omega

theorem retrieve_as_string_returns (b : Buffer) (out : List UInt8) (len : Nat)
    (done : b.retrieveAsString len = .ok (out, b.retrieve len)) :
    b.readerIndex + len ≤ b.buffer.length ∧ out.length = len := by
  by_cases large : maxSize < len
  · rw [retrieveAsString, if_pos large] at done
    cases done
  · rw [retrieveAsString, if_neg large] at done
    by_cases within : b.readerIndex + len ≤ b.buffer.length
    · rw [read_out_ok _ _ _ within] at done
      simp only [Except.ok.injEq, Prod.mk.injEq, and_true] at done
      rw [← done, slice_length _ _ _ within]
      exact ⟨within, Nat.add_sub_cancel_left _ _⟩
    · rw [readOut, if_neg within] at done
      cases done

theorem retrieve_as_string_within (b : Buffer) (len : Nat) (small : len ≤ maxSize)
    (within : b.readerIndex + len ≤ b.buffer.length) :
    b.retrieveAsString len = .ok (slice b.buffer b.readerIndex (b.readerIndex + len), b.retrieve len) := by
  rw [retrieveAsString, if_neg (Nat.not_lt.mpr small), read_out_ok _ _ _ within]

theorem conserves_iff (b : Buffer) (len : Nat) (indexed : Indexed b) :
    b.Conserves len ↔ len ≤ b.readableBytes ∧ b.readerIndex + len ≤ b.buffer.length := by
  have count := indexed_readable_bytes b indexed
  have ordered := indexed.ordered
  have addressable := indexed.addressable
  constructor
  · rintro ⟨⟨out, done, bytes⟩, -⟩
    obtain ⟨within, size⟩ := b.retrieve_as_string_returns out len done
    have total := congrArg List.length bytes
    have most := b.readable_length_le
    rw [List.length_append] at total
    exact ⟨by omega, within⟩
  · rintro ⟨short, within⟩
    have small : len ≤ maxSize := by omega
    refine ⟨⟨_, b.retrieve_as_string_within len small within, ?_⟩, ?_⟩
    · by_cases some : len < b.readableBytes
      · have index : sizeAdd b.readerIndex len = b.readerIndex + len :=
          size_add_exact _ _ (by unfold maxSize at addressable; omega)
        rw [retrieve, if_pos some, index]
        exact (slice_split b.buffer b.readerIndex (b.readerIndex + len) b.writeIndex (by omega) (by omega)).symm
      · have whole : b.readerIndex + len = b.writeIndex := by omega
        rw [retrieve, if_neg some, retrieve_all_readable, List.append_nil, whole, readable]
    · rw [retrieve_as_string_within _ len small (by dsimp only; rw [List.length_take]; omega)]
      exact fun stop => by cases stop

-- ensureWriteableBytes(len) throws and changes nothing, or makes the room and
-- changes no readable byte.
def SafeRequest (b : Buffer) (len : Nat) : Prop :=
  match ensureWriteableBytesCall len b with
  | .ok _ next =>
      len ≤ next.writableBytes ∧ next.readable = b.readable ∧ next.readerIndex ≤ next.writeIndex ∧
        next.writeIndex ≤ next.buffer.length
  | .error .lengthError left => left = b
  | .error _ _ => False

theorem safe_request_exact (b : Buffer) (len : Nat) (valid : b.Valid) (fits : len + b.writeIndex < 2 ^ 64) :
    b.SafeRequest len := by
  rw [SafeRequest, ensure_call]
  rcases b.ensure_outcome len valid fits with thrown | ⟨next, done, nextValid, kept, room⟩
  · rw [thrown]
  · rw [done]
    exact ⟨room, kept, nextValid.ordered, nextValid.inside⟩

-- Once the sum with the write index wraps, a resized vector ends before the write
-- index, and a compacted one has no more room than the whole vector.
theorem ensure_wraps (b : Buffer) (len : Nat) (valid : b.Valid) (size : len < 2 ^ 64)
    (wraps : 2 ^ 64 ≤ len + b.writeIndex) :
    b.ensureWriteableBytes len ≠ .error .lengthError ∧
    ∀ next, b.ensureWriteableBytes len = .ok next →
      next.writeIndex ≤ next.buffer.length → next.writableBytes < len := by
  have writable := writable_bytes_exact b valid
  have inside := valid.inside
  have bounded := valid.bounded
  unfold maxSize at bounded
  have target : sizeAdd len b.writeIndex = len + b.writeIndex - 2 ^ 64 := by
    rw [sizeAdd]
    omega
  have short : b.writableBytes < len := by omega
  rw [ensureWriteableBytes, if_pos short, makeSpace, target]
  split
  · cases resized : vectorResize b.buffer (len + b.writeIndex - 2 ^ 64) with
    | ok shorter =>
        refine ⟨(fun thrown => by cases thrown), fun next done whole => ?_⟩
        cases done
        obtain ⟨length, -⟩ := resize_length _ shorter _ resized
        have cut : b.writeIndex ≤ shorter.length := whole
        omega
    | error stop =>
        have small : ¬maxSize < len + b.writeIndex - 2 ^ 64 := by
          unfold maxSize
          omega
        rw [vectorResize, if_neg small] at resized
        cases resized
  · cases compacted : copyWithin b.buffer b.readerIndex b.writeIndex kCheapPrepend with
    | ok moved =>
        refine ⟨(fun thrown => by cases thrown), fun next done whole => ?_⟩
        cases done
        obtain ⟨-, length⟩ := copy_within_inside _ moved _ _ _ compacted
        rw [writableBytes, size_sub_exact _ _ whole (by rw [length]; omega), length]
        omega
    | error stop =>
        refine ⟨fun thrown => ?_, fun next done => by cases done⟩
        simp only [Except.error.injEq] at thrown
        rw [thrown] at compacted
        exact copy_within_throws_not _ _ _ _ compacted

theorem safe_request_iff (b : Buffer) (len : Nat) (valid : b.Valid) (size : len < 2 ^ 64) :
    b.SafeRequest len ↔ len + b.writeIndex < 2 ^ 64 := by
  constructor
  · intro safe
    by_contra wraps
    obtain ⟨throwsNot, cut⟩ := b.ensure_wraps len valid size (Nat.not_lt.mp wraps)
    rw [SafeRequest, ensure_call] at safe
    cases ensured : b.ensureWriteableBytes len with
    | ok next =>
        rw [ensured] at safe
        obtain ⟨room, -, -, whole⟩ := safe
        exact Nat.not_lt.mpr room (cut next ensured whole)
    | error stop =>
        rw [ensured] at safe throwsNot
        cases stop with
        | lengthError => exact throwsNot rfl
        | _ => exact safe
  · exact b.safe_request_exact len valid

end Buffer

namespace BufferCall

-- The length that a call hands to ensureWriteableBytes.
def requested : BufferCall → Option Nat
  | .ensureWriteableBytes len => some len.toNat
  | .append data => some data.bytes.length
  | _ => none

theorem requested_size (call : BufferCall) (len : Nat) (asked : call.requested = some len) : len < 2 ^ 64 := by
  cases call with
  | ensureWriteableBytes size =>
      cases asked
      exact size.toNat_lt
  | append data =>
      cases asked
      have bound := data.fits
      unfold maxSize at bound
      omega
  | _ => cases asked

end BufferCall

namespace Buffer

def SafeCall (b : Buffer) (call : BufferCall) : Prop := ∀ len ∈ call.requested, b.SafeRequest len

def NoWrap (b : Buffer) (call : BufferCall) : Prop := ∀ len ∈ call.requested, len + b.writeIndex < 2 ^ 64

instance (b : Buffer) (call : BufferCall) : Decidable (b.NoWrap call) :=
  inferInstanceAs (Decidable (∀ len ∈ call.requested, len + b.writeIndex < 2 ^ 64))

theorem step_valid (b next : Buffer) (call : BufferCall) (valid : b.Valid) (noWrap : b.NoWrap call)
    (taken : b.callStep call = some next) : next.Valid := by
  cases step_leaves b next call taken with
  | same => exact valid
  | all => exact retrieve_all_valid b valid
  | some _ len => exact retrieve_valid b len valid
  | ensured len _ done =>
      rcases b.ensure_outcome len.toNat valid (noWrap _ rfl) with thrown | ⟨grown, ensured, kept, -⟩
      · rw [thrown] at done
        cases done
      · rw [ensured] at done
        cases done
        exact kept
  | appended data _ done =>
      rcases b.append_outcome data.bytes valid (noWrap _ rfl) with thrown | ⟨grown, appended, kept, -⟩
      · rw [thrown] at done
        cases done
      · rw [appended] at done
        cases done
        exact kept
  | read result n _ done =>
      cases result with
      | error errno =>
          rw [read_fd_error] at done
          cases done
          exact valid
      | arrived bytes =>
          rcases b.read_fd_arrived bytes valid with ⟨after, read, kept, -⟩ | ⟨thrown, -⟩
          · rw [read] at done
            cases done
            exact kept
          · rw [thrown] at done
            cases done
  | pushed result stored size inside =>
      exact
        { prepend := valid.prepend
          ordered := by
            rw [size]
            exact Nat.le_trans valid.ordered inside
          inside := Nat.le_refl _
          bounded := by
            rw [size]
            exact valid.bounded }

end Buffer

theorem retrieve_as_string_conserves (initiaSize : Nat) (calls : List BufferCall) (b : Buffer) (len : UInt64)
    (ran : run Buffer.callStep (Buffer.new initiaSize) calls = some b) :
    b.Conserves len.toNat ↔ len.toNat ≤ b.readableBytes ∧ b.readerIndex + len.toNat ≤ b.buffer.length :=
  b.conserves_iff len.toNat (Buffer.run_indexed initiaSize calls b ran)

-- Three bytes of five, in a buffer that has been compacted.
theorem retrieve_as_string_conserves_some :
    ∃ b, run Buffer.callStep (Buffer.new 0) [.append (.ofBytes [1, 2, 3, 4, 5])] = some b ∧ b.Conserves 3 := by
  have layout : (run Buffer.callStep (Buffer.new 0) [.append (.ofBytes [1, 2, 3, 4, 5])]).map (fun b =>
      (b.readableBytes, b.readerIndex, b.buffer.length)) = some (5, 8, 1032) := by decide +kernel
  obtain ⟨b, ran, sizes⟩ := Option.map_eq_some_iff.mp layout
  simp only [Prod.mk.injEq] at sizes
  obtain ⟨readable, reader, size⟩ := sizes
  refine ⟨b, ran, (retrieve_as_string_conserves 0 _ b 3 ran).mpr ?_⟩
  rw [readable, reader, size]
  decide

-- A fresh buffer has nothing to read, and hands out the byte behind its write
-- index all the same.
theorem stale_byte_retrieved :
    (Buffer.new 0).retrieveAsString 1 = .ok ([0], Buffer.new 0) ∧ (Buffer.new 0).readable = [] ∧
      ¬(Buffer.new 0).Conserves 1 := by
  have stale : (Buffer.new 0).retrieveAsString 1 = .ok ([0], Buffer.new 0) := by decide +kernel
  refine ⟨stale, Buffer.new_readable 0, fun conserves => ?_⟩
  obtain ⟨out, done, bytes⟩ := conserves.bytes
  rw [stale] at done
  rw [Buffer.new_readable 0] at bytes
  cases done
  cases bytes

theorem space_requests_safe (initiaSize : Nat) (calls : List BufferCall) :
    Guarded Buffer.callStep Buffer.SafeCall (Buffer.new initiaSize) calls ↔
      Guarded Buffer.callStep Buffer.NoWrap (Buffer.new initiaSize) calls :=
  guarded_iff_guarded Buffer.callStep Buffer.SafeCall Buffer.NoWrap Buffer.Valid
    (fun b call valid => forall_congr' fun len => forall_congr' fun asked =>
      b.safe_request_iff len valid (call.requested_size len asked))
    (fun b call next valid noWrap taken => b.step_valid next call valid noWrap taken)
    _ calls (Buffer.new_valid initiaSize)

-- 2^64 - 10 bytes behind a write index of 20: the vector is cut to its first ten
-- bytes.
def requestPastSizeT : List BufferCall := [.append (.ofBytes (List.replicate 12 7)), .ensureWriteableBytes (0 - 10)]

theorem space_request_shrinks :
    (run Buffer.callStep (Buffer.new 0) requestPastSizeT).map (fun b => (b.writeIndex, b.buffer.length)) = some (20, 10) ∧
    ¬Guarded Buffer.callStep Buffer.SafeCall (Buffer.new 0) requestPastSizeT := by
  refine ⟨by decide +kernel, fun safe => ?_⟩
  have filled : ((Buffer.new 0).callStep (.append (.ofBytes (List.replicate 12 7)))).map (·.writeIndex) = some 20 := by
    decide +kernel
  obtain ⟨b, appended, index⟩ := Option.map_eq_some_iff.mp filled
  have valid := (Buffer.new 0).step_valid b _ (Buffer.new_valid 0) (by decide +kernel) appended
  have request : b.SafeRequest (2 ^ 64 - 10) := (safe.2 b appended).1 _ rfl
  have fits := (b.safe_request_iff (2 ^ 64 - 10) valid (by decide)).mp request
  rw [index] at fits
  exact absurd fits (by decide)

end Cmuduo.Net
