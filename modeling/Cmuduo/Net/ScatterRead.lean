import Cmuduo.Net.BufferCalls

set_option autoImplicit false

namespace Cmuduo.Net

open Machine Region Throwing

namespace Buffer

theorem copy_into_throws_not (mem data : List UInt8) (dest : Nat) : copyInto mem dest data ≠ .error .lengthError := by
  rw [copyInto]
  split <;> simp

theorem copy_within_throws_not (mem : List UInt8) (first last dest : Nat) :
    copyWithin mem first last dest ≠ .error .lengthError := by
  rw [copyWithin]
  split <;> simp

theorem make_space_thrown (b : Buffer) (len : Nat) (fits : len + b.writeIndex < 2 ^ 64)
    (thrown : b.makeSpace len = .error .lengthError) : maxSize < len + b.writeIndex := by
  rw [makeSpace] at thrown
  split at thrown
  · rw [size_add_exact _ _ fits] at thrown
    by_contra small
    simp [vectorResize, small] at thrown
  · cases compacted : copyWithin b.buffer b.readerIndex b.writeIndex kCheapPrepend with
    | ok moved => simp [compacted] at thrown
    | error stop =>
        simp only [compacted, Except.error.injEq] at thrown
        rw [thrown] at compacted
        exact absurd compacted (copy_within_throws_not _ _ _ _)

-- append throws only where the vector would become longer than max_size.
theorem append_thrown (b : Buffer) (data : List UInt8) (fits : data.length + b.writeIndex < 2 ^ 64)
    (thrown : b.append data = .error .lengthError) : maxSize < data.length + b.writeIndex := by
  cases space : b.ensureWriteableBytes data.length with
  | ok room =>
      cases copied : copyInto room.buffer room.writeIndex data with
      | ok stored => simp [append, space, copied] at thrown
      | error stop =>
          simp only [append, space, copied, Except.error.injEq] at thrown
          rw [thrown] at copied
          exact absurd copied (copy_into_throws_not _ _ _)
  | error stop =>
      simp only [append, space, Except.error.injEq] at thrown
      rw [thrown, ensureWriteableBytes] at space
      split at space
      · exact make_space_thrown b data.length fits space
      · cases space

theorem ensure_write_index (b room : Buffer) (len : Nat) (valid : b.Valid) (done : b.ensureWriteableBytes len = .ok room) :
    room.writeIndex ≤ b.writeIndex := by
  rw [ensureWriteableBytes] at done
  split at done
  · rw [makeSpace] at done
    split at done
    · split at done
      · cases done
      · cases done
        exact Nat.le_refl _
    · split at done
      · cases done
      · cases done
        -- the readable region has moved down to the reserved prefix
        have prepend := valid.prepend
        have ordered := valid.ordered
        have moved : sizeAdd kCheapPrepend b.readableBytes ≤ kCheapPrepend + b.readableBytes := Nat.mod_le _ _
        rw [readable_bytes_exact b valid] at moved
        dsimp only
        rw [readable_bytes_exact b valid]
        omega
  · cases done
    exact Nat.le_refl _

-- What fits behind the write index is appended.
theorem append_fits (b : Buffer) (data : List UInt8) (valid : b.Valid) (fits : data.length + b.writeIndex ≤ maxSize) :
    ∃ next, b.append data = .ok next ∧ next.writeIndex ≤ b.writeIndex + data.length := by
  have small : data.length + b.writeIndex < 2 ^ 64 := by
    unfold maxSize at fits
    omega
  rcases b.append_outcome data valid small with thrown | ⟨next, appended, -⟩
  · exact absurd (b.append_thrown data small thrown) (Nat.not_lt.mpr fits)
  · refine ⟨next, appended, ?_⟩
    rw [append] at appended
    split at appended
    · cases appended
    · next room ensured =>
        split at appended
        · cases appended
        · cases appended
          exact Nat.le_trans (Nat.mod_le _ _) (Nat.add_le_add_right (b.ensure_write_index room _ valid ensured) _)

-- The kernel's share of the first segment: the readable region grows by it, and
-- nothing else of the layout changes.
theorem received_readable (b : Buffer) (data : List UInt8) (valid : b.Valid) (fits : data.length ≤ b.writableBytes) :
    ∃ stored, copyInto b.buffer b.writeIndex data = .ok stored ∧ stored.length = b.buffer.length ∧
      Valid { b with buffer := stored, writeIndex := b.writeIndex + data.length } ∧
      slice stored b.readerIndex (b.writeIndex + data.length) = b.readable ++ data := by
  have inside := valid.inside
  have ordered := valid.ordered
  rw [writable_bytes_exact b valid] at fits
  have within : b.writeIndex + data.length ≤ b.buffer.length := by omega
  have size := overwrite_length b.buffer b.writeIndex data within
  refine ⟨_, copy_into_ok _ _ _ within, size, ?_, ?_⟩
  · exact
      { prepend := valid.prepend
        ordered := by dsimp only; omega
        inside := by dsimp only; omega
        bounded := by
          dsimp only
          rw [size]
          exact valid.bounded }
  · have cut := slice_split (overwrite b.buffer b.writeIndex data) b.readerIndex b.writeIndex
      (b.writeIndex + data.length) ordered (Nat.le_add_right _ _)
    rw [overwrite_before _ _ _ _ _ (Nat.le_refl _) inside, overwrite_here _ _ _ inside] at cut
    exact cut

theorem read_fd_arrived (b : Buffer) (bytes : List UInt8) (valid : b.Valid) :
    (∃ next, b.readFd (.arrived bytes) = .ok (.ok (bytes.take b.offeredBytes).length, next) ∧ next.Valid ∧
      next.readable = b.readable ++ bytes.take b.offeredBytes) ∨
    b.readFd (.arrived bytes) = .error .lengthError ∧
      maxSize < b.buffer.length + ((bytes.take b.offeredBytes).length - b.writableBytes) := by
  have overflow := overflow_fits b bytes
  have writable := writable_bytes_exact b valid
  have inside := valid.inside
  have bounded := valid.bounded
  simp only [readFd, kernelReadv, ← offered_bytes_exact]
  generalize bytes.take b.offeredBytes = received at overflow ⊢
  obtain ⟨stored, copied, size, kept, bytesThere⟩ := received_readable b (received.take b.writableBytes) valid
    (by rw [List.length_take]; omega)
  rw [copied]
  by_cases short : received.length ≤ b.writableBytes
  · rw [List.take_of_length_le short] at kept bytesThere
    have index : sizeAdd b.writeIndex received.length = b.writeIndex + received.length :=
      size_add_exact _ _ (by unfold maxSize at bounded; omega)
    simp only [if_pos short, index]
    exact .inl ⟨_, rfl, kept, bytesThere⟩
  · have first : (received.take b.writableBytes).length = b.writableBytes := by
      rw [List.length_take]
      omega
    have ends : b.writeIndex + (received.take b.writableBytes).length = stored.length := by omega
    rw [ends] at kept bytesThere
    rw [List.length_drop] at overflow
    have fits : (received.drop b.writableBytes).length + stored.length < 2 ^ 64 := by
      rw [List.length_drop]
      unfold maxSize at bounded
      unfold extrabufSize at overflow
      omega
    simp only [if_neg short]
    rcases append_outcome _ (received.drop b.writableBytes) kept fits with thrown | ⟨next, appended, nextValid, all⟩
    · right
      have large := append_thrown _ _ fits thrown
      rw [List.length_drop] at large
      simp only [thrown, true_and]
      dsimp only at large
      omega
    · left
      refine ⟨next, by rw [appended], nextValid, ?_⟩
      rw [all, readable]
      dsimp only
      rw [bytesThere, List.append_assoc, List.take_append_drop]

-- readv fails when its segments add up to more than SSIZE_MAX, the maxSize of
-- this model.
def MayReturn (b : Buffer) : ReadResult → Prop
  | .arrived _ => b.offeredBytes ≤ maxSize
  | .error _ => True

-- What readFd does with a result of readv: an error changes nothing, and what has
-- been received is appended, unless the vector cannot become that long.
def ScatterRead (b : Buffer) : ReadResult → Prop
  | .error errno => readFdCall (.error errno) b = .ok (.error errno) b
  | .arrived bytes =>
      let received := bytes.take b.offeredBytes
      (∃ next, readFdCall (.arrived bytes) b = .ok (.ok received.length) next ∧ next.Valid ∧
        next.readable = b.readable ++ received) ∨
      (∃ left, readFdCall (.arrived bytes) b = .error .lengthError left) ∧
        maxSize < b.buffer.length + (received.length - b.writableBytes)

-- A write index behind the end leaves a first segment of more than SSIZE_MAX.
theorem offered_bytes_beyond (b : Buffer) (indexed : Indexed b) (beyond : b.buffer.length < b.writeIndex) :
    maxSize < b.offeredBytes := by
  have addressable := indexed.addressable
  have writable : b.writableBytes = b.buffer.length + (2 ^ 64 - b.writeIndex) := by
    unfold maxSize at addressable
    rw [writableBytes, sizeSub, Nat.mod_eq_of_lt (by omega)]
  unfold maxSize at addressable
  rw [offered_bytes_exact]
  unfold extrabufSize maxSize
  split <;> omega

end Buffer

theorem scatter_read_appends (initiaSize : Nat) (calls : List BufferCall) (b : Buffer) (result : ReadResult)
    (ran : run Buffer.callStep (Buffer.new initiaSize) calls = some b) (may : b.MayReturn result) :
    b.ScatterRead result := by
  have indexed := Buffer.run_indexed initiaSize calls b ran
  obtain ⟨same, -⟩ := Buffer.read_fd_call b result
  cases result with
  | error errno => exact (outcome_ok _ _ _).mp same
  | arrived bytes =>
      have inside : b.writeIndex ≤ b.buffer.length := by
        by_contra outside
        exact Nat.not_lt.mpr may (b.offered_bytes_beyond indexed (Nat.not_le.mp outside))
      rcases b.read_fd_arrived bytes (b.indexed_valid indexed inside) with ⟨next, read, valid, readable⟩ | ⟨thrown, large⟩
      · exact .inl ⟨next, (outcome_ok _ _ _).mp (same.trans read), valid, readable⟩
      · exact .inr ⟨(outcome_error _ _).mp (same.trans thrown), large⟩

-- A full buffer, partly read: the overflow of three bytes is placed by
-- compaction.
def filledAndRead : List BufferCall := [.append (.ofBytes (List.replicate 1024 7)), .retrieve 100]

theorem scatter_read_appends_overflow :
    ∃ b next, run Buffer.callStep (Buffer.new 0) filledAndRead = some b ∧ b.writableBytes = 0 ∧
      Buffer.readFdCall (.arrived [1, 2, 3]) b = .ok (.ok 3) next ∧ next.Valid ∧
      next.readable = b.readable ++ [1, 2, 3] := by
  have layout : (run Buffer.callStep (Buffer.new 0) filledAndRead).map (fun b =>
      (b.buffer.length, b.writableBytes, b.offeredBytes)) = some (1032, 0, 65536) := by decide +kernel
  obtain ⟨b, ran, sizes⟩ := Option.map_eq_some_iff.mp layout
  simp only [Prod.mk.injEq] at sizes
  obtain ⟨size, full, offered⟩ := sizes
  have may : b.MayReturn (.arrived [1, 2, 3]) := by
    rw [Buffer.MayReturn, offered]
    decide
  have read := scatter_read_appends 0 filledAndRead b (.arrived [1, 2, 3]) ran may
  rw [Buffer.ScatterRead, offered, size, full] at read
  obtain ⟨next, called, valid, readable⟩ := read.resolve_right fun thrown => absurd thrown.2 (by decide)
  exact ⟨b, next, ran, full, called, valid, readable⟩

end Cmuduo.Net
