import Cmuduo.Lib.Throwing
import Cmuduo.Lib.Machine
import Cmuduo.Net.Buffer

set_option autoImplicit false

namespace Cmuduo.Net

open Machine Region Throwing

namespace Buffer

abbrev Call (α : Type) := Throwing.Call Stop Buffer α

def makeSpaceCall (len : Nat) : Call Unit := do
  let b ← get
  if sizeAdd b.writableBytes b.perpendableBytes < sizeAdd len kCheapPrepend then
    let resized ← perform (vectorResize b.buffer (sizeAdd len b.writeIndex))
    modify fun b => { b with buffer := resized }
  else
    let readable := b.readableBytes
    let moved ← perform (copyWithin b.buffer b.readerIndex b.writeIndex kCheapPrepend)
    modify fun b => { b with buffer := moved }
    modify fun b => { b with readerIndex := kCheapPrepend }
    modify fun b => { b with writeIndex := sizeAdd kCheapPrepend readable }

def ensureWriteableBytesCall (len : Nat) : Call Unit := do
  let b ← get
  if b.writableBytes < len then makeSpaceCall len else pure ()

def appendCall (data : List UInt8) : Call Unit := do
  ensureWriteableBytesCall data.length
  let b ← get
  let stored ← perform (copyInto b.buffer b.writeIndex data)
  modify fun b => { b with buffer := stored }
  modify fun b => { b with writeIndex := sizeAdd b.writeIndex data.length }

-- What readv is offered: the second segment only when it may be needed.
def iovcnt (b : Buffer) : Nat := if b.writableBytes < extrabufSize then 2 else 1

def offeredBytes (b : Buffer) : Nat := if b.iovcnt = 2 then b.writableBytes + extrabufSize else b.writableBytes

def readFdCall (result : ReadResult) : Call (Except Errno Nat) := do
  let b ← get
  let writable := b.writableBytes
  match kernelReadv b.offeredBytes result with
  | .error errno => pure (.error errno)
  | .ok bytes =>
      let stored ← perform (copyInto b.buffer b.writeIndex (bytes.take writable))
      modify fun b => { b with buffer := stored }
      let extrabuf ← perform (copyInto (List.replicate extrabufSize 0) 0 (bytes.drop writable))
      if bytes.length ≤ writable then
        modify fun b => { b with writeIndex := sizeAdd b.writeIndex bytes.length }
        pure (.ok bytes.length)
      else
        modify fun b => { b with writeIndex := b.buffer.length }
        let extra ← perform (readOut extrabuf 0 (bytes.length - writable))
        appendCall extra
        pure (.ok bytes.length)

theorem make_space_call (b : Buffer) (len : Nat) :
    makeSpaceCall len b =
      match b.makeSpace len with
      | .ok next => .ok () next
      | .error stop => .error stop b := by
  rw [makeSpaceCall, get_bind, makeSpace]
  split
  · rw [perform_bind]
    cases vectorResize b.buffer (sizeAdd len b.writeIndex) with
    | error stop => rfl
    | ok resized => rfl
  · rw [perform_bind]
    cases copyWithin b.buffer b.readerIndex b.writeIndex kCheapPrepend with
    | error stop => rfl
    | ok moved => rfl

theorem ensure_call (b : Buffer) (len : Nat) :
    ensureWriteableBytesCall len b =
      match b.ensureWriteableBytes len with
      | .ok next => .ok () next
      | .error stop => .error stop b := by
  rw [ensureWriteableBytesCall, get_bind, ensureWriteableBytes]
  split
  · exact make_space_call b len
  · rfl

theorem append_call (b : Buffer) (data : List UInt8) :
    outcome (appendCall data b) = (b.append data).map (fun next => ((), next)) ∧
    ∀ left, appendCall data b = .error .lengthError left → left = b := by
  have ensured := ensure_call b data.length
  cases space : b.ensureWriteableBytes data.length with
  | error stop =>
      rw [space] at ensured
      rw [appendCall, bind_error _ _ _ _ _ ensured, append, space]
      refine ⟨rfl, fun left thrown => ?_⟩
      cases thrown
      rfl
  | ok room =>
      rw [space] at ensured
      rw [appendCall, bind_ok _ _ _ _ _ ensured, get_bind, perform_bind]
      simp only [append, space]
      by_cases within : room.writeIndex + data.length ≤ room.buffer.length
      · rw [copy_into_ok _ _ _ within]
        exact ⟨rfl, fun left thrown => by cases thrown⟩
      · rw [copyInto, if_neg within]
        exact ⟨rfl, fun left thrown => by cases thrown⟩

theorem append_then {α : Type} (b : Buffer) (data : List UInt8) (value : α) :
    outcome ((appendCall data >>= fun _ => pure value) b) =
      (match b.append data with
        | .error stop => .error stop
        | .ok next => .ok (value, next)) ∧
    ∀ left, (appendCall data >>= fun _ => pure value) b = .error .lengthError left → left = b := by
  obtain ⟨same, kept⟩ := append_call b data
  cases appended : b.append data with
  | ok next =>
      rw [appended] at same
      have done := (outcome_ok _ () next).mp same
      rw [bind_ok _ _ _ _ _ done]
      exact ⟨rfl, fun left thrown => by cases thrown⟩
  | error stop =>
      rw [appended] at same
      obtain ⟨left, thrown⟩ := (outcome_error _ stop).mp same
      rw [bind_error _ _ _ _ _ thrown]
      refine ⟨rfl, fun here again => kept here ?_⟩
      rw [thrown]
      cases again
      rfl

-- What readv has stored: the first segment's share behind the write index, and
-- the rest in the stack array, where append finds it again.
theorem extrabuf_holds (data : List UInt8) (fits : data.length ≤ extrabufSize) :
    ∃ extrabuf, copyInto (List.replicate extrabufSize 0) 0 data = .ok extrabuf ∧
      readOut extrabuf 0 data.length = .ok data := by
  have room : 0 + data.length ≤ (List.replicate extrabufSize (0 : UInt8)).length := by
    rw [List.length_replicate, Nat.zero_add]
    exact fits
  have size := overwrite_length (List.replicate extrabufSize (0 : UInt8)) 0 data room
  refine ⟨_, copy_into_ok _ _ _ room, ?_⟩
  rw [read_out_ok _ _ _ (by rw [size]; exact room), overwrite_here _ _ _ (Nat.zero_le _)]

theorem offered_bytes_exact (b : Buffer) :
    b.offeredBytes = if b.writableBytes < extrabufSize then b.writableBytes + extrabufSize else b.writableBytes := by
  rw [offeredBytes, iovcnt]
  split <;> rfl

theorem overflow_fits (b : Buffer) (bytes : List UInt8) :
    ((bytes.take b.offeredBytes).drop b.writableBytes).length ≤ extrabufSize := by
  rw [List.length_drop, List.length_take, offeredBytes]
  split <;> omega

theorem read_fd_error (b : Buffer) (errno : Errno) : b.readFd (.error errno) = .ok (.error errno, b) := rfl

theorem read_fd_call (b : Buffer) (result : ReadResult) :
    outcome (readFdCall result b) = b.readFd result ∧
    ∀ left, readFdCall result b = .error .lengthError left →
      ∃ stored, stored.length = b.buffer.length ∧ b.writeIndex ≤ b.buffer.length ∧
        left = { b with buffer := stored, writeIndex := stored.length } := by
  cases result with
  | error errno => exact ⟨rfl, fun left thrown => by cases thrown⟩
  | arrived bytes =>
      have fits := overflow_fits b bytes
      rw [readFdCall, get_bind, readFd, ← offered_bytes_exact]
      simp only [kernelReadv]
      generalize bytes.take b.offeredBytes = received at fits ⊢
      by_cases within : b.writeIndex + (received.take b.writableBytes).length ≤ b.buffer.length
      · obtain ⟨extrabuf, filled, extra⟩ := extrabuf_holds (received.drop b.writableBytes) fits
        have size := overwrite_length b.buffer b.writeIndex (received.take b.writableBytes) within
        rw [List.length_drop] at extra
        rw [perform_bind, copy_into_ok _ _ _ within]
        simp only [modify_bind, perform_bind, filled]
        by_cases short : received.length ≤ b.writableBytes
        · rw [if_pos short, if_pos short]
          exact ⟨rfl, fun left thrown => by cases thrown⟩
        · rw [if_neg short, if_neg short, modify_bind, perform_bind, extra]
          obtain ⟨same, kept⟩ := append_then { b with
            buffer := overwrite b.buffer b.writeIndex (received.take b.writableBytes)
            writeIndex := (overwrite b.buffer b.writeIndex (received.take b.writableBytes)).length }
            (received.drop b.writableBytes) (.ok received.length : Except Errno Nat)
          exact ⟨same, fun left thrown => ⟨_, size, Nat.le_trans (Nat.le_add_right _ _) within, kept left thrown⟩⟩
      · rw [perform_bind, copyInto, if_neg within]
        exact ⟨rfl, fun left thrown => by cases thrown⟩

-- What holds of every buffer, also of one whose vector a request that overflowed
-- size_t has cut off below the write index.
structure Indexed (b : Buffer) : Prop where
  prepend : kCheapPrepend ≤ b.readerIndex
  ordered : b.readerIndex ≤ b.writeIndex
  addressable : b.writeIndex ≤ maxSize
  bounded : b.buffer.length ≤ maxSize

theorem valid_indexed (b : Buffer) (valid : b.Valid) : Indexed b :=
  ⟨valid.prepend, valid.ordered, Nat.le_trans valid.inside valid.bounded, valid.bounded⟩

theorem indexed_valid (b : Buffer) (indexed : Indexed b) (inside : b.writeIndex ≤ b.buffer.length) : b.Valid :=
  ⟨indexed.prepend, indexed.ordered, inside, indexed.bounded⟩

theorem indexed_readable_bytes (b : Buffer) (indexed : Indexed b) : b.readableBytes = b.writeIndex - b.readerIndex := by
  have addressable := indexed.addressable
  unfold maxSize at addressable
  exact size_sub_exact _ _ indexed.ordered (by omega)

theorem resize_length (mem resized : List UInt8) (size : Nat) (done : vectorResize mem size = .ok resized) :
    resized.length = size ∧ size ≤ maxSize := by
  by_cases large : maxSize < size
  · rw [vectorResize, if_pos large] at done
    cases done
  · rw [vectorResize, if_neg large] at done
    cases done
    rw [List.length_append, List.length_take, List.length_replicate]
    omega

theorem copy_into_inside (mem stored data : List UInt8) (dest : Nat) (done : copyInto mem dest data = .ok stored) :
    dest + data.length ≤ mem.length ∧ stored = overwrite mem dest data ∧ stored.length = mem.length := by
  by_cases room : dest + data.length ≤ mem.length
  · rw [copyInto, if_pos room] at done
    cases done
    exact ⟨room, rfl, overwrite_length _ _ _ room⟩
  · rw [copyInto, if_neg room] at done
    cases done

theorem copy_within_inside (mem moved : List UInt8) (first last dest : Nat)
    (done : copyWithin mem first last dest = .ok moved) : last ≤ mem.length ∧ moved.length = mem.length := by
  by_cases allowed : first ≤ last ∧ last ≤ mem.length ∧ dest + (last - first) ≤ mem.length ∧ ¬(first ≤ dest ∧ dest < last)
  · rw [copyWithin, if_pos allowed] at done
    cases done
    obtain ⟨ordered, inside, room, -⟩ := allowed
    have size := slice_length mem first last inside
    exact ⟨inside, overwrite_length _ _ _ (by rw [size]; exact room)⟩
  · rw [copyWithin, if_neg allowed] at done
    cases done

theorem ensure_indexed (b next : Buffer) (len : Nat) (indexed : Indexed b)
    (done : b.ensureWriteableBytes len = .ok next) : Indexed next := by
  by_cases short : b.writableBytes < len
  · rw [ensureWriteableBytes, if_pos short, makeSpace] at done
    split at done
    · cases grown : vectorResize b.buffer (sizeAdd len b.writeIndex) with
      | error stop => simp [grown] at done
      | ok resized =>
          simp only [grown, Except.ok.injEq] at done
          obtain ⟨size, fits⟩ := resize_length b.buffer resized _ grown
          rw [← done]
          exact ⟨indexed.prepend, indexed.ordered, indexed.addressable, size ▸ fits⟩
    · cases compacted : copyWithin b.buffer b.readerIndex b.writeIndex kCheapPrepend with
      | error stop => simp [compacted] at done
      | ok moved =>
          simp only [compacted, Except.ok.injEq] at done
          obtain ⟨inside, size⟩ := copy_within_inside _ moved _ _ _ compacted
          have prepend := indexed.prepend
          have ordered := indexed.ordered
          have addressable := indexed.addressable
          have count := indexed_readable_bytes b indexed
          have index : sizeAdd kCheapPrepend b.readableBytes = kCheapPrepend + b.readableBytes :=
            size_add_exact _ _ (by unfold maxSize at addressable; omega)
          rw [← done]
          exact
            { prepend := Nat.le_refl _
              ordered := by dsimp only; omega
              addressable := by dsimp only; omega
              bounded := by
                dsimp only
                rw [size]
                exact indexed.bounded }
  · rw [ensureWriteableBytes, if_neg short] at done
    cases done
    exact indexed

theorem append_indexed (b next : Buffer) (data : List UInt8) (indexed : Indexed b) (done : b.append data = .ok next) :
    Indexed next := by
  cases space : b.ensureWriteableBytes data.length with
  | error stop => simp [append, space] at done
  | ok room =>
      have roomIndexed := ensure_indexed b room data.length indexed space
      cases copied : copyInto room.buffer room.writeIndex data with
      | error stop => simp [append, space, copied] at done
      | ok stored =>
          simp only [append, space, copied, Except.ok.injEq] at done
          obtain ⟨within, -, size⟩ := copy_into_inside _ stored _ _ copied
          have bounded := roomIndexed.bounded
          have ordered := roomIndexed.ordered
          have index : sizeAdd room.writeIndex data.length = room.writeIndex + data.length :=
            size_add_exact _ _ (by unfold maxSize at bounded; omega)
          rw [← done]
          exact
            { prepend := roomIndexed.prepend
              ordered := by dsimp only; omega
              addressable := by dsimp only; omega
              bounded := by dsimp only; omega }

theorem retrieve_all_indexed (b : Buffer) (indexed : Indexed b) : Indexed b.retrieveAll :=
  { prepend := Nat.le_refl _
    ordered := Nat.le_refl _
    addressable := Nat.le_trans (Nat.le_trans indexed.prepend indexed.ordered) indexed.addressable
    bounded := indexed.bounded }

theorem retrieve_indexed (b : Buffer) (len : Nat) (indexed : Indexed b) : Indexed (b.retrieve len) := by
  have count := indexed_readable_bytes b indexed
  have addressable := indexed.addressable
  have prepend := indexed.prepend
  have ordered := indexed.ordered
  by_cases short : len < b.readableBytes
  · have index : sizeAdd b.readerIndex len = b.readerIndex + len :=
      size_add_exact _ _ (by unfold maxSize at addressable; omega)
    rw [retrieve, if_pos short, index]
    exact
      { prepend := by dsimp only; omega
        ordered := by dsimp only; omega
        addressable := addressable
        bounded := indexed.bounded }
  · rw [retrieve, if_neg short]
    exact retrieve_all_indexed b indexed

theorem read_fd_indexed (b next : Buffer) (result : ReadResult) (n : Except Errno Nat) (indexed : Indexed b)
    (done : b.readFd result = .ok (n, next)) : Indexed next := by
  cases result with
  | error errno =>
      rw [read_fd_error] at done
      cases done
      exact indexed
  | arrived bytes =>
      simp only [readFd, kernelReadv] at done
      generalize bytes.take _ = received at done
      cases copied : copyInto b.buffer b.writeIndex (received.take b.writableBytes) with
      | error stop => simp [copied] at done
      | ok stored =>
          simp only [copied] at done
          obtain ⟨within, -, size⟩ := copy_into_inside _ stored _ _ copied
          have bounded := indexed.bounded
          have ordered := indexed.ordered
          have prepend := indexed.prepend
          by_cases short : received.length ≤ b.writableBytes
          · rw [List.take_of_length_le short] at within
            have index : sizeAdd b.writeIndex received.length = b.writeIndex + received.length :=
              size_add_exact _ _ (by unfold maxSize at bounded; omega)
            simp only [if_pos short, index, Except.ok.injEq, Prod.mk.injEq] at done
            rw [← done.2]
            exact
              { prepend := prepend
                ordered := by dsimp only; omega
                addressable := by dsimp only; omega
                bounded := by dsimp only; omega }
          · rw [if_neg short] at done
            have pushed : Indexed { b with buffer := stored, writeIndex := stored.length } :=
              { prepend := prepend
                ordered := by dsimp only; omega
                addressable := by dsimp only; omega
                bounded := by dsimp only; omega }
            cases appended : append { b with buffer := stored, writeIndex := stored.length } (received.drop b.writableBytes) with
            | error stop => simp [appended] at done
            | ok after =>
                simp only [appended, Except.ok.injEq, Prod.mk.injEq] at done
                exact done.2 ▸ append_indexed _ after _ pushed appended

end Buffer

-- The public calls, with any arguments of their types.
inductive BufferCall where
  | retrieve (len : UInt64)
  | retrieveAll
  | retrieveAllAsString
  | retrieveAsString (len : UInt64)
  | ensureWriteableBytes (len : UInt64)
  | append (data : CppString)
  | readFd (result : ReadResult)
  | writeFd (result : WriteResult)

namespace BufferCall

def body : BufferCall → Buffer.Call Unit
  | .retrieve len => modify fun b => b.retrieve len.toNat
  | .retrieveAll => modify Buffer.retrieveAll
  | .retrieveAllAsString => do
      let b ← get
      let result ← perform b.retrieveAllAsString
      set result.2
  | .retrieveAsString len => do
      let b ← get
      let result ← perform (b.retrieveAsString len.toNat)
      set result.2
  | .ensureWriteableBytes len => Buffer.ensureWriteableBytesCall len.toNat
  | .append data => Buffer.appendCall data.bytes
  | .readFd result => do
      let _ ← Buffer.readFdCall result
      pure ()
  | .writeFd result => do
      let b ← get
      let _ ← perform (b.writeFd result)
      pure ()

end BufferCall

namespace Buffer

-- A caller may catch a length_error and go on with the buffer as it was left.
-- After an undefined access there is no next state.
def left : EStateM.Result Stop Buffer Unit → Option Buffer
  | .ok _ next => some next
  | .error .lengthError next => some next
  | .error _ _ => none

def callStep (b : Buffer) (call : BufferCall) : Option Buffer := left (call.body b)

theorem left_some (result : EStateM.Result Stop Buffer Unit) (next : Buffer) (taken : left result = some next) :
    result = .ok () next ∨ result = .error .lengthError next := by
  cases result with
  | ok value after =>
      cases taken
      exact .inl rfl
  | error stop after =>
      cases stop with
      | lengthError =>
          cases taken
          exact .inr rfl
      | _ => cases taken

theorem left_perform {α : Type} (b next : Buffer) (result : Except Stop α) (rest : α → Call Unit)
    (taken : left ((perform result >>= rest) b) = some next) :
    (∃ value, result = .ok value ∧ left (rest value b) = some next) ∨ next = b := by
  rw [perform_bind] at taken
  cases result with
  | ok value => exact .inl ⟨value, rfl, taken⟩
  | error stop =>
      rcases left_some _ next taken with done | thrown
      · cases done
      · cases thrown
        exact .inr rfl

theorem retrieve_as_string_leaves (b next : Buffer) (out : List UInt8) (len : Nat)
    (done : b.retrieveAsString len = .ok (out, next)) : next = b.retrieve len := by
  by_cases large : maxSize < len
  · rw [retrieveAsString, if_pos large] at done
    cases done
  · rw [retrieveAsString, if_neg large] at done
    cases copied : readOut b.buffer b.readerIndex len with
    | error stop => simp [copied] at done
    | ok result =>
        simp only [copied, Except.ok.injEq, Prod.mk.injEq] at done
        exact done.2.symm

-- All that a public call can make of the buffer. A length_error leaves it as it
-- was, except where readFd has already moved the write index to the end.
inductive Leaves (b : Buffer) : BufferCall → Buffer → Prop where
  | same (call : BufferCall) : Leaves b call b
  | all (call : BufferCall) : Leaves b call b.retrieveAll
  | some (call : BufferCall) (len : Nat) : Leaves b call (b.retrieve len)
  | ensured (len : UInt64) (next : Buffer) (done : b.ensureWriteableBytes len.toNat = .ok next) :
      Leaves b (.ensureWriteableBytes len) next
  | appended (data : CppString) (next : Buffer) (done : b.append data.bytes = .ok next) : Leaves b (.append data) next
  | read (result : ReadResult) (n : Except Errno Nat) (next : Buffer) (done : b.readFd result = .ok (n, next)) :
      Leaves b (.readFd result) next
  | pushed (result : ReadResult) (stored : List UInt8) (size : stored.length = b.buffer.length)
      (inside : b.writeIndex ≤ b.buffer.length) :
      Leaves b (.readFd result) { b with buffer := stored, writeIndex := stored.length }

theorem step_leaves (b next : Buffer) (call : BufferCall) (taken : b.callStep call = some next) : Leaves b call next := by
  cases call with
  | retrieve len =>
      cases taken
      exact .some _ len.toNat
  | retrieveAll =>
      cases taken
      exact .all _
  | retrieveAllAsString =>
      rcases left_perform b next b.retrieveAllAsString _ taken with ⟨⟨out, after⟩, done, same⟩ | same
      · cases same
        rw [retrieve_as_string_leaves b after out _ done]
        exact .some _ _
      · exact same ▸ .same _
  | retrieveAsString len =>
      rcases left_perform b next (b.retrieveAsString len.toNat) _ taken with ⟨⟨out, after⟩, done, same⟩ | same
      · cases same
        rw [retrieve_as_string_leaves b after out _ done]
        exact .some _ _
      · exact same ▸ .same _
  | ensureWriteableBytes len =>
      have ended := left_some _ next taken
      rw [BufferCall.body, ensure_call b len.toNat] at ended
      cases ensured : b.ensureWriteableBytes len.toNat with
      | ok after =>
          rw [ensured] at ended
          rcases ended with done | thrown
          · cases done
            exact .ensured len next ensured
          · cases thrown
      | error stop =>
          rw [ensured] at ended
          rcases ended with done | thrown
          · cases done
          · cases thrown
            exact .same _
  | append data =>
      obtain ⟨same, kept⟩ := append_call b data.bytes
      rcases left_some _ next taken with done | thrown
      · rw [show outcome (appendCall data.bytes b) = .ok ((), next) from (outcome_ok _ () next).mpr done] at same
        cases appended : b.append data.bytes with
        | ok result =>
            rw [appended] at same
            cases same
            exact .appended data next appended
        | error stop =>
            rw [appended] at same
            cases same
      · exact kept next thrown ▸ .same _
  | readFd result =>
      obtain ⟨same, kept⟩ := read_fd_call b result
      have ended := left_some _ next taken
      cases read : readFdCall result b with
      | ok value after =>
          rw [BufferCall.body, bind_ok _ _ _ _ _ read] at ended
          rcases ended with done | thrown
          · cases done
            rw [read] at same
            exact .read result value next same.symm
          · cases thrown
      | error stop after =>
          rw [BufferCall.body, bind_error _ _ _ _ _ read] at ended
          rcases ended with done | thrown
          · cases done
          · cases thrown
            obtain ⟨stored, size, inside, rfl⟩ := kept next read
            exact .pushed result stored size inside
  | writeFd result =>
      rcases left_perform b next (b.writeFd result) _ taken with ⟨value, -, same⟩ | same
      · cases same
        exact .same _
      · exact same ▸ .same _

theorem step_indexed (b next : Buffer) (call : BufferCall) (indexed : Indexed b) (taken : b.callStep call = some next) :
    Indexed next := by
  cases step_leaves b next call taken with
  | same => exact indexed
  | all => exact retrieve_all_indexed b indexed
  | some _ len => exact retrieve_indexed b len indexed
  | ensured len _ done => exact ensure_indexed b next len.toNat indexed done
  | appended data _ done => exact append_indexed b next data.bytes indexed done
  | read result n _ done => exact read_fd_indexed b next result n indexed done
  | pushed result stored size inside =>
      have bounded := indexed.bounded
      exact
        { prepend := indexed.prepend
          ordered := by
            rw [size]
            exact Nat.le_trans indexed.ordered inside
          addressable := by dsimp only; omega
          bounded := by dsimp only; omega }

theorem run_indexed (initiaSize : Nat) (calls : List BufferCall) (b : Buffer)
    (ran : run callStep (new initiaSize) calls = some b) : Indexed b :=
  invariant callStep Indexed (fun s call t indexed taken => step_indexed s t call indexed taken) _ b calls
    (valid_indexed _ (new_valid initiaSize)) ran

end Buffer

end Cmuduo.Net
