import Cmuduo.Lib.Region
import Cmuduo.Net.Kernel

set_option autoImplicit false

namespace Cmuduo.Net

open Region

-- size_t arithmetic.
def sizeAdd (a b : Nat) : Nat := (a + b) % 2 ^ 64
def sizeSub (a b : Nat) : Nat := (a + (2 ^ 64 - b)) % 2 ^ 64

theorem size_add_exact (a b : Nat) (fits : a + b < 2 ^ 64) : sizeAdd a b = a + b :=
  Nat.mod_eq_of_lt fits

theorem size_sub_exact (a b : Nat) (ordered : b ≤ a) (fits : a < 2 ^ 64) : sizeSub a b = a - b := by
  unfold sizeSub
  omega

-- std::copy inside one block: both ranges must lie in the block, and the
-- destination must not lie inside the source range.
def copyWithin (mem : List UInt8) (first last dest : Nat) : Except Stop (List UInt8) :=
  if first ≤ last ∧ last ≤ mem.length ∧ dest + (last - first) ≤ mem.length ∧ ¬(first ≤ dest ∧ dest < last) then
    .ok (overwrite mem dest (slice mem first last))
  else .error .badAccess

def copyInto (mem : List UInt8) (dest : Nat) (data : List UInt8) : Except Stop (List UInt8) :=
  if dest + data.length ≤ mem.length then .ok (overwrite mem dest data) else .error .badAccess

def readOut (mem : List UInt8) (first len : Nat) : Except Stop (List UInt8) :=
  if first + len ≤ mem.length then .ok (slice mem first (first + len)) else .error .badAccess

def vectorResize (mem : List UInt8) (size : Nat) : Except Stop (List UInt8) :=
  if maxSize < size then .error .lengthError
  else .ok (mem.take size ++ List.replicate (size - mem.length) 0)

def kCheapPrepend : Nat := 8
def kInitiaSize : Nat := 1024

structure Buffer where
  buffer : List UInt8
  readerIndex : Nat
  writeIndex : Nat
deriving DecidableEq

namespace Buffer

-- The constructor's argument is not used by the source either.
def new (_initiaSize : Nat) : Buffer :=
  { buffer := List.replicate (kCheapPrepend + kInitiaSize) 0
    readerIndex := kCheapPrepend
    writeIndex := kCheapPrepend }

def readableBytes (b : Buffer) : Nat := sizeSub b.writeIndex b.readerIndex
def writableBytes (b : Buffer) : Nat := sizeSub b.buffer.length b.writeIndex
def perpendableBytes (b : Buffer) : Nat := b.readerIndex

def retrieveAll (b : Buffer) : Buffer :=
  { b with readerIndex := kCheapPrepend, writeIndex := kCheapPrepend }

def retrieve (b : Buffer) (len : Nat) : Buffer :=
  if len < b.readableBytes then { b with readerIndex := sizeAdd b.readerIndex len }
  else b.retrieveAll

-- std::string(peek(), len) throws past max_size and otherwise reads len bytes,
-- wherever the readable region ends.
def retrieveAsString (b : Buffer) (len : Nat) : Except Stop (List UInt8 × Buffer) :=
  if maxSize < len then .error .lengthError
  else match readOut b.buffer b.readerIndex len with
    | .error stop => .error stop
    | .ok result => .ok (result, b.retrieve len)

def retrieveAllAsString (b : Buffer) : Except Stop (List UInt8 × Buffer) :=
  b.retrieveAsString b.readableBytes

def makeSpace (b : Buffer) (len : Nat) : Except Stop Buffer :=
  if sizeAdd b.writableBytes b.perpendableBytes < sizeAdd len kCheapPrepend then
    match vectorResize b.buffer (sizeAdd len b.writeIndex) with
    | .error stop => .error stop
    | .ok resized => .ok { b with buffer := resized }
  else
    match copyWithin b.buffer b.readerIndex b.writeIndex kCheapPrepend with
    | .error stop => .error stop
    | .ok moved =>
        .ok { buffer := moved
              readerIndex := kCheapPrepend
              writeIndex := sizeAdd kCheapPrepend b.readableBytes }

def ensureWriteableBytes (b : Buffer) (len : Nat) : Except Stop Buffer :=
  if b.writableBytes < len then b.makeSpace len else .ok b

def append (b : Buffer) (data : List UInt8) : Except Stop Buffer :=
  match b.ensureWriteableBytes data.length with
  | .error stop => .error stop
  | .ok room =>
      match copyInto room.buffer room.writeIndex data with
      | .error stop => .error stop
      | .ok stored => .ok { room with buffer := stored, writeIndex := sizeAdd room.writeIndex data.length }

def extrabufSize : Nat := 65536

-- readv stores the first segment's share at beginWrite() and the rest in the
-- stack array, from which append takes it.
def readFd (b : Buffer) (result : ReadResult) : Except Stop (Except Errno Nat × Buffer) :=
  let writable := b.writableBytes
  match kernelReadv (if writable < extrabufSize then writable + extrabufSize else writable) result with
  | .error errno => .ok (.error errno, b)
  | .ok bytes =>
      match copyInto b.buffer b.writeIndex (bytes.take writable) with
      | .error stop => .error stop
      | .ok stored =>
          if bytes.length ≤ writable then
            .ok (.ok bytes.length, { b with buffer := stored, writeIndex := sizeAdd b.writeIndex bytes.length })
          else
            match append { b with buffer := stored, writeIndex := stored.length } (bytes.drop writable) with
            | .error stop => .error stop
            | .ok next => .ok (.ok bytes.length, next)

-- The count handed to ::write is writableBytes(), as in the source.
def writeFd (b : Buffer) (result : WriteResult) : Except Stop (Except Errno (List UInt8)) :=
  match readOut b.buffer b.readerIndex b.writableBytes with
  | .error stop => .error stop
  | .ok offered => .ok (kernelWrite offered result)

-- The readable region, and the index invariant with the bound every vector has.
def readable (b : Buffer) : List UInt8 := slice b.buffer b.readerIndex b.writeIndex

structure Valid (b : Buffer) : Prop where
  prepend : kCheapPrepend ≤ b.readerIndex
  ordered : b.readerIndex ≤ b.writeIndex
  inside : b.writeIndex ≤ b.buffer.length
  bounded : b.buffer.length ≤ maxSize

theorem new_length (initiaSize : Nat) : (new initiaSize).buffer.length = kCheapPrepend + kInitiaSize :=
  List.length_replicate

theorem new_valid (initiaSize : Nat) : (new initiaSize).Valid :=
  { prepend := Nat.le_refl _
    ordered := Nat.le_refl _
    inside := by
      rw [new_length]
      exact Nat.le_add_right _ _
    bounded := by
      rw [new_length]
      decide }

theorem new_readable (initiaSize : Nat) : (new initiaSize).readable = [] := slice_empty _ _

theorem readable_bytes_exact (b : Buffer) (valid : b.Valid) : b.readableBytes = b.writeIndex - b.readerIndex := by
  have inside := valid.inside
  have bounded := valid.bounded
  unfold maxSize at bounded
  exact size_sub_exact _ _ valid.ordered (by omega)

theorem readable_length (b : Buffer) (valid : b.Valid) : b.readable.length = b.readableBytes := by
  rw [readable_bytes_exact b valid]
  exact slice_length _ _ _ valid.inside

theorem writable_bytes_exact (b : Buffer) (valid : b.Valid) : b.writableBytes = b.buffer.length - b.writeIndex := by
  have bounded := valid.bounded
  unfold maxSize at bounded
  exact size_sub_exact _ _ valid.inside (by omega)

theorem readable_bytes_zero (b : Buffer) (valid : b.Valid) : b.readableBytes = 0 ↔ b.readable = [] := by
  rw [← readable_length b valid, List.length_eq_zero_iff]

theorem retrieve_all_valid (b : Buffer) (valid : b.Valid) : b.retrieveAll.Valid :=
  { prepend := Nat.le_refl _
    ordered := Nat.le_refl _
    inside := Nat.le_trans valid.prepend (Nat.le_trans valid.ordered valid.inside)
    bounded := valid.bounded }

theorem retrieve_all_readable (b : Buffer) : b.retrieveAll.readable = [] := slice_empty _ _

theorem retrieve_index (b : Buffer) (len : Nat) (valid : b.Valid) (short : len < b.readableBytes) :
    sizeAdd b.readerIndex len = b.readerIndex + len := by
  rw [readable_bytes_exact b valid] at short
  have inside := valid.inside
  have bounded := valid.bounded
  unfold maxSize at bounded
  exact size_add_exact _ _ (by omega)

theorem retrieve_valid (b : Buffer) (len : Nat) (valid : b.Valid) : (b.retrieve len).Valid := by
  by_cases short : len < b.readableBytes
  · have index := retrieve_index b len valid short
    rw [retrieve, if_pos short, index]
    rw [readable_bytes_exact b valid] at short
    exact
      { prepend := Nat.le_trans valid.prepend (Nat.le_add_right _ _)
        ordered := by dsimp only; omega
        inside := valid.inside
        bounded := valid.bounded }
  · rw [retrieve, if_neg short]
    exact retrieve_all_valid b valid

theorem retrieve_readable (b : Buffer) (len : Nat) (valid : b.Valid) :
    (b.retrieve len).readable = b.readable.drop len := by
  by_cases short : len < b.readableBytes
  · rw [retrieve, if_pos short, retrieve_index b len valid short, readable, readable, slice_drop]
  · rw [retrieve, if_neg short, retrieve_all_readable, List.drop_of_length_le]
    rw [readable_length b valid]
    omega

theorem copy_into_ok (mem data : List UInt8) (dest : Nat) (room : dest + data.length ≤ mem.length) :
    copyInto mem dest data = .ok (overwrite mem dest data) := if_pos room

theorem resize_larger (mem : List UInt8) (size : Nat) (fits : size ≤ maxSize) (larger : mem.length ≤ size) :
    vectorResize mem size = .ok (mem ++ List.replicate (size - mem.length) 0) := by
  rw [vectorResize, if_neg (Nat.not_lt.mpr fits), List.take_of_length_le larger]

theorem resized_length (mem : List UInt8) (size : Nat) (larger : mem.length ≤ size) :
    (mem ++ List.replicate (size - mem.length) 0).length = size := by
  rw [List.length_append, List.length_replicate, Nat.add_sub_cancel' larger]

theorem copy_within_ok (mem : List UInt8) (first last dest : Nat) (ordered : first ≤ last) (inside : last ≤ mem.length)
    (before : dest < first ∨ first = last) (low : dest ≤ first) :
    copyWithin mem first last dest = .ok (overwrite mem dest (slice mem first last)) := by
  rw [copyWithin, if_pos]
  refine ⟨ordered, inside, by omega, ?_⟩
  omega

def Grows (b : Buffer) (len : Nat) (next : Buffer) : Prop :=
  next.Valid ∧ next.readable = b.readable ∧ len ≤ next.writableBytes

theorem grown_ok (b : Buffer) (len : Nat) (valid : b.Valid) (short : b.writableBytes < len)
    (fits : len + b.writeIndex ≤ maxSize) :
    ∃ resized, vectorResize b.buffer (len + b.writeIndex) = .ok resized ∧
      Grows b len { b with buffer := resized } := by
  rw [writable_bytes_exact b valid] at short
  have inside := valid.inside
  have larger : b.buffer.length ≤ len + b.writeIndex := by omega
  refine ⟨_, resize_larger b.buffer _ fits larger, ?_⟩
  have size := resized_length b.buffer _ larger
  have kept : Valid { b with buffer := b.buffer ++ List.replicate (len + b.writeIndex - b.buffer.length) 0 } :=
    { prepend := valid.prepend
      ordered := valid.ordered
      inside := by dsimp only; omega
      bounded := by dsimp only; omega }
  refine ⟨kept, slice_append_left _ _ _ _ inside, ?_⟩
  rw [writable_bytes_exact _ kept]
  dsimp only
  omega

-- The compacting copy: its room test excludes a reader index still at the
-- reserved prefix, so the destination lies strictly before the source.
theorem compacted_ok (b : Buffer) (len : Nat) (valid : b.Valid) (short : b.writableBytes < len)
    (room : len + kCheapPrepend ≤ b.writableBytes + b.readerIndex) :
    ∃ moved, copyWithin b.buffer b.readerIndex b.writeIndex kCheapPrepend = .ok moved ∧
      Grows b len { buffer := moved, readerIndex := kCheapPrepend, writeIndex := kCheapPrepend + b.readableBytes } := by
  have writable := writable_bytes_exact b valid
  have count := readable_bytes_exact b valid
  have prepend := valid.prepend
  have ordered := valid.ordered
  have inside := valid.inside
  have bounded := valid.bounded
  have data : (slice b.buffer b.readerIndex b.writeIndex).length = b.readableBytes := readable_length b valid
  refine ⟨_, copy_within_ok _ _ _ _ ordered inside (.inl (by omega)) prepend, ?_⟩
  have size : (overwrite b.buffer kCheapPrepend (slice b.buffer b.readerIndex b.writeIndex)).length = b.buffer.length :=
    overwrite_length _ _ _ (by omega)
  have kept : Valid ⟨overwrite b.buffer kCheapPrepend (slice b.buffer b.readerIndex b.writeIndex),
      kCheapPrepend, kCheapPrepend + b.readableBytes⟩ :=
    { prepend := Nat.le_refl _
      ordered := Nat.le_add_right _ _
      inside := by dsimp only; omega
      bounded := by dsimp only; omega }
  refine ⟨kept, ?_, ?_⟩
  · have here := overwrite_here b.buffer kCheapPrepend (slice b.buffer b.readerIndex b.writeIndex) (by omega)
    rw [data] at here
    exact here
  · rw [writable_bytes_exact _ kept]
    dsimp only
    omega

theorem make_space_outcome (b : Buffer) (len : Nat) (valid : b.Valid) (short : b.writableBytes < len)
    (fits : len + b.writeIndex < 2 ^ 64) :
    b.makeSpace len = .error .lengthError ∨ ∃ next, b.makeSpace len = .ok next ∧ Grows b len next := by
  have writable := writable_bytes_exact b valid
  have count := readable_bytes_exact b valid
  have prepend := valid.prepend
  have ordered := valid.ordered
  have inside := valid.inside
  have bounded := valid.bounded
  unfold maxSize at bounded
  have need : sizeAdd len kCheapPrepend = len + kCheapPrepend := size_add_exact _ _ (by omega)
  have spare : sizeAdd b.writableBytes b.perpendableBytes = b.writableBytes + b.readerIndex :=
    size_add_exact _ _ (by rw [perpendableBytes]; omega)
  have target : sizeAdd len b.writeIndex = len + b.writeIndex := size_add_exact _ _ fits
  have final : sizeAdd kCheapPrepend b.readableBytes = kCheapPrepend + b.readableBytes :=
    size_add_exact _ _ (by rw [kCheapPrepend]; omega)
  rw [makeSpace, spare, need, target, final]
  by_cases grow : b.writableBytes + b.readerIndex < len + kCheapPrepend
  · rw [if_pos grow]
    by_cases allowed : len + b.writeIndex ≤ maxSize
    · obtain ⟨resized, done, grows⟩ := grown_ok b len valid short allowed
      exact .inr ⟨_, by rw [done], grows⟩
    · left
      rw [vectorResize, if_pos (Nat.not_le.mp allowed)]
  · obtain ⟨moved, done, grows⟩ := compacted_ok b len valid short (Nat.not_lt.mp grow)
    rw [if_neg grow, done]
    exact .inr ⟨_, rfl, grows⟩

theorem ensure_outcome (b : Buffer) (len : Nat) (valid : b.Valid) (fits : len + b.writeIndex < 2 ^ 64) :
    b.ensureWriteableBytes len = .error .lengthError ∨
      ∃ next, b.ensureWriteableBytes len = .ok next ∧ Grows b len next := by
  by_cases short : b.writableBytes < len
  · rw [ensureWriteableBytes, if_pos short]
    exact make_space_outcome b len valid short fits
  · rw [ensureWriteableBytes, if_neg short]
    exact .inr ⟨b, rfl, valid, rfl, Nat.not_lt.mp short⟩

theorem append_outcome (b : Buffer) (data : List UInt8) (valid : b.Valid) (fits : data.length + b.writeIndex < 2 ^ 64) :
    b.append data = .error .lengthError ∨
      ∃ next, b.append data = .ok next ∧ next.Valid ∧ next.readable = b.readable ++ data := by
  rcases ensure_outcome b data.length valid fits with thrown | ⟨room, done, roomValid, kept, space⟩
  · exact .inl (by rw [append, thrown])
  · right
    rw [writable_bytes_exact room roomValid] at space
    have ordered := roomValid.ordered
    have inside := roomValid.inside
    have bounded := roomValid.bounded
    have within : room.writeIndex + data.length ≤ room.buffer.length := by omega
    have index : sizeAdd room.writeIndex data.length = room.writeIndex + data.length :=
      size_add_exact _ _ (by unfold maxSize at bounded; omega)
    have size := overwrite_length room.buffer room.writeIndex data within
    refine ⟨{ room with buffer := overwrite room.buffer room.writeIndex data, writeIndex := room.writeIndex + data.length },
      by simp only [append, done, copy_into_ok _ _ _ within, index], ?_, ?_⟩
    · exact
        { prepend := roomValid.prepend
          ordered := Nat.le_trans ordered (Nat.le_add_right _ _)
          inside := by dsimp only; omega
          bounded := by dsimp only; omega }
    · have cut := slice_split (overwrite room.buffer room.writeIndex data) room.readerIndex room.writeIndex
        (room.writeIndex + data.length) ordered (Nat.le_add_right _ _)
      rw [overwrite_before _ _ _ _ _ (Nat.le_refl _) inside, overwrite_here _ _ _ inside] at cut
      rw [← kept]
      exact cut

theorem read_out_ok (mem : List UInt8) (first len : Nat) (inside : first + len ≤ mem.length) :
    readOut mem first len = .ok (slice mem first (first + len)) := if_pos inside

theorem retrieve_as_string_ok (b : Buffer) (len : Nat) (valid : b.Valid) (within : len ≤ b.readableBytes) :
    b.retrieveAsString len = .ok (b.readable.take len, b.retrieve len) := by
  have count := readable_bytes_exact b valid
  have ordered := valid.ordered
  have inside := valid.inside
  have bounded := valid.bounded
  rw [retrieveAsString, if_neg (by omega), read_out_ok _ _ _ (by omega), readable, slice_take _ _ _ _ (by omega)]

end Buffer

end Cmuduo.Net
