import Mathlib.Algebra.Group.Nat.Defs
import Mathlib.Data.List.Basic

set_option autoImplicit false

namespace Cmuduo.Net

-- How a call can end other than by returning: an exception of the standard
-- library, an access the language leaves undefined, or LOG_FATAL's exit(-1).
inductive Stop where
  | lengthError
  | badAccess
  | fatalExit
deriving DecidableEq, Repr

inductive Errno where
  | EINTR
  | EWOULDBLOCK
  | EPIPE
  | ECONNRESET
  | other (code : Nat)
deriving DecidableEq, Repr

-- ::write either finds room for some number of bytes and takes as many of the
-- offered ones as fit, or returns -1. Over all values of room the return value
-- ranges over exactly 0 .. offered.length.
inductive WriteResult where
  | room (count : Nat)
  | error (errno : Errno)
deriving DecidableEq, Repr

def kernelWrite (offered : List UInt8) : WriteResult → Except Errno (List UInt8)
  | .room count => .ok (offered.take count)
  | .error errno => .error errno

-- ::readv fills the offered segments in order with what has arrived, up to
-- their total size, or returns -1.
inductive ReadResult where
  | arrived (bytes : List UInt8)
  | error (errno : Errno)
deriving DecidableEq, Repr

def kernelReadv (capacity : Nat) : ReadResult → Except Errno (List UInt8)
  | .arrived bytes => .ok (bytes.take capacity)
  | .error errno => .error errno

-- PTRDIFF_MAX, the max_size of std::vector<char>. The library chooses that of
-- std::string (2^62 - 1 in libstdc++); here a string may get as long as a vector.
def maxSize : Nat := 2 ^ 63 - 1

-- The content of a std::string, which max_size bounds.
structure CppString where
  bytes : List UInt8
  fits : bytes.length ≤ maxSize
deriving DecidableEq, Repr

def CppString.ofBytes (bytes : List UInt8) : CppString := ⟨bytes.take maxSize, List.length_take_le maxSize bytes⟩

def CppString.drop (text : CppString) (count : Nat) : CppString :=
  ⟨text.bytes.drop count, by
    have bound := text.fits
    rw [List.length_drop]
    omega⟩

def CppString.take (text : CppString) (count : Nat) : CppString :=
  ⟨text.bytes.take count, by
    have bound := text.fits
    rw [List.length_take]
    omega⟩

theorem taken_and_dropped (text : CppString) (count : Nat) :
    text.bytes.take count ++ (text.drop (text.bytes.take count).length).bytes = text.bytes := by
  change text.bytes.take count ++ text.bytes.drop (text.bytes.take count).length = text.bytes
  rw [List.length_take]
  rcases Nat.le_total count text.bytes.length with within | beyond
  · rw [Nat.min_eq_left within, List.take_append_drop]
  · rw [Nat.min_eq_right beyond, List.take_of_length_le beyond, List.drop_length, List.append_nil]

end Cmuduo.Net
