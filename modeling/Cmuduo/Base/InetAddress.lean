import Mathlib.Data.Nat.Digits.Defs

set_option autoImplicit false

namespace Cmuduo.Base

-- An IPv4 sockaddr_in: the four bytes of sin_addr in network order, and the
-- port in host order.
structure InetAddress where
  a : UInt8
  b : UInt8
  c : UInt8
  d : UInt8
  port : UInt16
deriving DecidableEq

-- %u and %d of a number that is not negative.
def decimal (n : Nat) : List Char := Nat.toDigits 10 n

namespace InetAddress

def toIp (address : InetAddress) : List Char :=
  decimal address.a.toNat ++ '.' :: decimal address.b.toNat ++ '.' :: decimal address.c.toNat ++
    '.' :: decimal address.d.toNat

def toPort (address : InetAddress) : UInt16 := address.port

def toIpPort (address : InetAddress) : List Char := address.toIp ++ ':' :: decimal address.toPort.toNat

end InetAddress

theorem decimal_injective : Function.Injective decimal := by
  have readBack : Function.LeftInverse (fun digits => Nat.ofDigitChars 10 digits 0) decimal := fun _ =>
    Nat.ofDigitChars_ten_toDigits
  exact readBack.injective

theorem decimal_length (n digits : Nat) (some : 0 < digits) (bound : n < 10 ^ digits) :
    (decimal n).length ≤ digits :=
  Nat.toDigits_length 10 n digits some bound

theorem byte_length (byte : UInt8) : (decimal byte.toNat).length ≤ 3 :=
  decimal_length _ 3 (by decide) (Nat.lt_of_lt_of_le byte.toNat_lt (by decide))

theorem port_length (port : UInt16) : (decimal port.toNat).length ≤ 5 :=
  decimal_length _ 5 (by decide) (Nat.lt_of_lt_of_le port.toNat_lt (by decide))

-- Far below the 64 bytes of the arrays that toIp and toIpPort print to.
theorem to_ip_port_length (address : InetAddress) : address.toIpPort.length ≤ 21 := by
  have a := byte_length address.a
  have b := byte_length address.b
  have c := byte_length address.c
  have d := byte_length address.d
  have port := port_length address.port
  simp only [InetAddress.toIpPort, InetAddress.toIp, InetAddress.toPort, List.length_append, List.length_cons]
  omega

end Cmuduo.Base
