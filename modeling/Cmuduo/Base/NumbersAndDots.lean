import Cmuduo.Base.InetAddress
import Mathlib.Data.List.TakeWhile

set_option autoImplicit false

namespace Cmuduo.Base

def digitValue (c : Char) : Option Nat :=
  if c.isDigit then some (c.toNat - '0'.toNat)
  else if 'a' ≤ c ∧ c ≤ 'f' then some (c.toNat - 'a'.toNat + 10)
  else if 'A' ≤ c ∧ c ≤ 'F' then some (c.toNat - 'A'.toNat + 10)
  else none

def readDigits (base : Nat) : Nat → List Char → Option Nat
  | value, [] => some value
  | value, c :: rest =>
      match digitValue c with
      | none => none
      | some digit => if digit < base then readDigits base (base * value + digit) rest else none

-- ::strtoul with base 0, of a text that begins with a digit and is a number to
-- its end.
def readPart : List Char → Option Nat
  | '0' :: 'x' :: c :: rest => readDigits 16 0 (c :: rest)
  | '0' :: 'X' :: c :: rest => readDigits 16 0 (c :: rest)
  | '0' :: rest => readDigits 8 0 rest
  | [] => none
  | digits => readDigits 10 0 digits

def addressEnds (c : Char) : Bool := c.toNat == 0 || c == ' ' || (9 ≤ c.toNat && c.toNat ≤ 13)

-- ::inet_addr, which reads up to white space; none is INADDR_NONE. The last part
-- fills the bytes that are left.
def inetAddr (text : List Char) : Option (UInt8 × UInt8 × UInt8 × UInt8) :=
  match ((text.takeWhile (!addressEnds ·)).splitOn '.').mapM readPart with
  | some [a] => if a < 2 ^ 32 then some (.ofNat (a / 2 ^ 24), .ofNat (a / 2 ^ 16), .ofNat (a / 2 ^ 8), .ofNat a) else none
  | some [a, b] =>
      if a < 2 ^ 8 ∧ b < 2 ^ 24 then some (.ofNat a, .ofNat (b / 2 ^ 16), .ofNat (b / 2 ^ 8), .ofNat b) else none
  | some [a, b, c] =>
      if a < 2 ^ 8 ∧ b < 2 ^ 8 ∧ c < 2 ^ 16 then some (.ofNat a, .ofNat b, .ofNat (c / 2 ^ 8), .ofNat c) else none
  | some [a, b, c, d] =>
      if a < 2 ^ 8 ∧ b < 2 ^ 8 ∧ c < 2 ^ 8 ∧ d < 2 ^ 8 then some (.ofNat a, .ofNat b, .ofNat c, .ofNat d) else none
  | _ => none

-- The constructor from a port and a text, of which c_str() shows what stands
-- before a NUL.
def InetAddress.new (port : UInt16) (ip : List Char) : InetAddress :=
  match inetAddr ip with
  | some (a, b, c, d) => ⟨a, b, c, d, port⟩
  | none => ⟨255, 255, 255, 255, port⟩

theorem read_digits_decimal (value : Nat) (digits : List Char) (decimal : ∀ c ∈ digits, c.isDigit = true) :
    readDigits 10 value digits = some (Nat.ofDigitChars 10 digits value) := by
  induction digits generalizing value with
  | nil => rw [readDigits, Nat.ofDigitChars_nil]
  | cons c rest ih =>
      have digit := decimal c List.mem_cons_self
      have small : c.toNat - '0'.toNat < 10 := by
        have bounds := Char.isDigit_iff_toNat.mp digit
        have zero : '0'.toNat = 48 := rfl
        have nine : '9'.toNat = 57 := rfl
        omega
      simp only [readDigits, digitValue, if_pos digit, if_pos small]
      rw [ih _ fun other member => decimal other (List.mem_cons_of_mem c member), Nat.ofDigitChars_cons]

theorem decimal_digits (n : Nat) : ∀ c ∈ decimal n, c.isDigit = true := fun _ member =>
  Nat.isDigit_of_mem_toDigits (by decide) (by decide) member

-- No decimal but 0 begins with the 0 that stands for another base.
theorem decimal_leading (n : Nat) (positive : 0 < n) : ∃ c rest, decimal n = c :: rest ∧ c ≠ '0' := by
  induction n using Nat.strongRecOn with
  | ind n ih =>
      rcases Nat.lt_or_ge n 10 with small | large
      · have each : ∀ m < 10, 0 < m → m.digitChar ≠ '0' := by decide
        exact ⟨n.digitChar, [], Nat.toDigits_of_lt_base small, each n small positive⟩
      · obtain ⟨c, rest, front, leading⟩ := ih (n / 10) (by omega) (by omega)
        refine ⟨c, rest ++ [(n % 10).digitChar], ?_, leading⟩
        rw [decimal, Nat.toDigits_of_base_le (by decide) large, ← decimal, front]
        rfl

theorem read_part_decimal (n : Nat) : readPart (decimal n) = some n := by
  rcases Nat.eq_zero_or_pos n with rfl | positive
  · rfl
  · obtain ⟨c, rest, same, leading⟩ := decimal_leading n positive
    have whole : readPart (c :: rest) = readDigits 10 0 (c :: rest) := by
      simp [readPart, leading]
    rw [same, whole, ← same, read_digits_decimal 0 _ (decimal_digits n), decimal, Nat.ofDigitChars_ten_toDigits]

theorem decimal_plain (n : Nat) (c : Char) (member : c ∈ decimal n) : addressEnds c = false ∧ c ≠ '.' ∧ c ≠ ':' := by
  have bounds := Char.isDigit_iff_toNat.mp (decimal_digits n c member)
  have zero : '0'.toNat = 48 := rfl
  have nine : '9'.toNat = 57 := rfl
  refine ⟨?_, ?_, ?_⟩
  · have space : c ≠ ' ' := by
      rintro rfl
      exact absurd bounds (by decide)
    simp only [addressEnds, Bool.or_eq_false_iff, beq_eq_false_iff_ne, Bool.and_eq_false_iff, decide_eq_false_iff_not]
    exact ⟨⟨by omega, space⟩, .inr (by omega)⟩
  · rintro rfl
    exact absurd bounds (by decide)
  · rintro rfl
    exact absurd bounds (by decide)

namespace InetAddress

theorem to_ip_parts (address : InetAddress) : address.toIp = ['.'].intercalate
    [decimal address.a.toNat, decimal address.b.toNat, decimal address.c.toNat, decimal address.d.toNat] := by
  simp [toIp, List.intercalate]

theorem to_ip_plain (address : InetAddress) (c : Char) (member : c ∈ address.toIp) : addressEnds c = false ∧ c ≠ ':' := by
  have dot : addressEnds '.' = false ∧ '.' ≠ ':' := by decide
  simp only [toIp, List.mem_append, List.mem_cons] at member
  rcases member with ((digit | rfl | digit) | rfl | digit) | rfl | digit
  · exact ⟨(decimal_plain _ c digit).1, (decimal_plain _ c digit).2.2⟩
  · exact dot
  · exact ⟨(decimal_plain _ c digit).1, (decimal_plain _ c digit).2.2⟩
  · exact dot
  · exact ⟨(decimal_plain _ c digit).1, (decimal_plain _ c digit).2.2⟩
  · exact dot
  · exact ⟨(decimal_plain _ c digit).1, (decimal_plain _ c digit).2.2⟩

theorem inet_addr_to_ip (address : InetAddress) :
    inetAddr address.toIp = some (address.a, address.b, address.c, address.d) := by
  have whole : address.toIp.takeWhile (!addressEnds ·) = address.toIp :=
    List.takeWhile_eq_self_iff.mpr fun c member => by simp [(address.to_ip_plain c member).1]
  have parts : address.toIp.splitOn '.' =
      [decimal address.a.toNat, decimal address.b.toNat, decimal address.c.toNat, decimal address.d.toNat] := by
    rw [to_ip_parts]
    refine List.splitOn_intercalate '.' (fun part member => ?_) (by simp)
    have plain : ∀ n, '.' ∉ decimal n := fun n inside => (decimal_plain n '.' inside).2.1 rfl
    simp only [List.mem_cons, List.not_mem_nil, or_false] at member
    rcases member with rfl | rfl | rfl | rfl <;> exact plain _
  rw [inetAddr, whole, parts]
  simp only [List.mapM_cons, List.mapM_nil, read_part_decimal, Option.pure_def, Option.bind_eq_bind, Option.bind_some]
  rw [if_pos ⟨address.a.toNat_lt, address.b.toNat_lt, address.c.toNat_lt, address.d.toNat_lt⟩]
  simp only [UInt8.ofNat_toNat]

theorem new_to_ip (address : InetAddress) (port : UInt16) : .new port address.toIp = { address with port := port } := by
  rw [new, inet_addr_to_ip]

theorem to_ip_port_injective (address other : InetAddress) (same : address.toIpPort = other.toIpPort) : address = other := by
  have front : ∀ address : InetAddress, address.toIpPort.takeWhile (· != ':') = address.toIp := by
    intro address
    rw [toIpPort, List.takeWhile_append_of_pos fun c member => by simp [(address.to_ip_plain c member).2]]
    simp
  have ip : address.toIp = other.toIp := by rw [← front address, ← front other, same]
  rw [toIpPort, toIpPort, ip, List.append_cancel_left_eq] at same
  have port : address.port = other.port := UInt16.toNat_inj.mp (decimal_injective (List.cons.inj same).2)
  calc address = .new address.port address.toIp := (address.new_to_ip address.port).symm
    _ = .new other.port other.toIp := by rw [ip, port]
    _ = other := other.new_to_ip other.port

end InetAddress

-- What an address prints reads back as the address, and the text with the port
-- belongs to it alone.
theorem address_text_round_trip (address : InetAddress) :
    InetAddress.new address.toPort address.toIp = address ∧
      ∀ other : InetAddress, other.toIpPort = address.toIpPort ↔ other = address :=
  ⟨address.new_to_ip address.port, fun other =>
    ⟨other.to_ip_port_injective address, fun same => congrArg InetAddress.toIpPort same⟩⟩

end Cmuduo.Base
