/-
The two choices that a stored log is written with: how wide its numbers are, and in which order
their bytes stand.  `ByteOrder.bytes` and `ByteOrder.number` write and read one number.
-/
import Scrollback.Log.Basic

namespace Scrollback

/-- The width of every count, offset and size in a stored log. -/
inductive Mode where
  | u16
  | u32
  | u64
  deriving DecidableEq, Repr

/-- Which byte of a number comes first: the least significant or the most significant. -/
inductive ByteOrder where
  | little
  | big
  deriving DecidableEq, Repr

namespace Mode

/-- Every mode, the narrowest first. -/
def all : List Mode := [.u16, .u32, .u64]

/-- Bytes to a number. -/
def width : Mode → Nat
  | .u16 => 2
  | .u32 => 4
  | .u64 => 8

/-- The greatest number. -/
def max : Mode → Nat
  | .u16 => UInt16.size - 1
  | .u32 => UInt32.size - 1
  | .u64 => UInt64.size - 1

/-- How a stored log names its mode. -/
def tag : Mode → UInt8
  | .u16 => 0
  | .u32 => 1
  | .u64 => 2

def ofTag? (t : UInt8) : Option Mode :=
  all.find? fun m => m.tag == t

def text : Mode → String
  | .u16 => "u16"
  | .u32 => "u32"
  | .u64 => "u64"

def ofText? (name : String) : Option Mode :=
  all.find? fun m => m.text == name

end Mode

namespace ByteOrder

/-- The order that files are read and, unless asked otherwise, written in. -/
def native : ByteOrder := .little

/-- How a stored log names its byte order. -/
def tag : ByteOrder → UInt8
  | .little => 0
  | .big => 1

def ofTag? (t : UInt8) : Option ByteOrder :=
  [little, big].find? fun o => o.tag == t

def text : ByteOrder → String
  | .little => "little-endian"
  | .big => "big-endian"

/-- The lowest `width` bytes of a number. -/
def bytes (o : ByteOrder) (width n : Nat) : List UInt8 :=
  let low := (List.range width).map fun i => UInt8.ofNat (n >>> (8 * i))
  match o with
  | .little => low
  | .big => low.reverse

/-- The number that some bytes spell. -/
def number (o : ByteOrder) (bs : List UInt8) : Nat :=
  let low := match o with
    | .little => bs
    | .big => bs.reverse
  low.foldr (fun b acc => b.toNat + 256 * acc) 0

end ByteOrder

/-- The 64-bit word of an integer, negative ones in two's complement. -/
def wordOfInt (i : Int) : Nat := (BitVec.ofInt 64 i).toNat

/-- The integer of a 64-bit word in two's complement. -/
def intOfWord (n : Nat) : Int := (BitVec.ofNat 64 n).toInt

end Scrollback
