/-!
# Byte strings

Little-endian words and generated runs of bytes, over the packed `ByteArray` that datagrams and
messages are made of.  The list `b.data.toList` is the view that laws are stated on: writing a word
and reading it back gives the word modulo its width (`toNat_littleEndian`), and a generated run is
its function mapped over the indices (`toList_generate`).
-/

namespace DatagramLink

/-- Byte strings are compared as core does it, whatever other instances a module sees. -/
instance instDecidableEqBytes : DecidableEq ByteArray := ByteArray.instDecidableEq

namespace Bytes

/-- The `width` low-order bytes of `value`, least significant first. -/
def littleEndianList : Nat → Nat → List UInt8
  | 0, _ => []
  | width + 1, value => UInt8.ofNat value :: littleEndianList width (value / 256)

/-- The number that a list of bytes spells, least significant first. -/
def ofLittleEndianList : List UInt8 → Nat
  | [] => 0
  | byte :: rest => byte.toNat + 256 * ofLittleEndianList rest

/-- How many numbers fit into `width` bytes. -/
def capacity : Nat → Nat
  | 0 => 1
  | width + 1 => 256 * capacity width

/-- A number as `width` bytes, least significant first; higher bits are dropped. -/
def littleEndian (width value : Nat) : ByteArray :=
  (littleEndianList width value).toByteArray

/-- The number that a byte string spells, least significant byte first. -/
def toNat (bytes : ByteArray) : Nat :=
  ofLittleEndianList bytes.data.toList

@[simp] theorem length_littleEndianList (width value : Nat) :
    (littleEndianList width value).length = width := by
  induction width generalizing value with
  | zero => rfl
  | succ width ih => simp [littleEndianList, ih]

@[simp] theorem size_littleEndian (width value : Nat) :
    (littleEndian width value).size = width := by
  simp [littleEndian]

/-- Reading back a written word gives it modulo what its width can hold. -/
theorem ofLittleEndianList_littleEndianList (width value : Nat) :
    ofLittleEndianList (littleEndianList width value) = value % capacity width := by
  induction width generalizing value with
  | zero => simp [littleEndianList, ofLittleEndianList, capacity, Nat.mod_one]
  | succ width ih =>
      rw [littleEndianList, ofLittleEndianList, ih, capacity, Nat.mod_mul]
      simp

theorem toNat_littleEndian (width value : Nat) :
    toNat (littleEndian width value) = value % capacity width := by
  simp [toNat, littleEndian, ofLittleEndianList_littleEndianList]

/-- Appends `f index`, `f (index + 1)`, … , `count` bytes in all, to a packed buffer. -/
def generateFrom (f : Nat → UInt8) : Nat → Nat → ByteArray → ByteArray
  | 0, _, done => done
  | count + 1, index, done => generateFrom f count (index + 1) (done.push (f index))

/-- The byte string `f 0, f 1, …, f (count - 1)`. -/
def generate (count : Nat) (f : Nat → UInt8) : ByteArray :=
  generateFrom f count 0 (ByteArray.emptyWithCapacity count)

/-- `count` times the same byte. -/
def fill (byte : UInt8) (count : Nat) : ByteArray :=
  generate count fun _ => byte

theorem toList_generateFrom (f : Nat → UInt8) (count index : Nat) (done : ByteArray) :
    (generateFrom f count index done).data.toList =
      done.data.toList ++ (List.range' index count).map f := by
  induction count generalizing index done with
  | zero => simp [generateFrom]
  | succ count ih => simp [generateFrom, ih, List.range'_succ, List.append_assoc]

/-- A generated run is its function mapped over the indices. -/
theorem toList_generate (count : Nat) (f : Nat → UInt8) :
    (generate count f).data.toList = (List.range count).map f := by
  rw [generate, toList_generateFrom, List.range_eq_range']
  rfl

@[simp] theorem size_generate (count : Nat) (f : Nat → UInt8) :
    (generate count f).size = count := by
  have h := congrArg List.length (toList_generate count f)
  simpa using h

end Bytes
end DatagramLink
