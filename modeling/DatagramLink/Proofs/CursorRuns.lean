import DatagramLink.Proofs.HeaderExactness

/-!
# Cursors in use

Whatever is done with a cursor, its position stays within its bytes.  From that alone it
follows what a read does: it takes its piece off the front of what is left, or there is
too little and nothing changes.  Writes extend what is left, so values that are put into
an empty cursor are taken out of it again.
-/

namespace DatagramLink
namespace Cursor

/-! ## Values -/

/-- A value that is written in one piece. -/
inductive Item where
  | word16 (word : UInt16)
  | word32 (word : UInt32)
  | run (bytes : ByteArray)
  deriving DecidableEq

/-- The kind of a value, as a reader asks for it. -/
inductive Shape where
  | word16
  | word32
  | run (count : Nat)
  deriving DecidableEq, Repr

namespace Shape

def width : Shape → Nat
  | .word16 => 2
  | .word32 => 4
  | .run count => count

end Shape

namespace Item

def shape : Item → Shape
  | .word16 _ => .word16
  | .word32 _ => .word32
  | .run bytes => .run bytes.size

def bytes : Item → ByteArray
  | .word16 word => Cursor.word16 word
  | .word32 word => Cursor.word32 word
  | .run bytes => bytes

/-- Values in a row. -/
def join : List Item → ByteArray
  | [] => ByteArray.empty
  | item :: rest => item.bytes ++ join rest

theorem size_bytes (item : Item) : item.bytes.size = item.shape.width := by
  cases item with
  | word16 word => exact size_word16 word
  | word32 word => exact size_word32 word
  | run bytes => rfl

/-- Enough bytes start with a value of every shape. -/
theorem exists_bytes_append {shape : Shape} {bytes : ByteArray}
    (hsize : shape.width ≤ bytes.size) :
    ∃ item rest, Item.shape item = shape ∧ bytes = Item.bytes item ++ rest := by
  cases shape with
  | word16 =>
      obtain ⟨word, rest, happend⟩ := exists_word16_append hsize
      exact ⟨.word16 word, rest, rfl, happend⟩
  | word32 =>
      obtain ⟨word, rest, happend⟩ := exists_word32_append hsize
      exact ⟨.word32 word, rest, rfl, happend⟩
  | run count =>
      obtain ⟨piece, rest, hpiece, happend⟩ := Bytes.exists_append_of_le hsize
      exact ⟨.run piece, rest, congrArg Shape.run hpiece, happend⟩

end Item

/-! ## Calls -/

def put (c : Cursor) : Item → Cursor
  | .word16 word => c.writeWord16 word
  | .word32 word => c.writeWord32 word
  | .run bytes => c.write bytes

def take (c : Cursor) : Shape → Except Truncated Item × Cursor
  | .word16 => (c.readWord16.1.map .word16, c.readWord16.2)
  | .word32 => (c.readWord32.1.map .word32, c.readWord32.2)
  | .run count => ((c.read count).1.map .run, (c.read count).2)

def putAll (c : Cursor) (items : List Item) : Cursor := items.foldl put c

/-- Takes values one after the other, up to the first that is not there. -/
def takeAll (c : Cursor) : List Shape → Except Truncated (List Item) × Cursor
  | [] => (.ok [], c)
  | shape :: shapes =>
    match c.take shape with
    | (.error cause, c) => (.error cause, c)
    | (.ok item, c) =>
      match c.takeAll shapes with
      | (result, c) => (result.map (item :: ·), c)

/-- What can be done with a cursor. -/
inductive Call where
  | put (item : Item)
  | take (shape : Shape)
  | rewind
  | clear
  | replace (bytes : ByteArray)

def perform (c : Cursor) : Call → Cursor
  | .put item => c.put item
  | .take shape => (c.take shape).2
  | .rewind => c.rewind
  | .clear => c.clear
  | .replace bytes => c.replace bytes

def run (c : Cursor) (calls : List Call) : Cursor := calls.foldl perform c

variable {c : Cursor}

theorem put_eq (c : Cursor) (item : Item) : c.put item = c.write item.bytes := by
  cases item <;> rfl

theorem InBounds.put (hin : c.InBounds) (item : Item) : (c.put item).InBounds := by
  rw [put_eq]
  unfold InBounds at *
  simp only [write, ByteArray.size_append]
  omega

theorem InBounds.take (hin : c.InBounds) (shape : Shape) : (c.take shape).2.InBounds := by
  cases shape with
  | word16 => exact hin.readWord16
  | word32 => exact hin.readWord32
  | run count => exact hin.read count

theorem InBounds.perform (hin : c.InBounds) (call : Call) : (c.perform call).InBounds := by
  cases call with
  | put item => exact hin.put item
  | take shape => exact hin.take shape
  | rewind => exact Nat.zero_le _
  | clear => exact Nat.zero_le _
  | replace bytes => exact inBounds_ofBytes bytes

theorem InBounds.run (hin : c.InBounds) (calls : List Call) : (c.run calls).InBounds := by
  induction calls generalizing c with
  | nil => exact hin
  | cons call calls ih => exact ih (hin.perform call)

/-! ## Reading -/

theorem take_of_append (hin : c.InBounds) {item : Item} {rest : ByteArray}
    (hrest : c.remaining = item.bytes ++ rest) :
    c.take item.shape = (.ok item, c.skip item.shape.width) := by
  cases item with
  | word16 word =>
      have hread : c.readWord16 = (.ok word, c.skip 2) := readWord16_of_append hin hrest
      rw [Item.shape, take, hread]
      rfl
  | word32 word =>
      have hread : c.readWord32 = (.ok word, c.skip 4) := readWord32_of_append hin hrest
      rw [Item.shape, take, hread]
      rfl
  | run bytes =>
      have hread : c.read bytes.size = (.ok bytes, c.skip bytes.size) :=
        read_of_append hin hrest
      rw [Item.shape, take, hread]
      rfl

theorem read_of_short (hin : c.InBounds) {count : Nat} (hshort : c.remaining.size < count) :
    c.read count = (.error ⟨c.position, count, c.size⟩, c) := by
  have hbeyond : ¬ c.position + count ≤ c.bytes.size := by
    rw [size_remaining] at hshort
    unfold InBounds at hin
    omega
  rw [read, if_neg hbeyond]
  rfl

theorem take_of_short (hin : c.InBounds) {shape : Shape}
    (hshort : c.remaining.size < shape.width) :
    c.take shape = (.error ⟨c.position, shape.width, c.size⟩, c) := by
  have hread := read_of_short hin hshort
  cases shape with
  | word16 =>
      change c.read 2 = _ at hread
      rw [take, readWord16, hread]
      rfl
  | word32 =>
      change c.read 4 = _ at hread
      rw [take, readWord32, hread]
      rfl
  | run count =>
      change c.read count = _ at hread
      rw [take, hread]
      rfl

/-- What was read and what is left make up the bytes. -/
theorem InBounds.extract_append_remaining (hin : c.InBounds) :
    c.bytes.extract 0 c.position ++ c.remaining = c.bytes := by
  rw [remaining, ByteArray.extract_append_extract, Nat.min_eq_left (Nat.zero_le _),
    Nat.max_eq_right hin, ByteArray.extract_zero_size]

theorem InBounds.remaining_put (hin : c.InBounds) (item : Item) :
    (c.put item).remaining = c.remaining ++ item.bytes := by
  have hfront : (c.bytes.extract 0 c.position).size = c.position := by
    unfold InBounds at hin
    rw [ByteArray.size_extract]
    omega
  have hbytes : (c.put item).bytes =
      c.bytes.extract 0 c.position ++ (c.remaining ++ item.bytes) := by
    rw [put_eq, ← ByteArray.append_assoc, hin.extract_append_remaining]
    rfl
  have hposition : (c.put item).position = c.position := by
    rw [put_eq]
    rfl
  rw [remaining, hbytes, hposition]
  exact ByteArray.extract_append_eq_right hfront.symm ByteArray.size_append

/-! ## What was put in comes out -/

theorem InBounds.putAll (hin : c.InBounds) (items : List Item) :
    (c.putAll items).InBounds ∧
      (c.putAll items).remaining = c.remaining ++ Item.join items := by
  induction items generalizing c with
  | nil => exact ⟨hin, ByteArray.append_empty.symm⟩
  | cons item items ih =>
      obtain ⟨hlast, hremaining⟩ := ih (hin.put item)
      refine ⟨hlast, hremaining.trans ?_⟩
      rw [hin.remaining_put, ByteArray.append_assoc]
      rfl

theorem InBounds.takeAll (hin : c.InBounds) {items : List Item} {rest : ByteArray}
    (hrest : c.remaining = Item.join items ++ rest) :
    ∃ last, c.takeAll (items.map Item.shape) = (.ok items, last) ∧ last.remaining = rest := by
  induction items generalizing c with
  | nil => exact ⟨c, rfl, hrest.trans ByteArray.empty_append⟩
  | cons item items ih =>
      rw [Item.join, ByteArray.append_assoc] at hrest
      have htake := take_of_append hin hrest
      have hnext := hin.skip hrest
      have hleft := remaining_skip_of_append hrest
      rw [item.size_bytes] at hnext hleft
      obtain ⟨last, hlater, hlast⟩ := ih hnext hleft
      refine ⟨last, ?_, hlast⟩
      rw [List.map_cons, Cursor.takeAll, htake]
      simp only [hlater]
      rfl

/-! ## Machine words -/

/-- The sum of two words, unless it is too large for one. -/
def checkedSum (a b : UInt64) : Option UInt64 :=
  if a.toNat + b.toNat < 2 ^ 64 then some (a + b) else none

/-- The read of a machine, whose positions and counts are words. -/
def readCounted (c : Cursor) (count : UInt64) : Except Truncated ByteArray × Cursor :=
  match (checkedSum (UInt64.ofNat c.position) count).filter (·.toNat ≤ c.bytes.size) with
  | some stop =>
    (.ok (c.bytes.extract c.position stop.toNat), { c with position := stop.toNat })
  | none => (.error ⟨c.position, count.toNat, c.bytes.size⟩, c)

/-- A sum that does not fit into a word ends behind all bytes, so nothing is lost by
refusing it. -/
theorem InBounds.readCounted_eq (hin : c.InBounds) (hmemory : c.size < 2 ^ 64)
    (count : UInt64) :
    c.readCounted count = c.read count.toNat := by
  have hposition : (UInt64.ofNat c.position).toNat = c.position :=
    UInt64.toNat_ofNat_of_lt' (Nat.lt_of_le_of_lt hin hmemory)
  unfold size at hmemory
  unfold readCounted checkedSum Cursor.read
  rw [hposition]
  by_cases hfits : c.position + count.toNat < 2 ^ 64
  · have hsum : (UInt64.ofNat c.position + count).toNat = c.position + count.toNat := by
      rw [UInt64.toNat_add, hposition, Nat.mod_eq_of_lt hfits]
    rw [if_pos hfits]
    by_cases hwithin : c.position + count.toNat ≤ c.bytes.size
    · simp [Option.filter, hsum, hwithin]
    · simp [Option.filter, hsum, hwithin]
  · have hbeyond : ¬ c.position + count.toNat ≤ c.bytes.size := by omega
    rw [if_neg hfits, if_neg hbeyond]
    rfl

/-! ## Runs -/

/-- What holds of a cursor whose position is within its bytes. -/
structure Disciplined (c : Cursor) : Prop where
  within : c.position ≤ c.size
  whole : c.bytes.extract 0 c.position ++ c.remaining = c.bytes
  /-- A read takes the next bytes where there are enough of them, -/
  takes : ∀ shape, shape.width ≤ c.remaining.size →
    ∃ item, Item.shape item = shape ∧ c.take shape = (.ok item, c.skip shape.width) ∧
      c.remaining = Item.bytes item ++ (c.skip shape.width).remaining
  /-- and changes nothing where there are not, -/
  refuses : ∀ shape, c.remaining.size < Shape.width shape →
    c.take shape = (.error ⟨c.position, shape.width, c.size⟩, c)
  /-- however many are asked for. -/
  counted : c.size < 2 ^ 64 → ∀ count : UInt64, c.readCounted count = c.read count.toNat
  puts : ∀ item, (c.put item).bytes = c.bytes ++ item.bytes ∧
    (c.put item).position = c.position

theorem InBounds.disciplined (hin : c.InBounds) : c.Disciplined where
  within := hin
  whole := hin.extract_append_remaining
  takes := by
    intro shape hsize
    obtain ⟨item, rest, rfl, hrest⟩ := Item.exists_bytes_append hsize
    have hleft := remaining_skip_of_append hrest
    rw [item.size_bytes] at hleft
    exact ⟨item, rfl, take_of_append hin hrest, by rw [hleft, hrest]⟩
  refuses := fun shape hshort => take_of_short hin hshort
  counted := hin.readCounted_eq
  puts := by
    intro item
    rw [put_eq]
    exact ⟨rfl, rfl⟩

/-- Whatever was done with a cursor, its position is within its bytes and its reads and writes
keep to them; and values that are put into an empty cursor are taken out as they were, with
nothing left behind them. -/
theorem disciplined_run :
    (∀ (bytes : ByteArray) (calls : List Call), ((ofBytes bytes).run calls).Disciplined) ∧
    ∀ items : List Item, ∃ last,
      (empty.putAll items).takeAll (items.map Item.shape) = (.ok items, last) ∧
        last.remaining = ByteArray.empty := by
  refine ⟨?runs, ?comesOut⟩
  case runs =>
    intro bytes calls
    exact ((inBounds_ofBytes bytes).run calls).disciplined
  case comesOut =>
    intro items
    have hempty : empty.InBounds := inBounds_ofBytes ByteArray.empty
    obtain ⟨hin, hremaining⟩ := hempty.putAll items
    apply hin.takeAll
    rw [hremaining, ByteArray.append_empty]
    exact ByteArray.empty_append

/-- A count that does not fit into a word on top of the position. -/
example : ((ofBytes ⟨#[1, 2, 3]⟩).run [.take .word16, .take (.run (2 ^ 64 - 1))]).position = 2 := by
  decide

end Cursor
end DatagramLink
