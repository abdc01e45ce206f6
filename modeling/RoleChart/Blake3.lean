/-!
# BLAKE3

The unkeyed 32-byte hash. The input is cut into chunks of 1024 bytes, each chunk into blocks of 64
bytes, and the chunks are the leaves of a binary tree whose left subtrees are complete.

## Main statements

* `length_hex` — a digest is written with 64 digits
* `hexDigit_of_mem_hex` — each of them a hexadecimal digit with small letters
-/

namespace RoleChart.Blake3

/-- Eight words of chaining value. -/
abbrev Words8 := Vector UInt32 8

/-- Sixteen words of a block or of the state. -/
abbrev Words16 := Vector UInt32 16

/-- The first words of the fractional parts of the square roots of the first eight primes. -/
def initial : Words8 :=
  #v[0x6A09E667, 0xBB67AE85, 0x3C6EF372, 0xA54FF53A, 0x510E527F, 0x9B05688C, 0x1F83D9AB, 0x5BE0CD19]

/-! ## Flags of a compression -/

/-- The block begins a chunk. -/
def chunkStart : UInt32 := 1

/-- The block ends a chunk. -/
def chunkEnd : UInt32 := 2

/-- The block holds two chaining values. -/
def parent : UInt32 := 4

/-- The compression gives the digest. -/
def root : UInt32 := 8

/-! ## Compression -/

/-- Rotation to the right. -/
def rotate (x : UInt32) (n : UInt32) : UInt32 := (x >>> n) ||| (x <<< (32 - n))

/-- Mixes two message words into four state words. -/
def mix (v : Words16) (a b c d : Fin 16) (x y : UInt32) : Words16 :=
  let va := v[a] + v[b] + x
  let vd := rotate (v[d] ^^^ va) 16
  let vc := v[c] + vd
  let vb := rotate (v[b] ^^^ vc) 12
  let va := va + vb + y
  let vd := rotate (vd ^^^ va) 8
  let vc := vc + vd
  let vb := rotate (vb ^^^ vc) 7
  (((v.set a va).set b vb).set c vc).set d vd

/-- One round mixes the columns, then the diagonals. -/
def round (v m : Words16) : Words16 :=
  let v := mix v 0 4 8 12 m[0] m[1]
  let v := mix v 1 5 9 13 m[2] m[3]
  let v := mix v 2 6 10 14 m[4] m[5]
  let v := mix v 3 7 11 15 m[6] m[7]
  let v := mix v 0 5 10 15 m[8] m[9]
  let v := mix v 1 6 11 12 m[10] m[11]
  let v := mix v 2 7 8 13 m[12] m[13]
  mix v 3 4 9 14 m[14] m[15]

/-- The order of the message words in the next round. -/
def permute (m : Words16) : Words16 :=
  #v[m[2], m[6], m[3], m[10], m[7], m[0], m[4], m[13],
     m[1], m[11], m[12], m[5], m[9], m[14], m[15], m[8]]

/-- Rounds with the message permuted between them. -/
def rounds : Nat → Words16 → Words16 → Words16
  | 0, v, _ => v
  | n + 1, v, m => rounds n (round v m) (permute m)

/-- The chaining value after one block. The counter is the chunk's number. -/
def compress (cv : Words8) (m : Words16) (counter : Nat) (size flags : UInt32) : Words8 :=
  let v : Words16 :=
    #v[cv[0], cv[1], cv[2], cv[3], cv[4], cv[5], cv[6], cv[7],
       initial[0], initial[1], initial[2], initial[3],
       UInt32.ofNat counter, UInt32.ofNat (counter >>> 32), size, flags]
  let v := rounds 7 v m
  Vector.ofFn fun i : Fin 8 => v.get ⟨i.val, by omega⟩ ^^^ v.get ⟨i.val + 8, by omega⟩

/-! ## Chunks and the tree -/

/-- The word of four bytes, lowest first. Missing bytes count as zero. -/
def word (bytes : List UInt8) (i : Nat) : UInt32 :=
  let byte (k : Nat) : UInt32 := (bytes.getD (4 * i + k) 0).toUInt32
  byte 0 ||| byte 1 <<< 8 ||| byte 2 <<< 16 ||| byte 3 <<< 24

/-- A block of at most 64 bytes, filled up with zeros. -/
def block (bytes : List UInt8) : Words16 := Vector.ofFn fun i : Fin 16 => word bytes i.val

/-- The chaining value of the blocks of one chunk. The flags given are added to the last block. -/
def chunk (counter : Nat) (last : UInt32) (cv : Words8) (first : UInt32) (bytes : List UInt8) :
    Words8 :=
  if _h : bytes.length ≤ 64 then
    compress cv (block bytes) counter (UInt32.ofNat bytes.length) (first ||| chunkEnd ||| last)
  else
    chunk counter last (compress cv (block (bytes.take 64)) counter 64 first) 0 (bytes.drop 64)
termination_by bytes.length
decreasing_by simp only [List.length_drop]; omega

/-- The size of the left subtree of more than one chunk: the greatest power of two, times 1024,
that leaves at least one byte for the right. -/
def leftSize (n size : Nat) : Nat → Nat
  | 0 => size
  | fuel + 1 => if 2 * size < n then leftSize n (2 * size) fuel else size

theorem leftSize_pos (n size fuel : Nat) (h : 0 < size) : 0 < leftSize n size fuel := by
  induction fuel generalizing size with
  | zero => exact h
  | succ fuel ih =>
    rw [leftSize]
    split
    · exact ih (2 * size) (by omega)
    · exact h

theorem leftSize_lt (n size fuel : Nat) (h : size < n) : leftSize n size fuel < n := by
  induction fuel generalizing size with
  | zero => exact h
  | succ fuel ih =>
    rw [leftSize]
    split
    · next h' => exact ih (2 * size) h'
    · exact h

/-- The chaining value of a subtree whose first chunk has the given number. -/
def tree (counter : Nat) (last : UInt32) (bytes : List UInt8) : Words8 :=
  if _h : bytes.length ≤ 1024 then chunk counter last initial chunkStart bytes
  else
    let n := leftSize bytes.length 1024 64
    let left := tree counter 0 (bytes.take n)
    let right := tree (counter + n / 1024) 0 (bytes.drop n)
    compress initial (left ++ right) 0 64 (parent ||| last)
termination_by bytes.length
decreasing_by
  · have := leftSize_lt bytes.length 1024 64 (by omega)
    simp only [List.length_take]; omega
  · have := leftSize_pos bytes.length 1024 64 (by omega)
    simp only [List.length_drop]; omega

/-- The digest of the bytes. -/
def digest (bytes : List UInt8) : Words8 := tree 0 root bytes

/-! ## The written digest -/

/-- The digit of a value below sixteen. -/
def hexDigit (d : UInt32) : Char := "0123456789abcdef".toList.getD d.toNat '0'

/-- The eight digits of a word, its lowest byte first. -/
def hexWord (w : UInt32) : List Char :=
  [4, 0, 12, 8, 20, 16, 28, 24].map fun shift : UInt32 => hexDigit ((w >>> shift) &&& 15)

/-- The digits of the digest. -/
def hex (bytes : List UInt8) : List Char := (digest bytes).toList.flatMap hexWord

theorem length_hex (bytes : List UInt8) : (hex bytes).length = 64 := by
  have h : ∀ ws : List UInt32, (ws.flatMap hexWord).length = 8 * ws.length := by
    intro ws
    induction ws with
    | nil => rfl
    | cons w ws ih => simp [ih, hexWord]; omega
  rw [hex, h, Vector.length_toList]

theorem hexDigit_of_mem_hex (bytes : List UInt8) :
    ∀ c ∈ hex bytes, c ∈ "0123456789abcdef".toList := by
  intro c hc
  simp only [hex, hexWord, List.mem_flatMap, List.mem_map] at hc
  obtain ⟨w, _, shift, _, rfl⟩ := hc
  rw [hexDigit, List.getD_eq_getElem?_getD]
  cases h : "0123456789abcdef".toList[((w >>> shift) &&& 15).toNat]? with
  | none => simp
  | some d => exact List.mem_of_getElem? h

end RoleChart.Blake3
