import WalletPolicy.Bytes.Basic

/-!
The sponge over 25 lanes of 64 bits with a rate of 136 bytes and the padding byte `0x01` of the
first submission, not the `0x06` of the later standard.
-/
namespace WalletPolicy.Keccak

/-- The 25 lanes; lane `x + 5 * y` is the one of column `x` and row `y`. -/
abbrev Lanes := Vector UInt64 25

def rate : Nat := 136

def roundConstants : List UInt64 :=
  [0x0000000000000001, 0x0000000000008082, 0x800000000000808A, 0x8000000080008000,
    0x000000000000808B, 0x0000000080000001, 0x8000000080008081, 0x8000000000008009,
    0x000000000000008A, 0x0000000000000088, 0x0000000080008009, 0x000000008000000A,
    0x000000008000808B, 0x800000000000008B, 0x8000000000008089, 0x8000000000008003,
    0x8000000000008002, 0x8000000000000080, 0x000000000000800A, 0x800000008000000A,
    0x8000000080008081, 0x8000000000008080, 0x0000000080000001, 0x8000000080008008]

def rotations : Vector UInt64 25 :=
  #v[0, 1, 62, 28, 27, 36, 44, 6, 55, 20, 3, 10, 43, 25, 39, 41, 45, 15, 21, 8, 18, 2, 61, 56, 14]

@[inline] def rotateLeft (lane count : UInt64) : UInt64 :=
  if count = 0 then lane else (lane <<< count) ||| (lane >>> (64 - count))

@[inline] def lane (lanes : Lanes) (x y : Nat) : UInt64 :=
  lanes.get ⟨x % 5 + 5 * (y % 5), by omega⟩

def theta (lanes : Lanes) : Lanes :=
  let parity : Vector UInt64 5 := Vector.ofFn fun x =>
    lane lanes x 0 ^^^ lane lanes x 1 ^^^ lane lanes x 2 ^^^ lane lanes x 3 ^^^ lane lanes x 4
  let shift : Vector UInt64 5 := Vector.ofFn fun x =>
    let before := parity.get ⟨(x.val + 4) % 5, by omega⟩
    let after := parity.get ⟨(x.val + 1) % 5, by omega⟩
    before ^^^ rotateLeft after 1
  Vector.ofFn fun i => lanes[i] ^^^ shift.get ⟨i.val % 5, by omega⟩

def turnAndMove (lanes : Lanes) : Lanes :=
  Vector.ofFn fun i =>
    let x := i.val % 5
    let y := i.val / 5
    let source : Fin 25 := ⟨(x + 3 * y) % 5 + 5 * x, by omega⟩
    rotateLeft (lanes.get source) (rotations.get source)

def chi (lanes : Lanes) : Lanes :=
  Vector.ofFn fun i =>
    let y := i.val / 5
    lanes[i] ^^^ ((lane lanes (i.val + 1) y ^^^ 0xFFFFFFFFFFFFFFFF) &&& lane lanes (i.val + 2) y)

def round (lanes : Lanes) (constant : UInt64) : Lanes :=
  let mixed := chi (turnAndMove (theta lanes))
  mixed.set 0 (mixed[0] ^^^ constant)

def permute (lanes : Lanes) : Lanes := roundConstants.foldl round lanes

def littleEndian (data : Bytes) : UInt64 :=
  data.foldr (fun byte total => (total <<< 8) ||| byte.toUInt64) 0

def laneBytes (lane : UInt64) : Bytes :=
  (List.range 8).map fun i => (lane >>> (8 * i).toUInt64).toUInt8

def addBlock (lanes : Lanes) (block : Bytes) : Lanes :=
  Vector.ofFn fun i => lanes[i] ^^^ littleEndian ((block.drop (8 * i.val)).take 8)

def padded (rest : Bytes) : Bytes :=
  let fill := rate - 1 - rest.length
  if fill = 0 then rest ++ [0x81] else rest ++ 0x01 :: List.replicate (fill - 1) 0 ++ [0x80]

def absorb (lanes : Lanes) (data : Bytes) : Lanes :=
  let block := data.take rate
  if block.length < rate then
    permute (addBlock lanes (padded block))
  else
    absorb (permute (addBlock lanes block)) (data.drop rate)
termination_by data.length
decreasing_by simp_all [block, rate]; omega

theorem length_laneBytes (lane : UInt64) : (laneBytes lane).length = 8 := by
  simp [laneBytes]

def hash (data : Bytes) : FixedBytes 32 :=
  let lanes := absorb (Vector.replicate 25 0) data
  ⟨laneBytes lanes[0] ++ laneBytes lanes[1] ++ laneBytes lanes[2] ++ laneBytes lanes[3], by
    simp [length_laneBytes]⟩

end WalletPolicy.Keccak
