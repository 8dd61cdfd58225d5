/-! The BLAKE3 hash of a byte list, with its 32-byte output in hexadecimal. -/
namespace PodPipeline.Blake3

abbrev Words (n : Nat) := Vector UInt32 n

def initial : Words 8 :=
  #v[0x6A09E667, 0xBB67AE85, 0x3C6EF372, 0xA54FF53A, 0x510E527F, 0x9B05688C, 0x1F83D9AB,
    0x5BE0CD19]

/-- Where each message word of the next round comes from. -/
def schedule : Vector (Fin 16) 16 := #v[2, 6, 3, 10, 7, 0, 4, 13, 1, 11, 12, 5, 9, 14, 15, 8]

def chunkStart : UInt32 := 1
def chunkEnd : UInt32 := 2
def parentFlag : UInt32 := 4
def rootFlag : UInt32 := 8

def rotateRight (w n : UInt32) : UInt32 := (w >>> n) ||| (w <<< (32 - n))

/-- The quarter round on the words `a`, `b`, `c` and `d` of the state. -/
def mix (s : Words 16) (a b c d : Fin 16) (x y : UInt32) : Words 16 :=
  let wa := s[a] + s[b] + x
  let wd := rotateRight (s[d] ^^^ wa) 16
  let wc := s[c] + wd
  let wb := rotateRight (s[b] ^^^ wc) 12
  let wa := wa + wb + y
  let wd := rotateRight (wd ^^^ wa) 8
  let wc := wc + wd
  let wb := rotateRight (wb ^^^ wc) 7
  (((s.set a wa).set b wb).set c wc).set d wd

/-- One round: the four columns, then the four diagonals. -/
def round (s m : Words 16) : Words 16 :=
  let s := mix s 0 4 8 12 m[0] m[1]
  let s := mix s 1 5 9 13 m[2] m[3]
  let s := mix s 2 6 10 14 m[4] m[5]
  let s := mix s 3 7 11 15 m[6] m[7]
  let s := mix s 0 5 10 15 m[8] m[9]
  let s := mix s 1 6 11 12 m[10] m[11]
  let s := mix s 2 7 8 13 m[12] m[13]
  mix s 3 4 9 14 m[14] m[15]

def permute (m : Words 16) : Words 16 := Vector.ofFn fun i => m[schedule[i]]

def rounds : Nat → Words 16 → Words 16 → Words 16
  | 0, s, _ => s
  | n + 1, s, m => rounds n (round s m) (permute m)

structure Node where
  chaining : Words 8
  block : Words 16
  counter : Nat
  blockLength : UInt32
  flags : UInt32

namespace Node

/-- The first eight words of the compression function's output. -/
def compress (n : Node) : Words 8 :=
  let h := n.chaining
  let low := UInt32.ofNat n.counter
  let high := UInt32.ofNat (n.counter / 0x100000000)
  let s := rounds 7
    #v[h[0], h[1], h[2], h[3], h[4], h[5], h[6], h[7], initial[0], initial[1], initial[2],
      initial[3], low, high, n.blockLength, n.flags] n.block
  Vector.ofFn fun i => s.get ⟨i.val, by omega⟩ ^^^ s.get ⟨i.val + 8, by omega⟩

def parent (left right : Words 8) : Node :=
  ⟨initial, (left ++ right).cast (by decide), 0, 64, parentFlag⟩

end Node

/-- The little-endian word at byte `4 * i`, with zeros beyond the end. -/
def wordAt (bytes : Array UInt8) (i : Nat) : UInt32 :=
  let byte (k : Nat) : UInt32 := (bytes.getD (4 * i + k) 0).toUInt32
  byte 0 ||| (byte 1 <<< 8) ||| (byte 2 <<< 16) ||| (byte 3 <<< 24)

def blockWords (bytes : List UInt8) : Words 16 :=
  let a := bytes.toArray
  Vector.ofFn fun i => wordAt a i

/-- Pieces of `n + 1` bytes, the last one shorter if need be. The empty list has no piece. -/
def pieces (n : Nat) (bytes : List UInt8) : List (List UInt8) :=
  match bytes with
  | [] => []
  | b :: r => (b :: r.take n) :: pieces n (r.drop n)
termination_by bytes.length
decreasing_by simp only [List.length_drop, List.length_cons]; omega

/-- The last node of a chunk, from its blocks. -/
def chunkNode (counter : Nat) (h : Words 8) (flags : UInt32) : List (List UInt8) → Node
  | [] => ⟨h, blockWords [], counter, 0, flags ||| chunkEnd⟩
  | [b] => ⟨h, blockWords b, counter, UInt32.ofNat b.length, flags ||| chunkEnd⟩
  | b :: c :: r =>
    chunkNode counter
      (Node.compress ⟨h, blockWords b, counter, UInt32.ofNat b.length, flags⟩) 0 (c :: r)

/-- The chunks of 1024 bytes, numbered. -/
def chunkNodes (counter : Nat) : List (List UInt8) → List Node
  | [] => []
  | c :: r => chunkNode counter initial chunkStart (pieces 63 c) :: chunkNodes (counter + 1) r

/-- The next level of the tree: neighbours are joined, and an odd last node moves up as it is. -/
def level : List Node → List Node
  | [] => []
  | [n] => [n]
  | m :: n :: r => .parent m.compress n.compress :: level r

theorem length_level (l : List Node) : (level l).length = (l.length + 1) / 2 := by
  induction l using level.induct with
  | case1 => simp [level]
  | case2 n => simp [level]
  | case3 m n r ih => simp only [level, List.length_cons, ih]; omega

/-- The root of the tree over a list of nodes. -/
def rootNode (first : Node) (rest : List Node) : Node :=
  match rest with
  | [] => first
  | n :: r => rootNode (.parent first.compress n.compress) (level r)
termination_by rest.length
decreasing_by simp only [length_level, List.length_cons]; omega

def hexByte (b : UInt8) : List Char :=
  let digits := Nat.toDigits 16 b.toNat
  List.replicate (2 - digits.length) '0' ++ digits

def wordBytes (w : UInt32) : List UInt8 :=
  [w.toUInt8, (w >>> 8).toUInt8, (w >>> 16).toUInt8, (w >>> 24).toUInt8]

/-- The hash of a byte list: 64 lower-case hexadecimal digits. -/
def hashHex (bytes : List UInt8) : String :=
  let root :=
    match chunkNodes 0 (pieces 1023 bytes) with
    | [] => chunkNode 0 initial chunkStart []
    | n :: r => rootNode n r
  let out := { root with flags := root.flags ||| rootFlag }.compress
  String.ofList ((out.toList.flatMap wordBytes).flatMap hexByte)

end PodPipeline.Blake3
