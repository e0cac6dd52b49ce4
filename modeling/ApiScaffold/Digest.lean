/-
MD5 digests. The message is padded to blocks of 64 octets; each block moves a state of four words
through 64 rounds.
-/
namespace ApiScaffold.Digest

structure State where
  a : UInt32
  b : UInt32
  c : UInt32
  d : UInt32
  deriving DecidableEq, Repr, Inhabited

def State.start : State := ⟨0x67452301, 0xefcdab89, 0x98badcfe, 0x10325476⟩

/-- The constants added in the rounds. -/
def sines : List UInt32 := [
  0xd76aa478, 0xe8c7b756, 0x242070db, 0xc1bdceee, 0xf57c0faf, 0x4787c62a, 0xa8304613, 0xfd469501,
  0x698098d8, 0x8b44f7af, 0xffff5bb1, 0x895cd7be, 0x6b901122, 0xfd987193, 0xa679438e, 0x49b40821,
  0xf61e2562, 0xc040b340, 0x265e5a51, 0xe9b6c7aa, 0xd62f105d, 0x02441453, 0xd8a1e681, 0xe7d3fbc8,
  0x21e1cde6, 0xc33707d6, 0xf4d50d87, 0x455a14ed, 0xa9e3e905, 0xfcefa3f8, 0x676f02d9, 0x8d2a4c8a,
  0xfffa3942, 0x8771f681, 0x6d9d6122, 0xfde5380c, 0xa4beea44, 0x4bdecfa9, 0xf6bb4b60, 0xbebfbc70,
  0x289b7ec6, 0xeaa127fa, 0xd4ef3085, 0x04881d05, 0xd9d4d039, 0xe6db99e5, 0x1fa27cf8, 0xc4ac5665,
  0xf4292244, 0x432aff97, 0xab9423a7, 0xfc93a039, 0x655b59c3, 0x8f0ccc92, 0xffeff47d, 0x85845dd1,
  0x6fa87e4f, 0xfe2ce6e0, 0xa3014314, 0x4e0811a1, 0xf7537e82, 0xbd3af235, 0x2ad7d2bb, 0xeb86d391]

/-- The distances of the four rotations of each group of 16 rounds. -/
def rotations (group : Nat) : List UInt32 :=
  match group with
  | 0 => [7, 12, 17, 22]
  | 1 => [5, 9, 14, 20]
  | 2 => [4, 11, 16, 23]
  | _ => [6, 10, 15, 21]

def rotateLeft (x n : UInt32) : UInt32 := (x <<< n) ||| (x >>> (32 - n))

/-- One round: its number and constant. -/
def round (words : Array UInt32) (s : State) (i : Nat) (sine : UInt32) : State :=
  let (f, g) := match i / 16 with
    | 0 => ((s.b &&& s.c) ||| (~~~s.b &&& s.d), i)
    | 1 => ((s.d &&& s.b) ||| (~~~s.d &&& s.c), (5 * i + 1) % 16)
    | 2 => (s.b ^^^ s.c ^^^ s.d, (3 * i + 5) % 16)
    | _ => (s.c ^^^ (s.b ||| ~~~s.d), (7 * i) % 16)
  let sum := s.a + f + sine + words.getD g 0
  let turn := ((rotations (i / 16))[i % 4]?).getD 0
  ⟨s.d, s.b + rotateLeft sum turn, s.b, s.c⟩

/-- The word of four octets, the least significant first. -/
def wordOf (bytes : List UInt8) : UInt32 := bytes.foldr (fun b w => w * 256 + b.toUInt32) 0

/-- The octets of a word, the least significant first. -/
def bytesOf (w : UInt32) : List UInt8 :=
  [w.toUInt8, (w >>> 8).toUInt8, (w >>> 16).toUInt8, (w >>> 24).toUInt8]

/-- Cuts a list into pieces of a length. -/
def pieces (size : Nat) : Nat → List α → List (List α)
  | 0, _ => []
  | fuel + 1, xs => if xs.isEmpty then [] else xs.take size :: pieces size fuel (xs.drop size)

/-- Takes one block into the state. -/
def absorb (s : State) (block : List UInt8) : State :=
  let words := ((pieces 4 16 block).map wordOf).toArray
  let t := sines.zipIdx.foldl (fun t (sine, i) => round words t i sine) s
  ⟨s.a + t.a, s.b + t.b, s.c + t.c, s.d + t.d⟩

/-- The message with a one bit, zeros up to 56 octets in the last block, and its length in bits. -/
def pad (bytes : List UInt8) : List UInt8 :=
  let n := bytes.length
  let zeros := (119 - n % 64) % 64
  let bits := n * 8
  bytes ++ 0x80 :: List.replicate zeros 0 ++
    (List.range 8).map fun i => UInt8.ofNat (bits / Nat.pow 256 i % 256)

/-- The 16 octets of a digest. -/
def md5 (bytes : List UInt8) : List UInt8 :=
  let padded := pad bytes
  let s := (pieces 64 padded.length padded).foldl absorb .start
  [s.a, s.b, s.c, s.d].flatMap bytesOf

/-- Octets as two hexadecimal digits each. -/
def hex (bytes : List UInt8) : String :=
  String.ofList (bytes.flatMap fun b => [Nat.digitChar (b.toNat / 16), Nat.digitChar (b.toNat % 16)])

/-- The digest of a file as hexadecimal text. -/
def ofBytes (content : ByteArray) : String := hex (md5 content.data.toList)

/-- The digest of a text. -/
def ofText (text : String) : String := ofBytes text.toUTF8

end ApiScaffold.Digest
