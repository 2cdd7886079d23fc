/-!
# MD5

The hash of an octet string, sixteen octets. The octets are filled up to whole blocks of 64, and
each block changes four words by 64 steps, in four rounds of sixteen.
-/
namespace SaslClient.Md5

structure State where
  a : UInt32
  b : UInt32
  c : UInt32
  d : UInt32
deriving DecidableEq, Repr

def initial : State :=
  ⟨0x67452301, 0xefcdab89, 0x98badcfe, 0x10325476⟩

/-- The word added in each step: the whole part of `2 ^ 32 * |sin (i + 1)|` in step `i`. -/
def sines : Vector UInt32 64 :=
  #v[0xd76aa478, 0xe8c7b756, 0x242070db, 0xc1bdceee, 0xf57c0faf, 0x4787c62a, 0xa8304613, 0xfd469501,
    0x698098d8, 0x8b44f7af, 0xffff5bb1, 0x895cd7be, 0x6b901122, 0xfd987193, 0xa679438e, 0x49b40821,
    0xf61e2562, 0xc040b340, 0x265e5a51, 0xe9b6c7aa, 0xd62f105d, 0x02441453, 0xd8a1e681, 0xe7d3fbc8,
    0x21e1cde6, 0xc33707d6, 0xf4d50d87, 0x455a14ed, 0xa9e3e905, 0xfcefa3f8, 0x676f02d9, 0x8d2a4c8a,
    0xfffa3942, 0x8771f681, 0x6d9d6122, 0xfde5380c, 0xa4beea44, 0x4bdecfa9, 0xf6bb4b60, 0xbebfbc70,
    0x289b7ec6, 0xeaa127fa, 0xd4ef3085, 0x04881d05, 0xd9d4d039, 0xe6db99e5, 0x1fa27cf8, 0xc4ac5665,
    0xf4292244, 0x432aff97, 0xab9423a7, 0xfc93a039, 0x655b59c3, 0x8f0ccc92, 0xffeff47d, 0x85845dd1,
    0x6fa87e4f, 0xfe2ce6e0, 0xa3014314, 0x4e0811a1, 0xf7537e82, 0xbd3af235, 0x2ad7d2bb, 0xeb86d391]

def rotations (round : Fin 4) : Vector UInt32 4 :=
  match round with
  | 0 => #v[7, 12, 17, 22]
  | 1 => #v[5, 9, 14, 20]
  | 2 => #v[4, 11, 16, 23]
  | 3 => #v[6, 10, 15, 21]

def mix (round : Fin 4) (x y z : UInt32) : UInt32 :=
  match round with
  | 0 => (x &&& y) ||| (~~~x &&& z)
  | 1 => (x &&& z) ||| (y &&& ~~~z)
  | 2 => x ^^^ y ^^^ z
  | 3 => y ^^^ (x ||| ~~~z)

def wordIndex (round : Fin 4) (i : Fin 64) : Fin 16 :=
  match round with
  | 0 => Fin.ofNat 16 i.val
  | 1 => Fin.ofNat 16 (5 * i.val + 1)
  | 2 => Fin.ofNat 16 (3 * i.val + 5)
  | 3 => Fin.ofNat 16 (7 * i.val)

def rotateLeft (x amount : UInt32) : UInt32 :=
  (x <<< amount) ||| (x >>> (32 - amount))

def step (block : Vector UInt32 16) (s : State) (i : Fin 64) : State :=
  let round : Fin 4 := ⟨i.val / 16, by omega⟩
  let sum := s.a + mix round s.b s.c s.d + sines[i] + block[wordIndex round i]
  ⟨s.d, s.b + rotateLeft sum (rotations round)[i.val % 4], s.b, s.c⟩

def compress (s : State) (block : Vector UInt32 16) : State :=
  let t := Fin.foldl 64 (step block) s
  ⟨s.a + t.a, s.b + t.b, s.c + t.c, s.d + t.d⟩

def littleEndian : Nat → Nat → List UInt8
  | 0, _ => []
  | count + 1, n => UInt8.ofNat n :: littleEndian count (n / 256)

def ofLittleEndian (octets : List UInt8) : Nat :=
  octets.foldr (fun b n => b.toNat + 256 * n) 0

def words (octets : List UInt8) : Vector UInt32 16 :=
  Vector.ofFn fun i => UInt32.ofNat (ofLittleEndian ((octets.drop (4 * i.val)).take 4))

/-- What follows the octets of a message of some length: one bit, zeros up to eight octets before
the end of a block, and the length in bits. -/
def padding (length : Nat) : List UInt8 :=
  0x80 :: List.replicate ((119 - length % 64) % 64) 0 ++ littleEndian 8 (8 * length)

def absorb (s : State) (octets : List UInt8) : State :=
  if octets.length < 64 then s
  else absorb (compress s (words octets)) (octets.drop 64)
termination_by octets.length
decreasing_by
  simp only [List.length_drop]
  omega

def wordOctets (w : UInt32) : Vector UInt8 4 :=
  #v[w.toUInt8, (w >>> 8).toUInt8, (w >>> 16).toUInt8, (w >>> 24).toUInt8]

def hash (message : List UInt8) : Vector UInt8 16 :=
  let s := absorb initial (message ++ padding message.length)
  wordOctets s.a ++ wordOctets s.b ++ wordOctets s.c ++ wordOctets s.d

end SaslClient.Md5
