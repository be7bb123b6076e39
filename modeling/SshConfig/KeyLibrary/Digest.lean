/-!
# KeyLibrary.Digest — hashes of host names

A name that is known by its hash only is held against the SHA-1 digest of a host, keyed by the salt of the hash.
-/
namespace SshConfig
namespace Digest

/-- The words that one block passes to the next. -/
structure Chain where
  a : UInt32
  b : UInt32
  c : UInt32
  d : UInt32
  e : UInt32

/-- The words that the first block starts from. -/
def start : Chain :=
  ⟨0x67452301, 0xEFCDAB89, 0x98BADCFE, 0x10325476, 0xC3D2E1F0⟩

/-- The word, turned to the left by `n` bits. -/
def turned (n w : UInt32) : UInt32 :=
  (w <<< n) ||| (w >>> (32 - n))

/-- The last `n` bytes of a number, the highest first. -/
def bytesOf : Nat → Nat → List UInt8
  | 0, _ => []
  | n + 1, value => (value / Nat.pow 256 n).toUInt8 :: bytesOf n value

/-- The words of bytes, four for each. -/
def wordsOf : List UInt8 → List UInt32
  | a :: b :: c :: d :: rest =>
    (a.toUInt32 <<< 24 ||| b.toUInt32 <<< 16 ||| c.toUInt32 <<< 8 ||| d.toUInt32) :: wordsOf rest
  | _ => []

/-- Bytes filled up to whole blocks, with their number of bits at the end. -/
def filled (bs : List UInt8) : List UInt8 :=
  bs ++ 0x80 :: List.replicate ((119 - bs.length % 64) % 64) 0 ++ bytesOf 8 (8 * bs.length)

/-- The function of a round and its constant. -/
def roundTerm (n : Nat) (s : Chain) : UInt32 :=
  if n < 20 then ((s.b &&& s.c) ||| (~~~s.b &&& s.d)) + 0x5A827999
  else if n < 40 then (s.b ^^^ s.c ^^^ s.d) + 0x6ED9EBA1
  else if n < 60 then ((s.b &&& s.c) ||| (s.b &&& s.d) ||| (s.c &&& s.d)) + 0x8F1BBCDC
  else (s.b ^^^ s.c ^^^ s.d) + 0xCA62C1D6

/-- The last `left` of the eighty rounds of a block; `next` holds the sixteen words that come next. -/
def rounds : Nat → List UInt32 → Chain → Chain
  | 0, _, s => s
  | _, [], s => s
  | left + 1, w :: next, s =>
    let later := turned 1 (w ^^^ next.getD 1 0 ^^^ next.getD 7 0 ^^^ next.getD 12 0)
    rounds left (next ++ [later])
      ⟨turned 5 s.a + roundTerm (79 - left) s + s.e + w, s.a, turned 30 s.b, s.c, s.d⟩

/-- The chain after `count` blocks of words. -/
def blocks : Nat → List UInt32 → Chain → Chain
  | 0, _, s => s
  | count + 1, words, s =>
    let r := rounds 80 (words.take 16) s
    blocks count (words.drop 16) ⟨s.a + r.a, s.b + r.b, s.c + r.c, s.d + r.d, s.e + r.e⟩

/-- The digest of bytes. -/
def sha1 (bs : List UInt8) : List UInt8 :=
  let words := wordsOf (filled bs)
  let s := blocks (words.length / 16) words start
  [s.a, s.b, s.c, s.d, s.e].flatMap fun w => bytesOf 4 w.toNat

/-- The key of a keyed digest, as long as a block. -/
def blockKey (key : List UInt8) : List UInt8 :=
  let key := if 64 < key.length then sha1 key else key
  key ++ List.replicate (64 - key.length) 0

/-- The keyed digest of bytes. -/
def keyed (key bs : List UInt8) : List UInt8 :=
  sha1 ((blockKey key).map (· ^^^ 0x5C) ++ sha1 ((blockKey key).map (· ^^^ 0x36) ++ bs))

end Digest
end SshConfig
