/-!
# The digest SHA-1

A text's bytes are padded to blocks of sixteen words; each block is spread over eighty words, which
stir five words of state one after the other. The digest is the state in hexadecimal.
-/

set_option autoImplicit false

namespace Componentry.Digest

/-- A word turned to the left. -/
def turn (w : UInt32) (n : UInt32) : UInt32 := (w <<< n) ||| (w >>> (32 - n))

/-- The bytes of a number, the highest first. -/
def bytesOf (count n : Nat) : List UInt8 :=
  (List.range count).reverse.map fun i => (n / Nat.pow 256 i % 256).toUInt8

/-- The bytes filled up to whole blocks: a one bit, zeros, and the number of bits. -/
def pad (bytes : List UInt8) : List UInt8 :=
  bytes ++ [0x80] ++ List.replicate ((119 - bytes.length % 64) % 64) 0
    ++ bytesOf 8 (8 * bytes.length)

/-- Bytes as words of four, the highest first. -/
def wordsOf : List UInt8 → List UInt32
  | a :: b :: c :: d :: rest =>
    ((a.toUInt32 <<< 24) ||| (b.toUInt32 <<< 16) ||| (c.toUInt32 <<< 8) ||| d.toUInt32)
      :: wordsOf rest
  | _ => []

/-- Adds so many words to a schedule, which is given with its last word first. -/
def spread : Nat → List UInt32 → List UInt32
  | 0, words => words
  | n + 1, words =>
    spread n (turn (words.getD 2 0 ^^^ words.getD 7 0 ^^^ words.getD 13 0 ^^^ words.getD 15 0) 1
      :: words)

/-- The words that are stirred. -/
structure State where
  a : UInt32 := 0x67452301
  b : UInt32 := 0xEFCDAB89
  c : UInt32 := 0x98BADCFE
  d : UInt32 := 0x10325476
  e : UInt32 := 0xC3D2E1F0

namespace State

/-- How a round mixes three words, and its constant. -/
def mix (round : Nat) (s : State) : UInt32 × UInt32 :=
  if round < 20 then ((s.b &&& s.c) ||| (~~~s.b &&& s.d), 0x5A827999)
  else if round < 40 then (s.b ^^^ s.c ^^^ s.d, 0x6ED9EBA1)
  else if round < 60 then ((s.b &&& s.c) ||| (s.b &&& s.d) ||| (s.c &&& s.d), 0x8F1BBCDC)
  else (s.b ^^^ s.c ^^^ s.d, 0xCA62C1D6)

/-- Stirs in one word. -/
def stir (s : State) (word : UInt32) (round : Nat) : State :=
  let (mixed, constant) := mix round s
  { a := turn s.a 5 + mixed + s.e + constant + word, b := s.a, c := turn s.b 30, d := s.c,
    e := s.d }

/-- Adds two states word by word. -/
def add (s t : State) : State := ⟨s.a + t.a, s.b + t.b, s.c + t.c, s.d + t.d, s.e + t.e⟩

/-- Takes in a block. -/
def absorb (s : State) (block : List UInt32) : State :=
  let schedule := (spread 64 block.reverse).reverse
  s.add (schedule.zipIdx.foldl (fun t (word, round) => t.stir word round) s)

end State

/-- A digit below sixteen. -/
def hexDigit (n : Nat) : Char := Nat.digitChar n

/-- A word in eight digits. -/
def hexWord (w : UInt32) : List Char :=
  (List.range 8).reverse.map fun i => hexDigit (w.toNat / Nat.pow 16 i % 16)

/-- The digest of bytes, in forty digits. -/
def ofBytes (bytes : List UInt8) : List Char :=
  let words := wordsOf (pad bytes)
  let blocks := (List.range (words.length / 16)).map fun i => (words.drop (16 * i)).take 16
  let s := blocks.foldl State.absorb {}
  [s.a, s.b, s.c, s.d, s.e].flatMap hexWord

/-- The digest of a text. -/
def ofText (s : String) : String := String.ofList (ofBytes s.toUTF8.toList)

/-- The start of a digest: so many digits, or all but so many for a number below zero. -/
def start (s : String) (length : Int) : String :=
  let digits := (ofText s).toList
  match length with
  | .ofNat n => String.ofList (digits.take n)
  | .negSucc n => String.ofList (digits.take (digits.length - (n + 1)))

end Componentry.Digest
