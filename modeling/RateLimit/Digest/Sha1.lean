import RateLimit.Text.Quoted

/-!
# SHA-1

The secure hash algorithm of FIPS 180-4 for messages of whole bytes.  A message is padded to
blocks of 64 bytes (`Sha1.pad`), every block is spread over eighty words (`Sha1.schedule`), and
eighty rounds mix them into a state of five words (`Sha1.compress`).
-/

namespace RateLimit.Sha1

/-- A message followed by a one bit, zeros up to eight bytes short of a block, and its length in
bits. -/
def pad (message : Bytes) : Bytes :=
  let zeros := (119 - message.length % 64) % 64
  let bits := message.length * 8
  let length := (List.range 8).map fun i => UInt8.ofNat (bits / Nat.pow 256 (7 - i))
  message ++ 0x80 :: List.replicate zeros 0 ++ length

/-- The word spelled by four bytes, the most significant first. -/
def wordOf (bytes : Bytes) : UInt32 :=
  bytes.foldl (fun w b => (w <<< 8) ||| b.toUInt32) 0

/-- A word rotated to the left. -/
def rotate (w : UInt32) (n : UInt32) : UInt32 :=
  (w <<< n) ||| (w >>> (32 - n))

/-- The eighty words of a block: its own sixteen, then each the rotated sum of four before it. -/
def schedule (block : Bytes) : Array UInt32 :=
  let own := (Array.range 16).map fun i => wordOf ((block.drop (4 * i)).take 4)
  (List.range 64).foldl (fun w i =>
    w.push (rotate (w.getD (i + 13) 0 ^^^ w.getD (i + 8) 0 ^^^ w.getD (i + 2) 0 ^^^ w.getD i 0) 1))
    own

/-- The state of the hash. -/
structure State where
  a : UInt32
  b : UInt32
  c : UInt32
  d : UInt32
  e : UInt32

/-- The state before the first block. -/
def State.start : State :=
  ⟨0x67452301, 0xEFCDAB89, 0x98BADCFE, 0x10325476, 0xC3D2E1F0⟩

/-- One round, with the word of the schedule for it. -/
def State.round (s : State) (t : Nat) (word : UInt32) : State :=
  let (mix, constant) : UInt32 × UInt32 :=
    if t < 20 then ((s.b &&& s.c) ||| (~~~s.b &&& s.d), 0x5A827999)
    else if t < 40 then (s.b ^^^ s.c ^^^ s.d, 0x6ED9EBA1)
    else if t < 60 then ((s.b &&& s.c) ||| (s.b &&& s.d) ||| (s.c &&& s.d), 0x8F1BBCDC)
    else (s.b ^^^ s.c ^^^ s.d, 0xCA62C1D6)
  ⟨rotate s.a 5 + mix + s.e + constant + word, s.a, rotate s.b 30, s.c, s.d⟩

/-- The state after a further block. -/
def compress (s : State) (block : Bytes) : State :=
  let words := schedule block
  let r := (List.range 80).foldl (fun r t => r.round t (words.getD t 0)) s
  ⟨s.a + r.a, s.b + r.b, s.c + r.c, s.d + r.d, s.e + r.e⟩

/-- The state after a message. -/
def digest (message : Bytes) : State :=
  let padded := pad message
  (List.range (padded.length / 64)).foldl
    (fun s i => compress s ((padded.drop (64 * i)).take 64)) State.start

/-- The eight lower-case hexadecimal digits of a word. -/
def hexWord (w : UInt32) : String :=
  String.join (([24, 16, 8, 0] : List UInt32).map fun shift => Text.hexByte (w >>> shift).toUInt8)

/-- The digest of a message in forty hexadecimal digits. -/
def hexDigest (message : Bytes) : String :=
  let s := digest message
  String.join ([s.a, s.b, s.c, s.d, s.e].map hexWord)

end RateLimit.Sha1
