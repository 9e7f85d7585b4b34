import PrismaNest.Text.Quoted

/-! SHA-256 digests.

The message is padded to whole blocks of sixteen words; each block is expanded to
sixty-four words, which drive the rounds on the eight words of the state.
-/

set_option autoImplicit false

namespace PrismaNest.Text

namespace Sha256

/-- The first 32 bits of the fractions of the cube roots of the first sixty-four primes. -/
def roundConstants : Array UInt32 :=
  #[0x428a2f98, 0x71374491, 0xb5c0fbcf, 0xe9b5dba5, 0x3956c25b, 0x59f111f1, 0x923f82a4, 0xab1c5ed5,
    0xd807aa98, 0x12835b01, 0x243185be, 0x550c7dc3, 0x72be5d74, 0x80deb1fe, 0x9bdc06a7, 0xc19bf174,
    0xe49b69c1, 0xefbe4786, 0x0fc19dc6, 0x240ca1cc, 0x2de92c6f, 0x4a7484aa, 0x5cb0a9dc, 0x76f988da,
    0x983e5152, 0xa831c66d, 0xb00327c8, 0xbf597fc7, 0xc6e00bf3, 0xd5a79147, 0x06ca6351, 0x14292967,
    0x27b70a85, 0x2e1b2138, 0x4d2c6dfc, 0x53380d13, 0x650a7354, 0x766a0abb, 0x81c2c92e, 0x92722c85,
    0xa2bfe8a1, 0xa81a664b, 0xc24b8b70, 0xc76c51a3, 0xd192e819, 0xd6990624, 0xf40e3585, 0x106aa070,
    0x19a4c116, 0x1e376c08, 0x2748774c, 0x34b0bcb5, 0x391c0cb3, 0x4ed8aa4a, 0x5b9cca4f, 0x682e6ff3,
    0x748f82ee, 0x78a5636f, 0x84c87814, 0x8cc70208, 0x90befffa, 0xa4506ceb, 0xbef9a3f7, 0xc67178f2]

structure State where
  (a b c d e f g h : UInt32)

/-- The first 32 bits of the fractions of the square roots of the first eight primes. -/
def initial : State :=
  ⟨0x6a09e667, 0xbb67ae85, 0x3c6ef372, 0xa54ff53a, 0x510e527f, 0x9b05688c, 0x1f83d9ab, 0x5be0cd19⟩

def rotateRight (word count : UInt32) : UInt32 :=
  (word >>> count) ||| (word <<< (32 - count))

/-- Words sixteen to sixty-three of a block follow from the sixteen before them. -/
def expand (block : Array UInt32) : Array UInt32 :=
  (List.range 48).foldl (fun words step =>
    let early := words.getD (step + 1) 0
    let late := words.getD (step + 14) 0
    let small0 := rotateRight early 7 ^^^ rotateRight early 18 ^^^ (early >>> 3)
    let small1 := rotateRight late 17 ^^^ rotateRight late 19 ^^^ (late >>> 10)
    words.push (words.getD step 0 + small0 + words.getD (step + 9) 0 + small1)) block

def round (state : State) (constant word : UInt32) : State :=
  let big1 := rotateRight state.e 6 ^^^ rotateRight state.e 11 ^^^ rotateRight state.e 25
  let choice := (state.e &&& state.f) ^^^ (~~~state.e &&& state.g)
  let first := state.h + big1 + choice + constant + word
  let big0 := rotateRight state.a 2 ^^^ rotateRight state.a 13 ^^^ rotateRight state.a 22
  let majority := (state.a &&& state.b) ^^^ (state.a &&& state.c) ^^^ (state.b &&& state.c)
  ⟨first + (big0 + majority), state.a, state.b, state.c, state.d + first, state.e, state.f, state.g⟩

def compress (state : State) (block : Array UInt32) : State :=
  let words := expand block
  let final := (List.range 64).foldl
    (fun current step => round current (roundConstants.getD step 0) (words.getD step 0)) state
  ⟨state.a + final.a, state.b + final.b, state.c + final.c, state.d + final.d,
    state.e + final.e, state.f + final.f, state.g + final.g, state.h + final.h⟩

def bigEndian (width number : Nat) : List UInt8 :=
  (List.range width).reverse.map fun place => UInt8.ofNat (number >>> (8 * place))

def padding (length : Nat) : List UInt8 :=
  0x80 :: List.replicate ((119 - length % 64) % 64) 0 ++ bigEndian 8 (8 * length)

def toWords : List UInt8 → List UInt32
  | b0 :: b1 :: b2 :: b3 :: rest =>
    ((b0.toUInt32 <<< 24) ||| (b1.toUInt32 <<< 16) ||| (b2.toUInt32 <<< 8) ||| b3.toUInt32)
      :: toWords rest
  | _ => []

def absorb (state : State) (block : Array UInt32) : List UInt32 → State
  | [] => state
  | word :: rest =>
    let filled := block.push word
    if filled.size = 16 then absorb (compress state filled) #[] rest
    else absorb state filled rest

def State.toHex (state : State) : List Char :=
  [state.a, state.b, state.c, state.d, state.e, state.f, state.g, state.h].flatMap
    fun word => hexPadded 8 word.toNat

end Sha256

def sha256 (bytes : ByteArray) : String :=
  let words := Sha256.toWords (bytes.toList ++ Sha256.padding bytes.size)
  String.ofList (Sha256.absorb Sha256.initial #[] words).toHex

end PrismaNest.Text
