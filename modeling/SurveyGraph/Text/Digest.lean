/-!
# Digests

A 64 bit digest of a sequence of bytes, built from four lanes of multiplications and rotations
over words in little-endian order.
-/
namespace SurveyGraph.Text.Digest

def prime1 : UInt64 := 11400714785074694791
def prime2 : UInt64 := 14029467366897019727
def prime3 : UInt64 := 1609587929392839161
def prime4 : UInt64 := 9650029242287828579
def prime5 : UInt64 := 2870177450012600261

def rotate (x : UInt64) (r : UInt64) : UInt64 := (x <<< r) ||| (x >>> (64 - r))

def littleEndian (bs : List UInt8) : UInt64 := bs.foldr (fun b acc => acc * 256 + b.toUInt64) 0

/-- Mixes a word into a lane. -/
def round (acc input : UInt64) : UInt64 := rotate (acc + input * prime2) 31 * prime1

def merge (acc lane : UInt64) : UInt64 := (acc ^^^ round 0 lane) * prime1 + prime4

structure Lanes where
  a : UInt64
  b : UInt64
  c : UInt64
  d : UInt64

/-- Mixes blocks of 32 bytes into the lanes; answers the bytes left over. -/
def stripes (l : Lanes) (bs : List UInt8) : Lanes × List UInt8 :=
  if bs.length < 32 then (l, bs)
  else
    stripes
      { a := round l.a (littleEndian (bs.take 8))
        b := round l.b (littleEndian ((bs.drop 8).take 8))
        c := round l.c (littleEndian ((bs.drop 16).take 8))
        d := round l.d (littleEndian ((bs.drop 24).take 8)) }
      (bs.drop 32)
termination_by bs.length
decreasing_by simp only [List.length_drop]; omega

/-- Mixes the bytes that fill no block into the digest. -/
def tail (h : UInt64) (bs : List UInt8) : UInt64 :=
  if bs.length ≥ 8 then
    tail (rotate (h ^^^ round 0 (littleEndian (bs.take 8))) 27 * prime1 + prime4) (bs.drop 8)
  else if bs.length ≥ 4 then
    tail (rotate (h ^^^ (littleEndian (bs.take 4) * prime1)) 23 * prime2 + prime3) (bs.drop 4)
  else match bs with
    | [] => h
    | b :: rest => tail (rotate (h ^^^ (b.toUInt64 * prime5)) 11 * prime1) rest
termination_by bs.length
decreasing_by
  · simp only [List.length_drop]; omega
  · simp only [List.length_drop]; omega
  · simp

/-- Spreads the last bits over the whole word. -/
def avalanche (h : UInt64) : UInt64 :=
  let h := (h ^^^ (h >>> 33)) * prime2
  let h := (h ^^^ (h >>> 29)) * prime3
  h ^^^ (h >>> 32)

def ofBytes (bs : List UInt8) : UInt64 :=
  let n := bs.length.toUInt64
  let (h, rest) :=
    if bs.length < 32 then (prime5, bs)
    else
      let (l, rest) := stripes ⟨prime1 + prime2, prime2, 0, 0 - prime1⟩ bs
      let h := rotate l.a 1 + rotate l.b 7 + rotate l.c 12 + rotate l.d 18
      (merge (merge (merge (merge h l.a) l.b) l.c) l.d, rest)
  avalanche (tail (h + n) rest)

/-- The digest of texts written one after the other, as 16 hexadecimal digits. -/
def ofTexts (ts : List String) : String :=
  let h := ofBytes (ts.flatMap (fun t => t.toUTF8.toList))
  let ds := Nat.toDigits 16 h.toNat
  String.ofList (List.replicate (16 - ds.length) '0' ++ ds)

end SurveyGraph.Text.Digest
