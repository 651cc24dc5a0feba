import SceneGpu.Text.Utf8
/-!
Bytecode as 32-bit words, and what can be wrong with it. A byte sequence holds words of either byte
order; the first word, which is always the magic number, tells which one.
-/
namespace SceneGpu.Bytecode

inductive Fault where
  | unalignedLength (bytes : Nat)
  | truncated (words : Nat)
  | badMagic (word : UInt32)
  | badInstruction (offset count : Nat)
  | missingOperands (offset : Nat) (opcode : UInt32)
  | sizeOverflow (type : UInt32)
  | typeTooDeep (type : UInt32)
deriving DecidableEq, Repr

def hexWord (w : UInt32) : String :=
  let digits := Nat.toDigits 16 w.toNat
  "0x" ++ String.ofList (List.replicate (8 - digits.length) '0' ++ digits)

def Fault.message : Fault → String
  | .unalignedLength bytes => s!"bytecode length {bytes} is not a multiple of 4"
  | .truncated words => s!"bytecode has {words} words, too short for a SPIR-V header"
  | .badMagic word => "bad SPIR-V magic number " ++ hexWord word
  | .badInstruction offset count =>
    s!"instruction at word {offset} has invalid word count {count}"
  | .missingOperands offset opcode =>
    s!"instruction at word {offset} (opcode {opcode}) is missing operands"
  | .sizeOverflow type => s!"size of type %{type} does not fit in 32 bits"
  | .typeTooDeep type => s!"type %{type} nests too deeply or refers to itself"

def magic : UInt32 := 0x07230203

def ofBytesLE (a b c d : UInt8) : UInt32 :=
  a.toUInt32 ||| (b.toUInt32 <<< 8) ||| (c.toUInt32 <<< 16) ||| (d.toUInt32 <<< 24)

def bytesLE (w : UInt32) : List UInt8 :=
  [w.toUInt8, (w >>> 8).toUInt8, (w >>> 16).toUInt8, (w >>> 24).toUInt8]

def bytesBE (w : UInt32) : List UInt8 := (bytesLE w).reverse

def swapBytes (w : UInt32) : UInt32 :=
  ofBytesLE (w >>> 24).toUInt8 (w >>> 16).toUInt8 (w >>> 8).toUInt8 w.toUInt8

/-- The little endian words of a byte sequence; fewer than four bytes at the end are left out. -/
def groupLE : List UInt8 → List UInt32
  | a :: b :: c :: d :: rest => ofBytesLE a b c d :: groupLE rest
  | _ => []

def encodeLE (words : List UInt32) : List UInt8 := words.flatMap bytesLE

def encodeBE (words : List UInt32) : List UInt8 := words.flatMap bytesBE

/-- Reads a bytecode file's bytes in the byte order that makes the first word the magic number. -/
def wordsOfBytes (bytes : List UInt8) : Except Fault (List UInt32) :=
  if bytes.length % 4 ≠ 0 then .error (.unalignedLength bytes.length)
  else match groupLE bytes with
    | [] => .error (.truncated 0)
    | w :: rest =>
      if w = magic then .ok (w :: rest)
      else if swapBytes w = magic then .ok ((w :: rest).map swapBytes)
      else .error (.badMagic w)

def literalText (words : List UInt32) : String :=
  Utf8.decodeTextLossy ((encodeLE words).takeWhile (· ≠ 0))

def packText (s : String) : List UInt32 :=
  let bytes := Utf8.encodeText s ++ [0]
  groupLE (bytes ++ List.replicate ((4 - bytes.length % 4) % 4) 0)

end SceneGpu.Bytecode
