import CredentialWatch.Bytes

/-!
# UTF-8

Text is written with the core library's encoder. Reading cuts a byte string into pieces: a
character, a malformed sequence, or a sequence that the end of input cuts short. A sequence is
malformed at the first byte that cannot continue it, and that byte starts the next piece. Strict
reading reports the first bad piece with its offset; lossy reading puts U+FFFD for each bad piece.
-/
namespace CredentialWatch.Text.Utf8

/-- The UTF-8 form of a text. -/
def encode (text : String) : Bytes :=
  text.toList.flatMap String.utf8EncodeChar

/-- A sequence that has begun: how many bytes are still due, the bounds of the next one, the bits
collected and the number of bytes seen. -/
structure Pending where
  due : Nat
  low : UInt8
  high : UInt8
  bits : Nat
  seen : Nat

/-- What a stretch of bytes spells. -/
inductive Piece where
  | char (char : Char)
  | malformed (length : Nat)
  | cut (length : Nat)
  deriving DecidableEq, Repr

/-- What the first byte of a piece announces. -/
def start (byte : UInt8) : Piece ⊕ Pending :=
  let value := byte.toNat
  if value < 0x80 then .inl (.char (Char.ofNat value))
  else if value < 0xC2 then .inl (.malformed 1)
  else if value < 0xE0 then .inr ⟨1, 0x80, 0xBF, value % 32, 1⟩
  else if value = 0xE0 then .inr ⟨2, 0xA0, 0xBF, value % 16, 1⟩
  else if value = 0xED then .inr ⟨2, 0x80, 0x9F, value % 16, 1⟩
  else if value < 0xF0 then .inr ⟨2, 0x80, 0xBF, value % 16, 1⟩
  else if value = 0xF0 then .inr ⟨3, 0x90, 0xBF, value % 8, 1⟩
  else if value < 0xF4 then .inr ⟨3, 0x80, 0xBF, value % 8, 1⟩
  else if value = 0xF4 then .inr ⟨3, 0x80, 0x8F, value % 8, 1⟩
  else .inl (.malformed 1)

/-- Take a byte outside any sequence. -/
def begin (byte : UInt8) : List Piece × Option Pending :=
  match start byte with
  | .inl piece => ([piece], none)
  | .inr pending => ([], some pending)

/-- Take the next byte: the pieces that it ends, and the sequence that is then under way. -/
def step : Option Pending → UInt8 → List Piece × Option Pending
  | none, byte => begin byte
  | some pending, byte =>
    if pending.low ≤ byte ∧ byte ≤ pending.high then
      let bits := pending.bits * 64 + byte.toNat % 64
      if pending.due ≤ 1 then ([.char (Char.ofNat bits)], none)
      else ([], some ⟨pending.due - 1, 0x80, 0xBF, bits, pending.seen + 1⟩)
    else
      let (ended, next) := begin byte
      (.malformed pending.seen :: ended, next)

/-- The pieces of a byte string, given a sequence that has begun before it. -/
def piecesFrom : Option Pending → Bytes → List Piece
  | none, [] => []
  | some pending, [] => [.cut pending.seen]
  | pending, byte :: rest =>
    let (ended, next) := step pending byte
    ended ++ piecesFrom next rest

/-- The pieces of a byte string. -/
def pieces (bytes : Bytes) : List Piece :=
  piecesFrom none bytes

/-- Why a byte string is not UTF-8: a malformed sequence of some length, or a cut one, behind
`index` good bytes. -/
inductive Defect where
  | malformed (length index : Nat)
  | cut (index : Nat)
  deriving DecidableEq, Repr

def Defect.message : Defect → String
  | .malformed length index => s!"invalid utf-8 sequence of {length} bytes from index {index}"
  | .cut index => s!"incomplete utf-8 byte sequence from index {index}"

/-- The characters of the pieces, or the first defect. -/
def collect : Nat → List Piece → Except Defect (List Char)
  | _, [] => .ok []
  | index, .char char :: rest => (char :: ·) <$> collect (index + char.utf8Size) rest
  | index, .malformed length :: _ => .error (.malformed length index)
  | index, .cut _ :: _ => .error (.cut index)

/-- The text that a byte string spells, or why there is none. -/
def decode (bytes : Bytes) : Except Defect String :=
  String.ofList <$> collect 0 (pieces bytes)

/-- The text that a byte string spells, if any. -/
def decode? (bytes : Bytes) : Option String :=
  (decode bytes).toOption

/-- The character shown for a piece: U+FFFD stands for whatever is no character. -/
def Piece.shown : Piece → Char
  | .char value => value
  | _ => '\uFFFD'

/-- The text of a byte string with U+FFFD for each bad piece. -/
def lossy (bytes : Bytes) : String :=
  String.ofList ((pieces bytes).map Piece.shown)

end CredentialWatch.Text.Utf8
