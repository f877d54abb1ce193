/-!
# UTF-8

Text as bytes. A malformed sequence is as long as its bytes could still begin a character; it is
either refused, with its place, or replaced.
-/
namespace HttpScript.Text.Utf8

/-- Why bytes are no character. -/
inductive Reason where
  | startByte
  | continuationByte
  | endOfData
  deriving Repr, DecidableEq

def Reason.message : Reason → String
  | .startByte => "invalid start byte"
  | .continuationByte => "invalid continuation byte"
  | .endOfData => "unexpected end of data"

/-- A malformed sequence: the offset and the number of its bytes, and the first of them. -/
structure Fault where
  position : Nat
  length : Nat
  first : UInt8
  reason : Reason
  deriving Repr, DecidableEq

def Fault.message (f : Fault) : String :=
  let digits := Nat.toDigits 16 f.first.toNat
  let first := String.ofList (List.replicate (2 - digits.length) '0' ++ digits)
  let place :=
    if f.length == 1 then s!"byte 0x{first} in position {f.position}"
    else s!"bytes in position {f.position}-{f.position + f.length - 1}"
  s!"'utf-8' codec can't decode {place}: {f.reason.message}"

/-- What the bytes after a first one make of it; `used` is how many of them belong to it. -/
inductive Piece where
  | char (c : Char) (used : Nat)
  | malformed (used : Nat) (reason : Reason)
  deriving Repr, DecidableEq

/-- Take `count` continuation bytes, the next of them between `low` and `high`. -/
def continuation : (count : Nat) → (low high : UInt8) → (value used : Nat) → List UInt8 → Piece
  | 0, _, _, value, used, _ => .char (Char.ofNat value) used
  | _ + 1, _, _, _, used, [] => .malformed used .endOfData
  | count + 1, low, high, value, used, b :: rest =>
    if low ≤ b && b ≤ high then
      continuation count 0x80 0xBF (64 * value + b.toNat % 64) (used + 1) rest
    else .malformed used .continuationByte

/-- The character that begins with `b`. -/
def next (b : UInt8) (rest : List UInt8) : Piece :=
  let n := b.toNat
  if n < 0x80 then .char (Char.ofNat n) 0
  else if n < 0xC2 then .malformed 0 .startByte
  else if n < 0xE0 then continuation 1 0x80 0xBF (n - 0xC0) 0 rest
  else if n == 0xE0 then continuation 2 0xA0 0xBF 0 0 rest
  else if n == 0xED then continuation 2 0x80 0x9F 0xD 0 rest
  else if n < 0xF0 then continuation 2 0x80 0xBF (n - 0xE0) 0 rest
  else if n == 0xF0 then continuation 3 0x90 0xBF 0 0 rest
  else if n < 0xF4 then continuation 3 0x80 0xBF (n - 0xF0) 0 rest
  else if n == 0xF4 then continuation 3 0x80 0x8F 4 0 rest
  else .malformed 0 .startByte

/-- The characters of bytes that start at an offset. -/
def decodeFrom (position : Nat) (bytes : List UInt8) : Except Fault (List Char) :=
  match bytes with
  | [] => .ok []
  | b :: rest =>
    match next b rest with
    | .char c used => (decodeFrom (position + used + 1) (rest.drop used)).map (c :: ·)
    | .malformed used reason => .error ⟨position, used + 1, b, reason⟩
termination_by bytes.length
decreasing_by simp only [List.length_drop, List.length_cons]; omega

def decode (bytes : List UInt8) : Except Fault (List Char) := decodeFrom 0 bytes

/-- The characters of bytes that are read in parts of a size: a sequence that a part leaves incomplete
goes before the next part. A fault is placed in the part that shows it. -/
def decodeParts (size : Nat) (carried bytes : List UInt8) : Except Fault (List Char) :=
  match bytes with
  | [] => decode carried
  | b :: more =>
    let part := carried ++ b :: more.take (size - 1)
    let rest := more.drop (size - 1)
    match decode part with
    | .ok cs => (decodeParts size [] rest).map (cs ++ ·)
    | .error fault =>
      if fault.reason == .endOfData then
        match decode (part.take fault.position) with
        | .ok cs => (decodeParts size (part.drop fault.position) rest).map (cs ++ ·)
        | .error fault => .error fault
      else .error fault
termination_by bytes.length
decreasing_by all_goals (simp only [List.length_drop, List.length_cons]; omega)

/-- The characters of bytes, with U+FFFD in the place of every malformed sequence. -/
def decodeLossy (bytes : List UInt8) : List Char :=
  match bytes with
  | [] => []
  | b :: rest =>
    match next b rest with
    | .char c used => c :: decodeLossy (rest.drop used)
    | .malformed used _ => '\uFFFD' :: decodeLossy (rest.drop used)
termination_by bytes.length
decreasing_by all_goals (simp only [List.length_drop, List.length_cons]; omega)

/-- The bytes of a text. -/
def encode (s : List Char) : List UInt8 := s.flatMap String.utf8EncodeChar

end HttpScript.Text.Utf8
