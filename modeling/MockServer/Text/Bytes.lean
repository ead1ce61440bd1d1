/-
Texts as bytes.

`encode` writes a text in UTF-8; `decode?` reads bytes strictly and `decodeLossy`
reads any bytes, with U+FFFD in place of each maximal part of a sequence that
cannot be continued.  Main statement: `scalars_ascii_cons` — an ASCII byte is read
as the character with its number.
-/
namespace MockServer.Text

/-- The bytes of a text in UTF-8. -/
def encode (s : String) : List UInt8 :=
  s.toList.flatMap String.utf8EncodeChar

/-- The number of bytes of a text. -/
def byteCount (s : String) : Nat :=
  s.utf8ByteSize

/-- A byte that continues a sequence. -/
def isContinuation (b : UInt8) : Bool :=
  0x80 ≤ b && b ≤ 0xbf

/-- The second bytes that may follow a first byte of a longer sequence: overlong
forms, surrogates and values past U+10FFFF are excluded by the second byte. -/
def isSecond (first second : UInt8) : Bool :=
  if first == 0xe0 then 0xa0 ≤ second && second ≤ 0xbf
  else if first == 0xed then 0x80 ≤ second && second ≤ 0x9f
  else if first == 0xf0 then 0x90 ≤ second && second ≤ 0xbf
  else if first == 0xf4 then 0x80 ≤ second && second ≤ 0x8f
  else isContinuation second

/-- The value of the low six bits of a continuation byte. -/
def low (b : UInt8) : Nat :=
  b.toNat % 64

/-- One step of decoding from a nonempty list: the character read, or `none` where
no character can be read, with the number of bytes taken after the first. -/
def scalarAfter (first : UInt8) (rest : List UInt8) : Option Char × Nat :=
  if first < 0x80 then (some (Char.ofNat first.toNat), 0)
  else if 0xc2 ≤ first && first ≤ 0xdf then
    match rest with
    | b :: _ =>
      if isContinuation b then (some (Char.ofNat (first.toNat % 32 * 64 + low b)), 1)
      else (none, 0)
    | [] => (none, 0)
  else if 0xe0 ≤ first && first ≤ 0xef then
    match rest with
    | b :: c :: _ =>
      if isSecond first b then
        if isContinuation c then
          (some (Char.ofNat (first.toNat % 16 * 4096 + low b * 64 + low c)), 2)
        else (none, 1)
      else (none, 0)
    -- A sequence that breaks off counts as one part as far as it could be continued.
    | [b] => (none, if isSecond first b then 1 else 0)
    | [] => (none, 0)
  else if 0xf0 ≤ first && first ≤ 0xf4 then
    match rest with
    | b :: c :: d :: _ =>
      if isSecond first b then
        if isContinuation c then
          if isContinuation d then
            (some (Char.ofNat
              (first.toNat % 8 * 262144 + low b * 4096 + low c * 64 + low d)), 3)
          else (none, 2)
        else (none, 1)
      else (none, 0)
    | [b, c] => (none, if isSecond first b then if isContinuation c then 2 else 1 else 0)
    | [b] => (none, if isSecond first b then 1 else 0)
    | [] => (none, 0)
  else (none, 0)

/-- Reads bytes as characters; a part that is no character is `none`. -/
def scalars (bytes : List UInt8) : List (Option Char) :=
  match bytes with
  | [] => []
  | first :: rest =>
    let (c, taken) := scalarAfter first rest
    c :: scalars (rest.drop taken)
  termination_by bytes.length
  decreasing_by simp only [List.length_drop, List.length_cons]; omega

theorem scalars_ascii_cons {b : UInt8} (h : b < 0x80) (rest : List UInt8) :
    scalars (b :: rest) = some (Char.ofNat b.toNat) :: scalars rest := by
  rw [scalars]
  simp [scalarAfter, h]

/-- Reads bytes as a text, with U+FFFD for each part that is no character. -/
def decodeLossy (bytes : List UInt8) : String :=
  String.ofList ((scalars bytes).map (·.getD '\ufffd'))

/-- Reads bytes as a text; `none` where some part is no character. -/
def decode? (bytes : List UInt8) : Option String :=
  ((scalars bytes).mapM id).map String.ofList

end MockServer.Text
