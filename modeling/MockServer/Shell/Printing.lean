/-
Printing commands.

`echo` writes its arguments with escapes filled in; `printf` fills a form with its
arguments and begins again while arguments are left.

This stands for the machine's shell, on which tools are started; the program has no such code.
-/
import MockServer.Shell.Arithmetic
import MockServer.Text.Bytes

namespace MockServer.Shell.Printing

/-- Is a character an octal digit? -/
def isOctal (c : Char) : Bool :=
  '0' ≤ c && c ≤ '7'

/-- The byte of some octal digits. -/
def octal (digits : List Char) : UInt8 :=
  UInt8.ofNat (digits.foldl (fun n c => 8 * n + (c.toNat - '0'.toNat)) 0)

/-- The byte of a letter behind a backslash. -/
def control? : Char → Option UInt8
  | 'a' => some 7
  | 'b' => some 8
  | 'f' => some 12
  | 'n' => some 10
  | 'r' => some 13
  | 't' => some 9
  | 'v' => some 11
  | '\\' => some 92
  | _ => none

/-- The bytes of a character. -/
def bytesOf (c : Char) : List UInt8 :=
  Text.encode (String.singleton c)

/-- Octal digits at the beginning of a text, at most three. -/
def octalAhead (s : List Char) : List Char :=
  (s.take 3).takeWhile isOctal

/-- The bytes of a text with escapes in which a zero opens an octal number, and whether the
text ends all output. -/
def escaped : (fuel : Nat) → List Char → List UInt8 × Bool
  | 0, _ => ([], false)
  | _, [] => ([], false)
  | fuel + 1, '\\' :: c :: rest =>
    if c = 'c' then ([], true)
    else if c = '0' then
      let digits := octalAhead rest
      let (bytes, stop) := escaped fuel (rest.drop digits.length)
      (octal digits :: bytes, stop)
    else match control? c with
      | some b =>
        let (bytes, stop) := escaped fuel rest
        (b :: bytes, stop)
      | none =>
        let (bytes, stop) := escaped fuel rest
        (bytesOf '\\' ++ bytesOf c ++ bytes, stop)
  | fuel + 1, c :: rest =>
    let (bytes, stop) := escaped fuel rest
    (bytesOf c ++ bytes, stop)

/-- What `echo` writes. -/
def echo (arguments : List String) : List UInt8 :=
  let (items, ending) : List String × List UInt8 := match arguments with
    | "-n" :: rest => (rest, [])
    | _ => (arguments, [10])
  let text := (" ".intercalate items).toList
  let (bytes, stop) := escaped (text.length + 1) text
  if stop then bytes else bytes ++ ending

/-! ### Forms -/

/-- A text filled up to a width, on the left unless asked otherwise. -/
def fillTo (width : Nat) (left : Bool) (fill : Char) (s : List Char) : List Char :=
  let gap := List.replicate (width - s.length) fill
  if left then s ++ gap.map fun _ => ' ' else gap ++ s

/-- The bytes of one conversion of an argument: a number or a text. -/
def converted (conversion : Char) (width : Nat) (left zeros : Bool) (argument : String) :
    List UInt8 :=
  let filled := if conversion = 'd' then
      let number := (Arithmetic.integer? argument.toList).getD 0
      fillTo width left (if zeros then '0' else ' ') (Number.integer number)
    else fillTo width left ' ' argument.toList
  Text.encode (String.ofList filled)

/-- One run through a form: the bytes, and the arguments that are left. -/
def filled : (fuel : Nat) → List Char → List String → List UInt8 × List String
  | 0, _, arguments => ([], arguments)
  | _, [], arguments => ([], arguments)
  | fuel + 1, '%' :: '%' :: rest, arguments =>
    let (bytes, left) := filled fuel rest arguments
    (37 :: bytes, left)
  | fuel + 1, '%' :: rest, arguments =>
    let flags := rest.takeWhile fun c => c = '-' || c = '0'
    let width := (rest.drop flags.length).takeWhile Char.isDigit
    match rest.drop (flags.length + width.length) with
    | conversion :: more =>
      let bytes := converted conversion (Number.number width) (flags.contains '-')
        (flags.contains '0') (arguments.headD "")
      let (others, left) := filled fuel more arguments.tail
      (bytes ++ others, left)
    | [] => ([], arguments)
  | fuel + 1, '\\' :: c :: rest, arguments =>
    if isOctal c then
      let digits := octalAhead (c :: rest)
      let (bytes, left) := filled fuel ((c :: rest).drop digits.length) arguments
      (octal digits :: bytes, left)
    else
      let (bytes, left) := filled fuel rest arguments
      match control? c with
      | some b => (b :: bytes, left)
      | none => if c = '"' || c = '\'' then (bytesOf c ++ bytes, left)
          else (bytesOf '\\' ++ bytesOf c ++ bytes, left)
  | fuel + 1, c :: rest, arguments =>
    let (bytes, left) := filled fuel rest arguments
    (bytesOf c ++ bytes, left)

/-- Runs through a form as long as arguments are left and a run takes some. -/
def runs (form : List Char) : (fuel : Nat) → List String → List UInt8
  | 0, _ => []
  | fuel + 1, arguments =>
    let (bytes, left) := filled (form.length + 1) form arguments
    -- A form that takes no argument is written once.
    if left = [] || left.length = arguments.length then bytes else bytes ++ runs form fuel left

/-- What `printf` writes. -/
def printf (form : String) (arguments : List String) : List UInt8 :=
  runs form.toList (arguments.length + 1) arguments

end MockServer.Shell.Printing
