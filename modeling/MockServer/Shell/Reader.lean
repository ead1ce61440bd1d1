/-
Reading scripts.

A script is read by descent from lists of commands to words; every step is given how many
more steps may follow, and a script gets enough for its length.  A text that is no script
is refused as a whole.

This stands for the machine's shell, on which tools are started; the program has no such code.
-/
import MockServer.Shell.Command
import MockServer.Text.Ascii

namespace MockServer.Shell

/-- A step of reading: it takes something from the beginning of a text, or fails. -/
abbrev Reader (α : Type) := StateT (List Char) Option α

namespace Reader

/-- Characters that a name may begin with. -/
def isNameStart (c : Char) : Bool :=
  c.isAlpha || c = '_'

/-- Characters of names. -/
def isNameChar (c : Char) : Bool :=
  Text.isAsciiAlphanumeric c || c = '_'

/-- Characters that end a word outside of quotation marks. -/
def isBoundary (c : Char) : Bool :=
  c = ' ' || c = '\t' || c = '\n' || c = '|' || c = '&' || c = ';' || c = '<' || c = '>'
    || c = '(' || c = ')'

/-- Passes over blanks, joined lines and comments. -/
def dropBlanks : List Char → List Char
  | [] => []
  | '\\' :: '\n' :: rest => dropBlanks rest
  | c :: rest =>
    if c = ' ' || c = '\t' then dropBlanks rest
    else if c = '#' then rest.dropWhile (· ≠ '\n')
    else c :: rest

/-- Passes over blanks. -/
def blanks : Reader Unit :=
  modify dropBlanks

/-- Does the rest begin with a text? -/
def ahead (text : String) : Reader Bool := do
  return text.toList.isPrefixOf (← get)

/-- Takes a text from the beginning of the rest, if it is there. -/
def take? (text : String) : Reader Bool := do
  if ← ahead text then
    modify (·.drop text.length)
    return true
  else return false

/-- Takes a text, which has to be there. -/
def take (text : String) : Reader Unit := do
  if ← take? text then pure () else failure

/-- Takes the characters of a kind. -/
def takeAll (kind : Char → Bool) : Reader (List Char) :=
  modifyGet fun s => (s.takeWhile kind, s.dropWhile kind)

/-- The line of the rest in a script with a number of line ends. -/
def line (ends : Nat) : Reader Nat := do
  return ends - (← get).count '\n' + 1

/-! ### Words -/

/-- Splits a text in front of the bracket that closes an open one, counting the brackets
between; quotation marks are passed over whole. -/
def untilClosed (opening closing : Char) (depth : Nat) (quote : Option Char) :
    List Char → Option (List Char × List Char)
  | [] => none
  | '\\' :: c :: rest =>
    if quote = some '\'' then
      (untilClosed opening closing depth (if c = '\'' then none else quote) rest).map fun (a, b) =>
        ('\\' :: c :: a, b)
    else (untilClosed opening closing depth quote rest).map fun (a, b) => ('\\' :: c :: a, b)
  | c :: rest =>
    match quote with
    | some q =>
      (untilClosed opening closing depth (if c = q then none else quote) rest).map fun (a, b) =>
        (c :: a, b)
    | none =>
      if c = closing then
        match depth with
        | 0 => some ([], rest)
        | depth + 1 =>
          (untilClosed opening closing depth none rest).map fun (a, b) => (c :: a, b)
      else if c = opening then
        (untilClosed opening closing (depth + 1) none rest).map fun (a, b) => (c :: a, b)
      else
        (untilClosed opening closing depth (if c = '\'' || c = '"' then some c else none) rest).map
          fun (a, b) => (c :: a, b)

/-- Takes the text up to a closing bracket, and the bracket. -/
def enclosed (opening closing : Char) : Reader (List Char) := do
  let (inner, rest) ← untilClosed opening closing 0 none (← get)
  set rest
  return inner

/-- Is a character the name of a special parameter? -/
def isSpecial (c : Char) : Bool :=
  c = '@' || c = '*' || c = '#' || c = '?' || c = '$'

/-- The name at the beginning of a text. -/
def nameAhead (text : List Char) : List Char :=
  match text with
  | [] => []
  | c :: _ =>
    if isNameStart c then text.takeWhile isNameChar
    else if c.isDigit then text.takeWhile Char.isDigit
    else if isSpecial c then [c]
    else []

/-- Reads a parameter between braces. -/
def braced (inner : List Char) (quoted : Bool) : Option Part :=
  let name := nameAhead inner
  if name = [] then none
  else match inner.drop name.length with
    | [] => some (.parameter (String.ofList name) none quoted)
    | ':' :: '-' :: text => some (.parameter (String.ofList name) (some text) quoted)
    | _ => none

/-- Reads what follows a dollar sign. -/
def dollar (quoted : Bool) : Reader Part := do
  if ← take? "((" then
    let inner ← enclosed '(' ')'
    take ")"
    return .arithmetic inner quoted
  else if ← take? "(" then
    return .output (← enclosed '(' ')') quoted
  else if ← take? "\x7b" then
    braced (← enclosed '\x7b' '\x7d') quoted
  else
    let rest ← get
    match rest with
    | c :: _ =>
      let name := if c.isDigit then [c] else nameAhead rest
      if name = [] then return .literal ['$'] true
      else
        set (rest.drop name.length)
        return .parameter (String.ofList name) none quoted
    | [] => return .literal ['$'] true

/-- Reads the rest of a text between double quotation marks. -/
def doubleQuoted : (fuel : Nat) → Reader Word
  | 0 => failure
  | fuel + 1 => do
    match ← get with
    | [] => failure
    | '"' :: rest =>
      set rest
      return []
    | '\\' :: c :: rest =>
      set rest
      let more ← doubleQuoted fuel
      -- A backslash joins lines, and takes the meaning of the signs that have one here.
      if c = '\n' then return more
      else if c = '"' || c = '\\' || c = '$' then return .literal [c] true :: more
      else return .literal ['\\', c] true :: more
    | '$' :: rest =>
      set rest
      let part ← dollar true
      return part :: (← doubleQuoted fuel)
    | c :: rest =>
      set rest
      return .literal [c] true :: (← doubleQuoted fuel)

/-- The parts between quotation marks.  They are an argument even where they are empty, unless
they stand for the arguments of the script alone, which may be none. -/
def quotedParts (inner : Word) : Word :=
  if inner = [.parameter "@" none true] then inner else .literal [] true :: inner

/-- Reads the parts of a word up to its boundary. -/
def parts : (fuel : Nat) → Reader Word
  | 0 => failure
  | fuel + 1 => do
    match ← get with
    | [] => return []
    | '\'' :: rest =>
      if rest.contains '\'' then
        set (rest.dropWhile (· ≠ '\'') |>.drop 1)
        return .literal (rest.takeWhile (· ≠ '\'')) true :: (← parts fuel)
      else failure
    | '"' :: rest =>
      set rest
      let inner ← doubleQuoted fuel
      return quotedParts inner ++ (← parts fuel)
    | '\\' :: c :: rest =>
      set rest
      if c = '\n' then parts fuel else return .literal [c] true :: (← parts fuel)
    | '$' :: rest =>
      set rest
      let part ← dollar false
      return part :: (← parts fuel)
    | c :: rest =>
      if isBoundary c then return []
      else
        set rest
        return .literal [c] false :: (← parts fuel)

/-- Reads a word, if one begins here. -/
def word? : Reader (Option Word) := do
  blanks
  match ← parts ((← get).length + 1) with
  | [] => return none
  | ps => return some ps

/-- The text of a part without quotation marks and without anything to fill in. -/
def plainPart : Part → Option (List Char)
  | .literal text false => some text
  | _ => none

/-- The word that is a plain text, as reserved words are. -/
def plainText (word : Word) : Option String :=
  (word.mapM plainPart).map fun texts => String.ofList texts.flatten

/-- The next word as plain text; it stays in the rest. -/
def peek : Reader (Option String) := do
  let before ← get
  let word ← word?
  set before
  return word.bind plainText

/-! ### Simple commands -/

/-- Reads a redirection, if one begins here. -/
def redirection? : Reader (Option Redirection) := do
  blanks
  let before ← get
  let number ← takeAll Char.isDigit
  let descriptor? : Option Nat := match number with
    | [c] => some (c.toNat - '0'.toNat)
    | _ => none
  let sign? : Option (Direction × Nat) ←
    if ← take? ">>" then pure (some (.behind, 1))
    else if ← take? ">&" then pure (some (.duplicate, 1))
    else if ← take? ">" then pure (some (.replacing, 1))
    else if ← ahead "<<" then failure
    else if ← take? "<" then pure (some (.from, 0))
    else pure none
  match sign? with
  | none =>
    set before
    return none
  | some (direction, standard) =>
    if number.length ≤ 1 then
      match ← word? with
      | some target => return some ⟨descriptor?.getD standard, direction, target⟩
      | none => failure
    else failure

/-- Splits an assignment off a word. -/
def assignment? (word : Word) : Option (String × Word) :=
  let text := word.takeWhile fun part => (plainPart part).any fun t => !t.contains '='
  match word.drop text.length with
  | .literal ['='] false :: value =>
    match plainText text with
    | some name =>
      match name.toList with
      | c :: rest => if isNameStart c && rest.all isNameChar then some (name, value) else none
      | [] => none
    | none => none
  | _ => none

/-- Reads the words and redirections of a simple command behind some that were read. -/
def simpleFrom : (fuel : Nat) → Simple → Reader Simple
  | 0, _ => failure
  | fuel + 1, read => do
    match ← redirection? with
    | some r => simpleFrom fuel { read with redirections := read.redirections ++ [r] }
    | none =>
      match ← word? with
      | none => return read
      | some word =>
        match if read.words = [] then assignment? word else none with
        | some a => simpleFrom fuel { read with assignments := read.assignments ++ [a] }
        | none => simpleFrom fuel { read with words := read.words ++ [word] }

/-- Reads redirections. -/
def redirections : (fuel : Nat) → Reader (List Redirection)
  | 0 => failure
  | fuel + 1 => do
    match ← redirection? with
    | some r => return r :: (← redirections fuel)
    | none => return []

/-! ### Lists -/

/-- Passes over blanks and line ends. -/
def lines : (fuel : Nat) → Reader Unit
  | 0 => failure
  | fuel + 1 => do
    blanks
    if ← take? "\n" then lines fuel

/-- The words that end a list of commands. -/
def closers : List String :=
  ["then", "else", "elif", "fi", "do", "done", "esac", "\x7d"]

/-- Takes a reserved word, which has to be there. -/
def keyword (text : String) : Reader Unit := do
  if (← peek) = some text then
    blanks
    take text
  else failure

/-- Reads words up to a boundary that is none of theirs. -/
def words : (fuel : Nat) → Reader (List Word)
  | 0 => failure
  | fuel + 1 => do
    match ← word? with
    | some word => return word :: (← words fuel)
    | none => return []

/-- Does a list of commands end here? -/
def atEnd : Reader Bool := do
  blanks
  match ← get with
  | [] => return true
  | ')' :: _ => return true
  | ';' :: ';' :: _ => return true
  | _ => return ((← peek).any closers.contains)

/-- Reads the patterns of a case, with bars between them. -/
def patterns : (fuel : Nat) → Reader (List Word)
  | 0 => failure
  | fuel + 1 => do
    match ← word? with
    | none => failure
    | some word =>
      blanks
      if ← take? "|" then return word :: (← patterns fuel)
      else
        take ")"
        return [word]

mutual

/-- Reads a list of commands. -/
def list (ends : Nat) : (fuel : Nat) → Reader Command
  | 0 => failure
  | fuel + 1 => do
    lines (fuel + 1)
    if ← atEnd then return .nothing
    else
      let first ← conditions ends fuel
      blanks
      if ← ahead ";;" then return first
      else if (← take? ";") || (← take? "\n") then
        match ← list ends fuel with
        | .nothing => return first
        | second => return .sequence first second
      else if ← atEnd then return first
      else failure

/-- Reads pipes that depend on the success of those before. -/
def conditions (ends : Nat) : (fuel : Nat) → Reader Command
  | 0 => failure
  | fuel + 1 => do conditionsFrom ends fuel (← pipes ends fuel)

/-- Reads pipes behind others on whose success they depend. -/
def conditionsFrom (ends : Nat) : (fuel : Nat) → Command → Reader Command
  | 0, _ => failure
  | fuel + 1, first => do
    blanks
    if ← take? "&&" then
      lines (fuel + 1)
      conditionsFrom ends fuel (.both first (← pipes ends fuel))
    else if ← take? "||" then
      lines (fuel + 1)
      conditionsFrom ends fuel (.either first (← pipes ends fuel))
    else return first

/-- Reads a pipe. -/
def pipes (ends : Nat) : (fuel : Nat) → Reader Command
  | 0 => failure
  | fuel + 1 => do pipesFrom ends fuel (← command ends fuel)

/-- Reads the commands of a pipe behind others. -/
def pipesFrom (ends : Nat) : (fuel : Nat) → Command → Reader Command
  | 0, _ => failure
  | fuel + 1, first => do
    blanks
    if (← ahead "|") && !(← ahead "||") then
      take "|"
      lines (fuel + 1)
      pipesFrom ends fuel (.pipe first (← command ends fuel))
    else return first

/-- Reads a command. -/
def command (ends : Nat) : (fuel : Nat) → Reader Command
  | 0 => failure
  | fuel + 1 => do
    blanks
    let number ← line ends
    match ← compound? ends fuel with
    | some body => return .redirected number body (← redirections (fuel + 1))
    | none =>
      let simple ← simpleFrom (fuel + 1) ⟨number, [], [], []⟩
      if simple.words = [] && simple.assignments = [] && simple.redirections = [] then failure
      else return .simple simple

/-- Reads a command that holds others, if one begins here. -/
def compound? (ends : Nat) : (fuel : Nat) → Reader (Option Command)
  | 0 => failure
  | fuel + 1 => do
    if ← take? "(" then
      let body ← list ends fuel
      blanks
      take ")"
      return some (.apart body)
    else
      match ← peek with
      | some "\x7b" =>
        keyword "\x7b"
        let body ← list ends fuel
        keyword "\x7d"
        return some body
      | some "if" =>
        keyword "if"
        return some (← branches ends fuel)
      | some "while" =>
        keyword "while"
        return some (← loopFrom ends fuel)
      | some "for" =>
        keyword "for"
        return some (← eachFrom ends fuel)
      | some "case" =>
        keyword "case"
        return some (← choiceFrom ends fuel)
      | _ => return none

/-- Reads the rest of a branching behind its first word. -/
def branches (ends : Nat) : (fuel : Nat) → Reader Command
  | 0 => failure
  | fuel + 1 => do
    let test ← list ends fuel
    keyword "then"
    let yes ← list ends fuel
    if (← peek) = some "elif" then
      keyword "elif"
      return .branch test yes (← branches ends fuel)
    else if (← peek) = some "else" then
      keyword "else"
      let no ← list ends fuel
      keyword "fi"
      return .branch test yes no
    else
      keyword "fi"
      return .branch test yes .nothing

/-- Reads the rest of a loop behind its first word. -/
def loopFrom (ends : Nat) : (fuel : Nat) → Reader Command
  | 0 => failure
  | fuel + 1 => do
    let test ← list ends fuel
    keyword "do"
    let body ← list ends fuel
    keyword "done"
    return .loop test body

/-- Reads the rest of a loop over words behind its first word. -/
def eachFrom (ends : Nat) : (fuel : Nat) → Reader Command
  | 0 => failure
  | fuel + 1 => do
    match (← word?).bind plainText with
    | none => failure
    | some name =>
      lines (fuel + 1)
      let items ← if (← peek) = some "in" then do
          keyword "in"
          words (fuel + 1)
        -- Without words of its own the loop goes through the arguments.
        else pure [[.parameter "@" none true]]
      blanks
      let _ ← take? ";"
      lines (fuel + 1)
      keyword "do"
      let body ← list ends fuel
      keyword "done"
      return .each name items body

/-- Reads the rest of a choice behind its first word. -/
def choiceFrom (ends : Nat) : (fuel : Nat) → Reader Command
  | 0 => failure
  | fuel + 1 => do
    match ← word? with
    | none => failure
    | some subject =>
      lines (fuel + 1)
      keyword "in"
      return .choice subject (← cases ends fuel)

/-- Reads the cases of a choice and its last word. -/
def cases (ends : Nat) : (fuel : Nat) → Reader (List (List Word × Command))
  | 0 => failure
  | fuel + 1 => do
    lines (fuel + 1)
    if (← peek) = some "esac" then
      keyword "esac"
      return []
    else
      let _ ← take? "("
      let ps ← patterns (fuel + 1)
      let body ← list ends fuel
      blanks
      let _ ← take? ";;"
      return (ps, body) :: (← cases ends fuel)

end

end Reader

/-- Reads a script. -/
def Command.ofText? (text : List Char) : Option Command := do
  let (command, rest) ← (Reader.list (text.count '\n') (4 * text.length + 8)).run text
  if rest = [] then some command else none

end MockServer.Shell
