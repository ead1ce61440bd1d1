/-
From tokens to the one document of a YAML text.

A text holds at most one document.  Handles of tags are replaced by what they stand for,
and names of anchors by their numbers, as the document is read.

Design notes: the reader of a node takes one token at least, so the number of tokens
bounds its depth; `fuel` is that number.
-/
import MockServer.Yaml.Node
import MockServer.Yaml.Token

namespace MockServer.Yaml

/-- What is read along with the nodes: the handles of tags, and the names of anchors with
their numbers. -/
structure Names where
  handles : List (String × String)
  anchors : List (String × Nat)

namespace Names

/-- The text for which a handle stands: the first one that was told, else the standard one. -/
def handle? (names : Names) (handle : String) : Option String :=
  ((names.handles ++ [("!", "!"), ("!!", "tag:yaml.org,2002:")]).find? (·.1 == handle)).map Prod.snd

/-- Sets a name; its number is the number of names known before. -/
def setAnchor (names : Names) (name : String) : Names × Nat :=
  let number := names.anchors.length
  ({ names with anchors := names.anchors.filter (·.1 != name) ++ [(name, number)] }, number)

/-- The number of a name. -/
def anchor? (names : Names) (name : String) : Option Nat :=
  (names.anchors.find? (·.1 == name)).map Prod.snd

end Names

/-- The tokens left and the names known. -/
structure Reader where
  tokens : List Token
  names : Names

namespace Reader

/-- The reader behind the next token. -/
def skip (r : Reader) : Reader :=
  { r with tokens := r.tokens.drop 1 }

/-- Does one of these tokens come next? -/
def sees (r : Reader) (ts : List Token) : Bool :=
  r.tokens.head?.any ts.contains

/-- Reads an anchor. -/
def anchor (r : Reader) : Option Nat × Reader :=
  match r.tokens with
  | .anchor name :: ts =>
    let (names, number) := r.names.setAnchor name
    (some number, ⟨ts, names⟩)
  | _ => (none, r)

/-- Reads a tag. -/
def tag (r : Reader) : Option (Option String × Reader) :=
  match r.tokens with
  | .tag handle suffix :: ts =>
    if handle = "" then some (some suffix, { r with tokens := ts })
    else (r.names.handle? handle).map fun leading =>
      (some (leading ++ suffix), { r with tokens := ts })
  | _ => some (none, r)

/-- Reads the anchor and the tag before a node, in either order. -/
def properties (r : Reader) : Option (Properties × Reader) := do
  let (before, r) := r.anchor
  let (tag, r) ← r.tag
  let (behind, r) := if before.isNone && tag.isSome then r.anchor else (none, r)
  some (⟨before.or behind, tag⟩, r)

/-- The node of properties behind which nothing stands; a node has to have some. -/
def bare (ps : Properties) (r : Reader) : Option (Node × Reader) :=
  if ps.anchor.isSome || ps.tag.isSome then some (.scalar ps true "", r) else none

end Reader

mutual

/-- Reads a node.  Block collections are allowed where `block` is set, and a sequence whose
hyphens stand in the column of the key where `hyphens` is set. -/
def readNode (fuel : Nat) (block hyphens : Bool) (r : Reader) : Option (Node × Reader) :=
  match fuel with
  | 0 => none
  | fuel + 1 =>
    match r.tokens with
    | .alias name :: ts => (r.names.anchor? name).map fun n => (.alias n, { r with tokens := ts })
    | _ => do
      let (ps, r) ← r.properties
      match r.tokens with
      | .entry :: _ =>
        -- In the column of its key a sequence has no opening and no closing token.
        if hyphens then do
          let (items, r) ← readHyphens fuel r
          some (.sequence ps items, r)
        else r.bare ps
      | .scalar plain text :: ts => some (.scalar ps plain text, { r with tokens := ts })
      | .flowSequence :: ts => do
        let (items, r) ← readFlowItems fuel true { r with tokens := ts }
        some (.sequence ps items, r)
      | .flowMapping :: ts => do
        let (entries, r) ← readFlowEntries fuel true { r with tokens := ts }
        some (.mapping ps entries, r)
      | .blockSequence :: ts =>
        if block then do
          let (items, r) ← readBlockItems fuel { r with tokens := ts }
          some (.sequence ps items, r)
        else r.bare ps
      | .blockMapping :: ts =>
        if block then do
          let (entries, r) ← readBlockEntries fuel { r with tokens := ts }
          some (.mapping ps entries, r)
        else r.bare ps
      | _ => r.bare ps

/-- Reads a node, or the empty scalar where one of some tokens comes next. -/
def readNodeBefore (fuel : Nat) (block hyphens : Bool) (ends : List Token) (r : Reader) :
    Option (Node × Reader) :=
  match fuel with
  | 0 => none
  | fuel + 1 => if r.sees ends then some (.empty, r) else readNode fuel block hyphens r

/-- Reads the entries of a block sequence and its end. -/
def readBlockItems (fuel : Nat) (r : Reader) : Option (List Node × Reader) :=
  match fuel with
  | 0 => none
  | fuel + 1 =>
    match r.tokens with
    | .entry :: ts => do
      let (item, r) ← readNodeBefore fuel true false [.entry, .blockEnd] { r with tokens := ts }
      let (items, r) ← readBlockItems fuel r
      some (item :: items, r)
    | .blockEnd :: ts => some ([], { r with tokens := ts })
    | _ => none

/-- Reads the entries of a sequence whose hyphens stand in the column of its key. -/
def readHyphens (fuel : Nat) (r : Reader) : Option (List Node × Reader) :=
  match fuel with
  | 0 => none
  | fuel + 1 =>
    match r.tokens with
    | .entry :: ts => do
      let (item, r) ←
        readNodeBefore fuel true false [.entry, .key, .value, .blockEnd] { r with tokens := ts }
      let (items, r) ← readHyphens fuel r
      some (item :: items, r)
    | _ => some ([], r)

/-- Reads the entries of a block mapping and its end. -/
def readBlockEntries (fuel : Nat) (r : Reader) : Option (List (Node × Node) × Reader) :=
  match fuel with
  | 0 => none
  | fuel + 1 =>
    match r.tokens with
    | .key :: ts => do
      let (key, r) ←
        readNodeBefore fuel true true [.key, .value, .blockEnd] { r with tokens := ts }
      let (value, r) ← readBlockValue fuel r
      let (entries, r) ← readBlockEntries fuel r
      some ((key, value) :: entries, r)
    | .blockEnd :: ts => some ([], { r with tokens := ts })
    | _ => none

/-- Reads the value of an entry of a block mapping; it may be left out. -/
def readBlockValue (fuel : Nat) (r : Reader) : Option (Node × Reader) :=
  match fuel with
  | 0 => none
  | fuel + 1 =>
    match r.tokens with
    | .value :: ts =>
      readNodeBefore fuel true true [.key, .value, .blockEnd] { r with tokens := ts }
    | _ => some (.empty, r)

/-- Reads the items of a flow sequence and its bracket: all of them, or those behind a
first. -/
def readFlowItems (fuel : Nat) (first : Bool) (r : Reader) : Option (List Node × Reader) :=
  match fuel with
  | 0 => none
  | fuel + 1 =>
    match r.tokens with
    | .flowSequenceEnd :: ts => some ([], { r with tokens := ts })
    | _ =>
      if first then readFlowItem fuel r
      else if r.sees [.comma] then
        -- A comma may stand before the bracket.
        if r.skip.sees [.flowSequenceEnd] then some ([], r.skip.skip)
        else readFlowItem fuel r.skip
      else none

/-- Reads an item of a flow sequence, which may be a pair, and the items behind it. -/
def readFlowItem (fuel : Nat) (r : Reader) : Option (List Node × Reader) :=
  match fuel with
  | 0 => none
  | fuel + 1 => do
    let (item, r) ←
      match r.tokens with
      | .key :: ts => do
        let (key, r) ← readFlowKey fuel { r with tokens := ts }
        let (value, r) ← readFlowValue fuel [.comma, .flowSequenceEnd] r
        some (Node.mapping ⟨none, none⟩ [(key, value)], r)
      | _ => readNode fuel false false r
    let (items, r) ← readFlowItems fuel false r
    some (item :: items, r)

/-- Reads the key of a pair in a flow sequence; where it is left out, the token behind it is
passed over too. -/
def readFlowKey (fuel : Nat) (r : Reader) : Option (Node × Reader) :=
  match fuel with
  | 0 => none
  | fuel + 1 =>
    if r.sees [.value, .comma, .flowSequenceEnd] then some (.empty, r.skip)
    else readNode fuel false false r

/-- Reads the value of a pair between brackets; it may be left out. -/
def readFlowValue (fuel : Nat) (ends : List Token) (r : Reader) : Option (Node × Reader) :=
  match fuel with
  | 0 => none
  | fuel + 1 =>
    match r.tokens with
    | .value :: ts => readNodeBefore fuel false false ends { r with tokens := ts }
    | _ => some (.empty, r)

/-- Reads the entries of a flow mapping and its brace: all of them, or those behind a
first. -/
def readFlowEntries (fuel : Nat) (first : Bool) (r : Reader) :
    Option (List (Node × Node) × Reader) :=
  match fuel with
  | 0 => none
  | fuel + 1 =>
    match r.tokens with
    | .flowMappingEnd :: ts => some ([], { r with tokens := ts })
    | _ =>
      if first then readFlowEntry fuel r
      else if r.sees [.comma] then
        -- A comma may stand before the brace.
        if r.skip.sees [.flowMappingEnd] then some ([], r.skip.skip)
        else readFlowEntry fuel r.skip
      else none

/-- Reads an entry of a flow mapping, and the entries behind it. -/
def readFlowEntry (fuel : Nat) (r : Reader) : Option (List (Node × Node) × Reader) :=
  match fuel with
  | 0 => none
  | fuel + 1 => do
    let (entry, r) ←
      match r.tokens with
      | .key :: ts => do
        let (key, r) ←
          readNodeBefore fuel false false [.value, .comma, .flowMappingEnd] { r with tokens := ts }
        let (value, r) ← readFlowValue fuel [.comma, .flowMappingEnd] r
        some ((key, value), r)
      | _ => do
        let (key, r) ← readNode fuel false false r
        some ((key, Node.empty), r)
    let (entries, r) ← readFlowEntries fuel false r
    some (entry :: entries, r)

end

/-! ### Documents -/

/-- Reads the directives before a document.  The version may be told once and is 1.1 or 1.2,
and every handle may be told once. -/
def readDirectives (versionKnown : Bool) (handles : List (String × String)) :
    List Token → Option (List (String × String) × List Token)
  | .version major minor :: ts =>
    if !versionKnown && major == 1 && (minor == 1 || minor == 2) then
      readDirectives true handles ts
    else none
  | .handle name leading :: ts =>
    if handles.any (·.1 == name) then none
    else readDirectives versionKnown (handles ++ [(name, leading)]) ts
  | ts => some (handles, ts)

/-- A token that begins or ends a document. -/
def isBoundary : Token → Bool
  | .version _ _ => true
  | .handle _ _ => true
  | .documentStart => true
  | .documentEnd => true
  | _ => false

/-- Reads the content of a document behind its mark. -/
def readContent (r : Reader) : Option (Node × Reader) :=
  match r.tokens with
  | [] => some (.empty, r)
  | t :: _ =>
    if isBoundary t then some (.empty, r)
    else readNode (2 * r.tokens.length + 2) true false r

/-- Reads a document with what is told before it. -/
def readDocument (tokens : List Token) : Option (Node × Reader) := do
  let (handles, ts) ← readDirectives false [] tokens
  match ts with
  | .documentStart :: ts => readContent ⟨ts, ⟨handles, []⟩⟩
  | t :: _ =>
    -- Without a mark the content begins at once; directives need a mark behind them.
    if handles.isEmpty && ts.length == tokens.length && !isBoundary t then
      readNode (2 * ts.length + 2) true false ⟨ts, ⟨[], []⟩⟩
    else none
  | [] => none

/-- The node of the one document of a text: `some none` for a text without a document. -/
def Node.ofTokens? (tokens : List Token) : Option (Option Node) :=
  if tokens = [] then some none
  else do
    let (node, r) ← readDocument tokens
    if r.tokens.all (· == .documentEnd) then some (some node) else none

end MockServer.Yaml
