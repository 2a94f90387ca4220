import SheetGrammar.Yaml.Scalar
import SheetGrammar.Yaml.Token.Tag

/-!
# Reading tokens

Indentation opens and closes the collections of the block style.  A scalar turns out
to be the key of a mapping only at the colon behind it; the tokens that open the
mapping are then put in front of it.

## Main definitions

* `Scanner` — a text of which some tokens were read.
* `Scanner.next` — reads one more token, or several.
* `tokens` — the tokens of a text, up to its end or the first fault.
-/

namespace SheetGrammar.Yaml

/-- A token that may turn out to start a key. -/
structure PossibleKey where
  /-- How many tokens come before it. -/
  token : Nat
  /-- Whether it has to be a key, because of where it stands. -/
  required : Bool
  start : Cursor

/-- A text of which some tokens were read. -/
structure Scanner where
  cursor : Cursor
  /-- The column of the innermost block collection, -1 outside of any. -/
  indent : Int
  /-- The columns of the block collections around it. -/
  outerIndents : List Int
  /-- Whether a key may start here. -/
  keyAllowed : Bool
  /-- The token that may start a key, inside the innermost brackets. -/
  key? : Option PossibleKey
  /-- Those outside of the innermost brackets, one for each pair around. -/
  outerKeys : List (Option PossibleKey)
  /-- The tokens read so far, the last one first. -/
  read : List Token

namespace Scanner

/-- A text of which nothing was read. -/
def ofText (text : String) : Scanner := ⟨.ofText text, -1, [], true, none, [], []⟩

/-- Whether some brackets are open. -/
def inFlow (s : Scanner) : Bool := !s.outerKeys.isEmpty

/-- Appends a token. -/
def push (s : Scanner) (t : Token) : Scanner := { s with read := t :: s.read }

/-- Puts a token in front of the tokens from a place on. -/
def insert (s : Scanner) (place : Nat) (t : Token) : Scanner :=
  let later := s.read.length - place
  { s with read := s.read.take later ++ t :: s.read.drop later }

/-- Moves on. -/
def moveTo (s : Scanner) (c : Cursor) : Scanner := { s with cursor := c }

/-- Passes over characters. -/
def skip (s : Scanner) (n : Nat) : Scanner := s.moveTo (s.cursor.skip n)

/-- Says whether a key may start. -/
def allowKey (s : Scanner) (b : Bool) : Scanner := { s with keyAllowed := b }

/-! ### Indentation -/

/-- Opens a block collection, if this place is indented more deeply than the ones that
are open; its token stands at `place`, or else at the end. -/
def openBlock (s : Scanner) (column : Nat) (place : Option Nat) (t : Token) : Scanner :=
  if s.inFlow ∨ (column : Int) ≤ s.indent then s
  else
    let s := { s with outerIndents := s.indent :: s.outerIndents, indent := column }
    match place with
    | some place => s.insert place t
    | none => s.push t

/-- Closes the block collections that are indented more deeply than a column. -/
def closeBlocksFrom (column : Int) : List Int → Scanner → Scanner
  | [], s => s
  | outer :: more, s =>
    if column < s.indent then
      closeBlocksFrom column more { s.push .blockEnd with indent := outer, outerIndents := more }
    else s

/-- Closes the block collections that are indented more deeply than a column, unless
brackets are open. -/
def closeBlocks (s : Scanner) (column : Int) : Scanner :=
  if s.inFlow then s else closeBlocksFrom column s.outerIndents s

/-! ### Possible keys -/

/-- How long a key may be that is not marked as one. -/
def maxKeyLength : Nat := 1024

/-- Whether a key cannot end here any more. -/
def isStale (c : Cursor) (k : PossibleKey) : Bool :=
  k.start.line < c.line || k.start.index + maxKeyLength < c.index

/-- Whether a token had to be a key and cannot be one any more. -/
def lacksColon (c : Cursor) (k? : Option PossibleKey) : Bool :=
  k?.any fun k => isStale c k && k.required

/-- Forgets the tokens that cannot be keys any more. It is a fault if one had to be. -/
def dropStaleKeys (s : Scanner) : Option Scanner :=
  if (s.key? :: s.outerKeys).any (lacksColon s.cursor) then none
  else
    let fresh := fun k? : Option PossibleKey => k?.filter fun k => !isStale s.cursor k
    some { s with key? := fresh s.key?, outerKeys := s.outerKeys.map fresh }

/-- Forgets the token that may start a key. It is a fault if it had to be one. -/
def dropKey (s : Scanner) : Option Scanner :=
  if s.key?.any PossibleKey.required then none else some { s with key? := none }

/-- Notes that the token that comes next may start a key. -/
def noteKey (s : Scanner) : Option Scanner :=
  if !s.keyAllowed then some s
  else
    let required := !s.inFlow && s.indent = s.cursor.column
    (s.dropKey).map fun s => { s with key? := some ⟨s.read.length, required, s.cursor⟩ }

/-! ### Tokens -/

/-- A token that ends everything on the line, such as a marker of documents. -/
def atTopLevel (s : Scanner) (read : Cursor → Option (Token × Cursor)) : Option Scanner :=
  match (s.closeBlocks (-1)).dropKey with
  | none => none
  | some s => (read s.cursor).map fun (t, c) => ((s.allowKey false).push t).moveTo c

/-- A token of one character that ends a key. -/
def indicator (s : Scanner) (t : Token) (keyAllowed : Bool) : Option Scanner :=
  (s.dropKey).map fun s => ((s.allowKey keyAllowed).push t).skip 1

/-- An opening bracket. -/
def openFlow (s : Scanner) (t : Token) : Option Scanner :=
  (s.noteKey).map fun s =>
    ({ (s.allowKey true).push t with key? := none, outerKeys := s.key? :: s.outerKeys }).skip 1

/-- A closing bracket. -/
def closeFlow (s : Scanner) (t : Token) : Option Scanner :=
  match s.dropKey with
  | none => none
  | some s =>
    let s := match s.outerKeys with
      | k? :: outer => { s with key? := k?, outerKeys := outer }
      | [] => s
    some (((s.allowKey false).push t).skip 1)

/-- A dash before an item, or a mark before a key. Outside brackets it may open a
block collection. -/
def blockIndicator (s : Scanner) (opening t : Token) (keyAllowed : Bool) : Option Scanner :=
  if s.inFlow then s.indicator t keyAllowed
  else if s.keyAllowed then (s.openBlock s.cursor.column none opening).indicator t keyAllowed
  else none

/-- A colon before a value. -/
def valueIndicator (s : Scanner) : Option Scanner :=
  match s.key? with
  | some k =>
    let s := (s.insert k.token .key).openBlock k.start.column (some k.token) .blockMappingStart
    some ((({ s with key? := none }.allowKey false).push .value).skip 1)
  | none =>
    if s.inFlow then some (((s.allowKey false).push .value).skip 1)
    else if s.keyAllowed then
      let s := s.openBlock s.cursor.column none .blockMappingStart
      some (((s.allowKey true).push .value).skip 1)
    else none

/-- A token that may start a key. -/
def keyToken (s : Scanner) (read : Cursor → Option (Token × Cursor)) : Option Scanner :=
  match s.noteKey with
  | none => none
  | some s => (read s.cursor).map fun (t, c) => ((s.allowKey false).push t).moveTo c

/-- A plain scalar. If it ends in front of a line of its own, a key may follow. -/
def plainScalar (s : Scanner) : Option Scanner :=
  match s.noteKey with
  | none => none
  | some s =>
    (readPlain? s.inFlow (s.indent + 1).toNat s.cursor).map fun p =>
      ((s.allowKey p.broken).push (.scalar .plain (String.ofList p.text))).moveTo p.cursor

/-- A block scalar. -/
def blockScalar (s : Scanner) (style : Style) : Option Scanner :=
  match s.dropKey with
  | none => none
  | some s =>
    (readBlock? (style = .folded) s.indent (s.cursor.skip 1)).map fun (text, c) =>
      ((s.allowKey true).push (.scalar style (String.ofList text))).moveTo c

/-- A quoted scalar. -/
def quotedScalar (s : Scanner) (style : Style) (quote : Char) : Option Scanner :=
  s.keyToken fun c => (readQuoted? quote (c.skip 1)).map fun (text, c) =>
    (.scalar style (String.ofList text), c)

/-- Whether a plain scalar may start with a character; `next` is the text behind it. -/
def startsPlain (flow : Bool) (x : Char) (next : List Char) : Bool :=
  if x = '-' then !(next.head?.any isGap)
  else if x = '?' ∨ x = ':' then !flow && !isBlankOrEnd next
  else !(isGap x || isBreak x || ",[]\x7b\x7d#&*!|>\x27\"%@\x60".toList.contains x)

/-- Reads the token that starts with a character; `next` is the text behind it. -/
def token (s : Scanner) (x : Char) (next : List Char) : Option Scanner :=
  let flow := s.inFlow
  if s.cursor.column = 0 ∧ x = '%' then
    s.atTopLevel fun c => readDirective? (c.skip 1)
  else if s.cursor.atMarker '-' then s.atTopLevel fun c => some (.documentStart, c.skip 3)
  else if s.cursor.atMarker '.' then s.atTopLevel fun c => some (.documentEnd, c.skip 3)
  else if x = '[' then s.openFlow .flowSequenceStart
  else if x = '\x7b' then s.openFlow .flowMappingStart
  else if x = ']' then s.closeFlow .flowSequenceEnd
  else if x = '\x7d' then s.closeFlow .flowMappingEnd
  else if x = ',' then s.indicator .flowEntry true
  else if x = '-' ∧ isBlankOrEnd next then s.blockIndicator .blockSequenceStart .blockEntry true
  else if x = '?' ∧ (flow ∨ isBlankOrEnd next) then s.blockIndicator .blockMappingStart .key (!flow)
  else if x = ':' ∧ (flow ∨ isBlankOrEnd next) then s.valueIndicator
  else if x = '*' then s.keyToken fun c =>
    (readName? (c.skip 1)).map fun (name, c) => (.alias name, c)
  else if x = '&' then s.keyToken fun c =>
    (readName? (c.skip 1)).map fun (name, c) => (.anchor name, c)
  else if x = '!' then s.keyToken (readTag? flow)
  else if x = '|' ∧ !flow then s.blockScalar .literal
  else if x = '>' ∧ !flow then s.blockScalar .folded
  else if x = '\x27' then s.quotedScalar .singleQuoted '\x27'
  else if x = '"' then s.quotedScalar .doubleQuoted '"'
  else if startsPlain flow x next then s.plainScalar
  else none

/-- Passes over blanks, comments and line ends. A tab in front of a token counts as a
blank only where no key may start. -/
def skipToToken : Nat → Scanner → Scanner
  | 0, s => s
  | fuel + 1, s =>
    let c := s.cursor
    let c := if c.column = 0 ∧ c.rest.head? = some '\ufeff' then c.skip 1 else c
    let tabs := s.inFlow || !s.keyAllowed
    let c := c.skipWhile fun x => x = ' ' || (tabs && x = '\t')
    let c := if c.rest.head? = some '#' then c.skipLine else c
    if c.rest.head?.any isBreak then
      let s := s.moveTo c.readBreak.2
      skipToToken fuel (if s.inFlow then s else s.allowKey true)
    else s.moveTo c

/-- The end of the text. -/
def finish (s : Scanner) : Option Scanner :=
  let s := s.moveTo (if s.cursor.column = 0 then s.cursor else s.cursor.nextLine 0)
  (s.closeBlocks (-1)).dropKey.map fun s => (s.allowKey false).push .streamEnd

/-! ### All tokens -/

/-- The tokens that can be used after a fault. Those from the first one on that may
still start a key cannot, since it is open what stands in front of it. -/
def usable (s : Scanner) : List Token :=
  let pending := (s.key? :: s.outerKeys).filterMap fun k? => k?.map PossibleKey.token
  s.read.reverse.take (pending.foldl min s.read.length)

/-- Reads tokens up to the end of the text or the first fault. -/
def readAll : Nat → Scanner → List Token
  | 0, s => s.usable
  | fuel + 1, s =>
    let s := skipToToken (s.cursor.rest.length + 1) s
    match s.dropStaleKeys with
    | none => s.usable
    | some s =>
      let s := s.closeBlocks s.cursor.column
      match s.cursor.rest with
      | [] =>
        match s.finish with
        | some s => s.read.reverse
        | none => s.usable
      | x :: next =>
        match s.token x next with
        | some s => readAll fuel s
        | none => s.usable

end Scanner

/-- Whether a character may stand in a text. -/
def isPrintable (c : Char) : Bool :=
  let n := c.toNat
  n == 0x09 || n == 0x0A || n == 0x0D || (0x20 ≤ n && n ≤ 0x7E) || n == 0x85
    || (0xA0 ≤ n && n ≤ 0xD7FF) || (0xE000 ≤ n && n ≤ 0xFFFD) || 0x10000 ≤ n

/-- The tokens of a text, up to its end or the first fault; only the end of the text
gives the token for it. -/
def tokens (text : String) : List Token :=
  if text.toList.all isPrintable then
    Scanner.readAll (text.toList.length + 1) (.ofText text)
  else []

end SheetGrammar.Yaml
