import SheetGrammar.Yaml.Token.Reader

/-!
# Nodes of YAML texts

The tokens of a document form a tree of scalars, sequences and mappings.  Aliases
stand for the nodes that they name.  Where reading stops at a fault, a node is
`broken` and the collections around it are not `closed`.

## Main definitions

* `Node` — the nodes.
* `Node.isSound` — whether a node holds no fault.
* `Progress`, `readNode` — building nodes of tokens.
* `Node.ofText` — the node of a text.
-/

namespace SheetGrammar.Yaml

/-- A node of a document. -/
inductive Node
  | scalar (tag : Option String) (style : Style) (text : String)
  | sequence (tag : Option String) (items : List Node) (closed : Bool)
  | mapping (tag : Option String) (entries : List (Node × Node)) (closed : Bool)
  /-- An alias to a node around it, or one alias too many. It can be passed over but not
  read. -/
  | cycle
  /-- The node of a text without documents. -/
  | void
  /-- Here reading stopped. -/
  | broken
  deriving Repr, Inhabited

namespace Node

mutual

/-- Whether the node holds no fault. -/
def isSound : Node → Bool
  | scalar _ _ _ => true
  | sequence _ items closed => closed && areSound items
  | mapping _ entries closed => closed && areSoundEntries entries
  | cycle => true
  | void => true
  | broken => false

/-- Whether no node of a list holds a fault. -/
def areSound : List Node → Bool
  | [] => true
  | n :: ns => isSound n && areSound ns

/-- Whether no key and no value holds a fault. -/
def areSoundEntries : List (Node × Node) → Bool
  | [] => true
  | (k, v) :: es => isSound k && isSound v && areSoundEntries es

end

/-- The scalar that stands where nothing is written. -/
def empty : Node := scalar none .plain ""

end Node

/-! ### Building nodes -/

/-- An anchor: its name and number, the node that it names, and how many aliases are
followed when that node is read. -/
structure Anchor where
  name : String
  number : Nat
  node : Node
  jumps : Nat

/-- What is left of the tokens, or nothing once reading has stopped; the anchors, the
latest first; and what the handles of tags stand for. -/
structure Progress where
  rest : Option (List Token)
  anchors : List Anchor
  handles : List (String × String)
  /-- How many scalars, aliases and ends of collections were read. -/
  parts : Nat
  /-- How many aliases are followed when all nodes so far are read. -/
  jumps : Nat
  /-- How many aliases may be followed. -/
  maxJumps : Option Nat

namespace Progress

/-- The start of reading. -/
def start (ts : List Token) (handles : List (String × String)) (maxJumps : Option Nat) :
    Progress :=
  ⟨some ts, [], handles, 0, 0, maxJumps⟩

/-- The next token. -/
def peek (p : Progress) : Option Token := p.rest.bind List.head?

/-- Passes over a token. -/
def skip (p : Progress) : Progress := { p with rest := p.rest.map List.tail }

/-- Stops. -/
def stop (p : Progress) : Progress := { p with rest := none }

/-- Whether reading has stopped. -/
def stopped (p : Progress) : Bool := p.rest.isNone

/-- Counts parts. -/
def count (p : Progress) (n : Nat) : Progress := { p with parts := p.parts + n }

/-- The number of a new anchor: how many names there are already. -/
def nextNumber (p : Progress) : Nat := (p.anchors.map Anchor.name).eraseDups.length

/-- Names a node, or takes note that one is being read. -/
def name (p : Progress) (anchor : Option String) (n : Node) : Progress :=
  match anchor with
  | some a => { p with anchors := ⟨a, p.nextNumber, n, 0⟩ :: p.anchors }
  | none => p

/-- Names the node that was being read since `before`, and counts its ends. -/
def complete (p before : Progress) (anchor : Option String) (n : Node) : Progress :=
  let rename := fun a : Anchor => { a with node := n, jumps := p.jumps - before.jumps }
  let place := p.anchors.length - 1 - before.anchors.length
  match anchor with
  | some _ => { p.count 2 with anchors := p.anchors.modify place rename }
  | none => p.count 2

/-- The node that an alias stands for: the latest one whose anchor has the number of
the name. When too many aliases would be followed, it cannot be read. -/
def follow? (p : Progress) (a : String) : Option (Node × Progress) :=
  match p.anchors.find? fun b => b.name = a with
  | none => none
  | some named =>
    let target := (p.anchors.find? fun b => b.number = named.number).getD named
    let jumps := p.jumps + target.jumps + 1
    let node := if p.maxJumps.any (· < jumps) then .cycle else target.node
    some (node, { p.skip.count 1 with jumps := jumps })

/-- Takes a node that is not written. -/
def passEmpty (p : Progress) : Node × Progress := (.empty, p.count 1)

end Progress

/-- The handles that need no directive. -/
def defaultHandles : List (String × String) := [("!", "!"), ("!!", "tag:yaml.org,2002:")]

/-- What stands in front of a node. -/
structure Properties where
  anchor : Option String
  tag : Option String

/-- The name of a tag. A handle that stands for nothing is a fault. -/
def tagName? (p : Progress) (handle suffix : String) : Option String :=
  if handle = "" then some suffix
  else ((p.handles.lookup handle).or (defaultHandles.lookup handle)).map (· ++ suffix)

/-- Reads a tag, if there is one. -/
def readTagProperty (p : Progress) : Option String × Progress :=
  match p.peek with
  | some (.tag handle suffix) =>
    match tagName? p handle suffix with
    | some tag => (some tag, p.skip)
    | none => (none, p.stop)
  | _ => (none, p)

/-- Reads an anchor, if there is one. -/
def readAnchorProperty (p : Progress) : Option String × Progress :=
  match p.peek with
  | some (.anchor a) => (some a, p.skip)
  | _ => (none, p)

/-- Reads an anchor and a tag, in either order. -/
def readProperties (p : Progress) : Properties × Progress :=
  match readAnchorProperty p with
  | (some a, p) =>
    let (tag, p) := readTagProperty p
    (⟨some a, tag⟩, p)
  | (none, p) =>
    let (tag, p) := readTagProperty p
    match tag with
    | none => (⟨none, none⟩, p)
    | some tag =>
      let (anchor, p) := readAnchorProperty p
      (⟨anchor, some tag⟩, p)

/-- The tag of a scalar; an exclamation mark alone says nothing. -/
def scalarTag (tag : Option String) : Option String := tag.filter (· ≠ "!")

/-- Whether the next token is one of some. -/
def Progress.isAt (p : Progress) (ts : List Token) : Bool := p.peek.any ts.contains

mutual

/-- Reads a node. Outside brackets, `block` holds, and `dashes` where a sequence may
stand in the column of its mapping. -/
def readNode : Nat → (block dashes : Bool) → Progress → Node × Progress
  | 0, _, _, p => (.broken, p.stop)
  | fuel + 1, block, dashes, p =>
    match p.peek with
    | some (.alias a) =>
      match p.follow? a with
      | some np => np
      | none => (.broken, p.stop)
    | _ =>
      let (props, p) := readProperties p
      let opened := p.name props.anchor .cycle
      match p.peek with
      | none => (.broken, p.stop)
      | some .blockEntry =>
        if dashes then
          let (items, closed, q) := readDashes fuel opened
          let n := Node.sequence props.tag items closed
          (n, q.complete p props.anchor n)
        else readEmpty props p
      | some (.scalar style text) =>
        let n := Node.scalar (scalarTag props.tag) style text
        (n, (p.skip.name props.anchor n).count 1)
      | some .flowSequenceStart =>
        let (items, closed, q) := readFlowItems fuel true opened.skip
        let n := Node.sequence props.tag items closed
        (n, q.complete p props.anchor n)
      | some .flowMappingStart =>
        let (entries, closed, q) := readFlowEntries fuel true opened.skip
        let n := Node.mapping props.tag entries closed
        (n, q.complete p props.anchor n)
      | some .blockSequenceStart =>
        if block then
          let (items, closed, q) := readBlockItems fuel opened.skip
          let n := Node.sequence props.tag items closed
          (n, q.complete p props.anchor n)
        else readEmpty props p
      | some .blockMappingStart =>
        if block then
          let (entries, closed, q) := readBlockEntries fuel opened.skip
          let n := Node.mapping props.tag entries closed
          (n, q.complete p props.anchor n)
        else readEmpty props p
      | some _ => readEmpty props p

/-- A node that consists of an anchor or a tag alone. Without either it is a fault. -/
def readEmpty (props : Properties) (p : Progress) : Node × Progress :=
  match props with
  | ⟨none, none⟩ => (.broken, p.stop)
  | ⟨anchor, tag⟩ =>
    let n := Node.scalar tag .plain ""
    (n, (p.name anchor n).count 1)

/-- Reads the items of a sequence in block style. -/
def readBlockItems : Nat → Progress → List Node × Bool × Progress
  | 0, p => ([], false, p.stop)
  | fuel + 1, p =>
    match p.peek with
    | some .blockEntry =>
      let p := p.skip
      let (item, p) :=
        if p.isAt [.blockEntry, .blockEnd] then p.passEmpty else readNode fuel true false p
      if p.stopped then ([item], false, p)
      else
        let (items, closed, p) := readBlockItems fuel p
        (item :: items, closed, p)
    | some .blockEnd => ([], true, p.skip)
    | _ => ([], false, p.stop)

/-- Reads the items of a sequence in the column of its mapping. -/
def readDashes : Nat → Progress → List Node × Bool × Progress
  | 0, p => ([], false, p.stop)
  | fuel + 1, p =>
    match p.peek with
    | some .blockEntry =>
      let p := p.skip
      let (item, p) :=
        if p.isAt [.blockEntry, .key, .value, .blockEnd] then p.passEmpty
        else readNode fuel true false p
      if p.stopped then ([item], false, p)
      else
        let (items, closed, p) := readDashes fuel p
        (item :: items, closed, p)
    | some _ => ([], true, p)
    | none => ([], false, p.stop)

/-- Reads the entries of a mapping in block style. -/
def readBlockEntries : Nat → Progress → List (Node × Node) × Bool × Progress
  | 0, p => ([], false, p.stop)
  | fuel + 1, p =>
    match p.peek with
    | some .key =>
      let p := p.skip
      let (key, p) :=
        if p.isAt [.key, .value, .blockEnd] then p.passEmpty else readNode fuel true true p
      if p.stopped then ([(key, .broken)], false, p)
      else readBlockValue fuel key p
    | some .blockEnd => ([], true, p.skip)
    | _ => ([], false, p.stop)

/-- Reads the value of a key and the entries behind it. -/
def readBlockValue : Nat → Node → Progress → List (Node × Node) × Bool × Progress
  | 0, key, p => ([(key, .broken)], false, p.stop)
  | fuel + 1, key, p =>
    let (value, p) :=
      match p.peek with
      | none => (Node.broken, p.stop)
      | some .value =>
        let p := p.skip
        if p.isAt [.key, .value, .blockEnd] then p.passEmpty else readNode fuel true true p
      | some _ => p.passEmpty
    if p.stopped then ([(key, value)], false, p)
    else
      let (entries, closed, p) := readBlockEntries fuel p
      ((key, value) :: entries, closed, p)

/-- Reads the items of a sequence in brackets; commas stand before all but the
first. -/
def readFlowItems : Nat → (first : Bool) → Progress → List Node × Bool × Progress
  | 0, _, p => ([], false, p.stop)
  | fuel + 1, first, p =>
    match p.peek with
    | none => ([], false, p.stop)
    | some .flowSequenceEnd => ([], true, p.skip)
    | some t =>
      if !first && t ≠ .flowEntry then ([], false, p.stop)
      else
        let p := if first then p else p.skip
        match p.peek with
        | none => ([], false, p.stop)
        | some .flowSequenceEnd => ([], true, p.skip)
        | some .key =>
          let (item, p) := readPair fuel p.skip
          if p.stopped then ([item], false, p)
          else
            let (items, closed, p) := readFlowItems fuel false p
            (item :: items, closed, p)
        | some _ =>
          let (item, p) := readNode fuel false false p
          if p.stopped then ([item], false, p)
          else
            let (items, closed, p) := readFlowItems fuel false p
            (item :: items, closed, p)

/-- Reads a key and its value as a mapping of their own, which stands in a sequence. A
key that is left out takes the token at its place with it. -/
def readPair : Nat → Progress → Node × Progress
  | 0, p => (.broken, p.stop)
  | fuel + 1, p =>
    let (key, p) :=
      if p.isAt [.value, .flowEntry, .flowSequenceEnd] then p.skip.passEmpty
      else readNode fuel false false p
    if p.stopped then (.mapping none [(key, .broken)] false, p)
    else
      let (value, p) :=
        match p.peek with
        | none => (Node.broken, p.stop)
        | some .value =>
          let p := p.skip
          if p.isAt [.flowEntry, .flowSequenceEnd] then p.passEmpty
          else readNode fuel false false p
        | some _ => p.passEmpty
      (.mapping none [(key, value)] (!p.stopped), p)

/-- Reads the entries of a mapping in braces; commas stand before all but the first. -/
def readFlowEntries : Nat → (first : Bool) → Progress → List (Node × Node) × Bool × Progress
  | 0, _, p => ([], false, p.stop)
  | fuel + 1, first, p =>
    match p.peek with
    | none => ([], false, p.stop)
    | some .flowMappingEnd => ([], true, p.skip)
    | some t =>
      if !first && t ≠ .flowEntry then ([], false, p.stop)
      else
        let p := if first then p else p.skip
        match p.peek with
        | none => ([], false, p.stop)
        | some .flowMappingEnd => ([], true, p.skip)
        | some .key =>
          let p := p.skip
          let (key, p) :=
            if p.isAt [.value, .flowEntry, .flowMappingEnd] then p.passEmpty
            else readNode fuel false false p
          if p.stopped then ([(key, .broken)], false, p)
          else
            let (value, p) :=
              match p.peek with
              | none => (Node.broken, p.stop)
              | some .value =>
                let p := p.skip
                if p.isAt [.flowEntry, .flowMappingEnd] then p.passEmpty
                else readNode fuel false false p
              | some _ => p.passEmpty
            if p.stopped then ([(key, value)], false, p)
            else
              let (entries, closed, p) := readFlowEntries fuel false p
              ((key, value) :: entries, closed, p)
        | some _ =>
          let (key, p) := readNode fuel false false p
          if p.stopped then ([(key, .broken)], false, p)
          else
            let (entries, closed, p) := readFlowEntries fuel false p
            ((key, .empty) :: entries, closed, p.count 1)

end

/-! ### Documents -/

/-- Whether a version can be read. -/
def isKnownVersion (major minor : Nat) : Bool := major = 1 && (minor = 1 || minor = 2)

/-- Reads the directives in front of a document; each version and each handle may be
given once. -/
def readDirectives? : (versioned : Bool) → List (String × String) → List Token →
    Option (List (String × String) × List Token)
  | versioned, handles, .version major minor :: ts =>
    if versioned ∨ !isKnownVersion major minor then none else readDirectives? true handles ts
  | versioned, handles, .handle handle start :: ts =>
    if (handles.lookup handle).isSome then none
    else readDirectives? versioned ((handle, start) :: handles) ts
  | _, handles, ts => some (handles, ts)

/-- Whether a token belongs to what stands around the content of documents. -/
def isOutsideContent : Token → Bool
  | .version _ _ | .handle _ _ | .documentStart | .documentEnd | .streamEnd => true
  | _ => false

/-- More steps than a document of some tokens takes. -/
def stepBound (ts : List Token) : Nat := 4 * ts.length + 8

/-- Whether only the end of the first document follows, and then that of the text. -/
def isEnd (ts : List Token) : Bool :=
  ts.dropWhile (fun t => t = .documentEnd) = [.streamEnd]

/-- How many aliases may be followed for each part of a document. -/
def jumpsPerPart : Nat := 100

/-- Reads the content of a document, and whether nothing follows it. How many aliases
may be followed depends on the size of the document. -/
def readContent (handles : List (String × String)) (ts : List Token) : Node × Bool :=
  let read := fun maxJumps => readNode (stepBound ts) true false (.start ts handles maxJumps)
  let (n, p) := read (some (jumpsPerPart * (read none).2.parts))
  (n, p.rest.any isEnd)

/-- The node of the first document, and whether nothing follows it. -/
def nodeOfTokens (ts : List Token) : Node × Bool :=
  match ts with
  | [] => (.broken, false)
  | [.streamEnd] => (.void, true)
  | t :: _ =>
    if isOutsideContent t ∧ t ≠ .documentEnd then
      match readDirectives? false [] ts with
      | some (handles, .documentStart :: ts) =>
        match ts with
        | [] => (.broken, false)
        | t :: _ => if isOutsideContent t then (.empty, isEnd ts) else readContent handles ts
      | _ => (.broken, false)
    else readContent [] ts

/-- The node of a text, and whether nothing follows it. -/
def Node.ofText (text : String) : Node × Bool := nodeOfTokens (tokens text)

end SheetGrammar.Yaml
