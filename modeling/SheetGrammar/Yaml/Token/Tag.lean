import SheetGrammar.Text.Hex
import SheetGrammar.Yaml.Cursor
import SheetGrammar.Yaml.Token
import SheetGrammar.Word

/-!
# Reading names, tags and directives

## Main definitions

* `readName?` — the name of an anchor or an alias.
* `readTag?` — a tag.
* `readDirective?` — a line about the documents that follow.
-/

namespace SheetGrammar.Yaml

/-- Whether a character may stand in the name of an anchor or of a handle. -/
def isNameChar (c : Char) : Bool := c.isAlphanum || c = '_' || c = '-'

/-- Reads the name of an anchor or an alias, behind its mark. -/
def readName? (c : Cursor) : Option (String × Cursor) :=
  let name := c.rest.takeWhile isNameChar
  let c := c.skip name.length
  let ends := isBlankOrEnd c.rest || c.rest.head?.any fun x =>
    x = '?' || x = ':' || x = ',' || x = ']' || x = '\x7d' || x = '%' || x = '@' || x = '\x60'
  if name = [] ∨ !ends then none else some (String.ofList name, c)

/-! ### Tags -/

/-- Whether a character may stand in a tag; commas and square brackets only where
`brackets` says so. -/
def isTagChar (brackets : Bool) (c : Char) : Bool :=
  isNameChar c || ";/?:@&=+$.!~*()%".toList.contains c || c = '\x27'
    || (brackets && (c = ',' || c = '[' || c = ']'))

/-- The byte that two hexadecimal digits behind a percent sign stand for. -/
def readOctet? : List Char → Option (Nat × List Char)
  | '%' :: a :: b :: cs =>
    match hexValue? a, hexValue? b with
    | some a, some b => some (16 * a + b, cs)
    | _, _ => none
  | _ => none

/-- How many bytes a character has, by its first one. -/
def octetCount? (n : Nat) : Option Nat :=
  if n < 0x80 then some 1
  else if 0xC0 ≤ n ∧ n < 0xE0 then some 2
  else if 0xE0 ≤ n ∧ n < 0xF0 then some 3
  else if 0xF0 ≤ n ∧ n < 0xF8 then some 4
  else none

/-- The bits of a character in its first byte. -/
def firstBits (n count : Nat) : Nat :=
  if count = 1 then n else n % wordSize (7 - count)

/-- Reads further bytes of a character. -/
def readOctets? : Nat → Nat → List Char → Option (Nat × List Char)
  | 0, acc, cs => some (acc, cs)
  | n + 1, acc, cs =>
    match readOctet? cs with
    | some (o, cs) => if 0x80 ≤ o ∧ o < 0xC0 then readOctets? n (64 * acc + o % 64) cs else none
    | none => none

/-- Reads a character whose bytes are written behind percent signs. -/
def readOctetChar? (cs : List Char) : Option (Char × List Char) :=
  match readOctet? cs with
  | none => none
  | some (first, rest) =>
    match octetCount? first with
    | none => none
    | some count =>
      (readOctets? (count - 1) (firstBits first count) rest).map fun (n, rest) =>
        (Char.ofNat n, rest)

/-- Reads the characters of a tag, up to the first that may not stand in it. -/
def readTagChars? (brackets : Bool) : Nat → List Char → Option (List Char × List Char)
  | 0, cs => some ([], cs)
  | _, [] => some ([], [])
  | fuel + 1, x :: cs =>
    if x = '%' then
      match readOctetChar? (x :: cs) with
      | none => none
      | some (c, rest) => (readTagChars? brackets fuel rest).map fun (t, r) => (c :: t, r)
    else if isTagChar brackets x then
      (readTagChars? brackets fuel cs).map fun (t, r) => (x :: t, r)
    else some ([], x :: cs)

/-- Reads the characters of a tag at a place of a text. -/
def readTagText? (brackets : Bool) (c : Cursor) : Option (List Char × Cursor) :=
  (readTagChars? brackets c.rest.length c.rest).map fun (t, rest) =>
    (t, c.skip (c.rest.length - rest.length))

/-- Reads a handle: an exclamation mark, or a name between two. -/
def readHandle? (c : Cursor) : Option (List Char × Cursor) :=
  match c.rest with
  | '!' :: cs =>
    let name := cs.takeWhile isNameChar
    let c := c.skip (name.length + 1)
    if c.rest.head? = some '!' then some ('!' :: (name ++ ['!']), c.skip 1)
    else some ('!' :: name, c)
  | _ => none

/-- Whether a handle ends with a second exclamation mark. -/
def isNamedHandle (handle : List Char) : Bool := 1 < handle.length && handle.getLast? = some '!'

/-- Reads the handle and the rest of a tag. -/
def readTagParts? (c : Cursor) : Option (Token × Cursor) :=
  match c.rest with
  | '!' :: '<' :: _ =>
    match readTagText? true (c.skip 2) with
    | none => none
    | some (text, c) =>
      if text = [] ∨ c.rest.head? ≠ some '>' then none
      else some (.tag "" (String.ofList text), c.skip 1)
  | _ =>
    match readHandle? c with
    | none => none
    | some (handle, c) =>
      match readTagText? false c with
      | none => none
      | some (text, c) =>
        if isNamedHandle handle then
          if text = [] then none
          else some (.tag (String.ofList handle) (String.ofList text), c)
        else if handle.drop 1 ++ text = [] then some (.tag "" "!", c)
        else some (.tag "!" (String.ofList (handle.drop 1 ++ text)), c)

/-- Reads a tag; inside brackets a comma may follow at once. -/
def readTag? (flow : Bool) (c : Cursor) : Option (Token × Cursor) :=
  match readTagParts? c with
  | none => none
  | some (t, c) =>
    if isBlankOrEnd c.rest || (flow && c.rest.head? = some ',') then some (t, c) else none

/-! ### Directives -/

/-- Reads a number of at most nine digits. -/
def readVersionPart? (c : Cursor) : Option (Nat × Cursor) :=
  let digits := c.rest.takeWhile Char.isDigit
  if digits = [] ∨ 9 < digits.length then none
  else some (digits.foldl (fun n d => 10 * n + (d.toNat - '0'.toNat)) 0, c.skip digits.length)

/-- Reads a version, behind the name of its directive. -/
def readVersion? (c : Cursor) : Option (Token × Cursor) :=
  match readVersionPart? (c.skipWhile isGap) with
  | none => none
  | some (major, c) =>
    if c.rest.head? ≠ some '.' then none
    else (readVersionPart? (c.skip 1)).map fun (minor, c) => (.version major minor, c)

/-- Reads a handle and what it stands for, behind the name of their directive. -/
def readHandleDirective? (c : Cursor) : Option (Token × Cursor) :=
  match readHandle? (c.skipWhile isGap) with
  | none => none
  | some (handle, c) =>
    if (handle ≠ ['!'] ∧ !isNamedHandle handle) ∨ !(c.rest.head?.any isGap) then none
    else match readTagText? true (c.skipWhile isGap) with
      | none => none
      | some (text, c) =>
        if text = [] ∨ !isBlankOrEnd c.rest then none
        else some (.handle (String.ofList handle) (String.ofList text), c)

/-- Reads a directive behind its percent sign, with the end of its line. -/
def readDirective? (c : Cursor) : Option (Token × Cursor) :=
  let name := c.rest.takeWhile isNameChar
  let c := c.skip name.length
  if name = [] ∨ !isBlankOrEnd c.rest then none
  else
    let read :=
      if name = "YAML".toList then readVersion? c
      else if name = "TAG".toList then readHandleDirective? c
      else none
    match read with
    | none => none
    | some (t, c) =>
      let c := c.skipWhile isGap
      let c := if c.rest.head? = some '#' then c.skipLine else c
      if isBreakOrEnd c.rest then some (t, c.readBreak.2) else none

end SheetGrammar.Yaml
