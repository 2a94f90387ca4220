import SheetGrammar.Text.Encoding.CodePage

/-!
# Encodings of texts

Bytes become text by one of the schemes of the Encoding Standard, or in a way that is given.

## Main definitions

* `Scheme` — how bytes become characters.
* `decodeUtf8?`, `decodeUtf16?` — the schemes of Unicode.
* `Scheme.decode?` — the text that bytes stand for.
-/

namespace SheetGrammar.Encoding

/-- How bytes become characters. -/
inductive Scheme
  | utf8
  | utf16 (bigEndian : Bool)
  /-- One byte for each character. -/
  | singleByte (page : CodePage)
  /-- Nothing but the empty text can be decoded. -/
  | replacement
  /-- Any other way; the text is given for the bytes that stand for one. -/
  | given (text? : List UInt8 → Option String)

/-- The text that bytes in UTF-8 stand for. -/
def decodeUtf8? (bytes : List UInt8) : Option String := String.fromUTF8? ⟨bytes.toArray⟩

/-- The bytes in pairs, as units of 16 bits; `none` if a byte is left over. -/
def units? (bigEndian : Bool) : List UInt8 → Option (List Nat)
  | [] => some []
  | [_] => none
  | a :: b :: rest =>
    let unit := if bigEndian then a.toNat * 256 + b.toNat else b.toNat * 256 + a.toNat
    (units? bigEndian rest).map (unit :: ·)

/-- Whether a unit is the first of a pair. -/
def isHighSurrogate (n : Nat) : Bool := 0xD800 ≤ n && n ≤ 0xDBFF

/-- Whether a unit is the second of a pair. -/
def isLowSurrogate (n : Nat) : Bool := 0xDC00 ≤ n && n ≤ 0xDFFF

/-- The characters that units stand for; surrogates have to come in pairs. -/
def charsOfUnits? : List Nat → Option (List Char)
  | [] => some []
  | [n] => if isHighSurrogate n || isLowSurrogate n then none else some [Char.ofNat n]
  | m :: n :: rest =>
    if isHighSurrogate m then
      if isLowSurrogate n then
        (charsOfUnits? rest).map
          (Char.ofNat (0x10000 + (m - 0xD800) * 0x400 + (n - 0xDC00)) :: ·)
      else none
    else if isLowSurrogate m then none
    else (charsOfUnits? (n :: rest)).map (Char.ofNat m :: ·)

/-- The text that bytes in UTF-16 stand for. -/
def decodeUtf16? (bigEndian : Bool) (bytes : List UInt8) : Option String :=
  ((units? bigEndian bytes).bind charsOfUnits?).map String.ofList

/-- The text that bytes stand for. -/
def Scheme.decode? : Scheme → List UInt8 → Option String
  | utf8, bytes => decodeUtf8? bytes
  | utf16 bigEndian, bytes => decodeUtf16? bigEndian bytes
  | singleByte page, bytes => page.decode? bytes
  | replacement, bytes => if bytes = [] then some "" else none
  | given text?, bytes => text? bytes

end SheetGrammar.Encoding
