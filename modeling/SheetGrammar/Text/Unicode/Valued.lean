import SheetGrammar.Text.Unicode.Ages
import SheetGrammar.Text.Unicode.Lookup

/-!
# Properties with values

Besides a general category and a script, a character has an age, which is the version of the
Unicode standard that has added it, and a class for each of the three ways to break a text: into
what readers take for single characters, into words and into sentences.  The classes are those
that the standard defines by other properties and by some characters of their own.

## Main definitions

* `age?` — the characters of a version.
* `graphemeBreaks`, `wordBreaks`, `sentenceBreaks` — the classes.
* `valued?` — the set of a property with a value.
-/

namespace SheetGrammar.Unicode

/-- The characters that a version and those before it have added. -/
def age? (name : String) : Option CharSet :=
  let older := ages.takeWhile fun s => !s.names.contains name
  ages[older.length]?.map fun s => .unions ((older ++ [s]).map NamedSet.chars)

/-- A class of characters with its names, in lower case and without separators. -/
structure BreakClass where
  names : List String
  chars : CharSet

/-- The members of the class that has a name. -/
def BreakClass.find? (classes : List BreakClass) (name : String) : Option CharSet :=
  (classes.find? fun c => c.names.contains name).map BreakClass.chars

/-- The members of a binary property; the name has to be that of one. -/
def withProperty (name : String) : CharSet := (property? name).getD .empty

/-- The members of a script; the name has to be that of one. -/
def ofScript (name : String) : CharSet := (script? name).getD .empty

/-- The flags of regions are written with these, two by two. -/
def regionalIndicators : CharSet := withProperty "regionalindicator"

/-! ### Graphemes -/

/-- The characters that join the one before them. -/
def graphemeExtenders : CharSet := extendingChars.union (withProperty "emojimodifier")

/-- The characters that join the one behind them. -/
def prependedChars : CharSet :=
  .ofText
   "600-605 6DD 70F 890-891 8E2 D4E 110BD 110CD 111C2-111C3 1193F 11941 11A3A 11A84-11A89 11D46
    11F02"

/-- The characters that never join another one. -/
def controlChars : CharSet :=
  CharSet.diff
    (.unions [categoryUnion ["cc", "cf", "zl", "zp"],
      (categoryUnion ["cn"]).inter (withProperty "defaultignorablecodepoint")])
    (.unions [.ofText "A D 200C-200D", prependedChars, extendingChars])

/-- The marks that take up room behind the character that they join. -/
def spacingMarks : CharSet :=
  ((categoryUnion ["mc"]).union (.ofText "E33 EB3")).diff
    (graphemeExtenders.union (.ofText
     "102B-102C 1038 1062-1064 1067-106D 1083 1087-108C 108F 109A-109C 1A61 1A63-1A64 AA7B AA7D
      11720-11721"))

/-- The syllables of Hangul stand in blocks of 28 with the same beginning; these are the parts of
the blocks between two places. -/
def hangulBlocks (first last : Nat) : CharSet :=
  .ofIntervals ((List.range 399).map fun i => (0xAC00 + 28 * i + first, 0xAC00 + 28 * i + last))

/-- The classes of characters for breaks between graphemes. -/
def graphemeBreaks : List BreakClass :=
  [⟨["cr"], .single '\r'⟩,
   ⟨["lf"], .single '\n'⟩,
   ⟨["control", "cn"], controlChars⟩,
   ⟨["extend", "ex"], graphemeExtenders⟩,
   ⟨["zwj"], .ofText "200D"⟩,
   ⟨["regionalindicator", "ri"], regionalIndicators⟩,
   ⟨["prepend", "pp"], prependedChars⟩,
   ⟨["spacingmark", "sm"], spacingMarks⟩,
   ⟨["l"], .ofText "1100-115F A960-A97C"⟩,
   ⟨["v"], .ofText "1160-11A7 D7B0-D7C6"⟩,
   ⟨["t"], .ofText "11A8-11FF D7CB-D7FB"⟩,
   ⟨["lv"], hangulBlocks 0 0⟩,
   ⟨["lvt"], hangulBlocks 1 27⟩]

/-! ### Words -/

/-- The characters that belong to the word before them. -/
def wordExtenders : CharSet :=
  (CharSet.unions [graphemeExtenders, categoryUnion ["mc"]]).diff (.ofText "200D")

/-- The characters that tell how text is to be shown. -/
def wordFormats : CharSet :=
  (categoryUnion ["cf"]).diff ((CharSet.ofText "200B-200D").union extendingChars)

/-- Katakana, and the marks that are used with it. -/
def katakanaChars : CharSet :=
  (ofScript "katakana").union (.ofText "3031-3035 309B-309C 30A0 30FC FF70")

/-- The letters of Hebrew. -/
def hebrewLetters : CharSet := (ofScript "hebrew").inter (categoryUnion ["lo"])

/-- The scripts of South-East Asia that put no blanks between words. -/
def unspacedChars : CharSet :=
  .ofText
   "E01-E3A E40-E4E E81-E82 E84 E86-E8A E8C-EA3 EA5 EA7-EBD EC0-EC4 EC6 EC8-ECE EDC-EDF 1000-103F
    1050-108F 109A-109F 1780-17D3 17D7 17DC-17DD 1950-196D 1970-1974 1980-19AB 19B0-19C9 19DA
    19DE-19DF 1A20-1A5E 1A60-1A7C 1AA0-1AAD A9E0-A9EF A9FA-A9FE AA60-AAC2 AADB-AADF 11700-1171A
    1171D-1172B 1173A-1173B 1173F-11746"

/-- The letters of the scripts that have blanks between words. -/
def wordLetters : CharSet :=
  CharSet.diff
    (.unions [withProperty "alphabetic", .ofText
     "2C2-2C5 2D2-2D7 2DE-2DF 2E5-2EB 2ED 2EF-2FF 55A-55C 55E 58A 5F3 A708-A716 A720-A721
      A789-A78A AB5B"])
    (.unions [withProperty "ideographic", ofScript "hiragana", katakanaChars, hebrewLetters,
      unspacedChars, wordExtenders])

/-- The classes of characters for breaks between words. -/
def wordBreaks : List BreakClass :=
  [⟨["cr"], .single '\r'⟩,
   ⟨["lf"], .single '\n'⟩,
   ⟨["newline", "nl"], .ofText "B-C 85 2028-2029"⟩,
   ⟨["extend"], wordExtenders⟩,
   ⟨["zwj"], .ofText "200D"⟩,
   ⟨["regionalindicator", "ri"], regionalIndicators⟩,
   ⟨["format", "fo"], wordFormats⟩,
   ⟨["katakana", "ka"], katakanaChars⟩,
   ⟨["hebrewletter", "hl"], hebrewLetters⟩,
   ⟨["aletter", "le"], wordLetters⟩,
   ⟨["singlequote", "sq"], .ofText "27"⟩,
   ⟨["doublequote", "dq"], .ofText "22"⟩,
   ⟨["midnumlet", "mb"], .ofText "2E 2018-2019 2024 FE52 FF07 FF0E"⟩,
   ⟨["midletter", "ml"], .ofText "3A B7 387 55F 5F4 2027 FE13 FE55 FF1A"⟩,
   ⟨["midnum", "mn"],
      .ofText "2C 3B 37E 589 60C-60D 66C 7F8 2044 FE10 FE14 FE50 FE54 FF0C FF1B"⟩,
   ⟨["numeric", "nu"], (categoryUnion ["nd"]).union (.ofText "66B")⟩,
   ⟨["extendnumlet", "ex"], (categoryUnion ["pc"]).union (.ofText "202F")⟩,
   ⟨["wsegspace"], .ofText "20 1680 2000-2006 2008-200A 205F 3000"⟩]

/-! ### Sentences -/

/-- The characters that belong to whatever stands before them. -/
def sentenceExtenders : CharSet :=
  .unions [extendingChars, categoryUnion ["mc"], .ofText "200D"]

/-- The full stops, which also end abbreviations. -/
def fullStops : CharSet := .ofText "2E 2024 FE52 FF0E"

/-- The letters of Georgian, which do not mark the beginning of a sentence by their case. -/
def georgianLetters : CharSet := .ofText "10D0-10FA 10FD-10FF 1C90-1CBA 1CBD-1CBF"

/-- Small letters. -/
def sentenceLower : CharSet :=
  (withProperty "lowercase").diff (extendingChars.union georgianLetters)

/-- Capital letters. -/
def sentenceUpper : CharSet :=
  ((withProperty "uppercase").union (categoryUnion ["lt"])).diff georgianLetters

/-- Letters without case. -/
def sentenceLetters : CharSet :=
  ((withProperty "alphabetic").union (.ofText "5F3")).diff
    (.unions [sentenceLower, sentenceUpper, sentenceExtenders])

/-- Quotation marks and brackets. -/
def closingChars : CharSet :=
  .ofText
   "22 27-29 5B 5D 7B 7D AB BB F3A-F3D 169B-169C 2018-201F 2039-203A 2045-2046 207D-207E 208D-208E
    2308-230B 2329-232A 275B-2760 2768-2775 27C5-27C6 27E6-27EF 2983-2998 29D8-29DB 29FC-29FD
    2E00-2E0D 2E1C-2E1D 2E20-2E29 2E42 2E55-2E5C 3008-3011 3014-301B 301D-301F FD3E-FD3F FE17-FE18
    FE35-FE44 FE47-FE48 FE59-FE5E FF08-FF09 FF3B FF3D FF5B FF5D FF5F-FF60 FF62-FF63 1F676-1F678"

/-- The classes of characters for breaks between sentences. -/
def sentenceBreaks : List BreakClass :=
  [⟨["cr"], .single '\r'⟩,
   ⟨["lf"], .single '\n'⟩,
   ⟨["sep", "se"], .ofText "85 2028-2029"⟩,
   ⟨["extend", "ex"], sentenceExtenders⟩,
   ⟨["format", "fo"],
      (categoryUnion ["cf"]).diff ((CharSet.ofText "200C-200D").union extendingChars)⟩,
   ⟨["sp"], spaceChars.diff (.ofText "A D 85 2028-2029")⟩,
   ⟨["lower", "lo"], sentenceLower⟩,
   ⟨["upper", "up"], sentenceUpper⟩,
   ⟨["oletter", "le"], sentenceLetters⟩,
   ⟨["numeric", "nu"], (categoryUnion ["nd"]).union (.ofText "66B-66C")⟩,
   ⟨["aterm", "at"], fullStops⟩,
   ⟨["scontinue", "sc"],
      .ofText
       "2C-2D 3A 55D 60C-60D 7F8 1802 1808 2013-2014 3001 FE10-FE11 FE13 FE31-FE32 FE50-FE51 FE55
        FE58 FE63 FF0C-FF0D FF1A FF64"⟩,
   ⟨["sterm", "st"], (withProperty "sentenceterminal").diff fullStops⟩,
   ⟨["close", "cl"], closingChars⟩]

/-! ### Looking up -/

/-- The set of the characters whose property has a value. -/
def valued? (property value : String) : Option CharSet :=
  if property = "generalcategory" ∨ property = "gc" then category? value
  else if property = "script" ∨ property = "sc" then script? value
  else if property = "scriptextensions" ∨ property = "scx" then scriptExtension? value
  else if property = "age" then age? value
  else if property = "graphemeclusterbreak" ∨ property = "gcb" then
    BreakClass.find? graphemeBreaks value
  else if property = "wordbreak" ∨ property = "wb" then BreakClass.find? wordBreaks value
  else if property = "sentencebreak" ∨ property = "sb" then BreakClass.find? sentenceBreaks value
  else none

end SheetGrammar.Unicode
