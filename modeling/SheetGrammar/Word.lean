/-!
# Words of bits

Numbers are often bounded by the size of a machine word.

## Main definitions

* `wordSize` — how many values a word has.
-/

namespace SheetGrammar

/-- How many values a word of some bits has. -/
def wordSize (bits : Nat) : Nat := Nat.pow 2 bits

end SheetGrammar
