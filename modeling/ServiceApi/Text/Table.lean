import ServiceApi.Text.Blank
import ServiceApi.Text.Numeral
import ServiceApi.Text.Pieces

/-!
# Tables of texts

A table gives some characters a text each. It is written in blocks of consecutive characters, with
a word for each: the code points of its text in hexadecimal, joined by `+`, or `-` for no text.
-/

namespace ServiceApi.Text

structure Block where
  first : Nat
  texts : Array (Option (List Char))

def readWord (word : List Char) : Option (List Char) :=
  ((piecesOf '+' word).mapM (numeral? 16)).map (·.map Char.ofNat)

def Block.ofWords (first : Nat) (words : String) : Block :=
  ⟨first, ((wordsOf words.toList).map readWord).toArray⟩

def Block.text? (b : Block) (c : Char) : Option (List Char) :=
  if b.first ≤ c.toNat then b.texts[c.toNat - b.first]?.join else none

abbrev Table := List Block

def Table.text? (t : Table) (c : Char) : Option (List Char) := t.findSome? (·.text? c)

/-- The characters of a block with their texts, in order. -/
def Block.toList (b : Block) : List (Char × List Char) :=
  b.texts.toList.zipIdx.filterMap fun (text, i) => text.map (Char.ofNat (b.first + i), ·)

/-- The character that has the text `text`. -/
def Table.char? (t : Table) (text : List Char) : Option Char :=
  t.findSome? fun b => (b.toList.find? (·.2 == text)).map (·.1)

end ServiceApi.Text
