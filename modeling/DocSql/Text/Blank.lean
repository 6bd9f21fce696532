import DocSql.Text.Ranges

/-!
Blank characters, those of the Unicode property White_Space, and the words of
a text between them.
-/
namespace DocSql.Text

def blankRanges : Ranges :=
  [(0x9, 0xd), (0x20, 0x20), (0x85, 0x85), (0xa0, 0xa0), (0x1680, 0x1680), (0x2000, 0x200a),
   (0x2028, 0x2029), (0x202f, 0x202f), (0x205f, 0x205f), (0x3000, 0x3000)]

def isBlank (c : Char) : Bool := blankRanges.contains c

def trimStart (cs : List Char) : List Char := cs.dropWhile isBlank

def trim (cs : List Char) : List Char := (trimStart (trimStart cs).reverse).reverse

def wordsStep (c : Char) : List Char × List (List Char) → List Char × List (List Char)
  | (word, rest) =>
    if isBlank c then ([], if word.isEmpty then rest else word :: rest)
    else (c :: word, rest)

def words (cs : List Char) : List (List Char) :=
  let (word, rest) := cs.foldr wordsStep ([], [])
  if word.isEmpty then rest else word :: rest

end DocSql.Text
