import FilterQuery.Text.Case
import FilterQuery.Text.Cluster

/-!
# Words of an identifier

An identifier is cut into words at separators, which are dropped, and where letter case or the kind
of character changes. The words are then put together in another style.
-/

namespace FilterQuery.Word

/-- Whether a cluster stands between words and belongs to none. -/
def isSeparator (g : List Char) : Bool :=
  g == ['_'] || g == ['-'] || g == [' ']

/-- Whether a cluster has case and is in upper case. -/
def isUpper (g : List Char) : Bool :=
  Case.upper g != Case.lower g && g == Case.upper g

/-- Whether a cluster has case and is in lower case. -/
def isLower (g : List Char) : Bool :=
  Case.upper g != Case.lower g && g == Case.lower g

/-- Whether a cluster is an ASCII digit. -/
def isDigit (g : List Char) : Bool :=
  g.all Char.isDigit

/-- Whether a word ends between two clusters, the second of which `next` follows. -/
def isBoundary (g h : List Char) (next : Option (List Char)) : Bool :=
  (isLower g && isUpper h) || (isUpper g && isDigit h) || (isDigit g && isUpper h) ||
    (isDigit g && isLower h) || (isLower g && isDigit h) ||
    (isUpper g && isUpper h && next.any isLower)

/-- Cuts clusters into words, where `word` is begun and `previous` is the cluster before. -/
def cut (previous : Option (List Char)) (word : List Char) : List (List Char) → List (List Char)
  | [] => [word]
  | g :: rest =>
    if isSeparator g then word :: cut (some g) [] rest
    else if previous.any fun p => isBoundary p g rest.head? then word :: cut (some g) g rest
    else cut (some g) (word ++ g) rest

/-- The words of an identifier. -/
def split (text : List Char) : List (List Char) :=
  (cut none [] (Cluster.split text)).filter fun word => !word.isEmpty

/-- Words in lower case with a separator between them. -/
def separated (separator : Char) (words : List (List Char)) : List Char :=
  [separator].intercalate (words.map Case.lower)

/-- Capitalized words, one after the other. -/
def capitalized (words : List (List Char)) : List Char :=
  words.flatMap Case.capitalized

/-- Words one after the other, all but the first of them capitalized. -/
def humped : List (List Char) → List Char
  | [] => []
  | word :: words => Case.lower word ++ capitalized words

end FilterQuery.Word
