import FilterQuery.Text.CharSet
import FilterQuery.Text.ClusterClass
import FilterQuery.Text.Extender

/-!
# Grapheme clusters

A text is cut into extended grapheme clusters, which readers take for one character each: a letter
with its marks, a syllable of Hangul, a conjunct, a flag, pictographs that are joined.
-/

namespace FilterQuery.Cluster

/-- The character that joins pictographs. -/
def joiner : Char := '\u200d'

/-- The character that keeps letters from joining. -/
def nonJoiner : Char := '\u200c'

/-- Whether a character extends a cluster: a mark or a modifier of pictographs. -/
def isExtender (c : Char) : Bool :=
  CharSet.extender.contains c || (0x1F3FB ≤ c.toNat && c.toNat ≤ 0x1F3FF)

/-- Whether a character is one half of a flag. -/
def isRegional (c : Char) : Bool :=
  0x1F1E6 ≤ c.toNat && c.toNat ≤ 0x1F1FF

/-- The parts of a syllable of Hangul. -/
inductive Jamo where
  | leading
  | vowel
  | trailing
  | leadingVowel
  | leadingVowelTrailing
deriving Repr, DecidableEq

/-- The part or parts of a syllable that a character holds. -/
def jamo? (c : Char) : Option Jamo :=
  let n := c.toNat
  if (0x1100 ≤ n && n ≤ 0x115F) || (0xA960 ≤ n && n ≤ 0xA97C) then some .leading
  else if (0x1160 ≤ n && n ≤ 0x11A7) || (0xD7B0 ≤ n && n ≤ 0xD7C6) || n == 0x16D63 ||
    (0x16D67 ≤ n && n ≤ 0x16D6A) then some .vowel
  else if (0x11A8 ≤ n && n ≤ 0x11FF) || (0xD7CB ≤ n && n ≤ 0xD7FB) then some .trailing
  else if 0xAC00 ≤ n && n ≤ 0xD7A3 then
    if (n - 0xAC00) % 28 = 0 then some .leadingVowel else some .leadingVowelTrailing
  else none

/-- Whether two characters belong to one syllable. -/
def sameSyllable (c d : Char) : Bool :=
  match jamo? c, jamo? d with
  | some .leading, some j => j ≠ .trailing
  | some .leadingVowel, some j | some .vowel, some j => j = .vowel || j = .trailing
  | some .leadingVowelTrailing, some j | some .trailing, some j => j = .trailing
  | _, _ => false

/-- Whether a consonant follows, through marks with a linker among them, on a consonant. -/
def continuesConjunct (before : List Char) (c : Char) : Bool :=
  let isMark := fun d => (isExtender d || d == joiner) && d != nonJoiner
  let marks := before.takeWhile isMark
  CharSet.conjunctConsonant.contains c && marks.any CharSet.conjunctLinker.contains &&
    (before.dropWhile isMark).head?.any CharSet.conjunctConsonant.contains

/-- Whether a pictograph follows, through marks and a joiner, on a pictograph. -/
def continuesPictograph (before : List Char) (c : Char) : Bool :=
  match before with
  | d :: before =>
    d == joiner && CharSet.pictograph.contains c &&
      (before.dropWhile isExtender).head?.any CharSet.pictograph.contains
  | [] => false

/-- Whether the second half of a flag follows on the first. -/
def continuesFlag (before : List Char) (c : Char) : Bool :=
  isRegional c && (before.takeWhile isRegional).length % 2 == 1

/-- Whether a character continues a cluster, which is given in reverse. -/
def continues (before : List Char) (c : Char) : Bool :=
  match before with
  | [] => true
  | d :: _ =>
    if d = '\r' ∧ c = '\n' then true
    else if CharSet.control.contains d || CharSet.control.contains c then false
    else
      sameSyllable d c || isExtender c || c == joiner || CharSet.spacingMark.contains c ||
        CharSet.prepended.contains d || continuesConjunct before c ||
        continuesPictograph before c || continuesFlag before c

/-- The clusters of a text, the first of which starts with `before`, given in reverse. -/
def splitAfter (before : List Char) : List Char → List (List Char)
  | [] => if before.isEmpty then [] else [before.reverse]
  | c :: text =>
    if continues before c then splitAfter (c :: before) text
    else before.reverse :: splitAfter [c] text

/-- The clusters of a text. -/
def split (text : List Char) : List (List Char) :=
  splitAfter [] text

/-- No character is lost or moved. -/
theorem flatten_splitAfter (before text : List Char) :
    (splitAfter before text).flatten = before.reverse ++ text := by
  induction text generalizing before with
  | nil => cases before <;> simp [splitAfter]
  | cons c text ih =>
    rw [splitAfter]
    split <;> simp [ih]

@[simp]
theorem flatten_split (text : List Char) : (split text).flatten = text :=
  flatten_splitAfter [] text

end FilterQuery.Cluster
