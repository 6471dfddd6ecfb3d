import RowQuery.Text.ClusterTable

/-! # Clusters

A cluster is what a reader takes for one character: a letter with its accents, a Hangul syllable, a
flag, a picture joined from several. Which characters stay together depends on their classes alone.
-/

namespace RowQuery.Text

/-- The part a character takes in a cluster. -/
inductive ClusterClass where
  /-- A character that starts a cluster. -/
  | other
  /-- A carriage return. -/
  | carriageReturn
  /-- A line feed. -/
  | lineFeed
  /-- A character that is a cluster of its own. -/
  | control
  /-- A mark on the cluster before it. -/
  | extending
  /-- A mark that links two consonants. -/
  | linker
  /-- The mark that keeps two characters apart. -/
  | nonJoiner
  /-- The mark that joins two pictures. -/
  | joiner
  /-- A mark with a width of its own. -/
  | spacing
  /-- A character that belongs to the cluster after it. -/
  | lead
  /-- One of two characters that make a flag. -/
  | regional
  /-- A picture. -/
  | pictograph
  /-- A consonant that can be linked to another. -/
  | consonant
  /-- A letter that opens a syllable. -/
  | initial
  /-- A vowel inside a syllable. -/
  | medial
  /-- A letter that closes a syllable. -/
  | final
  /-- A syllable that is still open. -/
  | openSyllable
  /-- A syllable that is closed. -/
  | closedSyllable
  deriving DecidableEq

namespace ClusterClass

/-- The class of a character. Hangul syllables come in groups of 28, the open one first. -/
def ofChar (c : Char) : ClusterClass :=
  if c = '\r' then .carriageReturn
  else if c = '\n' then .lineFeed
  else if c = '\u200c' then .nonJoiner
  else if c = '\u200d' then .joiner
  else if inRanges controlRanges c then .control
  else if inRanges extendingRanges c then .extending
  else if inRanges linkerRanges c then .linker
  else if inRanges spacingRanges c then .spacing
  else if inRanges leadRanges c then .lead
  else if inRanges [(0x1f1e6, 0x1f1ff)] c then .regional
  else if inRanges pictographRanges c then .pictograph
  else if inRanges consonantRanges c then .consonant
  else if inRanges initialRanges c then .initial
  else if inRanges medialRanges c then .medial
  else if inRanges finalRanges c then .final
  else if inRanges [(0xac00, 0xd7a3)] c then
    if (c.toNat - 0xac00) % 28 = 0 then .openSyllable else .closedSyllable
  else .other

/-- Whether a character of the class is a cluster of its own. -/
def standsAlone : ClusterClass → Bool
  | .carriageReturn | .lineFeed | .control => true
  | _ => false

/-- Whether a character of the class is a mark without a width of its own, the joiner apart. -/
def isExtending : ClusterClass → Bool
  | .extending | .linker | .nonJoiner => true
  | _ => false

/-- Whether a character of the class may stand between two linked consonants. -/
def isBetweenConsonants : ClusterClass → Bool
  | .extending | .linker | .joiner => true
  | _ => false

/-- Whether a character belongs to the cluster before it whatever that is. -/
def isMark : ClusterClass → Bool
  | .joiner | .spacing => true
  | plain => plain.isExtending

/-- Whether a character goes on with the Hangul syllable that the one before it is part of. -/
def extendsSyllable : ClusterClass → ClusterClass → Bool
  | .initial, .initial | .initial, .medial | .initial, .openSyllable | .initial, .closedSyllable
  | .openSyllable, .medial | .openSyllable, .final | .medial, .medial | .medial, .final
  | .closedSyllable, .final | .final, .final => true
  | _, _ => false

/-- Whether a cluster, latest character first, ends in a consonant with a linker on it. -/
def endsLinked (cluster : List ClusterClass) : Bool :=
  (cluster.takeWhile isBetweenConsonants).contains .linker &&
    (cluster.dropWhile isBetweenConsonants).head? = some .consonant

/-- Whether a cluster, latest character first, ends in a picture with a joiner on it. -/
def endsJoined : List ClusterClass → Bool
  | .joiner :: before => (before.dropWhile isExtending).head? = some .pictograph
  | _ => false

/-- Whether a cluster, latest character first, ends in one half of a flag. -/
def endsInHalfFlag (cluster : List ClusterClass) : Bool :=
  (cluster.takeWhile (· = .regional)).length % 2 = 1

/-- Whether a character stays with the cluster before it, given latest character first. -/
def joins (cluster : List ClusterClass) (next : ClusterClass) : Bool :=
  match cluster with
  | [] => false
  | last :: _ =>
    if last.standsAlone || next.standsAlone then last = .carriageReturn && next = .lineFeed
    else next.isMark || last = .lead || extendsSyllable last next ||
      (next = .consonant && endsLinked cluster) ||
      (next = .pictograph && endsJoined cluster) ||
      (next = .regional && endsInHalfFlag cluster)

end ClusterClass

/-- The clusters of some characters that come after the start of a cluster, given latest character
first together with its classes. -/
def clustersAfter (started : List Char) (classes : List ClusterClass) :
    List Char → List (List Char)
  | [] => [started.reverse]
  | c :: rest =>
    let next := ClusterClass.ofChar c
    if ClusterClass.joins classes next then clustersAfter (c :: started) (next :: classes) rest
    else started.reverse :: clustersAfter [c] [next] rest

/-- The clusters of some characters in order. -/
def clusters : List Char → List (List Char)
  | [] => []
  | c :: rest => clustersAfter [c] [ClusterClass.ofChar c] rest

end RowQuery.Text
