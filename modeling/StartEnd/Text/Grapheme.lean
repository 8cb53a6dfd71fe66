import StartEnd.Text.GraphemeClass

/-!
This module contains the division of a text into grapheme clusters, which are what a reader takes
for one character: a letter with its accents, a Hangul syllable, a flag. No character is lost by
the division.
-/

namespace StartEnd.Text

namespace GraphemeClass

/--
Whether a character of the class belongs to the one in front of it, unless that divides the text.
-/
def joinsBackward : GraphemeClass → Bool
  | mark | linker | joiner | nonJoiner | spacingMark => true
  | _ => false

def divides : GraphemeClass → Bool
  | carriageReturn | lineFeed | control => true
  | _ => false

/--
Whether a character of the class may stand between a pictograph and a joiner.
-/
def isPictographMark : GraphemeClass → Bool
  | mark | linker | nonJoiner => true
  | _ => false

/--
Whether a character of the class may stand between two consonants that are linked.
-/
def isConjunctMark : GraphemeClass → Bool
  | mark | linker | joiner => true
  | _ => false

def endsInJoinedPictograph : List GraphemeClass → Bool
  | joiner :: cluster => (cluster.dropWhile isPictographMark).head? = some pictograph
  | _ => false

def endsInLinkedConsonant (cluster : List GraphemeClass) : Bool :=
  (cluster.takeWhile isConjunctMark).contains linker
    && (cluster.dropWhile isConjunctMark).head? = some consonant

def endsInHalfFlag (cluster : List GraphemeClass) : Bool :=
  (cluster.takeWhile (· = regionalIndicator)).length % 2 = 1

/--
Whether a character of the given class continues a cluster, whose last character is given first.
-/
def continues (cluster : List GraphemeClass) (next : GraphemeClass) : Bool :=
  match cluster with
  | [] => true
  | carriageReturn :: _ => next = lineFeed
  | last :: _ =>
    if last.divides || next.divides then false
    else if next.joinsBackward then true
    else
      match last, next with
      | leadingMark, _ => true
      | hangulLeading, hangulLeading | hangulLeading, hangulVowel
      | hangulLeading, hangulOpen | hangulLeading, hangulClosed => true
      | hangulVowel, hangulVowel | hangulVowel, hangulTrailing => true
      | hangulOpen, hangulVowel | hangulOpen, hangulTrailing => true
      | hangulTrailing, hangulTrailing | hangulClosed, hangulTrailing => true
      | _, pictograph => endsInJoinedPictograph cluster
      | _, consonant => endsInLinkedConsonant cluster
      | _, regionalIndicator => endsInHalfFlag cluster
      | _, _ => false

end GraphemeClass

/--
The clusters of a text that starts inside a cluster. The characters of that cluster and their
classes are given from the last to the first.
-/
def graphemesFrom (cluster : List Char) (classes : List GraphemeClass) :
    List Char → List (List Char)
  | [] => [cluster.reverse]
  | c :: cs =>
    let next := graphemeClass c
    if GraphemeClass.continues classes next then
      graphemesFrom (c :: cluster) (next :: classes) cs
    else cluster.reverse :: graphemesFrom [c] [next] cs

def graphemes : List Char → List (List Char)
  | [] => []
  | c :: cs => graphemesFrom [c] [graphemeClass c] cs

theorem flatten_graphemesFrom (cluster : List Char) (classes : List GraphemeClass)
    (cs : List Char) : (graphemesFrom cluster classes cs).flatten = cluster.reverse ++ cs := by
  induction cs generalizing cluster classes with
  | nil => simp [graphemesFrom]
  | cons c cs ih =>
    simp only [graphemesFrom]
    split
    · simp [ih]
    · simp [ih]

theorem flatten_graphemes (cs : List Char) : (graphemes cs).flatten = cs := by
  cases cs with
  | nil => rfl
  | cons c cs => simp [graphemes, flatten_graphemesFrom]

end StartEnd.Text
