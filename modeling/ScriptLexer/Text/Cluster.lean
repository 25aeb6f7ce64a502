/-
ScriptLexer/Text/Cluster.lean

User-perceived characters: the extended grapheme clusters of the Unicode standard.
A letter and its accents count as one, and so do the parts of a syllable, a flag
or a family of pictographs.  Whether a character goes on with a cluster depends
only on the characters of the cluster so far, so a text is cut into clusters in
one pass.

Main statement: the clusters of a text, one after the other, are the text
(`flatten_clusters`).
-/
import ScriptLexer.Text.Pictograph
import ScriptLexer.Text.Syllable

namespace ScriptLexer

/-! ### The rule -/

/-- Whether a character goes on with a cluster that is not empty, whose latest
character is `before` and whose other characters are `earlier`, the latest first. -/
def goesOn (before : Char) (earlier : List Char) (c : Char) : Bool :=
  if loners.contains before || loners.contains c then before == '\r' && c == '\n'
  else
    joinsBefore c || leaders.contains before || sharesSyllable before c
      || isLinked (before :: earlier) c || isTied (before :: earlier) c
      || completesFlag (before :: earlier) c

/-- Below this code point only a carriage return and a line feed join; the rule
need not be asked. -/
def firstJoining : Nat := 0x300

/-- Whether a character belongs to a cluster, the latest character first. -/
def belongsTo (cluster : List Char) (c : Char) : Bool :=
  match cluster with
  | before :: earlier =>
    if before.toNat < firstJoining && c.toNat < firstJoining then before == '\r' && c == '\n'
    else goesOn before earlier c
  | [] => false

/-! ### Clusters -/

/-- Adds a character to the clusters read so far, the latest first and each
written backwards: it goes on with the latest one or starts another. -/
def pushChar (clusters : List (List Char)) (c : Char) : List (List Char) :=
  match clusters with
  | cluster :: older =>
    if belongsTo cluster c then (c :: cluster) :: older else [c] :: cluster :: older
  | [] => [[c]]

/-- The clusters of a text, in order. -/
def clusters (text : List Char) : List (List Char) :=
  ((text.foldl pushChar []).map List.reverse).reverse

/-! ### Clusters lose nothing -/

/-- One more character stands at the end of the last cluster. -/
theorem flatten_pushChar (read : List (List Char)) (c : Char) :
    ((pushChar read c).map List.reverse).reverse.flatten
      = (read.map List.reverse).reverse.flatten ++ [c] := by
  rcases read with - | ⟨cluster, older⟩
  · rfl
  · simp only [pushChar]
    split <;> simp

theorem flatten_foldl_pushChar (text : List Char) (read : List (List Char)) :
    ((text.foldl pushChar read).map List.reverse).reverse.flatten
      = (read.map List.reverse).reverse.flatten ++ text := by
  induction text generalizing read with
  | nil => simp
  | cons c rest ih =>
    rw [List.foldl_cons, ih, flatten_pushChar]
    simp

/-- The clusters of a text, one after the other, are the text. -/
theorem flatten_clusters (text : List Char) : (clusters text).flatten = text := by
  simp [clusters, flatten_foldl_pushChar]

end ScriptLexer
