/-
ScriptLexer/Text/Backspace.lean

Carrying out backspaces: each U+0008 takes away itself and the last user-perceived
character that is still there.  The characters are found in the text as it stands,
before anything is taken away; a backspace, being a control, is always one of its
own.

What a backspace takes away is measured in bytes of UTF-8: the size of each
character is put down when it is read, in one byte, and a backspace cuts that much
off the end of the text.  So of a character of 256 bytes or more only a part goes,
and its rest is what the next backspace cuts into.

A text without a backspace stays as it is (`eraseBackspaces_of_notMem`).
-/
import ScriptLexer.Text.Cluster

namespace ScriptLexer

/-- The backspace character. -/
def backspace : Char := '\x08'

/-! ### Sizes -/

/-- The size of a text in bytes of UTF-8. -/
def byteSize (text : List Char) : Nat :=
  text.foldr (fun c size => c.utf8Size + size) 0

/-- Takes the latest characters away from a text, the latest first, as many as fit
in a number of bytes.  The first one that does not fit stays, with all before it. -/
def dropBytes (size : Nat) : List Char → List Char
  | c :: earlier =>
    if c.utf8Size ≤ size then dropBytes (size - c.utf8Size) earlier else c :: earlier
  | [] => []

/-! ### Drafts -/

/-- A text whose backspaces are being carried out. -/
structure Draft where
  /-- What is left of the text so far, the latest character first. -/
  written : List Char
  /-- The sizes that backspaces go by, the latest first. -/
  sizes : List UInt8

namespace Draft

/-- A draft with nothing in it. -/
def empty : Draft := ⟨[], []⟩

/-- Adds a cluster to a draft. -/
def write (draft : Draft) (cluster : List Char) : Draft :=
  ⟨cluster.reverse ++ draft.written, (byteSize cluster).toUInt8 :: draft.sizes⟩

/-- Carries out a backspace.  Where no size is left, there is nothing to take away. -/
def erase (draft : Draft) : Draft :=
  match draft.sizes with
  | size :: older => ⟨dropBytes size.toNat draft.written, older⟩
  | [] => draft

/-- Reads the next cluster of the text. -/
def read (draft : Draft) (cluster : List Char) : Draft :=
  if cluster = [backspace] then draft.erase else draft.write cluster

/-- Clusters without a backspace are written one after the other. -/
theorem written_foldl_read (draft : Draft) {clusters : List (List Char)}
    (h : ∀ cluster ∈ clusters, backspace ∉ cluster) :
    (clusters.foldl read draft).written = clusters.flatten.reverse ++ draft.written := by
  induction clusters generalizing draft with
  | nil => rfl
  | cons cluster rest ih =>
    have ne : cluster ≠ [backspace] := by
      rintro rfl
      exact h _ (List.mem_cons_self ..) (List.mem_singleton.mpr rfl)
    rw [List.foldl_cons, ih _ fun other mem => h other (List.mem_cons_of_mem _ mem)]
    simp [read, write, ne]

end Draft

/-! ### Erasing -/

/-- The text that is left when every backspace has been carried out. -/
def eraseBackspaces (text : String) : String :=
  String.ofList ((clusters text.toList).foldl Draft.read Draft.empty).written.reverse

theorem eraseBackspaces_of_notMem {text : String} (h : backspace ∉ text.toList) :
    eraseBackspaces text = text := by
  have clean : ∀ cluster ∈ clusters text.toList, backspace ∉ cluster := by
    intro cluster mem bs
    apply h
    rw [← flatten_clusters text.toList]
    exact List.mem_flatten.mpr ⟨cluster, mem, bs⟩
  rw [eraseBackspaces, Draft.written_foldl_read Draft.empty clean, flatten_clusters]
  simp [Draft.empty]

end ScriptLexer
