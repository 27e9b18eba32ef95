import LinePatch.Patch
import LinePatch.Rebuild

/-!
# Applying a patch

A patch with edit markers is read against the source, linked with fuzzy matching and
rebuilt; blank lines at both ends of the result are dropped. A patch without markers is
a snippet: it replaces the source lines from the first line matching its first line to
the last line matching its last line, and leaves the source alone when it cannot be
placed.
-/

namespace LinePatch

/-- The sides of a source text and a patch text, read and not yet linked. -/
def Sides.ofTexts (p : Policy) (fuzzy : Bool) (source patch : String) : Sides :=
  let src := Line.ofText (Text.splitLines source)
  { policy := p, fuzzy := fuzzy, source := Strand.ofLines src, patch := Patch.read p src patch }

/-- The first position of a list whose entry satisfies `f`. -/
def firstWhere {α : Type} (f : α → Bool) (xs : List α) : Option Nat :=
  (xs.zipIdx.find? (fun (x, _) => f x)).map (·.2)

/-- The last position of a list whose entry satisfies `f`. -/
def lastWhere {α : Type} (f : α → Bool) (xs : List α) : Option Nat :=
  (xs.zipIdx.reverse.find? (fun (x, _) => f x)).map (·.2)

/-- Places a snippet: its non-blank lines replace the source lines from the first one
equal to its first line to the last one equal to its last line, under the policy. With
no non-blank line, or when an end is missing or the ends are reversed, the source comes
back as it was given. -/
def applySnippet (p : Policy) (source patch : String) : String :=
  let snippet := (Text.splitLines patch).filter fun l => !Text.isAllBlank l
  match snippet.head?, snippet.getLast? with
  | some first, some last =>
    let lines := Text.splitLines source
    let keys := lines.map p.normalize
    match firstWhere (· == p.normalize first) keys, lastWhere (· == p.normalize last) keys with
    | some start, some stop =>
      if stop < start then source
      else Text.joinLines (lines.take start ++ snippet ++ lines.drop (stop + 1))
    | _, _ => source
  | _, _ => source

/-- Applies a patch to a source text under a policy. -/
def apply (p : Policy) (source patch : String) : String :=
  if Text.hasEditMarkers patch then
    let s := Sides.ofTexts p true source patch
    Text.joinLines (Text.trimBlankLines (s.rebuild s.align.1))
  else applySnippet p source patch

end LinePatch
