import LinePatch.Strand
import LinePatch.Text.Lines

/-!
# Reading a patch

A patch is written loosely: marked lines, context lines with or without their two-space
lead, comments, the envelope of a unified diff, and lines whose marker was forgotten.
Each raw line is read by the first rule that fits it:

* two leading spaces: context, without the two spaces;
* a comment (`//` or `#` after leading blanks): context;
* an envelope line (`+++`, `---`, `@@`, `\ No newline`): dropped;
* `+` or `-`: an addition or a deletion of what follows the marker, and under the
  indentation policy also without the space after it, when every marked line of the
  patch has one;
* anything else: context when its normal form is a line of the source, and otherwise
  an addition.
-/

namespace LinePatch.Patch

/-- Comments start with one of these, after leading blanks. -/
def commentLeads : List (List Char) := ["//".toList, "#".toList]

/-- The lines of a unified diff's envelope start with one of these, after leading blanks. -/
def envelopeLeads : List (List Char) :=
  ["+++".toList, "---".toList, "@@".toList, "\\ No newline".toList]

/-- A list of characters starts with one of the given heads. -/
def startsWithAny (heads : List (List Char)) (cs : List Char) : Bool :=
  heads.any (·.isPrefixOf cs)

/-- The text after the marker of a marked line, or `none` for a line of another kind. -/
def markerPayload (raw : String) : Option (List Char) :=
  let cs := raw.toList
  if "  ".toList.isPrefixOf cs then none
  else
    let content := cs.dropWhile Text.isBlank
    if startsWithAny commentLeads content || startsWithAny envelopeLeads content then none
    else
      match content with
      | '+' :: r => some r
      | '-' :: r => some r
      | _ => none

/-- A patch separates markers from text by a space when it has a marked line and each
marked line has nothing after its marker or a space right after it, the way written
patches (`+ `, `- `) are laid out. -/
def usesSeparator (raws : List String) : Bool :=
  let payloads := raws.filterMap markerPayload
  !payloads.isEmpty && payloads.all fun p => p.isEmpty || p.head? == some ' '

/-- Reads one raw line: its kind and text, or `none` for an envelope line. `keys` are
the normal forms of the source lines. -/
def readLine (p : Policy) (keys : List String) (separator : Bool) (raw : String) :
    Option (LineKind × String) :=
  let cs := raw.toList
  if "  ".toList.isPrefixOf cs then some (.context, String.ofList (cs.drop 2))
  else
    let content := cs.dropWhile Text.isBlank
    if startsWithAny commentLeads content then some (.context, String.ofList content)
    else if startsWithAny envelopeLeads content then none
    else
      match content with
      | '+' :: r => some (.add, String.ofList (if separator then r.drop 1 else r))
      | '-' :: r => some (.delete, String.ofList (if separator then r.drop 1 else r))
      | _ =>
        let candidate := match p with
          | .indentation => raw
          | .whitespace => String.ofList content
        if keys.contains (p.normalize candidate) then some (.context, candidate)
        else some (.add, candidate)

/-- The lines of a patch read against the source lines, before reordering; each keeps
the number of its raw line. -/
def readLines (p : Policy) (source : List Line) (text : String) : List Line :=
  let keys := source.map fun l => p.normalize l.text
  let raws := Text.splitLines text
  let separator := p == .indentation && usesSeparator raws
  raws.zipIdx.filterMap fun (raw, i) =>
    (readLine p keys separator raw).map fun (k, t) => { index := i, text := t, kind := k }

/-- The strand of a patch read against the source lines, in order. -/
def read (p : Policy) (source : List Line) (text : String) : Strand :=
  (Strand.ofLines (readLines p source text)).reorder.1

end LinePatch.Patch
