import LinePatch.Chars.Hunk
import LinePatch.Guard
import LinePatch.Script
import LinePatch.Conversion
import LinePatch.Text.Case

/-!
# Patch engines

Two engines make and apply patches. The line engine links the lines of a loose line
patch to the source under a normalization policy; the character engine makes hunks of
characters with context and places them by fuzzy matching, with a threshold for how
rough a match may be and a distance for how far it may drift.
-/

namespace LinePatch

variable [Text.Surrogates]

/-- A patch engine with its settings. -/
inductive Engine where
  /-- Fuzzy linking of lines under a normalization policy. -/
  | lines (policy : Policy)
  /-- Character hunks placed by fuzzy matching. -/
  | chars (threshold : Float) (distance : Int)

namespace Engine

/-- The name of an engine. -/
def name : Engine → String
  | lines _ => "linker"
  | chars _ _ => "dmp"

/-- The patch that turns one text into another. The character engine writes its hunks in
UTF-8, so it refuses texts whose changed runs hold lone surrogate codes. -/
def generate : Engine → String → String → Except Fault String
  | lines p, old, new => .ok (LinePatch.generate p old new)
  | chars _ _, old, new =>
    (Chars.renderHunks (Chars.Hunk.make old.toList new.toList)).mapError .unencodable

/-- The positions of the entries of a list that are `false`. -/
def failures (results : List Bool) : List Nat :=
  (results.zipIdx.filter fun (ok, _) => !ok).map (·.2)

/-- Applies a patch to a source text. The character engine refuses a patch it cannot
read, and a patch with a hunk it cannot place; it stops when a hunk must be found
roughly and its distance is too large to be a real number. -/
def apply : Engine → String → String → Except Fault String
  | lines p, source, patch => .ok (LinePatch.apply p source patch)
  | chars t d, source, patch =>
    match Chars.parseHunks patch with
    | .error reason => .error (.unreadableHunks reason)
    | .ok hs =>
      match (Chars.Matcher.mk t d).applyHunks hs source.toList with
      | .error .splitPastEnd => .error .splitPastEnd
      | .error (.unscorable _) => .error .realTooLarge
      | .ok (text, results) =>
        match failures results with
        | [] => .ok (String.ofList text)
        | failed => .error (.unplacedHunks failed results.length)

/-- Applies a patch and checks the result against the source's balances. -/
def applyGuarded (e : Engine) (source patch : String) : Except Fault String := do
  let after ← e.apply source patch
  Balance.guard source after

def policyOf (value : Setting) (path : Option String) : Except Fault Policy :=
  match value with
  | .str "auto" => .ok ((path.map Policy.ofPath).getD .whitespace)
  | v =>
    match Policy.ofSetting v with
    | .ok p => .ok p
    | .error (.unknownPolicy v) => .error (.policyOption v)
    | .error f => .error f

def ofSettings (options : Setting) (path : Option String) : Except Fault Engine :=
  let options := if options.truthy then options else .map []
  match options with
  | .map kvs => do
    let backend := Text.toLower ((Setting.lookup kvs "backend").getD (.str "linker")).text
    if backend == "dmp" then
      let t ← ((Setting.lookup kvs "dmp_match_threshold").getD (.float 0.5)).toReal
      let d ← ((Setting.lookup kvs "dmp_match_distance").getD (.int 1000)).toWhole
      pure (chars t d)
    else if backend != "linker" then .error (.unknownBackend backend)
    else
      let p ← policyOf ((Setting.lookup kvs "policy").getD (.str "auto")) path
      pure (lines p)
  | other => .error (.notAMapping other.typeName "get")

end Engine

end LinePatch
