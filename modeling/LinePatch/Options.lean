import LinePatch.Conversion

/-!
# Options

The six options of the patch engine, with their defaults: the comparison policy (`auto`
chooses it from the file's suffix), the backend, whether results are checked for
balance, the size limit of a block, and the threshold and distance of the character
backend's fuzzy search.
-/

namespace LinePatch

variable [Text.Surrogates]

/-- How the comparison policy is chosen. -/
inductive PolicyChoice where
  /-- From the suffix of the file being patched. -/
  | auto
  /-- A given policy. -/
  | fixed (p : Policy)
  deriving DecidableEq, Repr, Inhabited

/-- The name of a policy choice. -/
def PolicyChoice.name : PolicyChoice → String
  | auto => "auto"
  | fixed p => p.name

/-- The engines that apply and generate patches. -/
inductive Backend where
  /-- Line patches, linked by normal forms and edit distance. -/
  | lines
  /-- Character hunks placed by fuzzy search. -/
  | chars
  deriving DecidableEq, Repr, Inhabited

/-- The name of a backend. -/
def Backend.name : Backend → String
  | lines => "linker"
  | chars => "dmp"

/-- The option values. -/
structure Options where
  policy : PolicyChoice := .auto
  backend : Backend := .lines
  validate : Bool := true
  maxDiffChars : Int := 100000
  matchThreshold : Float := 0.5
  matchDistance : Int := 1000
  deriving Inhabited

namespace Options

def policyChoices : List String := ["auto", "whitespace", "indentation"]

def backendChoices : List String := ["linker", "dmp"]

/-- The options as a mapping of settings, in the order of their definition. -/
def toSetting (o : Options) : Setting :=
  .map [(.str "policy", .str o.policy.name), (.str "backend", .str o.backend.name),
    (.str "validate", .bool o.validate), (.str "max_diff_chars", .int o.maxDiffChars),
    (.str "dmp_match_threshold", .float o.matchThreshold),
    (.str "dmp_match_distance", .int o.matchDistance)]

/-- A value that is refused by a number conversion for its type or content names the
option; a number out of all range is refused as it is. -/
def numberFault (key : String) (v : Setting) (f : Fault) : Fault :=
  match f.kind with
  | .type | .value => if v.unwritable then .wholeTooLongToWrite else .invalidNumber key v
  | _ => f

/-- The text of a choice: trimmed and lower-cased. -/
def choiceText (v : Setting) : String := Text.toLower (Text.trimBlanks v.text)

/-- Sets the policy or the backend from the text of a setting. -/
def setChoice (o : Options) (key : String) (v : Setting) : Except Fault Options :=
  match key, choiceText v with
  | "policy", "auto" => .ok { o with policy := .auto }
  | "policy", "whitespace" => .ok { o with policy := .fixed .whitespace }
  | "policy", "indentation" => .ok { o with policy := .fixed .indentation }
  | "policy", _ => .error (.invalidChoice key v policyChoices)
  | "backend", "linker" => .ok { o with backend := .lines }
  | "backend", "dmp" => .ok { o with backend := .chars }
  | _, _ => .error (.invalidChoice key v backendChoices)

/-- Sets one option from a setting that is not nothing. A setting that must be written
out, as the text of a choice or in a refusal, fails when it holds a whole number too
long to write. -/
def set (o : Options) (key : String) (v : Setting) : Except Fault Options :=
  match key with
  | "policy" | "backend" =>
    if v.unwritable then .error .wholeTooLongToWrite else setChoice o key v
  | "validate" =>
    match v with
    | .bool b => .ok { o with validate := b }
    | _ => .error (if v.unwritable then .wholeTooLongToWrite else .invalidFlag v)
  | "max_diff_chars" =>
    match v.toWhole with
    | .ok n => if n ≤ 0 then .error .limitNotPositive else .ok { o with maxDiffChars := n }
    | .error f => .error (numberFault key v f)
  | "dmp_match_distance" =>
    match v.toWhole with
    | .ok n => .ok { o with matchDistance := n }
    | .error f => .error (numberFault key v f)
  | "dmp_match_threshold" =>
    match v.toReal with
    | .ok x =>
      if 0 ≤ x && x ≤ 1 then .ok { o with matchThreshold := x } else .error .thresholdOutOfRange
    | .error f => .error (numberFault key v f)
  | _ => .error (.unknownOption key)

/-- Lays the entries of a mapping over the options, in order. -/
def mergeEntries (o : Options) : List (Setting × Setting) → Except Fault Options
  | [] => .ok o
  | (k, v) :: rest =>
    match k with
    | .str key =>
      if optionNames.contains key then
        match v with
        | .none => mergeEntries o rest
        | _ => do mergeEntries (← o.set key v) rest
      else .error (.unknownOption key)
    | _ => .error (if k.unwritable then .wholeTooLongToWrite else .unknownOption k.text)

/-- The entries of a mapping with each key once, where it first stands, holding the
value it was given last. -/
def distinctEntries (kvs : List (Setting × Setting)) : List (Setting × Setting) :=
  kvs.foldl (fun acc (k, v) =>
    if acc.any (·.1.sameKey k) then acc.map fun e => if e.1.sameKey k then (e.1, v) else e
    else acc ++ [(k, v)]) []

/-- The defaults with overrides laid over them. A value that counts as false stands for
no overrides; any other value that is not a mapping is refused. -/
def ofOverrides (overrides : Setting) : Except Fault Options :=
  if !overrides.truthy then .ok {}
  else
    match overrides with
    | .map kvs => mergeEntries {} (distinctEntries kvs)
    | v => .error (.notAMapping v.typeName "items")

end Options

end LinePatch
