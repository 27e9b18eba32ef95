import LinePatch.Options
import LinePatch.Yaml

/-!
# Configuration files

A configuration file is a YAML document whose options stand either at the top level or
in a `fuzzypatch` mapping. An empty document holds no options. The options read are
checked and laid over the defaults as overrides are.
-/

namespace LinePatch

variable [Text.Surrogates]

def Yaml.BuildFailure.faultKind : Yaml.BuildFailure → FaultKind
  | .value => .value
  | .key => .key
  | .index => .index
  | .attribute => .attribute
  | .overflow => .overflow
  | .type => .type
  | .recursion => .recursion

namespace Options

def ofConfig (path : String) (text : Option String) : Except Fault Options :=
  match text with
  | none => .error (.configMissing path)
  | some text =>
    match Yaml.load path text with
    | .error (.malformed report) => .error (.configUnreadable path report)
    | .error (.unbuildable kind message) => .error (.configValue kind.faultKind message)
    | .ok doc =>
      match doc.root.filter (fun r => (doc.view r).truthy) with
      | none => .ok {}
      | some r =>
        match doc.entries r with
        | none => .error (.configNotMapping path)
        | some top =>
          match doc.entries ((doc.lookup top "fuzzypatch").getD r) with
          | none => .error (.sectionNotMapping path)
          | some entries => mergeEntries {} (entries.map fun (k, v) => (doc.view k, doc.view v))

end Options

end LinePatch
