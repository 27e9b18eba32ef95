import LinePatch.Conversion
import LinePatch.Guard
import LinePatch.Script

/-!
# Editing sessions

A session applies edits to a text one after the other. An edit is a patch, applied
plainly or guarded, or a new version of the text, which is reached by generating the
patch to it and applying that. An edit that fails leaves the text as it was and records
its fault; the session goes on with the next edit. Only faults of patches and of values
are recorded this way; any other fault ends the session.
-/

namespace LinePatch

variable [Text.Surrogates]

/-- One edit of a session. -/
inductive Edit where
  /-- Apply a patch. -/
  | patch (text : String)
  /-- Apply a patch and refuse a result that breaks a balance. -/
  | guardedPatch (text : String)
  /-- Generate the patch to a new version and apply it. -/
  | newVersion (text : String)

/-- The text after an edit, and the fault of an edit that failed. -/
structure EditOutcome where
  state : String
  fault : Option Fault := none

/-- The result of one edit on the current text under a policy setting. -/
def Edit.run (policy : Setting) (current : String) : Edit → Except Fault String
  | .patch t => do
    let p ← Policy.ofSetting policy
    pure (apply p current t)
  | .guardedPatch t => do
    let p ← Policy.ofSetting policy
    applyGuarded p current t
  | .newVersion t => do
    let p ← Policy.ofSetting policy
    let script := generate p current t
    let p ← Policy.ofSetting policy
    pure (apply p current script)

def Fault.isRecoverable (f : Fault) : Bool :=
  f.kind.isPatchFault || f.kind == .value

def Edit.runAll (policy : Setting) : String → List Edit → Except Fault (List EditOutcome)
  | _, [] => .ok []
  | current, e :: es =>
    match e.run policy current with
    | .ok next => do
      let rest ← Edit.runAll policy next es
      pure ({ state := next } :: rest)
    | .error f =>
      if f.isRecoverable then do
        let rest ← Edit.runAll policy current es
        pure ({ state := current, fault := some f } :: rest)
      else .error f

end LinePatch
