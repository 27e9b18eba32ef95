import LinePatch.Engine
import LinePatch.Fence

/-!
# Applying the diff blocks of a response

A response is free text holding fenced `diff` blocks. Its blocks are applied to a code
text one after another, each through an engine, checked against the code's balances
unless that is turned off, and refused outright when longer than a size limit.
-/

namespace LinePatch

variable [Text.Surrogates]

/-- How the blocks of a response are applied. -/
structure Applier where
  engine : Engine := .lines .whitespace
  maxChars : Int := 100000
  validate : Bool := true

/-- One entry of a preview's log. -/
structure LogEntry where
  level : String
  message : String
  block : Option Nat := none
  details : Option (List (String × Setting)) := none

/-- What a preview found: whether every block applied, a summary message, the text after
the blocks that applied, how many blocks there were, applied and failed, and the log. -/
structure Report where
  success : Bool
  overall : String
  text : String
  blocks : Nat
  applied : Nat
  failed : Nat
  logs : List LogEntry

/-- The log entry of a block that applied. -/
def LogEntry.applied (n : Nat) : LogEntry :=
  { level := "INFO", message := s!"Block {n} applied", block := some n }

/-- The log entry of a block that was refused. -/
def LogEntry.rejected (n : Nat) (f : Fault) : LogEntry :=
  { level := "ERROR"
    message := s!"Block {n} rejected: " ++ f.message
    block := some n
    details := some f.details }

namespace Applier

/-- Applies one block, refusing it when it is longer than the limit. -/
def applyBlock (a : Applier) (code block : String) : Except Fault String :=
  if (block.length : Int) > a.maxChars then .error (.oversized block.length a.maxChars)
  else if a.validate then a.engine.applyGuarded code block
  else a.engine.apply code block

/-- Applies every block of a response in turn; the first refusal ends it. -/
def apply (a : Applier) (code response : String) : Except Fault String :=
  (Fence.blocks response).foldlM a.applyBlock code

/-- The preview state after the blocks so far. -/
def previewStep (a : Applier) (stopOnError : Bool) :
    Nat → List String → Report → Except Fault Report
  | _, [], r => .ok r
  | n, block :: rest, r =>
    match a.applyBlock r.text block with
    | .ok text =>
      previewStep a stopOnError (n + 1) rest
        { r with
          text := text
          applied := r.applied + 1
          logs := r.logs ++ [LogEntry.applied n] }
    | .error f =>
      if f.kind.isPatchFault then
        let r := { r with
          success := false
          failed := r.failed + 1
          logs := r.logs ++ [LogEntry.rejected n f] }
        if stopOnError then .ok r else previewStep a stopOnError (n + 1) rest r
      else .error f

/-- Applies the blocks of a response without raising on a refused block, and reports
on each. -/
def preview (a : Applier) (code response : String) (stopOnError : Bool) : Except Fault Report :=
  let blocks := Fence.blocks response
  if blocks.isEmpty then
    .ok { success := false
          overall := "No diff blocks found"
          text := code
          blocks := 0
          applied := 0
          failed := 0
          logs := [{ level := "WARN", message := "No ```diff blocks in response" }] }
  else do
    let start : Report :=
      { success := true, overall := "OK", text := code, blocks := blocks.length, applied := 0, failed := 0, logs := [] }
    let r ← a.previewStep stopOnError 1 blocks start
    if r.success then pure r
    else pure { r with overall := s!"{r.failed} of {blocks.length} block(s) failed" }

end Applier

def stopOnError (options : Setting) : Except Fault Bool :=
  match (if options.truthy then options else .map []) with
  | .map kvs => .ok ((Setting.lookup kvs "stop_on_error").getD (.bool true)).truthy
  | other => .error (.notAMapping other.typeName "get")

end LinePatch
