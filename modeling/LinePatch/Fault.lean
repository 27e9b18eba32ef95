import LinePatch.Balance
import LinePatch.Number.Reading
import LinePatch.Setting
import LinePatch.Text.Percent

/-!
# Faults

Every way an operation of the library can fail, by cause. A fault has a message, a
mapping of details for callers that report it, and a kind; the kinds of patch faults
(a broken balance, an oversized block, hunks that cannot be read or placed, and bad
configuration) are the ones a caller of the patch engine is expected to handle.
-/

namespace LinePatch

/-- The kinds of faults. -/
inductive FaultKind where
  /-- A patch result broke a balance. -/
  | validation
  /-- A block is larger than allowed. -/
  | size
  /-- Hunks could not be read or placed. -/
  | placement
  /-- The configuration is malformed. -/
  | config
  /-- A value has the right type and a wrong content. -/
  | value
  /-- A number is too large for the conversion asked for. -/
  | overflow
  /-- A value has the wrong type. -/
  | type
  /-- A value lacks an operation its use needs. -/
  | attribute
  /-- A position past the end of a list. -/
  | index
  /-- A name not among the known ones. -/
  | key
  /-- A definition that runs into itself without end. -/
  | recursion
  /-- A path names a directory where a file is read or written. -/
  | directory
  /-- A file is written into a directory that does not exist. -/
  | noSuchFile
  /-- A file is written below a path that names a file. -/
  | notDirectory
  /-- A text holds codes that UTF-8 cannot encode. -/
  | encoding
  deriving DecidableEq, Repr, Inhabited

/-- The faults a caller of the patch engine handles. -/
def FaultKind.isPatchFault : FaultKind → Bool
  | .validation | .size | .placement | .config => true
  | _ => false

/-- The option names, in sorted order. -/
def optionNames : List String :=
  ["backend", "dmp_match_distance", "dmp_match_threshold", "max_diff_chars", "policy",
    "validate"]

/-- Why an operation failed. -/
inductive Fault where
  /-- The result breaks balances that held before. -/
  | unbalanced (broken : List Balance)
  /-- A block has `size` characters, more than `limit`. -/
  | oversized (size : Nat) (limit : Int)
  /-- Hunk text that cannot be read, and why. -/
  | unreadableHunks (reason : String)
  /-- Hunks that could not be placed, by number, of `total`. -/
  | unplacedHunks (failed : List Nat) (total : Nat)
  /-- Splitting long hunks reached a position past the end of the hunks. -/
  | splitPastEnd
  /-- No configuration file at the path. -/
  | configMissing (path : String)
  /-- The configuration file is not a well-formed document, and why. -/
  | configUnreadable (path : String) (reason : String)
  /-- The configuration document is not a mapping. -/
  | configNotMapping (path : String)
  /-- The configuration section is not a mapping. -/
  | sectionNotMapping (path : String)
  /-- An option that does not exist. -/
  | unknownOption (key : String)
  /-- A value that is not one of an option's choices. -/
  | invalidChoice (key : String) (value : Setting) (choices : List String)
  /-- A value of the validation flag that is not a truth value. -/
  | invalidFlag (value : Setting)
  /-- A value of a numeric option that is not a number. -/
  | invalidNumber (key : String) (value : Setting)
  /-- A size limit that is not positive. -/
  | limitNotPositive
  /-- A match threshold outside `[0, 1]`. -/
  | thresholdOutOfRange
  /-- A backend that does not exist, as lower-cased text. -/
  | unknownBackend (name : String)
  /-- A policy option that names no policy. -/
  | policyOption (value : Setting)
  /-- A policy that names no policy. -/
  | unknownPolicy (value : Setting)
  /-- A text that is no real number. -/
  | notAReal (text : String)
  /-- A text that is no whole number in `base`. -/
  | notAWhole (base : Nat) (text : String)
  /-- A text whose run of decimal digits is longer than whole numbers may be. -/
  | wholeTooLong (digits : Nat)
  /-- NaN has no whole part. -/
  | wholeOfNaN
  /-- An infinity has no whole part. -/
  | wholeOfInfinity
  /-- A whole number beyond the doubles. -/
  | realTooLarge
  /-- A value of a type that has no real number. -/
  | realOfType (typeName : String)
  /-- A value of a type that has no whole number. -/
  | wholeOfType (typeName : String)
  /-- A value that is not a mapping where one is needed, and the operation asked of it. -/
  | notAMapping (typeName : String) (operation : String)
  /-- A value of a configuration file that cannot be built, of a kind and with a message. -/
  | configValue (kind : FaultKind) (message : String)
  /-- A whole number with too many digits to be written in decimal. -/
  | wholeTooLongToWrite
  /-- A path that names a directory, where a file is read or written. -/
  | pathIsDirectory (path : String)
  /-- A file written into a directory that does not exist. -/
  | noSuchDirectory (path : String)
  /-- A file written below a path that names a file. -/
  | belowAFile (path : String)
  /-- A run of lone surrogate codes in a text that is encoded as UTF-8. -/
  | unencodable (run : Text.Unencodable)
  deriving Inhabited

namespace Fault

variable [Text.Surrogates]

/-- The kind of a fault. -/
def kind : Fault → FaultKind
  | unbalanced _ => .validation
  | oversized _ _ => .size
  | unreadableHunks _ | unplacedHunks _ _ => .placement
  | configMissing _ | configUnreadable _ _ | configNotMapping _ | sectionNotMapping _
  | unknownOption _ | invalidChoice _ _ _ | invalidFlag _ | invalidNumber _ _
  | limitNotPositive | thresholdOutOfRange | unknownBackend _ | policyOption _ => .config
  | unknownPolicy _ | notAReal _ | notAWhole _ _ | wholeTooLong _ | wholeOfNaN => .value
  | wholeOfInfinity | realTooLarge => .overflow
  | realOfType _ | wholeOfType _ => .type
  | notAMapping _ _ => .attribute
  | splitPastEnd => .index
  | configValue k _ => k
  | wholeTooLongToWrite => .value
  | pathIsDirectory _ => .directory
  | noSuchDirectory _ => .noSuchFile
  | belowAFile _ => .notDirectory
  | unencodable _ => .encoding

/-- The message of a fault. -/
def message : Fault → String
  | unbalanced broken => "\n".intercalate (broken.map Balance.message)
  | oversized _ limit => s!"Diff block exceeds maximum size of {limit} characters"
  | unreadableHunks reason => "Invalid diff-match-patch text: " ++ reason
  | unplacedHunks failed total => s!"{failed.length} of {total} hunk(s) failed to apply"
  | configMissing path => "Config file not found: " ++ path
  | configUnreadable _ reason => "Failed to parse config: " ++ reason
  | configNotMapping _ => "Configuration must be a mapping at the top level."
  | sectionNotMapping _ => "'fuzzypatch' must be a mapping."
  | unknownOption key => "Unknown option: " ++ key
  | invalidChoice key value _ => "Invalid " ++ key ++ ": " ++ value.written
  | invalidFlag value => "Invalid validate flag: " ++ value.written
  | invalidNumber key value => "Invalid " ++ key ++ ": " ++ value.written
  | limitNotPositive => "max_diff_chars must be positive"
  | thresholdOutOfRange => "dmp_match_threshold must be between 0 and 1"
  | unknownBackend name => "Unknown backend: " ++ Text.quoted name
  | policyOption value => "Unknown normalization policy: " ++ value.written
  | unknownPolicy value => "Unknown normalization policy: " ++ value.written
  | notAReal text => "could not convert string to float: " ++ Text.quoted text
  | notAWhole base text =>
    s!"invalid literal for int() with base {base}: " ++ String.ofList ((Text.quoted text).toList.take 200)
  | wholeTooLong digits => Number.tooLongMessage digits
  | wholeOfNaN => "cannot convert float NaN to integer"
  | wholeOfInfinity => "cannot convert float infinity to integer"
  | realTooLarge => "int too large to convert to float"
  | realOfType t => "float() argument must be a string or a real number, not '" ++ t ++ "'"
  | wholeOfType t =>
    "int() argument must be a string, a bytes-like object or a real number, not '" ++ t ++ "'"
  | notAMapping t op => "'" ++ t ++ "' object has no attribute '" ++ op ++ "'"
  | splitPastEnd => "list index out of range"
  | configValue _ m => m
  | wholeTooLongToWrite =>
    "Exceeds the limit (" ++ toString Number.maxDigits ++
      " digits) for integer string conversion; use sys.set_int_max_str_digits() to increase the limit"
  | pathIsDirectory path => "[Errno 21] Is a directory: " ++ Text.quoted path
  | noSuchDirectory path => "[Errno 2] No such file or directory: " ++ Text.quoted path
  | belowAFile path => "[Errno 20] Not a directory: " ++ Text.quoted path
  | unencodable ⟨start, codes⟩ =>
    let place := match codes with
      | [code] => "character '\\u" ++ String.ofList (Text.hexDigits 4 code) ++ "' in position " ++
        toString start
      | _ => "characters in position " ++ toString start ++ "-" ++ toString (start + codes.length - 1)
    "'utf-8' codec can't encode " ++ place ++ ": surrogates not allowed"

/-- The details of a fault, as a mapping from names to settings. -/
def details : Fault → List (String × Setting)
  | unbalanced broken => [("broken", .list (broken.map fun b => .str b.name))]
  | oversized size limit => [("size", .int size), ("limit", .int limit)]
  | unplacedHunks failed _ => [("failed_hunks", .list (failed.map fun (i : Nat) => Setting.int (Int.ofNat i)))]
  | configMissing path | configUnreadable path _ | configNotMapping path
  | sectionNotMapping path => [("path", .str path)]
  | unknownOption _ => [("known", .list (optionNames.map .str))]
  | invalidChoice _ _ choices => [("choices", .list (choices.map .str))]
  | unknownBackend _ => [("choices", .list [.str "linker", .str "dmp"])]
  | _ => []

end Fault

end LinePatch
