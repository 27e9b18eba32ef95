import LinePatch.Yaml.Problem

/-!
# Tokens

The scanner cuts a document into tokens: the bounds of the stream and of documents,
directives, the starts and ends of block and flow collections, the indicators of keys,
values and entries, anchors, aliases, tags and scalars. Each token knows where it
starts and ends.
-/

namespace LinePatch.Yaml

/-- The value of a directive: a `%YAML` version, a `%TAG` handle with its prefix, or
nothing for a directive of another name. -/
inductive DirectiveValue where
  | version (major minor : Nat)
  | tagPrefix (handle pre : String)
  | other
  deriving Inhabited, Repr

/-- The kinds of tokens, with what each carries. -/
inductive TokenKind where
  | streamStart
  | streamEnd
  | directive (name : String) (value : DirectiveValue)
  | documentStart
  | documentEnd
  | blockSequenceStart
  | blockMappingStart
  | blockEnd
  | flowSequenceStart
  | flowMappingStart
  | flowSequenceEnd
  | flowMappingEnd
  | key
  | value
  | blockEntry
  | flowEntry
  | aliasOf (name : String)
  | anchor (name : String)
  | tag (handle : Option String) (suffix : String)
  | scalar (value : String) (plain : Bool) (style : Option Char)
  deriving Inhabited, Repr

/-- A token with its start and end. -/
structure Token where
  kind : TokenKind
  start : Mark
  stop : Mark
  deriving Inhabited, Repr

namespace TokenKind

/-- The name of a token's kind, as reports give it. -/
def id : TokenKind → String
  | streamStart => "<stream start>"
  | streamEnd => "<stream end>"
  | directive _ _ => "<directive>"
  | documentStart => "<document start>"
  | documentEnd => "<document end>"
  | blockSequenceStart => "<block sequence start>"
  | blockMappingStart => "<block mapping start>"
  | blockEnd => "<block end>"
  | flowSequenceStart => "["
  | flowMappingStart => "\x7b"
  | flowSequenceEnd => "]"
  | flowMappingEnd => "\x7d"
  | key => "?"
  | value => ":"
  | blockEntry => "-"
  | flowEntry => ","
  | aliasOf _ => "<alias>"
  | anchor _ => "<anchor>"
  | tag _ _ => "<tag>"
  | scalar _ _ _ => "<scalar>"

/-- The kinds that tests of the next token ask about, without what they carry. -/
inductive Shape where
  | streamStart | streamEnd | directive | documentStart | documentEnd
  | blockSequenceStart | blockMappingStart | blockEnd
  | flowSequenceStart | flowMappingStart | flowSequenceEnd | flowMappingEnd
  | key | value | blockEntry | flowEntry | aliasOf | anchor | tag | scalar
  deriving DecidableEq, Repr

/-- The shape of a token's kind. -/
def shape : TokenKind → Shape
  | streamStart => .streamStart
  | streamEnd => .streamEnd
  | directive _ _ => .directive
  | documentStart => .documentStart
  | documentEnd => .documentEnd
  | blockSequenceStart => .blockSequenceStart
  | blockMappingStart => .blockMappingStart
  | blockEnd => .blockEnd
  | flowSequenceStart => .flowSequenceStart
  | flowMappingStart => .flowMappingStart
  | flowSequenceEnd => .flowSequenceEnd
  | flowMappingEnd => .flowMappingEnd
  | key => .key
  | value => .value
  | blockEntry => .blockEntry
  | flowEntry => .flowEntry
  | aliasOf _ => .aliasOf
  | anchor _ => .anchor
  | tag _ _ => .tag
  | scalar _ _ _ => .scalar

end TokenKind

end LinePatch.Yaml
