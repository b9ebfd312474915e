/-!
# Tokens of YAML

The pieces that a YAML text is made of. Where the indentation opens and closes a collection,
there is a token for it, and so is there for every key of a mapping.
-/

namespace EntitySelection.Yaml

/-- A tag as it is written: in full, or as a handle and what follows it. -/
inductive TagName where
  | full (name : String)
  | short (handle suffix : String)
  deriving DecidableEq, Repr

/-- A line with instructions for a document. -/
inductive Directive where
  | version (major : Nat)
  | tag (handle address : String)
  | other
  deriving DecidableEq, Repr

inductive Token where
  | directive (d : Directive)
  | documentStart
  | documentEnd
  | blockSequenceStart
  | blockMappingStart
  | blockEnd
  | flowSequenceStart
  | flowSequenceEnd
  | flowMappingStart
  | flowMappingEnd
  | blockEntry
  | flowEntry
  | key
  | value
  | alias (name : String)
  | anchor (name : String)
  | tag (name : TagName)
  /-- The text of a scalar, and whether it stands without quotation marks in its line. -/
  | scalar (plain : Bool) (text : String)
  deriving DecidableEq, Repr

end EntitySelection.Yaml
