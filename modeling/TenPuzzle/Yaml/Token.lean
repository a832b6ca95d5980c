import TenPuzzle.Yaml.Fault

/-!
Tokens of a YAML text. Indentation is explicit: block collections have tokens where they start and
end, and a key is marked before its first token. A text that breaks off has the fault for its last
token, so that it only counts for a reader who comes that far.
-/

namespace TenPuzzle.Yaml

/-- A tag as it is written: a suffix behind a handle, or a tag without one. -/
structure WrittenTag where
  handle : Option (List Char)
  suffix : List Char
  deriving DecidableEq, Repr

inductive Directive where
  | version (major : Nat)
  | handle (name : List Char) (expansion : List Char)
  | unknown
  deriving DecidableEq, Repr

inductive Token where
  | directive (directive : Directive)
  | documentStart
  | documentEnd
  | blockSequence
  | blockMapping
  | blockEnd
  | sequenceStart
  | sequenceEnd
  | mappingStart
  | mappingEnd
  | comma
  | dash
  | key
  | value
  | alias (name : List Char)
  | anchor (name : List Char)
  | tag (tag : WrittenTag)
  | scalar (text : List Char) (plain : Bool)
  | broken (fault : Fault)
  deriving DecidableEq, Repr

end TenPuzzle.Yaml
