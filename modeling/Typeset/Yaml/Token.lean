/-!
Tokens of YAML. Indentation becomes explicit: a block collection has a token where it begins and one
where it ends, keys and values are marked, and the end of the text is a token too.
-/

namespace Typeset.Yaml

inductive Directive
  | version (major : Nat)
  | tag (handle stem : String)
  | other
  deriving DecidableEq

inductive Token
  | directive (d : Directive)
  | documentStart
  | documentEnd
  | blockSequenceStart
  | blockMappingStart
  | blockEnd
  | flowSequenceStart
  | flowSequenceEnd
  | flowMappingStart
  | flowMappingEnd
  | key
  | value
  | blockEntry
  | flowEntry
  | alias (name : String)
  | anchor (name : String)
  | tag (handle : Option String) (suffix : String)
  | scalar (text : String) (plain : Bool)
  | textEnd
  deriving DecidableEq

end Typeset.Yaml
