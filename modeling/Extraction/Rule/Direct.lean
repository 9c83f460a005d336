import Extraction.Document.Select
import Extraction.Rule.Marks

/-!
# Direct rules

A rule without any mark that gives rules their structure is direct: it names at once what is read
from the value at hand, and needs no compiling.

## Main definitions

* `Rule.isDirect`: the test
* `Primitive.readDirect?`: what a direct rule reads
-/

namespace Extraction

namespace Rule

/-- Whether a rule without blanks around it has nothing in it that gives rules their structure: no
separator, no fence, no placeholder, no script, no hint, and not the look of a path into JSON. -/
def isDirect (rule : Text) : Bool :=
  !(Text.includes rule arrow || Text.includes rule fence || Text.includes rule ['\x7b', '\x7b'] ||
    Text.includes rule scriptOpen || Text.includesIgnoreCase rule scriptRest ||
    (Mode.ofHint? rule).isSome || ['$', '.'].isPrefixOf rule || ['$', '['].isPrefixOf rule)

/-- Whether a rule is made of characters of bare names only. -/
def isBareName (rule : Text) : Bool :=
  rule.all fun c => Text.isAlphanumeric c || c == '-' || c == '_' || c == ':'

end Rule

/-- What a single value is wanted for. -/
inductive Target where
  | text
  | address
  deriving DecidableEq

namespace Primitive

/-- What a rule reads directly, if it is direct and the value at hand can be read so: a member of a JSON
value; of an element the text of the first selected one, or its own text if none is selected, or an
attribute where an address is wanted; of a node the first item that a location path leads to. -/
def readDirect? (p : Primitive) (rule : Text) (target : Target) :
    Except RuleError (Option Text) :=
  let rule := Text.trim rule
  if !Rule.isDirect rule then .ok none
  else
    match p, target with
    | object v, _ => .ok (some (((v.get? rule).map Json.plainText).getD []))
    | element place, .text =>
      if rule.elem '@' then .ok none
      else if rule.isEmpty then .ok (some place.text)
      else (Css.select place rule).map fun found => some (found.headD place).text
    | element place, .address =>
      .ok (if Rule.isBareName rule then some ((place.attribute? rule).getD []) else none)
    | node place, _ =>
      if rule.isEmpty then .ok (some place.text)
      else
        (XPath.select place rule).map fun items => some ((items.head?.map XPath.Item.asText).getD [])
    | text _, _ => .ok none

end Primitive

end Extraction
