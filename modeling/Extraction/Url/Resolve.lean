import Extraction.Url.Parser

/-!
# Completing addresses

An extracted address may be relative. It is completed with the base of the book source.

## Main definitions

* `Url.resolve`: the complete form of an extracted address
-/

namespace Extraction.Url

/-- The complete form of an extracted address. A blank one stays empty, and one that is complete
already stays as it is, its blank ends apart. -/
def resolve (base : Option Text) (value : Text) : Except RuleError Text :=
  let value := Text.trim value
  if value.isEmpty then .ok []
  else
    match parse none value with
    | .ok _ => .ok value
    | .error _ =>
      match base.filter (!Text.isBlankText ·) with
      | none => .error .missingBaseUrl
      | some base =>
        match parse none (Text.trim base) with
        | .error fault => .error (.url fault)
        | .ok base =>
          match parse (some base) value with
          | .error fault => .error (.url fault)
          | .ok u => .ok u.toText

end Extraction.Url
