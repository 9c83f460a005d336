import Extraction.Markup.BasicReference
import Extraction.Markup.PlainText
import Extraction.Session.Variables
import Extraction.Text.Base64
import Extraction.Text.Utf8
import Extraction.Url.Resolve

/-!
# What scripts may ask for

A script can read and write the variables of the session, fetch an address, and have texts encoded,
decoded and formatted.

## Main definitions

* `Fetcher`: how the text at an address is got
* `Host.fetchAt`, `Host.ajax`, `Host.base64Encode`, `Host.base64Decode`: the services that are not defined elsewhere
-/

namespace Extraction

/-- How the text at a complete address is got. -/
abbrev Fetcher := Text → Except RuleError Text

/-- What a script may ask besides the variables: the base of relative addresses, and the fetcher. -/
structure Host where
  baseUrl : Option Text
  fetch : Fetcher

namespace Host

/-- The text at an address, which is completed first and must not be blank. What fetches it may have
effects of its own. -/
def fetchAt {m : Type → Type} [Monad m] [MonadExcept RuleError m] (base : Option Text)
    (fetch : Text → m Text) (address : Text) : m Text := do
  let address ← MonadExcept.ofExcept (Url.resolve base address)
  if address.isEmpty then throw (.input .addressEmpty)
  fetch address

/-- The text at an address, as the fetcher of the host gets it. -/
def ajax (h : Host) (address : Text) : Except RuleError Text := fetchAt h.baseUrl h.fetch address

/-- The base64 form of the bytes of a text. -/
def base64Encode (s : Text) : Text := (Base64.encode (Utf8.encode s)).map Char.ofNat

/-- The text whose base64 form a text is, blanks around it apart. -/
def base64Decode (s : Text) : Except RuleError Text :=
  match Base64.decode (Utf8.encode (Text.trim s)) with
  | .ok bytes => .ok (Utf8.decode bytes)
  | .error fault => .error (.input (.base64 fault))

end Host

end Extraction
