import Extraction.Extractor.Basic
import Extraction.Script.Engine

/-!
# Extractors with scripts

An extractor takes any way to run scripts. The usual one is the script engine of this library, which
is given the settings of the extractor.

## Main definitions

* `Engine.ofFetcher`: scripts that fetch addresses in a given way
* `Extractor.ofFetcher`: the extractor that runs such scripts
-/

namespace Extraction

/-- Runs scripts within the limits of the settings; addresses are fetched by `fetch`. -/
def Engine.ofFetcher (config : Config) (fetch : Fetcher) : Engine := fun script v =>
  ExceptT.mk (Script.eval ⟨⟨config.baseUrl, fetch⟩, config.loopLimit, config.recursionLimit⟩
    script v)

/-- The extractor with the given settings whose scripts fetch addresses by `fetch`. -/
def Extractor.ofFetcher (config : Config) (fetch : Fetcher) : Extractor :=
  ⟨config, Engine.ofFetcher config fetch⟩

end Extraction
