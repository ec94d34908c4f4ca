import ShuleHub.Exceptions
import ShuleHub.Lib.Json
import ShuleHub.Lib.JsMap
import ShuleHub.Lib.JsText

/-! What the services share: the runtime under them, and the JSON they store. -/

namespace ShuleHub

/-- What the services take from the runtime: the tenant of the request, the hash, `new Date(text)`,
the locale order of strings and the configured life of an idempotency key. -/
structure Runtime where
  tenantId : String
  sha256 : String → String
  parseDate : String → Option Int
  localeLe : String → String → Bool
  idempotencyTtlSeconds : Nat

def stableSerialize (value : Json) : String := String.ofList (Json.serialize value)

def jsonNat (n : Nat) : Json := .str (toString n)

def jsonText (text : Option String) : Json :=
  match text with
  | some text => .str text
  | none => .null

abbrev Metadata := JsMap String Json

namespace Metadata

def merge (metadata other : Metadata) : Metadata :=
  other.foldl (fun merged field => merged.set field.1 field.2) metadata

/-- `metadata ->> key` for a text value, the only kind that can name a row. -/
def text (metadata : Metadata) (key : String) : Option String :=
  match metadata.get? key with
  | some (.str text) => some text
  | _ => none

end Metadata

def readString (value : Option String) : Option String :=
  (value.map JsText.trim).filter (· ≠ "")

def isBlank (text : String) : Prop := ∀ c ∈ text.toList, c = ' '

instance : DecidablePred isBlank := fun text => List.decidableBAll (fun c => c = ' ') text.toList

def readStringMetadata (metadata : Metadata) (key : String) : Option String :=
  readString (metadata.text key)

end ShuleHub
