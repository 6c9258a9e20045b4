import Resilience.Json.Access
import Resilience.Text.Quoted
import Resilience.Text.Search

/-!
# Which keys a hybrid counter shares

A route sends a key to the shared backend or keeps it in the process.

## Main definitions

* `KeyRoute`, `KeyRoute.ofJson` — the routes
* `KeyRoute.isShared` — whether a key goes to the shared backend
-/

namespace Resilience

/-- Where the counts of a key are kept. -/
inductive KeyRoute where
  | allLocal
  | allShared
  /-- Shares the keys that start with one of some texts. -/
  | byStart (starts : List String)
  | custom (description : String) (test : String → Bool)

namespace KeyRoute

instance : Inhabited KeyRoute := ⟨allLocal⟩

/-- Shares the keys that contain a text. -/
def containing (description part : String) : KeyRoute :=
  custom description fun key => Text.contains key part

/-- Whether a key goes to the shared backend. -/
def isShared : KeyRoute → String → Bool
  | allLocal, _ => false
  | allShared, _ => true
  | byStart starts, key => starts.any (Text.startsWith key)
  | custom _ test, key => test key

def description : KeyRoute → String
  | allLocal => "all local"
  | allShared => "all shared"
  | byStart starts => "prefix " ++ Text.bracketed (starts.map Text.quoted)
  | custom description _ => description

/-- A route from a name, from the starts of the keys it shares, or from a text inside them. -/
def ofJson (json : Json) : KeyRoute :=
  match json, json.member? "prefix" with
  | .string "all_shared", _ => allShared
  | .string _, _ => allLocal
  | _, some starts => byStart (starts.toList.map Json.toText)
  | _, none => containing (json.str "description" "custom") (json.str "contains")

/-- The route inside a description of a record. -/
def record (route : KeyRoute) : String := "KeySelector(" ++ Text.quoted route.description ++ ")"

end KeyRoute

end Resilience
