import Resilience.Fault
import Resilience.Text.Quoted
import Resilience.Text.Search

/-!
# Which faults are worth a retry

A rule accepts or rejects a fault. Rules on kinds look at the fault and its direct cause.

## Main definitions

* `RetryRule` — the rules
* `RetryRule.accepts` — whether a rule accepts a fault
* `RetryRule.description` — a rule in words
-/

namespace Resilience

/-- A rule about faults worth a retry. -/
inductive RetryRule where
  | always
  | never
  | onKinds (kinds : List FaultKind)
  | exceptKinds (kinds : List FaultKind)
  | custom (description : String) (test : Fault → Bool)
  | both (first second : RetryRule)

namespace RetryRule

instance : Inhabited RetryRule := ⟨always⟩

/-- Accepts faults from the network. -/
def network : RetryRule := onKinds FaultKind.network

/-- Accepts faults whose message contains a text. -/
def onMessage (description part : String) : RetryRule :=
  custom description fun fault => Text.contains fault.message part

def accepts : RetryRule → Fault → Bool
  | always, _ => true
  | never, _ => false
  | onKinds kinds, fault => fault.involvesAny kinds
  | exceptKinds kinds, fault => !fault.involvesAny kinds
  | custom _ test, fault => test fault
  | both first second, fault => first.accepts fault && second.accepts fault

def description : RetryRule → String
  | always => "always"
  | never => "never"
  | onKinds kinds => "on " ++ FaultKind.listText kinds
  | exceptKinds kinds => "except " ++ FaultKind.listText kinds
  | custom description _ => description
  | both first second => first.description ++ " and " ++ second.description

/-- The rule inside a description of a record. -/
def record (rule : RetryRule) : String :=
  "RetryCondition(" ++ Text.quoted rule.description ++ ")"

end RetryRule

end Resilience
