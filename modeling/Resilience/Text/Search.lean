/-!
# Searching texts

Texts are compared character by character.

## Main definitions

* `Text.startsWith`, `Text.contains` — whether a text starts with another one or contains it
-/

namespace Resilience.Text

/-- Whether a text starts with another one. -/
def startsWith (text start : String) : Bool := start.toList.isPrefixOf text.toList

/-- Whether some characters stand together in others, in their order. -/
def occursIn (part : List Char) : List Char → Bool
  | [] => part.isEmpty
  | c :: rest => part.isPrefixOf (c :: rest) || occursIn part rest

/-- Whether a text contains another one. -/
def contains (text part : String) : Bool := occursIn part.toList text.toList

end Resilience.Text
