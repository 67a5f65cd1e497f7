import QuickFix.Rule.Application
import QuickFix.Rule.Conversion
import QuickFix.Rule.MatchCases
import QuickFix.Rule.Optional
import QuickFix.Rule.RecordFields
import QuickFix.Rule.Suggestion
import QuickFix.Site

/-!
# The rules

Each rule looks at one line of a message, some also at the line above or the lines below, and
proposes a fix or nothing.
-/

set_option autoImplicit false

namespace QuickFix

/-- The kinds of fix. -/
inductive Rule
  | identifierSuggestion
  | missingRecordFields
  | typeConversion
  | topLevelUnitWrap
  | uncurriedDotInsert
  | missingMatchCases
  | optionalWrap
  deriving DecidableEq, Repr

namespace Rule

/-- The order in which the rules are tried on a line. -/
def priority : List Rule :=
  [.identifierSuggestion, .missingRecordFields, .typeConversion, .topLevelUnitWrap,
   .uncurriedDotInsert, .missingMatchCases, .optionalWrap]

/-- The name of a rule. -/
def name : Rule → String
  | .identifierSuggestion => "identifier-suggestion"
  | .missingRecordFields => "missing-record-fields"
  | .typeConversion => "type-conversion"
  | .topLevelUnitWrap => "top-level-unit-wrap"
  | .uncurriedDotInsert => "uncurried-dot-insert"
  | .missingMatchCases => "missing-match-cases"
  | .optionalWrap => "optional-wrap"

/-- The line above the one with index `i`. -/
def above? (lines : List (List Char)) : (i : Nat) → Option (List Char)
  | 0 => none
  | i + 1 => lines[i]?

/-- What a rule proposes for a range on the line with index `i`. -/
def propose? (rule : Rule) (range : Range) (lines : List (List Char)) (i : Nat) :
    Option Proposal := do
  let line ← lines[i]?
  match rule with
  | .identifierSuggestion => suggestion range line
  | .missingRecordFields => recordFields range line (lines.drop (i + 1))
  | .typeConversion => conversion range line
  | .topLevelUnitWrap => unitWrap range line
  | .uncurriedDotInsert => uncurriedDot range line
  | .missingMatchCases => matchCases range line (lines.drop (i + 1))
  | .optionalWrap => someWrap range line (above? lines i)

/-- The action of a rule on a line of a site. -/
def fix? (rule : Rule) (site : Site) (i : Nat) : Option Action :=
  (rule.propose? site.range site.lines i).map fun p => p.toAction site.uri site.diagnostic

end Rule

end QuickFix
