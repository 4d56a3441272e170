/-
# Log filters

Which events are shown.  A filter is a list of directives.  Of those that speak of an event the one
with the longest target decides; of two with the same target the one that asks for a field, and of
two that are alike in this the later one.  An event is shown if it matters at least as much as the
threshold of that directive, and not at all if no directive speaks of it.

A filter is written as directives between commas, where nothing between two commas is passed over.
-/

import CheatCode.Log.Directive
import CheatCode.Text.Lines

namespace CheatCode
namespace Log

/-- The directives of a filter, in order. -/
abbrev Filter := List Directive

namespace Filter

/-- The filter in force if none is asked for, which shows every event. -/
def standard : Filter :=
  [⟨"parcheat".toList, .events, some .trace⟩, ⟨"parcheat_lib".toList, .events, some .trace⟩]

/-- The better of two directives for an event: one that covers it, with the higher rank. -/
def better (event : Event) (sofar : Option Directive) (directive : Directive) :
    Option Directive :=
  if directive.covers event then
    match sofar with
    | some best => if best.rank ≤ directive.rank then some directive else sofar
    | none => some directive
  else sofar

/-- The directive that decides on an event. -/
def decisive? (filter : Filter) (event : Event) : Option Directive :=
  filter.foldl (better event) none

/-- Whether an event is shown. -/
def allows (filter : Filter) (event : Event) : Bool :=
  ((filter.decisive? event).map (·.shows event)).getD false

/-- The filter that a text spells, or the first fault in it.  One with no directive shows errors
alone. -/
def read (text : String) : Except Fault Filter :=
  match (Text.fields ',' text.toList).filter (!·.isEmpty) with
  | [] => .ok [⟨[], .events, some .error⟩]
  | pieces => pieces.mapM Directive.ofChars

/-- The filter that is asked for.  What is refused asks for none; where reading breaks off there is
no filter. -/
def ofWish : Option String → Option Filter
  | none => some standard
  | some text =>
    match read text with
    | .ok filter => some filter
    | .error .unreadable => some standard
    | .error .torn => none

end Filter
end Log
end CheatCode
