import RetreatDesk.Decimal.Numeral
import RetreatDesk.Text.Alphanumeric
import RetreatDesk.Text.Blank

/-!
# Filters for log messages

A filter is a list of rules with commas between. A rule names a target, or a span of time between brackets, or both,
and may end in an equals sign and a level; a level can also stand alone.

* `isLogLevel`: whether a text is a level.
* `isLogRule`: whether a text is a rule.
* `isLogFilter`: whether a text is a filter.
-/

namespace RetreatDesk

/-- The names of the levels. -/
def logLevels : List String := ["trace", "debug", "info", "warn", "error", "off"]

/-- Whether a text is a level, by name or by a number up to five. -/
def isLogLevel (s : String) : Bool :=
  (Decimal.natural? s.toList).any (· ≤ 5) || logLevels.contains (Text.lowerLatin s)

/-- Whether a target may start with a character. -/
def startsLogTarget (c : Char) : Bool := c = '-' || c = ':' || c = '_' || Text.isAlphanumeric c

/-- Whether a rule may end this way: with nothing, or with an equals sign and perhaps a level. A rule that is
`padded` with blanks may not. -/
def isLogRuleEnd (padded : Bool) : List Char → Bool
  | [] => true
  | '=' :: level => !padded && (level.isEmpty || isLogLevel (String.ofList level))
  | _ => false

/-- Whether a rule may go on this way once a span has been opened: a name, or a name and fields between braces, up
to the closing bracket. -/
def isLogSpan (padded : Bool) (cs : List Char) : Bool :=
  match cs.dropWhile fun c => c ≠ ']' && c ≠ '\x7b' with
  | ']' :: rest => isLogRuleEnd padded rest
  | _ :: inside =>
    match inside.dropWhile (· ≠ '\x7d') with
    | _ :: ']' :: rest => !(inside.takeWhile (· ≠ '\x7d')).isEmpty && isLogRuleEnd padded rest
    | _ => false
  | [] => false

/-- Whether a text is one rule. Blanks around it are passed over. -/
def isLogRule (rule : String) : Bool :=
  let trimmed := Text.trim rule
  let padded := trimmed ≠ rule
  match trimmed.toList with
  | [] => false
  | '[' :: span => isLogSpan padded span
  | c :: cs =>
    startsLogTarget c &&
      match cs.dropWhile fun c => c ≠ '=' && c ≠ '[' with
      | '[' :: span => isLogSpan padded span
      | rest => isLogRuleEnd padded rest

/-- Whether a text is a filter. Nothing between two commas counts for nothing. -/
def isLogFilter (s : String) : Bool := ((s.splitOn ",").filter (!·.isEmpty)).all isLogRule

end RetreatDesk
