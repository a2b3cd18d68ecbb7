import AgentycHost.Cdp.Wire
import AgentycHost.Core.Texts
import AgentycHost.Shared.Patterns

set_option autoImplicit false

/-!
# The tab worker of the extension

The worker checks the bootstrap URL of a new tab and the parameters of a tab
group by regular expressions over UTF-16 code units.
-/

namespace AgentycHost

open Shared

def maxSafeInteger : Nat := 2 ^ 53 - 1

namespace TabWorker

def isIdHead (unit : Nat) : Bool := isAsciiLowercase unit || isAsciiDigit unit

def isIdTail (unit : Nat) : Bool := isAsciiLowercase unit || isAsciiDigit unit || unit == 95 || unit == 45

def logicalId (tag : String) : Pattern Nat :=
  .followedBy (.literal (utf16 tag)) (.followedBy (.one isIdHead) (.many isIdTail (some 126)))

def spaceIdPattern : Pattern Nat := logicalId "space_"

def pageIdPattern : Pattern Nat := logicalId "page_"

def epochPattern : Pattern Nat := .followedBy (.one fun unit => 49 ≤ unit && unit ≤ 57) (.many isAsciiDigit none)

/-- The page and the epoch of a bootstrap URL, as `BOOTSTRAP_URL` finds them. -/
def bootstrapMatch (url : String) : Option (List Nat × List Nat) :=
  Pattern.exec (.literal (utf16 "about:blank#agentyc-tab=")) pageIdPattern (.literal (utf16 "-")) epochPattern (utf16 url)

def decimalValue (digits : List Nat) : Nat := digits.foldl (fun value digit => value * 10 + (digit - 48)) 0

def validateBootstrapUrl (url : String) : Bool :=
  decide ((utf16 url).length ≤ 1024) &&
    (bootstrapMatch url).any fun found => decide (decimalValue found.2 ≤ maxSafeInteger)

def bootstrapPage (url : String) : Option (List Nat) := (bootstrapMatch url).map Prod.fst

def isLogicalId (value : Option Json) (pattern : Pattern Nat) : Bool :=
  match value with
  | some (.string text) => pattern.test (utf16 text)
  | _ => false

/-- The safe integer that a number is. `whole` reads a number with a fraction or an exponent. -/
def safeInteger (whole : String -> Option Int) (value : Option Json) : Option Int :=
  let number : Option Int :=
    match value with
    | some (.int value) => some value
    | some (.decimal text) => whole text
    | _ => none
  number.filter fun value => decide (value.natAbs ≤ maxSafeInteger)

def joinedKeys (fields : List (String × Json)) : String :=
  ",".intercalate ((fields.map Prod.fst).insertionSort fun one other => utf16 one ≤ utf16 other)

def validGroupTitle (value : Option Json) : Bool :=
  match value with
  | some (.string title) => decide (0 < (utf16 title).length) && decide ((utf16 title).length ≤ 128)
  | _ => false

def validGroupParams (whole : String -> Option Int) (params : Json) : Bool :=
  match params with
  | .object fields =>
      joinedKeys fields == "lease_epoch,page_id,space_id,title" &&
        isLogicalId (params.get "space_id") spaceIdPattern && isLogicalId (params.get "page_id") pageIdPattern &&
        (safeInteger whole (params.get "lease_epoch")).any (fun value => decide (1 ≤ value)) &&
        validGroupTitle (params.get "title")
  | _ => false

end TabWorker

/-- The parameters of `group.present`. -/
def groupParams (spaceId pageId : String) (leaseEpoch : LeaseEpoch) (title : Option String) : Json :=
  .object ([("lease_epoch", .int leaseEpoch), ("page_id", .string pageId), ("space_id", .string spaceId)] ++
    (title.map fun title => ("title", Json.string title)).toList)

end AgentycHost
