import TrackerGuard.Idna.Label

/-!
# Domain names in ASCII

`toAscii?` brings a domain name to the form in which it is looked up: mapped, composed, and with
every label that has other characters than ASCII written in Punycode after `xn--`.  A label that is
written so already must stand for a valid label that needs it.  ASCII characters are not restricted,
and neither are the lengths of labels.
-/

namespace TrackerGuard.Idna

/-- What a label written in Punycode begins with. -/
def acePrefix : List Char := ['x', 'n', '-', '-']

/-- Whether the label is made of ASCII characters. -/
def isAscii (label : List Char) : Bool := label.all (·.toNat < 0x80)

/-- The label that is meant: written in Punycode or not, it must be valid. -/
def meant? (label : List Char) : Option (List Char) :=
  if acePrefix.isPrefixOf label then
    match Punycode.decode? (label.drop acePrefix.length) with
    | some meant => if !isAscii meant && isValid meant then some meant else none
    | none => none
  else if isAscii label || isValid label then some label
  else none

/-- The label in ASCII. -/
def asciiLabel? (label : List Char) : Option (List Char) :=
  if isAscii label then some label else (Punycode.encode? label).map (acePrefix ++ ·)

/-- The domain name in ASCII, unless one of its labels is not valid. -/
def toAscii? (domain : String) : Option String := do
  let mapped ← map? domain.toList
  let labels ← ((compose mapped).splitOn '.').mapM meant?
  if labels.any hasRightToLeft && !labels.all keepsDirection then none
  let written ← labels.mapM asciiLabel?
  pure (String.ofList (['.'].intercalate written))

end TrackerGuard.Idna
