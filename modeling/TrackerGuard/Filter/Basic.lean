import TrackerGuard.Filter.Grammar

/-!
# Filters for domains

The filter of a group of domains is a regular expression for the URLs with a web scheme whose host
is one of the domains or lies under one.  As there is no alternation, each domain is a group that
may be left out:

    ^(https?)?(wss?)?:[/][/](.+\.)?((a\.com)?(b\.com)?)[/].*

In a domain the characters with a meaning in regular expressions are escaped.
-/

namespace TrackerGuard.Filter

/-- The filter that every URL matches. -/
def matchAll : String := ".*"

/-- What stands before the domains. -/
def opening : List Char := "^(https?)?(wss?)?:[/][/](.+\\.)?(".toList

/-- What stands after the domains. -/
def closing : List Char := ")[/].*".toList

/-- The characters that mean something else than themselves. -/
def isSpecial (c : Char) : Bool :=
  c == '\\' || c == '^' || c == '$' || c == '.' || c == '|' || c == '?' || c == '*' || c == '+' ||
    c == '(' || c == ')' || c == '[' || c == ']' || c == '\x7b' || c == '\x7d'

/-- A character as it stands for itself. -/
def escapeChar (c : Char) : List Char := if isSpecial c then ['\\', c] else [c]

/-- A text as it stands for itself. -/
def escape (cs : List Char) : List Char := cs.flatMap escapeChar

/-- The group of a domain. -/
def group (domain : List Char) : List Char := '(' :: escape domain ++ [')', '?']

/-- The filter of a group of domains. -/
def ofDomains (domains : List String) : String :=
  String.ofList (opening ++ domains.flatMap (fun d => group d.toList) ++ closing)

/-- A domain in a filter. -/
def escaped (domain : String) : String := String.ofList (escape domain.toList)

/-- What keeps a domain out of filters. -/
def domainFault? (domain : String) : Option Fault := fault? (escaped domain)

/-- Whether a domain can be put into a filter. -/
def accepts (domain : String) : Bool := (domainFault? domain).isNone

end TrackerGuard.Filter
