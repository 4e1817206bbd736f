import TrackerGuard.Filter.Basic

/-!
# Reading a filter back

The parentheses of a filter nest, and a backslash takes their meaning away.  `topGroups` cuts the
inside of a pair of parentheses into its groups by counting how many are open, whatever the groups
hold.  `domains?` takes a filter that was made of domains back to the domains.
-/

namespace TrackerGuard.Filter

/-- The text without its escapes. -/
def unescape : List Char → List Char
  | [] => []
  | '\\' :: c :: cs => c :: unescape cs
  | c :: cs => c :: unescape cs

/-- Goes through a text with `depth` parentheses open and cuts it behind the question mark of each
outermost group; `out` is the group so far, backwards.  Nothing else than such groups may stand in
the text, which ends where a parenthesis is closed that was not opened in it. -/
def topGroupsFrom (escaped : Bool) (depth : Nat) (out : List Char) :
    List Char → Option (List (List Char) × List Char)
  | [] => none
  | c :: cs =>
    if escaped then topGroupsFrom false depth (c :: out) cs
    else if c = '\\' then
      if depth = 0 then none else topGroupsFrom true depth (c :: out) cs
    else if c = '(' then topGroupsFrom false (depth + 1) (c :: out) cs
    else if c = ')' then
      match depth with
      | 0 => if out.isEmpty then some ([], c :: cs) else none
      | depth + 1 => topGroupsFrom false depth (c :: out) cs
    else if depth = 0 then
      if c = '?' && !out.isEmpty then
        (topGroupsFrom false 0 [] cs).map fun (groups, rest) =>
          ((c :: out).reverse :: groups, rest)
      else none
    else topGroupsFrom false depth (c :: out) cs

/-- The optional groups between the opening and the closing of a filter. -/
def topGroups? (filter : String) : Option (List (List Char)) :=
  let cs := filter.toList
  if opening.isPrefixOf cs then
    match topGroupsFrom false 0 [] (cs.drop opening.length) with
    | some (groups, rest) => if rest = closing then some groups else none
    | none => none
  else none

/-- The domain of a group. -/
def domainOf (group : List Char) : String :=
  String.ofList (unescape ((group.drop 1).take (group.length - 3)))

/-- The domains of a filter. -/
def domains? (filter : String) : Option (List String) :=
  (topGroups? filter).map (·.map domainOf)

end TrackerGuard.Filter
