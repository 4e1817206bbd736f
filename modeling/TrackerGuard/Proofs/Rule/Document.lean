import Mathlib
import TrackerGuard.Proofs.Json.Compact
import TrackerGuard.Rule.Document

/-!
# Rule documents read back

A rule list is read back from its document as it was written: a list that is absent stays absent,
and one that is there but empty stays there.  An absent list is no member of its trigger, and
reading starts from a trigger without lists.

The members of a trigger, of an action and of a rule are each read from what the members before
them came to (`Json.MembersRead`).  The six lists of a trigger are alike but for their place in it,
so there is one lemma for all of them, `Json.MembersRead.field?`.
-/

namespace TrackerGuard

open Json

lemma find?_resourceType (t : ResourceType) :
    Dictionary.find? t.name (ResourceType.all.map fun t => (t.name, t)) = some t := by
  cases t <;> decide

lemma find?_loadType (t : LoadType) :
    Dictionary.find? t.name (LoadType.all.map fun t => (t.name, t)) = some t := by
  cases t <;> decide

lemma find?_kind (k : Action.Kind) :
    Dictionary.find? k.name (Action.Kind.all.map fun k => (k.name, k)) = some k := by
  cases k <;> decide

/-! ## Lists of a trigger -/

section Lists

variable {bound depth : Nat} {rest : List Char}

lemma startsItem_writeText (s : String) (rest : List Char) : StartsItem (writeText s ++ rest) :=
  ⟨_, _, writeText_append s rest, by decide, by decide⟩

/-- A list of texts that stand for something is read back. -/
lemma optional_listOf_writeTexts {α : Type} {item : (depth : Nat) → Reader α} {name : α → String}
    (hitem : ∀ x tail, item depth (writeText (name x) ++ tail) = .ok (x, tail)) (xs : List α)
    (hbound : (writeTexts (xs.map name)).length < bound) (rest : List Char) :
    optional (listOf bound (depth + 1) item) (writeTexts (xs.map name) ++ rest) =
      .ok (some xs, rest) := by
  rw [writeTexts, List.map_map] at hbound ⊢
  exact optional_bracket (listOf_bracket (fun x _ => startsItem_writeText (name x))
    (fun x _ => hitem x) hbound rest)

lemma readTexts?_writeTexts (xs : List String) (hbound : (writeTexts xs).length < bound)
    (rest : List Char) :
    readTexts? bound (depth + 1) (writeTexts xs ++ rest) = .ok (some xs, rest) := by
  have hid : writeTexts xs = writeTexts (xs.map id) := by rw [List.map_id]
  rw [hid] at hbound ⊢
  exact optional_listOf_writeTexts (textAs_writeText "a string") xs hbound rest

lemma readResourceTypes?_writeTexts (xs : List ResourceType)
    (hbound : (writeTexts (xs.map ResourceType.name)).length < bound) (rest : List Char) :
    readResourceTypes? bound (depth + 1) (writeTexts (xs.map ResourceType.name) ++ rest) =
      .ok (some xs, rest) :=
  optional_listOf_writeTexts (fun t => choice_writeText (find?_resourceType t) depth) xs hbound rest

lemma readLoadTypes?_writeTexts (xs : List LoadType)
    (hbound : (writeTexts (xs.map LoadType.name)).length < bound) (rest : List Char) :
    readLoadTypes? bound (depth + 1) (writeTexts (xs.map LoadType.name) ++ rest) =
      .ok (some xs, rest) :=
  optional_listOf_writeTexts (fun t => choice_writeText (find?_loadType t) depth) xs hbound rest

end Lists

/-! ## Triggers -/

namespace Trigger

/-- The members of a trigger, each with its written value. -/
def members (t : Trigger) : List (String × List Char) :=
  [("url-filter", writeText t.urlFilter)] ++
    [("url-filter-is-case-sensitive", writeBool t.caseSensitive)] ++
    (t.ifDomain.map fun xs => ("if-domain", writeTexts xs)).toList ++
    (t.unlessDomain.map fun xs => ("unless-domain", writeTexts xs)).toList ++
    (t.resourceType.map fun xs =>
      ("resource-type", writeTexts (xs.map ResourceType.name))).toList ++
    (t.loadType.map fun xs => ("load-type", writeTexts (xs.map LoadType.name))).toList ++
    (t.ifTopUrl.map fun xs => ("if-top-url", writeTexts xs)).toList ++
    (t.unlessTopUrl.map fun xs => ("unless-top-url", writeTexts xs)).toList

lemma writeList?_eq (name : String) (xs : Option (List String)) :
    writeList? name xs =
      ((xs.map fun xs => (name, writeTexts xs)).toList).map fun e => writeMember e.1 e.2 := by
  cases xs <;> rfl

lemma write_eq (t : Trigger) : t.write = writePairs t.members := by
  simp [write, writePairs, members, writeList?_eq, Function.comp_def]

/-- The fields that are read of a written trigger. -/
def fields (t : Trigger) : Fields where
  urlFilter := some t.urlFilter
  caseSensitive := some t.caseSensitive
  ifDomain := t.ifDomain.map some
  unlessDomain := t.unlessDomain.map some
  resourceType := t.resourceType.map some
  loadType := t.loadType.map some
  ifTopUrl := t.ifTopUrl.map some
  unlessTopUrl := t.unlessTopUrl.map some

lemma ofFields_fields (t : Trigger) : ofFields t.urlFilter t.fields = t := by
  have hjoin {β : Type} (x : Option β) : (x.map some).join = x := by cases x <;> rfl
  simp [ofFields, fields, hjoin]

lemma membersRead (t : Trigger) {bound : Nat} (depth : Nat)
    (hbound : (writePairs t.members).length < bound) :
    MembersRead (readMember bound (depth + 1)) valueBody {} t.members t.fields := by
  have hshort (name : String) {xs : List String} (h : (name, writeTexts xs) ∈ t.members) :
      (writeTexts xs).length < bound := (length_lt_length_writePairs h).trans hbound
  have hfilter : MembersRead (readMember bound (depth + 1)) valueBody {}
      [("url-filter", writeText t.urlFilter)] { urlFilter := some t.urlFilter } :=
    .field "url-filter" Fields.urlFilter (fun f x => { f with urlFilter := x })
      (fun _ _ => rfl) rfl (textAs_writeText _ t.urlFilter)
  exact hfilter
    |>.append (.field "url-filter-is-case-sensitive" Fields.caseSensitive
      (fun f x => { f with caseSensitive := x }) (fun _ _ => rfl) rfl
      (boolean_writeBool t.caseSensitive))
    |>.append (.field? "if-domain" Fields.ifDomain (fun f x => { f with ifDomain := x })
      (fun _ _ => rfl) rfl rfl t.ifDomain fun xs hxs =>
        readTexts?_writeTexts xs (hshort "if-domain" (by simp [members, hxs])))
    |>.append (.field? "unless-domain" Fields.unlessDomain (fun f x => { f with unlessDomain := x })
      (fun _ _ => rfl) rfl rfl t.unlessDomain fun xs hxs =>
        readTexts?_writeTexts xs (hshort "unless-domain" (by simp [members, hxs])))
    |>.append (.field? "resource-type" Fields.resourceType (fun f x => { f with resourceType := x })
      (fun _ _ => rfl) rfl rfl t.resourceType fun xs hxs =>
        readResourceTypes?_writeTexts xs (hshort "resource-type" (by simp [members, hxs])))
    |>.append (.field? "load-type" Fields.loadType (fun f x => { f with loadType := x })
      (fun _ _ => rfl) rfl rfl t.loadType fun xs hxs =>
        readLoadTypes?_writeTexts xs (hshort "load-type" (by simp [members, hxs])))
    |>.append (.field? "if-top-url" Fields.ifTopUrl (fun f x => { f with ifTopUrl := x })
      (fun _ _ => rfl) rfl rfl t.ifTopUrl fun xs hxs =>
        readTexts?_writeTexts xs (hshort "if-top-url" (by simp [members, hxs])))
    |>.append (.field? "unless-top-url" Fields.unlessTopUrl
      (fun f x => { f with unlessTopUrl := x })
      (fun _ _ => rfl) rfl rfl t.unlessTopUrl fun xs hxs =>
        readTexts?_writeTexts xs (hshort "unless-top-url" (by simp [members, hxs])))

/-- A trigger is read back. -/
lemma read_write {bound depth : Nat} (t : Trigger) (hbound : t.write.length < bound)
    (rest : List Char) : read bound (depth + 2) (t.write ++ rest) = .ok (t, rest) := by
  rw [write_eq] at hbound ⊢
  refine record_writePairs (t.membersRead depth hbound) hbound (fun cs rest hmembers => ?_) rest
  rw [readAsObject, hmembers]
  exact congrArg (fun t => Except.ok (t, rest)) t.ofFields_fields

end Trigger

/-! ## Actions -/

namespace Action

/-- What an action holds beside its type. -/
def entries : Action → List (String × Json)
  | .cssDisplayNone selector => [("selector", .text selector)]
  | _ => []

/-- The members of an action, each with its written value. -/
def members (a : Action) : List (String × List Char) :=
  ("type", writeText a.kindName) :: a.entries.map fun e => (e.1, e.2.write)

lemma write_eq (a : Action) : a.write = writePairs a.members := by
  cases a <;> simp [write, writePairs, members, entries, Json.write]

lemma readKind_writeText (k : Kind) (rest : List Char) :
    readKind (writeText k.name ++ rest) = .ok (k, rest) := by
  simp only [readKind, textAs_writeText, bind, Except.bind, variant, find?_kind, pure, Except.pure]

/-- The selector is gathered to be looked at later. -/
lemma readMember_selector {bound depth : Nat} (acc : Option Kind × List (String × Json))
    (selector : String) (tail : List Char) :
    readMember bound depth acc "selector" (valueBody ("selector", writeText selector) ++ tail) =
      .ok ((acc.1, ("selector", .text selector) :: acc.2), tail) := by
  have hcolon : readColon (valueBody ("selector", writeText selector) ++ tail) =
      .ok ((), writeText selector ++ tail) := readClosing_append isGap_nil (by decide) _
  obtain ⟨list, object, hvalue⟩ := readValue_eq_readValueWith bound depth
  rw [readMember, if_neg (by decide), hcolon, hvalue]
  simp only [bind, Except.bind, readValueWith_writeText]
  rfl

lemma membersRead (a : Action) (bound depth : Nat) :
    MembersRead (readMember bound depth) valueBody (none, []) a.members
      (some a.kind, a.entries) := by
  have htype : MembersRead (readMember bound depth) valueBody (none, [])
      [("type", writeText a.kindName)] (some a.kind, []) :=
    .field "type" Prod.fst (fun acc x => (x, acc.2)) (fun _ _ => rfl) rfl
      (readKind_writeText a.kind)
  cases a with
  | cssDisplayNone selector =>
      exact htype.append (.cons (fun tail _ => readMember_selector _ selector tail) .nil)
  | _ => exact htype

/-- An action is made of what was read of it. -/
lemma ofContent_entries (a : Action) : ofContent a.kind (.members a.entries.reverse) = .ok a := by
  cases a <;> rfl

/-- An action is read back. -/
lemma read_write {bound depth : Nat} (a : Action) (hbound : a.write.length < bound)
    (rest : List Char) : read bound (depth + 1) (a.write ++ rest) = .ok (a, rest) := by
  rw [write_eq] at hbound ⊢
  have hrecord : record "internally tagged enum Action" (depth + 1) (readAsList bound)
      (readAsObject bound) (writePairs a.members ++ rest) =
        .ok ((a.kind, .members a.entries.reverse), rest) := by
    refine record_writePairs (a.membersRead bound depth) hbound (fun cs rest hmembers => ?_) rest
    rw [readAsObject, hmembers]
    rfl
  rw [read, hrecord]
  simp only [bind, Except.bind, ofContent_entries]
  rfl

end Action

/-! ## Rules -/

namespace Rule

/-- The members of a rule, each with its written value. -/
def members (r : Rule) : List (String × List Char) :=
  [("trigger", r.trigger.write)] ++ [("action", r.action.write)]

lemma membersRead (r : Rule) {bound : Nat} (depth : Nat)
    (hbound : (writePairs r.members).length < bound) :
    MembersRead (readMember bound (depth + 2)) valueBody (none, none) r.members
      (some r.trigger, some r.action) := by
  have hshort {e : String × List Char} (h : e ∈ r.members) : e.2.length < bound :=
    (length_lt_length_writePairs h).trans hbound
  have htrigger : MembersRead (readMember bound (depth + 2)) valueBody (none, none)
      [("trigger", r.trigger.write)] (some r.trigger, none) :=
    .field "trigger" Prod.fst (fun acc x => (x, acc.2)) (fun _ _ => rfl) rfl
      (r.trigger.read_write (hshort (e := ("trigger", r.trigger.write)) (by simp [members])))
  exact htrigger.append (.field "action" Prod.snd (fun acc x => (acc.1, x)) (fun _ _ => rfl) rfl
    (r.action.read_write (hshort (e := ("action", r.action.write)) (by simp [members]))))

/-- A rule is read back. -/
lemma read_write {bound depth : Nat} (r : Rule) (hbound : r.write.length < bound)
    (rest : List Char) : read bound (depth + 3) (r.write ++ rest) = .ok (r, rest) := by
  refine record_writePairs (r.membersRead depth hbound) hbound (fun cs rest hmembers => ?_) rest
  rw [readAsObject, hmembers]
  rfl

lemma startsItem_write (r : Rule) (rest : List Char) : StartsItem (r.write ++ rest) :=
  ⟨'\x7b', _, rfl, by decide, by decide⟩

/-- A rule list is read back from its document. -/
theorem readAll_writeAll (rules : List Rule) : readAll (writeAll rules) = .ok rules := by
  refine readWhole_ofList ?_
  have hread : ∀ bound, (bracket (rules.map write)).length < bound →
      listOf bound maxDepth (read bound) (bracket (rules.map write) ++ []) = .ok (rules, []) := by
    intro bound hbound
    refine listOf_bracket (fun r _ => r.startsItem_write) (fun r hr => r.read_write ?_) hbound []
    exact (length_lt_length_between_of_mem '[' ']' (List.mem_map_of_mem hr)).trans hbound
  rw [List.append_nil] at hread
  exact hread _ (Nat.lt_succ_self _)

/-- **Documents.**  A rule list is read back from its document, so different lists have different
documents; and a list that was read of any text is read again from the document that is written of
it. -/
theorem documents_round_trip :
    (∀ rules, readAll (writeAll rules) = .ok rules) ∧ Function.Injective writeAll ∧
      ∀ text, (readAll text >>= fun rules => readAll (writeAll rules)) = readAll text := by
  refine ⟨readAll_writeAll, fun rules others hsame => ?_, fun text => ?_⟩
  · have hread := readAll_writeAll rules
    rw [hsame, readAll_writeAll] at hread
    exact (Except.ok.inj hread).symm
  · cases readAll text with
    | error fault => rfl
    | ok rules => exact readAll_writeAll rules

/-- A text that is laid out in another way: the trigger is written as a list of its fields. -/
example : readAll "[\x7b \"action\": [\"css-display-none\", \".ad\"],
    \"trigger\": [\"a\", false, []] \x7d]" =
      .ok [⟨{ urlFilter := "a", ifDomain := some [] }, .cssDisplayNone ".ad"⟩] := by
  cbv

end Rule

end TrackerGuard
