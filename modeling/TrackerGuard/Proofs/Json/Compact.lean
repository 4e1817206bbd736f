import Mathlib
import TrackerGuard.Proofs.Json.Layout

/-!
# The compact layout reads back

Documents of a fixed shape are written without blanks and read by readers that know what to expect.
Each such reader takes what was written for it off the front of a text and leaves what follows: a
text, a truth value, a name out of a choice, a list, the members of a record.

As in the open layout, the bound of the readers is above the number of items and members, because
what is written of a list is longer than the list.
-/

namespace TrackerGuard.Json

/-! ## The text of lists and records -/

/-- What stands between brackets or braces is longer than the list. -/
lemma length_lt_length_between (opening closing : Char) (items : List (List Char)) :
    items.length < (opening :: [','].intercalate items ++ [closing]).length := by
  have hle := length_le_length_intercalate items
  simp only [List.length_append, List.length_cons, List.length_nil]
  omega

lemma length_lt_length_between_of_mem (opening closing : Char) {x : List Char}
    {items : List (List Char)} (h : x ∈ items) :
    x.length < (opening :: [','].intercalate items ++ [closing]).length := by
  have hle := length_le_length_intercalate_of_mem h
  simp only [List.length_append, List.length_cons, List.length_nil]
  omega

/-! ## Values without an inside -/

lemma textAs_writeText (wanted s : String) (rest : List Char) :
    textAs wanted (writeText s ++ rest) = .ok (s, rest) := by
  rw [textAs, skipSpace_writeText]
  exact readText_flatMap s rest

lemma boolean_writeBool (b : Bool) (rest : List Char) :
    boolean (writeBool b ++ rest) = .ok (b, rest) := by
  cases b <;> rfl

/-- A name is read as what it stands for. -/
lemma choice_writeText {α : Type} {known : List (String × α)} {name : String} {x : α}
    (h : Dictionary.find? name known = some x) (depth : Nat) (rest : List Char) :
    choice depth known (writeText name ++ rest) = .ok (x, rest) := by
  rw [choice, skipSpace_writeText]
  simp [readText_flatMap, variant, h, bind, Except.bind, pure, Except.pure]

/-! ## Lists -/

section Lists

variable {α : Type} {item : Reader α} {write : α → List Char} {xs : List α} {bound : Nat}

/-- A list is read back when its items are. -/
lemma listOf_bracket {depth : Nat} {item : (depth : Nat) → Reader α}
    (hstart : ∀ x ∈ xs, ∀ tail, StartsItem (write x ++ tail))
    (hitem : ∀ x ∈ xs, ∀ tail, item depth (write x ++ tail) = .ok (x, tail))
    (hbound : (bracket (xs.map write)).length < bound) (rest : List Char) :
    listOf bound (depth + 1) item (bracket (xs.map write) ++ rest) = .ok (xs, rest) := by
  have hcount : xs.length < bound := by
    have hlt : (xs.map write).length < (bracket (xs.map write)).length :=
      length_lt_length_between '[' ']' (xs.map write)
    rw [List.length_map] at hlt
    exact hlt.trans hbound
  cases xs with
  | nil => exact readItems_nil hcount rest
  | cons x xs =>
      have htext : bracket ((x :: xs).map write) ++ rest =
          '[' :: ([] ++ (write x ++ itemsText write [] [] xs rest)) := by
        rw [bracket, List.map_cons, intercalate_cons_eq_flatMap, List.flatMap_map, itemsText]
        simp
      rw [htext]
      exact readItems_itemsText isGap_nil isGap_nil hstart (fun y hy tail _ => hitem y hy tail)
        hcount rest

lemma optional_bracket {value : Reader α} {items : List (List Char)} {rest : List Char} {x : α}
    (h : value (bracket items ++ rest) = .ok (x, rest)) :
    optional value (bracket items ++ rest) = .ok (some x, rest) := by
  have hmap : optional value (bracket items ++ rest) =
      (value (bracket items ++ rest)).map fun read => (some read.1, read.2) := rfl
  rw [hmap, h]
  rfl

end Lists

/-! ## Records -/

section Records

variable {α σ : Type}

/-- What stands behind the name of a member that is given with its written value. -/
def valueBody (e : String × List Char) : List Char := ':' :: e.2

/-- Members that are given with their written values. -/
def writePairs (members : List (String × List Char)) : List Char :=
  brace (members.map fun e => writeMember e.1 e.2)

lemma length_lt_length_writePairs {members : List (String × List Char)} {e : String × List Char}
    (h : e ∈ members) : e.2.length < (writePairs members).length := by
  have hlt : (writeMember e.1 e.2).length < (writePairs members).length :=
    length_lt_length_between_of_mem '\x7b' '\x7d' (List.mem_map_of_mem h)
  simp only [writeMember, List.length_append, List.length_cons] at hlt
  omega

/-- The members of a record are read back one after another. -/
lemma readMembers_writePairs {member : σ → String → Reader σ} {start result : σ}
    {members : List (String × List Char)}
    (hread : MembersRead member valueBody start members result) {bound : Nat}
    (hbound : (writePairs members).length < bound) (rest : List Char) :
    ∃ inside, writePairs members ++ rest = '\x7b' :: inside ∧
      readMembers bound member start inside = .ok (result, rest) := by
  have hcount : members.length < bound := by
    have hlt : (members.map fun e => writeMember e.1 e.2).length < (writePairs members).length :=
      length_lt_length_between '\x7b' '\x7d' _
    rw [List.length_map] at hlt
    exact hlt.trans hbound
  cases members with
  | nil =>
      cases hread
      exact ⟨'\x7d' :: rest, rfl, readMembers_nil hcount start rest⟩
  | cons e members =>
      refine ⟨_, ?_, readMembers_membersText isGap_nil isGap_nil hread hcount rest⟩
      rw [writePairs, brace, List.map_cons, intercalate_cons_eq_flatMap, List.flatMap_map,
        membersText]
      simp [writeMember, valueBody]

/-- A record is read back that is made of what its members come to. -/
lemma record_writePairs {wanted : String} {depth bound : Nat} {fromList fromObject : Nat → Reader α}
    {member : σ → String → Reader σ} {start result : σ} {x : α}
    {members : List (String × List Char)}
    (hread : MembersRead member valueBody start members result)
    (hbound : (writePairs members).length < bound)
    (hobject : ∀ cs rest, readMembers bound member start cs = .ok (result, rest) →
      fromObject depth cs = .ok (x, rest)) (rest : List Char) :
    record wanted (depth + 1) fromList fromObject (writePairs members ++ rest) = .ok (x, rest) := by
  obtain ⟨inside, htext, hmembers⟩ := readMembers_writePairs hread hbound rest
  rw [htext]
  exact hobject inside rest hmembers

/-- A field that has not been read is read from what stands behind its name. -/
lemma field_valueBody {name : String} {value : Reader α} {text tail : List Char} {x : α}
    (h : value (text ++ tail) = .ok (x, tail)) :
    field name none value (valueBody (name, text) ++ tail) = .ok (some x, tail) := by
  have hcolon : readColon (valueBody (name, text) ++ tail) = .ok ((), text ++ tail) :=
    readClosing_append isGap_nil (by decide) _
  rw [field, if_neg (by simp), hcolon]
  simp only [bind, Except.bind, h]
  rfl

/-- The member with a name is a field of the record: it is read by `value`, once, into its place,
which is given by `get` and `set`. -/
def ReadsField (member : σ → String → Reader σ) (name : String) (value : Reader α)
    (get : σ → Option α) (set : σ → Option α → σ) : Prop :=
  ∀ acc cs, member acc name cs =
    (field name (get acc) value cs >>= fun (x, rest) => pure (set acc x, rest))

namespace MembersRead

variable {member : σ → String → Reader σ} {value : Reader α} {acc : σ} (name : String)
  (get : σ → Option α) (set : σ → Option α → σ)

/-- A field is read into its place when that is empty. -/
lemma field (hmember : ReadsField member name value get set) (hget : get acc = none)
    {text : List Char} {x : α} (hvalue : ∀ tail, value (text ++ tail) = .ok (x, tail)) :
    MembersRead member valueBody acc [(name, text)] (set acc (some x)) := by
  refine .cons (fun tail _ => ?_) .nil
  rw [hmember, hget, field_valueBody (hvalue tail)]
  rfl

/-- A field that may be absent is read into its place, which stays empty when it is. -/
lemma field? {β : Type} (hmember : ReadsField member name value get set) (hget : get acc = none)
    (hset : set acc none = acc) (y : Option β) {write : β → List Char} {asRead : β → α}
    (hvalue : ∀ b, y = some b → ∀ tail, value (write b ++ tail) = .ok (asRead b, tail)) :
    MembersRead member valueBody acc (y.map fun b => (name, write b)).toList
      (set acc (y.map asRead)) := by
  cases y with
  | none =>
      rw [Option.map_none, Option.map_none, hset]
      exact .nil
  | some b => exact .field name get set hmember hget (hvalue b rfl)

end MembersRead

end Records

/-! ## Documents -/

/-- A document is read back whose reader takes all of it. -/
lemma readWhole_ofList {α : Type} {reader : (bound : Nat) → Reader α} {text : List Char} {x : α}
    (h : reader (text.length + 1) text = .ok (x, [])) :
    readWhole reader (String.ofList text) = .ok x := by
  simp only [readWhole, String.toList_ofList, h]
  rfl

end TrackerGuard.Json
