import Suite.Json.Choice
import Suite.Proofs.Json.Yields

/-!
# Choices and texts that must please

A choice is read from the name that it is written as, if no other value comes first under that name.
A text that must please is read where it does. A tagged value is read from the name and from what
stands beside it.

## Key results

- `Choice.recovers_codec`, `accepted_ofValue`: names, and texts that must please
- `Tagged.decode_object`: an object whose first member is the name
-/

namespace Suite.Json

variable {α : Type} {depth room : Nat}

/-- A text that pleases is read. -/
theorem Decoder.accepted_ofValue {expected s : String} {accept : String → Except String α} {x : α}
    (h : accept s = .ok x) :
    Decoder.accepted expected accept room (Source.ofValue (.string s)) = .ok x := by
  have htext : Decoder.text expected room (Source.ofValue (.string s)) = .ok s := rfl
  rw [accepted, htext, Except.ok_bind, h]
  rfl

namespace Choice

variable [DecidableEq α] {c : Choice α}

/-- Each value comes first under its name. -/
def Distinct (c : Choice α) : Prop := ∀ x, c.variants.lookup (c.name x) = some x

/-- The name of a choice is read as the choice. -/
private theorem ofName_name (h : c.Distinct) (x : α) :
    c.ofName (.text (.text (c.name x))) = .ok x := by
  change c.find (c.name x) = _
  rw [find, h x]

/-- A written choice is read again. -/
theorem recovers_codec (h : c.Distinct) {x : α} :
    c.codec.Recovers depth x := fun _ => ofName_name h x

end Choice

namespace Tagged

variable {c : Choice α} {field expected : String} {ms : List (String × Value)}

/-- Members beside the name are kept as they are. -/
private theorem readAll_ofMembers (tag : Option α)
    (h : ∀ m ∈ ms, m.1 ≠ field ∧ Decoder.value room (Source.ofValue m.2) = .ok m.2) :
    readAll c field room tag (Source.ofMembers ms) = .ok (tag, ms) := by
  -- By induction on the members: none of them is the tag, so it stays as it was read.
  induction ms with
  | nil => rfl
  | cons m rest ih =>
    obtain ⟨⟨hname, hvalue⟩, hrest⟩ := List.forall_mem_cons.1 h
    have hkey : Source.name (.text (.text m.1)) = .ok m.1 := rfl
    rw [Source.ofMembers, readAll, hkey, Except.ok_bind, if_neg hname, hvalue, Except.ok_bind,
      ih hrest]
    rfl

/-- An object that begins with the name is read as the name and all its other members. -/
theorem decode_object [DecidableEq α] (hc : c.Distinct) (x : α)
    (h : ∀ m ∈ ms, m.1 ≠ field ∧ Decoder.value room (Source.ofValue m.2) = .ok m.2) :
    decode c field expected (room + 1)
      (Source.ofValue (.object ((field, .string (c.name x)) :: ms))) = .ok ⟨x, .members ms⟩ := by
  have hkey : Source.name (.text (.text field)) = .ok field := rfl
  have hall : readAll c field room none
      (Source.ofMembers ((field, .string (c.name x)) :: ms)) = .ok (some x, ms) := by
    rw [Source.ofMembers, readAll, hkey, Except.ok_bind, if_pos rfl, Source.ofValue,
      Choice.ofName_name hc]
    exact readAll_ofMembers (some x) h
  rw [Source.ofValue, decode, enter, hall]
  rfl

end Tagged

end Suite.Json
