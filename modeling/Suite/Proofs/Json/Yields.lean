import Mathlib.Data.List.Forall2
import Suite.Json.Decoder
import Suite.Proofs.Failing

/-!
# What decoders make of values

Decoders read texts; on the text of a JSON value they can only fail for its shape. `Yields` relates
what a decoder gives to what it should give: a value, or the error that some field is missing. It is
kept by every way in which decoders are put together, so a decoder is followed part by part.

## Key results

- `Yields.bind`: steps one after the other
- `yields_list`, `table_eq_ok`: arrays and tables, by their items and members
- `Codec.Recovers`: values that a codec reads from what it writes
-/

namespace Suite

namespace Json

/-- The value a decoder has for a JSON value. -/
def Decoder.ofValue {α : Type} (d : Decoder α) (v : Value) : Except Error α :=
  d.run ⟨Source.ofValue v, false⟩

/-- A value is read as deep as values may lie in each other. -/
theorem Decoder.ofValue_eq {α : Type} (d : Decoder α) (v : Value) :
    d.ofValue v = d maxNesting (Source.ofValue v) := by
  unfold ofValue run
  cases d maxNesting (Source.ofValue v) <;> rfl

namespace Source

/-- A value that nobody asks for does not matter. -/
theorem skip_ofValue (v : Value) : (ofValue v).skip = .ok () := by
  rw [skip, skipFault?_ofValue]
  rfl

end Source

/-! ### Values, or fields that are missing -/

/-- The result is the value given, or the error that a field is missing if there is none. -/
def Yields {α : Type} (r : Except Error α) : Option α → Prop
  | some x => r = .ok x
  | none => ∃ name, r = .error (.mismatch (.missingField name))

section Yields

variable {α β : Type} {r : Except Error α} {o : Option α}

@[simp] theorem yields_some {x : α} : Yields r (some x) ↔ r = .ok x := Iff.rfl

/-- Steps one after the other yield what the steps yield. -/
theorem Yields.bind {f : α → Except Error β} {g : α → Option β} (h : Yields r o)
    (hf : ∀ x, Yields (f x) (g x)) : Yields (r >>= f) (o.bind g) := by
  cases o with
  | some x =>
    obtain rfl := yields_some.1 h
    exact hf x
  | none =>
    obtain ⟨name, rfl⟩ := h
    exact ⟨name, rfl⟩

/-- A mapped reading yields the mapped value. -/
theorem Yields.map {f : α → β} (h : Yields r o) : Yields (r.map f) (o.map f) := by
  cases o with
  | some x =>
    obtain rfl := yields_some.1 h
    rfl
  | none =>
    obtain ⟨name, rfl⟩ := h
    exact ⟨name, rfl⟩

end Yields

/-! ### Arrays -/

section Arrays

variable {α β : Type} {d : Decoder β} {room : Nat}

/-- Items are read one after the other. -/
private theorem yields_mapM {f : α → Option β} {vs : List Value} {xs : List α}
    (h : List.Forall₂ (fun v x => Yields (d room (Source.ofValue v)) (f x)) vs xs) :
    Yields ((Source.ofItems vs).mapM (d room)) (xs.mapM f) := by
  induction h with
  | nil => rfl
  | cons hhead _ ih =>
    rw [Source.ofItems, List.mapM_cons, List.mapM_cons]
    exact hhead.bind fun x => ih.bind fun rest => rfl

/-- An array is read as the list of what its items are read as. -/
theorem yields_list {f : α → Option β} {vs : List Value} {xs : List α}
    (h : List.Forall₂ (fun v x => Yields (d room (Source.ofValue v)) (f x)) vs xs) :
    Yields (d.list (room + 1) (Source.ofValue (.array vs))) (xs.mapM f) := by
  have hitems := (yields_mapM h).bind (f := fun xs => .ok xs) (g := some) fun _ => rfl
  rw [Option.bind_fun_some] at hitems
  exact hitems

end Arrays

/-! ### Tables -/

section Tables

variable {β : Type} {d : Decoder β} {room : Nat}

/-- Members are put into a table one after the other. -/
private theorem entries_eq_ok {ms : List (String × Value)} {xs : List (String × β)}
    (h : List.Forall₂ (fun m x => m.1 = x.1 ∧ d room (Source.ofValue m.2) = .ok x.2) ms xs)
    (t : Table β) : d.entries room t (Source.ofMembers ms) = .ok (xs.foldl Keyed.insert t) := by
  -- By induction on the pairs: each member is read and put into the table that is there so far.
  induction h generalizing t with
  | nil => rfl
  | @cons m x _ _ hhead _ ih =>
    obtain ⟨hname, hvalue⟩ := hhead
    have hkey : Source.name (.text (.text m.1)) = .ok x.1 := hname ▸ rfl
    rw [Source.ofMembers, Decoder.entries, hkey, Except.ok_bind, hvalue, Except.ok_bind, ih]
    rfl

/-- An object is read as a table of what its members are read as, whatever their order. -/
theorem table_eq_ok {ms : List (String × Value)} {xs : List (String × β)} {t : Table β}
    (h : List.Forall₂ (fun m x => m.1 = x.1 ∧ d room (Source.ofValue m.2) = .ok x.2) ms xs)
    (hperm : xs.Perm t.toList) :
    d.table (room + 1) (Source.ofValue (.object ms)) = .ok t := by
  have hentries := entries_eq_ok h Keyed.empty
  change (d.entries room Keyed.empty (Source.ofMembers ms) >>= fun t => .ok t) = _
  rw [hentries, Except.ok_bind]
  exact congrArg _ (Keyed.ofList_eq_of_perm hperm)

end Tables

/-! ### Codecs -/

namespace Codec

variable {α : Type} {depth : Nat}

/-- The codec reads a value from what it writes for it, where there is room for `depth` arrays and
objects inside each other. -/
def Recovers (c : Codec α) (depth : Nat) (x : α) : Prop :=
  ∀ room, c.decode (room + depth) (Source.ofValue (c.encode x)) = .ok x

/-- A written text is read again. -/
theorem recovers_text {s : String} : text.Recovers depth s := fun _ => rfl

/-- A written path is read again. -/
theorem recovers_path {s : String} : path.Recovers depth s := fun _ => rfl

/-- A written truth value is read again. -/
theorem recovers_bool {b : Bool} : bool.Recovers depth b := fun _ => rfl

/-- A written number is read again. -/
theorem recovers_natural {n : Nat} : natural.Recovers depth n := by
  intro room
  simp [natural, Value.natural, Source.ofValue, Decoder.natural]

/-- A value that is not null is read as one that is there. -/
private theorem optional_of_ne_null {d : Decoder α} {room : Nat} {v : Value} (h : v ≠ .null) :
    d.optional room (Source.ofValue v) = (d room (Source.ofValue v)).map some := by
  cases v with
  | null => exact absurd rfl h
  | _ => rfl

/-- A value that may be missing is recovered if the codec never writes null for one that is
there. -/
theorem recovers_optional {c : Codec α} {o : Option α} (h : ∀ x, o = some x → c.Recovers depth x)
    (hnull : ∀ x, c.encode x ≠ .null) : c.optional.Recovers depth o := by
  intro room
  cases o with
  | none => rfl
  | some x =>
    change c.decode.optional (room + depth) (Source.ofValue (c.encode x)) = _
    rw [optional_of_ne_null (hnull x), h x rfl room]
    rfl

/-- A value is recovered if the value that is written for it is, and leads back to it. -/
theorem recovers_via {β : Type} {c : Codec α} {back : β → α} {of : α → β} {x : β}
    (h : c.Recovers depth (back x)) (hof : of (back x) = x) :
    (c.via back of).Recovers depth x := by
  intro room
  change (c.decode (room + depth) (Source.ofValue (c.encode (back x)))).map of = _
  rw [h room, Except.ok_map, hof]

/-- A list is recovered if each of its items is. -/
theorem recovers_list {c : Codec α} {xs : List α} (h : ∀ x ∈ xs, c.Recovers depth x) :
    c.list.Recovers (depth + 1) xs := by
  intro room
  have hitems : List.Forall₂
      (fun v x => Yields (c.decode (room + depth) (Source.ofValue v)) (some x))
      (xs.map c.encode) xs :=
    List.forall₂_map_left_iff.2 (List.forall₂_same.2 fun x hx => h x hx room)
  have hlist := yields_list hitems
  have hall : xs.mapM some = some xs := by
    simpa using List.mapM_pure (m := Option) (l := xs) (f := id)
  rwa [hall] at hlist

/-- A table is recovered if each of its values is. -/
theorem recovers_table {c : Codec α} {t : Table α} (h : ∀ x ∈ t, c.Recovers depth x.2) :
    c.table.Recovers (depth + 1) t := by
  intro room
  have hmembers : List.Forall₂
      (fun m x => m.1 = x.1 ∧ c.decode (room + depth) (Source.ofValue m.2) = .ok x.2)
      (t.toList.map fun x => (x.1, c.encode x.2)) t.toList :=
    List.forall₂_map_left_iff.2 (List.forall₂_same.2 fun x hx => ⟨rfl, h x hx room⟩)
  exact table_eq_ok hmembers (.refl _)

end Codec

end Json

end Suite
