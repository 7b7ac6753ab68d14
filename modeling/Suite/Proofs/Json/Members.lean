import Suite.Json.Record
import Suite.Proofs.Json.Yields

/-!
# Records with some of their members

A record is read from an object that need not hold all its fields. Here an object keeps some members
of a written record, in any order and with others beside them that name no field; what it is read as
is told field by field.

## Key results

- `readAll_cons_of_forall_ne`: the first field and the others are read apart from each other
- `yields_decode`: what such an object is read as, field by field
- `yields_of_values?`, `yields_of_lacks`: the same for records whose fields hold records themselves
- `yields_own`: what is read from some members of a written record
- `recovers_via`: what is read from all of them
-/

namespace Suite.Json

/-- The members of an object. -/
def Value.members : Value → List (String × Value)
  | .object ms => ms
  | _ => []

/-- The object with another value under a name. -/
def Value.replace (w : Value) (name : String) (v : Value) : Value :=
  .object (w.members.map fun m => if m.1 = name then (m.1, v) else m)

/-- For each type a value and what is read from it, unless it lacks a field. -/
def Readings : List Type → Type
  | [] => Unit
  | α :: αs => (Value × Option α) × Readings αs

/-- One slot more. -/
def Slots.cons {α : Type} {αs : List Type} (slot : Option α) (slots : Slots αs) :
    Slots (α :: αs) := (slot, slots)

/-- One value more. -/
def Row.cons {α : Type} {αs : List Type} (x : α) (row : Row αs) : Row (α :: αs) := (x, row)

/-- The value of the field if it is picked or has no default, else the default. -/
def Field.pick {α : Type} (keep : String → Bool) (f : Field α) (x : α) : α :=
  match f.absent? with
  | some default => if keep f.name then x else default
  | none => x

namespace Fields

/-- The names of the fields. -/
def names {αs : List Type} : Fields αs → List String
  | nil => []
  | cons head tail => head.name :: tail.names

/-- The value is an object with those members of the object `w` that `keep` picks, in any order. All
other members of it have names of no field. -/
def Keeps {αs : List Type} (fs : Fields αs) (keep : String → Bool) (w v : Value) : Prop :=
  ∃ ms extra, v = .object ms ∧ ms.Perm (w.members.filter (fun m => keep m.1) ++ extra) ∧
    ∀ m ∈ extra, m.1 ∉ fs.names

/-- The members that hold the values. -/
def members {αs : List Type} : Fields αs → Readings αs → List (String × Value)
  | nil, _ => []
  | cons head tail, ((v, _), rs) => (head.name, v) :: tail.members rs

/-- The codecs of the picked fields read from the values what they should. -/
def Read {αs : List Type} (keep : String → Bool) (room : Nat) : Fields αs → Readings αs → Prop
  | nil, _ => True
  | cons head tail, ((v, o), rs) =>
    (keep head.name = true → Yields (head.codec.decode room (Source.ofValue v)) o) ∧
      tail.Read keep room rs

/-- The values that a record is written with, each read as it was. -/
def own {αs : List Type} : (fs : Fields αs) → Row αs → Readings αs
  | nil, _ => ()
  | cons head tail, (x, row) => ((head.codec.encode x, some x), tail.own row)

/-- The codecs of all fields read the values of a record from what they write for them. -/
def Recovers {αs : List Type} (depth : Nat) : Fields αs → Row αs → Prop
  | nil, _ => True
  | cons head tail, (x, row) => head.codec.Recovers depth x ∧ tail.Recovers depth row

/-- The slots that the picked members fill. -/
def slots? {αs : List Type} (keep : String → Bool) : Fields αs → Readings αs → Option (Slots αs)
  | nil, _ => some ()
  | cons head tail, ((_, o), rs) =>
    (if keep head.name then o.map some else some none).bind fun slot =>
      (tail.slots? keep rs).map (Slots.cons slot)

/-- The record with what is read from the picked members, and with the defaults of all other fields
if they have any. -/
def row? {αs : List Type} (keep : String → Bool) : Fields αs → Readings αs → Option (Row αs)
  | nil, _ => some ()
  | cons head tail, ((_, o), rs) =>
    (if keep head.name then o else head.absent?).bind fun x =>
      (tail.row? keep rs).map (Row.cons x)

/-- The record for filled slots, unless a slot that has no default is empty. -/
def fill? {αs : List Type} : Fields αs → Slots αs → Option (Row αs)
  | nil, _ => some ()
  | cons head tail, (slot, slots) =>
    (slot.or head.absent?).bind fun x => (tail.fill? slots).map (Row.cons x)

variable {α : Type} {αs : List Type} {head : Field α} {tail fs : Fields αs} {room : Nat}
  {slot : Option α} {slots : Slots αs} {ms xs ys : List (String × Value)}

/-! ### One member after the other -/

/-- Members are read one after the other. -/
private theorem readAll_cons (slots : Slots αs) (m : String × Value) :
    fs.readAll room slots (Source.ofMembers (m :: ms)) =
      fs.read room m.1 (Source.ofValue m.2) slots >>= fun slots =>
        fs.readAll room slots (Source.ofMembers ms) := rfl

/-- Members are read on from the slots that those before have filled. -/
private theorem readAll_append (slots : Slots αs) :
    fs.readAll room slots (Source.ofMembers (xs ++ ys)) =
      fs.readAll room slots (Source.ofMembers xs) >>= fun slots =>
        fs.readAll room slots (Source.ofMembers ys) := by
  -- By induction on the first members: the others are read into what these have left.
  induction xs generalizing slots with
  | nil => rfl
  | cons m rest ih =>
    rw [List.cons_append, readAll_cons, readAll_cons]
    cases fs.read room m.1 (Source.ofValue m.2) slots with
    | error e => rfl
    | ok slots => exact ih slots

/-- Where there is no field, members are skipped. -/
private theorem readAll_unknown (slots : Slots []) (ms : List (String × Value)) :
    nil.readAll room slots (Source.ofMembers ms) = .ok () := by
  induction ms generalizing slots with
  | nil => rfl
  | cons m rest ih =>
    rw [readAll_cons, read, Source.skip_ofValue]
    exact ih ()

/-- A member of another name passes the first field by. -/
private theorem read_cons_of_ne {name : String} {s : Source} (h : name ≠ head.name) :
    (cons head tail).read room name s (.cons slot slots) =
      (tail.read room name s slots).map (Slots.cons slot) := if_neg h

/-- A member of its name fills the first field. -/
private theorem read_cons_self {s : Source} :
    (cons head tail).read room head.name s (.cons none slots) =
      (head.codec.decode room s).map fun x => .cons (some x) slots := if_pos rfl

/-- Members of other names pass the first field by. -/
theorem readAll_cons_of_forall_ne (h : ∀ m ∈ ms, m.1 ≠ head.name) :
    (cons head tail).readAll room (.cons slot slots) (Source.ofMembers ms) =
      (tail.readAll room slots (Source.ofMembers ms)).map (Slots.cons slot) := by
  -- By induction on the members: each of them is left to the other fields.
  induction ms generalizing slots with
  | nil => rfl
  | cons m rest ih =>
    obtain ⟨hm, hrest⟩ := List.forall_mem_cons.1 h
    rw [readAll_cons, readAll_cons, read_cons_of_ne hm]
    cases tail.read room m.1 (Source.ofValue m.2) slots with
    | error e => rfl
    | ok slots => exact ih hrest

/-- A member of the first field fills its slot, and the members around it pass it by. -/
private theorem yields_readAll_cons {v : Value} {o : Option α} {os : Option (Slots αs)}
    (hxs : ∀ m ∈ xs, m.1 ≠ head.name) (hys : ∀ m ∈ ys, m.1 ≠ head.name)
    (hhead : Yields (head.codec.decode room (Source.ofValue v)) o)
    (htail : Yields (tail.readAll room slots (Source.ofMembers (xs ++ ys))) os) :
    Yields
      ((cons head tail).readAll room (.cons none slots)
        (Source.ofMembers (xs ++ (head.name, v) :: ys)))
      (o.bind fun x => os.map (Slots.cons (some x))) := by
  -- The members in front of the one for the head are none of its own.
  rw [readAll_append, readAll_cons_of_forall_ne hxs]
  rw [readAll_append] at htail
  cases hfront : tail.readAll room slots (Source.ofMembers xs) with
  | error e =>
    -- The members in front lack a field, so nothing else is read.
    rw [hfront] at htail
    cases os with
    | some _ => cases htail
    | none =>
      obtain ⟨name, hname⟩ := htail
      obtain rfl : e = .mismatch (.missingField name) := Except.error.inj hname
      cases o <;> exact ⟨name, rfl⟩
  | ok slots₁ =>
    rw [hfront, Except.ok_bind] at htail
    rw [Except.ok_map, Except.ok_bind, readAll_cons, read_cons_self]
    cases o with
    | none =>
      obtain ⟨name, hname⟩ := hhead
      exact ⟨name, by rw [hname]; rfl⟩
    | some x =>
      rw [yields_some.1 hhead, Except.ok_map, Except.ok_bind, readAll_cons_of_forall_ne hys]
      exact htail.map

/-- A slot that is empty and has no default is a field that is missing. -/
private theorem yields_fill (fs : Fields αs) (slots : Slots αs) :
    Yields (fs.fill slots) (fs.fill? slots) := by
  induction fs with
  | nil => rfl
  | cons head tail ih =>
    obtain ⟨slot, slots⟩ := slots
    rw [fill, fill?]
    -- A field that was not read and has no value of its own is the one that is missing.
    cases slot.or head.absent? with
    | some x => exact (ih slots).map
    | none => exact ⟨head.name, rfl⟩

/-! ### Objects -/

section Objects

variable {keep : String → Bool} {readings : Readings αs}

/-- Written members have the names of fields. -/
private theorem name_mem_of_mem_members {m : String × Value} (h : m ∈ fs.members readings) :
    m.1 ∈ fs.names := by
  induction fs with
  | nil => cases h
  | cons head tail ih =>
    rcases List.mem_cons.1 h with rfl | h
    · exact List.mem_cons_self
    · exact List.mem_cons_of_mem _ (ih h)

/-- The value of a picked field fills its slot. -/
private theorem slots?_of_keep {v : Value} {o : Option α} {rs : Readings αs}
    (h : keep head.name = true) :
    (cons head tail).slots? keep ((v, o), rs) =
      o.bind fun x => (tail.slots? keep rs).map (Slots.cons (some x)) := by
  rw [slots?, if_pos h, Option.bind_map]
  rfl

/-- The slot of any other field stays empty. -/
private theorem slots?_of_not_keep {v : Value} {o : Option α} {rs : Readings αs}
    (h : ¬keep head.name = true) :
    (cons head tail).slots? keep ((v, o), rs) = (tail.slots? keep rs).map (Slots.cons none) := by
  rw [slots?, if_neg h, Option.bind_some]

/-- The picked members of an object fill the slots of their fields, in any order. -/
private theorem yields_readAll (hnodup : fs.names.Nodup) (hread : fs.Read keep room readings)
    (hperm : ms.Perm ((fs.members readings).filter (fun m => keep m.1) ++ xs))
    (hxs : ∀ m ∈ xs, m.1 ∉ fs.names) :
    Yields (fs.readAll room fs.unread (Source.ofMembers ms)) (fs.slots? keep readings) := by
  induction fs generalizing ms with
  | nil => exact readAll_unknown _ ms
  | @cons α αs head tail ih =>
    obtain ⟨⟨v, o⟩, rs⟩ := readings
    obtain ⟨hhead, htail⟩ := hread
    obtain ⟨hnew, hnodup⟩ := List.nodup_cons.1 hnodup
    have hxsTail : ∀ m ∈ xs, m.1 ∉ tail.names := fun m hm hname =>
      hxs m hm (List.mem_cons_of_mem _ hname)
    -- All members but the one of the first field have other names.
    have hothers : ∀ m ∈ (tail.members rs).filter (fun m => keep m.1) ++ xs, m.1 ≠ head.name := by
      intro m hm hname
      rcases List.mem_append.1 hm with hm | hm
      · exact hnew (hname ▸ name_mem_of_mem_members (List.mem_of_mem_filter hm))
      · exact hxs m hm (hname ▸ List.mem_cons_self)
    have hunread : (cons head tail).unread = .cons none tail.unread := rfl
    rw [hunread]
    by_cases hkeep : keep head.name = true
    · have hmembers : ((cons head tail).members ((v, o), rs)).filter (fun m => keep m.1) =
          (head.name, v) :: (tail.members rs).filter (fun m => keep m.1) :=
        List.filter_cons_of_pos hkeep
      rw [hmembers, List.cons_append] at hperm
      -- The member of the first field stands somewhere between the others.
      obtain ⟨front, back, rfl⟩ := List.append_of_mem (hperm.mem_iff.2 List.mem_cons_self)
      have hrest := (List.perm_middle.symm.trans hperm).cons_inv
      have hne : ∀ m ∈ front ++ back, m.1 ≠ head.name := fun m hm =>
        hothers m (hrest.mem_iff.1 hm)
      rw [slots?_of_keep hkeep]
      exact yields_readAll_cons (fun m hm => hne m (List.mem_append_left _ hm))
        (fun m hm => hne m (List.mem_append_right _ hm)) (hhead hkeep)
        (ih hnodup htail hrest hxsTail)
    · have hmembers : ((cons head tail).members ((v, o), rs)).filter (fun m => keep m.1) =
          (tail.members rs).filter (fun m => keep m.1) :=
        List.filter_cons_of_neg hkeep
      rw [hmembers] at hperm
      rw [slots?_of_not_keep hkeep,
        readAll_cons_of_forall_ne fun m hm => hothers m (hperm.mem_iff.1 hm)]
      exact (ih hnodup htail hperm hxsTail).map

/-- What the picked members fill in, and defaults for all else, are the record. -/
private theorem slots?_bind_fill? :
    (fs.slots? keep readings).bind fs.fill? = fs.row? keep readings := by
  induction fs with
  | nil => rfl
  | cons head tail ih =>
    obtain ⟨⟨v, o⟩, rs⟩ := readings
    -- Filling the first field does not depend on how the others are filled.
    have hfill : ∀ slot, ((tail.slots? keep rs).map (Slots.cons slot)).bind
        (cons head tail).fill? =
          (slot.or head.absent?).bind fun x => (tail.row? keep rs).map (Row.cons x) := by
      intro slot
      rw [← @ih rs, Option.bind_map]
      cases tail.slots? keep rs with
      | some slots => rfl
      | none => cases slot.or head.absent? <;> rfl
    by_cases hkeep : keep head.name = true
    · rw [slots?_of_keep hkeep, row?, if_pos hkeep]
      cases o with
      | none => rfl
      | some x => exact hfill (some x)
    · rw [slots?_of_not_keep hkeep, hfill none, row?, if_neg hkeep, Option.none_or]

/-- The value is read as the record with what the picked members hold, and with the defaults of all
other fields. -/
theorem yields_decode {name : String} {w v : Value} (hnodup : fs.names.Nodup)
    (hread : fs.Read keep room readings) (hmembers : w.members = fs.members readings)
    (hkeeps : fs.Keeps keep w v) :
    Yields (fs.decode name (room + 1) (Source.ofValue v)) (fs.row? keep readings) := by
  obtain ⟨ms, extra, rfl, hperm, hextra⟩ := hkeeps
  rw [hmembers] at hperm
  have hslots := yields_readAll hnodup hread hperm hextra
  rw [← slots?_bind_fill?]
  exact hslots.bind fun slots => yields_fill fs slots

end Objects

/-! ### Fields that must be there -/

/-- The names of the fields without a default. -/
def required {αs : List Type} : Fields αs → List String
  | nil => []
  | cons head tail => if head.absent?.isSome then tail.required else head.name :: tail.required

/-- The record with defaults for the fields that have one and are not picked. -/
def pick {αs : List Type} (keep : String → Bool) : Fields αs → Row αs → Row αs
  | nil, _ => ()
  | cons head tail, (x, row) => .cons (head.pick keep x) (tail.pick keep row)

/-- The record of all values, if none lacks a field. -/
def values? {αs : List Type} : Fields αs → Readings αs → Option (Row αs)
  | nil, _ => some ()
  | cons _ tail, ((_, o), rs) => o.bind fun x => (tail.values? rs).map (Row.cons x)

/-- Some field has neither a value nor a default. -/
def Lacks {αs : List Type} (keep : String → Bool) : Fields αs → Readings αs → Prop
  | nil, _ => False
  | cons head tail, ((_, o), rs) =>
    (if keep head.name then o else head.absent?) = none ∨ tail.Lacks keep rs

section Required

variable {keep : String → Bool} {readings : Readings αs} {row : Row αs}

/-- Where all values are there, a record needs no more than the fields without a default. -/
private theorem row?_of_values? (h : fs.values? readings = some row) :
    fs.row? keep readings = if fs.required.all keep then some (fs.pick keep row) else none := by
  induction fs with
  | nil => rfl
  | cons head tail ih =>
    obtain ⟨⟨v, o⟩, rs⟩ := readings
    obtain ⟨x, rfl, hx⟩ := Option.bind_eq_some_iff.1 h
    obtain ⟨row, hrow, rfl⟩ := Option.map_eq_some_iff.1 hx
    have hpick : (cons head tail).pick keep (.cons x row) =
        .cons (head.pick keep x) (tail.pick keep row) := rfl
    rw [row?, ih hrow, required, hpick, Field.pick]
    -- Of the first field it matters if it has a default and is picked, of the others if all are.
    cases head.absent? <;> by_cases hkeep : keep head.name = true <;>
      by_cases hall : tail.required.all keep = true <;> simp [hkeep, hall]

/-- No record has a field with neither a value nor a default. -/
private theorem row?_of_lacks (h : fs.Lacks keep readings) : fs.row? keep readings = none := by
  induction fs with
  | nil => exact h.elim
  | cons head tail ih =>
    obtain ⟨⟨v, o⟩, rs⟩ := readings
    -- The field that is lacking is the first one or one of the others.
    rcases h with h | h
    · rw [row?, h, Option.bind_none]
    · rw [row?, ih h]
      exact Option.bind_fun_none _

/-- If all members are kept, nothing changes. -/
private theorem pick_of_forall (hkeep : ∀ name, keep name = true) : fs.pick keep row = row := by
  induction fs with
  | nil => rfl
  | cons head tail ih =>
    obtain ⟨x, row⟩ := row
    have hx : head.pick keep x = x := by
      rw [Field.pick]
      cases head.absent? <;> simp [hkeep]
    rw [pick, ih, hx]
    rfl

end Required

/-! ### Values read from records -/

section Via

variable {β : Type} {back : β → Row αs} {of : Row αs → β} {keep : String → Bool}
  {readings : Readings αs} {row : Row αs} {name : String} {w v : Value}

/-- If no picked value lacks a field, all fields without a default must be there, and nothing
else. -/
theorem yields_of_values? (hnodup : fs.names.Nodup) (hread : fs.Read keep room readings)
    (hmembers : w.members = fs.members readings) (hkeeps : fs.Keeps keep w v)
    (hvalues : fs.values? readings = some row) :
    Yields (((fs.codec name).via back of).decode (room + 1) (Source.ofValue v))
      (if fs.required.all keep then some (of (fs.pick keep row)) else none) := by
  have hdecode : Yields (fs.decode name (room + 1) (Source.ofValue v)) _ :=
    yields_decode hnodup hread hmembers hkeeps
  have hmap := hdecode.map (f := of)
  rwa [row?_of_values? hvalues, apply_ite (Option.map of)] at hmap

/-- If some field has neither a value nor a default, nothing is read. -/
theorem yields_of_lacks (hnodup : fs.names.Nodup) (hread : fs.Read keep room readings)
    (hmembers : w.members = fs.members readings) (hkeeps : fs.Keeps keep w v)
    (hlacks : fs.Lacks keep readings) :
    Yields (((fs.codec name).via back of).decode (room + 1) (Source.ofValue v)) none := by
  have hdecode : Yields (fs.decode name (room + 1) (Source.ofValue v)) _ :=
    yields_decode hnodup hread hmembers hkeeps
  rw [row?_of_lacks hlacks] at hdecode
  exact hdecode.map

end Via

/-! ### Written records -/

section Written

variable {β : Type} {back : β → Row αs} {of : Row αs → β} {x : β} {depth : Nat} {row : Row αs}
  {keep : String → Bool} {name : String} {v : Value}

/-- The members that a row writes of its own are those of its encoding. -/
private theorem members_own : fs.members (fs.own row) = fs.encode row := by
  induction fs with
  | nil => rfl
  | cons head tail ih =>
    obtain ⟨x, row⟩ := row
    exact congrArg (_ :: ·) ih

/-- What a row writes of its own is read again. -/
private theorem read_own (h : fs.Recovers depth row) :
    fs.Read keep (room + depth) (fs.own row) := by
  induction fs with
  | nil => trivial
  | cons head tail ih =>
    obtain ⟨x, row⟩ := row
    exact ⟨fun _ => h.1 room, ih h.2⟩

/-- The values of what a row writes of its own are the row. -/
private theorem values?_own : fs.values? (fs.own row) = some row := by
  induction fs with
  | nil => rfl
  | cons head tail ih =>
    obtain ⟨x, row⟩ := row
    rw [own, values?, Option.bind_some, ih]
    rfl

/-- From some members of a written record, the values of these and defaults for the others are read,
if all fields without a default are there. -/
theorem yields_own (hnodup : fs.names.Nodup) (hrow : fs.Recovers depth (back x))
    (hkeeps : fs.Keeps keep (((fs.codec name).via back of).encode x) v) :
    Yields (((fs.codec name).via back of).decode (room + (depth + 1)) (Source.ofValue v))
      (if fs.required.all keep then some (of (fs.pick keep (back x))) else none) :=
  have hmembers : (((fs.codec name).via back of).encode x).members =
      fs.members (fs.own (back x)) := members_own.symm
  yields_of_values? hnodup (read_own hrow) hmembers hkeeps values?_own

/-- A record is recovered if the values of its fields are. -/
theorem recovers_via (hnodup : fs.names.Nodup) (hrow : fs.Recovers depth (back x))
    (hof : of (back x) = x) : ((fs.codec name).via back of).Recovers (depth + 1) x := by
  intro room
  have hkeeps : fs.Keeps (fun _ => true) (((fs.codec name).via back of).encode x)
      (((fs.codec name).via back of).encode x) :=
    ⟨fs.encode (back x), [], rfl, by simp [Codec.via, codec, Value.members], by simp⟩
  have hall : Yields (((fs.codec name).via back of).decode (room + (depth + 1)) _) _ :=
    yields_own hnodup hrow hkeeps
  rwa [if_pos (by simp), pick_of_forall fun _ => rfl, hof] at hall

end Written

end Fields

end Suite.Json
