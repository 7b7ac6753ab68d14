import Mathlib.Tactic.Common
import Suite.Proofs.Text.Pieces
import Suite.Text.Os

/-!
# Texts, their bytes and what is read of them

A character is read from its bytes, so a text is. Other bytes are read as some text too, in which
the characters of ASCII stand where their bytes stood: such a byte belongs to no other character,
and no broken one is read as it. So bytes can be cut at a sign like `/` before they are read or
afterwards.

## Key results

- `decodeLossy_encode`: a text is read from its bytes
- `mem_decodeLossy_iff`: a sign of ASCII is read exactly where its byte is
- `pieces_decodeLossy`, `pieces_encode`: cutting bytes and cutting what is read of them
- `OsText.isText_iff`: the texts of the operating system of which nothing is lost
-/

namespace Suite.Text

/-! ### Bytes of one character -/

section Characters

variable {acc : List Char} {rest : List UInt8} {l : Lead} {low high : UInt8} {bits k j m n : Nat}

/-- A small number is that of its byte. -/
private theorem toNat_ofNat_of_lt (h : n < 256) : (UInt8.ofNat n).toNat = n := by
  simp
  omega

/-- What a first byte announces, as a matter of numbers. -/
private theorem lead?_ofNat (h : n < 256) :
    lead? (UInt8.ofNat n) =
      if n < 0x80 then some ⟨0, 0x80, 0xbf, n⟩
      else if 0xc2 ≤ n ∧ n ≤ 0xdf then some ⟨1, 0x80, 0xbf, n - 0xc0⟩
      else if n = 0xe0 then some ⟨2, 0xa0, 0xbf, 0⟩
      else if n = 0xed then some ⟨2, 0x80, 0x9f, 0xd⟩
      else if 0xe1 ≤ n ∧ n ≤ 0xef then some ⟨2, 0x80, 0xbf, n - 0xe0⟩
      else if n = 0xf0 then some ⟨3, 0x90, 0xbf, 0⟩
      else if 0xf1 ≤ n ∧ n ≤ 0xf3 then some ⟨3, 0x80, 0xbf, n - 0xf0⟩
      else if n = 0xf4 then some ⟨3, 0x80, 0x8f, 4⟩
      else none := by
  simp only [lead?, UInt8.lt_iff_toNat_lt, UInt8.le_iff_toNat_le, ← UInt8.toNat_inj,
    toNat_ofNat_of_lt h, Bool.and_eq_true, decide_eq_true_eq]
  rfl

/-- What one more byte inside a character leads to, as a matter of numbers. -/
private theorem more?_ofNat (hn : n < 256) (hlow : l.low.toNat ≤ n) (hhigh : n ≤ l.high.toNat) :
    Reading.more? l (UInt8.ofNat n) =
      if l.owed ≤ 1 then some (.between, [Char.ofNat (l.bits * 64 + (n - 0x80))])
      else some (.inside ⟨l.owed - 1, 0x80, 0xbf, l.bits * 64 + (n - 0x80)⟩, []) := by
  simp only [Reading.more?, UInt8.le_iff_toNat_le, toNat_ofNat_of_lt hn, hlow, hhigh]
  rfl

/-- The reader enters a character. -/
private theorem decodeLossyFrom_lead (h : lead? (UInt8.ofNat n) = some l) (howed : l.owed ≠ 0) :
    decodeLossyFrom acc .between (UInt8.ofNat n :: rest) =
      decodeLossyFrom acc (.inside l) rest := by
  simp [decodeLossyFrom, Reading.startLossy, Reading.start?, h, howed]

/-- The reader stays inside a character. -/
private theorem decodeLossyFrom_middle (hn : n < 256) (hlow : l.low.toNat ≤ n)
    (hhigh : n ≤ l.high.toNat) (howed : 1 < l.owed) :
    decodeLossyFrom acc (.inside l) (UInt8.ofNat n :: rest) =
      decodeLossyFrom acc (.inside ⟨l.owed - 1, 0x80, 0xbf, l.bits * 64 + (n - 0x80)⟩) rest := by
  rw [decodeLossyFrom, more?_ofNat hn hlow hhigh, if_neg (by omega)]
  rfl

/-- The reader leaves a character. -/
private theorem decodeLossyFrom_last (hn : n < 256) (hlow : l.low.toNat ≤ n)
    (hhigh : n ≤ l.high.toNat) (howed : l.owed ≤ 1) :
    decodeLossyFrom acc (.inside l) (UInt8.ofNat n :: rest) =
      decodeLossyFrom (Char.ofNat (l.bits * 64 + (n - 0x80)) :: acc) .between rest := by
  rw [decodeLossyFrom, more?_ofNat hn hlow hhigh, if_pos howed]
  rfl

/-- A character of three bytes. -/
private theorem decodeLossyFrom_three (h : lead? (UInt8.ofNat n) = some ⟨2, low, high, bits⟩)
    (hm : m < 256) (hlow : low.toNat ≤ m) (hhigh : m ≤ high.toNat) (hk : k < 64) :
    decodeLossyFrom acc .between
        (UInt8.ofNat n :: UInt8.ofNat m :: UInt8.ofNat (k + 0x80) :: rest) =
      decodeLossyFrom (Char.ofNat ((bits * 64 + (m - 0x80)) * 64 + k) :: acc) .between rest := by
  rw [decodeLossyFrom_lead h (by simp), decodeLossyFrom_middle hm hlow hhigh (by simp),
    decodeLossyFrom_last (by omega) (by simp) (by simp; omega) (by simp), Nat.add_sub_cancel]

/-- A character of four bytes. -/
private theorem decodeLossyFrom_four (h : lead? (UInt8.ofNat n) = some ⟨3, low, high, bits⟩)
    (hm : m < 256) (hlow : low.toNat ≤ m) (hhigh : m ≤ high.toNat) (hk : k < 64) (hj : j < 64) :
    decodeLossyFrom acc .between
        (UInt8.ofNat n :: UInt8.ofNat m :: UInt8.ofNat (k + 0x80) :: UInt8.ofNat (j + 0x80) ::
          rest) =
      decodeLossyFrom (Char.ofNat (((bits * 64 + (m - 0x80)) * 64 + k) * 64 + j) :: acc)
        .between rest := by
  rw [decodeLossyFrom_lead h (by simp), decodeLossyFrom_middle hm hlow hhigh (by simp),
    decodeLossyFrom_middle (by omega) (by simp) (by simp; omega) (by simp),
    decodeLossyFrom_last (by omega) (by simp) (by simp; omega) (by simp), Nat.add_sub_cancel,
    Nat.add_sub_cancel]

/-- A character is read from its bytes. -/
private theorem decodeLossyFrom_encodeChar (c : Char) :
    decodeLossyFrom acc .between (String.utf8EncodeChar c ++ rest) =
      decodeLossyFrom (c :: acc) .between rest := by
  have hvalid : c.toNat < 0xd800 ∨ 0xdfff < c.toNat ∧ c.toNat < 0x110000 := c.valid
  have hchar (k : Nat) (hk : k = c.toNat) : Char.ofNat k = c := hk ▸ Char.ofNat_toNat c
  have hval : c.val.toNat = c.toNat := rfl
  -- The cases are the lengths; the first byte of a length may bound the second one more closely.
  simp only [String.utf8EncodeChar, hval]
  split
  -- one byte
  · have hlead := lead?_ofNat (n := c.toNat) (by omega)
    rw [if_pos (by omega)] at hlead
    simp [decodeLossyFrom, Reading.startLossy, Reading.start?, hlead]
  split
  -- two bytes
  · have hlead := lead?_ofNat (n := c.toNat / 64 % 32 + 192) (by omega)
    rw [if_neg (by omega), if_pos (by omega)] at hlead
    rw [List.cons_append, decodeLossyFrom_lead hlead (by simp), List.cons_append,
      decodeLossyFrom_last (by omega) (by simp) (by simp; omega) (by simp),
      hchar _ (by simp; omega)]
    rfl
  split
  -- three bytes: behind 0xe0 and 0xed the second one is bounded
  · have hlead := lead?_ofNat (n := c.toNat / 4096 % 16 + 224) (by omega)
    rw [if_neg (by omega), if_neg (by omega)] at hlead
    split at hlead
    · exact (decodeLossyFrom_three hlead (by omega) (by simp; omega) (by simp; omega)
        (by omega)).trans (by rw [hchar _ (by omega)]; rfl)
    split at hlead
    · exact (decodeLossyFrom_three hlead (by omega) (by simp) (by simp; omega)
        (by omega)).trans (by rw [hchar _ (by omega)]; rfl)
    · rw [if_pos (by omega)] at hlead
      exact (decodeLossyFrom_three hlead (by omega) (by simp) (by simp; omega)
        (by omega)).trans (by rw [hchar _ (by omega)]; rfl)
  -- four bytes: behind 0xf0 and 0xf4 the second one is bounded
  · have hlead := lead?_ofNat (n := c.toNat / 262144 % 8 + 240) (by omega)
    rw [if_neg (by omega), if_neg (by omega), if_neg (by omega), if_neg (by omega),
      if_neg (by omega)] at hlead
    split at hlead
    · exact (decodeLossyFrom_four hlead (by omega) (by simp; omega) (by simp; omega)
        (by omega) (by omega)).trans (by rw [hchar _ (by omega)]; rfl)
    split at hlead
    · exact (decodeLossyFrom_four hlead (by omega) (by simp) (by simp; omega)
        (by omega) (by omega)).trans (by rw [hchar _ (by omega)]; rfl)
    · rw [if_pos (by omega)] at hlead
      exact (decodeLossyFrom_four hlead (by omega) (by simp) (by simp; omega)
        (by omega) (by omega)).trans (by rw [hchar _ (by omega)]; rfl)

end Characters

/-! ### Texts -/

/-- The bytes of a text are those of its characters. -/
private theorem encode_ofList (cs : List Char) :
    encode (String.ofList cs) = cs.flatMap String.utf8EncodeChar := by
  rw [encode, String.toList_ofList]

/-- Bytes are read in front of what was read before. -/
private theorem decodeLossyFrom_append (acc : List Char) (r : Reading) (bs : List UInt8) :
    decodeLossyFrom acc r bs = decodeLossyFrom [] r bs ++ acc := by
  -- By induction on the bytes: what is read is put in front of what was read before.
  induction bs generalizing acc r with
  | nil => cases r <;> rfl
  | cons b rest ih =>
    cases r with
    | between =>
      simp only [decodeLossyFrom]
      rw [ih, ih (_ ++ []), List.append_nil, List.append_assoc]
    | inside l =>
      simp only [decodeLossyFrom]
      split
      · rw [ih, ih (_ ++ []), List.append_nil, List.append_assoc]
      · rw [ih, ih (_ ++ [_]), List.append_assoc, List.append_assoc, List.singleton_append]

/-- The characters that are read of bytes. -/
private theorem toList_decodeLossy (bs : List UInt8) :
    (decodeLossy bs).toList = (decodeLossyFrom [] .between bs).reverse := by
  rw [decodeLossy, String.toList_ofList]

/-- A text is read from its bytes. -/
theorem decodeLossy_encode (s : String) : decodeLossy (encode s) = s := by
  -- The reader is between two characters whenever a new one begins.
  have hread (cs acc : List Char) :
      decodeLossyFrom acc .between (cs.flatMap String.utf8EncodeChar) = cs.reverse ++ acc := by
    induction cs generalizing acc with
    | nil => rfl
    | cons c cs ih =>
      rw [List.flatMap_cons, decodeLossyFrom_encodeChar, ih]
      simp
  apply String.toList_inj.1
  rw [toList_decodeLossy, encode, hread]
  simp

/-- Only the empty text has no bytes. -/
theorem encode_eq_nil_iff {s : String} : encode s = [] ↔ s = "" := by
  refine ⟨fun h => ?_, fun h => h ▸ rfl⟩
  rw [← decodeLossy_encode s, h]
  rfl

/-- Bytes that begin a character are read as something. -/
private theorem decodeLossyFrom_inside_ne_nil (l : Lead) (bs : List UInt8) :
    decodeLossyFrom [] (.inside l) bs ≠ [] := by
  -- By induction on the bytes: a character that has begun is ended, replaced or goes on.
  induction bs generalizing l with
  | nil => simp [decodeLossyFrom]
  | cons b rest ih =>
    rw [decodeLossyFrom]
    split
    · next hmore =>
      unfold Reading.more? at hmore
      split at hmore
      · dsimp only at hmore
        split at hmore <;> obtain ⟨rfl, rfl⟩ := Prod.mk.inj (Option.some.inj hmore)
        · rw [decodeLossyFrom_append]
          simp
        · exact ih _
      · cases hmore
    · simp only
      rw [decodeLossyFrom_append]
      simp

/-- Only no bytes at all are read as nothing. -/
theorem decodeLossy_eq_empty_iff {bs : List UInt8} : decodeLossy bs = "" ↔ bs = [] := by
  refine ⟨fun h => ?_, fun h => h ▸ rfl⟩
  have hnil : decodeLossyFrom [] .between bs = [] := by
    simpa [toList_decodeLossy] using congrArg String.toList h
  cases bs with
  | nil => rfl
  | cons b rest =>
    exfalso
    rw [decodeLossyFrom, Reading.startLossy, Reading.start?] at hnil
    -- The first byte is replaced, or a character by itself, or begins one.
    cases hlead : lead? b with
    | none =>
      rw [hlead] at hnil
      simp only [Option.map_none, Option.getD_none] at hnil
      rw [decodeLossyFrom_append] at hnil
      exact List.append_ne_nil_of_right_ne_nil _ (by simp) hnil
    | some l =>
      rw [hlead, Option.map_some, Option.getD_some] at hnil
      by_cases howed : l.owed = 0
      · rw [if_pos howed] at hnil
        simp only at hnil
        rw [decodeLossyFrom_append] at hnil
        exact List.append_ne_nil_of_right_ne_nil _ (by simp) hnil
      · rw [if_neg howed] at hnil
        exact decodeLossyFrom_inside_ne_nil l rest hnil

/-! ### Signs of ASCII -/

/-- The byte is all of the character, and not NUL. -/
structure IsByteOf (b : UInt8) (c : Char) : Prop where
  ascii : b < 0x80
  char : Char.ofNat b.toNat = c
  isVisible : c ≠ '\x00'

/-- Bytes that stand inside a character are no signs of ASCII, and no such sign comes of them. -/
def Reading.IsSound : Reading → Prop
  | .between => True
  | .inside l =>
    0x80 ≤ l.low.toNat ∧ 2 ≤ l.bits * 64 + (l.low.toNat - 0x80) ∧ (l.owed ≤ 1 → 2 ≤ l.bits)

section Signs

variable {b : UInt8} {c : Char} {r next : Reading} {out : List Char} {l : Lead}

/-- A sign has the number of its byte. -/
private theorem toNat_char (h : IsByteOf b c) : c.toNat = b.toNat := by
  have hb : b.toNat < 0x80 := UInt8.lt_iff_toNat_lt.1 h.ascii
  have hvalid : b.toNat.isValidChar := .inl (by omega)
  rw [← h.char, Char.ofNat, dif_pos hvalid]
  rfl

/-- A number that is large is not that of a sign. -/
private theorem ofNat_ne (h : IsByteOf b c) {n : Nat} (hn : 0x80 ≤ n) : Char.ofNat n ≠ c := by
  have hb : b.toNat < 0x80 := UInt8.lt_iff_toNat_lt.1 h.ascii
  by_cases hvalid : n.isValidChar
  · rintro rfl
    have hc := toNat_char h
    rw [Char.ofNat, dif_pos hvalid] at hc
    change n = b.toNat at hc
    omega
  -- A number of no character gives the first one, which is no sign.
  · rw [Char.ofNat, dif_neg hvalid]
    exact h.isVisible.symm

/-- A first byte is all of its character, or leads to a sound state. -/
private theorem lead?_cases (h : lead? b = some l) :
    (b < 0x80 ∧ l.owed = 0 ∧ l.bits = b.toNat) ∨ (l.owed ≠ 0 ∧ (Reading.inside l).IsSound) := by
  have hb : b = UInt8.ofNat b.toNat := by simp
  rw [hb, lead?_ofNat b.toNat_lt] at h
  split at h
  · next hsmall =>
    obtain rfl := Option.some.inj h
    exact .inl ⟨UInt8.lt_iff_toNat_lt.2 hsmall, rfl, rfl⟩
  · refine .inr ?_
    -- All other first bytes owe one byte at least; their ranges are compared as numbers.
    repeat' split at h
    all_goals cases h
    all_goals
      simp only [Reading.IsSound, UInt8.reduceToNat]
      omega

/-- One more byte leads from a sound state to a sound one, and completes no sign. -/
private theorem isSound_of_more? (h : Reading.more? l b = some (next, out))
    (hl : (Reading.inside l).IsSound) :
    next.IsSound ∧ ∀ {b c}, IsByteOf b c → c ∉ out := by
  obtain ⟨hlow, hbits, hlast⟩ := hl
  unfold Reading.more? at h
  split at h
  · next hrange =>
    simp only [Bool.and_eq_true, decide_eq_true_eq, UInt8.le_iff_toNat_le] at hrange
    dsimp only at h
    -- The byte ends the character, which is none of ASCII, or one more is owed.
    split at h
    · next howed =>
      obtain ⟨rfl, rfl⟩ := Prod.mk.inj (Option.some.inj h)
      refine ⟨trivial, fun hc hmem => ?_⟩
      exact ofNat_ne hc (by have := hlast howed; omega) (List.mem_singleton.1 hmem).symm
    · obtain ⟨rfl, rfl⟩ := Prod.mk.inj (Option.some.inj h)
      refine ⟨?_, fun _ hmem => nomatch hmem⟩
      simp only [Reading.IsSound, UInt8.reduceToNat]
      omega
  · cases h

/-- A byte between characters leads to a sound state, and is read as a sign only if it is that of
the sign. -/
private theorem isSound_startLossy (b : UInt8) :
    (Reading.startLossy b).1.IsSound ∧
      ∀ {b' c}, IsByteOf b' c → c ∈ (Reading.startLossy b).2 → b = b' := by
  unfold Reading.startLossy Reading.start?
  -- A byte that begins nothing is replaced by a character that is none of ASCII.
  cases h : lead? b with
  | none =>
    refine ⟨trivial, fun {b' c} hc hmem => ?_⟩
    obtain rfl : c = Char.ofNat 0xfffd := List.mem_singleton.1 hmem
    exact absurd rfl (ofNat_ne hc (by decide))
  | some l =>
    rw [Option.map_some, Option.getD_some]
    rcases lead?_cases h with ⟨hsmall, howed, hbits⟩ | ⟨howed, hsound⟩
    · rw [if_pos howed]
      refine ⟨trivial, fun {b' c} hc hmem => ?_⟩
      have hchar : Char.ofNat b.toNat = c := by rw [← hbits, List.mem_singleton.1 hmem]
      have hb : IsByteOf b c := ⟨hsmall, hchar, hc.isVisible⟩
      rw [← UInt8.toNat_inj, ← toNat_char hb, toNat_char hc]
    · rw [if_neg howed]
      exact ⟨hsound, fun _ hmem => nomatch hmem⟩

/-- Between characters the byte of a sign is read as the sign. -/
private theorem startLossy_of_isByteOf (h : IsByteOf b c) :
    Reading.startLossy b = (.between, [c]) := by
  have hlead : lead? b = some ⟨0, 0x80, 0xbf, b.toNat⟩ := if_pos h.ascii
  simp [Reading.startLossy, Reading.start?, hlead, h.char]

/-- Inside a character it breaks this off. -/
private theorem more?_of_isByteOf (h : IsByteOf b c) (hl : (Reading.inside l).IsSound) :
    Reading.more? l b = none := by
  have hb : b.toNat < 0x80 := UInt8.lt_iff_toNat_lt.1 h.ascii
  have hlow : ¬l.low ≤ b := fun hle => by
    have := UInt8.le_iff_toNat_le.1 hle
    have := hl.1
    omega
  simp [Reading.more?, hlow]

variable {acc : List Char} {bs front : List UInt8}

/-- A sign that is read has its byte among those that are read. -/
private theorem mem_of_mem_decodeLossyFrom (h : IsByteOf b c) (hr : r.IsSound)
    (hmem : c ∈ decodeLossyFrom acc r bs) : c ∈ acc ∨ b ∈ bs := by
  have hreplacement : c ≠ replacement := (ofNat_ne h (by decide)).symm
  -- By induction on the bytes; no sign of ASCII is begun inside a character.
  induction bs generalizing acc r with
  | nil =>
    cases r with
    | between => exact .inl hmem
    | inside l => exact .inl ((List.mem_cons.1 hmem).resolve_left hreplacement)
  | cons b' rest ih =>
    -- Whatever the next byte leads to, its characters are not the sign unless it is the byte.
    have hstep {next out acc'} (hnext : next.IsSound) (hout : c ∈ out → b' = b)
        (hacc : c ∈ acc' → c ∈ acc) (hmem : c ∈ decodeLossyFrom (out ++ acc') next rest) :
        c ∈ acc ∨ b ∈ b' :: rest := by
      rcases ih hnext hmem with hmem | hmem
      · rcases List.mem_append.1 hmem with hmem | hmem
        · exact .inr (hout hmem ▸ List.mem_cons_self)
        · exact .inl (hacc hmem)
      · exact .inr (List.mem_cons_of_mem _ hmem)
    have hstart := isSound_startLossy b'
    cases r with
    | between => exact hstep hstart.1 (hstart.2 h) id hmem
    | inside l =>
      rw [decodeLossyFrom] at hmem
      split at hmem
      · next hmore =>
        obtain ⟨hnext, hout⟩ := isSound_of_more? hmore hr
        exact hstep hnext (fun hc => absurd hc (hout h)) id hmem
      · exact hstep hstart.1 (hstart.2 h)
          (fun hc => (List.mem_cons.1 hc).resolve_left hreplacement) hmem

/-- Bytes around that of a sign are read apart from each other. -/
private theorem decodeLossyFrom_append_cons (h : IsByteOf b c) (hr : r.IsSound)
    (back : List UInt8) :
    decodeLossyFrom acc r (front ++ b :: back) =
      decodeLossyFrom (c :: decodeLossyFrom acc r front) .between back := by
  -- By induction on the bytes in front: whatever state they lead to, the byte is none that it waits
  -- for.
  induction front generalizing acc r with
  | nil =>
    cases r with
    | between => simp [decodeLossyFrom, startLossy_of_isByteOf h]
    | inside l => simp [decodeLossyFrom, more?_of_isByteOf h hr, startLossy_of_isByteOf h]
  | cons b' rest ih =>
    cases r with
    | between => exact ih (isSound_startLossy b').1
    | inside l =>
      rw [List.cons_append, decodeLossyFrom, decodeLossyFrom]
      split
      · next hmore => exact ih (isSound_of_more? hmore hr).1
      · exact ih (isSound_startLossy b').1

/-- What is read before and after a sign. -/
private theorem decodeLossy_append_cons (h : IsByteOf b c) (front back : List UInt8) :
    (decodeLossy (front ++ b :: back)).toList =
      (decodeLossy front).toList ++ c :: (decodeLossy back).toList := by
  have hr : Reading.between.IsSound := trivial
  rw [toList_decodeLossy, decodeLossyFrom_append_cons h hr, decodeLossyFrom_append,
    toList_decodeLossy, toList_decodeLossy]
  simp

/-- A sign is read exactly if its byte is there. -/
theorem mem_decodeLossy_iff (h : IsByteOf b c) : c ∈ (decodeLossy bs).toList ↔ b ∈ bs := by
  constructor
  · intro hmem
    rw [toList_decodeLossy, List.mem_reverse] at hmem
    have hr : Reading.between.IsSound := trivial
    exact (mem_of_mem_decodeLossyFrom h hr hmem).resolve_left List.not_mem_nil
  · intro hmem
    obtain ⟨front, back, rfl⟩ := List.append_of_mem hmem
    rw [decodeLossy_append_cons h]
    simp

/-- Bytes can be cut at a sign before they are read or afterwards. -/
theorem pieces_decodeLossy (h : IsByteOf b c) (bs : List UInt8) :
    pieces c (decodeLossy bs).toList =
      (pieces b bs).map fun piece => (decodeLossy piece).toList :=
  pieces_rewritten (fun _ => mem_decodeLossy_iff h) (decodeLossy_append_cons h) bs

/-- The byte of a sign is that of no other character. -/
theorem mem_encode_iff (h : IsByteOf b c) {s : String} : b ∈ encode s ↔ c ∈ s.toList := by
  rw [← mem_decodeLossy_iff h, decodeLossy_encode]

/-- A sign has one byte. -/
private theorem encodeChar_of_isByteOf (h : IsByteOf b c) : String.utf8EncodeChar c = [b] := by
  have hval : c.val.toNat = b.toNat := toNat_char h
  have hb : b.toNat < 0x80 := UInt8.lt_iff_toNat_lt.1 h.ascii
  rw [String.utf8EncodeChar, hval, if_pos (by omega)]
  simp

/-- A text can be cut at a sign, or its bytes. -/
theorem pieces_encode (h : IsByteOf b c) (cs : List Char) :
    pieces b (encode (String.ofList cs)) =
      (pieces c cs).map fun piece => encode (String.ofList piece) := by
  have hmem (cs : List Char) : b ∈ encode (String.ofList cs) ↔ c ∈ cs := by
    rw [mem_encode_iff h, String.toList_ofList]
  have hcut (front back : List Char) : encode (String.ofList (front ++ c :: back)) =
      encode (String.ofList front) ++ b :: encode (String.ofList back) := by
    rw [encode_ofList, List.flatMap_append, List.flatMap_cons, encodeChar_of_isByteOf h,
      List.singleton_append, encode_ofList, encode_ofList]
  exact pieces_rewritten hmem hcut cs

end Signs

end Suite.Text

/-! ### Texts of the operating system -/

namespace Suite.OsText

/-- A text is read as it is. -/
@[simp] theorem text_ofText (s : String) : (ofText s).text = s := Text.decodeLossy_encode s

/-- Nothing of a text is lost. -/
@[simp] theorem isText_ofText (s : String) : (ofText s).IsText := congrArg ofText (text_ofText s)

/-- Nothing is lost exactly of texts. -/
theorem isText_iff {t : OsText} : t.IsText ↔ ∃ s : String, t = ofText s := by
  constructor
  · exact fun h => ⟨t.text, h.symm⟩
  · rintro ⟨s, rfl⟩
    exact isText_ofText s

end Suite.OsText
