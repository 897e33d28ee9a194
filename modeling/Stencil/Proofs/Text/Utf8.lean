import Mathlib.Data.List.Basic
import Stencil.Text.Utf8

/-! Text and its bytes.

`decode_encode` says that the reader of characters gives back what was written, whatever
characters these are, and `decodeText_eq_ok_iff` that it reads nothing else. Bytes that spell a
text (`IsText`) may be joined, and they may be cut at any byte below 0x80 (`IsText.cut`): such a
byte is a character of its own and never a part of another. -/
namespace Stencil.Text.Utf8

/-! ### One character -/

theorem toNat_ofNat_of_lt {n : Nat} (h : n < 256) : (UInt8.ofNat n).toNat = n := by
  rw [UInt8.toNat_ofNat', Nat.mod_eq_of_lt (by omega)]

theorem isTail_iff {b : UInt8} : isTail b = true ↔ 0x80 ≤ b.toNat ∧ b.toNat ≤ 0xBF := by
  simp [isTail, UInt8.le_iff_toNat_le]

/-- The byte for the six low bits of a number. -/
def tailOf (n : Nat) : UInt8 := UInt8.ofNat (n % 64 + 128)

theorem toNat_tailOf (n : Nat) : (tailOf n).toNat = n % 64 + 128 :=
  toNat_ofNat_of_lt (by omega)

@[simp]
theorem isTail_tailOf (n : Nat) : isTail (tailOf n) = true := by
  rw [isTail_iff, toNat_tailOf]
  omega

@[simp]
theorem tailBits_tailOf (n : Nat) : tailBits (tailOf n) = n % 64 := by
  rw [tailBits, toNat_tailOf]
  omega

theorem tailBits_of_isTail {b : UInt8} (h : isTail b = true) :
    b.toNat = tailBits b + 128 ∧ tailBits b < 64 := by
  rw [isTail_iff] at h
  rw [tailBits]
  omega

/-- A continuing byte is settled by its six bits. -/
theorem tailOf_eq {b : UInt8} {n : Nat} (hb : isTail b = true) (h : n % 64 = tailBits b) :
    tailOf n = b := by
  rw [tailOf, h, ← (tailBits_of_isTail hb).1, UInt8.ofNat_toNat]

theorem beq_ofNat_iff {a : UInt8} {n : Nat} (h : n < 256) :
    (a == UInt8.ofNat n) = true ↔ a.toNat = n := by
  rw [beq_iff_eq, ← UInt8.toNat_inj, toNat_ofNat_of_lt h]

/-- The second byte of three leaves out shorter spellings and surrogates. -/
theorem secondOfThree_iff {a b : UInt8} :
    secondOfThree a b = true ↔
      isTail b = true ∧ (a.toNat = 0xE0 → 0xA0 ≤ b.toNat) ∧ (a.toNat = 0xED → b.toNat ≤ 0x9F) := by
  have hfirst : (a == 0xE0) = true ↔ a.toNat = 0xE0 := beq_ofNat_iff (by decide)
  have hlast : (a == 0xED) = true ↔ a.toNat = 0xED := beq_ofNat_iff (by decide)
  have hfrom : 0xA0 ≤ b ↔ 0xA0 ≤ b.toNat := UInt8.le_iff_toNat_le
  have hto : b ≤ 0x9F ↔ b.toNat ≤ 0x9F := UInt8.le_iff_toNat_le
  simp only [secondOfThree, isTail, hfirst, hlast]
  grind

/-- The second byte of four leaves out shorter spellings and what is above the last character. -/
theorem secondOfFour_iff {a b : UInt8} :
    secondOfFour a b = true ↔
      isTail b = true ∧ (a.toNat = 0xF0 → 0x90 ≤ b.toNat) ∧ (a.toNat = 0xF4 → b.toNat ≤ 0x8F) := by
  have hfirst : (a == 0xF0) = true ↔ a.toNat = 0xF0 := beq_ofNat_iff (by decide)
  have hlast : (a == 0xF4) = true ↔ a.toNat = 0xF4 := beq_ofNat_iff (by decide)
  have hfrom : 0x90 ≤ b ↔ 0x90 ≤ b.toNat := UInt8.le_iff_toNat_le
  have hto : b ≤ 0x8F ↔ b.toNat ≤ 0x8F := UInt8.le_iff_toNat_le
  simp only [secondOfFour, isTail, hfirst, hlast]
  grind

/-- The kinds of sequences, by the number that their first byte is. -/
theorem headOf_eq (a : UInt8) (rest : Bytes) :
    headOf a rest =
      if a.toNat < 0x80 then .scalar (Char.ofNat a.toNat) 0
      else if a.toNat < 0xC2 then .bad 0
      else if a.toNat < 0xE0 then headOfTwo a rest
      else if a.toNat < 0xF0 then headOfThree a rest
      else if a.toNat < 0xF5 then headOfFour a rest
      else .bad 0 := by
  simp only [headOf, UInt8.lt_iff_toNat_lt]
  rfl

theorem headOf_one {v : Nat} (h : v < 0x80) (rest : Bytes) :
    headOf (UInt8.ofNat v) rest = .scalar (Char.ofNat v) 0 := by
  rw [headOf_eq, toNat_ofNat_of_lt (by omega), if_pos h]

theorem headOf_two {v : Nat} (h : 0x80 ≤ v) (h' : v < 0x800) (rest : Bytes) :
    headOf (UInt8.ofNat (v / 64 % 32 + 0xC0)) (tailOf v :: rest) = .scalar (Char.ofNat v) 1 := by
  have ha := toNat_ofNat_of_lt (n := v / 64 % 32 + 0xC0) (by omega)
  have hval : (v / 64 % 32 + 0xC0) % 32 * 64 + v % 64 = v := by omega
  rw [headOf_eq, ha, if_neg (by omega), if_neg (by omega), if_pos (by omega), headOfTwo,
    if_pos (isTail_tailOf v), tailBits_tailOf, ha, hval]

theorem secondOfThree_tailOf {v : Nat} (h : 0x800 ≤ v) (h' : v < 0x10000)
    (hs : v < 0xD800 ∨ 0xDFFF < v) :
    secondOfThree (UInt8.ofNat (v / 4096 % 16 + 0xE0)) (tailOf (v / 64)) = true := by
  rw [secondOfThree_iff, toNat_ofNat_of_lt (by omega), toNat_tailOf]
  exact ⟨isTail_tailOf _, by omega, by omega⟩

theorem headOf_three {v : Nat} (h : 0x800 ≤ v) (h' : v < 0x10000) (hs : v < 0xD800 ∨ 0xDFFF < v)
    (rest : Bytes) :
    headOf (UInt8.ofNat (v / 4096 % 16 + 0xE0)) (tailOf (v / 64) :: tailOf v :: rest) =
      .scalar (Char.ofNat v) 2 := by
  have ha := toNat_ofNat_of_lt (n := v / 4096 % 16 + 0xE0) (by omega)
  have hval : (v / 4096 % 16 + 0xE0) % 16 * 4096 + v / 64 % 64 * 64 + v % 64 = v := by omega
  rw [headOf_eq, ha, if_neg (by omega), if_neg (by omega), if_neg (by omega), if_pos (by omega),
    headOfThree, if_pos (secondOfThree_tailOf h h' hs)]
  simp only [isTail_tailOf, if_true, tailBits_tailOf, ha, hval]

theorem secondOfFour_tailOf {v : Nat} (h : 0x10000 ≤ v) (h' : v < 0x110000) :
    secondOfFour (UInt8.ofNat (v / 262144 % 8 + 0xF0)) (tailOf (v / 4096)) = true := by
  rw [secondOfFour_iff, toNat_ofNat_of_lt (by omega), toNat_tailOf]
  exact ⟨isTail_tailOf _, by omega, by omega⟩

theorem headOf_four {v : Nat} (h : 0x10000 ≤ v) (h' : v < 0x110000) (rest : Bytes) :
    headOf (UInt8.ofNat (v / 262144 % 8 + 0xF0))
        (tailOf (v / 4096) :: tailOf (v / 64) :: tailOf v :: rest) = .scalar (Char.ofNat v) 3 := by
  have ha := toNat_ofNat_of_lt (n := v / 262144 % 8 + 0xF0) (by omega)
  have hval : (v / 262144 % 8 + 0xF0) % 8 * 262144 + v / 4096 % 64 * 4096 + v / 64 % 64 * 64 +
      v % 64 = v := by omega
  rw [headOf_eq, ha, if_neg (by omega), if_neg (by omega), if_neg (by omega), if_neg (by omega),
    if_pos (by omega), headOfFour, if_pos (secondOfFour_tailOf h h')]
  simp only [isTail_tailOf, if_true, tailBits_tailOf, ha, hval]

/-- The bytes of a character by the size of its number. -/
theorem encodeChar_eq (c : Char) :
    String.utf8EncodeChar c =
      if c.toNat ≤ 0x7F then [UInt8.ofNat c.toNat]
      else if c.toNat ≤ 0x7FF then [UInt8.ofNat (c.toNat / 64 % 32 + 0xC0), tailOf c.toNat]
      else if c.toNat ≤ 0xFFFF then
        [UInt8.ofNat (c.toNat / 4096 % 16 + 0xE0), tailOf (c.toNat / 64), tailOf c.toNat]
      else
        [UInt8.ofNat (c.toNat / 262144 % 8 + 0xF0), tailOf (c.toNat / 4096), tailOf (c.toNat / 64),
          tailOf c.toNat] := rfl

/-- A character is read back from its bytes, whatever follows them. -/
theorem headOf_encodeChar (c : Char) :
    ∃ a tails, String.utf8EncodeChar c = a :: tails ∧
      ∀ rest, headOf a (tails ++ rest) = .scalar c tails.length := by
  have hvalid : c.toNat < 0xD800 ∨ 0xDFFF < c.toNat ∧ c.toNat < 0x110000 := c.valid
  have hc : Char.ofNat c.toNat = c := Char.ofNat_toNat c
  rw [encodeChar_eq]
  split
  · next h =>
    refine ⟨_, _, rfl, fun rest => ?_⟩
    rw [headOf_one (by omega), hc]
    rfl
  · split
    · refine ⟨_, _, rfl, fun rest => ?_⟩
      rw [List.cons_append, List.nil_append, headOf_two (by omega) (by omega), hc]
      rfl
    · split
      · refine ⟨_, _, rfl, fun rest => ?_⟩
        rw [List.cons_append, List.cons_append, List.nil_append,
          headOf_three (by omega) (by omega) (by omega), hc]
        rfl
      · refine ⟨_, _, rfl, fun rest => ?_⟩
        rw [List.cons_append, List.cons_append, List.cons_append, List.nil_append,
          headOf_four (by omega) (by omega), hc]
        rfl

/-- A byte below 0x80 is a character alone; all bytes of the other characters are above. -/
theorem encodeChar_low_or_high (c : Char) :
    (c.toNat < 0x80 ∧ String.utf8EncodeChar c = [UInt8.ofNat c.toNat]) ∨
      ∀ b ∈ String.utf8EncodeChar c, 0x80 ≤ b.toNat := by
  have htail (n : Nat) : 0x80 ≤ (tailOf n).toNat := by
    rw [toNat_tailOf]
    omega
  rw [encodeChar_eq]
  split
  · exact .inl ⟨by omega, rfl⟩
  · refine .inr ?_
    split
    · simp only [List.forall_mem_cons]
      refine ⟨?_, htail _, nofun⟩
      rw [toNat_ofNat_of_lt (by omega)]
      omega
    · split
      · simp only [List.forall_mem_cons]
        refine ⟨?_, htail _, htail _, nofun⟩
        rw [toNat_ofNat_of_lt (by omega)]
        omega
      · simp only [List.forall_mem_cons]
        refine ⟨?_, htail _, htail _, htail _, nofun⟩
        rw [toNat_ofNat_of_lt (by omega)]
        omega

/-! ### One character read -/

theorem toNat_charOfNat {n : Nat} (h : n < 0xD800 ∨ 0xDFFF < n ∧ n < 0x110000) :
    (Char.ofNat n).toNat = n := by
  rw [Char.ofNat, dif_pos h]
  rfl

/-- A byte below 0x80 is all of its character. -/
theorem encodeChar_ofNat {b : UInt8} (h : b.toNat < 0x80) :
    String.utf8EncodeChar (Char.ofNat b.toNat) = [b] := by
  rw [encodeChar_eq, toNat_charOfNat (by omega), if_pos (by omega), UInt8.ofNat_toNat]

/-- How an input starts that a character was read from: with the character as it is written. -/
def Starts (a : UInt8) (rest : Bytes) (c : Char) (more : Nat) : Prop :=
  ∃ tails behind, rest = tails ++ behind ∧ tails.length = more ∧
    String.utf8EncodeChar c = a :: tails

theorem starts_of_headOfTwo {a : UInt8} {rest : Bytes} {c : Char} {more : Nat}
    (ha : 0xC2 ≤ a.toNat) (ha' : a.toNat < 0xE0) :
    headOfTwo a rest = .scalar c more → Starts a rest c more := by
  fun_cases headOfTwo a rest with
  | case1 | case3 => exact nofun
  | case2 b rest hb =>
    rintro ⟨⟩
    have hbits : tailBits b < 64 := Nat.mod_lt _ (by decide)
    have hhead : (a.toNat % 32 * 64 + tailBits b) / 64 % 32 + 0xC0 = a.toNat := by omega
    refine ⟨[b], rest, rfl, rfl, ?_⟩
    rw [encodeChar_eq, toNat_charOfNat (by omega), if_neg (by omega), if_pos (by omega), hhead,
      UInt8.ofNat_toNat, tailOf_eq hb (by omega)]

theorem starts_of_headOfThree {a : UInt8} {rest : Bytes} {c : Char} {more : Nat}
    (ha : 0xE0 ≤ a.toNat) (ha' : a.toNat < 0xF0) :
    headOfThree a rest = .scalar c more → Starts a rest c more := by
  fun_cases headOfThree a rest with
  | case1 | case2 | case4 | case5 => exact nofun
  | case3 b hb d rest hd =>
    rintro ⟨⟩
    obtain ⟨hb, hshort, hsurrogate⟩ := secondOfThree_iff.mp hb
    have hbbits := tailBits_of_isTail hb
    have hdbits := tailBits_of_isTail hd
    have hhead : (a.toNat % 16 * 4096 + tailBits b * 64 + tailBits d) / 4096 % 16 + 0xE0 =
        a.toNat := by omega
    refine ⟨[b, d], rest, rfl, rfl, ?_⟩
    rw [encodeChar_eq, toNat_charOfNat (by omega), if_neg (by omega), if_neg (by omega),
      if_pos (by omega), hhead, UInt8.ofNat_toNat, tailOf_eq hb (by omega),
      tailOf_eq hd (by omega)]

theorem starts_of_headOfFour {a : UInt8} {rest : Bytes} {c : Char} {more : Nat}
    (ha : 0xF0 ≤ a.toNat) (ha' : a.toNat < 0xF5) :
    headOfFour a rest = .scalar c more → Starts a rest c more := by
  fun_cases headOfFour a rest with
  | case1 | case2 | case3 | case5 | case6 | case7 => exact nofun
  | case4 b hb d hd e rest he =>
    rintro ⟨⟩
    obtain ⟨hb, hshort, habove⟩ := secondOfFour_iff.mp hb
    have hbbits := tailBits_of_isTail hb
    have hdbits := tailBits_of_isTail hd
    have hebits := tailBits_of_isTail he
    have hhead : (a.toNat % 8 * 262144 + tailBits b * 4096 + tailBits d * 64 +
        tailBits e) / 262144 % 8 + 0xF0 = a.toNat := by omega
    refine ⟨[b, d, e], rest, rfl, rfl, ?_⟩
    rw [encodeChar_eq, toNat_charOfNat (by omega), if_neg (by omega), if_neg (by omega),
      if_neg (by omega), hhead, UInt8.ofNat_toNat, tailOf_eq hb (by omega),
      tailOf_eq hd (by omega), tailOf_eq he (by omega)]

/-- **What is read as a character is how it is written.** -/
theorem starts_of_headOf {a : UInt8} {rest : Bytes} {c : Char} {more : Nat}
    (h : headOf a rest = .scalar c more) : Starts a rest c more := by
  rw [headOf_eq] at h
  split at h
  · next ha =>
    cases h
    exact ⟨[], rest, rfl, rfl, encodeChar_ofNat ha⟩
  · split at h
    · cases h
    · split at h
      · exact starts_of_headOfTwo (by omega) (by omega) h
      · split at h
        · exact starts_of_headOfThree (by omega) (by omega) h
        · split at h
          · exact starts_of_headOfFour (by omega) (by omega) h
          · cases h

/-! ### Many characters -/

theorem decodeFrom_skip (tails rest : Bytes) (n : Nat) :
    decodeFrom tails.length n (tails ++ rest) = decodeFrom 0 (n + tails.length) rest := by
  induction tails generalizing n with
  | nil => rfl
  | cons b tails ih =>
    rw [List.cons_append, List.length_cons, decodeFrom, ih]
    congr 1
    omega

theorem lossyFrom_skip (tails rest : Bytes) :
    lossyFrom tails.length (tails ++ rest) = lossyFrom 0 rest := by
  induction tails with
  | nil => rfl
  | cons b tails ih => rw [List.cons_append, List.length_cons, lossyFrom, ih]

/-- **What was written is read back**, from any count of bytes on. -/
theorem decodeFrom_encode (cs : List Char) (n : Nat) : decodeFrom 0 n (encode cs) = .ok cs := by
  induction cs generalizing n with
  | nil => rfl
  | cons c cs ih =>
    obtain ⟨a, tails, hc, hhead⟩ := headOf_encodeChar c
    rw [encode_cons, hc, List.cons_append, decodeFrom, hhead]
    simp only [decodeFrom_skip, ih]
    rfl

theorem decodeFrom_cons_eq_ok {a : UInt8} {rest : Bytes} {n : Nat} {cs : List Char}
    (h : decodeFrom 0 n (a :: rest) = .ok cs) :
    ∃ c more ds, headOf a rest = .scalar c more ∧ decodeFrom more (n + 1) rest = .ok ds ∧
      cs = c :: ds := by
  rw [decodeFrom] at h
  split at h
  · next c more hhead =>
    cases hrest : decodeFrom more (n + 1) rest with
    | error flaw => simp [hrest, Except.map] at h
    | ok ds =>
      simp only [hrest, Except.map, Except.ok.injEq] at h
      exact ⟨c, more, ds, hhead, hrest, h.symm⟩
  · cases h
  · cases h

/-- **What is read was written**, from any count of bytes on. -/
theorem encode_of_decodeFrom {n : Nat} {bs : Bytes} {cs : List Char}
    (h : decodeFrom 0 n bs = .ok cs) : encode cs = bs := by
  induction cs generalizing n bs with
  | nil =>
    cases bs with
    | nil => rfl
    | cons a rest =>
      obtain ⟨_, _, _, -, -, hcs⟩ := decodeFrom_cons_eq_ok h
      cases hcs
  | cons c cs ih =>
    cases bs with
    | nil => cases h
    | cons a rest =>
      obtain ⟨_, more, _, hhead, hrest, hcs⟩ := decodeFrom_cons_eq_ok h
      obtain ⟨rfl, rfl⟩ := List.cons.inj hcs
      obtain ⟨tails, behind, rfl, rfl, hc⟩ := starts_of_headOf hhead
      rw [decodeFrom_skip] at hrest
      rw [encode_cons, hc, ih hrest, List.cons_append]

@[simp]
theorem decode_encode (cs : List Char) : decode (encode cs) = .ok cs :=
  decodeFrom_encode cs 0

/-- Nothing is replaced in what was written. -/
@[simp]
theorem lossy_encode (cs : List Char) : lossy (encode cs) = cs := by
  induction cs with
  | nil => rfl
  | cons c cs ih =>
    obtain ⟨a, tails, hc, hhead⟩ := headOf_encodeChar c
    rw [lossy, encode_cons, hc, List.cons_append, lossyFrom, hhead]
    simp only [lossyFrom_skip]
    exact congrArg (c :: ·) ih

@[simp]
theorem decodeText_encodeText (s : String) : decodeText (encodeText s) = .ok s := by
  rw [decodeText, encodeText, decode_encode]
  show Except.ok (String.ofList s.toList) = .ok s
  rw [String.ofList_toList]

@[simp]
theorem textOr_encodeText (s : String) : textOr (encodeText s) = s := by
  rw [textOr, decodeText_encodeText]

/-- Bytes below 0x80 are written as characters of their own. -/
theorem encode_map_ofNat {bs : Bytes} (h : ∀ b ∈ bs, b.toNat < 0x80) :
    encode (bs.map fun b => Char.ofNat b.toNat) = bs := by
  induction bs with
  | nil => rfl
  | cons b bs ih =>
    obtain ⟨hb, hbs⟩ := List.forall_mem_cons.mp h
    rw [List.map_cons, encode_cons, encodeChar_ofNat hb, ih hbs, List.cons_append, List.nil_append]

@[simp]
theorem lossyText_encodeText (s : String) : lossyText (encodeText s) = s := by
  rw [lossyText, encodeText, lossy_encode, String.ofList_toList]

/-- **Bytes are read as a text if they are how it is written.** -/
theorem decodeText_eq_ok_iff {bs : Bytes} {s : String} :
    decodeText bs = .ok s ↔ encodeText s = bs := by
  constructor
  · intro h
    cases hcs : decode bs with
    | error flaw =>
      rw [decodeText, hcs] at h
      cases h
    | ok cs =>
      rw [decodeText, hcs] at h
      cases h
      rw [encodeText, String.toList_ofList, encode_of_decodeFrom hcs]
  · rintro rfl
    exact decodeText_encodeText s

theorem encodeText_append (s t : String) : encodeText (s ++ t) = encodeText s ++ encodeText t := by
  rw [encodeText, String.toList_append, encode_append]
  rfl

/-- Texts with the same bytes are the same. -/
theorem encodeText_inj {s t : String} (h : encodeText s = encodeText t) : s = t := by
  have := decodeText_eq_ok_iff.mpr h
  rwa [decodeText_encodeText, Except.ok.injEq, eq_comm] at this

/-! ### Bytes that spell a text -/

/-- These bytes are a text's. -/
def IsText (bs : Bytes) : Prop := ∃ cs, encode cs = bs

namespace IsText

theorem nil : IsText [] := ⟨[], rfl⟩

theorem encodeText (s : String) : IsText (encodeText s) := ⟨s.toList, rfl⟩

theorem append {a b : Bytes} (ha : IsText a) (hb : IsText b) : IsText (a ++ b) := by
  obtain ⟨cs, rfl⟩ := ha
  obtain ⟨ds, rfl⟩ := hb
  exact ⟨cs ++ ds, encode_append cs ds⟩

theorem character (c : Char) : IsText (String.utf8EncodeChar c) :=
  ⟨[c], by rw [encode_cons, encode_nil, List.append_nil]⟩

/-- A byte below 0x80 is a text. -/
theorem single {b : UInt8} (h : b.toNat < 0x80) : IsText [b] := by
  rw [← encodeChar_ofNat h]
  exact character _

/-- A text may be cut around any byte below 0x80. -/
theorem cut {a rest : Bytes} {b : UInt8} (hb : b.toNat < 0x80) (h : IsText (a ++ b :: rest)) :
    IsText a ∧ IsText rest := by
  obtain ⟨cs, h⟩ := h
  induction cs generalizing a with
  | nil => simp at h
  | cons c cs ih =>
    rw [encode_cons, List.append_eq_append_iff] at h
    -- The cut lies behind the first character, or before its end.
    rcases h with ⟨a', rfl, h⟩ | ⟨tail, hc, h⟩
    · obtain ⟨ha, hrest⟩ := ih h
      exact ⟨(character c).append ha, hrest⟩
    · cases tail with
      | nil =>
        rw [List.append_nil] at hc
        rw [List.nil_append] at h
        exact ⟨hc ▸ character c, (ih (a := []) h.symm).2⟩
      | cons x tail =>
        obtain ⟨rfl, hrest⟩ := List.cons.inj h
        rcases encodeChar_low_or_high c with ⟨_, hone⟩ | hhigh
        · rw [hone] at hc
          obtain ⟨rfl, hxt⟩ : a = [] ∧ tail = [] := by
            have := congrArg List.length hc
            simp only [List.length_append, List.length_cons, List.length_nil] at this
            exact ⟨List.length_eq_zero_iff.mp (by omega), List.length_eq_zero_iff.mp (by omega)⟩
          subst hxt
          exact ⟨nil, cs, hrest.symm⟩
        · have := hhigh b (by rw [hc]; simp)
          omega

end IsText

theorem IsText.exists_encodeText {bs : Bytes} (h : IsText bs) : ∃ s, Utf8.encodeText s = bs := by
  obtain ⟨cs, rfl⟩ := h
  exact ⟨String.ofList cs, by rw [Utf8.encodeText, String.toList_ofList]⟩

/-- Other bytes cannot be read. -/
theorem exists_decodeText_error_iff {bs : Bytes} :
    (∃ flaw, decodeText bs = .error flaw) ↔ ¬ IsText bs := by
  cases h : decodeText bs with
  | error flaw =>
    have hnot : ¬ IsText bs := by
      intro htext
      obtain ⟨s, rfl⟩ := htext.exists_encodeText
      rw [decodeText_encodeText] at h
      cases h
    exact ⟨fun _ => hnot, fun _ => ⟨flaw, rfl⟩⟩
  | ok s =>
    have htext : IsText bs := decodeText_eq_ok_iff.mp h ▸ IsText.encodeText s
    exact ⟨nofun, fun hnot => absurd htext hnot⟩

/-- Reading such bytes as text and writing the text gives them back. -/
theorem encodeText_textOr {bs : Bytes} (h : IsText bs) : encodeText (textOr bs) = bs := by
  obtain ⟨s, rfl⟩ := h.exists_encodeText
  rw [textOr_encodeText]

/-- Nothing is replaced in them. -/
theorem encodeText_lossyText {bs : Bytes} (h : IsText bs) : encodeText (lossyText bs) = bs := by
  obtain ⟨s, rfl⟩ := h.exists_encodeText
  rw [lossyText_encodeText]

end Stencil.Text.Utf8
