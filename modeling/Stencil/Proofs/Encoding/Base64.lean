import Mathlib.Data.List.Basic
import Mathlib.Data.Nat.Bitwise
import Stencil.Function.Text
import Stencil.Proofs.Except
import Stencil.Proofs.Text.Utf8

/-! Base 64, bit by bit.

`Spells` is the rule of the format: symbols of the alphabet, then at most two signs of filling; and
the bits of the symbols, six each, are the bits of the bytes, eight each, with zeros behind them for
which the filling accounts. So the filling has to be there, and no bit is left over that could
be set. Bytes are spelled in one way only, by what `encode` makes of them (`spells_iff`), and
`decode` accepts nothing else (`decode_eq_ok_iff`). -/
namespace Stencil.Encoding.Base64
open Text.Utf8 (Bytes toNat_ofNat_of_lt)

/-! ### Bits -/

/-- The lower bits of a number, the highest of them first. -/
def bits : (width : Nat) → Nat → List Bool
  | 0, _ => []
  | width + 1, n => n.testBit width :: bits width n

@[simp]
theorem length_bits (width n : Nat) : (bits width n).length = width := by
  induction width with
  | zero => rfl
  | succ width ih => rw [bits, List.length_cons, ih]

/-- Bits may be cut into higher and lower ones. -/
theorem bits_add (high low n : Nat) :
    bits (high + low) n = bits high (n / 2 ^ low) ++ bits low n := by
  induction high with
  | zero => rw [Nat.zero_add, bits, List.nil_append]
  | succ high ih => rw [Nat.succ_add, bits, bits, ih, List.cons_append, Nat.testBit_div_two_pow]

/-- Higher bits do not count. -/
theorem bits_congr {width x y : Nat} (h : x % 2 ^ width = y % 2 ^ width) :
    bits width x = bits width y := by
  have htest : ∀ i < width, x.testBit i = y.testBit i := by
    intro i hi
    have := congrArg (Nat.testBit · i) h
    simpa [Nat.testBit_mod_two_pow, hi] using this
  clear h
  induction width with
  | zero => rfl
  | succ width ih =>
    rw [bits, bits, htest width (Nat.lt_succ_self _),
      ih fun i hi => htest i (Nat.lt_succ_of_lt hi)]

/-- The bits of a number are those of no other of that width. -/
theorem bits_inj {width x y : Nat} (hx : x < 2 ^ width) (hy : y < 2 ^ width)
    (h : bits width x = bits width y) : x = y := by
  have htest : ∀ i < width, x.testBit i = y.testBit i := by
    clear hx hy
    induction width with
    | zero => nofun
    | succ width ih =>
      obtain ⟨hhead, htail⟩ := List.cons.inj h
      intro i hi
      rcases Nat.lt_succ_iff_lt_or_eq.mp hi with hi | rfl
      · exact ih htail i hi
      · exact hhead
  refine Nat.eq_of_testBit_eq fun i => ?_
  by_cases hi : i < width
  · exact htest i hi
  · have hpow : 2 ^ width ≤ 2 ^ i := Nat.pow_le_pow_right (by decide) (by omega)
    rw [Nat.testBit_lt_two_pow (by omega), Nat.testBit_lt_two_pow (by omega)]

/-- Bits of one number in front of those of another. -/
theorem bits_join (high low x : Nat) {y : Nat} (hy : y < 2 ^ low) :
    bits (high + low) (x % 2 ^ high * 2 ^ low + y) = bits high x ++ bits low y := by
  have hhigh : (x % 2 ^ high * 2 ^ low + y) / 2 ^ low = x % 2 ^ high := by
    rw [Nat.mul_comm, Nat.mul_add_div (Nat.two_pow_pos low), Nat.div_eq_of_lt hy, Nat.add_zero]
  have hlow : (x % 2 ^ high * 2 ^ low + y) % 2 ^ low = y % 2 ^ low := by
    rw [Nat.add_comm, Nat.add_mul_mod_self_right]
  rw [bits_add, hhigh, bits_congr (Nat.mod_mod x (2 ^ high)), bits_congr hlow]

/-- Zeros behind the bits of a number. -/
theorem bits_shift (high low x : Nat) :
    bits (high + low) (x % 2 ^ high * 2 ^ low) = bits high x ++ List.replicate low false := by
  have hzero : bits low 0 = List.replicate low false := by
    induction low with
    | zero => rfl
    | succ low ih => rw [bits, ih, Nat.zero_testBit, List.replicate_succ]
  have hjoin := bits_join high low x (Nat.two_pow_pos low)
  rwa [Nat.add_zero, hzero] at hjoin

theorem length_flatMap_of_forall {α β : Type} {f : α → List β} {width : Nat}
    (h : ∀ x, (f x).length = width) (xs : List α) :
    (xs.flatMap f).length = width * xs.length := by
  induction xs with
  | nil => rfl
  | cons x xs ih =>
    rw [List.flatMap_cons, List.length_append, h, ih, List.length_cons, Nat.mul_succ,
      Nat.add_comm]

/-- Numbers in a row have the bits of no other numbers of that width. -/
theorem flatMap_bits_inj {width : Nat} (hwidth : 0 < width) {xs ys : List Nat}
    (hxs : ∀ x ∈ xs, x < 2 ^ width) (hys : ∀ y ∈ ys, y < 2 ^ width)
    (h : xs.flatMap (bits width) = ys.flatMap (bits width)) : xs = ys := by
  induction xs generalizing ys with
  | nil =>
    have hlen := congrArg List.length h
    rw [length_flatMap_of_forall (length_bits width),
      length_flatMap_of_forall (length_bits width)] at hlen
    simp only [List.length_nil, Nat.mul_zero] at hlen
    rcases Nat.mul_eq_zero.mp hlen.symm with h0 | h0
    · omega
    · rw [List.length_eq_zero_iff.mp h0]
  | cons x xs ih =>
    cases ys with
    | nil =>
      have hlen := congrArg List.length h
      simp only [List.flatMap_cons, List.length_append, length_bits, List.flatMap_nil,
        List.length_nil] at hlen
      omega
    | cons y ys =>
      obtain ⟨hx, hxs⟩ := List.forall_mem_cons.mp hxs
      obtain ⟨hy, hys⟩ := List.forall_mem_cons.mp hys
      rw [List.flatMap_cons, List.flatMap_cons] at h
      obtain ⟨hhead, htail⟩ := List.append_inj h (by rw [length_bits, length_bits])
      rw [bits_inj hx hy hhead, ih hxs hys htail]

/-! ### The rule of the format -/

/-- The symbols, in the order of the six bits that each stands for. -/
def alphabet : String := "ABCDEFGHIJKLMNOPQRSTUVWXYZabcdefghijklmnopqrstuvwxyz0123456789+/"

/-- The symbol at a place in the alphabet. -/
def letter (n : Nat) : UInt8 := UInt8.ofNat (alphabet.toList.getD n '=').toNat

/-- A text spells bytes: it consists of symbols, with at most two signs of filling behind them,
and the bits of the symbols are those of the bytes, with two zeros for each sign of filling. -/
def Spells (t bs : Bytes) : Prop :=
  ∃ (sixes : List Nat) (fill : Nat), (∀ n ∈ sixes, n < 64) ∧ fill ≤ 2 ∧
    t = sixes.map letter ++ List.replicate fill pad ∧
    sixes.flatMap (bits 6) =
      (bs.flatMap fun b => bits 8 b.toNat) ++ List.replicate (2 * fill) false

/-- The number of bytes settles how much filling there is, and so all of the text. -/
theorem Spells.unique {t u bs : Bytes} (ht : Spells t bs) (hu : Spells u bs) : t = u := by
  obtain ⟨xs, fill, hxs, hfill, rfl, hbits⟩ := ht
  obtain ⟨ys, fill', hys, hfill', rfl, hbits'⟩ := hu
  have hcount (zs : List Nat) : (zs.flatMap (bits 6)).length = 6 * zs.length :=
    length_flatMap_of_forall (length_bits 6) zs
  have hlen := congrArg List.length hbits
  have hlen' := congrArg List.length hbits'
  rw [hcount, List.length_append, List.length_replicate] at hlen hlen'
  obtain rfl : fill = fill' := by omega
  have hpow : 64 = 2 ^ 6 := by decide
  rw [hpow] at hxs hys
  have hsame : xs = ys :=
    flatMap_bits_inj (show 0 < 6 by decide) hxs hys (hbits.trans hbits'.symm)
  rw [hsame]

/-! ### Bytes as symbols -/

theorem symbolOf_eq_letter {n : Nat} (h : n < 64) : symbolOf n = letter n := by
  revert n
  decide +kernel

/-- Three bytes are four symbols. -/
theorem bits_group (a b c : UInt8) :
    [a.toNat / 4, a.toNat % 4 * 16 + b.toNat / 16, b.toNat % 16 * 4 + c.toNat / 64,
        c.toNat % 64].flatMap (bits 6) =
      bits 8 a.toNat ++ bits 8 b.toNat ++ bits 8 c.toNat := by
  have hb := b.toNat_lt
  have hc := c.toNat_lt
  have ha8 : bits 8 a.toNat = bits 6 (a.toNat / 4) ++ bits 2 a.toNat := bits_add 6 2 a.toNat
  have hb8 : bits 8 b.toNat = bits 4 (b.toNat / 16) ++ bits 4 b.toNat := bits_add 4 4 b.toNat
  have hc8 : bits 8 c.toNat = bits 2 (c.toNat / 64) ++ bits 6 c.toNat := bits_add 2 6 c.toNat
  have hab : bits 6 (a.toNat % 4 * 16 + b.toNat / 16) = bits 2 a.toNat ++ bits 4 (b.toNat / 16) :=
    bits_join 2 4 a.toNat (by omega)
  have hbc : bits 6 (b.toNat % 16 * 4 + c.toNat / 64) = bits 4 b.toNat ++ bits 2 (c.toNat / 64) :=
    bits_join 4 2 b.toNat (by omega)
  have hcc : bits 6 (c.toNat % 64) = bits 6 c.toNat := bits_congr (Nat.mod_mod _ _)
  simp only [List.flatMap_cons, List.flatMap_nil, List.append_nil, ha8, hb8, hc8, hab, hbc, hcc,
    List.append_assoc]

/-- Two bytes are three symbols with two bits to spare. -/
theorem bits_pair (a b : UInt8) :
    [a.toNat / 4, a.toNat % 4 * 16 + b.toNat / 16, b.toNat % 16 * 4].flatMap (bits 6) =
      bits 8 a.toNat ++ bits 8 b.toNat ++ List.replicate 2 false := by
  have hb := b.toNat_lt
  have ha8 : bits 8 a.toNat = bits 6 (a.toNat / 4) ++ bits 2 a.toNat := bits_add 6 2 a.toNat
  have hb8 : bits 8 b.toNat = bits 4 (b.toNat / 16) ++ bits 4 b.toNat := bits_add 4 4 b.toNat
  have hab : bits 6 (a.toNat % 4 * 16 + b.toNat / 16) = bits 2 a.toNat ++ bits 4 (b.toNat / 16) :=
    bits_join 2 4 a.toNat (by omega)
  have hb0 : bits 6 (b.toNat % 16 * 4) = bits 4 b.toNat ++ List.replicate 2 false :=
    bits_shift 4 2 b.toNat
  simp only [List.flatMap_cons, List.flatMap_nil, List.append_nil, ha8, hb8, hab, hb0,
    List.append_assoc]

/-- One byte is two symbols with four bits to spare. -/
theorem bits_one (a : UInt8) :
    [a.toNat / 4, a.toNat % 4 * 16].flatMap (bits 6) =
      bits 8 a.toNat ++ List.replicate 4 false := by
  have ha8 : bits 8 a.toNat = bits 6 (a.toNat / 4) ++ bits 2 a.toNat := bits_add 6 2 a.toNat
  have ha0 : bits 6 (a.toNat % 4 * 16) = bits 2 a.toNat ++ List.replicate 4 false :=
    bits_shift 2 4 a.toNat
  simp only [List.flatMap_cons, List.flatMap_nil, List.append_nil, ha8, ha0, List.append_assoc]

/-- **What `encode` writes spells its bytes.** -/
theorem spells_encode (bs : Bytes) : Spells (encode bs) bs := by
  fun_induction encode bs with
  | case1 => exact ⟨[], 0, nofun, by decide, rfl, rfl⟩
  | case2 a =>
    have ha := a.toNat_lt
    refine ⟨[a.toNat / 4, a.toNat % 4 * 16], 2, ?_, by decide, ?_, ?_⟩
    · simp only [List.forall_mem_cons]
      exact ⟨by omega, by omega, nofun⟩
    · rw [symbolOf_eq_letter (by omega), symbolOf_eq_letter (by omega)]
      rfl
    · rw [bits_one, List.flatMap_cons, List.flatMap_nil, List.append_nil]
  | case3 a b =>
    have ha := a.toNat_lt
    have hb := b.toNat_lt
    refine ⟨[a.toNat / 4, a.toNat % 4 * 16 + b.toNat / 16, b.toNat % 16 * 4], 1, ?_, by decide,
      ?_, ?_⟩
    · simp only [List.forall_mem_cons]
      exact ⟨by omega, by omega, by omega, nofun⟩
    · rw [symbolOf_eq_letter (by omega), symbolOf_eq_letter (by omega),
        symbolOf_eq_letter (by omega)]
      rfl
    · rw [bits_pair, List.flatMap_cons, List.flatMap_cons, List.flatMap_nil, List.append_nil]
  | case4 a b c rest ih =>
    have ha := a.toNat_lt
    have hb := b.toNat_lt
    have hc := c.toNat_lt
    obtain ⟨sixes, fill, hsixes, hfill, htext, hbits⟩ := ih
    refine ⟨[a.toNat / 4, a.toNat % 4 * 16 + b.toNat / 16, b.toNat % 16 * 4 + c.toNat / 64,
      c.toNat % 64] ++ sixes, fill, ?_, hfill, ?_, ?_⟩
    · simp only [List.cons_append, List.nil_append, List.forall_mem_cons]
      exact ⟨by omega, by omega, by omega, by omega, hsixes⟩
    · rw [symbolOf_eq_letter (by omega), symbolOf_eq_letter (by omega),
        symbolOf_eq_letter (by omega), symbolOf_eq_letter (by omega), htext]
      rfl
    · rw [List.flatMap_append, bits_group, hbits]
      simp only [List.flatMap_cons, List.append_assoc]

/-- **Bytes are spelled in one way**, which is what `encode` writes. -/
theorem spells_iff {t bs : Bytes} : Spells t bs ↔ t = encode bs :=
  ⟨fun h => h.unique (spells_encode bs), fun h => h ▸ spells_encode bs⟩

/-! ### Symbols as bytes -/

theorem bitsOf?_eq_some_iff {b : UInt8} {n : Nat} :
    bitsOf? b = some n ↔ n < 64 ∧ symbolOf n = b := by
  have hread : ∀ m < 64, bitsOf? (symbolOf m) = some m := by decide +kernel
  have hwrite : ∀ k < 256, ∀ m ∈ bitsOf? (UInt8.ofNat k), m < 64 ∧ symbolOf m = UInt8.ofNat k := by
    decide +kernel
  constructor
  · intro h
    have := hwrite b.toNat b.toNat_lt n
    rw [UInt8.ofNat_toNat] at this
    exact this h
  · rintro ⟨hn, rfl⟩
    exact hread n hn

theorem bitsOf?_pad : bitsOf? pad = none := by decide

/-- No symbol is filling. -/
theorem symbolOf_ne_pad {n : Nat} (h : n < 64) : symbolOf n ≠ pad := by
  intro he
  have := bitsOf?_eq_some_iff.mpr ⟨h, he⟩
  rw [bitsOf?_pad] at this
  cases this

theorem bitsAt_eq_ok_iff {offset n : Nat} {b : UInt8} :
    bitsAt offset b = .ok n ↔ n < 64 ∧ symbolOf n = b := by
  rw [← bitsOf?_eq_some_iff, bitsAt]
  cases bitsOf? b <;> simp

theorem bitsOf?_symbolOf {n : Nat} (h : n < 64) : bitsOf? (symbolOf n) = some n :=
  bitsOf?_eq_some_iff.mpr ⟨h, rfl⟩

theorem bitsAt_symbolOf {n : Nat} (h : n < 64) (offset : Nat) :
    bitsAt offset (symbolOf n) = .ok n :=
  bitsAt_eq_ok_iff.mpr ⟨h, rfl⟩

section Group
variable {w x y z : Nat} (hw : w < 64) (hx : x < 64) (hy : y < 64) (hz : z < 64)

include hw hx hy hz in
/-- The three bytes of four symbols are written as these. -/
theorem encode_group (more : Bytes) :
    encode (UInt8.ofNat (w * 4 + x / 16) :: UInt8.ofNat (x % 16 * 16 + y / 4) ::
        UInt8.ofNat (y % 4 * 64 + z) :: more) =
      [w, x, y, z].map symbolOf ++ encode more := by
  have ha := toNat_ofNat_of_lt (n := w * 4 + x / 16) (by omega)
  have hb := toNat_ofNat_of_lt (n := x % 16 * 16 + y / 4) (by omega)
  have hc := toNat_ofNat_of_lt (n := y % 4 * 64 + z) (by omega)
  have h1 : (w * 4 + x / 16) / 4 = w := by omega
  have h2 : (w * 4 + x / 16) % 4 * 16 + (x % 16 * 16 + y / 4) / 16 = x := by omega
  have h3 : (x % 16 * 16 + y / 4) % 16 * 4 + (y % 4 * 64 + z) / 64 = y := by omega
  have h4 : (y % 4 * 64 + z) % 64 = z := by omega
  rw [encode, ha, hb, hc, h1, h2, h3, h4]
  rfl

include hw hx hy in
theorem encode_pair (hspare : y % 4 = 0) :
    encode [UInt8.ofNat (w * 4 + x / 16), UInt8.ofNat (x % 16 * 16 + y / 4)] =
      [w, x, y].map symbolOf ++ [pad] := by
  have ha := toNat_ofNat_of_lt (n := w * 4 + x / 16) (by omega)
  have hb := toNat_ofNat_of_lt (n := x % 16 * 16 + y / 4) (by omega)
  have h1 : (w * 4 + x / 16) / 4 = w := by omega
  have h2 : (w * 4 + x / 16) % 4 * 16 + (x % 16 * 16 + y / 4) / 16 = x := by omega
  have h3 : (x % 16 * 16 + y / 4) % 16 * 4 = y := by omega
  rw [encode, ha, hb, h1, h2, h3]
  rfl

include hw hx in
theorem encode_one (hspare : x % 16 = 0) :
    encode [UInt8.ofNat (w * 4 + x / 16)] = [w, x].map symbolOf ++ [pad, pad] := by
  have ha := toNat_ofNat_of_lt (n := w * 4 + x / 16) (by omega)
  have h1 : (w * 4 + x / 16) / 4 = w := by omega
  have h2 : (w * 4 + x / 16) % 4 * 16 = x := by omega
  rw [encode, ha, h1, h2]
  rfl

end Group

/-! ### The last group -/

/-- How much filling a last group has. -/
def Tail.filled (t : Tail) : Nat := (t.fill.map Prod.snd).getD 0

/-- A last group that can be read consists of symbols with filling behind them. -/
theorem tail_reads {offset index : Nat} {t t' : Tail} {bs : Bytes}
    (h : tail offset index t bs = .ok t') :
    ∃ sixes n, (∀ m ∈ sixes, m < 64) ∧ bs = sixes.map symbolOf ++ List.replicate n pad ∧
      t'.bits = t.bits ++ sixes ∧ t'.filled = t.filled + n ∧ (t.fill.isSome → sixes = []) := by
  fun_induction tail offset index t bs with
  | case1 index t =>
    cases h
    exact ⟨[], 0, nofun, rfl, (List.append_nil _).symm, rfl, fun _ => rfl⟩
  | case2 => cases h
  | case3 index t rest hindex first count hfill ih =>
    obtain ⟨sixes, n, -, hrest, hbits, hfilled, hnone⟩ := ih h
    obtain rfl := hnone rfl
    have hcount : t.filled = count := by
      have := congrArg Prod.snd hfill
      cases hf : t.fill <;> simp_all [Tail.filled]
    refine ⟨[], n + 1, nofun, ?_, hbits, ?_, fun _ => rfl⟩
    · rw [hrest]
      rfl
    · rw [hfilled, hcount]
      show count + 1 + n = count + (n + 1)
      omega
  | case4 => cases h
  | case5 => cases h
  | case6 index t b rest hb hfill m hm ih =>
    obtain ⟨hlt, rfl⟩ := bitsOf?_eq_some_iff.mp hm
    obtain ⟨sixes, n, hsixes, rfl, hbits, hfilled, -⟩ := ih h
    refine ⟨m :: sixes, n, List.forall_mem_cons.mpr ⟨hlt, hsixes⟩, rfl, ?_, hfilled, ?_⟩
    · rw [hbits, List.append_assoc, List.singleton_append]
    · rw [hfill]
      nofun

/-- What a last group of at most four signs becomes is written as that group. -/
theorem encode_of_finish {offset : Nat} {t : Tail} {bs : Bytes}
    (hbits : ∀ n ∈ t.bits, n < 64) (hlen : t.bits.length + t.filled ≤ 4) :
    finish offset t = .ok bs →
      encode bs = t.bits.map symbolOf ++ List.replicate t.filled pad := by
  -- The filling makes the group whole, so the number of symbols settles it.
  have hfour : ¬ t.bits.length < 2 → ¬ (t.filled + t.bits.length) % 4 ≠ 0 →
      t.filled = 4 - t.bits.length := by omega
  fun_cases finish offset t with
  | case1 | case2 | case3 | case5 => exact nofun
  | case4 filled hshort hwhole w x hwx hspare =>
    rintro ⟨⟩
    rw [hfour hshort hwhole, hwx]
    rw [hwx] at hbits
    simp only [List.forall_mem_cons] at hbits
    exact encode_one hbits.1 hbits.2.1 (not_not.mp hspare)
  | case6 filled hshort hwhole w x y hwxy hspare =>
    rintro ⟨⟩
    rw [hfour hshort hwhole, hwxy]
    rw [hwxy] at hbits
    simp only [List.forall_mem_cons] at hbits
    exact encode_pair hbits.1 hbits.2.1 hbits.2.2.1 (not_not.mp hspare)
  | case7 filled hshort hwhole w x y z more hmore =>
    rintro ⟨⟩
    rw [hfour hshort hwhole, hmore]
    rw [hmore] at hbits hlen
    obtain rfl : more = [] := by
      simp only [List.length_cons] at hlen
      exact List.length_eq_zero_iff.mp (by omega)
    simp only [List.forall_mem_cons] at hbits
    exact encode_group hbits.1 hbits.2.1 hbits.2.2.1 hbits.2.2.2.1 []
  | case8 filled hshort hwhole htwo hthree hmore =>
    match hbits' : t.bits with
    | [] | [_] => simp [hbits'] at hshort
    | [w, x] => exact absurd hbits' (htwo w x)
    | [w, x, y] => exact absurd hbits' (hthree w x y)
    | w :: x :: y :: z :: more => exact absurd hbits' (hmore w x y z more)

/-! ### All groups -/

theorem encode_of_quad {offset : Nat} {a b c d : UInt8} {three : Bytes}
    (h : quad offset a b c d = .ok three) (more : Bytes) :
    encode (three ++ more) = [a, b, c, d] ++ encode more := by
  obtain ⟨w, hw, hxyz⟩ := of_bind_eq_ok h
  obtain ⟨x, hx, hyz⟩ := of_bind_eq_ok hxyz
  obtain ⟨y, hy, hlast⟩ := of_bind_eq_ok hyz
  obtain ⟨z, hz, hthree⟩ := of_bind_eq_ok hlast
  obtain ⟨hw64, rfl⟩ := bitsAt_eq_ok_iff.mp hw
  obtain ⟨hx64, rfl⟩ := bitsAt_eq_ok_iff.mp hx
  obtain ⟨hy64, rfl⟩ := bitsAt_eq_ok_iff.mp hy
  obtain ⟨hz64, rfl⟩ := bitsAt_eq_ok_iff.mp hz
  cases hthree
  exact encode_group hw64 hx64 hy64 hz64 more

/-- What bytes can be read as is written as these bytes. -/
theorem encode_of_decodeFrom {offset : Nat} {t bs : Bytes} (h : decodeFrom offset t = .ok bs) :
    encode bs = t := by
  fun_induction decodeFrom offset t generalizing bs with
  | case1 offset a b c d e rest ih =>
    obtain ⟨three, hthree, hrest⟩ := of_bind_eq_ok h
    obtain ⟨more, hmore, hbs⟩ := of_bind_eq_ok hrest
    cases hbs
    rw [encode_of_quad hthree, ih hmore]
    rfl
  | case2 =>
    cases h
    rfl
  | case3 offset last hmany hnone =>
    have hshort : last.length ≤ 4 := by
      match last, hmany with
      | a :: b :: c :: d :: e :: rest, hmany => exact (hmany a b c d e rest rfl).elim
      | [], _ | [_], _ | [_, _], _ | [_, _, _], _ | [_, _, _, _], _ => simp
    obtain ⟨t, ht, hfinish⟩ := of_bind_eq_ok h
    obtain ⟨sixes, n, hsixes, rfl, hbits, hfilled, -⟩ := tail_reads ht
    rw [List.nil_append] at hbits
    rw [show Tail.filled {} = 0 from rfl, Nat.zero_add] at hfilled
    rw [List.length_append, List.length_map, List.length_replicate] at hshort
    rw [← hbits] at hsixes
    rw [encode_of_finish hsixes (by rw [hbits, hfilled]; exact hshort) hfinish, hbits, hfilled]

/-! ### What is written is read -/

theorem quad_symbols {w x y z : Nat} (hw : w < 64) (hx : x < 64) (hy : y < 64) (hz : z < 64)
    (offset : Nat) :
    quad offset (symbolOf w) (symbolOf x) (symbolOf y) (symbolOf z) =
      .ok [UInt8.ofNat (w * 4 + x / 16), UInt8.ofNat (x % 16 * 16 + y / 4),
        UInt8.ofNat (y % 4 * 64 + z)] := by
  simp only [quad, bitsAt_symbolOf hw, bitsAt_symbolOf hx, bitsAt_symbolOf hy, bitsAt_symbolOf hz]
  rfl

/-- Filling is counted from where it starts. -/
theorem tail_filling (offset index first count : Nat) (hindex : 2 ≤ index) {t : Tail}
    (ht : t.fill = some (first, count)) (n : Nat) :
    tail offset index t (List.replicate n pad) =
      .ok { t with fill := some (first, count + n) } := by
  induction n generalizing t index count with
  | zero =>
    rw [List.replicate_zero, tail, Nat.add_zero, ← ht]
  | succ n ih =>
    rw [List.replicate_succ, tail, if_pos rfl, if_neg (by omega), ht]
    refine (ih (index + 1) (count + 1) (by omega) rfl).trans ?_
    rw [Nat.add_assoc, Nat.add_comm 1]

/-- Symbols are taken to those before them, and then the filling is counted. -/
theorem tail_symbols (offset index : Nat) (t : Tail) (ht : t.fill = none) {sixes : List Nat}
    (hsixes : ∀ m ∈ sixes, m < 64) (htwo : 2 ≤ index + sixes.length) (n : Nat) :
    ∃ last, tail offset index t (sixes.map symbolOf ++ List.replicate n pad) =
      .ok { bits := t.bits ++ sixes, last,
            fill := if n = 0 then none else some (index + sixes.length, n) } := by
  induction sixes generalizing index t with
  | nil =>
    refine ⟨t.last, ?_⟩
    cases n with
    | zero => simp [tail, ← ht]
    | succ n =>
      have hindex : 2 ≤ index := htwo
      rw [List.map_nil, List.nil_append, List.replicate_succ, tail, if_pos rfl,
        if_neg (by omega), ht]
      refine (tail_filling offset (index + 1) index 1 (by omega) rfl n).trans ?_
      simp [Nat.add_comm 1]
  | cons m sixes ih =>
    obtain ⟨hm, hsixes⟩ := List.forall_mem_cons.mp hsixes
    rw [List.length_cons] at htwo
    obtain ⟨last, hrest⟩ := ih (index + 1) { bits := t.bits ++ [m], last := symbolOf m } rfl
      hsixes (by omega)
    refine ⟨last, ?_⟩
    rw [List.map_cons, List.cons_append, tail, if_neg (symbolOf_ne_pad hm), ht]
    simp only [bitsOf?_symbolOf hm]
    refine hrest.trans ?_
    simp [Nat.add_assoc, Nat.add_comm 1]

/-- A last group is finished with its symbols and its filling. -/
theorem decodeFrom_last (offset : Nat) {sixes : List Nat} (hsixes : ∀ m ∈ sixes, m < 64)
    (htwo : 2 ≤ sixes.length) {n : Nat} (hshort : sixes.length + n ≤ 4) :
    ∃ last, decodeFrom offset (sixes.map symbolOf ++ List.replicate n pad) =
      finish offset { bits := sixes, last,
                      fill := if n = 0 then none else some (sixes.length, n) } := by
  obtain ⟨last, htail⟩ := tail_symbols offset 0 {} rfl hsixes (by omega) n
  refine ⟨last, ?_⟩
  have hlast : ∀ group : Bytes, 2 ≤ group.length → group.length ≤ 4 →
      decodeFrom offset group = tail offset 0 {} group >>= finish offset := by
    intro group htwo hlen
    match group with
    | [_] | [_, _] | [_, _, _] | [_, _, _, _] => rfl
    | _ :: _ :: _ :: _ :: _ :: _ =>
      simp only [List.length_cons] at hlen
      omega
  have hlen : (sixes.map symbolOf ++ List.replicate n pad).length = sixes.length + n := by simp
  rw [hlast _ (by omega) (by omega), htail, List.nil_append, Nat.zero_add]
  rfl

/-! The flaw of a last group is looked for in its last symbol only. -/

theorem finish_one (offset first w x : Nat) (last : UInt8) :
    finish offset ⟨[w, x], last, some (first, 2)⟩ =
      if x % 16 ≠ 0 then .error (.lastSymbol (offset + 1) last)
      else .ok [UInt8.ofNat (w * 4 + x / 16)] := by
  simp [finish]

theorem finish_pair (offset first w x y : Nat) (last : UInt8) :
    finish offset ⟨[w, x, y], last, some (first, 1)⟩ =
      if y % 4 ≠ 0 then .error (.lastSymbol (offset + 2) last)
      else .ok [UInt8.ofNat (w * 4 + x / 16), UInt8.ofNat (x % 16 * 16 + y / 4)] := by
  simp [finish]

theorem finish_group (offset w x y z : Nat) (last : UInt8) :
    finish offset ⟨[w, x, y, z], last, none⟩ =
      .ok [UInt8.ofNat (w * 4 + x / 16), UInt8.ofNat (x % 16 * 16 + y / 4),
        UInt8.ofNat (y % 4 * 64 + z)] := by
  simp [finish]

theorem encode_ne_nil {bs : Bytes} (h : bs ≠ []) : encode bs ≠ [] := by
  match bs with
  | [_] | [_, _] | _ :: _ :: _ :: _ => exact nofun

/-- **What was written is read back.** -/
theorem decodeFrom_encode (bs : Bytes) (offset : Nat) : decodeFrom offset (encode bs) = .ok bs := by
  fun_induction encode bs generalizing offset with
  | case1 => rfl
  | case2 a =>
    have ha := a.toNat_lt
    have hsixes : ∀ m ∈ [a.toNat / 4, a.toNat % 4 * 16], m < 64 := by
      simp only [List.forall_mem_cons]
      exact ⟨by omega, by omega, nofun⟩
    have hbyte : a.toNat / 4 * 4 + a.toNat % 4 * 16 / 16 = a.toNat := by omega
    obtain ⟨last, hlast⟩ := decodeFrom_last offset hsixes (by simp) (n := 2) (by simp)
    refine hlast.trans ((finish_one offset _ _ _ last).trans ?_)
    rw [if_neg (by omega), hbyte, UInt8.ofNat_toNat]
  | case3 a b =>
    have ha := a.toNat_lt
    have hb := b.toNat_lt
    have hsixes : ∀ m ∈ [a.toNat / 4, a.toNat % 4 * 16 + b.toNat / 16, b.toNat % 16 * 4],
        m < 64 := by
      simp only [List.forall_mem_cons]
      exact ⟨by omega, by omega, by omega, nofun⟩
    have hfirst : a.toNat / 4 * 4 + (a.toNat % 4 * 16 + b.toNat / 16) / 16 = a.toNat := by omega
    have hsecond : (a.toNat % 4 * 16 + b.toNat / 16) % 16 * 16 + b.toNat % 16 * 4 / 4 =
      b.toNat := by omega
    obtain ⟨last, hlast⟩ := decodeFrom_last offset hsixes (by simp) (n := 1) (by simp)
    refine hlast.trans ((finish_pair offset _ _ _ _ last).trans ?_)
    rw [if_neg (by omega), hfirst, hsecond, UInt8.ofNat_toNat, UInt8.ofNat_toNat]
  | case4 a b c rest ih =>
    have ha := a.toNat_lt
    have hb := b.toNat_lt
    have hc := c.toNat_lt
    have hsixes : ∀ m ∈ [a.toNat / 4, a.toNat % 4 * 16 + b.toNat / 16,
        b.toNat % 16 * 4 + c.toNat / 64, c.toNat % 64], m < 64 := by
      simp only [List.forall_mem_cons]
      exact ⟨by omega, by omega, by omega, by omega, nofun⟩
    have hfirst : a.toNat / 4 * 4 + (a.toNat % 4 * 16 + b.toNat / 16) / 16 = a.toNat := by omega
    have hsecond : (a.toNat % 4 * 16 + b.toNat / 16) % 16 * 16 +
      (b.toNat % 16 * 4 + c.toNat / 64) / 4 = b.toNat := by omega
    have hthird : (b.toNat % 16 * 4 + c.toNat / 64) % 4 * 64 + c.toNat % 64 = c.toNat := by omega
    cases hrest : encode rest with
    | nil =>
      obtain rfl : rest = [] := by
        by_contra hne
        exact encode_ne_nil hne hrest
      obtain ⟨last, hlast⟩ := decodeFrom_last offset hsixes (by simp) (n := 0) (by simp)
      refine hlast.trans ((finish_group offset _ _ _ _ last).trans ?_)
      rw [hfirst, hsecond, hthird, UInt8.ofNat_toNat, UInt8.ofNat_toNat, UInt8.ofNat_toNat]
    | cons e more =>
      rw [decodeFrom, ← hrest, ih, quad_symbols (by omega) (by omega) (by omega) (by omega), hfirst,
        hsecond, hthird]
      simp only [UInt8.ofNat_toNat]
      rfl

/-- Nothing that was written has a byte too many. -/
theorem stray?_encode (bs : Bytes) : stray? (encode bs) = none := by
  have hlen : ∀ s : Bytes, (encode s).length % 4 = 0 := by
    intro s
    fun_induction encode s with
    | case1 | case2 | case3 => simp
    | case4 a b c rest ih =>
      simp only [List.length_cons]
      omega
  unfold stray?
  split
  · rw [hlen, if_neg (by omega)]
  · rfl

/-- **What can be read is what was written**, and nothing else. -/
theorem decode_eq_ok_iff {t bs : Bytes} : decode t = .ok bs ↔ t = encode bs := by
  constructor
  · intro h
    unfold decode at h
    split at h
    · cases h
    · exact (encode_of_decodeFrom h).symm
  · rintro rfl
    rw [decode, stray?_encode]
    exact decodeFrom_encode bs 0

/-- All other symbols are refused. -/
theorem exists_decode_error_iff {t : Bytes} :
    (∃ flaw, decode t = .error flaw) ↔ ∀ bs, ¬ Spells t bs := by
  simp only [spells_iff, ← decode_eq_ok_iff]
  cases decode t <;> simp

/-! ### Texts in base 64 -/

theorem lt_of_mem_encode {bs : Bytes} {b : UInt8} (h : b ∈ encode bs) : b.toNat < 0x80 := by
  have hletter : ∀ n < 64, (letter n).toNat < 0x80 := by decide +kernel
  obtain ⟨sixes, fill, hsixes, -, htext, -⟩ := spells_encode bs
  rw [htext, List.mem_append] at h
  rcases h with h | h
  · obtain ⟨n, hn, rfl⟩ := List.mem_map.mp h
    exact hletter n (hsixes n hn)
  · rw [List.eq_of_mem_replicate h]
    decide

@[simp]
theorem encodeText_encodeText (s : String) :
    Text.Utf8.encodeText (encodeText s) = encode (Text.Utf8.encodeText s) := by
  rw [encodeText, Text.Utf8.encodeText, String.toList_ofList]
  exact Text.Utf8.encode_map_ofNat fun b => lt_of_mem_encode

end Stencil.Encoding.Base64

namespace Stencil.Function
open Encoding Text.Utf8

theorem b64Encode_eq_iff {s t : String} :
    b64Encode s = t ↔ Base64.encode (encodeText s) = encodeText t := by
  rw [← Base64.encodeText_encodeText]
  exact ⟨congrArg encodeText, encodeText_inj⟩

theorem b64Decode_eq_ok_iff {s t : String} : b64Decode t = .ok s ↔ b64Encode s = t := by
  rw [b64Encode_eq_iff, @eq_comm Bytes, ← Base64.decode_eq_ok_iff, b64Decode]
  cases Base64.decode (encodeText t) with
  | error flaw => exact ⟨nofun, nofun⟩
  | ok bytes =>
    rw [Except.ok.injEq, @eq_comm Bytes bytes, ← decodeText_eq_ok_iff]
    cases hread : decodeText bytes <;> simp [hread]

/-- **`b64Decode` undoes `b64Encode`, and succeeds on nothing else.** A text is decoded exactly if
its bytes spell those of a text. It is refused for its symbols exactly if it spells no bytes at all,
and for what is decoded exactly if it spells bytes that are no text. -/
theorem b64Decode_exact (s t : String) :
    b64Decode (b64Encode s) = .ok s ∧
      (b64Decode t = .ok s ↔ b64Encode s = t) ∧
      (b64Decode t = .ok s ↔ Base64.Spells (encodeText t) (encodeText s)) ∧
      ((∃ flaw, b64Decode t = .error (.base64 flaw)) ↔
        ∀ bytes, ¬ Base64.Spells (encodeText t) bytes) ∧
      ((∃ flaw, b64Decode t = .error (.decoded flaw)) ↔
        ∃ bytes, Base64.Spells (encodeText t) bytes ∧ ¬ IsText bytes) := by
  refine ⟨b64Decode_eq_ok_iff.mpr rfl, b64Decode_eq_ok_iff, ?_, ?_, ?_⟩
  · rw [b64Decode_eq_ok_iff, b64Encode_eq_iff, Base64.spells_iff, @eq_comm Bytes]
  · rw [← Base64.exists_decode_error_iff, b64Decode]
    cases Base64.decode (encodeText t) with
    | error flaw => simp
    | ok bytes => cases hread : decodeText bytes <;> simp [hread]
  · simp only [Base64.spells_iff, ← Base64.decode_eq_ok_iff, ← exists_decodeText_error_iff]
    rw [b64Decode]
    cases Base64.decode (encodeText t) with
    | error flaw => simp
    | ok bytes => cases hread : decodeText bytes <;> simp [hread]

end Stencil.Function
