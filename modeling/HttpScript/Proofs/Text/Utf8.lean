import HttpScript.Text.Utf8
import Mathlib.Tactic

/-!
# Decoding and encoding

A text is what its bytes decode to, and no other bytes decode to it. The well-formed sequences are
those of table 3-7 of the Unicode standard: they stand between the decoder, which takes a byte at a
time, and the bytes of a character.
-/
namespace HttpScript.Text.Utf8

/-- The least byte that may follow a first byte. -/
def leastSecond (b : UInt8) : UInt8 :=
  if b.toNat = 0xE0 then 0xA0 else if b.toNat = 0xF0 then 0x90 else 0x80

/-- The greatest byte that may follow a first byte. -/
def greatestSecond (b : UInt8) : UInt8 :=
  if b.toNat = 0xED then 0x9F else if b.toNat = 0xF4 then 0x8F else 0xBF

/-- A byte that may follow the first byte `b`. -/
def IsSecond (b d : UInt8) : Prop :=
  (leastSecond b).toNat ≤ d.toNat ∧ d.toNat ≤ (greatestSecond b).toNat

/-- A byte that continues a character. -/
def IsTail (d : UInt8) : Prop := 0x80 ≤ d.toNat ∧ d.toNat ≤ 0xBF

/-- The well-formed byte sequences, by their first byte, with the code points they stand for. -/
inductive Sequence : UInt8 → List UInt8 → Nat → Prop
  | one {b : UInt8} (hb : b.toNat < 0x80) : Sequence b [] b.toNat
  | two {b d : UInt8} (hb : 0xC2 ≤ b.toNat ∧ b.toNat < 0xE0) (hd : IsTail d) :
      Sequence b [d] (64 * (b.toNat - 0xC0) + d.toNat % 64)
  | three {b d e : UInt8} (hb : 0xE0 ≤ b.toNat ∧ b.toNat < 0xF0) (hd : IsSecond b d)
      (he : IsTail e) :
      Sequence b [d, e] (64 * (64 * (b.toNat - 0xE0) + d.toNat % 64) + e.toNat % 64)
  | four {b d e f : UInt8} (hb : 0xF0 ≤ b.toNat ∧ b.toNat < 0xF5) (hd : IsSecond b d)
      (he : IsTail e) (hf : IsTail f) :
      Sequence b [d, e, f]
        (64 * (64 * (64 * (b.toNat - 0xF0) + d.toNat % 64) + e.toNat % 64) + f.toNat % 64)

/-- The bounds of a second byte, as numbers. -/
theorem isSecond_iff {b d : UInt8} :
    IsSecond b d ↔ IsTail d ∧ (b.toNat = 0xE0 → 0xA0 ≤ d.toNat) ∧
      (b.toNat = 0xF0 → 0x90 ≤ d.toNat) ∧ (b.toNat = 0xED → d.toNat ≤ 0x9F) ∧
      (b.toNat = 0xF4 → d.toNat ≤ 0x8F) := by
  have hleast : (leastSecond b).toNat =
      if b.toNat = 0xE0 then 0xA0 else if b.toNat = 0xF0 then 0x90 else 0x80 := by
    unfold leastSecond
    split_ifs <;> rfl
  have hgreatest : (greatestSecond b).toNat =
      if b.toNat = 0xED then 0x9F else if b.toNat = 0xF4 then 0x8F else 0xBF := by
    unfold greatestSecond
    split_ifs <;> rfl
  rw [IsSecond, IsTail, hleast, hgreatest]
  split_ifs <;> omega

/-! ### Sequences and characters -/

theorem Sequence.isValidChar {b : UInt8} {t : List UInt8} {v : Nat} (h : Sequence b t v) :
    v.isValidChar := by
  cases h <;> simp only [isSecond_iff, IsTail, Nat.isValidChar] at * <;> omega

theorem toNat_ofNat {v : Nat} (h : v.isValidChar) : (Char.ofNat v).val.toNat = v := by
  rw [Char.ofNat, dif_pos h]
  rfl

theorem ofNat_eq {b : UInt8} {n : Nat} (h : n = b.toNat) : UInt8.ofNat n = b := by
  rw [h, UInt8.ofNat_toNat]

theorem Sequence.encode {b : UInt8} {t : List UInt8} {v : Nat} (h : Sequence b t v) :
    String.utf8EncodeChar (Char.ofNat v) = b :: t := by
  have hv := toNat_ofNat h.isValidChar
  rw [String.utf8EncodeChar, hv]
  cases h with
  | one hb =>
    rw [if_pos (by omega), ofNat_eq rfl]
  | @two d hb hd =>
    simp only [IsTail] at hd
    rw [if_neg (by omega), if_pos (by omega), @ofNat_eq b _ (by omega), @ofNat_eq d _ (by omega)]
  | @three d e hb hd he =>
    obtain ⟨hd, hleast, -⟩ := isSecond_iff.1 hd
    simp only [IsTail] at hd he
    have hlong : 0x800 ≤ 64 * (64 * (b.toNat - 0xE0) + d.toNat % 64) + e.toNat % 64 := by omega
    clear hleast hv
    rw [if_neg (by omega), if_neg (by omega), if_pos (by omega), @ofNat_eq b _ (by omega),
      @ofNat_eq d _ (by omega), @ofNat_eq e _ (by omega)]
  | @four d e f hb hd he hf =>
    obtain ⟨hd, -, hleast, -⟩ := isSecond_iff.1 hd
    simp only [IsTail] at hd he hf
    have hlong : 0x10000 ≤
        64 * (64 * (64 * (b.toNat - 0xF0) + d.toNat % 64) + e.toNat % 64) + f.toNat % 64 := by
      omega
    clear hleast hv
    rw [if_neg (by omega), if_neg (by omega), if_neg (by omega), @ofNat_eq b _ (by omega),
      @ofNat_eq d _ (by omega), @ofNat_eq e _ (by omega), @ofNat_eq f _ (by omega)]

theorem toNat_byte {n : Nat} (h : n < 256) : (UInt8.ofNat n).toNat = n :=
  UInt8.toNat_ofNat_of_lt h

theorem exists_sequence (c : Char) :
    ∃ b t, String.utf8EncodeChar c = b :: t ∧ Sequence b t c.val.toNat := by
  have hvalid : c.val.toNat.isValidChar := c.valid
  rw [String.utf8EncodeChar]
  generalize c.val.toNat = v at hvalid
  simp only [Nat.isValidChar] at hvalid
  split_ifs with h1 h2 h3
  · have hb := @toNat_byte v (by omega)
    have h := Sequence.one (b := UInt8.ofNat v) (by omega)
    refine ⟨_, _, rfl, ?_⟩
    convert h using 1
    omega
  · have hb := @toNat_byte (v / 64 % 32 + 192) (by omega)
    have hd := @toNat_byte (v % 64 + 128) (by omega)
    have h := Sequence.two (b := UInt8.ofNat (v / 64 % 32 + 192)) (d := UInt8.ofNat (v % 64 + 128))
      (by omega) (by simp only [IsTail]; omega)
    refine ⟨_, _, rfl, ?_⟩
    convert h using 1
    omega
  · have hb := @toNat_byte (v / 4096 % 16 + 224) (by omega)
    have hd := @toNat_byte (v / 64 % 64 + 128) (by omega)
    have he := @toNat_byte (v % 64 + 128) (by omega)
    have h := Sequence.three (b := UInt8.ofNat (v / 4096 % 16 + 224))
      (d := UInt8.ofNat (v / 64 % 64 + 128)) (e := UInt8.ofNat (v % 64 + 128))
      (by omega) (by simp only [isSecond_iff, IsTail]; omega) (by simp only [IsTail]; omega)
    refine ⟨_, _, rfl, ?_⟩
    convert h using 1
    omega
  · have hb := @toNat_byte (v / 262144 % 8 + 240) (by omega)
    have hd := @toNat_byte (v / 4096 % 64 + 128) (by omega)
    have he := @toNat_byte (v / 64 % 64 + 128) (by omega)
    have hf := @toNat_byte (v % 64 + 128) (by omega)
    have h := Sequence.four (b := UInt8.ofNat (v / 262144 % 8 + 240))
      (d := UInt8.ofNat (v / 4096 % 64 + 128)) (e := UInt8.ofNat (v / 64 % 64 + 128))
      (f := UInt8.ofNat (v % 64 + 128)) (by omega) (by simp only [isSecond_iff, IsTail]; omega)
      (by simp only [IsTail]; omega) (by simp only [IsTail]; omega)
    refine ⟨_, _, rfl, ?_⟩
    convert h using 1
    omega

/-! ### The decoder -/

section
variable {count : Nat} {low high : UInt8} {value used : Nat} {rest : List UInt8}

theorem continuation_cons {d : UInt8} (hlow : low.toNat ≤ d.toNat) (hhigh : d.toNat ≤ high.toNat) :
    continuation (count + 1) low high value used (d :: rest) =
      continuation count 0x80 0xBF (64 * value + d.toNat % 64) (used + 1) rest := by
  rw [continuation, if_pos]
  simp only [Bool.and_eq_true, decide_eq_true_eq, UInt8.le_iff_toNat_le]
  exact ⟨hlow, hhigh⟩

theorem continuation_tail {d : UInt8} (hd : IsTail d) :
    continuation (count + 1) 0x80 0xBF value used (d :: rest) =
      continuation count 0x80 0xBF (64 * value + d.toNat % 64) (used + 1) rest :=
  @continuation_cons count 0x80 0xBF value used rest d hd.1 hd.2

theorem continuation_eq_char {c : Char} {n : Nat}
    (h : continuation (count + 1) low high value used rest = .char c n) :
    ∃ d tail, rest = d :: tail ∧ low.toNat ≤ d.toNat ∧ d.toNat ≤ high.toNat ∧
      continuation count 0x80 0xBF (64 * value + d.toNat % 64) (used + 1) tail = .char c n := by
  cases rest with
  | nil => cases h
  | cons d tail =>
    rw [continuation] at h
    split at h
    · rename_i hd
      simp only [Bool.and_eq_true, decide_eq_true_eq, UInt8.le_iff_toNat_le] at hd
      exact ⟨d, tail, rfl, hd.1, hd.2, h⟩
    · cases h

/-- What was read as a character, or refused, stays so when more follows. -/
theorem continuation_append
    (h : ∀ n, continuation count low high value used rest ≠ .malformed n .endOfData)
    (more : List UInt8) :
    continuation count low high value used (rest ++ more) =
      continuation count low high value used rest := by
  induction count generalizing low high value used rest with
  | zero => rfl
  | succ count ih =>
    cases rest with
    | nil => exact absurd rfl (h used)
    | cons d tail =>
      rw [List.cons_append, continuation, continuation]
      split
      · rename_i hd
        refine ih fun n hn => h n ?_
        rw [continuation, if_pos hd, hn]
      · rfl

end

section
variable {b : UInt8} {rest : List UInt8}

/-- What a first byte makes of the bytes after it. -/
inductive FirstByte (b : UInt8) : Prop
  | one (hb : b.toNat < 0x80)
  | two (hb : 0xC2 ≤ b.toNat ∧ b.toNat < 0xE0)
  | three (hb : 0xE0 ≤ b.toNat ∧ b.toNat < 0xF0)
  | four (hb : 0xF0 ≤ b.toNat ∧ b.toNat < 0xF5)
  | other (hlow : 0x80 ≤ b.toNat) (hgap : b.toNat < 0xC2 ∨ 0xF5 ≤ b.toNat)

theorem firstByte (b : UInt8) : FirstByte b := by
  by_cases h1 : b.toNat < 0x80
  · exact .one h1
  by_cases h2 : 0xC2 ≤ b.toNat ∧ b.toNat < 0xE0
  · exact .two h2
  by_cases h3 : 0xE0 ≤ b.toNat ∧ b.toNat < 0xF0
  · exact .three h3
  by_cases h4 : 0xF0 ≤ b.toNat ∧ b.toNat < 0xF5
  · exact .four h4
  · exact .other (by omega) (by omega)

theorem next_one (hb : b.toNat < 0x80) : next b rest = .char (Char.ofNat b.toNat) 0 := by
  rw [next, if_pos hb]

theorem next_two (hb : 0xC2 ≤ b.toNat ∧ b.toNat < 0xE0) :
    next b rest = continuation 1 0x80 0xBF (b.toNat - 0xC0) 0 rest := by
  rw [next, if_neg (by omega), if_neg (by omega), if_pos (by omega)]

theorem next_three (hb : 0xE0 ≤ b.toNat ∧ b.toNat < 0xF0) :
    next b rest =
      continuation 2 (leastSecond b) (greatestSecond b) (b.toNat - 0xE0) 0 rest := by
  have hfour : b.toNat ≠ 0xF0 ∧ b.toNat ≠ 0xF4 := by omega
  rw [next, if_neg (by omega), if_neg (by omega), if_neg (by omega), leastSecond, greatestSecond]
  by_cases hleast : b.toNat = 0xE0
  · simp [hleast]
  by_cases hgreatest : b.toNat = 0xED
  · simp [hgreatest]
  · simp [hleast, hgreatest, hfour, hb.2]

theorem next_four (hb : 0xF0 ≤ b.toNat ∧ b.toNat < 0xF5) :
    next b rest =
      continuation 3 (leastSecond b) (greatestSecond b) (b.toNat - 0xF0) 0 rest := by
  have hthree : b.toNat ≠ 0xE0 ∧ b.toNat ≠ 0xED ∧ ¬ b.toNat < 0xF0 := by omega
  rw [next, if_neg (by omega), if_neg (by omega), if_neg (by omega), leastSecond, greatestSecond]
  by_cases hleast : b.toNat = 0xF0
  · simp [hleast]
  by_cases hgreatest : b.toNat = 0xF4
  · simp [hgreatest]
  · have hbetween : b.toNat < 0xF4 := by omega
    simp [hthree, hleast, hgreatest, hbetween]

theorem next_other (hlow : 0x80 ≤ b.toNat) (hgap : b.toNat < 0xC2 ∨ 0xF5 ≤ b.toNat) :
    next b rest = .malformed 0 .startByte := by
  rw [next]
  simp only [beq_iff_eq]
  split_ifs <;> first | rfl | omega

theorem next_of_sequence {t : List UInt8} {v : Nat} (h : Sequence b t v) (tail : List UInt8) :
    next b (t ++ tail) = .char (Char.ofNat v) t.length := by
  cases h with
  | one hb => exact next_one hb
  | two hb hd =>
    rw [next_two hb, List.singleton_append, continuation_tail hd]
    rfl
  | three hb hd he =>
    rw [next_three hb, List.cons_append, continuation_cons hd.1 hd.2, List.singleton_append,
      continuation_tail he]
    rfl
  | four hb hd he hf =>
    rw [next_four hb, List.cons_append, continuation_cons hd.1 hd.2, List.cons_append,
      continuation_tail he, List.singleton_append, continuation_tail hf]
    rfl

theorem sequence_of_next {c : Char} {used : Nat} (h : next b rest = .char c used) :
    ∃ t tail v, rest = t ++ tail ∧ t.length = used ∧ Sequence b t v ∧ c = Char.ofNat v := by
  cases firstByte b with
  | one hb =>
    rw [next_one hb] at h
    cases h
    exact ⟨[], rest, _, rfl, rfl, .one hb, rfl⟩
  | two hb =>
    rw [next_two hb] at h
    obtain ⟨d, tail, rfl, hlow, hhigh, h⟩ := continuation_eq_char h
    cases h
    exact ⟨[d], tail, _, rfl, rfl, .two hb ⟨hlow, hhigh⟩, rfl⟩
  | three hb =>
    rw [next_three hb] at h
    obtain ⟨d, tail, rfl, hlow, hhigh, h⟩ := continuation_eq_char h
    obtain ⟨e, tail, rfl, helow, hehigh, h⟩ := continuation_eq_char h
    cases h
    exact ⟨[d, e], tail, _, rfl, rfl, .three hb ⟨hlow, hhigh⟩ ⟨helow, hehigh⟩, rfl⟩
  | four hb =>
    rw [next_four hb] at h
    obtain ⟨d, tail, rfl, hlow, hhigh, h⟩ := continuation_eq_char h
    obtain ⟨e, tail, rfl, helow, hehigh, h⟩ := continuation_eq_char h
    obtain ⟨f, tail, rfl, hflow, hfhigh, h⟩ := continuation_eq_char h
    cases h
    exact ⟨[d, e, f], tail, _, rfl, rfl,
      .four hb ⟨hlow, hhigh⟩ ⟨helow, hehigh⟩ ⟨hflow, hfhigh⟩, rfl⟩
  | other hlow hgap =>
    rw [next_other hlow hgap] at h
    cases h

theorem next_append (h : ∀ n, next b rest ≠ .malformed n .endOfData) (more : List UInt8) :
    next b (rest ++ more) = next b rest := by
  cases firstByte b with
  | one hb => rw [next_one hb, next_one hb]
  | two hb =>
    rw [next_two hb] at h ⊢
    rw [next_two hb, continuation_append h]
  | three hb =>
    rw [next_three hb] at h ⊢
    rw [next_three hb, continuation_append h]
  | four hb =>
    rw [next_four hb] at h ⊢
    rw [next_four hb, continuation_append h]
  | other hlow hgap => rw [next_other hlow hgap, next_other hlow hgap]

end

theorem next_encode (c : Char) : ∃ b t, String.utf8EncodeChar c = b :: t ∧
    ∀ tail, next b (t ++ tail) = .char c t.length := by
  obtain ⟨b, t, hencode, hsequence⟩ := exists_sequence c
  refine ⟨b, t, hencode, fun tail => ?_⟩
  rw [next_of_sequence hsequence]
  exact congrArg (Piece.char · t.length) (Char.ofNat_toNat c)

theorem encode_of_next {b : UInt8} {rest : List UInt8} {c : Char} {used : Nat}
    (h : next b rest = .char c used) :
    b :: rest = String.utf8EncodeChar c ++ rest.drop used := by
  obtain ⟨t, tail, v, rfl, rfl, hsequence, rfl⟩ := sequence_of_next h
  rw [hsequence.encode, List.drop_left, List.cons_append]

@[simp] theorem encode_nil : encode [] = [] := rfl

@[simp] theorem encode_cons (c : Char) (s : List Char) :
    encode (c :: s) = String.utf8EncodeChar c ++ encode s := rfl

@[simp] theorem encode_append (s t : List Char) : encode (s ++ t) = encode s ++ encode t :=
  List.flatMap_append

/-- Bytes decode to a text exactly when the text encodes to them. -/
theorem decodeFrom_eq_ok_iff {position : Nat} {bytes : List UInt8} {s : List Char} :
    decodeFrom position bytes = .ok s ↔ encode s = bytes := by
  constructor
  · intro h
    fun_induction decodeFrom position bytes generalizing s with
    | case1 => cases h; rfl
    | case2 position b rest c used hnext ih =>
      cases hrest : decodeFrom (position + used + 1) (rest.drop used) with
      | error fault => rw [hrest] at h; cases h
      | ok s' =>
        rw [hrest] at h
        cases h
        rw [encode_of_next hnext, encode_cons, ih hrest]
    | case3 => cases h
  · intro h
    induction s generalizing position bytes with
    | nil =>
      subst h
      rw [encode_nil, decodeFrom]
    | cons c s ih =>
      obtain ⟨b, t, hencode, hnext⟩ := next_encode c
      rw [← h, encode_cons, hencode, List.cons_append, decodeFrom, hnext]
      simp only [List.drop_left, ih rfl]
      rfl

theorem decode_eq_ok_iff {bytes : List UInt8} {s : List Char} :
    decode bytes = .ok s ↔ encode s = bytes := decodeFrom_eq_ok_iff

/-- One well-formed sequence after another, up to the end. -/
inductive WellFormed : List UInt8 → Prop
  | nil : WellFormed []
  | cons {b : UInt8} {t rest : List UInt8} {v : Nat} (first : Sequence b t v)
      (more : WellFormed rest) : WellFormed (b :: t ++ rest)

theorem wellFormed_iff {bytes : List UInt8} : WellFormed bytes ↔ ∃ s, encode s = bytes := by
  constructor
  · intro h
    induction h with
    | nil => exact ⟨[], rfl⟩
    | cons first _ ih =>
      obtain ⟨s, rfl⟩ := ih
      exact ⟨_ :: s, by rw [encode_cons, first.encode]⟩
  · rintro ⟨s, rfl⟩
    induction s with
    | nil => exact .nil
    | cons c s ih =>
      obtain ⟨b, t, hencode, hsequence⟩ := exists_sequence c
      rw [encode_cons, hencode]
      exact .cons hsequence ih

/-- The decoder refuses what is not well-formed, and nothing else. -/
theorem exists_decode_error_iff {bytes : List UInt8} :
    (∃ fault, decode bytes = .error fault) ↔ ¬ WellFormed bytes := by
  rw [wellFormed_iff]
  constructor
  · rintro ⟨fault, hfault⟩ ⟨s, hs⟩
    rw [decode_eq_ok_iff.2 hs] at hfault
    cases hfault
  · intro hnone
    cases h : decode bytes with
    | error fault => exact ⟨fault, rfl⟩
    | ok s => exact absurd ⟨s, decode_eq_ok_iff.1 h⟩ hnone

/-- A text stands before others in bytes as it stands before others in their text. -/
theorem exists_of_encode_append {s t : List Char} {bytes : List UInt8}
    (h : encode s ++ bytes = encode t) : ∃ u, t = s ++ u ∧ encode u = bytes := by
  induction s generalizing t with
  | nil => exact ⟨t, rfl, h.symm⟩
  | cons c s ih =>
    obtain ⟨b, w, hencode, hnext⟩ := next_encode c
    cases t with
    | nil =>
      rw [encode_cons, hencode] at h
      cases h
    | cons d t =>
      obtain ⟨b', w', hencode', hnext'⟩ := next_encode d
      rw [encode_cons, hencode, encode_cons, hencode', List.append_assoc, List.cons_append,
        List.cons_append] at h
      obtain ⟨rfl, hrest⟩ := List.cons.inj h
      have hsame := hnext (encode s ++ bytes)
      rw [hrest, hnext'] at hsame
      obtain ⟨rfl, hlength⟩ := Piece.char.inj hsame
      rw [hencode] at hencode'
      obtain ⟨-, rfl⟩ := List.cons.inj hencode'
      obtain ⟨u, rfl, hu⟩ := ih (List.append_cancel_left hrest)
      exact ⟨u, rfl, hu⟩

/-- A fault stands behind what decodes, and the bytes from there on begin no character. -/
theorem decodeFrom_eq_error {position : Nat} {bytes : List UInt8} {fault : Fault}
    (h : decodeFrom position bytes = .error fault) :
    ∃ s b rest used, bytes = encode s ++ b :: rest ∧
      fault.position = position + (encode s).length ∧
      next b rest = .malformed used fault.reason := by
  fun_induction decodeFrom position bytes with
  | case1 => cases h
  | case2 position b rest c used hnext ih =>
    cases hrest : decodeFrom (position + used + 1) (rest.drop used) with
    | ok s' => rw [hrest] at h; cases h
    | error fault' =>
      rw [hrest] at h
      cases h
      obtain ⟨s, b', rest', used', hbytes, hposition, hmalformed⟩ := ih hrest
      have hlength : used + 1 = (String.utf8EncodeChar c).length := by
        obtain ⟨t, tail, v, -, rfl, hsequence, rfl⟩ := sequence_of_next hnext
        rw [hsequence.encode, List.length_cons]
      refine ⟨c :: s, b', rest', used', ?_, ?_, hmalformed⟩
      · rw [encode_of_next hnext, hbytes, encode_cons, List.append_assoc]
      · rw [hposition, encode_cons, List.length_append]
        omega
  | case3 position b rest used reason hnext =>
    cases h
    exact ⟨[], b, rest, used, rfl, rfl, hnext⟩

/-- Bytes that are refused before their end do not begin a text. -/
theorem encode_ne_of_refused {bytes more : List UInt8} {fault : Fault}
    (h : decode bytes = .error fault) (hreason : fault.reason ≠ .endOfData) (s : List Char) :
    encode s ≠ bytes ++ more := by
  intro hs
  obtain ⟨t, b, rest, used, rfl, -, hmalformed⟩ := decodeFrom_eq_error h
  rw [List.append_assoc] at hs
  obtain ⟨u, -, hu⟩ := exists_of_encode_append hs.symm
  cases u with
  | nil => cases hu
  | cons c u =>
    obtain ⟨b', w, hencode, hnext⟩ := next_encode c
    rw [encode_cons, hencode, List.cons_append, List.cons_append] at hu
    obtain ⟨rfl, hrest⟩ := List.cons.inj hu
    have hstays := @next_append b' rest (fun n hn => by
      rw [hmalformed] at hn
      exact hreason (Piece.malformed.inj hn).2) more
    rw [← hrest, hnext, hmalformed] at hstays
    cases hstays

/-- A text whose first characters are known is told from the bytes behind them. -/
theorem map_append_eq_ok_iff {cs s : List Char} {bytes : List UInt8} {x : Except Fault (List Char)}
    (hx : ∀ u, x = .ok u ↔ encode u = bytes) :
    x.map (cs ++ ·) = .ok s ↔ encode s = encode cs ++ bytes := by
  constructor
  · intro h
    cases x with
    | error fault => cases h
    | ok u =>
      cases h
      rw [encode_append, (hx u).1 rfl]
  · intro h
    obtain ⟨u, rfl, hu⟩ := exists_of_encode_append h.symm
    rw [(hx u).2 hu]
    rfl

/-- Bytes that are read in parts decode like all of them at once. -/
theorem decodeParts_eq_ok_iff {size : Nat} {carried bytes : List UInt8} {s : List Char} :
    decodeParts size carried bytes = .ok s ↔ encode s = carried ++ bytes := by
  fun_induction decodeParts size carried bytes generalizing s with
  | case1 carried => rw [List.append_nil, decode_eq_ok_iff]
  | case2 =>
    rename_i carried b more part rest cs hpart ih
    have hbytes : carried ++ b :: more = encode cs ++ rest := by
      rw [decode_eq_ok_iff.1 hpart, List.append_assoc, List.cons_append, List.take_append_drop]
    rw [hbytes]
    exact map_append_eq_ok_iff fun u => ih
  | case3 =>
    rename_i carried b more part rest fault hpart hreason cs htake ih
    have hbytes : carried ++ b :: more = encode cs ++ (part.drop fault.position ++ rest) := by
      rw [decode_eq_ok_iff.1 htake, ← List.append_assoc, List.take_append_drop,
        List.append_assoc, List.cons_append, List.take_append_drop]
    rw [hbytes]
    exact map_append_eq_ok_iff fun u => ih
  | case4 =>
    -- what stands before the fault of a part decodes
    rename_i carried b more part fault hpart hreason fault' htake
    obtain ⟨t, d, left, used, hbytes, hposition, -⟩ := decodeFrom_eq_error hpart
    rw [Nat.zero_add] at hposition
    rw [hbytes, hposition, List.take_left, decode_eq_ok_iff.2 rfl] at htake
    cases htake
  | case5 =>
    rename_i carried b more part fault hpart hreason
    have hbytes : carried ++ b :: more = part ++ more.drop (size - 1) := by
      rw [List.append_assoc, List.cons_append, List.take_append_drop]
    rw [hbytes]
    have hrefused : encode s ≠ part ++ more.drop (size - 1) :=
      encode_ne_of_refused hpart (fun h => hreason (by rw [h]; rfl)) s
    constructor
    · intro h
      cases h
    · intro h
      exact absurd h hrefused

end HttpScript.Text.Utf8
