import OptionBindings.Xml.Encoding

/-!
# Texts in UTF-8

The UTF-8 of a text is read back as the characters of the text, as long as a document may hold all of
them.
-/

namespace OptionBindings.Xml

/-- The characters of XML 1.0: white space, and what is neither a control character, nor a surrogate,
nor one of the two last code points of the first plane. -/
def IsXmlChar (c : Char) : Prop :=
  c = '\t' ∨ c = '\n' ∨ c = '\r' ∨ (0x20 ≤ c.toNat ∧ c.toNat ≤ 0xd7ff) ∨
    (0xe000 ≤ c.toNat ∧ c.toNat ≤ 0xfffd) ∨ (0x10000 ≤ c.toNat ∧ c.toNat ≤ 0x10ffff)

instance (c : Char) : Decidable (IsXmlChar c) :=
  inferInstanceAs (Decidable (_ ∨ _))

theorem isLegal_of_isXmlChar {c : Char} (h : IsXmlChar c) : isLegal c := by
  simp only [isLegal, Bool.or_eq_true, Bool.and_eq_true, decide_eq_true_eq]
  rcases h with h | h | h | h | h | h
  · exact .inl (.inl (.inl h))
  · exact .inl (.inl (.inr h))
  · exact .inl (.inr h)
  all_goals exact .inr (by omega)

theorem Cell.ofNat_toNat {c : Char} (h : isLegal c) : Cell.ofNat c.toNat = .char c := by
  have hvalid : c.toNat.isValidChar := c.valid
  have hchar : Char.ofNatAux c.toNat hvalid = c := by
    have hofNat := Char.ofNat_toNat c
    rwa [Char.ofNat, dif_pos hvalid] at hofNat
  rw [Cell.ofNat, dif_pos hvalid, hchar]
  exact if_pos h

namespace Encoding

theorem longCell_toNat {c : Char} (h : isLegal c) {least : Nat} (hleast : least ≤ c.toNat)
    {trails : List UInt8} (htrails : trails.all isTrail) :
    longCell least c.toNat trails = .char c := by
  simp only [longCell, htrails, hleast, decide_true, Bool.and_self, if_true, Cell.ofNat_toNat h]

theorem toNat_byte {n : Nat} (h : n < 0x100) : (UInt8.ofNat n).toNat = n :=
  UInt8.toNat_ofNat_of_lt' h

/-- The byte that gives six bits of a character behind its first byte. -/
def trail (n : Nat) : UInt8 :=
  UInt8.ofNat (n % 0x40 + 0x80)

theorem toNat_trail (n : Nat) : (trail n).toNat = n % 0x40 + 0x80 :=
  toNat_byte (by omega)

theorem isTrail_trail (n : Nat) : isTrail (trail n) := by
  simp only [isTrail, Bool.and_eq_true, decide_eq_true_eq, UInt8.le_iff_toNat_le,
    UInt8.lt_iff_toNat_lt, toNat_trail, UInt8.reduceToNat]
  omega

theorem bits_trail (n : Nat) : bits (trail n) = n % 0x40 := by
  rw [bits, toNat_trail]
  omega

section

variable {c : Char} {lead : Nat}

theorem decodeUtf8_one (h : isLegal c) (hlt : c.toNat < 0x80) (rest : List UInt8) :
    decodeUtf8 (UInt8.ofNat c.toNat :: rest) = .char c :: decodeUtf8 rest := by
  have htoNat : (UInt8.ofNat c.toNat).toNat = c.toNat := toNat_byte (by omega)
  rw [decodeUtf8.eq_def]
  simp only [UInt8.lt_iff_toNat_lt, UInt8.reduceToNat, htoNat, hlt, if_true, Cell.ofNat_toNat h]

theorem decodeUtf8_two (h : isLegal c) (hlead : lead < 0x20) (n : Nat)
    (hvalue : lead * 0x40 + n % 0x40 = c.toNat) (hleast : 0x80 ≤ c.toNat) (rest : List UInt8) :
    decodeUtf8 (UInt8.ofNat (lead + 0xc0) :: trail n :: rest) = .char c :: decodeUtf8 rest := by
  have htoNat : (UInt8.ofNat (lead + 0xc0)).toNat = lead + 0xc0 := toNat_byte (by omega)
  have hrange : ¬lead + 0xc0 < 0x80 ∧ ¬lead + 0xc0 < 0xc0 ∧ ¬0xf5 ≤ lead + 0xc0 ∧
      lead + 0xc0 < 0xe0 := by
    omega
  have hcell : longCell 0x80 (lead * 0x40 + bits (trail n)) [trail n] = .char c := by
    rw [bits_trail, hvalue]
    exact longCell_toNat h hleast (by simp [isTrail_trail])
  rw [decodeUtf8.eq_def]
  simp only [UInt8.lt_iff_toNat_lt, UInt8.le_iff_toNat_le, UInt8.reduceToNat, htoNat, hrange,
    Nat.add_sub_cancel, hcell, if_false, if_true, decide_false, Bool.or_self, Bool.false_eq_true]

theorem decodeUtf8_three (h : isLegal c) (hlead : lead < 0x10) (m n : Nat)
    (hvalue : (lead * 0x40 + m % 0x40) * 0x40 + n % 0x40 = c.toNat) (hleast : 0x800 ≤ c.toNat)
    (rest : List UInt8) :
    decodeUtf8 (UInt8.ofNat (lead + 0xe0) :: trail m :: trail n :: rest) =
      .char c :: decodeUtf8 rest := by
  have htoNat : (UInt8.ofNat (lead + 0xe0)).toNat = lead + 0xe0 := toNat_byte (by omega)
  have hrange : ¬lead + 0xe0 < 0x80 ∧ ¬lead + 0xe0 < 0xc0 ∧ ¬0xf5 ≤ lead + 0xe0 ∧
      ¬lead + 0xe0 < 0xe0 ∧ lead + 0xe0 < 0xf0 := by
    omega
  have hcell : longCell 0x800 ((lead * 0x40 + bits (trail m)) * 0x40 + bits (trail n))
      [trail m, trail n] = .char c := by
    rw [bits_trail, bits_trail, hvalue]
    exact longCell_toNat h hleast (by simp [isTrail_trail])
  rw [decodeUtf8.eq_def]
  simp only [UInt8.lt_iff_toNat_lt, UInt8.le_iff_toNat_le, UInt8.reduceToNat, htoNat, hrange,
    Nat.add_sub_cancel, hcell, if_false, if_true, decide_false, Bool.or_self, Bool.false_eq_true]

theorem decodeUtf8_four (h : isLegal c) (hlead : lead < 5) (l m n : Nat)
    (hvalue : ((lead * 0x40 + l % 0x40) * 0x40 + m % 0x40) * 0x40 + n % 0x40 = c.toNat)
    (hleast : 0x10000 ≤ c.toNat) (rest : List UInt8) :
    decodeUtf8 (UInt8.ofNat (lead + 0xf0) :: trail l :: trail m :: trail n :: rest) =
      .char c :: decodeUtf8 rest := by
  have htoNat : (UInt8.ofNat (lead + 0xf0)).toNat = lead + 0xf0 := toNat_byte (by omega)
  have hrange : ¬lead + 0xf0 < 0x80 ∧ ¬lead + 0xf0 < 0xc0 ∧ ¬0xf5 ≤ lead + 0xf0 ∧
      ¬lead + 0xf0 < 0xe0 ∧ ¬lead + 0xf0 < 0xf0 := by
    omega
  have hcell : longCell 0x10000
      (((lead * 0x40 + bits (trail l)) * 0x40 + bits (trail m)) * 0x40 + bits (trail n))
      [trail l, trail m, trail n] = .char c := by
    rw [bits_trail, bits_trail, bits_trail, hvalue]
    exact longCell_toNat h hleast (by simp [isTrail_trail])
  rw [decodeUtf8.eq_def]
  simp only [UInt8.lt_iff_toNat_lt, UInt8.le_iff_toNat_le, UInt8.reduceToNat, htoNat, hrange,
    Nat.add_sub_cancel, hcell, if_false, decide_false, Bool.or_self, Bool.false_eq_true]

end

theorem utf8EncodeChar_eq (c : Char) :
    String.utf8EncodeChar c =
      if c.toNat ≤ 0x7f then [UInt8.ofNat c.toNat]
      else if c.toNat ≤ 0x7ff then [UInt8.ofNat (c.toNat / 0x40 % 0x20 + 0xc0), trail c.toNat]
      else if c.toNat ≤ 0xffff then
        [UInt8.ofNat (c.toNat / 0x1000 % 0x10 + 0xe0), trail (c.toNat / 0x40), trail c.toNat]
      else
        [UInt8.ofNat (c.toNat / 0x40000 % 8 + 0xf0), trail (c.toNat / 0x1000),
          trail (c.toNat / 0x40), trail c.toNat] :=
  rfl

theorem decodeUtf8_encodeChar_append {c : Char} (h : isLegal c) (rest : List UInt8) :
    decodeUtf8 (String.utf8EncodeChar c ++ rest) = .char c :: decodeUtf8 rest := by
  have hlt : c.toNat < 0x110000 := by
    have hvalid : c.toNat.isValidChar := c.valid
    simp only [Nat.isValidChar] at hvalid
    omega
  rw [utf8EncodeChar_eq]
  split
  · exact decodeUtf8_one h (by omega) rest
  split
  · exact decodeUtf8_two h (by omega) c.toNat (by omega) (by omega) rest
  split
  · exact decodeUtf8_three h (by omega) (c.toNat / 0x40) c.toNat (by omega) (by omega) rest
  · exact decodeUtf8_four h (by omega) (c.toNat / 0x1000) (c.toNat / 0x40) c.toNat (by omega)
      (by omega) rest

theorem exists_utf8EncodeChar {c : Char} (h : isLegal c) :
    ∃ first others, String.utf8EncodeChar c = first :: others ∧ first ≠ 0 := by
  have hpos : 0 < c.toNat := by
    refine Nat.pos_of_ne_zero fun hzero => ?_
    obtain rfl : c = '\x00' := Char.toNat_inj.1 hzero
    exact absurd h (by decide)
  have hne : ∀ n, 0 < n → n < 0x100 → UInt8.ofNat n ≠ 0 := by
    intro n hn hlt hzero
    have htoNat := congrArg UInt8.toNat hzero
    rw [toNat_byte hlt] at htoNat
    exact absurd htoNat (Nat.ne_of_gt hn)
  rw [utf8EncodeChar_eq]
  repeat' split
  all_goals exact ⟨_, _, rfl, hne _ (by omega) (by omega)⟩

theorem decodeUtf8_encode {text : List Char} (h : ∀ c ∈ text, isLegal c) :
    decodeUtf8 (text.flatMap String.utf8EncodeChar) = text.map .char := by
  induction text with
  | nil => rfl
  | cons c text ih =>
      rw [List.flatMap_cons, decodeUtf8_encodeChar_append (h c List.mem_cons_self),
        ih fun d hd => h d (List.mem_cons_of_mem c hd), List.map_cons]

theorem toList_toUTF8_ofList (text : List Char) :
    (String.ofList text).toUTF8.data.toList = text.flatMap String.utf8EncodeChar := by
  rw [String.toUTF8_eq_toByteArray, String.toByteArray_ofList, List.utf8Encode,
    List.toList_data_toByteArray]

end Encoding

end OptionBindings.Xml
