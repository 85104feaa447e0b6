import Mathlib.Data.List.Basic
import FeatureAudit.Proofs.Text.Lines
import FeatureAudit.Text.Utf8

/-!
# Octets of a text are read back

Every character is decoded from its octets, whatever octets follow (`decodeFrom_encodeChar`), hence
every text from its UTF-8 octets (`decode_encode`). With a byte order mark in front or without one
the text of a file is the text that was encoded, apart from line ends (`readMarkedText_of_holds`),
and line ends do not change its lines (`lines_unifyNewlines`).
-/

set_option autoImplicit false

namespace FeatureAudit.Text.Utf8

/-! ## Encoding -/

theorem toNat_ofNat_octet {n : Nat} (h : n < 256) : (UInt8.ofNat n).toNat = n := by
  rw [UInt8.toNat_ofNat']
  omega

theorem toNat_tail (n : Nat) : (tail n).toNat = 0x80 + n % 64 := toNat_ofNat_octet (by omega)

/-- The code points of characters leave out the surrogates. -/
theorem toNat_valid (c : Char) : c.toNat < 0xD800 ∨ 0xDFFF < c.toNat ∧ c.toNat < 0x110000 :=
  c.valid

theorem encodeChar_eq_utf8EncodeChar (c : Char) : encodeChar c = String.utf8EncodeChar c := by
  have hvalid := toNat_valid c
  have hadd : ∀ k m : Nat, UInt8.ofNat (k + m) = UInt8.ofNat (m + k) := fun k m => by
    rw [Nat.add_comm]
  rw [encodeChar, String.utf8EncodeChar, show c.val.toNat = c.toNat from rfl]
  generalize c.toNat = n at hvalid
  simp only [tail, hadd 0x80, hadd 0xC0, hadd 0xE0, hadd 0xF0]
  by_cases hone : n < 0x80
  · rw [if_pos hone, if_pos (show n ≤ 127 by omega)]
  rw [if_neg hone, if_neg (show ¬ n ≤ 127 by omega)]
  by_cases htwo : n < 0x800
  · rw [if_pos htwo, if_pos (show n ≤ 2047 by omega), Nat.mod_eq_of_lt (show n / 64 < 32 by omega)]
  rw [if_neg htwo, if_neg (show ¬ n ≤ 2047 by omega)]
  by_cases hthree : n < 0x10000
  · rw [if_pos hthree, if_pos (show n ≤ 65535 by omega),
      Nat.mod_eq_of_lt (show n / 4096 < 16 by omega)]
  rw [if_neg hthree, if_neg (show ¬ n ≤ 65535 by omega),
    Nat.mod_eq_of_lt (show n / 262144 < 8 by omega)]

/-- The octets of a text are those of its UTF-8 form. -/
theorem encode_toList (s : String) : encode s.toList = s.toUTF8.data.toList := by
  have hchars : encode s.toList = s.toList.flatMap String.utf8EncodeChar :=
    List.flatMap_congr fun c _ => encodeChar_eq_utf8EncodeChar c
  rw [hchars, String.toUTF8, ← String.utf8Encode_toList, List.utf8Encode]
  simp

theorem length_le_encode (cs : List Char) : cs.length ≤ (encode cs).length := by
  induction cs with
  | nil => exact Nat.le_refl _
  | cons c cs ih =>
    have hchar : 1 ≤ (encodeChar c).length := by
      simp only [encodeChar]
      split
      · simp
      · split
        · simp
        · split <;> simp
    rw [encode, List.flatMap_cons, List.length_append, List.length_cons, ← encode]
    omega

/-! ## Decoding one character -/

theorem tails_zero (bits low high : Nat) (seen rest : List UInt8) :
    tails ⟨bits, 0, low, high⟩ seen rest = .ok (bits, rest) := by
  rw [tails]

/-- A continuation octet within bounds adds its six bits. -/
theorem tails_tail {bits more low high n : Nat} (seen rest : List UInt8)
    (h : low ≤ 0x80 + n % 64 ∧ 0x80 + n % 64 ≤ high) :
    tails ⟨bits, more + 1, low, high⟩ seen (tail n :: rest) =
      tails ⟨bits * 64 + n % 64, more, 0x80, 0xBF⟩ (tail n :: seen) rest := by
  rw [tails, toNat_tail, Nat.add_sub_cancel_left, if_pos (by simpa using h)]

/-- The further octets of a character are those that its first octet asks for. -/
theorem tails_encodeChar {c : Char} (h : ¬ c.toNat < 0x80) (rest : List UInt8) :
    ∃ b octets l, encodeChar c = b :: octets ∧ ¬ b.toNat < 0x80 ∧ lead? b.toNat = some l ∧
      tails l [b] (octets ++ rest) = .ok (c.toNat, rest) := by
  have hvalid := toNat_valid c
  rw [encodeChar]
  generalize c.toNat = n at h hvalid
  rw [if_neg h]
  by_cases htwo : n < 0x800
  · have hb : (UInt8.ofNat (0xC0 + n / 64)).toNat = 0xC0 + n / 64 := toNat_ofNat_octet (by omega)
    have hlead : lead? (0xC0 + n / 64) = some ⟨n / 64, 1, 0x80, 0xBF⟩ := by
      rw [lead?, if_neg (by omega), if_pos (by omega), Nat.add_sub_cancel_left]
    refine ⟨_, _, _, if_pos htwo, by omega, by rw [hb, hlead], ?_⟩
    rw [List.cons_append, List.nil_append, tails_tail _ _ (by omega), tails_zero]
    congr 2
    omega
  rw [if_neg htwo]
  by_cases hthree : n < 0x10000
  · have hb : (UInt8.ofNat (0xE0 + n / 4096)).toNat = 0xE0 + n / 4096 :=
      toNat_ofNat_octet (by omega)
    have hlead : lead? (0xE0 + n / 4096) = some ⟨n / 4096, 2,
        if 0xE0 + n / 4096 == 0xE0 then 0xA0 else 0x80,
        if 0xE0 + n / 4096 == 0xED then 0x9F else 0xBF⟩ := by
      rw [lead?, if_neg (by omega), if_neg (by omega), if_pos (by omega), Nat.add_sub_cancel_left]
    refine ⟨_, _, _, if_pos hthree, by omega, by rw [hb, hlead], ?_⟩
    rw [List.cons_append, List.cons_append, List.nil_append, tails_tail, tails_tail _ _ (by omega),
      tails_zero]
    · congr 2
      omega
    · -- the bounds leave out short forms and surrogates
      simp only [beq_iff_eq]
      constructor <;> split <;> omega
  · have hb : (UInt8.ofNat (0xF0 + n / 262144)).toNat = 0xF0 + n / 262144 :=
      toNat_ofNat_octet (by omega)
    have hlead : lead? (0xF0 + n / 262144) = some ⟨n / 262144, 3,
        if 0xF0 + n / 262144 == 0xF0 then 0x90 else 0x80,
        if 0xF0 + n / 262144 == 0xF4 then 0x8F else 0xBF⟩ := by
      rw [lead?, if_neg (by omega), if_neg (by omega), if_neg (by omega), if_pos (by omega),
        Nat.add_sub_cancel_left]
    refine ⟨_, _, _, if_neg hthree, by omega, by rw [hb, hlead], ?_⟩
    rw [List.cons_append, List.cons_append, List.cons_append, List.nil_append, tails_tail,
      tails_tail _ _ (by omega), tails_tail _ _ (by omega), tails_zero]
    · congr 2
      omega
    · simp only [beq_iff_eq]
      constructor <;> split <;> omega

/-- A character is read from its octets, whatever follows. -/
theorem decodeFrom_encodeChar (fuel start : Nat) (c : Char) (rest : List UInt8) :
    ∃ next, decodeFrom (fuel + 1) start (encodeChar c ++ rest) =
      (decodeFrom fuel next rest).map (c :: ·) := by
  by_cases h : c.toNat < 0x80
  · refine ⟨start + 1, ?_⟩
    have hb : (UInt8.ofNat c.toNat).toNat = c.toNat := toNat_ofNat_octet (by omega)
    rw [encodeChar, if_pos h, List.cons_append, List.nil_append, decodeFrom, hb, if_pos h,
      Char.ofNat_toNat]
  · obtain ⟨b, octets, l, hoctets, hb, hlead, htails⟩ := tails_encodeChar h rest
    refine ⟨start + 1 + l.more, ?_⟩
    rw [hoctets, List.cons_append, decodeFrom, if_neg hb, hlead]
    simp only [htails, Char.ofNat_toNat]

/-! ## Decoding texts -/

theorem decodeFrom_encode {fuel : Nat} (start : Nat) {cs : List Char} (h : cs.length ≤ fuel) :
    decodeFrom fuel start (encode cs) = .ok cs := by
  induction cs generalizing fuel start with
  | nil => rw [encode, List.flatMap_nil, decodeFrom]
  | cons c cs ih =>
    obtain ⟨fuel, rfl⟩ : ∃ m, fuel = m + 1 := ⟨fuel - 1, by rw [List.length_cons] at h; omega⟩
    obtain ⟨next, hnext⟩ := decodeFrom_encodeChar fuel start c (encode cs)
    rw [encode, List.flatMap_cons, ← encode, hnext, ih next (by simpa using h)]
    rfl

/-- A text is read back from its octets. -/
theorem decode_encode (cs : List Char) : decode (encode cs) = .ok cs :=
  decodeFrom_encode 0 (length_le_encode cs)

/-! ## The byte order mark -/

/-- The character that a byte order mark encodes. -/
def markChar : Char := '\uFEFF'

theorem encodeChar_markChar : encodeChar markChar = byteOrderMark := by decide

theorem dropMark_append (octets : List UInt8) : dropMark (byteOrderMark ++ octets) = octets := by
  simp [dropMark, byteOrderMark, List.isPrefixOf?]

/-- A text begins with the character whose octets come first. -/
theorem head?_of_encode_eq {cs : List Char} {c : Char} {rest : List UInt8}
    (h : encode cs = encodeChar c ++ rest) : cs.head? = some c := by
  obtain ⟨next, hnext⟩ := decodeFrom_encodeChar cs.length 0 c rest
  rw [← h, decodeFrom_encode 0 (Nat.le_succ _)] at hnext
  cases hrest : decodeFrom cs.length next rest with
  | error fault => simp [hrest, Except.map] at hnext
  | ok ds =>
    rw [hrest] at hnext
    rw [Except.ok.inj hnext]
    rfl

/-- No text has only some of the octets of the mark. -/
theorem encode_prefix_mark {cs : List Char} (h : encode cs <+: byteOrderMark) :
    encode cs = [] ∨ encode cs = byteOrderMark := by
  have hdecode := decode_encode cs
  simp only [byteOrderMark, List.prefix_cons_iff, List.prefix_nil] at h
  rcases h with hnil | ⟨_, hfirst, rfl | ⟨_, rfl, rfl | ⟨_, rfl, rfl⟩⟩⟩
  · exact Or.inl hnil
  · rw [hfirst, decode] at hdecode
    simp [decodeFrom, lead?, tails] at hdecode
  · rw [hfirst, decode] at hdecode
    simp [decodeFrom, lead?, tails] at hdecode
  · exact Or.inr hfirst

/-- Octets of a text are kept, unless the text begins with the character of the mark. -/
theorem dropMark_encode {cs : List Char} (h : cs.head? ≠ some markChar) :
    dropMark (encode cs) = encode cs := by
  have hmark : ∀ rest, encode cs ≠ byteOrderMark ++ rest := fun rest hrest =>
    h (head?_of_encode_eq (by rw [hrest, encodeChar_markChar]))
  unfold dropMark
  split
  · next rest hrest =>
    exact absurd (List.isPrefixOf?_eq_some_iff_append_eq.1 hrest).symm (hmark rest)
  · split
    · next hshort =>
      rcases encode_prefix_mark (List.isPrefixOf_iff_prefix.1 hshort) with hnil | hall
      · rw [hnil]
      · exact absurd hall (by simpa using hmark [])
    · rfl

/-- The octets of a text as a file holds them: a byte order mark may stand in front, and has to if
the text itself begins with the character of the mark. -/
def Holds (octets : List UInt8) (text : String) : Prop :=
  octets = text.toUTF8.data.toList ∧ text.toList.head? ≠ some markChar ∨
    octets = byteOrderMark ++ text.toUTF8.data.toList

/-- A file is read as the text that it holds, apart from line ends. -/
theorem readMarkedText_of_holds {octets : List UInt8} {text : String} (h : Holds octets text) :
    readMarkedText octets = .ok (String.ofList (unifyNewlines text.toList)) := by
  have hdrop : dropMark octets = encode text.toList := by
    rcases h with ⟨rfl, hhead⟩ | rfl
    · rw [← encode_toList, dropMark_encode hhead]
    · rw [dropMark_append, encode_toList]
  rw [readMarkedText, readText, hdrop, decode_encode]
  rfl

/-! ## Line ends -/

/-- Line ends do not change the lines. -/
theorem linesOf_unifyNewlines (cs : List Char) : linesOf (unifyNewlines cs) = linesOf cs := by
  have hfeed : ∀ ds, linesOf ('\n' :: ds) = [] :: linesOf ds := fun ds =>
    @LineEnd.linesOf_mark_append .lineFeed ds fun h => nomatch h
  fun_induction unifyNewlines cs with
  | case1 => rfl
  | case2 cs ih => rw [hfeed, ih, linesOf]
  | case3 c cs hne ih =>
    by_cases hc : c = '\r'
    · have hreturn : linesOf (c :: cs) = [] :: linesOf cs := by
        rw [linesOf.eq_3 c cs hne, hc]
        rfl
      rw [hreturn, if_pos (by simpa using hc), hfeed, ih]
    · have hother : ∀ ds, linesOf (c :: ds) =
          if isBreak c then [] :: linesOf ds else consLine c (linesOf ds) := fun ds =>
        linesOf.eq_3 c ds fun _ h _ => hc h
      rw [if_neg (by simpa using hc), hother, hother, ih]

/-- Line ends do not change the lines of a text. -/
theorem lines_unifyNewlines (s : String) :
    lines (String.ofList (unifyNewlines s.toList)) = lines s := by
  rw [lines, String.toList_ofList, linesOf_unifyNewlines, ← lines]

end FeatureAudit.Text.Utf8
