import Mathlib.Data.List.TakeWhile
import Mathlib.Tactic.SplitIfs
import ScreenKeyboard.Proofs.Digits
import ScreenKeyboard.Url.Basic

/-!
Forms are read as they were written. The bytes of a character spell that character and leave what follows
alone (`scan_encodeChar`), an encoded byte is decoded to itself (`decode_encodeByte`), and no encoded text
holds a mark of the form; so a pair that is added to a query, whatever the query is, is its last pair and
leaves the others as they are (`pairs_append`).
-/

namespace ScreenKeyboard

namespace Text.Utf8

theorem toNat_toUInt8 {n : Nat} (h : n < 256) : n.toUInt8.toNat = n := by
  rw [Nat.toUInt8_eq, UInt8.toNat_ofNat']
  exact Nat.mod_eq_of_lt h

/-- A byte that continues a character adds six bits to its code. -/
theorem follow_byte {code low high owed n : Nat} (hlow : low ≤ n) (hhigh : n ≤ high) (hbyte : n < 256)
    (rest : Bytes) :
    follow code low high (owed + 1) (n.toUInt8 :: rest) =
      ((follow (code * 64 + (n - 0x80)) 0x80 0xBF owed rest).1,
        (follow (code * 64 + (n - 0x80)) 0x80 0xBF owed rest).2 + 1) := by
  rw [follow, toNat_toUInt8 hbyte, if_pos ⟨hlow, hhigh⟩]

theorem scan_cons {b : UInt8} {owed code low high : Nat} (hlead : lead? b.toNat = some (owed, code, low, high))
    (rest : Bytes) :
    scan (b :: rest) = (follow code low high owed rest).1 ::
      scan (rest.drop (follow code low high owed rest).2) := by
  rw [scan, hlead]

theorem lead?_one {b : Nat} (h : b < 0x80) : lead? b = some (0, b, 0, 0) := by
  rw [lead?, if_pos h]

theorem lead?_two {b : Nat} (hlow : 0xC2 ≤ b) (hhigh : b < 0xE0) :
    lead? b = some (1, b - 0xC0, 0x80, 0xBF) := by
  rw [lead?, if_neg (by omega), if_neg (by omega), if_pos hhigh]

/-- The second of three bytes is bounded so that the form is not needlessly long and spells no surrogate. -/
theorem lead?_three {b : Nat} (hlow : 0xE0 ≤ b) (hhigh : b < 0xF0) :
    lead? b = some (2, b - 0xE0, if b = 0xE0 then 0xA0 else 0x80, if b = 0xED then 0x9F else 0xBF) := by
  by_cases hfirst : b = 0xE0
  · rw [hfirst]
    rfl
  by_cases hsurrogates : b = 0xED
  · rw [hsurrogates]
    rfl
  rw [lead?, if_neg (by omega), if_neg (by omega), if_neg (by omega), if_neg hfirst, if_neg hsurrogates,
    if_pos hhigh, if_neg hfirst, if_neg hsurrogates]

theorem lead?_four {b : Nat} (hlow : 0xF0 ≤ b) (hhigh : b ≤ 0xF4) :
    lead? b = some (3, b - 0xF0, if b = 0xF0 then 0x90 else 0x80, if b = 0xF4 then 0x8F else 0xBF) := by
  by_cases hfirst : b = 0xF0
  · rw [hfirst]
    rfl
  by_cases hlast : b = 0xF4
  · rw [hlast]
    rfl
  rw [lead?, if_neg (by omega), if_neg (by omega), if_neg (by omega), if_neg (by omega), if_neg (by omega),
    if_neg (by omega), if_neg hfirst, if_pos (by omega), if_neg hfirst, if_neg hlast]

theorem encodeChar_ascii {c : Char} (h : c.toNat < 0x80) : encodeChar c = [c.toNat.toUInt8] := by
  simp only [encodeChar, if_pos h]

/-- The bytes of a character spell it, whatever follows them. -/
theorem scan_encodeChar (c : Char) (rest : Bytes) : scan (encodeChar c ++ rest) = some c :: scan rest := by
  have hscalar : c.toNat < 0xD800 ∨ 0xDFFF < c.toNat ∧ c.toNat < 0x110000 := c.valid
  simp only [encodeChar]
  split_ifs with hone htwo hthree
  · have hlead : lead? c.toNat.toUInt8.toNat = some (0, c.toNat, 0, 0) := by
      rw [toNat_toUInt8 (by omega), lead?_one hone]
    rw [List.singleton_append, scan_cons hlead, follow, Char.ofNat_toNat, List.drop_zero]
  · have hlead : lead? (0xC0 + c.toNat / 64).toUInt8.toNat = some (1, c.toNat / 64, 0x80, 0xBF) := by
      rw [toNat_toUInt8 (by omega), lead?_two (by omega) (by omega), Nat.add_sub_cancel_left]
    have hcode : c.toNat / 64 * 64 + (0x80 + c.toNat % 64 - 0x80) = c.toNat := by omega
    simp only [List.cons_append, List.nil_append]
    rw [scan_cons hlead, follow_byte (by omega) (by omega) (by omega), hcode, follow, Char.ofNat_toNat]
    rfl
  · have hlead := lead?_three (b := 0xE0 + c.toNat / 4096) (by omega) (by omega)
    rw [← toNat_toUInt8 (n := 0xE0 + c.toNat / 4096) (by omega)] at hlead
    have hcode : (c.toNat / 4096 * 64 + (0x80 + c.toNat / 64 % 64 - 0x80)) * 64 +
        (0x80 + c.toNat % 64 - 0x80) = c.toNat := by omega
    simp only [List.cons_append, List.nil_append]
    rw [scan_cons hlead, toNat_toUInt8 (by omega), Nat.add_sub_cancel_left,
      follow_byte (by split_ifs <;> omega) (by split_ifs <;> omega) (by omega),
      follow_byte (by omega) (by omega) (by omega), hcode, follow, Char.ofNat_toNat]
    rfl
  · have hlead := lead?_four (b := 0xF0 + c.toNat / 262144) (by omega) (by omega)
    rw [← toNat_toUInt8 (n := 0xF0 + c.toNat / 262144) (by omega)] at hlead
    have hcode : ((c.toNat / 262144 * 64 + (0x80 + c.toNat / 4096 % 64 - 0x80)) * 64 +
        (0x80 + c.toNat / 64 % 64 - 0x80)) * 64 + (0x80 + c.toNat % 64 - 0x80) = c.toNat := by omega
    simp only [List.cons_append, List.nil_append]
    rw [scan_cons hlead, toNat_toUInt8 (by omega), Nat.add_sub_cancel_left,
      follow_byte (by split_ifs <;> omega) (by split_ifs <;> omega) (by omega),
      follow_byte (by omega) (by omega) (by omega), follow_byte (by omega) (by omega) (by omega), hcode,
      follow, Char.ofNat_toNat]
    rfl

theorem encode_append (first second : List Char) : encode (first ++ second) = encode first ++ encode second :=
  List.flatMap_append

theorem scan_encode (text : List Char) : scan (encode text) = text.map some := by
  induction text with
  | nil => rw [encode, List.flatMap_nil, scan, List.map_nil]
  | cons c text ih => rw [encode, List.flatMap_cons, scan_encodeChar, ← encode, ih, List.map_cons]

theorem decodeLossy_encode (text : List Char) : decodeLossy (encode text) = text := by
  rw [decodeLossy, scan_encode, List.map_map]
  exact List.map_id text

end Text.Utf8

namespace Url

open Text Text.Utf8

namespace Percent

theorem decode_cons_ne {b : UInt8} (h : b ≠ 0x25) (rest : Bytes) : decode (b :: rest) = b :: decode rest := by
  rw [decode, if_neg h]

/-- A hexadecimal digit is a byte of its own. -/
theorem digit_byte : ∀ d < 16, encodeChar (hexDigit d) = [(hexDigit d).toNat.toUInt8] ∧
    hexValue? (hexDigit d).toNat.toUInt8 = some d := by
  decide

theorem decode_encodeByte (b : UInt8) (rest : Bytes) :
    decode (Utf8.encode (encodeByte b) ++ rest) = b :: decode rest := by
  have hbyte : b.toNat < 256 := b.toNat_lt
  obtain ⟨hhigh, hhighValue⟩ := digit_byte (b.toNat / 16) (by omega)
  obtain ⟨hlow, hlowValue⟩ := digit_byte (b.toNat % 16) (by omega)
  have hbytes : Utf8.encode (encodeByte b) =
      [0x25, (hexDigit (b.toNat / 16)).toNat.toUInt8, (hexDigit (b.toNat % 16)).toNat.toUInt8] := by
    simp only [Utf8.encode, encodeByte, List.flatMap_cons, List.flatMap_nil, hhigh, hlow]
    rfl
  have hvalue : (16 * (b.toNat / 16) + b.toNat % 16).toUInt8 = b := by
    rw [Nat.div_add_mod, Nat.toUInt8_eq, UInt8.ofNat_toNat]
  rw [hbytes, List.cons_append, List.cons_append, List.cons_append, List.nil_append, decode, if_pos rfl]
  simp only [escaped?, hhighValue, hlowValue, hvalue, List.drop_succ_cons, List.drop_zero]

theorem decode_encodeBytes (bytes rest : Bytes) :
    decode (Utf8.encode (bytes.flatMap encodeByte) ++ rest) = bytes ++ decode rest := by
  induction bytes with
  | nil => rfl
  | cons b bytes ih =>
      rw [List.flatMap_cons, encode_append, List.append_assoc, decode_encodeByte, ih, List.cons_append]

end Percent

namespace Form

/-- How a character is written. -/
def encodeOne (c : Char) : List Char :=
  if isPlain c then [c] else if c = ' ' then ['+'] else (encodeChar c).flatMap Percent.encodeByte

/-- A character of a form as it is read. -/
def blank (c : Char) : Char :=
  if c = '+' then ' ' else c

theorem le_of_isAlphanum {c : Char} (h : c.isAlphanum = true) : c.val ≤ 'z'.val := by
  rcases Bool.or_eq_true_iff.mp h with hletter | hdigit
  · rcases Bool.or_eq_true_iff.mp hletter with hupper | hlower
    · have hZ : c.val ≤ 'Z'.val := (of_decide_eq_true hupper).2
      exact UInt32.le_trans hZ (by decide)
    · exact of_decide_eq_true (Bool.and_eq_true_iff.mp hlower).2
  · have hnine : c.val ≤ '9'.val := of_decide_eq_true (Bool.and_eq_true_iff.mp hdigit).2
    exact UInt32.le_trans hnine (by decide)

theorem toNat_lt_of_isPlain {c : Char} (h : isPlain c = true) : c.toNat < 0x80 := by
  simp only [isPlain, Bool.or_eq_true, decide_eq_true_eq] at h
  rcases h with (((hletter | rfl) | rfl) | rfl) | rfl
  · exact Nat.lt_of_le_of_lt (UInt32.le_iff_toNat_le.mp (le_of_isAlphanum hletter)) (by decide)
  all_goals decide

theorem isPlain_hexDigit : ∀ d < 16, isPlain (hexDigit d) = true := by
  decide

theorem mem_encodeByte {b : UInt8} {c : Char} (h : c ∈ Percent.encodeByte b) : c = '%' ∨ isPlain c = true := by
  have hbyte : b.toNat < 256 := b.toNat_lt
  simp only [Percent.encodeByte, List.mem_cons, List.not_mem_nil, or_false] at h
  rcases h with rfl | rfl | rfl
  · exact Or.inl rfl
  · exact Or.inr (isPlain_hexDigit _ (by omega))
  · exact Or.inr (isPlain_hexDigit _ (by omega))

theorem mem_encode {text : List Char} {c : Char} (h : c ∈ encode text) :
    c = '+' ∨ c = '%' ∨ isPlain c = true := by
  obtain ⟨d, -, hd⟩ := List.mem_flatMap.mp h
  split_ifs at hd with hplain hspace
  · rw [List.mem_singleton.mp hd]
    exact Or.inr (Or.inr hplain)
  · exact Or.inl (List.mem_singleton.mp hd)
  · obtain ⟨b, -, hb⟩ := List.mem_flatMap.mp hd
    exact Or.inr (mem_encodeByte hb)

/-- Neither mark of a form occurs in encoded text. -/
theorem ne_of_mem_encode {text : List Char} {c mark : Char} (h : c ∈ encode text) (hplus : mark ≠ '+')
    (hpercent : mark ≠ '%') (hplain : isPlain mark = false) : c ≠ mark := by
  rcases mem_encode h with rfl | rfl | hc
  · exact hplus.symm
  · exact hpercent.symm
  · exact ne_of_test hc hplain

theorem map_blank_encodeBytes (bytes : Bytes) :
    (bytes.flatMap Percent.encodeByte).map blank = bytes.flatMap Percent.encodeByte := by
  refine (List.map_congr_left fun c hc => ?_).trans (List.map_id _)
  obtain ⟨b, -, hb⟩ := List.mem_flatMap.mp hc
  have hplus : c ≠ '+' := by
    rcases mem_encodeByte hb with rfl | hplain
    · decide
    · exact ne_of_test hplain rfl
  rw [blank, if_neg hplus, id]

theorem decode_blank_encodeOne (c : Char) (rest : Bytes) :
    Percent.decode (Utf8.encode ((encodeOne c).map blank) ++ rest) = encodeChar c ++ Percent.decode rest := by
  unfold encodeOne
  split_ifs with hplain hspace
  · have hplus : c ≠ '+' := ne_of_test hplain rfl
    have hpercent : c.toNat.toUInt8 ≠ 0x25 := by
      intro h
      have hcode := congrArg UInt8.toNat h
      rw [toNat_toUInt8 (by have := toNat_lt_of_isPlain hplain; omega)] at hcode
      exact ne_of_test hplain (rfl : isPlain '%' = false) (Char.toNat_inj.mp hcode)
    rw [List.map_singleton, blank, if_neg hplus, Utf8.encode, List.flatMap_singleton,
      encodeChar_ascii (toNat_lt_of_isPlain hplain), List.singleton_append, Percent.decode_cons_ne hpercent,
      List.singleton_append]
  · subst hspace
    exact Percent.decode_cons_ne (by decide) rest
  · rw [map_blank_encodeBytes, Percent.decode_encodeBytes]

theorem decode_encode (text : List Char) : decode (encode text) = text := by
  have hbytes : Percent.decode (Utf8.encode ((encode text).map blank)) = Utf8.encode text := by
    induction text with
    | nil => rw [encode, List.flatMap_nil, List.map_nil, Utf8.encode, List.flatMap_nil, Percent.decode]
    | cons c text ih =>
        have hcons : encode (c :: text) = encodeOne c ++ encode text := List.flatMap_cons
        rw [hcons, List.map_append, encode_append, decode_blank_encodeOne, ih, Utf8.encode, Utf8.encode,
          List.flatMap_cons]
  show decodeLossy (Percent.decode (Utf8.encode ((encode text).map blank))) = text
  rw [hbytes, decodeLossy_encode]

theorem readPair_writePair (name value : List Char) : readPair (writePair name value) = (name, value) := by
  have hname : (writePair name value).takeWhile (· ≠ '=') = encode name := by
    rw [writePair, List.takeWhile_append_of_pos, List.takeWhile_cons_of_neg (by decide), List.append_nil]
    exact fun c hc => decide_eq_true (ne_of_mem_encode hc (by decide) (by decide) rfl)
  have hvalue : (writePair name value).drop ((encode name).length + 1) = encode value := by
    rw [writePair, List.drop_append, List.drop_eq_nil_of_le (Nat.le_succ _), Nat.add_sub_cancel_left]
    rfl
  simp only [readPair, hname, hvalue, decode_encode]

theorem writePair_ne_nil (name value : List Char) : writePair name value ≠ [] :=
  List.append_ne_nil_of_right_ne_nil _ (List.cons_ne_nil _ _)

theorem pairs_writePair (name value : List Char) : pairs (writePair name value) = [(name, value)] := by
  have hmark : '&' ∉ writePair name value := by
    intro h
    rcases List.mem_append.mp h with hname | hvalue
    · exact ne_of_mem_encode hname (by decide) (by decide) rfl rfl
    · rcases List.mem_cons.mp hvalue with hequals | hvalue
      · exact absurd hequals (by decide)
      · exact ne_of_mem_encode hvalue (by decide) (by decide) rfl rfl
  rw [pairs, pieces_of_not_mem hmark, List.filter_cons_of_pos, List.filter_nil, List.map_singleton,
    readPair_writePair]
  simpa using writePair_ne_nil name value

/-- A pair that is added to a query is its last one; the others stay, even those that are written wrongly. -/
theorem pairs_append (query name value : List Char) :
    pairs (append query name value) = pairs query ++ [(name, value)] := by
  cases query with
  | nil => exact pairs_writePair name value
  | cons c query =>
      have hjoined : append (c :: query) name value = c :: query ++ '&' :: writePair name value :=
        List.append_assoc _ _ _
      rw [hjoined, pairs, pieces_append, List.filter_append, List.map_append, ← pairs, ← pairs,
        pairs_writePair]

end Form

theorem pairs_appendPair (url : Url) (name value : String) :
    (url.appendPair name value).pairs = url.pairs ++ [(name, value)] := by
  show (Form.pairs (((some _ : Option String).map String.toList).getD [])).map _ = _
  simp only [Option.map_some, Option.getD_some, String.toList_ofList, Form.pairs_append, List.map_append,
    List.map_singleton, String.ofList_toList]
  rfl

end Url

end ScreenKeyboard
