import VirtualTerminal.Console
import VirtualTerminal.Proofs.TextLaws

/-! # Lines on the console

Decoding inverts encoding in UTF-8, character by character, with any bytes behind. A writer decodes
only when it is closed, so the emitted line does not depend on the division into chunks. -/
namespace VirtualTerminal

namespace Text

/-- The byte that holds the last six bits of a number, behind the first byte of a character. -/
def tailByte (n : Nat) : UInt8 := .ofNat (n % 64 + 128)

theorem toNat_tailByte (n : Nat) : (tailByte n).toNat = n % 64 + 128 := by
  rw [tailByte, UInt8.toNat_ofNat']
  omega

theorem toNat_firstByte {n m mark : Nat} (small : n < m) (fits : n + mark < 256) :
    (UInt8.ofNat (n % m + mark)).toNat = n + mark := by
  rw [UInt8.toNat_ofNat', Nat.mod_eq_of_lt small, Nat.mod_eq_of_lt fits]

/-- The last six bits of a number lie within the bounds of a byte. -/
def Within (l h v : Nat) : Prop := l ≤ v % 64 + 128 ∧ v % 64 + 128 ≤ h

variable {l h bits v : Nat} {bytes : List UInt8}

theorem within_all (v : Nat) : Within 0x80 0xBF v := by
  unfold Within
  omega

theorem decodeFrom_of_leadByte {b : UInt8} {u : Unfinished}
    (leads : leadByte b.toNat = ([], some u)) :
    decodeFrom none (b :: bytes) = decodeFrom (some u) bytes := by
  simp only [decodeFrom, nextByte, leads, List.nil_append]

theorem nextByte_of_within (need : Nat) (within : Within l h v) :
    nextByte (some ⟨need, l, h, bits⟩) (tailByte v).toNat =
      if need = 1 then ([Char.ofNat (bits * 64 + v % 64)], none)
      else ([], some ⟨need - 1, 0x80, 0xBF, bits * 64 + v % 64⟩) := by
  rw [Within] at within
  simp only [toNat_tailByte, nextByte, within, and_self, if_true, Nat.add_sub_cancel]

theorem decodeFrom_of_last (within : Within l h v) :
    decodeFrom (some ⟨1, l, h, bits⟩) (tailByte v :: bytes) =
      Char.ofNat (bits * 64 + v % 64) :: decodeFrom none bytes := by
  rw [decodeFrom, nextByte_of_within 1 within, if_pos rfl]
  rfl

theorem decodeFrom_of_more (need : Nat) (within : Within l h v) :
    decodeFrom (some ⟨need + 2, l, h, bits⟩) (tailByte v :: bytes) =
      decodeFrom (some ⟨need + 1, 0x80, 0xBF, bits * 64 + v % 64⟩) bytes := by
  rw [decodeFrom, nextByte_of_within (need + 2) within, if_neg (by omega)]
  rfl

theorem decodeFrom_one (small : v < 0x80) :
    decodeFrom none (.ofNat v :: bytes) = Char.ofNat v :: decodeFrom none bytes := by
  have byte : (UInt8.ofNat v).toNat = v := by
    rw [UInt8.toNat_ofNat']
    omega
  simp only [decodeFrom, nextByte, byte, leadByte, small, if_true, List.singleton_append]

theorem leadByte_two (low : 0x80 ≤ v) (high : v < 0x800) :
    leadByte (UInt8.ofNat (v / 64 % 32 + 192)).toNat = ([], some ⟨1, 0x80, 0xBF, v / 64⟩) := by
  have byte : (UInt8.ofNat (v / 64 % 32 + 192)).toNat = v / 64 + 192 :=
    toNat_firstByte (by omega) (by omega)
  rw [byte, leadByte, if_neg (by omega), if_neg (by omega), if_pos (by omega),
    Nat.add_sub_cancel]

theorem decodeFrom_two (low : 0x80 ≤ v) (high : v < 0x800) :
    decodeFrom none (.ofNat (v / 64 % 32 + 192) :: tailByte v :: bytes) =
      Char.ofNat v :: decodeFrom none bytes := by
  have whole : v / 64 * 64 + v % 64 = v := Nat.div_add_mod' v 64
  rw [decodeFrom_of_leadByte (leadByte_two low high), decodeFrom_of_last (within_all v), whole]

/-- The bounds that the first of three bytes sets for the second exclude exactly the surrogates and
the numbers of two bytes. -/
theorem leadByte_three (low : 0x800 ≤ v) (high : v < 0x10000) (valid : v < 0xD800 ∨ 0xDFFF < v) :
    ∃ l h, leadByte (UInt8.ofNat (v / 4096 % 16 + 224)).toNat = ([], some ⟨2, l, h, v / 4096⟩) ∧
      Within l h (v / 64) := by
  have byte : (UInt8.ofNat (v / 4096 % 16 + 224)).toNat = v / 4096 + 224 :=
    toNat_firstByte (by omega) (by omega)
  have cases : v / 4096 = 0 ∨ v / 4096 = 13 ∨ v / 4096 ≠ 0 ∧ v / 4096 ≠ 13 := by omega
  simp only [Within, byte]
  rcases cases with first | surrogates | ⟨notFirst, noSurrogates⟩
  · rw [first]
    exact ⟨0xA0, 0xBF, rfl, by omega, by omega⟩
  · rw [surrogates]
    exact ⟨0x80, 0x9F, rfl, by omega, by omega⟩
  · refine ⟨0x80, 0xBF, ?_, by omega, by omega⟩
    rw [leadByte, if_neg (by omega), if_neg (by omega), if_neg (by omega), if_neg (by omega),
      if_neg (by omega), if_pos (by omega), Nat.add_sub_cancel]

theorem decodeFrom_three (low : 0x800 ≤ v) (high : v < 0x10000)
    (valid : v < 0xD800 ∨ 0xDFFF < v) :
    decodeFrom none (.ofNat (v / 4096 % 16 + 224) :: tailByte (v / 64) :: tailByte v :: bytes) =
      Char.ofNat v :: decodeFrom none bytes := by
  obtain ⟨l, h, leads, within⟩ := leadByte_three low high valid
  have whole : (v / 4096 * 64 + v / 64 % 64) * 64 + v % 64 = v := by omega
  rw [decodeFrom_of_leadByte leads, decodeFrom_of_more 0 within,
    decodeFrom_of_last (within_all v), whole]

theorem leadByte_four (low : 0x10000 ≤ v) (high : v < 0x110000) :
    ∃ l h, leadByte (UInt8.ofNat (v / 262144 % 8 + 240)).toNat =
        ([], some ⟨3, l, h, v / 262144⟩) ∧ Within l h (v / 4096) := by
  have byte : (UInt8.ofNat (v / 262144 % 8 + 240)).toNat = v / 262144 + 240 :=
    toNat_firstByte (by omega) (by omega)
  have cases : v / 262144 = 0 ∨ v / 262144 = 4 ∨ 0 < v / 262144 ∧ v / 262144 < 4 := by omega
  simp only [Within, byte]
  rcases cases with first | last | ⟨notFirst, notLast⟩
  · rw [first]
    exact ⟨0x90, 0xBF, rfl, by omega, by omega⟩
  · rw [last]
    exact ⟨0x80, 0x8F, rfl, by omega, by omega⟩
  · refine ⟨0x80, 0xBF, ?_, by omega, by omega⟩
    rw [leadByte, if_neg (by omega), if_neg (by omega), if_neg (by omega), if_neg (by omega),
      if_neg (by omega), if_neg (by omega), if_neg (by omega), if_pos (by omega),
      Nat.add_sub_cancel]

theorem decodeFrom_four (low : 0x10000 ≤ v) (high : v < 0x110000) :
    decodeFrom none (.ofNat (v / 262144 % 8 + 240) :: tailByte (v / 4096) :: tailByte (v / 64) ::
        tailByte v :: bytes) =
      Char.ofNat v :: decodeFrom none bytes := by
  obtain ⟨l, h, leads, within⟩ := leadByte_four low high
  have whole : ((v / 262144 * 64 + v / 4096 % 64) * 64 + v / 64 % 64) * 64 + v % 64 = v := by omega
  rw [decodeFrom_of_leadByte leads, decodeFrom_of_more 1 within,
    decodeFrom_of_more 0 (within_all (v / 64)), decodeFrom_of_last (within_all v), whole]

theorem decodeFrom_utf8EncodeChar (c : Char) (bytes : List UInt8) :
    decodeFrom none (String.utf8EncodeChar c ++ bytes) = c :: decodeFrom none bytes := by
  have valid : c.toNat < 0xD800 ∨ 0xDFFF < c.toNat ∧ c.toNat < 0x110000 := c.valid
  conv_rhs => rw [← Char.ofNat_toNat c]
  simp only [String.utf8EncodeChar, Char.toNat_val]
  split_ifs with one two three
  · exact decodeFrom_one (by omega)
  · exact decodeFrom_two (by omega) (by omega)
  · exact decodeFrom_three (by omega) (by omega) (by omega)
  · exact decodeFrom_four (by omega) (by omega)

def encodeUtf8 (s : String) : List UInt8 := s.toUTF8.data.toList

theorem encodeUtf8_eq (s : String) : encodeUtf8 s = s.toList.flatMap String.utf8EncodeChar := by
  rw [encodeUtf8, String.toUTF8_eq_toByteArray, ← String.ofList_toList (s := s),
    String.toByteArray_ofList]
  simp [List.utf8Encode]

theorem decodeUtf8_encodeUtf8 (s : String) : decodeUtf8 (encodeUtf8 s) = s := by
  have chars (cs : List Char) : decodeFrom none (cs.flatMap String.utf8EncodeChar) = cs := by
    induction cs with
    | nil => rfl
    | cons c cs ih => rw [List.flatMap_cons, decodeFrom_utf8EncodeChar, ih]
  rw [decodeUtf8, encodeUtf8_eq, chars, String.ofList_toList]

theorem trimEnd_append_of_blank (kept : String) {after : String} (h : Blank after.toList) :
    trimEnd (kept ++ after) = trimEnd kept := by
  have blank : ∀ c ∈ after.toList.reverse, isBlank c = true :=
    fun c hc => h c (List.mem_reverse.mp hc)
  rw [trimEnd, trimEnd, String.toList_append, trimEndChars, List.reverse_append,
    List.dropWhile_append_of_pos blank, trimEndChars]

end Text

namespace ConsoleWriter
open Text

theorem foldl_write (w : ConsoleWriter) (chunks : List (List UInt8)) :
    chunks.foldl write w = ⟨w.bytes ++ chunks.flatten⟩ := by
  induction chunks generalizing w with
  | nil => simp
  | cons chunk rest ih => simp [ih, write]

theorem emitted_eq (chunks : List (List UInt8)) :
    emitted chunks = (ConsoleWriter.mk chunks.flatten).close := by
  rw [emitted, foldl_write, new, List.nil_append]

theorem emitted_of_encoded {kept after : String} {chunks : List (List UInt8)}
    (last : ∀ c ∈ kept.toList.getLast?, isBlank c = false) (blank : Blank after.toList)
    (bytes : chunks.flatten = encodeUtf8 (kept ++ after)) :
    emitted chunks = if kept = "" then "" else kept ++ "\n" := by
  rw [emitted_eq, bytes, close, decodeUtf8_encodeUtf8, trimEnd_append_of_blank kept blank,
    trimEnd_eq_self_iff.mpr last]

/-- Only the bytes matter, not their division into chunks. A text in UTF-8, cut anywhere, is emitted
as a line without its final white space, and a blank text is not emitted. -/
theorem emission_ignores_cuts :
    (∀ chunks chunks' : List (List UInt8), chunks.flatten = chunks'.flatten →
      emitted chunks = emitted chunks') ∧
    ∀ (s : String) (chunks : List (List UInt8)), chunks.flatten = encodeUtf8 s →
      (Blank s.toList → emitted chunks = "") ∧
        (¬ Blank s.toList → ∃ kept after : String, s = kept ++ after ∧ Blank after.toList ∧
          (∀ c ∈ kept.toList.getLast?, isBlank c = false) ∧ emitted chunks = kept ++ "\n") := by
  refine ⟨fun chunks chunks' same => ?_, fun s chunks bytes => ⟨fun blank => ?_, fun filled => ?_⟩⟩
  · rw [emitted_eq, emitted_eq, same]
  · have last : ∀ c ∈ "".toList.getLast?, isBlank c = false := nofun
    exact emitted_of_encoded last blank (by rwa [String.empty_append])
  · obtain ⟨kept, after, rfl, blank, last⟩ := exists_blank_end s
    have named : kept ≠ "" := by
      rintro rfl
      rw [String.empty_append] at filled
      exact filled blank
    have emits := emitted_of_encoded last blank bytes
    rw [if_neg named] at emits
    exact ⟨kept, after, rfl, blank, last, emits⟩

/-- Both characters are cut, the ideographic space at the end too. -/
theorem emission_ignores_cuts_within_characters :
    let chunks : List (List UInt8) := [[0xC3], [], [0xA9, 0xE3, 0x80], [0x80]]
    chunks.flatten = encodeUtf8 "é\u3000" ∧ ¬ Blank "é\u3000".toList ∧ emitted chunks = "é\n" ∧
      emitted [chunks.flatten] = "é\n" := by
  intro chunks
  have bytes : chunks.flatten = encodeUtf8 "é\u3000" := by decide
  have filled : ¬ Blank "é\u3000".toList := by
    intro blank
    exact absurd (blank 'é' (by decide)) (by decide)
  obtain ⟨uncut, line⟩ := emission_ignores_cuts
  obtain ⟨kept, after, whole, blank, last, emits⟩ := (line "é\u3000" chunks bytes).2 filled
  have trimmed : trimEnd "é\u3000" = kept := by
    rw [whole, trimEnd_append_of_blank kept blank, trimEnd_eq_self_iff.mpr last]
  have first : trimEnd "é\u3000" = "é" := by decide
  rw [← trimmed, first] at emits
  exact ⟨bytes, filled, emits, (uncut [chunks.flatten] chunks (List.append_nil _)).trans emits⟩

end ConsoleWriter
end VirtualTerminal
