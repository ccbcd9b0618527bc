import Mathlib.Data.List.TakeWhile
import TopoPlan.Proofs.Address.Intervals
import TopoPlan.Proofs.Address.RoundTrip
import TopoPlan.Proofs.Text.Cutting

/-!
# Written hosts and subnets

The written form of an address has no blank and no `/`, so it is also read where a
host address or a subnet is expected.
-/

namespace TopoPlan

namespace Text

variable {text : List Char}

/-- Nothing is left out of a text without blanks. -/
theorem dropWhile_isBlank (visible : ∀ character ∈ text, isBlank character = false) :
    text.dropWhile isBlank = text := by
  cases text with
  | nil => rfl
  | cons character rest =>
    have first := visible character (by simp)
    simp [first]

/-- Without blanks there is nothing to trim. -/
theorem trimList_eq_self (visible : ∀ character ∈ text, isBlank character = false) :
    trimList text = text := by
  have turned : ∀ character ∈ text.reverse, isBlank character = false := by
    intro character member
    exact visible character (List.mem_reverse.mp member)
  rw [trimList, dropWhile_isBlank visible, dropTail, dropWhile_isBlank turned, List.reverse_reverse]

end Text

namespace Address

open Numeral

/-- The characters of written addresses: digits and the two marks. -/
def IsPart (character : Char) : Prop :=
  character = ':' ∨ character = '.' ∨ ∃ digit < 16, Nat.digitChar digit = character

/-- A character of an address is no blank. -/
theorem IsPart.visible {character : Char} (part : IsPart character) :
    Text.isBlank character = false := by
  rcases part with rfl | rfl | ⟨digit, below, rfl⟩
  · decide
  · decide
  · interval_cases digit <;> decide

/-- A character of an address does not separate a length. -/
theorem IsPart.ne_slash {character : Char} (part : IsPart character) : character ≠ '/' := by
  rcases part with rfl | rfl | ⟨digit, below, rfl⟩
  · decide
  · decide
  · interval_cases digit <;> decide

/-- The digits of a number are characters of an address. -/
theorem isPart_of_mem_toDigits {base value : Nat} (several : 1 < base) (small : base ≤ 16)
    {character : Char} (member : character ∈ Nat.toDigits base value) : IsPart character :=
  .inr (.inr (exists_digit_of_mem_toDigits several small member))

/-- Octets in text consist of characters of an address. -/
theorem isPart_of_mem_octetText {value : Nat} {character : Char}
    (member : character ∈ (octetText value).toList) : IsPart character := by
  have digits : ∀ octet, character ∈ Nat.toDigits 10 octet → IsPart character :=
    fun octet => isPart_of_mem_toDigits (by omega) (by omega)
  have point : character = '.' → IsPart character := fun same => .inr (.inl same)
  rw [octetText_toList] at member
  simp only [List.mem_append, List.mem_cons] at member
  rcases member with octet | same | octet | same | octet | same | octet
  all_goals first | exact digits _ octet | exact point same

/-- Groups in text consist of characters of an address. -/
theorem isPart_of_mem_groupText {groups : List Nat} {character : Char}
    (member : character ∈ (groupText groups).toList) : IsPart character := by
  have digits : ∀ group, character ∈ Nat.toDigits 16 group → IsPart character :=
    fun group => isPart_of_mem_toDigits (by omega) (by omega)
  cases groups with
  | nil => simp [groupText] at member
  | cons group groups =>
    rw [groupText_toList, List.mem_append] at member
    rcases member with first | others
    · exact digits group first
    · obtain ⟨other, -, member⟩ := List.mem_flatMap.mp others
      rcases List.mem_cons.mp member with rfl | member
      · exact .inl rfl
      · exact digits other member

/-- Addresses in text consist of characters of an address. -/
theorem isPart_of_mem_text {address : Address} {character : Char}
    (member : character ∈ address.text.toList) : IsPart character := by
  obtain ⟨family, value, bound⟩ := address
  cases family with
  | v4 => exact isPart_of_mem_octetText member
  | v6 =>
    have colon : character = ':' → IsPart character := .inl
    have mark : character = 'f' → IsPart character := fun same =>
      .inr (.inr ⟨15, by omega, same.symm⟩)
    have member : character ∈ (eightGroupText value).toList := member
    rw [eightGroupText] at member
    dsimp only at member
    split at member
    · simp only [String.toList_append, List.mem_append] at member
      rcases member with start | octets
      · have letters : ∀ letter ∈ "::ffff:".toList, letter = ':' ∨ letter = 'f' := by simp
        exact (letters character start).elim colon mark
      · exact isPart_of_mem_octetText octets
    · split at member
      · simp only [String.toList_append, List.mem_append] at member
        rcases member with (before | gap) | after
        · exact isPart_of_mem_groupText before
        · exact colon (by simpa using gap)
        · exact isPart_of_mem_groupText after
      · exact isPart_of_mem_groupText member

/-- There is no blank in the text of an address. -/
theorem text_visible (address : Address) :
    ∀ character ∈ address.text.toList, Text.isBlank character = false :=
  fun _ member => (isPart_of_mem_text member).visible

/-- There is no slash in the text of an address. -/
theorem slash_not_mem_text (address : Address) : '/' ∉ address.text.toList :=
  fun member => (isPart_of_mem_text member).ne_slash rfl

/-- The written form of an address is read as that host. -/
theorem parseHost?_text (address : Address) : parseHost? address.text = some address := by
  have whole : address.text.toList.takeWhile (· != '/') = address.text.toList := by
    apply List.takeWhile_eq_self_iff.mpr
    intro character member
    simpa using (isPart_of_mem_text member).ne_slash
  rw [parseHost?, whole, Text.trimList_eq_self address.text_visible, String.ofList_toList,
    parse?_text]

end Address

namespace Subnet

open Address

/-- A subnet in text is its first address and its length, with a slash between them. -/
theorem text_toList (subnet : Subnet) :
    subnet.text.toList = subnet.network.text.toList ++ '/' :: Nat.toDigits 10 subnet.length := by
  simp [text, toString]

/-- The written form of a subnet is read as that subnet. -/
theorem parse_text (subnet : Subnet) : parse subnet.text = .ok subnet := by
  have visible : ∀ character ∈ subnet.text.toList, Text.isBlank character = false := by
    intro character member
    rw [text_toList, List.mem_append, List.mem_cons] at member
    rcases member with address | rfl | length
    · exact subnet.network.text_visible character address
    · decide
    · exact (isPart_of_mem_toDigits (by omega) (by omega) length).visible
  have cut : Text.cutOnce '/' (Text.trim subnet.text) =
      some (subnet.network.text, Numeral.text subnet.length) := by
    rw [Text.trim, Text.trimList_eq_self visible, String.ofList_toList, Text.cutOnce, text_toList,
      Text.splitOnce_append '/' subnet.network.slash_not_mem_text]
    simp [Numeral.text]
  have short : subnet.length < 256 := by
    have bound := subnet.length_le
    have width : subnet.network.family.width ≤ 128 := by
      cases subnet.network.family <;> decide
    omega
  have around : subnet = around subnet.network subnet.length subnet.length_le :=
    eq_around_of_contains subnet.contains_network rfl
  unfold parse
  rw [cut]
  simp only [parse?_text, Numeral.read_text 256 subnet.length short]
  rw [ofAddress_eq_ok subnet.length_le, ← around]

end Subnet

end TopoPlan
