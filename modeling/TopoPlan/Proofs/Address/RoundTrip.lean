import TopoPlan.Proofs.Address.Digits

/-!
# Written addresses are read back

Reading the written form of an address gives that address, in every form that
writing uses: four octets, eight groups, eight groups with a run of zero groups
left out, and eight groups that end in four octets.
-/

namespace TopoPlan.Address

open Numeral

/-- Digits are below their base. -/
theorem digitsOf_lt (base : Nat) (positive : 0 < base) (count value : Nat) :
    ∀ digit ∈ digitsOf base count value, digit < base := by
  induction count generalizing value with
  | zero => simp [digitsOf]
  | succ count inductionHypothesis =>
    intro digit member
    rw [digitsOf, List.mem_append, List.mem_singleton] at member
    rcases member with member | rfl
    · exact inductionHypothesis (value / base) digit member
    · exact Nat.mod_lt value positive

/-- A number is written with as many digits as are asked for. -/
@[simp] theorem length_digitsOf (base count value : Nat) :
    (digitsOf base count value).length = count := by
  induction count generalizing value with
  | zero => rfl
  | succ count inductionHypothesis => simp [digitsOf, inductionHypothesis]

/-- Digits of a number that fits are read back as the number. -/
theorem ofDigits_digitsOf (base : Nat) (count value : Nat)
    (bound : value < base ^ count) : ofDigits base (digitsOf base count value) = value := by
  induction count generalizing value with
  | zero =>
    have zero : value = 0 := by simpa using bound
    simp [digitsOf, ofDigits, zero]
  | succ count inductionHypothesis =>
    have quotient : value / base < base ^ count := by
      apply Nat.div_lt_of_lt_mul
      rwa [Nat.mul_comm, ← Nat.pow_succ]
    rw [digitsOf, ofDigits_append, inductionHypothesis (value / base) quotient,
      Nat.div_add_mod']

/-! ### Four octets -/

/-- An address of four octets in text: their numbers, with points between them. -/
theorem octetText_toList (value : Nat) :
    (octetText value).toList =
      Nat.toDigits 10 (value / 256 / 256 / 256 % 256) ++ '.' ::
        (Nat.toDigits 10 (value / 256 / 256 % 256) ++ '.' ::
          (Nat.toDigits 10 (value / 256 % 256) ++ '.' :: Nat.toDigits 10 (value % 256))) := by
  simp [octetText, digitsOf, Numeral.text]

/-- The text of four octets is read back. -/
theorem readOctets_octetText (value : Nat) (bound : value < 0x100000000) :
    readOctets (octetText value).toList = some (value, []) := by
  have reads : ∀ (octet : Nat) (rest : List Char), Stops 10 rest →
      readOctet (Nat.toDigits 10 (octet % 256) ++ rest) = some (octet % 256, rest) :=
    fun octet rest stops => readOctet_append (octet % 256) (Nat.mod_lt octet (by omega)) rest stops
  have point : ∀ rest : List Char, Stops 10 ('.' :: rest) := fun rest =>
    stops_cons 10 '.' rest (by decide)
  have last := reads value [] (stops_nil 10)
  rw [List.append_nil] at last
  have number : ((value / 256 / 256 / 256 % 256 * 256 + value / 256 / 256 % 256) * 256 +
      value / 256 % 256) * 256 + value % 256 = value := by omega
  rw [octetText_toList]
  simp [readOctets, reads, point, last, readMark, number]

/-- What is left after digits is the end of the text. -/
theorem takeDigits_suffix (base : Nat) (text : List Char) :
    (takeDigits base text).2 <:+ text := by
  induction text with
  | nil => exact List.suffix_refl []
  | cons character rest inductionHypothesis =>
    rw [takeDigits]
    split
    · exact List.suffix_refl _
    · exact inductionHypothesis.trans (List.suffix_cons character rest)

/-- An octet takes all digits that there are. -/
theorem rest_of_readOctet {text rest : List Char} {value : Nat}
    (read : readOctet text = some (value, rest)) : rest = (takeDigits 10 text).2 := by
  simp only [readOctet] at read
  split at read
  · simp at read
  · simp only [Option.some.injEq, Prod.mk.injEq] at read
    exact read.2.symm

/-- A mark that does not occur is not found. -/
theorem readMark_eq_none (mark : Char) (text : List Char) (absent : mark ∉ text) :
    readMark mark text = none := by
  cases text with
  | nil => rfl
  | cons character rest =>
    have other : character ≠ mark := by
      rintro rfl
      exact absent (by simp)
    simp [readMark, other]

/-- Without a point there are no four octets. -/
theorem readOctets_eq_none (text : List Char) (absent : '.' ∉ text) : readOctets text = none := by
  cases read : readOctet text with
  | none => simp [readOctets, read]
  | some result =>
    obtain ⟨value, rest⟩ := result
    have remaining : '.' ∉ rest := by
      rw [rest_of_readOctet read]
      exact fun member => absent ((takeDigits_suffix 10 text).subset member)
    simp [readOctets, read, readMark_eq_none '.' rest remaining]

/-! ### Groups -/

/-- Groups that each follow a colon. -/
def colonGroups (groups : List Nat) : List Char :=
  groups.flatMap fun group => ':' :: Nat.toDigits 16 group

/-- Groups in text: the first one, then every other one after a colon. -/
theorem groupText_toList (group : Nat) (groups : List Nat) :
    (groupText (group :: groups)).toList = Nat.toDigits 16 group ++ colonGroups groups := by
  induction groups generalizing group with
  | nil => simp [groupText, colonGroups]
  | cons next groups inductionHypothesis =>
    have following := inductionHypothesis next
    simp only [groupText, List.map_cons, String.toList_intercalate,
      List.intercalate_cons_cons] at following ⊢
    rw [following]
    simp [colonGroups]

/-- What ends a run of groups: nothing more, or the mark for groups left out. -/
inductive EndsGroups : List Char → Prop
  | nothing : EndsGroups []
  | gap (rest : List Char) : EndsGroups (':' :: ':' :: rest)

/-- A group stops where groups end. -/
theorem EndsGroups.stops {rest : List Char} (ends : EndsGroups rest) : Stops 16 rest := by
  cases ends with
  | nothing => exact stops_nil 16
  | gap rest => exact stops_cons 16 ':' _ (by decide)

/-- No group starts with a colon. -/
theorem readGroup_colon (rest : List Char) : readGroup (':' :: rest) = none := by
  have colon : digit? 16 ':' = none := by decide
  simp [readGroup, takeDigits, colon]

/-- No octet starts with a colon. -/
theorem readOctets_colon (rest : List Char) : readOctets (':' :: rest) = none := by
  have colon : digit? 10 ':' = none := by decide
  simp [readOctets, readOctet, takeDigits, colon]

/-- No group is read where groups end. -/
theorem readGroups_of_ends (room : Nat) (isFirst : Bool) {rest : List Char}
    (ends : EndsGroups rest) : readGroups room isFirst rest = { rest } := by
  cases room with
  | zero => rfl
  | succ room =>
    cases ends with
    | nothing =>
      have noOctets := readOctets_eq_none [] (by simp)
      cases isFirst <;> simp [readGroups, readMark, noOctets, readGroup, takeDigits]
    | gap rest => cases isFirst <;> simp [readGroups, readMark, readOctets_colon, readGroup_colon]

/-- There is no point in a number. -/
theorem point_not_mem_toDigits (group : Nat) : '.' ∉ Nat.toDigits 16 group := by
  intro member
  obtain ⟨digit, below, same⟩ := exists_digit_of_mem_toDigits (by omega) (by omega) member
  revert same
  interval_cases digit <;> decide

/-- There is no point in groups after colons. -/
theorem point_not_mem_colonGroups (groups : List Nat) : '.' ∉ colonGroups groups := by
  intro member
  obtain ⟨group, -, member⟩ := List.mem_flatMap.mp member
  rw [List.mem_cons] at member
  rcases member with same | member
  · simp at same
  · exact point_not_mem_toDigits group member

/-- There is no point in groups. -/
theorem point_not_mem_groupText (groups : List Nat) : '.' ∉ (groupText groups).toList := by
  cases groups with
  | nil => simp [groupText]
  | cons group groups =>
    simp [groupText_toList, point_not_mem_toDigits, point_not_mem_colonGroups]

/-- The text after a group: either the next group follows its colon, or the run ends. -/
theorem stops_colonGroups (groups : List Nat) {rest : List Char} (ends : EndsGroups rest) :
    Stops 16 (colonGroups groups ++ rest) := by
  cases groups with
  | nil => exact ends.stops
  | cons group groups => exact stops_cons 16 ':' _ (by decide)

/-- Groups that each follow a colon are all read when there is room for them. -/
theorem readGroups_colonGroups (groups : List Nat) (room : Nat) (fits : groups.length ≤ room)
    (below : ∀ group ∈ groups, group < 65536) {rest : List Char} (ends : EndsGroups rest)
    (noPoint : '.' ∉ rest) :
    readGroups room false (colonGroups groups ++ rest) = { groups, rest } := by
  induction groups generalizing room with
  | nil => exact readGroups_of_ends room false ends
  | cons group groups inductionHypothesis =>
    obtain ⟨room, rfl⟩ : ∃ less, room = less + 1 :=
      Nat.exists_eq_add_one.mpr (Nat.lt_of_lt_of_le (by simp) fits)
    let following := colonGroups groups ++ rest
    have text : colonGroups (group :: groups) ++ rest =
        ':' :: (Nat.toDigits 16 group ++ following) := by
      simp [colonGroups, following]
    have noOctets : readOctets (Nat.toDigits 16 group ++ following) = none := by
      apply readOctets_eq_none
      simp [following, point_not_mem_toDigits, point_not_mem_colonGroups, noPoint]
    have here := readGroup_append group (below group (by simp)) following
      (stops_colonGroups groups ends)
    have after := inductionHypothesis room (by simpa using fits)
      fun other member => below other (List.mem_cons_of_mem group member)
    rw [text]
    simp [readGroups, readMark, noOctets, here, following, after]

/-- A first group is read without its colon. -/
theorem readGroups_first (room : Nat) (start : List Char)
    (found : (readGroups room false (':' :: start)).groups ≠ []) :
    readGroups room true start = readGroups room false (':' :: start) := by
  cases room with
  | zero => exact absurd rfl found
  | succ room =>
    simp only [readGroups, readMark, if_true, Option.map_some, Bool.false_eq_true, if_false]
      at found ⊢
    generalize (if room = 0 then none else readOctets start) = octets at found ⊢
    cases octets with
    | some result => rfl
    | none =>
      cases group : readGroup start with
      | none => simp [group] at found
      | some result => rfl

/-- The text of groups is read as those groups. -/
theorem readGroups_groupText (groups : List Nat) (room : Nat) (fits : groups.length ≤ room)
    (below : ∀ group ∈ groups, group < 65536) {rest : List Char} (ends : EndsGroups rest)
    (noPoint : '.' ∉ rest) :
    readGroups room true ((groupText groups).toList ++ rest) = { groups, rest } := by
  cases groups with
  | nil => exact readGroups_of_ends room true ends
  | cons group groups =>
    have colons := readGroups_colonGroups (group :: groups) room fits below ends noPoint
    have text : colonGroups (group :: groups) ++ rest =
        ':' :: ((groupText (group :: groups)).toList ++ rest) := by
      simp [groupText_toList, colonGroups]
    rw [text] at colons
    rw [readGroups_first room _ (by simp [colons]), colons]

/-! ### Eight groups -/

/-- A run of zeros starts with as many of them as are asked for. -/
theorem zeros_of_le_zeroRun (groups : List Nat) (length : Nat) (bound : length ≤ zeroRun groups) :
    groups = List.replicate length 0 ++ groups.drop length := by
  induction length generalizing groups with
  | zero => simp
  | succ length inductionHypothesis =>
    cases groups with
    | nil => simp [zeroRun] at bound
    | cons group groups =>
      by_cases zero : group = 0
      · subst zero
        have shorter : length ≤ zeroRun groups := by
          simpa [zeroRun] using bound
        have following := inductionHypothesis groups shorter
        rw [List.replicate_succ, List.cons_append, List.drop_succ_cons, ← following]
      · simp [zeroRun, zero] at bound

/-- The chosen run has no more groups than there are zero groups at its start. -/
theorem longestZeroRun_le (groups : List Nat) :
    (longestZeroRun groups).2 ≤ zeroRun (groups.drop (longestZeroRun groups).1) := by
  unfold longestZeroRun
  refine List.foldlRecOn (motive := fun best : Nat × Nat =>
    best.2 ≤ zeroRun (groups.drop best.1)) _ _ (Nat.zero_le _) ?_
  intro best kept start _
  dsimp only
  split
  · exact Nat.le_refl _
  · exact kept

/-- Groups are what stands before the chosen run, its zero groups and what
stands after it. -/
theorem groups_of_longestZeroRun (groups : List Nat) (start length : Nat)
    (run : longestZeroRun groups = (start, length)) :
    groups = groups.take start ++ List.replicate length 0 ++ groups.drop (start + length) := by
  have bound := longestZeroRun_le groups
  rw [run] at bound
  have zeros := zeros_of_le_zeroRun (groups.drop start) length bound
  rw [List.drop_drop] at zeros
  rw [List.append_assoc, ← zeros, List.take_append_drop]

/-- The eight groups of a number are read back as the number. -/
theorem ofGroups_digitsOf (value : Nat) (bound : value < 2 ^ 128) :
    ofGroups (digitsOf 65536 8 value) = value :=
  ofDigits_digitsOf 65536 8 value bound

/-- Eight written groups are read back. -/
theorem readEightGroups_plain (groups : List Nat) (length : groups.length = 8)
    (below : ∀ group ∈ groups, group < 65536) :
    readEightGroups (groupText groups).toList = some (ofGroups groups, []) := by
  have head := readGroups_groupText groups 8 (Nat.le_of_eq length) below .nothing (by simp)
  rw [List.append_nil] at head
  simp [readEightGroups, head, length]

/-- Groups around a gap are read back, with zeros in its place. -/
theorem readEightGroups_gap (before after : List Nat) (zeros : Nat)
    (length : before.length + zeros + after.length = 8) (several : 1 < zeros)
    (belowBefore : ∀ group ∈ before, group < 65536)
    (belowAfter : ∀ group ∈ after, group < 65536) :
    readEightGroups (groupText before ++ "::" ++ groupText after).toList =
      some (ofGroups (before ++ List.replicate zeros 0 ++ after), []) := by
  have noPoint := point_not_mem_groupText after
  have head := readGroups_groupText before 8 (by omega) belowBefore
    (.gap (groupText after).toList) (by simpa using noPoint)
  have tail := readGroups_groupText after (7 - before.length) (by omega) belowAfter .nothing
    (by simp)
  have left : 8 - before.length - after.length = zeros := by omega
  have short : before.length ≠ 8 := by omega
  have text : (groupText before ++ "::" ++ groupText after).toList =
      (groupText before).toList ++ ':' :: ':' :: (groupText after).toList := by
    simp
  rw [List.append_nil] at tail
  rw [text]
  simp [readEightGroups, head, short, readMark, tail, left]

/-- Six zero groups, all ones and four octets are read as eight groups. -/
theorem readEightGroups_octets (value : Nat) (bound : value < 0x100000000) :
    readEightGroups ("::ffff:" ++ octetText value).toList = some (65535 * 0x100000000 + value, []) := by
  let octets := (octetText value).toList
  have text : ("::ffff:" ++ octetText value).toList =
      ':' :: ':' :: (Nat.toDigits 16 65535 ++ ':' :: octets) := by
    have ones : Nat.toDigits 16 65535 = ['f', 'f', 'f', 'f'] := by decide
    simp [ones, octets]
  have head := readGroups_of_ends 8 true (.gap (Nat.toDigits 16 65535 ++ ':' :: octets))
  have noOctets : readOctets (Nat.toDigits 16 65535 ++ ':' :: octets) = none := by
    have noDigit : digit? 10 'f' = none := by decide
    have ones : Nat.toDigits 16 65535 = ['f', 'f', 'f', 'f'] := by decide
    simp [ones, readOctets, readOctet, takeDigits, noDigit]
  have ones := readGroup_append 65535 (by omega) (':' :: octets)
    (stops_cons 16 ':' octets (by decide))
  have last : readOctets octets = some (value, []) := readOctets_octetText value bound
  have tail : readGroups 7 true (Nat.toDigits 16 65535 ++ ':' :: octets) =
      { groups := [65535, value / 65536, value % 65536], endsInOctets := true, rest := [] } := by
    simp [readGroups, readMark, noOctets, ones, last]
  have number : ofGroups [0, 0, 0, 0, 0, 65535, value / 65536, value % 65536] =
      65535 * 0x100000000 + value := by
    simp [ofGroups, ofDigits]
    omega
  rw [text]
  simp [readEightGroups, head, readMark, tail, number, List.replicate]

/-- The text of eight groups is read back. -/
theorem readEightGroups_text (value : Nat) (bound : value < 2 ^ 128) :
    readEightGroups (eightGroupText value).toList = some (value, []) := by
  let groups := digitsOf 65536 8 value
  have below : ∀ group ∈ groups, group < 65536 := digitsOf_lt 65536 (by omega) 8 value
  have number : ofGroups groups = value := ofGroups_digitsOf value bound
  by_cases mapped : value / 0x100000000 = 0xffff
  · have lower : value % 0x100000000 < 0x100000000 := Nat.mod_lt value (by omega)
    have value_eq : 65535 * 0x100000000 + value % 0x100000000 = value := by omega
    have read := readEightGroups_octets (value % 0x100000000) lower
    rw [value_eq] at read
    rwa [eightGroupText, if_pos mapped]
  · rcases run : longestZeroRun groups with ⟨start, length⟩
    rw [eightGroupText, if_neg mapped]
    dsimp only
    rw [run]
    by_cases several : 1 < length
    · let before := groups.take start
      let after := groups.drop (start + length)
      have parts : groups = before ++ List.replicate length 0 ++ after :=
        groups_of_longestZeroRun groups start length run
      have total : before.length + length + after.length = 8 := by
        have lengths := congrArg List.length parts
        simp only [List.length_append, List.length_replicate, groups, length_digitsOf] at lengths
        exact lengths.symm
      have read := readEightGroups_gap before after length total several
        (fun group member => below group (List.mem_of_mem_take member))
        (fun group member => below group (List.mem_of_mem_drop member))
      rw [← parts, number] at read
      rwa [if_pos several]
    · have read := readEightGroups_plain groups (length_digitsOf 65536 8 value) below
      rw [number] at read
      rwa [if_neg several]

/-- The text of eight groups is not taken for octets. -/
theorem readOctets_eightGroupText (value : Nat) :
    readOctets (eightGroupText value).toList = none := by
  by_cases mapped : value / 0x100000000 = 0xffff
  · rw [eightGroupText, if_pos mapped]
    simp [readOctets_colon]
  · apply readOctets_eq_none
    rw [eightGroupText, if_neg mapped]
    dsimp only
    split <;> simp [point_not_mem_groupText]

/-- The written form of an address is read as that address. -/
theorem parse?_text (address : Address) : parse? address.text = some address := by
  obtain ⟨family, value, bound⟩ := address
  cases family with
  | v4 =>
    have read := readOctets_octetText value bound
    simp only [text, parse?, read]
    simpa [ofNat?] using bound
  | v6 =>
    have noOctets := readOctets_eightGroupText value
    have read := readEightGroups_text value bound
    simp only [text, parse?, noOctets, read]
    simpa [ofNat?] using bound

end TopoPlan.Address
