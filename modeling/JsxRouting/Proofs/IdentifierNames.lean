import JsxRouting.Proofs.IdentifierCharacters
import JsxRouting.Text.IdentifierName

namespace JsxRouting

namespace CharRanges

/-- What is left of a range outside holes. -/
def cut : CharRanges → Nat × Nat → CharRanges
  | [], range => [range]
  | (first, last) :: holes, (low, high) =>
    if high < first ∨ last < low then cut holes (low, high)
    else (if low < first then cut holes (low, first - 1) else []) ++
      if last < high then cut holes (last + 1, high) else []

/-- The ranges outside others. -/
def without (ranges holes : CharRanges) : CharRanges := ranges.flatMap (cut holes)

theorem contains_append (ranges others : CharRanges) (c : Char) :
    contains (ranges ++ others) c = (ranges.contains c || others.contains c) := List.any_append

theorem contains_cons {first last : Nat} {rest : CharRanges} {c : Char} :
    contains ((first, last) :: rest) c = true ↔ (first ≤ c.toNat ∧ c.toNat ≤ last) ∨ rest.contains c = true := by
  simp [contains]

theorem contains_cut {holes : CharRanges} {low high : Nat} {c : Char} :
    (cut holes (low, high)).contains c = true ↔ (low ≤ c.toNat ∧ c.toNat ≤ high) ∧ ¬ holes.contains c = true := by
  induction holes generalizing low high with
  | nil => simp [cut, contains]
  | cons hole rest ih =>
    obtain ⟨first, last⟩ := hole
    have piece (isLeft : Prop) [Decidable isLeft] (low high : Nat) :
        contains (if isLeft then cut rest (low, high) else []) c = true ↔
          isLeft ∧ (low ≤ c.toNat ∧ c.toNat ≤ high) ∧ ¬ contains rest c = true := by
      split
      · rename_i isLeft
        rw [ih, and_iff_right isLeft]
      · rename_i noneLeft
        exact ⟨nofun, fun inside => absurd inside.1 noneLeft⟩
    rw [cut, contains_cons]
    by_cases inRest : contains rest c = true
    · split <;> simp [contains_append, piece, ih, inRest]
    · split
      · simp only [ih, inRest, Bool.false_eq_true, or_false, not_false_eq_true, and_true]
        omega
      · simp only [contains_append, Bool.or_eq_true, piece, inRest, Bool.false_eq_true, or_false, not_false_eq_true,
          and_true]
        omega

theorem contains_without (ranges holes : CharRanges) (c : Char) :
    (ranges.without holes).contains c = (ranges.contains c && !holes.contains c) := by
  rw [Bool.eq_iff_iff, Bool.and_eq_true, Bool.not_eq_true']
  induction ranges with
  | nil => simp [without, contains]
  | cons range rest ih =>
    obtain ⟨low, high⟩ := range
    rw [without, List.flatMap_cons, contains_append, Bool.or_eq_true, contains_cut, ← without, ih, contains_cons]
    simp only [Bool.not_eq_true, or_and_right]

/-- Ranges of which nothing is left outside others lie within these. -/
theorem contains_of_without {ranges others : CharRanges} (inside : ranges.without others = []) {c : Char}
    (member : ranges.contains c = true) : others.contains c = true := by
  refine Bool.of_not_eq_false fun outside => ?_
  have left := contains_without ranges others c
  rw [inside, member, outside] at left
  cases left

/-- Ranges of which all is left outside others have nothing in common with these. -/
theorem not_contains_of_without {ranges others : CharRanges} (outside : ranges.without others = ranges) {c : Char}
    (member : ranges.contains c = true) : others.contains c = false := by
  refine Bool.of_not_eq_true fun inside => ?_
  have left := contains_without ranges others c
  rw [outside, member, inside] at left
  cases left

end CharRanges

/-- Whether a character has the property ID_Start. -/
def isIdStart (c : Char) : Bool := idStartRanges.contains c

/-- Whether a character has the property ID_Continue. -/
def isIdContinue (c : Char) : Bool := idStartRanges.contains c || idExtendRanges.contains c

section Properties

/-- XID_Start is ID_Start without the characters that are no start of a name in their compatibility form. -/
theorem contains_nameStartRanges (c : Char) :
    nameStartRanges.contains c = (isIdStart c && !(spacedForms.contains c || markedForms.contains c)) := by
  have left : idStartRanges.without (spacedForms ++ markedForms) = nameStartRanges := by decide +kernel
  rw [← left, CharRanges.contains_without, CharRanges.contains_append]
  rfl

/-- The characters that can only follow are told apart in the same way, but that forms with marks may follow. -/
theorem contains_nameExtendRanges (c : Char) :
    nameExtendRanges.contains c = (idExtendRanges.contains c || markedForms.contains c) := by
  have left : nameExtendRanges.without markedForms = idExtendRanges := by decide +kernel
  have inside : markedForms.without nameExtendRanges = [] := by decide +kernel
  rw [← left, CharRanges.contains_without]
  cases marked : markedForms.contains c with
  | false => simp
  | true => simp [CharRanges.contains_of_without inside marked]

/-- XID_Continue is ID_Continue without the characters whose compatibility form holds a space. -/
theorem contains_nameRanges (c : Char) :
    (nameStartRanges.contains c || nameExtendRanges.contains c) = (isIdContinue c && !spacedForms.contains c) := by
  have starts : markedForms.without idStartRanges = [] := by decide +kernel
  have apart : spacedForms.without nameExtendRanges = spacedForms := by decide +kernel
  have extend := contains_nameExtendRanges c
  rw [contains_nameStartRanges, isIdStart, isIdContinue]
  cases spaced : spacedForms.contains c with
  | true =>
    have noExtend := CharRanges.not_contains_of_without apart spaced
    simp [noExtend]
  | false =>
    rw [extend]
    cases marked : markedForms.contains c with
    | false => simp
    | true => simp [CharRanges.contains_of_without starts marked]

end Properties

/-- The characters with which the name of an identifier may begin in a program. -/
def BeginsIdentifier (c : Char) : Prop := c = '$' ∨ c = '_' ∨ isIdStart c = true

/-- The characters that may follow in the name of an identifier in a program. -/
def ContinuesIdentifier (c : Char) : Prop := c = '$' ∨ c = '\u200c' ∨ c = '\u200d' ∨ isIdContinue c = true

/-- The names of identifiers in a program, written without escapes. -/
def NamesIdentifier (text : String) : Prop :=
  ∃ first rest, text.toList = first :: rest ∧ BeginsIdentifier first ∧ ∀ c ∈ rest, ContinuesIdentifier c

theorem isNameStart_iff (c : Char) :
    isNameStart c = true ↔ BeginsIdentifier c ∧ spacedForms.contains c = false ∧
      markedForms.contains c = false := by
  simp only [isNameStart, BeginsIdentifier, contains_nameStartRanges, Bool.or_eq_true, beq_iff_eq, Bool.and_eq_true,
    Bool.not_eq_true', Bool.or_eq_false_iff, or_assoc]
  constructor
  · rintro (rfl | rfl | ⟨start, apart⟩)
    · exact ⟨.inl rfl, by decide⟩
    · exact ⟨.inr (.inl rfl), by decide⟩
    · exact ⟨.inr (.inr start), apart⟩
  · rintro ⟨dollar | line | start, apart⟩
    · exact .inl dollar
    · exact .inr (.inl line)
    · exact .inr (.inr ⟨start, apart⟩)

theorem isNamePart_iff (c : Char) :
    isNamePart c = true ↔ ContinuesIdentifier c ∧ spacedForms.contains c = false := by
  have either : isNamePart c =
    (c == '$' || c == '\u200c' || c == '\u200d' || (isIdContinue c && !spacedForms.contains c)) := by
    rw [← contains_nameRanges, isNamePart, Bool.or_assoc _ (nameStartRanges.contains c)]
  simp only [either, ContinuesIdentifier, Bool.or_eq_true, beq_iff_eq, Bool.and_eq_true,
    Bool.not_eq_true', or_assoc]
  constructor
  · rintro (rfl | rfl | rfl | ⟨continues, apart⟩)
    · exact ⟨.inl rfl, by decide⟩
    · exact ⟨.inr (.inl rfl), by decide⟩
    · exact ⟨.inr (.inr (.inl rfl)), by decide⟩
    · exact ⟨.inr (.inr (.inr continues)), apart⟩
  · rintro ⟨dollar | nonJoiner | joiner | continues, apart⟩
    · exact .inl dollar
    · exact .inr (.inl nonJoiner)
    · exact .inr (.inr (.inl joiner))
    · exact .inr (.inr (.inr ⟨continues, apart⟩))

/-- A text counts as the name of an identifier exactly if it is one in programs, holds no character whose
compatibility form holds a space, and does not begin with one whose compatibility form begins with a mark. -/
theorem isIdentifierName_iff (text : String) :
    isIdentifierName text = true ↔ NamesIdentifier text ∧ (∀ c ∈ text.toList, spacedForms.contains c = false) ∧
      ∀ first ∈ text.toList.head?, markedForms.contains first = false := by
  unfold isIdentifierName NamesIdentifier
  cases text.toList with
  | nil => exact ⟨nofun, fun ⟨⟨_, _, same, _⟩, _⟩ => nomatch same⟩
  | cons first rest =>
    simp only [Bool.and_eq_true, List.all_eq_true, isNameStart_iff, isNamePart_iff, List.forall_mem_cons,
      List.head?_cons, Option.mem_some_iff, forall_eq']
    constructor
    · rintro ⟨⟨begins, noSpace, noMark⟩, follow⟩
      exact ⟨⟨first, rest, rfl, begins, fun c member => (follow c member).1⟩,
        ⟨noSpace, fun c member => (follow c member).2⟩, noMark⟩
    · rintro ⟨⟨_, _, same, begins, continues⟩, ⟨noSpace, noSpaces⟩, noMark⟩
      cases same
      exact ⟨⟨begins, noSpace, noMark⟩, fun c member => ⟨continues c member, noSpaces c member⟩⟩

/-- The iota subscript on its own is the name of an identifier in programs and does not count as one, nor does it
count behind another letter. -/
theorem isIdentifierName_misses_iota :
    (NamesIdentifier "\u037a" ∧ isIdentifierName "\u037a" = false) ∧
      NamesIdentifier "A\u037a" ∧ isIdentifierName "A\u037a" = false := by
  have starts : isIdStart '\u037a' = true ∧ isIdStart 'A' = true := by decide +kernel
  have misses : isIdentifierName "\u037a" = false ∧ isIdentifierName "A\u037a" = false := by decide +kernel
  refine ⟨⟨⟨'\u037a', [], rfl, .inr (.inr starts.1), nofun⟩, misses.1⟩,
    ⟨'A', ['\u037a'], rfl, .inr (.inr starts.2), fun c member => ?_⟩, misses.2⟩
  rw [List.mem_singleton.mp member]
  exact .inr (.inr (.inr (Bool.or_eq_true_iff.mpr (.inl starts.1))))

end JsxRouting
