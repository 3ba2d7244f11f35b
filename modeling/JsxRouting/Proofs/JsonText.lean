import JsxRouting.Json.Parser
import JsxRouting.Json.Printer
import JsxRouting.Proofs.NumberText
import JsxRouting.Proofs.Outcomes
import JsxRouting.Proofs.PlainData

namespace JsxRouting

namespace Quoted

theorem hexValue?_hexDigit : ∀ n < 16, hexValue? (hexDigit n) = some n := by decide

/-- A control character is read from its code. -/
theorem readEscape_control {c : Char} (control : c.toNat < 32) (rest : List Char) :
    readEscape ('u' :: (hexChars 4 c.toNat ++ rest)) = some (c, rest) := by
  have zero : hexValue? (hexDigit 0) = some 0 := hexValue?_hexDigit 0 (by decide)
  have high : c.toNat / 16 % 16 = c.toNat / 16 := by omega
  have noHigher : c.toNat / 16 / 16 % 16 = 0 := by omega
  have noHighest : c.toNat / 16 / 16 / 16 % 16 = 0 := by omega
  have unit : 16 * (c.toNat / 16) + c.toNat % 16 = c.toNat := Nat.div_add_mod _ _
  have noHigh : isHigh c.toNat = false := by
    simp only [isHigh, Bool.and_eq_false_iff, decide_eq_false_iff_not]
    omega
  have noLow : isLow c.toNat = false := by
    simp only [isLow, Bool.and_eq_false_iff, decide_eq_false_iff_not]
    omega
  have read : readUnit (hexChars 4 c.toNat ++ rest) = some (c.toNat, rest) := by
    simp only [hexChars, List.nil_append, List.cons_append, readUnit, high, noHigher, noHighest, zero,
      hexValue?_hexDigit (c.toNat / 16) (by omega), hexValue?_hexDigit (c.toNat % 16) (by omega)]
    simp [unit]
  simp [readEscape, readCodePoint, read, noHigh, noLow]

/-- A character is read from what stands for it between quotes. -/
theorem read_escape (c : Char) (fuel : Nat) (rest : List Char) :
    read (fuel + 1) (escape c ++ rest) = (read fuel rest).map fun read => (c :: read.1, read.2) := by
  have escaped {text : List Char} (isEscape : readEscape text = some (c, rest)) :
      read (fuel + 1) ('\\' :: text) = (read fuel rest).map fun read => (c :: read.1, read.2) := by
    rw [read, if_neg (by decide), if_pos rfl, isEscape]
    simp only [Option.bind_eq_bind, Option.bind_some]
    cases read fuel rest <;> rfl
  unfold escape
  split
  · next quote =>
    subst quote
    exact escaped rfl
  next noQuote =>
  split
  · next backslash =>
    subst backslash
    exact escaped rfl
  next noBackslash =>
  -- The control characters that have a letter.
  iterate 5
    split
    · next letter =>
      subst letter
      exact escaped rfl
  split
  · next control => exact escaped (readEscape_control control rest)
  · next plain =>
    rw [List.singleton_append, read, if_neg noQuote, if_neg noBackslash, if_neg plain]
    cases read fuel rest <;> rfl

theorem length_le_escaped (text : List Char) : text.length ≤ (text.flatMap escape).length := by
  induction text with
  | nil => exact le_rfl
  | cons c text ih =>
    have some : 0 < (escape c).length := by
      unfold escape
      repeat' split
      all_goals exact Nat.zero_lt_succ _
    rw [List.flatMap_cons, List.length_append, List.length_cons]
    omega

/-- Text between quotes reads back. -/
theorem read_escaped (text : List Char) {fuel : Nat} (enough : text.length < fuel) (rest : List Char) :
    read fuel (text.flatMap escape ++ '"' :: rest) = some (text, rest) := by
  induction text generalizing fuel with
  | nil =>
    obtain ⟨fuel, rfl⟩ := Nat.exists_eq_add_one.mpr enough
    rfl
  | cons c text ih =>
    obtain ⟨fuel, rfl⟩ := Nat.exists_eq_add_one.mpr (Nat.zero_lt_of_lt enough)
    rw [List.flatMap_cons, List.append_assoc, read_escape, ih (Nat.lt_of_succ_lt_succ enough)]
    rfl

end Quoted

mutual

/-- A JSON value as texts give it: in every object each key is there once, and the scalars are as texts give
them. -/
def Json.IsReadable : Json → Prop
  | .scalar value => value.IsReadable
  | .array items => ItemsReadable items
  | .object members => (members.map (·.1)).Nodup ∧ MembersReadable members

def ItemsReadable : List Json → Prop
  | [] => True
  | item :: rest => item.IsReadable ∧ ItemsReadable rest

def MembersReadable : List (String × Json) → Prop
  | [] => True
  | (_, value) :: rest => value.IsReadable ∧ MembersReadable rest

end

theorem membersReadable_iff {members : List (String × Json)} :
    MembersReadable members ↔ ∀ entry ∈ members, entry.2.IsReadable := by
  induction members with
  | nil => simp [MembersReadable]
  | cons entry rest ih => rw [MembersReadable, ih, List.forall_mem_cons]

/-- Writing entries under keys of their own keeps them as they are. -/
theorem Entries.ofPairs_of_nodup {α : Type} {entries : List (String × α)} (apart : (entries.map (·.1)).Nodup) :
    Entries.ofPairs entries = entries := by
  have general : ∀ (front rest : List (String × α)), ((front ++ rest).map (·.1)).Nodup →
      rest.foldl (fun entries pair => Entries.insert entries pair.1 pair.2) front = front ++ rest := by
    intro front rest
    induction rest generalizing front with
    | nil => exact fun _ => (List.append_nil front).symm
    | cons entry rest ih =>
      intro apart
      have absent : front.lookup entry.1 = none := by
        refine List.lookup_eq_none_iff.mpr fun other member => bne_iff_ne.mpr fun same => ?_
        rw [List.map_append] at apart
        exact (List.nodup_append.mp apart).2.2 other.1 (List.mem_map_of_mem member) entry.1
          List.mem_cons_self same.symm
      rw [List.foldl_cons, Entries.insert_of_absent entry.2 absent, ih _ (by simpa using apart), List.append_assoc]
      rfl
  exact general [] entries apart

theorem Entries.nodup_ofPairs {α : Type} (pairs : List (String × α)) :
    ((Entries.ofPairs pairs).map (·.1)).Nodup := by
  have general : ∀ (rest : List (String × α)) (front : Entries α), (front.map (·.1)).Nodup →
      ((rest.foldl (fun entries pair => Entries.insert entries pair.1 pair.2) front).map (·.1)).Nodup := by
    intro rest
    induction rest with
    | nil => exact fun _ apart => apart
    | cons pair rest ih => exact fun front apart => ih _ (Entries.nodup_insert apart pair.1 pair.2)
  exact general pairs [] .nil

theorem Entries.mem_ofPairs {α : Type} {pairs : List (String × α)} {entry : String × α}
    (member : entry ∈ Entries.ofPairs pairs) : entry ∈ pairs := by
  have general : ∀ (rest : List (String × α)) (front : Entries α),
      entry ∈ rest.foldl (fun entries pair => Entries.insert entries pair.1 pair.2) front → entry ∈ front ∨
        entry ∈ rest := by
    intro rest
    induction rest with
    | nil => exact fun _ member => .inl member
    | cons pair rest ih =>
      intro front member
      obtain inFront | inRest := ih _ member
      · obtain rfl | inFront := Entries.mem_insert inFront
        · exact .inr List.mem_cons_self
        · exact .inl inFront
      · exact .inr (List.mem_cons_of_mem _ inRest)
  exact (general pairs [] member).resolve_left List.not_mem_nil

namespace Json

section Blanks

variable {c : Char} (noBlank : isBlank c = false) (text : List Char)

include noBlank

theorem skipBlanks_cons : skipBlanks (c :: text) = c :: text := List.dropWhile_cons_of_neg (by simp [noBlank])

theorem skipBlanks_lineBreak (indent : Option Int) (depth : Nat) :
    skipBlanks (lineBreak indent depth ++ c :: text) = c :: text := by
  refine (List.dropWhile_append_of_pos fun blank member => ?_).trans (skipBlanks_cons noBlank text)
  cases indent with
  | none => cases member
  | some width =>
    obtain rfl | member := List.mem_cons.mp member
    · rfl
    · rw [List.eq_of_mem_replicate member]
      rfl

end Blanks

/-- After a line break comes what is not part of a number, if that is so without the break. -/
theorem ends_lineBreak (indent : Option Int) (depth : Nat) {text : List Char} (ends : Number.Ends text) :
    Number.Ends (lineBreak indent depth ++ text) := by
  cases indent with
  | none => exact ends
  | some width =>
    rintro _ ⟨⟩
    decide

theorem ends_cons {c : Char} (ends : Number.isDigit c = false ∧ c ≠ '.' ∧ c ≠ 'e' ∧ c ≠ 'E') (text : List Char) :
    Number.Ends (c :: text) := by
  rintro _ ⟨⟩
  exact ends

/-- A number starts with no character that another value starts with. -/
theorem readValue_number {text rest : List Char} {value : Scalar} (isRead : Number.read text = .ok (value, rest))
    (fuel : Nat) : readValue (fuel + 1) text = .ok (.scalar value, rest) := by
  obtain ⟨c, others, rfl, starts⟩ := Number.exists_start isRead
  have other {d : Char} (noStart : Number.starts d = false) : c ≠ d := by
    rintro rfl
    rw [starts] at noStart
    cases noStart
  unfold readValue
  split
  · next same => exact absurd (List.cons.inj same).1 (other (by decide))
  · next same => exact absurd (List.cons.inj same).1 (other (by decide))
  · next same => exact absurd (List.cons.inj same).1 (other (by decide))
  · next same => exact absurd (List.cons.inj same).1 (other (by decide))
  · next same => exact absurd (List.cons.inj same).1 (other (by decide))
  · next same => exact absurd (List.cons.inj same).1 (other (by decide))
  · rw [isRead]
    rfl

section Printed

variable {indent : Option Int}

/-- Text of a value is read to the value, whatever follows it, as long as no number goes on there. -/
def ReadsBack (indent : Option Int) (value : Json) : Prop :=
  ∀ depth {fuel rest}, (value.chars indent depth).length ≤ fuel → Number.Ends rest →
    readValue fuel (value.chars indent depth ++ rest) = .ok (value, rest)

theorem readValue_text (text : String) {fuel : Nat} (enough : (Quoted.write text.toList).length ≤ fuel)
    (rest : List Char) :
    readValue fuel (Quoted.write text.toList ++ rest) = .ok (.text text, rest) := by
  have atLeast := Quoted.length_le_escaped text.toList
  have written : Quoted.write text.toList ++ rest = '"' :: (text.toList.flatMap Quoted.escape ++ '"' :: rest) := by
    simp [Quoted.write]
  rw [Quoted.write, List.length_cons, List.length_append, List.length_singleton] at enough
  obtain ⟨fuel, rfl⟩ := Nat.exists_eq_add_one.mpr (Nat.zero_lt_of_lt enough)
  rw [written, readValue, Quoted.read_escaped text.toList (by omega) rest, orMalformed]
  simp [bind, Except.bind, pure, Except.pure]

/-- The text of a value starts with what is neither a blank nor the end of an array. -/
theorem exists_first {value : Json} (readable : value.IsReadable) (indent : Option Int) (depth : Nat) :
    ∃ c rest, value.chars indent depth = c :: rest ∧ isBlank c = false ∧ c ≠ ']' := by
  have number {text : List Char} {scalar : Scalar} (isRead : Number.read (text ++ []) = .ok (scalar, [])) :
      ∃ c rest, text = c :: rest ∧ isBlank c = false ∧ c ≠ ']' := by
    rw [List.append_nil] at isRead
    obtain ⟨c, others, isText, starts⟩ := Number.exists_start isRead
    refine ⟨c, others, isText, ?_, ?_⟩
    · rw [Bool.eq_false_iff]
      intro blank
      simp only [isBlank, Bool.or_eq_true, beq_iff_eq] at blank
      obtain ((rfl | rfl) | rfl) | rfl := blank <;> cases starts
    · rintro rfl
      cases starts
  have ends : Number.Ends [] := nofun
  match value with
  | .scalar .null => exact ⟨'n', _, rfl, rfl, by decide⟩
  | .scalar (.bool true) => exact ⟨'t', _, rfl, rfl, by decide⟩
  | .scalar (.bool false) => exact ⟨'f', _, rfl, rfl, by decide⟩
  | .scalar (.text _) => exact ⟨'"', _, rfl, rfl, by decide⟩
  | .scalar (.int value) => exact number (Number.read_intChars value readable ends)
  | .scalar (.real value) => exact number (Number.read_chars readable ends)
  | .array [] => exact ⟨'[', _, rfl, rfl, by decide⟩
  | .array (_ :: _) => exact ⟨'[', _, rfl, rfl, by decide⟩
  | .object [] => exact ⟨'\x7b', _, rfl, rfl, by decide⟩
  | .object ((_, _) :: _) => exact ⟨'\x7b', _, rfl, rfl, by decide⟩

/-- A scalar reads back. -/
theorem readsBack_scalar {value : Scalar} (readable : value.IsReadable) : ReadsBack indent (.scalar value) := by
  intro depth fuel rest enough ends
  have isValue : (Json.scalar value).IsReadable := readable
  obtain ⟨c, tail, isFirst, _⟩ := exists_first isValue indent depth
  rw [isFirst, List.length_cons] at enough
  obtain ⟨fuel, rfl⟩ := Nat.exists_eq_add_one.mpr (Nat.zero_lt_of_lt enough)
  rw [← List.length_cons, ← isFirst, chars] at enough
  rw [chars]
  cases value with
  | text text => exact readValue_text text enough rest
  | null => rfl
  | bool value => cases value <;> rfl
  | int value => exact readValue_number (Number.read_intChars value readable ends) fuel
  | real value => exact readValue_number (Number.read_chars readable ends) fuel

/-- Between two items stands a comma, and blanks behind it. -/
theorem exists_gap (indent : Option Int) (depth : Nat) :
    ∃ gap, separator indent depth = ',' :: gap ∧
      ∀ c text, isBlank c = false → skipBlanks (gap ++ c :: text) = c :: text := by
  cases indent with
  | none => exact ⟨[' '], rfl, fun c text noBlank => skipBlanks_cons noBlank text⟩
  | some width => exact ⟨_, rfl, fun c text noBlank => skipBlanks_lineBreak noBlank text (some width) depth⟩

/-- The items of an array are read, and its end. -/
theorem readItems_chars (depth outer : Nat) : ∀ (items : List Json) (item : Json) (fuel : Nat) (rest : List Char),
    (∀ other ∈ item :: items, other.IsReadable ∧ ReadsBack indent other) →
    (item.chars indent depth ++ itemChars indent depth items).length < fuel →
    readItems fuel (item.chars indent depth ++
      (itemChars indent depth items ++ (lineBreak indent outer ++ ']' :: rest))) =
      .ok (item :: items, rest)
  | [], item, fuel, rest, printed, enough => by
    obtain ⟨fuel, rfl⟩ := Nat.exists_eq_add_one.mpr (Nat.zero_lt_of_lt enough)
    rw [itemChars, List.append_nil] at enough
    have ends : Number.Ends (lineBreak indent outer ++ ']' :: rest) :=
      ends_lineBreak indent outer (ends_cons (by decide) rest)
    have isItem := (printed item List.mem_cons_self).2 depth (Nat.lt_succ_iff.mp enough) ends
    have close : skipBlanks (lineBreak indent outer ++ ']' :: rest) = ']' :: rest :=
      skipBlanks_lineBreak rfl rest indent outer
    rw [itemChars, List.nil_append, readItems, isItem]
    simp only [bind, Except.bind, close]
    rfl
  | next :: others, item, fuel, rest, printed, enough => by
    obtain ⟨fuel, rfl⟩ := Nat.exists_eq_add_one.mpr (Nat.zero_lt_of_lt enough)
    obtain ⟨isPrinted, arePrinted⟩ := List.forall_mem_cons.mp printed
    obtain ⟨gap, isGap, skipped⟩ := exists_gap indent depth
    obtain ⟨c, tail, isNext, noBlank, _⟩ := exists_first (arePrinted next List.mem_cons_self).1 indent depth
    rw [itemChars, isGap] at enough ⊢
    simp only [List.length_append, List.length_cons] at enough
    have ih := readItems_chars depth outer others next fuel rest arePrinted (by rw [List.length_append]; omega)
    let behind := next.chars indent depth ++
      (itemChars indent depth others ++ (lineBreak indent outer ++ ']' :: rest))
    have isItem : readValue fuel (item.chars indent depth ++ ',' :: (gap ++ behind)) =
      .ok (item, ',' :: (gap ++ behind)) :=
      isPrinted.2 depth (by omega) (ends_cons (by decide) _)
    have comma : skipBlanks (',' :: (gap ++ behind)) = ',' :: (gap ++ behind) := skipBlanks_cons rfl _
    have toNext : skipBlanks (gap ++ behind) = behind := by
      simp only [behind, isNext, List.cons_append]
      exact skipped c _ noBlank
    have text : item.chars indent depth ++
      (',' :: gap ++ next.chars indent depth ++ itemChars indent depth others ++
        (lineBreak indent outer ++ ']' :: rest)) = item.chars indent depth ++ ',' :: (gap ++ behind) := by
      simp only [behind, List.append_assoc, List.cons_append]
    rw [text, readItems, isItem]
    simp only [bind, Except.bind, comma, toNext, behind, ih]
    rfl

/-- What is read behind the value under a key: the end, or a comma and the other members. -/
def membersBehind (fuel : Nat) (key : String) : Json × List Char → Except Refusal (List (String × Json) × List Char)
  | (value, rest) =>
    match skipBlanks rest with
    | '\x7d' :: rest => .ok ([(key, value)], rest)
    | ',' :: rest => do
      let (members, rest) ← readMembers fuel (skipBlanks rest)
      return ((key, value) :: members, rest)
    | _ => .error .malformed

/-- A key is read, with the colon, and what stands under it is read where it starts. -/
theorem readMembers_key (key : String) {fuel : Nat} (enough : (keyChars key).length ≤ fuel + 1) {text : List Char}
    {c : Char} (first : text.head? = some c) (noBlank : isBlank c = false) :
    readMembers (fuel + 1) (keyChars key ++ text) = readValue fuel text >>= membersBehind fuel key := by
  have atLeast := Quoted.length_le_escaped key.toList
  have written : keyChars key ++ text = '"' :: (key.toList.flatMap Quoted.escape ++ '"' ::
    (':' :: ' ' :: text)) := by
    simp [keyChars, Quoted.write]
  simp only [keyChars, Quoted.write, List.length_append, List.length_cons, List.length_nil] at enough
  have isKey := Quoted.read_escaped key.toList (show key.toList.length < fuel by omega) (':' :: ' ' :: text)
  have colon : skipBlanks (':' :: ' ' :: text) = ':' :: ' ' :: text := skipBlanks_cons rfl _
  have toValue : skipBlanks (' ' :: text) = text := by
    obtain ⟨_, tail, rfl⟩ := List.exists_cons_of_ne_nil (show text ≠ [] by rintro rfl; cases first)
    cases first
    exact skipBlanks_cons noBlank tail
  rw [written, readMembers, isKey]
  simp only [orMalformed, bind, Except.bind, colon, toValue, String.ofList_toList]
  rfl

/-- The members of an object are read, and its end. -/
theorem readMembers_chars (depth outer : Nat) :
    ∀ (members : List (String × Json)) (key : String) (value : Json) (fuel : Nat)
    (rest : List Char), (∀ entry ∈ (key, value) :: members, entry.2.IsReadable ∧ ReadsBack indent entry.2) →
    (keyChars key ++ value.chars indent depth ++ memberChars indent depth members).length < fuel →
    readMembers fuel (keyChars key ++ (value.chars indent depth ++ (memberChars indent depth members ++
      (lineBreak indent outer ++ '\x7d' :: rest)))) = .ok ((key, value) :: members, rest)
  | [], key, value, fuel, rest, printed, enough => by
    obtain ⟨fuel, rfl⟩ := Nat.exists_eq_add_one.mpr (Nat.zero_lt_of_lt enough)
    obtain ⟨readable, readsBack⟩ : value.IsReadable ∧ ReadsBack indent value := printed _ List.mem_cons_self
    obtain ⟨c, tail, isFirst, noBlank, _⟩ := exists_first readable indent depth
    simp only [memberChars, List.length_append, List.length_nil] at enough
    have ends : Number.Ends (lineBreak indent outer ++ '\x7d' :: rest) :=
      ends_lineBreak indent outer (ends_cons (by decide) rest)
    have isValue : readValue fuel (value.chars indent depth ++ (lineBreak indent outer ++ '\x7d' :: rest)) =
        .ok (value, lineBreak indent outer ++ '\x7d' :: rest) := readsBack depth (by omega) ends
    have close : skipBlanks (lineBreak indent outer ++ '\x7d' :: rest) = '\x7d' :: rest :=
      skipBlanks_lineBreak rfl rest indent outer
    rw [memberChars, List.nil_append, readMembers_key key (by omega) (c := c) (by rw [isFirst]; rfl)
      noBlank, isValue]
    simp only [bind, Except.bind, membersBehind, close]
  | (nextKey, next) :: others, key, value, fuel, rest, printed, enough => by
    obtain ⟨fuel, rfl⟩ := Nat.exists_eq_add_one.mpr (Nat.zero_lt_of_lt enough)
    obtain ⟨readable, readsBack⟩ : value.IsReadable ∧ ReadsBack indent value := printed _ List.mem_cons_self
    have arePrinted := (List.forall_mem_cons.mp printed).2
    obtain ⟨gap, isGap, skipped⟩ := exists_gap indent depth
    obtain ⟨c, tail, isFirst, noBlank, _⟩ := exists_first readable indent depth
    rw [memberChars, isGap] at enough ⊢
    simp only [List.length_append, List.length_cons] at enough
    have ih := readMembers_chars depth outer others nextKey next fuel rest arePrinted
      (by rw [List.length_append, List.length_append]; omega)
    let behind := keyChars nextKey ++ (next.chars indent depth ++ (memberChars indent depth others ++
      (lineBreak indent outer ++ '\x7d' :: rest)))
    have isValue : readValue fuel (value.chars indent depth ++ ',' :: (gap ++ behind)) =
      .ok (value, ',' :: (gap ++ behind)) :=
      readsBack depth (by omega) (ends_cons (by decide) _)
    have comma : skipBlanks (',' :: (gap ++ behind)) = ',' :: (gap ++ behind) := skipBlanks_cons rfl _
    have toNext : skipBlanks (gap ++ behind) = behind := skipped '"' _ rfl
    have text : value.chars indent depth ++ (',' :: gap ++ keyChars nextKey ++ next.chars indent depth ++
        memberChars indent depth others ++ (lineBreak indent outer ++ '\x7d' :: rest)) =
          value.chars indent depth ++ ',' :: (gap ++ behind) := by
      simp only [behind, List.append_assoc, List.cons_append]
    rw [text, readMembers_key key (by omega) (c := c) (by rw [isFirst]; rfl) noBlank, isValue]
    simp only [bind, Except.bind, membersBehind, comma, toNext, behind, ih]
    rfl

theorem readsBack_array {items : List Json} (printed : ∀ item ∈ items, item.IsReadable ∧ ReadsBack indent item) :
    ReadsBack indent (.array items) := by
  intro depth fuel rest enough ends
  cases items with
  | nil =>
    obtain ⟨fuel, rfl⟩ := Nat.exists_eq_add_one.mpr (Nat.lt_of_lt_of_le Nat.two_pos enough)
    rfl
  | cons item items =>
    rw [chars] at enough ⊢
    simp only [List.length_cons, List.length_append] at enough
    obtain ⟨fuel, rfl⟩ := Nat.exists_eq_add_one.mpr (Nat.zero_lt_of_lt enough)
    obtain ⟨c, tail, isFirst, noBlank, noEnd⟩ := exists_first (printed item List.mem_cons_self).1 indent (depth + 1)
    have areItems :=
      readItems_chars (depth + 1) depth items item fuel rest printed (by rw [List.length_append]; omega)
    have text : '[' :: (lineBreak indent (depth + 1) ++ item.chars indent (depth + 1) ++
        itemChars indent (depth + 1) items ++ lineBreak indent depth ++ [']']) ++ rest =
          '[' :: (lineBreak indent (depth + 1) ++ (item.chars indent (depth + 1) ++
            (itemChars indent (depth + 1) items ++ (lineBreak indent depth ++ ']' :: rest)))) := by
      simp only [List.append_assoc, List.cons_append, List.nil_append]
    rw [isFirst] at areItems text
    have skipped := skipBlanks_lineBreak noBlank
      (tail ++ (itemChars indent (depth + 1) items ++ (lineBreak indent depth ++ ']' :: rest))) indent (depth + 1)
    rw [isFirst, text, readValue, List.cons_append, skipped]
    split
    · next same => exact absurd (List.cons.inj same).1 noEnd
    · rw [← List.cons_append, areItems]
      rfl

theorem readsBack_object {members : List (String × Json)} (apart : (members.map (·.1)).Nodup)
    (printed : ∀ entry ∈ members, entry.2.IsReadable ∧ ReadsBack indent entry.2) :
    ReadsBack indent (.object members) := by
  intro depth fuel rest enough ends
  cases members with
  | nil =>
    obtain ⟨fuel, rfl⟩ := Nat.exists_eq_add_one.mpr (Nat.lt_of_lt_of_le Nat.two_pos enough)
    rfl
  | cons member members =>
    obtain ⟨key, value⟩ := member
    rw [chars] at enough ⊢
    simp only [List.length_cons, List.length_append] at enough
    obtain ⟨fuel, rfl⟩ := Nat.exists_eq_add_one.mpr (Nat.zero_lt_of_lt enough)
    have areMembers := readMembers_chars (depth + 1) depth members key value fuel rest printed
      (by rw [List.length_append, List.length_append]; omega)
    have text : '\x7b' :: (lineBreak indent (depth + 1) ++ keyChars key ++ value.chars indent (depth + 1) ++
        memberChars indent (depth + 1) members ++ lineBreak indent depth ++ ['\x7d']) ++ rest =
          '\x7b' :: (lineBreak indent (depth + 1) ++ (keyChars key ++ (value.chars indent (depth + 1) ++
            (memberChars indent (depth + 1) members ++ (lineBreak indent depth ++ '\x7d' :: rest))))) := by
      simp only [List.append_assoc, List.cons_append, List.nil_append]
    have skipped (behind : List Char) :
        skipBlanks (lineBreak indent (depth + 1) ++ (keyChars key ++ behind)) = keyChars key ++ behind :=
      skipBlanks_lineBreak rfl _ indent (depth + 1)
    rw [text, readValue, skipped]
    split
    · next same => exact absurd (List.cons.inj same).1 (by decide)
    · rw [areMembers]
      simp only [bind, Except.bind, Entries.ofPairs_of_nodup apart]
      rfl

mutual

/-- Every value that texts give is read back from its text. -/
theorem readsBack (indent : Option Int) : ∀ value : Json, value.IsReadable → ReadsBack indent value
  | .scalar _, readable => readsBack_scalar readable
  | .array items, readable => readsBack_array (readsBack_items indent items readable)
  | .object members, readable => readsBack_object readable.1 (readsBack_members indent members readable.2)

theorem readsBack_items (indent : Option Int) : ∀ items : List Json, ItemsReadable items →
    ∀ item ∈ items, item.IsReadable ∧ ReadsBack indent item
  | [], _ => nofun
  | item :: rest, readable =>
    List.forall_mem_cons.mpr
      ⟨⟨readable.1, readsBack indent item readable.1⟩, readsBack_items indent rest readable.2⟩

theorem readsBack_members (indent : Option Int) : ∀ members : List (String × Json), MembersReadable members →
    ∀ entry ∈ members, entry.2.IsReadable ∧ ReadsBack indent entry.2
  | [], _ => nofun
  | (_, value) :: rest, readable =>
    List.forall_mem_cons.mpr
      ⟨⟨readable.1, readsBack indent value readable.1⟩, readsBack_members indent rest readable.2⟩

end

end Printed

/-- A value that texts give is read back from what is printed of it, with any indentation. -/
theorem parse_print {value : Json} (readable : value.IsReadable) (indent : Option Int) :
    parse (value.print indent) = .ok value := by
  obtain ⟨c, rest, isFirst, noBlank, _⟩ := exists_first readable indent 0
  have noBlanks : skipBlanks (value.chars indent 0) = value.chars indent 0 := by
    rw [isFirst]
    exact skipBlanks_cons noBlank rest
  have isRead : readValue (2 * (value.chars indent 0).length + 2) (value.chars indent 0 ++ []) = .ok (value, []) :=
    readsBack indent value readable 0 (by omega) nofun
  rw [List.append_nil] at isRead
  rw [print_eq, parse]
  simp only [String.toList_ofList, noBlanks, isRead]
  rfl

/-- What is read with this fuel is as texts give it. -/
structure ReadsReadable (fuel : Nat) : Prop where
  value : ∀ {text value rest}, readValue fuel text = .ok (value, rest) → value.IsReadable
  items : ∀ {text items rest}, readItems fuel text = .ok (items, rest) → ItemsReadable items
  members : ∀ {text members rest}, readMembers fuel text = .ok (members, rest) → MembersReadable members

section Reading

variable {fuel : Nat} (ih : ReadsReadable fuel)

include ih

theorem readable_of_readValue {text rest : List Char} {value : Json}
    (isRead : readValue (fuel + 1) text = .ok (value, rest)) : value.IsReadable := by
  unfold readValue at isRead
  split at isRead
  · obtain ⟨_, _, same⟩ := bind_eq_ok_iff.mp isRead
    cases same
    trivial
  · split at isRead
    · cases isRead
      trivial
    · obtain ⟨_, areItems, same⟩ := bind_eq_ok_iff.mp isRead
      cases same
      exact ih.items areItems
  · split at isRead
    · cases isRead
      exact ⟨.nil, trivial⟩
    · obtain ⟨⟨members, behind⟩, areMembers, same⟩ := bind_eq_ok_iff.mp isRead
      cases same
      have readable := membersReadable_iff.mp (ih.members areMembers)
      exact ⟨Entries.nodup_ofPairs members, membersReadable_iff.mpr fun entry member =>
        readable entry (Entries.mem_ofPairs member)⟩
  · cases isRead
    trivial
  · cases isRead
    trivial
  · cases isRead
    trivial
  · obtain ⟨_, isNumber, same⟩ := bind_eq_ok_iff.mp isRead
    cases same
    exact Number.read_readable isNumber

theorem readable_of_readItems {text rest : List Char} {items : List Json}
    (isRead : readItems (fuel + 1) text = .ok (items, rest)) : ItemsReadable items := by
  rw [readItems] at isRead
  obtain ⟨_, isItem, isRead⟩ := bind_eq_ok_iff.mp isRead
  dsimp only at isRead
  split at isRead
  · cases isRead
    exact ⟨ih.value isItem, trivial⟩
  · obtain ⟨_, areItems, same⟩ := bind_eq_ok_iff.mp isRead
    cases same
    exact ⟨ih.value isItem, ih.items areItems⟩
  · cases isRead

theorem readable_of_readMembers {text rest : List Char} {members : List (String × Json)}
    (isRead : readMembers (fuel + 1) text = .ok (members, rest)) : MembersReadable members := by
  rw [readMembers.eq_def] at isRead
  dsimp only at isRead
  split at isRead
  · obtain ⟨_, _, isRead⟩ := bind_eq_ok_iff.mp isRead
    split at isRead
    · obtain ⟨_, isValue, isRead⟩ := bind_eq_ok_iff.mp isRead
      split at isRead
      · cases isRead
        exact ⟨ih.value isValue, trivial⟩
      · obtain ⟨_, areMembers, same⟩ := bind_eq_ok_iff.mp isRead
        cases same
        exact ⟨ih.value isValue, ih.members areMembers⟩
      · cases isRead
    · cases isRead
  · cases isRead

end Reading

theorem readsReadable (fuel : Nat) : ReadsReadable fuel := by
  induction fuel with
  | zero =>
    constructor <;>
    · intro _ _ _ isRead
      cases isRead
  | succ fuel ih => exact ⟨readable_of_readValue ih, readable_of_readItems ih, readable_of_readMembers ih⟩

/-- All that is read is as texts give it. -/
theorem isReadable_of_parse {text : String} {value : Json} (parsed : parse text = .ok value) :
    value.IsReadable := by
  obtain ⟨_, isRead, parsed⟩ := bind_eq_ok_iff.mp parsed
  dsimp only at parsed
  split at parsed
  · cases parsed
    exact (readsReadable _).value isRead
  · cases parsed

end Json

end JsxRouting
