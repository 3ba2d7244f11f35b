import JsxRouting.Json.Number
import JsxRouting.Proofs.DecimalReading

namespace JsxRouting

namespace Number

/-- A text in which no number goes on. -/
def Ends (text : List Char) : Prop :=
  ∀ c, text.head? = some c → isDigit c = false ∧ c ≠ '.' ∧ c ≠ 'e' ∧ c ≠ 'E'

/-- A text in which no digit comes next. -/
def NoDigit (text : List Char) : Prop := ∀ c, text.head? = some c → isDigit c = false

/-- Digits that write a whole number: one at least, and no zero in front of others. -/
structure IsWhole (digits : List Char) : Prop where
  all : ∀ c ∈ digits, isDigit c = true
  nonempty : digits ≠ []
  leading : digits.head? = some '0' → digits = ['0']

theorem Ends.noDigit {text : List Char} (ends : Ends text) : NoDigit text := fun c first => (ends c first).1

theorem noDigit_cons {c : Char} (noDigit : isDigit c = false) (text : List Char) : NoDigit (c :: text) := by
  rintro _ ⟨⟩
  exact noDigit

section Digits

variable {digits text : List Char} (areDigits : ∀ c ∈ digits, isDigit c = true) (noDigit : NoDigit text)

include areDigits noDigit

theorem takeWhile_digits : (digits ++ text).takeWhile isDigit = digits := by
  rw [List.takeWhile_append_of_pos areDigits]
  cases text with
  | nil => rw [List.takeWhile_nil, List.append_nil]
  | cons c rest => rw [List.takeWhile_cons_of_neg (by simp [noDigit c rfl]), List.append_nil]

theorem dropWhile_digits : (digits ++ text).dropWhile isDigit = text := by
  rw [List.dropWhile_append_of_pos areDigits]
  cases text with
  | nil => rfl
  | cons c rest => rw [List.dropWhile_cons_of_neg (by simp [noDigit c rfl])]

/-- Digits behind a point are taken. -/
theorem takeFraction_point (nonempty : digits ≠ []) : takeFraction ('.' :: (digits ++ text)) = (digits, text) := by
  obtain ⟨first, others, rfl⟩ := List.exists_cons_of_ne_nil nonempty
  rw [takeFraction, takeWhile_digits areDigits noDigit, dropWhile_digits areDigits noDigit]

/-- The exponent is taken with its sign. -/
theorem takeExponent_signed (nonempty : digits ≠ []) (negative : Bool) :
    takeExponent ('e' :: (if negative then '-' else '+') :: (digits ++ text)) =
      (some (if negative then -(ofDigits digits : Int) else ofDigits digits), text) := by
  obtain ⟨first, others, rfl⟩ := List.exists_cons_of_ne_nil nonempty
  cases negative <;>
    simp only [takeExponent, if_true, Bool.false_eq_true, if_false, beq_self_eq_true, Bool.true_or,
      takeWhile_digits areDigits noDigit, dropWhile_digits areDigits noDigit]

end Digits

theorem takeFraction_of_ends {text : List Char} (noPoint : text.head? ≠ some '.') :
    takeFraction text = ([], text) := by
  cases text with
  | nil => rfl
  | cons c rest =>
    have other : c ≠ '.' := fun same => noPoint (congrArg some same)
    unfold takeFraction
    split
    · next same => exact absurd (List.cons.inj same).1 other
    · rfl

theorem takeExponent_of_ends {text : List Char} (ends : Ends text) : takeExponent text = (none, text) := by
  cases text with
  | nil => rfl
  | cons c rest =>
    obtain ⟨_, _, noMark, noOtherMark⟩ := ends c rfl
    simp only [takeExponent, beq_eq_false_iff_ne.mpr noMark, beq_eq_false_iff_ne.mpr noOtherMark, Bool.or_self,
      Bool.false_eq_true, if_false]

section Unsigned

variable {whole : List Char} (isWhole : IsWhole whole) (negative : Bool)

include isWhole

/-- What is read of a number, told by what is taken behind its whole part. -/
theorem readUnsigned_append {text fraction behind rest : List Char} {power : Option Int} (noDigit : NoDigit text)
    (isFraction : takeFraction text = (fraction, behind)) (isPower : takeExponent behind = (power, rest)) :
    readUnsigned negative (whole ++ text) =
      if fraction.isEmpty && power.isNone then
        if digitLimit < whole.length then .error .tooManyDigits
        else .ok (.int (if negative then -(ofDigits whole : Int) else ofDigits whole), rest)
      else .ok (.real (.ofDecimal negative (ofDigits (whole ++ fraction)) (power.getD 0 - fraction.length)),
        rest) := by
  have notEmpty : whole.isEmpty = false := by simpa using isWhole.nonempty
  unfold readUnsigned
  split
  · next zeros same =>
    -- A leading zero is the whole part.
    obtain ⟨first, others, rfl⟩ := List.exists_cons_of_ne_nil isWhole.nonempty
    obtain ⟨rfl, _⟩ := List.cons.inj same
    obtain ⟨_, rfl⟩ := List.cons.inj (isWhole.leading rfl)
    simp only [List.isEmpty_cons, List.length_singleton, List.cons_append, List.nil_append, List.drop_succ_cons,
      List.drop_zero, isFraction, isPower, Bool.false_eq_true, if_false]
  · simp only [takeWhile_digits isWhole.all noDigit, notEmpty, List.drop_left, isFraction, isPower,
      Bool.false_eq_true, if_false]

/-- A whole number is read, if it has few enough digits. -/
theorem readUnsigned_int {rest : List Char} (ends : Ends rest) (few : whole.length ≤ digitLimit) :
    readUnsigned negative (whole ++ rest) =
      .ok (.int (if negative then -(ofDigits whole : Int) else ofDigits whole), rest) := by
  have noPoint : rest.head? ≠ some '.' := fun first => (ends '.' first).2.1 rfl
  rw [readUnsigned_append isWhole negative ends.noDigit (takeFraction_of_ends noPoint) (takeExponent_of_ends ends)]
  exact if_neg (not_lt.mpr few)

/-- Digits around a point are read as a decimal. -/
theorem readUnsigned_point {fraction rest : List Char} (areDigits : ∀ c ∈ fraction, isDigit c = true)
    (nonempty : fraction ≠ []) (ends : Ends rest) :
    readUnsigned negative (whole ++ '.' :: (fraction ++ rest)) =
      .ok (.real (.ofDecimal negative (ofDigits (whole ++ fraction)) (-fraction.length)), rest) := by
  have noDigit : NoDigit ('.' :: (fraction ++ rest)) := noDigit_cons (by decide) _
  have notEmpty : fraction.isEmpty = false := by simpa using nonempty
  rw [readUnsigned_append isWhole negative noDigit (takeFraction_point areDigits ends.noDigit nonempty)
    (takeExponent_of_ends ends), notEmpty]
  simp

end Unsigned

section Values

theorem ofDigits_append (digits others : List Char) :
    ofDigits (digits ++ others) = ofDigits digits * 10 ^ others.length + ofDigits others := by
  have joined : ofDigits (digits ++ others) = Nat.ofDigitChars 10 others (ofDigits digits) :=
    Nat.ofDigitChars_append 0
  rw [joined, Nat.ofDigitChars_eq_ofDigitChars_zero, Nat.mul_comm]
  rfl

theorem ofDigits_zeros (zeros : Nat) : ofDigits (List.replicate zeros '0') = 0 :=
  Nat.ofDigitChars_replicate_zero.trans (Nat.mul_zero _)

theorem ofDigits_zeros_append (zeros : Nat) (digits : List Char) :
    ofDigits (List.replicate zeros '0' ++ digits) = ofDigits digits := by
  rw [ofDigits_append, ofDigits_zeros, Nat.zero_mul, Nat.zero_add]

theorem ofDigits_append_zeros (digits : List Char) (zeros : Nat) :
    ofDigits (digits ++ List.replicate zeros '0') = ofDigits digits * 10 ^ zeros := by
  rw [ofDigits_append, ofDigits_zeros, List.length_replicate, Nat.add_zero]

theorem ofDigits_natChars (number : Nat) : ofDigits (natChars number) = number := Nat.ofDigitChars_ten_toDigits

theorem isDigit_of_mem_natChars {number : Nat} {c : Char} (member : c ∈ natChars number) : isDigit c = true := by
  have digit := Nat.isDigit_of_mem_toDigits (by decide) (by decide) member
  simpa [Char.isDigit, isDigit, Char.le_def] using digit

theorem areDigits_zero : ∀ c ∈ ['0'], isDigit c = true := List.forall_mem_singleton.mpr rfl

theorem isDigit_of_mem_zeros {zeros : Nat} {c : Char} (member : c ∈ List.replicate zeros '0') :
    isDigit c = true := by
  rw [List.eq_of_mem_replicate member]
  decide

theorem isWhole_natChars (number : Nat) : IsWhole (natChars number) := by
  refine ⟨fun c => isDigit_of_mem_natChars, Nat.toDigits_ne_nil, ?_⟩
  induction number using Nat.strongRecOn with
  | ind number ih =>
    intro leading
    have written : natChars number =
        if number < 10 then [number.digitChar] else natChars (number / 10) ++ [(number % 10).digitChar] :=
      Nat.toDigits_eq_if (by decide)
    rw [written] at leading ⊢
    split at leading
    · next small =>
      rw [if_pos small, Option.some.inj leading]
    · next large =>
      have some : natChars (number / 10) ≠ [] := Nat.toDigits_ne_nil
      rw [List.head?_append_of_ne_nil _ some] at leading
      have zero := congrArg ofDigits (ih (number / 10) (by omega) leading)
      rw [ofDigits_natChars] at zero
      have isZero : number / 10 = 0 := zero
      omega

/-- Trimming takes zeros off the end. -/
theorem exists_trimmed (digits : List Char) : ∃ zeros, digits = trimZeros digits ++ List.replicate zeros '0' := by
  refine ⟨(digits.reverse.takeWhile (· == '0')).length, ?_⟩
  have areZeros : digits.reverse.takeWhile (· == '0') =
      List.replicate (digits.reverse.takeWhile (· == '0')).length '0' := by
    refine List.eq_replicate_of_mem fun c member => ?_
    exact beq_iff_eq.mp (List.all_eq_true.mp List.all_takeWhile c member)
  have parts := congrArg List.reverse (@List.takeWhile_append_dropWhile _ (· == '0') digits.reverse)
  rw [List.reverse_append, List.reverse_reverse, areZeros, List.reverse_replicate] at parts
  exact parts.symm

end Values

/-- The first of digits that start with no zero. -/
theorem isWhole_take {digits : List Char} (areDigits : ∀ c ∈ digits, isDigit c = true)
    (leading : digits.head? ≠ some '0') (nonempty : digits ≠ []) (count : Nat) :
    IsWhole (digits.take (count + 1)) := by
  refine ⟨fun c member => areDigits c (List.mem_of_mem_take member), ?_, fun isZero => ?_⟩
  · rw [Ne, List.take_eq_nil_iff]
    exact fun none => none.elim (Nat.succ_ne_zero _) nonempty
  · rw [List.head?_take, if_neg (Nat.succ_ne_zero _)] at isZero
    exact absurd isZero leading

/-- A written exponent is taken, with its zeros. -/
theorem takeExponent_written (width : Nat) (power : Int) {rest : List Char} (ends : Ends rest) :
    takeExponent ('e' :: (if power < 0 then '-' else '+') ::
        (List.replicate (width - (natChars power.natAbs).length) '0' ++ natChars power.natAbs ++ rest)) =
      (some power, rest) := by
  let digits := List.replicate (width - (natChars power.natAbs).length) '0' ++ natChars power.natAbs
  have areDigits : ∀ c ∈ digits, isDigit c = true := by
    intro c member
    exact (List.mem_append.mp member).elim isDigit_of_mem_zeros isDigit_of_mem_natChars
  have nonempty : digits ≠ [] := List.append_ne_nil_of_right_ne_nil _ Nat.toDigits_ne_nil
  have taken := takeExponent_signed areDigits ends.noDigit nonempty (decide (power < 0))
  have value : ofDigits digits = power.natAbs := (ofDigits_zeros_append _ _).trans (ofDigits_natChars _)
  rw [value] at taken
  simp only [decide_eq_true_eq] at taken
  rw [taken]
  congr 2
  split <;> omega

section Layouts

variable {digits : List Char} (areDigits : ∀ c ∈ digits, isDigit c = true) (leading : digits.head? ≠ some '0')
  (pos : 0 < ofDigits digits) (negative : Bool) {rest : List Char} (ends : Ends rest)

include areDigits leading pos ends

/-- Digits around a point are read as the decimal that they write. -/
theorem readUnsigned_positional (first : Int) :
    readUnsigned negative (positional digits first ++ rest) =
      .ok (.real (.ofDecimal negative (ofDigits digits) (first + 1 - digits.length)), rest) := by
  have nonempty : digits ≠ [] := by
    rintro rfl
    exact absurd pos (by decide)
  unfold positional
  split
  · next small =>
    let zeros := (-first - 1).toNat
    have isWhole : IsWhole ['0'] := isWhole_natChars 0
    have areDigits : ∀ c ∈ List.replicate zeros '0' ++ digits, isDigit c = true := by
      intro c member
      exact (List.mem_append.mp member).elim isDigit_of_mem_zeros (areDigits c)
    have read := readUnsigned_point isWhole negative areDigits (List.append_ne_nil_of_right_ne_nil _ nonempty) ends
    refine read.trans ?_
    have value : ofDigits (['0'] ++ (List.replicate zeros '0' ++ digits)) = ofDigits digits := by
      rw [← List.append_assoc]
      exact ofDigits_zeros_append (zeros + 1) digits
    have power : -((List.replicate zeros '0' ++ digits).length : Int) = first + 1 - digits.length := by
      rw [List.length_append, List.length_replicate]
      omega
    rw [value, power]
  · next large =>
    dsimp only
    split
    · next short =>
      let zeros := first.toNat + 1 - digits.length
      have isWhole : IsWhole (digits ++ List.replicate zeros '0') := by
        refine ⟨fun c member => ?_, List.append_ne_nil_of_left_ne_nil nonempty _, fun isZero => ?_⟩
        · exact (List.mem_append.mp member).elim (areDigits c) isDigit_of_mem_zeros
        · rw [List.head?_append_of_ne_nil _ nonempty] at isZero
          exact absurd isZero leading
      have areZeros : ∀ c ∈ ['0'], isDigit c = true := areDigits_zero
      have read := readUnsigned_point isWhole negative areZeros (List.cons_ne_nil _ _) ends
      rw [List.append_assoc]
      refine read.trans ?_
      have value : ofDigits (digits ++ List.replicate zeros '0' ++ ['0']) = ofDigits digits * 10 ^ (zeros + 1) := by
        rw [List.append_assoc, ← List.replicate_succ', ofDigits_append_zeros]
      have power : -((['0'] : List Char).length : Int) = first + 1 - digits.length - (zeros + 1 : Nat) := by
        rw [List.length_singleton]
        omega
      rw [value, power, Binary64.ofDecimal_zeros pos]
    · next long =>
      have isWhole := isWhole_take areDigits leading nonempty first.toNat
      have areDigits : ∀ c ∈ digits.drop (first.toNat + 1), isDigit c = true :=
        fun c member => areDigits c (List.mem_of_mem_drop member)
      have someLeft : digits.drop (first.toNat + 1) ≠ [] := by
        rw [Ne, List.drop_eq_nil_iff]
        exact long
      have read := readUnsigned_point isWhole negative areDigits someLeft ends
      rw [List.append_assoc]
      refine read.trans ?_
      have power : -((digits.drop (first.toNat + 1)).length : Int) = first + 1 - digits.length := by
        rw [List.length_drop]
        omega
      rw [List.take_append_drop, power]

/-- Digits with an exponent are read as the decimal that they write. -/
theorem readUnsigned_scientific (width : Nat) (first : Int) :
    readUnsigned negative (scientific width digits first ++ rest) =
      .ok (.real (.ofDecimal negative (ofDigits digits) (first + 1 - digits.length)), rest) := by
  have nonempty : digits ≠ [] := by
    rintro rfl
    exact absurd pos (by decide)
  have isWhole := isWhole_take areDigits leading nonempty 0
  have isPower := takeExponent_written width first ends
  have written : scientific width digits first ++ rest =
      digits.take 1 ++ ((if digits.length ≤ 1 then [] else '.' :: digits.drop 1) ++
        'e' :: (if first < 0 then '-' else '+') ::
          (List.replicate (width - (natChars first.natAbs).length) '0' ++ natChars first.natAbs ++ rest)) := by
    simp only [scientific, List.append_assoc, List.cons_append]
  have noDigitBehind : NoDigit ('e' :: (if first < 0 then '-' else '+') ::
      (List.replicate (width - (natChars first.natAbs).length) '0' ++ natChars first.natAbs ++ rest)) :=
    noDigit_cons (by decide) _
  have noPoint : ('e' :: (if first < 0 then '-' else '+') ::
      (List.replicate (width - (natChars first.natAbs).length) '0' ++ natChars first.natAbs ++ rest)).head? ≠ some
        '.' := by
    simp
  rw [written]
  generalize 'e' :: (if first < 0 then '-' else '+') :: _ = behind at isPower noDigitBehind noPoint ⊢
  have power : first - ((digits.drop 1).length : Int) = first + 1 - digits.length := by
    have length := List.length_pos_of_ne_nil nonempty
    rw [List.length_drop]
    omega
  by_cases single : digits.length ≤ 1
  · have none : digits.drop 1 = [] := List.drop_eq_nil_iff.mpr single
    rw [if_pos single, List.nil_append,
      readUnsigned_append isWhole negative noDigitBehind (takeFraction_of_ends noPoint)
      isPower, ← none, List.take_append_drop]
    simp only [Option.isNone_some, Bool.and_false, Bool.false_eq_true, if_false, Option.getD_some, power]
  · have areFraction : ∀ c ∈ digits.drop 1, isDigit c = true :=
      fun c member => areDigits c (List.mem_of_mem_drop member)
    have someLeft : digits.drop 1 ≠ [] := fun none => single (List.drop_eq_nil_iff.mp none)
    rw [if_neg single, List.cons_append, readUnsigned_append isWhole negative (noDigit_cons (by decide) _)
      (takeFraction_point areFraction noDigitBehind someLeft) isPower, List.take_append_drop]
    simp only [Option.isNone_some, Bool.and_false, Bool.false_eq_true, if_false, Option.getD_some, power]

end Layouts

/-- The text of a number starts with a digit behind its sign. -/
theorem read_signed (negative : Bool) {text : List Char} {c : Char} (first : text.head? = some c)
    (digit : isDigit c = true) : read (signChars negative ++ text) = readUnsigned negative text := by
  obtain ⟨_, rest, rfl⟩ : ∃ c' rest, text = c' :: rest := by
    cases text with
    | nil => cases first
    | cons c' rest => exact ⟨c', rest, rfl⟩
  cases first
  have noLetter : c ≠ 'I' ∧ c ≠ 'N' ∧ c ≠ '-' := by
    refine ⟨?_, ?_, ?_⟩ <;> rintro rfl <;> cases digit
  obtain ⟨noInfinity, noNaN, noSign⟩ := noLetter
  cases negative with
  | true =>
    rw [signChars, if_pos rfl, List.singleton_append]
    unfold read
    split
    · next same => exact absurd (List.cons.inj (List.cons.inj same).2).1 noInfinity
    · next same => exact absurd (List.cons.inj same).1 (by decide)
    · next same => exact absurd (List.cons.inj same).1 (by decide)
    · next same =>
      obtain ⟨_, rfl⟩ := List.cons.inj same
      rfl
    · next other => exact absurd rfl (other _)
  | false =>
    rw [signChars, if_neg Bool.false_ne_true, List.nil_append]
    unfold read
    split
    · next same => exact absurd (List.cons.inj same).1 noSign
    · next same => exact absurd (List.cons.inj same).1 noInfinity
    · next same => exact absurd (List.cons.inj same).1 noNaN
    · next same => exact absurd (List.cons.inj same).1 noSign
    · rfl

/-- A whole number reads back, unless it has too many digits. -/
theorem read_intChars (number : Int) (few : (natChars number.natAbs).length ≤ digitLimit) {rest : List Char}
    (ends : Ends rest) : read (intChars number ++ rest) = .ok (.int number, rest) := by
  have isWhole := isWhole_natChars number.natAbs
  have written : intChars number = signChars (decide (number < 0)) ++ natChars number.natAbs := by
    unfold intChars signChars
    simp only [decide_eq_true_eq]
    split <;> rfl
  obtain ⟨c, others, isNumber⟩ := List.exists_cons_of_ne_nil isWhole.nonempty
  have digit : isDigit c = true := isWhole.all c (isNumber ▸ List.mem_cons_self)
  have first : (natChars number.natAbs ++ rest).head? = some c := by rw [isNumber]; rfl
  rw [written, List.append_assoc, read_signed _ first digit, readUnsigned_int isWhole _ ends few, ofDigits_natChars]
  simp only [decide_eq_true_eq]
  congr 3
  split <;> omega

/-- What is written without a sign starts with a digit. -/
theorem exists_first_digit {digits : List Char} (areDigits : ∀ c ∈ digits, isDigit c = true)
    (nonempty : digits ≠ [])
    (width : Nat) (first : Int) (rest : List Char) :
    (∃ c, (positional digits first ++ rest).head? = some c ∧ isDigit c = true) ∧
      ∃ c, (scientific width digits first ++ rest).head? = some c ∧ isDigit c = true := by
  obtain ⟨c, others, rfl⟩ := List.exists_cons_of_ne_nil nonempty
  have digit := areDigits c List.mem_cons_self
  refine ⟨?_, c, rfl, digit⟩
  unfold positional
  split
  · exact ⟨'0', rfl, by decide⟩
  · dsimp only
    split <;> exact ⟨c, rfl, digit⟩

/-- A finite number other than zero reads back. -/
theorem read_finite (negative : Bool) {significand : Nat} {exponent : Int}
    (canonical : Binary64.IsCanonical significand exponent) (pos : 0 < significand) {rest : List Char}
    (ends : Ends rest) :
    read (jsonLayout.chars (.finite negative significand exponent) ++ rest) =
      .ok (.real (.finite negative significand exponent), rest) := by
  let decimal := Binary64.shortest significand exponent
  let written := natChars decimal.digits
  let first := decimal.exponent + written.length - 1
  have readsBack :
    Binary64.ofDecimal negative decimal.digits decimal.exponent = .finite negative significand exponent := by
    rw [Binary64.ofDecimal_signed, Binary64.ofDecimal_shortest canonical pos]
    rfl
  obtain ⟨zeros, parts⟩ := exists_trimmed written
  have value : decimal.digits = ofDigits (trimZeros written) * 10 ^ zeros := by
    rw [← ofDigits_append_zeros, ← parts, ofDigits_natChars]
  have length : written.length = (trimZeros written).length + zeros := by
    have lengths := congrArg List.length parts
    rwa [List.length_append, List.length_replicate] at lengths
  have posDigits : 0 < decimal.digits := by
    refine Nat.pos_of_ne_zero fun none => pos.ne ?_
    rw [none] at readsBack
    exact (Binary64.finite.inj readsBack).2.1
  have posTrimmed : 0 < ofDigits (trimZeros written) := by
    rw [value] at posDigits
    exact Nat.pos_of_mul_pos_right posDigits
  have areDigits : ∀ c ∈ trimZeros written, isDigit c = true := by
    intro c member
    exact isDigit_of_mem_natChars (parts ▸ List.mem_append_left _ member : c ∈ written)
  have leading : (trimZeros written).head? ≠ some '0' := by
    intro isZero
    have nonempty : trimZeros written ≠ [] := fun none => by simp [none] at isZero
    have first : written.head? = some '0' := by
      rw [parts, List.head?_append_of_ne_nil _ nonempty, isZero]
    have zero := congrArg ofDigits ((isWhole_natChars decimal.digits).leading first)
    rw [ofDigits_natChars] at zero
    exact posDigits.ne zero.symm
  have isDecimal :
    Binary64.ofDecimal negative (ofDigits (trimZeros written)) (first + 1 - (trimZeros written).length) =
      .finite negative significand exponent := by
    rw [← readsBack, value,
      ← Binary64.ofDecimal_zeros posTrimmed negative zeros (first + 1 - (trimZeros written).length)]
    congr 1
    omega
  have nonempty : trimZeros written ≠ [] := by
    intro none
    rw [none] at posTrimmed
    exact absurd posTrimmed (by decide)
  obtain ⟨⟨_, positionalFirst, positionalDigit⟩, _, scientificFirst, scientificDigit⟩ :=
    exists_first_digit areDigits nonempty jsonLayout.exponentWidth first rest
  have layout : jsonLayout.chars (.finite negative significand exponent) =
      signChars negative ++ if jsonLayout.positionalFrom ≤ first ∧ first < jsonLayout.positionalBelow
        then positional (trimZeros written) first
        else scientific jsonLayout.exponentWidth (trimZeros written) first := by
    rw [RealLayout.chars, if_neg pos.ne']
  rw [layout, List.append_assoc]
  split
  · rw [read_signed negative positionalFirst positionalDigit,
      readUnsigned_positional areDigits leading posTrimmed negative ends, isDecimal]
  · rw [read_signed negative scientificFirst scientificDigit,
      readUnsigned_scientific areDigits leading posTrimmed negative ends, isDecimal]

/-- A binary64 number reads back. -/
theorem read_chars {number : Binary64} (proper : number.IsProper) {rest : List Char} (ends : Ends rest) :
    read (jsonLayout.chars number ++ rest) = .ok (.real number, rest) := by
  cases number with
  | nan => rfl
  | infinite negative => cases negative <;> rfl
  | finite negative significand exponent =>
    have canonical : Binary64.IsCanonical significand exponent := proper
    obtain rfl | pos := Nat.eq_zero_or_pos significand
    · have least : exponent = Binary64.leastExponent := canonical.normal.resolve_left (by decide)
      have areZeros : ∀ c ∈ ['0'], isDigit c = true := areDigits_zero
      have first : (['0'] ++ '.' :: (['0'] ++ rest)).head? = some '0' := rfl
      have written : jsonLayout.chars (.finite negative 0 exponent) ++ rest =
          signChars negative ++ (['0'] ++ '.' :: (['0'] ++ rest)) := List.append_assoc _ _ _
      have isWhole : IsWhole ['0'] := isWhole_natChars 0
      rw [written, read_signed negative first (by decide),
        readUnsigned_point isWhole negative areZeros (List.cons_ne_nil _ _) ends, least]
      rfl
    · exact read_finite negative canonical pos ends

/-- Digits write a number below the power of ten of as many zeros. -/
theorem ofDigits_lt {digits : List Char} (areDigits : ∀ c ∈ digits, isDigit c = true) :
    ofDigits digits < 10 ^ digits.length := by
  induction digits with
  | nil => decide
  | cons c rest ih =>
    obtain ⟨digit, others⟩ := List.forall_mem_cons.mp areDigits
    have below := ih others
    have value : ofDigits (c :: rest) = ofDigits [c] * 10 ^ rest.length + ofDigits rest := ofDigits_append [c] rest
    have small : ofDigits [c] ≤ 9 := by
      have atMost : c ≤ '9' := of_decide_eq_true (Bool.and_eq_true_iff.mp digit).2
      have atMost : c.toNat ≤ 57 := atMost
      have single : ofDigits [c] = c.toNat - 48 := by simp [ofDigits]
      omega
    calc ofDigits (c :: rest) = ofDigits [c] * 10 ^ rest.length + ofDigits rest := value
      _ < ofDigits [c] * 10 ^ rest.length + 10 ^ rest.length := by omega
      _ = (ofDigits [c] + 1) * 10 ^ rest.length := by ring
      _ ≤ 10 * 10 ^ rest.length := Nat.mul_le_mul_right _ (by omega)
      _ = 10 ^ (c :: rest).length := by rw [List.length_cons, Nat.pow_succ, Nat.mul_comm]

end Number

/-- A scalar as texts give it: a whole number has no more digits than are read, and a binary64 number is as such
numbers are. -/
def Scalar.IsReadable : Scalar → Prop
  | .int value => (Number.natChars value.natAbs).length ≤ Number.digitLimit
  | .real value => value.IsProper
  | _ => True

namespace Number

theorem length_natChars_ofDigits {digits : List Char} (areDigits : ∀ c ∈ digits, isDigit c = true)
    (few : digits.length ≤ digitLimit) (negative : Bool) :
    (natChars (if negative then -(ofDigits digits : Int) else ofDigits digits).natAbs).length ≤ digitLimit := by
  have magnitude : (if negative then -(ofDigits digits : Int) else ofDigits digits).natAbs = ofDigits digits := by
    split <;> omega
  rw [magnitude]
  refine (Nat.length_toDigits_le_iff (by decide) (by decide)).mpr ?_
  exact (ofDigits_lt areDigits).trans_le (Nat.pow_le_pow_right (by decide) few)

theorem readUnsigned_readable {negative : Bool} {text rest : List Char} {value : Scalar}
    (isRead : readUnsigned negative text = .ok (value, rest)) : value.IsReadable := by
  have areTaken : ∀ c ∈ text.takeWhile isDigit, isDigit c = true :=
    fun c member => List.all_eq_true.mp List.all_takeWhile c member
  have isZero : ∀ c ∈ ['0'], isDigit c = true := areDigits_zero
  unfold readUnsigned at isRead
  split at isRead
  -- The whole part is a zero, or all digits that come next.
  all_goals
    dsimp only at isRead
    split at isRead
    · cases isRead
    · split at isRead
      · split at isRead
        · cases isRead
        · next few =>
          cases isRead
          exact length_natChars_ofDigits (by assumption) (not_lt.mp few) negative
      · cases isRead
        exact Binary64.isProper_ofDecimal _ _ _

/-- Whether numbers start with this character. -/
def starts (c : Char) : Bool := isDigit c || c == '-' || c == 'I' || c == 'N'

theorem exists_start {text rest : List Char} {value : Scalar} (isRead : read text = .ok (value, rest)) :
    ∃ c others, text = c :: others ∧ starts c = true := by
  unfold read at isRead
  split at isRead
  · exact ⟨_, _, rfl, rfl⟩
  · exact ⟨_, _, rfl, rfl⟩
  · exact ⟨_, _, rfl, rfl⟩
  · exact ⟨_, _, rfl, rfl⟩
  · cases text with
    | nil => cases isRead
    | cons c others =>
      refine ⟨c, others, rfl, ?_⟩
      suffices digit : isDigit c = true by
        rw [starts, digit]
        rfl
      by_contra noDigit
      have none : (c :: others).takeWhile isDigit = [] := List.takeWhile_cons_of_neg noDigit
      unfold readUnsigned at isRead
      split at isRead
      · next same =>
        obtain ⟨rfl, _⟩ := List.cons.inj same
        exact noDigit (by decide)
      · rw [none] at isRead
        cases isRead

/-- Every number that is read is one that is read again. -/
theorem read_readable {text rest : List Char} {value : Scalar} (isRead : read text = .ok (value, rest)) :
    value.IsReadable := by
  unfold read at isRead
  split at isRead
  · cases isRead
    trivial
  · cases isRead
    trivial
  · cases isRead
    trivial
  · exact readUnsigned_readable isRead
  · exact readUnsigned_readable isRead

end Number

end JsxRouting
