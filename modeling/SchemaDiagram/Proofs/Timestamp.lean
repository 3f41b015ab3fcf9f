import Mathlib.Data.List.TakeWhile
import SchemaDiagram.Proofs.Calendar
import SchemaDiagram.Proofs.Text.Digits
import SchemaDiagram.Proofs.Text.Words

/-!
# Written points in time

A point in time is read as it was written if its year is a supported one and its nanoseconds stay
within a second, or within the leap second at the end of a minute.  Every part of the written form
ends where the next one begins, so the reader takes the parts one after the other.
-/

namespace SchemaDiagram.Timestamp

open SchemaDiagram.Text

/-! ## Parts -/

theorem exists_head?_fixedDigits {width : Nat} (hwidth : 0 < width) (value : Nat)
    (rest : List Char) :
    ∃ c ∈ fixedDigits 10 width value, (fixedDigits 10 width value ++ rest).head? = some c := by
  cases hdigits : fixedDigits 10 width value with
  | nil => exact absurd hdigits (List.isEmpty_eq_false_iff.mp (isEmpty_fixedDigits 10 hwidth value))
  | cons c digits => exact ⟨c, List.mem_cons_self, rfl⟩

theorem head?_fixedDigits_isBlank {width : Nat} (hwidth : 0 < width) (value : Nat)
    (rest : List Char) :
    (fixedDigits 10 width value ++ rest).head?.any isBlank = false := by
  obtain ⟨c, hc, hhead⟩ := exists_head?_fixedDigits hwidth value rest
  rw [hhead]
  exact isBlank_of_isWordChar (isWordChar_of_mem_fixedDigits hc)

theorem head?_fixedDigits_ne {width : Nat} (hwidth : 0 < width) (value : Nat) (rest : List Char)
    {mark : Char} (hmark : isDecimal mark = false) :
    (fixedDigits 10 width value ++ rest).head? ≠ some mark := by
  obtain ⟨c, hc, hhead⟩ := exists_head?_fixedDigits hwidth value rest
  rw [hhead]
  rintro ⟨rfl⟩
  rw [isDecimal_of_mem_fixedDigits hc] at hmark
  cases hmark

theorem takeWhile_fixedDigits (width value : Nat) :
    (fixedDigits 10 width value).takeWhile isDecimal = fixedDigits 10 width value :=
  List.takeWhile_eq_self_iff.mpr fun _ hc => isDecimal_of_mem_fixedDigits hc

/-- A number in front of a text is taken in the width that it was written in. -/
theorem takeNumber?_fixedDigits {width value : Nat} (hwidth : 0 < width)
    (hvalue : value < 10 ^ width) (rest : List Char) :
    takeNumber? (some width) (fixedDigits 10 width value ++ rest) = some (value, rest) := by
  have htake : (fixedDigits 10 width value ++ rest).take width = fixedDigits 10 width value :=
    List.take_left' (length_fixedDigits 10 width value)
  have hdrop : (fixedDigits 10 width value ++ rest).drop width = rest :=
    List.drop_left' (length_fixedDigits 10 width value)
  simp only [takeNumber?, Option.map_some, Option.getD_some, htake, takeWhile_fixedDigits,
    decimalNumber?_fixedDigits hwidth hvalue, length_fixedDigits, hdrop]

/-- A number in front of something that is no digit is taken in any width. -/
theorem takeNumber?_fixedDigits_all {width value : Nat} (hwidth : 0 < width)
    (hvalue : value < 10 ^ width) {c : Char} (hc : isDecimal c = false) (rest : List Char) :
    takeNumber? none (fixedDigits 10 width value ++ c :: rest) = some (value, c :: rest) := by
  have hdigits : (fixedDigits 10 width value ++ c :: rest).takeWhile isDecimal =
      fixedDigits 10 width value :=
    takeWhile_append_stop (fun _ => isDecimal_of_mem_fixedDigits) hc
  have hdrop : (fixedDigits 10 width value ++ c :: rest).drop width = c :: rest :=
    List.drop_left' (length_fixedDigits 10 width value)
  simp only [takeNumber?, Option.map_none, Option.getD_none, hdigits,
    decimalNumber?_fixedDigits hwidth hvalue, Option.map_some, length_fixedDigits, hdrop]

theorem takeTwo?_fixedDigits {low high value : Nat} (hlow : low ≤ value) (hhigh : value ≤ high)
    (htwo : value < 100) (rest : List Char) :
    takeTwo? low high (fixedDigits 10 2 value ++ rest) = some (value, rest) := by
  rw [takeTwo?, trimStart_of_head (head?_fixedDigits_isBlank (by decide) value rest),
    takeNumber?_fixedDigits (by decide) htwo, Option.bind_eq_bind, Option.bind_some]
  simp [hlow, hhigh]

theorem takeMark?_cons {mark : Char} (hmark : isBlank mark = false) (rest : List Char) :
    takeMark? mark (mark :: rest) = some rest := by
  have htrim : trimStart (mark :: rest) = mark :: rest := trimStart_of_head hmark
  rw [takeMark?, htrim]
  exact if_pos rfl

theorem takeYear?_unsigned {text : List Char} (hblank : text.head?.any isBlank = false)
    (hminus : text.head? ≠ some '-') (hplus : text.head? ≠ some '+') :
    takeYear? text =
      (takeNumber? (some 4) text).map fun (value, rest) => ((value : Int), rest) := by
  rw [takeYear?, trimStart_of_head hblank]
  split
  · exact absurd rfl hminus
  · exact absurd rfl hplus
  · rfl

theorem takeYear?_writeYear (year : Int) (rest : List Char) :
    takeYear? (writeYear year ++ '-' :: rest) = some (year, '-' :: rest) := by
  by_cases hplain : 0 ≤ year ∧ year ≤ 9999
  · have hvalue : year.toNat < 10 ^ 4 := by omega
    have hyear : (year.toNat : Int) = year := Int.toNat_of_nonneg hplain.1
    rw [writeYear, if_pos hplain,
      takeYear?_unsigned (head?_fixedDigits_isBlank (by decide) _ _)
        (head?_fixedDigits_ne (by decide) _ _ (by decide))
        (head?_fixedDigits_ne (by decide) _ _ (by decide)),
      takeNumber?_fixedDigits (by decide) hvalue]
    simp only [Option.map_some, hyear]
  · have hvalue : year.natAbs < 10 ^ max 4 (decimalLength year.natAbs) :=
      Nat.lt_of_lt_of_le (lt_pow_decimalLength _) (Nat.pow_le_pow_right (by decide) (by omega))
    have htake := takeNumber?_fixedDigits_all (by omega) hvalue (by decide : isDecimal '-' = false)
      rest
    rw [writeYear, if_neg hplain, List.cons_append]
    by_cases hnegative : year < 0
    · have hyear : -(year.natAbs : Int) = year := by omega
      rw [if_pos hnegative, takeYear?, trimStart_of_head (by rfl)]
      simp only [htake, Option.map_some, hyear]
    · have hyear : (year.natAbs : Int) = year := by omega
      rw [if_neg hnegative, takeYear?, trimStart_of_head (by rfl)]
      simp only [htake, Option.map_some, hyear]

/-- A fraction is read from as many digits as it was written with. -/
theorem takeFraction?_fixedDigits {width value : Nat} (hwidth : 0 < width ∧ width ≤ 9)
    (hvalue : value < 10 ^ width) {c : Char} (hc : isDecimal c = false) (rest : List Char) :
    takeFraction? ('.' :: (fixedDigits 10 width value ++ c :: rest)) =
      some (value * 10 ^ (9 - width), c :: rest) := by
  have hlength := length_fixedDigits 10 width value
  have hall : ∀ c ∈ fixedDigits 10 width value, isDecimal c = true :=
    fun _ => isDecimal_of_mem_fixedDigits
  have hstop : ∀ count, ((c :: rest).take count).head?.any isDecimal = false
    | 0 => rfl
    | _ + 1 => hc
  have htaken : ((fixedDigits 10 width value ++ c :: rest).take 9).takeWhile isDecimal =
      fixedDigits 10 width value := by
    rw [List.take_append, List.take_of_length_le (by omega)]
    exact takeWhile_append_stop hall (hstop _)
  have hdropped : (fixedDigits 10 width value ++ c :: rest).dropWhile isDecimal = c :: rest :=
    dropWhile_append_stop hall hc
  simp only [takeFraction?, htaken, hdropped, decimalNumber?_fixedDigits hwidth.1 hvalue, hlength,
    Option.bind_eq_bind, Option.bind_some]
  rfl

theorem takeFraction?_writeFraction {nanos : Nat} (hnanos : nanos < 1000000000) (rest : List Char) :
    takeFraction? (writeFraction nanos ++ 'Z' :: rest) = some (nanos, 'Z' :: rest) := by
  have hmark : isDecimal 'Z' = false := by decide
  by_cases hzero : nanos = 0
  · subst hzero
    rfl
  rw [writeFraction, if_neg hzero]
  by_cases hmillis : nanos % 1000000 = 0
  · have hvalue : nanos / 1000000 * 10 ^ (9 - 3) = nanos :=
      Nat.div_mul_cancel (Nat.dvd_of_mod_eq_zero hmillis)
    rw [if_pos hmillis, List.cons_append, takeFraction?_fixedDigits (by decide) (by omega) hmark,
      hvalue]
  rw [if_neg hmillis]
  by_cases hmicros : nanos % 1000 = 0
  · have hvalue : nanos / 1000 * 10 ^ (9 - 6) = nanos :=
      Nat.div_mul_cancel (Nat.dvd_of_mod_eq_zero hmicros)
    rw [if_pos hmicros, List.cons_append, takeFraction?_fixedDigits (by decide) (by omega) hmark,
      hvalue]
  · rw [if_neg hmicros, List.cons_append, takeFraction?_fixedDigits (by decide) hnanos hmark,
      Nat.sub_self, Nat.pow_zero, Nat.mul_one]

/-! ## The whole form -/

/-- Whether a year is one of those that a point in time may have. -/
def IsSupportedYear (year : Int) : Prop :=
  yearBounds.1 < year ∧ year < yearBounds.2

structure Parts where
  date : Date
  hour : Nat
  minute : Nat
  second : Nat
  nanos : Nat

namespace Parts

def ofTime (time : Timestamp) : Parts :=
  let days := Int.fdiv time.seconds 86400
  let secondOfDay := (time.seconds - days * 86400).toNat
  let leap := time.nanos / 1000000000
  ⟨Date.ofDays days, secondOfDay / 3600, secondOfDay / 60 % 60, secondOfDay % 60 + leap,
    time.nanos - leap * 1000000000⟩

/-- The seconds that parts stand for; a leap second counts as the second before it. -/
def seconds (parts : Parts) : Int :=
  parts.date.toDays * 86400 + parts.hour * 3600 + parts.minute * 60 +
    (parts.second - parts.second / 60)

/-- Parts that a point in time can have. -/
structure IsValid (parts : Parts) : Prop where
  date : parts.date.IsValid
  hour : parts.hour ≤ 23
  minute : parts.minute ≤ 59
  second : parts.second ≤ 60
  nanos : parts.nanos < 1000000000

def write (parts : Parts) : List Char :=
  writeYear parts.date.year ++ '-' :: (fixedDigits 10 2 parts.date.month ++ '-' ::
    (fixedDigits 10 2 parts.date.day ++ 'T' :: (fixedDigits 10 2 parts.hour ++ ':' ::
      (fixedDigits 10 2 parts.minute ++ ':' :: (fixedDigits 10 2 parts.second ++
        (writeFraction parts.nanos ++ ['Z']))))))

end Parts

theorem daysInMonth_le (year : Int) (month : Nat) : daysInMonth year month ≤ 31 := by
  unfold daysInMonth
  split_ifs <;> decide

theorem write_eq (time : Timestamp) : time.write = (Parts.ofTime time).write := by
  simp only [write, Parts.write, Parts.ofTime, List.append_assoc, List.cons_append]

theorem Parts.IsValid.read?_write {parts : Parts} (h : parts.IsValid)
    (hyear : IsSupportedYear parts.date.year)
    (hutc : IsSupportedYear (Date.ofDays (Int.fdiv parts.seconds 86400)).year) :
    read? parts.write =
      some ⟨parts.seconds, parts.nanos + parts.second / 60 * 1000000000⟩ := by
  obtain ⟨hmonth, hday⟩ := h.date
  have hlength := daysInMonth_le parts.date.year parts.date.month
  have hhour := h.hour
  have hminute := h.minute
  have hsecond := h.second
  have hoffset : takeOffset? (trimStart ['Z']) = some (0, []) := rfl
  refine Option.bind_eq_some_iff.mpr ⟨_, takeYear?_writeYear _ _, ?_⟩
  refine Option.bind_eq_some_iff.mpr ⟨_, takeMark?_cons (by decide) _, ?_⟩
  refine Option.bind_eq_some_iff.mpr ⟨_, takeTwo?_fixedDigits hmonth.1 hmonth.2 (by omega) _, ?_⟩
  refine Option.bind_eq_some_iff.mpr ⟨_, takeMark?_cons (by decide) _, ?_⟩
  refine Option.bind_eq_some_iff.mpr
    ⟨_, takeTwo?_fixedDigits hday.1 (Nat.le_trans hday.2 hlength) (by omega) _, ?_⟩
  refine Option.bind_eq_some_iff.mpr
    ⟨_, takeTwo?_fixedDigits (Nat.zero_le _) h.hour (by omega) _, ?_⟩
  refine Option.bind_eq_some_iff.mpr ⟨_, takeMark?_cons (by decide) _, ?_⟩
  refine Option.bind_eq_some_iff.mpr
    ⟨_, takeTwo?_fixedDigits (Nat.zero_le _) h.minute (by omega) _, ?_⟩
  refine Option.bind_eq_some_iff.mpr ⟨_, takeMark?_cons (by decide) _, ?_⟩
  refine Option.bind_eq_some_iff.mpr
    ⟨_, takeTwo?_fixedDigits (Nat.zero_le _) h.second (by omega) _, ?_⟩
  refine Option.bind_eq_some_iff.mpr ⟨_, takeFraction?_writeFraction h.nanos _, ?_⟩
  refine Option.bind_eq_some_iff.mpr ⟨_, hoffset, ?_⟩
  refine Option.bind_eq_some_iff.mpr ⟨(), if_pos rfl, ?_⟩
  refine Option.bind_eq_some_iff.mpr ⟨(), if_pos (by decide), ?_⟩
  refine Option.bind_eq_some_iff.mpr ⟨(), if_pos hday.2, ?_⟩
  refine Option.bind_eq_some_iff.mpr ⟨(), if_pos hyear, ?_⟩
  -- The offset is zero, so the seconds are those of the parts.
  have hseconds : parts.date.toDays * 86400 + parts.hour * 3600 + parts.minute * 60 +
      (parts.second - (parts.second / 60 : Nat)) - 0 = parts.seconds :=
    Int.sub_zero _
  refine Option.bind_eq_some_iff.mpr ⟨(), if_pos ?_, ?_⟩
  · rw [← hseconds] at hutc
    exact hutc
  · rw [← hseconds]
    rfl

/-- A point in time of a supported year whose nanoseconds stay within its second, or within the
leap second at the end of its minute. -/
structure IsRegular (time : Timestamp) : Prop where
  year : IsSupportedYear (Date.ofDays (Int.fdiv time.seconds 86400)).year
  nanos : time.nanos < 1000000000 ∨ time.nanos < 2000000000 ∧ time.seconds % 60 = 59

instance (year : Int) : Decidable (IsSupportedYear year) :=
  inferInstanceAs (Decidable (_ ∧ _))

instance (time : Timestamp) : Decidable time.IsRegular :=
  decidable_of_iff (IsSupportedYear (Date.ofDays (Int.fdiv time.seconds 86400)).year ∧
      (time.nanos < 1000000000 ∨ time.nanos < 2000000000 ∧ time.seconds % 60 = 59))
    ⟨fun h => ⟨h.1, h.2⟩, fun h => ⟨h.year, h.nanos⟩⟩

namespace IsRegular

variable {time : Timestamp}

/-- The second of the day, between the day and its end. -/
theorem exists_secondOfDay (time : Timestamp) :
    ∃ secondOfDay : Nat, secondOfDay < 86400 ∧
      time.seconds = Int.fdiv time.seconds 86400 * 86400 + secondOfDay ∧
      (time.seconds - Int.fdiv time.seconds 86400 * 86400).toNat = secondOfDay := by
  rw [Int.fdiv_eq_ediv_of_nonneg _ (by decide)]
  exact ⟨(time.seconds - time.seconds / 86400 * 86400).toNat, by omega, by omega, rfl⟩

theorem parts_isValid (h : time.IsRegular) : (Parts.ofTime time).IsValid := by
  obtain ⟨secondOfDay, hlt, -, hsecond⟩ := exists_secondOfDay time
  have hnanos := h.nanos
  constructor
  · exact Date.isValid_ofDays _
  all_goals
    simp only [Parts.ofTime, hsecond]
    omega

theorem parts_seconds (h : time.IsRegular) : (Parts.ofTime time).seconds = time.seconds := by
  obtain ⟨secondOfDay, hlt, hseconds, hsecond⟩ := exists_secondOfDay time
  have hnanos := h.nanos
  simp only [Parts.seconds, Parts.ofTime, Date.toDays_ofDays, hsecond]
  omega

theorem parts_nanos (h : time.IsRegular) :
    (Parts.ofTime time).nanos + (Parts.ofTime time).second / 60 * 1000000000 = time.nanos := by
  obtain ⟨secondOfDay, hlt, hseconds, hsecond⟩ := exists_secondOfDay time
  have hnanos := h.nanos
  simp only [Parts.ofTime, hsecond]
  omega

theorem read?_write (h : time.IsRegular) : read? time.write = some time := by
  rw [write_eq, h.parts_isValid.read?_write h.year (by rw [h.parts_seconds]; exact h.year),
    h.parts_seconds, h.parts_nanos]

end IsRegular

/-! ## What is read -/

theorem takeTwo?_le {low high value : Nat} {text rest : List Char}
    (h : takeTwo? low high text = some (value, rest)) : value ≤ high := by
  obtain ⟨⟨number, behind⟩, -, h⟩ := Option.bind_eq_some_iff.mp h
  obtain ⟨⟨⟩, hguard, h⟩ := Option.bind_eq_some_iff.mp h
  obtain ⟨rfl, rfl⟩ := Prod.mk.inj (Option.some.inj h)
  exact ((Option.guard_eq_some' _).mp hguard).2

theorem takeFraction?_lt {nanos : Nat} {text rest : List Char}
    (h : takeFraction? text = some (nanos, rest)) : nanos < 1000000000 := by
  unfold takeFraction? at h
  split at h
  · next behind =>
      obtain ⟨value, hvalue, h⟩ := Option.bind_eq_some_iff.mp h
      obtain ⟨rfl, rfl⟩ := Prod.mk.inj (Option.some.inj h)
      have hlength : ((behind.take 9).takeWhile isDecimal).length ≤ 9 :=
        Nat.le_trans (List.takeWhile_sublist _).length_le (List.length_take_le _ _)
      calc value * 10 ^ (9 - ((behind.take 9).takeWhile isDecimal).length)
          < 10 ^ ((behind.take 9).takeWhile isDecimal).length *
              10 ^ (9 - ((behind.take 9).takeWhile isDecimal).length) :=
            Nat.mul_lt_mul_of_pos_right (decimalNumber?_lt hvalue) (Nat.pow_pos (by decide))
        _ = 10 ^ 9 := by rw [← Nat.pow_add, Nat.add_sub_cancel' hlength]
  · obtain ⟨rfl, rfl⟩ := Prod.mk.inj (Option.some.inj h)
    decide

theorem takeHoursMinutes?_minutes {offset : Nat} {text rest : List Char}
    (h : takeHoursMinutes? text = some (offset, rest)) : offset % 60 = 0 := by
  obtain ⟨-, -, h⟩ := Option.bind_eq_some_iff.mp h
  obtain ⟨hours, -, h⟩ := Option.bind_eq_some_iff.mp h
  obtain ⟨-, -, h⟩ := Option.bind_eq_some_iff.mp h
  obtain ⟨minutes, -, h⟩ := Option.bind_eq_some_iff.mp h
  obtain ⟨-, -, h⟩ := Option.bind_eq_some_iff.mp h
  obtain ⟨rfl, rfl⟩ := Prod.mk.inj (Option.some.inj h)
  omega

/-- An offset is a number of minutes. -/
theorem takeOffset?_minutes {offset : Int} {text rest : List Char}
    (h : takeOffset? text = some (offset, rest)) : offset % 60 = 0 := by
  unfold takeOffset? at h
  split at h
  · cases h
    rfl
  · split at h
    · cases h
      rfl
    · cases h
      rfl
    on_goal 4 => cases h
    -- Hours and minutes with a sign, which is written in three ways.
    all_goals
      obtain ⟨⟨value, behind⟩, hvalue, h⟩ := Option.map_eq_some_iff.mp h
      have hminutes := takeHoursMinutes?_minutes hvalue
      obtain ⟨rfl, rfl⟩ := Prod.mk.inj h
      omega

/-- A point in time that is read stands for the parts and the offset that were read. -/
theorem exists_parts_of_read? {text : List Char} {time : Timestamp} (h : read? text = some time) :
    ∃ (parts : Parts) (offset : Int), parts.second ≤ 60 ∧ parts.nanos < 1000000000 ∧
      offset % 60 = 0 ∧ IsSupportedYear (Date.ofDays (Int.fdiv time.seconds 86400)).year ∧
      time = ⟨parts.seconds - offset, parts.nanos + parts.second / 60 * 1000000000⟩ := by
  obtain ⟨⟨year, text⟩, -, h⟩ := Option.bind_eq_some_iff.mp h
  obtain ⟨text, -, h⟩ := Option.bind_eq_some_iff.mp h
  obtain ⟨⟨month, text⟩, -, h⟩ := Option.bind_eq_some_iff.mp h
  obtain ⟨text, -, h⟩ := Option.bind_eq_some_iff.mp h
  obtain ⟨⟨day, text⟩, -, h⟩ := Option.bind_eq_some_iff.mp h
  dsimp only at h
  split at h
  · split_ifs at h
    · obtain ⟨text, -, h⟩ := Option.bind_eq_some_iff.mp h
      obtain ⟨⟨hour, text⟩, -, h⟩ := Option.bind_eq_some_iff.mp h
      obtain ⟨text, -, h⟩ := Option.bind_eq_some_iff.mp h
      obtain ⟨⟨minute, text⟩, -, h⟩ := Option.bind_eq_some_iff.mp h
      obtain ⟨text, -, h⟩ := Option.bind_eq_some_iff.mp h
      obtain ⟨⟨second, text⟩, hsecond, h⟩ := Option.bind_eq_some_iff.mp h
      obtain ⟨⟨nanos, text⟩, hnanos, h⟩ := Option.bind_eq_some_iff.mp h
      obtain ⟨⟨offset, text⟩, hoffset, h⟩ := Option.bind_eq_some_iff.mp h
      obtain ⟨-, -, h⟩ := Option.bind_eq_some_iff.mp h
      obtain ⟨-, -, h⟩ := Option.bind_eq_some_iff.mp h
      obtain ⟨-, -, h⟩ := Option.bind_eq_some_iff.mp h
      obtain ⟨-, -, h⟩ := Option.bind_eq_some_iff.mp h
      obtain ⟨⟨⟩, hyear, h⟩ := Option.bind_eq_some_iff.mp h
      obtain rfl := Option.some.inj h
      have hsupported := (Option.guard_eq_some' _).mp hyear
      exact ⟨⟨⟨year, month, day⟩, hour, minute, second, nanos⟩, offset, takeTwo?_le hsecond,
        takeFraction?_lt hnanos, takeOffset?_minutes hoffset, hsupported, rfl⟩
    · cases h
  · cases h

/-- Every point in time that is read is regular. -/
theorem isRegular_of_read? {text : List Char} {time : Timestamp} (h : read? text = some time) :
    time.IsRegular := by
  obtain ⟨parts, offset, hsecond, hnanos, hoffset, hyear, rfl⟩ := exists_parts_of_read? h
  refine ⟨hyear, ?_⟩
  simp only [Parts.seconds]
  omega

/-- Exactly the regular points in time are read as they were written. -/
theorem read?_write_iff {time : Timestamp} : read? time.write = some time ↔ time.IsRegular :=
  ⟨isRegular_of_read?, IsRegular.read?_write⟩

end SchemaDiagram.Timestamp
