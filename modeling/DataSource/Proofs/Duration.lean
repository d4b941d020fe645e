import DataSource.Proofs.Binary64
import DataSource.Proofs.Duration.Grammar

/-! The written form of a duration. The components of a written duration are read back one by one,
and although they are added up in binary64, the sum comes so near to the duration that it rounds to
it. This needs the duration to be one that reading can give: not above the greatest sum, and
representable, which every number of microseconds up to 2^53 is. -/
namespace DataSource.Duration
open Binary64

/-! ## Components -/

/-- A component that can be written and read back: digits, and more digits after a point. -/
structure Component.IsWritten (component : Component) : Prop where
  nonempty : component.whole ≠ []
  whole : ∀ c ∈ component.whole, c.isDigit = true
  fraction : ∀ digits, component.fraction = some digits → ∀ c ∈ digits, c.isDigit = true

/-- The written form of a component is one of its spellings. -/
theorem isSpelledBy_render {component : Component} (written : component.IsWritten) :
    component.IsSpelledBy component.render where
  nonempty := List.append_ne_nil_of_left_ne_nil written.nonempty _
  digital := by
    intro c member
    rcases List.mem_append.mp member with whole | fraction
    · exact written.whole c whole
    · cases decimals : component.fraction with
      | none =>
        rw [decimals] at fraction
        cases fraction
      | some digits =>
        rw [decimals] at fraction
        exact written.fraction digits decimals c fraction
  written := ⟨component.unit.symbol, component.unit.symbol_mem_symbols, rfl⟩

theorem spelledBy_flatMap_render {components : List Component}
    (written : ∀ component ∈ components, component.IsWritten) :
    SpelledBy components (components.flatMap Component.render) := by
  induction components with
  | nil => exact .nil
  | cons component more ih =>
    rw [List.flatMap_cons]
    exact .cons (isSpelledBy_render (written component List.mem_cons_self))
      (ih fun other member => written other (List.mem_cons_of_mem _ member))

theorem head_flatMap_render {components : List Component}
    (written : ∀ component ∈ components, component.IsWritten) {c : Char}
    (first : (components.flatMap Component.render).head? = some c) : c.isDigit = true ∨ c = '.' :=
  head_of_spelledBy (spelledBy_flatMap_render written) first

/-- Components are read back in their order. -/
theorem components?_flatMap_render {components : List Component}
    (written : ∀ component ∈ components, component.IsWritten) :
    components? (components.flatMap Component.render) = some components :=
  components?_eq_some_iff.mpr (spelledBy_flatMap_render written)

/-! ## Spelling -/

theorem isWritten_count (n : Nat) (unit : TimeUnit) : (count n unit).IsWritten where
  nonempty := Numeral.ofNat_ne_nil n
  whole := fun _ => Numeral.isDigit_of_mem_ofNat
  fraction := fun _ none => nomatch none

/-- The decimals of a count, before the zeros at their end are dropped. -/
def decimals (micros places : Nat) : Text :=
  List.replicate (places - (Numeral.ofNat micros).length) '0' ++ Numeral.ofNat micros

theorem isDigit_of_mem_decimals {micros places : Nat} {c : Char}
    (member : c ∈ decimals micros places) : c.isDigit = true := by
  rcases List.mem_append.mp member with zero | digit
  · obtain rfl : c = '0' := List.eq_of_mem_replicate zero
    decide
  · exact Numeral.isDigit_of_mem_ofNat digit

theorem fraction_decimal (micros places : Nat) (unit : TimeUnit) :
    (decimal micros places unit).fraction.getD [] =
      Text.trimEnd (· = '0') (decimals (micros % 10 ^ places) places) := by
  show Option.getD (if _ then _ else _) _ = _
  split
  · rename_i empty
    exact empty.symm
  · rfl

theorem isWritten_decimal (micros places : Nat) (unit : TimeUnit) :
    (decimal micros places unit).IsWritten where
  nonempty := Numeral.ofNat_ne_nil _
  whole := fun _ => Numeral.isDigit_of_mem_ofNat
  fraction := by
    intro digits some c member
    have kept := fraction_decimal micros places unit
    rw [some, Option.getD_some] at kept
    obtain ⟨n, all⟩ := Text.exists_trimEnd_append '0' (decimals (micros % 10 ^ places) places)
    refine isDigit_of_mem_decimals (?_ : c ∈ decimals (micros % 10 ^ places) places)
    rw [all, ← kept]
    exact List.mem_append_left _ member

/-- The digits of a decimal number of units and the power of ten under them denote the quotient of
its microseconds by the microseconds of the unit. -/
theorem value_decimal (micros : Nat) {places : Nat} (positive : 0 < places) (unit : TimeUnit) :
    Numeral.value (decimal micros places unit).digits * 10 ^ places =
      micros * (decimal micros places unit).denominator := by
  have inside : micros % 10 ^ places < 10 ^ places := Nat.mod_lt _ (Nat.pow_pos (by decide))
  have short := Numeral.length_ofNat_le positive inside
  have length : (decimals (micros % 10 ^ places) places).length = places := by
    rw [decimals, List.length_append, List.length_replicate]
    omega
  have denoted : Numeral.value (decimals (micros % 10 ^ places) places) = micros % 10 ^ places := by
    rw [decimals, Numeral.value_zeros_append, Numeral.value_ofNat]
  obtain ⟨n, all⟩ := Text.exists_trimEnd_append '0' (decimals (micros % 10 ^ places) places)
  rw [← fraction_decimal micros places unit] at all
  have parts : places = ((decimal micros places unit).fraction.getD []).length + n := by
    have lengths := congrArg List.length all
    rwa [length, List.length_append, List.length_replicate] at lengths
  have shifted : 10 ^ n * Numeral.value (decimal micros places unit).digits = micros := by
    rw [← Numeral.value_append_zeros, Component.digits, List.append_assoc, ← all,
      Numeral.value_append, length, denoted]
    show 10 ^ places * Numeral.value (Numeral.ofNat (micros / 10 ^ places)) + _ = _
    rw [Numeral.value_ofNat, Nat.div_add_mod]
  have power : 10 ^ places =
      10 ^ n * 10 ^ ((decimal micros places unit).fraction.getD []).length := by
    rw [← Nat.pow_add, Nat.add_comm, ← parts]
  rw [power, ← Nat.mul_assoc, Nat.mul_comm _ (10 ^ n), shifted]
  rfl

/-! ## Sums -/

theorem representable_micros (component : Component) : Representable component.micros.steps :=
  representable_nearest _ _

theorem representable_total (components : List Component) :
    Representable (total components).steps := by
  have step : ∀ (sum : Binary64), Representable sum.steps →
      Representable (components.foldl (fun sum component => sum + component.micros) sum).steps := by
    induction components with
    | nil => exact fun _ exact => exact
    | cons component more ih => exact fun _ _ => ih _ (representable_nearest _ _)
  exact step 0 (representable_of_le (Nat.zero_le _))

theorem total_singleton (component : Component) : total [component] = component.micros :=
  zero_add_of_representable (representable_micros component)

theorem total_pair (first second : Component) :
    total [first, second] = first.micros + second.micros := by
  show 0 + first.micros + second.micros = first.micros + second.micros
  rw [zero_add_of_representable (representable_micros first)]

theorem total_triple (first second third : Component) :
    total [first, second, third] = first.micros + second.micros + third.micros := by
  show 0 + first.micros + second.micros + third.micros = _
  rw [zero_add_of_representable (representable_micros first)]

/-- Every unit but the least is a whole number of microseconds. -/
theorem nanos_eq_mul {unit : TimeUnit} (other : unit ≠ .nanosecond) :
    unit.nanos = unit.nanos / 1000 * 1000 ∧ 0 < unit.nanos / 1000 := by
  cases unit with
  | nanosecond => exact absurd rfl other
  | _ => decide

theorem nanos_le (unit : TimeUnit) : unit.nanos ≤ 2 ^ 53 := by
  cases unit <;> decide

/-- The microseconds of such a unit are not rounded: the quotient that they are leaves no rest. -/
theorem micros_eq_whole {unit : TimeUnit} (other : unit ≠ .nanosecond) :
    unit.micros = whole (unit.nanos / 1000) := by
  have exact : Representable (unit.nanos / 1000) :=
    representable_of_le (Nat.le_trans (Nat.div_le_self _ _) (nanos_le unit))
  have quotient := ofQuotient_mul exact (by decide : 0 < 1000)
  rwa [← (nanos_eq_mul other).1] at quotient

/-- Whole units are counted without an error. -/
theorem micros_of_fraction_eq_none {component : Component} {size : Nat}
    (undivided : component.fraction = none) (units : component.unit.micros = whole size)
    (small : Numeral.value component.digits ≤ 2 ^ 53)
    (exact : Representable (Numeral.value component.digits * size)) :
    component.micros = whole (Numeral.value component.digits * size) := by
  have number := ofQuotient_mul (representable_of_le small) Nat.one_pos
  rw [Nat.mul_one] at number
  have denominator : component.denominator = 1 := by
    rw [Component.denominator, undivided]
    rfl
  rw [Component.micros, denominator, number, units, whole_mul_whole exact]

theorem value_digits_count (n : Nat) (unit : TimeUnit) :
    Numeral.value (count n unit).digits = n := by
  rw [Component.digits, count, Option.getD_none, List.append_nil, Numeral.value_ofNat]

theorem micros_count {n size : Nat} {unit : TimeUnit} (units : unit.micros = whole size)
    (small : n ≤ 2 ^ 53) (exact : Representable (n * size)) :
    (count n unit).micros = whole (n * size) := by
  have counted := micros_of_fraction_eq_none (show (count n unit).fraction = none from rfl) units
  rw [value_digits_count] at counted
  exact counted small exact

/-- A decimal number of units comes within an eighth of its microseconds. -/
theorem micros_decimal_near (micros : Nat) {places : Nat} {unit : TimeUnit} (positive : 0 < places)
    (units : unit.micros = whole (10 ^ places)) (small : micros ≤ 2 ^ 26)
    (narrow : 10 ^ places ≤ 2 ^ 26) :
    8 * (((decimal micros places unit).micros.steps : Int) - (micros * one : Nat)).natAbs ≤
      one := by
  show 8 * (((ofQuotient _ _ * unit.micros).steps : Int) - (micros * one : Nat)).natAbs ≤ one
  rw [units]
  exact natAbs_ofQuotient_mul_whole_sub_le (Nat.pow_pos (by decide))
    (value_decimal micros positive unit) small narrow

/-- A whole number of minutes, and seconds that come within an eighth of their microseconds. -/
theorem total_near {minutes micros : Nat} {sum seconds : Binary64}
    (minute : sum = whole (minutes * 60000000))
    (near : 8 * ((seconds.steps : Int) - (micros * one : Nat)).natAbs ≤ one)
    (exact : Representable (minutes * 60000000 + micros)) :
    4 * (((sum + seconds).steps : Int) - ((minutes * 60000000 + micros) * one : Nat)).natAbs ≤
      one := by
  have error := natAbs_add_sub_le sum seconds exact.mul_one
  have parts : (minutes * 60000000 + micros) * one =
      minutes * 60000000 * one + micros * one := Nat.add_mul _ _ _
  have steps : sum.steps = minutes * 60000000 * one := by rw [minute]; rfl
  rw [parts] at error ⊢
  rw [steps] at error
  clear parts steps minute
  generalize minutes * 60000000 * one = first at error ⊢
  generalize micros * one = second at error near ⊢
  generalize one = unit at near ⊢
  omega

/-- The greatest number of microseconds that reading gives. -/
def greatestMicros : Nat := 9223372036854776

/-- What a signed 64-bit number of nanoseconds amounts to is rounded up to a whole number. -/
theorem greatest_eq : greatest = whole greatestMicros := by
  decide +kernel

theorem representable_mul_minute {n : Nat} (bound : n * 60000000 ≤ greatestMicros) :
    Representable (n * 60000000) := by
  have factors : n * 60000000 = n * 234375 * 2 ^ 8 := by omega
  rw [factors] at bound ⊢
  have digits := Nat.le_trans bound (by decide : greatestMicros ≤ 2 ^ 53 * 2 ^ 8)
  exact ⟨n * 234375, 8, rfl, Nat.le_of_mul_le_mul_right digits (by decide)⟩

/-- The components of a duration of a second or more. -/
def clock (micros : Nat) : List Component :=
  if micros / 3600000000 ≠ 0 then
    [count (micros / 3600000000) .hour, count (micros % 3600000000 / 60000000) .minute,
      decimal (micros % 60000000) 6 .second]
  else if micros % 3600000000 / 60000000 ≠ 0 then
    [count (micros % 3600000000 / 60000000) .minute, decimal (micros % 60000000) 6 .second]
  else [decimal (micros % 60000000) 6 .second]

theorem spell_of_second_le {micros : Nat} (large : 1000000 ≤ micros) :
    spell micros = clock micros := by
  rw [spell, if_neg (by omega), if_neg (by omega), if_neg (by omega)]
  rfl

/-- Hours and minutes are added without an error; without them the sum begins at zero, which is what
is left out. -/
theorem total_clock_near {micros : Nat} (bound : micros ≤ greatestMicros)
    (exact : Representable micros) :
    4 * (((total (clock micros)).steps : Int) - (micros * one : Nat)).natAbs ≤ one := by
  have whole_minutes : micros = micros / 60000000 * 60000000 + micros % 60000000 := by omega
  have one_second : TimeUnit.second.micros = whole 1000000 := micros_eq_whole nofun
  have seconds := micros_decimal_near (micros % 60000000) (by decide : 0 < 6) one_second
    (by omega) (by decide)
  have minutes := representable_mul_minute (n := micros / 60000000) (by omega)
  have sum : ∀ sum, sum = whole (micros / 60000000 * 60000000) →
      4 * (((sum + (decimal (micros % 60000000) 6 .second).micros).steps : Int) -
        (micros * one : Nat)).natAbs ≤ one := by
    intro sum minute
    have near := total_near minute seconds (whole_minutes ▸ exact)
    rwa [← whole_minutes] at near
  have few_hours : micros / 3600000000 ≤ 2 ^ 53 := by
    have bound_micros : micros ≤ 9223372036854776 := bound
    omega
  have whole_hours := representable_mul_minute (n := micros / 3600000000 * 60) (by omega)
  rw [Nat.mul_assoc] at whole_hours
  have one_hour : TimeUnit.hour.micros = whole 3600000000 := micros_eq_whole nofun
  have hour := micros_count one_hour few_hours whole_hours
  have one_minute : TimeUnit.minute.micros = whole 60000000 := micros_eq_whole nofun
  have minute := micros_count (n := micros % 3600000000 / 60000000) one_minute (by omega)
    (representable_mul_minute (by omega))
  have parts : micros / 3600000000 * 3600000000 + micros % 3600000000 / 60000000 * 60000000 =
      micros / 60000000 * 60000000 := by omega
  unfold clock
  split
  case isTrue =>
    have hours := add_whole (parts ▸ minutes)
    rw [parts, ← hour, ← minute] at hours
    rw [total_triple]
    exact sum _ hours
  case isFalse none =>
    have no_hours : micros / 3600000000 = 0 := Decidable.of_not_not none
    rw [no_hours, Nat.zero_mul, Nat.zero_add] at parts
    split
    case isTrue =>
      rw [parts] at minute
      rw [total_pair]
      exact sum _ minute
    case isFalse none =>
      have no_minutes : micros / 60000000 = 0 := by omega
      rw [no_minutes, Nat.zero_mul, Nat.zero_add] at whole_minutes
      rw [← whole_minutes] at seconds
      rw [total_singleton, ← whole_minutes]
      exact Nat.le_trans (Nat.mul_le_mul_right _ (by decide)) seconds

/-- The components of a representable duration add up to it but for a quarter of a microsecond. -/
theorem total_spell_near {micros : Nat} (bound : micros ≤ greatestMicros)
    (exact : Representable micros) :
    4 * (((total (spell micros)).steps : Int) - (micros * one : Nat)).natAbs ≤ one := by
  by_cases large : 1000000 ≤ micros
  · rw [spell_of_second_le large]
    exact total_clock_near bound exact
  unfold spell
  split
  case isTrue zero =>
    subst zero
    have one_second : TimeUnit.second.micros = whole 1000000 := micros_eq_whole nofun
    have nothing := micros_count (n := 0) one_second (by decide) (representable_of_le (by decide))
    rw [total_singleton, nothing, Nat.zero_mul 1000000]
    exact whole_near 0
  split
  case isTrue small =>
    have one_micro : TimeUnit.microsecond.micros = whole 1 := micros_eq_whole nofun
    have same := micros_count (n := micros) one_micro (by omega) (by rwa [Nat.mul_one])
    rw [total_singleton, same, Nat.mul_one]
    exact whole_near micros
  have one_milli : TimeUnit.millisecond.micros = whole 1000 := micros_eq_whole nofun
  have near := micros_decimal_near micros (by decide : 0 < 3) one_milli (by omega) (by decide)
  rw [if_pos (by omega), total_singleton]
  exact Nat.le_trans (Nat.mul_le_mul_right _ (by decide)) near

/-- What the numbers and units of durations are written with. -/
theorem mem_render {component : Component} (written : component.IsWritten) {c : Char}
    (member : c ∈ component.render) :
    c.isDigit = true ∨ c ∈ ['.', 'n', 's', '\u00b5', 'm', 'h'] := by
  rw [Component.render, List.mem_append, List.mem_append] at member
  rcases member with (whole | fraction) | symbol
  · exact Or.inl (written.whole c whole)
  · cases decimals : component.fraction with
    | none =>
      rw [decimals] at fraction
      cases fraction
    | some digits =>
      rw [decimals] at fraction
      rcases List.mem_cons.mp fraction with rfl | digit
      · exact Or.inr List.mem_cons_self
      · exact Or.inl (written.fraction digits decimals c digit)
  · right
    generalize component.unit = unit at symbol
    cases unit <;> simp [TimeUnit.symbol] at symbol ⊢ <;> tauto

/-! ## Reading a written duration -/

/-- A duration that reading can give. -/
structure Readable (duration : Duration) : Prop where
  bound : duration.micros.natAbs ≤ greatestMicros
  representable : Representable duration.micros.natAbs

/-- No sum near a readable number of microseconds is too great: above the greatest number only
whole numbers are left. -/
theorem not_greatest_lt {sum : Binary64} {micros : Nat} (exact : Representable sum.steps)
    (bound : micros ≤ greatestMicros)
    (near : 4 * ((sum.steps : Int) - (micros * one : Nat)).natAbs ≤ one) : ¬ greatest < sum := by
  intro above
  rw [greatest_eq] at above
  have large : greatestMicros * one < sum.steps := above
  have power : 2 ^ 53 * one ≤ greatestMicros * one := Nat.mul_le_mul_right one (by decide)
  obtain ⟨n, steps, _⟩ := one_dvd_of_representable exact (Nat.lt_of_le_of_lt power large)
  rw [steps] at large near
  have later : micros + 1 ≤ n :=
    Nat.lt_of_le_of_lt bound (Nat.lt_of_mul_lt_mul_right large)
  have step := Nat.mul_le_mul_right one later
  have positive := one_pos
  rw [Nat.succ_mul] at step
  omega

theorem isWritten_of_mem_spell (micros : Nat) :
    ∀ component ∈ spell micros, component.IsWritten := by
  simp only [spell]
  repeat' split
  all_goals simp [isWritten_count, isWritten_decimal]

theorem mem_format {duration : Duration} {c : Char} (member : c ∈ duration.format) :
    c.isDigit = true ∨ c ∈ ['-', '.', 'n', 's', '\u00b5', 'm', 'h'] := by
  rw [format, List.mem_append] at member
  rcases member with sign | rest
  · split at sign
    · obtain rfl := List.mem_singleton.mp sign
      exact Or.inr List.mem_cons_self
    · cases sign
  · obtain ⟨component, spelled, inside⟩ := List.mem_flatMap.mp rest
    rcases mem_render (isWritten_of_mem_spell _ component spelled) inside with digit | other
    · exact Or.inl digit
    · exact Or.inr (List.mem_cons_of_mem _ other)

theorem spell_ne_nil (micros : Nat) : spell micros ≠ [] := by
  simp only [spell]
  repeat' split
  all_goals exact List.cons_ne_nil _ _

theorem magnitude?_spell {micros : Nat} (bound : micros ≤ greatestMicros)
    (exact : Representable micros) :
    magnitude? ((spell micros).flatMap Component.render) = some micros := by
  have near := total_spell_near bound exact
  refine magnitude?_eq_some_iff.mpr (Or.inr ⟨spell micros, spell_ne_nil micros, ?_, ?_, ?_⟩)
  · exact spelledBy_flatMap_render (isWritten_of_mem_spell micros)
  · exact not_greatest_lt (representable_total _) bound near
  · exact round_of_near near

/-- The sign of a duration precedes its components. -/
theorem sign_format (duration : Duration) :
    Numeral.sign duration.format =
      (decide (duration.micros < 0), (spell duration.micros.natAbs).flatMap Component.render) := by
  by_cases negative : duration.micros < 0
  · rw [format, if_pos negative, decide_eq_true negative]
    rfl
  · have spelled := spelledBy_flatMap_render (isWritten_of_mem_spell duration.micros.natAbs)
    rw [format, if_neg negative, decide_eq_false negative, List.nil_append,
      sign_of_spelledBy spelled]

/-- A readable duration is read back from its written form. -/
theorem parse_format {duration : Duration} (readable : duration.Readable) :
    parse duration.format = .ok duration := by
  have magnitude := magnitude?_spell readable.bound readable.representable
  simp only [parse, sign_format, magnitude, Numeral.signed_natAbs]

/-- Every duration that reading gives is readable. -/
theorem readable_of_parse {text : Text} {duration : Duration} (read : parse text = .ok duration) :
    duration.Readable := by
  rcases magnitude?_eq_some_iff.mp (magnitude?_of_parse read) with
    ⟨-, zero⟩ | ⟨components, -, -, bound, rounded⟩
  · exact ⟨zero ▸ Nat.zero_le _, zero ▸ representable_of_le (Nat.zero_le _)⟩
  · rw [greatest_eq] at bound
    have most : (total components).steps ≤ greatestMicros * one := Nat.le_of_not_lt bound
    refine ⟨?_, ?_⟩
    · rw [← rounded]
      exact round_le most
    · rw [← rounded]
      exact representable_round (representable_total components)

/-- What was read as a duration is read as the same duration after it is written. -/
theorem parse_format_of_parse {text : Text} {duration : Duration}
    (read : parse text = .ok duration) : parse duration.format = .ok duration :=
  parse_format (readable_of_parse read)

/-- The greatest duration and its negative, each read off a text that denotes a little less. -/
theorem parse_format_of_parse_greatest :
    parse "2562047h47m16.854775807s".toList = .ok ⟨greatestMicros⟩ ∧
      parse (format ⟨greatestMicros⟩) = .ok ⟨greatestMicros⟩ ∧
      parse "-2562047h47m16854775807ns".toList = .ok ⟨-greatestMicros⟩ ∧
      parse (format ⟨-greatestMicros⟩) = .ok ⟨-greatestMicros⟩ := by
  have read : parse "2562047h47m16.854775807s".toList = .ok ⟨greatestMicros⟩ := by decide +kernel
  have negative : parse "-2562047h47m16854775807ns".toList = .ok ⟨-greatestMicros⟩ := by
    decide +kernel
  exact ⟨read, parse_format_of_parse read, negative, parse_format_of_parse negative⟩

end DataSource.Duration
