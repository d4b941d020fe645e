import DataSource.Proofs.Text.Utf8
import DataSource.Text.Percent

/-! Reading escapes undoes writing them, in a component and in a form field, for every text. What
is written consists of unreserved and safe characters, percent signs and, in a field, plus signs;
so it has none of the separators between which it is put. -/
namespace DataSource.Text.Percent

/-! ## Single escapes -/

theorem hexDigit?_digitChar : ∀ n : Fin 16, hexDigit? (Nat.digitChar n).toUpper = some n.val := by
  decide

theorem isUnreserved_digitChar : ∀ n : Fin 16, isUnreserved (Nat.digitChar n).toUpper = true := by
  decide

/-- One escape stands for its octet. -/
theorem octets_escape (style : Style) (octet : UInt8) (rest : Text) :
    octets style (escape octet ++ rest) = (octets style rest).map (octet :: ·) := by
  have small := octet.toNat_lt
  have high := hexDigit?_digitChar ⟨octet.toNat / 16, by omega⟩
  have low := hexDigit?_digitChar ⟨octet.toNat % 16, by omega⟩
  have value : octet.toNat / 16 * 16 + octet.toNat % 16 = octet.toNat := by omega
  dsimp only at high low
  simp only [escape, List.cons_append, List.nil_append, octets, ↓reduceIte, high, low, value,
    UInt8.ofNat_toNat]
  cases octets style rest <;> rfl

theorem octets_flatMap_escape (style : Style) (written : List UInt8) (rest : Text) :
    octets style (written.flatMap escape ++ rest) = (octets style rest).map (written ++ ·) := by
  induction written with
  | nil =>
    rw [List.flatMap_nil, List.nil_append]
    cases octets style rest <;> rfl
  | cons octet written ih =>
    rw [List.flatMap_cons, List.append_assoc, octets_escape, ih]
    cases octets style rest <;> rfl

theorem octets_plain (style : Style) {c : Char} (plain : c ≠ '%') (rest : Text) :
    octets style (c :: rest) = (octets style rest).map (plainOctets style c ++ ·) := by
  rw [octets.eq_def]
  simp only [if_neg plain]
  cases octets style rest <;> rfl

theorem plainOctets_of_ne (style : Style) {c : Char} (plain : c ≠ '+') :
    plainOctets style c = String.utf8EncodeChar c :=
  if_neg fun both => plain both.2

/-! ## Components -/

section Components
variable {safe : Char → Bool}

/-- Each character is written as something that stands for its octets. -/
theorem octets_encode (escaped : safe '%' = false) (text : Text) :
    octets .component (encode safe text) = .ok (Utf8.encode text) := by
  induction text with
  | nil => rfl
  | cons c text ih =>
    rw [encode, List.flatMap_cons, Utf8.encode, List.flatMap_cons, ← encode, ← Utf8.encode]
    by_cases kept : (isUnreserved c || safe c) = true
    · have plain : c ≠ '%' := by
        rintro rfl
        rw [escaped] at kept
        exact absurd kept (by decide)
      rw [if_pos kept, List.singleton_append, octets_plain _ plain, ih]
      rfl
    · rw [if_neg kept, escapeChar, octets_flatMap_escape, ih]
      rfl

/-- A component is read back as it was before it was written. -/
theorem decode_encode (escaped : safe '%' = false) (text : Text) :
    decode .component (encode safe text) = .ok text := by
  rw [decode, octets_encode escaped]
  exact congrArg Except.ok (Utf8.decode_encode text)

/-- A component without escapes is read as it stands. -/
theorem decode_of_not_mem {text : Text} (plain : '%' ∉ text) : decode .component text = .ok text := by
  have octets : octets .component text = .ok (Utf8.encode text) := by
    induction text with
    | nil => rfl
    | cons c text ih =>
      simp only [List.mem_cons, not_or] at plain
      rw [octets_plain _ (Ne.symm plain.1), ih plain.2]
      rfl
  rw [decode, octets]
  exact congrArg Except.ok (Utf8.decode_encode text)

theorem mem_escapeChar {c x : Char} (member : x ∈ escapeChar c) :
    isUnreserved x = true ∨ x = '%' := by
  obtain ⟨octet, _, member⟩ := List.mem_flatMap.mp member
  have small := octet.toNat_lt
  simp only [escape, List.mem_cons, List.not_mem_nil, or_false] at member
  rcases member with rfl | rfl | rfl
  · exact Or.inr rfl
  · exact Or.inl (isUnreserved_digitChar ⟨octet.toNat / 16, by omega⟩)
  · exact Or.inl (isUnreserved_digitChar ⟨octet.toNat % 16, by omega⟩)

theorem mem_encode {text : Text} {x : Char} (member : x ∈ encode safe text) :
    isUnreserved x = true ∨ safe x = true ∨ x = '%' := by
  obtain ⟨c, _, member⟩ := List.mem_flatMap.mp member
  split at member
  · rename_i kept
    obtain rfl := List.mem_singleton.mp member
    rcases Bool.or_eq_true_iff.mp kept with unreserved | declared
    · exact Or.inl unreserved
    · exact Or.inr (Or.inl declared)
  · rcases mem_escapeChar member with unreserved | percent
    · exact Or.inl unreserved
    · exact Or.inr (Or.inr percent)

end Components

/-! ## Form fields -/

theorem octets_encodeField (text : Text) :
    octets .field (encodeField text) = .ok (Utf8.encode text) := by
  induction text with
  | nil => rfl
  | cons c text ih =>
    rw [encodeField, List.flatMap_cons, Utf8.encode, List.flatMap_cons, ← encodeField, ← Utf8.encode]
    by_cases space : c = ' '
    · subst space
      rw [if_pos rfl, List.singleton_append, octets_plain _ (by decide), ih]
      rfl
    · rw [if_neg space]
      by_cases kept : isUnreserved c = true
      · have percent : c ≠ '%' := by
          rintro rfl
          exact absurd kept (by decide)
        have plus : c ≠ '+' := by
          rintro rfl
          exact absurd kept (by decide)
        rw [if_pos kept, List.singleton_append, octets_plain _ percent, plainOctets_of_ne _ plus, ih]
        rfl
      · rw [if_neg kept, escapeChar, octets_flatMap_escape, ih]
        rfl

/-- A field is read back as it was before it was written. -/
theorem decode_encodeField (text : Text) : decode .field (encodeField text) = .ok text := by
  rw [decode, octets_encodeField]
  exact congrArg Except.ok (Utf8.decode_encode text)

theorem mem_encodeField {text : Text} {x : Char} (member : x ∈ encodeField text) :
    isUnreserved x = true ∨ x = '+' ∨ x = '%' := by
  obtain ⟨c, _, member⟩ := List.mem_flatMap.mp member
  split at member
  · exact Or.inr (Or.inl (List.mem_singleton.mp member))
  · split at member
    · rename_i kept
      obtain rfl := List.mem_singleton.mp member
      exact Or.inl kept
    · rcases mem_escapeChar member with unreserved | percent
      · exact Or.inl unreserved
      · exact Or.inr (Or.inr percent)

/-- A field in which nothing but unreserved characters is written was not changed. -/
theorem encodeField_of_unreserved {text : Text}
    (unreserved : ∀ x ∈ encodeField text, isUnreserved x = true) : encodeField text = text := by
  induction text with
  | nil => rfl
  | cons c text ih =>
    rw [encodeField, List.flatMap_cons, ← encodeField] at unreserved ⊢
    have rest := ih fun x member => unreserved x (List.mem_append_right _ member)
    have head := fun x member => unreserved x (List.mem_append_left _ member)
    by_cases space : c = ' '
    · rw [if_pos space] at head
      exact absurd (head '+' List.mem_cons_self) (by decide)
    · rw [if_neg space] at head ⊢
      by_cases kept : isUnreserved c = true
      · rw [if_pos kept, rest, List.singleton_append]
      · rw [if_neg kept] at head
        obtain ⟨octet, more, written⟩ :=
          List.exists_cons_of_ne_nil (String.utf8EncodeChar_ne_nil (c := c))
        have percent : '%' ∈ escapeChar c := by simp [escapeChar, written, escape]
        exact absurd (head '%' percent) (by decide)

theorem encodeField_eq_self {text : Text} (unreserved : ∀ x ∈ text, isUnreserved x = true) :
    encodeField text = text := by
  induction text with
  | nil => rfl
  | cons c text ih =>
    have kept := unreserved c List.mem_cons_self
    have space : c ≠ ' ' := by
      rintro rfl
      exact absurd kept (by decide)
    have rest := ih fun x member => unreserved x (List.mem_cons_of_mem _ member)
    rw [encodeField, List.flatMap_cons, ← encodeField, rest, if_neg space, if_pos kept,
      List.singleton_append]

/-- A word of unreserved characters is written for itself and for no other text. -/
theorem encodeField_eq_iff {text word : Text} (plain : word.all isUnreserved = true) :
    encodeField text = word ↔ text = word := by
  have unreserved : ∀ x ∈ word, isUnreserved x = true := List.all_eq_true.mp plain
  constructor
  · intro written
    rw [← written]
    exact (encodeField_of_unreserved (written ▸ unreserved)).symm
  · rintro rfl
    exact encodeField_eq_self unreserved

/-! ## Which texts can be read -/

/-- Every percent sign begins an escape: two hexadecimal digits follow it. -/
def IsWellEscaped (text : Text) : Prop :=
  ∀ before after, text = before ++ '%' :: after →
    ∃ high low rest, after = high :: low :: rest ∧ (hexDigit? high).isSome ∧ (hexDigit? low).isSome

theorem isWellEscaped_nil : IsWellEscaped [] := by
  intro before after same
  simp at same

theorem isWellEscaped_cons {c : Char} (plain : c ≠ '%') (rest : Text) :
    IsWellEscaped (c :: rest) ↔ IsWellEscaped rest := by
  constructor
  · intro escaped before after same
    exact escaped (c :: before) after (by rw [same, List.cons_append])
  · intro escaped before after same
    cases before with
    | nil => exact absurd (List.cons.inj same).1 plain
    | cons x before => exact escaped before after (List.cons.inj same).2

/-- No digit of an escape is itself a percent sign, so the escapes after it are those of the rest. -/
theorem isWellEscaped_escape (high low : Char) (rest : Text) :
    IsWellEscaped ('%' :: high :: low :: rest) ↔
      (hexDigit? high).isSome ∧ (hexDigit? low).isSome ∧ IsWellEscaped rest := by
  have percent : hexDigit? '%' = none := by decide
  constructor
  · intro escaped
    obtain ⟨x, y, more, same, first, second⟩ := escaped [] _ rfl
    cases same
    refine ⟨first, second, fun before after same => ?_⟩
    exact escaped ('%' :: high :: low :: before) after (by rw [same]; rfl)
  · rintro ⟨first, second, escaped⟩ before after same
    match before with
    | [] => exact ⟨high, low, rest, (List.cons.inj same).2.symm, first, second⟩
    | [_] =>
      cases same
      simp [percent] at first
    | [_, _] =>
      cases same
      simp [percent] at second
    | _ :: _ :: _ :: before =>
      cases same
      exact escaped before after rfl

/-- The octets of a text exist exactly when it is well escaped, wherever it stands. -/
theorem exists_octets_iff (style : Style) (text : Text) :
    (∃ read, octets style text = .ok read) ↔ IsWellEscaped text := by
  fun_induction octets style text with
  | case1 => simp [isWellEscaped_nil]
  | case2 high low rest x y second first more read ih
  | case3 high low rest x y second first bad failed ih =>
    rw [isWellEscaped_escape, first, second, ← ih]
    simp [*]
  | case4 high low rest undigital =>
    rw [isWellEscaped_escape]
    constructor
    · rintro ⟨_, impossible⟩
      cases impossible
    · rintro ⟨first, second, _⟩
      obtain ⟨x, first⟩ := Option.isSome_iff_exists.mp first
      obtain ⟨y, second⟩ := Option.isSome_iff_exists.mp second
      exact (undigital x y first second).elim
  | case5 short incomplete =>
    constructor
    · rintro ⟨_, impossible⟩
      cases impossible
    · intro escaped
      obtain ⟨high, low, rest, same, _⟩ := escaped [] short rfl
      exact (incomplete high low rest same).elim
  | case6 c rest plain more read ih
  | case7 c rest plain bad failed ih =>
    rw [isWellEscaped_cons plain, ← ih]
    simp [*]

/-- A text can be read exactly when it is well escaped, wherever it stands. -/
theorem exists_decode_iff (style : Style) (text : Text) :
    (∃ read, decode style text = .ok read) ↔ IsWellEscaped text := by
  rw [← exists_octets_iff style]
  unfold decode
  cases octets style text <;> simp [Except.map]

instance (text : Text) : Decidable (IsWellEscaped text) :=
  decidable_of_iff ((octets .component text).toOption.isSome = true) <| by
    rw [← exists_octets_iff .component]
    cases octets .component text <;> simp [Except.toOption]

end DataSource.Text.Percent
