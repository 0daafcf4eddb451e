import TabularQuery.Proofs.SeparatedDigits

/-! The grammar of decimal numbers with separators. A text is in it exactly when its separators stand between digits and
what is left without them denotes a magnitude. -/

namespace TabularQuery.Literal

open scoped Computability

def sign : Language Char := optional ({['+']} + {['-']})

def scale : Language Char := optional (({['e']} + {['E']}) * (sign * run))

def point : Language Char := optional ({['.']} * optional run)

/-- A run with at most one point behind it, inside it or before it, and an exponent. -/
def decimal : Language Char := run * point * scale + {['.']} * run * scale

theorem mem_sign {text : List Char} : text ∈ sign ↔ ∃ negative, Sign text negative := by
  constructor
  · rintro (rfl | rfl | rfl)
    exacts [⟨_, .absent⟩, ⟨_, .plus⟩, ⟨_, .minus⟩]
  · rintro ⟨_, _ | _ | _⟩
    exacts [Or.inl rfl, Or.inr (Or.inl rfl), Or.inr (Or.inr rfl)]

theorem Sign.separated {text : List Char} {negative : Bool} (signed : Sign text negative) :
    wellSeparated false text = true ∧ plain text = text := by
  cases signed <;> decide

theorem signed_split {text sign body : List Char} {negative : Bool} (separated : wellSeparated false text = true)
    (signed : Sign sign negative) (same : plain text = sign ++ body) :
    ∃ rest, text = sign ++ rest ∧ plain rest = body ∧ wellSeparated false rest = true := by
  cases signed with
  | absent => exact ⟨text, rfl, same, separated⟩
  | plus | minus => exact wellSeparated_first separated same (by decide)

theorem exponent_of_scale {text : List Char} (member : text ∈ scale) :
    wellSeparated false text = true ∧ ∃ exponent, Exponent (plain text) exponent := by
  rcases member with rfl | member
  · exact ⟨rfl, 0, .absent⟩
  · obtain ⟨mark, marked, _, ⟨written, signed, digits, member, rfl⟩, rfl⟩ := member
    obtain ⟨negative, signed⟩ := mem_sign.mp signed
    obtain ⟨separated, digital, nonempty⟩ := mem_run.mp member
    obtain ⟨signSeparated, signPlain⟩ := signed.separated
    have following : wellSeparated false (written ++ digits) = true := wellSeparated_append signSeparated separated
    have exponent (c : Char) (marks : c = 'e' ∨ c = 'E') := Exponent.present marks signed digital nonempty
    rw [← signPlain, ← plain_append] at exponent
    rcases marked with rfl | rfl
    · exact ⟨following, _, exponent 'e' (Or.inl rfl)⟩
    · exact ⟨following, _, exponent 'E' (Or.inr rfl)⟩

theorem scale_of_exponent {text : List Char} {exponent : ℤ} (separated : wellSeparated false text = true)
    (written : Exponent (plain text) exponent) : text ∈ scale := by
  generalize same : plain text = kept at written
  cases written with
  | absent => exact Or.inl (plain_eq_nil separated same)
  | @present mark sign digits negative marked signed digital nonempty =>
    have notDigit : mark.isDigit = false := by rcases marked with rfl | rfl <;> decide
    obtain ⟨after, rfl, body, separatedAfter⟩ := wellSeparated_first separated same notDigit
    obtain ⟨rest, rfl, rfl, separatedRest⟩ := signed_split separatedAfter signed body
    have power : sign ++ rest ∈ Literal.sign * run :=
      Language.append_mem_mul (mem_sign.mpr ⟨_, signed⟩) (mem_run.mpr ⟨separatedRest, digital, nonempty⟩)
    refine Or.inr (Language.append_mem_mul (a := [mark]) ?_ power)
    rcases marked with rfl | rfl
    exacts [Or.inl rfl, Or.inr rfl]

theorem fraction_of_point {text : List Char} (member : text ∈ point) :
    wellSeparated false text = true ∧ ∃ digits, Fraction (plain text) digits := by
  rcases member with rfl | ⟨_, rfl, digits, member, rfl⟩
  · exact ⟨rfl, _, .absent⟩
  · obtain ⟨separated, digital⟩ := mem_optional_run.mp member
    exact ⟨separated, _, .present digital⟩

theorem magnitude_of_decimal {text : List Char} (member : text ∈ decimal) :
    wellSeparated false text = true ∧ ∃ magnitude, Magnitude (plain text) magnitude := by
  rcases member with ⟨_, ⟨whole, first, dotted, second, rfl⟩, power, third, rfl⟩ | ⟨_, ⟨_, rfl, digits, first, rfl⟩, power, third, rfl⟩
  · obtain ⟨wholeSeparated, digital, nonempty⟩ := mem_run.mp first
    obtain ⟨pointSeparated, fraction, pointed⟩ := fraction_of_point second
    obtain ⟨powerSeparated, exponent, scaled⟩ := exponent_of_scale third
    have written := Magnitude.decimal digital pointed (fun none => nonempty (List.append_eq_nil_iff.mp none).1) scaled
    rw [← plain_append, ← plain_append] at written
    exact ⟨wellSeparated_append (wellSeparated_append wholeSeparated pointSeparated) powerSeparated, _, written⟩
  · obtain ⟨separated, digital, nonempty⟩ := mem_run.mp first
    obtain ⟨powerSeparated, exponent, scaled⟩ := exponent_of_scale third
    have nothing : Digits [] := nofun
    have dotted : wellSeparated false ('.' :: digits) = true := separated
    have written := Magnitude.decimal nothing (.present digital) nonempty scaled
    rw [List.nil_append, ← plain_cons (by decide), ← plain_append] at written
    exact ⟨wellSeparated_append dotted powerSeparated, _, written⟩

theorem scale_split {text front written : List Char} {exponent : ℤ} (separated : wellSeparated false text = true)
    (scaled : Exponent written exponent) (same : plain text = front ++ written) :
    ∃ before after, text = before ++ after ∧ plain before = front ∧ wellSeparated false before = true ∧ after ∈ scale := by
  cases scaled with
  | absent => exact ⟨text, [], by simp, by simpa using same, separated, Or.inl rfl⟩
  | @present mark sign digits negative marked signed digital nonempty =>
    have kept : mark.isDigit = false ∧ mark ≠ '_' := by rcases marked with rfl | rfl <;> decide
    obtain ⟨before, after, rfl, rfl, body, left, right⟩ := wellSeparated_split separated kept.1 same
    refine ⟨before, mark :: after, rfl, rfl, left, ?_⟩
    have power := Exponent.present marked signed digital nonempty
    rw [← body, ← plain_cons kept.2] at power
    exact scale_of_exponent (by rwa [wellSeparated_cons kept.2, kept.1]) power

theorem decimal_of_magnitude {text : List Char} {magnitude : ℚ} (separated : wellSeparated false text = true)
    (written : Magnitude (plain text) magnitude) : text ∈ decimal := by
  generalize same : plain text = kept at written
  cases written with
  | @decimal whole dotted fraction power exponent digital pointed nonempty scaled =>
    obtain ⟨before, after, rfl, front, left, member⟩ := scale_split separated scaled same
    cases pointed with
    | absent =>
      rw [List.append_nil] at front nonempty
      subst front
      have digits : before ∈ run := mem_run.mpr ⟨left, digital, nonempty⟩
      refine Or.inl (Language.append_mem_mul ?_ member)
      have pointless : [] ∈ point := Or.inl rfl
      simpa using Language.append_mem_mul digits pointless
    | present fractional =>
      obtain ⟨first, second, rfl, rfl, rfl, firstSeparated, secondSeparated⟩ := wellSeparated_split left (by decide) front
      by_cases bare : plain first = []
      · obtain rfl := plain_eq_nil firstSeparated bare
        have digits : second ∈ run := mem_run.mpr ⟨secondSeparated, fractional, by simpa [bare] using nonempty⟩
        exact Or.inr (Language.append_mem_mul (Language.append_mem_mul (a := ['.']) rfl digits) member)
      · have digits : first ∈ run := mem_run.mpr ⟨firstSeparated, digital, bare⟩
        have dotted : '.' :: second ∈ point :=
          Or.inr (Language.append_mem_mul (a := ['.']) rfl (mem_optional_run.mpr ⟨secondSeparated, fractional⟩))
        exact Or.inl (Language.append_mem_mul (Language.append_mem_mul digits dotted) member)

theorem mem_sign_mul_decimal {text : List Char} :
    text ∈ sign * decimal ↔ wellSeparated false text = true ∧ ∃ negative magnitude, Denotes (plain text) negative magnitude := by
  constructor
  · rintro ⟨written, member, body, unsigned, rfl⟩
    obtain ⟨negative, signed⟩ := mem_sign.mp member
    obtain ⟨signSeparated, signPlain⟩ := signed.separated
    obtain ⟨separated, magnitude, denotes⟩ := magnitude_of_decimal unsigned
    refine ⟨wellSeparated_append signSeparated separated, negative, magnitude, ?_⟩
    rw [plain_append, signPlain]
    exact .signed signed denotes
  · rintro ⟨separated, negative, magnitude, denotes⟩
    generalize same : plain text = kept at denotes
    cases denotes with
    | signed signed written =>
      obtain ⟨rest, rfl, rfl, unsigned⟩ := signed_split separated signed same
      exact Language.append_mem_mul (mem_sign.mpr ⟨_, signed⟩) (decimal_of_magnitude unsigned written)

end TabularQuery.Literal
