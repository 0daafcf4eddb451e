import Mathlib.Tactic.FieldSimp
import TabularQuery.Number.Literal
import TabularQuery.Proofs.DecimalRounding

/-! The grammar of numbers without separators, and what they denote. A decimal text is read
as the number nearest to the exact quotient that its digits write down. -/

namespace TabularQuery.Literal

def Digits (text : List Char) : Prop := ∀ c ∈ text, c.isDigit = true

def number (digits : List Char) : ℕ := Nat.ofDigitChars 10 digits 0

theorem number_padded (zeros n : ℕ) : number (List.replicate zeros '0' ++ Nat.toDigits 10 n) = n := by
  rw [number, Nat.ofDigitChars_append, Nat.ofDigitChars_replicate_zero, Nat.mul_zero, Nat.ofDigitChars_ten_toDigits]

theorem digits_padded (zeros n : ℕ) : Digits (List.replicate zeros '0' ++ Nat.toDigits 10 n) := by
  intro c member
  rcases List.mem_append.mp member with zero | digit
  · obtain rfl := List.eq_of_mem_replicate zero
    rfl
  · exact Nat.isDigit_of_mem_toDigits (by decide) le_rfl digit

theorem number_toDigits (n : ℕ) : number (Nat.toDigits 10 n) = n := number_padded 0 n

theorem digits_toDigits (n : ℕ) : Digits (Nat.toDigits 10 n) := digits_padded 0 n

inductive Sign : List Char → Bool → Prop
  | absent : Sign [] false
  | plus : Sign ['+'] false
  | minus : Sign ['-'] true

/-- A point with digits after it, which may both be missing. -/
inductive Fraction : List Char → List Char → Prop
  | absent : Fraction [] []
  | present {digits : List Char} (digital : Digits digits) : Fraction ('.' :: digits) digits

inductive Exponent : List Char → ℤ → Prop
  | absent : Exponent [] 0
  | present {mark : Char} {sign digits : List Char} {negative : Bool} (marked : mark = 'e' ∨ mark = 'E')
      (signed : Sign sign negative) (digital : Digits digits) (nonempty : digits ≠ []) :
      Exponent (mark :: (sign ++ digits)) (if negative then -(number digits : ℤ) else number digits)

/-- The magnitude written by digits on both sides of a point, shifted by an exponent. -/
inductive Magnitude : List Char → ℚ → Prop
  | decimal {whole point fraction scale : List Char} {exponent : ℤ} (digital : Digits whole)
      (pointed : Fraction point fraction) (nonempty : whole ++ fraction ≠ []) (scaled : Exponent scale exponent) :
      Magnitude (whole ++ point ++ scale)
        ((number whole + number fraction / 10 ^ fraction.length) * 10 ^ exponent)

inductive Denotes : List Char → Bool → ℚ → Prop
  | signed {sign body : List Char} {negative : Bool} {magnitude : ℚ} (signed : Sign sign negative)
      (written : Magnitude body magnitude) : Denotes (sign ++ body) negative magnitude

theorem splitSign_append {sign body : List Char} {negative : Bool} (signed : Sign sign negative)
    (unsigned : ∀ c, body.head? = some c → c ≠ '-' ∧ c ≠ '+') : splitSign (sign ++ body) = (negative, body) := by
  cases signed with
  | plus | minus => rfl
  | absent =>
    cases body with
    | nil => rfl
    | cons c rest =>
      obtain ⟨notMinus, notPlus⟩ := unsigned c rfl
      simp [splitSign, notMinus, notPlus]

theorem splitSign_sign (text : List Char) :
    ∃ sign, Sign sign (splitSign text).1 ∧ text = sign ++ (splitSign text).2 := by
  unfold splitSign
  split
  · exact ⟨['-'], .minus, rfl⟩
  · exact ⟨['+'], .plus, rfl⟩
  · exact ⟨[], .absent, rfl⟩

theorem natural?_eq_some {digits : List Char} {n : ℕ} :
    natural? digits = some n ↔ digits ≠ [] ∧ Digits digits ∧ number digits = n := by
  unfold natural?
  split
  next accepted =>
    have digital : Digits digits := List.all_eq_true.mp accepted.2
    simp [number, accepted.1, digital]
  next refused =>
    simp only [reduceCtorEq, false_iff]
    rintro ⟨nonempty, digital, -⟩
    exact refused ⟨nonempty, List.all_eq_true.mpr digital⟩

theorem Digits.not_sign {digits : List Char} (digital : Digits digits) :
    ∀ c, digits.head? = some c → c ≠ '-' ∧ c ≠ '+' := by
  intro c first
  have digit := digital c (List.mem_of_mem_head? first)
  constructor <;> rintro rfl <;> exact absurd digit (by decide)

theorem exponent?_eq_some {text : List Char} {exponent : ℤ} :
    exponent? text = some exponent ↔ Exponent text exponent := by
  constructor
  · intro read
    cases text with
    | nil =>
      obtain rfl : 0 = exponent := by simpa [exponent?] using read
      exact .absent
    | cons mark rest =>
      simp only [exponent?] at read
      split at read
      next marked =>
        obtain ⟨sign, signed, same⟩ := splitSign_sign rest
        obtain ⟨n, digits, rfl⟩ := Option.map_eq_some_iff.mp read
        obtain ⟨nonempty, digital, rfl⟩ := natural?_eq_some.mp digits
        have written : Exponent (mark :: (sign ++ (splitSign rest).2)) _ :=
          .present marked signed digital nonempty
        rwa [← same] at written
      next => exact absurd read (by simp)
  · intro written
    cases written with
    | absent => rfl
    | @present mark sign digits negative marked signed digital nonempty =>
      have read : natural? digits = some (number digits) := natural?_eq_some.mpr ⟨nonempty, digital, rfl⟩
      simp only [exponent?, if_pos marked, splitSign_append signed digital.not_sign, read, Option.map_some]

private theorem takeWhile_digits {digits rest : List Char} (digital : Digits digits)
    (stops : ∀ c, rest.head? = some c → c.isDigit = false) :
    (digits ++ rest).takeWhile Char.isDigit = digits ∧ (digits ++ rest).dropWhile Char.isDigit = rest := by
  rw [List.takeWhile_append_of_pos digital, List.dropWhile_append_of_pos digital]
  cases rest with
  | nil => simp
  | cons c rest => simp [stops c rfl]

private theorem Exponent.stops {text : List Char} {exponent : ℤ} (written : Exponent text exponent) :
    ∀ c, text.head? = some c → c.isDigit = false ∧ c ≠ '.' := by
  intro c first
  cases written with
  | absent => cases first
  | present marked =>
    cases first
    rcases marked with rfl | rfl <;> decide

private theorem digits_takeWhile (text : List Char) : Digits (text.takeWhile Char.isDigit) :=
  List.all_eq_true.mp List.all_takeWhile

theorem number_append (whole fraction : List Char) :
    (number (whole ++ fraction) : ℚ) = (number whole + number fraction / 10 ^ fraction.length) * 10 ^ fraction.length := by
  have split : number (whole ++ fraction) = 10 ^ fraction.length * number whole + number fraction := by
    rw [number, Nat.ofDigitChars_append, Nat.ofDigitChars_eq_ofDigitChars_zero]
    rfl
  rw [split]
  push_cast
  field_simp

theorem splitFraction_append {point fraction rest : List Char} (pointed : Fraction point fraction)
    (stops : ∀ c, rest.head? = some c → c.isDigit = false ∧ c ≠ '.') :
    splitFraction (point ++ rest) = (fraction, rest) := by
  cases pointed with
  | absent =>
    cases rest with
    | nil => rfl
    | cons c rest => simp [splitFraction, (stops c rfl).2]
  | present digital =>
    obtain ⟨taken, dropped⟩ := takeWhile_digits digital fun c first => (stops c first).1
    rw [List.cons_append, splitFraction, taken, dropped]

theorem splitFraction_fraction (text : List Char) :
    ∃ point, Fraction point (splitFraction text).1 ∧ text = point ++ (splitFraction text).2 := by
  unfold splitFraction
  split
  next after => exact ⟨_, .present (digits_takeWhile after), by simp⟩
  next => exact ⟨[], .absent, rfl⟩

private theorem Fraction.stops {point fraction rest : List Char} (pointed : Fraction point fraction)
    (stops : ∀ c, rest.head? = some c → c.isDigit = false) :
    ∀ c, (point ++ rest).head? = some c → c.isDigit = false := by
  cases pointed with
  | absent => exact stops
  | present =>
    rintro c ⟨⟩
    decide

theorem value_of_digits (whole fraction : List Char) (exponent : ℤ) :
    (⟨number (whole ++ fraction), exponent - fraction.length⟩ : Decimal).value =
      (number whole + number fraction / 10 ^ fraction.length) * 10 ^ exponent := by
  rw [Decimal.value, number_append, zpow_sub₀ (by norm_num), zpow_natCast]
  field_simp

theorem decimal?_of_magnitude {text : List Char} {magnitude : ℚ} (written : Magnitude text magnitude) :
    ∃ d, decimal? text = some d ∧ d.value = magnitude := by
  cases written with
  | @decimal whole point fraction scale exponent digital pointed nonempty scaled =>
    refine ⟨⟨number (whole ++ fraction), exponent - fraction.length⟩, ?_, value_of_digits whole fraction exponent⟩
    have read : exponent? scale = some exponent := exponent?_eq_some.mpr scaled
    obtain ⟨taken, dropped⟩ := takeWhile_digits digital
      (pointed.stops fun c first => (scaled.stops c first).1)
    rw [List.append_assoc]
    simp only [decimal?, taken, dropped, splitFraction_append pointed scaled.stops, if_neg nonempty, read,
      Option.map_some, number]

theorem magnitude_of_decimal? {text : List Char} {d : Decimal} (read : decimal? text = some d) :
    Magnitude text d.value := by
  obtain ⟨point, pointed, same⟩ := splitFraction_fraction (text.dropWhile Char.isDigit)
  simp only [decimal?] at read
  generalize splitFraction (text.dropWhile Char.isDigit) = split at *
  obtain ⟨fraction, rest⟩ := split
  split at read
  next => exact absurd read (by simp)
  next nonempty =>
    obtain ⟨exponent, scaled, rfl⟩ := Option.map_eq_some_iff.mp read
    have written := Magnitude.decimal (digits_takeWhile text) pointed nonempty (exponent?_eq_some.mp scaled)
    have whole : text.takeWhile Char.isDigit ++ point ++ rest = text := by
      rw [List.append_assoc, ← same, List.takeWhile_append_dropWhile]
    rw [whole, ← value_of_digits] at written
    exact written

/-- A text spells a word in any letter case. -/
def Spells (word text : List Char) : Prop := text.map Char.toLower = word

def infinityWords : List (List Char) := [['i', 'n', 'f'], ['i', 'n', 'f', 'i', 'n', 'i', 't', 'y']]

def nanWord : List Char := ['n', 'a', 'n']

theorem toLower_digit {c : Char} (digit : c.isDigit = true) : c.toLower = c := by
  have notUpper : ¬ (c.val ≥ 'A'.val ∧ c.val ≤ 'Z'.val) := by
    simp only [Char.isDigit, Bool.and_eq_true, decide_eq_true_eq, ge_iff_le, UInt32.le_iff_toNat_le] at digit ⊢
    have bound : '9'.val.toNat = 57 ∧ 'A'.val.toNat = 65 := by decide
    omega
  exact dif_neg notUpper

private theorem not_spells {c first : Char} {rest word : List Char} (kept : c.toLower = c) (other : c ≠ first) :
    ¬ Spells (first :: word) (c :: rest) := by
  intro same
  exact other (kept.symm.trans (List.cons.inj same).1)

private theorem Magnitude.first {text : List Char} {magnitude : ℚ} (written : Magnitude text magnitude) :
    ∃ c rest, text = c :: rest ∧ c.toLower = c ∧ c ∉ ['-', '+', 'i', 'n'] := by
  cases written with
  | @decimal whole point fraction scale exponent digital pointed nonempty scaled =>
    cases whole with
    | cons c whole =>
      have digit := digital c List.mem_cons_self
      refine ⟨c, _, rfl, toLower_digit digit, fun member => ?_⟩
      have none : List.all ['-', '+', 'i', 'n'] (!Char.isDigit ·) = true := by decide
      simpa [digit] using List.all_eq_true.mp none c member
    | nil =>
      cases pointed with
      | absent => exact absurd rfl nonempty
      | present => exact ⟨'.', _, rfl, by decide, by decide⟩

/-- The sign comes off a plain decimal text, and what is left is read as a decimal and not as a word. -/
theorem Denotes.split {text : List Char} {negative : Bool} {magnitude : ℚ} (denotes : Denotes text negative magnitude) :
    ∃ c rest d, splitSign text = (negative, c :: rest) ∧ c.toLower = c ∧ c ≠ 'i' ∧ c ≠ 'n' ∧
      decimal? (c :: rest) = some d ∧ d.value = magnitude := by
  obtain ⟨signed, written⟩ := denotes
  obtain ⟨d, read, value⟩ := decimal?_of_magnitude written
  obtain ⟨c, rest, rfl, kept, other⟩ := written.first
  simp only [List.mem_cons, List.not_mem_nil, or_false, not_or] at other
  obtain ⟨notMinus, notPlus, notInfinite, notNan⟩ := other
  have starts : ∀ first, (c :: rest).head? = some first → first ≠ '-' ∧ first ≠ '+' := by
    rintro _ ⟨⟩
    exact ⟨notMinus, notPlus⟩
  exact ⟨c, rest, d, splitSign_append signed starts, kept, notInfinite, notNan, read, value⟩

theorem Denotes.unique {text : List Char} {negative other : Bool} {magnitude second : ℚ}
    (denotes : Denotes text negative magnitude) (again : Denotes text other second) :
    negative = other ∧ magnitude = second := by
  obtain ⟨c, rest, d, split, -, -, -, read, rfl⟩ := denotes.split
  obtain ⟨c', rest', d', split', -, -, -, read', rfl⟩ := again.split
  rw [split] at split'
  obtain ⟨rfl, same⟩ := Prod.mk.inj split'
  rw [← same, read] at read'
  exact ⟨rfl, congrArg Decimal.value (Option.some.inj read')⟩

/-- A plain decimal text is read as the number nearest to the magnitude it denotes. -/
theorem ofPlain?_of_denotes {text : List Char} {negative : Bool} {magnitude : ℚ} (denotes : Denotes text negative magnitude) :
    ∃ x, ofPlain? text = some x ∧ x.negative = negative ∧ Binary64.RoundsTo magnitude x.rank := by
  obtain ⟨c, rest, d, split, kept, notInfinite, notNan, read, rfl⟩ := denotes.split
  refine ⟨d.toBinary64 negative, ?_, rfl, d.nearestRank_roundsTo⟩
  simp only [ofPlain?, split]
  have unspelled : ∀ letter word, c ≠ letter → (c :: rest).map Char.toLower ≠ letter :: word := fun _ _ => not_spells kept
  rw [if_neg (not_or.mpr ⟨unspelled _ _ notInfinite, unspelled _ _ notInfinite⟩), if_neg (unspelled _ _ notNan), read]
  rfl

private theorem splitSign_word {sign word body : List Char} {negative : Bool} {first : Char} (signed : Sign sign negative)
    (letter : '-' ≠ first ∧ '+' ≠ first) (spelled : Spells (first :: word) body) :
    splitSign (sign ++ body) = (negative, body) := by
  apply splitSign_append signed
  intro c starts
  obtain ⟨rest, rfl⟩ := List.head?_eq_some_iff.mp starts
  constructor
  · rintro rfl
    exact not_spells (by decide) letter.1 spelled
  · rintro rfl
    exact not_spells (by decide) letter.2 spelled

theorem ofPlain?_infinity {sign word body : List Char} {negative : Bool} (signed : Sign sign negative)
    (known : word ∈ infinityWords) (spelled : Spells word body) :
    ofPlain? (sign ++ body) = some (.infinity negative) := by
  simp only [infinityWords, List.mem_cons, List.not_mem_nil, or_false] at known
  rcases known with rfl | rfl
  all_goals
    simp only [ofPlain?, splitSign_word signed (by decide) spelled]
    rw [Spells] at spelled
    simp [spelled]

theorem ofPlain?_nan {sign body : List Char} {negative : Bool} (signed : Sign sign negative)
    (spelled : Spells nanWord body) : ofPlain? (sign ++ body) = some .nan := by
  simp only [ofPlain?, splitSign_word signed (by decide) spelled]
  rw [Spells] at spelled
  simp [spelled, nanWord]

theorem denotes_of_ofPlain? {text : List Char} {x : Binary64} (read : ofPlain? text = some x) :
    (∃ sign body negative, Sign sign negative ∧ text = sign ++ body ∧
      ∃ word ∈ nanWord :: infinityWords, Spells word body) ∨ ∃ negative magnitude, Denotes text negative magnitude := by
  obtain ⟨sign, signed, same⟩ := splitSign_sign text
  simp only [ofPlain?] at read
  split at read
  next infinite =>
    rcases infinite with spelled | spelled
    all_goals exact Or.inl ⟨sign, _, _, signed, same, _, by simp [infinityWords], spelled⟩
  next =>
    split at read
    next => exact Or.inl ⟨sign, _, _, signed, same, nanWord, by simp, by assumption⟩
    next =>
      obtain ⟨d, decimal, -⟩ := Option.map_eq_some_iff.mp read
      rw [same]
      exact Or.inr ⟨_, _, .signed signed (magnitude_of_decimal? decimal)⟩

end TabularQuery.Literal
