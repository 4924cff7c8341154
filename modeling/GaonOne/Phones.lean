import GaonOne.Models
import GaonOne.Library.Text
import GaonOne.Library.UnitOfWork
import Mathlib.Data.List.Nodup

/-! Phone identities. A number is kept in one form, so that an account is found again however
its owner types it. Stored numbers were brought to that form once, by a copy of the rule that
no later change reaches. -/
namespace GaonOne
open UnitOfWork
open Text (decimalZeros isDecimal isSpace strip)

/-! ## Phones -/

/-- A leading `+`, and then a leading `91` of twelve characters, are dropped. -/
def localDigits (digits : List Char) : List Char :=
  let digits := if digits.head? = some '+' then digits.drop 1 else digits
  if digits.length = 12 ∧ digits.take 2 = ['9', '1'] then digits.drop 2 else digits

/-- `re.fullmatch(r"[6-9]\d{9}", digits)`. -/
def isMobile : List Char → Bool
  | [] => false
  | first :: rest => decide ('6' ≤ first ∧ first ≤ '9') && rest.length == 9 && rest.all isDecimal

/-- `normalize_indian_phone`, where it does not raise. -/
def normalizeIndianPhone (value : String) : Option String :=
  let digits := localDigits ((strip value).toList.filter fun c =>
    !(isSpace c || c == '(' || c == ')' || c == '-'))
  if isMobile digits then some (String.ofList ('+' :: '9' :: '1' :: digits)) else none

/-- The one form of an Indian mobile number. -/
def CanonicalPhone (phone : String) : Prop :=
  ∃ digits, isMobile digits = true ∧ phone = String.ofList ('+' :: '9' :: '1' :: digits)

theorem normalizeIndianPhone_canonical (given : normalizeIndianPhone value = some phone) :
    CanonicalPhone phone := by
  unfold normalizeIndianPhone at given
  dsimp only at given
  split at given
  · next mobile => exact ⟨_, mobile, (Option.some.inj given).symm⟩
  · cases given

/-- `_normalize_phone` of the migration, where it does not raise. -/
def frozenNormalizePhone (value : String) : Option String :=
  let digits := (strip value).toList.filter fun c =>
    !(isSpace c || c == '(' || c == ')' || c == '-')
  let digits := if digits.head? = some '+' then digits.drop 1 else digits
  let digits := if digits.length = 12 ∧ digits.take 2 = ['9', '1'] then digits.drop 2 else digits
  if isMobile digits then some (String.ofList ('+' :: '9' :: '1' :: digits)) else none

/-- The numbers the migration writes, or the reason why it refuses. -/
def phoneUpdates (rows : List (UUID × String)) : Except String (List (UUID × String)) := do
  let updates ← rows.mapM fun row =>
    match frozenNormalizePhone row.2 with
    | some phone => pure (row.1, phone)
    | none => throw "A user has a non-canonicalizable phone; resolve it before migration"
  if updates.any fun update => 1 < updates.countP (·.2 = update.2) then
    throw "Phone normalization would collide accounts; resolve duplicates without merging before migration"
  pure updates

/-- The copy has not drifted. -/
theorem frozenNormalizePhone_eq (value : String) :
    frozenNormalizePhone value = normalizeIndianPhone value := rfl

theorem mapM_ok {α β ε : Type} {f : α → Except ε β} {rows : List α} {updates : List β}
    (mapped : rows.mapM f = .ok updates) :
    ∀ update ∈ updates, ∃ row ∈ rows, f row = .ok update := by
  induction rows generalizing updates with
  | nil =>
    cases mapped
    exact List.forall_mem_nil _
  | cons row rows ih =>
    rw [List.mapM_cons, bind_ok] at mapped
    obtain ⟨first, given, mapped⟩ := mapped
    rw [bind_ok] at mapped
    obtain ⟨others, later, same⟩ := mapped
    cases same
    rw [List.forall_mem_cons]
    constructor
    · exact ⟨row, List.mem_cons_self, given⟩
    · intro update member
      obtain ⟨origin, inside, made⟩ := ih later update member
      exact ⟨origin, List.mem_cons_of_mem _ inside, made⟩

/-- A migration that goes through leaves no two accounts one number. -/
theorem phoneUpdates_ok (migrated : phoneUpdates rows = .ok updates) :
    (updates.map (·.2)).Nodup ∧ ∀ update ∈ updates, ∃ row ∈ rows,
      row.1 = update.1 ∧ normalizeIndianPhone row.2 = some update.2 := by
  unfold phoneUpdates at migrated
  rw [bind_ok] at migrated
  obtain ⟨found, mapped, migrated⟩ := migrated
  split at migrated
  · cases migrated
  · next apart =>
    cases migrated
    constructor
    · rw [List.nodup_iff_count_le_one]
      intro phone
      by_cases member : phone ∈ updates.map (·.2)
      · obtain ⟨update, inside, rfl⟩ := List.mem_map.mp member
        have single : ¬1 < updates.countP (·.2 = update.2) := by
          intro twice
          exact apart (List.any_eq_true.mpr ⟨update, inside, decide_eq_true twice⟩)
        rw [List.count, List.countP_map]
        simpa [Function.comp_def, beq_eq_decide] using single
      · rw [List.count_eq_zero.mpr member]
        exact Nat.zero_le _
    · intro update member
      obtain ⟨row, inside, made⟩ := mapM_ok mapped update member
      refine ⟨row, inside, ?_⟩
      cases normal : frozenNormalizePhone row.2 with
      | none =>
        rw [normal] at made
        cases made
      | some phone =>
        rw [normal] at made
        cases made
        exact ⟨rfl, normal⟩

/-! ## What is written around a number -/

/-- A text without what numbers are spaced out with. -/
def bare (value : String) : List Char :=
  value.toList.filter fun c => !(isSpace c || c == '(' || c == ')' || c == '-')

/-- The number that a decimal digit of any script stands for. -/
def digitValue (c : Char) : Option Nat :=
  (decimalZeros.find? fun first => first ≤ c.toNat && c.toNat ≤ first + 9).map (c.toNat - ·)

/-- The last ten digits written in a text. -/
def nationalDigits (value : String) : List Nat :=
  let digits := value.toList.filterMap digitValue
  digits.drop (digits.length - 10)

/-- The texts that may stand before the ten digits. -/
def countrySpellings : List (List Char) := [[], ['+'], ['9', '1'], ['+', '9', '1']]

theorem filter_strip {p : Char → Bool} (spaces : ∀ c, isSpace c = true → p c = false) :
    (strip value).toList.filter p = value.toList.filter p := by
  have dropped : ∀ text : List Char, (text.dropWhile isSpace).filter p = text.filter p := by
    intro text
    induction text with
    | nil => rfl
    | cons c text ih =>
      by_cases space : isSpace c = true
      · rw [List.dropWhile_cons_of_pos space, ih, List.filter_cons_of_neg (by simp [spaces c space])]
      · rw [List.dropWhile_cons_of_neg space]
  rw [strip, String.toList_ofList, List.filter_reverse, dropped, ← List.filter_reverse,
    List.reverse_reverse, dropped]

theorem strip_bare (value : String) :
    ((strip value).toList.filter fun c => !(isSpace c || c == '(' || c == ')' || c == '-')) =
      bare value :=
  filter_strip fun c space => by simp [space]

/-! ## Digits -/

theorem isSpace_toNat (space : isSpace c = true) :
    c.toNat ∈ [9, 10, 11, 12, 13, 28, 29, 30, 31, 32, 133, 160, 0x1680, 0x2000, 0x2001, 0x2002, 0x2003,
      0x2004, 0x2005, 0x2006, 0x2007, 0x2008, 0x2009, 0x200a, 0x2028, 0x2029, 0x202f, 0x205f, 0x3000] := by
  simp only [isSpace, Bool.or_eq_true, Bool.and_eq_true, decide_eq_true_eq, List.contains_eq_mem,
    List.mem_cons, List.not_mem_nil, or_false] at space
  simp only [List.mem_cons, List.not_mem_nil, or_false]
  omega

/-- What is written between digits is no digit. -/
theorem digitValue_separator
    (separator : (isSpace c || c == '(' || c == ')' || c == '-') = true) : digitValue c = none := by
  have outside : ∀ n ∈ [9, 10, 11, 12, 13, 28, 29, 30, 31, 32, 133, 160, 0x1680, 0x2000, 0x2001, 0x2002,
      0x2003, 0x2004, 0x2005, 0x2006, 0x2007, 0x2008, 0x2009, 0x200a, 0x2028, 0x2029, 0x202f, 0x205f,
      0x3000], decimalZeros.find? (fun first => first ≤ n && n ≤ first + 9) = none := by decide
  simp only [Bool.or_eq_true, beq_iff_eq] at separator
  rcases separator with ((space | rfl) | rfl) | rfl
  · rw [digitValue, outside _ (isSpace_toNat space), Option.map_none]
  · decide
  · decide
  · decide

theorem isDecimal_iff : isDecimal c = true ↔ ∃ n, digitValue c = some n := by
  rw [← Option.isSome_iff_exists, digitValue, Option.isSome_map, List.isSome_find?, isDecimal]

theorem digitValue_ascii (low : '0' ≤ c) (high : c ≤ '9') : digitValue c = some (c.toNat - 48) := by
  have least : 48 ≤ c.toNat := low
  have most : c.toNat ≤ 57 := high
  have latin : decimalZeros = 48 :: decimalZeros.tail := rfl
  rw [digitValue, latin, List.find?_cons_of_pos, Option.map_some]
  simp only [Bool.and_eq_true, decide_eq_true_eq]
  omega

/-- No digit is lost when a number is laid bare. -/
theorem digits_bare (value : String) : value.toList.filterMap digitValue = (bare value).filterMap digitValue := by
  rw [bare]
  induction value.toList with
  | nil => rfl
  | cons c text ih =>
    by_cases separator : (isSpace c || c == '(' || c == ')' || c == '-') = true
    · rw [List.filterMap_cons_none (digitValue_separator separator), ih,
        List.filter_cons_of_neg (by simp [separator])]
    · rw [List.filter_cons_of_pos (by simpa using separator)]
      cases known : digitValue c with
      | none => rw [List.filterMap_cons_none known, List.filterMap_cons_none known, ih]
      | some n => rw [List.filterMap_cons_some known, List.filterMap_cons_some known, ih]

/-! ## What is accepted -/

theorem isMobile_length (mobile : isMobile digits = true) : digits.length = 10 := by
  cases digits with
  | nil => cases mobile
  | cons first rest =>
    simp only [isMobile, Bool.and_eq_true, beq_iff_eq] at mobile
    simp [mobile.1.2]

theorem isMobile_head (mobile : isMobile digits = true) :
    ∃ first rest, digits = first :: rest ∧ '6' ≤ first ∧ first ≤ '9' := by
  cases digits with
  | nil => cases mobile
  | cons first rest =>
    simp only [isMobile, Bool.and_eq_true, decide_eq_true_eq] at mobile
    exact ⟨first, rest, rfl, mobile.1.1⟩

theorem isMobile_decimal (mobile : isMobile digits = true) : ∀ c ∈ digits, isDecimal c = true := by
  cases digits with
  | nil => exact List.forall_mem_nil _
  | cons first rest =>
    simp only [isMobile, Bool.and_eq_true, decide_eq_true_eq, List.all_eq_true] at mobile
    obtain ⟨⟨⟨low, high⟩, -⟩, others⟩ := mobile
    have digit := digitValue_ascii (Char.le_trans (by decide : '0' ≤ '6') low) high
    exact List.forall_mem_cons.mpr ⟨isDecimal_iff.mpr ⟨_, digit⟩, others⟩

/-- A leading plus and a leading country code are read off, and nothing else. -/
theorem localDigits_iff (mobile : isMobile national = true) :
    localDigits text = national ↔ ∃ country ∈ countrySpellings, text = country ++ national := by
  have size := isMobile_length mobile
  obtain ⟨first, rest, shape, low, high⟩ := isMobile_head mobile
  have unsigned : national.head? ≠ some '+' := by
    rw [shape]
    rintro ⟨⟩
    exact absurd low (by decide)
  constructor
  · intro read
    have signed : ∃ sign ∈ [[], ['+']], ∃ digits, text = sign ++ digits ∧
        localDigits text = if digits.length = 12 ∧ digits.take 2 = ['9', '1'] then digits.drop 2 else digits := by
      by_cases plus : text.head? = some '+'
      · obtain ⟨digits, rfl⟩ := List.head?_eq_some_iff.mp plus
        exact ⟨['+'], by simp, digits, rfl, by simp [localDigits]⟩
      · exact ⟨[], by simp, text, rfl, by simp only [localDigits, if_neg plus]⟩
    obtain ⟨sign, spelled, digits, rfl, rest⟩ := signed
    rw [rest] at read
    by_cases country : digits.length = 12 ∧ digits.take 2 = ['9', '1']
    · rw [if_pos country] at read
      refine ⟨sign ++ ['9', '1'], ?_, ?_⟩
      · rcases List.mem_pair.mp spelled with rfl | rfl <;> simp [countrySpellings]
      · rw [← read, ← country.2, List.append_assoc, List.take_append_drop]
    · rw [if_neg country] at read
      refine ⟨sign, ?_, by rw [read]⟩
      rcases List.mem_pair.mp spelled with rfl | rfl <;> simp [countrySpellings]
  · rintro ⟨country, spelled, rfl⟩
    simp only [countrySpellings, List.mem_cons, List.not_mem_nil, or_false] at spelled
    rcases spelled with rfl | rfl | rfl | rfl
    · simp [localDigits, unsigned, size]
    · simp [localDigits, size]
    · simp [localDigits, size]
    · simp [localDigits, size]

/-- A text is accepted for the ten digits it ends in, after one of the spellings of the country. -/
theorem normalizeIndianPhone_iff : normalizeIndianPhone value = some phone ↔
    ∃ country ∈ countrySpellings, ∃ national, bare value = country ++ national ∧
      isMobile national = true ∧ phone = String.ofList ('+' :: '9' :: '1' :: national) := by
  unfold normalizeIndianPhone
  rw [strip_bare]
  constructor
  · intro given
    dsimp only at given
    split at given
    · next mobile =>
      obtain ⟨country, spelled, same⟩ := (localDigits_iff mobile).mp rfl
      exact ⟨country, spelled, _, same, mobile, (Option.some.inj given).symm⟩
    · cases given
  · rintro ⟨country, spelled, national, same, mobile, rfl⟩
    have read := (localDigits_iff mobile).mpr ⟨country, spelled, same⟩
    simp only [read, mobile, if_true]

/-! ## Sound spellings -/

/-- What canonicalisation promises of one text: ten ASCII digits behind the country code, the
same when it is done again, no country code made up behind a plus, and no drift in the copy. -/
structure Canonicalised (value : String) : Prop where
  shape : ∀ phone, normalizeIndianPhone value = some phone → ∃ digits : List Char,
    phone = String.ofList ('+' :: '9' :: '1' :: digits) ∧ digits.length = 10 ∧
      (∀ c ∈ digits, '0' ≤ c ∧ c ≤ '9') ∧ ∀ first ∈ digits.head?, '6' ≤ first ∧ first ≤ '9'
  again : ∀ phone, normalizeIndianPhone value = some phone → normalizeIndianPhone phone = some phone
  country : '+' ∈ value.toList → ∀ phone, normalizeIndianPhone value = some phone →
    ∃ digits : List Char, bare value = '+' :: '9' :: '1' :: digits ∧ digits.length = 10 ∧
      ∀ c ∈ digits, '0' ≤ c ∧ c ≤ '9'
  frozen : frozenNormalizePhone value = normalizeIndianPhone value

/-- Two accepted texts name one account exactly when they have the same ten digits. -/
def OneIdentity (value other : String) : Prop :=
  ∀ phone phone', normalizeIndianPhone value = some phone → normalizeIndianPhone other = some phone' →
    (phone = phone' ↔ nationalDigits value = nationalDigits other)

/-- Ten digits behind a plus, and no country code. -/
def WithoutCountry (value : String) : Prop :=
  ∃ national, isMobile national = true ∧ bare value = '+' :: national

/-- Ten digits of a mobile number, one of them of another script. -/
def OtherScript (value : String) : Prop :=
  ∃ country ∈ countrySpellings, ∃ national, isMobile national = true ∧ bare value = country ++ national ∧
    ∃ c ∈ national, ¬('0' ≤ c ∧ c ≤ '9')

theorem bare_canonical (mobile : isMobile national = true) :
    bare (String.ofList ('+' :: '9' :: '1' :: national)) = '+' :: '9' :: '1' :: national := by
  rw [bare, String.toList_ofList, List.filter_eq_self]
  intro c member
  have digit : c ≠ '+' → ∃ n, digitValue c = some n := by
    intro unsigned
    simp only [List.mem_cons, unsigned, false_or] at member
    rcases member with rfl | rfl | member
    · exact ⟨_, digitValue_ascii (by decide) (by decide)⟩
    · exact ⟨_, digitValue_ascii (by decide) (by decide)⟩
    · exact isDecimal_iff.mp (isMobile_decimal mobile c member)
  by_cases plus : c = '+'
  · subst plus
    decide
  · obtain ⟨n, known⟩ := digit plus
    by_contra separator
    rw [Bool.not_eq_true, Bool.not_eq_false'] at separator
    rw [digitValue_separator separator] at known
    cases known

/-- A canonical number is left as it is. -/
theorem normalizeIndianPhone_again (given : normalizeIndianPhone value = some phone) :
    normalizeIndianPhone phone = some phone := by
  obtain ⟨-, -, national, -, mobile, rfl⟩ := normalizeIndianPhone_iff.mp given
  refine normalizeIndianPhone_iff.mpr ⟨['+', '9', '1'], by simp [countrySpellings], national, ?_, mobile, rfl⟩
  exact bare_canonical mobile

/-- The digits a text ends in are those of its number. -/
theorem nationalDigits_eq (written : bare value = country ++ national)
    (mobile : isMobile national = true) (latin : ∀ c ∈ national, '0' ≤ c ∧ c ≤ '9') :
    nationalDigits value = national.map fun c => c.toNat - 48 := by
  have values : national.filterMap digitValue = national.map fun c => c.toNat - 48 := by
    rw [← List.filterMap_eq_map]
    apply List.filterMap_congr
    intro c member
    exact digitValue_ascii (latin c member).1 (latin c member).2
  rw [nationalDigits, digits_bare, written, List.filterMap_append, values]
  have size : (national.map fun c => c.toNat - 48).length = 10 := by
    rw [List.length_map, isMobile_length mobile]
  rw [List.drop_append_of_le_length (by rw [List.length_append]; omega), List.length_append, size,
    Nat.add_sub_cancel, List.drop_length, List.nil_append]

theorem digits_injective {digits other : List Char} (latin : ∀ c ∈ digits, '0' ≤ c ∧ c ≤ '9')
    (latin' : ∀ c ∈ other, '0' ≤ c ∧ c ≤ '9')
    (same : (digits.map fun c => c.toNat - 48) = other.map fun c => c.toNat - 48) : digits = other := by
  induction digits generalizing other with
  | nil =>
    cases other with
    | nil => rfl
    | cons c other => cases same
  | cons c digits ih =>
    cases other with
    | nil => cases same
    | cons d other =>
      simp only [List.map_cons, List.cons.injEq] at same
      have low : 48 ≤ c.toNat := (latin c List.mem_cons_self).1
      have low' : 48 ≤ d.toNat := (latin' d List.mem_cons_self).1
      have equal : c = d := Char.toNat_inj.mp (by omega)
      rw [equal, ih (fun c member => latin c (List.mem_cons_of_mem _ member))
        (fun c member => latin' c (List.mem_cons_of_mem _ member)) same.2]

theorem canonicalised_iff : Canonicalised value ↔ ¬WithoutCountry value ∧ ¬OtherScript value := by
  constructor
  · intro sound
    constructor
    · rintro ⟨national, mobile, written⟩
      have signed : '+' ∈ value.toList := by
        have first : '+' ∈ bare value := by rw [written]; exact List.mem_cons_self
        exact (List.mem_filter.mp first).1
      have accepted := normalizeIndianPhone_iff.mpr
        ⟨['+'], by simp [countrySpellings], national, written, mobile, rfl⟩
      obtain ⟨digits, coded, size, -⟩ := sound.country signed _ accepted
      have length := congrArg List.length (written.symm.trans coded)
      have short := isMobile_length mobile
      simp only [List.length_cons] at length
      omega
    · rintro ⟨country, spelled, national, mobile, written, c, member, foreign⟩
      have accepted := normalizeIndianPhone_iff.mpr ⟨country, spelled, national, written, mobile, rfl⟩
      obtain ⟨digits, same, -, latin, -⟩ := sound.shape _ accepted
      simp only [String.ofList_inj, List.cons.injEq, true_and] at same
      exact foreign (latin c (same ▸ member))
  · rintro ⟨coded, latin⟩
    have ascii : ∀ {country national}, country ∈ countrySpellings → bare value = country ++ national →
        isMobile national = true → ∀ c ∈ national, '0' ≤ c ∧ c ≤ '9' := by
      intro country national spelled written mobile c member
      by_contra foreign
      exact latin ⟨country, spelled, national, mobile, written, c, member, foreign⟩
    refine ⟨?_, fun phone => normalizeIndianPhone_again, ?_, frozenNormalizePhone_eq value⟩
    · intro phone given
      obtain ⟨country, spelled, national, written, mobile, rfl⟩ := normalizeIndianPhone_iff.mp given
      refine ⟨national, rfl, isMobile_length mobile, ascii spelled written mobile, ?_⟩
      obtain ⟨first, rest, rfl, range⟩ := isMobile_head mobile
      rintro _ ⟨⟩
      exact range
    · intro signed phone given
      obtain ⟨country, spelled, national, written, mobile, rfl⟩ := normalizeIndianPhone_iff.mp given
      have digits := ascii spelled written mobile
      have kept : '+' ∈ country ++ national := by
        rw [← written]
        exact List.mem_filter.mpr ⟨signed, by decide⟩
      have unsigned : '+' ∉ national := fun member => absurd (digits '+' member) (by decide)
      simp only [countrySpellings, List.mem_cons, List.not_mem_nil, or_false] at spelled
      rcases spelled with rfl | rfl | rfl | rfl
      · exact absurd kept unsigned
      · exact absurd ⟨national, mobile, written⟩ coded
      · simp [unsigned] at kept
      · exact ⟨national, written, isMobile_length mobile, digits⟩

theorem oneIdentity (first : Canonicalised value) (second : Canonicalised other) : OneIdentity value other := by
  intro phone phone' given given'
  obtain ⟨country, spelled, national, written, mobile, rfl⟩ := normalizeIndianPhone_iff.mp given
  obtain ⟨country', spelled', national', written', mobile', rfl⟩ := normalizeIndianPhone_iff.mp given'
  obtain ⟨digits, same, -, latin, -⟩ := first.shape _ given
  obtain ⟨digits', same', -, latin', -⟩ := second.shape _ given'
  simp only [String.ofList_inj, List.cons.injEq, true_and] at same same' ⊢
  subst same same'
  rw [nationalDigits_eq written mobile latin, nationalDigits_eq written' mobile' latin']
  constructor
  · rintro rfl
    rfl
  · exact digits_injective latin latin'

/-- Canonicalisation is sound for two texts exactly when neither is ten digits behind a bare plus
and neither has a digit of another script. -/
theorem phone_canonicalisation_sound (value other : String) :
    (Canonicalised value ∧ Canonicalised other ∧ OneIdentity value other) ↔
      (¬WithoutCountry value ∧ ¬OtherScript value) ∧ ¬WithoutCountry other ∧ ¬OtherScript other := by
  rw [← canonicalised_iff, ← canonicalised_iff]
  constructor
  · rintro ⟨first, second, -⟩
    exact ⟨first, second⟩
  · rintro ⟨first, second⟩
    exact ⟨first, second, oneIdentity first second⟩

/-- `+98` is the code of another country, and a Devanagari zero is kept beside its ASCII twin. -/
theorem phone_canonicalisation_unsound :
    ¬Canonicalised "+9876543210" ∧ ¬Canonicalised "987654321\u0966" := by
  constructor
  · intro sound
    exact (canonicalised_iff.mp sound).1 ⟨"9876543210".toList, by decide +kernel, by decide +kernel⟩
  · intro sound
    refine (canonicalised_iff.mp sound).2 ⟨[], by decide, "987654321\u0966".toList, by decide +kernel,
      by decide +kernel, '\u0966', by decide +kernel, by decide⟩

end GaonOne
