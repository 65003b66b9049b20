import StorageMetrics.Decimal.Layout
import StorageMetrics.Decimal.Numeral
import Mathlib.Data.List.Basic

/-
  Numerals that are written are read. A run of ASCII digits is read up to what cannot go on with it
  (`digits_append`). So an integer reads back as itself if it has no more digits than are read
  (`readInt_toString`), and the text of a finite float, in every layout, reads as some float
  (`readFloat?_text`): a sign, digits, and after them a point with digits, an exponent, or both.
-/

namespace StorageMetrics.Decimal

/-! ## Digits -/

/-- ASCII digits only, one at least. -/
structure IsRun (cs : List Char) : Prop where
  some_ : cs ≠ []
  all : ∀ c ∈ cs, c.isDigit = true

theorem toNat_of_isDigit {c : Char} (digit : c.isDigit = true) : 48 ≤ c.toNat ∧ c.toNat ≤ 57 := by
  simpa [Char.isDigit, UInt32.le_iff_toNat_le] using digit

theorem asciiDigit?_of_isDigit {c : Char} (digit : c.isDigit = true) :
    asciiDigit? c = some (c.toNat - 48) := if_pos (toNat_of_isDigit digit)

theorem isRun_toDigits (n : Nat) : IsRun (Nat.toDigits 10 n) :=
  ⟨Nat.toDigits_ne_nil, fun _ mem => Nat.isDigit_of_mem_toDigits (by decide) (by decide) mem⟩

/-- No run of digits goes on here. -/
def EndsRun (cs : List Char) : Prop := ∀ c ∈ cs.head?, asciiDigit? c = none ∧ c ≠ '_'

theorem endsRun_nil : EndsRun [] := nofun

theorem digitRun_of_ends {rest : List Char} (ends : EndsRun rest) : digitRun rest = ([], rest) := by
  cases rest with
  | nil => rfl
  | cons c rest =>
    obtain ⟨none_, other⟩ := ends c rfl
    simp [digitRun, none_, other]

theorem digitRun_append {cs rest : List Char} (all : ∀ c ∈ cs, c.isDigit = true)
    (ends : EndsRun rest) : digitRun (cs ++ rest) = (cs.map (·.toNat - 48), rest) := by
  induction cs with
  | nil => exact digitRun_of_ends ends
  | cons c cs ih =>
    have later := ih fun c mem => all c (List.mem_cons_of_mem _ mem)
    have first := asciiDigit?_of_isDigit (all c List.mem_cons_self)
    simp [digitRun, first, later]

/-- A run of digits is read to its end. -/
theorem IsRun.digits_append {cs rest : List Char} (run : IsRun cs) (ends : EndsRun rest) :
    digits (cs ++ rest) = (cs.map (·.toNat - 48), rest) := by
  obtain ⟨c, others, rfl⟩ := List.exists_cons_of_ne_nil run.some_
  have starts : startsWithDigit (c :: others ++ rest) = true := by
    simp [startsWithDigit, asciiDigit?_of_isDigit (run.all c List.mem_cons_self)]
  rw [digits, if_pos starts, digitRun_append run.all ends]

/-- The digits of a number stand for it. -/
theorem ofDigits_toDigits (n : Nat) : ofDigits ((Nat.toDigits 10 n).map (·.toNat - 48)) = n := by
  have value : Nat.ofDigitChars 10 (Nat.toDigits 10 n) 0 = n :=
    Nat.ofDigitChars_toDigits (by decide) (by decide)
  rw [Nat.ofDigitChars] at value
  rw [ofDigits, List.foldl_map]
  simpa [Nat.mul_comm] using value

/-! ## Plain characters -/

/-- ASCII, and neither a blank nor a control. -/
def IsVisible (c : Char) : Prop := 33 ≤ c.toNat ∧ c.toNat < 127

theorem dropWhile_isSurround {cs : List Char} (visible : ∀ c ∈ cs, IsVisible c) :
    cs.dropWhile isSurround = cs := by
  cases cs with
  | nil => rfl
  | cons c cs =>
    have range : 33 ≤ c.toNat := (visible c List.mem_cons_self).1
    have blank : c ≠ ' ' := by
      rintro rfl
      exact absurd range (by decide)
    have inner : isSurround c = false := by
      simp only [isSurround, blank, decide_false, Bool.false_or]
      simp
      omega
    rw [List.dropWhile_cons_of_neg (by simp [inner])]

/-- Visible characters stand for themselves in a numeral. -/
theorem bare_of_visible {s : String} (visible : ∀ c ∈ s.toList, IsVisible c) :
    bare s = s.toList := by
  have plain : s.toList.map plainChar = s.toList :=
    (List.map_congr_left fun c mem => if_pos (visible c mem).2).trans (List.map_id _)
  unfold bare
  dsimp only
  rw [plain, dropWhile_isSurround visible, dropWhile_isSurround fun c mem =>
    visible c (List.mem_reverse.mp mem), List.reverse_reverse]

theorem isVisible_of_isDigit {c : Char} (digit : c.isDigit = true) : IsVisible c := by
  have range := toNat_of_isDigit digit
  exact ⟨by omega, by omega⟩

/-- A digit is no sign. -/
theorem sign_of_isRun {cs : List Char} (run : IsRun cs) (rest : List Char) :
    sign (cs ++ rest) = (false, cs ++ rest) := by
  obtain ⟨c, others, rfl⟩ := List.exists_cons_of_ne_nil run.some_
  have digit := run.all c List.mem_cons_self
  unfold sign
  split
  case h_1 same =>
    obtain rfl := (List.cons.inj same).1
    exact absurd digit (by decide)
  case h_2 same =>
    obtain rfl := (List.cons.inj same).1
    exact absurd digit (by decide)
  case h_3 => rfl

/-! ## Integers -/

/-- The characters of an integer: its digits, behind a minus where it is below zero. -/
theorem toList_toString (n : Int) :
    (toString n).toList = (if n < 0 then ['-'] else []) ++ Nat.toDigits 10 n.natAbs := by
  rw [Int.toString_eq_repr, Int.repr_eq_if]
  by_cases negative : n < 0
  · rw [if_neg (Int.not_le.mpr negative), if_pos negative, Nat.repr_eq_ofList_toDigits,
      show (-n).toNat = n.natAbs by omega, String.toList_append, String.toList_ofList,
      String.toList_ofList]
  · rw [if_pos (Int.not_lt.mp negative), if_neg negative, Nat.repr_eq_ofList_toDigits,
      String.toList_ofList, show n.toNat = n.natAbs by omega, List.nil_append]

/-- A minus before a run of digits, or the run alone. -/
theorem sign_minus {cs : List Char} (run : IsRun cs) (rest : List Char) (negative : Bool) :
    sign ((if negative then ['-'] else []) ++ (cs ++ rest)) = (negative, cs ++ rest) := by
  cases negative with
  | true => rfl
  | false => exact sign_of_isRun run rest

theorem isVisible_toString (n : Int) : ∀ c ∈ (toString n).toList, IsVisible c := by
  intro c mem
  rw [toList_toString] at mem
  obtain minus | digit := List.mem_append.mp mem
  · split at minus
    · rw [List.mem_singleton.mp minus]
      exact ⟨by decide, by decide⟩
    · simp at minus
  · exact isVisible_of_isDigit ((isRun_toDigits _).all c digit)

theorem length_toDigits_le {n k : Nat} (some_ : 0 < k) (short : n < Nat.pow 10 k) :
    (Nat.toDigits 10 n).length ≤ k := (Nat.length_toDigits_le_iff (by decide) some_).mpr short

/-- An integer that can be written out reads back as itself. -/
theorem readInt_toString {n : Int} (short : n.natAbs < Nat.pow 10 digitLimit) :
    readInt (toString n) = .ok n := by
  have run := isRun_toDigits n.natAbs
  have signed := sign_minus run [] (decide (n < 0))
  have read := run.digits_append endsRun_nil
  have count := length_toDigits_le (by decide) short
  simp only [List.append_nil, decide_eq_true_eq] at signed read
  unfold readInt
  rw [bare_of_visible (isVisible_toString n), toList_toString, signed]
  dsimp only
  rw [read]
  have value : (if n < 0 then -(n.natAbs : Int) else n.natAbs) = n := by
    clear short
    omega
  simpa [run.some_, ofDigits_toDigits, Nat.not_lt.mpr count] using value

/-! ## Floats -/

/-- A point with digits, or nothing. -/
inductive IsPart : List Char → Prop
  | absent : IsPart []
  | digits {ds : List Char} (run : IsRun ds) : IsPart ('.' :: ds)

/-- An exponent with its sign, or nothing. -/
inductive IsExponent : List Char → Prop
  | absent : IsExponent []
  | digits {negative : Bool} {ds : List Char} (run : IsRun ds) :
      IsExponent ('e' :: (if negative then '-' else '+') :: ds)

/-- The text of a finite float without its sign: digits, and a point or an exponent after them. -/
inductive IsMagnitude : List Char → Prop
  | mk {whole part exponent : List Char} (run : IsRun whole) (pointed : IsPart part)
      (scaled : IsExponent exponent) (marked : part ≠ [] ∨ exponent ≠ []) :
      IsMagnitude (whole ++ (part ++ exponent))

/-- An exponent ends a run of digits, does not begin with a point, and is read to its end. -/
theorem IsExponent.read {exponent : List Char} (scaled : IsExponent exponent) :
    EndsRun exponent ∧ exponent.head? ≠ some '.' ∧ ∃ e, exponentPart exponent = some (e, []) := by
  cases scaled with
  | absent => exact ⟨endsRun_nil, nofun, _, rfl⟩
  | @digits negative ds run =>
    have digits := run.digits_append endsRun_nil
    rw [List.append_nil] at digits
    obtain ⟨c, others, rfl⟩ := List.exists_cons_of_ne_nil run.some_
    refine ⟨by simp [EndsRun, asciiDigit?], by simp, ?_⟩
    cases negative <;> simp [exponentPart, sign, digits]

/-- A part ends a run of digits and is read up to the exponent. -/
theorem IsPart.read {part exponent : List Char} (pointed : IsPart part)
    (ends : EndsRun exponent) (other : exponent.head? ≠ some '.') :
    EndsRun (part ++ exponent) ∧ ∃ ds, fractionPart (part ++ exponent) = (ds, exponent) := by
  cases pointed with
  | absent =>
    refine ⟨ends, [], ?_⟩
    cases exponent with
    | nil => rfl
    | cons c rest =>
      unfold fractionPart
      split
      case h_1 same => exact absurd (congrArg List.head? same) other
      case h_2 => rfl
  | digits run => exact ⟨by simp [EndsRun, asciiDigit?], _, run.digits_append ends⟩

/-- A text that begins with a digit is none of the words for what is not finite. -/
theorem IsRun.lower_ne {cs : List Char} (run : IsRun cs) (rest : List Char) {word : String}
    (letter : ∃ c ∈ word.toList.head?, c.isDigit = false) :
    String.ofList ((cs ++ rest).map Char.toLower) ≠ word := by
  rintro rfl
  obtain ⟨first, others, rfl⟩ := List.exists_cons_of_ne_nil run.some_
  obtain ⟨c, head, other⟩ := letter
  have digit := run.all first List.mem_cons_self
  have range := toNat_of_isDigit digit
  have lower : first.toLower = first := by
    refine dif_neg fun upper => ?_
    have capital : 65 ≤ first.toNat := UInt32.le_iff_toNat_le.mp upper.1
    omega
  rw [String.toList_ofList, List.cons_append, List.map_cons, List.head?_cons, lower] at head
  rw [Option.mem_some.mp head] at digit
  exact absurd digit (by simp [other])

theorem readMagnitude_isSome {cs : List Char} (magnitude : IsMagnitude cs) :
    (readMagnitude cs).isSome := by
  cases magnitude with
  | @mk whole part exponent run pointed scaled marked =>
    obtain ⟨ends, other, e, scale⟩ := scaled.read
    obtain ⟨ends, ds, fraction⟩ := pointed.read ends other
    have digits := run.digits_append ends
    unfold readMagnitude
    split
    case h_1 same => exact absurd same (run.lower_ne _ ⟨'i', rfl, rfl⟩)
    case h_2 same => exact absurd same (run.lower_ne _ ⟨'i', rfl, rfl⟩)
    case h_3 same => exact absurd same (run.lower_ne _ ⟨'n', rfl, rfl⟩)
    case h_4 => simp [digits, fraction, run.some_, scale]

/-! ## What layouts write -/

theorem IsRun.append_right {cs ds : List Char} (all : ∀ c ∈ cs, c.isDigit = true) (run : IsRun ds) :
    IsRun (cs ++ ds) :=
  ⟨by simp [run.some_], fun c mem => (List.mem_append.mp mem).elim (all c) (run.all c)⟩

theorem isDigit_of_mem_zeros {n : Nat} {c : Char} (mem : c ∈ List.replicate n '0') :
    c.isDigit = true := by
  rw [List.eq_of_mem_replicate mem]
  rfl

theorem isRun_zero : IsRun ['0'] := ⟨nofun, fun _ mem => List.mem_singleton.mp mem ▸ rfl⟩

/-- The digits of an exponent, two at least. -/
theorem isExponent_exponentText (e : Int) : IsExponent ('e' :: (exponentText e).toList) := by
  have run : IsRun (toString e.natAbs).toList := by
    rw [Nat.toString_eq_ofList_toDigits, String.toList_ofList]
    exact isRun_toDigits _
  have padded : IsRun (if (toString e.natAbs).length < 2 then "0" ++ toString e.natAbs
      else toString e.natAbs).toList := by
    split
    · rw [String.toList_append]
      exact .append_right isRun_zero.all run
    · exact run
  have text : (exponentText e).toList = (if decide (e < 0) = true then '-' else '+') ::
      (if (toString e.natAbs).length < 2 then "0" ++ toString e.natAbs
        else toString e.natAbs).toList := by
    unfold exponentText
    by_cases below : e < 0 <;> simp [below]
  rw [text]
  exact .digits padded

theorem isMagnitude_scientific {digits : List Char} (run : IsRun digits) (e : Int) :
    IsMagnitude (scientific digits e).toList := by
  have scaled := isExponent_exponentText e
  match digits, run with
  | [], run => exact absurd rfl run.some_
  | [d], run =>
    have whole : (scientific [d] e).toList = [d] ++ ([] ++ 'e' :: (exponentText e).toList) := by
      simp [scientific]
    rw [whole]
    exact .mk run .absent scaled (Or.inr nofun)
  | d :: c :: rest, run =>
    have whole : (scientific (d :: c :: rest) e).toList =
        [d] ++ ('.' :: c :: rest ++ 'e' :: (exponentText e).toList) := by
      simp [scientific]
    rw [whole]
    have first : IsRun [d] :=
      ⟨nofun, fun x mem => run.all x (List.mem_singleton.mp mem ▸ List.mem_cons_self)⟩
    have others : IsRun (c :: rest) := ⟨nofun, fun x mem => run.all x (List.mem_cons_of_mem _ mem)⟩
    exact .mk first (.digits others) scaled (Or.inl nofun)

theorem isMagnitude_positional {digits : List Char} (run : IsRun digits) (e : Int) :
    IsMagnitude (positional digits e).toList := by
  unfold positional
  split
  · rw [String.toList_ofList, ← List.append_nil ('0' :: '.' :: _)]
    have part : IsRun (List.replicate (-e - 1).toNat '0' ++ digits) :=
      .append_right (fun _ => isDigit_of_mem_zeros) run
    exact IsMagnitude.mk isRun_zero (.digits part) .absent (Or.inl nofun)
  · dsimp only
    rw [String.toList_ofList]
    generalize e.toNat = k
    have padded : IsRun (digits ++ List.replicate (k + 1 - digits.length) '0') := by
      refine ⟨by simp [run.some_], fun c mem => ?_⟩
      exact (List.mem_append.mp mem).elim (run.all c) isDigit_of_mem_zeros
    -- The zeros fill up to the point, and digits that are left stand behind it, or a single zero.
    have whole : IsRun ((digits ++ List.replicate (k + 1 - digits.length) '0').take (k + 1)) :=
      ⟨by simp [run.some_], fun c mem => padded.all c (List.mem_of_mem_take mem)⟩
    have part : IsRun (if (digits.drop (k + 1)).isEmpty then ['0'] else digits.drop (k + 1)) := by
      split
      · exact isRun_zero
      · next left => exact ⟨by simpa using left, fun c mem => run.all c (List.mem_of_mem_drop mem)⟩
    rw [← List.append_nil ('.' :: _)]
    exact .mk whole (.digits part) .absent (Or.inl nofun)

/-- A float is finite where its magnitude is. -/
def IsFinite (x : Float) : Prop := ∃ units, Magnitude.ofFloat x = .finite units

/-- The text of a finite float, in any layout: a sign where its bits have one, and a magnitude. -/
theorem Layout.text_of_isFinite (l : Layout) {x : Float} (finite : IsFinite x) :
    ∃ (negative : Bool) (cs : List Char), IsMagnitude cs ∧
      (l.text x).toList = (if negative then ['-'] else []) ++ cs := by
  obtain ⟨units, finite⟩ := finite
  have zero : IsMagnitude "0.0".toList :=
    .mk isRun_zero (.digits isRun_zero) .absent (Or.inl (List.cons_ne_nil '.' ['0']))
  have magnitude : ∀ b, IsMagnitude (l.magnitude b).toList := by
    intro b
    unfold Layout.magnitude
    dsimp only
    split
    · exact isMagnitude_positional (isRun_toDigits _) _
    · exact isMagnitude_scientific (isRun_toDigits _) _
  have written : (l.text x).toList =
      (if decide (x.toBits.toNat / Nat.pow 2 63 = 1) then ['-'] else []) ++
        (if (Binary.ofFloat x).mantissa = 0 then "0.0"
          else l.magnitude (Binary.ofFloat x)).toList := by
    unfold Layout.text
    rw [finite]
    dsimp only
    simp only [decide_eq_true_eq]
    split <;> split <;> simp
  refine ⟨_, _, ?_, written⟩
  split
  · exact zero
  · exact magnitude _

/-- What the text of a finite float is made of. -/
def IsFloatPart (c : Char) : Prop := c.isDigit = true ∨ c ∈ ['.', 'e', '-', '+']

theorem IsFloatPart.isVisible {c : Char} (part : IsFloatPart c) : IsVisible c := by
  obtain digit | sign := part
  · exact isVisible_of_isDigit digit
  · simp only [List.mem_cons, List.not_mem_nil, or_false] at sign
    obtain rfl | rfl | rfl | rfl := sign <;> exact ⟨by decide, by decide⟩

theorem IsMagnitude.isFloatPart {cs : List Char} (magnitude : IsMagnitude cs) :
    ∀ c ∈ cs, IsFloatPart c := by
  have digits : ∀ {ds : List Char}, IsRun ds → ∀ c ∈ ds, IsFloatPart c :=
    fun run c mem => Or.inl (run.all c mem)
  intro c mem
  cases magnitude with
  | @mk whole part exponent run pointed scaled marked =>
    obtain inWhole | inPart | inExponent := by simpa only [List.mem_append] using mem
    · exact digits run c inWhole
    · cases pointed with
      | absent => simp at inPart
      | digits run =>
        obtain rfl | inside := List.mem_cons.mp inPart
        · exact Or.inr (by decide)
        · exact digits run c inside
    · cases scaled with
      | absent => simp at inExponent
      | @digits negative ds run =>
        obtain rfl | rfl | inside := by simpa only [List.mem_cons] using inExponent
        · exact Or.inr (by decide)
        · exact Or.inr (by cases negative <;> decide)
        · exact digits run c inside

/-- A point or an exponent tells the text of a float from that of an integer. -/
theorem IsMagnitude.marked {cs : List Char} (magnitude : IsMagnitude cs) :
    ∃ c ∈ cs, c.isDigit = false ∧ c ≠ '-' := by
  cases magnitude with
  | @mk whole part exponent run pointed scaled marked =>
    cases pointed with
    | digits => exact ⟨'.', by simp, rfl, by decide⟩
    | absent =>
      cases scaled with
      | digits => exact ⟨'e', by simp, rfl, by decide⟩
      | absent => simp at marked

/-- The text of a finite float reads as a float. -/
theorem Layout.readFloat?_text (l : Layout) {x : Float} (finite : IsFinite x) :
    ∃ y, readFloat? (l.text x) = some y := by
  obtain ⟨negative, cs, magnitude, text⟩ := l.text_of_isFinite finite
  have visible : ∀ c ∈ (l.text x).toList, IsVisible c := by
    intro c mem
    rw [text] at mem
    obtain minus | inside := List.mem_append.mp mem
    · cases negative with
      | true => exact List.mem_singleton.mp minus ▸ ⟨by decide, by decide⟩
      | false => simp at minus
    · exact (magnitude.isFloatPart c inside).isVisible
  obtain ⟨y, read⟩ := Option.isSome_iff_exists.mp (readMagnitude_isSome magnitude)
  have signed : sign ((if negative then ['-'] else []) ++ cs) = (negative, cs) := by
    cases magnitude with
    | mk run => exact sign_minus run _ negative
  unfold readFloat?
  rw [bare_of_visible visible, text, signed]
  dsimp only
  rw [read]
  exact ⟨_, rfl⟩

end StorageMetrics.Decimal
