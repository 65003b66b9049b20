import StorageMetrics.Proofs.Decimal.Numeral
import StorageMetrics.Proofs.OrderedMap
import StorageMetrics.Proofs.Text.Json
import Mathlib

/-
  Values that are written read back. A text spells a value if the reader takes it from the front of
  any text that goes on with a delimiter (`Spells`). Quoted texts, words and numbers do so by
  themselves; lists and objects do if their members do, by induction on the members. So plain values
  read back as they are (`spells_value`), a finite float reads back as a float (`spells_float`), and
  an object as its fields in their order (`spells_object`).
-/

namespace StorageMetrics.Text.Json

/-! ## Texts of values -/

/-- No number or word goes on here. -/
def EndsWord (cs : List Char) : Prop := ∀ c ∈ cs.head?, isWordPart c = false

/-- The text is one printable line, and wherever it stands the value is read off it. A value takes
no more calls of the reader than twice its characters. -/
structure Spells (text : List Char) (v : Value) : Prop where
  opens : ∃ c rest, text = c :: rest ∧ isSpace c = false ∧ c ≠ ']'
  printable : ∀ c ∈ text, IsPrintable c
  reads : ∀ fuel rest, 2 * text.length ≤ fuel → EndsWord rest →
    readValue fuel (text ++ rest) = some (v, rest)

/-- A text is not empty, so the reader is called at least once. -/
theorem Spells.of_call {text : List Char} {v : Value}
    (opens : ∃ c rest, text = c :: rest ∧ isSpace c = false ∧ c ≠ ']')
    (printable : ∀ c ∈ text, IsPrintable c)
    (reads : ∀ fuel rest, 2 * text.length ≤ fuel + 1 → EndsWord rest →
      readValue (fuel + 1) (text ++ rest) = some (v, rest)) : Spells text v := by
  refine ⟨opens, printable, fun fuel rest enough ends => ?_⟩
  obtain ⟨c, others, rfl, -⟩ := opens
  cases fuel with
  | zero => simp at enough
  | succ fuel => exact reads fuel rest enough ends

theorem dropSpaces_cons {c : Char} (other : isSpace c = false) (cs : List Char) :
    dropSpaces (c :: cs) = c :: cs := List.dropWhile_cons_of_neg (by simp [other])

theorem readValue_space (fuel : Nat) (cs : List Char) :
    readValue fuel (' ' :: cs) = readValue fuel cs := by
  cases fuel with
  | zero => rfl
  | succ fuel => rfl

/-- A quoted text spells the text. -/
theorem spells_string (s : String) : Spells (string s).toList (.str s) := by
  have whole : (string s).toList = '"' :: (s.toList.flatMap escape ++ ['"']) := by simp [string]
  refine .of_call ⟨_, _, whole, rfl, by decide⟩ (fun _ => isPrintable_of_mem_string) ?_
  intro fuel rest _ _
  have read := readText_escaped s.toList [] rest
  rw [whole, List.cons_append, List.append_assoc]
  simp only [readValue, dropSpaces_cons (c := '"') rfl]
  simp [read]

theorem readWord_append {word rest : List Char} (parts : ∀ c ∈ word, isWordPart c = true)
    (ends : EndsWord rest) :
    readWord (word ++ rest) = (wordValue (String.ofList word)).map (·, rest) := by
  have stop : rest.takeWhile isWordPart = [] ∧ rest.dropWhile isWordPart = rest := by
    cases rest with
    | nil => exact ⟨rfl, rfl⟩
    | cons c rest =>
      have other : ¬ isWordPart c = true := by simp [ends c rfl]
      exact ⟨List.takeWhile_cons_of_neg other, List.dropWhile_cons_of_neg other⟩
  unfold readWord
  rw [List.takeWhile_append_of_pos parts, List.dropWhile_append_of_pos parts, stop.1, stop.2,
    List.append_nil]

theorem isPrintable_between {c low high : Char} (above : low.val ≤ c.val) (below : c.val ≤ high.val)
    (first : 0x20 ≤ low.toNat) (last : high.toNat ≤ 0x7E) : IsPrintable c :=
  ⟨Nat.le_trans first (UInt32.le_iff_toNat_le.mp above),
    Nat.le_trans (UInt32.le_iff_toNat_le.mp below) last⟩

theorem isPrintable_of_isWordPart {c : Char} (part : isWordPart c = true) : IsPrintable c := by
  simp only [isWordPart, Char.isAlphanum, Char.isAlpha, Char.isUpper, Char.isLower, Char.isDigit,
    Bool.or_eq_true, Bool.and_eq_true, decide_eq_true_eq] at part
  obtain ((((upper | lower) | digit) | rfl) | rfl) | rfl := part
  · exact isPrintable_between upper.1 upper.2 (by decide) (by decide)
  · exact isPrintable_between lower.1 lower.2 (by decide) (by decide)
  · exact isPrintable_between digit.1 digit.2 (by decide) (by decide)
  all_goals decide

/-- A number or a word spells its value. -/
theorem spells_word {word : List Char} {c : Char} {v : Value} (starts : word.head? = some c)
    (parts : ∀ c ∈ word, isWordPart c = true) (value : wordValue (String.ofList word) = some v) :
    Spells word v := by
  obtain ⟨others, rfl⟩ := List.head?_eq_some_iff.mp starts
  have part := parts c List.mem_cons_self
  have apart : ∀ {d : Char}, isWordPart d = false → c ≠ d := by
    rintro d other rfl
    exact absurd part (by simp [other])
  have space : isSpace c = false := by
    simp [isSpace, apart (d := ' ') rfl, apart (d := '\n') rfl, apart (d := '\r') rfl,
      apart (d := '\t') rfl]
  refine .of_call ⟨c, others, rfl, space, apart rfl⟩
    (fun d mem => isPrintable_of_isWordPart (parts d mem)) ?_
  intro fuel rest _ ends
  have read := readWord_append parts ends
  rw [value, Option.map_some] at read
  rw [List.cons_append] at read ⊢
  rw [readValue, dropSpaces_cons space]
  split
  case h_1 same => exact absurd (List.cons.inj same).1 (apart rfl)
  case h_2 same => exact absurd (List.cons.inj same).1 (apart rfl)
  case h_3 same => exact absurd (List.cons.inj same).1 (apart rfl)
  case h_4 => exact read

/-- Digits are parts of words, and tell no word. -/
theorem wordValue_of_number {word : List Char} {c : Char} (starts : word.head? = some c)
    (number : c.isDigit = true ∨ c = '-') : wordValue (String.ofList word) =
      if word.all fun c => c.isDigit || c = '-' then
        (Decimal.readInt (String.ofList word)).toOption.map .int
      else (Decimal.readFloat? (String.ofList word)).map .float := by
  have other : ∀ {text : String}, (∃ d ∈ text.toList.head?, d.isDigit = false ∧ d ≠ '-') →
      String.ofList word ≠ text := by
    rintro _ ⟨d, head, letter, sign⟩ rfl
    rw [String.toList_ofList, starts] at head
    obtain rfl := Option.mem_some.mp head
    exact number.elim (fun digit => absurd digit (by simp [letter])) sign
  unfold wordValue
  split
  case h_1 same => exact absurd same (other ⟨'n', rfl, rfl, by decide⟩)
  case h_2 same => exact absurd same (other ⟨'t', rfl, rfl, by decide⟩)
  case h_3 same => exact absurd same (other ⟨'f', rfl, rfl, by decide⟩)
  case h_4 => rw [String.all_bool_eq, String.toList_ofList]

theorem isWordPart_of_isDigit {c : Char} (digit : c.isDigit = true) : isWordPart c = true := by
  simp [isWordPart, Char.isAlphanum, digit]

theorem isWordPart_of_isFloatPart {c : Char} (part : Decimal.IsFloatPart c) :
    isWordPart c = true := by
  obtain digit | sign := part
  · exact isWordPart_of_isDigit digit
  · simp only [List.mem_cons, List.not_mem_nil, or_false] at sign
    obtain rfl | rfl | rfl | rfl := sign <;> rfl

/-- A run of digits, behind a minus or not, starts like a number. -/
theorem starts_number {cs : List Char} (run : Decimal.IsRun cs) (rest : List Char)
    (negative : Bool) : ∃ c, ((if negative then ['-'] else []) ++ (cs ++ rest)).head? = some c ∧
      (c.isDigit = true ∨ c = '-') := by
  obtain ⟨c, others, rfl⟩ := List.exists_cons_of_ne_nil run.some_
  cases negative with
  | true => exact ⟨'-', rfl, Or.inr rfl⟩
  | false => exact ⟨c, rfl, Or.inl (run.all c List.mem_cons_self)⟩

/-- An integer that can be written out spells itself. -/
theorem spells_int {n : Int} (short : n.natAbs < Nat.pow 10 Decimal.digitLimit) :
    Spells (toString n).toList (.int n) := by
  have run := Decimal.isRun_toDigits n.natAbs
  obtain ⟨c, starts, number⟩ := starts_number run [] (decide (n < 0))
  have text := Decimal.toList_toString n
  simp only [List.append_nil, decide_eq_true_eq, ← text] at starts
  have parts : ∀ c ∈ (toString n).toList, c.isDigit = true ∨ c = '-' := by
    intro d mem
    rw [text] at mem
    obtain minus | digit := List.mem_append.mp mem
    · split at minus
      · exact Or.inr (List.mem_singleton.mp minus)
      · simp at minus
    · exact Or.inl (run.all d digit)
  refine spells_word starts ?_ ?_
  · intro d mem
    obtain digit | rfl := parts d mem
    · exact isWordPart_of_isDigit digit
    · rfl
  · have all : ((toString n).toList.all fun c => c.isDigit || c = '-') = true := by
      simpa using parts
    rw [wordValue_of_number starts number, if_pos all, String.ofList_toList,
      Decimal.readInt_toString short]
    rfl

/-- The text of a finite float spells a float. -/
theorem spells_float {x : Float} (finite : Decimal.IsFinite x) :
    ∃ y, Spells (Decimal.Layout.json.text x).toList (.float y) := by
  obtain ⟨negative, cs, magnitude, text⟩ := Decimal.Layout.json.text_of_isFinite finite
  obtain ⟨y, read⟩ := Decimal.Layout.json.readFloat?_text finite
  obtain ⟨mark, inside, letter, sign⟩ := magnitude.marked
  obtain ⟨c, starts, number⟩ : ∃ c, (Decimal.Layout.json.text x).toList.head? = some c ∧
      (c.isDigit = true ∨ c = '-') := by
    rw [text]
    cases magnitude with
    | mk run => exact starts_number run _ negative
  refine ⟨y, spells_word starts ?_ ?_⟩
  · intro d mem
    rw [text] at mem
    obtain minus | part := List.mem_append.mp mem
    · cases negative with
      | true => exact List.mem_singleton.mp minus ▸ rfl
      | false => simp at minus
    · exact isWordPart_of_isFloatPart (magnitude.isFloatPart d part)
  · have marked :
        ¬ ((Decimal.Layout.json.text x).toList.all fun c => c.isDigit || c = '-') = true := by
      rw [text, List.all_eq_true]
      intro all
      have plain := all mark (List.mem_append_right _ inside)
      simp [letter, sign] at plain
    rw [wordValue_of_number starts number, if_neg marked, String.ofList_toList, read]
    rfl

/-! ## Lists and objects -/

/-- Members with a comma and a space between them. -/
def joined (texts : List (List Char)) : List Char := [',', ' '].intercalate texts

theorem joined_cons (text : List Char) {texts : List (List Char)} (more : texts ≠ []) :
    joined (text :: texts) = text ++ ',' :: ' ' :: joined texts := by
  simp [joined, List.intercalate_cons_of_ne_nil more]

theorem isPrintable_of_mem_joined {texts : List (List Char)}
    (printable : ∀ text ∈ texts, ∀ c ∈ text, IsPrintable c) :
    ∀ c ∈ joined texts, IsPrintable c := by
  induction texts with
  | nil => simp [joined]
  | cons text texts ih =>
    have first := printable text List.mem_cons_self
    have others := ih fun text mem => printable text (List.mem_cons_of_mem _ mem)
    by_cases more : texts = []
    · subst more
      simpa [joined] using first
    · intro c mem
      rw [joined_cons text more] at mem
      obtain here | rfl | rfl | later := by simpa using mem
      · exact first c here
      · decide
      · decide
      · exact others c later

theorem head?_joined (c : Char) (opening : List Char) (texts : List (List Char)) :
    ∃ tail, joined ((c :: opening) :: texts) = c :: tail := by
  by_cases more : texts = []
  · subst more
    exact ⟨opening, by simp [joined]⟩
  · exact ⟨_, joined_cons _ more⟩

theorem readItems_space (fuel : Nat) (sofar : List Value) (cs : List Char) :
    readItems fuel sofar (' ' :: cs) = readItems fuel sofar cs := by
  cases fuel with
  | zero => rfl
  | succ fuel => simp only [readItems, readValue_space]

/-- The members of a list are read one after the other, up to its end. -/
theorem readItems_joined {texts : List (List Char)} {vs : List Value}
    (each : List.Forall₂ Spells texts vs) (some_ : texts ≠ []) (fuel : Nat) (sofar : List Value)
    (rest : List Char) (enough : 2 * (joined texts).length + 1 ≤ fuel) :
    readItems fuel sofar (joined texts ++ ']' :: rest) =
      some (.list (sofar.reverse ++ vs), rest) := by
  induction each generalizing fuel sofar with
  | nil => exact absurd rfl some_
  | @cons text v texts vs spells others ih =>
    obtain ⟨fuel, rfl⟩ : ∃ f, fuel = f + 1 := ⟨fuel - 1, by omega⟩
    by_cases more : texts = []
    · subst more
      obtain rfl := List.forall₂_nil_left_iff.mp others
      have here := spells.reads fuel (']' :: rest) (by simpa [joined] using enough)
        (by simp [EndsWord]; rfl)
      simp [readItems, joined, here, dropSpaces_cons (c := ']') rfl]
    · rw [joined_cons text more] at enough ⊢
      have here := spells.reads fuel (',' :: ' ' :: (joined texts ++ ']' :: rest))
        (by simp at enough; omega) (by simp [EndsWord]; rfl)
      have later := ih more fuel (v :: sofar) (by simp at enough; omega)
      simp [readItems, here, dropSpaces_cons (c := ',') rfl, readItems_space, later]

theorem isPrintable_enclosed {first last : Char} {inner : List Char} (opening : IsPrintable first)
    (closing : IsPrintable last) (inside : ∀ c ∈ inner, IsPrintable c) :
    ∀ c ∈ first :: (inner ++ [last]), IsPrintable c := by
  intro c mem
  obtain rfl | within | rfl := by simpa using mem
  · exact opening
  · exact inside c within
  · exact closing

/-- Members in brackets spell the list of their values. -/
theorem spells_list {texts : List (List Char)} {vs : List Value}
    (each : List.Forall₂ Spells texts vs) : Spells ('[' :: (joined texts ++ [']'])) (.list vs) := by
  have printable : ∀ text ∈ texts, ∀ c ∈ text, IsPrintable c := by
    intro text mem
    obtain ⟨i, within, rfl⟩ := List.getElem_of_mem mem
    exact (each.get within (each.length_eq ▸ within)).printable
  refine .of_call ⟨_, _, rfl, rfl, by decide⟩
    (isPrintable_enclosed (by decide) (by decide) (isPrintable_of_mem_joined printable)) ?_
  intro fuel rest enough ends
  cases each with
  | nil =>
    simp [readValue, joined, dropSpaces_cons (c := '[') rfl, dropSpaces_cons (c := ']') rfl]
  | @cons text v texts vs spells others =>
    obtain ⟨c, opening, rfl, space, bracket⟩ := spells.opens
    have items := readItems_joined (.cons spells others) (by simp) fuel [] rest
      (by simp at enough; omega)
    obtain ⟨tail, starts⟩ := head?_joined c opening texts
    rw [starts] at items ⊢
    rw [readValue, List.cons_append, dropSpaces_cons (c := '[') rfl]
    simp only [List.append_assoc, List.cons_append, dropSpaces_cons space]
    split
    case h_1 same => exact absurd (List.cons.inj same).1 bracket
    case h_2 => simpa using items

/-- A member of an object: its name in quotes, and a text. -/
def member (field : String × List Char) : List Char :=
  (string field.1).toList ++ ':' :: ' ' :: field.2

/-- The text spells the value of the field, under its name. -/
def SpellsField (text : String × List Char) (field : String × Value) : Prop :=
  text.1 = field.1 ∧ Spells text.2 field.2

theorem readMembers_space (fuel : Nat) (sofar : OrderedMap String Value) (cs : List Char) :
    readMembers fuel sofar (' ' :: cs) = readMembers fuel sofar cs := by
  cases fuel with
  | zero => rfl
  | succ fuel => rfl

/-- One member is read, and the reader goes on behind a comma and is done behind a brace. -/
theorem readMembers_member (name : String) {text : List Char} {v : Value} (spells : Spells text v)
    {fuel : Nat} (enough : 2 * text.length ≤ fuel) (sofar : OrderedMap String Value)
    (rest : List Char) :
    readMembers (fuel + 1) sofar (member (name, text) ++ ',' :: rest) =
        readMembers fuel (sofar.insert name v) rest ∧
      readMembers (fuel + 1) sofar (member (name, text) ++ '\x7d' :: rest) =
        some (.record (sofar.insert name v).entries, rest) := by
  have named (rest : List Char) :
      readText none [] (name.toList.flatMap escape ++ '"' :: ':' :: ' ' :: (text ++ rest)) =
        some (name, ':' :: ' ' :: (text ++ rest)) := by
    simpa using readText_escaped name.toList [] (':' :: ' ' :: (text ++ rest))
  have whole (rest : List Char) : member (name, text) ++ rest =
      '"' :: (name.toList.flatMap escape ++ '"' :: ':' :: ' ' :: (text ++ rest)) := by
    simp [member, string]
  constructor
  · have read := spells.reads fuel (',' :: rest) enough (by simp [EndsWord]; rfl)
    simp [readMembers, whole, named, dropSpaces_cons, isSpace, readValue_space, read]
  · have read := spells.reads fuel ('\x7d' :: rest) enough (by simp [EndsWord]; rfl)
    simp [readMembers, whole, named, dropSpaces_cons, isSpace, readValue_space, read]

/-- The members of an object are read one after the other, up to its end. -/
theorem readMembers_joined {texts : List (String × List Char)} {fields : List (String × Value)}
    (each : List.Forall₂ SpellsField texts fields) (some_ : texts ≠ []) (fuel : Nat)
    (sofar : OrderedMap String Value) (apart : (sofar.keys ++ fields.map (·.1)).Nodup)
    (rest : List Char) (enough : 2 * (joined (texts.map member)).length + 1 ≤ fuel) :
    readMembers fuel sofar (joined (texts.map member) ++ '\x7d' :: rest) =
      some (.record (sofar.entries ++ fields), rest) := by
  induction each generalizing fuel sofar with
  | nil => exact absurd rfl some_
  -- The fields read so far stand in the induction, since a name read twice would take their place.
  | @cons text field texts fields here others ih =>
    obtain ⟨name, text⟩ := text
    obtain ⟨name', v⟩ := field
    obtain ⟨rfl, spells⟩ : name = name' ∧ Spells text v := here
    obtain ⟨fuel, rfl⟩ : ∃ f, fuel = f + 1 := ⟨fuel - 1, by omega⟩
    have fresh : name ∉ sofar.keys := by
      intro mem
      exact (List.nodup_append.mp apart).2.2 name mem name (by simp) rfl
    have entries := OrderedMap.entries_insert_of_not_mem (v := v) fresh
    by_cases more : texts = []
    · subst more
      obtain rfl := List.forall₂_nil_left_iff.mp others
      have short : 2 * text.length ≤ fuel := by
        simp [joined, member] at enough
        omega
      have last := (readMembers_member name spells short sofar rest).2
      simpa [joined, entries] using last
    · have some_ : texts.map member ≠ [] := by simpa using more
      have shorter := enough
      rw [List.map_cons, joined_cons _ some_] at shorter
      have short : 2 * text.length ≤ fuel := by
        simp [member] at shorter
        omega
      have first := (readMembers_member name spells short sofar
        (' ' :: (joined (texts.map member) ++ '\x7d' :: rest))).1
      have later := ih more fuel (sofar.insert name v)
        (by
          rw [OrderedMap.keys_insert_of_not_mem fresh]
          simpa using apart) (by simp at shorter; omega)
      rw [List.map_cons, joined_cons _ some_]
      simp only [List.append_assoc, List.cons_append] at first ⊢
      rw [first]
      simpa [readMembers_space, entries] using later

/-- Members in braces, of different names, spell the object of their fields. -/
theorem spells_record {texts : List (String × List Char)} {fields : List (String × Value)}
    (each : List.Forall₂ SpellsField texts fields) (some_ : texts ≠ [])
    (apart : (fields.map (·.1)).Nodup) :
    Spells ('\x7b' :: (joined (texts.map member) ++ ['\x7d'])) (.record fields) := by
  have printable : ∀ text ∈ texts.map member, ∀ c ∈ text, IsPrintable c := by
    intro text mem c inside
    obtain ⟨⟨name, text⟩, listed, rfl⟩ := List.mem_map.mp mem
    obtain ⟨i, within, same⟩ := List.getElem_of_mem listed
    have spells := (each.get within (each.length_eq ▸ within)).2
    rw [List.get_eq_getElem, same] at spells
    obtain named | rfl | rfl | valued := by simpa [member] using inside
    · exact isPrintable_of_mem_string named
    · decide
    · decide
    · exact spells.printable c valued
  refine .of_call ⟨_, _, rfl, rfl, by decide⟩
    (isPrintable_enclosed (by decide) (by decide) (isPrintable_of_mem_joined printable)) ?_
  intro fuel rest enough ends
  have members := readMembers_joined each some_ fuel {} apart rest
    (by simp at enough; omega)
  obtain ⟨tail, starts⟩ : ∃ tail, joined (texts.map member) = '"' :: tail := by
    obtain ⟨⟨name, text⟩, texts, rfl⟩ := List.exists_cons_of_ne_nil some_
    have opens : member (name, text) =
        '"' :: (name.toList.flatMap escape ++ '"' :: ':' :: ' ' :: text) := by
      simp [member, string]
    rw [List.map_cons, opens]
    exact head?_joined _ _ _
  rw [starts] at members ⊢
  rw [readValue, List.cons_append, dropSpaces_cons (c := '\x7b') rfl]
  simp only [List.append_assoc, List.cons_append, dropSpaces_cons (c := '"') rfl]
  simpa using members

/-- A line that spells a value reads as it. -/
theorem read_of_spells {line : String} {v : Value} (spells : Spells line.toList v) :
    read line = some v := by
  have whole := spells.reads (2 * line.toList.length + 2) [] (by omega) (by simp [EndsWord])
  rw [List.append_nil] at whole
  simp [read, whole, dropSpaces]

/-! ## What is written -/

/-- A value of JSON's own that is no number with a point: null, a truth value, an integer, a text,
or a list of these. -/
inductive IsPlain : Value → Prop
  | none : IsPlain .none
  | bool (b : Bool) : IsPlain (.bool b)
  | int (n : Int) : IsPlain (.int n)
  | str (s : String) : IsPlain (.str s)
  | list {xs : List Value} (all : ∀ x ∈ xs, IsPlain x) : IsPlain (.list xs)

theorem allHaveNames_iff (xs : List Value) :
    allHaveNames xs = true ↔ ∀ x ∈ xs, hasNames x = true := by
  induction xs with
  | nil => simp [allHaveNames]
  | cons x xs ih => rw [allHaveNames, Bool.and_eq_true, ih, List.forall_mem_cons]

/-- There are no keys in it. -/
theorem IsPlain.hasNames {v : Value} (plain : IsPlain v) : Json.hasNames v = true := by
  induction plain with
  | list all ih => exact (allHaveNames_iff _).mpr ih
  | _ => rfl

theorem values_eq_map (xs : List Value) : values xs = xs.map value := by
  induction xs with
  | nil => rfl
  | cons x xs ih => rw [values, ih, List.map_cons]

theorem members_eq_map (fields : List (String × Value)) :
    members (fields.map fun f => (.str f.1, f.2)) =
      fields.map fun f => string f.1 ++ ": " ++ value f.2 := by
  induction fields with
  | nil => rfl
  | cons f fields ih =>
    rw [List.map_cons, members, ih, List.map_cons]
    rfl

theorem isWritable_of_mem {xs : List Value} (writable : Value.areWritable xs = true) :
    ∀ x ∈ xs, x.isWritable = true := by
  induction xs with
  | nil => simp
  | cons x xs ih =>
    rw [Value.areWritable, Bool.and_eq_true] at writable
    intro y mem
    obtain rfl | later := List.mem_cons.mp mem
    · exact writable.1
    · exact ih writable.2 y later

/-- What is written for such a value spells it, as long as its integers can be written out. -/
theorem spells_value {v : Value} (plain : IsPlain v) (writable : v.isWritable = true) :
    Spells (value v).toList v := by
  induction plain with
  | none => exact spells_word (c := 'n') rfl (List.all_eq_true.mp rfl) rfl
  | bool b =>
    cases b with
    | true => exact spells_word (c := 't') rfl (List.all_eq_true.mp rfl) rfl
    | false => exact spells_word (c := 'f') rfl (List.all_eq_true.mp rfl) rfl
  | int n => exact spells_int (by simpa [Value.isWritable] using writable)
  | str s => exact spells_string s
  | @list xs all ih =>
    have each : List.Forall₂ Spells (xs.map fun x => (value x).toList) xs := by
      rw [List.forall₂_map_left_iff, List.forall₂_same]
      exact fun x mem => ih x mem (isWritable_of_mem writable x mem)
    have text : (value (.list xs)).toList =
        '[' :: (joined (xs.map fun x => (value x).toList) ++ [']']) := by
      simp [value, values_eq_map, joined, String.toList_intercalate, Function.comp_def]
    rw [text]
    exact spells_list each

/-- The fields of an object read back in their order, under their names, as what their texts
spell. -/
theorem spells_object {fields fields' : List (String × Value)} (some_ : fields ≠ [])
    (each : List.Forall₂ (fun f f' => f.1 = f'.1 ∧ Spells (value f.2).toList f'.2) fields fields')
    (apart : (fields'.map (·.1)).Nodup) : Spells (object fields).toList (.record fields') := by
  have text : (object fields).toList = '\x7b' ::
      (joined ((fields.map fun f => (f.1, (value f.2).toList)).map member) ++ ['\x7d']) := by
    simp [object, Value.record, value, members_eq_map, joined, String.toList_intercalate, member,
      Function.comp_def]
  rw [text]
  refine spells_record ?_ (by simpa using some_) apart
  rw [List.forall₂_map_left_iff]
  exact each

end StorageMetrics.Text.Json
