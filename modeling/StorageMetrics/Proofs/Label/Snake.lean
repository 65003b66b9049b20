import Mathlib.Data.List.DropRight
import StorageMetrics.Label

/-
  The form of labels that family names use. Underscores apart it spells the ASCII letters and digits
  of the label in lower case, in their order (`spells_snakeChars`): each pass over the characters
  only puts underscores in, takes them out, or puts one in the place of what names cannot hold. Two
  neighbours of the label stay neighbours, or a word starts between them and one underscore does
  (`snakeChars_split`). A form is its own form (`snakeChars_eq_self`), so `snake` is idempotent. All
  of this together is `snake_keeps_words`.
-/

namespace StorageMetrics.Label

/-! ## Characters -/

/-- An ASCII letter or digit. -/
def isAlphanumeric (c : Char) : Bool := isUpper c || isLower c || isNumeral c

/-- A character of a form: a lower-case letter, a digit or an underscore. -/
def isFormChar (c : Char) : Bool := isLower c || isNumeral c || c = '_'

theorem isWord_iff_isAlphanumeric {c : Char} :
    isWord c = true ↔ isAlphanumeric c = true ∨ c = '_' := by
  simp [isWord, isAlphanumeric]

theorem isWord_of_isAlphanumeric {c : Char} (kept : isAlphanumeric c = true) : isWord c = true :=
  isWord_iff_isAlphanumeric.mpr (Or.inl kept)

theorem ne_underscore_of_isAlphanumeric {c : Char} (kept : isAlphanumeric c = true) : c ≠ '_' := by
  rintro rfl
  exact absurd kept (by decide)

/-- What holds of the characters up to `z` holds of all that names keep. -/
theorem forall_isWord {P : Char → Prop} (low : ∀ n < 123, isWord (Char.ofNat n) = true → P (Char.ofNat n))
    {c : Char} (word : isWord c = true) : P c := by
  have bound : c.toNat < 123 := by
    simp only [isWord, isUpper, isLower, isNumeral, Bool.or_eq_true, Bool.and_eq_true,
      decide_eq_true_eq] at word
    obtain ((⟨-, high⟩ | ⟨-, high⟩) | ⟨-, high⟩) | rfl := word
    · exact Nat.lt_of_le_of_lt (show c.toNat ≤ 'Z'.toNat from high) (by decide)
    · exact Nat.lt_of_le_of_lt (show c.toNat ≤ 'z'.toNat from high) (by decide)
    · exact Nat.lt_of_le_of_lt (show c.toNat ≤ '9'.toNat from high) (by decide)
    · decide
  have result := low c.toNat bound
  rw [Char.ofNat_toNat] at result
  exact result word

theorem isFormChar_toLower {c : Char} (word : isWord c = true) : isFormChar c.toLower = true :=
  forall_isWord (P := fun c => isFormChar c.toLower = true) (by decide +kernel) word

theorem toLower_ne_underscore_iff {c : Char} (word : isWord c = true) :
    (c.toLower ≠ '_') ↔ isAlphanumeric c = true :=
  forall_isWord (P := fun c => c.toLower ≠ '_' ↔ isAlphanumeric c = true) (by decide +kernel) word

/-- Only an underscore becomes one. -/
theorem eq_underscore_of_toLower {c : Char} (word : isWord c = true) (lower : c.toLower = '_') :
    c = '_' :=
  (isWord_iff_isAlphanumeric.mp word).resolve_left fun kept =>
    (toLower_ne_underscore_iff word).mpr kept lower

theorem isWord_of_isFormChar {c : Char} (formed : isFormChar c = true) : isWord c = true := by
  simp only [isFormChar, Bool.or_eq_true, decide_eq_true_eq] at formed
  obtain (lower | digit) | rfl := formed
  · simp [isWord, lower]
  · simp [isWord, digit]
  · rfl

theorem not_isUpper_of_isFormChar {c : Char} (formed : isFormChar c = true) :
    isUpper c = false :=
  forall_isWord (P := fun c => isFormChar c = true → isUpper c = false) (by decide +kernel)
    (isWord_of_isFormChar formed) formed

theorem toLower_of_isFormChar {c : Char} (formed : isFormChar c = true) : c.toLower = c :=
  forall_isWord (P := fun c => isFormChar c = true → c.toLower = c) (by decide +kernel)
    (isWord_of_isFormChar formed) formed

/-! ## Letters and digits go through -/

theorem filter_markWords (prev : Option Char) (cs : List Char) :
    (markWords prev cs).filter isAlphanumeric = cs.filter isAlphanumeric := by
  induction cs generalizing prev with
  | nil => rfl
  | cons c rest ih =>
    have mark : isAlphanumeric '_' = false := by decide
    unfold markWords
    split
    · rw [List.filter_cons_of_neg (by simp [mark]), List.filter_cons, List.filter_cons, ih]
    · rw [List.filter_cons, List.filter_cons, ih]

theorem filter_joinOthers (inRun : Bool) (cs : List Char) :
    (joinOthers inRun cs).filter isAlphanumeric = cs.filter isAlphanumeric := by
  induction cs generalizing inRun with
  | nil => rfl
  | cons c rest ih =>
    unfold joinOthers
    split
    case isTrue => rw [List.filter_cons, List.filter_cons, ih]
    case isFalse other =>
      have left : isAlphanumeric c = false :=
        Bool.eq_false_iff.mpr fun kept => other (isWord_of_isAlphanumeric kept)
      have mark : isAlphanumeric '_' = false := by decide
      rw [List.filter_cons_of_neg (by simp [left])]
      split
      · exact ih true
      · rw [List.filter_cons_of_neg (by simp [mark]), ih]

theorem filter_dropWhile_underscore (cs : List Char) :
    (cs.dropWhile (· = '_')).filter isAlphanumeric = cs.filter isAlphanumeric := by
  induction cs with
  | nil => rfl
  | cons c rest ih =>
    by_cases mark : c = '_'
    · subst mark
      exact ih
    · rw [List.dropWhile_cons_of_neg (by simpa using mark)]

theorem filter_rdropWhile_underscore (cs : List Char) :
    (cs.rdropWhile (· = '_')).filter isAlphanumeric = cs.filter isAlphanumeric := by
  rw [List.rdropWhile, List.filter_reverse, filter_dropWhile_underscore, List.filter_reverse,
    List.reverse_reverse]

theorem trimUnderscores_eq (cs : List Char) :
    trimUnderscores cs = (cs.dropWhile (· = '_')).rdropWhile (· = '_') := rfl

theorem filter_trimUnderscores (cs : List Char) :
    (trimUnderscores cs).filter isAlphanumeric = cs.filter isAlphanumeric := by
  rw [trimUnderscores_eq, filter_rdropWhile_underscore, filter_dropWhile_underscore]

theorem isWord_of_mem_joinOthers {inRun : Bool} {cs : List Char} {c : Char}
    (mem : c ∈ joinOthers inRun cs) : isWord c = true := by
  induction cs generalizing inRun with
  | nil => cases mem
  | cons d rest ih =>
    unfold joinOthers at mem
    split at mem
    case isTrue word =>
      obtain rfl | mem := List.mem_cons.mp mem
      · exact word
      · exact ih mem
    case isFalse =>
      split at mem
      · exact ih mem
      · obtain rfl | mem := List.mem_cons.mp mem
        · rfl
        · exact ih mem

theorem mem_trimUnderscores {cs : List Char} {c : Char} (mem : c ∈ trimUnderscores cs) : c ∈ cs :=
  (List.dropWhile_sublist _).mem ((List.rdropWhile_prefix _ _).sublist.mem mem)

/-- Underscores apart, these are the letters and digits of those, in lower case and in order. -/
def Spells (form cs : List Char) : Prop :=
  form.filter (· ≠ '_') = (cs.filter isAlphanumeric).map Char.toLower

theorem spells_of_filter {ds cs : List Char} (words : ∀ c ∈ ds, isWord c = true)
    (kept : ds.filter isAlphanumeric = cs.filter isAlphanumeric) :
    Spells (ds.map Char.toLower) cs := by
  unfold Spells
  rw [← kept, List.filter_map]
  refine congrArg _ (List.filter_congr fun c mem => ?_)
  rw [Function.comp_apply, Bool.eq_iff_iff, decide_eq_true_iff]
  exact toLower_ne_underscore_iff (words c mem)

theorem isWord_of_mem_trimmed {cs : List Char} {c : Char}
    (mem : c ∈ trimUnderscores (joinOthers false cs)) : isWord c = true :=
  isWord_of_mem_joinOthers (mem_trimUnderscores mem)

theorem spells_snakeChars (cs : List Char) : Spells (snakeChars cs) cs := by
  refine spells_of_filter (fun c mem => isWord_of_mem_trimmed mem) ?_
  rw [filter_trimUnderscores, filter_joinOthers, filter_markWords]

theorem isFormChar_of_mem_snakeChars {cs : List Char} {c : Char} (mem : c ∈ snakeChars cs) :
    isFormChar c = true := by
  obtain ⟨d, trimmed, rfl⟩ := List.mem_map.mp mem
  exact isFormChar_toLower (isWord_of_mem_trimmed trimmed)

/-! ## Ends -/

theorem getLast?_trimUnderscores (cs : List Char) : (trimUnderscores cs).getLast? ≠ some '_' := by
  intro ends
  rw [trimUnderscores, List.getLast?_reverse] at ends
  have kept := List.head?_dropWhile_not (· = '_') (cs.dropWhile (· = '_')).reverse
  rw [ends] at kept
  simp at kept

theorem head?_trimUnderscores (cs : List Char) : (trimUnderscores cs).head? ≠ some '_' := by
  intro starts
  obtain ⟨rest, same⟩ := List.rdropWhile_prefix (· = '_') (l := cs.dropWhile (· = '_'))
  have kept := List.head?_dropWhile_not (· = '_') cs
  rw [← same, ← trimUnderscores_eq, List.head?_append, starts] at kept
  simp at kept

theorem head?_snakeChars (cs : List Char) : (snakeChars cs).head? ≠ some '_' := by
  intro starts
  rw [snakeChars, List.head?_map] at starts
  obtain ⟨c, first, lower⟩ := Option.map_eq_some_iff.mp starts
  have mark := eq_underscore_of_toLower (isWord_of_mem_trimmed (List.mem_of_head? first)) lower
  exact head?_trimUnderscores _ (mark ▸ first)

theorem getLast?_snakeChars (cs : List Char) : (snakeChars cs).getLast? ≠ some '_' := by
  intro ends
  rw [snakeChars, List.getLast?_map] at ends
  obtain ⟨c, last, lower⟩ := Option.map_eq_some_iff.mp ends
  have mark := eq_underscore_of_toLower (isWord_of_mem_trimmed (List.mem_of_getLast? last)) lower
  exact getLast?_trimUnderscores _ (mark ▸ last)

/-! ## Neighbours -/

/-- What stands before a character is marked up by itself, and what follows goes on from it. -/
theorem markWords_split (prev : Option Char) (before : List Char) (a : Char) (rest : List Char) :
    ∃ front, markWords prev (before ++ a :: rest) = front ++ a :: markWords (some a) rest ∧
      front.filter isAlphanumeric = before.filter isAlphanumeric := by
  have mark : isAlphanumeric '_' = false := by decide
  induction before generalizing prev with
  | nil =>
    rw [List.nil_append, markWords]
    split
    · exact ⟨['_'], rfl, by simp [mark]⟩
    · exact ⟨[], rfl, rfl⟩
  | cons c before ih =>
    obtain ⟨front, same, kept⟩ := ih (some c)
    rw [List.cons_append, markWords, same]
    split
    · exact ⟨'_' :: c :: front, rfl, by simp [mark, List.filter_cons, kept]⟩
    · exact ⟨c :: front, rfl, by simp [List.filter_cons, kept]⟩

/-- A character that names keep ends the run before it. -/
theorem joinOthers_split {a : Char} (word : isWord a = true) (inRun : Bool)
    (front rest : List Char) :
    joinOthers inRun (front ++ a :: rest) = joinOthers inRun front ++ a :: joinOthers false rest := by
  induction front generalizing inRun with
  | nil =>
    show joinOthers inRun (a :: rest) = a :: joinOthers false rest
    rw [joinOthers, if_pos word]
  | cons c front ih =>
    rw [List.cons_append, joinOthers, joinOthers]
    split
    · rw [ih, List.cons_append]
    · split
      · exact ih true
      · rw [ih, List.cons_append]

theorem dropWhile_split {a : Char} (kept : a ≠ '_') (front rest : List Char) :
    (front ++ a :: rest).dropWhile (· = '_') = front.dropWhile (· = '_') ++ a :: rest := by
  induction front with
  | nil => rw [List.nil_append, List.dropWhile_cons_of_neg (by simpa using kept)]; rfl
  | cons c front ih =>
    by_cases mark : c = '_'
    · subst mark
      exact ih
    · rw [List.cons_append, List.dropWhile_cons_of_neg (by simpa using mark),
        List.dropWhile_cons_of_neg (by simpa using mark), List.cons_append]

theorem rdropWhile_split {b : Char} (kept : b ≠ '_') (front rest : List Char) :
    (front ++ b :: rest).rdropWhile (· = '_') = front ++ b :: rest.rdropWhile (· = '_') := by
  have turned : (front ++ b :: rest).reverse = rest.reverse ++ b :: front.reverse := by simp
  rw [List.rdropWhile, turned, dropWhile_split kept, List.rdropWhile]
  simp

/-- Nothing is trimmed between two characters that are no underscores. -/
theorem trimUnderscores_split {a b : Char} (kept : a ≠ '_') (kept' : b ≠ '_')
    (front between back : List Char) :
    trimUnderscores (front ++ a :: (between ++ b :: back)) =
      front.dropWhile (· = '_') ++ a :: (between ++ b :: back.rdropWhile (· = '_')) := by
  have regrouped (front back : List Char) :
      front ++ a :: (between ++ b :: back) = (front ++ a :: between) ++ b :: back := by simp
  rw [trimUnderscores_eq, dropWhile_split kept, regrouped, rdropWhile_split kept', ← regrouped]

/-- An underscore, where a word starts between two neighbours. -/
def gap (a b : Char) (next : Option Char) : List Char :=
  if breaksBetween a b next then ['_'] else []

theorem joinOthers_gap (a b : Char) (next : Option Char) (rest : List Char) :
    joinOthers false (gap a b next ++ rest) = gap a b next ++ joinOthers false rest := by
  unfold gap
  split <;> rfl

theorem map_toLower_gap (a b : Char) (next : Option Char) :
    (gap a b next).map Char.toLower = gap a b next := by
  unfold gap
  split <;> rfl

theorem markWords_cons (a b : Char) (rest : List Char) :
    markWords (some a) (b :: rest) = gap a b rest.head? ++ b :: markWords (some b) rest := by
  rw [markWords, gap, Option.any_some]
  split <;> rfl

/-- Two letters or digits that are neighbours in a label stand side by side in its form, but for the
underscore where a word starts. What stands before them and behind them spells what did in the
label, so the place is theirs. -/
theorem snakeChars_split {a b : Char} (kept : isAlphanumeric a = true)
    (kept' : isAlphanumeric b = true) (before after : List Char) :
    ∃ front back, snakeChars (before ++ a :: b :: after) =
        front ++ a.toLower :: (gap a b after.head? ++ b.toLower :: back) ∧
      Spells front before ∧ Spells back after := by
  obtain ⟨front, marked, same⟩ := markWords_split none before a (b :: after)
  refine ⟨((joinOthers false front).dropWhile (· = '_')).map Char.toLower,
    ((joinOthers false (markWords (some b) after)).rdropWhile (· = '_')).map Char.toLower,
    ?_, ?_, ?_⟩
  · rw [snakeChars, marked, joinOthers_split (isWord_of_isAlphanumeric kept), markWords_cons,
      joinOthers_gap, ← List.nil_append (b :: _), joinOthers_split (isWord_of_isAlphanumeric kept'),
      joinOthers, List.nil_append,
      trimUnderscores_split (ne_underscore_of_isAlphanumeric kept)
        (ne_underscore_of_isAlphanumeric kept')]
    simp only [List.map_append, List.map_cons, map_toLower_gap]
  · refine spells_of_filter (fun c mem => ?_) ?_
    · exact isWord_of_mem_joinOthers ((List.dropWhile_sublist _).mem mem)
    · rw [filter_dropWhile_underscore, filter_joinOthers, same]
  · refine spells_of_filter (fun c mem => ?_) ?_
    · exact isWord_of_mem_joinOthers ((List.rdropWhile_prefix _ _).sublist.mem mem)
    · rw [filter_rdropWhile_underscore, filter_joinOthers, filter_markWords]

/-! ## Forms of forms -/

theorem markWords_eq_self {cs : List Char} (low : ∀ c ∈ cs, isUpper c = false)
    (prev : Option Char) : markWords prev cs = cs := by
  induction cs generalizing prev with
  | nil => rfl
  | cons c rest ih =>
    have starts : prev.any (breaksBetween · c rest.head?) = false := by
      simp [breaksBetween, low c List.mem_cons_self]
    rw [markWords, if_neg (by simp [starts]), ih fun c mem => low c (List.mem_cons_of_mem _ mem)]

theorem joinOthers_eq_self {cs : List Char} (words : ∀ c ∈ cs, isWord c = true) :
    joinOthers false cs = cs := by
  induction cs with
  | nil => rfl
  | cons c rest ih =>
    rw [joinOthers, if_pos (words c List.mem_cons_self),
      ih fun c mem => words c (List.mem_cons_of_mem _ mem)]

theorem trimUnderscores_eq_self {cs : List Char} (starts : cs.head? ≠ some '_')
    (ends : cs.getLast? ≠ some '_') : trimUnderscores cs = cs := by
  have front : cs.dropWhile (· = '_') = cs := by
    cases cs with
    | nil => rfl
    | cons c rest => exact List.dropWhile_cons_of_neg (by simpa using starts)
  have back : cs.rdropWhile (· = '_') = cs := by
    rw [List.rdropWhile_eq_self_iff]
    intro present last
    refine ends ?_
    rw [List.getLast?_eq_some_getLast present]
    exact congrArg some (of_decide_eq_true last)
  rw [trimUnderscores_eq, front, back]

/-- What looks like a form is the form of itself. -/
theorem snakeChars_eq_self {cs : List Char} (formed : ∀ c ∈ cs, isFormChar c = true)
    (starts : cs.head? ≠ some '_') (ends : cs.getLast? ≠ some '_') : snakeChars cs = cs := by
  rw [snakeChars, markWords_eq_self fun c mem => not_isUpper_of_isFormChar (formed c mem),
    joinOthers_eq_self fun c mem => isWord_of_isFormChar (formed c mem),
    trimUnderscores_eq_self starts ends]
  exact (List.map_congr_left fun c mem => toLower_of_isFormChar (formed c mem)).trans
    (List.map_id' _)

theorem snakeChars_snakeChars (cs : List Char) : snakeChars (snakeChars cs) = snakeChars cs :=
  snakeChars_eq_self (fun _ mem => isFormChar_of_mem_snakeChars mem) (head?_snakeChars cs)
    (getLast?_snakeChars cs)

/-! ## Forms -/

theorem toList_snake (label : String) : (snake label).toList = snakeChars label.toList :=
  String.toList_ofList

theorem breaksBetween_iff {a b : Char} {next : Option Char} :
    breaksBetween a b next = true ↔ ((isLower a ∨ isNumeral a) ∧ isUpper b) ∨
      (isUpper a ∧ isUpper b ∧ next.any isLower) := by
  simp only [breaksBetween, Bool.and_eq_true, Bool.or_eq_true]
  tauto

/-- A form consists of lower-case letters, digits and underscores, with no underscore at either end.
Without its underscores it is the letters and digits of the label, lower-cased and in order. Two of
them that are neighbours in the label have one underscore between them in the form if the second is
a capital after a lower-case letter or a digit, or the last of a run of capitals that a lower-case
letter follows, and else they are neighbours there too. The form of a form is that form. -/
theorem snake_keeps_words (label : String) :
    (∀ c ∈ (snake label).toList, isLower c ∨ isNumeral c ∨ c = '_') ∧
    (snake label).toList.head? ≠ some '_' ∧ (snake label).toList.getLast? ≠ some '_' ∧
    (snake label).toList.filter (· ≠ '_') =
      (label.toList.filter isAlphanumeric).map Char.toLower ∧
    (∀ before a b after, label.toList = before ++ a :: b :: after →
      isAlphanumeric a = true → isAlphanumeric b = true →
      ∃ front between back,
        (snake label).toList = front ++ a.toLower :: (between ++ b.toLower :: back) ∧
        front.filter (· ≠ '_') = (before.filter isAlphanumeric).map Char.toLower ∧
        back.filter (· ≠ '_') = (after.filter isAlphanumeric).map Char.toLower ∧
        (((isLower a ∨ isNumeral a) ∧ isUpper b) ∨
            (isUpper a ∧ isUpper b ∧ after.head?.any isLower) → between = ['_']) ∧
        (¬ (((isLower a ∨ isNumeral a) ∧ isUpper b) ∨
            (isUpper a ∧ isUpper b ∧ after.head?.any isLower)) → between = [])) ∧
    snake (snake label) = snake label := by
  refine ⟨?_, ?_, ?_, ?_, ?_, ?_⟩
  · intro c mem
    have formed := isFormChar_of_mem_snakeChars (toList_snake label ▸ mem)
    simpa [isFormChar, or_assoc] using formed
  · rw [toList_snake]
    exact head?_snakeChars _
  · rw [toList_snake]
    exact getLast?_snakeChars _
  · rw [toList_snake]
    exact spells_snakeChars _
  · intro before a b after whole kept kept'
    obtain ⟨front, back, same, spelled, spelled'⟩ := snakeChars_split kept kept' before after
    refine ⟨front, gap a b after.head?, back, ?_, spelled, spelled', ?_, ?_⟩
    · rw [toList_snake, whole, same]
    · exact fun starts => if_pos (breaksBetween_iff.mpr starts)
    · exact fun goesOn => if_neg fun starts => goesOn (breaksBetween_iff.mp starts)
  · rw [snake, toList_snake, snakeChars_snakeChars]
    rfl

/-- The last capital of a run starts a word, and one underscore stands before it. -/
theorem snake_keeps_words_ofAcronym :
    "é.WALFile2".toList = "é.WA".toList ++ 'L' :: 'F' :: "ile2".toList ∧
      isAlphanumeric 'L' = true ∧ isAlphanumeric 'F' = true ∧
      ∃ front back, (snake "é.WALFile2").toList = front ++ 'l' :: '_' :: 'f' :: back ∧
        front.filter (· ≠ '_') = "wa".toList ∧ back.filter (· ≠ '_') = "ile2".toList := by
  have whole : "é.WALFile2".toList = "é.WA".toList ++ 'L' :: 'F' :: "ile2".toList := by decide
  obtain ⟨-, -, -, -, neighbours, -⟩ := snake_keeps_words "é.WALFile2"
  obtain ⟨front, between, back, same, spelled, spelled', starts, -⟩ :=
    neighbours "é.WA".toList 'L' 'F' "ile2".toList whole (by decide) (by decide)
  refine ⟨whole, by decide, by decide, front, back, ?_, ?_, ?_⟩
  · rw [same, starts (Or.inr ⟨by decide, by decide, by decide⟩)]
    rfl
  · rw [spelled]
    decide +kernel
  · rw [spelled']
    decide +kernel

end StorageMetrics.Label
