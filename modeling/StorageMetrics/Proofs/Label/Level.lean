import Mathlib.Data.List.TakeWhile
import StorageMetrics.Proofs.Exposition.Assembly
import StorageMetrics.Proofs.Label
import StorageMetrics.Proofs.MetricName

/-
  Levels told from labels. On one line a label has a level just when a base, a point and decimal
  digits stand in it in this order and nothing else does (`splitLevel_eq_some_iff`), so base and
  level tell the label (`splitLevel_injective`). The split is made anew for the key of a family, for
  its shape and for the labels of each sample; all three agree, so levels of one base share a family
  and every sample of theirs carries its own level (`levels_tell_labels`).
-/

namespace StorageMetrics

namespace Label

/-! ## One split -/

/-- A label that is a base, a point and the decimal digits of a level. -/
structure HasLevel (label base level : String) : Prop where
  whole : label = base ++ "." ++ level
  base_ne : base ≠ ""
  level_ne : level ≠ ""
  digits : ∀ c ∈ level.toList, Text.isDigit c = true

/-- What was split is a base, a point and digits. -/
theorem of_levelChars? {cs base digits : List Char} (oneLine : '\n' ∉ cs)
    (split : levelChars? cs = some (base, digits)) :
    cs = base ++ '.' :: digits ∧ base ≠ [] ∧ digits ≠ [] ∧
      ∀ c ∈ digits, Text.isDigit c = true := by
  unfold levelChars? at split
  rw [dropLineEnd_of_not_mem oneLine] at split
  dsimp only at split
  split at split
  case h_2 => cases split
  case h_1 back left =>
    split at split
    case isTrue => cases split
    case isFalse usable =>
      obtain ⟨rfl, rfl⟩ := Prod.mk.inj (Option.some.inj split)
      simp only [Bool.or_eq_true, List.isEmpty_iff, decide_eq_true_eq, not_or] at usable
      have whole := List.takeWhile_append_dropWhile (p := Text.isDigit) (l := cs.reverse)
      rw [left] at whole
      refine ⟨?_, by simpa using usable.1.2, by simpa using usable.1.1, fun c mem => ?_⟩
      · rw [← List.reverse_inj]
        simpa using whole.symm
      · exact List.mem_takeWhile_imp (List.mem_reverse.mp mem)

theorem toList_of_hasLevel {label base level : String} (has : HasLevel label base level) :
    label.toList = base.toList ++ '.' :: level.toList := by
  simp [has.whole]

/-- A label on one line splits just where it has a level. -/
theorem splitLevel_eq_some_iff {label base level : String} (oneLine : '\n' ∉ label.toList) :
    splitLevel label = (base, some level) ↔ HasLevel label base level := by
  unfold splitLevel
  constructor
  · intro split
    cases found : levelChars? label.toList with
    | none =>
      rw [found] at split
      cases (Prod.mk.inj split).2
    | some parts =>
      obtain ⟨front, digits⟩ := parts
      obtain ⟨whole, present, some_, all⟩ := of_levelChars? oneLine found
      rw [found] at split
      obtain ⟨rfl, same⟩ := Prod.mk.inj split
      obtain rfl := Option.some.inj same
      refine ⟨?_, ?_, ?_, ?_⟩
      · rw [← String.toList_inj, whole]
        simp
      · simpa using present
      · simpa using some_
      · simpa using all
  · intro has
    have chars := toList_of_hasLevel has
    have onLine : '\n' ∉ base.toList := fun mem =>
      oneLine (chars ▸ List.mem_append_left _ mem)
    rw [chars, levelChars?_of_digits (by simpa using has.base_ne) onLine
      (by simpa using has.level_ne) has.digits]
    simp only [String.ofList_toList]

theorem splitLevel_cases (label : String) :
    (∃ base level, splitLevel label = (base, some level)) ∨ splitLevel label = (label, none) := by
  unfold splitLevel
  cases levelChars? label.toList with
  | none => exact Or.inr rfl
  | some parts => exact Or.inl ⟨_, _, rfl⟩

theorem splitLevel_of_not_hasLevel {label : String} (oneLine : '\n' ∉ label.toList)
    (none_ : ∀ base level, ¬ HasLevel label base level) : splitLevel label = (label, none) := by
  obtain ⟨base, level, split⟩ | whole := splitLevel_cases label
  · exact absurd ((splitLevel_eq_some_iff oneLine).mp split) (none_ base level)
  · exact whole

theorem HasLevel.unique {label base level base' level' : String} (oneLine : '\n' ∉ label.toList)
    (has : HasLevel label base level) (has' : HasLevel label base' level') :
    base = base' ∧ level = level' := by
  have same := ((splitLevel_eq_some_iff oneLine).mpr has).symm.trans
    ((splitLevel_eq_some_iff oneLine).mpr has')
  exact ⟨(Prod.mk.inj same).1, Option.some.inj (Prod.mk.inj same).2⟩

/-- Base and level tell a label on one line. -/
theorem splitLevel_injective {label other : String} (oneLine : '\n' ∉ label.toList)
    (oneLine' : '\n' ∉ other.toList) (same : splitLevel label = splitLevel other) :
    label = other := by
  obtain ⟨base, level, split⟩ | whole := splitLevel_cases label
  · have has := (splitLevel_eq_some_iff oneLine).mp split
    have has' := (splitLevel_eq_some_iff oneLine').mp (same.symm.trans split)
    rw [has.whole, has'.whole]
  · obtain ⟨base, level, split⟩ | whole' := splitLevel_cases other
    · cases whole.symm.trans (same.trans split)
    · exact (Prod.mk.inj (whole.symm.trans (same.trans whole'))).1

end Label

/-- Labels of names are on one line. -/
theorem NameRequest.oneLine_of_answer {q : NameRequest} {n : MetricName}
    (accepted : q.answer = .ok n) : '\n' ∉ n.name.toList := by
  obtain ⟨s, label, shard, part, -, rfl⟩ := NameRequest.answer_eq_ok_iff.mp accepted
  exact separator_not_mem part (by decide)

/-! ## One split for key, shape and samples -/

section Levels

variable {label other base level level' : String}

theorem Label.base_of_split (split : splitLevel label = (base, some level)) :
    Label.base label = base := congrArg Prod.fst split

theorem Label.level?_of_split (split : splitLevel label = (base, some level)) :
    level? label = some level := congrArg Prod.snd split

/-- Levels of one base have one key. -/
theorem Registry.family_of_splits (split : Label.splitLevel label = (base, some level))
    (split' : Label.splitLevel other = (base, some level')) (r : Registry) :
    r.family label = r.family other := by
  rw [family, family, Label.base_of_split split, Label.base_of_split split']

/-- And instruments of one kind have one shape there. -/
theorem Registry.shapeOf_of_splits (split : Label.splitLevel label = (base, some level))
    (split' : Label.splitLevel other = (base, some level')) (kind : InstrumentKind) :
    shapeOf label kind = shapeOf other kind := by
  rw [shapeOf, shapeOf, Label.level?_of_split split, Label.level?_of_split split']
  rfl

namespace Family

/-- Whichever of them comes first, the same family is made. -/
theorem ofMember_of_splits (split : Label.splitLevel label = (base, some level))
    (split' : Label.splitLevel other = (base, some level')) (key : String) (series : SeriesType) :
    ofMember key series label = ofMember key series other := by
  unfold ofMember
  rw [Label.base_of_split split, Label.base_of_split split', Label.level?_of_split split,
    Label.level?_of_split split']
  rfl

theorem labelNames_of_ofMember {key : String} {series : SeriesType} {f : Family}
    (made : ofMember key series label = .ok f) :
    f.labelNames = labelNamesFor (Label.level? label).isSome := by
  unfold ofMember at made
  dsimp only at made
  generalize (if series = .counter then dropTotal key else key) = name at made
  split at made
  · cases made
  · rw [← Except.ok.inj made]

theorem level_not_mem_ownLabels (series : SeriesType) (family sample : String) :
    "level" ∉ series.ownLabels family sample := by
  unfold SeriesType.ownLabels
  split
  · split <;> decide
  · split <;> decide
  · decide

/-- Whatever the member with this label reads as, all that the family takes in for it carries the
keyspace, the table and this level, and no other level. -/
def ShowsLevel (f : Family) (label level : String) : Prop :=
  ∀ keyspace table reading, ∀ s ∈ f.memberSamples keyspace table label reading, ∃ extra,
    s.labels = [("keyspace", keyspace), ("scope", table), ("level", level)] ++ extra ∧
      "level" ∉ extra.map (·.1)

theorem showsLevel_of_split {f : Family} (leveled : f.labelNames = labelNamesFor true)
    (split : Label.splitLevel label = (base, some level)) : f.ShowsLevel label level := by
  intro keyspace table reading s mem
  unfold memberSamples labelValues at mem
  rw [leveled, Label.level?_of_split split] at mem
  obtain ⟨extra, labelled, names⟩ := labels_of_readingSamples _ _ reading s mem
  refine ⟨extra, labelled, ?_⟩
  rw [names]
  exact level_not_mem_ownLabels _ _ _

end Family

end Levels

/-- A label on one line splits into base and level just when it is a text that is not empty, a point
and decimal digits; these are then the only such parts of it, and without such parts it stays whole.
All labels of names are on one line. On one line base and level tell the label. So two labels that
are levels of one base have different levels; instruments of one kind have the same family and the
same shape under both, whichever comes first makes the same family for both, and whatever that has
taken in before, all samples of the one show its level, and all samples of the other the other. -/
theorem levels_tell_labels :
    (∀ label : String, '\n' ∉ label.toList →
      (∀ base level, Label.splitLevel label = (base, some level) ↔
        Label.HasLevel label base level) ∧
      (∀ base level base' level', Label.HasLevel label base level →
        Label.HasLevel label base' level' → base = base' ∧ level = level') ∧
      ((∀ base level, ¬ Label.HasLevel label base level) →
        Label.splitLevel label = (label, none))) ∧
    (∀ (q : NameRequest) (n : MetricName), q.answer = .ok n → '\n' ∉ n.name.toList) ∧
    (∀ label other : String, '\n' ∉ label.toList → '\n' ∉ other.toList →
      Label.splitLevel label = Label.splitLevel other → label = other) ∧
    ∀ label other base level level' : String, '\n' ∉ label.toList → '\n' ∉ other.toList →
      label ≠ other → Label.splitLevel label = (base, some level) →
      Label.splitLevel other = (base, some level') →
      level ≠ level' ∧
      (∀ r : Registry, r.family label = r.family other) ∧
      (∀ kind, Registry.shapeOf label kind = Registry.shapeOf other kind) ∧
      (∀ key series, Family.ofMember key series label = Family.ofMember key series other) ∧
      ∀ key series f taken, Family.ofMember key series label = .ok f →
        { f with samples := taken }.ShowsLevel label level ∧
          { f with samples := taken }.ShowsLevel other level' := by
  refine ⟨fun label oneLine => ⟨?_, ?_, ?_⟩, ?_, ?_, ?_⟩
  · exact fun base level => Label.splitLevel_eq_some_iff oneLine
  · exact fun base level base' level' has has' => has.unique oneLine has'
  · exact Label.splitLevel_of_not_hasLevel oneLine
  · exact fun q n accepted => NameRequest.oneLine_of_answer accepted
  · exact fun label other oneLine oneLine' same => Label.splitLevel_injective oneLine oneLine' same
  · intro label other base level level' oneLine oneLine' different split split'
    refine ⟨?_, Registry.family_of_splits split split', Registry.shapeOf_of_splits split split',
      Family.ofMember_of_splits split split', ?_⟩
    · rintro rfl
      exact different (Label.splitLevel_injective oneLine oneLine' (split.trans split'.symm))
    · intro key series f taken made
      have leveled : f.labelNames = Family.labelNamesFor true := by
        rw [Family.labelNames_of_ofMember made, Label.level?_of_split split]
        rfl
      exact ⟨Family.showsLevel_of_split leveled split, Family.showsLevel_of_split leveled split'⟩

/-- Threes of two scripts are two levels of `a.b`, exported as one family. -/
theorem levels_tell_labels_twoScripts :
    '\n' ∉ "a.b.3".toList ∧ '\n' ∉ "a.b.٣".toList ∧ "a.b.3" ≠ "a.b.٣" ∧
      Label.splitLevel "a.b.3" = ("a.b", some "3") ∧
      Label.splitLevel "a.b.٣" = ("a.b", some "٣") ∧
      Label.HasLevel "a.b.3" "a.b" "3" ∧ "3" ≠ "٣" ∧
      (∀ r : Registry, r.family "a.b.3" = r.family "a.b.٣") ∧
      ∃ f, Family.ofMember "db_a_b" .gauge "a.b.3" = .ok f ∧
        f.ShowsLevel "a.b.3" "3" ∧ f.ShowsLevel "a.b.٣" "٣" := by
  have oneLine : '\n' ∉ "a.b.3".toList := by decide
  have oneLine' : '\n' ∉ "a.b.٣".toList := by decide
  have split : Label.splitLevel "a.b.3" = ("a.b", some "3") := by decide +kernel
  have split' : Label.splitLevel "a.b.٣" = ("a.b", some "٣") := by decide +kernel
  have present : "db_a_b" ≠ "" := by decide
  have named : ¬ (SeriesType.gauge = .counter ∧ "db_a_b" = "_total") :=
    fun counts => nomatch counts.1
  have made := Family.ofMember_ok present named "a.b.3"
  obtain ⟨decides, -, -, tells⟩ := levels_tell_labels
  obtain ⟨differ, sameFamily, -, -, shows⟩ :=
    tells _ _ _ _ _ oneLine oneLine' (by decide) split split'
  exact ⟨oneLine, oneLine', by decide, split, split', ((decides _ oneLine).1 _ _).mp split, differ,
    sameFamily, _, made, shows _ _ _ [] made⟩

end StorageMetrics
