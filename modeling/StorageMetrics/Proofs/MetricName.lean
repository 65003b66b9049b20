import StorageMetrics.MetricName
import StorageMetrics.Proofs.Label

/-
  Metric names tell what was asked for. A request that is accepted is one in texts
  (`answer_eq_ok_iff`), none of which holds a separator, so the flat form reads back into its fields
  (`flatFields_build`), and keyspace and table come back out of the scope. Hence names agree just
  when their flat forms do, and just when scope and label do. A shard is written in digits, which
  hold no underscore, so the last underscore splits a shard's table again (`underscore_split`).
-/

namespace StorageMetrics

/-! ## Texts that are split again -/

theorem isDigit_of_mem_decimal {n : Nat} {c : Char} (mem : c ∈ (toString n).toList) :
    c.isDigit = true := by
  rw [Nat.toString_eq_ofList_toDigits, String.toList_ofList] at mem
  exact Nat.isDigit_of_mem_toDigits (by decide) (by decide) mem

theorem isReserved_of_isDigit {c : Char} (digit : c.isDigit = true) : isReserved c = false := by
  have range : 48 ≤ c.toNat ∧ c.toNat ≤ 57 := by
    simpa [Char.isDigit, UInt32.le_iff_toNat_le] using digit
  have other : ∀ d : Char, d.isDigit = false → c ≠ d := by
    rintro d none_ rfl
    rw [digit] at none_
    cases none_
  have notBlank : Text.isBlank c = false := by
    simp only [Text.isBlank, Bool.or_eq_false_iff, Bool.and_eq_false_iff, decide_eq_false_iff_not]
    omega
  unfold isReserved
  rw [notBlank]
  simp [other ':' (by decide), other ',' (by decide), other '=' (by decide)]

/-- What stands behind the last underscore is told from what stands before it. -/
theorem underscore_split {front front' back back' : List Char} (plain : '_' ∉ back)
    (plain' : '_' ∉ back') (same : front ++ '_' :: back = front' ++ '_' :: back') :
    front = front' ∧ back = back' := by
  have lastOf : ∀ {front back : List Char}, '_' ∉ back →
      (front ++ '_' :: back).reverse.takeWhile (· ≠ '_') = back.reverse := by
    intro front back plain
    have all : ∀ c ∈ back.reverse, decide (c ≠ '_') = true := by
      intro c mem
      have other : c ≠ '_' := fun eq => plain (eq ▸ List.mem_reverse.mp mem)
      simpa using other
    rw [List.reverse_append, List.reverse_cons, List.append_assoc,
      List.takeWhile_append_of_pos all]
    simp
  have backs : back = back' := by
    have reversed : (front ++ '_' :: back).reverse.takeWhile (· ≠ '_') = back.reverse := lastOf plain
    rw [same, lastOf plain'] at reversed
    exact (List.reverse_injective reversed).symm
  subst backs
  exact ⟨List.append_cancel_right same, rfl⟩

theorem underscore_not_mem_decimal (n : Nat) : '_' ∉ (toString n).toList := by
  intro mem
  exact absurd (isDigit_of_mem_decimal mem) (by decide)

/-- A text with an underscore and a number behind it tells both. -/
theorem numbered_injective {t u : String} {i j : Nat}
    (same : t ++ "_" ++ toString i = u ++ "_" ++ toString j) : t = u ∧ i = j := by
  have chars : t.toList ++ '_' :: (toString i).toList = u.toList ++ '_' :: (toString j).toList := by
    simpa using congrArg String.toList same
  obtain ⟨front, back⟩ := underscore_split (underscore_not_mem_decimal i)
    (underscore_not_mem_decimal j) chars
  exact ⟨String.toList_injective front, toString_injective (String.toList_injective back)⟩

/-! ## Keyspace and table of a scope -/

namespace MetricName

theorem keyspaceChars_append {front back : List Char} (undotted : '.' ∉ front) :
    keyspaceChars (front ++ '.' :: back) = front := by
  induction front with
  | nil => rfl
  | cons c rest ih =>
    have other : c ≠ '.' := fun same => undotted (same ▸ List.mem_cons_self)
    have later : '.' ∉ rest := fun mem => undotted (List.mem_cons_of_mem _ mem)
    rw [List.cons_append, keyspaceChars, if_neg other, ih later]

theorem tableChars?_append {front back : List Char} (undotted : '.' ∉ front) :
    tableChars? (front ++ '.' :: back) = some back := by
  induction front with
  | nil => rfl
  | cons c rest ih =>
    have other : c ≠ '.' := fun same => undotted (same ▸ List.mem_cons_self)
    have later : '.' ∉ rest := fun mem => undotted (List.mem_cons_of_mem _ mem)
    rw [List.cons_append, tableChars?, if_neg other, ih later]

end MetricName

namespace TableScope

theorem scope_toList (s : TableScope) (label table : String) :
    (s.build label table).scope.toList = s.keyspace.toList ++ '.' :: table.toList := by
  simp [build]

@[simp]
theorem keyspace_build (s : TableScope) (label table : String) :
    (s.build label table).keyspace = s.keyspace := by
  rw [MetricName.keyspace, scope_toList, MetricName.keyspaceChars_append s.keyspace_undotted,
    String.ofList_toList]

@[simp]
theorem table?_build (s : TableScope) (label table : String) :
    (s.build label table).table? = some table := by
  rw [MetricName.table?, scope_toList, MetricName.tableChars?_append s.keyspace_undotted,
    Option.map_some, String.ofList_toList]

/-- The table part of a name: a shard's, or that of the whole table. -/
def tablePart (s : TableScope) : Option Nat → String
  | none => s.table
  | some shard => s.shardTable shard

theorem isNamePart_tablePart (s : TableScope) (shard : Option Nat) :
    IsNamePart (s.tablePart shard) := by
  cases shard with
  | none => exact s.table_ok
  | some i =>
    refine ⟨fun empty => ?_, fun c mem => ?_⟩
    · have length := congrArg String.length empty
      rw [tablePart, shardTable, String.length_append, String.length_append] at length
      have one : "_".length = 1 := rfl
      have zero : "".length = 0 := rfl
      omega
    · have part : c ∈ s.table.toList ∨ c = '_' ∨ c ∈ (toString i).toList := by
        simpa [tablePart, shardTable, or_assoc] using mem
      rcases part with ofTable | rfl | ofShard
      · exact s.table_ok.2 c ofTable
      · decide
      · exact isReserved_of_isDigit (isDigit_of_mem_decimal ofShard)

end TableScope

/-! ## The flat form read back -/

namespace MetricName

/-- A flat form, split at its first colon, then at commas, and each part at its equals signs. -/
def flatFields (flat : String) : String × List (List String) :=
  let front := flat.toList.takeWhile (· ≠ ':')
  let fields := (flat.toList.dropWhile (· ≠ ':')).tail.splitOn ','
  (String.ofList front, fields.map fun field => (field.splitOn '=').map String.ofList)

end MetricName

theorem separator_not_mem {s : String} (part : IsNamePart s) {c : Char}
    (separator : isReserved c = true) : c ∉ s.toList := by
  intro mem
  rw [part.2 c mem] at separator
  cases separator

/-- A key and a text without separators split at the equals sign between them. -/
theorem splitOn_field {key : List Char} (plain : '=' ∉ key) {s : String} (part : IsNamePart s) :
    (key ++ '=' :: s.toList).splitOn '=' = [key, s.toList] := by
  have free : ∀ text ∈ [key, s.toList], '=' ∉ text := by
    simpa using ⟨plain, separator_not_mem part (by decide)⟩
  simpa [List.intercalate] using List.splitOn_intercalate '=' free (by simp)

namespace TableScope

theorem isNamePart_of_all {s : String} (present : s ≠ "")
    (plain : (s.toList.all fun c => !isReserved c) = true) : IsNamePart s :=
  ⟨present, fun c mem => by simpa using List.all_eq_true.mp plain c mem⟩

theorem isNamePart_type : IsNamePart type :=
  isNamePart_of_all (by decide) (by decide +kernel)

/-- The flat form of a name holds four fields, in order. -/
theorem flatFields_build (s : TableScope) {label table : String} (label_ok : IsNamePart label)
    (table_ok : IsNamePart table) :
    MetricName.flatFields (s.build label table).flat =
      (group, [["type", type], ["keyspace", s.keyspace], ["scope", table], ["name", label]]) := by
  -- the parts between the commas, as characters
  let fields : List (List Char) := [("type", type), ("keyspace", s.keyspace), ("scope", table),
    ("name", label)].map fun field => field.1.toList ++ '=' :: field.2.toList
  have chars : (s.build label table).flat.toList =
      group.toList ++ ':' :: [','].intercalate fields := by
    simp [build, fields, List.intercalate]
  have noColon : ∀ c ∈ group.toList, decide (c ≠ ':') = true :=
    List.all_eq_true.mp (by decide +kernel)
  have noComma : ∀ field ∈ fields, ',' ∉ field := by
    have typeFree := separator_not_mem isNamePart_type (c := ',') (by decide)
    have keyspaceFree := separator_not_mem s.keyspace_ok (c := ',') (by decide)
    have tableFree := separator_not_mem table_ok (c := ',') (by decide)
    have labelFree := separator_not_mem label_ok (c := ',') (by decide)
    simp [fields, typeFree, keyspaceFree, tableFree, labelFree]
  unfold MetricName.flatFields
  rw [chars, List.takeWhile_append_of_pos noColon, List.dropWhile_append_of_pos noColon]
  simp only [List.takeWhile_cons, List.dropWhile_cons, ne_eq, not_true_eq_false, decide_false,
    Bool.false_eq_true, if_false, List.append_nil, List.tail_cons, String.ofList_toList]
  rw [List.splitOn_intercalate ',' noComma (by simp [fields])]
  simp only [fields, List.map_cons, List.map_nil]
  rw [splitOn_field (by simp) isNamePart_type, splitOn_field (by simp) s.keyspace_ok,
    splitOn_field (by simp) table_ok, splitOn_field (by simp) label_ok]
  simp

end TableScope

/-! ## Requests for names -/

/-- A name asked for: the name of a shard's metric when a shard is given, that of a table's
otherwise. -/
structure NameRequest where
  keyspace : Value
  table : Value
  label : Value
  shard : Option Value := none

/-- The name, or why there is none. -/
def NameRequest.answer (q : NameRequest) : Except NameError MetricName := do
  let scope ← TableScope.ofValues q.keyspace q.table
  match q.shard with
  | none => scope.name? q.label
  | some shard => scope.shardName? q.label shard

/-- What a request asks for in texts: the only requests that are ever accepted. -/
structure Naming where
  keyspace : String
  table : String
  label : String
  shard : Option Nat := none
deriving DecidableEq

namespace Naming

def request (x : Naming) : NameRequest where
  keyspace := .str x.keyspace
  table := .str x.table
  label := .str x.label
  shard := x.shard.map fun i => .int (.ofNat i)

/-- The table, or the table, an underscore and the shard in decimal digits. -/
def tablePart (x : Naming) : String :=
  match x.shard with
  | none => x.table
  | some i => x.table ++ "_" ++ toString i

theorem request_injective : Function.Injective request := by
  rintro ⟨keyspace, table, label, shard⟩ ⟨keyspace', table', label', shard'⟩ same
  simp only [request, NameRequest.mk.injEq, Value.str.injEq] at same
  obtain ⟨rfl, rfl, rfl, shards⟩ := same
  have whole : Function.Injective fun i : Nat => Value.int (.ofNat i) := by
    intro i j same
    cases same
    rfl
  rw [Option.map_injective whole shards]

end Naming

theorem NamePart.check_eq_ok {part : NamePart} {v : Value} {s : { s : String // IsNamePart s }}
    (accepted : part.check v = .ok s) : v = .str s.val := by
  unfold NamePart.check at accepted
  split at accepted
  · split at accepted
    · cases accepted
      rfl
    · split at accepted <;> cases accepted
  · cases accepted

theorem NamePart.check_str (part : NamePart) {s : String} (ok : IsNamePart s) :
    part.check (.str s) = .ok ⟨s, ok⟩ := by
  simp [NamePart.check, ok]

namespace TableScope

theorem ofValues_eq_ok {keyspace table : Value} {s : TableScope}
    (accepted : ofValues keyspace table = .ok s) :
    keyspace = .str s.keyspace ∧ table = .str s.table := by
  unfold ofValues at accepted
  cases forKeyspace : NamePart.keyspace.check keyspace with
  | error e => rw [forKeyspace] at accepted; cases accepted
  | ok ks =>
    cases forTable : NamePart.table.check table with
    | error e => rw [forKeyspace, forTable] at accepted; cases accepted
    | ok t =>
      rw [forKeyspace, forTable] at accepted
      simp only [bind, Except.bind] at accepted
      split at accepted
      · cases accepted
      · cases accepted
        exact ⟨NamePart.check_eq_ok forKeyspace, NamePart.check_eq_ok forTable⟩

theorem ofValues_str (s : TableScope) : ofValues (.str s.keyspace) (.str s.table) = .ok s := by
  simp [ofValues, NamePart.check_str _ s.keyspace_ok, NamePart.check_str _ s.table_ok,
    s.keyspace_undotted, bind, Except.bind]

theorem name?_eq_ok {s : TableScope} {label : Value} {n : MetricName}
    (accepted : s.name? label = .ok n) :
    ∃ l, label = .str l ∧ IsNamePart l ∧ n = s.build l s.table := by
  unfold name? at accepted
  cases forLabel : NamePart.label.check label with
  | error e => rw [forLabel] at accepted; cases accepted
  | ok l =>
    rw [forLabel] at accepted
    cases accepted
    exact ⟨l.val, NamePart.check_eq_ok forLabel, l.property, rfl⟩

theorem shardName?_eq_ok {s : TableScope} {label shard : Value} {n : MetricName}
    (accepted : s.shardName? label shard = .ok n) :
    ∃ l i, label = .str l ∧ IsNamePart l ∧ shard = .int (.ofNat i) ∧
      n = s.build l (s.shardTable i) := by
  unfold shardName? shard? at accepted
  split at accepted
  · cases forLabel : NamePart.label.check label with
    | error e => rw [forLabel] at accepted; cases accepted
    | ok l =>
      rw [forLabel] at accepted
      cases accepted
      exact ⟨l.val, _, NamePart.check_eq_ok forLabel, l.property, rfl, rfl⟩
  · cases accepted

end TableScope

namespace NameRequest

/-- The accepted requests: texts that may stand in a name, a keyspace without a point, and no shard
or one that is a whole number. -/
theorem answer_eq_ok_iff {q : NameRequest} {n : MetricName} :
    q.answer = .ok n ↔ ∃ (s : TableScope) (label : String) (shard : Option Nat),
      IsNamePart label ∧ q = (Naming.mk s.keyspace s.table label shard).request ∧
        n = s.build label (s.tablePart shard) := by
  constructor
  · intro accepted
    obtain ⟨keyspace, table, label, shard⟩ := q
    unfold answer at accepted
    cases ofTexts : TableScope.ofValues keyspace table with
    | error e => rw [ofTexts] at accepted; cases accepted
    | ok s =>
      rw [ofTexts] at accepted
      obtain ⟨rfl, rfl⟩ := TableScope.ofValues_eq_ok ofTexts
      cases shard with
      | none =>
        obtain ⟨l, rfl, ok, rfl⟩ := TableScope.name?_eq_ok accepted
        exact ⟨s, l, none, ok, rfl, rfl⟩
      | some shard =>
        obtain ⟨l, i, rfl, ok, rfl, rfl⟩ := TableScope.shardName?_eq_ok accepted
        exact ⟨s, l, some i, ok, rfl, rfl⟩
  · rintro ⟨s, label, shard, ok, rfl, rfl⟩
    have scope := s.ofValues_str
    cases shard <;>
      simp [answer, Naming.request, scope, TableScope.name?, TableScope.shardName?,
        TableScope.shard?, NamePart.check_str _ ok, bind, Except.bind, pure, Except.pure,
        TableScope.tablePart, TableScope.name, TableScope.shardName]

end NameRequest

/-! ## Equal names -/

namespace TableScope

variable {s s' : TableScope} {label label' table table' : String}

/-- Keyspace, table and label make the name, and can be told from it. -/
theorem build_eq_iff :
    s.build label table = s'.build label' table' ↔
      s.keyspace = s'.keyspace ∧ table = table' ∧ label = label' := by
  constructor
  · intro same
    have keyspaces := congrArg MetricName.keyspace same
    have tables := congrArg MetricName.table? same
    simp only [keyspace_build, table?_build, Option.some.injEq] at keyspaces tables
    exact ⟨keyspaces, tables, congrArg MetricName.name same⟩
  · rintro ⟨keyspaces, rfl, rfl⟩
    simp [build, keyspaces]

theorem eq_of_parts {s s' : TableScope} (keyspaces : s.keyspace = s'.keyspace)
    (tables : s.table = s'.table) : s = s' := by
  cases s
  cases s'
  cases keyspaces
  cases tables
  rfl

/-- The name of a shard tells keyspace, table and shard. -/
theorem shardName_inj {i j : Nat} (same : s.shardName label i = s'.shardName label' j) :
    s = s' ∧ label = label' ∧ i = j := by
  obtain ⟨keyspaces, tables, labels⟩ := build_eq_iff.mp same
  obtain ⟨sameTable, sameShard⟩ := numbered_injective tables
  exact ⟨eq_of_parts keyspaces sameTable, labels, sameShard⟩

theorem name_inj (same : s.name label = s'.name label') : s = s' ∧ label = label' := by
  obtain ⟨keyspaces, tables, labels⟩ := build_eq_iff.mp same
  exact ⟨eq_of_parts keyspaces tables, labels⟩

/-- The flat form alone tells the name. -/
theorem build_eq_iff_flat (label_ok : IsNamePart label) (table_ok : IsNamePart table)
    (label_ok' : IsNamePart label') (table_ok' : IsNamePart table') :
    s.build label table = s'.build label' table' ↔
      (s.build label table).flat = (s'.build label' table').flat := by
  refine ⟨congrArg MetricName.flat, fun same => ?_⟩
  have fields := congrArg MetricName.flatFields same
  rw [flatFields_build s label_ok table_ok, flatFields_build s' label_ok' table_ok'] at fields
  simp only [Prod.mk.injEq, List.cons.injEq, true_and, and_true] at fields
  exact build_eq_iff.mpr fields

/-- So do the scope and the label. -/
theorem build_eq_iff_scope :
    s.build label table = s'.build label' table' ↔
      ((s.build label table).scope, (s.build label table).name) =
        ((s'.build label' table').scope, (s'.build label' table').name) := by
  refine ⟨fun same => by rw [same], fun same => ?_⟩
  obtain ⟨scopes, labels⟩ := Prod.mk.inj same
  have keyspaces : (s.build label table).keyspace = (s'.build label' table').keyspace := by
    unfold MetricName.keyspace
    rw [scopes]
  have tables : (s.build label table).table? = (s'.build label' table').table? := by
    unfold MetricName.table?
    rw [scopes]
  simp only [keyspace_build, table?_build, Option.some.injEq] at keyspaces tables
  exact build_eq_iff.mpr ⟨keyspaces, tables, labels⟩

end TableScope

/-- An accepted name holds what was asked for, in its fields and in its flat form, and two accepted
names agree just when the requests ask for the same: shards of one table never meet, nor shards of
two, and the name of a table meets that of a shard just when it is written like it. -/
theorem accepted_names_tell_requests {q q' : NameRequest} {n n' : MetricName}
    (accepted : q.answer = .ok n) (accepted' : q'.answer = .ok n') :
    ∃ x x' : Naming, q = x.request ∧ q' = x'.request ∧
      (n.keyspace = x.keyspace ∧ n.table? = some x.tablePart ∧ n.name = x.label ∧
        MetricName.flatFields n.flat = (TableScope.group, [["type", TableScope.type],
          ["keyspace", x.keyspace], ["scope", x.tablePart], ["name", x.label]])) ∧
      (n = n' ↔ n.flat = n'.flat) ∧
      (n = n' ↔ (n.scope, n.name) = (n'.scope, n'.name)) ∧
      (x.shard.isSome → x'.shard.isSome → (n = n' ↔ x.keyspace = x'.keyspace ∧
        x.table = x'.table ∧ x.label = x'.label ∧ x.shard = x'.shard)) ∧
      (x.shard = none → ∀ i, x'.shard = some i → (n = n' ↔ x.keyspace = x'.keyspace ∧
        x.label = x'.label ∧ x.table = x'.table ++ "_" ++ toString i)) := by
  obtain ⟨s, label, shard, ok, rfl, rfl⟩ := NameRequest.answer_eq_ok_iff.mp accepted
  obtain ⟨s', label', shard', ok', rfl, rfl⟩ := NameRequest.answer_eq_ok_iff.mp accepted'
  have part : ∀ (s : TableScope) (label : String) (shard : Option Nat),
      (Naming.mk s.keyspace s.table label shard).tablePart = s.tablePart shard := by
    intro s label shard
    cases shard <;> rfl
  refine ⟨⟨s.keyspace, s.table, label, shard⟩, ⟨s'.keyspace, s'.table, label', shard'⟩, rfl, rfl,
    ⟨?_, ?_, rfl, ?_⟩, ?_, ?_, ?_, ?_⟩
  · rw [s.keyspace_build]
  · rw [s.table?_build, part]
  · rw [s.flatFields_build ok (s.isNamePart_tablePart shard), part]
  · exact TableScope.build_eq_iff_flat ok (s.isNamePart_tablePart shard) ok'
      (s'.isNamePart_tablePart shard')
  · exact TableScope.build_eq_iff_scope
  · intro sharded sharded'
    obtain ⟨i, rfl⟩ := Option.isSome_iff_exists.mp sharded
    obtain ⟨j, rfl⟩ := Option.isSome_iff_exists.mp sharded'
    rw [TableScope.build_eq_iff]
    constructor
    · rintro ⟨keyspaces, tables, labels⟩
      obtain ⟨table, shards⟩ := numbered_injective tables
      exact ⟨keyspaces, table, labels, congrArg some shards⟩
    · rintro ⟨keyspaces, tables, labels, shards⟩
      cases shards
      refine ⟨keyspaces, ?_, labels⟩
      exact congrArg (· ++ "_" ++ toString i) tables
  · rintro rfl i rfl
    rw [TableScope.build_eq_iff]
    exact and_congr_right fun _ => and_comm

/-- Table `t_1` and shard 1 of table `t` go by one name. -/
theorem accepted_names_tell_requests_shard_one :
    ∃ n n' : MetricName,
      (NameRequest.mk (.str "ks") (.str "t_1") (.str "GetMicros") none).answer = .ok n ∧
      (NameRequest.mk (.str "ks") (.str "t") (.str "GetMicros") (some (.int 1))).answer = .ok n' ∧
      n = n' ∧ n.table? = some "t_1" := by
  have ks : IsNamePart "ks" := TableScope.isNamePart_of_all (by decide) (by decide +kernel)
  have t1 : IsNamePart "t_1" := TableScope.isNamePart_of_all (by decide) (by decide +kernel)
  have t : IsNamePart "t" := TableScope.isNamePart_of_all (by decide) (by decide +kernel)
  have label : IsNamePart "GetMicros" :=
    TableScope.isNamePart_of_all (by decide) (by decide +kernel)
  let plain : TableScope := ⟨"ks", "t_1", ks, t1, by simp⟩
  let sharded : TableScope := ⟨"ks", "t", ks, t, by simp⟩
  have accepted := NameRequest.answer_eq_ok_iff.mpr ⟨plain, "GetMicros", none, label, rfl, rfl⟩
  have accepted' := NameRequest.answer_eq_ok_iff.mpr ⟨sharded, "GetMicros", some 1, label, rfl, rfl⟩
  obtain ⟨x, x', asked, asked', ⟨-, table, -, -⟩, -, -, -, meets⟩ :=
    accepted_names_tell_requests accepted accepted'
  obtain rfl := Naming.request_injective asked
  obtain rfl := Naming.request_injective asked'
  have written : "t_1" = "t" ++ "_" ++ toString 1 := by decide +kernel
  exact ⟨_, _, accepted, accepted', (meets rfl 1 rfl).mpr ⟨rfl, rfl, written⟩, table⟩

end StorageMetrics
