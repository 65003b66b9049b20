/-
  Parts of the things that a host knows, by name: what kind of thing each of them is. A refusal
  names the kind of what was offered in the place of an instrument. Parts of which more than the
  kind can be told are not listed here.
-/

namespace StorageMetrics.Host

/-- Names of parts by their kind; the names stand one after the other. A kind can come again. -/
abbrev PartTable := List (String × String)

/-- The kind of the first row that holds the name. -/
def PartTable.kindOf? (t : PartTable) (name : String) : Option String :=
  (t.find? fun row => name.toList ∈ row.2.toList.splitOn ' ').map (·.1)

/-- The kind of what a plain value can do. -/
def skill : String := "builtin_function_or_method"

/-- The kind of a skill that an operation stands for. -/
def operation : String := "method-wrapper"

def textParts : PartTable :=
  [(operation, "__add__ __contains__ __getitem__ __mod__ __mul__ __rmod__ __rmul__"),
   (skill, "__getnewargs__"),
   (skill, "capitalize casefold center count encode endswith expandtabs find format format_map"),
   (skill, "index isalnum isalpha isascii isdecimal isdigit isidentifier islower isnumeric"),
   (skill, "isprintable isspace istitle isupper join ljust lower lstrip maketrans partition"),
   (skill, "removeprefix removesuffix replace rfind rindex rjust rpartition rsplit rstrip split"),
   (skill, "splitlines startswith strip swapcase title translate upper zfill")]

def setParts : PartTable :=
  [(operation, "__and__ __iand__ __ior__ __isub__ __ixor__ __or__ __rand__ __ror__ __rsub__ __rxor__"),
   (operation, "__sub__ __xor__"), (skill, "__class_getitem__ __contains__"),
   (skill, "add clear copy difference difference_update discard intersection intersection_update"),
   (skill, "isdisjoint issubset issuperset pop remove symmetric_difference"),
   (skill, "symmetric_difference_update union update"), ("NoneType", "__hash__")]

def listParts : PartTable :=
  [(operation, "__add__ __contains__ __delitem__ __iadd__ __imul__ __mul__ __rmul__ __setitem__"),
   (skill, "__class_getitem__ __getitem__ __reversed__"),
   (skill, "append clear copy count extend index insert pop remove reverse sort"),
   ("NoneType", "__hash__")]

def dictionaryParts : PartTable :=
  [(operation, "__delitem__ __ior__ __or__ __ror__ __setitem__"),
   (skill, "__class_getitem__ __contains__ __getitem__ __reversed__"),
   (skill, "clear copy fromkeys get items keys pop popitem setdefault update values"),
   ("NoneType", "__hash__")]

/-- Parts of every number. -/
def numberParts : PartTable :=
  [(operation, "__abs__ __add__ __bool__ __divmod__ __float__ __floordiv__ __int__ __mod__ __mul__"),
   (operation, "__neg__ __pos__ __pow__ __radd__ __rdivmod__ __rfloordiv__ __rmod__ __rmul__ __rpow__"),
   (operation, "__rsub__ __rtruediv__ __sub__ __truediv__"),
   (skill, "__ceil__ __floor__ __getnewargs__ __round__ __trunc__ as_integer_ratio conjugate")]

/-- Parts of every whole number. -/
def wholeNumberParts : PartTable :=
  [(operation, "__and__ __index__ __invert__ __lshift__ __or__ __rand__ __rlshift__ __ror__ __rrshift__"),
   (operation, "__rshift__ __rxor__ __xor__"),
   (skill, "bit_count bit_length from_bytes to_bytes")] ++ numberParts

/-- Parts of everything that is run when it is called. -/
def functionParts : PartTable :=
  [(operation, "__call__ __get__"), ("str", "__qualname__ __module__"),
   ("dict", "__dict__ __globals__ __annotations__ __builtins__"), ("code", "__code__"),
   ("NoneType", "__closure__ __defaults__ __kwdefaults__")]

/-- Parts of every kind of things. -/
def kindKindParts : PartTable :=
  [("str", "__qualname__ __module__"), ("mappingproxy", "__dict__"), ("tuple", "__mro__ __bases__"),
   (skill, "mro"), ("function", "__init__")]

/-- Parts of every record. -/
def recordParts : PartTable :=
  [("dict", "__dict__"), ("str", "__module__"), ("NoneType", "__weakref__"), ("method", "__init__")]

/-- Parts of every record that cannot be changed. -/
def fixedRecordParts : PartTable :=
  [("method", "__delattr__ __eq__ __hash__ __repr__ __setattr__"),
   ("_DataclassParams", "__dataclass_params__")] ++ recordParts

def registryParts : PartTable :=
  [("method", "register counter histogram remove get names items family_name get_sample_value"),
   ("method", "_attach_collector _failures_counter _new_family _add_sample _build_families"),
   ("method", "__contains__ __len__"), ("RLock", "_lock")] ++ recordParts

def targetParts : PartTable :=
  [("method", "register unregister collect restricted_registry get_sample_value set_target_info"),
   ("method", "get_target_info _get_names _target_info_metric"), ("lock", "_lock"),
   ("bool", "_auto_describe"), ("NoneType", "_target_info")] ++ recordParts

/-- Parts of a series, of a counter if it is one. -/
def seriesParts (isCounter : Bool) : PartTable :=
  (if isCounter then [("method", "inc reset count_exceptions")]
    else [("method", "observe time"), ("tuple", "DEFAULT_BUCKETS")]) ++
  [("method", "labels remove remove_by_labels clear collect describe"), ("float", "_created"),
   ("tuple", "_reserved_labelnames")] ++ recordParts

/-- Parts of what goes by this kind's name, its own ones. -/
def ownParts (kind : String) : PartTable :=
  match kind with
  | "RocksDBTableMetrics" =>
    [("method", "release sharded_identities _level_reader _name _gauge _create_sharded_metrics"),
     ("NoneType", "__doc__")] ++ recordParts
  | "RocksMetricsContext" => [("method", "table_metrics"), ("NoneType", "__doc__")] ++ recordParts
  | "MetricsRegistry" => registryParts
  | "CollectorRegistry" => targetParts
  | "FakeStatistics" =>
    [("method", "get_histogram_data get_ticker_count"), ("NoneType", "__doc__")] ++ recordParts
  | "FakeEngine" =>
    [("method", "sstable_count_by_level pending_compaction_bytes estimated_live_data_size _check"),
     ("lock", "_lock")] ++ recordParts
  | "ThroughputManager" =>
    ("method", "record_outgoing record_incoming outgoing_throughput incoming_throughput") ::
      recordParts
  | "_Window" =>
    [("method", "add rate _evict __init__"), ("lock", "_lock"), ("str", "__module__"),
     ("tuple", "__slots__"), ("NoneType", "__doc__")]
  | "_RegistryCollector" => ("method", "describe collect") :: recordParts
  | "MutexValue" =>
    [("method", "inc set get set_exemplar get_exemplar"), ("NoneType", "_exemplar"),
     ("lock", "_lock"), ("bool", "_multiprocess")] ++ recordParts
  | "SimpleNamespace" =>
    [("function", "outgoing_throughput incoming_throughput"), ("dict", "__dict__"),
     ("NoneType", "__hash__")]
  | "RocksMetricNameFactory" =>
    [("method", "for_table create_metric_name create_sharded_metric_name _build __repr__")] ++
      recordParts
  | "TableIdentity" => fixedRecordParts
  | "deque" =>
    [(operation, "__add__ __contains__ __delitem__ __getitem__ __iadd__ __imul__ __mul__ __rmul__"),
     (operation, "__setitem__"), (skill, "__class_getitem__ __copy__ __reversed__"),
     (skill, "append appendleft clear copy count extend extendleft index insert pop popleft remove"),
     (skill, "reverse rotate"), ("NoneType", "maxlen __hash__")]
  | "MetricName" => ("method", "__str__") :: fixedRecordParts
  | "RocksMetricsSettings" => ("method", "__post_init__") :: fixedRecordParts
  | "Gauge" => [("method", "get_value"), ("NoneType", "__doc__")] ++ recordParts
  | "Counter" => ("method", "inc get_count") :: recordParts
  | "Histogram" => ("method", "update get_count get_sum buckets") :: recordParts
  | "StatsHistogram" => [("method", "get_snapshot"), ("NoneType", "__doc__")] ++ recordParts
  | "StatsCounter" => [("method", "get_count"), ("NoneType", "__doc__")] ++ recordParts
  | "MetricKind" | "HistogramType" | "TickerType" =>
    [("int", "_sort_order_"), ("EnumType", "__class__ __objclass__"), ("NoneType", "__doc__"),
     ("str", "__module__"), ("dict", "__dict__"), ("method", "__hash__")]
  | "list" => listParts
  | "tuple" =>
    [(operation, "__add__ __contains__ __getitem__ __mul__ __rmul__"),
     (skill, "__class_getitem__ __getnewargs__ count index")]
  | "dict" => dictionaryParts
  | "set" => setParts
  | "str" => textParts
  | "int" | "bool" => wholeNumberParts
  | "float" => (skill, "__getformat__ fromhex hex is_integer") :: numberParts
  | "NoneType" => [(operation, "__bool__"), ("NoneType", "__doc__")]
  | "method" => ("function", "__func__") :: functionParts
  | "function" => [("str", "__name__"), ("NoneType", "__doc__")] ++ functionParts
  | "builtin_function_or_method" =>
    [(operation, "__call__"), ("str", "__qualname__ __text_signature__"), ("NoneType", "__module__")]
  | "method-wrapper" =>
    [(operation, "__call__"), ("str", "__qualname__ __text_signature__"), ("type", "__objclass__")]
  | "lock" =>
    [(skill, "__enter__ __exit__ _at_fork_reinit acquire acquire_lock locked locked_lock release"),
     (skill, "release_lock"), ("str", "__module__")]
  | "RLock" =>
    [(skill, "__enter__ __exit__ _acquire_restore _at_fork_reinit _is_owned _recursion_count"),
     (skill, "_release_save acquire release"), ("str", "__module__"), ("NoneType", "__doc__")]
  | "type" =>
    [("wrapper_descriptor", "__delattr__ __eq__ __ge__ __getattribute__ __gt__ __hash__ __le__ __lt__"),
     ("wrapper_descriptor", "__ne__ __repr__ __setattr__ __str__"),
     ("method_descriptor", "__dir__ __format__ __getstate__ __reduce__ __reduce_ex__ __sizeof__"),
     ("getset_descriptor", "__weakref__")] ++ kindKindParts
  | "EnumType" =>
    [("method", "__contains__ __getitem__ __iter__ __len__"), ("mappingproxy", "__members__"),
     ("NoneType", "__doc__")] ++ kindKindParts
  | "code" =>
    [("bytes", "_co_code_adaptive co_code co_exceptiontable co_linetable co_lnotab"),
     (skill, "_varname_from_oparg co_lines co_positions replace"),
     ("int", "co_argcount co_firstlineno co_flags co_kwonlyargcount co_nlocals co_posonlyargcount"),
     ("int", "co_stacksize"), ("tuple", "co_cellvars co_consts co_freevars co_names co_varnames"),
     ("str", "co_filename co_name co_qualname")]
  | "mappingproxy" =>
    [(operation, "__contains__ __getitem__ __ior__ __iter__ __len__ __or__ __ror__"),
     (skill, "__class_getitem__ __reversed__ copy get items keys values"),
     ("NoneType", "__doc__ __hash__")]
  | _ => []

/-- Parts of everything that has members. -/
def memberParts (kind : String) : PartTable :=
  if kind ∈ ["list", "tuple", "dict", "set", "str", "deque"] then [(operation, "__len__ __iter__")]
  else []

/-- Parts that everything has. -/
def commonParts : PartTable :=
  [("type", "__class__"), ("str", "__doc__"),
   (skill, "__dir__ __format__ __getstate__ __init_subclass__ __new__ __reduce__ __reduce_ex__"),
   (skill, "__sizeof__ __subclasshook__"),
   (operation, "__delattr__ __eq__ __ge__ __getattribute__ __gt__ __hash__ __init__ __le__"),
   (operation, "__lt__ __ne__ __repr__ __setattr__ __str__")]

/-- The parts of what goes by this kind's name; its own ones come first. -/
def partsOf (kind : String) : PartTable := ownParts kind ++ memberParts kind ++ commonParts

/-- The names under which an item of this kind keeps its own parts. -/
def attributes (kind : String) : List String :=
  match kind with
  | "RocksDBTableMetrics" =>
    ["table", "registry", "_engine", "factory", "num_shards", "_identities", "ingest_time_histogram",
     "ingest_wait_time_histogram", "sstable_count_per_level", "pending_compaction_bytes",
     "estimate_live_data_size", "iter_move", "iter_seek", "iter_new"]
  | "RocksMetricsContext" =>
    ["settings", "engine", "registry", "throughput", "outgoing_throughput", "incoming_throughput"]
  | "MetricsRegistry" =>
    ["namespace", "_lock", "_metrics", "_family_types", "_family_members", "_collector_registry",
     "_collector", "gauge_failures"]
  | "CollectorRegistry" =>
    ["_collector_to_names", "_names_to_collectors", "_auto_describe", "_lock", "_target_info"]
  | "FakeStatistics" => ["histograms", "tickers", "histogram_reads", "ticker_reads"]
  | "FakeEngine" => ["_lock", "sstables", "pending", "live_size", "failing_levels", "fail_all"]
  | "ThroughputManager" => ["window_seconds", "_outgoing", "_incoming"]
  | "SimpleNamespace" => ["outgoing_throughput", "incoming_throughput"]
  | "RocksMetricNameFactory" => ["keyspace_name", "table_name"]
  | "TableIdentity" => ["keyspace", "name", "table_id"]
  | "MetricName" => ["group", "type", "name", "scope", "mbean_name"]
  | "RocksMetricsSettings" => ["max_levels", "namespace", "throughput_window_seconds", "strict"]
  | "Gauge" => ["_fn"]
  | "Counter" => ["_counter"]
  | "Histogram" => ["biased", "_histogram"]
  | "StatsHistogram" => ["stats", "histogram_type"]
  | "StatsCounter" => ["stats", "ticker_type"]
  | "_RegistryCollector" => ["_owner"]
  | "MutexValue" => ["_value", "_exemplar", "_lock"]
  | "MetricKind" | "HistogramType" | "TickerType" =>
    ["_value_", "_name_", "__objclass__", "_sort_order_"]
  | _ => []

/-- Parts that an item tells out of other ones, whatever is put under their names. -/
def derivedParts (kind : String) : List String :=
  ["__class__", "__dict__", "__weakref__"] ++
    match kind with
    | "RocksDBTableMetrics" => ["identities"]
    | "MetricsRegistry" => ["collector_registry"]
    | "_RegistryCollector" => ["namespace"]
    | "MetricName" => ["keyspace", "table"]
    | "MetricKind" | "HistogramType" | "TickerType" => ["name", "value"]
    | _ => []

/-- Parts that all things of a kind have in common. -/
def kindParts : List String :=
  ["__module__", "__doc__", "__slots__", "DEFAULT_BUCKETS", "_reserved_labelnames"]

/-- Records of these kinds cannot be changed. -/
def unchangeable : List String := ["TableIdentity", "RocksMetricsSettings", "MetricName"]

/-! ## Marks -/

/-- Things of these kinds take no marks. -/
def unmarkable : List String :=
  ["list", "tuple", "dict", "set", "str", "int", "float", "bool", "NoneType", "method",
   operation, skill, "code", "lock", "RLock", "_Window", "deque", "mappingproxy", "object"]

end StorageMetrics.Host
