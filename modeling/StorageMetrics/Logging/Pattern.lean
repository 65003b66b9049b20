import StorageMetrics.Decimal.Layout
import StorageMetrics.Decimal.Rounded
import StorageMetrics.Text.Digit
import StorageMetrics.Text.Hex
import StorageMetrics.Text.Word
import StorageMetrics.Value.Text

/-
  Patterns: texts with conversions such as `%s`, `%05d` or `%(name)-8s`. A pattern is filled from a
  row of values, which must be used up, or from values under names, of which any can stay unused. A
  pattern that does not fit its values cannot be filled. A pattern of log records has to name a
  field, which is looked for by a search of its own: it knows the letters and digits of every script.
-/

namespace StorageMetrics.Logging

/-- A width or a precision: none, a number, or the next value. -/
inductive Extent where
  | none
  | fixed (n : Nat)
  | next
deriving DecidableEq, Inhabited

/-- One conversion of a pattern. -/
structure Conversion where
  key : Option String
  flags : List Char
  width : Extent
  precision : Extent
  kind : Char
deriving Inhabited

inductive Piece where
  | text (c : Char)
  | conversion (c : Conversion)
deriving Inhabited

/-- What a message is filled from: values in a row, or values under keys. -/
inductive Arguments where
  | row (values : List Value)
  | keyed (entries : List (Value × Value))
deriving Inhabited

namespace Arguments

/-- The values that are given with a message. A single mapping that is not empty stands for itself. -/
def ofList : List Value → Arguments
  | [.mapping (e :: entries)] => keyed (e :: entries)
  | values => row values

def isEmpty : Arguments → Bool
  | row values => values.isEmpty
  | keyed entries => entries.isEmpty

/-- All of them as one value. -/
def value : Arguments → Value
  | row values => .tuple values
  | keyed entries => .mapping entries

end Arguments

namespace Pattern

def isFlag (c : Char) : Bool := c = '-' || c = '+' || c = ' ' || c = '#' || c = '0'

def isAsciiDigit (c : Char) : Bool := '0' ≤ c && c ≤ '9'

/-- A key in parentheses, which may nest; `depth` counts those that are open. -/
def readKey (depth : Nat) : List Char → Option (List Char × List Char)
  | [] => none
  | ')' :: rest =>
    match depth with
    | 0 => some ([], rest)
    | d + 1 => (readKey d rest).map fun r => (')' :: r.1, r.2)
  | '(' :: rest => (readKey (depth + 1) rest).map fun r => ('(' :: r.1, r.2)
  | c :: rest => (readKey depth rest).map fun r => (c :: r.1, r.2)

/-- Nothing is written in a field wider than this, nor a number with more digits. -/
def widthLimit : Nat := Nat.pow 2 24

/-- No precision is greater. -/
def precisionLimit : Nat := Nat.pow 2 31 - 1

/-- A width or a precision up to a limit; without digits it is `empty`. -/
def readExtent (limit : Nat) (empty : Extent) (cs : List Char) : Option (Extent × List Char) :=
  match cs with
  | '*' :: rest => some (.next, rest)
  | _ =>
    let ds := cs.takeWhile isAsciiDigit
    let n := Decimal.ofDigits (ds.filterMap Decimal.asciiDigit?)
    if limit < n then none
    else some (if ds.isEmpty then empty else .fixed n, cs.dropWhile isAsciiDigit)

/-- A conversion after its percent sign. -/
def readConversion (cs : List Char) : Option (Conversion × List Char) := do
  let (key, cs) ← match cs with
    | '(' :: rest => (readKey 0 rest).map fun r => (some (String.ofList r.1), r.2)
    | cs => some (none, cs)
  let flags := cs.takeWhile isFlag
  let (width, cs) ← readExtent widthLimit .none (cs.dropWhile isFlag)
  let (precision, cs) ← match cs with
    | '.' :: rest => readExtent precisionLimit (.fixed 0) rest
    | cs => some (.none, cs)
  let cs := match cs with
    | c :: rest => if c = 'h' || c = 'l' || c = 'L' then rest else cs
    | [] => []
  match cs with
  | kind :: rest => some (⟨key, flags, width, precision, kind⟩, rest)
  | [] => none

/-- The pieces of a pattern, two percent signs standing for one; each takes at least one character,
so its length is fuel enough. -/
def pieces : Nat → List Char → Option (List Piece)
  | _, [] => some []
  | 0, _ => none
  | fuel + 1, '%' :: '%' :: rest => (pieces fuel rest).map (Piece.text '%' :: ·)
  | fuel + 1, '%' :: rest =>
    match readConversion rest with
    | some (c, rest) => (pieces fuel rest).map (Piece.conversion c :: ·)
    | none => none
  | fuel + 1, c :: rest => (pieces fuel rest).map (Piece.text c :: ·)

def parse (s : String) : Option (List Piece) := pieces s.length s.toList

/-! ## Filling -/

/-- Spaces, or zeros after sign and mark, up to the width. -/
def pad (c : Conversion) (width : Nat) (zeros : Bool) (sign body : List Char) : List Char :=
  let missing := width - (sign.length + body.length)
  if '-' ∈ c.flags then sign ++ body ++ List.replicate missing ' '
  else if zeros && '0' ∈ c.flags then sign ++ List.replicate missing '0' ++ body
  else List.replicate missing ' ' ++ sign ++ body

def signOf (c : Conversion) (negative : Bool) : List Char :=
  if negative then ['-']
  else if '+' ∈ c.flags then ['+']
  else if ' ' ∈ c.flags then [' ']
  else []

/-- A quoted text with every character beyond ASCII escaped. -/
def asciiOnly (cs : List Char) : List Char :=
  cs.flatMap fun c =>
    if c.toNat < 0x80 then [c]
    else if c.toNat < 0x100 then '\\' :: 'x' :: Text.hexDigits 2 c.toNat
    else if c.toNat < 0x10000 then '\\' :: 'u' :: Text.hexDigits 4 c.toNat
    else '\\' :: 'U' :: Text.hexDigits 8 c.toNat

def textBody (precision : Option Nat) (s : String) : List Char :=
  match precision with
  | some n => s.toList.take n
  | none => s.toList

/-- The digits of an integer in a base, at least `precision` of them. -/
def integerBody (base : Nat) (precision : Option Nat) (n : Int) : List Char :=
  let ds := Nat.toDigits base n.natAbs
  List.replicate (precision.getD 0 - ds.length) '0' ++ ds

/-- One digit, the others after a point, and the exponent; `pointed` keeps a point that nothing
follows. -/
def scientificBody (pointed : Bool) (digits : List Char) (e : Int) : List Char :=
  let mantissa := match digits with
    | d :: rest => if rest.isEmpty && !pointed then [d] else d :: '.' :: rest
    | [] => []
  mantissa ++ 'e' :: (Decimal.exponentText e).toList

def dropEndZeros (cs : List Char) : List Char :=
  if '.' ∈ cs then
    let cs := (cs.reverse.dropWhile (· = '0'))
    (match cs with
      | '.' :: rest => rest
      | cs => cs).reverse
  else cs

/-- A point at the end, unless there is one already. -/
def keepPoint (cs : List Char) : List Char := if '.' ∈ cs then cs else cs ++ ['.']

/-- No double has a digit other than zero after so many significant ones. -/
def digitLimit : Nat := 1100

/-- At most `precision` significant digits: positional from 1e-4 on as long as the precision covers
the whole part, else with an exponent. The alternate form keeps all the digits and the point, the
other one drops the zeros at the end. -/
def generalBody (alternate : Bool) (precision : Nat) (b : Decimal.Binary) : List Char :=
  let count := max precision 1
  let (ds, e) := b.significant (min count digitLimit)
  let asked := if alternate then count else min count digitLimit
  if -4 ≤ e ∧ e < count then
    let body := b.fixed ((asked : Int) - 1 - e).toNat
    if alternate then keepPoint body else dropEndZeros body
  else
    let trimmed :=
      if alternate then ds ++ List.replicate (count - ds.length) '0'
      else (ds.reverse.dropWhile (· = '0')).reverse
    scientificBody alternate (if trimmed.isEmpty then ['0'] else trimmed) e

/-- A finite float that is not below zero, under `e`, `f` or `g`. -/
def floatBody (kind : Char) (alternate : Bool) (precision : Nat) (b : Decimal.Binary) : List Char :=
  match kind with
  | 'f' => if alternate then keepPoint (b.fixed precision) else b.fixed precision
  | 'e' =>
    let (ds, e) := b.significant (min (precision + 1) digitLimit)
    scientificBody alternate (ds ++ List.replicate (precision + 1 - ds.length) '0') e
  | _ => generalBody alternate precision b

/-- A float without its sign. -/
def floatText (c : Conversion) (kind : Char) (precision : Option Nat) (x : Float) : List Char :=
  match Magnitude.ofFloat x with
  | .nan => "nan".toList
  | .infinite | .negInfinite => "inf".toList
  | .finite _ => floatBody kind ('#' ∈ c.flags) (precision.getD 6) (Decimal.Binary.ofFloat x)

/-- The integer that a whole number, or for decimals a float, stands for. -/
def integerOf (allowFloat : Bool) (v : Value) : Option Int :=
  match v.number? with
  | some (.int n) => some n
  | some (.float x) => if allowFloat then ((Number.float x).truncate).toOption else none
  | none => none

/-- The general form without its marks leaves the digits out that a precision asks for in vain; any
other number spells all of them out. -/
def isSpelledOut (c : Conversion) : Bool :=
  match c.kind with
  | 'g' | 'G' => '#' ∈ c.flags
  | 's' | 'r' | 'a' | 'c' => false
  | _ => true

/-- The text of a value under a conversion; `none` where they do not fit. -/
def fill (c : Conversion) (width : Nat) (precision : Option Nat) (v : Value) : Option (List Char) :=
  let integer (base : Nat) (mark : List Char) (upper allowFloat : Bool) : Option (List Char) := do
    let n ← integerOf allowFloat v
    if base = 10 && !(Value.int n).isWritable then none
    let mark := if '#' ∈ c.flags then mark else []
    let raise (cs : List Char) : List Char := if upper then cs.map Char.toUpper else cs
    return pad c width true (signOf c (n < 0) ++ raise mark) (raise (integerBody base precision n))
  let float (kind : Char) (upper : Bool) : Option (List Char) := do
    let n ← v.number?
    let x ← n.toFloat.toOption
    let body := floatText c kind precision x
    let body := if upper then body.map Char.toUpper else body
    return pad c width true (signOf c (x.toBits.toNat / Nat.pow 2 63 = 1)) body
  let text (s : String) : Option (List Char) :=
    if v.isWritable then some (pad c width false [] (textBody precision s)) else none
  match c.kind with
  | 's' => text v.plain
  | 'r' => text v.shown
  | 'a' => text (String.ofList (asciiOnly v.shown.toList))
  | 'd' | 'i' | 'u' => integer 10 [] false true
  | 'o' => integer 8 ['0', 'o'] false false
  | 'x' => integer 16 ['0', 'x'] false false
  | 'X' => integer 16 ['0', 'x'] true false
  | 'e' | 'f' | 'g' => float c.kind false
  | 'E' | 'F' | 'G' => float c.kind.toLower true
  | 'c' =>
    match v with
    | .str s => if s.length = 1 then some (pad c width false [] s.toList) else none
    | v => (integerOf false v).bind fun n =>
      if h : n.toNat.isValidChar ∧ 0 ≤ n then
        some (pad c width false [] [Char.ofNatAux n.toNat h.1]) else none
  | _ => none

/-- An extent, taken from the values where the pattern says so; one taken from there lies between
`least` and `most`. -/
def resolveExtent (least most : Int) (e : Extent) (args : List Value) :
    Option (Option Int × List Value) :=
  match e, args with
  | .none, args => some (none, args)
  | .fixed n, args => some (some n, args)
  | .next, .int n :: rest => if least ≤ n ∧ n ≤ most then some (some n, rest) else none
  | .next, .bool b :: rest => some (some (if b then 1 else 0), rest)
  | .next, _ => none

/-- A width below zero asks for the left edge. -/
def leftward (width : Int) (c : Conversion) : Conversion :=
  if width < 0 then { c with flags := '-' :: c.flags } else c

/-- Fills the pieces: a named conversion takes its field, any other takes the next of the values at
hand. Gives the values that are left over, too. -/
def fillPieces (field : String → Option Value) :
    List Piece → List Value → Option (List Char × List Value)
  | [], args => some ([], args)
  | .text c :: rest, args => (fillPieces field rest args).map fun r => (c :: r.1, r.2)
  | .conversion c :: rest, args => do
    let args ← match c.key with
      | some key => (field key).map ([·])
      | none => some args
    let (width, args) ← resolveExtent (-widthLimit) widthLimit c.width args
    let (precision, args) ← resolveExtent (-precisionLimit - 1) precisionLimit c.precision args
    match args with
    | [] => none
    | v :: args => do
      let width := width.getD 0
      let precision := precision.map Int.toNat
      if isSpelledOut c && widthLimit < precision.getD 0 then none
      let here ← fill (leftward width c) width.natAbs precision v
      let (others, args) ← fillPieces field rest args
      return (here ++ others, args)

/-- Fills the pieces from a list of values, all of which must be used. -/
def fillList (pieces : List Piece) (args : List Value) : Option (List Char) :=
  match fillPieces (fun _ => none) pieces args with
  | some (text, []) => some text
  | _ => none

/-- Fills the pieces from values under names. The first conversion without a name takes all of them
at once, if none with a name stands before it. -/
def fillNamed (field : String → Option Value) (whole : Value) (pieces : List Piece) :
    Option (List Char) :=
  (fillPieces field pieces [whole]).map (·.1)

def fillFields (fields : List (String × Value)) (pieces : List Piece) : Option (List Char) :=
  fillNamed (fun name => fields.lookup name) (.record fields) pieces

/-- Keys that are no texts are never asked for. -/
def fillMapping (entries : List (Value × Value)) (pieces : List Piece) : Option (List Char) :=
  fillNamed (fun name => (entries.find? (·.1.text? = some name)).map (·.2)) (.mapping entries) pieces

def fillArguments (args : Arguments) (pieces : List Piece) : Option (List Char) :=
  match args with
  | .row values => fillList pieces values
  | .keyed entries => fillMapping entries pieces

/-- A message: without values it stands as it is, percent signs included. -/
def message (pattern : String) (args : Arguments) : Option String :=
  if args.isEmpty then some pattern
  else ((parse pattern).bind (fillArguments args)).map String.ofList

/-! ## Which patterns name a field -/

/-- The kinds of conversions that can follow a field, in both cases. Three letters beyond ASCII are
the other case of an `i` or an `s`. -/
def isKind (c : Char) : Bool := c.toLower ∈ "diouxefgcrsa%ıİſ".toList

/-- A star or digits, where there are any. -/
def dropExtent : List Char → List Char
  | '*' :: rest => rest
  | cs => cs.dropWhile Text.isDigit

/-- A point and what it asks for; a point alone stays. -/
def dropPrecision : List Char → List Char
  | '.' :: '*' :: rest => rest
  | '.' :: c :: rest => if Text.isDigit c then rest.dropWhile Text.isDigit else '.' :: c :: rest
  | cs => cs

/-- A complete conversion with a word as its key stands at the start. -/
def startsWithField : List Char → Bool
  | '%' :: '(' :: rest =>
    match rest.dropWhile Text.isWord with
    | ')' :: after =>
      rest.head?.any Text.isWord &&
        (dropPrecision (dropExtent (after.dropWhile isFlag))).head?.any isKind
    | _ => false
  | _ => false

/-- Some conversion of the pattern names a field. -/
def namesField : List Char → Bool
  | [] => false
  | c :: rest => startsWithField (c :: rest) || namesField rest

end Pattern

end StorageMetrics.Logging
