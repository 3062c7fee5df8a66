import SqlGateway.Sqlite.Program

/-!
# Plans

In which order a query visits the rows of its table. A table is visited by key, or in the order of
an index on a column that holds every cell once. Where a query leaves the order of its rows open,
this order shows, and so does it among rows that are equal to sort by.

SQLite chooses the order by an estimate of costs. Sizes and costs are estimated as logarithms, ten
to a doubling, and any table is taken to have about a million rows, of which a condition leaves a
part that depends on its form alone. There is a candidate for each order that may be of use: all
rows, or those between the bounds of a condition. The cheapest one is taken, where the cost of
sorting is added if the rows do not come in the order that is asked for.

## Main definitions

* `Survey`: what the choice depends on.
* `Candidate`: a way to visit rows, with its estimates.
* `Survey.choose`: the choice.
-/

namespace SqlGateway.Sqlite

/-! ## Logarithmic estimates -/

/-- A size or a cost as a logarithm, ten to a doubling. -/
abbrev Estimate := Int

namespace Estimate

/-- The estimate of a number. Three bits behind the first one are looked at. -/
def ofNat (n : Nat) : Estimate :=
  if n < 2 then 0
  else
    let bits := n.log2
    let leading := if bits < 3 then n * Nat.pow 2 (3 - bits) else n / Nat.pow 2 (bits - 3)
    10 * bits + [0, 2, 3, 5, 6, 7, 8, 9].getD (leading - 8) 0

/-- What the estimate of a sum is above the greater one of two estimates that differ by so much. -/
def surplus (difference : Nat) : Estimate :=
  if 49 < difference then 0
  else [10, 10, 9, 9, 8, 8, 7, 7, 7, 6, 6, 6, 5, 5, 5, 4, 4, 4, 4, 3, 3, 3, 3, 3, 3, 2, 2, 2, 2, 2,
    2, 2].getD difference 1

/-- The estimate of a sum. -/
def sum (a b : Estimate) : Estimate := max a b + surplus (a - b).natAbs

/-- The estimate of the logarithm of a number. -/
def log (n : Estimate) : Estimate := if n ≤ 10 then 0 else ofNat n.toNat - 33

end Estimate

/-! ## Widths -/

/-- The number that a size in a type writes; beyond 31 bits it does not count. -/
def sizeOf (cs : List Char) : Nat :=
  let n := Text.natural ((cs.dropWhile (!Char.isDigit ·)).takeWhile Char.isDigit)
  if n < 0x80000000 then n else 0

/-- The text behind the last occurrence of `part`. -/
def behindLast? (part : List Char) : List Char → Option (List Char)
  | [] => none
  | c :: cs =>
    match behindLast? part cs with
    | some behind => some behind
    | none =>
      if part.isPrefixOf (c :: cs) then some ((c :: cs).drop part.length) else none

/-- The width of a column of a declared type, in units of four bytes: of a text or a blob with a
size it is that size, and without a size it is five. -/
def widthOf (declared : String) : Nat :=
  let type := Text.folded declared
  let width (size : Nat) : Nat := min (size / 4 + 1) 255
  match Affinity.ofType declared with
  | .text =>
    match behindLast? "char".toList type with
    | some behind => width (sizeOf behind)
    | none => 5
  | .blob =>
    if declared.isEmpty then 1
    else match behindLast? "blob(".toList type with
      | some behind => width (sizeOf behind)
      | none => 5
  | _ => 1

/-! ## Surveys -/

/-- How a condition tests a field. -/
inductive Test where
  /-- It equals something, which may be known to be one of the least integers. -/
  | equal (small : Bool)
  | isNull
  | isPresent
  | above
  | below
  /-- Some test that helps to find no rows. -/
  | other
deriving Repr, DecidableEq, Inhabited

/-- A condition, one of those that all have to hold. -/
structure Condition where
  /-- The fields that it reads. -/
  fields : List Field
  /-- The field that it tests against something that is the same for all rows. -/
  subject : Option Field
  test : Test
deriving Repr, Inhabited

/-- What the choice of an order depends on. -/
structure Survey where
  table : Table
  /-- The fields that are read. -/
  read : List Field
  /-- How many columns the result has. -/
  width : Nat
  conditions : List Condition
  /-- The fields to sort by, if they are fields, and whether they descend. -/
  order : List (Option Field × Bool)
  /-- How many rows are asked for, if that is known and fits 32 bits. -/
  limit : Option Nat

/-- The conditions that an expression consists of. -/
def conditionsOf : Expr Field → List Condition
  | .and left right => conditionsOf left ++ conditionsOf right
  | expr =>
    let fields := expr.names
    let comparison (subject : Field) (bound : Expr Field) (comparison : Comparison) : Condition :=
      let test : Test := match comparison, bound with
        | .equal, .literal (.integer i) => .equal (-1 ≤ i && i ≤ 1)
        | .equal, _ => .equal false
        | .notEqual, _ => .other
        | .less, _ => .below
        | .lessOrEqual, _ => .below
        | .greater, _ => .above
        | .greaterOrEqual, _ => .above
      ⟨fields, if bound.names.isEmpty then some subject else none, test⟩
    if fields.isEmpty then []
    else match expr with
      | .compare c (.name subject) bound => [comparison subject bound c]
      | .compare c bound (.name subject) => [comparison subject bound c.swapped]
      | .isNull (.name subject) => [⟨fields, some subject, .isNull⟩]
      | .not (.isNull (.name subject)) => [⟨fields, some subject, .isPresent⟩]
      | _ => [⟨fields, none, .other⟩]

namespace Survey

/-- What is to be known of a selection from a table. A single row that counts the others is not
sorted. -/
def ofSelection (table : Table) (selection : Selection) : Survey where
  table
  read :=
    selection.results.flatMap (·.2.names) ++ (selection.condition.map Expr.names).getD [] ++
      selection.order.flatMap (·.1.names)
  width := selection.results.length
  conditions := (selection.condition.map conditionsOf).getD []
  order :=
    if selection.counts then []
    else selection.order.map fun (value, descending) ↦ match value with
      | .name field => (some field, descending)
      | _ => (none, descending)
  limit := match selection.limit with
    | some (.literal (.integer i)) =>
      if 0 < i && Estimate.ofNat i.toInt.toNat < 320 then some i.toInt.toNat else none
    | _ => none

/-- The number of rows that a table is taken to have. -/
def rows : Estimate := 200

/-- The cost of finding a row. -/
def seek : Estimate := .log rows

/-- Whether a field is never empty. -/
def neverNull (survey : Survey) : Field → Bool
  | .key => true
  | .column index => ((survey.table.columns[index]?).map (·.notNull)).getD false

/-- The width of a column. -/
def columnWidth (survey : Survey) (index : Nat) : Nat :=
  ((survey.table.columns[index]?).map fun column ↦ widthOf column.type).getD 1

/-- The size of a row. -/
def rowSize (survey : Survey) : Estimate :=
  let width := survey.table.columns.foldl (fun n column ↦ n + widthOf column.type) 0
  .ofNat (4 * (width + if survey.table.keyIndex?.isSome then 0 else 1))

/-- The size of an entry of the index on a column. -/
def entrySize (survey : Survey) (index : Nat) : Estimate :=
  .ofNat (4 * (survey.columnWidth index + 1))

/-- Whether the index on a column holds all that is read. -/
def isCovered (survey : Survey) (index : Nat) : Bool :=
  survey.read.all fun field ↦ field == .key || field == .column index

/-- The number of rows that are left of `visited` ones by the conditions that the way of visiting
does not make sure of. -/
def leftBy (survey : Survey) (visited : Estimate) (ensured : List Nat) : Estimate :=
  let others := (survey.conditions.zipIdx.filter (!ensured.contains ·.2)).map Prod.fst
  let reduction (condition : Condition) : Estimate := match condition.test with
    | .equal true => 10
    | .equal false => 20
    | _ => 0
  min (visited - others.length) (rows - (others.map reduction).foldl max 0)

end Survey

/-! ## Candidates -/

/-- A way to visit rows. -/
structure Candidate where
  /-- The column whose index is followed; without one, the rows are visited by key. -/
  index : Option Nat
  /-- The order that it is good for, if it is good for one. -/
  sorts : Option (Option Nat)
  cost : Estimate
  /-- How many rows are left. -/
  rows : Estimate
  /-- Whether bounds are used. -/
  isBounded : Bool
  /-- Whether the bound is a single cell. -/
  isPoint : Bool
deriving Repr, Inhabited

/-- Put a candidate to the ones that are good for other orders, unless one that is good for the
same is no worse; those that are no better are dropped. -/
def Candidate.enter (candidate : Candidate) : List Candidate → List Candidate
  | [] => [candidate]
  | first :: rest =>
    if first.sorts ≠ candidate.sorts then first :: candidate.enter rest
    else if first.cost ≤ candidate.cost ∧ first.rows ≤ candidate.rows then first :: rest
    else if candidate.cost ≤ first.cost ∧ candidate.rows ≤ first.rows then
      candidate :: rest.filter fun other ↦ other.sorts ≠ candidate.sorts ||
        other.cost < candidate.cost || other.rows < candidate.rows
    else first :: candidate.enter rest

namespace Survey

/-- Whether the rows in the order of an index, or by key, might not have to be sorted. -/
def mightSort (survey : Survey) (index : Option Nat) : Bool :=
  survey.order.any fun (field, _) ↦ field == some .key ||
    (index.isSome && field == index.map .column)

/-- The cost of visiting so many entries, and the rows behind them unless the index holds all that
is read. By key, rows are found directly. -/
def visitCost (survey : Survey) (index : Option Nat) (entries : Estimate) : Estimate :=
  match index with
  | none => .sum seek (entries + 16)
  | some index =>
    let scan := .sum seek (entries + 1 + 15 * survey.entrySize index / survey.rowSize)
    if survey.isCovered index then scan else .sum scan (entries + 16)

/-- The cost of visiting all entries of an index, and the rows behind those that the first
conditions leave, as far as the index decides them. -/
def scanCost (survey : Survey) (index : Nat) : Estimate :=
  let scan := rows + 1 + 15 * survey.entrySize index / survey.rowSize
  if survey.isCovered index then scan
  else
    let decided := survey.conditions.takeWhile fun condition ↦
      condition.fields.all fun field ↦ field == .key || field == .column index
    let saved (condition : Condition) : Estimate := match condition.test with
      | .equal _ => 20
      | _ => 1
    .sum scan (rows + 16 - decided.foldl (fun n condition ↦ n + saved condition) 0)

/-- The candidates that visit all rows. The entries of an index are visited if that helps to sort,
or if they hold all that is read and are smaller than the rows. -/
def scans (survey : Survey) (index : Option Nat) : List Candidate :=
  let sorts := if survey.mightSort index then some index else none
  let left := survey.leftBy rows []
  match index with
  | none => [⟨none, sorts, rows + 16, left, false, false⟩]
  | some column =>
    if sorts.isSome ||
        (survey.isCovered column && survey.entrySize column < survey.rowSize) then
      [⟨index, sorts, survey.scanCost column, left, false, false⟩]
    else []

/-- The candidates that visit rows between bounds. -/
def searches (survey : Survey) (index : Option Nat) : List Candidate :=
  let subject : Field := (index.map Field.column).getD .key
  let sorts := if survey.mightSort index then some index else none
  let candidate (entries : Estimate) (ensured : List Nat) (isPoint : Bool) : Candidate :=
    ⟨index, sorts, survey.visitCost index entries, survey.leftBy entries ensured, true, isPoint⟩
  let tests := survey.conditions.zipIdx.filter fun (condition, _) ↦
    condition.subject == some subject
  let upwards (entries between : Estimate) (place : Nat) : List Candidate :=
    candidate entries [place] false ::
      (tests.filter fun (other, _) ↦ other.test == .below).map fun (_, upper) ↦
        candidate between [place, upper] false
  tests.flatMap fun (condition, place) ↦ match condition.test with
    | .isNull => if survey.neverNull subject then [] else [candidate 10 [place] true]
    | .isPresent =>
      if survey.neverNull subject then [] else upwards (rows - 1) (rows - 40) place
    | .below => [candidate (rows - 20) [place] false]
    | .above => upwards (rows - 20) (rows - 60) place
    | _ => []

/-- All candidates. -/
def candidates (survey : Survey) : List Candidate :=
  (none :: survey.table.indexed.map some).foldl (fun candidates index ↦
    (survey.scans index ++ survey.searches index).foldl (fun candidates candidate ↦
      candidate.enter candidates) candidates) []

/-! ## Sorting -/

/-- The sort keys that are the same for all rows, by their places. -/
def settledKeys (survey : Survey) : List Nat :=
  survey.order.zipIdx.filterMap fun ((field, _), place) ↦
    if field.isSome && survey.conditions.any (fun condition ↦ condition.subject == field &&
        (condition.test == .isNull || condition.test == .equal true ||
          condition.test == .equal false))
    then some place else none

/-- How far the rows come in the order that is asked for. -/
structure Sortedness where
  /-- The places of the sort keys that the rows are sorted by. -/
  keys : List Nat
  /-- Whether the rows are visited backwards, if that is decided. -/
  backwards : Option Bool
  /-- Whether no two rows are equal so far. -/
  distinct : Bool
deriving Repr, Inhabited

/-- Follow the fields that an order is made of, as long as the next sort key is the same. -/
def sortedBy (survey : Survey) : List Field → Sortedness → Sortedness
  | [], sorted => sorted
  | field :: rest, sorted =>
    let next := survey.order.zipIdx.find? fun (_, place) ↦ !sorted.keys.contains place
    match next with
    | some ((some wanted, descending), place) =>
      if wanted = field ∧ sorted.backwards.getD descending = descending then
        survey.sortedBy rest ⟨place :: sorted.keys, some descending,
          sorted.distinct || field == .key⟩
      else sorted
    | _ => sorted

/-- How far the rows of a candidate come in order. Behind a single cell of an index they come by
key. Where a cell may occur once only, nothing is left to sort by behind it. -/
def sortedness (survey : Survey) (candidate : Candidate) : Sortedness :=
  let start : Sortedness := ⟨survey.settledKeys, none, false⟩
  match candidate.index with
  | none => survey.sortedBy [.key] start
  | some index =>
    if candidate.isPoint then survey.sortedBy [.key] start
    else
      let first := survey.sortedBy [.column index] start
      if first.keys.length = start.keys.length then first
      else survey.sortedBy [.key] { first with distinct := survey.neverNull (.column index) }

/-- How many of the first sort keys the rows are sorted by. -/
def Sortedness.count (sorted : Sortedness) (keys : Nat) : Nat :=
  if sorted.distinct then keys
  else ((List.range keys).takeWhile sorted.keys.contains).length

/-- The cost of sorting so many rows, of which the first `sorted` keys need not be sorted by. -/
def sortCost (survey : Survey) (rows : Estimate) (sorted : Nat) : Estimate :=
  let keys := survey.order.length
  let whole := rows + .ofNat ((survey.width + 59) / 30)
  let part := if sorted = 0 then whole else whole + .ofNat ((keys - sorted) * 100 / keys) - 66
  match survey.limit with
  | some n => part + 10 + (if sorted = 0 then 0 else 6) + .log (min rows (.ofNat n))
  | none => part + .log rows

/-! ## The choice -/

/-- What candidates are compared by: the whole cost, the rows, and the cost without sorting. -/
def rating (survey : Survey) (sortedRows : Option Estimate) (candidate : Candidate) :
    Estimate × Estimate × Estimate :=
  let keys := survey.order.length
  let done := ((survey.sortedness candidate)).count keys
  match sortedRows with
  | some rows =>
    if done < keys then
      (.sum candidate.cost (survey.sortCost rows done) + 3, candidate.rows, candidate.cost)
    else (candidate.cost, candidate.rows, candidate.cost - 2)
  | none => (candidate.cost, candidate.rows, candidate.cost - 2)

/-- Whether a rating is better. -/
def isBetter (a b : Estimate × Estimate × Estimate) : Bool :=
  a.1 < b.1 || (a.1 == b.1 && (a.2.1 < b.2.1 || (a.2.1 == b.2.1 && a.2.2 < b.2.2)))

/-- The first of the best candidates. -/
def best (survey : Survey) (sortedRows : Option Estimate) : List Candidate → Option Candidate
  | [] => none
  | first :: rest => some <| rest.foldl (fun best candidate ↦
      if isBetter (survey.rating sortedRows candidate) (survey.rating sortedRows best)
      then candidate else best) first

/-- An order in which rows are visited. -/
structure Visit where
  index : Option Nat
  backwards : Bool
deriving Repr, DecidableEq, Inhabited

/-- The candidate that a query takes. It is chosen without regard to sorting first, which tells how
many rows would have to be sorted. If that one looks for a single cell, all rows are never visited
only to have them sorted. -/
def choose (survey : Survey) : Visit :=
  let candidates := survey.candidates
  let chosen := match survey.best none candidates with
    | none => default
    | some unsorted =>
      if survey.order.isEmpty then unsorted
      else
        let allowed :=
          if unsorted.isPoint then candidates.filter (·.isBounded) else candidates
        (survey.best (some (unsorted.rows + 1)) allowed).getD unsorted
  ⟨chosen.index, (survey.sortedness chosen).backwards.getD false⟩

end Survey

/-- The rows of a table in the order of a visit. -/
def Survey.Visit.rows (visit : Survey.Visit) (table : Table) : List Row :=
  let forwards := match visit.index with
    | none => table.rows
    | some index => table.rows.mergeSort fun a b ↦
        Cell.order (a.cells.getD index .null) (b.cells.getD index .null) != .gt
  if visit.backwards then forwards.reverse else forwards

end SqlGateway.Sqlite
