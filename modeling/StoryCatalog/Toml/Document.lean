import StoryCatalog.Text.Utf8
import StoryCatalog.Toml.Scalar

/-!
# Documents of settings

A document is a sequence of statements: entries, and heads that say in which table the entries that
follow belong. A table may be declared by one head only, and a table or list that is written as a
value cannot be changed afterwards.
-/

namespace StoryCatalog

namespace Toml

/-- A table. -/
abbrev Table := List (Text × Datum)

/-! ## Keys and values -/

/-- A part of a key. -/
def keyPart : P Text := do
  match ← peek 0 with
  | some c =>
      if isBareKey c then
        let start ← get
        skip isBareKey
        textBetween start (← get)
      else if c = 0x27 then
        advance 1
        literalText
      else if c = 0x22 then
        advance 1
        basicText false
      else refuse .keyPart
  | none => refuse .keyPart

/-- A key: its parts have points between them. -/
def key : P Key := do
  let first ← keyPart
  skip isBlank
  repeatStep [first] fun parts => do
    if (← peek 0) ≠ some 0x2E then return .inr parts
    advance 1
    skip isBlank
    let part ← keyPart
    skip isBlank
    return .inl (parts ++ [part])

/-- A key, an equals sign and a value. -/
def entry (value : P Datum) : P (Key × Datum) := do
  let key ← key
  if (← peek 0) ≠ some 0x3D then refuse .equalsSign
  advance 1
  skip isBlank
  return (key, ← value)

/-- The items of a list behind its bracket. -/
def listItems (value : P Datum) : P Datum := do
  advance 1
  skipGap
  repeatStep ([] : List Datum) fun items => do
    if (← peek 0) == some 0x5D then
      advance 1
      return .inr (.list items)
    let items := items ++ [← value]
    skipGap
    let c ← peek 0
    if c == some 0x2C then
      advance 1
      skipGap
      return .inl items
    else if c == some 0x5D then return .inl items
    else refuse .unclosedArray

/-- Change the table that a key leads to from another table. Tables on the way are made where they
are missing. With `lists`, a list on the way stands for its last item. -/
def changeAt (lists : Bool) (change : Table → Option Table) : Key → Table → Option Table
  | [], table => change table
  | name :: rest, table =>
      match Datum.get? name table with
      | none => (changeAt lists change rest []).map fun inner => Datum.put name (.table inner) table
      | some (.table inner) =>
          (changeAt lists change rest inner).map fun inner => Datum.put name (.table inner) table
      | some (.list items) =>
          match lists, items.getLast? with
          | true, some (.table inner) =>
              (changeAt lists change rest inner).map fun inner =>
                Datum.put name (.list (items.dropLast ++ [.table inner])) table
          | _, _ => none
      | some _ => none

/-- One of the keys leads to the entry under a key or to a table around it. -/
def isFrozen (frozen : List Key) (key : Key) : Bool :=
  frozen.any fun path => path.isPrefixOf key

/-- The datum is a list or a table. -/
def isContainer : Datum → Bool
  | .list _ => true
  | .table _ => true
  | _ => false

/-- The name that a key ends in. -/
def lastName (key : Key) : Text :=
  key.getLast?.getD []

/-- Put an entry into a table that a key leads to. -/
def addEntry (lists : Bool) (key : Key) (value : Datum) (table : Table) : Option Table :=
  changeAt lists (fun inner => some (Datum.put (lastName key) value inner)) key.dropLast table

/-- The table that a key leads to has an entry for its last name. -/
def hasEntry (lists : Bool) (key : Key) (table : Table) : Bool :=
  (changeAt lists
    (fun inner => if (Datum.get? (lastName key) inner).isSome then none else some inner)
    key.dropLast table).isNone
    && (changeAt lists some key.dropLast table).isSome

/-- The entries of a table on one line, behind its brace. -/
def inlineTable (value : P Datum) : P Datum := do
  advance 1
  skip isBlank
  if (← peek 0) == some 0x7D then
    advance 1
    return .table []
  repeatStep (([], []) : Table × List Key) fun (table, frozen) => do
    let (key, value) ← entry value
    if isFrozen frozen key then refuse (.immutable key)
    if hasEntry false key table then refuse (.duplicate (lastName key))
    match addEntry false key value table with
    | none => refuse .overwritten
    | some table =>
        skip isBlank
        let c ← peek 0
        if c == some 0x7D then
          advance 1
          return .inr (.table table)
        else if c ≠ some 0x2C then refuse .unclosedTable
        else
          advance 1
          skip isBlank
          return .inl (table, if isContainer value then key :: frozen else frozen)

/-- A value that is neither a list nor a table. -/
def scalar : P Datum := do
  if ← looks "true" then
    advance 4
    return .bool true
  else if ← looks "false" then
    advance 5
    return .bool false
  else
    match ← moment? with
    | some value => return value
    | none =>
        match ← basedNumber? with
        | some value => return value
        | none =>
            match ← decimalNumber? with
            | some value => return value
            | none =>
                match ← specialNumber? with
                | some value => return value
                | none => refuse .invalidValue

/-- A value, with the steps that read a list and a table. -/
def valueWith (list table : P Datum) : P Datum := do
  match ← peek 0 with
  | some c =>
      if c = 0x22 then
        if ← looks "\"\"\"" then return .text (← multilineText false)
        else
          advance 1
          return .text (← basicText false)
      else if c = 0x27 then
        if ← looks "'''" then return .text (← multilineText true)
        else
          advance 1
          return .text (← literalText)
      else if c = 0x5B then list
      else if c = 0x7B then table
      else scalar
  | none => refuse .invalidValue

/-- A value that is read within this many calls. One of them is for the value itself, one more for a
list, and two more for a table and an entry of it. -/
def value : Nat → P Datum
  | 0 => refuse .tooDeep
  | 1 => valueWith (refuse .tooDeep) (refuse .tooDeep)
  | 2 => valueWith (listItems (value 0)) (refuse .tooDeep)
  | calls + 3 => valueWith (listItems (value (calls + 1))) (inlineTable (value calls))

/-! ## Statements -/

/-- A document as far as it has been read: its table, the key of the table that entries belong to,
the keys that no head may declare any more, the keys of values that cannot be changed, and the keys
that the next head will close. -/
structure Document where
  table : Table
  head : Key
  declared : List Key
  frozen : List Key
  pending : List Key

/-- Close the tables that entries opened since the last head. -/
def Document.settle (d : Document) : Document :=
  { d with declared := d.pending ++ d.declared, pending := [] }

/-- The head of a table. -/
def tableHead (d : Document) : P Document := do
  let d := d.settle
  advance 1
  skip isBlank
  let key ← key
  if d.declared.contains key || isFrozen d.frozen key then refuse (.declaredTwice key)
  match changeAt true some key d.table with
  | none => refuse .overwritten
  | some table =>
      if !(← looks "]") then refuse .tableEnd
      advance 1
      return { d with table, head := key, declared := key :: d.declared }

/-- Add an empty table to the list under a name. -/
def appendTable (name : Text) (table : Table) : Option Table :=
  match Datum.get? name table with
  | none => some (Datum.put name (.list [.table []]) table)
  | some (.list items) => some (Datum.put name (.list (items ++ [.table []])) table)
  | some _ => none

/-- The head of the next table of a list. What was said of the tables before does not hold for
it. -/
def listHead (d : Document) : P Document := do
  let d := d.settle
  advance 2
  skip isBlank
  let key ← key
  if isFrozen d.frozen key then refuse (.immutable key)
  let keep (path : Key) : Bool := !key.isPrefixOf path
  match changeAt true (appendTable (lastName key)) key.dropLast d.table with
  | none => refuse .overwritten
  | some table =>
      if !(← looks "]]") then refuse .arrayEnd
      advance 2
      let declared := key :: d.declared.filter keep
      return { d with table, head := key, declared, frozen := d.frozen.filter keep }

/-- The keys of the tables on the way to an entry, without the head. -/
def wayTo (head : Key) (key : Key) : List Key :=
  (List.range (key.length - 1)).map fun i => head ++ key.take (i + 1)

/-- An entry. -/
def entryStatement (d : Document) : P Document := do
  let (key, value) ← entry (value Datum.mostCalls)
  let way := wayTo d.head key
  match way.find? d.declared.contains with
  | some path => refuse (.redefined path)
  | none =>
      let parent := d.head ++ key.dropLast
      if isFrozen d.frozen parent then refuse (.immutable parent)
      let full := d.head ++ key
      if hasEntry true full d.table then refuse .overwritten
      match addEntry true full value d.table with
      | none => refuse .overwritten
      | some table =>
          let frozen := if isContainer value then full :: d.frozen else d.frozen
          return { d with table, pending := way ++ d.pending, frozen }

/-- The character may start a key. -/
def startsKey (c : CodePoint) : Bool :=
  isBareKey c || c = 0x22 || c = 0x27

/-- The statements of a document up to its end. -/
def document : P Table :=
  repeatStep (⟨[], [], [], [], []⟩ : Document) fun d => do
    skip isBlank
    match ← peek 0 with
    | none => return .inr d.table
    | some c =>
        if c = 0x0A then
          advance 1
          return .inl d
        let d ←
          if startsKey c then entryStatement d
          else if c = 0x5B then
            if ← looks "[[" then listHead d else tableHead d
          else if c = 0x23 then pure d
          else refuse .invalidStatement
        skip isBlank
        skipComment
        match ← peek 0 with
        | none => return .inr d.table
        | some c =>
            if c ≠ 0x0A then refuse .statementEnd
            advance 1
            return .inl d

/-- A carriage return before a line feed does not count. -/
def normalizeNewlines : Text → Text
  | 0x0D :: 0x0A :: rest => 0x0A :: normalizeNewlines rest
  | c :: rest => c :: normalizeNewlines rest
  | [] => []

/-- What stops the reading of a document: the text is none, for a reason in words, an integer in it
has too many digits, or values in it stand too deep within each other. -/
inductive Stop where
  | malformed (message : Text)
  | tooLong (digits : Nat)
  | tooDeep
deriving DecidableEq, Repr

/-- How a refusal stops the reading. -/
def Refusal.stop (source : Array CodePoint) (r : Refusal) : Stop :=
  match r.fault with
  | .tooLong digits => .tooLong digits
  | .tooDeep => .tooDeep
  | _ => .malformed (r.message source)

/-- Read a document. -/
def readText (t : Text) : Except Stop Table :=
  let source := (normalizeNewlines t).toArray
  match document.run source 0 with
  | .ok (table, _) => .ok table
  | .error r => .error (r.stop source)

end Toml

end StoryCatalog
