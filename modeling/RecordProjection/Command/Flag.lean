/-!
The flags of the command line, how each may be spelled, and how many values it takes.
-/

namespace RecordProjection.Command

inductive Flag
  | help
  | input
  | outputDirectory
  | record
  | listRecords
  | info
  | filter
deriving DecidableEq, Repr

inductive Arity
  | none
  | one
  | oneOrMore
deriving DecidableEq, Repr

namespace Flag

def spellings : List (String × Flag) :=
  [("-h", help), ("--help", help), ("--input", input), ("--output-dir", outputDirectory),
    ("--record", record), ("--list-records", listRecords), ("--info", info), ("--filter", filter)]

def ofSpelling? (text : List Char) : Option Flag := spellings.lookup (String.ofList text)

def name (flag : Flag) : String :=
  String.intercalate "/" ((spellings.filter fun entry => entry.2 = flag).map Prod.fst)

def arity : Flag → Arity
  | help => .none
  | input => .one
  | outputDirectory => .one
  | record => .oneOrMore
  | listRecords => .none
  | info => .one
  | filter => .one

def rivals : Flag → List Flag
  | listRecords => [info]
  | info => [listRecords]
  | _ => []

end Flag

end RecordProjection.Command
