import RecordProjection.Command.ArgumentFault

/-!
The help on the command line.
-/

namespace RecordProjection.Command

def helpLines : List String :=
  [s!"usage: {programName} [-h] [--input INPUT] [--output-dir OUTPUT_DIR]",
    "                     [--record RECORD [RECORD ...]]",
    "                     [--list-records | --info INFO] [--filter FILTER]",
    "",
    "Generate projection records from annotated source records",
    "",
    "options:",
    "  -h, --help            show this help message and exit",
    "  --input INPUT",
    "  --output-dir OUTPUT_DIR",
    "  --record RECORD [RECORD ...]",
    "  --list-records",
    "  --info INFO",
    "  --filter FILTER"]

def helpText : String := String.join (helpLines.map fun line => line ++ "\n")

end RecordProjection.Command
