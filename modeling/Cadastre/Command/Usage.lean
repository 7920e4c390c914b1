import Cadastre.Command.Arguments

/-!
What the program says about itself.
-/

namespace Cadastre.Usage

def version : String := "tessera 0.1.0"

def lines : List String :=
  ["Publish grid partitions to storage and an on-chain registry",
    "",
    "Usage: tessera [OPTIONS] <COMMAND>",
    "",
    "Commands:",
    "  upload                Upload pending items of a partition",
    "  sync                  Write uploaded items of a partition to its registry",
    "  publish               Upload, then sync",
    "  status                Show progress of one partition, or of every cached partition",
    "  generate-permutation  Turn a partition walk (x y per line) into a permutation table",
    "  help                  Print this message",
    "",
    "Options:",
    "      --config <FILE>      Settings file [default: tessera.toml]",
    "      --row <ROW>          Partition row, with --col",
    "      --col <COLUMN>       Partition column, with --row",
    "  -n, --neighborhood <N>   Partition number, row by row",
    "      --json               Print the window report as JSON (sync, publish)",
    "      --path <FILE>        Walk to read (generate-permutation)",
    "      --width <CELLS>      Partition width [default: grid.partition_width]",
    "  -o, --output <FILE>      Where to write the table (generate-permutation)",
    "  -h, --help               Print help",
    "  -V, --version            Print version"]

def misuse : List String :=
  ["error: the command line cannot be understood", "", "For more information, try '--help'."]

end Cadastre.Usage
