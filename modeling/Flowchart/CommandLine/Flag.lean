/-!
The flags of the command line, and the texts that explain them.
-/

namespace Flowchart.CommandLine

/-- The flags. -/
inductive Flag where
  | help
  | direction
  | nodeSpacing
  | rankSpacing
  | noOverlap
  | parseOnly
  | stats
  | indent
deriving Repr, Inhabited, DecidableEq

namespace Flag

/-- Every spelling of a flag, in the order in which flags are declared. -/
def spellings : List (String × Flag) :=
  [("-h", help), ("--help", help), ("--direction", direction), ("--node-spacing", nodeSpacing),
    ("--rank-spacing", rankSpacing), ("--no-overlap", noOverlap), ("--parse-only", parseOnly),
    ("--stats", stats), ("--indent", indent)]

/-- All spellings of a flag. -/
def name (flag : Flag) : String :=
  String.intercalate "/" ((spellings.filter fun entry => entry.2 == flag).map Prod.fst)

/-- Whether a value follows a flag. -/
def takesValue : Flag → Bool
  | direction | nodeSpacing | rankSpacing | indent => true
  | help | noOverlap | parseOnly | stats => false

end Flag

/-! ### Texts -/

/-- The name of the program. -/
def programName : String := "flowgraph"

/-- How the program is called. -/
def usage : String :=
  "usage: flowgraph [-h] [--direction DIRECTION] [--node-spacing NODE_SPACING]\n" ++
  "                 [--rank-spacing RANK_SPACING] [--no-overlap] [--parse-only]\n" ++
  "                 [--stats] [--indent INDENT]\n" ++
  "                 [file]\n"

/-- The help page. -/
def helpPage : String :=
  usage ++ "\n" ++
  "Compile flowchart text into a positioned node/edge graph (JSON).\n" ++
  "\n" ++
  "positional arguments:\n" ++
  "  file                  Diagram file, or '-' for stdin\n" ++
  "\n" ++
  "options:\n" ++
  "  -h, --help            show this help message and exit\n" ++
  "  --direction DIRECTION\n" ++
  "                        Layout direction: TB, TD, BT, LR or RL\n" ++
  "  --node-spacing NODE_SPACING\n" ++
  "                        Spacing between nodes in a rank\n" ++
  "  --rank-spacing RANK_SPACING\n" ++
  "                        Spacing between ranks\n" ++
  "  --no-overlap          Skip the overlap resolver on flat layouts\n" ++
  "  --parse-only          Emit the graph without layout\n" ++
  "  --stats               Include layout diagnostics\n" ++
  "  --indent INDENT       JSON indent (0 for compact)\n"

end Flowchart.CommandLine
