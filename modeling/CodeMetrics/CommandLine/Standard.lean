import CodeMetrics.CommandLine.Arguments
import CodeMetrics.Console.Drawing

/-!
# The usual frontend

What the program is started with where nothing else is said.

* `Frontend.standard` — command lines in words, and a terminal;
* `Runtime.standard` — a runtime with a stack of a thousand frames.
-/

namespace CodeMetrics

/-- Command lines in words, and a terminal. -/
def Frontend.standard : Frontend where
  read := Arguments.reading
  console := .terminal

/-- A runtime with a stack of a thousand frames, some of which are in use when settings are read or
values are shown. -/
def Runtime.standard : Runtime where
  tomlLevels := 980
  shownLevels := 980
  tomlReason _ := "it is not TOML"

end CodeMetrics
